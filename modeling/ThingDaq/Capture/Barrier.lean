import ThingDaq.Lib.Join

/-!
# What the paired capture rings share

`PairCaptureRing` (`firmware/src/adc_dma_capture.cpp`) and `DualBankCaptureRing`
(`firmware/src/gpio_dual_bank_capture.cpp`) are two instances of one join
barrier.  The members and the private functions they have in common are here,
over the number of buffers `n`, the number of generation slots `m` and whatever
else a ring keeps in a slot.

Every function comes with the moves of the barrier it makes.
-/

set_option linter.unusedSectionVars false

namespace ThingDaq.Capture

open Table Ring Join

abbrev u64Max : ℕ := 2 ^ 64 - 1
abbrev u32Max : ℕ := 2 ^ 32 - 1

/-- The members of a ring that decide who owns a buffer. -/
structure Barrier (ε : Type) extends Core ε where
  nextLease : UInt32 := 1
  nextFreeSearch : ℕ := 0

variable {ε δ : Type} [Inhabited ε]

namespace Barrier

def findGeneration (m : ℕ) (b : Barrier ε) (generation : UInt32) : Option ℕ :=
  (List.range m).find? fun j => (b.slots j).valid && (b.slots j).generation == generation

def markOutstandingInvalid (b : Barrier ε) : Barrier ε :=
  { b with slots := fun j => { b.slots j with
      invalidData := (b.slots j).invalidData || (b.slots j).valid } }

/-- Mark one slot and replace the rest of what it keeps. -/
def markSlot (b : Barrier ε) (j : ℕ) (e : ε) : Barrier ε :=
  { b with slots := Function.update b.slots j { b.slots j with invalidData := true, extra := e } }

def takeFreeBuffer (n : ℕ) (b : Barrier ε) (generation : UInt32) (first : ℕ) : Barrier ε × ℕ :=
  match searchFrom n b.nextFreeSearch fun i => decide ((b.records i).state = .free) with
  | some candidate =>
    ({ b with
        records := Function.update b.records candidate ⟨.dmaOwned, b.epoch, generation, first, 0⟩
        nextFreeSearch := (candidate + 1) % n }, candidate)
  | none => (b, n)

/-- `scheduleGeneration`.  `advance` is the position after the next block, if the
ring may schedule it at all, and `renew` what it does to the rest of the slot.
The flag says that the generation was not the next one. -/
def scheduleGeneration (n m : ℕ) (advance : ℕ → Option ℕ) (renew : ε → ε) (b : Barrier ε)
    (generation : UInt32) : Barrier ε × Option ℕ × Bool :=
  match b.findGeneration m generation with
  | some j => (b, some j, false)
  | none =>
    if generation ≠ b.nextSchedule then (b, none, true)
    else match (List.range m).find? fun j => !(b.slots j).valid with
    | none => (b, none, false)
    | some j =>
      match advance b.nextFirst with
      | none => (b, none, false)
      | some nextFirst =>
        let taken := b.takeFreeBuffer n generation b.nextFirst
        ({ taken.1 with
            slots := Function.update taken.1.slots j
              ⟨b.nextFirst, generation, taken.2, 0, true, false, renew (b.slots j).extra⟩
            nextSchedule := generation + 1
            nextFirst := nextFirst }, some j, false)

def countState (n : ℕ) (b : Barrier ε) (state : BufferState) : ℕ :=
  countTo n fun i => decide ((b.records i).state = state)

def allBuffersFree (n : ℕ) (b : Barrier ε) : Bool :=
  (List.range n).all fun i => decide ((b.records i).state = .free)

/-- The oldest ready buffer becomes the consumer's. -/
def lease (n : ℕ) (b : Barrier ε) : Option (ℕ × Barrier ε) :=
  match oldest n u64Max (fun i => decide ((b.records i).state = .ready))
      (fun i => (b.records i).first) with
  | none => none
  | some selected =>
    some (selected, { b with
      records := Function.update b.records selected { b.records selected with
        state := .reading, lease := (allocateLease b.nextLease).1 }
      nextLease := (allocateLease b.nextLease).2 })

def setState (b : Barrier ε) (i : ℕ) (state : BufferState) : Barrier ε :=
  { b with records := Function.update b.records i { b.records i with state := state } }

def clear (b : Barrier ε) (i : ℕ) : Barrier ε :=
  { b with records := Function.update b.records i {} }

/-- The first critical section of one round of `serviceDiscarded`: the buffer it
selects. -/
def selectDiscarded (n : ℕ) (b : Barrier ε) : Option ℕ :=
  (List.range n).find? fun i => decide ((b.records i).state = .discardPending)

/-! ### Searches -/

theorem findGeneration_some {m : ℕ} {b : Barrier ε} {generation : UInt32} {j : ℕ}
    (h : b.findGeneration m generation = some j) :
    j < m ∧ (b.slots j).valid = true ∧ (b.slots j).generation = generation := by
  have hmem := List.mem_of_find?_eq_some h
  have hprop := List.find?_some h
  simp only [Bool.and_eq_true, beq_iff_eq] at hprop
  exact ⟨List.mem_range.mp hmem, hprop.1, hprop.2⟩

theorem findGeneration_none {m : ℕ} {b : Barrier ε} {generation : UInt32}
    (h : b.findGeneration m generation = none) :
    ∀ j < m, (b.slots j).valid = true → (b.slots j).generation ≠ generation := by
  intro j hj hv
  have := List.find?_eq_none.mp h j (List.mem_range.mpr hj)
  simpa [hv] using this

theorem allBuffersFree_iff {n : ℕ} {b : Barrier ε} :
    b.allBuffersFree n = true ↔ ∀ i < n, (b.records i).state = .free := by
  simp [allBuffersFree]

theorem selectDiscarded_some {n : ℕ} {b : Barrier ε} {i : ℕ} (h : b.selectDiscarded n = some i) :
    i < n ∧ (b.records i).state = .discardPending := by
  have hprop := List.find?_some h
  exact ⟨List.mem_range.mp (List.mem_of_find?_eq_some h), of_decide_eq_true hprop⟩

theorem takeFreeBuffer_cases (n : ℕ) (b : Barrier ε) (generation : UInt32) (first : ℕ) :
    (∃ i < n, (b.records i).state = .free ∧ b.takeFreeBuffer n generation first =
      ({ b with
          records := Function.update b.records i ⟨.dmaOwned, b.epoch, generation, first, 0⟩
          nextFreeSearch := (i + 1) % n }, i)) ∨
    ((∀ i < n, (b.records i).state ≠ .free) ∧ b.takeFreeBuffer n generation first = (b, n)) := by
  unfold takeFreeBuffer
  cases hsearch : searchFrom n b.nextFreeSearch
      fun i => decide ((b.records i).state = .free) with
  | some i =>
    obtain ⟨hi, hfree⟩ := searchFrom_some hsearch
    exact Or.inl ⟨i, hi, of_decide_eq_true hfree, rfl⟩
  | none =>
    refine Or.inr ⟨fun i hi => ?_, rfl⟩
    exact of_decide_eq_false (searchFrom_none hsearch i hi)

theorem lease_cases (n : ℕ) (b : Barrier ε) : b.lease n = none ∨
    ∃ i < n, (b.records i).state = .ready ∧ (b.records i).first < u64Max ∧
      (∀ k < n, (b.records k).state = .ready → (b.records i).first ≤ (b.records k).first) ∧
      b.lease n = some (i, { b with
        toCore := b.toCore.acquire i (allocateLease b.nextLease).1
        nextLease := (allocateLease b.nextLease).2 }) := by
  unfold lease
  cases hold : oldest n u64Max (fun i => decide ((b.records i).state = .ready))
      (fun i => (b.records i).first) with
  | none => exact Or.inl rfl
  | some i =>
    obtain ⟨hi, hready, hmax, hmin⟩ := oldest_some hold
    exact Or.inr ⟨i, hi, of_decide_eq_true hready, hmax,
      fun k hk hs => hmin k hk (decide_eq_true hs), rfl⟩

/-! ### Moves -/

theorem markOutstandingInvalid_core (b : Barrier ε) : b.markOutstandingInvalid.toCore =
    { b.toCore with
      slots := b.toCore.marked (fun j => (b.slots j).valid) fun j => (b.slots j).extra } := rfl

theorem markSlot_core (b : Barrier ε) (j : ℕ) (e : ε) : (b.markSlot j e).toCore =
    { b.toCore with
      slots := b.toCore.marked (fun k => decide (k = j))
        fun k => if k = j then e else (b.slots k).extra } := by
  have hslots : (b.markSlot j e).slots = b.toCore.marked (fun k => decide (k = j))
      fun k => if k = j then e else (b.slots k).extra := by
    funext k
    by_cases hk : k = j
    · subst hk
      simp [markSlot, Core.marked]
    · simp [markSlot, Core.marked, hk]
  rw [← hslots]
  rfl

/-- Only marks and what a ring keeps beside them changed in the slots. -/
def Marks (b b' : Barrier ε) : Prop :=
  ∃ P E, b'.toCore = { b.toCore with slots := b.toCore.marked P E }

namespace Marks

variable {b b' b'' : Barrier ε}

theorem of_core (hcore : b'.toCore = b.toCore) : Marks b b' := by
  refine ⟨fun _ => false, fun j => (b.slots j).extra, ?_⟩
  have hnone : b.toCore.marked (fun _ => false) (fun j => (b.slots j).extra) = b.slots := by
    funext j
    simp [Core.marked]
  rw [hnone, hcore]

theorem trans (h : Marks b b') (h' : Marks b' b'') : Marks b b'' := by
  obtain ⟨P, E, hcore⟩ := h
  obtain ⟨P', E', hcore'⟩ := h'
  refine ⟨fun j => P j || P' j, E', ?_⟩
  rw [hcore', hcore]
  unfold Core.marked
  simp only [Bool.or_assoc]

/-- What marks leave alone in a slot. -/
theorem slot (h : Marks b b') (k : ℕ) :
    (b'.slots k).valid = (b.slots k).valid ∧ (b'.slots k).generation = (b.slots k).generation ∧
      (b'.slots k).destination = (b.slots k).destination ∧
      (b'.slots k).completionMask = (b.slots k).completionMask ∧
      (b'.slots k).first = (b.slots k).first ∧
      ((b.slots k).invalidData = true → (b'.slots k).invalidData = true) := by
  obtain ⟨P, E, hcore⟩ := h
  rw [hcore]
  refine ⟨rfl, rfl, rfl, rfl, rfl, fun hi => ?_⟩
  simp [Core.marked, hi]

theorem same (h : Marks b b') : b'.running = b.running ∧ b'.epoch = b.epoch ∧
    b'.nextCompletion = b.nextCompletion ∧ b'.nextFirst = b.nextFirst ∧ b'.records = b.records := by
  obtain ⟨P, E, hcore⟩ := h
  rw [hcore]
  exact ⟨rfl, rfl, rfl, rfl, rfl⟩

theorem settled {m : ℕ} (h : Marks b b') (hset : b.toCore.Settled m) : b'.toCore.Settled m := by
  intro k hk hv
  rw [(h.slot k).2.2.2.1]
  exact hset k hk ((h.slot k).1 ▸ hv)

theorem findGeneration (h : Marks b b') (m : ℕ) (generation : UInt32) :
    b'.findGeneration m generation = b.findGeneration m generation := by
  unfold Barrier.findGeneration
  congr 1
  funext k
  rw [(h.slot k).1, (h.slot k).2.1]

theorem move (h : Marks b b') (n m : ℕ) (strict : Bool) (g : Ghost δ) :
    Move n m u64Max strict ⟨b.toCore, g⟩ ⟨b'.toCore, g⟩ := by
  obtain ⟨P, E, hcore⟩ := h
  rw [hcore]
  exact Move.mark P E

end Marks

theorem markOutstandingInvalid_marks (b : Barrier ε) : Marks b b.markOutstandingInvalid :=
  ⟨_, _, b.markOutstandingInvalid_core⟩

theorem markSlot_marks (b : Barrier ε) (j : ℕ) (e : ε) : Marks b (b.markSlot j e) :=
  ⟨_, _, b.markSlot_core j e⟩

theorem markSlot_invalid (b : Barrier ε) (j : ℕ) (e : ε) :
    ((b.markSlot j e).slots j).invalidData = true := by
  simp [markSlot]

/-- Histories that differ in what was scheduled at most. -/
structure Alike (g g' : Ghost δ) : Prop where
  done : g'.done = g.done
  failed : g'.failed = g.failed
  delivered : g'.delivered = g.delivered
  held : g'.held = g.held
  first : g'.first = g.first
  width : g'.width = g.width
  expects : g'.expects = g.expects

theorem Alike.refl (g : Ghost δ) : Alike g g := ⟨rfl, rfl, rfl, rfl, rfl, rfl, rfl⟩

/-- The slot a barrier gives to the next generation. -/
def scheduled (n : ℕ) (b : Barrier ε) (j d : ℕ) (e : ε) (search nextFirst : ℕ) : Barrier ε :=
  { b with
    toCore := b.toCore.schedule n j d e nextFirst
    nextFreeSearch := search }

/-- Scheduling a generation does nothing, or gives it a slot that was empty. -/
theorem scheduleGeneration_cases (n m : ℕ) (advance : ℕ → Option ℕ) (renew : ε → ε)
    (b : Barrier ε) (generation : UInt32) :
    (b.scheduleGeneration n m advance renew generation).1 = b ∨
    ∃ j d s nf, j < m ∧ (b.slots j).valid = false ∧ generation = b.nextSchedule ∧
      (∀ k < m, (b.slots k).valid = true → (b.slots k).generation ≠ b.nextSchedule) ∧
      advance b.nextFirst = some nf ∧ (d = n ∨ d < n ∧ (b.records d).state = .free) ∧
      (b.scheduleGeneration n m advance renew generation).1 =
        b.scheduled n j d (renew (b.slots j).extra) s nf := by
  unfold scheduleGeneration
  cases hfind : b.findGeneration m generation with
  | some j => exact Or.inl rfl
  | none =>
    dsimp only
    by_cases hgen : generation = b.nextSchedule
    swap
    · rw [if_pos hgen]
      exact Or.inl rfl
    rw [if_neg (by simp [hgen])]
    cases hfree : (List.range m).find? fun j => !(b.slots j).valid with
    | none => exact Or.inl rfl
    | some j =>
      have hj := List.mem_range.mp (List.mem_of_find?_eq_some hfree)
      have hslot : (b.slots j).valid = false := by simpa using List.find?_some hfree
      cases hnext : advance b.nextFirst with
      | none => exact Or.inl rfl
      | some nf =>
        refine Or.inr ?_
        dsimp only
        have hnew := findGeneration_none hfind
        subst hgen
        rcases takeFreeBuffer_cases n b b.nextSchedule b.nextFirst with
          ⟨d, hd, hs, htake⟩ | ⟨-, htake⟩
        · refine ⟨j, d, (d + 1) % n, nf, hj, hslot, rfl, hnew, rfl, Or.inr ⟨hd, hs⟩, ?_⟩
          rw [htake]
          simp only [scheduled, Core.schedule, hd, if_true]
        · refine ⟨j, n, b.nextFreeSearch, nf, hj, hslot, rfl, hnew, rfl, Or.inl rfl, ?_⟩
          rw [htake]
          simp only [scheduled, Core.schedule, Nat.lt_irrefl, if_false]

/-- What scheduling leaves alone. -/
structure Frame (m : ℕ) (b b' : Barrier ε) : Prop where
  running : b'.running = b.running
  epoch : b'.epoch = b.epoch
  nextCompletion : b'.nextCompletion = b.nextCompletion
  slots : ∀ k < m, (b.slots k).valid = true → b'.slots k = b.slots k
  fresh : ∀ k < m, (b'.slots k).valid = true →
    b'.slots k = b.slots k ∨ (b'.slots k).completionMask = 0

theorem scheduleGeneration_moves {n m : ℕ} (advance : ℕ → Option ℕ) (renew : ε → ε)
    {b : Barrier ε} {g : Ghost δ} (strict : Bool) (generation : UInt32) (hrun : b.running = true)
    (hadvance : ∀ nf, advance b.nextFirst = some nf → nf = g.position u64Max (g.scheduled + 1)) :
    ∃ g', Moves n m u64Max strict ⟨b.toCore, g⟩
        ⟨(b.scheduleGeneration n m advance renew generation).1.toCore, g'⟩ ∧ Alike g g' ∧
      Frame m b (b.scheduleGeneration n m advance renew generation).1 := by
  rcases scheduleGeneration_cases n m advance renew b generation with
    hsame | ⟨j, d, s, nf, hj, hslot, -, hnew, hnf, hdest, hout⟩
  · rw [hsame]
    exact ⟨g, Moves.refl _, Alike.refl g, rfl, rfl, rfl, fun _ _ _ => rfl, fun _ _ _ => Or.inl rfl⟩
  · rw [hout, hadvance nf hnf]
    have hmove : Move n m u64Max strict ⟨b.toCore, g⟩
        ⟨b.toCore.schedule n j d (renew (b.slots j).extra) (g.position u64Max (g.scheduled + 1)),
          g.schedule n j d⟩ := Move.schedule _ hrun hj hslot hnew hdest
    refine ⟨g.schedule n j d, (Moves.refl _).tail hmove, ⟨rfl, rfl, rfl, rfl, rfl, rfl, rfl⟩, rfl, rfl, rfl,
      ?_, ?_⟩
    · intro k _ hv
      have hne : k ≠ j := by
        rintro rfl
        rw [hslot] at hv
        cases hv
      exact Function.update_of_ne hne _ _
    · intro k _ _
      by_cases hk : k = j
      · subst hk
        exact Or.inr (by simp [scheduled, Core.schedule])
      · exact Or.inl (Function.update_of_ne hk _ _)

/-- With an empty slot and a free buffer the next generation is scheduled. -/
theorem scheduleGeneration_grants {n m : ℕ} {advance : ℕ → Option ℕ} (renew : ε → ε)
    {b : Barrier ε} {nf k i : ℕ}
    (hnew : ∀ j < m, (b.slots j).valid = true → (b.slots j).generation ≠ b.nextSchedule)
    (hk : k < m) (hslot : (b.slots k).valid = false) (hi : i < n)
    (hfree : (b.records i).state = .free) (hnf : advance b.nextFirst = some nf) :
    ∃ j d s, j < m ∧ (b.slots j).valid = false ∧ d < n ∧ (b.records d).state = .free ∧
      b.scheduleGeneration n m advance renew b.nextSchedule =
        (b.scheduled n j d (renew (b.slots j).extra) s nf, some j, false) := by
  unfold scheduleGeneration
  have hfind : b.findGeneration m b.nextSchedule = none := by
    refine List.find?_eq_none.mpr fun j hj => ?_
    by_cases hv : (b.slots j).valid = true
    · simp [hv, hnew j (List.mem_range.mp hj) hv]
    · simp [hv]
  rw [hfind]
  dsimp only
  rw [if_neg (by simp)]
  cases hempty : (List.range m).find? fun j => !(b.slots j).valid with
  | none =>
    have := List.find?_eq_none.mp hempty k (List.mem_range.mpr hk)
    simp [hslot] at this
  | some j =>
    have hj := List.mem_range.mp (List.mem_of_find?_eq_some hempty)
    have hoff : (b.slots j).valid = false := by simpa using List.find?_some hempty
    rw [hnf]
    dsimp only
    rcases takeFreeBuffer_cases n b b.nextSchedule b.nextFirst with ⟨d, hd, hs, htake⟩ | ⟨hnone, -⟩
    · refine ⟨j, d, (d + 1) % n, hj, hoff, hd, hs, ?_⟩
      rw [htake]
      simp only [scheduled, Core.schedule, hd, if_true]
    · exact absurd hfree (hnone i hi)

/-- An empty barrier schedules its first two generations into two buffers. -/
theorem scheduleGeneration_two {n m : ℕ} (advance : ℕ → Option ℕ) (renew : ε → ε) {b : Barrier ε}
    {nf nf' : ℕ} (hn : 2 ≤ n) (hm : 2 ≤ m) (hempty : ∀ j < m, (b.slots j).valid = false)
    (hfree : ∀ i < n, (b.records i).state = .free) (hnf : advance b.nextFirst = some nf)
    (hnf' : advance nf = some nf') :
    ∃ active queued a q, b.scheduleGeneration n m advance renew b.nextSchedule =
        (active, some a, false) ∧
      active.scheduleGeneration n m advance renew (b.nextSchedule + 1) = (queued, some q, false) ∧
      active.running = b.running ∧
      (queued.slots a).destination < n ∧ (queued.slots q).destination < n ∧
      (queued.slots a).destination ≠ (queued.slots q).destination := by
  obtain ⟨a, d, s, ha, -, hd, -, hactive⟩ := scheduleGeneration_grants (n := n) (m := m) (b := b)
    (k := 0) (i := 0) renew (fun j hj hv => by rw [hempty j hj] at hv; cases hv) (by omega) (hempty 0 (by omega))
    (by omega) (hfree 0 (by omega)) hnf
  -- Another slot and another buffer remain.
  have hother : ∀ x, ∃ y < 2, y ≠ x := fun x =>
    if h : x = 0 then ⟨1, by decide, by omega⟩ else ⟨0, by decide, Ne.symm h⟩
  obtain ⟨k, hk, hka⟩ := hother a
  obtain ⟨i, hi, hid⟩ := hother d
  have hslots : ∀ j, j ≠ a → (b.scheduled n a d (renew (b.slots a).extra) s nf).slots j = b.slots j :=
    fun j hj => Function.update_of_ne hj _ _
  have hrecords : ∀ j, j ≠ d →
      (b.scheduled n a d (renew (b.slots a).extra) s nf).records j = b.records j := by
    intro j hj
    simp only [scheduled, Core.schedule, hd, if_true]
    exact Function.update_of_ne hj _ _
  have hnew : ∀ j < m,
      ((b.scheduled n a d (renew (b.slots a).extra) s nf).slots j).valid = true →
        ((b.scheduled n a d (renew (b.slots a).extra) s nf).slots j).generation ≠
          (b.scheduled n a d (renew (b.slots a).extra) s nf).nextSchedule := by
    intro j hj hv
    by_cases hja : j = a
    · subst hja
      simp [scheduled, Core.schedule]
    · rw [hslots j hja, hempty j hj] at hv
      cases hv
  obtain ⟨q, e, t, hq, hqoff, he, hefree, hqueued⟩ := scheduleGeneration_grants (n := n) (m := m)
    (b := b.scheduled n a d (renew (b.slots a).extra) s nf) (k := k) (i := i) renew hnew (by omega)
    (by rw [hslots k hka]; exact hempty k (by omega)) (by omega)
    (by rw [hrecords i hid]; exact hfree i (by omega)) hnf'
  have hqa : q ≠ a := by
    rintro rfl
    simp [scheduled, Core.schedule] at hqoff
  have hed : e ≠ d := by
    rintro rfl
    simp [scheduled, Core.schedule, hd] at hefree
  refine ⟨_, _, a, q, hactive, hqueued, rfl, ?_, ?_, ?_⟩
  · simpa [scheduled, Core.schedule, Ne.symm hqa] using hd
  · simpa [scheduled, Core.schedule] using he
  · simp only [scheduled, Core.schedule, Function.update_self, Function.update_of_ne (Ne.symm hqa)]
    exact Ne.symm hed

/-- Slot `j` is done with: its buffer is published, if nothing speaks against it,
or awaits its discard. -/
def Finalizes (n j : ℕ) (b b' : Barrier ε) : Prop :=
  b'.toCore = b.toCore.settle n j .discardPending ∨
    (b.slots j).invalidData = false ∧ (b.slots j).destination < n ∧
      b'.toCore = b.toCore.settle n j .ready

theorem Finalizes.slots {n j : ℕ} {b b' : Barrier ε} (h : Finalizes n j b b') :
    b'.slots = Function.update b.slots j GenerationSlot.empty := by
  rcases h with hcore | ⟨-, -, hcore⟩ <;> rw [hcore] <;> rfl

theorem Finalizes.move {n m j : ℕ} {b b' : Barrier ε} (h : Finalizes n j b b') (strict : Bool)
    (g : Ghost δ) (hj : j < m) (hvalid : (b.slots j).valid = true)
    (hmask : (b.slots j).completionMask = 3) :
    Move n m u64Max strict ⟨b.toCore, g⟩ ⟨b'.toCore, g⟩ := by
  rcases h with hcore | ⟨hclean, hdest, hcore⟩ <;> rw [hcore]
  · exact Move.lose hj hvalid hmask
  · exact Move.publish hj hvalid hmask hclean hdest

/-- What scheduling keeps unfinished. -/
theorem Frame.settled {m : ℕ} {b b' : Barrier ε} (h : Frame m b b') (hset : b.toCore.Settled m) :
    b'.toCore.Settled m := by
  intro k hk hv
  rcases h.fresh k hk hv with hsame | hzero
  · rw [hsame] at hv ⊢
    exact hset k hk hv
  · rw [hzero]
    decide

end Barrier

/-! ### Observed behaviour -/

/-- What an observer of the callbacks, the leases and the returns knows since the
last `prime`.  `done ch` are the completions of channel `ch` that the ring
consumed, `failed ch` the generations it was at when an error was recorded. -/
structure Observed (δ : Type) where
  first : ℕ := 0
  width : ℕ := 1
  done : ℕ → List δ := fun _ => []
  failed : ℕ → List ℕ := fun _ => []
  acquired : List ℕ := []
  held : List ℕ := []

namespace Observed

def report (o : Observed δ) (ch : ℕ) (x : δ) : Observed δ :=
  { o with done := Function.update o.done ch (o.done ch ++ [x]) }

def fail (o : Observed δ) (ch : ℕ) : Observed δ :=
  { o with failed := Function.update o.failed ch (o.failed ch ++ [(o.done ch).length]) }

def lend (o : Observed δ) (i position : ℕ) : Observed δ :=
  { o with acquired := o.acquired ++ [position], held := o.held ++ [i] }

def takeBack (o : Observed δ) (i : ℕ) : Observed δ := { o with held := o.held.filter (· ≠ i) }

end Observed

/-- A history that an observer saw. -/
structure Matches (expects : ℕ → ℕ → δ) (g : Ghost δ) (o : Observed δ) : Prop where
  first : g.first = o.first
  width : g.width = o.width
  expects : g.expects = expects
  done : g.done = o.done
  failed : g.failed = o.failed
  held : g.held = o.held
  acquired : g.delivered.map (stamp u64Max o.first o.width) = o.acquired
  below : ∀ p ∈ o.acquired, p < u64Max

/-- A ring whose observed behaviour is that of a join barrier. -/
structure Good (n m : ℕ) (strict : Bool) (expects : ℕ → ℕ → δ) (b : Barrier ε) (o : Observed δ) :
    Prop where
  settled : b.toCore.Settled m
  history : ∃ g : Ghost δ, Inv n m u64Max ⟨b.toCore, g⟩ ∧ Held n ⟨b.toCore, g⟩ ∧
    (strict = true → Tight n m ⟨b.toCore, g⟩) ∧ Matches expects g o

namespace Good

variable {n m : ℕ} {strict : Bool} {expects : ℕ → ℕ → δ} {b b' : Barrier ε} {o o' : Observed δ}

/-- A ring that was never primed. -/
theorem initial {width : ℕ} (hwidth : 0 < width) (hfree : ∀ i < n, (b.records i).state = .free)
    (hcore : (b.toCore.primed 0 0 0).halt n m = b.toCore) :
    Good n m strict expects b { width := width } := by
  have hinv : Inv n m u64Max ⟨b.toCore, Ghost.start 0 0 width expects⟩ := by
    rw [← hcore]
    exact (Inv.prime 0 0 width expects hfree (Nat.zero_le _)).halt
  refine ⟨?_, Ghost.start 0 0 width expects, hinv, ?_, ?_, ?_⟩
  · intro j hj hv
    rw [← hcore, Inv.halt_slots _ hj] at hv
    cases hv
  · intro i hi
    cases hi
  · intro _
    rw [← hcore]
    exact (Tight.prime 0 0 0 expects hfree hwidth).halt
  · exact ⟨rfl, rfl, rfl, rfl, rfl, rfl, rfl, fun _ hp => by cases hp⟩

/-- Moves that an observer saw. -/
theorem advance {g : Ghost δ} (g' : Ghost δ) (hinv : Inv n m u64Max ⟨b.toCore, g⟩) (hheld : Held n ⟨b.toCore, g⟩)
    (htight : strict = true → Tight n m ⟨b.toCore, g⟩) (hm : m < 2 ^ 31)
    (hmoves : Moves n m u64Max strict ⟨b.toCore, g⟩ ⟨b'.toCore, g'⟩) (hset : b'.toCore.Settled m)
    (hmatch : Matches expects g' o') : Good n m strict expects b' o' := by
  refine ⟨hset, g', hinv.moves hmoves, hheld.moves hinv hmoves, ?_, hmatch⟩
  rintro rfl
  exact (htight rfl).moves hinv hm hmoves

theorem mark (h : Good n m strict expects b o) (hm : m < 2 ^ 31) (hmarks : Barrier.Marks b b') :
    Good n m strict expects b' o := by
  obtain ⟨g, hinv, hheld, htight, hmatch⟩ := h.history
  exact Good.advance _ hinv hheld htight hm ((Moves.refl _).tail (hmarks.move n m strict g))
    (hmarks.settled h.settled) hmatch

/-- An error of a channel marks the generation it is at. -/
theorem fail (ch : ℕ) (h : Good n m strict expects b o) (hm : m < 2 ^ 31) (hrun : b.running = true)
    (hch : ch < 2) (hmarks : Barrier.Marks b b')
    (hhit : ∀ j < m, (b.slots j).valid = true → (b.slots j).generation = b.nextCompletion ch →
      (b'.slots j).invalidData = true)
    (hfound : strict = true → (b.findGeneration m (b.nextCompletion ch)).isSome) :
    Good n m strict expects b' (o.fail ch) := by
  obtain ⟨g, hinv, hheld, htight, hmatch⟩ := h.history
  refine Good.advance (g.fail ch) hinv hheld htight hm
    (((Moves.refl _).tail (hmarks.move n m strict g)).tail
      (Move.fail (hmarks.same.1.trans hrun) hch (hmarks.settled h.settled) ?_ ?_))
    (hmarks.settled h.settled) ?_
  · intro j hj hv hgen
    rw [(hmarks.slot j).1] at hv
    rw [(hmarks.slot j).2.1, hmarks.same.2.2.1] at hgen
    exact hhit j hj hv hgen
  · intro hstrict
    obtain ⟨j, hj⟩ := Option.isSome_iff_exists.mp (hfound hstrict)
    obtain ⟨hlt, hv, hgen⟩ := Barrier.findGeneration_some hj
    refine ⟨j, hlt, ?_, ?_⟩
    · rw [(hmarks.slot j).1]
      exact hv
    · rw [(hmarks.slot j).2.1, hmarks.same.2.2.1]
      exact hgen
  · refine ⟨hmatch.first, hmatch.width, hmatch.expects, hmatch.done, ?_, hmatch.held, hmatch.acquired,
      hmatch.below⟩
    simp only [Ghost.fail, Observed.fail, Ghost.count, hmatch.done, hmatch.failed]

/-- A completion that finds no slot. -/
theorem skip (h : Good n m false expects b o) (hm : m < 2 ^ 31) (ch : ℕ) (x : δ)
    (hcore : b'.toCore = b.toCore.skip ch) : Good n m false expects b' (o.report ch x) := by
  obtain ⟨g, hinv, hheld, htight, hmatch⟩ := h.history
  refine Good.advance (g.report ch x) hinv hheld htight hm ?_ ?_ ?_
  · rw [hcore]
    exact (Moves.refl _).tail (Move.skip x rfl)
  · rw [hcore]
    exact h.settled
  · refine ⟨hmatch.first, hmatch.width, hmatch.expects, ?_, hmatch.failed, hmatch.held,
      hmatch.acquired, hmatch.below⟩
    simp only [Ghost.report, Observed.report, hmatch.done]

/-- The next position of a running barrier, in its history. -/
theorem next_position {g : Ghost δ} (hinv : Inv n m u64Max ⟨b.toCore, g⟩) (hrun : b.running = true)
    (hwidth : g.width = o.width) {advance : ℕ → Option ℕ}
    (hadvance : ∀ nf, advance b.nextFirst = some nf → nf = satAdd u64Max b.nextFirst o.width) :
    ∀ nf, advance b.nextFirst = some nf → nf = g.position u64Max (g.scheduled + 1) := by
  intro nf hnf
  have hfirst := (hinv.clock hrun).2.1
  simp only at hfirst
  rw [hadvance nf hnf, hfirst, ← hwidth]
  exact stamp_succ _ _ _ _

/-- A completion that finds its slot `j`: checks that may mark (`b₁`), the report
(`b₂`), marks for skew (`b₃`), the generation after next (`b₄`), marks if it got
no slot (`b₅`), and, when the other channel reported before, the end of the
generation (`b₆`). -/
theorem complete {ch j : ℕ} {b₁ b₂ b₃ b₅ : Barrier ε} {advance : ℕ → Option ℕ} {renew : ε → ε}
    (b₆ : Barrier ε) (future : UInt32) (x : δ) (h : Good n m strict expects b o) (hm : m < 2 ^ 31)
    (hrun : b.running = true)
    (hch : ch < 2) (hj : j < m) (hvalid : (b.slots j).valid = true)
    (hgen : (b.slots j).generation = b.nextCompletion ch)
    (hbit : (b.slots j).completionMask.testBit ch = false) (hplaced : Barrier.Marks b b₁)
    (hagree : (b₁.slots j).invalidData = true ∨
      x = expects (b.slots j).destination (b.slots j).first)
    (hreport : b₂.toCore = b₁.toCore.report ch j) (hskew : Barrier.Marks b₂ b₃)
    (hadvance : ∀ nf, advance b₃.nextFirst = some nf → nf = satAdd u64Max b₃.nextFirst o.width)
    (hfuture : Barrier.Marks (b₃.scheduleGeneration n m advance renew future).1 b₅)
    (hpart : (b₅.slots j).completionMask ≠ 3 → b₆.toCore = b₅.toCore)
    (hfull : (b₅.slots j).completionMask = 3 → (b₅.slots j).destination ≤ n →
      ((b₅.slots j).destination < n → b₅.records (b₅.slots j).destination =
        ⟨.dmaOwned, b₅.epoch, (b₅.slots j).generation, (b₅.slots j).first, 0⟩) →
      Barrier.Finalizes n j b₅ b₆) :
    Good n m strict expects b₆ (o.report ch x) := by
  obtain ⟨g, hinv, hheld, htight, hmatch⟩ := h.history
  obtain ⟨hv1, hg1, hd1, hk1, hf1, -⟩ := hplaced.slot j
  obtain ⟨hr1, -, hn1, -, -⟩ := hplaced.same
  -- The report itself.
  have hmove : Move n m u64Max strict ⟨b₁.toCore, g⟩ ⟨b₂.toCore, g.report ch x⟩ := by
    rw [hreport]
    refine Move.report x (hr1.trans hrun) hch (hplaced.settled h.settled) hj (hv1.trans hvalid) ?_ ?_ ?_
    · rw [hg1, hgen, hn1]
    · rw [hk1, hbit]
    · rw [hmatch.expects, hd1, hf1]
      exact hagree
  have hthree : Moves n m u64Max strict ⟨b.toCore, g⟩ ⟨b₃.toCore, g.report ch x⟩ :=
    (((Moves.refl _).tail (hplaced.move n m strict g)).tail hmove).tail (hskew.move n m strict _)
  have hrun3 : b₃.running = true := by
    rw [hskew.same.1, hreport]
    exact hr1.trans hrun
  obtain ⟨g', hsched, halike, hframe⟩ := Barrier.scheduleGeneration_moves (n := n) (m := m)
    advance renew strict future hrun3
    (next_position (hinv.moves hthree) hrun3 hmatch.width hadvance)
  have hfive : Moves n m u64Max strict ⟨b.toCore, g⟩ ⟨b₅.toCore, g'⟩ :=
    (hthree.trans hsched).tail (hfuture.move n m strict g')
  -- Slot `j` is still there, and no other slot was completed.
  have hkeep : ∀ k, (b₃.slots k).valid = (b.slots k).valid := by
    intro k
    rw [(hskew.slot k).1, ← (hplaced.slot k).1, hreport]
    by_cases hk : k = j
    · simp [Core.report, hk]
    · simp [Core.report, hk]
  have hstill : (b₅.slots j).valid = true := by
    rw [(hfuture.slot j).1, hframe.slots j hj ((hkeep j).trans hvalid), hkeep, hvalid]
  have hbut : ∀ k < m, k ≠ j → (b₅.slots k).valid = true → (b₅.slots k).completionMask ≠ 3 := by
    intro k hk hkj hv
    rw [(hfuture.slot k).1] at hv
    rw [(hfuture.slot k).2.2.2.1]
    rcases hframe.fresh k hk hv with hsame | hzero
    · rw [hsame] at hv ⊢
      rw [(hskew.slot k).2.2.2.1, hreport]
      simp only [Core.report]
      rw [Function.update_of_ne hkj, (hplaced.slot k).2.2.2.1]
      exact h.settled k hk (by rw [← hkeep k]; exact hv)
    · rw [hzero]
      decide
  have hmatch' : Matches expects g' (o.report ch x) := by
    refine ⟨halike.first.trans hmatch.first, halike.width.trans hmatch.width,
      halike.expects.trans hmatch.expects, ?_, halike.failed.trans hmatch.failed,
      halike.held.trans hmatch.held, halike.delivered ▸ hmatch.acquired, hmatch.below⟩
    rw [halike.done]
    simp only [Ghost.report, Observed.report, hmatch.done]
  by_cases hmask : (b₅.slots j).completionMask = 3
  · have hinv5 := hinv.moves hfive
    have hfin := hfull hmask (hinv5.target j hj hstill) (hinv5.owned j hj hstill)
    refine Good.advance _ hinv hheld htight hm
      (hfive.tail (hfin.move strict g' hj hstill hmask)) ?_ hmatch'
    intro k hk hv
    rw [hfin.slots] at hv ⊢
    by_cases hkj : k = j
    · subst hkj
      simp [GenerationSlot.empty] at hv
    · rw [Function.update_of_ne hkj] at hv ⊢
      exact hbut k hk hkj hv
  · have hcore := hpart hmask
    refine Good.advance _ hinv hheld htight hm ?_ ?_ hmatch'
    · rw [hcore]
      exact hfive
    · rw [hcore]
      intro k hk hv
      by_cases hkj : k = j
      · subst hkj
        exact hmask
      · exact hbut k hk hkj hv

theorem schedule (h : Good n m strict expects b o) (hm : m < 2 ^ 31) (advance : ℕ → Option ℕ)
    (renew : ε → ε) (generation : UInt32) (hrun : b.running = true)
    (hadvance : ∀ nf, advance b.nextFirst = some nf → nf = satAdd u64Max b.nextFirst o.width) :
    Good n m strict expects (b.scheduleGeneration n m advance renew generation).1 o := by
  obtain ⟨g, hinv, hheld, htight, hmatch⟩ := h.history
  obtain ⟨g', hmoves, halike, hframe⟩ := Barrier.scheduleGeneration_moves (n := n) (m := m)
    advance renew strict generation hrun
    (next_position hinv hrun hmatch.width hadvance)
  refine Good.advance _ hinv hheld htight hm hmoves (hframe.settled h.settled) ?_
  exact ⟨halike.first.trans hmatch.first, halike.width.trans hmatch.width,
    halike.expects.trans hmatch.expects, halike.done.trans hmatch.done,
    halike.failed.trans hmatch.failed, halike.held.trans hmatch.held,
    halike.delivered ▸ hmatch.acquired, hmatch.below⟩

theorem lease {i : ℕ} (h : Good n m strict expects b o) (hm : m < 2 ^ 31)
    (hlease : b.lease n = some (i, b')) :
    Good n m strict expects b' (o.lend i (b'.records i).first) := by
  obtain ⟨g, hinv, hheld, htight, hmatch⟩ := h.history
  rcases b.lease_cases n with hnone | ⟨k, hk, hready, hmax, hmin, hsome⟩
  · rw [hnone] at hlease
    cases hlease
  rw [hsome] at hlease
  cases hlease
  have hposition := hinv.placed i hk (Or.inl hready)
  simp only [Ghost.position] at hposition
  refine Good.advance (g.lend i) hinv hheld htight hm
    ((Moves.refl _).tail (Move.acquire _ hk hready hmax hmin)) h.settled ?_
  have hfirst : ((b.toCore.acquire i (allocateLease b.nextLease).1).records i).first =
      (b.records i).first := by
    simp [Core.acquire]
  refine ⟨hmatch.first, hmatch.width, hmatch.expects, hmatch.done, hmatch.failed, ?_, ?_, ?_⟩
  · simp only [Ghost.lend, Observed.lend, hmatch.held]
  · simp only [Ghost.lend, Observed.lend, List.map_append, hmatch.acquired, List.map_cons, List.map_nil]
    rw [hfirst, hposition, hmatch.first, hmatch.width]
  · intro p hp
    rcases List.mem_append.mp hp with hp | hp
    · exact hmatch.below p hp
    · rw [List.mem_singleton.mp hp, hfirst]
      exact hmax

theorem release {i : ℕ} (h : Good n m strict expects b o) (hm : m < 2 ^ 31)
    (hold : (b.records i).state = .reading) :
    Good n m strict expects (b.setState i .releasing) (o.takeBack i) := by
  obtain ⟨g, hinv, hheld, htight, hmatch⟩ := h.history
  refine Good.advance (g.takeBack i) hinv hheld htight hm
    ((Moves.refl _).tail (Move.release _ hold (Or.inl rfl))) h.settled ?_
  refine ⟨hmatch.first, hmatch.width, hmatch.expects, hmatch.done, hmatch.failed, ?_, hmatch.acquired,
    hmatch.below⟩
  simp only [Ghost.takeBack, Observed.takeBack, hmatch.held]

/-- A buffer on its way back to the pool. -/
theorem giveBack {i : ℕ} (h : Good n m strict expects b o) (hm : m < 2 ^ 31) (r : BufferRecord)
    (hold : (b.records i).state = .discardPending ∨ (b.records i).state = .releasing)
    (hnew : r.state = .releasing ∨ r.state = .free)
    (hcore : b'.toCore = { b.toCore with records := Function.update b.records i r }) :
    Good n m strict expects b' o := by
  obtain ⟨g, hinv, hheld, htight, hmatch⟩ := h.history
  refine Good.advance g hinv hheld htight hm ?_ ?_ hmatch
  · rw [hcore]
    exact (Moves.refl _).tail (Move.giveBack r hold hnew)
  · rw [hcore]
    exact h.settled

theorem halt (h : Good n m strict expects b o) (hm : m < 2 ^ 31)
    (hcore : b'.toCore = b.toCore.halt n m) : Good n m strict expects b' o := by
  obtain ⟨g, hinv, hheld, htight, hmatch⟩ := h.history
  refine Good.advance g hinv hheld htight hm ?_ ?_ hmatch
  · rw [hcore]
    exact (Moves.refl _).tail Move.halt
  · intro j hj hv
    rw [hcore, Inv.halt_slots b.toCore hj] at hv
    cases hv

/-- Nobody holds a buffer of a barrier that is being primed. -/
theorem prime (h : Good n m strict expects b o) (expects' : ℕ → ℕ → δ) (hm : m < 2 ^ 31)
    (epoch origin : UInt32) {first width : ℕ} (hrun : b.running = false) (hfree : ∀ i < n, (b.records i).state = .free)
    (hfirst : first ≤ u64Max) (hwidth : 0 < width)
    (hcore : b'.toCore = b.toCore.primed epoch origin first) :
    Good n m strict expects' b' { first := first, width := width } ∧ o.held = [] := by
  obtain ⟨g, hinv, hheld, htight, hmatch⟩ := h.history
  constructor
  · refine Good.advance (Ghost.start origin first width expects') hinv hheld htight hm ?_ ?_ ?_
    · rw [hcore]
      exact (Moves.refl _).tail (Move.prime epoch origin first width expects' hrun hfree hfirst hwidth)
    · intro j _ hv
      rw [hcore] at hv
      cases hv
    · exact ⟨rfl, rfl, rfl, rfl, rfl, rfl, rfl, fun _ hp => by cases hp⟩
  · rw [← hmatch.held]
    refine List.eq_nil_iff_forall_not_mem.mpr fun i hi => ?_
    obtain ⟨hlt, hs⟩ := hheld i hi
    simp only at hs
    rw [hfree i hlt] at hs
    cases hs

/-! ### What an observer can rely on -/

/-- No generation in flight goes to a buffer that is ready or being read. -/
theorem apart (h : Good n m strict expects b o) {i : ℕ}
    (hs : (b.records i).state = .ready ∨ (b.records i).state = .reading) (hi : i < n) {j : ℕ}
    (hj : j < m) (hv : (b.slots j).valid = true) : (b.slots j).destination ≠ i := by
  obtain ⟨g, hinv, -⟩ := h.history
  rintro rfl
  have hown := hinv.owned j hj hv hi
  simp only at hown
  rw [hown] at hs
  rcases hs with hs | hs <;> cases hs

theorem reading (h : Good n m strict expects b o) {i : ℕ} (hi : i ∈ o.held) :
    i < n ∧ (b.records i).state = .reading := by
  obtain ⟨g, -, hheld, -, hmatch⟩ := h.history
  exact hheld i (hmatch.held ▸ hi)

/-- Deliveries are generations in order, at their exact positions. -/
theorem order (h : Good n m true expects b o) : ∃ ks : List ℕ, ks.Pairwise (· < ·) ∧
    o.acquired = ks.map fun k => o.first + o.width * k := by
  obtain ⟨g, hinv, -, htight, hmatch⟩ := h.history
  refine ⟨g.delivered, (htight rfl).sorted, ?_⟩
  rw [← hmatch.acquired]
  apply List.map_congr_left
  intro k hk
  apply stamp_eq
  apply hmatch.below
  rw [← hmatch.acquired]
  exact List.mem_map_of_mem hk

/-- What is ready or being read was completed by both channels without an error. -/
theorem clean (h : Good n m true expects b o) {i : ℕ} (hi : i < n)
    (hs : (b.records i).state = .ready ∨ (b.records i).state = .reading) :
    ∃ k, (b.records i).first = stamp u64Max o.first o.width k ∧
      ∀ ch < 2, (o.done ch)[k]? = some (expects i (b.records i).first) ∧ k ∉ o.failed ch := by
  obtain ⟨g, hinv, -, htight, hmatch⟩ := h.history
  refine ⟨g.tag i, ?_, fun ch hch => ?_⟩
  · have hposition := hinv.placed i hi hs
    rw [← hmatch.first, ← hmatch.width]
    exact hposition
  · rw [← hmatch.done, ← hmatch.failed, ← hmatch.expects]
    exact (htight rfl).clean i hi hs ch hch

end Good

end ThingDaq.Capture
