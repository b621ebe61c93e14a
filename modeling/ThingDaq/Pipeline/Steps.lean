import ThingDaq.Pipeline.Codecs

/-!
# Operations as moves

Under the ownership invariant every public operation is a sequence of moves: the
guards that cannot fail do not, and what is left of each function is a list of
elementary steps.

## Main results

* `dropBuffer_core`, `evictCompleteBuffer_moves`, `takeFreeBuffer_moves` — the
  private helpers.
* one `…_moves` theorem per public operation.
-/

namespace ThingDaq

open Wire Table

variable {R : Rules} {p : Pipeline} {g : History} {i : ℕ} {s : Stream}

theorem Moves.single {w w' : World} (h : Move R w w') : Moves R w w' :=
  Relation.ReflTransGen.single h

theorem Moves.refl (w : World) : Moves R w w := Relation.ReflTransGen.refl

/-- No move changes the run. -/
theorem Moves.run_eq {w w' : World} (h : Moves R w w') :
    w'.core.setup = w.core.setup ∧ w'.core.runId = w.core.runId := by
  induction h with
  | refl => exact ⟨rfl, rfl⟩
  | tail _ hmove ih =>
    rw [← ih.1, ← ih.2]
    cases hmove with
    | dropOpen => exact ⟨(Core.drop_other _ _ _).2.2.2.2.2, (Core.drop_other _ _ _).2.2.2.2.1⟩
    | dropQueued => exact ⟨(Core.drop_other _ _ _).2.2.2.2.2, (Core.drop_other _ _ _).2.2.2.2.1⟩
    | evictPromoted => exact ⟨(Core.drop_other _ _ _).2.2.2.2.2, (Core.drop_other _ _ _).2.2.2.2.1⟩
    | abort => exact ⟨(Core.drop_other _ _ _).2.2.2.2.2, (Core.drop_other _ _ _).2.2.2.2.1⟩
    | _ => exact ⟨rfl, rfl⟩

/-! ### Counters commute with everything else -/

namespace Core

/-- Update the counters of one stream. -/
def tally (c : Core) (s : Stream) (f : SourceCounters → SourceCounters) : Core :=
  c.setCounters s (f (c.sourceCounters s))

theorem tally_comm (c : Core) {s t : Stream} {f k : SourceCounters → SourceCounters}
    (h : ∀ x, f (k x) = k (f x)) : (c.tally s f).tally t k = (c.tally t k).tally s f := by
  unfold tally setCounters
  simp only [Core.mk.injEq, true_and, and_true]
  by_cases hst : s = t
  · subst hst
    simp [h]
  · have hts : ¬t = s := fun e => hst e.symm
    rw [Function.update_of_ne hts, Function.update_of_ne hst, Function.update_comm hst]

theorem tally_tally (c : Core) (s : Stream) (f k : SourceCounters → SourceCounters) :
    (c.tally s f).tally s k = c.tally s fun x => k (f x) := by
  unfold tally setCounters
  simp

theorem propagate_tally (c : Core) (r : BufferRecord) (s : Stream)
    (f : SourceCounters → SourceCounters) :
    (c.tally s f).propagate r = (c.propagate r).tally s f := by
  have hfind : (c.tally s f).findSuccessor r = c.findSuccessor r := rfl
  cases hf : c.findSuccessor r with
  | none =>
    rw [propagate_none hf, propagate_none (hfind.trans hf)]
    rfl
  | some q =>
    rw [propagate_some hf, propagate_some (hfind.trans hf)]
    rfl

/-- One more lost frame. -/
def lossOf (items : ℕ) (k : SourceCounters) : SourceCounters :=
  { k with framesDropped := sat64 k.framesDropped 1, itemsDropped := sat64 k.itemsDropped items }

theorem drop_eq_tally (c : Core) (i : ℕ) (evict : Bool) : c.drop i evict =
    (((c.tally (c.records i).stream (droppedCounters · (c.records i) evict)).propagate
      (c.records i)).tally (c.records i).stream (lossOf (c.records i).itemCount)).setRecord i {} :=
  rfl

theorem drop_counters (c : Core) (i : ℕ) (evict : Bool) : (c.drop i evict).sourceCounters =
    Function.update c.sourceCounters (c.records i).stream (lossOf (c.records i).itemCount
      (droppedCounters (c.sourceCounters (c.records i).stream) (c.records i) evict)) := by
  rw [drop_eq_tally, propagate_tally, tally_tally]
  have hother := (c.propagate_other (c.records i)).2.2.2.1
  unfold tally setCounters setRecord
  simp only [hother]

theorem drop_nextSequence (c : Core) (i : ℕ) (evict : Bool) (t : Stream) :
    ((c.drop i evict).sourceCounters t).nextSequence = (c.sourceCounters t).nextSequence := by
  rw [drop_counters]
  by_cases ht : t = (c.records i).stream
  · subst ht
    rw [Function.update_self]
    unfold lossOf droppedCounters
    cases evict <;> cases (c.records i).state <;> rfl
  · rw [Function.update_of_ne ht]

/-- Counting a produced frame commutes with dropping another. -/
theorem drop_tally (c : Core) (i : ℕ) (evict : Bool) {s : Stream}
    {f : SourceCounters → SourceCounters}
    (hdrop : ∀ k r, f (droppedCounters k r evict) = droppedCounters (f k) r evict)
    (hloss : ∀ k items, f (lossOf items k) = lossOf items (f k)) :
    (c.tally s f).drop i evict = (c.drop i evict).tally s f := by
  have hrec : (c.tally s f).records = c.records := rfl
  rw [drop_eq_tally, drop_eq_tally, hrec, tally_comm c fun x => hdrop x (c.records i), propagate_tally,
    tally_comm _ fun x => hloss x (c.records i).itemCount]
  rfl

/-- The counters of one produced frame. -/
def producedOf (items : ℕ) (k : SourceCounters) : SourceCounters :=
  { k with
    nextSequence := k.nextSequence + 1
    framesProduced := sat64 k.framesProduced 1
    itemsProduced := sat64 k.itemsProduced items }

theorem drop_produced (c : Core) (i : ℕ) (evict : Bool) (s : Stream) (items : ℕ) :
    (c.tally s (producedOf items)).drop i evict = (c.drop i evict).tally s (producedOf items) := by
  refine c.drop_tally i evict ?_ fun _ _ => rfl
  intro k r
  unfold droppedCounters
  cases evict <;> cases r.state <;> rfl

end Core

/-! ### Dropping -/

theorem markGapBefore_core {j : ℕ} (hj : j < 200) (hlive : (p.records j).state ≠ .free)
    (hns : (p.records j).transmissionStarted = false) : (p.markGapBefore j).toCore =
      p.setRecord j { p.records j with gapBeforeRequired := true } := by
  unfold Pipeline.markGapBefore
  rw [if_neg (by unfold kPacketBufferCount; omega), if_neg (by simp [hlive, hns])]
  rfl

theorem propagateGapAfter_core (r : BufferRecord) :
    (p.propagateGapAfter r).toCore = p.toCore.propagate r := by
  unfold Pipeline.propagateGapAfter Core.propagate
  cases hf : p.findSuccessor r with
  | none => rfl
  | some q =>
    obtain ⟨j, d⟩ := q
    obtain ⟨hj, hd⟩ := p.toCore.findSuccessor_some hf
    obtain ⟨hlive, -, hns, -⟩ := p.toCore.successorDistance_some hd
    exact markGapBefore_core hj hlive hns

theorem dropBuffer_core (hi : i < 200) (hlive : (p.records i).state ≠ .free) (evict : Bool) :
    (p.dropBuffer i evict).toCore = p.toCore.drop i evict := by
  unfold Pipeline.dropBuffer
  rw [if_neg (by simp [hlive, kPacketBufferCount]; omega)]
  unfold Pipeline.recycle
  rw [if_neg (by unfold kPacketBufferCount; omega)]
  simp only [Pipeline.recordDrop, propagateGapAfter_core]
  rfl

/-- A frame still in its source FIFO is dropped as it is. -/
theorem Move.dropFromQueue {c : Core} {e : Bool} (hqueue : i ∈ c.readyQueues s) :
    Move R ⟨c, g⟩ ⟨(c.setReady s ((c.readyQueues s).erase i)).drop i e, g⟩ := by
  have := Move.dropQueued (R := R) (g := g) (f := c.frames i) (n := (c.records i).frameSize)
    (e := e) hqueue
  rwa [Core.rework_self] at this

/-! ### Taking a buffer -/

theorem Core.NoOpen.drop {c c₁ : Core} {t : Stream} {evict : Bool} (h : c.NoOpen t)
    (hrec : c₁.records = c.records) : (c₁.drop i evict).NoOpen t := by
  intro j
  by_cases hj : j = i
  · subst hj
    rw [Core.drop_record_self]
    rintro ⟨hs, -⟩
    cases hs
  · rw [Core.drop_record_ne _ _ hj, hrec]
    exact h j

section Take

variable {c : Core} {items : ℕ}

/-- An eviction either refuses and changes nothing, or frees the buffer; a frame
counted as produced beforehand makes no difference. -/
theorem evictCompleteBuffer_moves (hinv : Inv ⟨c, g⟩)
    (hp : p.toCore = c.tally s (Core.producedOf items)) :
    ((p.evictCompleteBuffer i).2 = false ∧ (p.evictCompleteBuffer i).1.toCore = p.toCore) ∨
      ((p.evictCompleteBuffer i).2 = true ∧ i < 200 ∧ ∃ c', Move R ⟨c, g⟩ ⟨c', g⟩ ∧
        (p.evictCompleteBuffer i).1.toCore = c'.tally s (Core.producedOf items) ∧
        (c'.records i).state = .free ∧ ∀ t, (c.NoOpen t → c'.NoOpen t) ∧
          (c'.sourceCounters t).nextSequence = (c.sourceCounters t).nextSequence) := by
  have hrec : p.records = c.records := by rw [hp]; rfl
  unfold Pipeline.evictCompleteBuffer
  simp only
  split
  · exact Or.inl ⟨rfl, rfl⟩
  next hi =>
  have hi' : i < 200 := by unfold kPacketBufferCount at hi; omega
  split
  · exact Or.inl ⟨rfl, rfl⟩
  next hguard =>
  simp only [Bool.or_eq_true, Bool.and_eq_true, decide_eq_true_eq, not_or, not_and, not_not,
    Bool.not_eq_true, ne_eq] at hguard
  obtain ⟨⟨hstate, hns⟩, -⟩ := hguard
  rw [hrec] at hstate hns
  have hlive : (c.records i).state ≠ .free := by
    intro hf
    have := hstate (by rw [hf]; decide)
    rw [hf] at this
    cases this
  split
  · next hready =>
    rw [hrec] at hready
    have hmem : i ∈ c.readyQueues (c.records i).stream :=
      (hinv.queues.ready_mem _ _).mpr ⟨rfl, Or.inl hready⟩
    have hmem' : i ∈ p.readyQueues (p.records i).stream := by rw [hp]; exact hmem
    rw [eraseFirst_eq_some hmem']
    refine Or.inr ⟨rfl, hi', _, Move.dropFromQueue (e := true) hmem, ?_, ?_,
      fun t => ⟨fun ht => ht.drop rfl, Core.drop_nextSequence _ _ _ _⟩⟩
    · rw [← Core.drop_produced]
      refine (dropBuffer_core hi' ?_ true).trans ?_
      · show (p.records i).state ≠ .free
        rw [hrec]
        exact hlive
      · simp only [hp]
        rfl
    · rw [Core.drop_record_self]
  · next hready =>
    have hsent : (c.records i).state = .transmitting := hstate (by rw [hrec] at hready; exact hready)
    have hmem : i ∈ c.transmitQueue := (hinv.queues.transmit_mem i).mpr hsent
    have hmem' : i ∈ p.transmitQueue := by rw [hp]; exact hmem
    split
    · exact Or.inl ⟨rfl, rfl⟩
    rw [eraseFirst_eq_some hmem']
    refine Or.inr ⟨rfl, hi', _, Move.evictPromoted hmem hns, ?_, ?_, fun t =>
      ⟨fun ht => ht.drop rfl, (Core.drop_nextSequence _ _ _ _).trans ?_⟩⟩
    · rw [← Core.drop_produced]
      refine (dropBuffer_core hi' ?_ true).trans ?_
      · show (p.records i).state ≠ .free
        rw [hrec]
        exact hlive
      · congr 1
        simp only [hp]
        exact Core.tally_comm (c.unqueue i) (f := Core.producedOf items)
          (k := fun k => { k with
            framesEvictedAfterPromotion := sat64 k.framesEvictedAfterPromotion 1 }) fun _ => rfl
    · rw [Core.drop_record_self]
    · unfold Core.countEvictedAfterPromotion Core.setCounters
      by_cases ht : t = (c.records i).stream
      · subst ht
        simp only [Function.update_self]
        rfl
      · simp only [Function.update_of_ne ht]
        rfl

theorem takeFreeBuffer_moves (hinv : Inv ⟨c, g⟩)
    (hp : p.toCore = c.tally s (Core.producedOf items)) :
    (p.takeFreeBuffer.2 = none ∧ p.takeFreeBuffer.1.toCore = p.toCore) ∨
      ∃ i c', p.takeFreeBuffer.2 = some i ∧ i < 200 ∧ Moves R ⟨c, g⟩ ⟨c', g⟩ ∧
        p.takeFreeBuffer.1.toCore = c'.tally s (Core.producedOf items) ∧
        (c'.records i).state = .free ∧ ∀ t, (c.NoOpen t → c'.NoOpen t) ∧
          (c'.sourceCounters t).nextSequence = (c.sourceCounters t).nextSequence := by
  unfold Pipeline.takeFreeBuffer
  simp only
  split
  · next o hfind =>
    have hfree : (p.records ((p.nextFreeSearch + o) % kPacketBufferCount)).state = .free := by
      simpa using List.find?_some hfind
    refine Or.inr ⟨_, c, rfl, Nat.mod_lt _ (by decide), Moves.refl _, hp, ?_, fun _ => ⟨id, rfl⟩⟩
    rw [hp] at hfree
    exact hfree
  · split
    · exact Or.inl ⟨rfl, rfl⟩
    · next victim _ =>
      have hq : ({ p with poolExhaustions := sat32 p.poolExhaustions 1 } : Pipeline).toCore =
        c.tally s (Core.producedOf items) := hp
      rcases evictCompleteBuffer_moves (R := R) (i := victim) hinv hq with
        ⟨hno, hcore⟩ | ⟨hyes, hi, c', hmove, hcore, hfree, hopen⟩
      · rw [if_neg (by simp [hno])]
        exact Or.inl ⟨rfl, hcore⟩
      · rw [if_pos hyes]
        exact Or.inr ⟨victim, c', rfl, hi, Moves.single hmove, hcore, hfree, hopen⟩

end Take

/-! ### Producing -/

/-- The history of a `beginFill`. -/
def History.began (g : History) (s : Stream) (r : BeginFillResult) : History :=
  match r.status with
  | .ok => g.openFill s r.handle.bufferIndex
  | .poolExhausted => g.lose s 1 false
  | _ => g

theorem RunSetup.itemCount_le (r : RunSetup) (s : Stream) : (r.stream s).itemCount ≤ 4048 := by
  obtain ⟨⟨-, hw, -⟩, -, -, hf, hle⟩ := FrameLayout.valid_iff.mp (r.stream_valid s)
  have := Nat.le_mul_of_pos_right (r.stream s).itemCount hw
  omega

theorem satMul_one_itemCount (r : RunSetup) (s : Stream) :
    satMul u64Max 1 (r.stream s).itemCount = (r.stream s).itemCount := by
  have hpos := r.itemCount_pos s
  have hle := r.itemCount_le s
  have hdiv : 1 ≤ u64Max / (r.stream s).itemCount :=
    (Nat.le_div_iff_mul_le hpos).mpr (by unfold u64Max; omega)
  unfold satMul
  rw [if_neg (by omega), if_neg (by omega), Nat.one_mul]

/-- An admitted call numbers its frame before it looks for a buffer. -/
theorem Pipeline.beginFill_taken {q : Pipeline} {taken : Option ℕ}
    (hrun : ¬(!p.acceptingFrames || p.runId = 0) = true)
    (hstream : ¬(!streamEnabled p.enabledStreamMask s) = true)
    (htake : (p.withCore (p.tally s (Core.producedOf (p.setup.stream s).itemCount))).takeFreeBuffer =
      (q, taken)) :
    p.beginFill s = taken.elim
      (q.refuseFill s (p.sourceCounters s).nextSequence (p.setup.stream s).itemCount)
      fun i => q.openBuffer s i (p.sourceCounters s).nextSequence (p.setup.stream s).itemCount := by
  have hproduced : (p.withCore (p.setCounters s { p.sourceCounters s with
      nextSequence := (p.sourceCounters s).nextSequence + 1
      framesProduced := sat64 (p.sourceCounters s).framesProduced 1
      itemsProduced := sat64 (p.sourceCounters s).itemsProduced
        (p.setup.stream s).itemCount })).takeFreeBuffer = (q, taken) := htake
  unfold Pipeline.beginFill
  rw [if_neg hrun, if_neg hstream]
  simp only [hproduced]
  cases taken <;> rfl

theorem beginFill_moves (hinv : Inv ⟨p.toCore, g⟩) (hone : R.oneOpen = true → p.NoOpen s)
    (hnear : R.transport = true → (p.beginFill s).2.status = .ok →
      g.produced s < g.expected s + 2 ^ 31) :
    Moves R ⟨p.toCore, g⟩ ⟨(p.beginFill s).1.toCore, g.began s (p.beginFill s).2⟩ := by
  by_cases hrun : (!p.acceptingFrames || p.runId = 0) = true
  · unfold Pipeline.beginFill
    rw [if_pos hrun]
    exact Moves.refl _
  by_cases hstream : (!streamEnabled p.enabledStreamMask s) = true
  · unfold Pipeline.beginFill
    rw [if_neg hrun, if_pos hstream]
    exact Moves.refl _
  obtain ⟨result, hresult⟩ : ∃ result, result = p.beginFill s := ⟨_, rfl⟩
  rw [← hresult] at hnear ⊢
  have htake := takeFreeBuffer_moves (R := R) (s := s) (c := p.toCore) (g := g)
    (p := p.withCore (p.tally s (Core.producedOf (p.setup.stream s).itemCount))) hinv rfl
  cases hq : (p.withCore (p.tally s
      (Core.producedOf (p.setup.stream s).itemCount))).takeFreeBuffer with
  | mk q taken =>
  rw [Pipeline.beginFill_taken hrun hstream hq] at hresult
  rw [hq] at htake
  rcases htake with ⟨hnone, hcore⟩ | ⟨i, c', hsome, hi, hmoves, hcore, hfree, hopen⟩
  · simp only at hnone hcore
    subst hnone
    have hlose : (q.refuseFill s (p.sourceCounters s).nextSequence
        (p.setup.stream s).itemCount).1.toCore = p.toCore.lose s 1 := by
      have hcounted : (q.recordDrop s (p.setup.stream s).itemCount).toCore =
          q.toCore.tally s (Core.lossOf (p.setup.stream s).itemCount) := rfl
      show (q.recordDrop s (p.setup.stream s).itemCount).toCore.setGapNext s true = _
      rw [hcounted, hcore, Pipeline.toCore_withCore, Core.tally_tally]
      unfold Core.lose
      simp only [satMul_one_itemCount]
      rfl
    simp only [Option.elim] at hresult
    rw [hresult, hlose]
    exact Moves.single (Move.lose (by decide))
  · simp only at hsome hcore
    subst hsome
    have hset : c'.setup = p.setup ∧ c'.runId = p.runId := hmoves.run_eq
    have hopened : (q.openBuffer s i (p.sourceCounters s).nextSequence
        (p.setup.stream s).itemCount).1.toCore =
        c'.openFill s i (Pipeline.takeLease q.nextLease).1 := by
      show (q.toCore.setRecord i { q.toCore.records i with
        state := .filling
        stream := s
        gapBeforeRequired := q.toCore.gapBeforeNextFrame s
        runId := q.toCore.runId
        sequence := (p.sourceCounters s).nextSequence
        itemCount := (p.setup.stream s).itemCount
        lease := (Pipeline.takeLease q.nextLease).1
        frameSize := 0 }).setGapNext s false = _
      rw [hcore, ← (hopen s).2, ← hset.1]
      rfl
    simp only [Option.elim] at hresult
    rw [hresult] at hnear ⊢
    rw [hopened]
    exact hmoves.tail (Move.openFill hi hfree (fun h1 => (hopen s).1 (hone h1))
      fun ht => hnear ht rfl)

theorem recordSourceFrameDrops_moves (n : ℕ) : Moves R ⟨p.toCore, g⟩
    ⟨(p.recordSourceFrameDrops s n).1.toCore,
      if (p.recordSourceFrameDrops s n).2 = .ok ∧ n ≠ 0 then g.lose s n true else g⟩ := by
  unfold Pipeline.recordSourceFrameDrops
  split
  · exact Moves.refl _
  split
  · exact Moves.refl _
  split
  · next hn => rw [if_neg (by simp [hn])]
  · next hn =>
    rw [if_pos ⟨rfl, hn⟩]
    exact Moves.single (Move.lose (Nat.pos_of_ne_zero hn))

theorem Core.handleMatches_iff {c : Core} {h : FillHandle} (hm : c.handleMatches h = true) :
    h.bufferIndex < 200 ∧ (c.records h.bufferIndex).state = .filling ∧
      (c.records h.bufferIndex).frameSize = 0 ∧ (c.records h.bufferIndex).stream = h.stream ∧
      (c.records h.bufferIndex).sequence = h.sequence := by
  unfold Core.handleMatches kPacketBufferCount at hm
  simp only [Bool.and_eq_true, decide_eq_true_eq] at hm
  obtain ⟨⟨⟨⟨⟨⟨-, h1⟩, h2⟩, h3⟩, h4⟩, h5⟩, -⟩ := hm
  exact ⟨h1, h2, h3, h4, h5⟩

theorem writePayload_moves (h : FillHandle) (off : ℕ) (bs : Bytes) :
    Moves R ⟨p.toCore, g⟩ ⟨(p.writePayload h off bs).toCore, g⟩ := by
  unfold Pipeline.writePayload
  split
  · exact Moves.refl _
  · next hm =>
    obtain ⟨-, -, hsize, -⟩ := Core.handleMatches_iff (by simpa using hm)
    exact Moves.single (Move.scribble hsize)

theorem dropOpen_moves {q : Pipeline} (hcore : q.toCore = p.toCore) (hi : i < 200)
    (hstate : (p.records i).state = .filling) (hopen : (p.records i).frameSize = 0) :
    Moves R ⟨p.toCore, g⟩ ⟨(q.dropBuffer i false).toCore, g⟩ := by
  have hlive : (q.records i).state ≠ .free := by rw [hcore, hstate]; decide
  rw [dropBuffer_core hi hlive, hcore]
  exact Moves.single (Move.dropOpen hi hstate hopen)

theorem cancelFill_moves (h : FillHandle) :
    Moves R ⟨p.toCore, g⟩ ⟨(p.cancelFill h).1.toCore, g⟩ := by
  unfold Pipeline.cancelFill
  split
  · exact Moves.refl _
  · next hm =>
    obtain ⟨hi, hstate, hsize, -⟩ := Core.handleMatches_iff (c := p.toCore) (by simpa using hm)
    exact dropOpen_moves rfl hi hstate hsize

theorem stopProduction_moves : Moves R ⟨p.toCore, g⟩ ⟨p.stopProduction.1.toCore, g⟩ := by
  unfold Pipeline.stopProduction
  simp only
  -- one buffer of the scan at a time, whatever the order
  suffices key : ∀ (l : List ℕ) (acc : Pipeline × ℕ), (∀ j ∈ l, j < 200) →
      Moves R ⟨acc.1.toCore, g⟩ ⟨(l.foldl (fun (acc : Pipeline × ℕ) i =>
        if (decide ((acc.1.records i).state ≠ .filling) ||
            decide ((acc.1.records i).frameSize ≠ 0)) = true then acc
        else (acc.1.dropBuffer i false, acc.2 + 1)) acc).1.toCore, g⟩ from
    key _ ({ p with acceptingFrames := false }, 0) fun j hj => by simpa using hj
  intro l
  induction l with
  | nil => intro acc _; exact Moves.refl _
  | cons j l ih =>
    intro acc hl
    rw [List.foldl_cons]
    refine Relation.ReflTransGen.trans ?_ (ih _ fun k hk => hl k (List.mem_cons_of_mem _ hk))
    split
    · exact Moves.refl _
    · next hopen =>
      simp only [Bool.or_eq_true, decide_eq_true_eq, not_or, not_not] at hopen
      exact dropOpen_moves rfl (hl j List.mem_cons_self) hopen.1 hopen.2

/-! ### Publishing -/

theorem publishReady_core (i : ℕ) : (p.publishReady i).toCore = p.toCore.publish i := rfl

/-- A queue of the pool is never full while one buffer is outside it. -/
theorem Inv.push_ready (hinv : Inv ⟨p.toCore, g⟩) (hi : i < 200)
    (hnot : ¬(p.records i).Queued) : push 200 (p.readyQueues s) i = some (p.readyQueues s ++ [i]) := by
  refine push_eq_some (length_lt_of_nodup (hinv.queues.ready_nodup s) ?_ hi ?_)
  · intro j hj
    refine (hinv.slot j).bound ?_
    rcases ((hinv.queues.ready_mem s j).mp hj).2 with h | ⟨h, -⟩ <;> rw [h] <;> decide
  · exact fun hm => hnot ((hinv.queues.ready_mem s i).mp hm).2

/-- What a finished page started from. -/
def originOf (p : Pipeline) (h : FillHandle) (completion : FrameCompletion) : Origin :=
  ⟨samplesOf p.setup h.stream (p.frames h.bufferIndex), completion.firstSampleTicks, h.stream,
    h.sequence, p.runId⟩

/-- The history of a `finishFill`. -/
def History.finished (g : History) (p : Pipeline) (h : FillHandle) (completion : FrameCompletion)
    (r : FinishFillResult) : History :=
  if r.status = .ok then g.complete h.bufferIndex (originOf p h completion) else g

theorem finishFill_moves (hinv : Inv ⟨p.toCore, g⟩) (h : FillHandle) (completion : FrameCompletion)
    (hhonest : R.transport = true → p.handleMatches h = true →
      completion.flags &&& (flagGapBefore ||| flagOverrunBefore) ≠ 0 →
        g.afterLoss h.bufferIndex = true)
    (hfit : R.ticks = true → p.setup.layout.isV3 = true → completion.firstSampleTicks.toNat ≤
      2 ^ 64 - 1 - (p.setup.stream h.stream).itemCount * 8) :
    Moves R ⟨p.toCore, g⟩ ⟨(p.finishFill h completion).1.toCore,
      g.finished p h completion (p.finishFill h completion).2⟩ := by
  unfold Pipeline.finishFill
  split
  · exact Moves.refl _
  next hm =>
  have hmatch : p.handleMatches h = true := by simpa using hm
  obtain ⟨hi, hstate, hopen, hstream, hsequence⟩ := Core.handleMatches_iff hmatch
  simp only
  split
  · exact dropOpen_moves rfl hi hstate hopen
  next hrun =>
  have hrunId : (p.records h.bufferIndex).runId = p.runId := by
    by_contra hne
    exact hrun (by simp [hne])
  split
  · exact dropOpen_moves rfl hi hstate hopen
  split
  · exact dropOpen_moves (q := p.encodingRejection) rfl hi hstate hopen
  set i := h.bufferIndex with hidef
  set r := p.records i with hr
  set encoded := p.encodePage r completion (p.frames i) with hencoded
  split
  · -- the rejected page is scribbled on before it is dropped
    refine Relation.ReflTransGen.head (Move.scribble (f := encoded.2) hopen) ?_
    exact dropOpen_moves (p := p.withCore (p.setFrame i encoded.2))
      (q := (p.withCore (p.setFrame i encoded.2)).encodingRejection) rfl hi hstate hopen
  next hok =>
  have hok' : encoded.1.isOk = true := by simpa using hok
  obtain ⟨hframed, hflags⟩ := encodePage_framed hok'
  have hsize : (p.frameShape r.stream).frameBytes ≠ 0 := by
    have := p.setup.frameBytes_eq r.stream
    show (p.setup.stream r.stream).frameBytes + p.setup.layout.prefixBytes ≠ 0
    omega
  have hnot : ¬(p.records i).Queued := by
    rintro (h1 | ⟨-, h1⟩)
    · rw [hstate] at h1; cases h1
    · exact h1 hopen
  have ho : originOf p h completion =
      ⟨samplesOf p.setup r.stream (p.frames i), completion.firstSampleTicks, r.stream, r.sequence,
        r.runId⟩ := by
    unfold originOf
    rw [← hstream, ← hsequence, ← hrunId]
  have hframed' : Framed p.setup { p.records i with
      frameSize := (p.frameShape r.stream).frameBytes } encoded.2 (originOf p h completion) := by
    rw [ho]
    exact hframed
  have hfit' : R.ticks = true → p.setup.layout.isV3 = true →
      (originOf p h completion).TicksFit (p.setup.stream (p.records i).stream).itemCount := by
    rw [hstream]
    exact hfit
  have hpush := hinv.push_ready (s := r.stream) hi hnot
  split
  · next hfull => exact absurd (hpush.symm.trans hfull) (by simp)
  next queue hqueued =>
  have hqueue : p.readyQueues r.stream ++ [i] = queue := Option.some.inj (hpush.symm.trans hqueued)
  subst hqueue
  split
  · next hwait =>
    -- a page that waits for its codec
    have hcore : p.toCore.complete i encoded.2 (p.frameShape r.stream).frameBytes p.deferredNow =
        (((p.setFrame i encoded.2).setRecord i { r with
          gapBeforeRequired := false, frameSize := (p.frameShape r.stream).frameBytes }).setReady
            r.stream (p.readyQueues r.stream ++ [i])).setRecord i { r with
              gapBeforeRequired := false, frameSize := (p.frameShape r.stream).frameBytes
              lease := p.deferredNow } := by
      simp [Core.complete, Core.setReady, Core.setRecord, Core.setFrame, hr]
    have hmove := Move.complete (R := R) (g := g) (l := p.deferredNow) hi hstate hopen hsize
      hframed' hflags (fun ht hne => hhonest ht hmatch hne) hfit' hwait
    rw [hcore] at hmove
    exact Moves.single hmove
  · -- a page that is READY at once
    exact Moves.single (Move.finish (l := r.lease) hi hstate hopen hsize hframed' hflags
      (fun ht hne => hhonest ht hmatch hne) hfit')

/-! ### Promotion -/

/-- A late gap mark is sealed whenever the page passes the promotion test. -/
theorem finalizeGapBefore_cases {o : Origin}
    (hloc : Local p.setup p.runId i (p.records i) (p.frames i) o)
    (hstate : (p.records i).state = .ready ∨ (p.records i).state = .transmitting)
    (hvalid : p.validFrameSize i = true) :
    ((p.records i).gapBeforeRequired = false ∧ p.finalizeGapBefore i = (p, true)) ∨
      ((p.records i).gapBeforeRequired = true ∧ ∃ f, Framed p.setup (p.records i) f o ∧
        flagsOf f = flagsOf (p.frames i) ||| (flagGapBefore ||| flagOverrunBefore) ∧
        p.finalizeGapBefore i = (p.withCore (p.toCore.flush i f), true)) := by
  have hlive : (p.records i).state ≠ .free := by rcases hstate with h | h <;> rw [h] <;> decide
  have hi : ¬kPacketBufferCount ≤ i := by
    have := hloc.bound hlive
    unfold kPacketBufferCount
    omega
  have hframed := hloc.framed (hloc.sized hstate)
  have hguard : ¬((decide ((p.records i).state ≠ .ready) &&
      decide ((p.records i).state ≠ .transmitting)) || !p.validFrameSize i) = true := by
    rcases hstate with h | h <;> simp [h, hvalid]
  unfold Pipeline.finalizeGapBefore
  simp only
  rw [if_neg hi]
  by_cases hgap : (p.records i).gapBeforeRequired = true
  swap
  · have hgap' : (p.records i).gapBeforeRequired = false := by simpa using hgap
    rw [hgap']
    exact Or.inl ⟨rfl, rfl⟩
  rw [if_neg (by simp [hgap]), if_neg hguard]
  have hload : loadU16 (p.frames i).bytes 6 = some (flagsOf (p.frames i)) := by
    unfold loadU16 flagsOf
    rw [if_pos (by rw [(p.frames i).size_eq]; decide)]
  obtain ⟨checksum, hsum⟩ := computeChecksum_isSome p.setup.checksum_supported
    (((p.frames i).store 6 (leBytes 2 (flagsOf (p.frames i) |||
      (flagGapBefore ||| flagOverrunBefore)).toNat)).bytes.take
        ((p.records i).frameSize - kTrailerSize))
  simp only [hload, hsum]
  refine Or.inr ⟨hgap, flagPage (p.frames i) (p.records i).frameSize checksum, ?_, ?_, rfl⟩
  · unfold Framed at hframed ⊢
    split at hframed
    · next hv3 =>
      rw [if_pos hv3]
      obtain ⟨d, hd, -⟩ := hframed
      rw [p.setup.v3_adler hv3] at hsum
      exact ⟨d.flagged, hd.flagPage hsum, fun hf => by
        rcases hstate with h | h <;> rw [h] at hf <;> cases hf⟩
    · next hv3 =>
      rw [if_neg hv3]
      exact hframed
  · refine flagsOf_flagPage ?_ checksum
    unfold Framed at hframed
    split at hframed
    · obtain ⟨d, hd, -⟩ := hframed
      have := hd.size_le
      omega
    · have := p.setup.frameBytes_eq (p.records i).stream
      omega

/-- The promotion test under the invariant. -/
theorem Inv.validFrameSize (hinv : Inv ⟨p.toCore, g⟩)
    (hlive : (p.records i).state ≠ .free) (hsize : (p.records i).frameSize ≠ 0) :
    p.validFrameSize i = true ↔ (p.setup.layout.isV3 = true →
      (g.origin i).TicksFit (p.setup.stream (p.records i).stream).itemCount) := by
  have hloc := hinv.slot i
  have hframed := hloc.framed hsize
  unfold Framed at hframed
  split at hframed
  · next hv3 =>
    obtain ⟨d, hd, -⟩ := hframed
    rw [Core.validFrameSize_v3 (hloc.bound hlive) hv3 hd (hloc.count hlive)]
    exact ⟨fun h _ => h, fun h => h hv3⟩
  · next hv3 =>
    have := Core.validFrameSize_legacy (hloc.bound hlive) hv3 hframed
    exact ⟨fun _ h => absurd h hv3, fun _ => this⟩

theorem Inv.validFrameSize_transmitting (hinv : Inv ⟨p.toCore, g⟩)
    (hstate : (p.records i).state = .transmitting) : p.validFrameSize i = true :=
  (hinv.validFrameSize (by rw [hstate]; decide) ((hinv.slot i).sized (Or.inr hstate))).mpr
    ((hinv.slot i).fit hstate)

/-- Promotion of the head of a source FIFO, late gap mark included. -/
theorem promote_moves (hinv : Inv ⟨p.toCore, g⟩) {rest : List ℕ}
    (hqueue : p.readyQueues s = i :: rest) (hstate : (p.records i).state = .ready)
    (hvalid : p.validFrameSize i = true) :
    ∃ q : Pipeline, (p.withCore (p.setReady s rest)).finalizeGapBefore i = (q, true) ∧
      q.transmitQueue = p.transmitQueue ∧
      Moves R ⟨p.toCore, g⟩ ⟨(q.promote s i (p.transmitQueue ++ [i])).toCore, g⟩ := by
  have hmem : i ∈ p.readyQueues s := by rw [hqueue]; exact List.mem_cons_self
  have hs : (p.records i).stream = s := ((hinv.queues.ready_mem s i).mp hmem).1
  have hlive : (p.records i).state ≠ .free := by rw [hstate]; decide
  have hfit := (hinv.validFrameSize hlive ((hinv.slot i).sized (Or.inl hstate))).mp hvalid
  rw [hs] at hfit
  have hns := hinv.not_started hstate (by decide)
  rcases finalizeGapBefore_cases (p := p.withCore (p.setReady s rest)) (hinv.slot i)
      (Or.inl hstate) hvalid with ⟨hgap, heq⟩ | ⟨hgap, f, hframed, hflags, heq⟩
  · refine ⟨_, heq, rfl, Moves.single ?_⟩
    exact Move.promote hqueue hstate hgap hfit
  · refine ⟨_, heq, rfl, ?_⟩
    refine Relation.ReflTransGen.head (Move.flush ((hinv.slot i).bound hlive) (Or.inl hstate) hns hgap
      hframed hflags) (Moves.single ?_)
    refine Move.promote (c := p.toCore.flush i f) (s := s) (i := i) (q := rest) hqueue ?_ ?_ hfit
    · simpa [Core.flush, Core.setRecord] using hstate
    · simp [Core.flush, Core.setRecord]

/-- No complete frame has timestamps that wrap. -/
def Fits (w : World) : Prop :=
  ∀ i, (w.core.records i).frameSize ≠ 0 → w.core.setup.layout.isV3 = true →
    (w.history.origin i).TicksFit (w.core.setup.stream (w.core.records i).stream).itemCount

/-- One popped frame that is refused. -/
theorem refuse_moves (hinv : Inv ⟨p.toCore, g⟩) {rest : List ℕ} (hqueue : p.readyQueues s = i :: rest)
    {q : Pipeline} (hcore : q.toCore = p.setReady s rest) :
    Moves R ⟨p.toCore, g⟩ ⟨(q.dropBuffer i false).toCore, g⟩ := by
  have hmem : i ∈ p.readyQueues s := by rw [hqueue]; exact List.mem_cons_self
  have hlive : (p.records i).state ≠ .free := by
    rcases ((hinv.queues.ready_mem s i).mp hmem).2 with h | ⟨h, -⟩ <;> rw [h] <;> decide
  have hdrop := dropBuffer_core (p := q) ((hinv.slot i).bound hlive)
    (by rw [hcore]; exact hlive) false
  have hmove := Move.dropFromQueue (R := R) (g := g) (e := false) hmem
  rw [hqueue, List.erase_cons_head] at hmove
  rw [hdrop, hcore]
  exact Moves.single hmove

theorem Pipeline.selectFrom_some {p : Pipeline} {l : List Stream} {b d : Bool} {s : Stream}
    (h : p.selectFrom l b = (some s, d)) : p.readyCandidate s = true := by
  induction l generalizing b with
  | nil => simp [Pipeline.selectFrom] at h
  | cons t l ih =>
    unfold Pipeline.selectFrom at h
    split at h
    · exact ih h
    next hc =>
    have hc' : p.readyCandidate t = true := by simpa using hc
    split at h
    · cases h; exact hc'
    split at h
    · cases h; exact hc'
    · exact ih h

theorem serviceLoop_moves (limit : ℕ) : ∀ (fuel : ℕ) (p : Pipeline) (report : PromotionReport),
    Inv ⟨p.toCore, g⟩ →
      Moves R ⟨p.toCore, g⟩ ⟨(Pipeline.serviceLoop limit fuel p report).1.toCore, g⟩ := by
  intro fuel
  induction fuel with
  | zero => intro p report _; exact Moves.refl _
  | succ fuel ih =>
    intro p report hinv
    unfold Pipeline.serviceLoop
    split
    · exact Moves.refl _
    split
    · exact Moves.refl _
    next hfull =>
    have hpush : ∀ j, push 200 p.transmitQueue j = some (p.transmitQueue ++ [j]) := fun j =>
      if_neg hfull
    split
    · split <;> exact Moves.refl _
    next s _ _ =>
    cases hqueue : p.readyQueues s with
    | nil => exact ih p.invalidOperation _ hinv
    | cons i rest =>
      simp only
      have hmem : i ∈ p.readyQueues s := by rw [hqueue]; exact List.mem_cons_self
      have hlive : (p.records i).state ≠ .free := by
        rcases ((hinv.queues.ready_mem s i).mp hmem).2 with h | ⟨h, -⟩ <;> rw [h] <;> decide
      have hi := (hinv.slot i).bound hlive
      rw [if_neg (by unfold kPacketBufferCount; omega)]
      split
      · have hmoves := refuse_moves (R := R) hinv hqueue
          (q := (p.withCore (p.setReady s rest)).invalidOperation) rfl
        exact hmoves.trans (ih _ _ (hinv.moves hmoves))
      next hgood =>
      simp only [Bool.or_eq_true, decide_eq_true_eq, not_or, not_not, Bool.not_eq_true',
        Bool.not_eq_false] at hgood
      obtain ⟨q, hq, htq, hmoves⟩ := promote_moves (R := R) hinv hqueue hgood.1.1 hgood.2
      rw [hq]
      simp only [Bool.not_true, Bool.false_eq_true, if_false, htq]
      rw [show push kPacketTransmitQueueDepth p.transmitQueue i = some (p.transmitQueue ++ [i]) from
        hpush i]
      exact hmoves.trans (ih _ _ (hinv.moves hmoves))

theorem serviceReadyFrames_moves (hinv : Inv ⟨p.toCore, g⟩) (limit : ℕ) :
    Moves R ⟨p.toCore, g⟩ ⟨(p.serviceReadyFrames limit).1.toCore, g⟩ :=
  serviceLoop_moves limit _ p {} hinv

/-! ### The transport's side -/

theorem Inv.front (hinv : Inv ⟨p.toCore, g⟩) {rest : List ℕ} (hqueue : p.transmitQueue = i :: rest) :
    i < 200 ∧ (p.records i).state = .transmitting ∧ p.validFrameSize i = true := by
  have hstate := (hinv.queues.transmit_mem i).mp (by rw [hqueue]; exact List.mem_cons_self)
  exact ⟨(hinv.slot i).bound (by rw [hstate]; decide), hstate, hinv.validFrameSize_transmitting hstate⟩

/-- Preparing seals a late gap mark into the front frame. -/
theorem prepareFrontFrame_moves (hinv : Inv ⟨p.toCore, g⟩) :
    Moves R ⟨p.toCore, g⟩ ⟨p.prepareFrontFrame.1.toCore, g⟩ ∧
      (p.prepareFrontFrame.2 = true → p.prepareFrontFrame.1.transmitQueue = p.transmitQueue ∧
        ∀ i, p.transmitQueue.head? = some i →
          (p.prepareFrontFrame.1.records i).gapBeforeRequired = false) := by
  unfold Pipeline.prepareFrontFrame
  split
  · next hq => exact ⟨Moves.refl _, fun h => by cases h⟩
  next i rest hq =>
  obtain ⟨hi, hstate, hvalid⟩ := hinv.front hq
  rw [if_neg (by unfold kPacketBufferCount; omega)]
  split
  · exact ⟨Moves.refl _, fun h => by cases h⟩
  next hgood =>
  simp only [Bool.or_eq_true, decide_eq_true_eq, not_or, Bool.not_eq_true] at hgood
  have hlive : (p.records i).state ≠ .free := by rw [hstate]; decide
  rcases finalizeGapBefore_cases (hinv.slot i) (Or.inr hstate) hvalid with
    ⟨hgap, heq⟩ | ⟨hgap, f, hframed, hflags, heq⟩
  · rw [heq]
    refine ⟨Moves.refl _, fun _ => ⟨rfl, ?_⟩⟩
    intro j hj
    rw [hq] at hj
    cases hj
    exact hgap
  · rw [heq]
    refine ⟨Moves.single (Move.flush hi (Or.inr hstate) hgood.1.2 hgap hframed hflags),
      fun _ => ⟨rfl, ?_⟩⟩
    intro j hj
    rw [hq] at hj
    cases hj
    simp [Core.flush, Core.setRecord]

theorem markFrontFrameStarted_moves (hinv : Inv ⟨p.toCore, g⟩)
    (hgap : R.transport = true → ∀ i, p.transmitQueue.head? = some i →
      (p.records i).gapBeforeRequired = false ∨ (p.records i).transmissionStarted = true) :
    Moves R ⟨p.toCore, g⟩ ⟨p.markFrontFrameStarted.toCore, g⟩ := by
  unfold Pipeline.markFrontFrameStarted
  split
  · exact Moves.refl _
  next i rest hq =>
  obtain ⟨hi, hstate, hvalid⟩ := hinv.front hq
  rw [if_neg (by unfold kPacketBufferCount; omega), if_neg (by simp [hstate, hvalid])]
  by_cases hst : (p.records i).transmissionStarted = true
  · -- already started: the record does not change
    have hsame : p.setRecord i { p.records i with transmissionStarted := true } = p.toCore := by
      have : { p.records i with transmissionStarted := true } = p.records i := by rw [← hst]
      rw [this]
      simp [Core.setRecord]
    rw [Pipeline.toCore_withCore, hsame]
  · refine Moves.single (Move.start hq fun ht => ?_)
    exact (hgap ht i (by rw [hq]; rfl)).resolve_right hst

theorem lowerDepth_core (hinv : Inv ⟨p.toCore, g⟩) {q : Pipeline}
    (hdepth : q.transmitDepthBySource = p.transmitDepthBySource) (hi : i < 200)
    (hstate : (p.records i).state = .transmitting) (hs : (p.records i).stream = s) :
    (q.lowerDepth s).toCore = q.setDepth s (p.transmitDepthBySource s - 1) := by
  have hpos : p.transmitDepthBySource s ≠ 0 := by
    rw [hinv.queues.depth]
    intro h0
    have := countTo_eq_zero.mp h0 i hi
    simp [hstate, hs] at this
  unfold Pipeline.lowerDepth
  rw [if_neg (by rw [hdepth]; exact hpos), hdepth]
  rfl

theorem abortFrontFrame_moves (hinv : Inv ⟨p.toCore, g⟩)
    (hstarted : ∀ i, p.transmitQueue.head? = some i → (p.records i).transmissionStarted = true) :
    Moves R ⟨p.toCore, g⟩ ⟨p.abortFrontFrame.1.toCore, g⟩ := by
  unfold Pipeline.abortFrontFrame
  split
  · exact Moves.refl _
  next i rest hq =>
  obtain ⟨hi, hstate, hvalid⟩ := hinv.front hq
  have hst := hstarted i (by rw [hq]; rfl)
  have hrec : (p.withCore (p.setTransmit rest)).records i = p.records i := rfl
  rw [if_neg (by unfold kPacketBufferCount; omega), if_neg (by simp [Core.setTransmit, hstate, hst])]
  have hlow := lowerDepth_core (q := p.withCore (p.setTransmit rest)) hinv rfl hi hstate rfl
  have hdrop := dropBuffer_core (p := (p.withCore (p.setTransmit rest)).lowerDepth
    (p.records i).stream) hi (by rw [hlow]; show (p.records i).state ≠ .free; rw [hstate]; decide) false
  have hmove := Move.abort (R := R) (g := g) hq hst
  have herase : p.transmitQueue.erase i = rest := by rw [hq, List.erase_cons_head]
  unfold Core.unqueue at hmove
  rw [herase] at hmove
  rw [hrec, hdrop, hlow]
  exact Moves.single hmove

/-- The history of a `releaseFrontFrame`. -/
def History.sent (g : History) (p : Pipeline) : History :=
  match p.transmitQueue with
  | [] => g
  | i :: _ => g.release (p.records i).stream i (p.records i).sequence (flagsOf (p.frames i))

theorem releaseFrontFrame_moves (hinv : Inv ⟨p.toCore, g⟩)
    (hstarted : R.transport = true → ∀ i, p.transmitQueue.head? = some i →
      (p.records i).transmissionStarted = true) :
    Moves R ⟨p.toCore, g⟩ ⟨p.releaseFrontFrame.toCore, g.sent p⟩ := by
  unfold Pipeline.releaseFrontFrame History.sent
  cases hq : p.transmitQueue with
  | nil => exact Moves.refl _
  | cons i rest =>
    simp only
    obtain ⟨hi, hstate, hvalid⟩ := hinv.front hq
    have hvalid' : (p.withCore (p.setTransmit rest)).validFrameSize i = true := hvalid
    rw [if_neg (by unfold kPacketBufferCount; omega),
      if_neg (by rw [hvalid']; simp [Core.setTransmit, hstate])]
    unfold Pipeline.recycle
    rw [if_neg (by unfold kPacketBufferCount; omega), Pipeline.toCore_withCore]
    have hmove := Move.release (R := R) (g := g) hq fun ht => hstarted ht i (by rw [hq]; rfl)
    have herase : p.transmitQueue.erase i = rest := by rw [hq, List.erase_cons_head]
    unfold Core.release Core.unqueue at hmove
    rw [herase] at hmove
    rw [lowerDepth_core (i := i) (s := ((p.withCore (p.setTransmit rest)).records i).stream) hinv ?_
      hi hstate rfl]
    · convert Moves.single hmove using 2
      simp [Core.setRecord, Core.setCounters, Core.setDepth, Core.setTransmit]
    · rfl

/-! ### Deferred codecs -/

theorem discardDeferred_moves (hinv : Inv ⟨p.toCore, g⟩) (hmem : i ∈ p.readyQueues s)
    {q : Pipeline} {f : PacketFrame} {size : ℕ} (hcore : q.toCore = p.toCore.rework i f size) :
    Moves R ⟨p.toCore, g⟩ ⟨(q.discardDeferred s i).toCore, g⟩ := by
  have hlive : (p.records i).state ≠ .free := by
    rcases ((hinv.queues.ready_mem s i).mp hmem).2 with h | ⟨h, -⟩ <;> rw [h] <;> decide
  have hdrop := dropBuffer_core (p := q.withCore (q.setReady s ((q.readyQueues s).erase i)))
    ((hinv.slot i).bound hlive) (by
      show (q.records i).state ≠ .free
      rw [hcore]
      simpa [Core.rework, Core.setRecord] using hlive) false
  unfold Pipeline.discardDeferred
  rw [hdrop, Pipeline.toCore_withCore, hcore]
  exact Moves.single (Move.dropQueued hmem)

/-- The codec leaves its result in the page, at most after scribbling on a free one. -/
theorem codec_moves (hinv : Inv ⟨p.toCore, g⟩) (hwait : Waiting p.toCore)
    (hstate : (p.records i).state = .filling) (hsize : (p.records i).frameSize ≠ 0) :
    ∃ c f size, Moves R ⟨p.toCore, g⟩ ⟨c, g⟩ ∧ Coded c i (g.origin i) f size ∧
      c.records = p.records ∧ c.readyQueues = p.readyQueues ∧
      (if (p.records i).stream = .gpio then p.compressGpio i else p.packAdc12 i).1.toCore =
        c.rework i f size := by
  have hlive : (p.records i).state ≠ .free := by rw [hstate]; decide
  have hdeferred := hwait i hstate hsize
  have hframed := (hinv.slot i).framed hsize
  unfold Core.deferred at hdeferred
  simp only [Bool.and_eq_true] at hdeferred
  obtain ⟨hv3, hpolicy⟩ := hdeferred
  have hsame : Coded p.toCore i (g.origin i) (p.frames i) (p.records i).frameSize :=
    ⟨hsize, hframed.published, rfl⟩
  unfold Framed at hframed
  rw [if_pos hv3] at hframed
  obtain ⟨d, hd, hraw⟩ := hframed
  cases hstream : (p.records i).stream with
  | gpio =>
    rw [if_pos rfl]
    rw [hstream] at hpolicy
    rcases compressGpio_cases hv3 hd (hraw hstate) hstream (by simpa using hpolicy) hlive
      (fun j => (hinv.slot j).free) with ⟨b, heq | heq⟩ | ⟨scratch, t, f, size, hfree, hcoded, heq⟩
    · exact ⟨p.toCore, _, _, Moves.refl _, hsame, rfl, rfl, by rw [heq, Core.rework_self]⟩
    · exact ⟨p.toCore, _, _, Moves.refl _, hsame, rfl, rfl, by
        rw [heq, Core.rework_self]
        rfl⟩
    · have hne : i ≠ scratch := fun he => hlive (he ▸ hfree)
      refine ⟨p.toCore.setFrame scratch t, f, size, Moves.single (Move.scribble ?_),
        ⟨hcoded.size_ne, hcoded.framed, ?_⟩, rfl, rfl, by rw [heq]; rfl⟩
      · rw [(hinv.slot scratch).free hfree]
      · rw [hcoded.flags]
        simp [Core.setFrame, Function.update_of_ne hne]
  | adc =>
    rw [if_neg (by decide)]
    rw [hstream] at hpolicy
    obtain ⟨f, size, hcoded, heq⟩ := packAdc12_cases hv3 hd (hraw hstate) hstream
      (by simpa using hpolicy) ((hinv.slot i).count hlive)
    exact ⟨p.toCore, f, size, Moves.refl _, hcoded, rfl, rfl, by rw [heq]; rfl⟩

theorem encodeDeferred_moves (hinv : Inv ⟨p.toCore, g⟩) (hwait : Waiting p.toCore)
    (hmem : i ∈ p.readyQueues s) (hstate : (p.records i).state = .filling)
    (hsize : (p.records i).frameSize ≠ 0) (ticks : UInt64) (readTicks : Option (UInt64 × UInt64)) :
    Moves R ⟨p.toCore, g⟩ ⟨(p.encodeDeferred ticks readTicks s i).toCore, g⟩ := by
  obtain ⟨c, f, size, hmoves, hcoded, hrec, hready, hcore⟩ :=
    codec_moves (R := R) hinv hwait hstate hsize
  refine hmoves.trans ?_
  have hinv' := hinv.moves hmoves
  have hmem' : i ∈ c.readyQueues s := by rw [hready]; exact hmem
  have hdiscard : ∀ q : Pipeline, q.toCore = c.rework i f size →
      Moves R ⟨c, g⟩ ⟨(q.discardDeferred s i).toCore, g⟩ := fun q hq =>
    discardDeferred_moves (p := p.withCore c) hinv' hmem' hq
  unfold Pipeline.encodeDeferred
  generalize (if (p.records i).stream = .gpio then p.compressGpio i else p.packAdc12 i) = coded
    at hcore ⊢
  simp only
  generalize decide (80000 ≤ _) = late
  unfold Pipeline.settleDeferred
  split
  · exact hdiscard _ hcore
  split
  · exact hdiscard _ hcore
  · have hpublish := Move.publish (R := R) (c := c) (g := g) (i := i) (f := f) (n := size)
      ((hinv.slot i).bound (by rw [hstate]; decide)) (by rw [hrec]; exact hstate)
      (by rw [hrec]; exact hsize) hcoded.size_ne hcoded.framed hcoded.flags
    rw [← hcore] at hpublish
    exact Moves.single hpublish

theorem oldestDeferred_some (h : p.oldestDeferred s = some i) : i ∈ p.readyQueues s ∧
    (p.records i).state = .filling ∧ (p.records i).frameSize ≠ 0 := by
  unfold Pipeline.oldestDeferred at h
  have hp := List.find?_some h
  simp only [Bool.and_eq_true, decide_eq_true_eq] at hp
  exact ⟨List.mem_of_find?_eq_some h, hp.1.2, hp.2⟩

theorem serviceDeferredFrom_moves (ticks : UInt64) (budget : ℕ)
    (readTicks : Option (UInt64 × UInt64)) : ∀ (l : List Stream) (p : Pipeline),
    Inv ⟨p.toCore, g⟩ → Waiting p.toCore → Moves R ⟨p.toCore, g⟩
      ⟨(Pipeline.serviceDeferredFrom ticks budget readTicks l p).toCore, g⟩ := by
  intro l
  induction l with
  | nil => intro p _ _; exact Moves.refl _
  | cons s rest ih =>
    intro p hinv hwait
    unfold Pipeline.serviceDeferredFrom
    cases hold : p.oldestDeferred s with
    | none => exact ih p hinv hwait
    | some i =>
      obtain ⟨hmem, hstate, hsize⟩ := oldestDeferred_some hold
      simp only
      generalize haged : p.setCodec s _ = aged
      have hcore : aged.toCore = p.toCore := by rw [← haged]; rfl
      rw [← hcore] at hinv hwait ⊢
      have hsame : aged.toCore = aged.toCore.rework i (aged.frames i) (aged.records i).frameSize :=
        (Core.rework_self _ _).symm
      have hmem' : i ∈ aged.readyQueues s := by rw [hcore]; exact hmem
      split
      · -- a page past its deadline is dropped and the other source gets its turn
        have hdrop := discardDeferred_moves (R := R) (q := aged.setCodec s
          { aged.codecCounters s with deadlineDrops := sat32 (aged.codecCounters s).deadlineDrops 1 })
          hinv hmem' hsame
        exact hdrop.trans (ih _ (hinv.moves hdrop) (hwait.moves hdrop))
      split
      · exact ih aged hinv hwait
      · exact encodeDeferred_moves hinv hwait hmem' (by rw [hcore]; exact hstate)
          (by rw [hcore]; exact hsize) ticks readTicks

theorem serviceDeferred_moves (hinv : Inv ⟨p.toCore, g⟩) (hwait : Waiting p.toCore)
    (ticks : UInt64) (budget : ℕ) (readTicks : Option (UInt64 × UInt64)) :
    Moves R ⟨p.toCore, g⟩ ⟨(p.serviceDeferred ticks budget readTicks).toCore, g⟩ := by
  unfold Pipeline.serviceDeferred
  split
  · exact Moves.refl _
  · exact serviceDeferredFrom_moves ticks budget readTicks _ (p.setDeferredClock ticks) hinv hwait

end ThingDaq
