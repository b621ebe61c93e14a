import ThingDaq.Pipeline.Ownership

/-!
# Eviction

When the pool has no free buffer, `beginFill` takes the buffer of the oldest complete frame
that the transport has not started.  The scan reads the first timestamps out of the pages;
between equal timestamps it prefers the stream whose turn it is, and within a stream the
earlier sequence.

## Main definitions

* `Core.unsent` — a complete frame none of which was sent.
* `Oldest` — what the scan looks for.

## Main results

* `oldestEvictable_spec` — the scan finds it.
* `takeFreeBuffer_spec` — a free buffer, a refusal or one eviction.
* `eviction_policy` — what `beginFill` does in every reachable state.
-/

namespace ThingDaq

open Wire Table

namespace Core

variable (c : Core)

/-- READY, or TRANSMITTING before its first byte was accepted. -/
def unsent (i : ℕ) : Bool :=
  (c.records i).state = .ready ||
    ((c.records i).state = .transmitting && !(c.records i).transmissionStarted)

/-- The first timestamp in the page. -/
def ticksOf (i : ℕ) : ℕ := leValue (slice (c.frames i).bytes 32 8)

/-- The frames the scan considers. -/
def evictable (i : ℕ) : Bool := c.unsent i && c.validFrameSize i

/-- The sequence of a buffer, counted from `base`. -/
def sequenceFrom (base : UInt32) (i : ℕ) : ℕ := ((c.records i).sequence - base).toNat

end Core

/-- The modular comparison of the scan, for sequences less than half a turn after `base`. -/
theorem sequence_behind {a b base : UInt32} (ha : (a - base).toNat < 2 ^ 31)
    (hb : (b - base).toNat < 2 ^ 31) :
    0x80000000 ≤ (a - b).toNat ↔ (a - base).toNat < (b - base).toNat := by
  rw [UInt32.toNat_sub] at ha hb ⊢
  rw [UInt32.toNat_sub, UInt32.toNat_sub]
  have h1 := a.toNat_lt
  have h2 := b.toNat_lt
  have h3 := base.toNat_lt
  omega

/-! ### The scan -/

/-- The oldest of the frames seen so far: the first timestamp, then the stream whose turn it
is, then the sequence. -/
structure Oldest (p : Pipeline) (seen : List ℕ) (v : ℕ) : Prop where
  mem : v ∈ seen
  evictable : p.evictable v = true
  ticks : ∀ j ∈ seen, p.evictable j = true → p.ticksOf v ≤ p.ticksOf j
  turn : ∀ j ∈ seen, p.evictable j = true → p.ticksOf j = p.ticksOf v →
    (p.records j).stream = p.nextEvictionSource → (p.records v).stream = p.nextEvictionSource
  sequence : ∀ base, (∀ j ∈ seen, p.evictable j = true →
      (p.records j).stream = (p.records v).stream → p.sequenceFrom base j < 2 ^ 31) →
    ∀ j ∈ seen, p.evictable j = true → p.ticksOf j = p.ticksOf v →
      (p.records j).stream = (p.records v).stream → p.sequenceFrom base v ≤ p.sequenceFrom base j

/-- The state of the scan. -/
def Scanned (p : Pipeline) (seen : List ℕ) : Option ℕ → Prop
  | none => ∀ j ∈ seen, p.evictable j = false
  | some v => Oldest p seen v

section Scan

variable {p : Pipeline} {seen : List ℕ} {v x : ℕ}

/-- A frame that cannot be evicted changes nothing. -/
theorem Scanned.skip {best : Option ℕ} (h : Scanned p seen best) (hx : p.evictable x = false) :
    Scanned p (seen ++ [x]) best := by
  have hnot : ∀ {P : Prop} {j : ℕ}, j ∈ seen ++ [x] → p.evictable j = true → (j ∈ seen → P) → P := by
    intro P j hj he hseen
    rcases List.mem_append.mp hj with hj | hj
    · exact hseen hj
    · rw [List.mem_singleton.mp hj, hx] at he
      cases he
  cases best with
  | none =>
    intro j hj
    rcases List.mem_append.mp hj with hj | hj
    · exact h j hj
    · rw [List.mem_singleton.mp hj]
      exact hx
  | some v =>
    exact
      { mem := List.mem_append_left _ h.mem
        evictable := h.evictable
        ticks := fun j hj he => hnot hj he fun hj => h.ticks j hj he
        turn := fun j hj he => hnot hj he fun hj => h.turn j hj he
        sequence := fun base hbase j hj he => hnot hj he fun hj => h.sequence base
          (fun k hk => hbase k (List.mem_append_left _ hk)) j hj he }

/-- The first frame that can be evicted. -/
theorem Scanned.first (h : Scanned p seen none) (hx : p.evictable x = true) :
    Scanned p (seen ++ [x]) (some x) := by
  have honly : ∀ {j : ℕ}, j ∈ seen ++ [x] → p.evictable j = true → j = x := by
    intro j hj he
    rcases List.mem_append.mp hj with hj | hj
    · rw [h j hj] at he
      cases he
    · exact List.mem_singleton.mp hj
  exact
    { mem := List.mem_append_right _ (List.mem_singleton_self x)
      evictable := hx
      ticks := fun j hj he => by rw [honly hj he]
      turn := fun j hj he _ hs => by rw [← honly hj he]; exact hs
      sequence := fun base _ j hj he _ _ => by rw [honly hj he] }

/-- The best so far stays. -/
theorem Oldest.keep (h : Oldest p seen v) (hticks : p.ticksOf v ≤ p.ticksOf x)
    (hturn : p.ticksOf x = p.ticksOf v → (p.records x).stream = p.nextEvictionSource →
      (p.records v).stream = p.nextEvictionSource)
    (hsequence : p.ticksOf x = p.ticksOf v → (p.records x).stream = (p.records v).stream →
      ((p.records x).sequence - (p.records v).sequence).toNat < 0x80000000) :
    Oldest p (seen ++ [x]) v where
  mem := List.mem_append_left _ h.mem
  evictable := h.evictable
  ticks := by
    intro j hj he
    rcases List.mem_append.mp hj with hj | hj
    · exact h.ticks j hj he
    · rw [List.mem_singleton.mp hj]
      exact hticks
  turn := by
    intro j hj he ht hs
    rcases List.mem_append.mp hj with hj | hj
    · exact h.turn j hj he ht hs
    · rw [List.mem_singleton.mp hj] at ht hs
      exact hturn ht hs
  sequence := by
    intro base hbase j hj he ht hs
    have hold : ∀ k ∈ seen, p.evictable k = true →
        (p.records k).stream = (p.records v).stream → p.sequenceFrom base k < 2 ^ 31 :=
      fun k hk => hbase k (List.mem_append_left _ hk)
    rcases List.mem_append.mp hj with hj | hj
    · exact h.sequence base hold j hj he ht hs
    · have hwindow := hbase j (List.mem_append_right _ hj) he hs
      rw [List.mem_singleton.mp hj] at ht hs hwindow ⊢
      have hlt := hsequence ht hs
      have hiff := sequence_behind hwindow (hold v h.mem h.evictable rfl)
      unfold Core.sequenceFrom at hwindow ⊢
      omega

/-- A frame with an earlier timestamp takes over. -/
theorem Oldest.earlier (h : Oldest p seen v) (hx : p.evictable x = true)
    (hticks : p.ticksOf x < p.ticksOf v) : Oldest p (seen ++ [x]) x where
  mem := List.mem_append_right _ (List.mem_singleton_self x)
  evictable := hx
  ticks := by
    intro j hj he
    rcases List.mem_append.mp hj with hj | hj
    · exact le_of_lt (lt_of_lt_of_le hticks (h.ticks j hj he))
    · rw [List.mem_singleton.mp hj]
  turn := by
    intro j hj he ht hs
    rcases List.mem_append.mp hj with hj | hj
    · have := h.ticks j hj he
      omega
    · rw [← List.mem_singleton.mp hj]
      exact hs
  sequence := by
    intro base _ j hj he ht _
    rcases List.mem_append.mp hj with hj | hj
    · have := h.ticks j hj he
      omega
    · rw [List.mem_singleton.mp hj]

/-- A frame with the same timestamp of the stream whose turn it is takes over from one of the
other stream. -/
theorem Oldest.yield (h : Oldest p seen v) (hx : p.evictable x = true)
    (hticks : p.ticksOf x = p.ticksOf v) (hturn : (p.records x).stream = p.nextEvictionSource)
    (hother : (p.records v).stream ≠ p.nextEvictionSource) : Oldest p (seen ++ [x]) x where
  mem := List.mem_append_right _ (List.mem_singleton_self x)
  evictable := hx
  ticks := by
    intro j hj he
    rcases List.mem_append.mp hj with hj | hj
    · rw [hticks]
      exact h.ticks j hj he
    · rw [List.mem_singleton.mp hj]
  turn := fun _ _ _ _ _ => hturn
  sequence := by
    intro base _ j hj he ht hs
    rcases List.mem_append.mp hj with hj | hj
    · -- no frame of that stream was seen with this timestamp
      exact absurd (h.turn j hj he (ht.trans hticks) (hs.trans hturn)) hother
    · rw [List.mem_singleton.mp hj]

/-- A frame of the same stream with the same timestamp and an earlier sequence takes over. -/
theorem Oldest.behind (h : Oldest p seen v) (hx : p.evictable x = true)
    (hticks : p.ticksOf x = p.ticksOf v) (hsame : (p.records x).stream = (p.records v).stream)
    (hsequence : 0x80000000 ≤ ((p.records x).sequence - (p.records v).sequence).toNat) :
    Oldest p (seen ++ [x]) x where
  mem := List.mem_append_right _ (List.mem_singleton_self x)
  evictable := hx
  ticks := by
    intro j hj he
    rcases List.mem_append.mp hj with hj | hj
    · rw [hticks]
      exact h.ticks j hj he
    · rw [List.mem_singleton.mp hj]
  turn := by
    intro j hj he ht hs
    rcases List.mem_append.mp hj with hj | hj
    · rw [hsame]
      exact h.turn j hj he (ht.trans hticks) hs
    · rw [← List.mem_singleton.mp hj]
      exact hs
  sequence := by
    intro base hbase j hj he ht hs
    have hold : ∀ k ∈ seen, p.evictable k = true →
        (p.records k).stream = (p.records v).stream → p.sequenceFrom base k < 2 ^ 31 :=
      fun k hk he hk' => hbase k (List.mem_append_left _ hk) he (hk'.trans hsame.symm)
    have hxwindow := hbase x (List.mem_append_right _ (List.mem_singleton_self x)) hx rfl
    have hvwindow := hold v h.mem h.evictable rfl
    have hlt := (sequence_behind hxwindow hvwindow).mp hsequence
    rcases List.mem_append.mp hj with hj | hj
    · have hle := h.sequence base hold j hj he (ht.trans hticks) (hs.trans hsame)
      unfold Core.sequenceFrom at hle ⊢
      omega
    · rw [List.mem_singleton.mp hj]

/-- One step of the scan. -/
theorem Scanned.step {best : Option ℕ} (h : Scanned p seen best) (x : ℕ) :
    Scanned p (seen ++ [x]) (p.olderEvictable best x) := by
  have hguard : (!(decide ((p.records x).state = .ready) ||
      (decide ((p.records x).state = .transmitting) && !(p.records x).transmissionStarted)) ||
        !p.validFrameSize x) = !p.evictable x := by
    unfold Core.evictable Core.unsent
    rw [Bool.not_and]
  unfold Pipeline.olderEvictable
  dsimp only
  rw [hguard]
  cases hx : p.evictable x with
  | false =>
    rw [if_pos (show (!false) = true from rfl)]
    exact h.skip hx
  | true =>
    rw [if_neg (by simp)]
    cases best with
    | none => exact h.first hx
    | some v =>
      dsimp only
      have hv : Oldest p seen v := h
      by_cases hlt : leValue (slice (p.frames x).bytes 32 8) < leValue (slice (p.frames v).bytes 32 8)
      · rw [if_pos hlt]
        exact hv.earlier hx hlt
      rw [if_neg hlt]
      by_cases hne : leValue (slice (p.frames x).bytes 32 8) ≠ leValue (slice (p.frames v).bytes 32 8)
      · rw [if_pos hne]
        have hno : ¬p.ticksOf x = p.ticksOf v := hne
        exact hv.keep (not_lt.mp hlt) (fun ht => absurd ht hno) (fun ht => absurd ht hno)
      rw [if_neg hne]
      have heq : p.ticksOf x = p.ticksOf v := not_not.mp hne
      split
      · rename_i hturn
        simp only [Bool.and_eq_true, decide_eq_true_eq, ne_eq] at hturn
        exact hv.yield hx heq hturn.1 hturn.2
      rename_i hturn
      simp only [Bool.and_eq_true, decide_eq_true_eq, ne_eq, not_and, not_not] at hturn
      split
      · rename_i hbehind
        simp only [Bool.and_eq_true, decide_eq_true_eq] at hbehind
        exact hv.behind hx heq hbehind.1 hbehind.2
      · rename_i hbehind
        simp only [Bool.and_eq_true, decide_eq_true_eq, not_and, not_le] at hbehind
        exact hv.keep (le_of_eq heq.symm) (fun _ => hturn) (fun _ => hbehind)

/-- The whole scan. -/
theorem oldestEvictable_spec (p : Pipeline) :
    Scanned p (List.range kPacketBufferCount) p.oldestEvictableCompleteBuffer := by
  have hscan : ∀ (l seen : List ℕ) (best : Option ℕ), Scanned p seen best →
      Scanned p (seen ++ l) (l.foldl p.olderEvictable best) := by
    intro l
    induction l with
    | nil =>
      intro seen best h
      rw [List.append_nil]
      exact h
    | cons x l ih =>
      intro seen best h
      have hnext := ih (seen ++ [x]) (p.olderEvictable best x) (h.step x)
      rw [List.append_assoc] at hnext
      exact hnext
  have hall := hscan (List.range kPacketBufferCount) [] none (by simp [Scanned])
  rwa [List.nil_append] at hall

end Scan

/-! ### Taking a buffer -/

section Take

variable {p : Pipeline} {g : History} {v : ℕ}

theorem dropBuffer_pressureEvictions (p : Pipeline) (i : ℕ) (evict : Bool) :
    (p.dropBuffer i evict).pressureEvictions = p.pressureEvictions := by
  have hrecycle : ∀ q : Pipeline, (q.recycle i).pressureEvictions = q.pressureEvictions := by
    intro q
    unfold Pipeline.recycle
    split <;> rfl
  have hpropagate : ∀ (q : Pipeline) (r : BufferRecord),
      (q.propagateGapAfter r).pressureEvictions = q.pressureEvictions := by
    intro q r
    unfold Pipeline.propagateGapAfter
    split
    · unfold Pipeline.markGapBefore
      dsimp only
      split
      · rfl
      split <;> rfl
    · rfl
  unfold Pipeline.dropBuffer
  dsimp only
  split
  · rfl
  · rw [hrecycle]
    exact hpropagate _ _

/-- The pipeline after the frame of one buffer was evicted: its buffer is free, another one may
have a gap mark more, and the pages are as they were. -/
structure Evicted (p q : Pipeline) (v : ℕ) : Prop where
  victim : q.records v = {}
  other : ∀ j, j ≠ v → q.records j = { p.records j with
    gapBeforeRequired := (p.records j).gapBeforeRequired || p.marked (p.records v) j }
  frames : q.frames = p.frames
  pressureEvictions : q.pressureEvictions = sat64 p.pressureEvictions 1

/-- Dropping the buffer once it is out of its queue. -/
theorem evicted_drop {q out : Pipeline} (hbound : v < 200) (hlive : (p.records v).state ≠ .free)
    (hrec : q.records = p.records) (hframes : q.frames = p.frames)
    (hpressure : q.pressureEvictions = p.pressureEvictions)
    (hcore : out.toCore = (q.dropBuffer v true).toCore)
    (hcount : out.pressureEvictions = sat64 (q.dropBuffer v true).pressureEvictions 1) :
    Evicted p out v := by
  rw [dropBuffer_core hbound (by rw [hrec]; exact hlive) true] at hcore
  have hmarked : ∀ j, q.marked (p.records v) j = p.marked (p.records v) j := by
    intro j
    unfold Core.marked Core.findSuccessor Core.successorDistance
    rw [hrec]
  refine ⟨?_, ?_, ?_, ?_⟩
  · rw [hcore]
    exact Core.drop_record_self _ v true
  · intro j hj
    rw [hcore, Core.drop_record_ne _ true hj, hrec, hmarked]
  · rw [hcore, (q.toCore.drop_other v true).1, hframes]
  · rw [hcount, dropBuffer_pressureEvictions, hpressure]

/-- Under the invariant an eviction of an unsent frame succeeds. -/
theorem evictCompleteBuffer_evicted (hinv : Inv ⟨p.toCore, g⟩) (hv : p.evictable v = true) :
    (p.evictCompleteBuffer v).2 = true ∧ Evicted p (p.evictCompleteBuffer v).1 v := by
  unfold Core.evictable Core.unsent at hv
  simp only [Bool.and_eq_true, Bool.or_eq_true, decide_eq_true_eq, Bool.not_eq_true'] at hv
  obtain ⟨hunsent, hvalid⟩ := hv
  have hlive : (p.records v).state ≠ .free := by
    rcases hunsent with h | ⟨h, -⟩ <;> rw [h] <;> decide
  have hbound : v < 200 := (hinv.slot v).bound hlive
  have hstarted : (p.records v).transmissionStarted = false := by
    rcases hunsent with h | ⟨-, h⟩
    · exact hinv.not_started h (by decide)
    · exact h
  unfold Pipeline.evictCompleteBuffer
  dsimp only
  rw [if_neg (by unfold kPacketBufferCount; omega), if_neg (by
    simp only [Bool.or_eq_true, Bool.and_eq_true, decide_eq_true_eq, hstarted, hvalid, ne_eq]
    rcases hunsent with h | ⟨h, -⟩ <;> simp [h])]
  split
  · rename_i hready
    have hmem : v ∈ p.readyQueues (p.records v).stream :=
      (hinv.queues.ready_mem _ _).mpr ⟨rfl, Or.inl hready⟩
    rw [eraseFirst_eq_some hmem]
    refine ⟨rfl, evicted_drop (q := p.withCore (p.setReady (p.records v).stream
      ((p.readyQueues (p.records v).stream).erase v))) hbound hlive rfl rfl rfl rfl rfl⟩
  · rename_i hready
    have hsent : (p.records v).state = .transmitting := by
      rcases hunsent with h | ⟨h, -⟩
      · exact absurd h hready
      · exact h
    have hmem : v ∈ p.transmitQueue := (hinv.queues.transmit_mem v).mpr hsent
    have hdepth : p.transmitDepthBySource (p.records v).stream ≠ 0 := by
      rw [hinv.queues.depth]
      intro hzero
      have := countTo_eq_zero.mp hzero v hbound
      simp [hsent] at this
    rw [if_neg hdepth, eraseFirst_eq_some hmem]
    dsimp only
    generalize hlowered : p.withCore _ = lowered
    have hrec : lowered.records = p.records := by rw [← hlowered]; rfl
    have hframes : lowered.frames = p.frames := by rw [← hlowered]; rfl
    have hpressure : lowered.pressureEvictions = p.pressureEvictions := by rw [← hlowered]; rfl
    exact ⟨rfl, evicted_drop hbound hlive hrec hframes hpressure rfl rfl⟩

/-- The three ways to take a buffer. -/
theorem takeFreeBuffer_spec (hinv : Inv ⟨p.toCore, g⟩)
    (hvalid : ∀ i, p.unsent i = true → p.validFrameSize i = true) :
    (∃ i n, i < 200 ∧ (p.records i).state = .free ∧
      p.takeFreeBuffer = ({ p with nextFreeSearch := n }, some i)) ∨
    ((∀ i < 200, (p.records i).state ≠ .free) ∧
      (((∀ i, p.unsent i = false) ∧
        p.takeFreeBuffer = ({ p with poolExhaustions := sat32 p.poolExhaustions 1 }, none)) ∨
      ∃ q v, Oldest p (List.range 200) v ∧ Evicted p q v ∧ p.takeFreeBuffer = (q, some v))) := by
  unfold Pipeline.takeFreeBuffer
  dsimp only
  split
  · rename_i o hfind
    have hfree := List.find?_some hfind
    refine Or.inl ⟨_, _, Nat.mod_lt _ (by decide), ?_, rfl⟩
    simpa using hfree
  rename_i hfind
  have hfull : ∀ i < 200, (p.records i).state ≠ .free := by
    intro i hi hfree
    rw [List.find?_eq_none] at hfind
    have hoffset := hfind ((i + 200 - p.nextFreeSearch % 200) % 200)
      (List.mem_range.mpr (Nat.mod_lt _ (by decide)))
    simp only [decide_eq_true_eq] at hoffset
    have hindex : (p.nextFreeSearch + (i + 200 - p.nextFreeSearch % 200) % 200) %
        kPacketBufferCount = i := by
      unfold kPacketBufferCount
      omega
    rw [hindex] at hoffset
    exact hoffset hfree
  refine Or.inr ⟨hfull, ?_⟩
  generalize hcounted : ({ p with poolExhaustions := sat32 p.poolExhaustions 1 } : Pipeline) = counted
  have hscan : Scanned p (List.range kPacketBufferCount) counted.oldestEvictableCompleteBuffer := by
    rw [← hcounted]
    exact oldestEvictable_spec p
  have hcore : counted.toCore = p.toCore := by rw [← hcounted]
  have hpressure : counted.pressureEvictions = p.pressureEvictions := by rw [← hcounted]
  split
  · rename_i hnone
    rw [hnone] at hscan
    refine Or.inl ⟨?_, rfl⟩
    intro i
    rw [Bool.eq_false_iff]
    intro hunsent
    have hlive : (p.records i).state ≠ .free := by
      intro hfree
      simp [Core.unsent, hfree] at hunsent
    have hno := hscan i (List.mem_range.mpr ((hinv.slot i).bound hlive))
    simp [Core.evictable, hunsent, hvalid i hunsent] at hno
  · rename_i v hsome
    rw [hsome] at hscan
    have hold : Oldest p (List.range 200) v := hscan
    have hcand : counted.evictable v = true := by
      rw [hcore]
      exact hold.evictable
    obtain ⟨hok, hev⟩ := evictCompleteBuffer_evicted (p := counted) (g := g)
      (by rw [hcore]; exact hinv) hcand
    rw [if_pos hok]
    refine Or.inr ⟨_, v, hold, ?_, rfl⟩
    refine ⟨hev.victim, ?_, ?_, ?_⟩
    · intro j hj
      have hother := hev.other j hj
      rw [hcore] at hother
      exact hother
    · have hframes := hev.frames
      rw [hcore] at hframes
      exact hframes
    · have hcount := hev.pressureEvictions
      rw [hpressure] at hcount
      exact hcount

end Take

/-! ### Every reachable state -/

/-- The frame of buffer `v` was evicted, and rightly. -/
structure Evicts (p q : Pipeline) (v : ℕ) : Prop where
  full : ∀ i < kPacketBufferCount, (p.records i).state ≠ .free
  unsent : p.unsent v = true
  earliest : ∀ j, p.unsent j = true → p.ticksOf v ≤ p.ticksOf j
  /-- between equal timestamps the stream whose turn it is goes first -/
  turn : ∀ j, p.unsent j = true → p.ticksOf j = p.ticksOf v →
    (p.records j).stream = p.nextEvictionSource → (p.records v).stream = p.nextEvictionSource
  /-- when the timestamps of the stream do not decrease along its sequences, none of which is
  half a turn ahead of another, the frame is the first of its stream -/
  oldest : ∀ base,
    (∀ j, p.unsent j = true → (p.records j).stream = (p.records v).stream →
      p.sequenceFrom base j < 2 ^ 31) →
    (∀ i j, p.unsent i = true → p.unsent j = true →
      (p.records i).stream = (p.records v).stream → (p.records j).stream = (p.records v).stream →
      p.sequenceFrom base i < p.sequenceFrom base j → p.ticksOf i ≤ p.ticksOf j) →
    ∀ j, p.unsent j = true → (p.records j).stream = (p.records v).stream →
      p.sequenceFrom base v ≤ p.sequenceFrom base j
  /-- every other buffer keeps its frame -/
  others : ∀ j, j ≠ v → q.records j =
    { p.records j with gapBeforeRequired := (q.records j).gapBeforeRequired }
  once : q.pressureEvictions = sat64 p.pressureEvictions 1

/-- The call gets as far as looking for a buffer. -/
def Pipeline.admits (p : Pipeline) (s : Stream) : Bool :=
  p.acceptingFrames && p.runId ≠ 0 && streamEnabled p.enabledStreamMask s

/-- What a `beginFill` may do to the frames in the pool. -/
structure EvictionPolicy (p : Pipeline) (s : Stream) : Prop where
  frames : (p.beginFill s).1.frames = p.frames
  /-- nothing is evicted, or one frame whose buffer the new fill gets -/
  evicts : ((∀ i, (p.records i).state ≠ .free → (p.beginFill s).1.records i = p.records i) ∧
      (p.beginFill s).1.pressureEvictions = p.pressureEvictions) ∨
    ((p.beginFill s).2.status = .ok ∧
      Evicts p (p.beginFill s).1 (p.beginFill s).2.handle.bufferIndex)
  /-- a buffer that is open, deferred or started keeps its frame -/
  held : ∀ i, (p.records i).state = .filling ∨ (p.records i).transmissionStarted = true →
    (p.beginFill s).1.records i = { p.records i with
      gapBeforeRequired := ((p.beginFill s).1.records i).gapBeforeRequired }
  exhausted : p.admits s = true → ((p.beginFill s).2.status = .poolExhausted ↔
    (∀ i < kPacketBufferCount, (p.records i).state ≠ .free) ∧ ∀ i, p.unsent i = false)

section Policy

variable {p q : Pipeline} {g : History} {s : Stream} {v : ℕ}

/-- The buffer that the scan chose and the eviction freed. -/
theorem evicts_of_evicted (hfull : ∀ i < 200, (p.records i).state ≠ .free)
    (hinv : Inv ⟨p.toCore, g⟩) (hvalid : ∀ i, p.unsent i = true → p.validFrameSize i = true)
    (hold : Oldest p (List.range 200) v)
    (hother : ∀ j, j ≠ v → q.records j = { p.records j with
      gapBeforeRequired := (p.records j).gapBeforeRequired || p.marked (p.records v) j })
    (honce : q.pressureEvictions = sat64 p.pressureEvictions 1) : Evicts p q v := by
  have hcand : ∀ j, p.unsent j = true → j ∈ List.range 200 ∧ p.evictable j = true := by
    intro j hj
    have hlive : (p.records j).state ≠ .free := by
      intro hfree
      simp [Core.unsent, hfree] at hj
    exact ⟨List.mem_range.mpr ((hinv.slot j).bound hlive), by simp [Core.evictable, hj, hvalid j hj]⟩
  have hev := hold.evictable
  unfold Core.evictable at hev
  rw [Bool.and_eq_true] at hev
  have hunsent : ∀ j, p.evictable j = true → p.unsent j = true := by
    intro j hj
    unfold Core.evictable at hj
    exact (Bool.and_eq_true_iff.mp hj).1
  refine ⟨hfull, hev.1, ?_, ?_, ?_, ?_, honce⟩
  · intro j hj
    exact hold.ticks j (hcand j hj).1 (hcand j hj).2
  · intro j hj
    exact hold.turn j (hcand j hj).1 (hcand j hj).2
  · intro base hwindow hmono j hj hs
    by_contra hlt
    have hle := hmono j v hj hev.1 hs rfl (by omega)
    have hge := hold.ticks j (hcand j hj).1 (hcand j hj).2
    have hseq := hold.sequence base (fun k _ hk => hwindow k (hunsent k hk)) j (hcand j hj).1
      (hcand j hj).2 (by omega) hs
    omega
  · intro j hj
    rw [hother j hj]

/-- An open fill takes the buffer and leaves the others as they are. -/
theorem openBuffer_records (q : Pipeline) (s : Stream) (i : ℕ) (sequence : UInt32) (items : ℕ)
    {j : ℕ} (hj : j ≠ i) : (q.openBuffer s i sequence items).1.records j = q.records j :=
  Function.update_of_ne hj _ _

theorem policy_of_inv (hinv : Inv ⟨p.toCore, g⟩)
    (hvalid : ∀ i, p.unsent i = true → p.validFrameSize i = true) : EvictionPolicy p s := by
  by_cases hopen : p.admits s = true
  swap
  · -- a call that is not admitted counts as invalid
    have hrefused : (p.beginFill s).1 = p.invalidOperation := by
      unfold Pipeline.admits at hopen
      unfold Pipeline.beginFill
      split
      · rfl
      split
      · rfl
      · rename_i h1 h2
        simp only [Bool.or_eq_true, Bool.not_eq_true', decide_eq_true_eq, not_or] at h1 h2
        simp [h1, h2] at hopen
    exact
      { frames := by rw [hrefused]; rfl
        evicts := Or.inl ⟨fun i _ => by rw [hrefused]; rfl, by rw [hrefused]; rfl⟩
        held := fun i _ => by rw [hrefused]; rfl
        exhausted := fun h => absurd h hopen }
  generalize hproduced : p.withCore (p.setCounters s { p.sourceCounters s with
      nextSequence := (p.sourceCounters s).nextSequence + 1
      framesProduced := sat64 (p.sourceCounters s).framesProduced 1
      itemsProduced := sat64 (p.sourceCounters s).itemsProduced
        (p.setup.stream s).itemCount }) = produced
  have hbegin : ∀ {q taken}, produced.takeFreeBuffer = (q, taken) → p.beginFill s = taken.elim
      (q.refuseFill s (p.sourceCounters s).nextSequence (p.setup.stream s).itemCount)
      fun i => q.openBuffer s i (p.sourceCounters s).nextSequence (p.setup.stream s).itemCount := by
    intro q taken htake
    unfold Pipeline.admits at hopen
    simp only [Bool.and_eq_true, decide_eq_true_eq] at hopen
    subst hproduced
    exact p.beginFill_taken (by simp [hopen]) (by simp [hopen]) htake
  have hrec : produced.records = p.records := by rw [← hproduced]; rfl
  have hframes : produced.frames = p.frames := by rw [← hproduced]; rfl
  have hpressure : produced.pressureEvictions = p.pressureEvictions := by rw [← hproduced]; rfl
  have hinv' : Inv ⟨produced.toCore, g⟩ := by
    rw [← hproduced]
    exact
      { slot := hinv.slot
        queues := hinv.queues.same rfl rfl rfl (fun _ => Iff.rfl) (fun _ => Iff.rfl) (fun _ _ => rfl)
          (fun _ => rfl) }
  have hvalid' : ∀ i, produced.unsent i = true → produced.validFrameSize i = true := by
    rw [← hproduced]
    exact hvalid
  have hunsent : ∀ i, produced.unsent i = p.unsent i := by
    rw [← hproduced]
    exact fun _ => rfl
  rcases takeFreeBuffer_spec hinv' hvalid' with
    ⟨i, n, hi, hfree, htake⟩ | ⟨hfull, ⟨hnone, htake⟩ | ⟨q, v, hold, hev, htake⟩⟩
  · -- a free buffer
    replace hbegin := (hbegin htake).trans (Option.elim_some ..)
    rw [hrec] at hfree
    have hkeep : ∀ j, (p.records j).state ≠ .free → (p.beginFill s).1.records j = p.records j := by
      intro j hj
      have hne : j ≠ i := fun hji => hj (hji ▸ hfree)
      rw [hbegin, openBuffer_records _ _ _ _ _ hne]
      exact congrFun hrec j
    exact
      { frames := by rw [hbegin]; exact hframes
        evicts := Or.inl ⟨hkeep, by rw [hbegin]; exact hpressure⟩
        held := fun j hj => by
          rw [hkeep j]
          rcases hj with hj | hj
          · rw [hj]
            decide
          · rw [(hinv.slot j).started hj]
            decide
        exhausted := fun _ => by
          rw [hbegin]
          exact ⟨fun h => (by cases h), fun h => absurd hfree (h.1 i hi)⟩ }
  · -- nothing to evict
    replace hbegin := (hbegin htake).trans (Option.elim_none ..)
    have hkeep : ∀ j, (p.beginFill s).1.records j = p.records j := by
      intro j
      rw [hbegin]
      exact congrFun hrec j
    exact
      { frames := by rw [hbegin]; exact hframes
        evicts := Or.inl ⟨fun j _ => hkeep j, by rw [hbegin]; exact hpressure⟩
        held := fun j _ => by rw [hkeep j]
        exhausted := fun _ => by
          rw [hbegin]
          refine ⟨fun _ => ⟨fun j hj => ?_, fun j => ?_⟩, fun _ => rfl⟩
          · rw [← hrec]
            exact hfull j hj
          · rw [← hunsent]
            exact hnone j }
  · -- one eviction
    replace hbegin := (hbegin htake).trans (Option.elim_some ..)
    have hold' : Oldest p (List.range 200) v := by
      rw [← hproduced] at hold
      exact ⟨hold.mem, hold.evictable, hold.ticks, hold.turn, hold.sequence⟩
    have hother : ∀ j, j ≠ v → (p.beginFill s).1.records j = { p.records j with
        gapBeforeRequired := (p.records j).gapBeforeRequired || p.marked (p.records v) j } := by
      intro j hj
      rw [hbegin, openBuffer_records _ _ _ _ _ hj, hev.other j hj, ← hproduced]
      rfl
    have hfull' : ∀ i < 200, (p.records i).state ≠ .free := by
      rw [← hrec]
      exact hfull
    have honce : (p.beginFill s).1.pressureEvictions = sat64 p.pressureEvictions 1 := by
      rw [hbegin, ← hpressure, ← hev.pressureEvictions]
      rfl
    have hevicts := evicts_of_evicted (q := (p.beginFill s).1) hfull' hinv hvalid hold' hother honce
    exact
      { frames := by rw [hbegin, ← hframes, ← hev.frames]; rfl
        evicts := by
          refine Or.inr ⟨by rw [hbegin]; rfl, ?_⟩
          have hindex : (p.beginFill s).2.handle.bufferIndex = v := by rw [hbegin]; rfl
          rw [hindex]
          exact hevicts
        held := by
          intro j hj
          apply hevicts.others j
          rintro rfl
          have hun := hevicts.unsent
          rcases hj with hj | hj
          · simp [Core.unsent, hj] at hun
          · have hstate : (p.records j).state = .transmitting := (hinv.slot j).started hj
            simp [Core.unsent, hj, hstate] at hun
        exhausted := by
          intro _
          rw [hbegin]
          refine ⟨fun h => (by cases h), fun h => ?_⟩
          have hun := hevicts.unsent
          rw [h.2 v] at hun
          cases hun }

end Policy

/-- The eviction policy, as long as no timestamp of a finished version 3 frame wraps. -/
theorem eviction_policy {R : Rules} {t : Tracked} (hticks : R.ticks = true) (h : Reach R t)
    (s : Stream) : EvictionPolicy t.pipe s := by
  have hinv := h.good.inv
  have hfits : Fits t.world :=
    h.rule (P := Fits) (fun _ hf => hf.fits) fun _ _ hi ho hm => ho.move hticks hi hm
  refine policy_of_inv (g := t.history) hinv ?_
  intro i hunsent
  have hstate : (t.pipe.records i).state = .ready ∨ (t.pipe.records i).state = .transmitting := by
    simp only [Core.unsent, Bool.or_eq_true, Bool.and_eq_true, decide_eq_true_eq] at hunsent
    exact hunsent.imp id And.left
  have hlive : (t.pipe.records i).state ≠ .free := by
    rcases hstate with hs | hs <;> rw [hs] <;> decide
  have hsize := (hinv.slot i).sized hstate
  exact (hinv.validFrameSize hlive hsize).mpr (hfits i hsize)

/-- Producers that promise nothing may open one fill after the other. -/
theorem guarded_fills {R : Rules} (hone : R.oneOpen = false) (htransport : R.transport = false)
    (s : Stream) (n : ℕ) : ∀ t : Tracked, t.Guarded R (List.replicate n (.beginFill s)) := by
  induction n with
  | zero => exact fun _ => trivial
  | succ n ih =>
    intro t
    refine ⟨⟨?_, ?_⟩, ih _⟩
    · rw [hone]
      exact fun h => by cases h
    · rw [htransport]
      exact fun h => by cases h

theorem Reach.fills {R : Rules} {t : Tracked} (h : Reach R t) (hone : R.oneOpen = false)
    (htransport : R.transport = false) (s : Stream) (n : ℕ) :
    Reach R (t.run (List.replicate n (.beginFill s))) :=
  h.run (guarded_fills hone htransport s n t)

/-- One complete frame and 199 open fills: the next fill takes the frame's buffer. -/
theorem eviction_of_oldest :
    let t := (Tracked.initial.run (oneFrame.take 3)).run (List.replicate 199 (.beginFill .gpio))
    EvictionPolicy t.pipe .adc ∧ (t.pipe.beginFill .adc).2.status = .ok ∧
      (t.pipe.beginFill .adc).2.handle.bufferIndex = 0 := by
  intro t
  have hreach : Reach ⟨false, false, true⟩ t := by
    apply Reach.fills _ rfl rfl
    exact Reach.initial.run ⟨trivial, ⟨fun h => (by cases h), fun h => (by cases h)⟩,
      ⟨fun h => (by cases h), fun _ _ => by decide +kernel⟩, trivial⟩
  have hresult : (t.pipe.beginFill .adc).2.status = .ok ∧
      (t.pipe.beginFill .adc).2.handle.bufferIndex = 0 := by decide +kernel
  exact ⟨eviction_policy rfl hreach .adc, hresult⟩

/-- The same with a frame whose last timestamps wrap: `finishFill` accepts it, the scan does
not consider it, and the fill is refused although a complete frame is unsent. -/
theorem eviction_wrapping :
    let t := (Tracked.initial.run wrappingFrame).run (List.replicate 199 (.beginFill .gpio))
    Reach ⟨false, false, false⟩ t ∧ t.pipe.unsent 0 = true ∧
      (t.pipe.beginFill .adc).2.status = .poolExhausted ∧ ¬EvictionPolicy t.pipe .adc := by
  intro t
  have hreach : Reach ⟨false, false, false⟩ t := by
    apply Reach.fills _ rfl rfl
    exact Reach.initial.run ⟨trivial, ⟨fun h => (by cases h), fun h => (by cases h)⟩,
      ⟨fun h => (by cases h), fun h => (by cases h)⟩, trivial⟩
  have hresult : t.pipe.unsent 0 = true ∧ t.pipe.admits .adc = true ∧
      (t.pipe.beginFill .adc).2.status = .poolExhausted := by decide +kernel
  refine ⟨hreach, hresult.1, hresult.2.2, fun hpolicy => ?_⟩
  have hnone := ((hpolicy.exhausted hresult.2.1).mp hresult.2.2).2 0
  rw [hresult.1] at hnone
  cases hnone

end ThingDaq
