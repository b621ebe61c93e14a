import ThingDaq.Pipeline.Moves

/-!
# The ownership invariant

`Local` says what holds of one buffer, `Queues` how the queues and the table of
records agree, `Inv` is both.  Neither needs anything of the producers, so `Inv`
holds under all rules.

## Main results

* `Core.drop_records` — dropping a buffer frees it and marks at most one other.
* `Inv.move` — every move keeps the invariant.
-/

namespace ThingDaq

open Wire Table

/-! ### Propagating a mark -/

namespace Core

variable (c : Core)

/-- The record the drop of `r` marks. -/
def marked (r : BufferRecord) (j : ℕ) : Bool := (c.findSuccessor r).map Prod.fst = some j

theorem findSuccessor_some {r : BufferRecord} {j d : ℕ}
    (h : c.findSuccessor r = some (j, d)) : j < 200 ∧ c.successorDistance r j = some d := by
  obtain ⟨hmem, -, -⟩ := foldl_nearer_some _ _ _ _ _ h
  rcases hmem with hnone | ⟨hj, hd⟩
  · cases hnone
  · exact ⟨List.mem_range.mp hj, hd⟩

theorem successorDistance_some {r : BufferRecord} {j d : ℕ}
    (h : c.successorDistance r j = some d) :
    (c.records j).state ≠ .free ∧ (c.records j).stream = r.stream ∧
      (c.records j).transmissionStarted = false ∧ d = ((c.records j).sequence - r.sequence).toNat ∧
      d ≠ 0 ∧ d < 0x80000000 := by
  unfold successorDistance at h
  simp only at h
  split at h
  · exact absurd h (by simp)
  next h1 =>
  split at h
  · exact absurd h (by simp)
  next h2 =>
  simp only [Bool.or_eq_true, decide_eq_true_eq, not_or, not_not, Bool.not_eq_true] at h1
  simp only [Bool.or_eq_true, decide_eq_true_eq, not_or, not_le] at h2
  have hd := Option.some.inj h
  subst hd
  exact ⟨h1.1.1, h1.1.2, h1.2, rfl, h2.1, h2.2⟩

theorem marked_iff {r : BufferRecord} {j : ℕ} :
    c.marked r j = true ↔ ∃ d, c.findSuccessor r = some (j, d) := by
  unfold marked
  cases c.findSuccessor r with
  | none => simp
  | some q =>
    obtain ⟨k, d⟩ := q
    simp

/-- Only live records of the stream that were not started are marked. -/
theorem marked_live {r : BufferRecord} {j : ℕ} (h : c.marked r j = true) :
    j < 200 ∧ (c.records j).state ≠ .free ∧ (c.records j).stream = r.stream ∧
      (c.records j).transmissionStarted = false ∧ (c.records j).sequence ≠ r.sequence := by
  obtain ⟨d, hd⟩ := c.marked_iff.mp h
  obtain ⟨hj, hs⟩ := c.findSuccessor_some hd
  obtain ⟨h1, h2, h3, h4, h5, -⟩ := c.successorDistance_some hs
  refine ⟨hj, h1, h2, h3, fun heq => h5 ?_⟩
  rw [h4, heq, UInt32.sub_self]
  rfl

variable {c} in
theorem propagate_none {r : BufferRecord} (h : c.findSuccessor r = none) :
    c.propagate r = c.setGapNext r.stream true := by
  unfold propagate
  rw [h]

variable {c} in
theorem propagate_some {r : BufferRecord} {j d : ℕ} (h : c.findSuccessor r = some (j, d)) :
    c.propagate r = c.setRecord j { c.records j with gapBeforeRequired := true } := by
  unfold propagate
  rw [h]

/-- Dropping a buffer frees it and marks at most one other record. -/
theorem drop_records (i : ℕ) (evict : Bool) : (c.drop i evict).records =
    Function.update (fun j => { c.records j with
      gapBeforeRequired := (c.records j).gapBeforeRequired || c.marked (c.records i) j }) i {} := by
  obtain ⟨counted, hcounted⟩ : ∃ counted, counted = c.setCounters (c.records i).stream
      (droppedCounters (c.sourceCounters (c.records i).stream) (c.records i) evict) := ⟨_, rfl⟩
  have hdrop : (c.drop i evict).records =
      Function.update (counted.propagate (c.records i)).records i {} := by
    rw [hcounted]
    rfl
  -- the counters have no part in the search
  have hfind : counted.findSuccessor (c.records i) = c.findSuccessor (c.records i) := by
    rw [hcounted]
    rfl
  rw [hdrop]
  congr 1
  funext j
  unfold marked
  cases hf : c.findSuccessor (c.records i) with
  | none =>
    rw [propagate_none (hfind.trans hf), hcounted]
    simp [setGapNext, setCounters]
  | some q =>
    obtain ⟨k, d⟩ := q
    rw [propagate_some (hfind.trans hf), hcounted]
    by_cases hjk : j = k
    · subst hjk
      simp [setRecord, setCounters]
    · have hkj : ¬k = j := fun h => hjk h.symm
      simp [setRecord, setCounters, Function.update_of_ne hjk, hkj]

theorem drop_record_self (i : ℕ) (evict : Bool) : (c.drop i evict).records i = {} := by
  rw [drop_records, Function.update_self]

theorem drop_record_ne {i j : ℕ} (evict : Bool) (h : j ≠ i) : (c.drop i evict).records j =
    { c.records j with
      gapBeforeRequired := (c.records j).gapBeforeRequired || c.marked (c.records i) j } := by
  rw [drop_records, Function.update_of_ne h]

theorem propagate_other (r : BufferRecord) : (c.propagate r).frames = c.frames ∧
    (c.propagate r).readyQueues = c.readyQueues ∧ (c.propagate r).transmitQueue = c.transmitQueue ∧
    (c.propagate r).sourceCounters = c.sourceCounters ∧
    (c.propagate r).transmitDepthBySource = c.transmitDepthBySource ∧
    (c.propagate r).runId = c.runId ∧ (c.propagate r).setup = c.setup := by
  unfold propagate
  split <;> exact ⟨rfl, rfl, rfl, rfl, rfl, rfl, rfl⟩

/-- Dropping leaves the pages, the queues and the run alone. -/
theorem drop_other (i : ℕ) (evict : Bool) : (c.drop i evict).frames = c.frames ∧
    (c.drop i evict).readyQueues = c.readyQueues ∧
    (c.drop i evict).transmitQueue = c.transmitQueue ∧
    (c.drop i evict).transmitDepthBySource = c.transmitDepthBySource ∧
    (c.drop i evict).runId = c.runId ∧ (c.drop i evict).setup = c.setup := by
  obtain ⟨h1, h2, h3, -, h5, h6, h7⟩ := propagate_other
    (c.setCounters (c.records i).stream
      (droppedCounters (c.sourceCounters (c.records i).stream) (c.records i) evict)) (c.records i)
  exact ⟨h1, h2, h3, h5, h6, h7⟩

end Core

/-! ### One buffer -/

/-- What holds of buffer `i` with record `r` and page `f`. -/
structure Local (setup : RunSetup) (runId : UInt32) (i : ℕ) (r : BufferRecord) (f : PacketFrame)
    (o : Origin) : Prop where
  free : r.state = .free → r = {}
  bound : r.state ≠ .free → i < 200
  run : r.state ≠ .free → r.runId = runId
  count : r.state ≠ .free → r.itemCount = (setup.stream r.stream).itemCount
  sized : r.state = .ready ∨ r.state = .transmitting → r.frameSize ≠ 0
  framed : r.frameSize ≠ 0 → Framed setup r f o
  fit : r.state = .transmitting → setup.layout.isV3 = true →
    o.TicksFit (setup.stream r.stream).itemCount
  started : r.transmissionStarted = true → r.state = .transmitting

theorem Local.default (setup : RunSetup) (runId : UInt32) (i : ℕ) (f : PacketFrame) (o : Origin) :
    Local setup runId i {} f o where
  free := fun _ => rfl
  bound := fun h => absurd rfl h
  run := fun h => absurd rfl h
  count := fun h => absurd rfl h
  sized := fun h => by rcases h with h | h <;> cases h
  framed := fun h => absurd rfl h
  fit := fun h => by cases h
  started := fun h => by cases h

/-- A gap mark on a live record changes nothing else. -/
theorem Local.mark {setup : RunSetup} {runId : UInt32} {i : ℕ} {r : BufferRecord} {f : PacketFrame}
    {o : Origin} (h : Local setup runId i r f o) {b : Bool}
    (hb : r.state = .free → b = r.gapBeforeRequired) :
    Local setup runId i { r with gapBeforeRequired := b } f o where
  free := fun hf => by
    have : { r with gapBeforeRequired := b } = r := by rw [hb hf]
    rw [this]
    exact h.free hf
  bound := h.bound
  run := h.run
  count := h.count
  sized := h.sized
  framed := h.framed
  fit := h.fit
  started := h.started

/-! ### The queues -/

/-- The record is in the source FIFO: READY, or complete and waiting for a codec. -/
def BufferRecord.Queued (r : BufferRecord) : Prop :=
  r.state = .ready ∨ (r.state = .filling ∧ r.frameSize ≠ 0)

structure Queues (c : Core) : Prop where
  ready_mem : ∀ s i, i ∈ c.readyQueues s ↔ (c.records i).stream = s ∧ (c.records i).Queued
  ready_nodup : ∀ s, (c.readyQueues s).Nodup
  transmit_mem : ∀ i, i ∈ c.transmitQueue ↔ (c.records i).state = .transmitting
  transmit_nodup : c.transmitQueue.Nodup
  depth : ∀ s, c.transmitDepthBySource s = countTo 200 fun i =>
    (c.records i).state = .transmitting && (c.records i).stream = s
  started : ∀ i, (c.records i).transmissionStarted = true → c.transmitQueue.head? = some i

/-- The queues only see where each record stands. -/
theorem Queues.same {c c' : Core} (h : Queues c) (hready : c'.readyQueues = c.readyQueues)
    (htransmit : c'.transmitQueue = c.transmitQueue)
    (hdepth : c'.transmitDepthBySource = c.transmitDepthBySource)
    (hqueued : ∀ j, (c'.records j).Queued ↔ (c.records j).Queued)
    (hsent : ∀ j, (c'.records j).state = .transmitting ↔ (c.records j).state = .transmitting)
    (hstream : ∀ j, (c.records j).Queued ∨ (c.records j).state = .transmitting →
      (c'.records j).stream = (c.records j).stream)
    (hstarted : ∀ j, (c'.records j).transmissionStarted = (c.records j).transmissionStarted) :
    Queues c' where
  ready_mem := fun s i => by
    rw [hready, h.ready_mem, hqueued]
    constructor
    · rintro ⟨h1, h2⟩
      exact ⟨(hstream i (Or.inl h2)).trans h1, h2⟩
    · rintro ⟨h1, h2⟩
      exact ⟨(hstream i (Or.inl h2)).symm.trans h1, h2⟩
  ready_nodup := fun s => by rw [hready]; exact h.ready_nodup s
  transmit_mem := fun i => by rw [htransmit, hsent]; exact h.transmit_mem i
  transmit_nodup := by rw [htransmit]; exact h.transmit_nodup
  depth := fun s => by
    rw [hdepth, h.depth]
    refine countTo_congr fun i _ => ?_
    by_cases ht : (c.records i).state = .transmitting
    · simp [ht, (hsent i).mpr ht, hstream i (Or.inr ht)]
    · have ht' : ¬(c'.records i).state = .transmitting := fun h' => ht ((hsent i).mp h')
      simp [ht, ht']
  started := fun i hi => by
    rw [hstarted] at hi
    rw [htransmit]
    exact h.started i hi

/-- The records agree away from `i`, up to gap marks. -/
def OffBy (i : ℕ) (c c' : Core) : Prop :=
  ∀ j, j ≠ i → ∃ b, c'.records j = { c.records j with gapBeforeRequired := b }

section OffBy

variable {i j : ℕ} {c c' : Core} (h : OffBy i c c') (hj : j ≠ i)

include h hj

theorem OffBy.stream : (c'.records j).stream = (c.records j).stream := by
  obtain ⟨b, hb⟩ := h j hj
  rw [hb]

theorem OffBy.state : (c'.records j).state = (c.records j).state := by
  obtain ⟨b, hb⟩ := h j hj
  rw [hb]

theorem OffBy.started :
    (c'.records j).transmissionStarted = (c.records j).transmissionStarted := by
  obtain ⟨b, hb⟩ := h j hj
  rw [hb]

theorem OffBy.frameSize : (c'.records j).frameSize = (c.records j).frameSize := by
  obtain ⟨b, hb⟩ := h j hj
  rw [hb]

theorem OffBy.queued : (c'.records j).Queued ↔ (c.records j).Queued := by
  unfold BufferRecord.Queued
  rw [h.state hj, h.frameSize hj]

end OffBy

section Places

variable {c c' : Core} {i : ℕ} (h : Queues c) (hoff : OffBy i c c')

include h hoff

theorem Queues.enqueue {s : Stream} (hnot : ¬(c.records i).Queued)
    (hquiet : (c.records i).state ≠ .transmitting) (hnow : (c'.records i).state ≠ .transmitting)
    (hqueued : (c'.records i).Queued) (hstream : (c'.records i).stream = s)
    (hstarted : (c'.records i).transmissionStarted = false)
    (hready : c'.readyQueues = Function.update c.readyQueues s (c.readyQueues s ++ [i]))
    (htransmit : c'.transmitQueue = c.transmitQueue)
    (hdepth : c'.transmitDepthBySource = c.transmitDepthBySource) : Queues c' where
  ready_mem := fun t j => by
    have hi : i ∉ c.readyQueues t := fun hm => hnot ((h.ready_mem t i).mp hm).2
    have hcore := h.ready_mem t j
    rw [hready]
    by_cases hj : j = i
    · subst hj
      by_cases ht : t = s
      · subst ht
        simp [hqueued, hstream]
      · have hts : ¬s = t := fun e => ht e.symm
        simp [Function.update_of_ne ht, hi, hstream, hts]
    · rw [hoff.stream hj, hoff.queued hj]
      by_cases ht : t = s
      · subst ht
        simpa [hj] using hcore
      · simpa [Function.update_of_ne ht] using hcore
  ready_nodup := fun t => by
    have hi : i ∉ c.readyQueues t := fun hm => hnot ((h.ready_mem t i).mp hm).2
    rw [hready]
    by_cases ht : t = s
    · subst ht
      simp only [Function.update_self]
      exact (h.ready_nodup t).append (List.nodup_singleton i) (by simpa using hi)
    · rw [Function.update_of_ne ht]
      exact h.ready_nodup t
  transmit_mem := fun j => by
    rw [htransmit, h.transmit_mem]
    by_cases hj : j = i
    · subst hj
      simp [hquiet, hnow]
    · rw [hoff.state hj]
  transmit_nodup := by rw [htransmit]; exact h.transmit_nodup
  depth := fun t => by
    rw [hdepth, h.depth]
    refine countTo_congr fun j _ => ?_
    by_cases hj : j = i
    · subst hj
      simp [hquiet, hnow]
    · rw [hoff.state hj, hoff.stream hj]
  started := fun j hs => by
    rw [htransmit]
    by_cases hj : j = i
    · subst hj
      rw [hstarted] at hs
      cases hs
    · rw [hoff.started hj] at hs
      exact h.started j hs

theorem Queues.dequeue {s : Stream} (hmem : i ∈ c.readyQueues s) (hfree : c'.records i = {})
    (hready : c'.readyQueues = Function.update c.readyQueues s ((c.readyQueues s).erase i))
    (htransmit : c'.transmitQueue = c.transmitQueue)
    (hdepth : c'.transmitDepthBySource = c.transmitDepthBySource) : Queues c' where
  ready_mem := fun t j => by
    have hcore := h.ready_mem t j
    have hstream := ((h.ready_mem s i).mp hmem).1
    rw [hready]
    by_cases hj : j = i
    · subst hj
      by_cases ht : t = s
      · subst ht
        simp [hfree, BufferRecord.Queued, (h.ready_nodup t).not_mem_erase]
      · have hnot : j ∉ c.readyQueues t := fun hm =>
          ht (((h.ready_mem t j).mp hm).1.symm.trans hstream)
        simp [Function.update_of_ne ht, hnot, hfree, BufferRecord.Queued]
    · rw [hoff.stream hj, hoff.queued hj]
      by_cases ht : t = s
      · subst ht
        simpa [List.mem_erase_of_ne hj] using hcore
      · simpa [Function.update_of_ne ht] using hcore
  ready_nodup := fun t => by
    rw [hready]
    by_cases ht : t = s
    · subst ht
      simp only [Function.update_self]
      exact (h.ready_nodup t).erase i
    · rw [Function.update_of_ne ht]
      exact h.ready_nodup t
  transmit_mem := fun j => by
    have hq := ((h.ready_mem s i).mp hmem).2
    rw [htransmit, h.transmit_mem]
    by_cases hj : j = i
    · subst hj
      rcases hq with hq | ⟨hq, -⟩ <;> simp [hq, hfree]
    · rw [hoff.state hj]
  transmit_nodup := by rw [htransmit]; exact h.transmit_nodup
  depth := fun t => by
    have hq := ((h.ready_mem s i).mp hmem).2
    rw [hdepth, h.depth]
    refine countTo_congr fun j _ => ?_
    by_cases hj : j = i
    · subst hj
      rcases hq with hq | ⟨hq, -⟩ <;> simp [hq, hfree]
    · rw [hoff.state hj, hoff.stream hj]
  started := fun j hs => by
    rw [htransmit]
    by_cases hj : j = i
    · subst hj
      rw [hfree] at hs
      cases hs
    · rw [hoff.started hj] at hs
      exact h.started j hs

/-- A record outside every queue is freed. -/
theorem Queues.vacate (hnot : ¬(c.records i).Queued) (hquiet : (c.records i).state ≠ .transmitting)
    (hfree : c'.records i = {}) (hready : c'.readyQueues = c.readyQueues)
    (htransmit : c'.transmitQueue = c.transmitQueue)
    (hdepth : c'.transmitDepthBySource = c.transmitDepthBySource)
    (hns : (c.records i).transmissionStarted = false) : Queues c' := by
  have hnot' : ¬(c'.records i).Queued := by
    rw [hfree]
    rintro (h1 | ⟨h1, -⟩) <;> cases h1
  have hquiet' : (c'.records i).state ≠ .transmitting := by rw [hfree]; decide
  have hns' : (c'.records i).transmissionStarted = false := by rw [hfree]
  refine h.same hready htransmit hdepth ?_ ?_ ?_ ?_ <;> intro j <;> by_cases hj : j = i
  · subst hj
    exact ⟨fun hq => absurd hq hnot', fun hq => absurd hq hnot⟩
  · exact hoff.queued hj
  · subst hj
    exact ⟨fun hq => absurd hq hquiet', fun hq => absurd hq hquiet⟩
  · rw [hoff.state hj]
  · subst hj
    exact fun hq => hq.elim (absurd · hnot) (absurd · hquiet)
  · exact fun _ => hoff.stream hj
  · subst hj
    rw [hns, hns']
  · exact hoff.started hj

theorem Queues.unsend {s : Stream} (hmem : i ∈ c.transmitQueue) (hi : i < 200)
    (hstream : (c.records i).stream = s) (hfree : c'.records i = {})
    (hready : c'.readyQueues = c.readyQueues)
    (htransmit : c'.transmitQueue = c.transmitQueue.erase i)
    (hdepth : c'.transmitDepthBySource =
      Function.update c.transmitDepthBySource s (c.transmitDepthBySource s - 1)) : Queues c' where
  ready_mem := fun t j => by
    have hst := (h.transmit_mem i).mp hmem
    rw [hready, h.ready_mem]
    by_cases hj : j = i
    · subst hj
      simp [hst, hfree, BufferRecord.Queued]
    · rw [hoff.stream hj, hoff.queued hj]
  ready_nodup := fun t => by rw [hready]; exact h.ready_nodup t
  transmit_mem := fun j => by
    rw [htransmit]
    by_cases hj : j = i
    · subst hj
      simp [h.transmit_nodup.not_mem_erase, hfree]
    · rw [hoff.state hj, List.mem_erase_of_ne hj, h.transmit_mem]
  transmit_nodup := by rw [htransmit]; exact h.transmit_nodup.erase i
  depth := fun t => by
    have hst := (h.transmit_mem i).mp hmem
    rw [hdepth]
    have hcount := countTo_update
      (P := fun j => (c.records j).state = .transmitting && (c.records j).stream = t)
      (Q := fun j => (c'.records j).state = .transmitting && (c'.records j).stream = t) hi
      fun j _ hj => by rw [hoff.state hj, hoff.stream hj]
    by_cases ht : t = s
    · subst ht
      simp only [Function.update_self]
      rw [h.depth]
      simp [hst, hstream, hfree] at hcount
      omega
    · have hts : ¬s = t := fun e => ht e.symm
      rw [Function.update_of_ne ht, h.depth]
      simp [hst, hstream, hfree, hts] at hcount
      exact hcount
  started := fun j hs => by
    rw [htransmit]
    by_cases hj : j = i
    · subst hj
      rw [hfree] at hs
      cases hs
    · rw [hoff.started hj] at hs
      have hhead := h.started j hs
      cases hq : c.transmitQueue with
      | nil => rw [hq] at hhead; cases hhead
      | cons k rest =>
        rw [hq] at hhead
        cases hhead
        rw [List.erase_cons_tail (by simpa using hj)]
        rfl

theorem Queues.send {s : Stream} {rest : List ℕ} (hi : i < 200)
    (hqueue : c.readyQueues s = i :: rest) (hnow : (c'.records i).state = .transmitting)
    (hstream : (c'.records i).stream = s) (hready : c'.readyQueues = Function.update c.readyQueues s rest)
    (htransmit : c'.transmitQueue = c.transmitQueue ++ [i])
    (hdepth : c'.transmitDepthBySource =
      Function.update c.transmitDepthBySource s (c.transmitDepthBySource s + 1))
    (hstarted : (c'.records i).transmissionStarted = false) : Queues c' := by
  have hmem : i ∈ c.readyQueues s := by rw [hqueue]; exact List.mem_cons_self
  obtain ⟨hs, hq⟩ := (h.ready_mem s i).mp hmem
  have hnd := h.ready_nodup s
  rw [hqueue, List.nodup_cons] at hnd
  have hwas : (c.records i).state ≠ .transmitting := by
    rcases hq with hq | ⟨hq, -⟩ <;> rw [hq] <;> decide
  have hnq : ¬(c'.records i).Queued := by
    rintro (h1 | ⟨h1, -⟩) <;> rw [hnow] at h1 <;> cases h1
  constructor
  · intro t j
    have hcore := h.ready_mem t j
    rw [hready]
    by_cases hj : j = i
    · subst hj
      by_cases ht : t = s
      · subst ht
        simp [hnd.1, hnq]
      · have hnot : j ∉ c.readyQueues t := fun hm =>
          ht (((h.ready_mem t j).mp hm).1.symm.trans hs)
        simp [Function.update_of_ne ht, hnot, hnq]
    · rw [hoff.stream hj, hoff.queued hj]
      by_cases ht : t = s
      · subst ht
        rw [hqueue] at hcore
        simpa [hj] using hcore
      · simpa [Function.update_of_ne ht] using hcore
  · intro t
    rw [hready]
    by_cases ht : t = s
    · subst ht
      simpa using hnd.2
    · rw [Function.update_of_ne ht]
      exact h.ready_nodup t
  · intro j
    rw [htransmit]
    by_cases hj : j = i
    · subst hj
      simp [hnow]
    · rw [hoff.state hj, ← h.transmit_mem]
      simp [hj]
  · rw [htransmit]
    refine h.transmit_nodup.append (List.nodup_singleton i) ?_
    have hnot : i ∉ c.transmitQueue := fun hm => hwas ((h.transmit_mem i).mp hm)
    simpa using hnot
  · intro t
    rw [hdepth]
    have hcount := countTo_update
      (P := fun j => (c.records j).state = .transmitting && (c.records j).stream = t)
      (Q := fun j => (c'.records j).state = .transmitting && (c'.records j).stream = t) hi
      fun j _ hj => by rw [hoff.state hj, hoff.stream hj]
    by_cases ht : t = s
    · subst ht
      simp only [Function.update_self]
      rw [h.depth]
      simp [hwas, hnow, hstream] at hcount
      omega
    · have hts : ¬s = t := fun e => ht e.symm
      rw [Function.update_of_ne ht, h.depth]
      simp [hwas, hstream, hts] at hcount
      exact hcount
  · intro j hst
    rw [htransmit]
    by_cases hj : j = i
    · subst hj
      rw [hstarted] at hst
      cases hst
    · rw [hoff.started hj] at hst
      have := h.started j hst
      cases hq : c.transmitQueue with
      | nil => rw [hq] at this; cases this
      | cons k rest' => rw [hq] at this; simpa using this

theorem Queues.start {rest : List ℕ} (hqueue : c.transmitQueue = i :: rest)
    (hrec : c'.records i = { c.records i with transmissionStarted := true })
    (hready : c'.readyQueues = c.readyQueues) (htransmit : c'.transmitQueue = c.transmitQueue)
    (hdepth : c'.transmitDepthBySource = c.transmitDepthBySource) : Queues c' where
  ready_mem := fun t j => by
    rw [hready, h.ready_mem]
    by_cases hj : j = i
    · subst hj
      rw [hrec]
      rfl
    · rw [hoff.stream hj, hoff.queued hj]
  ready_nodup := fun t => by rw [hready]; exact h.ready_nodup t
  transmit_mem := fun j => by
    rw [htransmit, h.transmit_mem]
    by_cases hj : j = i
    · subst hj
      rw [hrec]
    · rw [hoff.state hj]
  transmit_nodup := by rw [htransmit]; exact h.transmit_nodup
  depth := fun t => by
    rw [hdepth, h.depth]
    refine countTo_congr fun j _ => ?_
    by_cases hj : j = i
    · subst hj
      rw [hrec]
    · rw [hoff.state hj, hoff.stream hj]
  started := fun j hs => by
    rw [htransmit]
    by_cases hj : j = i
    · subst hj
      rw [hqueue]
      rfl
    · rw [hoff.started hj] at hs
      exact h.started j hs

end Places

structure Inv (w : World) : Prop where
  slot : ∀ i, Local w.core.setup w.core.runId i (w.core.records i) (w.core.frames i)
    (w.history.origin i)
  queues : Queues w.core

/-! ### Moves that keep every place -/

section Moves

variable {c : Core} {g : History} {s : Stream} {i : ℕ}

theorem Inv.not_started (h : Inv ⟨c, g⟩) {st : BufferState} (hstate : (c.records i).state = st)
    (hne : st ≠ .transmitting) : (c.records i).transmissionStarted = false := by
  by_contra hs
  have := (h.slot i).started (by simpa using hs)
  exact hne (hstate.symm.trans this)

theorem Inv.openFill (h : Inv ⟨c, g⟩) {lease : UInt32} (hi : i < 200)
    (hfree : (c.records i).state = .free) :
    Inv ⟨c.openFill s i lease, g.openFill s i⟩ where
  slot := fun j => by
    by_cases hj : j = i
    · subst hj
      have hrec : c.records j = {} := (h.slot j).free hfree
      simp only [Core.openFill, Core.setGapNext, Core.setRecord, Core.setCounters,
        Function.update_self, hrec]
      constructor <;> simp [hi]
    · simp only [Core.openFill, Core.setGapNext, Core.setRecord, Core.setCounters,
        Function.update_of_ne hj]
      exact h.slot j
  queues := by
    have hrec : c.records i = {} := (h.slot i).free hfree
    refine h.queues.same rfl rfl rfl ?_ ?_ ?_ ?_ <;> intro j <;> by_cases hj : j = i <;>
      first
        | subst hj
          simp [Core.openFill, Core.setGapNext, Core.setRecord, Core.setCounters, hrec,
            BufferRecord.Queued]
        | simp [Core.openFill, Core.setGapNext, Core.setRecord, Core.setCounters,
            Function.update_of_ne hj]

theorem Inv.lose (h : Inv ⟨c, g⟩) {n : ℕ} {atSource : Bool} :
    Inv ⟨c.lose s n, g.lose s n atSource⟩ where
  slot := h.slot
  queues := h.queues.same rfl rfl rfl (fun _ => Iff.rfl) (fun _ => Iff.rfl) (fun _ _ => rfl)
    fun _ => rfl

theorem Inv.scribble (h : Inv ⟨c, g⟩) {f : PacketFrame} (hsize : (c.records i).frameSize = 0) :
    Inv ⟨c.setFrame i f, g⟩ where
  slot := fun j => by
    have hj := h.slot j
    by_cases hji : j = i
    · subst hji
      exact { hj with framed := fun hne => absurd hsize hne }
    · simp only [Core.setFrame, Function.update_of_ne hji]
      exact hj
  queues := h.queues.same rfl rfl rfl (fun _ => Iff.rfl) (fun _ => Iff.rfl) (fun _ _ => rfl)
    fun _ => rfl

theorem Inv.flush (h : Inv ⟨c, g⟩) {f : PacketFrame}
    (hstate : (c.records i).state = .ready ∨ (c.records i).state = .transmitting)
    (hframed : Framed c.setup (c.records i) f (g.origin i)) : Inv ⟨c.flush i f, g⟩ where
  slot := fun j => by
    by_cases hji : j = i
    · subst hji
      simp only [Core.flush, Core.setFrame, Core.setRecord, Function.update_self]
      have hj := (h.slot j).mark (b := false) fun hfree => by
        rcases hstate with hs | hs <;> rw [hs] at hfree <;> cases hfree
      exact { hj with framed := fun _ => hframed }
    · simp only [Core.flush, Core.setFrame, Core.setRecord, Function.update_of_ne hji]
      exact h.slot j
  queues := by
    refine h.queues.same rfl rfl rfl ?_ ?_ ?_ ?_ <;> intro j <;> by_cases hj : j = i <;>
      first
        | subst hj
          simp [Core.flush, Core.setFrame, Core.setRecord, BufferRecord.Queued]
        | simp [Core.flush, Core.setFrame, Core.setRecord, Function.update_of_ne hj]

theorem Inv.publish (h : Inv ⟨c, g⟩) {f : PacketFrame} {n : ℕ}
    (hstate : (c.records i).state = .filling) (hdone : (c.records i).frameSize ≠ 0)
    (hsize : n ≠ 0)
    (hframed : Framed c.setup { c.records i with state := .ready, frameSize := n } f
      (g.origin i)) : Inv ⟨(c.rework i f n).publish i, g⟩ where
  slot := fun j => by
    by_cases hji : j = i
    · subst hji
      have hj := h.slot j
      have hne : (c.records j).state ≠ .free := by rw [hstate]; decide
      have hns : (c.records j).transmissionStarted = false := h.not_started hstate (by decide)
      simp only [Core.publish, Core.rework, Core.setFrame, Core.setRecord, Core.setCounters,
        Function.update_self]
      exact
        { free := fun hf => by cases hf
          bound := fun _ => hj.bound hne
          run := fun _ => hj.run hne
          count := fun _ => hj.count hne
          sized := fun _ => hsize
          framed := fun _ => hframed
          fit := fun hf => by cases hf
          started := fun hs => absurd (hs.symm.trans hns) (by decide) }
    · simp only [Core.publish, Core.rework, Core.setFrame, Core.setRecord, Core.setCounters,
        Function.update_of_ne hji]
      exact h.slot j
  queues := by
    refine h.queues.same rfl rfl rfl ?_ ?_ ?_ ?_ <;> intro j <;> by_cases hj : j = i <;>
      first
        | subst hj
          simp [Core.publish, Core.rework, Core.setFrame, Core.setRecord, Core.setCounters,
            BufferRecord.Queued, hstate, hdone]
        | simp [Core.publish, Core.rework, Core.setFrame, Core.setRecord, Core.setCounters,
            Function.update_of_ne hj]

/-! ### Moves that change one place -/

theorem Inv.complete (h : Inv ⟨c, g⟩) {f : PacketFrame} {size : ℕ} {l : UInt32} {o : Origin}
    (hstate : (c.records i).state = .filling) (hopen : (c.records i).frameSize = 0)
    (hsize : size ≠ 0) (hframed : Framed c.setup { c.records i with frameSize := size } f o) :
    Inv ⟨c.complete i f size l, g.complete i o⟩ where
  slot := fun j => by
    by_cases hji : j = i
    · subst hji
      have hj := h.slot j
      simp only [Core.complete, Core.setFrame, Core.setRecord, Core.setReady, History.complete,
        Function.update_self]
      exact
        { free := fun hf => by rw [hstate] at hf; cases hf
          bound := hj.bound
          run := hj.run
          count := hj.count
          sized := fun hs => hsize
          framed := fun _ => hframed
          fit := fun hf => by rw [hstate] at hf; cases hf
          started := hj.started }
    · simp only [Core.complete, Core.setFrame, Core.setRecord, Core.setReady, History.complete,
        Function.update_of_ne hji]
      exact h.slot j
  queues := by
    have hns : (c.records i).transmissionStarted = false := h.not_started hstate (by decide)
    refine h.queues.enqueue (i := i) (s := (c.records i).stream) ?_ ?_ ?_ ?_ ?_ ?_ ?_ rfl rfl rfl
    · intro j hj
      exact ⟨(c.records j).gapBeforeRequired, by
        simp only [Core.complete, Core.setFrame, Core.setRecord, Core.setReady,
          Function.update_of_ne hj]⟩
    · rintro (hr | ⟨-, hr⟩)
      · rw [hstate] at hr; cases hr
      · exact hr hopen
    · rw [hstate]; decide
    · simp [Core.complete, Core.setFrame, Core.setRecord, Core.setReady, hstate]
    · simp [Core.complete, Core.setFrame, Core.setRecord, Core.setReady, hstate, hsize,
        BufferRecord.Queued]
    · simp [Core.complete, Core.setFrame, Core.setRecord, Core.setReady]
    · simp [Core.complete, Core.setFrame, Core.setRecord, Core.setReady, hns]

theorem Core.rework_self (c : Core) (i : ℕ) :
    c.rework i (c.frames i) (c.records i).frameSize = c := by
  unfold Core.rework Core.setFrame Core.setRecord
  simp

theorem Framed.published {setup : RunSetup} {r : BufferRecord} {f : PacketFrame} {o : Origin}
    (h : Framed setup r f o) : Framed setup { r with state := .ready } f o := by
  unfold Framed at h ⊢
  split at h
  · next hv3 =>
    rw [if_pos hv3]
    obtain ⟨d, hd, -⟩ := h
    exact ⟨d, hd, fun hf => by cases hf⟩
  · next hv3 =>
    rw [if_neg hv3]
    exact h

theorem Core.complete_record (c : Core) (i : ℕ) (f : PacketFrame) (size : ℕ) (lease : UInt32) :
    (c.complete i f size lease).records i =
      { c.records i with gapBeforeRequired := false, frameSize := size, lease := lease } := by
  simp [Core.complete, Core.setFrame, Core.setRecord, Core.setReady]

theorem Core.complete_frame (c : Core) (i : ℕ) (f : PacketFrame) (size : ℕ) (lease : UInt32) :
    (c.complete i f size lease).frames i = f := by
  simp [Core.complete, Core.setFrame, Core.setRecord, Core.setReady]

theorem Inv.finish (h : Inv ⟨c, g⟩) {f : PacketFrame} {size : ℕ} {lease : UInt32} {o : Origin}
    (hstate : (c.records i).state = .filling) (hopen : (c.records i).frameSize = 0)
    (hsize : size ≠ 0) (hframed : Framed c.setup { c.records i with frameSize := size } f o) :
    Inv ⟨(c.complete i f size lease).publish i, g.complete i o⟩ := by
  have hdone := (h.complete (l := lease) hstate hopen hsize hframed).publish
    (f := (c.complete i f size lease).frames i)
    (n := ((c.complete i f size lease).records i).frameSize) (i := i)
    (by rw [Core.complete_record]; exact hstate) (by rw [Core.complete_record]; exact hsize)
    (by rw [Core.complete_record]; exact hsize) (by
      have ho : (g.complete i o).origin i = o := Function.update_self _ _ _
      rw [Core.complete_record, Core.complete_frame, ho]
      exact hframed.published)
  rwa [Core.rework_self] at hdone

theorem Inv.start (h : Inv ⟨c, g⟩) {rest : List ℕ} (hqueue : c.transmitQueue = i :: rest) :
    Inv ⟨c.start i, g⟩ where
  slot := fun j => by
    by_cases hji : j = i
    · subst hji
      have hj := h.slot j
      have hst := (h.queues.transmit_mem j).mp (by rw [hqueue]; exact List.mem_cons_self)
      simp only [Core.start, Core.setRecord, Function.update_self]
      exact
        { free := fun hf => by rw [hst] at hf; cases hf
          bound := hj.bound
          run := hj.run
          count := hj.count
          sized := hj.sized
          framed := hj.framed
          fit := hj.fit
          started := fun _ => hst }
    · simp only [Core.start, Core.setRecord, Function.update_of_ne hji]
      exact h.slot j
  queues := by
    refine h.queues.start (i := i) ?_ hqueue ?_ rfl rfl rfl
    · intro j hj
      exact ⟨(c.records j).gapBeforeRequired, by
        simp only [Core.start, Core.setRecord, Function.update_of_ne hj]⟩
    · simp [Core.start, Core.setRecord]

theorem Inv.promote (h : Inv ⟨c, g⟩) {rest : List ℕ} (hqueue : c.readyQueues s = i :: rest)
    (hstate : (c.records i).state = .ready)
    (hfit : c.setup.layout.isV3 = true → (g.origin i).TicksFit (c.setup.stream s).itemCount) :
    Inv ⟨c.promote s i rest, g⟩ := by
  have hmem : i ∈ c.readyQueues s := by rw [hqueue]; exact List.mem_cons_self
  have hs : (c.records i).stream = s := ((h.queues.ready_mem s i).mp hmem).1
  have hne : (c.records i).state ≠ .free := by rw [hstate]; decide
  have hns : (c.records i).transmissionStarted = false := h.not_started hstate (by decide)
  constructor
  · intro j
    by_cases hji : j = i
    · subst hji
      have hj := h.slot j
      simp only [Core.promote, Core.setReady, Core.setTransmit, Core.setRecord, Core.setDepth,
        Core.setCounters, Function.update_self]
      exact
        { free := fun hf => by cases hf
          bound := fun _ => hj.bound hne
          run := fun _ => hj.run hne
          count := fun _ => hj.count hne
          sized := fun _ => hj.sized (Or.inl hstate)
          framed := fun hsz => by
            have hf := hj.framed hsz
            unfold Framed at hf ⊢
            split at hf
            · next hv3 =>
              rw [if_pos hv3]
              obtain ⟨d, hd, -⟩ := hf
              exact ⟨d, hd, fun hf => by cases hf⟩
            · next hv3 =>
              rw [if_neg hv3]
              exact hf
          fit := fun _ hv3 => by
            have := hfit hv3
            rw [← hs] at this
            exact this
          started := fun _ => rfl }
    · simp only [Core.promote, Core.setReady, Core.setTransmit, Core.setRecord, Core.setDepth,
        Core.setCounters, Function.update_of_ne hji]
      exact h.slot j
  · refine h.queues.send (i := i) ?_ ((h.slot i).bound hne) hqueue ?_ ?_ rfl rfl rfl ?_
    · intro j hj
      exact ⟨(c.records j).gapBeforeRequired, by
        simp only [Core.promote, Core.setReady, Core.setTransmit, Core.setRecord, Core.setDepth,
          Core.setCounters, Function.update_of_ne hj]⟩
    · simp [Core.promote, Core.setReady, Core.setTransmit, Core.setRecord, Core.setDepth,
        Core.setCounters]
    · simp [Core.promote, Core.setReady, Core.setTransmit, Core.setRecord, Core.setDepth,
        Core.setCounters, hs]
    · simp [Core.promote, Core.setReady, Core.setTransmit, Core.setRecord, Core.setDepth,
        Core.setCounters, hns]

/-! ### Freeing a buffer -/

/-- Freeing buffer `i` keeps the facts about every buffer. -/
theorem Inv.slot_free (h : Inv ⟨c, g⟩) {c' : Core} (hsetup : c'.setup = c.setup)
    (hrun : c'.runId = c.runId) (hfree : c'.records i = {})
    (hoff : ∀ j, j ≠ i → c'.frames j = c.frames j ∧ ∃ b,
      ((c.records j).state = .free → b = (c.records j).gapBeforeRequired) ∧
      c'.records j = { c.records j with gapBeforeRequired := b }) (j : ℕ) :
    Local c'.setup c'.runId j (c'.records j) (c'.frames j) (g.origin j) := by
  by_cases hji : j = i
  · subst hji
    rw [hfree]
    exact Local.default _ _ _ _ _
  · obtain ⟨hf, b, hb, hrec⟩ := hoff j hji
    rw [hsetup, hrun, hf, hrec]
    exact (h.slot j).mark hb

theorem Core.marked_free {r : BufferRecord} {j : ℕ} (hfree : (c.records j).state = .free) :
    ((c.records j).gapBeforeRequired || c.marked r j) = (c.records j).gapBeforeRequired := by
  have : c.marked r j = false := by
    by_contra hm
    exact (c.marked_live (by simpa using hm)).2.1 hfree
  rw [this, Bool.or_false]

theorem Inv.dropOpen (h : Inv ⟨c, g⟩) (hstate : (c.records i).state = .filling)
    (hopen : (c.records i).frameSize = 0) : Inv ⟨c.drop i false, g⟩ := by
  obtain ⟨hframes, hready, htransmit, hdepth, hrun, hsetup⟩ := c.drop_other i false
  constructor
  · refine h.slot_free hsetup hrun (c.drop_record_self i false) fun j hj => ?_
    exact ⟨by rw [hframes], _, fun hf => Core.marked_free hf, c.drop_record_ne false hj⟩
  · refine h.queues.vacate (i := i) (fun j hj => ⟨_, c.drop_record_ne false hj⟩) ?_ ?_
      (c.drop_record_self i false) hready htransmit hdepth (h.not_started hstate (by decide))
    · rintro (hr | ⟨-, hr⟩)
      · rw [hstate] at hr; cases hr
      · exact hr hopen
    · rw [hstate]; decide

theorem Inv.dropQueued (h : Inv ⟨c, g⟩) {f : PacketFrame} {size : ℕ} {evict : Bool}
    (hqueue : i ∈ c.readyQueues s) :
    Inv ⟨((c.rework i f size).setReady s ((c.readyQueues s).erase i)).drop i evict, g⟩ := by
  set c₁ := (c.rework i f size).setReady s ((c.readyQueues s).erase i) with hc₁
  have hrec : ∀ j, j ≠ i → c₁.records j = c.records j ∧ c₁.frames j = c.frames j := by
    intro j hj
    simp only [hc₁, Core.rework, Core.setReady, Core.setFrame, Core.setRecord,
      Function.update_of_ne hj, and_self]
  obtain ⟨hframes, hready, htransmit, hdepth, hrun, hsetup⟩ := c₁.drop_other i evict
  have hoff : ∀ j, j ≠ i → ∃ b, ((c.records j).state = .free → b = (c.records j).gapBeforeRequired) ∧
      (c₁.drop i evict).records j = { c.records j with gapBeforeRequired := b } := by
    intro j hj
    have := c₁.drop_record_ne evict hj
    refine ⟨_, fun hf => ?_, (hrec j hj).1 ▸ this⟩
    have hf₁ : (c₁.records j).state = .free := by rw [(hrec j hj).1]; exact hf
    have := Core.marked_free (r := c₁.records i) hf₁
    rwa [(hrec j hj).1] at this
  constructor
  · refine h.slot_free hsetup hrun (c₁.drop_record_self i evict) fun j hj => ?_
    exact ⟨by rw [hframes]; exact (hrec j hj).2, hoff j hj⟩
  · exact h.queues.dequeue (i := i) (fun j hj => ⟨_, (hoff j hj).choose_spec.2⟩) hqueue
      (c₁.drop_record_self i evict) hready htransmit hdepth

/-- A promoted frame leaves the queue and is freed. -/
theorem Inv.dropPromoted (h : Inv ⟨c, g⟩) {c₁ : Core} {evict : Bool} (hqueue : i ∈ c.transmitQueue)
    (hrecords : c₁.records = c.records) (hframes₁ : c₁.frames = c.frames)
    (hready₁ : c₁.readyQueues = c.readyQueues)
    (htransmit₁ : c₁.transmitQueue = c.transmitQueue.erase i)
    (hdepth₁ : c₁.transmitDepthBySource = Function.update c.transmitDepthBySource
      (c.records i).stream (c.transmitDepthBySource (c.records i).stream - 1))
    (hrun₁ : c₁.runId = c.runId) (hsetup₁ : c₁.setup = c.setup) :
    Inv ⟨c₁.drop i evict, g⟩ := by
  have hst := (h.queues.transmit_mem i).mp hqueue
  obtain ⟨hframes, hready, htransmit, hdepth, hrun, hsetup⟩ := c₁.drop_other i evict
  have hoff : ∀ j, j ≠ i → ∃ b, ((c.records j).state = .free → b = (c.records j).gapBeforeRequired) ∧
      (c₁.drop i evict).records j = { c.records j with gapBeforeRequired := b } := by
    intro j hj
    rw [← hrecords]
    exact ⟨_, fun hf => Core.marked_free hf, c₁.drop_record_ne evict hj⟩
  constructor
  · refine h.slot_free (hsetup.trans hsetup₁) (hrun.trans hrun₁) (c₁.drop_record_self i evict)
      fun j hj => ⟨by rw [hframes, hframes₁], hoff j hj⟩
  · exact h.queues.unsend (i := i) (fun j hj => ⟨_, (hoff j hj).choose_spec.2⟩) hqueue
      ((h.slot i).bound (by rw [hst]; decide)) rfl (c₁.drop_record_self i evict)
      (hready.trans hready₁) (htransmit.trans htransmit₁) (hdepth.trans hdepth₁)

theorem Inv.release (h : Inv ⟨c, g⟩) {rest : List ℕ} {sequence : UInt32} {flags : UInt16}
    (hqueue : c.transmitQueue = i :: rest) :
    Inv ⟨c.release i, g.release s i sequence flags⟩ := by
  have hmem : i ∈ c.transmitQueue := by rw [hqueue]; exact List.mem_cons_self
  have hst := (h.queues.transmit_mem i).mp hmem
  have hrec : ∀ j, j ≠ i → (c.release i).records j = c.records j := by
    intro j hj
    simp only [Core.release, Core.unqueue, Core.setRecord, Core.setCounters, Core.setTransmit,
      Core.setDepth, Function.update_of_ne hj]
  have hself : (c.release i).records i = {} := by simp [Core.release, Core.setRecord]
  constructor
  · refine h.slot_free rfl rfl hself fun j hj => ⟨rfl, _, fun _ => rfl, ?_⟩
    exact hrec j hj
  · exact h.queues.unsend (i := i) (fun j hj => ⟨_, hrec j hj⟩) hmem
      ((h.slot i).bound (by rw [hst]; decide)) rfl hself rfl rfl rfl

end Moves

/-! ### Every move -/

theorem Inv.move {R : Rules} {w w' : World} (h : Inv w) (hmove : Move R w w') : Inv w' := by
  cases hmove with
  | openFill hi hfree _ _ => exact h.openFill hi hfree
  | lose _ => exact h.lose
  | scribble hsize => exact h.scribble hsize
  | complete _ hstate hopen hsize hframed _ _ _ _ => exact h.complete hstate hopen hsize hframed
  | finish _ hstate hopen hsize hframed _ _ _ => exact h.finish hstate hopen hsize hframed
  | publish _ hstate hdone hsize hframed _ => exact h.publish hstate hdone hsize hframed
  | flush _ hstate _ _ hframed _ => exact h.flush hstate hframed
  | promote hqueue hstate _ hfit => exact h.promote hqueue hstate hfit
  | dropOpen _ hstate hopen => exact h.dropOpen hstate hopen
  | dropQueued hqueue => exact h.dropQueued hqueue
  | evictPromoted hqueue _ => exact h.dropPromoted hqueue rfl rfl rfl rfl rfl rfl rfl
  | start hqueue _ => exact h.start hqueue
  | abort hqueue _ =>
    refine h.dropPromoted ?_ rfl rfl rfl rfl rfl rfl rfl
    rw [hqueue]
    exact List.mem_cons_self
  | release hqueue _ => exact h.release hqueue

theorem Inv.moves {R : Rules} {w w' : World} (h : Inv w) (hmoves : Moves R w w') : Inv w' := by
  induction hmoves with
  | refl => exact h
  | tail _ hstep ih => exact ih.move hstep

/-! ### Pages that wait for a codec -/

/-- Only pages of a deferred stream wait. -/
def Waiting (c : Core) : Prop :=
  ∀ i, (c.records i).state = .filling → (c.records i).frameSize ≠ 0 →
    c.deferred (c.records i).stream = true

theorem Waiting.drop {c c₁ : Core} {i : ℕ} {evict : Bool} (h : Waiting c)
    (hsetup : c₁.setup = c.setup) (hrec : ∀ j, j ≠ i → c₁.records j = c.records j) :
    Waiting (c₁.drop i evict) := by
  intro j hstate hsize
  by_cases hj : j = i
  · subst hj
    rw [Core.drop_record_self] at hstate
    cases hstate
  · have hset := (c₁.drop_other i evict).2.2.2.2.2
    rw [Core.drop_record_ne _ _ hj, hrec j hj] at hstate hsize ⊢
    unfold Core.deferred
    rw [hset, hsetup]
    exact h j hstate hsize

/-- A move that changes one record keeps the rest waiting. -/
theorem Waiting.update {c c' : Core} {i : ℕ} (h : Waiting c) (hsetup : c'.setup = c.setup)
    (hrec : ∀ j, j ≠ i → c'.records j = c.records j)
    (hself : (c'.records i).state = .filling → (c'.records i).frameSize ≠ 0 →
      c.deferred (c'.records i).stream = true) : Waiting c' := by
  intro j hstate hsize
  unfold Core.deferred
  rw [hsetup]
  by_cases hj : j = i
  · subst hj
    exact hself hstate hsize
  · rw [hrec j hj] at hstate hsize ⊢
    exact h j hstate hsize

theorem Waiting.move {R : Rules} {w w' : World} (h : Waiting w.core) (hmove : Move R w w') :
    Waiting w'.core := by
  cases hmove with
  | openFill =>
    refine h.update rfl (fun j hj => Function.update_of_ne hj _ _) fun _ hne => absurd ?_ hne
    simp [Core.openFill, Core.setRecord, Core.setGapNext]
  | lose => exact h
  | scribble => exact h
  | complete _ _ _ _ _ _ _ _ hwait =>
    refine h.update rfl (fun j hj => Function.update_of_ne hj _ _) fun _ _ => ?_
    rw [Core.complete_record]
    exact hwait
  | @finish c g i =>
    refine h.update (i := i) rfl (fun j hj => ?_) fun hf => ?_
    · simp [Core.publish, Core.complete, Core.setRecord, Core.setReady, Core.setCounters,
        Core.setFrame, Function.update_of_ne hj]
    · simp [Core.publish, Core.setRecord, Core.setCounters] at hf
  | @publish c g i =>
    refine h.update (i := i) rfl (fun j hj => ?_) fun hf => ?_
    · simp [Core.publish, Core.rework, Core.setRecord, Core.setCounters, Core.setFrame,
        Function.update_of_ne hj]
    · simp [Core.publish, Core.setRecord, Core.setCounters] at hf
  | @flush c g i f _ hstate =>
    refine h.update (i := i) rfl (fun j hj => Function.update_of_ne hj _ _) fun hf => ?_
    simp only [Core.flush, Core.setFrame, Core.setRecord, Function.update_self] at hf
    rcases hstate with hs | hs <;> rw [hs] at hf <;> cases hf
  | @promote c g s i =>
    refine h.update (i := i) rfl (fun j hj => Function.update_of_ne hj _ _) fun hf => ?_
    simp [Core.promote, Core.setRecord, Core.setCounters, Core.setDepth] at hf
  | dropOpen => exact h.drop rfl fun _ _ => rfl
  | dropQueued => exact h.drop rfl fun j hj => Function.update_of_ne hj _ _
  | evictPromoted => exact h.drop rfl fun _ _ => rfl
  | @start c g i =>
    refine h.update (i := i) rfl (fun j hj => Function.update_of_ne hj _ _) fun hf hne => ?_
    simp only [Core.start, Core.setRecord, Function.update_self] at hf hne ⊢
    exact h i hf hne
  | abort => exact h.drop rfl fun _ _ => rfl
  | @release c g i =>
    refine h.update (i := i) rfl (fun j hj => Function.update_of_ne hj _ _) fun hf => ?_
    simp [Core.release, Core.setRecord] at hf

theorem Waiting.moves {R : Rules} {w w' : World} (h : Waiting w.core) (hmoves : Moves R w w') :
    Waiting w'.core := by
  induction hmoves with
  | refl => exact h
  | tail _ hstep ih => exact ih.move hstep

end ThingDaq
