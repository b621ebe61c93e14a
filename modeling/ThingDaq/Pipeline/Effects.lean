import ThingDaq.Pipeline.RleScan
import ThingDaq.Pipeline.Run

/-!
# What the operations can do

Most operations of the pipeline are made of two kinds of steps: one record changes without
opening a buffer, or a buffer is dropped.  A relation between pipelines that contains both
kinds and is transitive (`Closed`) holds across all of them, so a property that is kept by
these steps need not be followed through the operations again.

Not made of such steps are `startRun`, `stopProduction`, the successful part of `beginFill`,
the losses a producer reports, and promotion.

## Main definitions

* `BufferRecord.grant` — what an open buffer was handed out under.
* `SameRun` — run, lease counter and accounted frames are the same.
* `Closed` — the relations that hold across a step of either kind.
* `Pipeline.Stays` — the run is the same; the first such relation.

## Main results

* `Closed.finishFill`, `Closed.serviceDeferred`, `Closed.releaseFrontFrame` and the others —
  such a relation holds across each operation.
-/

namespace ThingDaq

open Wire Table

/-- Stream, sequence and lease of an open buffer. -/
def BufferRecord.grant (r : BufferRecord) : Option (Stream × UInt32 × UInt32) :=
  if r.state = .filling ∧ r.frameSize = 0 then some (r.stream, r.sequence, r.lease) else none

theorem BufferRecord.grant_state {r : BufferRecord} (h : r.state ≠ .filling) : r.grant = none :=
  if_neg fun hr => h hr.1

theorem BufferRecord.grant_size {r : BufferRecord} (h : r.frameSize ≠ 0) : r.grant = none :=
  if_neg fun hr => h hr.2

@[simp] theorem BufferRecord.grant_default : ({} : BufferRecord).grant = none := by decide

/-- The counters that the accounting of promoted frames reads are the same. -/
structure SameCounts (k k' : SourceCounters) : Prop where
  framesEmitted : k'.framesEmitted = k.framesEmitted
  framesDropped : k'.framesDropped = k.framesDropped
  framesDroppedAfterPromotion : k'.framesDroppedAfterPromotion = k.framesDroppedAfterPromotion

theorem SameCounts.refl (k : SourceCounters) : SameCounts k k := ⟨rfl, rfl, rfl⟩

/-- The run, the lease counter and the accounted frames are the same, and no frame enters a
source FIFO. -/
structure SameRun (p q : Pipeline) : Prop where
  acceptingFrames : q.acceptingFrames = p.acceptingFrames
  enabledStreamMask : q.enabledStreamMask = p.enabledStreamMask
  nextLease : q.nextLease = p.nextLease
  runId : q.runId = p.runId
  setup : q.setup = p.setup
  counts : ∀ s, SameCounts (p.sourceCounters s) (q.sourceCounters s)
  ready : ∀ s, (q.readyQueues s).Sublist (p.readyQueues s)

/-- Pages, records, the transmit queue and statistics differ. -/
theorem SameRun.moved {p q : Pipeline} (haccept : q.acceptingFrames = p.acceptingFrames)
    (hmask : q.enabledStreamMask = p.enabledStreamMask) (hlease : q.nextLease = p.nextLease)
    (hrun : q.runId = p.runId) (hsetup : q.setup = p.setup)
    (hcounters : q.sourceCounters = p.sourceCounters) (hready : q.readyQueues = p.readyQueues) :
    SameRun p q := by
  refine ⟨haccept, hmask, hlease, hrun, hsetup, ?_, ?_⟩
  · intro s
    rw [hcounters]
    exact SameCounts.refl _
  · intro s
    rw [hready]

theorem SameRun.refl (p : Pipeline) : SameRun p p := SameRun.moved rfl rfl rfl rfl rfl rfl rfl

/-- Only statistics and cursors differ. -/
theorem SameRun.of_core {p q : Pipeline} (hcore : q.toCore = p.toCore)
    (haccept : q.acceptingFrames = p.acceptingFrames)
    (hmask : q.enabledStreamMask = p.enabledStreamMask) (hlease : q.nextLease = p.nextLease) :
    SameRun p q := by
  refine SameRun.moved haccept hmask hlease ?_ ?_ ?_ ?_ <;> rw [hcore]

/-- The counters of one stream are replaced by others with the same accounted frames. -/
theorem SameRun.tally {p q : Pipeline} {s : Stream} {k : SourceCounters}
    (haccept : q.acceptingFrames = p.acceptingFrames)
    (hmask : q.enabledStreamMask = p.enabledStreamMask) (hlease : q.nextLease = p.nextLease)
    (hrun : q.runId = p.runId) (hsetup : q.setup = p.setup)
    (hcounters : q.sourceCounters = Function.update p.sourceCounters s k)
    (hready : q.readyQueues = p.readyQueues) (hk : SameCounts (p.sourceCounters s) k) :
    SameRun p q := by
  refine ⟨haccept, hmask, hlease, hrun, hsetup, ?_, ?_⟩
  · intro t
    rw [hcounters]
    by_cases ht : t = s
    · rw [ht, Function.update_self]
      exact hk
    · rw [Function.update_of_ne ht]
      exact SameCounts.refl _
  · intro t
    rw [hready]

/-- A buffer that does not exist or is free cannot be dropped. -/
theorem dropBuffer_invalid {p : Pipeline} {i : ℕ} {evict : Bool}
    (h : ¬(i < 200 ∧ (p.records i).state ≠ .free)) :
    p.dropBuffer i evict = p.invalidOperation := by
  unfold Pipeline.dropBuffer
  rw [if_pos]
  simp only [Bool.or_eq_true, decide_eq_true_eq]
  unfold kPacketBufferCount
  by_cases hfree : (p.records i).state = .free
  · exact Or.inr hfree
  · exact Or.inl (not_lt.mp fun hi => h ⟨hi, hfree⟩)

/-- A relation that holds across a change of one record and across a dropped buffer. -/
structure Closed (Rel : Pipeline → Pipeline → Prop) : Prop where
  trans {p q r : Pipeline} : Rel p q → Rel q r → Rel p r
  change {p q : Pipeline} {i : ℕ} {r : BufferRecord} :
    q.records = Function.update p.records i r →
    (r.grant = (p.records i).grant ∨ r.grant = none) → SameRun p q → Rel p q
  dropBuffer (p : Pipeline) (i : ℕ) (evict : Bool) : Rel p (p.dropBuffer i evict)

namespace Closed

variable {Rel : Pipeline → Pipeline → Prop} (hrel : Closed Rel) {p q : Pipeline} {i : ℕ}

include hrel

/-- No record changes. -/
theorem same (hrec : q.records = p.records) (hrun : SameRun p q) : Rel p q :=
  hrel.change (i := 0) (r := p.records 0) (by rw [hrec, Function.update_eq_self]) (Or.inl rfl) hrun

theorem refl (p : Pipeline) : Rel p p := hrel.same rfl (SameRun.refl p)

/-- Only statistics and cursors change. -/
theorem quiet (hcore : q.toCore = p.toCore) (haccept : q.acceptingFrames = p.acceptingFrames)
    (hmask : q.enabledStreamMask = p.enabledStreamMask) (hlease : q.nextLease = p.nextLease) :
    Rel p q :=
  hrel.same (by rw [hcore]) (SameRun.of_core hcore haccept hmask hlease)

theorem dropped (h : Rel p q) (i : ℕ) (evict : Bool) : Rel p (q.dropBuffer i evict) :=
  hrel.trans h (hrel.dropBuffer q i evict)

theorem invalidOperation (p : Pipeline) : Rel p p.invalidOperation := hrel.quiet rfl rfl rfl rfl

theorem encodingRejection (p : Pipeline) : Rel p p.encodingRejection := hrel.quiet rfl rfl rfl rfl

theorem recycle (p : Pipeline) (i : ℕ) : Rel p (p.recycle i) := by
  unfold Pipeline.recycle
  split
  · exact hrel.invalidOperation p
  · exact hrel.change (i := i) rfl (Or.inr BufferRecord.grant_default)
      (SameRun.moved rfl rfl rfl rfl rfl rfl rfl)

/-- A record is replaced under the same queues and counters. -/
theorem setRecord (p : Pipeline) (i : ℕ) {r : BufferRecord}
    (hr : r.grant = (p.records i).grant ∨ r.grant = none) : Rel p (p.withCore (p.setRecord i r)) :=
  hrel.change (i := i) rfl hr (SameRun.moved rfl rfl rfl rfl rfl rfl rfl)

/-- Frames leave a source FIFO. -/
theorem setReady (p : Pipeline) (s : Stream) {queue : List ℕ}
    (hsub : queue.Sublist (p.readyQueues s)) : Rel p (p.withCore (p.setReady s queue)) := by
  refine hrel.same rfl ⟨rfl, rfl, rfl, rfl, rfl, fun _ => SameCounts.refl _, ?_⟩
  intro t
  show (Function.update p.readyQueues s queue t).Sublist (p.readyQueues t)
  by_cases ht : t = s
  · rw [ht, Function.update_self]
    exact hsub
  · rw [Function.update_of_ne ht]

theorem setTransmit (p : Pipeline) (queue : List ℕ) : Rel p (p.withCore (p.setTransmit queue)) :=
  hrel.same rfl (SameRun.moved rfl rfl rfl rfl rfl rfl rfl)

/-! ### Producing -/

theorem evictCompleteBuffer (p : Pipeline) (i : ℕ) : Rel p (p.evictCompleteBuffer i).1 := by
  unfold Pipeline.evictCompleteBuffer
  dsimp only
  split
  · exact hrel.invalidOperation p
  split
  · exact hrel.invalidOperation p
  split
  · split
    · exact hrel.invalidOperation p
    · rename_i queue herase
      have hsub : queue.Sublist (p.readyQueues (p.records i).stream) := by
        unfold eraseFirst at herase
        split at herase
        · rw [← Option.some.inj herase]
          exact List.erase_sublist
        · cases herase
      have hdropped := hrel.dropped (hrel.setReady p (p.records i).stream hsub) i true
      exact hrel.trans hdropped (hrel.quiet rfl rfl rfl rfl)
  split
  · exact hrel.invalidOperation p
  split
  · exact hrel.invalidOperation p
  · generalize hlowered : p.withCore _ = lowered
    have hfirst : Rel p lowered := by
      rw [← hlowered]
      refine hrel.same rfl ?_
      exact SameRun.tally (s := (p.records i).stream) rfl rfl rfl rfl rfl rfl rfl ⟨rfl, rfl, rfl⟩
    exact hrel.trans (hrel.dropped hfirst i true) (hrel.quiet rfl rfl rfl rfl)

theorem takeFreeBuffer (p : Pipeline) : Rel p p.takeFreeBuffer.1 := by
  unfold Pipeline.takeFreeBuffer
  dsimp only
  split
  · exact hrel.quiet rfl rfl rfl rfl
  split
  · exact hrel.quiet rfl rfl rfl rfl
  · rename_i victim _
    generalize hcounted : ({ p with poolExhaustions := sat32 p.poolExhaustions 1 } : Pipeline) = q
    have hfirst : Rel p q := by
      rw [← hcounted]
      exact hrel.quiet rfl rfl rfl rfl
    have hevicted := hrel.trans hfirst (hrel.evictCompleteBuffer q victim)
    split
    · exact hrel.trans hevicted (hrel.quiet rfl rfl rfl rfl)
    · exact hevicted

theorem writePayload (p : Pipeline) (h : FillHandle) (off : ℕ) (bs : Bytes) :
    Rel p (p.writePayload h off bs) := by
  unfold Pipeline.writePayload
  split
  · exact hrel.invalidOperation p
  · exact hrel.same rfl (SameRun.moved rfl rfl rfl rfl rfl rfl rfl)

theorem cancelFill (p : Pipeline) (h : FillHandle) : Rel p (p.cancelFill h).1 := by
  unfold Pipeline.cancelFill
  split
  · exact hrel.invalidOperation p
  · exact hrel.dropBuffer p _ _

theorem publishReady (p : Pipeline) (i : ℕ) : Rel p (p.publishReady i) := by
  refine hrel.change (i := i) rfl (Or.inr ?_) ?_
  · apply BufferRecord.grant_state
    simp
  · exact SameRun.tally (s := (p.records i).stream) rfl rfl rfl rfl rfl rfl rfl ⟨rfl, rfl, rfl⟩

omit hrel in
/-- Every layout has frames. -/
theorem frameShape_pos (p : Pipeline) (s : Stream) : (p.frameShape s).frameBytes ≠ 0 := by
  have hframe := p.setup.frameBytes_eq s
  unfold Pipeline.frameShape
  dsimp only
  omega

/-- Finishing a fill puts its frame at the end of the source FIFO. -/
theorem finishFill
    (henqueue : ∀ (p : Pipeline) (s : Stream) (i : ℕ),
      Rel p (p.withCore (p.setReady s (p.readyQueues s ++ [i]))))
    (p : Pipeline) (h : FillHandle) (completion : FrameCompletion) :
    Rel p (p.finishFill h completion).1 := by
  unfold Pipeline.finishFill
  split
  · exact hrel.invalidOperation p
  dsimp only
  generalize p.encodePage (p.records h.bufferIndex) completion (p.frames h.bufferIndex) = encoded
  split
  · exact hrel.dropBuffer p _ _
  split
  · exact hrel.dropBuffer p _ _
  split
  · exact hrel.dropped (hrel.encodingRejection p) _ _
  have hwritten : Rel p (p.withCore (p.setFrame h.bufferIndex encoded.2)) :=
    hrel.same rfl (SameRun.moved rfl rfl rfl rfl rfl rfl rfl)
  split
  · exact hrel.dropped (hrel.trans hwritten (hrel.encodingRejection _)) _ _
  -- from here on the record has a size
  have hsize := frameShape_pos p (p.records h.bufferIndex).stream
  generalize hc : (p.withCore (p.setFrame h.bufferIndex encoded.2)).withCore
    ((p.withCore (p.setFrame h.bufferIndex encoded.2)).setRecord h.bufferIndex _) = complete
  have hcomplete : Rel p complete := by
    rw [← hc]
    exact hrel.trans hwritten (hrel.setRecord _ _ (Or.inr (BufferRecord.grant_size hsize)))
  split
  · refine hrel.dropped (hrel.trans hcomplete ?_) _ _
    exact hrel.same rfl (SameRun.moved rfl rfl rfl rfl rfl rfl rfl)
  rename_i queue hpush
  have hqueue : queue = complete.readyQueues (p.records h.bufferIndex).stream ++ [h.bufferIndex] := by
    unfold push at hpush
    split at hpush
    · cases hpush
    · exact (Option.some.inj hpush).symm
  rw [hqueue]
  have hqueued := hrel.trans hcomplete
    (henqueue complete (p.records h.bufferIndex).stream h.bufferIndex)
  split
  · refine hrel.trans hqueued (hrel.setRecord _ _ (Or.inr ?_))
    exact BufferRecord.grant_size hsize
  · exact hrel.trans hqueued (hrel.publishReady _ _)

/-! ### Codecs -/

omit hrel in
/-- A selected plan has room for the envelope. -/
theorem selectRle_frameBytes {decoded : Bytes} {shape : Rle.CodecShape} {maximum : ℕ}
    (h : (Rle.sizeForAdaptiveSelection decoded shape maximum).selectRle = true) :
    (Rle.sizeForAdaptiveSelection decoded shape maximum).plan.encodedFrameBytes ≠ 0 := by
  rcases Rle.Scan.shaped_or decoded shape maximum with ⟨n, hshaped⟩ | ⟨-, hno⟩
  · obtain ⟨hyes, hno⟩ := hshaped.select_eq maximum _ rfl
    have hfit := of_not_not fun hfit => absurd h (by rw [hno hfit]; decide)
    rw [(hyes hfit).2]
    exact Nat.succ_ne_zero _
  · rw [hno] at h
    cases h

/-- A buffer that is lent out and recycled. -/
theorem lent {scratch : ℕ} {lend r : BufferRecord} (hi : scratch < 200)
    (hrec : q.records = Function.update (Function.update p.records scratch lend) i r)
    (hr : r.grant = none) (hrun : SameRun p q) : Rel p (q.recycle scratch) := by
  have hmid : Rel p (p.withCore (p.setRecord i r)) := hrel.setRecord p i (Or.inr hr)
  refine hrel.trans hmid (hrel.change (i := scratch) (r := {}) ?_
    (Or.inr BufferRecord.grant_default) ?_)
  · unfold Pipeline.recycle
    rw [if_neg (by unfold kPacketBufferCount; omega)]
    show Function.update q.records scratch {} =
      Function.update (Function.update p.records i r) scratch {}
    rw [hrec]
    funext j
    by_cases hj : j = scratch
    · rw [hj, Function.update_self, Function.update_self]
    · rw [Function.update_of_ne hj, Function.update_of_ne hj]
      by_cases hji : j = i
      · rw [hji, Function.update_self, Function.update_self]
      · rw [Function.update_of_ne hji, Function.update_of_ne hji, Function.update_of_ne hj]
  · unfold Pipeline.recycle
    rw [if_neg (by unfold kPacketBufferCount; omega)]
    exact ⟨hrun.acceptingFrames, hrun.enabledStreamMask, hrun.nextLease, hrun.runId, hrun.setup,
      hrun.counts, hrun.ready⟩

/-- A buffer that is lent out in vain. -/
theorem returned {scratch : ℕ} {lend : BufferRecord} (hi : scratch < 200)
    (hrec : q.records = Function.update p.records scratch lend) (hrun : SameRun p q) :
    Rel p (q.recycle scratch) := by
  refine hrel.change (i := scratch) (r := {}) ?_ (Or.inr BufferRecord.grant_default) ?_
  · unfold Pipeline.recycle
    rw [if_neg (by unfold kPacketBufferCount; omega)]
    show Function.update q.records scratch {} = Function.update p.records scratch {}
    rw [hrec, Function.update_idem]
  · unfold Pipeline.recycle
    rw [if_neg (by unfold kPacketBufferCount; omega)]
    exact ⟨hrun.acceptingFrames, hrun.enabledStreamMask, hrun.nextLease, hrun.runId, hrun.setup,
      hrun.counts, hrun.ready⟩

theorem compressGpio (p : Pipeline) (i : ℕ) : Rel p (p.compressGpio i).1 := by
  unfold Pipeline.compressGpio
  dsimp only
  generalize hsel : Rle.sizeForAdaptiveSelection _ _ _ = selection
  split
  · exact hrel.encodingRejection p
  split
  · exact hrel.refl p
  rename_i hselect
  have hbytes : selection.plan.encodedFrameBytes ≠ 0 := by
    rw [← hsel]
    apply selectRle_frameBytes
    rw [hsel]
    simpa using hselect
  split
  · exact hrel.refl p
  rename_i scratch hfind
  have hscratch : scratch < 200 := by
    have := List.mem_of_find?_eq_some hfind
    simpa using this
  generalize (if (p.layoutOf i).itemBytes = 2 then _ else _ : Rle.EncodeResult × Bytes) = encoded
  split
  · generalize p.sealRle _ _ _ _ = sealed
    split
    · exact hrel.returned hscratch rfl (SameRun.moved rfl rfl rfl rfl rfl rfl rfl)
    · refine hrel.lent hscratch rfl ?_ (SameRun.moved rfl rfl rfl rfl rfl rfl rfl)
      apply BufferRecord.grant_size
      dsimp only
      omega
  · exact hrel.returned hscratch rfl (SameRun.moved rfl rfl rfl rfl rfl rfl rfl)

theorem packAdc12 (p : Pipeline) (i : ℕ) : Rel p (p.packAdc12 i).1 := by
  unfold Pipeline.packAdc12
  dsimp only
  split
  · exact hrel.quiet rfl rfl rfl rfl
  split
  · refine hrel.change (i := i) rfl (Or.inr ?_)
      (SameRun.moved rfl rfl rfl rfl rfl rfl rfl)
    apply BufferRecord.grant_size
    dsimp only
    omega
  · refine hrel.change (i := i) rfl (Or.inr ?_)
      (SameRun.moved rfl rfl rfl rfl rfl rfl rfl)
    apply BufferRecord.grant_size
    dsimp only
    omega

theorem discardDeferred (p : Pipeline) (s : Stream) (i : ℕ) : Rel p (p.discardDeferred s i) :=
  hrel.dropped (hrel.setReady p s List.erase_sublist) i false

theorem setCodec (p : Pipeline) (s : Stream) (k : CodecCounters) : Rel p (p.setCodec s k) :=
  hrel.quiet rfl rfl rfl rfl

theorem settleDeferred (p : Pipeline) (s : Stream) (i : ℕ) (late ok : Bool) :
    Rel p (p.settleDeferred s i late ok) := by
  unfold Pipeline.settleDeferred
  dsimp only
  split
  · exact hrel.trans (hrel.setCodec p s _) (hrel.discardDeferred _ s i)
  split
  · exact hrel.trans (hrel.setCodec p s _) (hrel.discardDeferred _ s i)
  · exact hrel.trans (hrel.setCodec p s _) (hrel.publishReady _ i)

theorem encodeDeferred (p : Pipeline) (ticks : UInt64) (readTicks : Option (UInt64 × UInt64))
    (s : Stream) (i : ℕ) : Rel p (p.encodeDeferred ticks readTicks s i) := by
  unfold Pipeline.encodeDeferred
  dsimp only
  generalize hcoded : (if (p.records i).stream = .gpio then p.compressGpio i else p.packAdc12 i) = coded
  have hfirst : Rel p coded.1 := by
    rw [← hcoded]
    split
    · exact hrel.compressGpio p i
    · exact hrel.packAdc12 p i
  generalize hwork : coded.1.countWork s _ = worked
  have hcounted : Rel p worked := by
    rw [← hwork]
    exact hrel.trans hfirst (hrel.setCodec _ _ _)
  exact hrel.trans (hrel.trans hcounted (hrel.settleDeferred worked s i _ _))
    (hrel.quiet rfl rfl rfl rfl)

theorem serviceDeferred (p : Pipeline) (ticks : UInt64) (budget : ℕ)
    (readTicks : Option (UInt64 × UInt64)) : Rel p (p.serviceDeferred ticks budget readTicks) := by
  have hfrom : ∀ (l : List Stream) (p : Pipeline),
      Rel p (Pipeline.serviceDeferredFrom ticks budget readTicks l p) := by
    intro l
    induction l with
    | nil => exact fun p => hrel.refl p
    | cons s l ih =>
      intro p
      rw [Pipeline.serviceDeferredFrom]
      split
      · exact ih p
      rename_i i _
      dsimp only
      generalize hk : p.setCodec s _ = aged
      have haged : Rel p aged := by
        rw [← hk]
        exact hrel.setCodec p s _
      apply hrel.trans haged
      split
      · refine hrel.trans ?_ (ih _)
        exact hrel.trans (hrel.setCodec aged s _) (hrel.discardDeferred _ s i)
      split
      · exact ih aged
      · exact hrel.encodeDeferred aged ticks readTicks s i
  unfold Pipeline.serviceDeferred
  split
  · exact hrel.refl p
  · have hclock : Rel p (p.setDeferredClock ticks) := hrel.quiet rfl rfl rfl rfl
    exact hrel.trans hclock (hfrom _ _)

/-! ### The transport's side -/

theorem finalizeGapBefore (p : Pipeline) (i : ℕ) : Rel p (p.finalizeGapBefore i).1 := by
  unfold Pipeline.finalizeGapBefore
  dsimp only
  split
  · exact hrel.refl p
  split
  · exact hrel.refl p
  split
  · exact hrel.refl p
  split
  · exact hrel.refl p
  split
  · exact hrel.same rfl (SameRun.moved rfl rfl rfl rfl rfl rfl rfl)
  · exact hrel.change (i := i) rfl (Or.inl rfl)
      (SameRun.moved rfl rfl rfl rfl rfl rfl rfl)

theorem prepareFrontFrame (p : Pipeline) : Rel p p.prepareFrontFrame.1 := by
  unfold Pipeline.prepareFrontFrame
  split
  · exact hrel.invalidOperation p
  dsimp only
  split
  · exact hrel.invalidOperation p
  split
  · exact hrel.invalidOperation p
  · exact hrel.finalizeGapBefore p _

theorem markFrontFrameStarted (p : Pipeline) : Rel p p.markFrontFrameStarted := by
  unfold Pipeline.markFrontFrameStarted
  split
  · exact hrel.invalidOperation p
  dsimp only
  split
  · exact hrel.invalidOperation p
  split
  · exact hrel.invalidOperation p
  · exact hrel.setRecord p _ (Or.inl rfl)

theorem lowerDepth (p : Pipeline) (s : Stream) : Rel p (p.lowerDepth s) := by
  unfold Pipeline.lowerDepth
  split
  · exact hrel.invalidOperation p
  · exact hrel.same rfl (SameRun.moved rfl rfl rfl rfl rfl rfl rfl)

theorem abortFrontFrame (p : Pipeline) : Rel p p.abortFrontFrame.1 := by
  unfold Pipeline.abortFrontFrame
  split
  · exact hrel.invalidOperation p
  rename_i i rest _
  dsimp only
  apply hrel.trans (hrel.setTransmit p rest)
  generalize p.withCore (p.setTransmit rest) = popped
  split
  · exact hrel.invalidOperation popped
  split
  · exact hrel.trans (hrel.invalidOperation popped) (hrel.recycle _ i)
  · exact hrel.dropped (hrel.lowerDepth popped _) i false

theorem releaseFrontFrame (p : Pipeline) : Rel p p.releaseFrontFrame := by
  unfold Pipeline.releaseFrontFrame
  split
  · exact hrel.invalidOperation p
  rename_i i rest _
  dsimp only
  apply hrel.trans (hrel.setTransmit p rest)
  generalize p.withCore (p.setTransmit rest) = popped
  split
  · exact hrel.invalidOperation popped
  split
  · exact hrel.trans (hrel.invalidOperation popped) (hrel.recycle _ i)
  · generalize hstarted : popped.withCore _ = started
    have hfirst : Rel popped started := by
      rw [← hstarted]
      refine hrel.change (i := i) rfl (Or.inl rfl) ?_
      exact SameRun.tally (s := (popped.records i).stream) rfl rfl rfl rfl rfl rfl rfl ⟨rfl, rfl, rfl⟩
    exact hrel.trans (hrel.trans hfirst (hrel.lowerDepth _ _)) (hrel.recycle _ i)

end Closed

/-! ### The run itself -/

namespace Pipeline

/-- Two pipelines of the same run, open or not. -/
structure Stays (p q : Pipeline) : Prop where
  acceptingFrames : q.acceptingFrames = p.acceptingFrames
  enabledStreamMask : q.enabledStreamMask = p.enabledStreamMask
  runId : q.runId = p.runId
  setup : q.setup = p.setup

variable {p q r : Pipeline}

theorem Stays.refl (p : Pipeline) : Stays p p := ⟨rfl, rfl, rfl, rfl⟩

theorem Stays.trans (h : Stays p q) (h' : Stays q r) : Stays p r where
  acceptingFrames := h'.acceptingFrames.trans h.acceptingFrames
  enabledStreamMask := h'.enabledStreamMask.trans h.enabledStreamMask
  runId := h'.runId.trans h.runId
  setup := h'.setup.trans h.setup

theorem recycle_stays (p : Pipeline) (i : ℕ) : Stays p (p.recycle i) := by
  unfold recycle
  split <;> exact ⟨rfl, rfl, rfl, rfl⟩

theorem propagateGapAfter_stays (p : Pipeline) (dropped : BufferRecord) :
    Stays p (p.propagateGapAfter dropped) := by
  unfold propagateGapAfter
  split
  · unfold markGapBefore
    dsimp only
    split
    · exact ⟨rfl, rfl, rfl, rfl⟩
    split <;> exact ⟨rfl, rfl, rfl, rfl⟩
  · exact ⟨rfl, rfl, rfl, rfl⟩

theorem dropBuffer_stays (p : Pipeline) (i : ℕ) (evict : Bool) : Stays p (p.dropBuffer i evict) := by
  unfold dropBuffer
  dsimp only
  split
  · exact ⟨rfl, rfl, rfl, rfl⟩
  · refine Stays.trans ?_ (recycle_stays _ i)
    refine Stays.trans (Stays.trans ?_ (propagateGapAfter_stays _ _)) ⟨rfl, rfl, rfl, rfl⟩
    exact ⟨rfl, rfl, rfl, rfl⟩

theorem stays_closed : Closed Stays where
  trans := Stays.trans
  change := fun _ _ hrun =>
    ⟨hrun.acceptingFrames, hrun.enabledStreamMask, hrun.runId, hrun.setup⟩
  dropBuffer := dropBuffer_stays

end Pipeline

end ThingDaq
