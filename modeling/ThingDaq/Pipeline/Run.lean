import ThingDaq.Pipeline.Steps

/-!
# Runs of the packet pipeline

A run calls public operations in any order and with any arguments.  `Tracked`
carries the history variables along; `Guard` is what the callers promise under
given rules.

## Main results

* `step_moves` — every operation is a sequence of moves or starts a run afresh.
* `Reach.rule` — what holds of a fresh world and survives every move holds of
  every reachable state.
* `serviceLoop_fuel` — the promotion loop never runs out of fuel.
-/

namespace ThingDaq

open Wire Table

inductive Op
  | startRun (runId : UInt32) (checksumAlgorithm : ChecksumAlgorithm) (mask : UInt8)
      (layout : RunLayout)
  | stopProduction
  | beginFill (s : Stream)
  | recordSourceFrameDrops (s : Stream) (frameCount : UInt64)
  | writePayload (h : FillHandle) (off : ℕ) (bs : Bytes)
  | finishFill (h : FillHandle) (completion : FrameCompletion)
  | cancelFill (h : FillHandle)
  | setDeferredClock (ticks : UInt64)
  | serviceDeferred (ticks : UInt64) (budget : ℕ) (readTicks : Option (UInt64 × UInt64))
  | serviceReadyFrames (limit : ℕ)
  | prepareFrontFrame
  | markFrontFrameStarted
  | abortFrontFrame
  | releaseFrontFrame

/-- A pipeline with its history; `prepared` says that the last call prepared the
front frame. -/
structure Tracked where
  pipe : Pipeline
  history : History
  prepared : Bool

namespace Tracked

def initial : Tracked := ⟨Pipeline.initial, {}, false⟩

def world (t : Tracked) : World := ⟨t.pipe.toCore, t.history⟩

def step (t : Tracked) : Op → Tracked
  | .startRun runId checksumAlgorithm mask layout =>
    let started := t.pipe.startRun runId checksumAlgorithm mask layout
    ⟨started.1, if started.2 = .ok then {} else t.history, false⟩
  | .stopProduction => ⟨t.pipe.stopProduction.1, t.history, false⟩
  | .beginFill s => ⟨(t.pipe.beginFill s).1, t.history.began s (t.pipe.beginFill s).2, false⟩
  | .recordSourceFrameDrops s frameCount =>
    let dropped := t.pipe.recordSourceFrameDrops s frameCount.toNat
    ⟨dropped.1, if dropped.2 = .ok ∧ frameCount.toNat ≠ 0 then
      t.history.lose s frameCount.toNat true else t.history, false⟩
  | .writePayload h off bs => ⟨t.pipe.writePayload h off bs, t.history, false⟩
  | .finishFill h completion =>
    let finished := t.pipe.finishFill h completion
    ⟨finished.1, t.history.finished t.pipe h completion finished.2, false⟩
  | .cancelFill h => ⟨(t.pipe.cancelFill h).1, t.history, false⟩
  | .setDeferredClock ticks => ⟨t.pipe.setDeferredClock ticks, t.history, false⟩
  | .serviceDeferred ticks budget readTicks =>
    ⟨t.pipe.serviceDeferred ticks budget readTicks, t.history, false⟩
  | .serviceReadyFrames limit => ⟨(t.pipe.serviceReadyFrames limit).1, t.history, false⟩
  | .prepareFrontFrame => ⟨t.pipe.prepareFrontFrame.1, t.history, t.pipe.prepareFrontFrame.2⟩
  | .markFrontFrameStarted => ⟨t.pipe.markFrontFrameStarted, t.history, false⟩
  | .abortFrontFrame => ⟨t.pipe.abortFrontFrame.1, t.history, false⟩
  | .releaseFrontFrame => ⟨t.pipe.releaseFrontFrame, t.history.sent t.pipe, false⟩

/-- The frame at the head of the transmit queue was started, if there is one. -/
def FrontStarted (t : Tracked) : Prop :=
  ∀ i, t.pipe.transmitQueue.head? = some i → (t.pipe.records i).transmissionStarted = true

/-- What the callers promise. -/
def Guard (R : Rules) (t : Tracked) : Op → Prop
  | .beginFill s => (R.oneOpen = true → t.pipe.NoOpen s) ∧
      (R.transport = true → (t.pipe.beginFill s).2.status = .ok →
        t.history.produced s < t.history.expected s + 2 ^ 31)
  | .finishFill h completion => (R.transport = true → t.pipe.handleMatches h = true →
      completion.flags &&& (flagGapBefore ||| flagOverrunBefore) ≠ 0 →
        t.history.afterLoss h.bufferIndex = true) ∧
      (R.ticks = true → t.pipe.setup.layout.isV3 = true → completion.firstSampleTicks.toNat ≤
        2 ^ 64 - 1 - (t.pipe.setup.stream h.stream).itemCount * 8)
  | .markFrontFrameStarted => R.transport = true → t.prepared = true ∨ t.FrontStarted
  | .abortFrontFrame => t.FrontStarted
  | .releaseFrontFrame => R.transport = true → t.FrontStarted
  | _ => True

end Tracked

open Tracked

/-- The states a guarded run reaches. -/
inductive Reach (R : Rules) : Tracked → Prop
  | initial : Reach R Tracked.initial
  | step {t : Tracked} {op : Op} (h : Reach R t) (hguard : t.Guard R op) : Reach R (t.step op)

/-- The state after some operations. -/
def Tracked.run (t : Tracked) (ops : List Op) : Tracked := ops.foldl Tracked.step t

/-- Every operation meets the callers' promises. -/
def Tracked.Guarded (R : Rules) : Tracked → List Op → Prop
  | _, [] => True
  | t, op :: ops => t.Guard R op ∧ Guarded R (t.step op) ops

theorem Reach.run {R : Rules} {t : Tracked} {ops : List Op} (h : Reach R t)
    (hguard : t.Guarded R ops) : Reach R (t.run ops) := by
  induction ops generalizing t with
  | nil => exact h
  | cons op ops ih => exact ih (h.step hguard.1) hguard.2

/-- A world in which nothing was produced yet. -/
structure Fresh (w : World) : Prop where
  records : w.core.records = fun _ => {}
  readyQueues : w.core.readyQueues = fun _ => []
  transmitQueue : w.core.transmitQueue = []
  sourceCounters : w.core.sourceCounters = fun _ => {}
  depth : w.core.transmitDepthBySource = fun _ => 0
  gapNext : w.core.gapBeforeNextFrame = fun _ => false
  readyQueueRejections : w.core.readyQueueRejections = 0
  transmitQueueRejections : w.core.transmitQueueRejections = 0
  history : w.history = {}

theorem fresh_initial : Fresh Tracked.initial.world := ⟨rfl, rfl, rfl, rfl, rfl, rfl, rfl, rfl, rfl⟩

theorem Fresh.inv {w : World} (h : Fresh w) : Inv w where
  slot := fun i => by
    rw [h.records]
    exact Local.default _ _ _ _ _
  queues :=
    { ready_mem := fun s i => by simp [h.records, h.readyQueues, BufferRecord.Queued]
      ready_nodup := fun s => by simp [h.readyQueues]
      transmit_mem := fun i => by simp [h.records, h.transmitQueue]
      transmit_nodup := by simp [h.transmitQueue]
      depth := fun s => by
        rw [h.depth, h.records]
        exact (countTo_eq_zero.mpr fun i _ => by simp).symm
      started := fun i hi => by simp [h.records] at hi }

theorem Fresh.waiting {w : World} (h : Fresh w) : Waiting w.core := fun i hi => by
  simp [h.records] at hi

/-- What every reachable state satisfies, whatever the rules. -/
structure Good (t : Tracked) : Prop where
  inv : Inv t.world
  waiting : Waiting t.pipe.toCore
  prepared : t.prepared = true → ∀ i, t.pipe.transmitQueue.head? = some i →
    (t.pipe.records i).gapBeforeRequired = false

theorem good_initial : Good Tracked.initial :=
  ⟨fresh_initial.inv, fresh_initial.waiting, fun h => by cases h⟩

theorem startRun_cases (p : Pipeline) (runId : UInt32) (alg : ChecksumAlgorithm) (mask : UInt8)
    (layout : RunLayout) :
    (∃ setup, p.startRun runId alg mask layout = (p.reset runId mask setup, .ok)) ∨
      ((p.startRun runId alg mask layout).1 = p.rejectStart ∧
        (p.startRun runId alg mask layout).2 ≠ .ok) := by
  unfold Pipeline.startRun
  split
  · exact Or.inr ⟨rfl, by simp⟩
  split
  · exact Or.inr ⟨rfl, by simp⟩
  split
  · exact Or.inr ⟨rfl, by simp⟩
  split
  · split
    · exact Or.inr ⟨rfl, by simp⟩
    split
    · exact Or.inl ⟨_, rfl⟩
    · exact Or.inr ⟨rfl, by simp⟩
  · exact Or.inr ⟨rfl, by simp⟩

variable {R : Rules} {t : Tracked} {op : Op}

theorem step_moves (hgood : Good t) (hguard : t.Guard R op) :
    Fresh (t.step op).world ∨ Moves R t.world (t.step op).world := by
  have hinv := hgood.inv
  cases op with
  | startRun runId alg mask layout =>
    unfold Tracked.step Tracked.world
    rcases startRun_cases t.pipe runId alg mask layout with ⟨setup, heq⟩ | ⟨hp, hs⟩
    · simp only [heq, if_true]
      exact Or.inl ⟨rfl, rfl, rfl, rfl, rfl, rfl, rfl, rfl, rfl⟩
    · simp only [hp, if_neg hs]
      exact Or.inr (Moves.refl _)
  | stopProduction =>
    simp only [Tracked.step, Tracked.world]
    exact Or.inr stopProduction_moves
  | beginFill s => exact Or.inr (beginFill_moves hinv hguard.1 hguard.2)
  | recordSourceFrameDrops s n => exact Or.inr (recordSourceFrameDrops_moves n.toNat)
  | writePayload h off bs => exact Or.inr (writePayload_moves h off bs)
  | finishFill h completion => exact Or.inr (finishFill_moves hinv h completion hguard.1 hguard.2)
  | cancelFill h => exact Or.inr (cancelFill_moves h)
  | setDeferredClock ticks => exact Or.inr (Moves.refl _)
  | serviceDeferred ticks budget readTicks =>
    exact Or.inr (serviceDeferred_moves hinv hgood.waiting ticks budget readTicks)
  | serviceReadyFrames limit => exact Or.inr (serviceReadyFrames_moves hinv limit)
  | prepareFrontFrame => exact Or.inr (prepareFrontFrame_moves hinv).1
  | markFrontFrameStarted =>
    refine Or.inr (markFrontFrameStarted_moves hinv fun ht i hi => ?_)
    rcases hguard ht with hp | hs
    · exact Or.inl (hgood.prepared hp i hi)
    · exact Or.inr (hs i hi)
  | abortFrontFrame => exact Or.inr (abortFrontFrame_moves hinv hguard)
  | releaseFrontFrame => exact Or.inr (releaseFrontFrame_moves hinv hguard)

theorem Good.step (hgood : Good t) (hguard : t.Guard R op) : Good (t.step op) where
  inv := by
    rcases step_moves hgood hguard with hfresh | hmoves
    · exact hfresh.inv
    · exact hgood.inv.moves hmoves
  waiting := by
    rcases step_moves hgood hguard with hfresh | hmoves
    · exact hfresh.waiting
    · exact Waiting.moves (w := t.world) hgood.waiting hmoves
  prepared := by
    cases op with
    | prepareFrontFrame =>
      intro hp i hi
      obtain ⟨hqueue, hgap⟩ := (prepareFrontFrame_moves (R := R) hgood.inv).2 hp
      refine hgap i ?_
      rw [← hqueue]
      exact hi
    | _ => exact fun h => by cases h

theorem Reach.good (h : Reach R t) : Good t := by
  induction h with
  | initial => exact good_initial
  | step _ hguard ih => exact ih.step hguard

/-- The invariant rule of the pipeline. -/
theorem Reach.rule {P : World → Prop} (hfresh : ∀ w, Fresh w → P w)
    (hmove : ∀ w w', Inv w → P w → Move R w w' → P w') (h : Reach R t) : P t.world := by
  have hrun : ∀ w w', Inv w → P w → Moves R w w' → P w' := by
    intro w w' hinv hp hmoves
    suffices Inv w' ∧ P w' from this.2
    induction hmoves with
    | refl => exact ⟨hinv, hp⟩
    | tail _ hstep ih => exact ⟨ih.1.move hstep, hmove _ _ ih.1 ih.2 hstep⟩
  induction h with
  | initial => exact hfresh _ fresh_initial
  | step h hguard ih =>
    rcases step_moves h.good hguard with hf | hmoves
    · exact hfresh _ hf
    · exact hrun _ _ h.good.inv ih hmoves

/-! ### The promotion loop ends -/

section Fuel

variable {p : Pipeline} {i : ℕ}

theorem recycle_readyQueues : (p.recycle i).readyQueues = p.readyQueues := by
  unfold Pipeline.recycle
  split <;> rfl

theorem propagateGapAfter_readyQueues (r : BufferRecord) :
    (p.propagateGapAfter r).readyQueues = p.readyQueues := by
  rw [propagateGapAfter_core]
  exact (p.propagate_other r).2.1

theorem dropBuffer_readyQueues (evict : Bool) :
    (p.dropBuffer i evict).readyQueues = p.readyQueues := by
  unfold Pipeline.dropBuffer
  simp only
  split
  · rfl
  · rw [recycle_readyQueues]
    exact propagateGapAfter_readyQueues (p := p.withCore _) _

theorem finalizeGapBefore_readyQueues : (p.finalizeGapBefore i).1.readyQueues = p.readyQueues := by
  unfold Pipeline.finalizeGapBefore
  simp only
  split
  · rfl
  split
  · rfl
  split
  · rfl
  split
  · rfl
  · split <;> rfl

/-- The frames in the source FIFOs. -/
def Pipeline.readyLength (p : Pipeline) : ℕ :=
  (p.readyQueues .adc).length + (p.readyQueues .gpio).length

theorem readyLength_pop {s : Stream} {rest : List ℕ} (h : p.readyQueues s = i :: rest)
    {q : Pipeline} (hq : q.readyQueues = Function.update p.readyQueues s rest) :
    q.readyLength + 1 = p.readyLength := by
  unfold Pipeline.readyLength
  rw [hq]
  cases s <;> simp [h] <;> omega

/-- More fuel than queued frames makes no difference. -/
theorem serviceLoop_fuel (limit : ℕ) : ∀ (fuel : ℕ) (p : Pipeline) (report : PromotionReport),
    p.readyLength < fuel → ∀ extra, Pipeline.serviceLoop limit (fuel + extra) p report =
      Pipeline.serviceLoop limit fuel p report := by
  intro fuel
  induction fuel with
  | zero => intro p report h; omega
  | succ fuel ih =>
    intro p report hfuel extra
    rw [Nat.add_right_comm]
    unfold Pipeline.serviceLoop
    split
    · rfl
    split
    · rfl
    split
    · rfl
    next s _ hselect =>
    have hcandidate : p.readyCandidate s = true := Pipeline.selectFrom_some hselect
    unfold Pipeline.readyCandidate at hcandidate
    cases hqueue : p.readyQueues s with
    | nil => simp [hqueue] at hcandidate
    | cons i rest =>
      simp only
      have hpop : ∀ q : Pipeline, q.readyQueues = Function.update p.readyQueues s rest →
          q.readyLength < fuel := fun q hq => by
        have := readyLength_pop hqueue hq
        omega
      split
      · exact ih _ _ (hpop _ rfl) extra
      split
      · exact ih _ _ (hpop _ (dropBuffer_readyQueues false)) extra
      have hfinal := finalizeGapBefore_readyQueues (p := p.withCore (p.setReady s rest)) (i := i)
      split
      · refine ih _ _ (hpop _ ?_) extra
        exact (dropBuffer_readyQueues (p := Pipeline.encodingRejection _) false).trans hfinal
      split
      · rfl
      · refine ih _ _ (hpop _ ?_) extra
        exact hfinal

/-- So `serviceReadyFrames` runs its loop to the end. -/
theorem serviceReadyFrames_eq (limit extra : ℕ) : p.serviceReadyFrames limit =
    Pipeline.serviceLoop limit (p.readyLength + 1 + extra) p {} :=
  (serviceLoop_fuel limit _ p {} (Nat.lt_succ_self _) extra).symm

end Fuel

end ThingDaq
