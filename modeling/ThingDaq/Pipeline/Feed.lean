import ThingDaq.Pipeline.Effects
import ThingDaq.Pipeline.Order

/-!
# Feeding the pipeline

What the producers rely on: an open pipeline gives every `beginFill` the next number of its
stream, whether or not it has a buffer for it, and `recordSourceFrameDrops` takes as many
numbers as it is told.  A `Feed` is the pipeline with a log of the frames that a producer
hands to `finishFill`.

## Main results

* `Reach.next` — the wire sequence is the production number, modulo `2 ^ 32`.
* `beginFill_spec`, `drops_spec` — the numbers an open pipeline takes.
-/

namespace ThingDaq

open Wire Table

/-! ### Sequences -/

variable {R : Rules}

theorem Core.setCounters_nextSequence (c : Core) (s : Stream) {k : SourceCounters}
    (h : k.nextSequence = (c.sourceCounters s).nextSequence) (t : Stream) :
    ((c.setCounters s k).sourceCounters t).nextSequence = (c.sourceCounters t).nextSequence := by
  unfold Core.setCounters
  dsimp only
  by_cases ht : t = s
  · subst ht
    rw [Function.update_self, h]
  · rw [Function.update_of_ne ht]

theorem Move.next {w w' : World} (hmove : Move R w w')
    (h : ∀ s, (w.core.sourceCounters s).nextSequence = UInt32.ofNat (w.history.produced s)) :
    ∀ s, (w'.core.sourceCounters s).nextSequence = UInt32.ofNat (w'.history.produced s) := by
  intro t
  have ht := h t
  cases hmove with
  | @openFill c g s i l =>
    by_cases hs : t = s
    · subst hs
      simp only [Core.openFill, History.openFill, Core.setGapNext, Core.setRecord, Core.setCounters,
        Function.update_self, UInt32.ofNat_add]
      rw [ht]
      rfl
    · simp only [Core.openFill, History.openFill, Core.setGapNext, Core.setRecord, Core.setCounters,
        Function.update_of_ne hs]
      exact ht
  | @lose c g s n atSource =>
    by_cases hs : t = s
    · subst hs
      simp only [Core.lose, History.lose, Core.setGapNext, Core.setCounters, Function.update_self,
        UInt32.ofNat_add]
      rw [ht]
    · simp only [Core.lose, History.lose, Core.setGapNext, Core.setCounters,
        Function.update_of_ne hs]
      exact ht
  | scribble => exact ht
  | complete => exact ht
  | finish => exact (Core.publish_nextSequence _ t).trans ht
  | publish => exact (Core.publish_nextSequence _ t).trans ht
  | flush => exact ht
  | @promote c g s i q =>
    unfold Core.promote
    exact (Core.setCounters_nextSequence _ s (by rfl) t).trans ht
  | dropOpen => exact (Core.drop_nextSequence _ _ _ t).trans ht
  | dropQueued => exact (Core.drop_nextSequence _ _ _ t).trans ht
  | @evictPromoted c g i =>
    refine (Core.drop_nextSequence _ _ _ t).trans ?_
    unfold Core.countEvictedAfterPromotion
    exact (Core.setCounters_nextSequence (c.unqueue i) (c.records i).stream (by rfl) t).trans ht
  | start => exact ht
  | abort => exact (Core.drop_nextSequence _ _ _ t).trans ht
  | @release c g i q =>
    unfold Core.release
    exact (Core.setCounters_nextSequence (c.unqueue i) (c.records i).stream (by rfl) t).trans ht

theorem Reach.next {t : Tracked} (h : Reach R t) (s : Stream) :
    (t.pipe.sourceCounters s).nextSequence = UInt32.ofNat (t.history.produced s) := by
  refine Reach.rule (P := fun w => ∀ s,
    (w.core.sourceCounters s).nextSequence = UInt32.ofNat (w.history.produced s)) ?_ ?_ h s
  · intro w hw s
    rw [hw.sourceCounters, hw.history]
    rfl
  · intro w w' _ hp hmove
    exact hmove.next hp

/-! ### An open pipeline -/

namespace Pipeline

/-- `accepts` -/
def accepts (p : Pipeline) (s : Stream) (runId : UInt32) (checksum : ChecksumAlgorithm) : Bool :=
  p.acceptingFrames && p.runId = runId && p.setup.checksumAlgorithm = checksum &&
    streamEnabled p.enabledStreamMask s

variable {p q r : Pipeline}

theorem Stays.accepts (h : Stays p q) (s : Stream) (runId : UInt32) (checksum : ChecksumAlgorithm) :
    q.accepts s runId checksum = p.accepts s runId checksum := by
  unfold Pipeline.accepts
  rw [h.acceptingFrames, h.enabledStreamMask, h.runId, h.setup]

theorem beginFill_stays (p : Pipeline) (s : Stream) : Stays p (p.beginFill s).1 := by
  unfold beginFill
  split
  · exact ⟨rfl, rfl, rfl, rfl⟩
  split
  · exact ⟨rfl, rfl, rfl, rfl⟩
  dsimp only
  generalize hproduced : p.withCore (p.setCounters s _) = produced
  have hstays : Stays p produced := by
    rw [← hproduced]
    exact ⟨rfl, rfl, rfl, rfl⟩
  have htaken := hstays.trans (stays_closed.takeFreeBuffer produced)
  split
  · rename_i q hq
    rw [hq] at htaken
    exact htaken.trans ⟨rfl, rfl, rfl, rfl⟩
  · rename_i q i hq
    rw [hq] at htaken
    exact htaken.trans ⟨rfl, rfl, rfl, rfl⟩

theorem recordSourceFrameDrops_stays (p : Pipeline) (s : Stream) (n : ℕ) :
    Stays p (p.recordSourceFrameDrops s n).1 := by
  unfold recordSourceFrameDrops
  split
  · exact ⟨rfl, rfl, rfl, rfl⟩
  split
  · exact ⟨rfl, rfl, rfl, rfl⟩
  split
  · exact Stays.refl p
  · exact ⟨rfl, rfl, rfl, rfl⟩

/-- A pipeline open to a producer numbers the frame, whether or not it has a buffer for it. -/
theorem beginFill_open {s : Stream} {runId : UInt32} {checksum : ChecksumAlgorithm}
    (hopen : p.accepts s runId checksum = true) (hrun : runId ≠ 0) :
    ((p.beginFill s).2.status = .ok ∨ (p.beginFill s).2.status = .poolExhausted) ∧
      (p.beginFill s).2.handle.stream = s ∧
      (p.beginFill s).2.handle.sequence = (p.sourceCounters s).nextSequence := by
  simp only [accepts, Bool.and_eq_true, decide_eq_true_eq] at hopen
  obtain ⟨⟨⟨haccepting, hid⟩, -⟩, henabled⟩ := hopen
  unfold beginFill
  rw [if_neg (by simp [haccepting, hid, hrun]), if_neg (by simp [henabled])]
  dsimp only
  split
  · exact ⟨Or.inr rfl, rfl, rfl⟩
  · exact ⟨Or.inl rfl, rfl, rfl⟩

theorem recordSourceFrameDrops_open {s : Stream} {runId : UInt32} {checksum : ChecksumAlgorithm}
    (hopen : p.accepts s runId checksum = true) (hrun : runId ≠ 0) (n : ℕ) :
    (p.recordSourceFrameDrops s n).2 = .ok := by
  simp only [accepts, Bool.and_eq_true, decide_eq_true_eq] at hopen
  obtain ⟨⟨⟨haccepting, hid⟩, -⟩, henabled⟩ := hopen
  unfold recordSourceFrameDrops
  rw [if_neg (by simp [haccepting, hid, hrun]), if_neg (by simp [henabled])]
  split <;> rfl

/-- The frames of a closed pipeline get neither a number nor a buffer. -/
theorem beginFill_closed (hclosed : p.acceptingFrames = false) (s : Stream) :
    (p.beginFill s).2.status ≠ .ok := by
  unfold beginFill
  rw [if_pos (by simp [hclosed])]
  simp

/-- `q` is a later state of the run of `p`, which may have stopped. -/
structure Later (p q : Pipeline) : Prop where
  acceptingFrames : q.acceptingFrames = true → p.acceptingFrames = true
  enabledStreamMask : q.enabledStreamMask = p.enabledStreamMask
  runId : q.runId = p.runId
  setup : q.setup = p.setup

theorem Stays.later (h : Stays p q) : Later p q where
  acceptingFrames haccept := h.acceptingFrames ▸ haccept
  enabledStreamMask := h.enabledStreamMask
  runId := h.runId
  setup := h.setup

theorem Later.refl (p : Pipeline) : Later p p := (Stays.refl p).later

theorem Later.trans (h : Later p q) (h' : Later q r) : Later p r where
  acceptingFrames := h.acceptingFrames ∘ h'.acceptingFrames
  enabledStreamMask := h'.enabledStreamMask.trans h.enabledStreamMask
  runId := h'.runId.trans h.runId
  setup := h'.setup.trans h.setup

theorem Later.accepts (h : Later p q) {s : Stream} {runId : UInt32} {checksum : ChecksumAlgorithm}
    (hopen : p.accepts s runId checksum = true) (haccept : q.acceptingFrames = true) :
    q.accepts s runId checksum = true := by
  unfold Pipeline.accepts at hopen ⊢
  rw [h.enabledStreamMask, h.runId, h.setup, haccept]
  rw [h.acceptingFrames haccept] at hopen
  exact hopen

theorem stopProduction_later (p : Pipeline) : Later p p.stopProduction.1 := by
  have hscan : ∀ (l : List ℕ) (acc : Pipeline × ℕ),
      Stays acc.1 (l.foldl (fun (acc : Pipeline × ℕ) i =>
        if (decide ((acc.1.records i).state ≠ .filling) ||
            decide ((acc.1.records i).frameSize ≠ 0)) = true then acc
        else (acc.1.dropBuffer i false, acc.2 + 1)) acc).1 := by
    intro l
    induction l with
    | nil => exact fun acc => Stays.refl acc.1
    | cons i l ih =>
      intro acc
      rw [List.foldl_cons]
      refine Stays.trans ?_ (ih _)
      split
      · exact Stays.refl acc.1
      · exact dropBuffer_stays acc.1 i false
  unfold stopProduction
  dsimp only
  generalize hclosed : ({ p with acceptingFrames := false } : Pipeline) = closed
  have hfirst : Later p closed := by
    rw [← hclosed]
    exact ⟨fun h => (by cases h), rfl, rfl, rfl⟩
  exact hfirst.trans (hscan (List.range kPacketBufferCount) (closed, 0)).later

theorem serviceLoop_stays (limit : ℕ) : ∀ (fuel : ℕ) (p : Pipeline) (report : PromotionReport),
    Stays p (serviceLoop limit fuel p report).1 := by
  intro fuel
  induction fuel with
  | zero => exact fun p _ => Stays.refl p
  | succ fuel ih =>
    intro p report
    unfold serviceLoop
    split
    · exact Stays.refl p
    split
    · exact Stays.refl p
    split
    · split
      · exact ⟨rfl, rfl, rfl, rfl⟩
      · exact Stays.refl p
    rename_i s _ _
    split
    · exact (stays_closed.invalidOperation p).trans (ih _ _)
    rename_i i rest _
    dsimp only
    have hpopped : Stays p (p.withCore (p.setReady s rest)) := ⟨rfl, rfl, rfl, rfl⟩
    apply hpopped.trans
    generalize p.withCore (p.setReady s rest) = popped
    have hinvalid := stays_closed.invalidOperation popped
    split
    · exact hinvalid.trans (ih _ _)
    split
    · exact (hinvalid.trans (dropBuffer_stays _ i false)).trans (ih _ _)
    have hfinal := stays_closed.finalizeGapBefore popped i
    apply hfinal.trans
    generalize popped.finalizeGapBefore i = finalized
    split
    · have hrejected := stays_closed.encodingRejection finalized.1
      exact (hrejected.trans (dropBuffer_stays _ i false)).trans (ih _ _)
    split
    · apply Stays.trans _ (dropBuffer_stays _ i false)
      exact ⟨rfl, rfl, rfl, rfl⟩
    · refine Stays.trans ?_ (ih _ _)
      exact ⟨rfl, rfl, rfl, rfl⟩

end Pipeline

/-- Only `startRun` begins another run. -/
theorem Tracked.step_later (t : Tracked) {op : Op}
    (h : ∀ runId checksum mask layout, op ≠ .startRun runId checksum mask layout) :
    Pipeline.Later t.pipe (t.step op).pipe := by
  have hclosed := Pipeline.stays_closed
  cases op with
  | startRun runId checksum mask layout => exact absurd rfl (h runId checksum mask layout)
  | stopProduction =>
    simp only [step]
    exact Pipeline.stopProduction_later t.pipe
  | beginFill s => exact (Pipeline.beginFill_stays t.pipe s).later
  | recordSourceFrameDrops s n =>
    exact (Pipeline.recordSourceFrameDrops_stays t.pipe s n.toNat).later
  | writePayload fill off bs => exact (hclosed.writePayload t.pipe fill off bs).later
  | finishFill fill completion =>
    exact (hclosed.finishFill (fun _ _ _ => ⟨rfl, rfl, rfl, rfl⟩) t.pipe fill completion).later
  | cancelFill fill => exact (hclosed.cancelFill t.pipe fill).later
  | setDeferredClock ticks =>
    have hquiet : Pipeline.Stays t.pipe (t.pipe.setDeferredClock ticks) := ⟨rfl, rfl, rfl, rfl⟩
    exact hquiet.later
  | serviceDeferred ticks budget readTicks =>
    exact (hclosed.serviceDeferred t.pipe ticks budget readTicks).later
  | serviceReadyFrames limit => exact (Pipeline.serviceLoop_stays limit _ _ _).later
  | prepareFrontFrame => exact (hclosed.prepareFrontFrame t.pipe).later
  | markFrontFrameStarted => exact (hclosed.markFrontFrameStarted t.pipe).later
  | abortFrontFrame => exact (hclosed.abortFrontFrame t.pipe).later
  | releaseFrontFrame => exact (hclosed.releaseFrontFrame t.pipe).later

/-! ### The producers' side -/

def flagSynthetic : UInt16 := 1

/-- The flags a producer asks for. -/
def requestFlags (synthetic epoch gap : Bool) : UInt16 :=
  let flags := if synthetic then flagSynthetic else 0
  let flags := if epoch then flags ||| flagEpochStart else flags
  if gap then flags ||| flagGapBefore ||| flagOverrunBefore else flags

/-- No promise beyond the one `abortFrontFrame` needs. -/
def anyCaller : Rules := ⟨false, false, false⟩

/-- A frame its producer handed to `finishFill`: its number in the stream, the samples of its
page, what it asked for and whether the pipeline took it. -/
structure Handed where
  stream : Stream
  number : ℕ
  sequence : UInt32
  payload : Bytes
  completion : FrameCompletion
  accepted : Bool

/-- A pipeline with a log of what a producer handed to it, newest first. -/
structure Feed where
  tracked : Tracked
  handed : List Handed := []

namespace Feed

variable (f : Feed)

def pipe : Pipeline := f.tracked.pipe

/-- How many frames of a stream have a number. -/
def produced (s : Stream) : ℕ := f.tracked.history.produced s

def call (op : Op) : Feed := { f with tracked := f.tracked.step op }

def beginFill (s : Stream) : Feed × BeginFillResult :=
  (f.call (.beginFill s), (f.pipe.beginFill s).2)

def recordSourceFrameDrops (s : Stream) (frameCount : UInt64) : Feed × OperationStatus :=
  (f.call (.recordSourceFrameDrops s frameCount),
    (f.pipe.recordSourceFrameDrops s frameCount.toNat).2)

/-- The size of the view, `none` for an invalid one. -/
def writablePayload (h : FillHandle) : Feed × Option ℕ :=
  if f.pipe.handleMatches h then (f, some (f.pipe.setup.stream h.stream).payloadBytes)
  else (f.call (.writePayload h 0 []), none)

def cancelFill (h : FillHandle) : Feed := f.call (.cancelFill h)

def finishFill (h : FillHandle) (completion : FrameCompletion) : Feed × Bool :=
  let finished : Bool := (f.pipe.finishFill h completion).2.status = .ok
  ({ f.call (.finishFill h completion) with
      handed := { stream := h.stream
                  number := f.tracked.history.number h.bufferIndex
                  sequence := h.sequence
                  payload := (originOf f.pipe h completion).payload
                  completion := completion
                  accepted := finished } :: f.handed }, finished)

/-- How every producer ends a fill: the payload goes through the view when the view is as
large as the layout says and nothing else is wrong; otherwise the fill is canceled. -/
def frame (h : FillHandle) (payloadBytes : ℕ) (good : Bool) (payload : Bytes)
    (completion : FrameCompletion) : Feed × Bool :=
  let view := f.writablePayload h
  if view.2 = some payloadBytes && good then
    (view.1.call (.writePayload h 0 payload)).finishFill h completion
  else (view.1.cancelFill h, false)

/-- One frame of a producer: `completion` is what it asks for once it knows the sequence. -/
def fill (s : Stream) (payloadBytes : ℕ) (good : Bool) (payload : Bytes)
    (completion : UInt32 → FrameCompletion) : Feed × OperationStatus × Bool :=
  let begun := f.beginFill s
  if begun.2.status = .ok then
    let framed := begun.1.frame begun.2.handle payloadBytes good payload
      (completion begun.2.handle.sequence)
    (framed.1, begun.2.status, framed.2)
  else (begun.1, begun.2.status, false)

/-! ### What the calls of a producer do -/

/-- `f'` is a later state of the same run, in which no more frames have a number. -/
structure Follows (f f' : Feed) : Prop where
  reach : Reach anyCaller f.tracked → Reach anyCaller f'.tracked
  stays : Pipeline.Stays f.pipe f'.pipe
  produced : f'.produced = f.produced
  number : f'.tracked.history.number = f.tracked.history.number

variable {f} {f' f'' : Feed}

theorem reach_call (op : Op) (h : Reach anyCaller f.tracked)
    (hguard : f.tracked.Guard anyCaller op) : Reach anyCaller (f.call op).tracked := h.step hguard

theorem Follows.refl (f : Feed) : Follows f f := ⟨id, Pipeline.Stays.refl _, rfl, rfl⟩

theorem Follows.trans (h : Follows f f') (h' : Follows f' f'') : Follows f f'' where
  reach := h'.reach ∘ h.reach
  stays := h.stays.trans h'.stays
  produced := h'.produced.trans h.produced
  number := h'.number.trans h.number

theorem write_follows (f : Feed) (h : FillHandle) (off : ℕ) (bs : Bytes) :
    Follows f (f.call (.writePayload h off bs)) where
  reach hr := reach_call (.writePayload h off bs) hr trivial
  stays := Pipeline.stays_closed.writePayload _ _ _ _
  produced := rfl
  number := rfl

theorem writablePayload_follows (f : Feed) (h : FillHandle) : Follows f (f.writablePayload h).1 := by
  unfold writablePayload
  split
  · exact Follows.refl f
  · exact write_follows f h 0 []

theorem writablePayload_handed (f : Feed) (h : FillHandle) :
    (f.writablePayload h).1.handed = f.handed := by
  unfold writablePayload
  split <;> rfl

theorem cancelFill_follows (f : Feed) (h : FillHandle) : Follows f (f.cancelFill h) where
  reach hr := reach_call (.cancelFill h) hr trivial
  stays := Pipeline.stays_closed.cancelFill _ _
  produced := rfl
  number := rfl

theorem finishFill_follows (f : Feed) (h : FillHandle) (completion : FrameCompletion) :
    Follows f (f.finishFill h completion).1 := by
  have hhistory : ∀ r, (f.tracked.history.finished f.tracked.pipe h completion r).produced =
      f.tracked.history.produced ∧ (f.tracked.history.finished f.tracked.pipe h completion r).number =
        f.tracked.history.number := by
    intro r
    unfold History.finished
    split <;> exact ⟨rfl, rfl⟩
  exact
    { reach := fun hr => reach_call (.finishFill h completion) hr
        ⟨fun h => (by cases h), fun h => (by cases h)⟩
      stays := Pipeline.stays_closed.finishFill (fun _ _ _ => ⟨rfl, rfl, rfl, rfl⟩) _ _ _
      produced := (hhistory _).1
      number := (hhistory _).2 }

theorem writablePayload_some {h : FillHandle} {n : ℕ} (hview : (f.writablePayload h).2 = some n) :
    f.pipe.handleMatches h = true ∧ n = (f.pipe.setup.stream h.stream).payloadBytes := by
  unfold writablePayload at hview
  split at hview
  · next hmatch =>
    simp only [Option.some.injEq] at hview
    exact ⟨hmatch, hview.symm⟩
  · cases hview

/-- What a producer writes through a whole view is what its page holds. -/
theorem write_samples {h : FillHandle} (hmatch : f.pipe.handleMatches h = true) {payload : Bytes}
    (hlen : payload.length = (f.pipe.setup.stream h.stream).payloadBytes)
    (completion : FrameCompletion) :
    (originOf (f.call (.writePayload h 0 payload)).pipe h completion).payload = payload := by
  have hroom := f.pipe.setup.frameBytes_le h.stream
  obtain ⟨-, hpayload, -, hbytes, -⟩ := FrameLayout.valid_iff.mp (f.pipe.setup.stream_valid h.stream)
  have hpipe : (f.call (.writePayload h 0 payload)).pipe = f.pipe.writePayload h 0 payload := rfl
  unfold Pipeline.writePayload at hpipe
  rw [if_neg (by simp [hmatch])] at hpipe
  rw [hpipe]
  unfold originOf samplesOf
  simp only [Pipeline.withCore, Core.setFrame, Function.update_self, Nat.sub_zero, Nat.add_zero]
  rw [List.take_of_length_le hlen.le, ← hlen]
  apply slice_store
  rw [(f.pipe.frames h.bufferIndex).size_eq, hlen]
  unfold kHeaderSize kDataFrameBytes
  omega

/-- A fill ends with its frame handed over, or with nothing handed over. -/
theorem frame_spec (f : Feed) (h : FillHandle) {payloadBytes : ℕ} (good : Bool) {payload : Bytes}
    (hlen : payload.length = payloadBytes) (completion : FrameCompletion) :
    Follows f (f.frame h payloadBytes good payload completion).1 ∧
      ((f.frame h payloadBytes good payload completion).1.handed = f.handed ∧
          (f.frame h payloadBytes good payload completion).2 = false ∨
        good = true ∧ (f.frame h payloadBytes good payload completion).1.handed =
          { stream := h.stream
            number := f.tracked.history.number h.bufferIndex
            sequence := h.sequence
            payload := payload
            completion := completion
            accepted := (f.frame h payloadBytes good payload completion).2 } :: f.handed) := by
  unfold frame
  dsimp only
  have hview := f.writablePayload_follows h
  have hlog := f.writablePayload_handed h
  split
  · rename_i hgood
    rw [Bool.and_eq_true, decide_eq_true_eq] at hgood
    obtain ⟨hmatch, hbytes⟩ := writablePayload_some hgood.1
    have hsame : (f.writablePayload h).1 = f := by
      unfold writablePayload
      rw [if_pos hmatch]
    rw [hsame] at hview ⊢
    have hwrite := hview.trans (write_follows f h 0 payload)
    refine ⟨hwrite.trans (finishFill_follows _ h completion), Or.inr ⟨hgood.2, ?_⟩⟩
    unfold finishFill
    dsimp only
    rw [hwrite.number, write_samples hmatch (hlen.trans hbytes)]
    rfl
  · exact ⟨hview.trans (cancelFill_follows _ h), Or.inl ⟨hlog, rfl⟩⟩

/-- The pipeline takes the frames that a producer started for this run makes of a stream. -/
structure Open (f : Feed) (s : Stream) (runId : UInt32) (checksum : ChecksumAlgorithm) : Prop where
  reach : Reach anyCaller f.tracked
  accepts : f.pipe.accepts s runId checksum = true
  runId : runId ≠ 0

variable {s : Stream} {runId : UInt32} {checksum : ChecksumAlgorithm}

theorem Open.follow (h : f.Open s runId checksum) (hf : Follows f f') :
    f'.Open s runId checksum where
  reach := hf.reach h.reach
  accepts := (hf.stays.accepts s runId checksum).trans h.accepts
  runId := h.runId

/-- `beginFill` gives the frame its number, and its sequence is the number. -/
theorem beginFill_spec (h : f.Open s runId checksum) :
    (f.beginFill s).1.Open s runId checksum ∧
      (f.beginFill s).1.produced = Function.update f.produced s (f.produced s + 1) ∧
      (f.beginFill s).1.handed = f.handed ∧
      (f.beginFill s).2.handle.stream = s ∧
      (f.beginFill s).2.handle.sequence = UInt32.ofNat (f.produced s) ∧
      ((f.beginFill s).2.status = .ok ∨ (f.beginFill s).2.status = .poolExhausted) ∧
      ((f.beginFill s).2.status = .ok → (f.beginFill s).1.tracked.history.number
        (f.beginFill s).2.handle.bufferIndex = f.produced s) := by
  obtain ⟨hstatus, hstream, hsequence⟩ := Pipeline.beginFill_open h.accepts h.runId
  have hhistory : (f.beginFill s).1.tracked.history =
      f.tracked.history.began s (f.pipe.beginFill s).2 := rfl
  refine ⟨?_, ?_, rfl, hstream, hsequence.trans (h.reach.next s), hstatus, fun hok => ?_⟩
  · exact
      { reach := reach_call (.beginFill s) h.reach ⟨fun h => (by cases h), fun h => (by cases h)⟩
        accepts := ((Pipeline.beginFill_stays f.pipe s).accepts s runId checksum).trans h.accepts
        runId := h.runId }
  · unfold produced
    rw [hhistory]
    unfold History.began
    rcases hstatus with hok | hfull
    · rw [hok]
      rfl
    · rw [hfull]
      rfl
  · have hok : (f.pipe.beginFill s).2.status = .ok := hok
    rw [hhistory]
    unfold History.began
    rw [hok]
    exact Function.update_self _ _ _

theorem drops_spec (h : f.Open s runId checksum) (n : UInt64) :
    (f.recordSourceFrameDrops s n).1.Open s runId checksum ∧
      (f.recordSourceFrameDrops s n).1.produced =
        Function.update f.produced s (f.produced s + n.toNat) ∧
      (f.recordSourceFrameDrops s n).1.handed = f.handed ∧
      (f.recordSourceFrameDrops s n).2 = .ok := by
  have hok := Pipeline.recordSourceFrameDrops_open h.accepts h.runId n.toNat
  have hhistory : (f.recordSourceFrameDrops s n).1.tracked.history =
      if (f.pipe.recordSourceFrameDrops s n.toNat).2 = .ok ∧ n.toNat ≠ 0 then
        f.tracked.history.lose s n.toNat true else f.tracked.history := rfl
  refine ⟨?_, ?_, rfl, hok⟩
  · exact
      { reach := reach_call (.recordSourceFrameDrops s n) h.reach trivial
        accepts := ((Pipeline.recordSourceFrameDrops_stays f.pipe s n.toNat).accepts s runId
          checksum).trans h.accepts
        runId := h.runId }
  · unfold produced
    rw [hhistory]
    split
    · rfl
    · rename_i hzero
      have hn : n.toNat = 0 := by
        by_contra hn
        exact hzero ⟨hok, hn⟩
      rw [hn, Nat.add_zero, Function.update_eq_self]

/-- What becomes of one frame: it takes the next number of its stream, and what its producer
asks for goes with that number. -/
structure Filled (s : Stream) (good : Bool) (payload : Bytes) (completion : UInt32 → FrameCompletion)
    (f f' : Feed) (accepted : Bool) : Prop where
  produced : f'.produced = Function.update f.produced s (f.produced s + 1)
  handed : f'.handed = f.handed ∧ accepted = false ∨ good = true ∧
    f'.handed = { stream := s
                  number := f.produced s
                  sequence := UInt32.ofNat (f.produced s)
                  payload := payload
                  completion := completion (UInt32.ofNat (f.produced s))
                  accepted := accepted } :: f.handed

theorem fill_spec (h : f.Open s runId checksum) {payloadBytes : ℕ} (good : Bool) {payload : Bytes}
    (hlen : payload.length = payloadBytes) (completion : UInt32 → FrameCompletion) :
    (f.fill s payloadBytes good payload completion).1.Open s runId checksum ∧
      Filled s good payload completion f (f.fill s payloadBytes good payload completion).1
        (f.fill s payloadBytes good payload completion).2.2 := by
  obtain ⟨hopen, hproduced, hlog, hstream, hsequence, -, hnumber⟩ := beginFill_spec h
  unfold fill
  dsimp only
  split
  · rename_i hok
    obtain ⟨hfollows, hhanded⟩ := frame_spec (f.beginFill s).1 (f.beginFill s).2.handle good
      hlen (completion (f.beginFill s).2.handle.sequence)
    refine ⟨hopen.follow hfollows, hfollows.produced.trans hproduced, ?_⟩
    rw [hlog, hnumber hok, hstream, hsequence] at hhanded
    rw [hsequence]
    exact hhanded
  · exact ⟨hopen, hproduced, Or.inl ⟨hlog, rfl⟩⟩

/-- A fill leaves the run as it is, and a closed pipeline takes nothing. -/
theorem fill_keeps (hreach : Reach anyCaller f.tracked) (s : Stream) {payloadBytes : ℕ} (good : Bool)
    {payload : Bytes} (hlen : payload.length = payloadBytes)
    (completion : UInt32 → FrameCompletion) :
    Reach anyCaller (f.fill s payloadBytes good payload completion).1.tracked ∧
      Pipeline.Stays f.pipe (f.fill s payloadBytes good payload completion).1.pipe ∧
      (f.pipe.acceptingFrames = false →
        (f.fill s payloadBytes good payload completion).1.handed = f.handed) := by
  have hbegun : Reach anyCaller (f.beginFill s).1.tracked :=
    reach_call (.beginFill s) hreach ⟨fun h => (by cases h), fun h => (by cases h)⟩
  have hstays : Pipeline.Stays f.pipe (f.beginFill s).1.pipe := Pipeline.beginFill_stays f.pipe s
  unfold fill
  dsimp only
  split
  · rename_i hok
    obtain ⟨hfollows, -⟩ := frame_spec (f.beginFill s).1 (f.beginFill s).2.handle good hlen
      (completion (f.beginFill s).2.handle.sequence)
    exact ⟨hfollows.reach hbegun, hstays.trans hfollows.stays,
      fun hclosed => absurd hok (Pipeline.beginFill_closed hclosed s)⟩
  · exact ⟨hbegun, hstays, fun _ => rfl⟩

end Feed

/-! ### The law of sequences and times -/

/-- How long a frame of each stream lasts. -/
def RunLayout.coverage (l : RunLayout) (s : Stream) : ℕ := (l.streams s).coverageTicks

theorem RunLayout.coverage_eq {l : RunLayout} (h : l.valid = true) (s : Stream) :
    l.coverage s = (l.streams s).itemCount * (l.streams s).itemPeriodTicks :=
  (FrameLayout.valid_iff.mp (RunLayout.frameLayout_valid h s)).2.2.1

theorem RunLayout.itemCount_pos {l : RunLayout} (h : l.valid = true) (s : Stream) :
    0 < (l.streams s).itemCount :=
  (FrameLayout.valid_iff.mp (RunLayout.frameLayout_valid h s)).1.1

theorem RunLayout.period_pos {l : RunLayout} (h : l.valid = true) (s : Stream) :
    0 < (l.streams s).itemPeriodTicks :=
  (FrameLayout.valid_iff.mp (RunLayout.frameLayout_valid h s)).1.2.2

/-- Frame `n` of a stream carries sequence `n` and starts `n` frames after the epoch, as far as
the two fields of the header count. -/
structure Handed.OnGrid (coverage : Stream → ℕ) (h : Handed) : Prop where
  sequence : h.sequence = UInt32.ofNat h.number
  ticks : h.completion.firstSampleTicks = UInt64.ofNat (h.number * coverage h.stream)

def Handed.epochStart (h : Handed) : Bool := h.completion.flags &&& flagEpochStart ≠ 0

theorem requestFlags_epoch (synthetic epoch gap : Bool) :
    decide (requestFlags synthetic epoch gap &&& flagEpochStart ≠ 0) = epoch := by
  cases synthetic <;> cases epoch <;> cases gap <;> decide

/-- Every frame handed over is on the grid, and no number is handed over twice. -/
structure Feed.Lawful (coverage : Stream → ℕ) (f : Feed) : Prop where
  grid : ∀ h ∈ f.handed, h.OnGrid coverage
  below : ∀ h ∈ f.handed, h.number < f.produced h.stream
  ordered : f.handed.Pairwise fun later earlier =>
    later.stream = earlier.stream → earlier.number < later.number

namespace Feed

variable {f f' : Feed} {s : Stream} {good : Bool} {payload : Bytes}
  {completion : UInt32 → FrameCompletion} {accepted : Bool} {coverage : Stream → ℕ}

/-- What holds of the frames handed over goes on to hold when it holds of the new one. -/
theorem Filled.all {P : Handed → Prop} (h : Filled s good payload completion f f' accepted)
    (hall : ∀ x ∈ f.handed, P x)
    (hnew : good = true → P ⟨s, f.produced s, UInt32.ofNat (f.produced s), payload,
      completion (UInt32.ofNat (f.produced s)), accepted⟩) : ∀ x ∈ f'.handed, P x := by
  rcases h.handed with ⟨hsame, -⟩ | ⟨hgood, hpush⟩
  · rw [hsame]
    exact hall
  · rw [hpush]
    exact List.forall_mem_cons.mpr ⟨hnew hgood, hall⟩

/-- Losing numbers keeps the law. -/
theorem Lawful.mono (h : f.Lawful coverage) (hhanded : f'.handed = f.handed)
    (hle : ∀ u, f.produced u ≤ f'.produced u) : f'.Lawful coverage where
  grid := hhanded ▸ h.grid
  below x hx := lt_of_lt_of_le (h.below x (hhanded ▸ hx)) (hle x.stream)
  ordered := hhanded ▸ h.ordered

theorem le_update_add {α : Type*} [DecidableEq α] (g : α → ℕ) (s : α) (n : ℕ) (u : α) :
    g u ≤ Function.update g s (g s + n) u := by
  by_cases hu : u = s
  · subst hu
    rw [Function.update_self]
    exact Nat.le_add_right _ _
  · rw [Function.update_of_ne hu]

theorem Lawful.fill (h : f.Lawful coverage) (hfilled : Filled s good payload completion f f' accepted)
    (hticks : good = true → (completion (UInt32.ofNat (f.produced s))).firstSampleTicks =
      UInt64.ofNat (f.produced s * coverage s)) : f'.Lawful coverage := by
  have hle : ∀ u, f.produced u ≤ f'.produced u := by
    rw [hfilled.produced]
    exact le_update_add f.produced s 1
  refine ⟨hfilled.all h.grid fun hgood => ⟨rfl, hticks hgood⟩, hfilled.all ?_ fun _ => ?_, ?_⟩
  · intro x hx
    exact lt_of_lt_of_le (h.below x hx) (hle x.stream)
  · rw [hfilled.produced]
    simp
  · rcases hfilled.handed with ⟨hsame, -⟩ | ⟨-, hpush⟩
    · rw [hsame]
      exact h.ordered
    · rw [hpush]
      refine List.Pairwise.cons (fun x hx hstream => ?_) h.ordered
      have := h.below x hx
      rw [← hstream] at this
      exact this

end Feed

namespace Feed

/-- START leaves no frame with a number, and the layout it was asked for. -/
theorem start_fresh {f : Feed} {runId : UInt32} {checksum : ChecksumAlgorithm} {mask : UInt8}
    {layout : RunLayout} (hok : (f.pipe.startRun runId checksum mask layout).2 = .ok) :
    (f.call (.startRun runId checksum mask layout)).pipe.setup.layout = layout ∧
      ∀ s, (f.call (.startRun runId checksum mask layout)).produced s = 0 := by
  constructor
  · have hpipe : (f.call (.startRun runId checksum mask layout)).pipe =
        (f.pipe.startRun runId checksum mask layout).1 := rfl
    rw [hpipe]
    unfold Pipeline.startRun at hok ⊢
    split at hok
    · cases hok
    next hrun =>
    split at hok
    · cases hok
    next hquiet =>
    split at hok
    · cases hok
    next hidle =>
    split at hok
    · next hsum =>
      split at hok
      · cases hok
      next hmask =>
      split at hok
      · next hlayout =>
        rw [if_neg hrun, if_neg hquiet, if_neg hidle, dif_pos hsum, if_neg hmask, dif_pos hlayout]
        rfl
      · cases hok
    · cases hok
  · intro s
    have hhistory : (f.call (.startRun runId checksum mask layout)).tracked.history = {} :=
      if_pos hok
    unfold Feed.produced
    rw [hhistory]

end Feed

/-! ### The law of flags -/

/-- The number behind the newest frame of a stream that the pipeline took. -/
def awaited (s : Stream) : List Handed → ℕ
  | [] => 0
  | h :: earlier => if h.stream = s && h.accepted then h.number + 1 else awaited s earlier

def Handed.gapBefore (h : Handed) : Bool := h.completion.flags &&& flagGapBefore ≠ 0

theorem requestFlags_gap (synthetic epoch gap : Bool) :
    decide (requestFlags synthetic epoch gap &&& flagGapBefore ≠ 0) = gap := by
  cases synthetic <;> cases epoch <;> cases gap <;> decide

/-- Frame zero starts the epoch, and a frame that does not follow the last one the pipeline
took says so. -/
structure Handed.Flagged (earlier : List Handed) (h : Handed) : Prop where
  epoch : h.epochStart = decide (h.number = 0)
  gap : h.gapBefore = decide (h.number ≠ awaited h.stream earlier)

/-- Every frame of a log, newest first, is flagged as those before it ask. -/
def AllFlagged : List Handed → Prop
  | [] => True
  | h :: earlier => h.Flagged earlier ∧ AllFlagged earlier

theorem awaited_le {s : Stream} {n : ℕ} {handed : List Handed}
    (h : ∀ x ∈ handed, x.stream = s → x.number < n) : awaited s handed ≤ n := by
  induction handed with
  | nil => exact Nat.zero_le n
  | cons x earlier ih =>
    rw [List.forall_mem_cons] at h
    unfold awaited
    split
    · next hx =>
      rw [Bool.and_eq_true, decide_eq_true_eq] at hx
      exact h.1 hx.1
    · exact ih h.2

namespace Feed

/-- What a producer of one stream keeps: its frames obey both laws, and `gap` is what it has to
tell with the next one. -/
structure Timed (coverage : Stream → ℕ) (s : Stream) (gap : Bool) (f : Feed) : Prop where
  lawful : f.Lawful coverage
  own : ∀ h ∈ f.handed, h.stream = s
  flagged : AllFlagged f.handed
  pending : gap = decide (f.produced s ≠ awaited s f.handed)

namespace Timed

variable {coverage : Stream → ℕ} {s : Stream} {gap : Bool} {f f' : Feed}

theorem awaited_le (h : f.Timed coverage s gap) : awaited s f.handed ≤ f.produced s :=
  ThingDaq.awaited_le fun x hx hs => hs ▸ h.lawful.below x hx

/-- A frame that asks for its time, the epoch and the gap keeps the laws; if it is lost, the
next one has a gap to tell. -/
theorem fill (h : f.Timed coverage s gap) (synthetic : Bool) {good : Bool} {payload : Bytes}
    {completion : UInt32 → FrameCompletion} {accepted epoch : Bool}
    (hfilled : Filled s good payload completion f f' accepted)
    (hticks : good = true → (completion (UInt32.ofNat (f.produced s))).firstSampleTicks =
      UInt64.ofNat (f.produced s * coverage s))
    (hflags : (completion (UInt32.ofNat (f.produced s))).flags = requestFlags synthetic epoch gap)
    (hepoch : epoch = decide (f.produced s = 0)) : f'.Timed coverage s (!accepted) := by
  have hproduced : f'.produced s = f.produced s + 1 := by
    rw [hfilled.produced, Function.update_self]
  have hle := h.awaited_le
  refine ⟨h.lawful.fill hfilled hticks, hfilled.all h.own fun _ => rfl, ?_, ?_⟩
  · rcases hfilled.handed with ⟨hsame, -⟩ | ⟨-, hpush⟩
    · rw [hsame]
      exact h.flagged
    · rw [hpush]
      refine ⟨⟨?_, ?_⟩, h.flagged⟩
      · unfold Handed.epochStart
        dsimp only
        rw [hflags, requestFlags_epoch, hepoch]
      · unfold Handed.gapBefore
        dsimp only
        rw [hflags, requestFlags_gap]
        exact h.pending
  · rw [hproduced]
    rcases hfilled.handed with ⟨hsame, hrejected⟩ | ⟨-, hpush⟩
    · rw [hsame, hrejected]
      exact (decide_eq_true (by omega)).symm
    · rw [hpush]
      unfold awaited
      dsimp only
      cases accepted with
      | true => simp
      | false =>
        rw [Bool.and_false, if_neg Bool.false_ne_true]
        exact (decide_eq_true (by omega)).symm

/-- Numbers that go to nobody leave a gap to tell. -/
theorem skip (h : f.Timed coverage s gap) {n : ℕ} (hn : 0 < n)
    (hproduced : f'.produced = Function.update f.produced s (f.produced s + n))
    (hhanded : f'.handed = f.handed) : f'.Timed coverage s true := by
  have hle := h.awaited_le
  refine ⟨h.lawful.mono hhanded fun u => ?_, hhanded ▸ h.own, hhanded ▸ h.flagged, ?_⟩
  · rw [hproduced]
    exact le_update_add f.produced s n u
  · rw [hproduced, hhanded, Function.update_self]
    exact (decide_eq_true (by omega)).symm

/-- Calls that number no frame of the stream change nothing. -/
theorem foreign (h : f.Timed coverage s gap) (hproduced : f'.produced s = f.produced s)
    (hhanded : f'.handed = f.handed) : f'.Timed coverage s gap := by
  refine ⟨⟨hhanded ▸ h.lawful.grid, ?_, hhanded ▸ h.lawful.ordered⟩, hhanded ▸ h.own,
    hhanded ▸ h.flagged, ?_⟩
  · intro x hx
    rw [hhanded] at hx
    have hbelow := h.lawful.below x hx
    rw [h.own x hx] at hbelow ⊢
    rw [hproduced]
    exact hbelow
  · rw [hproduced, hhanded]
    exact h.pending

/-- Before its first frame a producer has nothing to tell. -/
theorem fresh (hhanded : f.handed = []) (hproduced : f.produced s = 0) :
    f.Timed coverage s false := by
  refine ⟨⟨?_, ?_, ?_⟩, ?_, ?_, ?_⟩ <;> rw [hhanded]
  · exact fun x hx => absurd hx List.not_mem_nil
  · exact fun x hx => absurd hx List.not_mem_nil
  · exact List.Pairwise.nil
  · exact fun x hx => absurd hx List.not_mem_nil
  · trivial
  · rw [hproduced]
    rfl

end Timed

end Feed

/-! ### Producers among the other callers -/

/-- A call that neither starts a run nor numbers frames of the given streams. -/
def Op.foreign (feeds : Stream → Bool) : Op → Bool
  | .startRun .. => false
  | .beginFill s => !feeds s
  | .recordSourceFrameDrops s _ => !feeds s
  | _ => true

theorem Feed.call_foreign (f : Feed) {feeds : Stream → Bool} {op : Op}
    (h : op.foreign feeds = true) {s : Stream} (hs : feeds s = true) :
    (f.call op).produced s = f.produced s := by
  unfold Feed.produced Feed.call
  cases op with
  | startRun => cases h
  | beginFill u =>
    have hu : s ≠ u := by
      rintro rfl
      simp [Op.foreign, hs] at h
    simp only [Tracked.step, History.began]
    split
    · exact Function.update_of_ne hu _ _
    · exact Function.update_of_ne hu _ _
    · rfl
  | recordSourceFrameDrops u n =>
    have hu : s ≠ u := by
      rintro rfl
      simp [Op.foreign, hs] at h
    simp only [Tracked.step]
    split
    · exact Function.update_of_ne hu _ _
    · rfl
  | finishFill handle completion =>
    simp only [Tracked.step, History.finished]
    split <;> rfl
  | releaseFrontFrame =>
    simp only [Tracked.step, History.sent]
    split <;> rfl
  | _ => rfl

/-- A producer: the streams it feeds, and what its owner's calls do. -/
structure Producer (σ ε : Type) where
  feeds : Stream → Bool
  act : σ → Feed → ε → σ × Feed

inductive Turn (ε : Type)
  | own (e : ε)
  | other (op : Op)

namespace Producer

variable {σ ε : Type} (P : Producer σ ε)

def turn (x : σ × Feed) : Turn ε → σ × Feed
  | .own e => P.act x.1 x.2 e
  | .other op => (x.1, x.2.call op)

def run (x : σ × Feed) (turns : List (Turn ε)) : σ × Feed := turns.foldl P.turn x

/-- The other callers number no frames of this producer, and `input` holds of what its own
calls are given. -/
def Fair (input : σ → ε → Prop) : σ × Feed → List (Turn ε) → Prop
  | _, [] => True
  | x, .own e :: turns => input x.1 e ∧ Fair input (P.turn x (.own e)) turns
  | x, .other op :: turns =>
    (op.foreign P.feeds = true ∧ x.2.tracked.Guard anyCaller op) ∧
      Fair input (P.turn x (.other op)) turns

/-- The invariant rule of a producer. -/
theorem run_rule {I : σ → Feed → Prop} {input : σ → ε → Prop}
    (hown : ∀ p f e, I p f → input p e → I (P.act p f e).1 (P.act p f e).2)
    (hother : ∀ p f op, I p f → op.foreign P.feeds = true → f.tracked.Guard anyCaller op →
      I p (f.call op)) {turns : List (Turn ε)} {x : σ × Feed} (hx : I x.1 x.2)
    (hfair : P.Fair input x turns) : I (P.run x turns).1 (P.run x turns).2 := by
  induction turns generalizing x with
  | nil => exact hx
  | cons turn turns ih =>
    cases turn with
    | own e => exact ih (hown _ _ _ hx hfair.1) hfair.2
    | other op => exact ih (hother _ _ _ hx hfair.1.1 hfair.1.2) hfair.2

end Producer

end ThingDaq
