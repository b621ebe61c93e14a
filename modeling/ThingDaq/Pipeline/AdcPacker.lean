import ThingDaq.Capture.AdcRing
import ThingDaq.Pipeline.Feed

/-!
# The ADC frame packer

`AdcFramePacker` (`firmware/src/adc_frame_packer.cpp`): every completed DMA buffer is a payload
already, and becomes a frame with one copy.  What the ring has lost in between takes its
numbers from the stream, so that a number still says when its frame was sampled.

The capture ring is what it answers: `Acquired` is one `acquireReady` with the pairs of the
buffer and the `release` behind it.

## Main definitions

* `consume`, `service` — one buffer, and one call of the runtime.
* `InStep` — the packer counts as the pipeline does.

## Main results

* `consume_keeps` — one buffer.
* `adc_frames_keep_time` — every frame of a run is on the grid with the pairs of its time, and
  says that there is a gap before it exactly when there is one.
-/

namespace ThingDaq.AdcPacker

open Wire
open AdcCapture (BufferHandle kAdcPairsPerFrame)

/-! ### Definitions -/

inductive OperationStatus
  | ok
  | invalidRunId
  | pipelineNotReady
  | notQuiescent
  deriving DecidableEq, Repr

/-- `adc_capture::SamplePair` -/
structure SamplePair where
  adc0 : UInt16
  adc1 : UInt16
  deriving DecidableEq, Repr

/-- The bytes of a pair as they lie in memory. -/
def SamplePair.bytes (s : SamplePair) : Bytes := leBytes 2 s.adc0.toNat ++ leBytes 2 s.adc1.toNat

/-- The bytes of `count` pairs from `first` on. -/
def pairBytes (pairs : ℕ → SamplePair) (first count : ℕ) : Bytes :=
  (List.range count).flatMap fun i => (pairs (first + i)).bytes

/-- One answer of the capture ring: what `acquireReady` returned, the pairs of the buffer, and
what `release` returned. -/
structure Acquired where
  status : AdcCapture.OperationStatus
  handle : BufferHandle
  pairs : ℕ → SamplePair
  released : AdcCapture.OperationStatus

/-- `stats::AdcPackerProgress`; the errors are counted in the packer. -/
structure AdcPackerProgress where
  framesConsumed : ℕ := 0
  pairsConsumed : ℕ := 0
  rawGapPairs : ℕ := 0
  rawDropPairsProjected : ℕ := 0
  deriving DecidableEq, Repr

structure ServiceReport where
  buffersConsumed : ℕ := 0
  pairsConsumed : ℕ := 0
  framesFramed : ℕ := 0
  framesDropped : ℕ := 0
  waitingForBuffer : Bool := false
  workLimitReached : Bool := false
  sourceError : Bool := false
  pipelineError : Bool := false
  deriving DecidableEq, Repr

structure AdcFramePacker where
  progress : AdcPackerProgress := {}
  nextSourcePair : ℕ := 0
  startEpochTicks : UInt64 := 0
  serviceCalls : ℕ := 0
  runId : UInt32 := 0
  sourceErrors : ℕ := 0
  pipelineErrors : ℕ := 0
  chronologyErrors : ℕ := 0
  checksumAlgorithm : ChecksumAlgorithm := ChecksumAlgorithm.adler32
  layout : RunLayout := legacyLayout
  packetGapPending : Bool := false
  running : Bool := false

namespace AdcFramePacker

variable (x : AdcFramePacker)

/-- `layout_.forStream(kAdc)` -/
def adc : FrameLayout := x.layout.streams .adc

def noteSourceError : AdcFramePacker := { x with sourceErrors := sat32 x.sourceErrors 1 }

def notePipelineError : AdcFramePacker := { x with pipelineErrors := sat32 x.pipelineErrors 1 }

def noteChronologyError : AdcFramePacker :=
  { x with chronologyErrors := sat32 x.chronologyErrors 1 }

def quiescent : Bool := !x.running

def startRun (runId : UInt32) (checksumAlgorithm : ChecksumAlgorithm) (pipeline : Pipeline)
    (startEpochTicks : UInt64) : AdcFramePacker × OperationStatus :=
  let layout := pipeline.setup.layout
  let adc := layout.streams .adc
  if runId = 0 || runId = x.runId then (x, .invalidRunId)
  else if !x.quiescent then (x, .notQuiescent)
  else if !pipeline.accepts .adc runId checksumAlgorithm ||
      !isSupportedChecksum checksumAlgorithm then (x, .pipelineNotReady)
  else if !layout.valid || kAdcPairsPerFrame < adc.itemCount || adc.itemBytes ≠ 4 ||
      adc.payloadBytes ≠ adc.itemCount * adc.itemBytes then (x, .pipelineNotReady)
  else
    ({ startEpochTicks := startEpochTicks
       runId := runId
       checksumAlgorithm := checksumAlgorithm
       layout := layout
       running := true }, .ok)

/-- `stopProduction`, with what its report says. -/
def stopProduction : AdcFramePacker × Bool := ({ x with running := false }, x.packetGapPending)

/-- The gap takes whole frames from the stream. -/
def projectRawGap (pairCount : ℕ) (f : Feed) : AdcFramePacker × Feed × Bool :=
  let completeFrames := pairCount / x.adc.itemCount
  let projectedPairs := completeFrames * x.adc.itemCount
  let x := if pairCount ≠ projectedPairs then x.noteChronologyError else x
  if completeFrames = 0 then (x, f, true)
  else
    let recorded := f.recordSourceFrameDrops .adc (UInt64.ofNat completeFrames)
    if recorded.2 ≠ .ok then (x, recorded.1, false)
    else
      let progress := { x.progress with
        rawDropPairsProjected := sat64 x.progress.rawDropPairsProjected projectedPairs }
      ({ x with progress := progress }, recorded.1, true)

/-- The part of `consume` that looks at what is missing before the buffer. -/
def crossGap (rawGap : ℕ) (f : Feed) : AdcFramePacker × Feed × Bool :=
  if rawGap = 0 then (x, f, true)
  else
    let progress := { x.progress with rawGapPairs := sat64 x.progress.rawGapPairs rawGap }
    ({ x with progress := progress, packetGapPending := true } : AdcFramePacker).projectRawGap
      rawGap f

def timestampValid (firstPair : ℕ) : Bool := firstPair ≤ u64Max / x.adc.itemPeriodTicks

/-- What the packer asks for a frame that starts at `firstPair`. -/
def completion (firstPair : ℕ) (sequence : UInt32) : FrameCompletion where
  firstSampleTicks := UInt64.ofNat (firstPair *
    if x.layout.protocolVersion = V1.kProtocolVersion then V1.kAdcPairPeriodTicks
    else x.adc.itemPeriodTicks)
  flags := requestFlags false (sequence = 0 && firstPair = 0) x.packetGapPending
  checksumAlgorithm := x.checksumAlgorithm
  payloadBytesWritten := x.adc.payloadBytes

/-- The part that makes the frame. -/
def fillFrame (h : BufferHandle) (pairs : ℕ → SamplePair) (f : Feed) :
    Feed × ThingDaq.OperationStatus × Bool :=
  f.fill .adc x.adc.payloadBytes (x.timestampValid h.firstPair) (pairBytes pairs 0 x.adc.itemCount)
    (x.completion h.firstPair)

def noteMistimed (mistimed : Bool) : AdcFramePacker :=
  if mistimed then x.noteChronologyError.noteSourceError else x

/-- The part behind it: `status` is that of `beginFill`. -/
def settle (h : BufferHandle) (status : ThingDaq.OperationStatus) (framed : Bool)
    (report : ServiceReport) : AdcFramePacker × ServiceReport :=
  -- the timestamp is only looked at once there is a page
  let mistimed : Bool := status = .ok && !x.timestampValid h.firstPair
  let x := x.noteMistimed mistimed
  let report := if mistimed then { report with sourceError := true } else report
  let progress := { x.progress with
    framesConsumed := sat64 x.progress.framesConsumed 1
    pairsConsumed := sat64 x.progress.pairsConsumed h.pairCount }
  let x := { x with nextSourcePair := h.firstPair + h.pairCount, progress := progress }
  let report := { report with pairsConsumed := report.pairsConsumed + h.pairCount }
  if framed then
    ({ x with packetGapPending := false }, { report with framesFramed := report.framesFramed + 1 })
  else
    let x := { x with packetGapPending := true }
    let report := { report with framesDropped := report.framesDropped + 1 }
    -- a full pool is a loss, not a fault
    if status = .poolExhausted then (x, report)
    else (x.notePipelineError, { report with pipelineError := true })

def consume (h : BufferHandle) (pairs : ℕ → SamplePair) (f : Feed) (report : ServiceReport) :
    AdcFramePacker × Feed × ServiceReport × Bool :=
  if !h.validForPairCount x.adc.itemCount || h.epoch ≠ x.runId ||
      u64Max - h.pairCount < h.firstPair then
    (x.noteSourceError, f, { report with sourceError := true }, false)
  else if h.firstPair < x.nextSourcePair then
    (x.noteChronologyError.noteSourceError, f, { report with sourceError := true }, false)
  else
    let crossed := x.crossGap (h.firstPair - x.nextSourcePair) f
    if !crossed.2.2 then
      (crossed.1.notePipelineError, crossed.2.1, { report with pipelineError := true }, false)
    else
      let filled := crossed.1.fillFrame h pairs crossed.2.1
      let settled := crossed.1.settle h filled.2.1 filled.2.2 report
      (settled.1, filled.1, settled.2, true)

/-- One acquired buffer, up to the break behind it. -/
def takeBuffer (a : Acquired) (f : Feed) (report : ServiceReport) :
    AdcFramePacker × Feed × ServiceReport × Bool :=
  let consumed := x.consume a.handle a.pairs f report
  let released : AdcFramePacker × ServiceReport :=
    if a.released ≠ .ok then
      (consumed.1.noteSourceError, { consumed.2.2.1 with sourceError := true })
    else (consumed.1, consumed.2.2.1)
  let report := { released.2 with buffersConsumed := released.2.buffersConsumed + 1 }
  (released.1, consumed.2.1, report,
    consumed.2.2.2 && !report.sourceError && !report.pipelineError)

/-- The loop over the buffers; the ring has nothing ready behind the last answer. -/
def bufferLoop (bufferLimit : ℕ) : List Acquired → AdcFramePacker → Feed → ServiceReport →
    AdcFramePacker × Feed × ServiceReport
  | [], x, f, report =>
    (x, f, { report with waitingForBuffer :=
      report.waitingForBuffer || report.buffersConsumed < bufferLimit })
  | a :: rest, x, f, report =>
    if bufferLimit ≤ report.buffersConsumed then (x, f, report)
    else if a.status = .noReadyBuffer then (x, f, { report with waitingForBuffer := true })
    else if a.status ≠ .ok || !a.handle.validForPairCount x.adc.itemCount then
      (x.noteSourceError, f, { report with sourceError := true })
    else
      let taken := x.takeBuffer a f report
      if taken.2.2.2 then bufferLoop bufferLimit rest taken.1 taken.2.1 taken.2.2.1
      else (taken.1, taken.2.1, taken.2.2.1)

def service (source : List Acquired) (bufferLimit : ℕ) (f : Feed) :
    AdcFramePacker × Feed × ServiceReport :=
  let x := { x with serviceCalls := sat64 x.serviceCalls 1 }
  if !f.pipe.accepts .adc x.runId x.checksumAlgorithm then
    (x.notePipelineError, f, { pipelineError := true })
  else if !x.running then (x, f, {})
  else
    let looped := bufferLoop bufferLimit source x f {}
    (looped.1, looped.2.1, { looped.2.2 with workLimitReached :=
      bufferLimit ≠ 0 && looped.2.2.buffersConsumed = bufferLimit })

end AdcFramePacker

/-- The calls of the runtime. -/
inductive Event
  | service (source : List Acquired) (bufferLimit : ℕ)
  | stopProduction

def producer : Producer AdcFramePacker Event where
  feeds s := s = .adc
  act x f
    | .service source bufferLimit =>
      ((x.service source bufferLimit f).1, (x.service source bufferLimit f).2.1)
    | .stopProduction => (x.stopProduction.1, f)

namespace AdcFramePacker

/-! ### One buffer -/

/-- A frame carries the pairs of its time. -/
def Carries (l : RunLayout) (world : ℕ → SamplePair) (h : Handed) : Prop :=
  h.payload = pairBytes world (h.number * (l.streams .adc).itemCount) (l.streams .adc).itemCount

/-- What the ring promises of a buffer: it starts on a frame boundary, with the pairs that were
sampled then. -/
def Delivers (l : RunLayout) (world : ℕ → SamplePair) (h : BufferHandle) (pairs : ℕ → SamplePair) :
    Prop :=
  h.validForPairCount (l.streams .adc).itemCount = true →
    (l.streams .adc).itemCount ∣ h.firstPair ∧
      ∀ i < (l.streams .adc).itemCount, pairs i = world (h.firstPair + i)

/-- The packer counts as the pipeline does. -/
structure InStep (l : RunLayout) (world : ℕ → SamplePair) (x : AdcFramePacker) (f : Feed) : Prop where
  reach : Reach anyCaller f.tracked
  layout : x.layout = l
  runId : x.runId ≠ 0
  next : x.nextSourcePair = f.produced .adc * (l.streams .adc).itemCount
  timed : f.Timed l.coverage .adc x.packetGapPending
  payloads : ∀ h ∈ f.handed, Carries l world h

variable {l : RunLayout} {world : ℕ → SamplePair} {x : AdcFramePacker} {f : Feed} {runId : UInt32}
  {checksum : ChecksumAlgorithm}

/-- The counters do not matter. -/
theorem InStep.annotate (h : InStep l world x f) (progress : AdcPackerProgress) (serviceCalls
    sourceErrors pipelineErrors chronologyErrors : ℕ) (running : Bool) : InStep l world { x with
      progress := progress
      serviceCalls := serviceCalls
      sourceErrors := sourceErrors
      pipelineErrors := pipelineErrors
      chronologyErrors := chronologyErrors
      running := running } f := { h with }

theorem length_pairBytes (pairs : ℕ → SamplePair) (first count : ℕ) :
    (pairBytes pairs first count).length = count * 4 := by
  unfold pairBytes
  induction count with
  | zero => rfl
  | succ count ih =>
    rw [List.range_succ, List.flatMap_append, List.length_append, ih, List.flatMap_singleton,
      SamplePair.bytes, List.length_append, length_leBytes, length_leBytes]
    omega

theorem pairBytes_congr {pairs world : ℕ → SamplePair} {first count : ℕ}
    (h : ∀ i < count, pairs i = world (first + i)) :
    pairBytes pairs 0 count = pairBytes world first count := by
  unfold pairBytes
  refine List.flatMap_congr fun i hi => ?_
  rw [Nat.zero_add, h i (List.mem_range.mp hi)]

/-- Before the frame of a buffer is made, the stream has the number of its time. -/
theorem crossGap_spec (hl : l.valid = true) (h : InStep l world x f)
    (hopen : f.Open .adc runId checksum) (rawGap : ℕ)
    (hwhole : (l.streams .adc).itemCount ∣ rawGap) (hfits : rawGap ≤ u64Max) :
    (x.crossGap rawGap f).2.2 = true ∧
      (x.crossGap rawGap f).2.1.Open .adc runId checksum ∧
      (x.crossGap rawGap f).2.1.produced .adc * (l.streams .adc).itemCount =
        x.nextSourcePair + rawGap ∧
      (x.crossGap rawGap f).2.1.handed = f.handed ∧
      ∃ progress gap, (x.crossGap rawGap f).1 =
          { x with progress := progress, packetGapPending := gap } ∧
        (x.crossGap rawGap f).2.1.Timed l.coverage .adc gap := by
  have hpos := RunLayout.itemCount_pos hl .adc
  obtain ⟨k, rfl⟩ := hwhole
  have hdiv : (l.streams .adc).itemCount * k / (l.streams .adc).itemCount = k :=
    Nat.mul_div_cancel_left k hpos
  have hitems : x.adc.itemCount = (l.streams .adc).itemCount := by
    unfold adc
    rw [h.layout]
  unfold crossGap
  split
  · next hzero => exact ⟨rfl, hopen, by rw [hzero, h.next]; rfl, rfl, x.progress, _, rfl, h.timed⟩
  next hgap =>
  have hk : 0 < k := Nat.pos_of_ne_zero fun hk => hgap (by rw [hk, Nat.mul_zero])
  have hle : k ≤ u64Max := (Nat.le_mul_of_pos_left k hpos).trans hfits
  obtain ⟨hopen', hproduced, hhanded, hok⟩ := Feed.drops_spec hopen (UInt64.ofNat k)
  have hnat : (UInt64.ofNat k).toNat = k := UInt64.toNat_ofNat_of_lt' (by
    change k ≤ 2 ^ 64 - 1 at hle
    change k < 2 ^ 64
    omega)
  rw [hnat] at hproduced
  unfold projectRawGap
  dsimp only [adc] at hitems ⊢
  rw [hitems, hdiv, Nat.mul_comm k, if_neg (not_not.mpr rfl), if_neg (by omega), hok,
    if_neg (not_not.mpr rfl)]
  refine ⟨rfl, hopen', ?_, hhanded, _, true, rfl, h.timed.skip hk hproduced hhanded⟩
  rw [hproduced, Function.update_self, Nat.add_mul, h.next, Nat.mul_comm k]

theorem settle_cases (x : AdcFramePacker) (h : BufferHandle) (status : ThingDaq.OperationStatus)
    (framed : Bool) (report : ServiceReport) :
    ∃ progress sourceErrors pipelineErrors chronologyErrors,
      (x.settle h status framed report).1 = { x with
        nextSourcePair := h.firstPair + h.pairCount
        packetGapPending := !framed
        progress := progress
        sourceErrors := sourceErrors
        pipelineErrors := pipelineErrors
        chronologyErrors := chronologyErrors } := by
  have hnoted : ∀ mistimed, ∃ sourceErrors chronologyErrors, x.noteMistimed mistimed =
      { x with sourceErrors := sourceErrors, chronologyErrors := chronologyErrors } := by
    intro mistimed
    unfold noteMistimed
    split <;> exact ⟨_, _, rfl⟩
  obtain ⟨sourceErrors, chronologyErrors, hx⟩ :=
    hnoted (decide (status = .ok) && !x.timestampValid h.firstPair)
  unfold settle
  dsimp only
  rw [hx]
  cases framed with
  | true => exact ⟨_, _, _, _, rfl⟩
  | false =>
    rw [if_neg Bool.false_ne_true]
    split <;> exact ⟨_, _, _, _, rfl⟩

/-- The period of version 1 is that of its layout. -/
theorem period_eq (hl : x.layout.valid = true) :
    (if x.layout.protocolVersion = V1.kProtocolVersion then V1.kAdcPairPeriodTicks
      else x.adc.itemPeriodTicks) = x.adc.itemPeriodTicks := by
  split
  · next hv1 =>
    have hsampling := RunLayout.sampling_of_valid hl
    unfold adc
    rw [hsampling.adcPeriod]
    rcases hsampling.version with ⟨-, -, hprofile⟩ | ⟨hv2, -⟩ | ⟨hv3, -⟩
    · rw [hprofile]
      rfl
    · rw [hv2] at hv1
      exact absurd hv1 (by decide)
    · rw [hv3] at hv1
      exact absurd hv1 (by decide)
  · rfl

/-- One buffer: its frame gets the number of its time, whatever was lost before it. -/
theorem consume_keeps (hl : l.valid = true) (h : InStep l world x f)
    (hopen : f.Open .adc runId checksum) {handle : BufferHandle} {pairs : ℕ → SamplePair}
    (hring : Delivers l world handle pairs) (report : ServiceReport) :
    InStep l world (x.consume handle pairs f report).1 (x.consume handle pairs f report).2.1 ∧
      (x.consume handle pairs f report).2.1.Open .adc runId checksum := by
  unfold consume
  split
  · exact ⟨h.annotate .., hopen⟩
  next hvalid =>
  split
  · exact ⟨h.annotate .., hopen⟩
  next hfirst =>
  simp only [Bool.or_eq_true, Bool.not_eq_true', decide_eq_true_eq, not_or, Bool.not_eq_false,
    not_lt, ne_eq, not_not] at hvalid hfirst
  obtain ⟨⟨hhandle, -⟩, hroom⟩ := hvalid
  have hadc : x.adc = l.streams .adc := by
    unfold adc
    rw [h.layout]
  rw [hadc] at hhandle
  have hcount : handle.pairCount = (l.streams .adc).itemCount := by
    unfold BufferHandle.validForPairCount at hhandle
    simp only [Bool.and_eq_true, beq_iff_eq] at hhandle
    exact hhandle.1.1.2
  obtain ⟨hwhole, hpairs⟩ := hring hhandle
  obtain ⟨hcrossed, hopen', hnumber, hhanded, progress, gap, heq, htimed⟩ :=
    crossGap_spec hl h hopen (handle.firstPair - x.nextSourcePair)
      ((Nat.dvd_sub_iff_left hfirst (h.next ▸ Nat.dvd_mul_left _ _)).mpr hwhole) (by omega)
  dsimp only
  rw [hcrossed, if_neg (by decide)]
  generalize hf' : (x.crossGap (handle.firstPair - x.nextSourcePair) f).2.1 = f' at *
  rw [heq]
  generalize hy : ({ x with progress := progress, packetGapPending := gap } : AdcFramePacker) = y
  have hlayout : y.layout = l := hy ▸ h.layout
  have hyadc : y.adc = l.streams .adc := by
    unfold adc
    rw [hlayout]
  have hgap : y.packetGapPending = gap := by rw [← hy]
  have hrun : y.runId ≠ 0 := hy ▸ h.runId
  have hstart : f'.produced .adc * (l.streams .adc).itemCount = handle.firstPair := by omega
  have hperiod := period_eq (x := y) (hlayout ▸ hl)
  have hframe := FrameLayout.valid_iff.mp (RunLayout.frameLayout_valid hl .adc)
  have hsize : (pairBytes pairs 0 y.adc.itemCount).length = y.adc.payloadBytes := by
    rw [length_pairBytes, hyadc, hframe.2.1, (RunLayout.sampling_of_valid hl).adcBytes]
  obtain ⟨hopen'', hfilled⟩ := Feed.fill_spec hopen' (y.timestampValid handle.firstPair) hsize
    (y.completion handle.firstPair)
  have hmade : y.fillFrame handle pairs f' = f'.fill .adc y.adc.payloadBytes
    (y.timestampValid handle.firstPair) (pairBytes pairs 0 y.adc.itemCount)
    (y.completion handle.firstPair) := rfl
  rw [← hmade] at hopen'' hfilled
  obtain ⟨progress', sourceErrors, pipelineErrors, chronologyErrors, hsettled⟩ := y.settle_cases handle
    (y.fillFrame handle pairs f').2.1 (y.fillFrame handle pairs f').2.2 report
  refine ⟨?_, hopen''⟩
  rw [hsettled]
  refine
    { reach := hopen''.reach
      layout := hlayout
      runId := hrun
      next := ?_
      timed := ?_
      payloads := hfilled.all (hhanded ▸ h.payloads) fun _ => ?_ }
  · show handle.firstPair + handle.pairCount = _
    rw [hfilled.produced, Function.update_self, Nat.add_mul, hstart, hcount, Nat.one_mul]
  · have hzero : (UInt32.ofNat (f'.produced .adc) = 0 && handle.firstPair = 0 : Bool) =
        decide (f'.produced .adc = 0) := by
      rw [← Bool.decide_and, decide_eq_decide, ← hstart]
      constructor
      · intro hboth
        exact (Nat.mul_eq_zero.mp hboth.2).resolve_right (RunLayout.itemCount_pos hl .adc).ne'
      · intro hnone
        rw [hnone, Nat.zero_mul]
        exact ⟨rfl, rfl⟩
    refine htimed.fill false hfilled (fun _ => ?_) ?_ rfl
    · show UInt64.ofNat (handle.firstPair * _) = _
      rw [hperiod, hyadc, RunLayout.coverage_eq hl, ← hstart, Nat.mul_assoc]
    · show requestFlags false _ _ = _
      rw [hgap, hzero]
  · show pairBytes pairs 0 y.adc.itemCount = _
    rw [hyadc, pairBytes_congr hpairs, ← hstart]

/-! ### Calls and runs -/

theorem takeBuffer_keeps (hl : l.valid = true) (h : InStep l world x f)
    (hopen : f.Open .adc runId checksum) {a : Acquired} (hring : Delivers l world a.handle a.pairs)
    (report : ServiceReport) :
    InStep l world (x.takeBuffer a f report).1 (x.takeBuffer a f report).2.1 ∧
      (x.takeBuffer a f report).2.1.Open .adc runId checksum := by
  obtain ⟨hkept, hopen'⟩ := consume_keeps hl h hopen hring report
  unfold takeBuffer
  dsimp only
  refine ⟨?_, hopen'⟩
  split
  · exact hkept.annotate ..
  · exact hkept

theorem bufferLoop_keeps (hl : l.valid = true) (bufferLimit : ℕ) {source : List Acquired}
    (hring : ∀ a ∈ source, Delivers l world a.handle a.pairs) (h : InStep l world x f)
    (hopen : f.Open .adc runId checksum) (report : ServiceReport) :
    InStep l world (bufferLoop bufferLimit source x f report).1
      (bufferLoop bufferLimit source x f report).2.1 := by
  induction source generalizing x f report with
  | nil => exact h
  | cons a rest ih =>
    rw [List.forall_mem_cons] at hring
    unfold bufferLoop
    split
    · exact h
    split
    · exact h
    split
    · exact h.annotate ..
    dsimp only
    obtain ⟨hkept, hopen'⟩ := takeBuffer_keeps hl h hopen hring.1 report
    split
    · exact ih hring.2 hkept hopen' _
    · exact hkept

/-- What the ring promises of the calls of a run. -/
def Promise (l : RunLayout) (world : ℕ → SamplePair) : Event → Prop
  | .service source _ => ∀ a ∈ source, Delivers l world a.handle a.pairs
  | .stopProduction => True

theorem service_keeps (hl : l.valid = true) (h : InStep l world x f) {source : List Acquired}
    (bufferLimit : ℕ) (hring : ∀ a ∈ source, Delivers l world a.handle a.pairs) :
    InStep l world (x.service source bufferLimit f).1 (x.service source bufferLimit f).2.1 := by
  unfold service
  dsimp only
  split
  · exact h.annotate ..
  next haccepts =>
  split
  · exact h.annotate ..
  have hopen : f.Open .adc x.runId x.checksumAlgorithm :=
    ⟨h.reach, by simpa using haccepts, h.runId⟩
  exact bufferLoop_keeps hl bufferLimit hring (h.annotate ..) hopen {}

/-- The calls of the others number no frame of this stream. -/
theorem call_keeps (h : InStep l world x f) {op : Op} (hforeign : op.foreign producer.feeds = true)
    (hguard : f.tracked.Guard anyCaller op) : InStep l world x (f.call op) := by
  have hproduced : (f.call op).produced .adc = f.produced .adc := f.call_foreign hforeign rfl
  exact
    { reach := Feed.reach_call op h.reach hguard
      layout := h.layout
      runId := h.runId
      next := by
        rw [hproduced]
        exact h.next
      timed := h.timed.foreign hproduced rfl
      payloads := h.payloads }

theorem run_keeps (hl : l.valid = true) (h : InStep l world x f) {turns : List (Turn Event)}
    (hfair : producer.Fair (fun _ => Promise l world) (x, f) turns) :
    InStep l world (producer.run (x, f) turns).1 (producer.run (x, f) turns).2 := by
  refine producer.run_rule (I := InStep l world) ?_ (fun _ _ _ h => call_keeps h) h hfair
  intro x f event h hring
  cases event with
  | service source bufferLimit => exact service_keeps hl h bufferLimit hring
  | stopProduction => exact h.annotate ..

theorem startRun_ok {pipeline : Pipeline} {startEpochTicks : UInt64}
    (hok : (x.startRun runId checksum pipeline startEpochTicks).2 = .ok) :
    runId ≠ 0 ∧ pipeline.setup.layout.valid = true ∧
      (x.startRun runId checksum pipeline startEpochTicks).1 =
        { startEpochTicks := startEpochTicks
          runId := runId
          checksumAlgorithm := checksum
          layout := pipeline.setup.layout
          running := true } := by
  unfold startRun at hok ⊢
  dsimp only at hok ⊢
  split at hok
  · cases hok
  next hrun =>
  split at hok
  · cases hok
  next hquiet =>
  split at hok
  · cases hok
  next hready =>
  split at hok
  · cases hok
  next hlayout =>
  rw [if_neg hrun, if_neg hquiet, if_neg hready, if_neg hlayout]
  simp only [Bool.or_eq_true, decide_eq_true_eq, not_or, Bool.not_eq_true', Bool.not_eq_false]
    at hrun hlayout
  exact ⟨hrun.1, hlayout.1.1.1, rfl⟩

end AdcFramePacker

/-- START: the pipeline begins a run, and the packer after it. -/
def start (x : AdcFramePacker) (f : Feed) (runId : UInt32) (checksum : ChecksumAlgorithm)
    (mask : UInt8) (layout : RunLayout) (startEpochTicks : UInt64) : AdcFramePacker × Feed :=
  let started := f.call (.startRun runId checksum mask layout)
  ((x.startRun runId checksum started.pipe startEpochTicks).1, started)

/-- Both accept the run, and nothing was handed over before. -/
structure Starts (x : AdcFramePacker) (f : Feed) (runId : UInt32) (checksum : ChecksumAlgorithm)
    (mask : UInt8) (layout : RunLayout) (startEpochTicks : UInt64) : Prop where
  reach : Reach anyCaller f.tracked
  handed : f.handed = []
  packet : (f.pipe.startRun runId checksum mask layout).2 = .ok
  packer : (x.startRun runId checksum (f.call (.startRun runId checksum mask layout)).pipe
    startEpochTicks).2 = .ok


/-- Every frame of a run is on the grid and carries the pairs that were sampled at its time,
whatever the ring and the pool have lost; the first one starts the epoch, and one that does not
follow the last frame the pipeline took says so.  Every pair up to the next one is in a number
of the stream. -/
theorem adc_frames_keep_time {x : AdcFramePacker} {f : Feed} {runId : UInt32}
    {checksum : ChecksumAlgorithm} {mask : UInt8} {layout : RunLayout} {startEpochTicks : UInt64}
    (h : Starts x f runId checksum mask layout startEpochTicks) {world : ℕ → SamplePair}
    {turns : List (Turn Event)}
    (hfair : producer.Fair (fun _ => AdcFramePacker.Promise layout world)
      (start x f runId checksum mask layout startEpochTicks) turns) :
    let done := producer.run (start x f runId checksum mask layout startEpochTicks) turns
    (∀ y ∈ done.2.handed, y.stream = .adc ∧ y.OnGrid layout.coverage ∧
        AdcFramePacker.Carries layout world y) ∧
      done.2.handed.Pairwise (fun later earlier => earlier.number < later.number) ∧
      AllFlagged done.2.handed ∧
      done.1.nextSourcePair = done.2.produced .adc * (layout.streams .adc).itemCount := by
  intro done
  obtain ⟨hlayout, hproduced⟩ := Feed.start_fresh h.packet
  obtain ⟨hrun, hvalid, hfirst⟩ := AdcFramePacker.startRun_ok h.packer
  rw [hlayout] at hvalid hfirst
  have hstarted : (start x f runId checksum mask layout startEpochTicks).1 = _ := hfirst
  have hstep : AdcFramePacker.InStep layout world
      (start x f runId checksum mask layout startEpochTicks).1
      (start x f runId checksum mask layout startEpochTicks).2 := by
    rw [hstarted]
    exact
      { reach := Feed.reach_call (.startRun runId checksum mask layout) h.reach trivial
        layout := rfl
        runId := hrun
        next := by
          show 0 = _
          unfold start
          rw [hproduced, Nat.zero_mul]
        timed := Feed.Timed.fresh h.handed (hproduced .adc)
        payloads := fun y hy => absurd (h.handed ▸ hy) List.not_mem_nil }
  have hdone : AdcFramePacker.InStep layout world done.1 done.2 :=
    AdcFramePacker.run_keeps hvalid hstep hfair
  refine ⟨?_, ?_, hdone.timed.flagged, hdone.next⟩
  · intro y hy
    exact ⟨hdone.timed.own y hy, hdone.timed.lawful.grid y hy, hdone.payloads y hy⟩
  · refine hdone.timed.lawful.ordered.imp_of_mem fun hlater hearlier hless => hless ?_
    rw [hdone.timed.own _ hlater, hdone.timed.own _ hearlier]

/-- Two buffers with two frames lost between them. -/
theorem lost_buffers_keep_time :
    let world : ℕ → SamplePair := fun k => ⟨UInt16.ofNat (k % 4096), UInt16.ofNat (k % 1000)⟩
    let buffer : ℕ → Acquired := fun frame =>
      { status := .ok
        handle := { pairs := some 0, firstPair := frame * 1012, pairCount := 1012, epoch := 5, lease := 1,
                    bufferIndex := 0 }
        pairs := fun i => world (frame * 1012 + i)
        released := .ok }
    let done := producer.run (start {} ⟨Tracked.initial, []⟩ 5 1 1 legacyLayout 0)
      [.own (.service [buffer 0, buffer 3] 4), .own .stopProduction]
    ∀ y ∈ done.2.handed, y.OnGrid legacyLayout.coverage ∧
      AdcFramePacker.Carries legacyLayout world y := by
  intro world buffer done y hy
  have hstarts : Starts {} ⟨Tracked.initial, []⟩ 5 1 1 legacyLayout 0 :=
    ⟨Reach.initial, rfl, by decide +kernel, by decide +kernel⟩
  have hring : ∀ a ∈ [buffer 0, buffer 3],
      AdcFramePacker.Delivers legacyLayout world a.handle a.pairs := by
    intro a ha _
    rcases List.mem_cons.mp ha with rfl | ha
    · exact ⟨by decide, fun _ _ => rfl⟩
    · rw [List.mem_singleton.mp ha]
      exact ⟨by decide, fun _ _ => rfl⟩
  have hfair : producer.Fair (fun _ => AdcFramePacker.Promise legacyLayout world)
      (start {} ⟨Tracked.initial, []⟩ 5 1 1 legacyLayout 0)
      [.own (.service [buffer 0, buffer 3] 4), .own .stopProduction] := ⟨hring, trivial, trivial⟩
  exact ((adc_frames_keep_time hstarts hfair).1 y hy).2

end ThingDaq.AdcPacker
