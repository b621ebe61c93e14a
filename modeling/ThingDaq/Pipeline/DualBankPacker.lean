import ThingDaq.Capture.DualBank
import ThingDaq.Pipeline.BatchPacker

/-!
# The dual-bank GPIO packer

`AuxiliaryBatchPacker` (`firmware/src/gpio_dual_bank_packer.cpp`): a matched pair of buffers,
one a bank, becomes a frame of samples of 16 bits.  Its time is kept in ticks, not in samples,
and a buffer that does not start a whole number of frames behind the last one is refused.

The join of the two capture rings is what it answers, as in `BatchPacker`; the processing
profile is left out.

## Main results

* `consume_keeps` — one pair of buffers.
* `dual_bank_frames_keep_time` — every frame of a run is on the grid with the samples of its
  time, and says that there is a gap before it exactly when there is one.
* `reports_add_up` — what the packer reports, with what is still in the pool.
-/

namespace ThingDaq.GpioAuxPacker

open Wire
open GpioJoin (BufferHandle)
open GpioPacker (GpioPackerProgress packGpio2Word)

/-! ### Packing -/

/-- `packGpio1Word` -/
def packGpio1Word (word : UInt32) : UInt8 :=
  let packed : UInt32 :=
    (word >>> (23 : UInt32) &&& 0x01) ||| (word >>> (21 : UInt32) &&& 0x02) |||
      (word >>> (15 : UInt32) &&& 0x04) ||| (word >>> (13 : UInt32) &&& 0x08) |||
      (word >>> (22 : UInt32) &&& 0x10) ||| (word >>> (22 : UInt32) &&& 0x20) |||
      (word >>> (18 : UInt32) &&& 0x40) ||| (word >>> (18 : UInt32) &&& 0x80)
  packed.toUInt8

/-- `packDualBankWord` -/
def packDualBankWord (gpio2Word gpio1Word : UInt32) : UInt16 :=
  (packGpio2Word gpio2Word).toUInt16 ||| (packGpio1Word gpio1Word).toUInt16 <<< 8

/-- The two bytes of a sample, the low one first. -/
def sampleBytes (gpio2Word gpio1Word : UInt32) : Bytes :=
  let packed := packDualBankWord gpio2Word gpio1Word
  [(packed &&& 0xFF).toUInt8, (packed >>> 8).toUInt8]

/-- The bytes of `count` samples from `first` on; a sample is a word of either bank. -/
def sampleRun (words : ℕ → UInt32 × UInt32) (first count : ℕ) : Bytes :=
  (List.range count).flatMap fun i => sampleBytes (words (first + i)).1 (words (first + i)).2

/-- `packDualBankBatch` between valid views: how many samples it wrote, and their bytes. -/
def packDualBankBatch (words : ℕ → UInt32 × UInt32) (sampleCount destinationCapacity : ℕ) :
    ℕ × Bytes :=
  if destinationCapacity / 2 < sampleCount then (0, [])
  else (sampleCount, sampleRun words 0 sampleCount)

/-! ### Layouts -/

/-- `stream_layout::experimental` with both banks; the build's own frame sizes. -/
def inputLayout (profile : RateProfile) (legacyV2 : Bool) : RunLayout where
  streams
    | .adc => makeFrameLayout V2.kInputAdcPairsPerFrame 4 (timingFor profile).adcPairPeriodTicks
    | .gpio =>
      makeFrameLayout V2.kInputGpioSamplesPerFrame 2 (timingFor profile).gpioSamplePeriodTicks
  auxBankMode := .input
  rateProfile := profile
  protocolVersion := V2.kProtocolVersion
  legacyV2 := legacyV2

/-- `operator==` of layouts. -/
def sameLayout (left right : RunLayout) : Bool :=
  left.streams .adc = right.streams .adc && left.streams .gpio = right.streams .gpio &&
    left.auxBankMode = right.auxBankMode && left.rateProfile = right.rateProfile &&
    left.protocolVersion = right.protocolVersion && left.legacyV2 = right.legacyV2 &&
    left.gpioPolicy = right.gpioPolicy && left.adcPolicy = right.adcPolicy

/-- The layout that `startRun` asks the pipeline for. -/
def selectLayout (profile : RateProfile) (actual : RunLayout) : Option RunLayout :=
  if actual.protocolVersion = V3.kProtocolVersion && actual.valid && actual.auxBankMode = .input &&
      actual.rateProfile = profile then some actual
  else
    let selected := inputLayout profile actual.legacyV2
    if selected.valid then some selected else none

/-! ### The state -/

inductive OperationStatus
  | ok
  | invalidRunId
  | unsupportedProfile
  | pipelineNotReady
  | notQuiescent
  deriving DecidableEq, Repr

structure ServiceReport where
  buffersConsumed : ℕ := 0
  samplesConsumed : ℕ := 0
  framesPacked : ℕ := 0
  framesFramed : ℕ := 0
  framesDropped : ℕ := 0
  waitingForBuffer : Bool := false
  workLimitReached : Bool := false
  sourceError : Bool := false
  pipelineError : Bool := false
  deriving DecidableEq, Repr

/-- One answer of the join: what `acquireReady` returned, the words of the two buffers (GPIO2
first), and what `release` returned. -/
structure Acquired where
  status : GpioJoin.OperationStatus
  handle : BufferHandle
  words : ℕ → UInt32 × UInt32
  released : GpioJoin.OperationStatus

structure AuxiliaryBatchPacker where
  layout : RunLayout := legacyLayout
  progress : GpioPackerProgress := {}
  nextSampleTicks : ℕ := 0
  startEpochTicks : UInt64 := 0
  serviceCalls : ℕ := 0
  runId : UInt32 := 0
  sourceErrors : ℕ := 0
  pipelineErrors : ℕ := 0
  chronologyErrors : ℕ := 0
  checksumAlgorithm : ChecksumAlgorithm := ChecksumAlgorithm.adler32
  packetGapPending : Bool := false
  running : Bool := false

namespace AuxiliaryBatchPacker

variable (x : AuxiliaryBatchPacker)

/-- `layout_.forStream(kGpio)` -/
def gpio : FrameLayout := x.layout.streams .gpio

def noteSourceError : AuxiliaryBatchPacker := { x with sourceErrors := sat32 x.sourceErrors 1 }

def notePipelineError : AuxiliaryBatchPacker :=
  { x with pipelineErrors := sat32 x.pipelineErrors 1 }

def noteChronologyError : AuxiliaryBatchPacker :=
  { x with chronologyErrors := sat32 x.chronologyErrors 1 }

def quiescent : Bool := !x.running

def startRun (runId : UInt32) (checksumAlgorithm : ChecksumAlgorithm) (profile : RateProfile)
    (pipeline : Pipeline) (startEpochTicks : UInt64) : AuxiliaryBatchPacker × OperationStatus :=
  if runId = 0 || runId = x.runId then (x, .invalidRunId)
  else if !x.quiescent then (x, .notQuiescent)
  else
    match selectLayout profile pipeline.setup.layout with
    | none => (x, .unsupportedProfile)
    | some selected =>
      if !pipeline.accepts .gpio runId checksumAlgorithm || !isSupportedChecksum checksumAlgorithm ||
          !sameLayout pipeline.setup.layout selected then (x, .pipelineNotReady)
      else
        ({ layout := selected
           startEpochTicks := startEpochTicks
           runId := runId
           checksumAlgorithm := checksumAlgorithm
           running := true }, .ok)

def stopProduction : AuxiliaryBatchPacker := { x with running := false }

/-! ### Buffers -/

/-- The gap takes its frames from the stream. -/
def projectRawGap (missingFrames : ℕ) (f : Feed) : AuxiliaryBatchPacker × Feed × Bool :=
  if missingFrames = 0 then (x, f, true)
  else
    let recorded := f.recordSourceFrameDrops .gpio (UInt64.ofNat missingFrames)
    if recorded.2 ≠ .ok then (x, recorded.1, false)
    else
      let missingSamples := Table.satMul u64Max missingFrames x.gpio.itemCount
      let progress := { x.progress with
        framesProduced := sat64 x.progress.framesProduced missingFrames
        samplesProduced := sat64 x.progress.samplesProduced missingSamples
        rawGapSamples := sat64 x.progress.rawGapSamples missingSamples
        rawDropSamplesProjected := sat64 x.progress.rawDropSamplesProjected missingSamples }
      ({ x with progress := progress }, recorded.1, true)

/-- The part of `consume` behind the checks that looks at what is missing. -/
def crossGap (missingTicks : ℕ) (f : Feed) : AuxiliaryBatchPacker × Feed × Bool :=
  if missingTicks = 0 then (x, f, true)
  else
    let projected := x.projectRawGap (missingTicks / x.gpio.coverageTicks) f
    (if projected.2.2 then { projected.1 with packetGapPending := true } else projected.1,
      projected.2.1, projected.2.2)

def countProduced (samples : ℕ) : AuxiliaryBatchPacker :=
  let progress := { x.progress with
    framesProduced := sat64 x.progress.framesProduced 1
    samplesProduced := sat64 x.progress.samplesProduced samples }
  { x with progress := progress }

/-- What the packer asks for a frame that starts at `firstTicks`. -/
def completion (firstTicks : ℕ) (sequence : UInt32) : FrameCompletion where
  firstSampleTicks := UInt64.ofNat firstTicks
  flags := requestFlags false (sequence = 0 && firstTicks = 0) x.packetGapPending
  checksumAlgorithm := x.checksumAlgorithm
  payloadBytesWritten := x.gpio.payloadBytes

/-- The view of the next frame is as large as the layout says. -/
def viewFits (f : Feed) : Bool :=
  let begun := f.beginFill .gpio
  begun.2.status = .ok && (begun.1.writablePayload begun.2.handle).2 = some x.gpio.payloadBytes

/-- The part that makes the frame, with whether the samples were packed. -/
def fillFrame (h : BufferHandle) (words : ℕ → UInt32 × UInt32) (f : Feed) :
    Feed × ThingDaq.OperationStatus × Bool × Bool :=
  let packed := packDualBankBatch words h.sampleCount x.gpio.payloadBytes
  let whole : Bool := packed.1 = h.sampleCount
  let filled := f.fill .gpio x.gpio.payloadBytes whole packed.2 (x.completion h.firstSampleTicks)
  (filled.1, filled.2.1, filled.2.2, x.viewFits f && whole)

def countPacked (packed : Bool) (samples : ℕ) : AuxiliaryBatchPacker :=
  if packed then
    let progress := { x.progress with
      framesPacked := sat64 x.progress.framesPacked 1
      samplesPacked := sat64 x.progress.samplesPacked samples }
    { x with progress := progress }
  else x

/-- The part behind it: `status` is that of `beginFill`. -/
def settle (h : BufferHandle) (status : ThingDaq.OperationStatus) (framed packed : Bool)
    (report : ServiceReport) : AuxiliaryBatchPacker × ServiceReport :=
  let x := x.countPacked packed h.sampleCount
  let report := if packed then { report with framesPacked := report.framesPacked + 1 } else report
  let x := { x with nextSampleTicks := h.firstSampleTicks + x.gpio.coverageTicks }
  let report := { report with samplesConsumed := report.samplesConsumed + h.sampleCount }
  if framed then
    ({ x with packetGapPending := false }, { report with framesFramed := report.framesFramed + 1 })
  else
    let x := { x with packetGapPending := true }
    let report := { report with framesDropped := report.framesDropped + 1 }
    -- a full pool is a loss, not a fault
    if status = .poolExhausted then (x, report)
    else (x.notePipelineError, { report with pipelineError := true })

/-- What `consume` asks of a handle. -/
def admits (h : BufferHandle) : Bool :=
  h.valid && h.epoch = x.runId && h.sampleCount = x.gpio.itemCount &&
    h.samplePeriodTicks = x.gpio.itemPeriodTicks &&
    h.firstSampleTicks % x.gpio.itemPeriodTicks = 0 &&
    h.firstSampleTicks ≤ u64Max - x.gpio.coverageTicks

def consume (h : BufferHandle) (words : ℕ → UInt32 × UInt32) (f : Feed) (report : ServiceReport) :
    AuxiliaryBatchPacker × Feed × ServiceReport × Bool :=
  if !x.admits h then (x.noteSourceError, f, { report with sourceError := true }, false)
  else if h.firstSampleTicks < x.nextSampleTicks ||
      (h.firstSampleTicks - x.nextSampleTicks) % x.gpio.coverageTicks ≠ 0 then
    (x.noteChronologyError.noteSourceError, f, { report with sourceError := true }, false)
  else
    let crossed := x.crossGap (h.firstSampleTicks - x.nextSampleTicks) f
    if !crossed.2.2 then
      (crossed.1.notePipelineError, crossed.2.1, { report with pipelineError := true }, false)
    else
      let counted := crossed.1.countProduced h.sampleCount
      let filled := counted.fillFrame h words crossed.2.1
      let settled := counted.settle h filled.2.1 filled.2.2.1 filled.2.2.2 report
      (settled.1, filled.1, settled.2, true)

/-- One acquired pair, up to the break behind it. -/
def takeBuffer (a : Acquired) (f : Feed) (report : ServiceReport) :
    AuxiliaryBatchPacker × Feed × ServiceReport × Bool :=
  let consumed := x.consume a.handle a.words f report
  let released : AuxiliaryBatchPacker × ServiceReport :=
    if a.released ≠ .ok then
      (consumed.1.noteSourceError, { consumed.2.2.1 with sourceError := true })
    else (consumed.1, consumed.2.2.1)
  let report := { released.2 with buffersConsumed := released.2.buffersConsumed + 1 }
  (released.1, consumed.2.1, report,
    consumed.2.2.2 && !report.sourceError && !report.pipelineError)

/-- The loop over the buffers; the join has nothing ready behind the last answer. -/
def bufferLoop (bufferLimit : ℕ) : List Acquired → AuxiliaryBatchPacker → Feed → ServiceReport →
    AuxiliaryBatchPacker × Feed × ServiceReport
  | [], x, f, report =>
    (x, f, { report with waitingForBuffer :=
      report.waitingForBuffer || report.buffersConsumed < bufferLimit })
  | a :: rest, x, f, report =>
    if bufferLimit ≤ report.buffersConsumed then (x, f, report)
    else if a.status = .noReadyBuffer then (x, f, { report with waitingForBuffer := true })
    else if a.status ≠ .ok || !a.handle.valid then
      (x.noteSourceError, f, { report with sourceError := true })
    else
      let taken := x.takeBuffer a f report
      if taken.2.2.2 then bufferLoop bufferLimit rest taken.1 taken.2.1 taken.2.2.1
      else (taken.1, taken.2.1, taken.2.2.1)

def pipelineMatches (pipeline : Pipeline) : Bool :=
  pipeline.accepts .gpio x.runId x.checksumAlgorithm && sameLayout pipeline.setup.layout x.layout

def service (source : List Acquired) (bufferLimit : ℕ) (f : Feed) :
    AuxiliaryBatchPacker × Feed × ServiceReport :=
  let x := { x with serviceCalls := sat64 x.serviceCalls 1 }
  if !x.pipelineMatches f.pipe then (x.notePipelineError, f, { pipelineError := true })
  else if !x.running then (x, f, {})
  else
    let looped := bufferLoop bufferLimit source x f {}
    (looped.1, looped.2.1, { looped.2.2 with workLimitReached :=
      bufferLimit ≠ 0 && looped.2.2.buffersConsumed = bufferLimit })

/-! ### Statistics -/

/-- `progress`: what is not counted here comes from the pipeline. -/
def progressOf (pipeline : Pipeline) : GpioPackerProgress :=
  let source := pipeline.sourceCounters .gpio
  { x.progress with
    framesFramed := source.framesFramed
    samplesFramed := source.itemsFramed
    framesTransmitted := source.framesTransmitted
    samplesTransmitted := source.itemsTransmitted
    framesDropped := source.framesDropped
    samplesDropped := sat64 source.itemsDropped
      (x.progress.rawGapSamples - x.progress.rawDropSamplesProjected)
    sourceErrors := x.sourceErrors
    pipelineErrors := x.pipelineErrors
    chronologyErrors := x.chronologyErrors }

end AuxiliaryBatchPacker

/-- The calls of the runtime. -/
inductive Event
  | service (source : List Acquired) (bufferLimit : ℕ)
  | stopProduction

def producer : Producer AuxiliaryBatchPacker Event where
  feeds s := s = .gpio
  act x f
    | .service source bufferLimit =>
      ((x.service source bufferLimit f).1, (x.service source bufferLimit f).2.1)
    | .stopProduction => (x.stopProduction, f)

namespace AuxiliaryBatchPacker

/-! ### One pair of buffers -/

/-- A frame carries the samples of its time. -/
def Carries (l : RunLayout) (world : ℕ → UInt32 × UInt32) (h : Handed) : Prop :=
  h.payload = sampleRun world (h.number * (l.streams .gpio).itemCount) (l.streams .gpio).itemCount

/-- What the join promises of a pair: the words are those of its time. -/
def Delivers (l : RunLayout) (world : ℕ → UInt32 × UInt32) (h : BufferHandle)
    (words : ℕ → UInt32 × UInt32) : Prop :=
  h.valid = true → ∀ i < (l.streams .gpio).itemCount,
    words i = world (h.firstSampleTicks / (l.streams .gpio).itemPeriodTicks + i)

/-- What the packer has counted as produced, with what the pipeline has numbered. -/
structure Counted (l : RunLayout) (progress : GpioPackerProgress) (produced : ℕ) : Prop where
  frames : progress.framesProduced = produced
  samples : progress.samplesProduced = produced * (l.streams .gpio).itemCount
  projected : progress.rawGapSamples = progress.rawDropSamplesProjected

/-- The packer counts as the pipeline does. -/
structure InStep (l : RunLayout) (world : ℕ → UInt32 × UInt32) (x : AuxiliaryBatchPacker)
    (f : Feed) : Prop where
  reach : Reach anyCaller f.tracked
  layout : x.layout = l
  setup : f.pipe.setup.layout = l
  run : f.pipe.runId ≠ 0
  runId : x.runId ≠ 0
  next : x.nextSampleTicks = f.produced .gpio * l.coverage .gpio
  bound : x.nextSampleTicks ≤ u64Max
  timed : f.Timed l.coverage .gpio x.packetGapPending
  counted : Counted l x.progress (f.produced .gpio)
  payloads : ∀ h ∈ f.handed, Carries l world h

variable {l : RunLayout} {world : ℕ → UInt32 × UInt32} {x : AuxiliaryBatchPacker} {f : Feed}
  {runId : UInt32} {checksum : ChecksumAlgorithm}

/-- The counters of errors and calls do not matter. -/
theorem InStep.annotate (h : InStep l world x f) (serviceCalls sourceErrors pipelineErrors
    chronologyErrors : ℕ) (running : Bool) : InStep l world { x with
      serviceCalls := serviceCalls
      sourceErrors := sourceErrors
      pipelineErrors := pipelineErrors
      chronologyErrors := chronologyErrors
      running := running } f := { h with }

theorem length_sampleRun (words : ℕ → UInt32 × UInt32) (first count : ℕ) :
    (sampleRun words first count).length = count * 2 := by
  unfold sampleRun
  induction count with
  | zero => rfl
  | succ count ih =>
    rw [List.range_succ, List.flatMap_append, List.length_append, ih, List.flatMap_singleton,
      Nat.succ_mul]
    rfl

theorem sampleRun_congr {words world : ℕ → UInt32 × UInt32} {first count : ℕ}
    (h : ∀ i < count, words i = world (first + i)) :
    sampleRun words 0 count = sampleRun world first count := by
  unfold sampleRun
  refine List.flatMap_congr fun i hi => ?_
  rw [Nat.zero_add, h i (List.mem_range.mp hi)]

theorem coverage_pos (hl : l.valid = true) : 0 < l.coverage .gpio := by
  rw [RunLayout.coverage_eq hl]
  exact Nat.mul_pos (RunLayout.itemCount_pos hl .gpio) (RunLayout.period_pos hl .gpio)

/-- A frame is far shorter than the counter. -/
theorem coverage_le (hl : l.valid = true) : l.coverage .gpio ≤ u64Max := by
  obtain ⟨⟨-, hwidth, -⟩, -, -, hbytes, hsize⟩ :=
    FrameLayout.valid_iff.mp (RunLayout.frameLayout_valid hl .gpio)
  have hitems : (l.streams .gpio).itemCount ≤ 4096 :=
    (Nat.le_mul_of_pos_right _ hwidth).trans (by omega)
  have hperiod : (l.streams .gpio).itemPeriodTicks ≤ 16 := by
    rw [(RunLayout.sampling_of_valid hl).gpioPeriod]
    cases l.rateProfile <;> decide
  rw [RunLayout.coverage_eq hl]
  exact (Nat.mul_le_mul hitems hperiod).trans (by decide)

theorem satMul_fits {max a b : ℕ} (h : a * b ≤ max) : Table.satMul max a b = a * b := by
  unfold Table.satMul
  split
  · next hzero => rcases hzero with rfl | rfl <;> simp
  next hpos =>
  refine if_neg (Nat.not_lt.mpr ?_)
  exact (Nat.le_div_iff_mul_le (by omega)).mpr h

/-- A sample lasts a tick at least. -/
theorem samples_le (hl : l.valid = true) (n : ℕ) :
    n * (l.streams .gpio).itemCount ≤ n * l.coverage .gpio := by
  rw [RunLayout.coverage_eq hl]
  exact Nat.mul_le_mul_left n (Nat.le_mul_of_pos_right _ (RunLayout.period_pos hl .gpio))

/-- Before the frame of a pair is made, the stream has the number of its time. -/
theorem crossGap_spec (hl : l.valid = true) (h : InStep l world x f)
    (hopen : f.Open .gpio runId checksum) (missingTicks : ℕ)
    (hwhole : l.coverage .gpio ∣ missingTicks) (hfits : x.nextSampleTicks + missingTicks ≤ u64Max) :
    (x.crossGap missingTicks f).2.2 = true ∧
      (x.crossGap missingTicks f).2.1.Open .gpio runId checksum ∧
      (x.crossGap missingTicks f).2.1.produced .gpio * l.coverage .gpio =
        x.nextSampleTicks + missingTicks ∧
      (x.crossGap missingTicks f).2.1.handed = f.handed ∧
      Pipeline.Stays f.pipe (x.crossGap missingTicks f).2.1.pipe ∧
      ∃ progress gap, (x.crossGap missingTicks f).1 =
          { x with progress := progress, packetGapPending := gap } ∧
        Counted l progress ((x.crossGap missingTicks f).2.1.produced .gpio) ∧
        (x.crossGap missingTicks f).2.1.Timed l.coverage .gpio gap := by
  have hpos := coverage_pos hl
  obtain ⟨k, rfl⟩ := hwhole
  have hgpio : x.gpio = l.streams .gpio := by
    unfold gpio
    rw [h.layout]
  unfold crossGap
  split
  · next hzero =>
    exact ⟨rfl, hopen, by rw [hzero, h.next]; rfl, rfl, Pipeline.Stays.refl _, x.progress, _, rfl,
      h.counted, h.timed⟩
  next hgap =>
  have hk : 0 < k := Nat.pos_of_ne_zero fun hk => hgap (by rw [hk, Nat.mul_zero])
  have hdiv : l.coverage .gpio * k / x.gpio.coverageTicks = k := by
    rw [hgpio]
    exact Nat.mul_div_cancel_left k hpos
  have hsamples := samples_le hl (f.produced .gpio + k)
  rw [Nat.add_mul, Nat.add_mul, ← h.next, Nat.mul_comm k (l.coverage .gpio)] at hsamples
  have hframes := Nat.le_mul_of_pos_right (f.produced .gpio + k) (RunLayout.itemCount_pos hl .gpio)
  rw [Nat.add_mul] at hframes
  have hle : k ≤ u64Max := by omega
  obtain ⟨hopen', hproduced, hhanded, hok⟩ := Feed.drops_spec hopen (UInt64.ofNat k)
  have hnat : (UInt64.ofNat k).toNat = k := UInt64.toNat_ofNat_of_lt' (by
    change k ≤ 2 ^ 64 - 1 at hle
    change k < 2 ^ 64
    omega)
  rw [hnat] at hproduced
  have hnumber : (f.recordSourceFrameDrops .gpio (UInt64.ofNat k)).1.produced .gpio =
      f.produced .gpio + k := by
    rw [hproduced, Function.update_self]
  have hmissing : Table.satMul u64Max k x.gpio.itemCount = k * (l.streams .gpio).itemCount := by
    rw [hgpio]
    refine satMul_fits ?_
    omega
  rw [hdiv]
  unfold projectRawGap
  dsimp only
  rw [if_neg (by omega), hok, if_neg (not_not.mpr rfl)]
  refine ⟨rfl, hopen', ?_, hhanded, Pipeline.recordSourceFrameDrops_stays _ _ _, _, true, rfl,
    ⟨?_, ?_, ?_⟩, h.timed.skip hk hproduced hhanded⟩
  · rw [hnumber, Nat.add_mul, h.next, Nat.mul_comm k]
  · show sat64 x.progress.framesProduced k = _
    rw [hnumber, h.counted.frames, sat64_eq (by omega)]
  · show sat64 x.progress.samplesProduced _ = _
    rw [hnumber, h.counted.samples, hmissing, Nat.add_mul, sat64_eq (by omega)]
  · exact congrArg (fun samples => sat64 samples _) h.counted.projected

theorem countPacked_eq (x : AuxiliaryBatchPacker) (packed : Bool) (samples : ℕ) :
    ∃ framesPacked samplesPacked, x.countPacked packed samples = { x with
      progress := { x.progress with
        framesPacked := framesPacked
        samplesPacked := samplesPacked } } := by
  unfold countPacked
  split <;> exact ⟨_, _, rfl⟩

theorem settle_cases (x : AuxiliaryBatchPacker) (h : BufferHandle)
    (status : ThingDaq.OperationStatus) (framed packed : Bool) (report : ServiceReport) :
    ∃ framesPacked samplesPacked pipelineErrors,
      (x.settle h status framed packed report).1 = { x with
        nextSampleTicks := h.firstSampleTicks + x.gpio.coverageTicks
        packetGapPending := !framed
        progress := { x.progress with
          framesPacked := framesPacked
          samplesPacked := samplesPacked }
        pipelineErrors := pipelineErrors } := by
  obtain ⟨framesPacked, samplesPacked, hx⟩ := x.countPacked_eq packed h.sampleCount
  unfold settle
  dsimp only
  rw [hx]
  cases framed with
  | true => exact ⟨_, _, _, rfl⟩
  | false =>
    rw [if_neg Bool.false_ne_true]
    split <;> exact ⟨_, _, _, rfl⟩

/-- One pair of buffers: its frame gets the number of its time, whatever was lost before it. -/
theorem consume_keeps (hl : l.valid = true) (hwide : (l.streams .gpio).itemBytes = 2)
    (h : InStep l world x f) (hopen : f.Open .gpio runId checksum) {handle : BufferHandle}
    {words : ℕ → UInt32 × UInt32} (hring : Delivers l world handle words) (report : ServiceReport) :
    InStep l world (x.consume handle words f report).1 (x.consume handle words f report).2.1 ∧
      (x.consume handle words f report).2.1.Open .gpio runId checksum := by
  have hgpio : x.gpio = l.streams .gpio := by
    unfold gpio
    rw [h.layout]
  have hcoverage : x.gpio.coverageTicks = l.coverage .gpio := by
    rw [hgpio]
    rfl
  unfold consume
  split
  · exact ⟨h.annotate .., hopen⟩
  next hadmits =>
  split
  · exact ⟨h.annotate .., hopen⟩
  next hfirst =>
  rw [Bool.not_eq_true', Bool.not_eq_false] at hadmits
  unfold admits at hadmits
  rw [hcoverage] at hfirst hadmits
  rw [hgpio] at hadmits
  simp only [Bool.or_eq_true, Bool.and_eq_true, decide_eq_true_eq, not_or, not_lt, ne_eq, not_not]
    at hadmits hfirst
  obtain ⟨⟨⟨⟨⟨hvalid, -⟩, hcount⟩, -⟩, -⟩, hroom⟩ := hadmits
  have hwords := hring hvalid
  obtain ⟨hcrossed, hopen', hnumber, hhanded, hstays, progress, gap, heq, hcounted, htimed⟩ :=
    crossGap_spec hl h hopen (handle.firstSampleTicks - x.nextSampleTicks)
      (Nat.dvd_of_mod_eq_zero hfirst.2) (by omega)
  dsimp only
  rw [hcrossed, if_neg (by decide)]
  generalize hf' : (x.crossGap (handle.firstSampleTicks - x.nextSampleTicks) f).2.1 = f' at *
  rw [heq]
  generalize hy : countProduced { x with progress := progress, packetGapPending := gap }
    handle.sampleCount = y
  have hlayout : y.layout = l := hy ▸ h.layout
  have hygpio : y.gpio = l.streams .gpio := by
    unfold gpio
    rw [hlayout]
  have hgap : y.packetGapPending = gap := by rw [← hy]; rfl
  have hrun : y.runId ≠ 0 := hy ▸ h.runId
  have hprogress : y.progress = { progress with
      framesProduced := sat64 progress.framesProduced 1
      samplesProduced := sat64 progress.samplesProduced handle.sampleCount } := by rw [← hy]; rfl
  have hstart : f'.produced .gpio * l.coverage .gpio = handle.firstSampleTicks := by omega
  -- the samples fit the view, since it is as large as the layout says
  have hframe := FrameLayout.valid_iff.mp (RunLayout.frameLayout_valid hl .gpio)
  have hbytes : y.gpio.payloadBytes = handle.sampleCount * 2 := by
    rw [hygpio, hframe.2.1, hwide, hcount]
  have hpacked : packDualBankBatch words handle.sampleCount y.gpio.payloadBytes =
      (handle.sampleCount, sampleRun words 0 handle.sampleCount) := by
    unfold packDualBankBatch
    rw [hbytes, Nat.mul_div_cancel _ Nat.two_pos, if_neg (Nat.lt_irrefl _)]
  have hsize : (packDualBankBatch words handle.sampleCount y.gpio.payloadBytes).2.length =
      y.gpio.payloadBytes := by
    rw [hpacked, length_sampleRun, hbytes]
  obtain ⟨hopen'', hfilled⟩ := Feed.fill_spec hopen'
    (decide ((packDualBankBatch words handle.sampleCount y.gpio.payloadBytes).1 = handle.sampleCount))
    hsize (y.completion handle.firstSampleTicks)
  have hfilledStays := (Feed.fill_keeps hopen'.reach .gpio
    (decide ((packDualBankBatch words handle.sampleCount y.gpio.payloadBytes).1 = handle.sampleCount))
    hsize (y.completion handle.firstSampleTicks)).2.1
  generalize hfill : f'.fill .gpio y.gpio.payloadBytes _ _ _ = filled at hopen'' hfilled hfilledStays
  have hmade : y.fillFrame handle words f' = (filled.1, filled.2.1, filled.2.2, y.viewFits f' &&
      decide ((packDualBankBatch words handle.sampleCount y.gpio.payloadBytes).1 =
        handle.sampleCount)) := by
    rw [← hfill]
    rfl
  rw [hmade]
  generalize (y.viewFits f' && decide (_ = handle.sampleCount) : Bool) = packed
  obtain ⟨framesPacked, samplesPacked, pipelineErrors, hsettled⟩ :=
    y.settle_cases handle filled.2.1 filled.2.2 packed report
  refine ⟨?_, hopen''⟩
  dsimp only
  rw [hsettled]
  have hproduced : filled.1.produced .gpio = f'.produced .gpio + 1 := by
    rw [hfilled.produced, Function.update_self]
  have hend : (f'.produced .gpio + 1) * l.coverage .gpio ≤ u64Max := by
    have hle := coverage_le hl
    rw [Nat.add_mul, hstart, Nat.one_mul]
    omega
  have hsamples := (samples_le hl (f'.produced .gpio + 1)).trans hend
  have hframes := (Nat.le_mul_of_pos_right (f'.produced .gpio + 1)
    (RunLayout.itemCount_pos hl .gpio)).trans hsamples
  have hnext : handle.firstSampleTicks + y.gpio.coverageTicks =
      (f'.produced .gpio + 1) * l.coverage .gpio := by
    rw [Nat.add_mul, hstart, hygpio, Nat.one_mul]
    rfl
  refine
    { reach := hopen''.reach
      layout := hlayout
      setup := (congrArg RunSetup.layout (hfilledStays.setup.trans hstays.setup)).trans h.setup
      run := (hfilledStays.runId.trans hstays.runId).symm ▸ h.run
      runId := hrun
      next := ?_
      bound := hnext.le.trans hend
      timed := ?_
      counted := ⟨?_, ?_, ?_⟩
      payloads := hfilled.all (hhanded ▸ h.payloads) fun _ => ?_ }
  · rw [hproduced]
    exact hnext
  · have hzero : (UInt32.ofNat (f'.produced .gpio) = 0 && handle.firstSampleTicks = 0 : Bool) =
        decide (f'.produced .gpio = 0) := by
      rw [← Bool.decide_and, decide_eq_decide, ← hstart]
      constructor
      · intro hboth
        exact (Nat.mul_eq_zero.mp hboth.2).resolve_right (coverage_pos hl).ne'
      · intro hnone
        rw [hnone, Nat.zero_mul]
        exact ⟨rfl, rfl⟩
    refine htimed.fill false hfilled (fun _ => ?_) ?_ rfl
    · show UInt64.ofNat handle.firstSampleTicks = _
      rw [hstart]
    · show requestFlags false _ _ = _
      rw [hgap, hzero]
  · show y.progress.framesProduced = _
    rw [hprogress, hproduced, hcounted.frames, sat64_eq hframes]
  · show y.progress.samplesProduced = _
    rw [Nat.add_mul, Nat.one_mul] at hsamples
    rw [hprogress, hproduced, hcounted.samples, Nat.add_mul, hcount, Nat.one_mul, sat64_eq hsamples]
  · show y.progress.rawGapSamples = y.progress.rawDropSamplesProjected
    rw [hprogress]
    exact hcounted.projected
  · have hperiod : handle.firstSampleTicks / (l.streams .gpio).itemPeriodTicks =
        f'.produced .gpio * (l.streams .gpio).itemCount := by
      rw [← hstart, RunLayout.coverage_eq hl, ← Nat.mul_assoc,
        Nat.mul_div_cancel _ (RunLayout.period_pos hl .gpio)]
    show (packDualBankBatch words handle.sampleCount y.gpio.payloadBytes).2 = _
    rw [hpacked, hcount, sampleRun_congr hwords, hperiod]

/-! ### Calls and runs -/

theorem takeBuffer_keeps (hl : l.valid = true) (hwide : (l.streams .gpio).itemBytes = 2)
    (h : InStep l world x f) (hopen : f.Open .gpio runId checksum) {a : Acquired}
    (hring : Delivers l world a.handle a.words) (report : ServiceReport) :
    InStep l world (x.takeBuffer a f report).1 (x.takeBuffer a f report).2.1 ∧
      (x.takeBuffer a f report).2.1.Open .gpio runId checksum := by
  obtain ⟨hkept, hopen'⟩ := consume_keeps hl hwide h hopen hring report
  unfold takeBuffer
  dsimp only
  refine ⟨?_, hopen'⟩
  split
  · exact hkept.annotate ..
  · exact hkept

theorem bufferLoop_keeps (hl : l.valid = true) (hwide : (l.streams .gpio).itemBytes = 2)
    (bufferLimit : ℕ) {source : List Acquired}
    (hring : ∀ a ∈ source, Delivers l world a.handle a.words) (h : InStep l world x f)
    (hopen : f.Open .gpio runId checksum) (report : ServiceReport) :
    InStep l world (bufferLoop bufferLimit source x f report).1
      (bufferLoop bufferLimit source x f report).2.1 := by
  induction source generalizing x f report with
  | nil => exact h
  | cons a rest ih =>
    rw [List.forall_mem_cons] at hring
    unfold bufferLoop
    split
    · exact h
    split
    · exact h
    split
    · exact h.annotate ..
    dsimp only
    obtain ⟨hkept, hopen'⟩ := takeBuffer_keeps hl hwide h hopen hring.1 report
    split
    · exact ih hring.2 hkept hopen' _
    · exact hkept

/-- What the join promises of the calls of a run. -/
def Promise (l : RunLayout) (world : ℕ → UInt32 × UInt32) : Event → Prop
  | .service source _ => ∀ a ∈ source, Delivers l world a.handle a.words
  | .stopProduction => True

theorem service_keeps (hl : l.valid = true) (hwide : (l.streams .gpio).itemBytes = 2)
    (h : InStep l world x f) {source : List Acquired} (bufferLimit : ℕ)
    (hring : ∀ a ∈ source, Delivers l world a.handle a.words) :
    InStep l world (x.service source bufferLimit f).1 (x.service source bufferLimit f).2.1 := by
  unfold service
  dsimp only
  split
  · exact h.annotate ..
  next hmatches =>
  split
  · exact h.annotate ..
  rw [Bool.not_eq_true', Bool.not_eq_false] at hmatches
  unfold pipelineMatches at hmatches
  rw [Bool.and_eq_true] at hmatches
  have hopen : f.Open .gpio x.runId x.checksumAlgorithm := ⟨h.reach, hmatches.1, h.runId⟩
  exact bufferLoop_keeps hl hwide bufferLimit hring (h.annotate ..) hopen {}

/-- The calls of the others number no frame of this stream. -/
theorem call_keeps (h : InStep l world x f) {op : Op} (hforeign : op.foreign producer.feeds = true)
    (hguard : f.tracked.Guard anyCaller op) : InStep l world x (f.call op) := by
  have hproduced : (f.call op).produced .gpio = f.produced .gpio := f.call_foreign hforeign rfl
  have hlater : Pipeline.Later f.pipe (f.call op).pipe := by
    refine f.tracked.step_later fun runId checksum mask layout => ?_
    rintro rfl
    cases hforeign
  exact
    { reach := Feed.reach_call op h.reach hguard
      layout := h.layout
      setup := (congrArg RunSetup.layout hlater.setup).trans h.setup
      run := hlater.runId.symm ▸ h.run
      runId := h.runId
      next := by
        rw [hproduced]
        exact h.next
      bound := h.bound
      timed := h.timed.foreign hproduced rfl
      counted := by
        rw [hproduced]
        exact h.counted
      payloads := h.payloads }

theorem run_keeps (hl : l.valid = true) (hwide : (l.streams .gpio).itemBytes = 2)
    (h : InStep l world x f) {turns : List (Turn Event)}
    (hfair : producer.Fair (fun _ => Promise l world) (x, f) turns) :
    InStep l world (producer.run (x, f) turns).1 (producer.run (x, f) turns).2 := by
  refine producer.run_rule (I := InStep l world) ?_ (fun _ _ _ h => call_keeps h) h hfair
  intro x f event h hring
  cases event with
  | service source bufferLimit => exact service_keeps hl hwide h bufferLimit hring
  | stopProduction => exact h.annotate ..

/-- Only a layout of two banks starts this packer, and it is the one of the pipeline. -/
theorem selectLayout_some {profile : RateProfile} {actual selected : RunLayout}
    (h : selectLayout profile actual = some selected) :
    selected.valid = true ∧ selected.auxBankMode = .input := by
  unfold selectLayout at h
  split at h
  · next hactual =>
    simp only [Bool.and_eq_true, decide_eq_true_eq] at hactual
    cases h
    exact ⟨hactual.1.1.2, hactual.1.2⟩
  · dsimp only at h
    split at h
    · next hvalid =>
      cases h
      exact ⟨hvalid, rfl⟩
    · cases h

theorem sameLayout_eq {left right : RunLayout} (h : sameLayout left right = true) : left = right := by
  unfold sameLayout at h
  simp only [Bool.and_eq_true, decide_eq_true_eq] at h
  obtain ⟨⟨⟨⟨⟨⟨⟨hadc, hgpio⟩, hmode⟩, hprofile⟩, hversion⟩, hlegacy⟩, hgpioPolicy⟩, hadcPolicy⟩ := h
  have hstreams : left.streams = right.streams := by
    funext s
    cases s with
    | adc => exact hadc
    | gpio => exact hgpio
  cases left
  cases right
  simp_all only

theorem startRun_ok {profile : RateProfile} {pipeline : Pipeline} {startEpochTicks : UInt64}
    (hok : (x.startRun runId checksum profile pipeline startEpochTicks).2 = .ok) :
    runId ≠ 0 ∧ pipeline.runId = runId ∧ pipeline.setup.layout.valid = true ∧
      pipeline.setup.layout.auxBankMode = .input ∧
      (x.startRun runId checksum profile pipeline startEpochTicks).1 =
        { layout := pipeline.setup.layout
          startEpochTicks := startEpochTicks
          runId := runId
          checksumAlgorithm := checksum
          running := true } := by
  unfold startRun at hok ⊢
  split at hok
  · cases hok
  next hrun =>
  split at hok
  · cases hok
  next hquiet =>
  rw [if_neg hrun, if_neg hquiet]
  cases hselect : selectLayout profile pipeline.setup.layout with
  | none =>
    rw [hselect] at hok
    cases hok
  | some selected =>
    rw [hselect] at hok
    dsimp only at hok ⊢
    split at hok
    · cases hok
    next hready =>
    rw [if_neg hready]
    simp only [Bool.or_eq_true, Bool.not_eq_true', not_or, Bool.not_eq_false, decide_eq_true_eq]
      at hrun hready
    obtain ⟨hvalid, hmode⟩ := selectLayout_some hselect
    have hsame := sameLayout_eq hready.2
    have haccepts := hready.1.1
    simp only [Pipeline.accepts, Bool.and_eq_true, decide_eq_true_eq] at haccepts
    rw [hsame]
    exact ⟨hrun.1, haccepts.1.1.2, hvalid, hmode, rfl⟩

end AuxiliaryBatchPacker

/-- START: the pipeline begins a run, and the packer after it. -/
def start (x : AuxiliaryBatchPacker) (f : Feed) (runId : UInt32) (checksum : ChecksumAlgorithm)
    (mask : UInt8) (layout : RunLayout) (profile : RateProfile) (startEpochTicks : UInt64) :
    AuxiliaryBatchPacker × Feed :=
  let started := f.call (.startRun runId checksum mask layout)
  ((x.startRun runId checksum profile started.pipe startEpochTicks).1, started)

/-- Both accept the run, and nothing was handed over before. -/
structure Starts (x : AuxiliaryBatchPacker) (f : Feed) (runId : UInt32)
    (checksum : ChecksumAlgorithm) (mask : UInt8) (layout : RunLayout) (profile : RateProfile)
    (startEpochTicks : UInt64) : Prop where
  reach : Reach anyCaller f.tracked
  handed : f.handed = []
  packet : (f.pipe.startRun runId checksum mask layout).2 = .ok
  packer : (x.startRun runId checksum profile (f.call (.startRun runId checksum mask layout)).pipe
    startEpochTicks).2 = .ok

section Run

variable {x : AuxiliaryBatchPacker} {f : Feed} {runId : UInt32} {checksum : ChecksumAlgorithm}
  {mask : UInt8} {layout : RunLayout} {profile : RateProfile} {startEpochTicks : UInt64}
  {world : ℕ → UInt32 × UInt32}

open AuxiliaryBatchPacker (InStep Promise Carries)

theorem Starts.run (h : Starts x f runId checksum mask layout profile startEpochTicks)
    {turns : List (Turn Event)} (hfair : producer.Fair (fun _ => Promise layout world)
      (start x f runId checksum mask layout profile startEpochTicks) turns) :
    InStep layout world
      (producer.run (start x f runId checksum mask layout profile startEpochTicks) turns).1
      (producer.run (start x f runId checksum mask layout profile startEpochTicks) turns).2 := by
  obtain ⟨hlayout, hproduced⟩ := Feed.start_fresh h.packet
  obtain ⟨hrun, hpipe, hvalid, hmode, hfirst⟩ := AuxiliaryBatchPacker.startRun_ok h.packer
  rw [hlayout] at hvalid hmode hfirst
  have hwide : (layout.streams .gpio).itemBytes = 2 := by
    rw [(RunLayout.sampling_of_valid hvalid).gpioBytes, if_pos hmode]
  refine AuxiliaryBatchPacker.run_keeps hvalid hwide ?_ hfair
  rw [hfirst]
  exact
    { reach := Feed.reach_call (.startRun runId checksum mask layout) h.reach trivial
      layout := rfl
      setup := hlayout
      run := by
        rw [hpipe]
        exact hrun
      runId := hrun
      next := by
        show 0 = _
        rw [hproduced, Nat.zero_mul]
      bound := Nat.zero_le _
      timed := Feed.Timed.fresh h.handed (hproduced .gpio)
      counted := by
        rw [hproduced]
        exact ⟨rfl, (Nat.zero_mul _).symm, rfl⟩
      payloads := fun y hy => absurd (h.handed ▸ hy) List.not_mem_nil }

/-- Every frame of a run is on the grid and carries the samples of its time, whatever the join
and the pool have lost; the first one starts the epoch, and one that does not follow the last
frame the pipeline took says so.  Every tick up to the next frame is in a number of the
stream. -/
theorem dual_bank_frames_keep_time
    (h : Starts x f runId checksum mask layout profile startEpochTicks) {turns : List (Turn Event)}
    (hfair : producer.Fair (fun _ => Promise layout world)
      (start x f runId checksum mask layout profile startEpochTicks) turns) :
    let done := producer.run (start x f runId checksum mask layout profile startEpochTicks) turns
    (∀ y ∈ done.2.handed, y.stream = .gpio ∧ y.OnGrid layout.coverage ∧ Carries layout world y) ∧
      done.2.handed.Pairwise (fun later earlier => earlier.number < later.number) ∧
      AllFlagged done.2.handed ∧
      done.1.nextSampleTicks = done.2.produced .gpio * layout.coverage .gpio := by
  intro done
  have hdone : InStep layout world done.1 done.2 := h.run hfair
  refine ⟨?_, ?_, hdone.timed.flagged, hdone.next⟩
  · intro y hy
    exact ⟨hdone.timed.own y hy, hdone.timed.lawful.grid y hy, hdone.payloads y hy⟩
  · refine hdone.timed.lawful.ordered.imp_of_mem fun hlater hearlier hless => hless ?_
    rw [hdone.timed.own _ hlater, hdone.timed.own _ hearlier]

/-- Two pairs with one lost between them. -/
theorem lost_pairs_keep_time :
    let world : ℕ → UInt32 × UInt32 := fun k => (UInt32.ofNat (k * 1024), UInt32.ofNat (k * 65536))
    let buffer : ℕ → Acquired := fun frame =>
      { status := .ok
        handle := { primaryWords := some 0, auxiliaryWords := some 0, firstSampleTicks := frame * 4048,
                    samplePeriodTicks := 2, sampleCount := 2024, epoch := 5, lease := 1,
                    bufferIndex := 0 }
        words := fun i => world (frame * 2024 + i)
        released := .ok }
    let layout := inputLayout .adc1mhzGpio4mhz false
    let done := producer.run (start {} ⟨Tracked.initial, []⟩ 5 1 2 layout .adc1mhzGpio4mhz 0)
      [.own (.service [buffer 0, buffer 2] 4), .own .stopProduction]
    ∀ y ∈ done.2.handed, y.OnGrid layout.coverage ∧ Carries layout world y := by
  intro world buffer layout done y hy
  have hstarts : Starts {} ⟨Tracked.initial, []⟩ 5 1 2 layout .adc1mhzGpio4mhz 0 :=
    ⟨Reach.initial, rfl, by decide +kernel, by decide +kernel⟩
  have hperiod : ∀ frame : ℕ, frame * 4048 / (layout.streams .gpio).itemPeriodTicks = frame * 2024 := by
    intro frame
    change frame * 4048 / 2 = frame * 2024
    omega
  have hring : ∀ a ∈ [buffer 0, buffer 2],
      AuxiliaryBatchPacker.Delivers layout world a.handle a.words := by
    intro a ha _ i _
    rcases List.mem_cons.mp ha with rfl | ha
    · exact congrArg (fun k => world (k + i)) (hperiod 0).symm
    · rw [List.mem_singleton.mp ha]
      exact congrArg (fun k => world (k + i)) (hperiod 2).symm
  have hfair : producer.Fair (fun _ => Promise layout world)
      (start {} ⟨Tracked.initial, []⟩ 5 1 2 layout .adc1mhzGpio4mhz 0)
      [.own (.service [buffer 0, buffer 2] 4), .own .stopProduction] := ⟨hring, trivial, trivial⟩
  exact ((dual_bank_frames_keep_time hstarts hfair).1 y hy).2

/-- What the packer reports adds up: every frame and every sample it has counted is dropped,
transmitted or in the pool. -/
theorem Starts.reports_add_up
    (h : Starts x f runId checksum mask layout profile startEpochTicks) {turns : List (Turn Event)}
    (hfair : producer.Fair (fun _ => Promise layout world)
      (start x f runId checksum mask layout profile startEpochTicks) turns) :
    let done := producer.run (start x f runId checksum mask layout profile startEpochTicks) turns
    let progress := done.1.progressOf done.2.pipe
    progress.framesDropped + progress.framesTransmitted + done.2.pipe.owned .gpio =
        progress.framesProduced ∧
      progress.samplesDropped + progress.samplesTransmitted +
          done.2.pipe.owned .gpio * (layout.streams .gpio).itemCount = progress.samplesProduced ∧
      progress.samplesProduced = done.2.produced .gpio * (layout.streams .gpio).itemCount := by
  intro done progress
  have hdone : InStep layout world done.1 done.2 := h.run hfair
  have hvalid : layout.valid = true := by
    obtain ⟨hlayout, -⟩ := Feed.start_fresh h.packet
    have hok := (AuxiliaryBatchPacker.startRun_ok h.packer).2.2.1
    rw [hlayout] at hok
    exact hok
  have hitems : (done.2.pipe.setup.stream .gpio).itemCount = (layout.streams .gpio).itemCount :=
    congrArg (fun l => (RunLayout.streams l .gpio).itemCount) hdone.setup
  have hsamples := (AuxiliaryBatchPacker.samples_le hvalid (done.2.produced .gpio)).trans
    (hdone.next.symm.le.trans hdone.bound)
  have hnumbered : Numbered done.2.tracked.world .gpio := by
    refine hdone.reach.ledger .gpio ?_
    show done.2.produced .gpio * (done.2.pipe.setup.stream .gpio).itemCount ≤ u64Max
    rw [hitems]
    exact hsamples
  have hbalance : (done.2.pipe.sourceCounters .gpio).framesDropped +
      (done.2.pipe.sourceCounters .gpio).framesTransmitted + done.2.pipe.owned .gpio =
        done.2.produced .gpio := hnumbered.balance
  have hdropped : progress.samplesDropped = (done.2.pipe.sourceCounters .gpio).framesDropped *
      (layout.streams .gpio).itemCount := by
    show sat64 _ (done.1.progress.rawGapSamples - _) = _
    rw [hdone.counted.projected, Nat.sub_self, sat64_zero, ← hitems]
    exact hnumbered.itemsDropped
  have htransmitted : progress.samplesTransmitted =
      (done.2.pipe.sourceCounters .gpio).framesTransmitted * (layout.streams .gpio).itemCount := by
    rw [← hitems]
    exact hnumbered.itemsTransmitted
  have hproduced : progress.samplesProduced =
      done.2.produced .gpio * (layout.streams .gpio).itemCount := hdone.counted.samples
  refine ⟨hbalance.trans hdone.counted.frames.symm, ?_, hproduced⟩
  rw [hdropped, htransmitted, hproduced, ← hbalance, Nat.add_mul, Nat.add_mul]

end Run

end ThingDaq.GpioAuxPacker
