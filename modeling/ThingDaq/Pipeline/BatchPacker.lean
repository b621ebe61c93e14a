import ThingDaq.Capture.RawRing
import ThingDaq.Lib.Ring
import ThingDaq.Pipeline.Feed
import ThingDaq.Pipeline.Ledger

/-!
# The GPIO batch packer

`GpioBatchPacker` (`firmware/src/gpio_batch_packer.cpp`): it packs raw words of any number of
samples into frames of a fixed number, in four buffers of its own, and hands the full ones to
the pipeline.  A frame that a gap of the source or a lack of buffers touches is invalid as a
whole and costs the stream its sequence number.

What the capture ring answers is an input of `service`.  `fates` is a log that the firmware
does not keep: what became of each frame, in the order of the stream.  The processing profile
is left out.

The definitions follow the source: packing, the current frame, raw samples, framing, and the calls
of the runtime.  `producer` is the packer among the other callers of the pipeline.
-/

namespace ThingDaq.GpioPacker

open Wire Table Ring
open GpioCapture (BufferHandle kGpioSamplesPerFrame)

abbrev kGpioPackedRingDepth : ℕ := 4

/-! ### Packing -/

/-- `packGpio2Word` -/
def packGpio2Word (word : UInt32) : UInt8 :=
  let packed : UInt32 :=
    (word >>> (10 : UInt32) &&& 0x01) ||| (word >>> (16 : UInt32) &&& 0x02) |||
      (word >>> (14 : UInt32) &&& 0x04) ||| (word >>> (8 : UInt32) &&& 0x08) |||
      (word <<< (4 : UInt32) &&& 0x10) ||| (word <<< (3 : UInt32) &&& 0x20) |||
      (word <<< (5 : UInt32) &&& 0x40) ||| (word <<< (4 : UInt32) &&& 0x80)
  packed.toUInt8

/-- The two loops of `packGpio2Batch`: four words at a time, then the rest. -/
def packWords : List UInt32 → Bytes
  | a :: b :: c :: d :: rest =>
    packGpio2Word a :: packGpio2Word b :: packGpio2Word c :: packGpio2Word d :: packWords rest
  | rest => rest.map packGpio2Word

/-- `packGpio2Batch` between two valid views. -/
def packGpio2Batch (source : List UInt32) (destinationCapacity : ℕ) : Bytes :=
  if destinationCapacity < source.length then [] else packWords source

theorem packWords_eq (source : List UInt32) : packWords source = source.map packGpio2Word := by
  fun_induction packWords source with
  | case1 a b c d rest ih => rw [ih]; rfl
  | case2 => rfl

theorem length_packGpio2Batch {source : List UInt32} {destinationCapacity : ℕ}
    (h : source.length ≤ destinationCapacity) :
    (packGpio2Batch source destinationCapacity).length = source.length := by
  unfold packGpio2Batch
  rw [if_neg (by omega), packWords_eq, List.length_map]

/-- The words of a buffer of `count` samples, from an offset on. -/
def wordsFrom (words : ℕ → UInt32) (count offset : ℕ) : List UInt32 :=
  (List.range (count - offset)).map fun i => words (offset + i)

@[simp] theorem length_wordsFrom (words : ℕ → UInt32) (count offset : ℕ) :
    (wordsFrom words count offset).length = count - offset := by simp [wordsFrom]

/-! ### The state -/

inductive BufferState
  | free
  | filling
  | ready
  | framing
  deriving DecidableEq, Repr

structure PackedBuffer where
  bytes : Bytes
  size_eq : bytes.length = kDataPayloadBytes

def PackedBuffer.zero : PackedBuffer :=
  ⟨List.replicate kDataPayloadBytes 0, List.length_replicate⟩

/-- Overwrite part of a buffer. -/
def PackedBuffer.store (b : PackedBuffer) (off : ℕ) (bs : Bytes) : PackedBuffer :=
  ⟨Wire.store b.bytes off bs, by rw [length_store, b.size_eq]⟩

structure BufferRecord where
  state : BufferState := .free
  firstSample : ℕ := 0
  droppedFramesBefore : ℕ := 0
  rawDropSamplesBefore : ℕ := 0
  packerDropSamplesBefore : ℕ := 0
  gapBefore : Bool := false
  deriving DecidableEq, Repr

/-- `stats::GpioPackerProgress` -/
structure GpioPackerProgress where
  framesProduced : ℕ := 0
  samplesProduced : ℕ := 0
  framesPacked : ℕ := 0
  samplesPacked : ℕ := 0
  framesFramed : ℕ := 0
  samplesFramed : ℕ := 0
  framesTransmitted : ℕ := 0
  samplesTransmitted : ℕ := 0
  framesDropped : ℕ := 0
  samplesDropped : ℕ := 0
  rawGapSamples : ℕ := 0
  packerDropSamples : ℕ := 0
  rawDropSamplesProjected : ℕ := 0
  packerDropSamplesProjected : ℕ := 0
  readyDepth : ℕ := 0
  readyHighWater : ℕ := 0
  sourceErrors : ℕ := 0
  pipelineErrors : ℕ := 0
  chronologyErrors : ℕ := 0
  deriving DecidableEq, Repr

inductive OperationStatus
  | ok
  | invalidRunId
  | pipelineNotReady
  | notQuiescent
  deriving DecidableEq, Repr

structure ServiceReport where
  rawBuffersConsumed : ℕ := 0
  samplesConsumed : ℕ := 0
  framesPacked : ℕ := 0
  framesFramed : ℕ := 0
  framesDropped : ℕ := 0
  waitingForRawBuffer : Bool := false
  rawWorkLimitReached : Bool := false
  frameWorkLimitReached : Bool := false
  sourceError : Bool := false
  pipelineError : Bool := false
  deriving DecidableEq, Repr

structure StopReport where
  partialSamplesDiscarded : ℕ := 0
  packedFramesToDrain : ℕ := 0
  droppedFramesToPublish : ℕ := 0
  deriving DecidableEq, Repr

/-- What became of a frame of the stream: it is packed and waits, the pipeline made a frame of
it or did not, or it was invalid, with so many samples missing from the source and so many
dropped here. -/
inductive Fate
  | waiting
  | framed
  | unframed
  | invalid (raw packer : ℕ)
  deriving DecidableEq, Repr

/-- One answer of the capture ring: what `acquireReady` returned, the words of the buffer, and
what `release` returned. -/
structure Acquired where
  status : GpioCapture.OperationStatus
  handle : BufferHandle
  words : ℕ → UInt32
  released : GpioCapture.OperationStatus

structure GpioBatchPacker where
  records : ℕ → BufferRecord := fun _ => {}
  buffers : ℕ → PackedBuffer := fun _ => .zero
  readyQueue : List ℕ := []
  progress : GpioPackerProgress := {}
  pendingDroppedFrames : ℕ := 0
  pendingRawDropSamples : ℕ := 0
  pendingPackerDropSamples : ℕ := 0
  prepacketFramesDropped : ℕ := 0
  prepacketFramesProjected : ℕ := 0
  nextSourceSample : ℕ := 0
  startEpochTicks : ℕ := 0
  serviceCalls : ℕ := 0
  rawBuffersAcquired : ℕ := 0
  rawBuffersReleased : ℕ := 0
  duplicateSamplesIgnored : ℕ := 0
  currentRawDropSamples : ℕ := 0
  currentPackerDropSamples : ℕ := 0
  runId : UInt32 := 0
  currentFrameSamples : ℕ := 0
  sourceErrors : ℕ := 0
  pipelineErrors : ℕ := 0
  chronologyErrors : ℕ := 0
  nextFreeSearch : ℕ := 0
  readyHighWater : ℕ := 0
  /-- `none` is `kInvalidBuffer` -/
  fillingBuffer : Option ℕ := none
  checksumAlgorithm : ChecksumAlgorithm := ChecksumAlgorithm.adler32
  layout : RunLayout := legacyLayout
  currentFrameInvalid : Bool := false
  inputGapPending : Bool := false
  packetGapPending : Bool := false
  running : Bool := false
  fates : List Fate := []

namespace GpioBatchPacker

variable (x : GpioBatchPacker)

/-- `layout_.streams[1].item_count` -/
def itemCount : ℕ := (x.layout.streams .gpio).itemCount

def noteSourceError : GpioBatchPacker := { x with sourceErrors := sat32 x.sourceErrors 1 }

def notePipelineError : GpioBatchPacker := { x with pipelineErrors := sat32 x.pipelineErrors 1 }

def noteChronologyError : GpioBatchPacker :=
  { x with chronologyErrors := sat32 x.chronologyErrors 1 }

def countState (state : BufferState) : ℕ :=
  countTo kGpioPackedRingDepth fun i => (x.records i).state = state

def quiescent : Bool :=
  !x.running && x.fillingBuffer.isNone && x.readyQueue.isEmpty && x.countState .filling = 0 &&
    x.countState .ready = 0 && x.countState .framing = 0 && x.pendingDroppedFrames = 0

def setRecord (i : ℕ) (r : BufferRecord) : GpioBatchPacker :=
  { x with records := Function.update x.records i r }

def recycle (i : ℕ) : GpioBatchPacker :=
  if kGpioPackedRingDepth ≤ i then x.noteSourceError else x.setRecord i {}

def takeFreeBuffer : GpioBatchPacker × Option ℕ :=
  match searchFrom kGpioPackedRingDepth x.nextFreeSearch fun i => (x.records i).state = .free with
  | some i =>
    ({ x.setRecord i {} with nextFreeSearch := (i + 1) % kGpioPackedRingDepth }, some i)
  | none => (x, none)

/-! ### Runs -/

def startRun (runId : UInt32) (checksumAlgorithm : ChecksumAlgorithm) (pipeline : Pipeline)
    (startEpochTicks : ℕ) : GpioBatchPacker × OperationStatus :=
  let layout := pipeline.setup.layout
  let gpio := layout.streams .gpio
  if runId = 0 || runId = x.runId then (x, .invalidRunId)
  else if !x.quiescent then (x, .notQuiescent)
  else if !pipeline.accepts .gpio runId checksumAlgorithm ||
      !isSupportedChecksum checksumAlgorithm then (x, .pipelineNotReady)
  else if !layout.valid || layout.auxBankMode ≠ .disabled ||
      kGpioSamplesPerFrame < gpio.itemCount || gpio.itemBytes ≠ 1 ||
      kDataPayloadBytes < gpio.payloadBytes then (x, .pipelineNotReady)
  else
    ({ buffers := x.buffers
       runId := runId
       checksumAlgorithm := checksumAlgorithm
       layout := layout
       startEpochTicks := startEpochTicks
       running := true }, .ok)

/-! ### The current frame -/

def resetCurrentFrame : GpioBatchPacker :=
  { x with
    currentFrameSamples := 0
    currentRawDropSamples := 0
    currentPackerDropSamples := 0
    currentFrameInvalid := false
    fillingBuffer := none }

def invalidateCurrentFrame : GpioBatchPacker :=
  let x := { x with inputGapPending := true }
  if x.currentFrameInvalid then x
  else
    let x := { x with currentFrameInvalid := true }
    match x.fillingBuffer with
    | none => x
    | some b =>
      let progress := { x.progress with
        packerDropSamples := sat64 x.progress.packerDropSamples x.currentFrameSamples }
      let x := { x with
        progress := progress
        currentPackerDropSamples := sat64 x.currentPackerDropSamples x.currentFrameSamples }
      { x.recycle b with fillingBuffer := none }

def finishInvalidFrame (report : ServiceReport) : GpioBatchPacker × ServiceReport :=
  let progress := { x.progress with framesProduced := sat64 x.progress.framesProduced 1 }
  let x := { x with
    progress := progress
    prepacketFramesDropped := sat64 x.prepacketFramesDropped 1
    pendingDroppedFrames := sat64 x.pendingDroppedFrames 1
    pendingRawDropSamples := sat64 x.pendingRawDropSamples x.currentRawDropSamples
    pendingPackerDropSamples := sat64 x.pendingPackerDropSamples x.currentPackerDropSamples
    fates := x.fates ++ [Fate.invalid x.currentRawDropSamples x.currentPackerDropSamples] }
  (x.resetCurrentFrame, { report with framesDropped := report.framesDropped + 1 })

/-- The arm of `finishPackedFrame` for a queue that is full. -/
def rejectPackedFrame (b : ℕ) (report : ServiceReport) : GpioBatchPacker × ServiceReport :=
  let x := x.noteSourceError.recycle b
  let progress := { x.progress with
    packerDropSamples := sat64 x.progress.packerDropSamples x.itemCount
    framesProduced := sat64 x.progress.framesProduced 1 }
  ({ x with
      progress := progress
      prepacketFramesDropped := sat64 x.prepacketFramesDropped 1
      pendingDroppedFrames := sat64 x.pendingDroppedFrames 1
      pendingPackerDropSamples := sat64 x.pendingPackerDropSamples x.itemCount
      fates := x.fates ++ [Fate.invalid 0 x.itemCount] },
    { report with sourceError := true, framesDropped := report.framesDropped + 1 })

/-- The arm for a frame that takes its place in the queue. -/
def queuePackedFrame (queue : List ℕ) (report : ServiceReport) : GpioBatchPacker × ServiceReport :=
  let progress := { x.progress with
    framesProduced := sat64 x.progress.framesProduced 1
    framesPacked := sat64 x.progress.framesPacked 1 }
  ({ x with
      readyQueue := queue
      pendingDroppedFrames := 0
      pendingRawDropSamples := 0
      pendingPackerDropSamples := 0
      inputGapPending := false
      progress := progress
      readyHighWater := max x.readyHighWater queue.length
      fates := x.fates ++ [Fate.waiting] },
    { report with framesPacked := report.framesPacked + 1 })

/-- What the record of a packed frame says: the losses since the last one go before it. -/
def packedRecord : BufferRecord where
  state := .ready
  firstSample := x.nextSourceSample - x.itemCount
  droppedFramesBefore := x.pendingDroppedFrames
  rawDropSamplesBefore := x.pendingRawDropSamples
  packerDropSamplesBefore := x.pendingPackerDropSamples
  gapBefore := x.inputGapPending || x.pendingDroppedFrames ≠ 0

def finishPackedFrame (report : ServiceReport) : GpioBatchPacker × ServiceReport :=
  match x.fillingBuffer with
  | none => x.noteSourceError.invalidateCurrentFrame.finishInvalidFrame
      { report with sourceError := true }
  | some b =>
    if kGpioPackedRingDepth ≤ b then
      x.noteSourceError.invalidateCurrentFrame.finishInvalidFrame
        { report with sourceError := true }
    else
      let x := x.setRecord b x.packedRecord
      let finished := match push kGpioPackedRingDepth x.readyQueue b with
        | none => x.rejectPackedFrame b report
        | some queue => x.queuePackedFrame queue report
      ({ finished.1 with fillingBuffer := none }.resetCurrentFrame, finished.2)

/-- The frame is full. -/
def finishFrame (report : ServiceReport) : GpioBatchPacker × ServiceReport :=
  if x.currentFrameSamples ≠ x.itemCount then (x, report)
  else if x.currentFrameInvalid then x.finishInvalidFrame report
  else x.finishPackedFrame report

/-! ### Raw samples -/

/-- Full frames of a gap, in one go. -/
def skipFrames (fullFrames : ℕ) (report : ServiceReport) : GpioBatchPacker × ServiceReport :=
  let fullSamples := fullFrames * x.itemCount
  let progress := { x.progress with framesProduced := sat64 x.progress.framesProduced fullFrames }
  ({ x with
      progress := progress
      prepacketFramesDropped := sat64 x.prepacketFramesDropped fullFrames
      pendingDroppedFrames := sat64 x.pendingDroppedFrames fullFrames
      pendingRawDropSamples := sat64 x.pendingRawDropSamples fullSamples
      nextSourceSample := sat64 x.nextSourceSample fullSamples
      fates := x.fates ++ List.replicate fullFrames (Fate.invalid x.itemCount 0) },
    { report with framesDropped := report.framesDropped + fullFrames })

/-- The part of a gap that falls into the current frame. -/
def skipChunk (chunk : ℕ) : GpioBatchPacker :=
  let x := x.invalidateCurrentFrame
  { x with
    currentRawDropSamples := sat64 x.currentRawDropSamples chunk
    currentFrameSamples := x.currentFrameSamples + chunk
    nextSourceSample := sat64 x.nextSourceSample chunk }

/-- The loop of `accountRawGap`; every turn takes a sample at least. -/
def gapLoop : ℕ → GpioBatchPacker → ℕ → ServiceReport → GpioBatchPacker × ServiceReport
  | 0, x, _, report => (x, report)
  | fuel + 1, x, sampleCount, report =>
    if sampleCount = 0 then (x, report)
    else if x.currentFrameSamples = 0 && x.itemCount ≤ sampleCount then
      let skipped := x.skipFrames (sampleCount / x.itemCount) report
      gapLoop fuel skipped.1 (sampleCount - sampleCount / x.itemCount * x.itemCount) skipped.2
    else
      let chunk := min sampleCount (x.itemCount - x.currentFrameSamples)
      let x := x.skipChunk chunk
      let finished := if x.currentFrameSamples = x.itemCount then x.finishInvalidFrame report
        else (x, report)
      gapLoop fuel finished.1 (sampleCount - chunk) finished.2

def accountRawGap (sampleCount : ℕ) (report : ServiceReport) : GpioBatchPacker × ServiceReport :=
  if sampleCount = 0 then (x, report)
  else
    let progress := { x.progress with
      rawGapSamples := sat64 x.progress.rawGapSamples sampleCount
      samplesProduced := sat64 x.progress.samplesProduced sampleCount }
    gapLoop sampleCount { x with progress := progress, inputGapPending := true } sampleCount report

def ensureFillingBuffer : GpioBatchPacker × Bool :=
  match x.fillingBuffer with
  | some b => (x, b < kGpioPackedRingDepth && (x.records b).state = .filling)
  | none =>
    match x.takeFreeBuffer with
    | (x, none) => (x, false)
    | (x, some b) =>
      ({ x.setRecord b { x.records b with state := .filling } with fillingBuffer := some b }, true)

/-- A chunk of an invalid frame. -/
def dropChunk (chunk : ℕ) : GpioBatchPacker :=
  let progress := { x.progress with
    packerDropSamples := sat64 x.progress.packerDropSamples chunk }
  { x with
    progress := progress
    currentPackerDropSamples := sat64 x.currentPackerDropSamples chunk }

/-- A chunk of a frame with a buffer. -/
def packChunk (b : ℕ) (source : List UInt32) (report : ServiceReport) :
    GpioBatchPacker × ServiceReport :=
  let destination := x.buffers b
  let written := packGpio2Batch source (kDataPayloadBytes - x.currentFrameSamples)
  if written.length ≠ source.length then
    (x.noteSourceError.invalidateCurrentFrame.dropChunk source.length,
      { report with sourceError := true })
  else
    let progress := { x.progress with
      samplesPacked := sat64 x.progress.samplesPacked written.length }
    ({ x with
        buffers := Function.update x.buffers b (destination.store x.currentFrameSamples written)
        progress := progress }, report)

/-- The frame gets a buffer, or it is invalid. -/
def openFrame : GpioBatchPacker :=
  if x.currentFrameInvalid then x
  else
    let ensured := x.ensureFillingBuffer
    if ensured.2 then ensured.1 else ensured.1.invalidateCurrentFrame

def putChunk (source : List UInt32) (report : ServiceReport) : GpioBatchPacker × ServiceReport :=
  if x.currentFrameInvalid then (x.dropChunk source.length, report)
  else
    match x.fillingBuffer with
    | none => (x, report)
    | some b => x.packChunk b source report

def advance (chunk : ℕ) : GpioBatchPacker :=
  { x with
    currentFrameSamples := x.currentFrameSamples + chunk
    nextSourceSample := sat64 x.nextSourceSample chunk }

def countProduced (samples : ℕ) : GpioBatchPacker :=
  let progress := { x.progress with
    samplesProduced := sat64 x.progress.samplesProduced samples }
  { x with progress := progress }

/-- The samples of a chunk, before the frame is looked at. -/
def takeChunk (source : List UInt32) (report : ServiceReport) : GpioBatchPacker × ServiceReport :=
  let put := (x.countProduced source.length).openFrame.putChunk source report
  (put.1.advance source.length, put.2)

/-- The loop of `consumeAvailable`; every turn takes a sample at least. -/
def availableLoop : ℕ → GpioBatchPacker → List UInt32 → ServiceReport →
    GpioBatchPacker × ServiceReport
  | 0, x, _, report => (x, report)
  | fuel + 1, x, source, report =>
    if source = [] then (x, report)
    else
      let chunk := min source.length (x.itemCount - x.currentFrameSamples)
      let taken := x.takeChunk (source.take chunk) report
      let finished := taken.1.finishFrame taken.2
      availableLoop fuel finished.1 (source.drop chunk) finished.2

def consumeAvailable (source : List UInt32) (report : ServiceReport) :
    GpioBatchPacker × ServiceReport := availableLoop source.length x source report

/-- The part of `consume` behind the overlap. -/
def consumeFrom (firstSample : ℕ) (source : List UInt32) (report : ServiceReport) :
    GpioBatchPacker × ServiceReport :=
  let crossed := if x.nextSourceSample < firstSample then
    x.accountRawGap (firstSample - x.nextSourceSample) report else (x, report)
  let taken := crossed.1.consumeAvailable source crossed.2
  (taken.1, { taken.2 with samplesConsumed := taken.2.samplesConsumed + source.length })

def noteDuplicates (samples : ℕ) : GpioBatchPacker :=
  { x with duplicateSamplesIgnored := sat64 x.duplicateSamplesIgnored samples }

def consume (h : BufferHandle) (words : ℕ → UInt32) (report : ServiceReport) :
    GpioBatchPacker × ServiceReport × Bool :=
  if !h.valid || u64Max - h.sampleCount < h.firstSample then
    (x.noteSourceError, { report with sourceError := true }, false)
  else
    if h.firstSample < x.nextSourceSample then
      let x := x.noteChronologyError
      let overlap := x.nextSourceSample - h.firstSample
      if h.sampleCount ≤ overlap then (x.noteDuplicates h.sampleCount, report, true)
      else
        let taken := (x.noteDuplicates overlap).consumeFrom x.nextSourceSample
          (wordsFrom words h.sampleCount overlap) report
        (taken.1, taken.2, true)
    else
      let taken := x.consumeFrom h.firstSample (wordsFrom words h.sampleCount 0) report
      (taken.1, taken.2, true)

/-! ### Framing -/

def applyDroppedFrames (f : Feed) (frames rawSamples packerSamples : ℕ) :
    GpioBatchPacker × Feed × Bool :=
  if frames = 0 then (x, f, rawSamples = 0 && packerSamples = 0)
  else
    let recorded := f.recordSourceFrameDrops .gpio (UInt64.ofNat frames)
    if recorded.2 ≠ .ok then (x, recorded.1, false)
    else
      let progress := { x.progress with
        rawDropSamplesProjected := sat64 x.progress.rawDropSamplesProjected rawSamples
        packerDropSamplesProjected := sat64 x.progress.packerDropSamplesProjected packerSamples }
      ({ x with
          progress := progress
          prepacketFramesProjected := sat64 x.prepacketFramesProjected frames }, recorded.1, true)

/-- What the packer asks for a frame that starts at `firstSample`. -/
def completion (gap : Bool) (firstSample : ℕ) (sequence : UInt32) : FrameCompletion where
  firstSampleTicks := UInt64.ofNat (firstSample * (x.layout.streams .gpio).itemPeriodTicks)
  flags := requestFlags false (sequence = 0 && firstSample = 0) gap
  checksumAlgorithm := x.checksumAlgorithm
  payloadBytesWritten := (x.layout.streams .gpio).payloadBytes

/-- The front of the queue leaves it, with what became of its frame. -/
def retire (i : ℕ) (fate : Fate) : GpioBatchPacker :=
  { x.recycle i with
    readyQueue := x.readyQueue.drop 1
    fates := x.fates.set ((x.records i).firstSample / x.itemCount) fate }

def timestampValid (firstSample : ℕ) : Bool :=
  firstSample ≤ u64Max / (x.layout.streams .gpio).itemPeriodTicks

/-- The part of `packetizeOne` that makes the frame. -/
def fillFrame (f : Feed) (i : ℕ) : Feed × ThingDaq.OperationStatus × Bool :=
  let gpio := x.layout.streams .gpio
  let r := x.records i
  f.fill .gpio gpio.payloadBytes (x.timestampValid r.firstSample)
    ((x.buffers i).bytes.take gpio.payloadBytes)
    (x.completion (r.gapBefore || x.packetGapPending) r.firstSample)

/-- The part behind it: `status` is that of `beginFill`. -/
def settle (i : ℕ) (status : ThingDaq.OperationStatus) (framed : Bool) (report : ServiceReport) :
    GpioBatchPacker × ServiceReport :=
  -- the timestamp is only looked at once there is a page
  let mistimed : Bool := status = .ok && !x.timestampValid (x.records i).firstSample
  let x := if mistimed then x.noteChronologyError.noteSourceError else x
  let report := if mistimed then { report with sourceError := true } else report
  if framed then
    ({ x.retire i .framed with packetGapPending := false },
      { report with framesFramed := report.framesFramed + 1 })
  else
    let x := { x.retire i .unframed with packetGapPending := true }
    let report := { report with framesDropped := report.framesDropped + 1 }
    if status = .poolExhausted then (x, report)
    else (x.notePipelineError, { report with pipelineError := true })

def packetizeOne (f : Feed) (report : ServiceReport) :
    GpioBatchPacker × Feed × ServiceReport × Bool :=
  match x.readyQueue with
  | [] => (x, f, report, false)
  | i :: _ =>
    let r := x.records i
    if kGpioPackedRingDepth ≤ i then (x, f, report, false)
    else if r.state ≠ .ready then
      (x.notePipelineError, f, { report with pipelineError := true }, false)
    else
      let applied := x.applyDroppedFrames f r.droppedFramesBefore r.rawDropSamplesBefore
        r.packerDropSamplesBefore
      if !applied.2.2 then
        (applied.1.notePipelineError, applied.2.1, { report with pipelineError := true }, false)
      else
        let x := applied.1.setRecord i { r with
          droppedFramesBefore := 0
          rawDropSamplesBefore := 0
          packerDropSamplesBefore := 0
          state := .framing }
        let filled := x.fillFrame applied.2.1 i
        let settled := x.settle i filled.2.1 filled.2.2 report
        (settled.1, filled.1, settled.2, true)

/-- The loops around `packetizeOne`; every turn but the last empties a place of the queue. -/
def packetizeLoop (frameLimit : ℕ) : ℕ → GpioBatchPacker → Feed → ServiceReport →
    GpioBatchPacker × Feed × ServiceReport
  | 0, x, f, report => (x, f, report)
  | fuel + 1, x, f, report =>
    if report.framesFramed < frameLimit && !x.readyQueue.isEmpty then
      let one := x.packetizeOne f report
      if one.2.2.2 then packetizeLoop frameLimit fuel one.1 one.2.1 one.2.2.1
      else (one.1, one.2.1, one.2.2.1)
    else (x, f, report)

def packetize (frameLimit : ℕ) (f : Feed) (report : ServiceReport) :
    GpioBatchPacker × Feed × ServiceReport :=
  packetizeLoop frameLimit x.readyQueue.length x f report

def flushTrailingDrops (f : Feed) : GpioBatchPacker × Feed × Bool :=
  let applied := x.applyDroppedFrames f x.pendingDroppedFrames x.pendingRawDropSamples
    x.pendingPackerDropSamples
  if !applied.2.2 then applied
  else
    ({ applied.1 with
        pendingDroppedFrames := 0
        pendingRawDropSamples := 0
        pendingPackerDropSamples := 0
        inputGapPending := false }, applied.2.1, true)

/-! ### The calls of the runtime -/

/-- One acquired buffer, up to the break behind it. -/
def takeBuffer (a : Acquired) (report : ServiceReport) : GpioBatchPacker × ServiceReport × Bool :=
  let x := { x with rawBuffersAcquired := sat64 x.rawBuffersAcquired 1 }
  let consumed := x.consume a.handle a.words report
  let released : GpioBatchPacker × ServiceReport :=
    if a.released ≠ .ok then
      (consumed.1.noteSourceError, { consumed.2.1 with sourceError := true })
    else ({ consumed.1 with rawBuffersReleased := sat64 consumed.1.rawBuffersReleased 1 },
      consumed.2.1)
  let report := { released.2 with rawBuffersConsumed := released.2.rawBuffersConsumed + 1 }
  (released.1, report, consumed.2.2 && !report.sourceError)

/-- The loop over the raw buffers; the ring has nothing ready behind the last answer. -/
def rawLoop (rawBufferLimit frameLimit : ℕ) : List Acquired → GpioBatchPacker → Feed →
    ServiceReport → GpioBatchPacker × Feed × ServiceReport
  | [], x, f, report =>
    (x, f, { report with waitingForRawBuffer :=
      report.waitingForRawBuffer || report.rawBuffersConsumed < rawBufferLimit })
  | a :: rest, x, f, report =>
    if rawBufferLimit ≤ report.rawBuffersConsumed then (x, f, report)
    else if a.status = .noReadyBuffer then (x, f, { report with waitingForRawBuffer := true })
    else if a.status ≠ .ok || !a.handle.valid then
      (x.noteSourceError, f, { report with sourceError := true })
    else
      let taken := x.takeBuffer a report
      if !taken.2.2 then (taken.1, f, taken.2.1)
      else
        let framed := taken.1.packetize frameLimit f taken.2.1
        rawLoop rawBufferLimit frameLimit rest framed.1 framed.2.1 framed.2.2

/-- The part of `service` behind the loops. -/
def finishService (frameLimit : ℕ) (f : Feed) (report : ServiceReport) :
    GpioBatchPacker × Feed × ServiceReport :=
  let report := { report with frameWorkLimitReached :=
    frameLimit ≠ 0 && report.framesFramed = frameLimit && !x.readyQueue.isEmpty }
  if !x.running && x.readyQueue.isEmpty && x.pendingDroppedFrames ≠ 0 then
    let flushed := x.flushTrailingDrops f
    if flushed.2.2 then (flushed.1, flushed.2.1, report)
    else (flushed.1.notePipelineError, flushed.2.1, { report with pipelineError := true })
  else (x, f, report)

def service (source : List Acquired) (rawBufferLimit frameLimit : ℕ) (f : Feed) :
    GpioBatchPacker × Feed × ServiceReport :=
  let x := { x with serviceCalls := sat64 x.serviceCalls 1 }
  if !f.pipe.accepts .gpio x.runId x.checksumAlgorithm then
    (x.notePipelineError, f, { pipelineError := true })
  else
    let framed := x.packetize frameLimit f {}
    let worked := if framed.1.running then
        let taken := framed.1.rawLoop rawBufferLimit frameLimit source framed.2.1 framed.2.2
        (taken.1, taken.2.1, { taken.2.2 with rawWorkLimitReached :=
          rawBufferLimit ≠ 0 && taken.2.2.rawBuffersConsumed = rawBufferLimit })
      else framed
    let drained := worked.1.packetize frameLimit worked.2.1 worked.2.2
    drained.1.finishService frameLimit drained.2.1 drained.2.2

def stopProduction : GpioBatchPacker × StopReport :=
  let x := { x with running := false }
  let stopped : GpioBatchPacker × ℕ := if x.currentFrameSamples ≠ 0 then
      let x := x.invalidateCurrentFrame
      (x.resetCurrentFrame, x.currentFrameSamples)
    else (x, 0)
  (stopped.1, { partialSamplesDiscarded := stopped.2
                packedFramesToDrain := stopped.1.readyQueue.length
                droppedFramesToPublish := stopped.1.pendingDroppedFrames })

/-! ### Statistics -/

def progressOf (pipeline : Pipeline) : GpioPackerProgress :=
  let gpio := pipeline.sourceCounters .gpio
  { x.progress with
    framesFramed := gpio.framesFramed
    samplesFramed := gpio.itemsFramed
    framesTransmitted := gpio.framesTransmitted
    samplesTransmitted := gpio.itemsTransmitted
    framesDropped := sat64 gpio.framesDropped
      (x.prepacketFramesDropped - x.prepacketFramesProjected)
    samplesDropped := sat64 (sat64 gpio.itemsDropped
      (x.progress.rawGapSamples - x.progress.rawDropSamplesProjected))
      (x.progress.packerDropSamples - x.progress.packerDropSamplesProjected)
    readyDepth := x.readyQueue.length
    readyHighWater := x.readyHighWater
    sourceErrors := x.sourceErrors
    pipelineErrors := x.pipelineErrors
    chronologyErrors := x.chronologyErrors }

end GpioBatchPacker

/-- The GPIO column of `Statistics::refreshDataProjection`: what the STATUS response counts as
dropped, from the pipeline, the capture and the packer. -/
def gpioItemsDropped (itemsDropped samplesLost : ℕ) (packer : GpioPackerProgress) : ℕ :=
  sat64 (sat64 itemsDropped (samplesLost - packer.rawDropSamplesProjected))
    (packer.packerDropSamples - packer.packerDropSamplesProjected)

inductive Event
  | service (source : List Acquired) (rawBufferLimit frameLimit : ℕ)
  | stopProduction

def producer : Producer GpioBatchPacker Event where
  feeds s := s = .gpio
  act x f
    | .service source rawBufferLimit frameLimit =>
      ((x.service source rawBufferLimit frameLimit f).1,
        (x.service source rawBufferLimit frameLimit f).2.1)
    | .stopProduction => (x.stopProduction.1, f)

end ThingDaq.GpioPacker
