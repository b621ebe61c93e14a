import ThingDaq.Pipeline.State
import ThingDaq.Protocol.V3Data

/-!
# The operations of the packet pipeline

`firmware/src/packet_buffer_pipeline.cpp`, function by function.  The codec
experiments of `input_experiment` are off in the normal build, so their branches
are not here: only a version 3 run defers a page to a codec.

A loop over the pool is a fold over the indices; `kInvalidBufferIndex` as a local
result is `none`.
-/

namespace ThingDaq

open Wire Table

/-! ### Reading the state -/

namespace Core

variable (c : Core)

def handleMatches (h : FillHandle) : Bool :=
  let r := c.records h.bufferIndex
  h.valid && h.bufferIndex < kPacketBufferCount && r.state = .filling && r.frameSize = 0 &&
    r.stream = h.stream && r.sequence = h.sequence && r.lease = h.lease

def validFrameSize (i : ℕ) : Bool :=
  let r := c.records i
  let layout := c.layoutOf i
  let frame := (c.frames i).bytes
  let bytes := frame.take r.frameSize
  if kPacketBufferCount ≤ i then false
  else if c.setup.layout.isV3 then
    if r.frameSize < kMinFrameBytes + kDataPrefixBytes || frame.length < r.frameSize ||
        r.itemCount ≠ layout.itemCount then false
    else if !validV3DataView bytes || byteAt frame 5 ≠ r.stream.frameKind ||
        (byteAt frame 45).toNat ≠ layout.itemBytes then false
    else if leValue (slice bytes 40 4) ≠ r.itemCount then false
    else byteAt frame 44 = 0 ||
      (byteAt frame 44 = 2 && c.setup.layout.adcPolicy = .pack12) ||
      (byteAt frame 44 = 1 && c.setup.layout.gpioPolicy = .rleAuto)
  else r.frameSize = layout.frameBytes

/-- Whether a complete page of the stream waits for a codec. -/
def deferred (s : Stream) : Bool :=
  c.setup.layout.isV3 && (match s with
    | .gpio => c.setup.layout.gpioPolicy = .rleAuto
    | .adc => c.setup.layout.adcPolicy = .pack12)

def accountedFrames (s : Stream) : ℕ :=
  let k := c.sourceCounters s
  let result := sat64 k.framesEmitted k.framesDropped
  if result ≤ k.framesDroppedAfterPromotion then 0 else result - k.framesDroppedAfterPromotion

def coverageFrames (s : Stream) : ℕ :=
  let layout := c.setup.layout
  if layout.isV3 then
    let unit := max (layout.streams .adc).coverageTicks (layout.streams .gpio).coverageTicks
    satMul u64Max (c.accountedFrames s) (layout.streams s).coverageTicks / unit
  else
    let weighted : Bool := (InputExperiment.kEqualRates || layout.rateProfile = .adc1mhzGpio1mhz) &&
      layout.protocolVersion = V2.kProtocolVersion
    c.accountedFrames s / (if weighted && s = .adc then 4 else 1)

/-- The distance of a live record behind the dropped one, when it can take the mark. -/
def successorDistance (dropped : BufferRecord) (j : ℕ) : Option ℕ :=
  let candidate := c.records j
  let distance := (candidate.sequence - dropped.sequence).toNat
  if candidate.state = .free || candidate.stream ≠ dropped.stream ||
      candidate.transmissionStarted then none
  else if distance = 0 || 0x80000000 ≤ distance then none
  else some distance

/-- The nearest successor, as the loop of `propagateGapAfter` finds it. -/
def findSuccessor (dropped : BufferRecord) : Option (ℕ × ℕ) :=
  (List.range kPacketBufferCount).foldl (nearer (c.successorDistance dropped)) none

end Core

namespace Pipeline

variable (p : Pipeline)

def readyForStart : Bool := !p.acceptingFrames && p.quiescent

/-! ### Small updates -/

/-- The same pipeline around another core. -/
def withCore (c : Core) : Pipeline := { p with toCore := c }

@[simp] theorem toCore_withCore (c : Core) : (p.withCore c).toCore = c := rfl

@[simp] theorem withCore_withCore (c c' : Core) : (p.withCore c).withCore c' = p.withCore c' := rfl

def invalidOperation : Pipeline := { p with invalidOperations := sat32 p.invalidOperations 1 }

def encodingRejection : Pipeline := { p with encodingRejections := sat32 p.encodingRejections 1 }

def recycle (i : ℕ) : Pipeline :=
  if kPacketBufferCount ≤ i then p.invalidOperation else p.withCore (p.setRecord i {})

def recordDrop (s : Stream) (itemCount : ℕ) : Pipeline :=
  let k := p.sourceCounters s
  p.withCore (p.setCounters s { k with
    framesDropped := sat64 k.framesDropped 1
    itemsDropped := sat64 k.itemsDropped itemCount })

def updateOwnedHighWater : Pipeline :=
  { p with buffersOwnedHighWater := max p.buffersOwnedHighWater p.ownedBuffers }

/-! ### Gap marks -/

def markGapBefore (i : ℕ) : Pipeline :=
  let r := p.records i
  if kPacketBufferCount ≤ i then p.invalidOperation
  else if r.state = .free || r.transmissionStarted then p.invalidOperation
  else p.withCore (p.setRecord i { r with gapBeforeRequired := true })

def propagateGapAfter (dropped : BufferRecord) : Pipeline :=
  match p.findSuccessor dropped with
  | some (j, _) => p.markGapBefore j
  | none => p.withCore (p.setGapNext dropped.stream true)

/-- Seal a late gap mark into the frame and its checksum. -/
def finalizeGapBefore (i : ℕ) : Pipeline × Bool :=
  let r := p.records i
  if kPacketBufferCount ≤ i then (p, false)
  else if !r.gapBeforeRequired then (p, true)
  else if (r.state ≠ .ready && r.state ≠ .transmitting) || !p.validFrameSize i then (p, false)
  else
    match loadU16 (p.frames i).bytes 6 with
    | none => (p, false)
    | some flags =>
      let flagged := (p.frames i).store 6
        (leBytes 2 (flags ||| (flagGapBefore ||| flagOverrunBefore)).toNat)
      let checksumOffset := r.frameSize - kTrailerSize
      match computeChecksum p.setup.checksumAlgorithm (flagged.bytes.take checksumOffset) with
      | none => ((p.withCore (p.setFrame i flagged)).encodingRejection, false)
      | some checksum =>
        let resealed := flagged.store checksumOffset (leBytes 4 checksum.toNat)
        let r := { r with gapBeforeRequired := false }
        (p.withCore ((p.setFrame i resealed).setRecord i r), true)

/-! ### Dropping and evicting -/

def dropBuffer (i : ℕ) (pressureEviction : Bool) : Pipeline :=
  let dropped := p.records i
  if kPacketBufferCount ≤ i || dropped.state = .free then p.invalidOperation
  else
    let k := p.sourceCounters dropped.stream
    let complete : Bool := dropped.state = .ready || dropped.state = .transmitting
    let k := if complete then
      { k with framesDroppedAfterFraming := sat64 k.framesDroppedAfterFraming 1 } else k
    let k := if dropped.state = .transmitting then
      { k with framesDroppedAfterPromotion := sat64 k.framesDroppedAfterPromotion 1 } else k
    let k := if pressureEviction then
      { k with wireBytesEvicted := sat64 k.wireBytesEvicted dropped.frameSize
               framesEvicted := sat64 k.framesEvicted 1
               itemsEvicted := sat64 k.itemsEvicted dropped.itemCount } else k
    let counted := p.withCore (p.setCounters dropped.stream k)
    ((counted.propagateGapAfter dropped).recordDrop dropped.stream dropped.itemCount).recycle i

/-- One step of the eviction scan: keep the older of the best so far and `i`. -/
def olderEvictable (oldest : Option ℕ) (i : ℕ) : Option ℕ :=
  let r := p.records i
  let completeUnsent : Bool :=
    r.state = .ready || (r.state = .transmitting && !r.transmissionStarted)
  let ticks (j : ℕ) := leValue (slice (p.frames j).bytes 32 8)
  if !completeUnsent || !p.validFrameSize i then oldest
  else
    match oldest with
    | none => some i
    | some o =>
      if ticks i < ticks o then some i
      else if ticks i ≠ ticks o then some o
      else
        let candidateSource := r.stream
        let oldestSource := (p.records o).stream
        if candidateSource = p.nextEvictionSource && oldestSource ≠ p.nextEvictionSource then some i
        else if candidateSource = oldestSource &&
            0x80000000 ≤ (r.sequence - (p.records o).sequence).toNat then some i
        else some o

def oldestEvictableCompleteBuffer : Option ℕ :=
  (List.range kPacketBufferCount).foldl p.olderEvictable none

def evictCompleteBuffer (i : ℕ) : Pipeline × Bool :=
  let r := p.records i
  let s := r.stream
  if kPacketBufferCount ≤ i then (p.invalidOperation, false)
  else if (r.state ≠ .ready && r.state ≠ .transmitting) || r.transmissionStarted ||
      !p.validFrameSize i then (p.invalidOperation, false)
  else
    let evicted (q : Pipeline) : Pipeline :=
      let q := q.dropBuffer i true
      { q with nextEvictionSource := s.peer, pressureEvictions := sat64 q.pressureEvictions 1 }
    if r.state = .ready then
      match eraseFirst (p.readyQueues s) i with
      | none => (p.invalidOperation, false)
      | some q => (evicted (p.withCore (p.setReady s q)), true)
    else if p.transmitDepthBySource s = 0 then (p.invalidOperation, false)
    else
      match eraseFirst p.transmitQueue i with
      | none => (p.invalidOperation, false)
      | some q =>
        let k := p.sourceCounters s
        let k := { k with framesEvictedAfterPromotion := sat64 k.framesEvictedAfterPromotion 1 }
        let lowered := (p.setTransmit q).setDepth s (p.transmitDepthBySource s - 1)
        (evicted (p.withCore (lowered.setCounters s k)), true)

def takeFreeBuffer : Pipeline × Option ℕ :=
  let index (offset : ℕ) := (p.nextFreeSearch + offset) % kPacketBufferCount
  match (List.range kPacketBufferCount).find? fun o => (p.records (index o)).state = .free with
  | some o => ({ p with nextFreeSearch := (index o + 1) % kPacketBufferCount }, some (index o))
  | none =>
    let q : Pipeline := { p with poolExhaustions := sat32 p.poolExhaustions 1 }
    match q.oldestEvictableCompleteBuffer with
    | none => (q, none)
    | some victim =>
      let evicted := q.evictCompleteBuffer victim
      if evicted.2 then
        ({ evicted.1 with nextFreeSearch := (victim + 1) % kPacketBufferCount }, some victim)
      else (evicted.1, none)

/-! ### Runs -/

def rejectStart : Pipeline := { p with runStartRejections := sat32 p.runStartRejections 1 }

/-- What an admitted `startRun` resets. -/
def reset (runId : UInt32) (mask : UInt8) (setup : RunSetup) : Pipeline where
  records := fun _ => {}
  frames := p.frames
  readyQueues := fun _ => []
  transmitQueue := []
  sourceCounters := fun _ => {}
  transmitDepthBySource := fun _ => 0
  gapBeforeNextFrame := fun _ => false
  runId := runId
  setup := setup
  readyQueueRejections := 0
  transmitQueueRejections := 0
  acceptingFrames := true
  enabledStreamMask := mask
  nextLease := p.nextLease
  runStarts := sat32 p.runStarts 1
  runStartRejections := p.runStartRejections
  deferredNow := p.deferredNow

def startRun (runId : UInt32) (checksumAlgorithm : ChecksumAlgorithm) (mask : UInt8)
    (layout : RunLayout) : Pipeline × OperationStatus :=
  if runId = 0 || runId = p.runId then (p.rejectStart, .invalidRunId)
  else if !p.quiescent then (p.rejectStart, .transmissionPending)
  else if p.acceptingFrames then (p.rejectStart, .runActive)
  else if hsum : isSupportedChecksum checksumAlgorithm = true ∧
      (layout.isV3 = true → checksumAlgorithm = ChecksumAlgorithm.adler32) then
    if !validStreamMask mask then (p.rejectStart, .invalidStreamMask)
    else if hlayout : layout.valid = true then
      (p.reset runId mask
        { layout := layout, checksumAlgorithm := checksumAlgorithm, layout_valid := hlayout
          checksum_supported := hsum.1, v3_adler := hsum.2 }, .ok)
    else (p.rejectStart, .invalidLayout)
  else (p.rejectStart, .unsupportedChecksum)

def stopProduction : Pipeline × StopReport :=
  let stopped := (List.range kPacketBufferCount).foldl (fun (acc : Pipeline × ℕ) i =>
    let r := acc.1.records i
    if r.state ≠ .filling || r.frameSize ≠ 0 then acc
    else (acc.1.dropBuffer i false, acc.2 + 1)) ({ p with acceptingFrames := false }, 0)
  (stopped.1, { fillingFramesCanceled := stopped.2
                readyFramesToDrain := stopped.1.readyFrames
                transmittingFramesToDrain := stopped.1.transmitQueue.length })

/-! ### Producing -/

/-- The next nonzero lease, and the counter after it. -/
def takeLease (next : UInt32) : UInt32 × UInt32 :=
  let lease := if next = 0 then next + 1 else next
  let after := lease + 1
  (lease, if after = 0 then 1 else after)

/-- The pool-exhausted arm of `beginFill`. -/
def refuseFill (s : Stream) (sequence : UInt32) (itemCount : ℕ) : Pipeline × BeginFillResult :=
  let dropped := p.recordDrop s itemCount
  ({ dropped.withCore (dropped.setGapNext s true) with
      capacityDropsWithoutEvictableFrame := sat64 dropped.capacityDropsWithoutEvictableFrame 1 },
    { status := .poolExhausted, handle := { stream := s, sequence := sequence } })

/-- The successful arm of `beginFill`: buffer `i` becomes FILLING. -/
def openBuffer (s : Stream) (i : ℕ) (sequence : UInt32) (itemCount : ℕ) :
    Pipeline × BeginFillResult :=
  let lease := takeLease p.nextLease
  let r := { p.records i with
    state := .filling
    stream := s
    gapBeforeRequired := p.gapBeforeNextFrame s
    runId := p.runId
    sequence := sequence
    itemCount := itemCount
    lease := lease.1
    frameSize := 0 }
  let opened : Pipeline :=
    { p.withCore ((p.setRecord i r).setGapNext s false) with nextLease := lease.2 }
  (opened.updateOwnedHighWater,
    { status := .ok
      handle := { bufferIndex := i, stream := s, sequence := sequence, lease := lease.1 } })

def beginFill (s : Stream) : Pipeline × BeginFillResult :=
  if !p.acceptingFrames || p.runId = 0 then
    (p.invalidOperation, { status := .notRunning, handle := { stream := s } })
  else if !streamEnabled p.enabledStreamMask s then
    (p.invalidOperation, { status := .streamDisabled, handle := { stream := s } })
  else
    let k := p.sourceCounters s
    let layout := p.setup.stream s
    let produced := p.withCore (p.setCounters s { k with
      nextSequence := k.nextSequence + 1
      framesProduced := sat64 k.framesProduced 1
      itemsProduced := sat64 k.itemsProduced layout.itemCount })
    match produced.takeFreeBuffer with
    | (q, none) => q.refuseFill s k.nextSequence layout.itemCount
    | (q, some i) => q.openBuffer s i k.nextSequence layout.itemCount

def recordSourceFrameDrops (s : Stream) (frameCount : ℕ) : Pipeline × OperationStatus :=
  if !p.acceptingFrames || p.runId = 0 then (p.invalidOperation, .notRunning)
  else if !streamEnabled p.enabledStreamMask s then (p.invalidOperation, .streamDisabled)
  else if frameCount = 0 then (p, .ok)
  else
    let k := p.sourceCounters s
    let items := satMul u64Max frameCount (p.setup.stream s).itemCount
    let k := { k with
      framesProduced := sat64 k.framesProduced frameCount
      itemsProduced := sat64 k.itemsProduced items
      framesDropped := sat64 k.framesDropped frameCount
      itemsDropped := sat64 k.itemsDropped items
      nextSequence := k.nextSequence + UInt32.ofNat frameCount }
    (p.withCore ((p.setCounters s k).setGapNext s true), .ok)

/-- The producer writes through the view `writablePayload` returns. -/
def writePayload (h : FillHandle) (off : ℕ) (bs : Bytes) : Pipeline :=
  if !p.handleMatches h then p.invalidOperation
  else
    let room := (p.setup.stream h.stream).payloadBytes - off
    p.withCore (p.setFrame h.bufferIndex ((p.frames h.bufferIndex).store
      (kHeaderSize + p.setup.layout.prefixBytes + off) (bs.take room)))

def cancelFill (h : FillHandle) : Pipeline × Bool :=
  if !p.handleMatches h then (p.invalidOperation, false)
  else (p.dropBuffer h.bufferIndex false, true)

def publishReady (i : ℕ) : Pipeline :=
  let r := p.records i
  let s := r.stream
  let published := p.withCore (p.setRecord i { r with state := .ready })
  let k := p.sourceCounters s
  let k := { k with
    wireBytesFramed := sat64 k.wireBytesFramed r.frameSize
    framesFramed := sat64 k.framesFramed 1
    itemsFramed := sat64 k.itemsFramed r.itemCount
    readyQueueHighWater := max k.readyQueueHighWater (p.readyQueues s).length }
  { published.withCore (published.setCounters s k) with
    readyQueueHighWater := max p.readyQueueHighWater published.readyFrames }

/-- The header fields `finishFill` seals into a page. -/
def completionFields (r : BufferRecord) (completion : FrameCompletion) : FrameFields where
  kind := r.stream.frameKind
  flags := if r.gapBeforeRequired then
    completion.flags ||| flagGapBefore ||| flagOverrunBefore else completion.flags
  checksumAlgorithm := completion.checksumAlgorithm
  runId := r.runId
  sequence := r.sequence
  firstSampleTicks := completion.firstSampleTicks
  itemCount := UInt32.ofNat r.itemCount

/-- The wire shape of a stream's frames. -/
def frameShape (s : Stream) : DataFrameShape :=
  let layout := p.setup.stream s
  let pre := p.setup.layout.prefixBytes
  { protocolVersion := p.setup.layout.protocolVersion
    itemCount := layout.itemCount
    itemBytes := layout.itemBytes
    itemPeriodTicks := layout.itemPeriodTicks
    payloadBytes := layout.payloadBytes + pre
    frameBytes := layout.frameBytes + pre }

def encodePage (r : BufferRecord) (completion : FrameCompletion) (frame : PacketFrame) :
    Result × PacketFrame :=
  let shape := p.frameShape r.stream
  let fields := completionFields r completion
  let view := frame.bytes.take shape.frameBytes
  let encoded :=
    if p.setup.layout.protocolVersion = V1.kProtocolVersion then
      encodeDataFrameInPlaceV1 fields view completion.payloadBytesWritten
    else encodeDataFrameInPlace fields view shape.payloadBytes shape
  (encoded.1, frame.store 0 encoded.2)

def finishFill (h : FillHandle) (completion : FrameCompletion) : Pipeline × FinishFillResult :=
  if !p.handleMatches h then (p.invalidOperation, { status := .invalidHandle })
  else
    let i := h.bufferIndex
    let r := p.records i
    let s := r.stream
    if !p.acceptingFrames || r.runId ≠ p.runId then
      (p.dropBuffer i false, { status := .notRunning })
    else if completion.payloadBytesWritten ≠ (p.setup.stream s).payloadBytes then
      (p.dropBuffer i false, { status := .incompletePayload })
    else if completion.checksumAlgorithm ≠ p.setup.checksumAlgorithm then
      (p.encodingRejection.dropBuffer i false,
        { status := .checksumMismatch, encoding := Result.unsupportedChecksum })
    else
      let encoded := p.encodePage r completion (p.frames i)
      let written := p.withCore (p.setFrame i encoded.2)
      if !encoded.1.isOk then
        (written.encodingRejection.dropBuffer i false,
          { status := .encodingRejected, encoding := encoded.1 })
      else
        let r := { r with gapBeforeRequired := false, frameSize := (p.frameShape s).frameBytes }
        let complete := written.withCore (written.setRecord i r)
        match push kPacketReadyQueueDepth (complete.readyQueues s) i with
        | none =>
          let rejected : Pipeline :=
            { complete with readyQueueRejections := sat32 complete.readyQueueRejections 1 }
          (rejected.dropBuffer i false, { status := .queueFull, encoding := encoded.1 })
        | some queue =>
          let queued := complete.withCore (complete.setReady s queue)
          if p.deferred s then
            (queued.withCore (queued.setRecord i { r with lease := p.deferredNow }),
              { status := .ok, encoding := encoded.1 })
          else (queued.publishReady i, { status := .ok, encoding := encoded.1 })

/-! ### Deferred codecs -/

/-- Copy the header of `source` behind an encoded payload and seal the RLE frame. -/
def sealRle (source target : PacketFrame) (plan : Rle.SizingPlan) (bytesWritten : ℕ) :
    Option UInt32 × PacketFrame :=
  let pre := p.setup.layout.prefixBytes
  let bytes := plan.encodedFrameBytes + pre
  let target := target.store 0 (source.bytes.take (kHeaderSize + pre))
  let target :=
    if p.setup.layout.isV3 then (target.store 44 [1]).store 52 (leBytes 4 plan.runCount)
    else target.store 4 [InputExperiment.kGpioRleVersion]
  let target := (target.store 12 (leBytes 4 bytes)).store 16 (leBytes 4 (bytesWritten + pre))
  let checksum := computeChecksum p.setup.checksumAlgorithm
    (target.bytes.take (bytes - kTrailerSize))
  (checksum, match checksum with
    | none => target
    | some c => target.store (bytes - kTrailerSize) (leBytes 4 c.toNat))

def compressGpio (i : ℕ) : Pipeline × Bool :=
  let layout := p.layoutOf i
  let pre := p.setup.layout.prefixBytes
  let source := p.frames i
  let decoded := slice source.bytes (kHeaderSize + pre) layout.payloadBytes
  let selection := Rle.sizeForAdaptiveSelection decoded ⟨layout.itemBytes, layout.itemCount⟩
    (layout.frameBytes - 1)
  if selection.status ≠ .ok then (p.encodingRejection, false)
  else if !selection.selectRle then (p, true)
  else
    match (List.range kPacketBufferCount).find? fun j => (p.records j).state = .free with
    | none => (p, false)
    | some scratch =>
      let borrowed := p.withCore (p.setRecord scratch { p.records scratch with state := .filling })
      let target := p.frames scratch
      let out := slice target.bytes (kHeaderSize + pre) layout.payloadBytes
      let encoded := if layout.itemBytes = 2 then Rle.encodeHybrid16 decoded selection.plan out
        else Rle.encode decoded selection.plan out
      let target := target.store (kHeaderSize + pre) encoded.2
      let done : Pipeline :=
        if encoded.1.status = .ok then
          match p.sealRle source target selection.plan encoded.1.bytesWritten with
          | (none, target) =>
            (borrowed.withCore (borrowed.setFrame scratch target)).encodingRejection
          | (some _, target) =>
            let bytes := selection.plan.encodedFrameBytes + pre
            let copied := (borrowed.setFrame scratch target).setFrame i
              (source.store 0 (target.bytes.take bytes))
            let r := { borrowed.records i with frameSize := bytes }
            borrowed.withCore (copied.setRecord i r)
        else (borrowed.withCore (borrowed.setFrame scratch target)).encodingRejection
      let returned := done.recycle scratch
      (returned, (returned.records i).frameSize ≠ layout.frameBytes + pre)

/-- The in-place packing loop: pair `i` of four bytes moves to three. -/
def packPairs (base n : ℕ) (frame : PacketFrame) : PacketFrame :=
  (List.range n).foldl
    (fun f i => f.store (base + 3 * i) (packPair (slice f.bytes (base + 4 * i) 4))) frame

def packAdc12 (i : ℕ) : Pipeline × Bool :=
  let r := p.records i
  let pre := p.setup.layout.prefixBytes
  let base := kHeaderSize + pre
  let frame := p.frames i
  if !highNibblesClear (slice frame.bytes base (r.itemCount * 4)) then
    ({ p with encodingRejections := (p.encodingRejections + 1) % 2 ^ 32 }, false)
  else
    let size := 48 + pre + r.itemCount * 3
    let packed := packPairs base r.itemCount frame
    let packed :=
      if p.setup.layout.isV3 then packed.store 44 [2]
      else packed.store 4 [InputExperiment.kAdcPackedVersion]
    let packed := (packed.store 12 (leBytes 4 size)).store 16 (leBytes 4 (pre + r.itemCount * 3))
    let sized := p.withCore (p.setRecord i { r with frameSize := size })
    match computeChecksum p.setup.checksumAlgorithm (packed.bytes.take (size - 4)) with
    | none => (sized.withCore (sized.setFrame i packed), false)
    | some c =>
      (sized.withCore (sized.setFrame i (packed.store (size - 4) (leBytes 4 c.toNat))), true)

def setDeferredClock (ticks : UInt64) : Pipeline := { p with deferredNow := ticks.toUInt32 }

def setCodec (s : Stream) (k : CodecCounters) : Pipeline :=
  { p with codecCounters := Function.update p.codecCounters s k }

/-- Remove a page from its source FIFO and drop it. -/
def discardDeferred (s : Stream) (i : ℕ) : Pipeline :=
  (p.withCore (p.setReady s ((p.readyQueues s).erase i))).dropBuffer i false

def countWork (s : Stream) (work : UInt32) : Pipeline :=
  let k := p.codecCounters s
  p.setCodec s { k with
    workTicks := sat64 k.workTicks work.toNat
    maxWorkTicks := if k.maxWorkTicks < work then work else k.maxWorkTicks }

/-- What becomes of a page its codec is done with. -/
def settleDeferred (s : Stream) (i : ℕ) (late ok : Bool) : Pipeline :=
  let k := p.codecCounters s
  if late then
    (p.setCodec s { k with deadlineDrops := sat32 k.deadlineDrops 1 }).discardDeferred s i
  else if !ok then
    (p.setCodec s { k with resourceDrops := sat32 k.resourceDrops 1 }).discardDeferred s i
  else
    let raw : Bool := (p.records i).frameSize =
      (p.layoutOf i).frameBytes + p.setup.layout.prefixBytes
    (p.setCodec s { k with
      completed := sat32 k.completed 1
      raw := if raw then sat32 k.raw 1 else k.raw }).publishReady i

/-- Run the codec on page `i`; `readTicks` is what the clock callback returns
before and after, when there is one. -/
def encodeDeferred (ticks : UInt64) (readTicks : Option (UInt64 × UInt64)) (s : Stream) (i : ℕ) :
    Pipeline :=
  let started := (readTicks.map Prod.fst).getD ticks
  let ended := (readTicks.map Prod.snd).getD ticks
  let coded := if (p.records i).stream = .gpio then p.compressGpio i else p.packAdc12 i
  let q := coded.1.countWork s (ended - started).toUInt32
  -- a late completion is still a deadline miss
  let late : Bool := 80000 ≤ (ended.toUInt32 - (q.records i).lease).toNat
  { q.settleDeferred s i late coded.2 with nextCodecSource := s.peer }

/-- The oldest page of a source FIFO that still waits for its codec. -/
def oldestDeferred (s : Stream) : Option ℕ :=
  (p.readyQueues s).find? fun i =>
    i < kPacketBufferCount && (p.records i).state = .filling && (p.records i).frameSize ≠ 0

/-- The attempts of `serviceDeferred`, in order. -/
def serviceDeferredFrom (ticks : UInt64) (budget : ℕ) (readTicks : Option (UInt64 × UInt64)) :
    List Stream → Pipeline → Pipeline
  | [], p => p
  | s :: rest, p =>
    match p.oldestDeferred s with
    | none => serviceDeferredFrom ticks budget readTicks rest p
    | some i =>
      let k := p.codecCounters s
      let age := p.deferredNow - (p.records i).lease
      let aged := p.setCodec s { k with
        maxAgeTicks := if k.maxAgeTicks < age then age else k.maxAgeTicks }
      if 80000 ≤ age.toNat then
        let k := aged.codecCounters s
        serviceDeferredFrom ticks budget readTicks rest
          ((aged.setCodec s { k with deadlineDrops := sat32 k.deadlineDrops 1 }).discardDeferred s i)
      else if budget = 0 then serviceDeferredFrom ticks budget readTicks rest aged
      else aged.encodeDeferred ticks readTicks s i

def serviceDeferred (ticks : UInt64) (budget : ℕ) (readTicks : Option (UInt64 × UInt64)) :
    Pipeline :=
  if !p.setup.layout.isV3 ||
      (p.setup.layout.gpioPolicy = .raw && p.setup.layout.adcPolicy = .raw) then p
  else serviceDeferredFrom ticks budget readTicks [p.nextCodecSource, p.nextCodecSource.peer]
    (p.setDeferredClock ticks)

/-! ### Promotion -/

/-- The source at hand can be promoted, fairness aside. -/
def readyCandidate (s : Stream) : Bool :=
  streamEnabled p.enabledStreamMask s && (match p.readyQueues s with
    | [] => false
    | i :: _ => (p.records i).state = .ready)

def selectFrom : List Stream → Bool → Option Stream × Bool
  | [], fairnessDeferred => (none, fairnessDeferred)
  | s :: rest, fairnessDeferred =>
    if !p.readyCandidate s then selectFrom rest fairnessDeferred
    else if !(p.acceptingFrames && p.enabledStreamMask = kAllStreamMask) then
      (some s, fairnessDeferred)
    else if p.coverageFrames s ≤ p.coverageFrames s.peer then (some s, fairnessDeferred)
    else selectFrom rest true

def selectReadySource : Option Stream × Bool :=
  p.selectFrom [p.nextReadySource, p.nextReadySource.peer] false

/-- Hand a finalized READY frame to the transport's queue. -/
def promote (s : Stream) (i : ℕ) (queue : List ℕ) : Pipeline :=
  let r := p.records i
  let k := p.sourceCounters s
  let depth := p.transmitDepthBySource s + 1
  let moved := (p.setTransmit queue).setRecord i { r with state := .transmitting }
  let k := { k with
    wireBytesEmitted := sat64 k.wireBytesEmitted r.frameSize
    framesEmitted := sat64 k.framesEmitted 1
    itemsEmitted := sat64 k.itemsEmitted r.itemCount
    transmitQueueHighWater := max k.transmitQueueHighWater depth }
  { p.withCore ((moved.setDepth s depth).setCounters s k) with
    transmitQueueHighWater := max p.transmitQueueHighWater queue.length
    nextReadySource := s.peer
    framesPromoted := sat64 p.framesPromoted 1 }

/-- The promotion loop.  Every turn but the last pops a READY queue, so the
number of queued frames bounds the turns (`serviceLoop_fuel`). -/
def serviceLoop (limit : ℕ) : ℕ → Pipeline → PromotionReport → Pipeline × PromotionReport
  | 0, p, report => (p, report)
  | fuel + 1, p, report =>
    if limit ≤ report.framesPromoted then (p, report)
    else if p.transmitQueue.length = kPacketTransmitQueueDepth then
      (p, { report with transmitQueueFull := true })
    else
      match p.selectReadySource with
      | (none, deferred) =>
        if deferred then
          ({ p with fairnessDeferrals := sat64 p.fairnessDeferrals 1 },
            { report with fairnessDeferred := true })
        else (p, report)
      | (some s, _) =>
        match p.readyQueues s with
        | [] => serviceLoop limit fuel p.invalidOperation { report with invariantError := true }
        | i :: rest =>
          let popped := p.withCore (p.setReady s rest)
          let r := popped.records i
          if kPacketBufferCount ≤ i then
            serviceLoop limit fuel popped.invalidOperation { report with invariantError := true }
          else if r.state ≠ .ready || r.stream ≠ s || !popped.validFrameSize i then
            serviceLoop limit fuel (popped.invalidOperation.dropBuffer i false)
              { report with invariantError := true }
          else
            let finalized := popped.finalizeGapBefore i
            if !finalized.2 then
              serviceLoop limit fuel (finalized.1.encodingRejection.dropBuffer i false)
                { report with invariantError := true }
            else
              match push kPacketTransmitQueueDepth finalized.1.transmitQueue i with
              | none =>
                let q := finalized.1
                let rejected : Pipeline :=
                  { q with transmitQueueRejections := sat32 q.transmitQueueRejections 1 }
                (rejected.dropBuffer i false, { report with transmitQueueFull := true })
              | some queue =>
                serviceLoop limit fuel (finalized.1.promote s i queue)
                  { report with framesPromoted := report.framesPromoted + 1 }

def serviceReadyFrames (limit : ℕ) : Pipeline × PromotionReport :=
  serviceLoop limit ((p.readyQueues .adc).length + (p.readyQueues .gpio).length + 1) p {}

/-! ### The transport's side -/

def frontFrame : Bytes :=
  match p.transmitQueue with
  | [] => []
  | i :: _ =>
    if kPacketBufferCount ≤ i then []
    else if (p.records i).state ≠ .transmitting || !p.validFrameSize i then []
    else (p.frames i).bytes.take (p.records i).frameSize

def prepareFrontFrame : Pipeline × Bool :=
  match p.transmitQueue with
  | [] => (p.invalidOperation, false)
  | i :: _ =>
    let r := p.records i
    if kPacketBufferCount ≤ i then (p.invalidOperation, false)
    else if r.state ≠ .transmitting || r.transmissionStarted || !p.validFrameSize i then
      (p.invalidOperation, false)
    else p.finalizeGapBefore i

def markFrontFrameStarted : Pipeline :=
  match p.transmitQueue with
  | [] => p.invalidOperation
  | i :: _ =>
    let r := p.records i
    if kPacketBufferCount ≤ i then p.invalidOperation
    else if r.state ≠ .transmitting || !p.validFrameSize i then p.invalidOperation
    else p.withCore (p.setRecord i { r with transmissionStarted := true })

/-- One frame of the stream leaves the transmit queue. -/
def lowerDepth (s : Stream) : Pipeline :=
  if p.transmitDepthBySource s = 0 then p.invalidOperation
  else p.withCore (p.setDepth s (p.transmitDepthBySource s - 1))

def abortFrontFrame : Pipeline × Bool :=
  match p.transmitQueue with
  | [] => (p.invalidOperation, false)
  | i :: rest =>
    let popped := p.withCore (p.setTransmit rest)
    let r := popped.records i
    if kPacketBufferCount ≤ i then (popped.invalidOperation, false)
    else if r.state ≠ .transmitting || !r.transmissionStarted then
      (popped.invalidOperation.recycle i, false)
    else ((popped.lowerDepth r.stream).dropBuffer i false, true)

def releaseFrontFrame : Pipeline :=
  match p.transmitQueue with
  | [] => p.invalidOperation
  | i :: rest =>
    let popped := p.withCore (p.setTransmit rest)
    let r := popped.records i
    if kPacketBufferCount ≤ i then popped.invalidOperation
    else if r.state ≠ .transmitting || !popped.validFrameSize i then
      popped.invalidOperation.recycle i
    else
      let s := r.stream
      let k := popped.sourceCounters s
      let k := { k with
        wireBytesTransmitted := sat64 k.wireBytesTransmitted r.frameSize
        encodedBytesTransmitted := sat64 k.encodedBytesTransmitted
          (r.frameSize - kHeaderSize - kTrailerSize - p.setup.layout.prefixBytes)
        framesTransmitted := sat64 k.framesTransmitted 1
        itemsTransmitted := sat64 k.itemsTransmitted r.itemCount }
      let started := popped.setRecord i { r with transmissionStarted := true }
      let counted := popped.withCore (started.setCounters s k)
      (counted.lowerDepth s).recycle i

def queuedFrames : ℕ := p.transmitQueue.length

end Pipeline

end ThingDaq
