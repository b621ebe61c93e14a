import ThingDaq.Lib.Counting
import ThingDaq.Pipeline.Layout
import Mathlib.Logic.Function.Basic

/-!
# The state of the packet pipeline

The members of `PacketBufferPipeline` (`firmware/src/packet_buffer_pipeline.h`).
`Core` holds what ownership, loss accounting and the wire bytes depend on;
`Pipeline` adds the statistics and the search cursors.

A pool index is a natural number.  The tables are total and every access of the
firmware is guarded by `kPacketBufferCount`, so entries beyond it stay free.
`FixedQueue` is a list, oldest first.
-/

namespace ThingDaq

open Wire Table

abbrev kPacketBufferCount : ℕ := 200
abbrev kPacketReadyQueueDepth : ℕ := 200
abbrev kPacketTransmitQueueDepth : ℕ := 200
abbrev kPacketPromotionsPerLoop : ℕ := 4
abbrev kInvalidBufferIndex : ℕ := 255
abbrev u64Max : ℕ := 2 ^ 64 - 1
abbrev u32Max : ℕ := 2 ^ 32 - 1

inductive BufferState
  | free
  | filling
  | ready
  | transmitting
  deriving DecidableEq, Repr

/-- One page of the pool. -/
structure PacketFrame where
  bytes : Bytes
  size_eq : bytes.length = kDataFrameBytes

/-- Overwrite part of a page. -/
def PacketFrame.store (f : PacketFrame) (off : ℕ) (bs : Bytes) : PacketFrame :=
  ⟨Wire.store f.bytes off bs, by rw [length_store, f.size_eq]⟩

def PacketFrame.zero : PacketFrame := ⟨List.replicate kDataFrameBytes 0, List.length_replicate⟩

structure FillHandle where
  bufferIndex : ℕ := kInvalidBufferIndex
  stream : Stream := .adc
  sequence : UInt32 := 0
  lease : UInt32 := 0
  deriving DecidableEq, Repr

def FillHandle.valid (h : FillHandle) : Bool := h.bufferIndex ≠ kInvalidBufferIndex && h.lease ≠ 0

structure FrameCompletion where
  firstSampleTicks : UInt64 := 0
  flags : UInt16 := 0
  checksumAlgorithm : ChecksumAlgorithm := ChecksumAlgorithm.adler32
  payloadBytesWritten : ℕ := 0
  deriving DecidableEq, Repr

inductive OperationStatus
  | ok
  | invalidRunId
  | runActive
  | notRunning
  | poolExhausted
  | invalidHandle
  | incompletePayload
  | encodingRejected
  | queueFull
  | transmissionPending
  | unsupportedChecksum
  | checksumMismatch
  | invalidStreamMask
  | streamDisabled
  | invalidLayout
  deriving DecidableEq, Repr

structure BeginFillResult where
  status : OperationStatus := .notRunning
  handle : FillHandle := {}
  deriving DecidableEq, Repr

structure FinishFillResult where
  status : OperationStatus := .invalidHandle
  encoding : Result := Result.success
  deriving DecidableEq, Repr

structure PromotionReport where
  framesPromoted : ℕ := 0
  transmitQueueFull : Bool := false
  fairnessDeferred : Bool := false
  invariantError : Bool := false
  deriving DecidableEq, Repr

structure StopReport where
  fillingFramesCanceled : ℕ := 0
  readyFramesToDrain : ℕ := 0
  transmittingFramesToDrain : ℕ := 0
  deriving DecidableEq, Repr

structure SourceCounters where
  wireBytesFramed : ℕ := 0
  wireBytesEmitted : ℕ := 0
  wireBytesTransmitted : ℕ := 0
  encodedBytesTransmitted : ℕ := 0
  wireBytesEvicted : ℕ := 0
  framesProduced : ℕ := 0
  itemsProduced : ℕ := 0
  framesFramed : ℕ := 0
  itemsFramed : ℕ := 0
  framesEmitted : ℕ := 0
  itemsEmitted : ℕ := 0
  framesTransmitted : ℕ := 0
  itemsTransmitted : ℕ := 0
  framesDropped : ℕ := 0
  itemsDropped : ℕ := 0
  framesEvicted : ℕ := 0
  itemsEvicted : ℕ := 0
  framesEvictedAfterPromotion : ℕ := 0
  framesDroppedAfterFraming : ℕ := 0
  framesDroppedAfterPromotion : ℕ := 0
  nextSequence : UInt32 := 0
  readyQueueHighWater : ℕ := 0
  transmitQueueHighWater : ℕ := 0
  deriving DecidableEq, Repr

/-- The counters of `deferred_codec.h`, one set per stream. -/
structure CodecCounters where
  completed : ℕ := 0
  raw : ℕ := 0
  deadlineDrops : ℕ := 0
  resourceDrops : ℕ := 0
  workTicks : ℕ := 0
  maxWorkTicks : UInt32 := 0
  maxAgeTicks : UInt32 := 0
  deriving DecidableEq, Repr

structure BufferRecord where
  state : BufferState := .free
  stream : Stream := .adc
  transmissionStarted : Bool := false
  gapBeforeRequired : Bool := false
  runId : UInt32 := 0
  sequence : UInt32 := 0
  itemCount : ℕ := 0
  lease : UInt32 := 0
  frameSize : ℕ := 0
  deriving DecidableEq, Repr

/-- Ownership, accounting and bytes. -/
structure Core where
  records : ℕ → BufferRecord
  frames : ℕ → PacketFrame
  readyQueues : Stream → List ℕ
  transmitQueue : List ℕ
  sourceCounters : Stream → SourceCounters
  transmitDepthBySource : Stream → ℕ
  gapBeforeNextFrame : Stream → Bool
  runId : UInt32
  setup : RunSetup
  readyQueueRejections : ℕ
  transmitQueueRejections : ℕ

structure Pipeline extends Core where
  acceptingFrames : Bool := false
  enabledStreamMask : UInt8 := 0
  nextLease : UInt32 := 1
  runStarts : ℕ := 0
  runStartRejections : ℕ := 0
  poolExhaustions : ℕ := 0
  invalidOperations : ℕ := 0
  encodingRejections : ℕ := 0
  framesPromoted : ℕ := 0
  fairnessDeferrals : ℕ := 0
  pressureEvictions : ℕ := 0
  capacityDropsWithoutEvictableFrame : ℕ := 0
  nextFreeSearch : ℕ := 0
  nextReadySource : Stream := .adc
  nextEvictionSource : Stream := .adc
  readyQueueHighWater : ℕ := 0
  transmitQueueHighWater : ℕ := 0
  buffersOwnedHighWater : ℕ := 0
  deferredNow : UInt32 := 0
  nextCodecSource : Stream := .adc
  codecCounters : Stream → CodecCounters := fun _ => {}

/-- A pipeline that has not started a run. -/
def Core.initial : Core where
  records := fun _ => {}
  frames := fun _ => PacketFrame.zero
  readyQueues := fun _ => []
  transmitQueue := []
  sourceCounters := fun _ => {}
  transmitDepthBySource := fun _ => 0
  gapBeforeNextFrame := fun _ => false
  runId := 0
  setup := RunSetup.initial
  readyQueueRejections := 0
  transmitQueueRejections := 0

def Pipeline.initial : Pipeline := { Core.initial with }

/-! ### Saturating statistics -/

def sat64 (v a : ℕ) : ℕ := satAdd u64Max v a

def sat32 (v a : ℕ) : ℕ := satAdd u32Max v a

namespace Core

/-! ### Updates of one table entry -/

def setRecord (c : Core) (i : ℕ) (r : BufferRecord) : Core :=
  { c with records := Function.update c.records i r }

def setFrame (c : Core) (i : ℕ) (f : PacketFrame) : Core :=
  { c with frames := Function.update c.frames i f }

def setReady (c : Core) (s : Stream) (q : List ℕ) : Core :=
  { c with readyQueues := Function.update c.readyQueues s q }

def setCounters (c : Core) (s : Stream) (k : SourceCounters) : Core :=
  { c with sourceCounters := Function.update c.sourceCounters s k }

def setDepth (c : Core) (s : Stream) (n : ℕ) : Core :=
  { c with transmitDepthBySource := Function.update c.transmitDepthBySource s n }

def setGapNext (c : Core) (s : Stream) (b : Bool) : Core :=
  { c with gapBeforeNextFrame := Function.update c.gapBeforeNextFrame s b }

def setTransmit (c : Core) (q : List ℕ) : Core := { c with transmitQueue := q }

/-- The layout of the stream a buffer belongs to. -/
def layoutOf (c : Core) (i : ℕ) : FrameLayout := c.setup.stream (c.records i).stream

def readyFrames (c : Core) : ℕ :=
  countTo kPacketBufferCount fun i => (c.records i).state = .ready

def freeBuffers (c : Core) : ℕ :=
  countTo kPacketBufferCount fun i => (c.records i).state = .free

def ownedBuffers (c : Core) : ℕ :=
  countTo kPacketBufferCount fun i => (c.records i).state ≠ .free

def quiescent (c : Core) : Bool :=
  c.ownedBuffers = 0 && c.readyFrames = 0 && c.transmitQueue.isEmpty

end Core

end ThingDaq
