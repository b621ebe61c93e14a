import ThingDaq.Pipeline.Operations
import Mathlib.Logic.Relation

/-!
# Moves of the packet pipeline

Every public operation is a sequence of a few elementary moves: a buffer is
opened, sealed, published, promoted, started, released or dropped, sequences are
lost, unowned pages are scribbled on.  `Move` lists them with everything they
need and do, and each invariant of the pipeline is proved once per move.

A `World` is the core of the pipeline with history variables: how many frames
each stream produced, which of them each buffer holds, what its producer put in
it, and what the transport released.

## Main definitions

* `Rules` — which obligations the callers keep.
* `Move` — the elementary moves under given rules.
* `Moves` — finitely many of them.
-/

namespace ThingDaq

open Wire Table

/-- What a producer finished: its samples, the first timestamp, and the stream,
sequence and run its handle was for. -/
structure Origin where
  payload : Bytes := []
  firstSampleTicks : UInt64 := 0
  stream : Stream := .adc
  sequence : UInt32 := 0
  runId : UInt32 := 0
  deriving DecidableEq

/-- One released frame: its production number, its wire sequence and its flags. -/
structure Released where
  number : ℕ
  sequence : UInt32
  flags : UInt16
  deriving DecidableEq

/-- History variables of one run. -/
structure History where
  /-- frames of the stream produced so far, lost ones included -/
  produced : Stream → ℕ := fun _ => 0
  /-- the production number of the frame a buffer holds -/
  number : ℕ → ℕ := fun _ => 0
  /-- the producer lost the last sequence of the stream itself -/
  lost : Stream → Bool := fun _ => false
  /-- the frame of the buffer was the first after sequences its producer lost -/
  afterLoss : ℕ → Bool := fun _ => false
  origin : ℕ → Origin := fun _ => {}
  /-- the number after the last released frame of the stream -/
  expected : Stream → ℕ := fun _ => 0
  /-- newest first -/
  released : Stream → List Released := fun _ => []

structure World where
  core : Core
  history : History

/-- The obligations of the callers: `oneOpen`, a producer has at most one open
fill per stream; `transport`, a frame is started only when it was prepared and
released only when it was started, producers request gap bits only after losing
sequences, and no frame is opened 2³¹ or more sequences behind the last released
one; `ticks`, the timestamps of a finished version 3 frame do not wrap. -/
structure Rules where
  oneOpen : Bool
  transport : Bool
  ticks : Bool
  deriving DecidableEq

/-! ### Pages -/

/-- The flags field of a page. -/
def flagsOf (f : PacketFrame) : UInt16 := UInt16.ofNat (leValue (slice f.bytes 6 2))

/-- The encodings a run may use. -/
def Encoding.permitted (l : RunLayout) : Encoding → Prop
  | .raw => True
  | .adcPack12 => l.adcPolicy = .pack12
  | .gpioRle => l.gpioPolicy = .rleAuto

/-- The first `size` bytes of a version 3 page are the wire form of `d`, a frame
of the given stream made from `o`. -/
structure Content (setup : RunSetup) (stream : Stream) (sequence runId : UInt32) (size : ℕ)
    (f : PacketFrame) (o : Origin) (d : V3Data) : Prop where
  wellFormed : d.WellFormed
  bytes : f.bytes.take size = d.wire
  size_eq : size = d.wire.length
  kind : d.kind = stream.frameKind
  width : d.itemBytes = (setup.stream stream).itemBytes
  count : d.itemCount = (setup.stream stream).itemCount
  sequence_eq : d.sequence = sequence
  runId_eq : d.runId = runId
  origin_stream : o.stream = stream
  origin_sequence : o.sequence = sequence
  origin_runId : o.runId = runId
  ticks : d.firstSampleTicks = o.firstSampleTicks
  payload : d.payload = o.payload
  encoding : d.encoding.permitted setup.layout

/-- A complete page.  Until its codec ran it is raw. -/
def Framed (setup : RunSetup) (r : BufferRecord) (f : PacketFrame) (o : Origin) : Prop :=
  if setup.layout.isV3 then
    ∃ d, Content setup r.stream r.sequence r.runId r.frameSize f o d ∧
      (r.state = .filling → d.encoding = .raw)
  else r.frameSize = (setup.stream r.stream).frameBytes

/-- The timestamps of a produced frame do not wrap. -/
def Origin.TicksFit (o : Origin) (itemCount : ℕ) : Prop :=
  o.firstSampleTicks.toNat ≤ 2 ^ 64 - 1 - itemCount * 8

namespace Core

variable (c : Core)

/-! ### The core part of each move -/

/-- Mark the successor of a dropped record, or the next frame of its stream. -/
def propagate (dropped : BufferRecord) : Core :=
  match c.findSuccessor dropped with
  | some (j, _) => c.setRecord j { c.records j with gapBeforeRequired := true }
  | none => c.setGapNext dropped.stream true

/-- The counters of a stream after one of its buffers is dropped. -/
def droppedCounters (k : SourceCounters) (r : BufferRecord) (evict : Bool) : SourceCounters :=
  let k := if r.state = .ready || r.state = .transmitting then
    { k with framesDroppedAfterFraming := sat64 k.framesDroppedAfterFraming 1 } else k
  let k := if r.state = .transmitting then
    { k with framesDroppedAfterPromotion := sat64 k.framesDroppedAfterPromotion 1 } else k
  if evict then
    { k with wireBytesEvicted := sat64 k.wireBytesEvicted r.frameSize
             framesEvicted := sat64 k.framesEvicted 1
             itemsEvicted := sat64 k.itemsEvicted r.itemCount } else k

/-- One more lost frame of a stream. -/
def countLoss (s : Stream) (items : ℕ) : Core :=
  c.setCounters s { c.sourceCounters s with
    framesDropped := sat64 (c.sourceCounters s).framesDropped 1
    itemsDropped := sat64 (c.sourceCounters s).itemsDropped items }

/-- A buffer already taken out of its queue is dropped. -/
def drop (i : ℕ) (evict : Bool) : Core :=
  let r := c.records i
  let k := droppedCounters (c.sourceCounters r.stream) r evict
  (((c.setCounters r.stream k).propagate r).countLoss r.stream r.itemCount).setRecord i {}

/-- A codec rewrites a page. -/
def rework (i : ℕ) (f : PacketFrame) (size : ℕ) : Core :=
  (c.setFrame i f).setRecord i { c.records i with frameSize := size }

def openFill (s : Stream) (i : ℕ) (lease : UInt32) : Core :=
  let k := c.sourceCounters s
  let layout := c.setup.stream s
  ((c.setCounters s { k with
      nextSequence := k.nextSequence + 1
      framesProduced := sat64 k.framesProduced 1
      itemsProduced := sat64 k.itemsProduced layout.itemCount }).setRecord i
    { c.records i with
      state := .filling
      stream := s
      gapBeforeRequired := c.gapBeforeNextFrame s
      runId := c.runId
      sequence := k.nextSequence
      itemCount := layout.itemCount
      lease := lease
      frameSize := 0 }).setGapNext s false

def lose (s : Stream) (n : ℕ) : Core :=
  let k := c.sourceCounters s
  let items := satMul u64Max n (c.setup.stream s).itemCount
  (c.setCounters s { k with
    framesProduced := sat64 k.framesProduced n
    itemsProduced := sat64 k.itemsProduced items
    framesDropped := sat64 k.framesDropped n
    itemsDropped := sat64 k.itemsDropped items
    nextSequence := k.nextSequence + UInt32.ofNat n }).setGapNext s true

/-- A filled page is complete and takes its place in the source FIFO. -/
def complete (i : ℕ) (f : PacketFrame) (size : ℕ) (lease : UInt32) : Core :=
  let r := c.records i
  ((c.setFrame i f).setRecord i
    { r with gapBeforeRequired := false, frameSize := size, lease := lease }).setReady r.stream
      (c.readyQueues r.stream ++ [i])

def publish (i : ℕ) : Core :=
  let r := c.records i
  let k := c.sourceCounters r.stream
  (c.setRecord i { r with state := .ready }).setCounters r.stream { k with
    wireBytesFramed := sat64 k.wireBytesFramed r.frameSize
    framesFramed := sat64 k.framesFramed 1
    itemsFramed := sat64 k.itemsFramed r.itemCount
    readyQueueHighWater := max k.readyQueueHighWater (c.readyQueues r.stream).length }

def promote (s : Stream) (i : ℕ) (rest : List ℕ) : Core :=
  let r := c.records i
  let k := c.sourceCounters s
  let depth := c.transmitDepthBySource s + 1
  ((((c.setReady s rest).setTransmit (c.transmitQueue ++ [i])).setRecord i
    { r with state := .transmitting }).setDepth s depth).setCounters s { k with
      wireBytesEmitted := sat64 k.wireBytesEmitted r.frameSize
      framesEmitted := sat64 k.framesEmitted 1
      itemsEmitted := sat64 k.itemsEmitted r.itemCount
      transmitQueueHighWater := max k.transmitQueueHighWater depth }

/-- A late gap mark moves into the page. -/
def flush (i : ℕ) (f : PacketFrame) : Core :=
  (c.setFrame i f).setRecord i { c.records i with gapBeforeRequired := false }

/-- A frame leaves the transmit queue. -/
def unqueue (i : ℕ) : Core :=
  let s := (c.records i).stream
  (c.setTransmit (c.transmitQueue.erase i)).setDepth s (c.transmitDepthBySource s - 1)

def countEvictedAfterPromotion (s : Stream) : Core :=
  c.setCounters s { c.sourceCounters s with
    framesEvictedAfterPromotion := sat64 (c.sourceCounters s).framesEvictedAfterPromotion 1 }

def start (i : ℕ) : Core := c.setRecord i { c.records i with transmissionStarted := true }

def release (i : ℕ) : Core :=
  let r := c.records i
  let k := c.sourceCounters r.stream
  ((c.unqueue i).setCounters r.stream { k with
    wireBytesTransmitted := sat64 k.wireBytesTransmitted r.frameSize
    encodedBytesTransmitted := sat64 k.encodedBytesTransmitted
      (r.frameSize - kHeaderSize - kTrailerSize - c.setup.layout.prefixBytes)
    framesTransmitted := sat64 k.framesTransmitted 1
    itemsTransmitted := sat64 k.itemsTransmitted r.itemCount }).setRecord i {}

end Core

namespace History

variable (g : History)

def openFill (s : Stream) (i : ℕ) : History :=
  { g with
    produced := Function.update g.produced s (g.produced s + 1)
    number := Function.update g.number i (g.produced s)
    afterLoss := Function.update g.afterLoss i (g.lost s)
    lost := Function.update g.lost s false }

def lose (s : Stream) (n : ℕ) (atSource : Bool) : History :=
  { g with
    produced := Function.update g.produced s (g.produced s + n)
    lost := Function.update g.lost s atSource }

def complete (i : ℕ) (o : Origin) : History :=
  { g with origin := Function.update g.origin i o }

def release (s : Stream) (i : ℕ) (sequence : UInt32) (flags : UInt16) : History :=
  { g with
    expected := Function.update g.expected s (g.number i + 1)
    released := Function.update g.released s
      ({ number := g.number i, sequence := sequence, flags := flags } :: g.released s) }

end History

/-- No buffer of the stream is open for its producer. -/
def Core.NoOpen (c : Core) (s : Stream) : Prop :=
  ∀ j, ¬((c.records j).state = .filling ∧ (c.records j).frameSize = 0 ∧ (c.records j).stream = s)

/-- The elementary moves. -/
inductive Move (R : Rules) : World → World → Prop
  | openFill {c : Core} {g : History} {s : Stream} {i : ℕ} {l : UInt32} (hi : i < 200)
      (hfree : (c.records i).state = .free) (hone : R.oneOpen = true → c.NoOpen s)
      (hnear : R.transport = true → g.produced s < g.expected s + 2 ^ 31) :
      Move R ⟨c, g⟩ ⟨c.openFill s i l, g.openFill s i⟩
  | lose {c : Core} {g : History} {s : Stream} {n : ℕ} {atSource : Bool} (hn : 0 < n) :
      Move R ⟨c, g⟩ ⟨c.lose s n, g.lose s n atSource⟩
  | scribble {c : Core} {g : History} {i : ℕ} {f : PacketFrame}
      (hsize : (c.records i).frameSize = 0) : Move R ⟨c, g⟩ ⟨c.setFrame i f, g⟩
  | complete {c : Core} {g : History} {i : ℕ} {f : PacketFrame} {n : ℕ} {l : UInt32}
      {o : Origin} {requested : UInt16} (hi : i < 200) (hstate : (c.records i).state = .filling)
      (hopen : (c.records i).frameSize = 0) (hsize : n ≠ 0)
      (hframed : Framed c.setup { c.records i with frameSize := n } f o)
      (hflags : flagsOf f = if (c.records i).gapBeforeRequired then
        requested ||| flagGapBefore ||| flagOverrunBefore else requested)
      (hhonest : R.transport = true →
        requested &&& (flagGapBefore ||| flagOverrunBefore) ≠ 0 → g.afterLoss i = true)
      (hfit : R.ticks = true → c.setup.layout.isV3 = true →
        o.TicksFit (c.setup.stream (c.records i).stream).itemCount)
      (hwait : c.deferred (c.records i).stream = true) :
      Move R ⟨c, g⟩ ⟨c.complete i f n l, g.complete i o⟩
  | finish {c : Core} {g : History} {i : ℕ} {f : PacketFrame} {n : ℕ} {l : UInt32}
      {o : Origin} {requested : UInt16} (hi : i < 200) (hstate : (c.records i).state = .filling)
      (hopen : (c.records i).frameSize = 0) (hsize : n ≠ 0)
      (hframed : Framed c.setup { c.records i with frameSize := n } f o)
      (hflags : flagsOf f = if (c.records i).gapBeforeRequired then
        requested ||| flagGapBefore ||| flagOverrunBefore else requested)
      (hhonest : R.transport = true →
        requested &&& (flagGapBefore ||| flagOverrunBefore) ≠ 0 → g.afterLoss i = true)
      (hfit : R.ticks = true → c.setup.layout.isV3 = true →
        o.TicksFit (c.setup.stream (c.records i).stream).itemCount) :
      Move R ⟨c, g⟩ ⟨(c.complete i f n l).publish i, g.complete i o⟩
  | publish {c : Core} {g : History} {i : ℕ} {f : PacketFrame} {n : ℕ} (hi : i < 200)
      (hstate : (c.records i).state = .filling) (hdone : (c.records i).frameSize ≠ 0)
      (hsize : n ≠ 0)
      (hframed : Framed c.setup { c.records i with state := .ready, frameSize := n } f (g.origin i))
      (hflags : flagsOf f = flagsOf (c.frames i)) :
      Move R ⟨c, g⟩ ⟨(c.rework i f n).publish i, g⟩
  | flush {c : Core} {g : History} {i : ℕ} {f : PacketFrame} (hi : i < 200)
      (hstate : (c.records i).state = .ready ∨ (c.records i).state = .transmitting)
      (hstarted : (c.records i).transmissionStarted = false)
      (hgap : (c.records i).gapBeforeRequired = true)
      (hframed : Framed c.setup (c.records i) f (g.origin i))
      (hflags : flagsOf f = flagsOf (c.frames i) ||| (flagGapBefore ||| flagOverrunBefore)) :
      Move R ⟨c, g⟩ ⟨c.flush i f, g⟩
  | promote {c : Core} {g : History} {s : Stream} {i : ℕ} {q : List ℕ}
      (hqueue : c.readyQueues s = i :: q) (hstate : (c.records i).state = .ready)
      (hgap : (c.records i).gapBeforeRequired = false)
      (hfit : c.setup.layout.isV3 = true →
        (g.origin i).TicksFit (c.setup.stream s).itemCount) :
      Move R ⟨c, g⟩ ⟨c.promote s i q, g⟩
  | dropOpen {c : Core} {g : History} {i : ℕ} (hi : i < 200)
      (hstate : (c.records i).state = .filling) (hopen : (c.records i).frameSize = 0) :
      Move R ⟨c, g⟩ ⟨c.drop i false, g⟩
  | dropQueued {c : Core} {g : History} {s : Stream} {i : ℕ} {f : PacketFrame} {n : ℕ}
      {e : Bool} (hqueue : i ∈ c.readyQueues s) :
      Move R ⟨c, g⟩
        ⟨((c.rework i f n).setReady s ((c.readyQueues s).erase i)).drop i e, g⟩
  | evictPromoted {c : Core} {g : History} {i : ℕ} (hqueue : i ∈ c.transmitQueue)
      (hstarted : (c.records i).transmissionStarted = false) :
      Move R ⟨c, g⟩ ⟨((c.unqueue i).countEvictedAfterPromotion (c.records i).stream).drop i true, g⟩
  | start {c : Core} {g : History} {i : ℕ} {q : List ℕ} (hqueue : c.transmitQueue = i :: q)
      (hgap : R.transport = true → (c.records i).gapBeforeRequired = false) :
      Move R ⟨c, g⟩ ⟨c.start i, g⟩
  | abort {c : Core} {g : History} {i : ℕ} {q : List ℕ} (hqueue : c.transmitQueue = i :: q)
      (hstarted : (c.records i).transmissionStarted = true) :
      Move R ⟨c, g⟩ ⟨(c.unqueue i).drop i false, g⟩
  | release {c : Core} {g : History} {i : ℕ} {q : List ℕ} (hqueue : c.transmitQueue = i :: q)
      (hstarted : R.transport = true → (c.records i).transmissionStarted = true) :
      Move R ⟨c, g⟩ ⟨c.release i,
        g.release (c.records i).stream i (c.records i).sequence (flagsOf (c.frames i))⟩

/-- Finitely many moves. -/
abbrev Moves (R : Rules) : World → World → Prop := Relation.ReflTransGen (Move R)

end ThingDaq
