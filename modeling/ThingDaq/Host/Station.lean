import ThingDaq.Host.Models

/-!
# The block queue of the background reader

The other half of `BackgroundReader` (`daq_api/src/thingdone_daq/reader.py`): the
blocks and reports that wait for the consumer, and what is counted about them.  A
`Station` is a `ReaderState` with this half beside it, and a locked section that
touches both is one event of it.

## Main definitions

* `dispatchBlock` — a decoded block: stale, refused, or queued, with the eviction of
  the oldest block and its report.
* `enqueueStreamReport` — reports are coalesced before they take a place.
* `activateRun`, `deactivateStream`, `dispatchResponse` — what empties the queue.
* `getBlock`, `getStreamItem` — the consumer.
-/

namespace ThingDaq.Host

open Reader (ReaderState ProtocolError Response ResponseValue)
open Reader.ReaderState (ReaderEnd WriteResult)

/-! ### The queue -/

/-- The counters kept for each of the two sources. -/
structure SourceCounters where
  framesReceived : ℕ := 0
  itemsReceived : ℕ := 0
  blockQueueDrops : ℕ := 0
  itemQueueDrops : ℕ := 0
  staleBlocksDiscarded : ℕ := 0
  boundaryBlocksDiscarded : ℕ := 0
  deriving DecidableEq, Repr

structure StreamState where
  maxQueuedBlocks : ℕ
  maxStreamReports : ℕ
  /-- The deque `_blocks`, oldest first. -/
  blocks : List DataBlock
  streamReports : List StreamReport
  source : Alignment.FrameKind → SourceCounters
  hostBlockQueueDrops : ℕ
  staleBlocksDiscarded : ℕ
  boundaryBlocksDiscarded : ℕ
  lossReportQueueDrops : ℕ
  blockQueueHighWater : ℕ
  /-- Ghost: the blocks handed to the consumer. -/
  delivered : List DataBlock

namespace StreamState

/-- `__init__` -/
def booted (maxQueuedBlocks maxQueuedEvents : ℕ) : StreamState where
  maxQueuedBlocks := maxQueuedBlocks
  maxStreamReports := max 2 maxQueuedEvents
  blocks := []
  streamReports := []
  source := fun _ => {}
  hostBlockQueueDrops := 0
  staleBlocksDiscarded := 0
  boundaryBlocksDiscarded := 0
  lossReportQueueDrops := 0
  blockQueueHighWater := 0
  delivered := []

/-- Change the counters of one source. -/
def count (s : StreamState) (k : Alignment.FrameKind) (f : SourceCounters → SourceCounters) :
    StreamState :=
  { s with source := Function.update s.source k (f (s.source k)) }

/-- The loop over the reports, newest first: the reports with `report` joined to one
of them, or `none` if it joins none.  An aggregation that is refused raises. -/
def coalesce (report : StreamReport) : List StreamReport → Except Unit (Option (List StreamReport))
  | [] => .ok none
  | existing :: older =>
    let continue_ := (coalesce report older).map (Option.map (existing :: ·))
    match existing, report with
    | .queueLoss l, .queueLoss m =>
      if l.kind = m.kind ∧ l.source = m.source ∧ l.runId = m.runId then
        match l.aggregatedWith m with
        | some joined => .ok (some (.queueLoss joined :: older))
        | none => .error ()
      else continue_
    | .anomaly a, .anomaly b =>
      match a.mergedWith b with
      | some joined => .ok (some (.anomaly joined :: older))
      | none => continue_
    | _, _ => continue_

/-- `_enqueue_stream_report_locked`; `none` if it raises. -/
def enqueueStreamReport (s : StreamState) (report : StreamReport) : Option StreamState :=
  match coalesce report s.streamReports.reverse with
  | .error _ => none
  | .ok (some reports) => some { s with streamReports := reports.reverse }
  | .ok none =>
    if s.maxStreamReports ≤ s.streamReports.length then
      if s.streamReports.any StreamReport.isAnomaly then
        some { s with
          streamReports := s.streamReports.eraseP StreamReport.isAnomaly ++ [report]
          lossReportQueueDrops := s.lossReportQueueDrops + 1 }
      else some { s with lossReportQueueDrops := s.lossReportQueueDrops + 1 }
    else some { s with streamReports := s.streamReports ++ [report] }

/-- `_record_boundary_blocks_locked` -/
def recordBoundaryBlocks (s : StreamState) : StreamState :=
  s.blocks.foldl
    (fun s b => s.count b.kind fun c =>
      { c with boundaryBlocksDiscarded := c.boundaryBlocksDiscarded + 1 })
    { s with boundaryBlocksDiscarded := s.boundaryBlocksDiscarded + s.blocks.length }

/-- What a run boundary does to the queue. -/
def boundary (s : StreamState) : StreamState :=
  { s.recordBoundaryBlocks with blocks := [], streamReports := [] }

/-- Every decoded data frame is counted first. -/
def receive (s : StreamState) (b : DataBlock) : StreamState :=
  s.count b.kind fun c =>
    { c with
      framesReceived := c.framesReceived + 1
      itemsReceived := c.itemsReceived + b.itemCount }

/-- A block that no run waits for. -/
def discardStale (s : StreamState) (b : DataBlock) : StreamState :=
  { s with staleBlocksDiscarded := s.staleBlocksDiscarded + 1 }.count b.kind fun c =>
    { c with staleBlocksDiscarded := c.staleBlocksDiscarded + 1 }

/-- The counters of an evicted block. -/
def countDrop (s : StreamState) (dropped : DataBlock) : StreamState :=
  { s with hostBlockQueueDrops := s.hostBlockQueueDrops + 1 }.count dropped.kind fun c =>
    { c with
      blockQueueDrops := c.blockQueueDrops + 1
      itemQueueDrops := c.itemQueueDrops + dropped.itemCount }

def append (s : StreamState) (b : DataBlock) : StreamState :=
  { s with
    blocks := s.blocks ++ [b]
    blockQueueHighWater := max s.blockQueueHighWater (s.blocks.length + 1) }

/-- The eviction of the oldest block.  It has left the queue when its report is
refused; then nothing was counted and the second component is `false`. -/
def evict (s : StreamState) : StreamState × Bool :=
  match s.blocks with
  | [] => (s, true)
  | dropped :: rest =>
    let s := { s with blocks := rest }
    match HostQueueLoss.fromBlock dropped with
    | none => (s, false)
    | some loss =>
      match s.enqueueStreamReport (.queueLoss loss) with
      | none => (s, false)
      | some s => (s.countDrop dropped, true)

/-- The oldest block goes to the consumer. -/
def deliver (s : StreamState) : StreamState × Option DataBlock :=
  match s.blocks with
  | [] => (s, none)
  | b :: rest => ({ s with blocks := rest, delivered := s.delivered ++ [b] }, some b)

end StreamState

/-! ### Both halves -/

structure Station where
  reader : ReaderState
  stream : StreamState
  activeConfiguration : Option DAQConfiguration
  activeV3Settings : Option V3Settings

/-- The value of a response, with what a START has in it. -/
inductive AppliedValue
  | none
  | v3AppliedSettings (settings : V3Settings)
  | configuration (configuration : DAQConfiguration)
  | other

def AppliedValue.value : AppliedValue → ResponseValue
  | .none => .none
  | .v3AppliedSettings _ => .v3AppliedSettings
  | .configuration c => .configuration c.dataChecksumAlgorithm
  | .other => .other

namespace Station

def booted (maxPendingRequests seed maxQueuedBlocks maxQueuedEvents : ℕ) : Station where
  reader := Reader.booted maxPendingRequests seed
  stream := StreamState.booted maxQueuedBlocks maxQueuedEvents
  activeConfiguration := none
  activeV3Settings := none

/-- The reader thread leaves its `try` with an error. -/
def raise (s : Station) (error : ProtocolError) : Station :=
  { s with reader := { s.reader with raised := some error } }

/-! ### Runs -/

/-- `_activate_run_locked` -/
def activateRun (s : Station) (runId : ℕ) (algorithm : ChecksumAlgorithm)
    (configuration : Option DAQConfiguration) : Station :=
  match s.reader.activateRun runId algorithm with
  | (_, some _) => s
  | (reader, none) =>
    { s with
      reader := reader
      stream := s.stream.boundary
      activeConfiguration := configuration }

/-- `_deactivate_stream_locked` -/
def deactivateStream (s : Station) : Station :=
  { s with reader := s.reader.deactivateStream, stream := s.stream.boundary }

/-! ### Responses -/

/-- What a response does to the run. -/
inductive RunEffect
  | keep
  | activate (algorithm : ChecksumAlgorithm) (configuration : Option DAQConfiguration)
      (settings : Option V3Settings)
  | deactivate

/-- The branches of `_dispatch_response` that touch the queue. -/
def runEffect (s : ReaderState) (r : Response) (value : AppliedValue) : RunEffect :=
  match Reader.get s.pending r.requestId with
  | none =>
    if r.ok && r.kind = .stopResponse && r.runId = s.activeRunId &&
        some r.wireVersion = s.selectedWireVersion then .deactivate
    else .keep
  | some t =>
    let p := s.request t
    if ReaderState.rejection p r then .keep
    else if r.wireVersion ≠ p.protocolVersion then .keep
    else if r.kind ≠ p.expectedKind ∧ r.kind ≠ .errorResponse then .keep
    else if r.ok && r.kind = .startResponse then
      match value with
      | .v3AppliedSettings settings => .activate .adler32 none (some settings)
      | .configuration c => .activate c.dataChecksumAlgorithm (some c) none
      | _ => .keep
    else if r.ok && r.kind = .stopResponse then .deactivate
    else .keep

/-- `_dispatch_response`: `ReaderState.dispatchResponse` for the request, `runEffect`
for the queue. -/
def dispatchResponse (s : Station) (r : Response) (value : AppliedValue) : Station :=
  let r := { r with value := value.value }
  let s' := { s with reader := s.reader.dispatchResponse r }
  match runEffect s.reader r value with
  | .keep => s'
  | .deactivate => { s' with stream := s.stream.boundary }
  | .activate algorithm configuration settings =>
    let s' := { s' with activeV3Settings := settings }
    match (s.reader.activateRun r.runId algorithm).2 with
    | some _ => s'
    | none => { s' with stream := s.stream.boundary, activeConfiguration := configuration }

/-! ### Blocks -/

/-- `_dispatch_block` -/
def dispatchBlock (s : Station) (b : DataBlock) : Station :=
  let stream := s.stream.receive b
  if s.reader.streamActive = false ∨ b.runId ≠ s.reader.activeRunId then
    let stream := stream.discardStale b
    if s.reader.streamActive then
      match StaleRun.ofBlock b s.reader.activeRunId with
      | none => { s with stream := stream }.raise .frameViolatedProtocol
      | some stale =>
        match stream.enqueueStreamReport (.anomaly stale) with
        | none => { s with stream := stream }.raise .frameViolatedProtocol
        | some stream => { s with stream := stream }
    else { s with stream := stream }
  else if b.checksumAlgorithm ≠ s.reader.activeChecksumAlgorithm then
    { s with stream := stream }.raise
      (.dataChecksumDiffers b.runId b.checksumAlgorithm s.reader.activeChecksumAlgorithm)
  else if stream.maxQueuedBlocks ≤ stream.blocks.length then
    match stream.evict with
    | (stream, false) => { s with stream := stream }.raise .frameViolatedProtocol
    | (stream, true) => { s with stream := stream.append b }
  else { s with stream := stream.append b }

/-- A v3 data frame that arrives before any settings. -/
def skipV3Frame (s : Station) : Station :=
  { s with stream := { s.stream with
      staleBlocksDiscarded := s.stream.staleBlocksDiscarded + 1 } }

/-! ### The consumer -/

/-- A consumer at the top of its call, or woken from its wait: a wait that ends with
a block in the queue only looks whether the reader was closed. -/
def consumerMayTake (s : Station) (waited : Bool) : Bool :=
  if waited then !s.reader.closed else s.reader.requireLive

/-- `get_block`; with an empty queue it waits or raises, and changes nothing. -/
def getBlock (s : Station) (waited : Bool) : Station :=
  if s.consumerMayTake waited then { s with stream := s.stream.deliver.1 } else s

/-- `get_stream_item`: reports go first. -/
def getStreamItem (s : Station) (waited : Bool) : Station :=
  if s.consumerMayTake waited then
    match s.stream.streamReports with
    | _ :: reports => { s with stream := { s.stream with streamReports := reports } }
    | [] => { s with stream := s.stream.deliver.1 }
  else s

/-- The locked section of `close`. -/
def close (s : Station) : Station :=
  if s.reader.closed then s
  else
    { s with
      reader := s.reader.close
      stream := { s.stream with blocks := [], streamReports := [] } }

/-! ### Events -/

inductive Event
  | start (isOpen : Bool)
  | request (kind : FrameKind) (version : ℕ) (negotiating encodable : Bool)
  | proceed (t : ℕ) (write : WriteResult) (deadline : Bool)
  | expire (late : ℕ → Bool)
  | readerEnds (cause : ReaderEnd)
  | response (r : Response) (value : AppliedValue)
  | block (b : DataBlock)
  | v3FrameWithoutSettings
  | refuseFrame (error : ProtocolError)
  | activateRun (runId : ℕ) (algorithm : ChecksumAlgorithm)
      (configuration : Option DAQConfiguration) (version : Option ℕ)
  | activateV3Run (runId : ℕ) (settings : V3Settings)
  | deactivateStream
  | getBlock (waited : Bool)
  | getStreamItem (waited : Bool)
  | close

/-- `activate_run`; what it raises goes to its caller. -/
def activateKnownRun (s : Station) (runId : ℕ) (algorithm : ChecksumAlgorithm)
    (configuration : Option DAQConfiguration) (version : Option ℕ) : Station :=
  if runId = 0 ∨ 2 ^ 32 ≤ runId ∨ ReaderState.supportedChecksum algorithm = false then s
  else if s.reader.requireLive = false then s
  else
    let selected := version.getD ((configuration.map DAQConfiguration.protocolVersion).getD 1)
    if selected ≠ 1 ∧ selected ≠ 2 then s
    else
      { s with
        reader := { s.reader with selectedWireVersion := some selected }
        activeV3Settings := none }.activateRun runId algorithm configuration

/-- `activate_v3_run` -/
def activateV3Run (s : Station) (runId : ℕ) (settings : V3Settings) : Station :=
  if s.reader.requireLive = false then s
  else
    { s with
      reader := { s.reader with selectedWireVersion := some 3 }
      activeV3Settings := some settings }.activateRun runId .adler32 none

/-- The reader thread has ended, or is about to. -/
def ending (s : Station) : Bool := s.reader.raised.isSome

def step (s : Station) : Event → Station
  | .start isOpen => { s with reader := s.reader.step (.start isOpen) }
  | .request kind version negotiating encodable =>
    { s with reader := s.reader.step (.request kind version negotiating encodable) }
  | .proceed t write deadline => { s with reader := s.reader.step (.proceed t write deadline) }
  | .expire late => { s with reader := s.reader.step (.expire late) }
  | .readerEnds cause => { s with reader := s.reader.step (.readerEnds cause) }
  -- What the reader thread dispatches comes before it raises.
  | .response r value => if s.ending then s else s.dispatchResponse r value
  | .block b => if s.ending then s else s.dispatchBlock b
  | .v3FrameWithoutSettings => if s.ending then s else s.skipV3Frame
  | .refuseFrame error => if s.ending then s else s.raise error
  | .activateRun runId algorithm configuration version =>
    s.activateKnownRun runId algorithm configuration version
  | .activateV3Run runId settings => s.activateV3Run runId settings
  | .deactivateStream => if s.reader.requireLive then s.deactivateStream else s
  | .getBlock waited => s.getBlock waited
  | .getStreamItem waited => s.getStreamItem waited
  | .close => s.close

def run (s : Station) (es : List Event) : Station := es.foldl step s

end Station

end ThingDaq.Host
