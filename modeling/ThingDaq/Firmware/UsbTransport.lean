import ThingDaq.Firmware.CommandParser
import ThingDaq.Lib.Counting
import ThingDaq.Lib.Loop
import ThingDaq.Protocol.V3Data

/-!
# The CDC transport

`CdcTransport` of `firmware/src/usb_transport.cpp`: it reads commands from a byte stream and
writes responses and data frames to it, a bounded amount in each visit.  The stream is the
outside world of `Calls`: it may answer every call with any count, read or write less than
it was asked to, or more, fail, and open or close the session between any two calls.

A `ByteView` is its bytes: the frame in front of a source does not change until it is
released.  The two queues are lists; `FixedQueue` refines them.

## Main definitions

* `CdcTransport`, `Link` — the members, with the frame source and the statistics.
* `serviceReceive`, `serviceTransmit` — a visit in each direction.
* `takeCommand`, `queueResponse`, `abandonResponseReservation` — the side of the runtime.
-/

namespace ThingDaq.Usb

open Wire Control Commands Calls
open Prog (Turn)

abbrev kUsbRxScratchBytes : ℕ := 128
abbrev kCommandQueueDepth : ℕ := 4
abbrev kResponseQueueDepth : ℕ := 4
abbrev kUsbRxBudgetBytesPerLoop : ℕ := 1024
abbrev kUsbTxBudgetBytesPerVisit : ℕ := 8192
abbrev kUsbTxMaxWriteBytes : ℕ := 1024
abbrev kUsbTxMinimumWriteBytes : ℕ := 512
abbrev kUsbRxCallsPerLoop : ℕ := 8
abbrev kUsbTxCallsPerVisit : ℕ := 8

/-! ### The stream -/

abbrev IoCount := Int32

def kWriteWouldBlock : IoCount := -2

/-- The calls of `CdcByteStream`. -/
inductive StreamOp
  | sessionOpen
  | available
  | read (capacity : ℕ)
  | availableForWrite
  | write (source : Bytes)

/-- What `read` returns, and its destination afterwards. -/
structure ReadReply (capacity : ℕ) where
  count : IoCount
  destination : Bytes
  size_eq : destination.length = capacity

def StreamOp.Reply : StreamOp → Type
  | sessionOpen => Bool
  | available => IoCount
  | read capacity => ReadReply capacity
  | availableForWrite => IoCount
  | write _ => IoCount

def cdcByteStream : Interface := ⟨StreamOp, StreamOp.Reply⟩

/-! ### Frames of lower priority -/

/-- A source with states `σ`. -/
structure LowerPriorityFrameSource (σ : Type) where
  frontFrame : σ → Bytes
  prepareFrontFrame : σ → σ × Bool
  markFrontFrameStarted : σ → σ
  abortFrontFrame : σ → σ × Bool
  releaseFrontFrame : σ → σ
  queuedFrames : σ → ℕ

/-- `input_experiment`: the codecs of the older research builds. -/
structure InputExperiment where
  gpioRle : Bool := false
  packAdc : Bool := false

def kGpioRleVersion : UInt8 := 0x82
def kAdcPackedVersion : UInt8 := 0x83

/-- The total length, the payload length and the item count of a frame. -/
def hasSizes (b : Bytes) (total payload items : ℕ) : Bool :=
  loadU32 b 12 = some (UInt32.ofNat total) && loadU32 b 16 = some (UInt32.ofNat payload) &&
    loadU32 b 40 = some (UInt32.ofNat items)

def validDataView (experiment : InputExperiment) (b : Bytes) : Bool :=
  let fixedSize : Bool := b.length = 4096 || b.length = 2072
  if b.length ≤ 4 then false
  else if byteAt b 4 = V3.kProtocolVersion then validV3DataView b
  else if !experiment.gpioRle then fixedSize
  else if experiment.packAdc && b.length = 3084 && byteAt b 4 = kAdcPackedVersion &&
      byteAt b 5 = FrameKind.adcData then hasSizes b 3084 3036 1012
  else if byteAt b 4 ≠ kGpioRleVersion then fixedSize
  else if b.length < 52 || 4096 ≤ b.length || (b.length - 48) % 4 ≠ 0 ||
      byteAt b 5 ≠ FrameKind.gpioData then false
  else hasSizes b b.length (b.length - 48) 2024

def responseKinds : List FrameKind :=
  [FrameKind.getCapabilitiesResponse, FrameKind.getSettingsResponse, FrameKind.temperatureResponse,
    FrameKind.runtimeHealthResponse, FrameKind.infoResponse, FrameKind.configureResponse,
    FrameKind.startResponse, FrameKind.getStatusResponse, FrameKind.stopResponse,
    FrameKind.resetStatsResponse, FrameKind.pingResponse, FrameKind.checksumBenchmarkResponse,
    FrameKind.gpioClockDiagnosticResponse, FrameKind.gpioCaptureDiagnosticResponse,
    FrameKind.errorResponse]

def responseKind (kind : FrameKind) : Bool := responseKinds.contains kind

/-! ### State -/

/-- What a visit did. -/
structure ServiceReport where
  bytesRead : ℕ := 0
  bytesProcessed : ℕ := 0
  bytesWritten : ℕ := 0
  ioCalls : ℕ := 0
  commandsQueued : ℕ := 0
  framesCompleted : ℕ := 0
  stalled : Bool := false
  byteBudgetExhausted : Bool := false
  callBudgetExhausted : Bool := false
  deriving DecidableEq, Repr

structure TransportSnapshot where
  rxBytes : ℕ := 0
  rxBytesProcessed : ℕ := 0
  txBytes : ℕ := 0
  txBytesRequested : ℕ := 0
  rxAvailableCalls : ℕ := 0
  rxReadCalls : ℕ := 0
  txAvailableCalls : ℕ := 0
  txWriteCalls : ℕ := 0
  commandsQueued : ℕ := 0
  rejectedCommandsQueued : ℕ := 0
  commandsDequeued : ℕ := 0
  responsesQueued : ℕ := 0
  responsesCompleted : ℕ := 0
  lowerPriorityFramesCompleted : ℕ := 0
  responseQueueRejections : ℕ := 0
  responseReservationsAbandoned : ℕ := 0
  partialWriteEvents : ℕ := 0
  shortCapacityDeferrals : ℕ := 0
  zeroLengthReadEvents : ℕ := 0
  zeroLengthWriteEvents : ℕ := 0
  rxStallEvents : ℕ := 0
  txStallEvents : ℕ := 0
  consecutiveRxStalls : ℕ := 0
  consecutiveTxStalls : ℕ := 0
  maxConsecutiveRxStalls : ℕ := 0
  maxConsecutiveTxStalls : ℕ := 0
  rxByteBudgetExhaustions : ℕ := 0
  rxCallBudgetExhaustions : ℕ := 0
  txByteBudgetExhaustions : ℕ := 0
  txCallBudgetExhaustions : ℕ := 0
  ioErrors : ℕ := 0
  sessionOpenEvents : ℕ := 0
  sessionCloseEvents : ℕ := 0
  sessionCommandsAbandoned : ℕ := 0
  sessionResponsesAbandoned : ℕ := 0
  commandQueueDepth : ℕ := 0
  responseQueueDepth : ℕ := 0
  lowerPriorityQueueDepth : ℕ := 0
  commandQueueHighWater : ℕ := 0
  responseQueueHighWater : ℕ := 0
  pendingRxBytes : ℕ := 0
  activeFrameBytesSent : ℕ := 0
  activeFrameSize : ℕ := 0
  maxWriteRequestBytes : ℕ := 0
  activeFrameIsResponse : Bool := false
  commandAwaitingResponse : Bool := false
  sessionOpen : Bool := true
  parser : ParserCounters := {}
  deriving DecidableEq, Repr

inductive ActiveFrame
  | none
  | response
  | lowerPriority
  deriving DecidableEq, Repr

structure FrameSelection where
  kind : ActiveFrame := .none
  bytes : Bytes := []
  deriving DecidableEq, Repr

structure CdcTransport (ρ : Type) where
  parser : IncrementalCommandParser := {}
  commandQueue : List (ParsedCommand ρ) := []
  responseQueue : List Bytes := []
  rxScratch : Bytes := List.replicate kUsbRxScratchBytes 0
  rxPendingOffset : ℕ := 0
  rxPendingSize : ℕ := 0
  activeFrame : ActiveFrame := .none
  activeLowerPriorityFrame : Bytes := []
  txOffset : ℕ := 0
  commandQueueHighWater : ℕ := 0
  responseQueueHighWater : ℕ := 0
  commandAwaitingResponse : Bool := false
  sessionStateInitialized : Bool := false
  sessionOpen : Bool := true
  sessionStartedPending : Bool := false
  publishedParserCounters : ParserCounters := {}
  counters : TransportSnapshot := {}

/-- The members of `stats::Statistics` that the transport writes. -/
structure TransportStatistics where
  commandsRejected : ℕ := 0
  parserErrors : ℕ := 0
  badChecksums : ℕ := 0
  badLengths : ℕ := 0
  badTypes : ℕ := 0
  badVersions : ℕ := 0
  badFlags : ℕ := 0
  badPayloads : ℕ := 0
  badRequestIds : ℕ := 0
  timeouts : ℕ := 0
  transportErrors : ℕ := 0
  partialUsbWrites : ℕ := 0
  deriving DecidableEq, Repr

/-- The saturating additions to counters of 32 and 64 bits. -/
def addU32 (v amount : ℕ) : ℕ := Table.satAdd (2 ^ 32 - 1) v amount
def addU64 (v amount : ℕ) : ℕ := Table.satAdd (2 ^ 64 - 1) v amount

namespace TransportStatistics

variable (s : TransportStatistics)

def recordParserDelta (delta : ParserCounters) : TransportStatistics :=
  { s with
    commandsRejected := addU32 s.commandsRejected delta.candidatesRejected
    parserErrors := addU32 s.parserErrors delta.candidatesRejected
    badChecksums := addU32 s.badChecksums delta.badChecksums
    badLengths := addU32 s.badLengths delta.badLengths
    badTypes := addU32 s.badTypes delta.badKinds
    badVersions := addU32 s.badVersions delta.badVersions
    badFlags := addU32 s.badFlags delta.badFlags
    badPayloads := addU32 s.badPayloads delta.badPayloads
    badRequestIds := addU32 s.badRequestIds delta.badRequestIds }

def recordTimeout : TransportStatistics :=
  { s with timeouts := bump s.timeouts, transportErrors := bump s.transportErrors }

def recordPartialUsbWrite : TransportStatistics :=
  { s with partialUsbWrites := bump s.partialUsbWrites }

def recordTransportError : TransportStatistics :=
  { s with transportErrors := bump s.transportErrors }

end TransportStatistics

/-- The report of a loop that was left, and whether it stalled. -/
abbrev Left := ServiceReport × Bool

/-- The transport with what it holds references to. -/
structure Link (σ ρ : Type) where
  transport : CdcTransport ρ := {}
  lowerPriority : σ
  statistics : TransportStatistics := {}

namespace Link

variable {σ ρ : Type} (l : Link σ ρ)

def onTransport (f : CdcTransport ρ → CdcTransport ρ) : Link σ ρ :=
  { l with transport := f l.transport }

/-- A step of the counters. -/
def count (f : TransportSnapshot → TransportSnapshot) : Link σ ρ :=
  l.onTransport fun t => { t with counters := f t.counters }

def recordIoError : Link σ ρ :=
  { l.count (fun c => { c with ioErrors := bump c.ioErrors }) with
    statistics := l.statistics.recordTransportError }

def recordRxStall : Link σ ρ :=
  l.count fun c =>
    let consecutive := bump c.consecutiveRxStalls
    { c with
      rxStallEvents := bump c.rxStallEvents
      consecutiveRxStalls := consecutive
      maxConsecutiveRxStalls := max c.maxConsecutiveRxStalls consecutive }

def recordTxStall : Link σ ρ :=
  l.count fun c =>
    let consecutive := bump c.consecutiveTxStalls
    { c with
      txStallEvents := bump c.txStallEvents
      consecutiveTxStalls := consecutive
      maxConsecutiveTxStalls := max c.maxConsecutiveTxStalls consecutive }

def publishParserDelta : Link σ ρ :=
  let current := l.transport.parser.counters
  let published := l.transport.publishedParserCounters
  let counterDelta (count : ParserCounters → ℕ) : ℕ :=
    if count published ≤ count current then count current - count published else count current
  { l.onTransport (fun t => { t with publishedParserCounters := current }) with
    statistics := l.statistics.recordParserDelta
      { candidatesRejected := counterDelta ParserCounters.candidatesRejected
        badVersions := counterDelta ParserCounters.badVersions
        badKinds := counterDelta ParserCounters.badKinds
        badFlags := counterDelta ParserCounters.badFlags
        badLengths := counterDelta ParserCounters.badLengths
        badChecksums := counterDelta ParserCounters.badChecksums
        badPayloads := counterDelta ParserCounters.badPayloads
        badRequestIds := counterDelta ParserCounters.badRequestIds } }

/-! ### Sessions -/

section Sessions

variable (source : LowerPriorityFrameSource σ)

/-- Give up a frame of the source of which the session has only a part. -/
def abortLowerPriority : Link σ ρ :=
  if l.transport.activeFrame = .lowerPriority then
    let aborted := source.abortFrontFrame l.lowerPriority
    let l := { l with lowerPriority := aborted.1 }
    if aborted.2 then l else l.recordIoError
  else l

def resetSessionQueues : Link σ ρ :=
  let commands := l.transport.commandQueue.length
  let responses := l.transport.responseQueue.length
  let awaiting := l.transport.commandAwaitingResponse
  let l := l.count fun c =>
    let abandoned := addU32 c.sessionCommandsAbandoned commands
    { c with
      sessionCommandsAbandoned := if awaiting then bump abandoned else abandoned
      responseReservationsAbandoned :=
        if awaiting then bump c.responseReservationsAbandoned else c.responseReservationsAbandoned
      sessionResponsesAbandoned := addU32 c.sessionResponsesAbandoned responses }
  (l.abortLowerPriority source).onTransport fun t =>
    { t with
      commandQueue := []
      commandAwaitingResponse := false
      responseQueue := []
      activeFrame := .none
      activeLowerPriorityFrame := []
      txOffset := 0
      rxPendingOffset := 0
      rxPendingSize := 0
      parser := t.parser.resetSession }

def countOpened : Link σ ρ :=
  (l.count fun c => { c with sessionOpenEvents := bump c.sessionOpenEvents }).onTransport fun t =>
    { t with sessionStartedPending := true }

def countClosed : Link σ ρ :=
  (l.count fun c => { c with sessionCloseEvents := bump c.sessionCloseEvents }).onTransport fun t =>
    { t with sessionStartedPending := false }

def handleSessionTransition (observedOpen : Bool) : Link σ ρ :=
  let observed := l.onTransport fun t => { t with sessionOpen := observedOpen }
  if !l.transport.sessionStateInitialized then
    let l := observed.onTransport fun t => { t with sessionStateInitialized := true }
    if observedOpen then l.countOpened else l
  else
    let l := observed.resetSessionQueues source
    if observedOpen then l.countOpened else l.countClosed

/-- `updateSessionState`, behind the question whether the session is open. -/
def observeSession (observedOpen : Bool) : Link σ ρ :=
  if l.transport.sessionStateInitialized && observedOpen = l.transport.sessionOpen then l
  else l.handleSessionTransition source observedOpen

end Sessions

/-! ### The receiver -/

section Receive

variable (decode : Bytes → Except Result ρ)

def queueCommand (command : ParsedCommand ρ) (rejected : Bool) : Link σ ρ :=
  (l.count fun c =>
    { c with
      commandsQueued := bump c.commandsQueued
      rejectedCommandsQueued :=
        if rejected then bump c.rejectedCommandsQueued else c.rejectedCommandsQueued }).onTransport
    fun t =>
      { t with
        commandQueue := t.commandQueue ++ [command]
        commandQueueHighWater := max t.commandQueueHighWater (t.commandQueue.length + 1) }

/-- `rx_pending_offset_` and `rx_pending_size_` behind so many bytes. -/
def advanceReceive (consumed : ℕ) : Link σ ρ :=
  (l.count fun c => { c with rxBytesProcessed := addU64 c.rxBytesProcessed consumed }).onTransport
    fun t =>
      let offset := t.rxPendingOffset + consumed
      if offset = t.rxPendingSize then { t with rxPendingOffset := 0, rxPendingSize := 0 }
      else { t with rxPendingOffset := offset }

def processPendingReceive (report : ServiceReport) : (Bool × ServiceReport) × Link σ ρ :=
  let t := l.transport
  if t.rxPendingSize ≤ t.rxPendingOffset then
    ((true, report), l.onTransport fun t => { t with rxPendingOffset := 0, rxPendingSize := 0 })
  else if kCommandQueueDepth ≤ t.commandQueue.length then ((false, report), l)
  else
    let pending := t.rxPendingSize - t.rxPendingOffset
    let budget := kUsbRxBudgetBytesPerLoop - report.bytesProcessed
    let offered := min pending budget
    if offered = 0 then ((true, report), l)
    else
      let (fed, parser, command) :=
        t.parser.feed decode (slice t.rxScratch t.rxPendingOffset offered) {}
      let l := l.onTransport fun t => { t with parser := parser }
      if fed.consumed = 0 then ((false, report), l.recordIoError)
      else
        let report := { report with bytesProcessed := report.bytesProcessed + fed.consumed }
        let l := l.advanceReceive fed.consumed
        if fed.commandReady || fed.rejectionReady then
          if kCommandQueueDepth ≤ l.transport.commandQueue.length then
            ((false, report), l.recordIoError)
          else
            ((true, { report with commandsQueued := report.commandsQueued + 1 }),
              l.queueCommand command fed.rejectionReady)
        else ((true, report), l)

/-- What `read` left in the scratch. -/
def storeReceived (destination : Bytes) : Link σ ρ :=
  l.onTransport fun t => { t with rxScratch := Wire.store t.rxScratch 0 destination }

/-- A count that is larger than what was asked for is an error. -/
def noteReceived (received : IoCount) (requested : ℕ) : Link σ ρ :=
  if requested < received.toInt.toNat then l.recordIoError else l

def acceptReceived (accepted : ℕ) : Link σ ρ :=
  (l.count fun c => { c with rxBytes := addU64 c.rxBytes accepted }).onTransport fun t =>
    { t with rxPendingOffset := 0, rxPendingSize := accepted }

/-- Behind the loop. -/
def finishReceive (left : Left) : ServiceReport × Link σ ρ :=
  let (report, stalled) := left
  let exhausted : Bool := report.bytesProcessed = kUsbRxBudgetBytesPerLoop
  let l :=
    if exhausted then
      l.count fun c => { c with rxByteBudgetExhaustions := bump c.rxByteBudgetExhaustions }
    else l
  let l :=
    if stalled then l.recordRxStall
    else if report.bytesRead ≠ 0 ∨ report.bytesProcessed ≠ 0 then
      l.count fun c => { c with consecutiveRxStalls := 0 }
    else l
  ({ report with
      byteBudgetExhausted := report.byteBudgetExhausted || exhausted
      stalled := report.stalled || stalled }, l.publishParserDelta)

end Receive

/-! ### The sender -/

section Transmit

variable (experiment : InputExperiment) (source : LowerPriorityFrameSource σ)

def hasPendingTransmission : Bool :=
  l.transport.activeFrame ≠ .none || !l.transport.responseQueue.isEmpty ||
    !(source.frontFrame l.lowerPriority).isEmpty

def selectTransmitFrame : FrameSelection × Link σ ρ :=
  let t := l.transport
  match t.activeFrame with
  | .response => (⟨.response, t.responseQueue.head?.getD []⟩, l)
  | .lowerPriority => (⟨.lowerPriority, t.activeLowerPriorityFrame⟩, l)
  | .none =>
    match t.responseQueue with
    | response :: _ => (⟨.response, response⟩, l)
    | [] =>
      let lower := source.frontFrame l.lowerPriority
      if lower.isEmpty then ({}, l)
      else if !validDataView experiment lower then
        ({}, { l.recordIoError with lowerPriority := source.releaseFrontFrame l.lowerPriority })
      else (⟨.lowerPriority, lower⟩, l)

def completeTransmitFrame (kind : ActiveFrame) : Link σ ρ :=
  let completed : Link σ ρ :=
    match kind with
    | .response =>
      match l.transport.responseQueue with
      | [] => l.recordIoError
      | _ :: rest =>
        (l.count fun c => { c with responsesCompleted := bump c.responsesCompleted }).onTransport
          fun t => { t with responseQueue := rest }
    | .lowerPriority =>
      { l.count (fun c =>
          { c with lowerPriorityFramesCompleted := bump c.lowerPriorityFramesCompleted }) with
        lowerPriority := source.releaseFrontFrame l.lowerPriority }
    | .none => l
  completed.onTransport fun t =>
    { t with activeFrame := .none, activeLowerPriorityFrame := [], txOffset := 0 }

/-- A count that is larger than what was offered is an error, a smaller one is noted. -/
def noteWritten (written : IoCount) (requested : ℕ) : Link σ ρ :=
  let l := if requested < written.toInt.toNat then l.recordIoError else l
  if written.toInt.toNat < requested then
    { l.count (fun c => { c with partialWriteEvents := bump c.partialWriteEvents }) with
      statistics := l.statistics.recordPartialUsbWrite }
  else l

/-- Behind a `write` that took some of the frame. -/
def acceptWritten (selection : FrameSelection) (accepted : ℕ) : Link σ ρ :=
  let offset := l.transport.txOffset
  let pinned :=
    if offset = 0 ∧ accepted < selection.bytes.length then
      l.onTransport fun t =>
        { t with
          activeFrame := selection.kind
          activeLowerPriorityFrame :=
            if selection.kind = .lowerPriority then selection.bytes else t.activeLowerPriorityFrame }
    else l
  let started :=
    if offset = 0 ∧ accepted ≠ 0 ∧ selection.kind = .lowerPriority then
      { pinned with lowerPriority := source.markFrontFrameStarted pinned.lowerPriority }
    else pinned
  let written := (started.count fun c => { c with txBytes := addU64 c.txBytes accepted }).onTransport
    fun t => { t with txOffset := t.txOffset + accepted }
  if written.transport.txOffset = selection.bytes.length then
    written.completeTransmitFrame source selection.kind
  else written

/-- Behind the loop. -/
def finishTransmit (left : Left) : ServiceReport × Link σ ρ :=
  let (report, stalled) := left
  let exhausted : Bool :=
    report.bytesWritten = kUsbTxBudgetBytesPerVisit && l.hasPendingTransmission source
  let l :=
    if exhausted then
      l.count fun c => { c with txByteBudgetExhaustions := bump c.txByteBudgetExhaustions }
    else l
  let l :=
    if stalled then l.recordTxStall
    else if report.bytesWritten ≠ 0 then l.count fun c => { c with consecutiveTxStalls := 0 }
    else l
  ({ report with
      byteBudgetExhausted := report.byteBudgetExhausted || exhausted
      stalled := report.stalled || stalled }, l)

end Transmit

/-! ### The runtime -/

section Runtime

variable (cpuHz : ℕ) (responses : FrameHeader → Bytes → Result)

def takeCommand : Option (ParsedCommand ρ) × Link σ ρ :=
  let t := l.transport
  if t.commandAwaitingResponse || kResponseQueueDepth ≤ t.responseQueue.length then (none, l)
  else
    match t.commandQueue with
    | [] => (none, l)
    | command :: rest =>
      (some command,
        (l.count fun c => { c with commandsDequeued := bump c.commandsDequeued }).onTransport fun t =>
          { t with commandQueue := rest, commandAwaitingResponse := true })

/-- What `queueResponse` asks of a frame. -/
def admitsResponse (response : Bytes) : Bool :=
  !response.isEmpty &&
    match decodeFrame cpuHz responses response with
    | .ok decoded => responseKind decoded.header.kind
    | .error _ => false

def queueResponse (response : Bytes) : Bool × Link σ ρ :=
  if !admitsResponse cpuHz responses response ||
      kResponseQueueDepth ≤ l.transport.responseQueue.length then
    (false, (l.count fun c =>
      { c with responseQueueRejections := bump c.responseQueueRejections }).recordIoError)
  else
    (true, (l.count fun c => { c with responsesQueued := bump c.responsesQueued }).onTransport
      fun t =>
        { t with
          responseQueue := t.responseQueue ++ [response]
          commandAwaitingResponse := false
          responseQueueHighWater := max t.responseQueueHighWater (t.responseQueue.length + 1) })

def abandonResponseReservation : Bool × Link σ ρ :=
  if !l.transport.commandAwaitingResponse then (false, l)
  else
    (true, ((l.count fun c =>
      { c with responseReservationsAbandoned := bump c.responseReservationsAbandoned }).onTransport
        fun t => { t with commandAwaitingResponse := false }).recordIoError)

def takeSessionStarted : Bool × Link σ ρ :=
  (l.transport.sessionStartedPending,
    l.onTransport fun t => { t with sessionStartedPending := false })

def snapshot (source : LowerPriorityFrameSource σ) : TransportSnapshot :=
  let t := l.transport
  { t.counters with
    commandQueueDepth := t.commandQueue.length
    responseQueueDepth := t.responseQueue.length
    lowerPriorityQueueDepth := source.queuedFrames l.lowerPriority
    commandQueueHighWater := t.commandQueueHighWater
    responseQueueHighWater := t.responseQueueHighWater
    pendingRxBytes := t.rxPendingSize - t.rxPendingOffset
    activeFrameBytesSent := t.txOffset
    activeFrameSize :=
      match t.activeFrame with
      | .response => (t.responseQueue.head?.getD []).length
      | .lowerPriority => t.activeLowerPriorityFrame.length
      | .none => t.counters.activeFrameSize
    activeFrameIsResponse := t.activeFrame = .response || t.counters.activeFrameIsResponse
    commandAwaitingResponse := t.commandAwaitingResponse
    sessionOpen := t.sessionOpen
    parser := t.parser.counters }

end Runtime

end Link

/-! ### A visit -/

section Service

variable {σ ρ : Type} (decode : Bytes → Except Result ρ) (experiment : InputExperiment)
  (source : LowerPriorityFrameSource σ)

abbrev Service (σ ρ α : Type) := Prog cdcByteStream (Link σ ρ) α

abbrev ask (op : StreamOp) : Service σ ρ op.Reply := @Prog.invoke cdcByteStream (Link σ ρ) op

/-- A change of the members. -/
abbrev change (f : Link σ ρ → Link σ ρ) : Service σ ρ Unit := Prog.modify f

abbrev link : Service σ ρ (Link σ ρ) := Prog.get

def updateSessionState : Service σ ρ Unit := do
  let observedOpen : Bool ← ask .sessionOpen
  change fun l => l.observeSession source observedOpen

/-- The second half of a turn: ask for bytes and read them. -/
def receiveTurn (report : ServiceReport) : Service σ ρ (Turn ServiceReport Left) := do
  change fun l => l.count fun c => { c with rxAvailableCalls := bump c.rxAvailableCalls }
  let available : IoCount ← ask .available
  if available < 0 then
    change Link.recordIoError
    return .leave (report, true)
  else if available = 0 then return .leave (report, false)
  else
    let remainingBudget := kUsbRxBudgetBytesPerLoop - report.bytesProcessed
    let requested := min (min available.toInt.toNat kUsbRxScratchBytes) remainingBudget
    if requested = 0 then return .leave (report, false)
    else
      change fun l => l.count fun c => { c with rxReadCalls := bump c.rxReadCalls }
      let report := { report with ioCalls := report.ioCalls + 1 }
      let received : ReadReply requested ← ask (.read requested)
      change fun l => l.storeReceived received.destination
      let count := received.count
      if count < 0 then
        change Link.recordIoError
        return .leave (report, true)
      else if count = 0 then
        change fun l =>
          (l.count fun c => { c with zeroLengthReadEvents := bump c.zeroLengthReadEvents }).recordIoError
        return .leave (report, true)
      else
        let accepted := min count.toInt.toNat requested
        change fun l => (l.noteReceived count requested).acceptReceived accepted
        return .again { report with bytesRead := report.bytesRead + accepted }

def receiveBody (report : ServiceReport) : Service σ ρ (Turn ServiceReport Left) := do
  if report.bytesProcessed < kUsbRxBudgetBytesPerLoop then
    let l ← link
    if kCommandQueueDepth ≤ l.transport.commandQueue.length then return .leave (report, true)
    else if l.transport.rxPendingOffset < l.transport.rxPendingSize then
      let (ok, report) ← Prog.state fun l => l.processPendingReceive decode report
      return if ok then .again report else .leave (report, true)
    else if kUsbRxCallsPerLoop ≤ report.ioCalls then
      change fun l => l.count fun c =>
        { c with rxCallBudgetExhaustions := bump c.rxCallBudgetExhaustions }
      return .leave ({ report with callBudgetExhausted := true }, false)
    else receiveTurn report
  else return .leave (report, false)

/-- The loop takes a call or a byte of the budget with every turn. -/
def receiveFuel : ℕ := kUsbRxBudgetBytesPerLoop + kUsbRxCallsPerLoop + 1

/-- Nothing only if the loop did not end. -/
def serviceReceive : Service σ ρ (Option ServiceReport) := do
  updateSessionState source
  let l ← link
  if !l.transport.sessionOpen then
    change Link.publishParserDelta
    return some {}
  else
    match ← Prog.loop (receiveBody decode) receiveFuel {} with
    | some left =>
      let report ← Prog.state fun l => l.finishReceive left
      return some report
    | none => return none

/-- Offer so much of the frame to the stream. -/
def writeFrame (selection : FrameSelection) (requested : ℕ) (report : ServiceReport) :
    Service σ ρ (Turn ServiceReport Left) := do
  change fun l => l.count fun c =>
    { c with
      txBytesRequested := addU64 c.txBytesRequested requested
      maxWriteRequestBytes := max c.maxWriteRequestBytes requested
      txWriteCalls := bump c.txWriteCalls }
  let report := { report with ioCalls := report.ioCalls + 1 }
  let l ← link
  let written : IoCount ← ask (.write (slice selection.bytes l.transport.txOffset requested))
  if written = kWriteWouldBlock then
    change fun l => l.count fun c => { c with shortCapacityDeferrals := bump c.shortCapacityDeferrals }
    return .leave (report, true)
  else if written < 0 then
    change Link.recordIoError
    return .leave (report, true)
  else if written = 0 then
    change fun l =>
      { l.count (fun c => { c with zeroLengthWriteEvents := bump c.zeroLengthWriteEvents }) with
        statistics := l.statistics.recordTimeout }
    return .leave (report, true)
  else
    let accepted := min written.toInt.toNat requested
    let completes := l.transport.txOffset + accepted = selection.bytes.length
    change fun l => (l.noteWritten written requested).acceptWritten source selection accepted
    return .again { report with
      bytesWritten := report.bytesWritten + accepted
      framesCompleted := if completes then report.framesCompleted + 1 else report.framesCompleted }

/-- Behind the choice of a frame: is there room for enough of it? -/
def transmitTurn (selection : FrameSelection) (report : ServiceReport) :
    Service σ ρ (Turn ServiceReport Left) := do
  let l ← link
  let offset := l.transport.txOffset
  change fun l => l.count fun c => { c with txAvailableCalls := bump c.txAvailableCalls }
  let writable : IoCount ← ask .availableForWrite
  if writable < 0 then
    change Link.recordIoError
    return .leave (report, true)
  else if writable = 0 then return .leave (report, true)
  else
    let frameRemaining := selection.bytes.length - offset
    let budgetRemaining := kUsbTxBudgetBytesPerVisit - report.bytesWritten
    let minimumWrite := min frameRemaining kUsbTxMinimumWriteBytes
    if budgetRemaining < minimumWrite then
      change fun l => l.count fun c =>
        { c with txByteBudgetExhaustions := bump c.txByteBudgetExhaustions }
      return .leave ({ report with byteBudgetExhausted := true }, false)
    else if writable.toInt.toNat < minimumWrite then
      change fun l => l.count fun c =>
        { c with shortCapacityDeferrals := bump c.shortCapacityDeferrals }
      return .leave (report, true)
    else
      let requested := min (min (min frameRemaining budgetRemaining) writable.toInt.toNat)
        kUsbTxMaxWriteBytes
      if offset = 0 ∧ selection.kind = .lowerPriority then
        let ready ← Prog.state fun l =>
          let prepared := source.prepareFrontFrame l.lowerPriority
          (prepared.2, { l with lowerPriority := prepared.1 })
        let l ← link
        let front := source.frontFrame l.lowerPriority
        if !ready || !validDataView experiment front then
          change Link.recordIoError
          return .leave (report, true)
        else if requested = 0 then return .leave (report, true)
        else writeFrame source { selection with bytes := front } requested report
      else if requested = 0 then return .leave (report, true)
      else writeFrame source selection requested report

def transmitBody (report : ServiceReport) : Service σ ρ (Turn ServiceReport Left) := do
  if report.bytesWritten < kUsbTxBudgetBytesPerVisit then
    if kUsbTxCallsPerVisit ≤ report.ioCalls then
      change fun l => l.count fun c =>
        { c with txCallBudgetExhaustions := bump c.txCallBudgetExhaustions }
      return .leave ({ report with callBudgetExhausted := true }, false)
    else
      let selection ← Prog.state fun l => l.selectTransmitFrame experiment source
      let l ← link
      if selection.kind = .none then return .leave (report, false)
      else if selection.bytes.length ≤ l.transport.txOffset then
        change Link.recordIoError
        if l.transport.txOffset = 0 then
          change fun l => l.completeTransmitFrame source selection.kind
          return .again report
        else return .leave (report, true)
      else transmitTurn experiment source selection report
  else return .leave (report, false)

def transmitFuel : ℕ := kUsbTxCallsPerVisit + 1

/-- Nothing only if the loop did not end. -/
def serviceTransmit : Service σ ρ (Option ServiceReport) := do
  updateSessionState source
  let l ← link
  if !l.transport.sessionOpen then return some {}
  else
    match ← Prog.loop (transmitBody experiment source) transmitFuel {} with
    | some left =>
      let report ← Prog.state fun l => l.finishTransmit source left
      return some report
    | none => return none

end Service

end ThingDaq.Usb
