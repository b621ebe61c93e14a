import ThingDaq.Protocol.Frame
import Mathlib.Logic.Function.Basic

/-!
# The background reader

`BackgroundReader` (`daq_api/src/thingdone_daq/reader.py`) shares one table of
pending requests between its reader thread and any number of callers.  Every access
to the table is made under one lock, so a run is a sequence of locked sections:
each is one `Event`, and any interleaving of them is a list of events.

A caller's own way through `request` is the `Phase` of its call.  The clock is left
to the environment: an event says whether the deadline it looks at has passed.

## Main definitions

* `registerRequest` — the locked part of `request`, with `allocateRequestId`.
* `dispatchResponse`, `expirePendingRequests`, `completeWithError`, `terminate`,
  `close` — the sections that complete a request.
* `proceed` — the next step of a caller after its registration.
-/

namespace ThingDaq.Reader

abbrev UINT32_MAX : ℕ := 0xFFFFFFFF

/-! ### Errors, responses and requests -/

/-- `ReaderProtocolError`, one for each of its messages. -/
inductive ProtocolError
  | responseVersionDiffers
  | unexpectedKind (requestId : ℕ) (expected received : FrameKind)
  | startOmittedConfiguration
  | startRunIdZero
  | startUnsupportedChecksum
  | unnegotiatedDataVersion
  | dataChecksumDiffers (runId : ℕ) (used configured : ChecksumAlgorithm)
  | parserFailed
  | frameViolatedProtocol
  | noResponseOrError (requestId : ℕ)
  deriving DecidableEq, Repr

inductive ReaderError
  /-- `RequestTimeoutError` -/
  | requestTimeout (kind : FrameKind) (requestId : ℕ)
  /-- `ProtocolVersionRejected` -/
  | versionRejected (version : ℕ)
  /-- `DeviceDisconnectedError` of a failed write -/
  | writeFailed (kind : FrameKind)
  /-- `DeviceDisconnectedError` of the reader thread -/
  | transportDisconnected
  | transportClosed
  /-- `ReaderProtocolError` -/
  | protocol (error : ProtocolError)
  /-- `ReaderClosedError` of a pending request, and of a call on a closed reader -/
  | wasClosed
  | isClosed
  | wasCancelled
  deriving DecidableEq, Repr

def ReaderError.isTimeout : ReaderError → Bool
  | .requestTimeout _ _ => true
  | _ => false

/-- The value of a successful response, as far as the reader looks at it. -/
inductive ResponseValue
  | none
  | v3AppliedSettings
  | configuration (dataChecksumAlgorithm : ChecksumAlgorithm)
  | other
  deriving DecidableEq, Repr

/-- A decoded response (`CommandResponse`, or `V3Response` when `v3`), with the
version of the frame it came in. -/
structure Response where
  v3 : Bool
  wireVersion : ℕ
  kind : FrameKind
  requestId : ℕ
  runId : ℕ
  ok : Bool
  errorCode : ErrorCode
  value : ResponseValue
  rejectedKind : Option ℕ
  rejectedVersion : Option ℕ
  deriving DecidableEq, Repr

structure PendingRequest where
  kind : FrameKind
  expectedKind : FrameKind
  requestId : ℕ
  protocolVersion : ℕ
  negotiating : Bool
  completed : Bool := false
  response : Option Response := none
  error : Option ReaderError := none
  deriving DecidableEq, Repr

/-- What the call hands to its caller: the error if there is one. -/
def PendingRequest.outcome (p : PendingRequest) : Option (Except ReaderError Response) :=
  match p.error with
  | some e => some (.error e)
  | none => p.response.map .ok

/-- Where a caller stands in `request` after its registration. -/
inductive Phase
  /-- In `_write_all`. -/
  | writing
  /-- In `pending.completed.wait`. -/
  | waiting
  /-- The wait timed out. -/
  | expired
  /-- Looks at `pending.error` and `pending.response`. -/
  | deciding
  | returned (outcome : Except ReaderError Response)

structure Call where
  request : PendingRequest
  phase : Phase

def V1RequestKinds : List (FrameKind × FrameKind) :=
  [(.infoRequest, .infoResponse),
   (.configureRequest, .configureResponse),
   (.startRequest, .startResponse),
   (.getStatusRequest, .getStatusResponse),
   (.stopRequest, .stopResponse),
   (.resetStatsRequest, .resetStatsResponse),
   (.pingRequest, .pingResponse),
   (.checksumBenchmarkRequest, .checksumBenchmarkResponse),
   (.gpioClockDiagnosticRequest, .gpioClockDiagnosticResponse),
   (.gpioCaptureDiagnosticRequest, .gpioCaptureDiagnosticResponse)]

def V2RequestKinds : List (FrameKind × FrameKind) :=
  V1RequestKinds ++
    [(.temperatureRequest, .temperatureResponse),
     (.runtimeHealthRequest, .runtimeHealthResponse)]

def V3CommandKinds : List (FrameKind × FrameKind) :=
  [(.infoRequest, .infoResponse),
   (.configureRequest, .configureResponse),
   (.startRequest, .startResponse),
   (.getStatusRequest, .getStatusResponse),
   (.stopRequest, .stopResponse),
   (.getCapabilitiesRequest, .getCapabilitiesResponse),
   (.getSettingsRequest, .getSettingsResponse)]

/-- The kind of response that `kind` asks for in `version`, if it is a request kind
of that version. -/
def expectedKind (version : ℕ) (kind : FrameKind) : Option FrameKind :=
  if version = 3 then V3CommandKinds.lookup kind
  else if version = 2 then V2RequestKinds.lookup kind
  else if version = 1 then V1RequestKinds.lookup kind
  else none

/-! ### The reader -/

structure ReaderState where
  maxPendingRequests : ℕ
  /-- The dictionary `_pending`: request id and the call it belongs to. -/
  pending : List (ℕ × ℕ)
  calls : ℕ → Call
  count : ℕ
  nextRequestId : ℕ
  activeRunId : ℕ
  activeChecksumAlgorithm : ChecksumAlgorithm
  selectedWireVersion : Option ℕ
  streamActive : Bool
  started : Bool
  closed : Bool
  stopEvent : Bool
  terminalError : Option ReaderError
  /-- An error the reader thread has raised and not yet terminated with. -/
  raised : Option ProtocolError
  responsesMatched : ℕ
  lateResponses : ℕ
  requestTimeouts : ℕ
  protocolFailures : ℕ
  disconnects : ℕ
  pendingRequestHighWater : ℕ

/-- `__init__`; `seed` is what `randbelow` answers, or `0` without randomized ids. -/
def booted (maxPendingRequests seed : ℕ) : ReaderState where
  maxPendingRequests := maxPendingRequests
  pending := []
  calls := fun _ => ⟨⟨0, 0, 0, 0, false, false, none, none⟩, .writing⟩
  count := 0
  nextRequestId := seed % UINT32_MAX + 1
  activeRunId := 0
  activeChecksumAlgorithm := .adler32
  selectedWireVersion := none
  streamActive := false
  started := false
  closed := false
  stopEvent := false
  terminalError := none
  raised := none
  responsesMatched := 0
  lateResponses := 0
  requestTimeouts := 0
  protocolFailures := 0
  disconnects := 0
  pendingRequestHighWater := 0

/-- `dict.pop` -/
def pop (pending : List (ℕ × ℕ)) (requestId : ℕ) : List (ℕ × ℕ) :=
  pending.filter fun e => e.1 ≠ requestId

/-- `dict.get` -/
def get (pending : List (ℕ × ℕ)) (requestId : ℕ) : Option ℕ := pending.lookup requestId

namespace ReaderState

def request (s : ReaderState) (t : ℕ) : PendingRequest := (s.calls t).request

/-- Replace the request of call `t`. -/
def setRequest (s : ReaderState) (t : ℕ) (p : PendingRequest) : ReaderState :=
  { s with calls := Function.update s.calls t { s.calls t with request := p } }

/-- Move the caller of `t` on. -/
def setPhase (s : ReaderState) (t : ℕ) (phase : Phase) : ReaderState :=
  { s with calls := Function.update s.calls t { s.calls t with phase := phase } }

/-! ### Registration -/

/-- `_next_request_id` after `id` -/
def following (id : ℕ) : ℕ :=
  let next := (id + 1) % 2 ^ 32
  if next = 0 then 1 else next

/-- The loop of `_allocate_request_id_locked` with so many attempts left: the new
`_next_request_id`, and the id found. -/
def allocateRequestId (pending : List (ℕ × ℕ)) : ℕ → ℕ → ℕ × Option ℕ
  | 0, next => (next, none)
  | attempts + 1, next =>
    if next ∈ pending.map Prod.fst then allocateRequestId pending attempts (following next)
    else (following next, some next)

/-- `_require_live_locked` -/
def requireLive (s : ReaderState) : Bool := !s.closed && s.terminalError.isNone && s.started

inductive RequestRefusal
  /-- `ValueError`: an unknown version, or a kind that is no request of it. -/
  | valueError
  | notLive
  | pendingLimit
  | noRequestId
  | notEncodable
  deriving DecidableEq, Repr

/-- `request` up to the end of its locked section: the new call, or why there is
none.  `encodable` says whether the payload makes a frame. -/
def registerRequest (s : ReaderState) (kind : FrameKind) (version : ℕ)
    (negotiating encodable : Bool) : ReaderState × Except RequestRefusal ℕ :=
  match expectedKind version kind with
  | none => (s, .error .valueError)
  | some expected =>
    if s.requireLive = false then (s, .error .notLive)
    else if s.maxPendingRequests ≤ s.pending.length then (s, .error .pendingLimit)
    else
      let (next, id) := allocateRequestId s.pending (s.maxPendingRequests + 1) s.nextRequestId
      let s := { s with nextRequestId := next }
      match id with
      | none => (s, .error .noRequestId)
      | some id =>
        if encodable = false then (s, .error .notEncodable)
        else
          let pending : PendingRequest :=
            { kind := kind
              expectedKind := expected
              requestId := id
              protocolVersion := version
              negotiating := negotiating }
          let table := s.pending ++ [(id, s.count)]
          ({ s with
              pending := table
              calls := Function.update s.calls s.count ⟨pending, .writing⟩
              count := s.count + 1
              pendingRequestHighWater := max s.pendingRequestHighWater table.length },
           .ok s.count)

/-! ### Completion -/

/-- `_complete_with_error` -/
def completeWithError (s : ReaderState) (t : ℕ) (error : ReaderError) (timeout : Bool) :
    ReaderState :=
  let p := s.request t
  if p.response.isSome || p.error.isSome then s
  else
    let s := if get s.pending p.requestId = some t then
        { s with pending := pop s.pending p.requestId }
      else s
    let s := s.setRequest t { p with error := some error, completed := true }
    if timeout then { s with requestTimeouts := s.requestTimeouts + 1 } else s

/-- One turn of the loop of `_expire_pending_requests`. -/
def expireOne (s : ReaderState) (e : ℕ × ℕ) : ReaderState :=
  let p := s.request e.2
  let s := { s with pending := pop s.pending p.requestId }
  if p.response.isNone && p.error.isNone then
    { s.setRequest e.2 { p with
        error := some (.requestTimeout p.kind p.requestId)
        completed := true } with
      requestTimeouts := s.requestTimeouts + 1 }
  else s

/-- `_expire_pending_requests`; `late` says whose deadline has passed. -/
def expirePendingRequests (s : ReaderState) (late : ℕ → Bool) : ReaderState :=
  (s.pending.filter fun e => late e.2).foldl expireOne s

/-- One turn of the loop of `_fail_all_pending_locked`. -/
def failOne (error : ReaderError) (calls : ℕ → Call) (e : ℕ × ℕ) : ℕ → Call :=
  let p := (calls e.2).request
  if p.response.isNone && p.error.isNone then
    Function.update calls e.2 { calls e.2 with
      request := { p with error := some error, completed := true } }
  else calls

/-- `_fail_all_pending_locked` -/
def failAllPending (s : ReaderState) (error : ReaderError) : ReaderState :=
  { s with
    pending := []
    calls := s.pending.foldl (failOne error) s.calls }

/-- `_terminate` -/
def terminate (s : ReaderState) (error : ReaderError) (protocolFailure disconnected : Bool) :
    ReaderState :=
  let s := if s.terminalError.isNone && !s.closed then
      { s.failAllPending error with
        terminalError := some error
        protocolFailures := s.protocolFailures + if protocolFailure then 1 else 0
        disconnects := s.disconnects + if disconnected then 1 else 0 }
    else s
  { s with streamActive := false, stopEvent := true }

/-- The locked section of `close`. -/
def close (s : ReaderState) : ReaderState :=
  if s.closed then s
  else { s.failAllPending .wasClosed with closed := true, stopEvent := true, streamActive := false }

/-! ### Runs -/

def supportedChecksum (algorithm : ChecksumAlgorithm) : Bool :=
  algorithm = .adler32 || algorithm = .crc32c || algorithm = .crc32IsoHdlc

/-- `_activate_run_locked` -/
def activateRun (s : ReaderState) (runId : ℕ) (algorithm : ChecksumAlgorithm) :
    ReaderState × Option ProtocolError :=
  if runId = 0 then (s, some .startRunIdZero)
  else if supportedChecksum algorithm = false then (s, some .startUnsupportedChecksum)
  else
    ({ s with activeRunId := runId, activeChecksumAlgorithm := algorithm, streamActive := true },
     none)

/-- `_deactivate_stream_locked` -/
def deactivateStream (s : ReaderState) : ReaderState :=
  { s with streamActive := false, activeChecksumAlgorithm := .adler32 }

/-! ### Responses -/

/-- An INFO that explicitly rejects the version it was asked in. -/
def rejection (p : PendingRequest) (r : Response) : Bool :=
  p.negotiating && p.kind = .infoRequest && !r.ok && r.errorCode = .unsupportedVersion &&
    ((r.kind = p.expectedKind && r.wireVersion = p.protocolVersion) ||
     (!r.v3 && r.kind = .errorResponse && r.rejectedKind = some p.kind.toNat &&
        r.rejectedVersion = some p.protocolVersion) ||
     (r.v3 && r.wireVersion = p.protocolVersion && r.kind = .errorResponse &&
        r.rejectedKind = some p.kind.toNat))

/-- What an accepted response does to the run: the state, the error it puts beside
the response, and the error it raises before `completed` is set. -/
def acceptRun (s : ReaderState) (r : Response) :
    ReaderState × Option ProtocolError × Option ProtocolError :=
  let s := if r.ok && (r.kind = .configureResponse || r.kind = .startResponse) then
      { s with selectedWireVersion := some r.wireVersion }
    else s
  if r.ok && r.kind = .startResponse then
    match r.value with
    | .v3AppliedSettings =>
      let (s, raised) := s.activateRun r.runId .adler32
      (s, none, raised)
    | .configuration algorithm =>
      let (s, raised) := s.activateRun r.runId algorithm
      (s, none, raised)
    | _ => (s, some .startOmittedConfiguration, none)
  else if r.ok && r.kind = .stopResponse then (s.deactivateStream, none, none)
  else (s, none, none)

/-- `_dispatch_response` for the request it was popped for. -/
def dispatchTo (s : ReaderState) (t : ℕ) (p : PendingRequest) (r : Response) : ReaderState :=
  if rejection p r then
    { s.setRequest t { p with
        error := some (.versionRejected p.protocolVersion)
        completed := true } with
      responsesMatched := s.responsesMatched + 1 }
  else if r.wireVersion ≠ p.protocolVersion then
    { s.setRequest t { p with
        error := some (.protocol .responseVersionDiffers)
        completed := true } with
      raised := some .responseVersionDiffers }
  else if r.kind ≠ p.expectedKind ∧ r.kind ≠ .errorResponse then
    let error := ProtocolError.unexpectedKind r.requestId p.expectedKind r.kind
    { s.setRequest t { p with error := some (.protocol error), completed := true } with
      raised := some error }
  else
    let (s, error, raised) := s.acceptRun r
    { s.setRequest t { p with
        response := some r
        error := error.map .protocol
        completed := raised.isNone } with
      responsesMatched := s.responsesMatched + 1
      raised := raised.or error }

/-- `_dispatch_response` -/
def dispatchResponse (s : ReaderState) (r : Response) : ReaderState :=
  match get s.pending r.requestId with
  | none =>
    let s := { s with lateResponses := s.lateResponses + 1 }
    if r.ok && r.kind = .stopResponse && r.runId = s.activeRunId &&
        some r.wireVersion = s.selectedWireVersion then s.deactivateStream
    else s
  | some t =>
    dispatchTo { s with pending := pop s.pending r.requestId } t (s.request t) r

/-! ### A caller after its registration -/

/-- How the next part of `_write_all` ends. -/
inductive WriteResult
  | complete
  /-- One turn of its loop that leaves bytes to write. -/
  | partially
  /-- The write lock did not come before the deadline. -/
  | lockTimeout
  /-- `TransportTimeoutError` -/
  | transportTimeout
  /-- Any other `TransportError`, and an invalid write count. -/
  | transportFailed
  deriving DecidableEq, Repr

/-- `_current_error_locked` -/
def currentError (s : ReaderState) : ReaderError :=
  match s.terminalError with
  | some e => e
  | none => if s.closed then .isClosed else .wasCancelled

def timeoutOf (p : PendingRequest) : ReaderError := .requestTimeout p.kind p.requestId

def proceedWriting (s : ReaderState) (t : ℕ) (write : WriteResult) (deadline : Bool) :
    ReaderState :=
  let p := s.request t
  match write with
  | .complete => s.setPhase t .waiting
  | .partially =>
    if s.stopEvent then (s.completeWithError t s.currentError false).setPhase t .waiting
    else if deadline then (s.completeWithError t (timeoutOf p) true).setPhase t .waiting
    else s
  | .lockTimeout => (s.completeWithError t (timeoutOf p) true).setPhase t .waiting
  | .transportTimeout => (s.completeWithError t (timeoutOf p) true).setPhase t .waiting
  | .transportFailed => (s.terminate (.writeFailed p.kind) false true).setPhase t .waiting

def proceedDeciding (s : ReaderState) (t : ℕ) : ReaderState :=
  let p := s.request t
  match p.error with
  | some e => s.setPhase t (.returned (.error e))
  | none =>
    match p.response with
    | some r => s.setPhase t (.returned (.ok r))
    | none =>
      let e := ReaderError.protocol (.noResponseOrError p.requestId)
      (s.terminate e true false).setPhase t (.returned (.error e))

/-- The caller's next step.  `deadline` says whether its deadline has passed. -/
def proceed (s : ReaderState) (t : ℕ) (write : WriteResult) (deadline : Bool) : ReaderState :=
  match (s.calls t).phase with
  | .writing => s.proceedWriting t write deadline
  | .waiting =>
    if (s.request t).completed then s.setPhase t .deciding
    else if deadline then s.setPhase t .expired
    else s
  | .expired => (s.completeWithError t (timeoutOf (s.request t)) true).setPhase t .deciding
  | .deciding => s.proceedDeciding t
  | .returned _ => s

/-! ### Events -/

/-- Why the reader thread ends. -/
inductive ReaderEnd
  | raised
  | disconnected
  | closed
  | parserFailed
  | frameViolated
  deriving DecidableEq, Repr

inductive Event
  | start (isOpen : Bool)
  | request (kind : FrameKind) (version : ℕ) (negotiating encodable : Bool)
  | proceed (t : ℕ) (write : WriteResult) (deadline : Bool)
  | response (r : Response)
  | expire (late : ℕ → Bool)
  | readerEnds (cause : ReaderEnd)
  | activateRun (runId : ℕ) (algorithm : ChecksumAlgorithm) (version : ℕ)
  | deactivateStream
  | close

def startReader (s : ReaderState) (isOpen : Bool) : ReaderState :=
  if s.closed || s.terminalError.isSome || s.started || !isOpen then s
  else { s with started := true }

def readerEnds (s : ReaderState) : ReaderEnd → ReaderState
  | .raised =>
    match s.raised with
    | some e => { s with raised := none }.terminate (.protocol e) true false
    | none => s
  | .disconnected => s.terminate .transportDisconnected false true
  | .closed => s.terminate .transportClosed false true
  | .parserFailed => s.terminate (.protocol .parserFailed) true false
  | .frameViolated => s.terminate (.protocol .frameViolatedProtocol) true false

def step (s : ReaderState) : Event → ReaderState
  | .start isOpen => s.startReader isOpen
  | .request kind version negotiating encodable =>
    (s.registerRequest kind version negotiating encodable).1
  | .proceed t write deadline => if t < s.count then s.proceed t write deadline else s
  -- The thread that dispatches is the one that has to end after it raised.
  | .response r => if s.raised.isSome then s else s.dispatchResponse r
  | .expire late => s.expirePendingRequests late
  | .readerEnds cause => s.readerEnds cause
  | .activateRun runId algorithm version =>
    if s.requireLive then
      ({ s with selectedWireVersion := some version }.activateRun runId algorithm).1
    else s
  | .deactivateStream => if s.requireLive then s.deactivateStream else s
  | .close => s.close

def run (s : ReaderState) (es : List Event) : ReaderState := es.foldl step s

end ReaderState

end ThingDaq.Reader
