import ThingDaq.Firmware.Settings

/-!
# Control state

`firmware/src/control_state.cpp`: the device state that three protocol versions
share, the configuration and the settings behind it, and the two events it leaves
for the runtime.  A dispatch decides a `Message`; its bytes are the `Codec`'s,
the encoders of `protocol.cpp`, of which dispatch sees only the frame or the
failure.  The settings interface is an `Application` over a hardware state of its
own, so that an attempt may fail once and succeed later.

## Main definitions

* `dispatch` — one request, by the legacy handlers or by those of version 3.
* `recoverToIdle`, `beginHostSession`, `takePendingEvents` — the other calls.
* `applySettings` — the candidate settings, or the former ones restored.
-/

namespace ThingDaq.Control

open Wire

/-! ### Requests, messages and counters -/

inductive DeviceState
  | boot
  | idle
  | configured
  | running
  deriving DecidableEq, Repr

def DeviceState.isLegalTransition : DeviceState → DeviceState → Bool
  | .boot, next => next = .idle
  | .idle, next => next = .idle || next = .configured
  | .configured, next => next = .idle || next = .configured || next = .running
  | .running, next => next = .idle

inductive CommandKind
  | info
  | configure
  | start
  | getStatus
  | stop
  | resetStats
  | ping
  | checksumBenchmark
  | gpioClockDiagnostic
  | gpioCaptureDiagnostic
  | getTemperature
  | getRuntimeHealth
  | getCapabilities
  | getSettings
  deriving DecidableEq, Repr

/-- `isV3Command`. -/
def CommandKind.isV3 : CommandKind → Bool
  | .info | .configure | .start | .getStatus | .stop | .getCapabilities | .getSettings => true
  | _ => false

structure Request where
  kind : CommandKind
  requestId : UInt32
  protocolVersion : UInt8
  configuration : Configuration := {}
  settings : Settings := {}
  nonce : UInt64 := 0
  deriving DecidableEq, Repr

/-- What a stream produced and lost, as the status reports it. -/
structure StreamProgress where
  framesGenerated : ℕ := 0
  framesDropped : ℕ := 0
  itemsGenerated : ℕ := 0
  itemsDropped : ℕ := 0
  deriving DecidableEq, Repr

structure Statistics where
  generation : UInt32 := 1
  commandsAccepted : ℕ := 0
  commandsRejected : ℕ := 0
  stateErrors : ℕ := 0
  badRequestIds : ℕ := 0
  badPayloads : ℕ := 0
  adc : StreamProgress := {}
  gpio : StreamProgress := {}
  deriving DecidableEq, Repr

/-- A saturating 32-bit increment. -/
def bump (n : ℕ) : ℕ := min (n + 1) (2 ^ 32 - 1)

/-- `nextGeneration` and `nextRunId`: zero is skipped. -/
def nextNonzero (n : UInt32) : UInt32 := if n + 1 = 0 then 1 else n + 1

namespace Statistics

def resetForNewGeneration (s : Statistics) : Statistics :=
  { generation := nextNonzero s.generation }

def recordCommandAccepted (s : Statistics) : Statistics :=
  { s with commandsAccepted := bump s.commandsAccepted }

def recordCommandRejected (s : Statistics) (error : ErrorCode) : Statistics :=
  let s := { s with commandsRejected := bump s.commandsRejected }
  match error with
  | .invalidState => { s with stateErrors := bump s.stateErrors }
  | .invalidRequestId => { s with badRequestIds := bump s.badRequestIds }
  | .invalidPayload => { s with badPayloads := bump s.badPayloads }
  | _ => s

end Statistics

inductive V3State
  | stopped
  | running
  | draining
  deriving DecidableEq, Repr

structure V3Status where
  state : V3State := .stopped
  pendingFrames : UInt32 := 0
  counters : List ℕ := List.replicate 8 0
  diagnostics : List UInt64 := []
  diagnosticValidity : UInt64 := 0
  deriving DecidableEq, Repr

/-- What a response says. -/
inductive Message
  | info (state : DeviceState) (applied : Configuration) (hardwareSerial : UInt32)
  | configure (configuration : Configuration)
  | start (configuration : Configuration)
  | status (state : DeviceState) (applied : Configuration) (statistics : Statistics)
  | stop
  | resetStats (generation : UInt32)
  | ping
  | checksumBenchmark (report : Bytes)
  | gpioClockDiagnostic (report : Bytes)
  | gpioCaptureDiagnostic (report : Bytes)
  | temperature (reading : Bytes)
  | runtimeHealth (reading : Bytes)
  | v3Info (hardwareSerial : UInt32) (clocks : Bytes)
  | v3Capabilities (defaults : Settings) (supports : Settings → Bool)
  | v3Settings (applied : Applied)
  | v3Status (status : V3Status)
  | typedError (error : ErrorCode)

/-- The encoders of `protocol.cpp`: the frame of a response to a request, with the
run it reports. -/
abbrev Codec := Request → UInt32 → Message → Except Result Bytes

/-- `settings::Application`, over the state of the hardware behind it. -/
structure Application (σ : Type) where
  defaults : Settings
  supports : σ → Settings → Bool
  apply : σ → Settings → σ × Bool × Applied

/-- The runtime's resources, as it reports them to a dispatch. -/
structure DispatchReadiness where
  startReady : Bool := true
  configurationReady : Bool := true
  statisticsResetReady : Bool := true
  checksumBenchmarkResponse : Option Bytes := none
  checksumBenchmarkError : ErrorCode := .unsupportedConfiguration
  gpioClockResponse : Option Bytes := none
  gpioClockError : ErrorCode := .unsupportedConfiguration
  gpioCaptureResponse : Option Bytes := none
  gpioCaptureError : ErrorCode := .unsupportedConfiguration
  temperature : Bytes := []
  runtimeHealth : Bytes := []
  pendingFrames : UInt32 := 0
  v3Diagnostics : List UInt64 := []
  v3DiagnosticValidity : UInt64 := 0

/-! ### The state -/

/-- The two event bits. -/
structure PendingMask where
  startEpoch : Bool := false
  stop : Bool := false
  deriving DecidableEq, Repr

def PendingMask.isZero (m : PendingMask) : Bool := !m.startEpoch && !m.stop

structure ControlState (σ : Type) where
  settingsKnown : Bool := true
  activeSettings : Applied
  negotiatedVersion : UInt8 := 0
  state : DeviceState := .boot
  configuration : Configuration
  hasConfiguration : Bool := false
  runId : UInt32 := 0
  hardwareSerial : UInt32 := 0
  pending : PendingMask := {}
  recentRequestIds : List UInt32 := []
  statistics : Statistics := {}
  hardware : σ

inductive DispatchStatus
  | noResponse
  | responseReady
  | encodingFailure
  deriving DecidableEq, Repr

/-- A `DispatchResult` with the state and the response frame it leaves. -/
structure Dispatch (σ : Type) where
  state : ControlState σ
  status : DispatchStatus
  commandError : ErrorCode
  encoding : Result := Result.success
  response : Option Bytes := none

def Dispatch.commandAccepted {σ : Type} (d : Dispatch σ) : Bool :=
  d.status = .responseReady && d.commandError = .ok

def kRecentRequestIdWindow : ℕ := 16

namespace ControlState

variable {σ : Type} (build : Build) (codec : Codec) (app : Application σ)

/-- A controller before boot. -/
def initial (hardware : σ) : ControlState σ where
  activeSettings := ⟨app.defaults, clocksFor app.defaults.cpuProfile⟩
  configuration := Configuration.idle build
  hardware := hardware

def transitionTo (s : ControlState σ) (next : DeviceState) : ControlState σ × Bool :=
  if s.state.isLegalTransition next then ({ s with state := next }, true) else (s, false)

def completeBoot (s : ControlState σ) (hardwareSerial : UInt32) : ControlState σ × Bool :=
  if s.state ≠ .boot then (s, false)
  else ({ s with hardwareSerial := hardwareSerial }).transitionTo .idle

/-- The configuration dropped, a pending start taken back, and a stop asked for. -/
def clearRun (s : ControlState σ) (needsStopSignal : Bool) : ControlState σ :=
  { s with
    configuration := Configuration.idle build
    hasConfiguration := false
    pending := ⟨false, s.pending.stop || needsStopSignal⟩ }

def recoverToIdle (s : ControlState σ) : ControlState σ × Bool :=
  if s.state = .boot then (s, false)
  else
    let needsStopSignal := s.state ≠ .idle || s.pending.startEpoch
    match s.transitionTo .idle with
    | (s, false) => (s, false)
    | (s, true) => (s.clearRun build needsStopSignal, true)

def beginHostSession (s : ControlState σ) : ControlState σ := { s with recentRequestIds := [] }

/-- `rememberRequestId`: the window keeps the latest sixteen. -/
def rememberRequestId (s : ControlState σ) (id : UInt32) : Option (ControlState σ) :=
  if id = 0 || s.recentRequestIds.contains id then none
  else
    let ids := s.recentRequestIds ++ [id]
    some { s with recentRequestIds := ids.drop (ids.length - kRecentRequestIdWindow) }

structure PendingEvents where
  mask : PendingMask
  runId : UInt32
  statsGeneration : UInt32
  deriving DecidableEq, Repr

def takePendingEvents (s : ControlState σ) : ControlState σ × PendingEvents :=
  ({ s with pending := {} }, ⟨s.pending, s.runId, s.statistics.generation⟩)

def appliedConfiguration (s : ControlState σ) : Configuration :=
  if s.hasConfiguration then s.configuration else { Configuration.idle build with legacyV2 := true }

def startConfiguration (s : ControlState σ) (version : UInt8) : Configuration :=
  if version = V3.kProtocolVersion then Configuration.ofSettings s.activeSettings.settings
  else s.appliedConfiguration build

/-! ### Responses -/

def accepted (s : ControlState σ) : ControlState σ :=
  { s with statistics := s.statistics.recordCommandAccepted }

def rejected (s : ControlState σ) (error : ErrorCode) : ControlState σ :=
  { s with statistics := s.statistics.recordCommandRejected error }

/-- `encoded`. -/
def encoded (s : ControlState σ) (commandError : ErrorCode) (encoding : Except Result Bytes) :
    Dispatch σ :=
  match encoding with
  | .error e =>
    { state := s.rejected .internalError
      status := .encodingFailure
      commandError := .internalError
      encoding := e }
  | .ok frame =>
    { state := if commandError = .ok then s.accepted else s.rejected commandError
      status := .responseReady
      commandError := commandError
      response := some frame }

/-- `reject`. -/
def reject (s : ControlState σ) (request : Request) (error : ErrorCode) : Dispatch σ :=
  match codec request s.runId (.typedError error) with
  | .ok frame =>
    { state := s.rejected error
      status := .responseReady
      commandError := error
      response := some frame }
  | .error e => s.encoded .internalError (.error e)

/-- A transition that the table refuses. -/
def refused (s : ControlState σ) : Dispatch σ :=
  s.encoded .internalError (.error ⟨.internalError, .badPayload⟩)

/-- A command that changed the state, with the response encoded before. -/
def succeeded (s : ControlState σ) (frame : Bytes) : Dispatch σ :=
  { state := s.accepted
    status := .responseReady
    commandError := .ok
    response := some frame }

/-- `applySettings`: the candidate, or the settings before it; if neither reads
back, the settings are unknown. -/
def applySettings (s : ControlState σ) (candidate : Settings) : ControlState σ × Bool :=
  let (hardware, ok, readback) := app.apply s.hardware candidate
  if ok && readback.settings = candidate && readback.clocks = clocksFor candidate.cpuProfile then
    ({ s with hardware := hardware, activeSettings := readback, settingsKnown := true }, true)
  else
    let (hardware, ok, restored) := app.apply hardware s.activeSettings.settings
    ({ s with
        hardware := hardware
        settingsKnown := ok && restored = s.activeSettings }, false)

/-! ### Legacy commands -/

def kKnownStreamMask : UInt8 := 3

/-- `supportsConfiguration`: every nonempty mask of either source is supported. -/
def supportsConfiguration (source : Source) (streamMask : UInt8) : Bool :=
  source.known && (streamMask = 1 || streamMask = 2 || streamMask = 3)

/-- `validateConfiguration`. -/
def validateConfiguration (c : Configuration) : ErrorCode :=
  if build.releaseFixed1MHz && (c.protocolVersion ≠ V2.kProtocolVersion || c.rateProfile ≠ 4) then
    .unsupportedConfiguration
  else if c.streamMask &&& ~~~kKnownStreamMask ≠ 0 || !c.source.known ||
      c.dataChecksumAlgorithm = ChecksumAlgorithm.noneReserved ||
      c.dataFrameBytes ≠ kDataFrameBytes ||
      c.protocolVersion ≠ V1.kProtocolVersion && c.protocolVersion ≠ V2.kProtocolVersion ||
      c.protocolVersion = V1.kProtocolVersion && (c.auxBankMode ≠ 0 || c.rateProfile ≠ 0) then
    .invalidPayload
  else if c.protocolVersion = V2.kProtocolVersion &&
      (experimental c.auxBankMode c.rateProfile c.legacyV2).isNone then .unsupportedConfiguration
  else if !isSupportedChecksum c.dataChecksumAlgorithm then .unsupportedChecksum
  else if !supportsConfiguration c.source c.streamMask then .unsupportedConfiguration
  else .ok

/-- The settings that a version 2 configuration restores. -/
def legacySettings (c : Configuration) : Settings :=
  { Settings.defaultsFor build.cpuProfile with
    gpioPolicy := 0
    adcPolicy := 0
    streamMask := c.streamMask
    source := c.source
    auxBankMode := c.auxBankMode
    gpioWidthBits := if c.auxBankMode = 1 then 16 else 8
    checksumAlgorithm := c.dataChecksumAlgorithm }

/-- The end of a legacy CONFIGURE, after the settings are in place. -/
def commitConfiguration (s : ControlState σ) (request : Request) (candidate : Configuration)
    (frame : Bytes) : Dispatch σ :=
  match s.transitionTo .configured with
  | (s, false) => s.refused
  | (s, true) =>
    ({ s with
      configuration := candidate
      negotiatedVersion := request.protocolVersion
      hasConfiguration := true }).succeeded frame

/-- Legacy CONFIGURE. -/
def configure (s : ControlState σ) (request : Request) (readiness : DispatchReadiness) :
    Dispatch σ :=
  if s.state ≠ .idle && s.state ≠ .configured then s.reject codec request .invalidState
  else if !readiness.configurationReady || readiness.pendingFrames ≠ 0 || !s.pending.isZero then
    s.reject codec request .busy
  else
    let candidate := { request.configuration with
      legacyV2 := decide (request.protocolVersion = V2.kProtocolVersion) }
    if request.protocolVersion ≠ candidate.protocolVersion then
      s.reject codec request .invalidPayload
    else if validateConfiguration build candidate ≠ .ok then
      s.reject codec request (validateConfiguration build candidate)
    else
      match codec request s.runId (.configure request.configuration) with
      | .error e => s.encoded .internalError (.error e)
      | .ok frame =>
        if candidate.legacyV2 && build.cpuProfile ≠ 0 then
          let settings := legacySettings build candidate
          if !app.supports s.hardware settings then
            s.reject codec request .unsupportedConfiguration
          else
            match s.applySettings app settings with
            | (s, false) => s.reject codec request .internalError
            | (s, true) => s.commitConfiguration request candidate frame
        else s.commitConfiguration request candidate frame

/-- Legacy START. -/
def start (s : ControlState σ) (request : Request) (readiness : DispatchReadiness) : Dispatch σ :=
  if !s.settingsKnown then s.reject codec request .internalError
  else if s.negotiatedVersion ≠ 0 && s.negotiatedVersion ≠ request.protocolVersion then
    s.reject codec request .unsupportedConfiguration
  else if s.state ≠ .configured || !s.hasConfiguration then s.reject codec request .invalidState
  else if !readiness.startReady || readiness.pendingFrames ≠ 0 || !s.pending.isZero then
    s.reject codec request .busy
  else
    let nextRun := nextNonzero s.runId
    match codec request nextRun (.start s.configuration) with
    | .error e => s.encoded .internalError (.error e)
    | .ok frame =>
      match s.transitionTo .running with
      | (s, false) => s.refused
      | (s, true) =>
        ({ s with
          runId := nextRun
          statistics := s.statistics.resetForNewGeneration
          pending := { s.pending with startEpoch := true } }).succeeded frame

/-- Legacy STOP. -/
def stop (s : ControlState σ) (request : Request) : Dispatch σ :=
  if s.negotiatedVersion ≠ 0 && s.negotiatedVersion ≠ request.protocolVersion then
    s.reject codec request .invalidState
  else
    match codec request s.runId .stop with
    | .error e => s.encoded .internalError (.error e)
    | .ok frame =>
      let needsStopSignal := decide (s.state ≠ .idle)
      match s.transitionTo .idle with
      | (s, false) => s.refused
      | (s, true) => (s.clearRun build needsStopSignal).succeeded frame

def resetStats (s : ControlState σ) (request : Request) (readiness : DispatchReadiness) :
    Dispatch σ :=
  if s.state ≠ .idle && s.state ≠ .configured then s.reject codec request .invalidState
  else if !readiness.statisticsResetReady then s.reject codec request .busy
  else
    match codec request s.runId (.resetStats (nextNonzero s.statistics.generation)) with
    | .error e => s.encoded .internalError (.error e)
    | .ok frame => ({ s with statistics := s.statistics.resetForNewGeneration }).succeeded frame

/-- The three diagnostics: in `idle` only, with the runner's report or its error. -/
def diagnostic (s : ControlState σ) (request : Request) (supported : Bool)
    (report : Option Bytes) (error : ErrorCode) (message : Bytes → Message) : Dispatch σ :=
  if !supported then s.reject codec request .unsupportedConfiguration
  else if s.state ≠ .idle then s.reject codec request .invalidState
  else
    match report with
    | none => s.reject codec request error
    | some report => s.encoded .ok (codec request s.runId (message report))

/-- A kind that the switch does not have. -/
def unknownKind (s : ControlState σ) : Dispatch σ :=
  { state := s.rejected .unknownFrameKind
    status := .encodingFailure
    commandError := .unknownFrameKind
    encoding := ⟨.unknownFrameKind, .badKind⟩ }

/-- The switch of `dispatch`; PING is always among the capabilities, and the
GPIO capture diagnostic is not in a release build. -/
def dispatchLegacy (s : ControlState σ) (request : Request) (readiness : DispatchReadiness) :
    Dispatch σ :=
  match request.kind with
  | .getRuntimeHealth =>
    s.encoded .ok (codec request s.runId (.runtimeHealth readiness.runtimeHealth))
  | .getTemperature => s.encoded .ok (codec request s.runId (.temperature readiness.temperature))
  | .info =>
    if !s.settingsKnown then s.reject codec request .internalError
    else s.encoded .ok (codec request s.runId
      (.info s.state (s.appliedConfiguration build) s.hardwareSerial))
  | .getStatus =>
    if !s.settingsKnown then s.reject codec request .internalError
    else s.encoded .ok (codec request s.runId
      (.status s.state (s.appliedConfiguration build) s.statistics))
  | .configure => s.configure build codec app request readiness
  | .start => s.start codec request readiness
  | .stop => s.stop build codec request
  | .resetStats => s.resetStats codec request readiness
  | .ping => s.encoded .ok (codec request s.runId .ping)
  | .checksumBenchmark => s.diagnostic codec request true readiness.checksumBenchmarkResponse
      readiness.checksumBenchmarkError .checksumBenchmark
  | .gpioClockDiagnostic => s.diagnostic codec request true readiness.gpioClockResponse
      readiness.gpioClockError .gpioClockDiagnostic
  | .gpioCaptureDiagnostic => s.diagnostic codec request (!build.releaseFixed1MHz)
      readiness.gpioCaptureResponse readiness.gpioCaptureError .gpioCaptureDiagnostic
  | .getCapabilities => s.unknownKind
  | .getSettings => s.unknownKind

/-! ### Version 3 commands -/

def configureV3 (s : ControlState σ) (request : Request) (readiness : DispatchReadiness) :
    Dispatch σ :=
  if !request.settings.validateV3Settings.isOk then
    s.reject codec request request.settings.validateV3Settings.error
  else if s.state = .running then s.reject codec request .invalidState
  else if !readiness.configurationReady || readiness.pendingFrames ≠ 0 || !s.pending.isZero then
    s.reject codec request .busy
  else if !request.settings.boardSupports || !app.supports s.hardware request.settings then
    s.reject codec request .unsupportedConfiguration
  else
    match codec request s.runId
        (.v3Settings ⟨request.settings, clocksFor request.settings.cpuProfile⟩) with
    | .error e => s.encoded .ok (.error e)
    | .ok frame =>
      match s.applySettings app request.settings with
      | (s, false) => s.reject codec request .internalError
      | (s, true) =>
        let s := { s with configuration := Configuration.idle build, hasConfiguration := false }
        let s := (s.transitionTo .idle).1
        ({ s with negotiatedVersion := V3.kProtocolVersion }).encoded .ok (.ok frame)

def startV3 (s : ControlState σ) (request : Request) (readiness : DispatchReadiness) :
    Dispatch σ :=
  if s.state = .running then s.reject codec request .invalidState
  else if s.negotiatedVersion ≠ 0 && s.negotiatedVersion ≠ V3.kProtocolVersion then
    s.reject codec request .unsupportedConfiguration
  else if !readiness.startReady || readiness.pendingFrames ≠ 0 || !s.pending.isZero then
    s.reject codec request .busy
  else
    let candidate := Configuration.ofSettings s.activeSettings.settings
    if (publicV3Layout candidate.publicSettings).isNone then
      s.reject codec request .unsupportedConfiguration
    else
      let nextRun := nextNonzero s.runId
      match codec request nextRun (.v3Settings s.activeSettings) with
      | .error e => s.encoded .ok (.error e)
      | .ok frame =>
        let s := { s with configuration := candidate, hasConfiguration := true }
        let s := (s.transitionTo .configured).1
        let s := (s.transitionTo .running).1
        ({ s with
          negotiatedVersion := V3.kProtocolVersion
          runId := nextRun
          statistics := s.statistics.resetForNewGeneration
          pending := { s.pending with startEpoch := true } }).encoded .ok (.ok frame)

def statusV3 (s : ControlState σ) (readiness : DispatchReadiness) : V3Status where
  state := if s.state = .running then .running
    else if readiness.pendingFrames ≠ 0 then .draining else .stopped
  pendingFrames := readiness.pendingFrames
  counters := [s.statistics.adc.framesGenerated, s.statistics.adc.framesDropped,
    s.statistics.adc.itemsGenerated, s.statistics.adc.itemsDropped,
    s.statistics.gpio.framesGenerated, s.statistics.gpio.framesDropped,
    s.statistics.gpio.itemsGenerated, s.statistics.gpio.itemsDropped]
  diagnostics := readiness.v3Diagnostics
  diagnosticValidity := readiness.v3DiagnosticValidity

def getStatusV3 (s : ControlState σ) (request : Request) (readiness : DispatchReadiness) :
    Dispatch σ :=
  s.encoded .ok (codec request s.runId (.v3Status (s.statusV3 readiness)))

def stopV3 (s : ControlState σ) (request : Request) (readiness : DispatchReadiness) :
    Dispatch σ :=
  if s.negotiatedVersion ≠ 0 && s.negotiatedVersion ≠ V3.kProtocolVersion then
    s.reject codec request .invalidState
  else if s.state = .running then
    ((s.transitionTo .idle).1.clearRun build true).getStatusV3 codec request readiness
  else s.getStatusV3 codec request readiness

/-- `dispatchV3`. -/
def dispatchV3 (s : ControlState σ) (request : Request) (readiness : DispatchReadiness) :
    Dispatch σ :=
  if !request.kind.isV3 then s.reject codec request .unknownFrameKind
  else if !s.settingsKnown && request.kind ≠ .configure && request.kind ≠ .getCapabilities then
    s.reject codec request .internalError
  else if !s.activeSettings.settings.boardSupports then
    s.reject codec request .unsupportedConfiguration
  else
    match request.kind with
    | .info => s.encoded .ok (codec request s.runId (.v3Info s.hardwareSerial s.activeSettings.clocks))
    | .getCapabilities =>
      s.encoded .ok (codec request s.runId (.v3Capabilities app.defaults (app.supports s.hardware)))
    | .getSettings =>
      if s.negotiatedVersion = V2.kProtocolVersion && s.hasConfiguration &&
          s.configuration.rateProfile ≠ 4 then s.reject codec request .unsupportedConfiguration
      else s.encoded .ok (codec request s.runId (.v3Settings s.activeSettings))
    | .configure => s.configureV3 build codec app request readiness
    | .start => s.startV3 codec request readiness
    | .stop => s.stopV3 build codec request readiness
    | .getStatus => s.getStatusV3 codec request readiness
    | _ => s.encoded .ok (.ok [])

/-- `dispatch`. -/
def dispatch (s : ControlState σ) (request : Request) (readiness : DispatchReadiness) :
    Dispatch σ :=
  if s.state = .boot then
    { state := s, status := .noResponse, commandError := .invalidState }
  else
    match s.rememberRequestId request.requestId with
    | none => s.reject codec request .invalidRequestId
    | some s =>
      if request.protocolVersion = V3.kProtocolVersion then
        s.dispatchV3 build codec app request readiness
      else if s.state = .running && s.negotiatedVersion = V3.kProtocolVersion &&
          (request.kind = .info || request.kind = .getStatus) then
        s.reject codec request .unsupportedConfiguration
      else s.dispatchLegacy build codec app request readiness

end ControlState

end ThingDaq.Control
