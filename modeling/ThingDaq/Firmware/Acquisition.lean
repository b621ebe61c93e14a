import ThingDaq.Lib.Calls
import ThingDaq.Firmware.Settings

/-!
# The acquisition controller

`acquisition::Controller` of `firmware/src/acquisition_controller.cpp`: `start` with its
rollback, `stop`, and the service visit that drains a stopped run.

The rate scheduler, the trigger scheduler, the captures, the packers and the packet
pipeline are called through `Op`, and any of them may answer anything: a hardware fault, a
DMA completion or a resource conflict between two calls shows in the replies.  The
controller's own fields are the state of the programs, so every call comes with the run
flags it was made under.

The compile-time resource contract holds by a static assertion, so the conflicts that it
can raise are left out; so are the error statistics.
-/

namespace ThingDaq.Firmware

open Calls

namespace Acquisition

/-! ### Components -/

inductive Path
  | adc
  | gpio
  | auxGpio
  deriving DecidableEq, Repr

inductive StartStatus
  | ok
  | resourceBusy
  | refused
  deriving DecidableEq, Repr

inductive StopStatus
  | ok
  | notRunning
  | failed
  deriving DecidableEq, Repr

/-- `Snapshot` of a capture, as far as the controller reads it; the reading depth of the
single-bank GPIO capture is its `packing_depth`. -/
structure CaptureSnapshot where
  readyDepth : ℕ := 0
  readingDepth : ℕ := 0
  discardDepth : ℕ := 0
  quiescent : Bool
  faulted : Bool := false
  deriving DecidableEq, Repr

structure PackerSnapshot where
  running : Bool
  quiescent : Bool
  deriving DecidableEq, Repr

structure ServiceReport where
  sourceError : Bool := false
  pipelineError : Bool := false
  deriving DecidableEq, Repr

/-- What a capture is asked to start with; each takes what it needs of it. -/
structure CaptureRequest where
  epoch : UInt32 := 0
  rateProfile : UInt8 := 0
  items : ℕ := 0

structure PipelineView where
  acceptingFrames : Bool
  runId : UInt32
  checksumAlgorithm : ChecksumAlgorithm
  enabledStreamMask : UInt8
  layout : RunLayout

inductive Op
  | rateFaulted
  | rateTransactionActive
  /-- The selected profile, if one is configured. -/
  | rateSelected
  | rateConfigure (profile : UInt8)
  | triggerReady
  | triggerRunning
  | triggerArm
  | triggerStop
  | setAdcModes (legacyV2 publicV3 auxInput : Bool)
  | inspectStart (path : Path) (request : CaptureRequest)
  | prepare (path : Path) (request : CaptureRequest)
  | startCapture (path : Path) (request : CaptureRequest)
  | stopAtBoundaryBeforeTriggers
  | stopCapture (path : Path)
  | stopAfterTriggers (path : Path)
  | serviceOwnership (path : Path)
  | rawSnapshot (path : Path)
  | packerReadyForStart (path : Path)
  | packerStartRun (path : Path) (runId : UInt32) (checksum : ChecksumAlgorithm)
      (epochTicks : UInt64)
  | packerService (path : Path) (rawLimit frameLimit : ℕ)
  | packerSnapshot (path : Path)
  | packerStopProduction (path : Path)
  | pipeline
  | stopProduction

def Op.Reply : Op → Type
  | .rateFaulted | .rateTransactionActive | .rateConfigure _ => Bool
  | .rateSelected => Option UInt8
  | .triggerReady | .triggerRunning | .triggerArm | .triggerStop => Bool
  | .inspectStart _ _ | .prepare _ _ | .startCapture _ _ => StartStatus
  | .stopAtBoundaryBeforeTriggers => Bool
  | .stopCapture _ | .stopAfterTriggers _ => StopStatus
  | .rawSnapshot _ => CaptureSnapshot
  | .packerReadyForStart _ | .packerStartRun _ _ _ _ => Bool
  | .packerService _ _ _ => ServiceReport
  | .packerSnapshot _ => PackerSnapshot
  | .pipeline => PipelineView
  | .setAdcModes _ _ _ | .serviceOwnership _ | .packerStopProduction _ | .stopProduction => Unit

abbrev Components : Interface := ⟨Op, Op.Reply⟩

/-- The components that are there. -/
structure Wiring where
  rateScheduler : Bool
  adcTriggerScheduler : Bool
  capture : Path → Bool
  packer : Path → Bool

/-! ### The controller's fields -/

structure PhysicalRun where
  streamMask : UInt8 := 0
  runId : UInt32 := 0
  epochTicks : UInt64 := 0
  auxBankMode : UInt8 := 0
  rateProfile : UInt8 := 0
  active : Bool := false
  drainPending : Bool := false
  startPending : Bool := false
  deriving DecidableEq, Repr

structure Controller where
  run : PhysicalRun := {}
  previousRateProfile : UInt8 := 0
  restoreRateOnRollback : Bool := false
  deriving DecidableEq, Repr

structure PathReport where
  captureStarted : Bool := false
  capturePrepared : Bool := false
  captureStopped : Bool := false
  packerStarted : Bool := false
  packerStopped : Bool := false
  packer : ServiceReport := {}

structure Report where
  paths : Path → PathReport := fun _ => {}
  adcCaptureBoundaryStopped : Bool := false
  adcTriggerArmed : Bool := false
  adcTriggerStopped : Bool := false
  rateConfigured : Bool := false
  rateRestored : Bool := false
  packetProductionStopped : Bool := false
  physicalDrainPending : Bool := false
  physicalFaultDetected : Bool := false
  internalError : Bool := false
  runId : UInt32 := 0
  epochTicks : UInt64 := 0

def Report.onPath (r : Report) (p : Path) (f : PathReport → PathReport) : Report :=
  { r with paths := Function.update r.paths p (f (r.paths p)) }

abbrev Control := Prog Components Controller

abbrev ask (op : Op) : Control op.Reply := @Prog.invoke Components Controller op

def adcBit : UInt8 := 1

def gpioBit : UInt8 := 2

namespace PhysicalRun

def includesAdc (r : PhysicalRun) : Bool := r.streamMask &&& adcBit ≠ 0

def includesGpio (r : PhysicalRun) : Bool := r.streamMask &&& gpioBit ≠ 0

/-- The GPIO capture and packer that the bank mode selects. -/
def gpioPath (r : PhysicalRun) : Path := if r.auxBankMode = 1 then .auxGpio else .gpio

end PhysicalRun

/-! ### The audit -/

inductive Profile
  | none
  | adc
  | gpio
  | combined
  | invalid
  deriving DecidableEq, Repr

def Profile.includesAdc (p : Profile) : Bool := p = .adc || p = .combined

def Profile.includesGpio (p : Profile) : Bool := p = .gpio || p = .combined

def profileFor (c : Configuration) : Profile :=
  if c.source ≠ Source.hardware then .none
  else if c.streamMask = adcBit then .adc
  else if c.streamMask = gpioBit then .gpio
  else if c.streamMask = adcBit ||| gpioBit then .combined
  else if c.streamMask = 0 then .none
  else .invalid

def usesAuxInput (c : Configuration) : Bool := c.auxBankMode = 1

def gpioPathFor (c : Configuration) : Path := if usesAuxInput c then .auxGpio else .gpio

def adcPairsPerBuffer (c : Configuration) : ℕ :=
  if c.protocolVersion = V3.kProtocolVersion then kDecodedPayloadBytes / 4
  else if usesAuxInput c then 506
  else 1012

/-- `completeConfigurationValid` -/
def completeConfigurationValid (c : Configuration) : Bool :=
  let expected := Configuration.ofSettings c.publicSettings
  if c.protocolVersion = V3.kProtocolVersion &&
      (c.legacyV2 || c.streamMask ≠ expected.streamMask || c.source ≠ expected.source ||
        c.auxBankMode ≠ expected.auxBankMode || c.rateProfile ≠ expected.rateProfile ||
        c.dataChecksumAlgorithm ≠ expected.dataChecksumAlgorithm) then false
  else
    match c.runLayout with
    | none => false
    | some layout =>
      (profileFor c = .adc || profileFor c = .gpio || profileFor c = .combined) &&
        c.dataFrameBytes = max (layout.streams .adc).frameBytes (layout.streams .gpio).frameBytes +
          layout.prefixBytes &&
        isSupportedChecksum c.dataChecksumAlgorithm

inductive Conflict
  | invalidProfile
  | controllerBusy
  | adcComponentsMissing
  | gpioComponentsMissing
  | adcTriggerUnavailable
  | adcTriggerRunning
  | adcPackerBusy
  | adcCaptureUnavailable
  | gpioPackerBusy
  | gpioCaptureUnavailable
  | invalidConfiguration
  | invalidRunId
  | auxGpioComponentsMissing
  | auxGpioPackerBusy
  | auxGpioCaptureUnavailable
  | rateSchedulerUnavailable
  deriving DecidableEq, Repr

/-- `addConflict` when the condition holds. -/
def conflictIf (b : Bool) (conflict : Conflict) : List Conflict := if b then [conflict] else []

/-- What each capture is asked for. -/
def captureRequest (c : Configuration) (epoch : UInt32) : Path → CaptureRequest
  | .adc => { epoch := epoch, items := adcPairsPerBuffer c }
  | .gpio => { rateProfile := c.rateProfile }
  | .auxGpio =>
    { epoch := epoch, rateProfile := c.rateProfile,
      items := match c.runLayout with
        | some layout => (layout.streams .gpio).itemCount
        | none => 0 }

variable (wiring : Wiring)

def inspectRate (c : Configuration) : Control (List Conflict) := do
  if wiring.rateScheduler then
    let faulted : Bool ← ask .rateFaulted
    let transactionActive : Bool ← ask .rateTransactionActive
    pure (conflictIf (faulted || transactionActive) .rateSchedulerUnavailable)
  else pure (conflictIf (!c.usesLegacySchedule) .rateSchedulerUnavailable)

def inspectAdc (c : Configuration) (epoch : UInt32) : Control (List Conflict) := do
  if !wiring.adcTriggerScheduler || !wiring.capture .adc || !wiring.packer .adc then
    pure [.adcComponentsMissing]
  else
    let ready : Bool ← ask .triggerReady
    let running : Bool ← ask .triggerRunning
    let packerReady : Bool ← ask (.packerReadyForStart .adc)
    let status : StartStatus ← ask (.inspectStart .adc (captureRequest c epoch .adc))
    pure (conflictIf (!ready) .adcTriggerUnavailable ++ conflictIf running .adcTriggerRunning ++
      conflictIf (!packerReady) .adcPackerBusy ++
      conflictIf (status ≠ StartStatus.ok) .adcCaptureUnavailable)

/-- The two GPIO paths raise conflicts of their own. -/
def gpioConflicts : Path → Conflict × Conflict × Conflict
  | .auxGpio => (.auxGpioComponentsMissing, .auxGpioPackerBusy, .auxGpioCaptureUnavailable)
  | _ => (.gpioComponentsMissing, .gpioPackerBusy, .gpioCaptureUnavailable)

def inspectGpio (c : Configuration) (epoch : UInt32) : Control (List Conflict) := do
  let path := gpioPathFor c
  let (missing, packerBusy, captureUnavailable) := gpioConflicts path
  if !wiring.capture path || !wiring.packer path then pure [missing]
  else
    let packerReady : Bool ← ask (.packerReadyForStart path)
    let status : StartStatus ← ask (.inspectStart path (captureRequest c epoch path))
    pure (conflictIf (!packerReady) packerBusy ++
      conflictIf (status ≠ StartStatus.ok) captureUnavailable)

/-- `inspect`: the conflicts of the audit. -/
def inspect (c : Configuration) (epoch : UInt32) : Control (List Conflict) := do
  let profile := profileFor c
  if profile = .none || profile = .invalid then pure [.invalidProfile]
  else if !completeConfigurationValid c then pure [.invalidConfiguration]
  else if epoch = 0 then pure [.invalidRunId]
  else
    let s ← Prog.get
    let busy := s.run.active || s.run.drainPending || s.run.startPending
    let rate ← inspectRate wiring c
    let adc ← Prog.ifSo profile.includesAdc (inspectAdc wiring c epoch) []
    let gpio ← Prog.ifSo profile.includesGpio (inspectGpio wiring c epoch) []
    pure (conflictIf busy .controllerBusy ++ rate ++ adc ++ gpio)

def readyForStart (c : Configuration) (epoch : UInt32) : Control Bool := do
  let conflicts ← inspect wiring c epoch
  pure (profileFor c ≠ .none && profileFor c ≠ .invalid && conflicts.isEmpty)

/-! ### START -/

/-- The pipeline has been started for exactly this run. -/
def pipelineMatches (p : PipelineView) (c : Configuration) (runId : UInt32) : Bool :=
  p.acceptingFrames && p.runId = runId && p.checksumAlgorithm = c.dataChecksumAlgorithm &&
    p.enabledStreamMask = c.streamMask &&
    match c.runLayout with
    | none => false
    | some layout =>
      p.layout.streams .adc = layout.streams .adc && p.layout.streams .gpio = layout.streams .gpio &&
        p.layout.auxBankMode = layout.auxBankMode && p.layout.rateProfile = layout.rateProfile &&
        p.layout.protocolVersion = layout.protocolVersion && p.layout.legacyV2 = layout.legacyV2 &&
        p.layout.gpioPolicy = layout.gpioPolicy && p.layout.adcPolicy = layout.adcPolicy

/-- `clearRunState` -/
def clearRunState (_ : Controller) : Controller := {}

/-- The reservation of one run id and one epoch for both paths. -/
def reserve (c : Configuration) (runId : UInt32) (epochTicks : UInt64) (s : Controller) :
    Controller :=
  { s with
    run :=
      { s.run with
        streamMask := c.streamMask
        runId := runId
        epochTicks := epochTicks
        auxBankMode := c.auxBankMode
        rateProfile := c.rateProfile
        startPending := true } }

def commit (s : Controller) : Controller :=
  { s with run := { s.run with startPending := false, active := true, drainPending := false } }

/-- The refusals before the reservation. -/
def refuseStart (report : Report) : Control (Report × Bool) := do
  ask .stopProduction
  pure ({ report with internalError := true, packetProductionStopped := true }, false)

def configureRate (c : Configuration) (report : Report) : Control (Report × Bool) := do
  if wiring.rateScheduler then
    let selected : Option UInt8 ← ask .rateSelected
    Prog.modify fun s => { s with previousRateProfile := selected.getD 0 }
    let configured : Bool ← ask (.rateConfigure c.rateProfile)
    Prog.modify fun s => { s with restoreRateOnRollback := configured }
    pure ({ report with rateConfigured := configured }, configured)
  else pure (report, true)

def startPacker (c : Configuration) (runId : UInt32) (epochTicks : UInt64) (path : Path)
    (report : Report) : Control (Report × Bool) := do
  let started : Bool ← ask (.packerStartRun path runId c.dataChecksumAlgorithm epochTicks)
  pure (report.onPath path fun r => { r with packerStarted := started }, started)

def prepareAdcCapture (c : Configuration) (runId : UInt32) (report : Report) :
    Control (Report × Bool) := do
  ask (.setAdcModes c.legacyV2 (c.protocolVersion = V3.kProtocolVersion) (usesAuxInput c))
  let status : StartStatus ← ask (.prepare .adc (captureRequest c runId .adc))
  let prepared : Bool := status = StartStatus.ok
  pure (report.onPath .adc fun r => { r with capturePrepared := prepared }, prepared)

/-- In the combined profile the common clock starts the GPIO capture later. -/
def startOrPrepare (c : Configuration) (path : Path) (request : CaptureRequest) :
    Control StartStatus :=
  if profileFor c = .combined then ask (.prepare path request)
  else ask (.startCapture path request)

def prepareGpioCapture (c : Configuration) (runId : UInt32) (report : Report) :
    Control (Report × Bool) := do
  let path := gpioPathFor c
  let status ← startOrPrepare c path (captureRequest c runId path)
  let prepared : Bool := status = StartStatus.ok
  pure (report.onPath path fun r =>
    { r with
      capturePrepared := prepared
      captureStarted := profileFor c = .gpio && prepared }, prepared)

def armTrigger (c : Configuration) (report : Report) : Control (Report × Bool) := do
  let armed : Bool ← ask .triggerArm
  let report := { report with adcTriggerArmed := armed }
  if armed && profileFor c = .combined then
    pure (report.onPath (gpioPathFor c) fun r => { r with captureStarted := true }, true)
  else pure (report, armed)

/-- A step of the start that only some profiles have. -/
def stageIf (b : Bool) (stage : Report → Control (Report × Bool)) :
    List (Report → Control (Report × Bool)) :=
  if b then [stage] else []

/-- The steps after the reservation, in order. -/
def startStages (c : Configuration) (runId : UInt32) (epochTicks : UInt64) :
    List (Report → Control (Report × Bool)) :=
  let profile := profileFor c
  [configureRate wiring c] ++
    stageIf profile.includesAdc (startPacker c runId epochTicks .adc) ++
    stageIf profile.includesGpio (startPacker c runId epochTicks (gpioPathFor c)) ++
    stageIf profile.includesAdc (prepareAdcCapture c runId) ++
    stageIf profile.includesGpio (prepareGpioCapture c runId) ++
    stageIf profile.includesAdc (armTrigger c)

/-- The first step that fails ends the start. -/
def runStages : List (Report → Control (Report × Bool)) → Report → Control (Report × Bool)
  | [], report => pure (report, true)
  | stage :: rest, report => do
    let (report, ok) ← stage report
    if ok then runStages rest report else pure (report, false)

/-- The single-bank capture alone has a clock of its own to stop. -/
def stopPrepared (profile : Profile) (path : Path) : Control StopStatus :=
  if path = .gpio && profile ≠ .combined then ask (.stopCapture path)
  else ask (.stopAfterTriggers path)

/-- Undo of one capture in `rollbackStart`. -/
def rollbackCapture (profile : Profile) (path : Path) (report : Report) : Control Report := do
  if (report.paths path).capturePrepared then
    let _ ← stopPrepared profile path
    pure (report.onPath path fun r => { r with captureStopped := true })
  else pure report

def rollbackPacker (path : Path) (report : Report) : Control Report := do
  if (report.paths path).packerStarted then
    ask (.packerStopProduction path)
    pure (report.onPath path fun r => { r with packerStopped := true })
  else pure report

def rollbackTrigger (profile : Profile) (report : Report) : Control Report := do
  if profile.includesAdc then
    let running : Bool ← ask .triggerRunning
    if running then
      let stopped : Bool ← ask .triggerStop
      pure { report with adcTriggerStopped := stopped }
    else pure report
  else pure report

def restoreRate (report : Report) : Control Report := do
  let s ← Prog.get
  if s.restoreRateOnRollback && wiring.rateScheduler then
    let restored : Bool ← ask (.rateConfigure s.previousRateProfile)
    pure { report with rateRestored := restored }
  else pure report

/-- `rollbackStart` up to the pipeline. -/
def rollbackSources (profile : Profile) (report : Report) : Control Report := do
  let report ← rollbackTrigger profile report
  let report ← Prog.ifSo profile.includesGpio (rollbackCapture profile .gpio report) report
  let report ← Prog.ifSo profile.includesGpio (rollbackCapture profile .auxGpio report) report
  let report ← Prog.ifSo profile.includesAdc (rollbackCapture profile .adc report) report
  let report ← rollbackPacker .gpio report
  let report ← rollbackPacker .auxGpio report
  let report ← rollbackPacker .adc report
  restoreRate wiring report

def rollbackStart (profile : Profile) (report : Report) : Control Report := do
  let report ← rollbackSources wiring profile report
  ask .stopProduction
  Prog.modify clearRunState
  pure { report with packetProductionStopped := true, internalError := true }

/-- The start after its reservation. -/
def attemptStart (c : Configuration) (runId : UInt32) (epochTicks : UInt64) (report : Report) :
    Control (Report × Bool) := do
  let (report, started) ← runStages (startStages wiring c runId epochTicks) report
  if started then
    Prog.modify commit
    pure (report, true)
  else
    let report ← rollbackStart wiring (profileFor c) report
    pure (report, false)

def start (c : Configuration) (runId : UInt32) (epochTicks : UInt64) (report : Report) :
    Control (Report × Bool) := do
  let report := { report with runId := runId, epochTicks := epochTicks }
  let ready ← readyForStart wiring c runId
  if ready then
    let pipeline : PipelineView ← ask .pipeline
    if pipelineMatches pipeline c runId then
      Prog.modify (reserve c runId epochTicks)
      attemptStart wiring c runId epochTicks report
    else refuseStart report
  else refuseStart report

/-! ### STOP -/

/-- A capture that does not stop well is an error of the report. -/
def stopWith (op : Op) (reply : op.Reply → StopStatus) (path : Path) (report : Report) :
    Control Report := do
  let status ← ask op
  let report := report.onPath path fun r => { r with captureStopped := true }
  pure { report with internalError := report.internalError || reply status = StopStatus.failed }

/-- `stopAdcPath` -/
def stopAdcPath (report : Report) : Control (Report × Bool) := do
  let boundary : Bool ← ask .stopAtBoundaryBeforeTriggers
  let report :=
    { report with
      adcCaptureBoundaryStopped := boundary
      internalError := report.internalError || !boundary }
  let stopped : Bool ← ask .triggerStop
  let report := { report with adcTriggerStopped := stopped }
  if !stopped then pure ({ report with internalError := true }, false)
  else
    let report ← stopWith (.stopAfterTriggers .adc) id .adc report
    pure (report, true)

/-- `stopCombinedPaths`: the common clock first, then the three DMA channels. -/
def stopCombinedPaths (report : Report) : Control (Report × Bool) := do
  let stopped : Bool ← ask .triggerStop
  let report := { report with adcTriggerStopped := stopped }
  if !stopped then pure ({ report with internalError := true }, false)
  else
    let s ← Prog.get
    let report ← stopWith (.stopAfterTriggers s.run.gpioPath) id s.run.gpioPath report
    let report ← stopWith (.stopAfterTriggers .adc) id .adc report
    pure (report, true)

def stopGpioPath (report : Report) : Control (Report × Bool) := do
  let s ← Prog.get
  let report ← stopWith (.stopCapture s.run.gpioPath) id s.run.gpioPath report
  pure (report, true)

/-- The paths of the stream mask; `none` for a mask that no run has. -/
def stopPaths (streamMask : UInt8) (report : Report) : Option (Control (Report × Bool)) :=
  if streamMask = adcBit ||| gpioBit then some (stopCombinedPaths report)
  else if streamMask = adcBit then some (stopAdcPath report)
  else if streamMask = gpioBit then some (stopGpioPath report)
  else none

def awaitDrain (s : Controller) : Controller := { s with run := { s.run with drainPending := true } }

def beginDrain (s : Controller) : Controller :=
  { s with run := { s.run with active := false, drainPending := true } }

def stop (report : Report) : Control (Report × Bool) := do
  let s ← Prog.get
  let report := { report with runId := s.run.runId, epochTicks := s.run.epochTicks }
  if !s.run.active then pure ({ report with physicalDrainPending := s.run.drainPending }, true)
  else
    match stopPaths s.run.streamMask report with
    | none => pure ({ report with internalError := true }, false)
    | some paths =>
      let (report, stopped) ← paths
      if stopped then
        Prog.modify beginDrain
        pure ({ report with physicalDrainPending := true }, true)
      else
        -- the run stays active, and the next service visit tries again
        Prog.modify awaitDrain
        pure ({ report with physicalDrainPending := true }, false)

/-! ### Service -/

def serviceAdcPath (draining : Bool) (report : Report) : Control Report := do
  ask (.serviceOwnership .adc)
  let serviced : ServiceReport ← ask (.packerService .adc (if draining then 8 else 2) 0)
  pure (report.onPath .adc fun r => { r with packer := serviced })

def serviceGpioPath (draining : Bool) (report : Report) : Control Report := do
  let s ← Prog.get
  let limit := if draining then 4 else 2
  if s.run.gpioPath = .auxGpio then
    ask (.serviceOwnership .auxGpio)
    let serviced : ServiceReport ← ask (.packerService .auxGpio limit 0)
    pure (report.onPath .auxGpio fun r => { r with packer := serviced })
  else
    let serviced : ServiceReport ← ask (.packerService .gpio limit limit)
    pure (report.onPath .gpio fun r => { r with packer := serviced })

/-- Nothing is left for the packer.  The single-bank capture has no discarded buffers. -/
def CaptureSnapshot.drained (c : CaptureSnapshot) (path : Path) : Bool :=
  c.readyDepth = 0 && c.readingDepth = 0 && (path = .gpio || c.discardDepth = 0)

/-- The snapshots of one path; a packer with nothing left to pack is stopped between. -/
def drainPath (path : Path) (report : Report) :
    Control (Report × CaptureSnapshot × PackerSnapshot) := do
  let capture : CaptureSnapshot ← ask (.rawSnapshot path)
  let packer : PackerSnapshot ← ask (.packerSnapshot path)
  if capture.drained path && packer.running then
    ask (.packerStopProduction path)
    let packer : PackerSnapshot ← ask (.packerSnapshot path)
    pure (report.onPath path fun r => { r with packerStopped := true }, capture, packer)
  else pure (report, capture, packer)

def adcPathDrained (report : Report) : Control (Report × Bool) := do
  let (report, capture, packer) ← drainPath .adc report
  pure (report, capture.quiescent && packer.quiescent)

/-- The branch of `gpioPathDrained` for the dual-bank capture. -/
def auxGpioPathDrained (report : Report) : Control (Report × Bool) := do
  ask (.serviceOwnership .auxGpio)
  let (report, capture, packer) ← drainPath .auxGpio report
  pure (report, capture.quiescent && packer.quiescent)

def gpioPathDrained (report : Report) : Control (Report × Bool) := do
  let s ← Prog.get
  if s.run.gpioPath = .auxGpio then auxGpioPathDrained report
  else
    let (report, capture, packer) ← drainPath .gpio report
    if !packer.running && !packer.quiescent then
      -- complete frames may still wait in the packed ring
      let serviced : ServiceReport ← ask (.packerService .gpio 0 4)
      let packer : PackerSnapshot ← ask (.packerSnapshot .gpio)
      pure (report.onPath .gpio fun r => { r with packer := serviced },
        capture.quiescent && packer.quiescent)
    else pure (report, capture.quiescent && packer.quiescent)

def captureFaulted (enabled : Bool) (path : Path) : Control Bool := do
  if enabled && wiring.capture path then
    let capture : CaptureSnapshot ← ask (.rawSnapshot path)
    pure capture.faulted
  else pure false

def activePathFaulted : Control Bool := do
  let s ← Prog.get
  let adc ← captureFaulted wiring s.run.includesAdc .adc
  if adc then pure true else captureFaulted wiring s.run.includesGpio s.run.gpioPath

/-- The components of the enabled paths are there, and there is such a path. -/
def serviceable (r : PhysicalRun) : Bool :=
  (r.includesAdc || r.includesGpio) &&
    (!r.includesAdc || (wiring.capture .adc && wiring.packer .adc)) &&
    (!r.includesGpio || (wiring.capture r.gpioPath && wiring.packer r.gpioPath))

def Report.packerFailed (report : Report) (path : Path) : Bool :=
  (report.paths path).packer.sourceError || (report.paths path).packer.pipelineError

/-- The stop that a fault, or an earlier stop that failed, asks for. -/
def stopFirst (report : Report) : Control (Report × Bool) := do
  let s ← Prog.get
  let faulted ← Prog.ifSo s.run.active (activePathFaulted wiring) false
  if faulted then stop { report with physicalFaultDetected := true, internalError := true }
  else if s.run.drainPending && s.run.active then stop report
  else pure (report, true)

def servicePaths (report : Report) : Control Report := do
  let s ← Prog.get
  let report ← Prog.ifSo s.run.includesAdc (serviceAdcPath s.run.drainPending report) report
  Prog.ifSo s.run.includesGpio (serviceGpioPath s.run.drainPending report) report

/-- The stop after an error of a packer. -/
def stopFailed (report : Report) : Control (Report × Bool) := do
  let s ← Prog.get
  let failed : Bool :=
    (s.run.includesAdc && report.packerFailed .adc) ||
      (s.run.includesGpio && report.packerFailed s.run.gpioPath)
  if s.run.active && failed then
    stop { report with physicalFaultDetected := true, internalError := true }
  else pure (report, true)

/-- The end of a visit: a run with both paths drained is over. -/
def finishDrain (report : Report) : Control Report := do
  let s ← Prog.get
  if !s.run.drainPending then pure { report with physicalDrainPending := false }
  else
    let (report, adcDrained) ← Prog.ifSo s.run.includesAdc (adcPathDrained report) (report, true)
    let (report, gpioDrained) ← Prog.ifSo s.run.includesGpio (gpioPathDrained report) (report, true)
    if adcDrained && gpioDrained then
      ask .stopProduction
      Prog.modify clearRunState
      pure { report with packetProductionStopped := true, physicalDrainPending := false }
    else pure { report with physicalDrainPending := true }

def service (report : Report) : Control Report := do
  let s ← Prog.get
  let report := { report with runId := s.run.runId, epochTicks := s.run.epochTicks }
  if !s.run.active && !s.run.drainPending then pure { report with physicalDrainPending := false }
  else
    let (report, stopped) ← stopFirst wiring report
    if !stopped then pure { report with physicalDrainPending := true }
    else
      let s ← Prog.get
      if !serviceable wiring s.run then
        pure { report with internalError := true, physicalDrainPending := s.run.drainPending }
      else
        let report ← servicePaths report
        let (report, stopped) ← stopFailed report
        if !stopped then pure { report with physicalDrainPending := true }
        else finishDrain report

/-! ### Sessions -/

/-- A call of the controller, with what its caller has in the report so far. -/
inductive Command
  | start (configuration : Configuration) (runId : UInt32) (epochTicks : UInt64) (report : Report)
  | stop (report : Report)
  | service (report : Report)

def perform : Command → Control (Report × Bool)
  | .start configuration runId epochTicks report => start wiring configuration runId epochTicks report
  | .stop report => stop report
  | .service report => do
    let report ← service wiring report
    pure (report, true)

/-- The run id that a start is made with. -/
def Command.startId : Command → Option UInt32
  | .start _ runId _ _ => some runId
  | _ => none

def Command.isService : Command → Bool
  | .service _ => true
  | _ => false

structure Step where
  command : Command
  before : Controller
  outcome : Outcome Components Controller (Report × Bool)

/-- The commands one after the other, in a world that has seen the calls in `past`. -/
def history (env : Env Components Controller) :
    Controller → List (Call Components Controller) → List Command → List Step
  | _, _, [] => []
  | s, past, command :: rest =>
    let outcome := (perform wiring command).run env s past
    ⟨command, s, outcome⟩ :: history env outcome.state (past ++ outcome.calls) rest

end Acquisition

end ThingDaq.Firmware
