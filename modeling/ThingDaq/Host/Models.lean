import ThingDaq.Host.Alignment
import ThingDaq.Host.Reader

/-!
# The host's records

The records of `daq_api/src/thingdone_daq/models.py` and `models_v3.py` that the
background reader makes of frames and keeps: the configuration of a run, a decoded
block, and the two kinds of report about blocks the consumer will not see.

A constructor that raises is an `Option` here; every such error is a `ValueError`.
-/

namespace ThingDaq.Host

open Alignment (Block)
open Reader.ReaderState (supportedChecksum)

/-! ### The configuration of a run -/

/-- `DAQConfiguration`, with the checks of its `__post_init__`.  The size of a data
frame is fixed. -/
structure DAQConfiguration where
  adc : Bool
  gpio : Bool
  source : Alignment.Source
  dataChecksumAlgorithm : ChecksumAlgorithm
  auxBankMode : Alignment.AuxBankMode
  rateProfile : Alignment.RateProfile
  controlOnly : adc = false → gpio = false →
    source = .hardware ∧ auxBankMode = .disabled ∧
      (rateProfile = .adc1MhzGpio4Mhz ∨ rateProfile = .adc1MhzGpio1Mhz)
  auxiliary : auxBankMode = .input → gpio = true
  checksum : supportedChecksum dataChecksumAlgorithm = true
  deriving DecidableEq

namespace DAQConfiguration

/-- `protocol_version`: 1 for the legacy default alone. -/
def protocolVersion (c : DAQConfiguration) : ℕ :=
  if c.auxBankMode = .disabled ∧ c.rateProfile = .adc1MhzGpio4Mhz then 1 else 2

/-- A disabled bank asks nothing of the streams. -/
theorem auxiliary_disabled {gpio : Bool} (h : Alignment.AuxBankMode.disabled = .input) :
    gpio = true := by
  cases h

end DAQConfiguration

inductive GpioPolicy
  | raw
  | rleAuto
  deriving DecidableEq, Repr

inductive AdcPolicy
  | raw
  | pack12
  deriving DecidableEq, Repr

/-- `V3Settings`: what the rows of `SELECTABLE_CONFIGURATIONS` differ in, the CPU
profile apart. -/
structure V3Settings where
  adc : Bool
  gpio : Bool
  source : Alignment.Source
  auxBankMode : Alignment.AuxBankMode
  gpioPolicy : GpioPolicy
  adcPolicy : AdcPolicy
  streams : adc = true ∨ gpio = true
  deriving DecidableEq

def V3Settings.gpioWidthBits (s : V3Settings) : ℕ :=
  match s.auxBankMode with
  | .disabled => 8
  | .input => 16

/-! ### Blocks -/

/-- An `ADCBlock` or a `GPIOBlock`, with the algorithm that validated its frame. -/
structure DataBlock extends Block where
  checksumAlgorithm : ChecksumAlgorithm
  deriving DecidableEq, Repr

/-! ### Losses of the host's own queue -/

/-- `HostQueueLoss` -/
structure HostQueueLoss where
  kind : Alignment.FrameKind
  source : Alignment.Source
  runId : ℕ
  firstSequence : ℕ
  lastSequence : ℕ
  firstSampleTicks : ℕ
  endSampleTicks : ℕ
  droppedBlocks : ℕ
  droppedItems : ℕ
  firmwareGapBlocks : ℕ
  firmwareOverrunBlocks : ℕ
  contiguous : Bool
  periodTicks : ℕ
  frameItemCount : ℕ
  variableFrameItems : Bool
  deriving DecidableEq, Repr

namespace HostQueueLoss

/-- `__post_init__` -/
def check (l : HostQueueLoss) : Bool :=
  0 < l.periodTicks && 0 < l.frameItemCount &&
    l.runId < 2 ^ 32 && l.firstSequence < 2 ^ 32 && l.lastSequence < 2 ^ 32 &&
    l.firstSampleTicks < 2 ^ 64 && l.endSampleTicks < 2 ^ 64 &&
    l.runId ≠ 0 && l.droppedBlocks ≠ 0 && l.droppedItems ≠ 0 &&
    (if l.variableFrameItems then l.droppedBlocks ≤ l.droppedItems
      else l.droppedItems = l.droppedBlocks * l.frameItemCount) &&
    l.firmwareGapBlocks ≤ l.droppedBlocks && l.firmwareOverrunBlocks ≤ l.firmwareGapBlocks &&
    (!l.contiguous ||
      l.lastSequence = (l.firstSequence + l.droppedBlocks - 1) % 2 ^ 32 &&
      l.endSampleTicks = (l.firstSampleTicks + l.droppedItems * l.periodTicks) % 2 ^ 64)

def checked (l : HostQueueLoss) : Option HostQueueLoss := if l.check then some l else none

/-- `from_block` -/
def fromBlock (b : DataBlock) : Option HostQueueLoss :=
  checked
    { kind := b.kind
      source := b.source
      runId := b.runId
      firstSequence := b.sequence
      lastSequence := b.sequence
      firstSampleTicks := b.firstSampleTicks
      endSampleTicks := b.endTickExclusive
      droppedBlocks := 1
      droppedItems := b.itemCount
      firmwareGapBlocks := b.gapBefore.toNat
      firmwareOverrunBlocks := b.overrunBefore.toNat
      contiguous := true
      periodTicks := b.periodTicks
      frameItemCount := b.itemCount
      variableFrameItems := b.protocolVersion = 3 }

/-- The part of `can_merge` that `aggregated_with` asks for. -/
def related (l m : HostQueueLoss) : Bool :=
  l.kind = m.kind && l.source = m.source && l.runId = m.runId && l.periodTicks = m.periodTicks &&
    l.variableFrameItems = m.variableFrameItems &&
    (l.variableFrameItems || l.frameItemCount = m.frameItemCount)

/-- `can_merge` -/
def canMerge (l m : HostQueueLoss) : Bool :=
  l.related m && m.firstSequence = (l.lastSequence + 1) % 2 ^ 32 &&
    m.firstSampleTicks = l.endSampleTicks

/-- The record both `merged_with` and `aggregated_with` build. -/
def joined (l m : HostQueueLoss) (contiguous : Bool) : Option HostQueueLoss :=
  checked
    { l with
      lastSequence := m.lastSequence
      endSampleTicks := m.endSampleTicks
      droppedBlocks := l.droppedBlocks + m.droppedBlocks
      droppedItems := l.droppedItems + m.droppedItems
      firmwareGapBlocks := l.firmwareGapBlocks + m.firmwareGapBlocks
      firmwareOverrunBlocks := l.firmwareOverrunBlocks + m.firmwareOverrunBlocks
      contiguous := contiguous }

/-- `aggregated_with` -/
def aggregatedWith (l m : HostQueueLoss) : Option HostQueueLoss :=
  if l.related m = false then none
  else l.joined m (l.canMerge m && l.contiguous && m.contiguous)

end HostQueueLoss

/-! ### Anomalies -/

/-- The `StreamAnomaly` of a stale run, which is the only one the reader makes. -/
structure StaleRun where
  kind : Alignment.FrameKind
  source : Alignment.Source
  activeRunId : ℕ
  observedRunId : ℕ
  observedSequence : ℕ
  observedFirstSampleTicks : ℕ
  gapBefore : Bool
  overrunBefore : Bool
  occurrences : ℕ
  deriving DecidableEq, Repr

namespace StaleRun

/-- `__post_init__`, with that of the `FirmwareLossEvidence` in it. -/
def check (a : StaleRun) : Bool :=
  a.activeRunId < 2 ^ 32 && a.observedRunId < 2 ^ 32 && a.activeRunId ≠ 0 &&
    a.observedRunId ≠ 0 && a.observedSequence < 2 ^ 32 && a.observedFirstSampleTicks < 2 ^ 64 &&
    a.occurrences ≠ 0 && (!a.overrunBefore || a.gapBefore)

def checked (a : StaleRun) : Option StaleRun := if a.check then some a else none

/-- `stale_run` -/
def ofBlock (b : DataBlock) (activeRunId : ℕ) : Option StaleRun :=
  checked
    { kind := b.kind
      source := b.source
      activeRunId := activeRunId
      observedRunId := b.runId
      observedSequence := b.sequence
      observedFirstSampleTicks := b.firstSampleTicks
      gapBefore := b.gapBefore
      overrunBefore := b.overrunBefore
      occurrences := 1 }

/-- `merged_with` -/
def mergedWith (a b : StaleRun) : Option StaleRun :=
  if a.kind = b.kind ∧ a.source = b.source ∧ a.activeRunId = b.activeRunId ∧
      a.observedRunId = b.observedRunId then
    checked { b with occurrences := a.occurrences + b.occurrences }
  else none

end StaleRun

/-- `ReaderStreamReport` -/
inductive StreamReport
  | queueLoss (loss : HostQueueLoss)
  | anomaly (stale : StaleRun)
  deriving DecidableEq, Repr

def StreamReport.isAnomaly : StreamReport → Bool
  | .anomaly _ => true
  | .queueLoss _ => false

end ThingDaq.Host
