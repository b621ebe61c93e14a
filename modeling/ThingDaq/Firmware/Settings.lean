import ThingDaq.Pipeline.Layout

/-!
# Settings and configurations

`firmware/src/v3_settings.h` and the `Configuration` of `protocol.h`.  A settings
record is twenty bytes on the wire; here it is the fields of those bytes, so two
records are equal exactly when their bytes are.

A `Configuration` keeps the source, bank mode and rate profile as the bytes they
arrived in: the checks on unknown values are part of the code.

## Main definitions

* `boardSupports` — membership in the generated table of selectable settings.
* `publicConfiguration`, `runLayout` — what a version 3 or an older configuration
  asks of the data path.
-/

namespace ThingDaq

open Wire

/-- The build options that the control plane reads. -/
structure Build where
  releaseFixed1MHz : Bool
  /-- `kBuildCpuProfile`: 1 for 600 MHz, 2 for 450 MHz, 0 for a research clock. -/
  cpuProfile : UInt8

abbrev Source := UInt8

namespace Source

def hardware : Source := 0
def synthetic : Source := 1

def known (s : Source) : Bool := s = hardware || s = synthetic

end Source

def AuxBankMode.ofByte (b : UInt8) : Option AuxBankMode :=
  if b = 0 then some .disabled else if b = 1 then some .input else none

def RateProfile.ofByte (b : UInt8) : Option RateProfile :=
  match b.toNat with
  | 0 => some .adc1mhzGpio4mhz
  | 1 => some .adc500khzGpio2mhz
  | 2 => some .adc250khzGpio1mhz
  | 3 => some .adc125khzGpio500khz
  | 4 => some .adc1mhzGpio1mhz
  | _ => none

/-- A settings record. -/
structure Settings where
  streamMask : UInt8 := 0
  source : Source := 0
  checksumAlgorithm : UInt8 := 0
  wireVersion : UInt8 := 0
  cpuProfile : UInt8 := 0
  rateProfile : UInt8 := 0
  auxBankMode : UInt8 := 0
  gpioWidthBits : UInt8 := 0
  gpioPolicy : UInt8 := 0
  adcPolicy : UInt8 := 0
  adcResolutionBits : UInt8 := 0
  reserved : UInt8 := 0
  adcPairRateHz : UInt32 := 0
  gpioSampleRateHz : UInt32 := 0
  deriving DecidableEq, Repr

namespace Settings

/-- The rows of `kSelectableConfigurations`: every stream mask, source, bank mode
and, at 600 MHz, every codec policy; 450 MHz has raw frames only. -/
def boardSupports (s : Settings) : Bool :=
  1 ≤ s.streamMask.toNat && s.streamMask.toNat ≤ 3 && s.source.known &&
    s.checksumAlgorithm = 1 && s.wireVersion = 3 && s.rateProfile = 4 &&
    (s.auxBankMode = 0 && s.gpioWidthBits = 8 || s.auxBankMode = 1 && s.gpioWidthBits = 16) &&
    (s.cpuProfile = 1 && s.gpioPolicy.toNat ≤ 1 && s.adcPolicy.toNat ≤ 1 ||
      s.cpuProfile = 2 && s.gpioPolicy = 0 && s.adcPolicy = 0) &&
    s.adcResolutionBits = 12 && s.reserved = 0 && s.adcPairRateHz = 1000000 &&
    s.gpioSampleRateHz = 1000000

/-- `kBoardDefaults`. -/
def boardDefaults : Settings :=
  { streamMask := 3, source := 0, checksumAlgorithm := 1, wireVersion := 3, cpuProfile := 1
    rateProfile := 4, auxBankMode := 0, gpioWidthBits := 8, gpioPolicy := 1, adcPolicy := 1
    adcResolutionBits := 12, reserved := 0, adcPairRateHz := 1000000
    gpioSampleRateHz := 1000000 }

def defaultsFor (profile : UInt8) : Settings :=
  let value := { boardDefaults with cpuProfile := profile }
  if value.boardSupports then value
  else
    let raw := { value with gpioPolicy := 0, adcPolicy := 0 }
    if raw.boardSupports then raw else {}

/-- `validateV3Settings`; the length is fixed by the type. -/
def validateV3Settings (s : Settings) : Result :=
  if s.streamMask = 0 || 3 < s.streamMask.toNat || 1 < s.source.toNat ||
      s.checksumAlgorithm ≠ 1 || s.wireVersion ≠ 3 ||
      s.cpuProfile ≠ 1 && s.cpuProfile ≠ 2 || s.rateProfile ≠ 4 || 1 < s.auxBankMode.toNat ||
      s.gpioWidthBits ≠ 8 && s.gpioWidthBits ≠ 16 || 1 < s.gpioPolicy.toNat ||
      1 < s.adcPolicy.toNat || s.adcResolutionBits ≠ 12 || s.reserved ≠ 0 then Result.badPayload
  else if s.adcPairRateHz ≠ 0 && s.gpioSampleRateHz ≠ 0 then Result.success
  else Result.badPayload

end Settings

/-- Every profile has settings that the board supports, or none at all. -/
example : (Settings.defaultsFor 1).boardSupports = true ∧ (Settings.defaultsFor 2).boardSupports = true ∧
    Settings.defaultsFor 0 = {} := by decide

/-- `clocksFor`: the generated record of a CPU profile. -/
def clocksFor (profile : UInt8) : Bytes :=
  match profile.toNat with
  | 1 => [1, 0, 0, 0, 0, 70, 195, 35, 128, 209, 240, 8, 96, 52, 60, 2, 0, 54, 110, 1, 0, 18, 122, 0]
  | 2 => [2, 0, 0, 0, 128, 116, 210, 26, 128, 209, 240, 8, 96, 52, 60, 2, 0, 54, 110, 1, 0, 18, 122, 0]
  | _ => List.replicate 24 0

/-- `settings::Applied`. -/
structure Applied where
  settings : Settings
  clocks : Bytes
  deriving DecidableEq, Repr

/-! ### Configurations -/

structure Configuration where
  streamMask : UInt8 := 0
  source : Source := Source.hardware
  dataChecksumAlgorithm : ChecksumAlgorithm := ChecksumAlgorithm.adler32
  dataFrameBytes : ℕ := kDataFrameBytes
  auxBankMode : UInt8 := 0
  rateProfile : UInt8 := 0
  protocolVersion : UInt8 := V1.kProtocolVersion
  legacyV2 : Bool := false
  publicSettings : Settings := {}
  deriving DecidableEq, Repr

namespace Configuration

/-- `kIdleConfiguration`; the release build defaults to version 2 at 1 MHz. -/
def idle (build : Build) : Configuration :=
  { rateProfile := if build.releaseFixed1MHz then 4 else 0
    protocolVersion := if build.releaseFixed1MHz then V2.kProtocolVersion else V1.kProtocolVersion }

/-- `publicConfiguration`. -/
def ofSettings (s : Settings) : Configuration :=
  { streamMask := s.streamMask
    source := s.source
    dataChecksumAlgorithm := ChecksumAlgorithm.adler32
    dataFrameBytes := kDecodedPayloadBytes + 60
    auxBankMode := s.auxBankMode
    rateProfile := 4
    protocolVersion := V3.kProtocolVersion
    publicSettings := s }

end Configuration

/-- The layout of a bank mode and a rate profile, in a build without the
equal-rate and the large-frame experiment. -/
def experimentalLayout (mode : AuxBankMode) (profile : RateProfile) (legacyV2 : Bool) :
    RunLayout where
  streams
    | .adc => makeFrameLayout (if mode = .input then 506 else 1012) 4
        (timingFor profile).adcPairPeriodTicks
    | .gpio => makeFrameLayout (if mode = .input then 2024 else 4048)
        (if mode = .input then 2 else 1) (timingFor profile).gpioSamplePeriodTicks
  auxBankMode := mode
  rateProfile := profile
  protocolVersion := V2.kProtocolVersion
  legacyV2 := legacyV2

/-- A layout that passes the pipeline's admission test. -/
def RunLayout.admitted (l : RunLayout) : Option RunLayout := if l.valid then some l else none

theorem RunLayout.valid_of_admitted {l l' : RunLayout} (h : l.admitted = some l') :
    l'.valid = true := by
  simp only [admitted] at h
  split at h
  · cases h
    assumption
  · cases h

/-- `stream_layout::experimental`. -/
def experimental (mode profile : UInt8) (legacyV2 : Bool) : Option RunLayout :=
  match AuxBankMode.ofByte mode, RateProfile.ofByte profile with
  | some mode, some profile => (experimentalLayout mode profile legacyV2).admitted
  | _, _ => none

/-- `stream_layout::publicV3` of a settings record. -/
def publicV3Layout (s : Settings) : Option RunLayout :=
  match s.boardSupports, AuxBankMode.ofByte s.auxBankMode with
  | true, some mode => (publicV3 mode (if s.gpioPolicy = 0 then .raw else .rleAuto)
      (if s.adcPolicy = 0 then .raw else .pack12)).admitted
  | _, _ => none

/-- `usesLegacySchedule`. -/
def Configuration.usesLegacySchedule (c : Configuration) : Bool :=
  c.protocolVersion = V1.kProtocolVersion && c.auxBankMode = 0 && c.rateProfile = 0

/-- `Controller::runLayout`. -/
def Configuration.runLayout (c : Configuration) : Option RunLayout :=
  if c.protocolVersion = V3.kProtocolVersion then publicV3Layout c.publicSettings
  else if c.usesLegacySchedule then some legacyLayout
  else experimental c.auxBankMode c.rateProfile c.legacyV2

/-- A layout that the controller can run passes the pipeline's admission test. -/
theorem Configuration.runLayout_valid {c : Configuration} {l : RunLayout}
    (h : c.runLayout = some l) : l.valid = true := by
  simp only [runLayout] at h
  split at h
  · simp only [publicV3Layout] at h
    split at h
    · exact RunLayout.valid_of_admitted h
    · cases h
  · split at h
    · cases h
      exact legacyLayout_valid
    · simp only [experimental] at h
      split at h
      · exact RunLayout.valid_of_admitted h
      · cases h

end ThingDaq
