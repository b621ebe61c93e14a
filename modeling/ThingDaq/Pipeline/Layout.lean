import ThingDaq.Protocol.Frame

/-!
# Stream layouts

`firmware/src/stream_layout.h`: how many items a data frame of each stream
carries, how wide they are and how much time they cover.  A `FrameLayout`
describes decoded samples; version 3 adds a 12-byte prefix on the wire
(`prefixBytes`).

`RunLayout.valid` is the firmware's admission test; `RunSetup` carries a layout
and a checksum with the proofs that `startRun` admitted them.
-/

namespace ThingDaq

inductive Stream
  | adc
  | gpio
  deriving DecidableEq, Repr

namespace Stream

/-- The other stream, `(index + 1) % kStreamCount`. -/
def peer : Stream → Stream
  | adc => gpio
  | gpio => adc

def bit : Stream → UInt8
  | adc => 1
  | gpio => 2

def frameKind : Stream → FrameKind
  | adc => FrameKind.adcData
  | gpio => FrameKind.gpioData

def index : Stream → ℕ
  | adc => 0
  | gpio => 1

@[simp] theorem peer_peer (s : Stream) : s.peer.peer = s := by cases s <;> rfl

theorem peer_ne (s : Stream) : s.peer ≠ s := by cases s <;> decide

end Stream

def kAllStreamMask : UInt8 := 3

def validStreamMask (mask : UInt8) : Bool := mask ≠ 0 && mask &&& ~~~kAllStreamMask = 0

def streamEnabled (mask : UInt8) (s : Stream) : Bool := mask &&& s.bit ≠ 0

inductive AuxBankMode
  | disabled
  | input
  deriving DecidableEq, Repr

inductive RateProfile
  | adc1mhzGpio4mhz
  | adc500khzGpio2mhz
  | adc250khzGpio1mhz
  | adc125khzGpio500khz
  | adc1mhzGpio1mhz
  deriving DecidableEq, Repr

inductive GpioPolicy
  | raw
  | rleAuto
  deriving DecidableEq, Repr

inductive AdcPolicy
  | raw
  | pack12
  deriving DecidableEq, Repr

/-- The columns of `RateProfileTiming` the layouts use. -/
structure RateProfileTiming where
  adcPairPeriodTicks : ℕ
  gpioSamplePeriodTicks : ℕ
  disabledFrameCoverageTicks : ℕ
  inputFrameCoverageTicks : ℕ
  deriving DecidableEq, Repr

/-- Every profile is in the generated table, and the experiment projection is
the identity in the normal build, so `legacyTimingFor` and `timingFor` agree. -/
def timingFor : RateProfile → RateProfileTiming
  | .adc1mhzGpio4mhz => ⟨8, 2, 8096, 4048⟩
  | .adc500khzGpio2mhz => ⟨16, 4, 16192, 8096⟩
  | .adc250khzGpio1mhz => ⟨32, 8, 32384, 16192⟩
  | .adc125khzGpio500khz => ⟨64, 16, 64768, 32384⟩
  | .adc1mhzGpio1mhz => ⟨8, 8, 8096, 4048⟩

structure FrameLayout where
  itemCount : ℕ := 0
  itemBytes : ℕ := 0
  itemPeriodTicks : ℕ := 0
  payloadBytes : ℕ := 0
  frameBytes : ℕ := 0
  coverageTicks : ℕ := 0
  deriving DecidableEq, Repr

def FrameLayout.valid (l : FrameLayout) : Bool :=
  if l.itemCount = 0 || l.itemBytes = 0 || l.itemPeriodTicks = 0 then false
  else
    let payload := l.itemCount * l.itemBytes
    let coverage := l.itemCount * l.itemPeriodTicks
    let total := payload + kHeaderSize + kTrailerSize
    payload = l.payloadBytes && coverage = l.coverageTicks && total = l.frameBytes &&
      l.frameBytes ≤ kDataFrameBytes

structure RunLayout where
  streams : Stream → FrameLayout
  auxBankMode : AuxBankMode := .disabled
  rateProfile : RateProfile := .adc1mhzGpio4mhz
  protocolVersion : UInt8 := V1.kProtocolVersion
  legacyV2 : Bool := false
  gpioPolicy : GpioPolicy := .raw
  adcPolicy : AdcPolicy := .raw

namespace RunLayout

def isV3 (l : RunLayout) : Bool := l.protocolVersion = V3.kProtocolVersion

def prefixBytes (l : RunLayout) : ℕ := if l.isV3 then kDataPrefixBytes else 0

/-- The version 3 arm of `valid`. -/
def validV3 (l : RunLayout) : Bool :=
  let adc := l.streams .adc
  let gpio := l.streams .gpio
  !l.legacyV2 && l.rateProfile = .adc1mhzGpio1mhz && adc.valid && gpio.valid &&
    adc.itemBytes = 4 && gpio.itemBytes = (if l.auxBankMode = .input then 2 else 1) &&
    adc.itemPeriodTicks = 8 && gpio.itemPeriodTicks = 8 &&
    adc.frameBytes ≤ kDataFrameBytes - l.prefixBytes &&
    gpio.frameBytes ≤ kDataFrameBytes - l.prefixBytes

/-- The version 1 arm of `valid`. -/
def validV1 (l : RunLayout) : Bool :=
  let adc := l.streams .adc
  let gpio := l.streams .gpio
  l.auxBankMode = .disabled && l.rateProfile = .adc1mhzGpio4mhz &&
    adc.itemCount = V1.kAdcPairsPerFrame && adc.itemBytes = V1.kAdcBytesPerPair &&
    adc.itemPeriodTicks = V1.kAdcPairPeriodTicks && adc.payloadBytes = kDataPayloadBytes &&
    adc.frameBytes = kDataFrameBytes &&
    gpio.itemCount = V1.kGpioSamplesPerFrame && gpio.itemBytes = 1 &&
    gpio.itemPeriodTicks = V1.kGpioSamplePeriodTicks && gpio.payloadBytes = kDataPayloadBytes &&
    gpio.frameBytes = kDataFrameBytes

def gpioCoverageMultiplier (l : RunLayout) : ℕ :=
  if ((!l.legacyV2 && InputExperiment.kEqualRates) || l.rateProfile = .adc1mhzGpio1mhz) &&
      l.protocolVersion = V2.kProtocolVersion then 4 else 1

def adcMultiplier (l : RunLayout) : ℕ :=
  if !l.legacyV2 && l.protocolVersion = V2.kProtocolVersion && l.auxBankMode = .input then
    InputExperiment.kAdcFrameMultiplier
  else 1

/-- The version 2 arm of `valid`. -/
def validV2 (l : RunLayout) : Bool :=
  let adc := l.streams .adc
  let gpio := l.streams .gpio
  let timing := timingFor l.rateProfile
  let disabled : Bool := l.auxBankMode = .disabled
  let adcItems := if disabled then V2.kDisabledAdcPairsPerFrame else V2.kInputAdcPairsPerFrame
  let gpioItems :=
    if disabled then V2.kDisabledGpioSamplesPerFrame else V2.kInputGpioSamplesPerFrame
  let coverage :=
    if disabled then timing.disabledFrameCoverageTicks else timing.inputFrameCoverageTicks
  adc.itemCount = adcItems && adc.itemBytes = 4 &&
    adc.itemPeriodTicks = timing.adcPairPeriodTicks && adc.coverageTicks = coverage &&
    gpio.itemCount = gpioItems && gpio.itemBytes = (if disabled then 1 else 2) &&
    gpio.itemPeriodTicks = timing.gpioSamplePeriodTicks &&
    gpio.coverageTicks * l.adcMultiplier % 2 ^ 32 =
      coverage * l.gpioCoverageMultiplier % 2 ^ 32 &&
    gpio.payloadBytes = kDataPayloadBytes

def valid (l : RunLayout) : Bool :=
  let adc := l.streams .adc
  let gpio := l.streams .gpio
  if l.isV3 then l.validV3
  else if l.gpioPolicy ≠ .raw || l.adcPolicy ≠ .raw then false
  else if !adc.valid || !gpio.valid ||
      adc.coverageTicks * l.gpioCoverageMultiplier % 2 ^ 32 ≠
        gpio.coverageTicks * l.adcMultiplier % 2 ^ 32 then false
  else if l.protocolVersion = V1.kProtocolVersion then l.validV1
  else if l.protocolVersion ≠ V2.kProtocolVersion then false
  else l.validV2

end RunLayout

def makeFrameLayout (itemCount itemBytes periodTicks : ℕ) : FrameLayout :=
  let payload := itemCount * itemBytes
  let coverage := itemCount * periodTicks
  let total := payload + kHeaderSize + kTrailerSize
  if 2 ^ 32 ≤ payload || 2 ^ 32 ≤ coverage || 2 ^ 32 ≤ total then
    { itemCount := itemCount, itemBytes := itemBytes, itemPeriodTicks := periodTicks }
  else
    { itemCount := itemCount, itemBytes := itemBytes, itemPeriodTicks := periodTicks
      payloadBytes := payload, frameBytes := total, coverageTicks := coverage }

def legacyLayout : RunLayout where
  streams
    | .adc => makeFrameLayout V1.kAdcPairsPerFrame V1.kAdcBytesPerPair V1.kAdcPairPeriodTicks
    | .gpio => makeFrameLayout V1.kGpioSamplesPerFrame 1 V1.kGpioSamplePeriodTicks

/-- The layout the firmware starts with passes its own admission test. -/
theorem legacyLayout_valid : legacyLayout.valid = true := by decide

def kDecodedPayloadBytes : ℕ := 4032

/-- `publicV3` with the block sizes the firmware fixes, for settings the board
supports: the aux bank mode decides the GPIO width. -/
def publicV3 (auxBankMode : AuxBankMode) (gpioPolicy : GpioPolicy) (adcPolicy : AdcPolicy) :
    RunLayout where
  streams
    | .adc => makeFrameLayout (kDecodedPayloadBytes / 4) 4 8
    | .gpio =>
      let width := if auxBankMode = .input then 2 else 1
      makeFrameLayout (kDecodedPayloadBytes / width) width 8
  auxBankMode := auxBankMode
  rateProfile := .adc1mhzGpio1mhz
  protocolVersion := V3.kProtocolVersion
  gpioPolicy := gpioPolicy
  adcPolicy := adcPolicy

theorem publicV3_valid (auxBankMode : AuxBankMode) (gpioPolicy : GpioPolicy)
    (adcPolicy : AdcPolicy) : (publicV3 auxBankMode gpioPolicy adcPolicy).valid = true := by
  cases auxBankMode <;> cases gpioPolicy <;> cases adcPolicy <;> decide

/-! ### What a valid layout promises -/

theorem FrameLayout.valid_iff {l : FrameLayout} : l.valid = true ↔
    (0 < l.itemCount ∧ 0 < l.itemBytes ∧ 0 < l.itemPeriodTicks) ∧
      l.payloadBytes = l.itemCount * l.itemBytes ∧
      l.coverageTicks = l.itemCount * l.itemPeriodTicks ∧
      l.frameBytes = l.itemCount * l.itemBytes + 48 ∧ l.frameBytes ≤ 4096 := by
  unfold FrameLayout.valid kHeaderSize kTrailerSize kDataFrameBytes
  simp only [Bool.or_eq_true, decide_eq_true_eq, Bool.if_false_left, Bool.and_eq_true,
    Bool.not_eq_true', decide_eq_false_iff_not, not_or]
  constructor
  · rintro ⟨⟨⟨h1, h2⟩, h3⟩, ⟨⟨h4, h5⟩, h6⟩, h7⟩
    exact ⟨⟨by omega, by omega, by omega⟩, h4.symm, h5.symm, by omega, h7⟩
  · rintro ⟨⟨h1, h2, h3⟩, h4, h5, h6, h7⟩
    exact ⟨⟨⟨by omega, by omega⟩, by omega⟩, ⟨⟨h4.symm, h5.symm⟩, by omega⟩, h7⟩

namespace RunLayout

variable {l : RunLayout}

/-- What `valid` checks of a version 3 layout. -/
structure ShapeV3 (l : RunLayout) : Prop where
  valid : ∀ s, (l.streams s).valid = true
  period : ∀ s, (l.streams s).itemPeriodTicks = 8
  fits : ∀ s, (l.streams s).frameBytes ≤ 4084
  adcBytes : (l.streams .adc).itemBytes = 4
  gpioBytes : (l.streams .gpio).itemBytes = 1 ∨ (l.streams .gpio).itemBytes = 2

theorem shapeV3_of_valid (h : l.valid = true) (hv3 : l.isV3 = true) : l.ShapeV3 := by
  unfold valid at h
  rw [if_pos hv3] at h
  simp only [validV3, prefixBytes, hv3, if_true, kDataFrameBytes, kDataPrefixBytes,
    Bool.and_eq_true, decide_eq_true_eq] at h
  obtain ⟨⟨⟨⟨⟨⟨⟨⟨-, hadc⟩, hgpio⟩, hadcBytes⟩, hgpioBytes⟩, hadcPeriod⟩, hgpioPeriod⟩, hadcFit⟩,
    hgpioFit⟩ := h
  exact
    { valid := fun s => by cases s <;> assumption
      period := fun s => by cases s <;> assumption
      fits := fun s => by cases s <;> assumption
      adcBytes := hadcBytes
      gpioBytes := by
        split at hgpioBytes
        · exact Or.inr hgpioBytes
        · exact Or.inl hgpioBytes }

theorem frameLayout_valid (h : l.valid = true) (s : Stream) : (l.streams s).valid = true := by
  by_cases hv3 : l.isV3 = true
  · exact (shapeV3_of_valid h hv3).valid s
  · unfold valid at h
    rw [if_neg hv3] at h
    split at h
    · exact absurd h (by simp)
    · split at h
      · exact absurd h (by simp)
      · next hv =>
        simp only [Bool.or_eq_true, Bool.not_eq_true', not_or, Bool.not_eq_false] at hv
        cases s
        · exact hv.1.1
        · exact hv.1.2

/-- The samples of a valid layout: how wide they are and how far apart. -/
structure Sampling (l : RunLayout) : Prop where
  adcBytes : (l.streams .adc).itemBytes = 4
  gpioBytes : (l.streams .gpio).itemBytes = if l.auxBankMode = .input then 2 else 1
  adcPeriod : (l.streams .adc).itemPeriodTicks = (timingFor l.rateProfile).adcPairPeriodTicks
  gpioPeriod : (l.streams .gpio).itemPeriodTicks = (timingFor l.rateProfile).gpioSamplePeriodTicks
  /-- version 1 knows one mode and one profile, version 3 one profile -/
  version : l.protocolVersion = V1.kProtocolVersion ∧ l.auxBankMode = .disabled ∧
      l.rateProfile = .adc1mhzGpio4mhz ∨
    l.protocolVersion = V2.kProtocolVersion ∧
      (l.streams .gpio).itemCount = (if l.auxBankMode = .disabled then
        V2.kDisabledGpioSamplesPerFrame else V2.kInputGpioSamplesPerFrame) ∨
    l.protocolVersion = V3.kProtocolVersion ∧ l.rateProfile = .adc1mhzGpio1mhz

theorem sampling_of_valid (h : l.valid = true) : l.Sampling := by
  unfold valid at h
  dsimp only at h
  split at h
  · next hv3 =>
    simp only [validV3, Bool.and_eq_true, decide_eq_true_eq] at h
    obtain ⟨⟨⟨⟨⟨⟨⟨⟨⟨-, hprofile⟩, -⟩, -⟩, hadc⟩, hgpio⟩, hadcPeriod⟩, hgpioPeriod⟩, -⟩, -⟩ := h
    refine ⟨hadc, hgpio, ?_, ?_, Or.inr (Or.inr ⟨of_decide_eq_true hv3, hprofile⟩)⟩
    · rw [hadcPeriod, hprofile]
      rfl
    · rw [hgpioPeriod, hprofile]
      rfl
  split at h
  · cases h
  split at h
  · cases h
  split at h
  · next hv1 =>
    simp only [validV1, Bool.and_eq_true, decide_eq_true_eq] at h
    obtain ⟨⟨⟨⟨⟨⟨⟨⟨⟨⟨⟨hmode, hprofile⟩, -⟩, hadc⟩, hadcPeriod⟩, -⟩, -⟩, -⟩, hgpio⟩, hgpioPeriod⟩, -⟩, -⟩ := h
    refine ⟨hadc, ?_, ?_, ?_, Or.inl ⟨hv1, hmode, hprofile⟩⟩
    · rw [hgpio, hmode]
      rfl
    · rw [hadcPeriod, hprofile]
      rfl
    · rw [hgpioPeriod, hprofile]
      rfl
  split at h
  · cases h
  · next hv2 =>
    simp only [validV2, Bool.and_eq_true, decide_eq_true_eq] at h
    obtain ⟨⟨⟨⟨⟨⟨⟨⟨-, hadc⟩, hadcPeriod⟩, -⟩, hitems⟩, hgpio⟩, hgpioPeriod⟩, -⟩, -⟩ := h
    refine ⟨hadc, ?_, hadcPeriod, hgpioPeriod, Or.inr (Or.inl ⟨not_not.mp hv2, ?_⟩)⟩
    · rw [hgpio]
      cases l.auxBankMode <;> rfl
    · rw [hitems]

/-- Every frame of a valid layout fits its packet page, prefix included. -/
theorem frameBytes_le (h : l.valid = true) (s : Stream) :
    (l.streams s).frameBytes + l.prefixBytes ≤ 4096 := by
  unfold prefixBytes kDataPrefixBytes
  split
  · next hv3 => have := (shapeV3_of_valid h hv3).fits s; omega
  · exact (FrameLayout.valid_iff.mp (frameLayout_valid h s)).2.2.2.2

end RunLayout

/-! ### Admitted runs -/

/-- The layout and the checksum of a run, as `startRun` admits them. -/
structure RunSetup where
  layout : RunLayout
  checksumAlgorithm : ChecksumAlgorithm
  layout_valid : layout.valid = true
  checksum_supported : isSupportedChecksum checksumAlgorithm = true
  v3_adler : layout.isV3 = true → checksumAlgorithm = ChecksumAlgorithm.adler32

/-- The setup of a pipeline that has not started a run. -/
def RunSetup.initial : RunSetup where
  layout := legacyLayout
  checksumAlgorithm := ChecksumAlgorithm.adler32
  layout_valid := legacyLayout_valid
  checksum_supported := rfl
  v3_adler := fun _ => rfl

namespace RunSetup

variable (r : RunSetup)

/-- The layout of one stream. -/
def stream (s : Stream) : FrameLayout := r.layout.streams s

theorem stream_valid (s : Stream) : (r.stream s).valid = true :=
  RunLayout.frameLayout_valid r.layout_valid s

theorem itemCount_pos (s : Stream) : 0 < (r.stream s).itemCount :=
  (FrameLayout.valid_iff.mp (r.stream_valid s)).1.1

theorem frameBytes_eq (s : Stream) : (r.stream s).frameBytes = (r.stream s).payloadBytes + 48 := by
  obtain ⟨-, hp, -, hf, -⟩ := FrameLayout.valid_iff.mp (r.stream_valid s)
  rw [hf, hp]

theorem frameBytes_le (s : Stream) : (r.stream s).frameBytes + r.layout.prefixBytes ≤ 4096 :=
  RunLayout.frameBytes_le r.layout_valid s

end RunSetup

end ThingDaq
