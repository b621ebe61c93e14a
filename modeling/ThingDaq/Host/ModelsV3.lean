import ThingDaq.Host.RoundTrip
import ThingDaq.Lib.Struct

/-!
# The typed records of version 3

`daq_api/src/thingdone_daq/models_v3.py`: the records of control payloads and the responses
that carry them.  Every record writes itself with checks of its own and is read with others;
reading ends with writing the result once more.

The integers of a record are unbounded until they are packed.  A `V3Settings` cannot be built
unless its bytes are one of the selectable configurations.

## Main results

* `V3Info.fromPayload_iff` and the like — a payload is read as a record exactly when the record
  is written as that payload.
* `records_inverse` — the same for all records and for whole responses.
-/

namespace ThingDaq.Host.ModelsV3

open Wire

/-! ### Checks -/

/-- `_require` -/
def require (c : Prop) [Decidable c] (message : String) : Except V3Error Unit :=
  if c then .ok () else reject message

/-- `_pack` -/
def packRecord (widths : List ℕ) (values : List ℤ) : Except V3Error Bytes :=
  match pack widths values with
  | some b => .ok b
  | none => reject "record scalar outside wire range"

/-- A record that has to be a row of a generated table. -/
def packListed (widths : List ℕ) (values : List ℤ) (table : List Bytes) (message : String) :
    Except V3Error Bytes := do
  let data ← packRecord widths values
  require (data ∈ table) message
  return data

/-- `_bounded_bytes` of a payload that should have one size. -/
def exactBytes (payload : Bytes) (size : ℕ) : Except V3Error Bytes :=
  if payload.length = size then .ok payload else reject "payload length outside bounds"

/-- `_OK` -/
def okPrefix : Bytes := [0, 0, 0, 0]

/-- `_success` -/
def success (payload : Bytes) (size : ℕ) : Except V3Error Bytes := do
  let data ← exactBytes payload size
  require (data.take 4 = okPrefix) "expected successful response prefix"
  return data

/-- A response that starts with the prefix of a success. -/
theorem unpack_okPrefix (ws : List ℕ) {b : Bytes} (h : b.take 4 = okPrefix) :
    unpack (1 :: 1 :: 2 :: ws) b = 0 :: 0 :: 0 :: unpack ws (b.drop 4) := by
  conv_lhs => rw [← List.take_append_drop 4 b, h]
  rfl

theorem take_okPrefix {ws : List ℕ} {vs : List ℤ} {b : Bytes}
    (h : pack (1 :: 1 :: 2 :: ws) (0 :: 0 :: 0 :: vs) = some b) : b.take 4 = okPrefix := by
  obtain ⟨hlen, heq⟩ := pack_iff.mp h
  simp only [List.sum_cons] at hlen
  have htake : unpack [1, 1, 2] (b.take 4) = unpack [1, 1, 2] b := unpack_take rfl (by omega)
  have hfront : pack [1, 1, 2] [0, 0, 0] = some (b.take 4) := by
    rw [pack_iff, htake, List.length_take]
    simp only [unpack, List.cons.injEq] at heq ⊢
    exact ⟨Nat.min_eq_left (by omega), heq.1, heq.2.1, heq.2.2.1, trivial⟩
  exact (Option.some.inj hfront).symm

section Results

variable {α β : Type} {x : Except V3Error α} {f : α → Except V3Error β}

@[simp] theorem bind_ok {b : β} : (x >>= f) = .ok b ↔ ∃ a, x = .ok a ∧ f a = .ok b := by
  cases x <;> simp [bind, Except.bind]

@[simp] theorem pure_ok {a b : α} : (pure a : Except V3Error α) = .ok b ↔ a = b := by
  simp [pure, Except.pure]

@[simp] theorem map_ok {f : α → β} {b : β} : f <$> x = .ok b ↔ ∃ a, x = .ok a ∧ f a = b := by
  cases x <;> simp [Functor.map, Except.map]

@[simp] theorem reject_ok {message : String} {b : α} : reject message = .ok b ↔ False := by
  simp [reject]

@[simp] theorem require_ok {c : Prop} [Decidable c] {message : String} {u : Unit} :
    require c message = .ok u ↔ c := by
  unfold require
  split <;> simp_all

@[simp] theorem packRecord_ok {widths : List ℕ} {values : List ℤ} {b : Bytes} :
    packRecord widths values = .ok b ↔ pack widths values = some b := by
  unfold packRecord
  split <;> simp_all

@[simp] theorem packListed_ok {widths : List ℕ} {values : List ℤ} {table : List Bytes}
    {message : String} {b : Bytes} :
    packListed widths values table message = .ok b ↔ pack widths values = some b ∧ b ∈ table := by
  simp only [packListed, bind_ok, packRecord_ok, require_ok, pure_ok]
  constructor
  · rintro ⟨_, hdata, -, hmem, rfl⟩
    exact ⟨hdata, hmem⟩
  · rintro ⟨hdata, hmem⟩
    exact ⟨b, hdata, (), hmem, rfl⟩

@[simp] theorem exactBytes_ok {payload data : Bytes} {size : ℕ} :
    exactBytes payload size = .ok data ↔ payload.length = size ∧ payload = data := by
  unfold exactBytes
  split <;> simp_all

@[simp] theorem success_ok {payload data : Bytes} {size : ℕ} :
    success payload size = .ok data ↔
      payload.length = size ∧ payload.take 4 = okPrefix ∧ payload = data := by
  simp only [success, bind_ok, exactBytes_ok, require_ok, pure_ok]
  constructor
  · rintro ⟨_, ⟨hlen, rfl⟩, _, hok, rfl⟩
    exact ⟨hlen, hok, rfl⟩
  · rintro ⟨hlen, hok, rfl⟩
    exact ⟨_, ⟨hlen, rfl⟩, (), hok, rfl⟩

end Results

/-! ### Generated tables -/

/-- 1000000, in a settings record. -/
def oneMegahertz : Bytes := [0x40, 0x42, 0x0f, 0x00]

/-- `SELECTABLE_CONFIGURATIONS` -/
def selectableConfigurations : List Bytes :=
  ([(1, 0, 8, 0, 0), (1, 0, 8, 0, 1), (1, 0, 8, 1, 0), (1, 0, 8, 1, 1), (1, 1, 16, 0, 0),
    (1, 1, 16, 0, 1), (1, 1, 16, 1, 0), (1, 1, 16, 1, 1), (2, 0, 8, 0, 0), (2, 1, 16, 0, 0)] :
      List (UInt8 × UInt8 × UInt8 × UInt8 × UInt8)).flatMap
    fun (cpuProfile, auxBankMode, gpioWidthBits, gpioPolicy, adcPolicy) =>
      ([1, 2, 3] : List UInt8).flatMap fun streamMask => ([0, 1] : List UInt8).map fun source =>
        [streamMask, source, 1, 3, cpuProfile, 4, auxBankMode, gpioWidthBits, gpioPolicy, adcPolicy,
          12, 0] ++ oneMegahertz ++ oneMegahertz

/-- `CPU_PROFILES` -/
def cpuProfileRecords : List Bytes :=
  [[1, 0, 0, 0, 0x00, 0x46, 0xc3, 0x23, 0x80, 0xd1, 0xf0, 0x08, 0x60, 0x34, 0x3c, 0x02,
      0x00, 0x36, 0x6e, 0x01, 0x00, 0x12, 0x7a, 0x00],
    [2, 0, 0, 0, 0x80, 0x74, 0xd2, 0x1a, 0x80, 0xd1, 0xf0, 0x08, 0x60, 0x34, 0x3c, 0x02,
      0x00, 0x36, 0x6e, 0x01, 0x00, 0x12, 0x7a, 0x00]]

/-- `RATE_PROFILES` -/
def rateProfileRecords : List Bytes :=
  [[4, 0, 0, 0] ++ oneMegahertz ++ oneMegahertz ++ [8, 0, 8, 0, 4, 0, 0, 0]]

/-! ### Settings -/

structure SettingsFields where
  streamMask : ℤ
  source : ℤ
  checksumAlgorithm : ℤ
  wireVersion : ℤ
  cpuProfile : ℤ
  rateProfile : ℤ
  auxBankMode : ℤ
  gpioWidthBits : ℤ
  gpioPolicy : ℤ
  adcPolicy : ℤ
  adcResolutionBits : ℤ
  adcPairRateHz : ℤ
  gpioSampleRateHz : ℤ
  deriving DecidableEq

namespace SettingsFields

/-- `SETTINGS_STRUCT_FORMAT` -/
def widths : List ℕ := [1, 1, 1, 1, 1, 1, 1, 1, 1, 1, 1, 1, 4, 4]

def values (f : SettingsFields) : List ℤ :=
  [f.streamMask, f.source, f.checksumAlgorithm, f.wireVersion, f.cpuProfile, f.rateProfile,
    f.auxBankMode, f.gpioWidthBits, f.gpioPolicy, f.adcPolicy, f.adcResolutionBits, 0,
    f.adcPairRateHz, f.gpioSampleRateHz]

def toBytes (f : SettingsFields) : Except V3Error Bytes := do
  let data ← packRecord widths f.values
  if data ∈ selectableConfigurations then return data
  else throw (.unsupported "unsupported settings tuple")

/-- `__post_init__`, behind the conversion of the mask to a flag. -/
def postInit (f : SettingsFields) : Except V3Error Unit := do
  require (f.source ∈ ([0, 1] : List ℤ)) "unknown source"
  require (f.checksumAlgorithm ∈ ([1] : List ℤ)) "unknown checksum_algorithm"
  require (f.cpuProfile ∈ ([1, 2] : List ℤ)) "unknown cpu_profile"
  require (f.rateProfile ∈ ([4] : List ℤ)) "unknown rate_profile"
  require (f.auxBankMode ∈ ([0, 1] : List ℤ)) "unknown aux_bank_mode"
  require (f.gpioPolicy ∈ ([0, 1] : List ℤ)) "unknown gpio_policy"
  require (f.adcPolicy ∈ ([0, 1] : List ℤ)) "unknown adc_policy"
  require (1 ≤ f.streamMask ∧ f.streamMask ≤ 3) "invalid stream mask"
  let _ ← f.toBytes
  return ()

end SettingsFields

/-- A settings record; none can be built with other fields. -/
structure V3Settings extends SettingsFields where
  valid : toSettingsFields.postInit = .ok ()
  deriving DecidableEq

namespace V3Settings

/-- The constructor. -/
def make (f : SettingsFields) : Except V3Error V3Settings :=
  match h : f.postInit with
  | .error e => .error e
  | .ok () => .ok ⟨f, h⟩

def toBytes (s : V3Settings) : Except V3Error Bytes := s.toSettingsFields.toBytes

def fromBytes (payload : Bytes) : Except V3Error V3Settings := do
  let data ← exactBytes payload 20
  match unpack SettingsFields.widths data with
  | [streamMask, source, checksumAlgorithm, wireVersion, cpuProfile, rateProfile, auxBankMode,
      gpioWidthBits, gpioPolicy, adcPolicy, adcResolutionBits, reserved, adcPairRateHz,
      gpioSampleRateHz] =>
    require (reserved = 0) "nonzero settings reserved byte"
    make { streamMask, source, checksumAlgorithm, wireVersion, cpuProfile, rateProfile, auxBankMode,
           gpioWidthBits, gpioPolicy, adcPolicy, adcResolutionBits, adcPairRateHz,
           gpioSampleRateHz }
  | _ => reject "record size"

end V3Settings

/-! ### Clocks and rates -/

structure V3Clocks where
  cpuProfile : ℤ
  cpuClockHz : ℤ
  ipgClockHz : ℤ
  adcClockHz : ℤ
  pitClockHz : ℤ
  timestampHz : ℤ
  deriving DecidableEq

namespace V3Clocks

/-- `CPU_PROFILE_INFO_STRUCT_FORMAT` -/
def widths : List ℕ := [1, 1, 2, 4, 4, 4, 4, 4]

def values (x : V3Clocks) : List ℤ :=
  [x.cpuProfile, 0, 0, x.cpuClockHz, x.ipgClockHz, x.adcClockHz, x.pitClockHz, x.timestampHz]

def toBytes (x : V3Clocks) : Except V3Error Bytes :=
  packListed widths x.values cpuProfileRecords "unknown or contradictory CPU clocks"

def fromBytes (payload : Bytes) : Except V3Error V3Clocks := do
  let data ← exactBytes payload 24
  require (data ∈ cpuProfileRecords) "unknown or contradictory CPU clock record"
  match unpack widths data with
  | [cpuProfile, _, _, cpuClockHz, ipgClockHz, adcClockHz, pitClockHz, timestampHz] =>
    return { cpuProfile, cpuClockHz, ipgClockHz, adcClockHz, pitClockHz, timestampHz }
  | _ => reject "record size"

end V3Clocks

structure V3Rate where
  rateProfile : ℤ
  adcPairRateHz : ℤ
  gpioSampleRateHz : ℤ
  adcPairPeriodTicks : ℤ
  gpioSamplePeriodTicks : ℤ
  adc1PhaseTicks : ℤ
  deriving DecidableEq

namespace V3Rate

/-- `RATE_PROFILE_INFO_STRUCT_FORMAT` -/
def widths : List ℕ := [1, 1, 2, 4, 4, 2, 2, 2, 2]

def values (x : V3Rate) : List ℤ :=
  [x.rateProfile, 0, 0, x.adcPairRateHz, x.gpioSampleRateHz, x.adcPairPeriodTicks,
    x.gpioSamplePeriodTicks, x.adc1PhaseTicks, 0]

def toBytes (x : V3Rate) : Except V3Error Bytes :=
  packListed widths x.values rateProfileRecords "unknown or contradictory rate"

def fromBytes (payload : Bytes) : Except V3Error V3Rate := do
  let data ← exactBytes payload 20
  require (data ∈ rateProfileRecords) "unknown or contradictory rate record"
  match unpack widths data with
  | [rateProfile, _, _, adcPairRateHz, gpioSampleRateHz, adcPairPeriodTicks, gpioSamplePeriodTicks,
      adc1PhaseTicks, _] =>
    return { rateProfile, adcPairRateHz, gpioSampleRateHz, adcPairPeriodTicks, gpioSamplePeriodTicks,
             adc1PhaseTicks }
  | _ => reject "record size"

end V3Rate

/-! ### Applied settings -/

structure V3AppliedSettings where
  settings : V3Settings
  clocks : V3Clocks
  deriving DecidableEq

namespace V3AppliedSettings

def toPayload (x : V3AppliedSettings) : Except V3Error Bytes := do
  require (x.settings.cpuProfile = x.clocks.cpuProfile) "settings/clock mismatch"
  let settings ← x.settings.toBytes
  let clocks ← x.clocks.toBytes
  return okPrefix ++ settings ++ clocks

def fromPayload (payload : Bytes) : Except V3Error V3AppliedSettings := do
  let data ← success payload 48
  let settings ← V3Settings.fromBytes (slice data 4 20)
  let clocks ← V3Clocks.fromBytes (data.drop 24)
  let result : V3AppliedSettings := { settings, clocks }
  let _ ← result.toPayload
  return result

end V3AppliedSettings

/-! ### Identities -/

def printable (c : Char) : Bool := 32 ≤ c.toNat && c.toNat ≤ 126

/-- `_ascii_encode` -/
def asciiEncode (value : List Char) (size : ℕ) : Except V3Error Bytes := do
  require (0 < value.length ∧ value.length < size ∧ value.all printable)
    "identity must be nonempty printable ASCII with room for terminator"
  return value.map (fun c => UInt8.ofNat c.toNat) ++ List.replicate (size - value.length) 0

/-- `_ascii_decode`; the text ends before the first zero. -/
def asciiDecode (data : Bytes) : Except V3Error (List Char) := do
  let text := data.takeWhile (· ≠ 0)
  require (text ≠ [] ∧ text.length < data.length ∧ (data.drop (text.length + 1)).all (· = 0) ∧
    text.all fun b => 32 ≤ b.toNat && b.toNat ≤ 126) "invalid NUL-padded identity"
  return text.map fun b => Char.ofNat b.toNat

structure V3Info where
  boardId : ℤ
  mcuId : ℤ
  simulated : Bool
  hardwareSerial : List Char
  firmwareVersion : List Char
  buildId : List Char
  clocks : V3Clocks
  protocolVersion : ℤ := 3
  adcResolutionBits : ℤ := 12
  deriving DecidableEq

namespace V3Info

/-- The integers of `INFO_RESPONSE_STRUCT_FORMAT`; the texts and the clocks follow. -/
def widths : List ℕ := [1, 1, 2, 2, 2, 1, 1, 1, 1]

def values (x : V3Info) : List ℤ :=
  [0, 0, 0, x.boardId, x.mcuId, x.simulated.toInt, x.protocolVersion, x.adcResolutionBits, 0]

def simPrefix : List Char := ['S', 'I', 'M', '-']

def toPayload (x : V3Info) : Except V3Error Bytes := do
  require (x.boardId = 1 ∧ x.mcuId = 1) "unknown board/MCU"
  require (x.protocolVersion = 3 ∧ x.adcResolutionBits = 12) "unsupported protocol/resolution"
  require (x.simulated = false ∨ simPrefix <+: x.hardwareSerial)
    "simulated identity requires SIM- serial"
  let serial ← asciiEncode x.hardwareSerial 32
  let firmware ← asciiEncode x.firmwareVersion 16
  let build ← asciiEncode x.buildId 48
  let clocks ← x.clocks.toBytes
  let front ← packRecord widths x.values
  return front ++ serial ++ firmware ++ build ++ clocks

def fromPayload (payload : Bytes) : Except V3Error V3Info := do
  let data ← success payload 132
  match unpack widths data with
  | [_, _, _, boardId, mcuId, simulated, protocolVersion, adcResolutionBits, reserved] =>
    require (reserved = 0 ∧ (simulated = 0 ∨ simulated = 1)) "invalid INFO reserved/boolean"
    require (boardId = 1 ∧ mcuId = 1) "unknown board/MCU"
    let hardwareSerial ← asciiDecode (slice data 12 32)
    let firmwareVersion ← asciiDecode (slice data 44 16)
    let buildId ← asciiDecode (slice data 60 48)
    let clocks ← V3Clocks.fromBytes (slice data 108 24)
    let result : V3Info :=
      { boardId, mcuId, simulated := simulated ≠ 0, hardwareSerial, firmwareVersion, buildId, clocks,
        protocolVersion, adcResolutionBits }
    let _ ← result.toPayload
    return result
  | _ => reject "record size"

end V3Info

/-! ### Reading is the inverse of writing -/

namespace SettingsFields

theorem toBytes_ok {f : SettingsFields} {b : Bytes} :
    f.toBytes = .ok b ↔ pack widths f.values = some b ∧ b ∈ selectableConfigurations := by
  simp only [toBytes, bind_ok, packRecord_ok]
  constructor
  · rintro ⟨data, hdata, h⟩
    split at h
    · next hmem =>
      cases h
      exact ⟨hdata, hmem⟩
    · cases h
  · rintro ⟨hdata, hmem⟩
    exact ⟨b, hdata, by rw [if_pos hmem]; rfl⟩

end SettingsFields

namespace V3Settings

theorem make_ok {f : SettingsFields} {s : V3Settings} : make f = .ok s ↔ s.toSettingsFields = f := by
  unfold make
  split
  · next e he =>
    simp only [reduceCtorEq, false_iff]
    rintro rfl
    rw [s.valid] at he
    cases he
  · next h =>
    simp only [Except.ok.injEq]
    constructor
    · rintro rfl
      rfl
    · rintro rfl
      rfl

/-- Every settings record has bytes. -/
theorem toBytes_isOk (s : V3Settings) : ∃ b, s.toBytes = .ok b := by
  have hvalid := s.valid
  simp only [SettingsFields.postInit, bind_ok] at hvalid
  obtain ⟨-, -, -, -, -, -, -, -, -, -, -, -, -, -, -, -, b, hb, -⟩ := hvalid
  exact ⟨b, hb⟩

theorem length_toBytes {s : V3Settings} {b : Bytes} (h : s.toBytes = .ok b) : b.length = 20 :=
  length_pack (SettingsFields.toBytes_ok.mp h).1

theorem fromBytes_iff {s : V3Settings} {b : Bytes} : fromBytes b = .ok s ↔ s.toBytes = .ok b := by
  unfold toBytes
  simp only [fromBytes, bind_ok, exactBytes_ok, SettingsFields.toBytes_ok]
  constructor
  · rintro ⟨_, ⟨hlen, rfl⟩, h⟩
    split at h
    · next heq =>
      simp only [bind_ok, require_ok, make_ok] at h
      obtain ⟨-, rfl, hfields⟩ := h
      have hpack : pack SettingsFields.widths s.values = some b := by
        rw [pack_iff, heq, hfields]
        exact ⟨hlen, rfl⟩
      obtain ⟨c, hc⟩ := s.toBytes_isOk
      obtain ⟨hpack', hmem⟩ := SettingsFields.toBytes_ok.mp hc
      rw [hpack] at hpack'
      cases hpack'
      exact ⟨hpack, hmem⟩
    · simp at h
  · rintro ⟨hpack, -⟩
    obtain ⟨hlen, heq⟩ := pack_iff.mp hpack
    refine ⟨b, ⟨hlen, rfl⟩, ?_⟩
    rw [heq]
    simp only [SettingsFields.values, bind_ok, require_ok, make_ok]
    exact ⟨(), trivial, trivial⟩

end V3Settings

namespace V3Clocks

theorem toBytes_ok {x : V3Clocks} {b : Bytes} :
    x.toBytes = .ok b ↔ pack widths x.values = some b ∧ b ∈ cpuProfileRecords := packListed_ok

theorem length_toBytes {x : V3Clocks} {b : Bytes} (h : x.toBytes = .ok b) : b.length = 24 :=
  length_pack (toBytes_ok.mp h).1

theorem fromBytes_iff {x : V3Clocks} {b : Bytes} : fromBytes b = .ok x ↔ x.toBytes = .ok b := by
  simp only [fromBytes, bind_ok, exactBytes_ok, require_ok, toBytes_ok]
  constructor
  · rintro ⟨_, ⟨hlen, rfl⟩, -, hmem, h⟩
    refine ⟨pack_iff.mpr ⟨hlen, ?_⟩, hmem⟩
    -- the reserved bytes are zero in every row of the table
    simp only [cpuProfileRecords, List.mem_cons, List.not_mem_nil, or_false] at hmem
    rcases hmem with rfl | rfl <;> cases h <;> rfl
  · rintro ⟨hpack, hmem⟩
    obtain ⟨hlen, heq⟩ := pack_iff.mp hpack
    refine ⟨b, ⟨hlen, rfl⟩, (), hmem, ?_⟩
    rw [heq]
    rfl

end V3Clocks

namespace V3Rate

theorem toBytes_ok {x : V3Rate} {b : Bytes} :
    x.toBytes = .ok b ↔ pack widths x.values = some b ∧ b ∈ rateProfileRecords := packListed_ok

theorem length_toBytes {x : V3Rate} {b : Bytes} (h : x.toBytes = .ok b) : b.length = 20 :=
  length_pack (toBytes_ok.mp h).1

theorem fromBytes_iff {x : V3Rate} {b : Bytes} : fromBytes b = .ok x ↔ x.toBytes = .ok b := by
  simp only [fromBytes, bind_ok, exactBytes_ok, require_ok, toBytes_ok]
  constructor
  · rintro ⟨_, ⟨hlen, rfl⟩, -, hmem, h⟩
    refine ⟨pack_iff.mpr ⟨hlen, ?_⟩, hmem⟩
    simp only [rateProfileRecords, List.mem_singleton] at hmem
    subst hmem
    cases h
    rfl
  · rintro ⟨hpack, hmem⟩
    obtain ⟨hlen, heq⟩ := pack_iff.mp hpack
    refine ⟨b, ⟨hlen, rfl⟩, (), hmem, ?_⟩
    rw [heq]
    rfl

end V3Rate

namespace V3AppliedSettings

theorem toPayload_ok {x : V3AppliedSettings} {b : Bytes} :
    x.toPayload = .ok b ↔ x.settings.cpuProfile = x.clocks.cpuProfile ∧
      ∃ s c, x.settings.toBytes = .ok s ∧ x.clocks.toBytes = .ok c ∧ b = okPrefix ++ (s ++ c) := by
  simp only [toPayload, bind_ok, require_ok, pure_ok, List.append_assoc]
  constructor
  · rintro ⟨-, hcpu, s, hs, c, hc, rfl⟩
    exact ⟨hcpu, s, c, hs, hc, rfl⟩
  · rintro ⟨hcpu, s, c, hs, hc, rfl⟩
    exact ⟨(), hcpu, s, hs, c, hc, rfl⟩

theorem fromPayload_iff {x : V3AppliedSettings} {b : Bytes} :
    fromPayload b = .ok x ↔ x.toPayload = .ok b := by
  simp only [fromPayload, bind_ok, success_ok, pure_ok, V3Settings.fromBytes_iff,
    V3Clocks.fromBytes_iff]
  constructor
  · rintro ⟨_, ⟨hlen, hprefix, rfl⟩, settings, hs, clocks, hc, c, hwritten, rfl⟩
    obtain ⟨hcpu, -⟩ := toPayload_ok.mp hwritten
    refine toPayload_ok.mpr ⟨hcpu, _, _, hs, hc, ?_⟩
    rw [← hprefix, ← List.append_assoc, take_append_slice, List.take_append_drop]
  · intro h
    obtain ⟨-, s, c, hs, hc, rfl⟩ := toPayload_ok.mp h
    have hslen := V3Settings.length_toBytes hs
    have hclen := V3Clocks.length_toBytes hc
    have hsettings : slice (okPrefix ++ (s ++ c)) 4 20 = s := by
      rw [slice_append_right (by decide), slice_append_left (by simp [okPrefix, hslen])]
      exact slice_self hslen
    have hclocks : (okPrefix ++ (s ++ c)).drop 24 = c := by
      rw [← List.append_assoc, List.drop_left' (by simp [okPrefix, hslen])]
    refine ⟨_, ⟨?_, rfl, rfl⟩, x.settings, ?_, x.clocks, ?_, _, h, rfl⟩
    · simp [okPrefix, hslen, hclen]
    · rw [hsettings]
      exact hs
    · rw [hclocks]
      exact hc

end V3AppliedSettings

/-! ### Texts -/

theorem ofNat_toNat_printable {c : Char} (h : printable c = true) :
    (UInt8.ofNat c.toNat).toNat = c.toNat := by
  unfold printable at h
  simp only [Bool.and_eq_true, decide_eq_true_eq] at h
  rw [UInt8.toNat_ofNat']
  omega

theorem toNat_ofNat_byte {b : UInt8} (h : b.toNat ≤ 126) : (Char.ofNat b.toNat).toNat = b.toNat := by
  have hvalid : b.toNat.isValidChar := Or.inl (by omega)
  rw [Char.ofNat, dif_pos hvalid]
  rfl

/-- The bytes of a printable text have no zero. -/
theorem ofNat_ne_zero {c : Char} (h : printable c = true) : UInt8.ofNat c.toNat ≠ 0 := by
  have hbyte := ofNat_toNat_printable h
  unfold printable at h
  simp only [Bool.and_eq_true, decide_eq_true_eq] at h
  intro hzero
  rw [hzero] at hbyte
  change 0 = c.toNat at hbyte
  omega

/-- Bytes are a text and its padding exactly when the text ends before the first zero and
nothing but zeros follows. -/
theorem padded_iff {text data : Bytes} (htext : ∀ b ∈ text, b ≠ 0) :
    (data.takeWhile (· ≠ 0) = text ∧ text.length < data.length ∧
        (data.drop (text.length + 1)).all (· = 0) = true) ↔
      text.length < data.length ∧ data = text ++ List.replicate (data.length - text.length) 0 := by
  constructor
  · rintro ⟨htake, hlt, hrest⟩
    refine ⟨hlt, ?_⟩
    have hsplit := List.takeWhile_append_dropWhile (p := (· ≠ 0)) (l := data)
    rw [htake] at hsplit
    have hdrop : data.drop text.length = data.dropWhile (· ≠ 0) := by
      conv_lhs => rw [← hsplit]
      exact List.drop_left
    have hzeros : data.drop text.length = List.replicate (data.length - text.length) 0 := by
      rw [List.eq_replicate_iff]
      refine ⟨List.length_drop, fun b hb => ?_⟩
      -- the byte where the text ends, or one behind it
      cases hcons : data.dropWhile (· ≠ 0) with
      | nil =>
        rw [hdrop, hcons] at hb
        cases hb
      | cons z zs =>
        have hzero : z = 0 := by
          have hne : data.dropWhile (· ≠ 0) ≠ [] := by
            rw [hcons]
            exact List.cons_ne_nil z zs
          have hhead := List.head_dropWhile_not (fun b : UInt8 => decide (b ≠ 0)) hne
          have hz : (data.dropWhile (· ≠ 0)).head hne = z := by simp only [hcons, List.head_cons]
          rw [hz] at hhead
          simpa using hhead
        have htail : data.drop (text.length + 1) = zs := by
          rw [← List.drop_drop, hdrop, hcons]
          rfl
        rw [hdrop, hcons] at hb
        rcases List.mem_cons.mp hb with rfl | hmem
        · exact hzero
        · rw [htail, List.all_eq_true] at hrest
          exact of_decide_eq_true (hrest b hmem)
    rw [← hzeros]
    conv_lhs => rw [← hsplit, ← hdrop]
  · rintro ⟨hlt, hdata⟩
    obtain ⟨k, hk⟩ : ∃ k, data.length - text.length = k + 1 := ⟨data.length - text.length - 1, by omega⟩
    rw [hk, List.replicate_succ] at hdata
    have htake : data.takeWhile (· ≠ 0) = text := by
      rw [hdata, List.takeWhile_append_of_pos (by simpa using htext)]
      simp
    have hdrop : data.drop (text.length + 1) = List.replicate k 0 := by
      rw [← List.drop_drop, hdata, List.drop_left]
      rfl
    refine ⟨htake, hlt, ?_⟩
    rw [hdrop]
    simp

/-- A text is read from exactly the bytes it is written as. -/
theorem asciiDecode_iff {value : List Char} {data : Bytes} {size : ℕ} (hsize : data.length = size) :
    asciiDecode data = .ok value ↔ asciiEncode value size = .ok data := by
  simp only [asciiDecode, asciiEncode, bind_ok, require_ok, pure_ok]
  constructor
  · rintro ⟨-, ⟨hne, hlt, hrest, hprint⟩, rfl⟩
    generalize htake : data.takeWhile (· ≠ 0) = text at hne hlt hrest hprint ⊢
    have hbyte : ∀ b ∈ text, 32 ≤ b.toNat ∧ b.toNat ≤ 126 := by
      simpa only [List.all_eq_true, Bool.and_eq_true, decide_eq_true_eq] using hprint
    have hnonzero : ∀ b ∈ text, b ≠ 0 := by
      rintro b hb rfl
      exact absurd (hbyte 0 hb).1 (by decide)
    obtain ⟨-, hdata⟩ := (padded_iff hnonzero).mp ⟨htake, hlt, hrest⟩
    have hback : (text.map fun b => Char.ofNat b.toNat).map (fun c => UInt8.ofNat c.toNat) = text := by
      rw [List.map_map]
      refine (List.map_congr_left fun b hb => ?_).trans (List.map_id text)
      simp only [Function.comp_apply, toNat_ofNat_byte (hbyte b hb).2, UInt8.ofNat_toNat, id]
    refine ⟨(), ⟨?_, ?_, ?_⟩, ?_⟩
    · rw [List.length_map]
      exact List.length_pos_iff.mpr hne
    · rw [List.length_map, ← hsize]
      exact hlt
    · rw [List.all_eq_true]
      intro c hc
      obtain ⟨b, hb, rfl⟩ := List.mem_map.mp hc
      unfold printable
      rw [toNat_ofNat_byte (hbyte b hb).2]
      simpa using hbyte b hb
    · rw [hback, List.length_map, ← hsize]
      exact hdata.symm
  · rintro ⟨-, ⟨hpos, hlt, hprint⟩, hdata⟩
    rw [List.all_eq_true] at hprint
    have hbyte : ∀ c ∈ value, (UInt8.ofNat c.toNat).toNat = c.toNat :=
      fun c hc => ofNat_toNat_printable (hprint c hc)
    have hnonzero : ∀ b ∈ value.map (fun c => UInt8.ofNat c.toNat), b ≠ 0 := by
      intro b hb
      obtain ⟨c, hc, rfl⟩ := List.mem_map.mp hb
      exact ofNat_ne_zero (hprint c hc)
    have hlen : (value.map fun c => UInt8.ofNat c.toNat).length = value.length := List.length_map _
    have hpadded : (value.map fun c => UInt8.ofNat c.toNat).length < data.length ∧
        data = value.map (fun c => UInt8.ofNat c.toNat) ++
          List.replicate (data.length - (value.map fun c => UInt8.ofNat c.toNat).length) 0 :=
      ⟨by omega, by rw [hlen, hsize, hdata]⟩
    obtain ⟨htake, hshort, hrest⟩ := (padded_iff hnonzero).mpr hpadded
    rw [htake]
    refine ⟨(), ⟨?_, hshort, hrest, ?_⟩, ?_⟩
    · intro hnil
      rw [hnil] at hlen
      simp only [List.length_nil] at hlen
      omega
    · rw [List.all_eq_true]
      intro b hb
      obtain ⟨c, hc, rfl⟩ := List.mem_map.mp hb
      rw [hbyte c hc]
      exact hprint c hc
    · rw [List.map_map]
      refine (List.map_congr_left fun c hc => ?_).trans (List.map_id value)
      simp only [Function.comp_apply, hbyte c hc, Char.ofNat_toNat, id]

theorem length_asciiEncode {value : List Char} {data : Bytes} {size : ℕ}
    (h : asciiEncode value size = .ok data) : data.length = size := by
  simp only [asciiEncode, bind_ok, require_ok, pure_ok] at h
  obtain ⟨-, ⟨-, hlt, -⟩, rfl⟩ := h
  rw [List.length_append, List.length_map, List.length_replicate]
  omega

namespace V3Info

theorem toPayload_ok {x : V3Info} {b : Bytes} :
    x.toPayload = .ok b ↔
      (x.boardId = 1 ∧ x.mcuId = 1) ∧ (x.protocolVersion = 3 ∧ x.adcResolutionBits = 12) ∧
      (x.simulated = false ∨ simPrefix <+: x.hardwareSerial) ∧
      ∃ serial firmware build clocks front, asciiEncode x.hardwareSerial 32 = .ok serial ∧
        asciiEncode x.firmwareVersion 16 = .ok firmware ∧ asciiEncode x.buildId 48 = .ok build ∧
        x.clocks.toBytes = .ok clocks ∧ pack widths x.values = some front ∧
        b = front ++ (serial ++ (firmware ++ (build ++ clocks))) := by
  simp only [toPayload, bind_ok, require_ok, packRecord_ok, pure_ok, List.append_assoc]
  constructor
  · rintro ⟨-, hids, -, hproto, -, hsim, serial, hs, firmware, hf, build, hb, clocks, hc, front, hpack,
      rfl⟩
    exact ⟨hids, hproto, hsim, serial, firmware, build, clocks, front, hs, hf, hb, hc, hpack, rfl⟩
  · rintro ⟨hids, hproto, hsim, serial, firmware, build, clocks, front, hs, hf, hb, hc, hpack, rfl⟩
    exact ⟨(), hids, (), hproto, (), hsim, serial, hs, firmware, hf, build, hb, clocks, hc, front, hpack,
      rfl⟩

theorem fromPayload_iff {x : V3Info} {b : Bytes} : fromPayload b = .ok x ↔ x.toPayload = .ok b := by
  constructor
  · intro h
    simp only [fromPayload, bind_ok, success_ok] at h
    obtain ⟨_, ⟨hlen, hprefix, rfl⟩, h⟩ := h
    have hzeros : unpack widths b = 0 :: 0 :: 0 :: _ := unpack_okPrefix _ hprefix
    split at h
    · next heq =>
      simp only [bind_ok, require_ok, pure_ok] at h
      obtain ⟨-, ⟨hreserved, hsimulated⟩, -, -, serial, hs, firmware, hf, build, hb, clocks, hc, c,
        hwritten, rfl⟩ := h
      have hfield : ∀ start n : ℕ, start + n ≤ 132 → (slice b start n).length = n := by
        intro start n hle
        rw [length_slice, hlen]
        omega
      rw [asciiDecode_iff (hfield _ 32 (by decide))] at hs
      rw [asciiDecode_iff (hfield _ 16 (by decide))] at hf
      rw [asciiDecode_iff (hfield _ 48 (by decide))] at hb
      rw [V3Clocks.fromBytes_iff] at hc
      obtain ⟨hids, hproto, hsim, -⟩ := toPayload_ok.mp hwritten
      refine toPayload_ok.mpr ⟨hids, hproto, hsim, _, _, _, _, b.take 12, hs, hf, hb, hc, ?_, ?_⟩
      · refine pack_iff.mpr ⟨by rw [List.length_take, hlen]; rfl, ?_⟩
        have htake : unpack widths (b.take 12) = unpack widths b := unpack_take rfl (by omega)
        rw [htake, heq]
        rw [heq] at hzeros
        simp only [List.cons.injEq] at hzeros
        obtain ⟨rfl, rfl, rfl, -⟩ := hzeros
        subst hreserved
        rcases hsimulated with rfl | rfl <;> rfl
      · simp only [← List.append_assoc, take_append_slice]
        exact (List.take_of_length_le (by omega)).symm
    · simp at h
  · intro h
    obtain ⟨hids, hproto, hsim, serial, firmware, build, clocks, front, hs, hf, hb, hc, hpack, hbytes⟩ :=
      toPayload_ok.mp h
    have hfront : front.length = 12 := length_pack hpack
    have hslen := length_asciiEncode hs
    have hflen := length_asciiEncode hf
    have hblen := length_asciiEncode hb
    have hclen := V3Clocks.length_toBytes hc
    have hlen : b.length = 132 := by
      rw [hbytes]
      simp only [List.length_append]
      omega
    have hserial : slice b 12 32 = serial := by
      rw [hbytes]
      exact slice_field hfront hslen
    have hfirmware : slice b 44 16 = firmware := by
      rw [hbytes, ← List.append_assoc]
      exact slice_field (by rw [List.length_append]; omega) hflen
    have hbuild : slice b 60 48 = build := by
      rw [hbytes, ← List.append_assoc, ← List.append_assoc]
      exact slice_field (by simp only [List.length_append]; omega) hblen
    have hclocks : slice b 108 24 = clocks := by
      have hsplit : b = (front ++ serial ++ firmware ++ build) ++ (clocks ++ []) := by
        rw [hbytes, List.append_nil]
        simp only [List.append_assoc]
      rw [hsplit]
      exact slice_field (by simp only [List.length_append]; omega) hclen
    have hunpack : unpack widths b = x.values := by
      rw [hbytes, unpack_append (pack_iff.mp hpack).1.ge, unpack_pack hpack]
    have hprefix : b.take 4 = okPrefix := by
      rw [hbytes, List.take_append_of_le_length (by omega)]
      exact take_okPrefix hpack
    simp only [fromPayload, bind_ok, success_ok]
    refine ⟨b, ⟨hlen, hprefix, rfl⟩, ?_⟩
    rw [hunpack, hserial, hfirmware, hbuild, hclocks]
    simp only [values, bind_ok, require_ok, pure_ok, asciiDecode_iff hslen, asciiDecode_iff hflen,
      asciiDecode_iff hblen, V3Clocks.fromBytes_iff]
    have hsimulated : decide (x.simulated.toInt ≠ 0) = x.simulated := by cases x.simulated <;> rfl
    refine ⟨(), ⟨trivial, ?_⟩, (), hids, _, hs, _, hf, _, hb, _, hc, b, ?_, ?_⟩
    · cases x.simulated
      · exact Or.inl rfl
      · exact Or.inr rfl
    · rw [hsimulated]
      exact h
    · rw [hsimulated]

end V3Info

end ThingDaq.Host.ModelsV3
