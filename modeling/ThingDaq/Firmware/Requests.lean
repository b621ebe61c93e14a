import ThingDaq.Firmware.Benchmark
import ThingDaq.Lib.Framing
import ThingDaq.Firmware.Control
import ThingDaq.Protocol.DataFrame

/-!
# Requests

How the firmware reads a request off its wire form: `decodeFrame`, the payload checks of
the request kinds and `decodeRequest` (`firmware/src/protocol.cpp`).  A request of
version 3 carries a settings record, one of the older versions a configuration, a nonce or
the parameters of a diagnostic.

The checks of response payloads are a parameter.  A frame that the header check has
admitted as a command of version 1 or 2 never gets to them.

## Main definitions

* `validatePayload`, `decodeFrame`, `decodeRequest` — the three stages.
* `LegacyCommand` — what an admitted header of an older command says.
* `Names` — a computation whose failures say what was wrong.

## Main results

* `decodeRequest_names` — every refusal of a request names its issue.
* `decodeRequest_responses` — an older command does not depend on the response checks.
-/

namespace ThingDaq.Commands

open Wire Control

/-! ### Diagnostics -/

namespace GpioClock
abbrev kGpioClockPitHz : ℕ := 24000000
abbrev kGpioClockProductionRateHz : ℕ := 4000000
abbrev kGpioClockMinRateHz : ℕ := 1000
abbrev kGpioClockMinEventCount : ℕ := 32
abbrev kGpioClockMaxEventCount : ℕ := 8192
abbrev kGpioClockMaxElapsedCycles : ℕ := 60000000
abbrev kGpioClockDuplicateGuardEvents : ℕ := 16
end GpioClock

open GpioClock Benchmark

structure GpioClockDiagnosticRequest where
  rateHz : UInt32
  eventCount : UInt16 := 8192
  deriving DecidableEq, Repr

/-- The value a request starts with. -/
def GpioClockDiagnosticRequest.initial (build : Build) : GpioClockDiagnosticRequest :=
  { rateHz := if build.releaseFixed1MHz then 1000000 else 4000000 }

/-- `scaleDwt`; the products of the firmware are taken in 64 bits. -/
def scaleDwt (cpuHz cyclesAt600MHz : ℕ) : ℕ := cyclesAt600MHz * cpuHz / 600000000

/-- `validGpioClockDiagnosticRequest`; a rate of zero fails the first test. -/
def validGpioClockDiagnosticRequest (cpuHz : ℕ) (request : GpioClockDiagnosticRequest) : Bool :=
  let rate := request.rateHz.toNat
  let events := request.eventCount.toNat
  if rate < kGpioClockMinRateHz || kGpioClockProductionRateHz < rate ||
      kGpioClockPitHz % rate ≠ 0 || events < kGpioClockMinEventCount ||
      kGpioClockMaxEventCount < events then false
  else
    (events * cpuHz + rate - 1) / rate ≤ scaleDwt cpuHz kGpioClockMaxElapsedCycles &&
      2 * events + kGpioClockDuplicateGuardEvents ≤ 2 ^ 15 - 1

def decodeChecksumBenchmarkRequest (payload : Bytes) : Except Result ChecksumBenchmarkRequest :=
  if payload.length ≠ 8 then .error Result.badLength
  else
    let decoded : ChecksumBenchmarkRequest :=
      { checksumAlgorithm := byteAt payload 0
        vector := byteAt payload 1
        memoryRegion := byteAt payload 2
        cacheState := byteAt payload 3
        batchCount := UInt16.ofNat (leValue (slice payload 4 2))
        iterationsPerBatch := UInt16.ofNat (leValue (slice payload 6 2)) }
    if !isKnownChecksum decoded.checksumAlgorithm || !isSupportedChecksum decoded.checksumAlgorithm then
      .error Result.unsupportedChecksum
    else if !(validChecksumBenchmarkRequest decoded).value then .error Result.badPayload
    else .ok decoded

def decodeGpioClockDiagnosticRequest (cpuHz : ℕ) (payload : Bytes) :
    Except Result GpioClockDiagnosticRequest :=
  if payload.length ≠ 8 then .error Result.badLength
  else
    let decoded : GpioClockDiagnosticRequest :=
      { rateHz := UInt32.ofNat (leValue (slice payload 0 4))
        eventCount := UInt16.ofNat (leValue (slice payload 4 2)) }
    if leValue (slice payload 6 2) ≠ 0 || !validGpioClockDiagnosticRequest cpuHz decoded then
      .error Result.badPayload
    else .ok decoded

/-! ### Configurations on the wire -/

/-- The pair and sample rates of `rate_profile::kTimings`, profile by profile. -/
def rateProfileRates : List (ℕ × ℕ) :=
  [(1000000, 4000000), (500000, 2000000), (250000, 1000000), (125000, 500000), (1000000, 1000000)]

/-- `validateConfiguration` at offset zero, as a request is checked. -/
def validateConfiguration (payload : Bytes) (version : UInt8) : Result :=
  let v2 : Bool := version = V2.kProtocolVersion
  let checksum := byteAt payload 2
  if payload.length < (if v2 then 16 else 8) then Result.badLength
  else if byteAt payload 0 &&& ~~~3 ≠ 0 || 1 < (byteAt payload 1).toNat ||
      (version = V1.kProtocolVersion && byteAt payload 3 ≠ 0) ||
      (v2 && 1 < (byteAt payload 3).toNat) then
    Result.badPayload
  else if !isKnownChecksum checksum || checksum = ChecksumAlgorithm.noneReserved then
    Result.badPayload
  else if leValue (slice payload 4 4) ≠ kDataFrameBytes then Result.badPayload
  else if v2 && !rateProfileRates.contains
      (leValue (slice payload 8 4), leValue (slice payload 12 4)) then
    Result.badPayload
  else Result.success

/-- The twenty bytes of a settings record. -/
def loadSettings (b : Bytes) : Settings where
  streamMask := byteAt b 0
  source := byteAt b 1
  checksumAlgorithm := byteAt b 2
  wireVersion := byteAt b 3
  cpuProfile := byteAt b 4
  rateProfile := byteAt b 5
  auxBankMode := byteAt b 6
  gpioWidthBits := byteAt b 7
  gpioPolicy := byteAt b 8
  adcPolicy := byteAt b 9
  adcResolutionBits := byteAt b 10
  reserved := byteAt b 11
  adcPairRateHz := UInt32.ofNat (leValue (slice b 12 4))
  gpioSampleRateHz := UInt32.ofNat (leValue (slice b 16 4))

/-! ### Frames -/

section Decode

variable (cpuHz : ℕ) (responses : FrameHeader → Bytes → Result)

/-- `validatePayload`, with the checks of the response kinds as a parameter. -/
def validatePayload (h : FrameHeader) (payload : Bytes) : Result :=
  if payload.length ≠ h.payloadLength.toNat then Result.badLength
  else if h.version = V3.kProtocolVersion then
    if v3Request h.kind then
      if h.kind = FrameKind.configureRequest then
        if payload.length ≠ 20 then Result.badLength
        else (loadSettings payload).validateV3Settings
      else Result.success
    else responses h payload
  else if h.kind = FrameKind.adcData then
    if adcSamplesFit payload then Result.success else Result.badPayload
  else if h.kind = FrameKind.gpioData then Result.success
  else if h.kind = FrameKind.configureRequest then validateConfiguration payload h.version
  else if h.kind = FrameKind.checksumBenchmarkRequest then
    match decodeChecksumBenchmarkRequest payload with
    | .error r => r
    | .ok _ => Result.success
  else if h.kind = FrameKind.gpioClockDiagnosticRequest then
    match decodeGpioClockDiagnosticRequest cpuHz payload with
    | .error r => r
    | .ok _ => Result.success
  else if isRequestKind h.kind then Result.success
  else responses h payload

structure DecodedFrame where
  header : FrameHeader
  payload : Bytes
  checksum : UInt32
  deriving DecidableEq, Repr

def decodeFrame (b : Bytes) : Except Result DecodedFrame :=
  match decodeHeader b false with
  | .error r => .error r
  | .ok h =>
    let payloadEnd := kHeaderSize + h.payloadLength.toNat
    if b.length ≠ h.totalLength.toNat then .error Result.badLength
    else
      match loadU32 b payloadEnd, computeChecksum h.checksumAlgorithm (b.take payloadEnd) with
      | none, _ => .error Result.badLength
      | some _, none => .error Result.unsupportedChecksum
      | some observed, some expected =>
        if observed ≠ expected then .error Result.badChecksum
        else
          let payload := slice b kHeaderSize h.payloadLength.toNat
          let result := validatePayload cpuHz responses h payload
          if !result.isOk then .error result else .ok ⟨h, payload, observed⟩

/-! ### Requests -/

/-- A request with the parameters of the diagnostics. -/
structure WireRequest extends Request where
  checksumBenchmark : ChecksumBenchmarkRequest := {}
  gpioClockDiagnostic : GpioClockDiagnosticRequest
  deriving DecidableEq, Repr

/-- The value a request starts with. -/
def WireRequest.initial (build : Build) (kind : CommandKind) (requestId : UInt32)
    (version : UInt8) : WireRequest where
  kind := kind
  requestId := requestId
  protocolVersion := version
  configuration := Configuration.idle build
  settings := Settings.defaultsFor build.cpuProfile
  gpioClockDiagnostic := GpioClockDiagnosticRequest.initial build

def commandForKind (k : FrameKind) : Option CommandKind :=
  match k.toNat with
  | 16 => some .info
  | 17 => some .configure
  | 18 => some .start
  | 19 => some .getStatus
  | 20 => some .stop
  | 21 => some .resetStats
  | 22 => some .ping
  | 23 => some .checksumBenchmark
  | 24 => some .gpioClockDiagnostic
  | 25 => some .gpioCaptureDiagnostic
  | 26 => some .getTemperature
  | 27 => some .getRuntimeHealth
  | _ => none

/-- The cast of a version 3 kind to a command; the kinds are those of `v3Request`. -/
def v3CommandForKind (k : FrameKind) : Option CommandKind :=
  match k.toNat with
  | 16 => some .info
  | 17 => some .configure
  | 18 => some .start
  | 19 => some .getStatus
  | 20 => some .stop
  | 28 => some .getCapabilities
  | 29 => some .getSettings
  | _ => none

/-- The configuration of a CONFIGURE payload. -/
def decodeConfiguration (build : Build) (version : UInt8) (payload : Bytes) :
    Except Result Configuration :=
  let v2 : Bool := version = V2.kProtocolVersion
  let configuration : Configuration :=
    { Configuration.idle build with
      streamMask := byteAt payload 0
      source := byteAt payload 1
      dataChecksumAlgorithm := byteAt payload 2
      dataFrameBytes := leValue (slice payload 4 4)
      protocolVersion := version
      legacyV2 := v2 }
  if v2 then
    match rateProfileRates.findIdx? (· = (leValue (slice payload 8 4), leValue (slice payload 12 4))) with
    | some profile =>
      .ok { configuration with auxBankMode := byteAt payload 3, rateProfile := UInt8.ofNat profile }
    | none => .error Result.badPayload
  else .ok configuration

/-- The fixed 1 MHz release refuses the requests that ask for another rate. -/
def releaseAdmits (build : Build) (request : WireRequest) : Bool :=
  !(build.releaseFixed1MHz &&
    (request.kind = .gpioCaptureDiagnostic ||
      (request.kind = .configure && request.configuration.rateProfile ≠ 4) ||
      (request.kind = .gpioClockDiagnostic && request.gpioClockDiagnostic.rateHz ≠ 1000000)))

/-- What a command of version 1 or 2 carries in its payload. -/
def decodeParameters (build : Build) (command : CommandKind) (frame : DecodedFrame) :
    Except Result WireRequest :=
  let initial := WireRequest.initial build command frame.header.requestId frame.header.version
  match command with
  | .configure =>
    (decodeConfiguration build frame.header.version frame.payload).map fun configuration =>
      { initial with configuration := configuration }
  | .ping =>
    match loadU64 frame.payload 0 with
    | none => .error Result.badPayload
    | some nonce => .ok { initial with nonce := nonce }
  | .checksumBenchmark =>
    (decodeChecksumBenchmarkRequest frame.payload).map fun request =>
      { initial with checksumBenchmark := request }
  | .gpioClockDiagnostic =>
    (decodeGpioClockDiagnosticRequest cpuHz frame.payload).map fun request =>
      { initial with gpioClockDiagnostic := request }
  | _ => .ok initial

/-- `decodeRequest` of versions 1 and 2, behind the frame. -/
def decodeLegacyRequest (build : Build) (frame : DecodedFrame) : Except Result WireRequest :=
  if build.releaseFixed1MHz && frame.header.version ≠ V2.kProtocolVersion then
    .error Result.badVersion
  else
    match commandForKind frame.header.kind with
    | none => .error Result.badKind
    | some command =>
      match decodeParameters cpuHz build command frame with
      | .error r => .error r
      | .ok decoded =>
        if releaseAdmits build decoded then .ok decoded
        else .error ⟨.unsupportedConfiguration, .badPayload⟩

/-- `decodeRequest` of version 3, behind the frame. -/
def decodeV3Request (build : Build) (frame : DecodedFrame) : Except Result WireRequest :=
  match v3CommandForKind frame.header.kind with
  | none => .error Result.badKind
  | some command =>
    let initial := WireRequest.initial build command frame.header.requestId V3.kProtocolVersion
    .ok (if command = .configure then { initial with settings := loadSettings frame.payload }
      else initial)

def decodeRequest (build : Build) (b : Bytes) : Except Result WireRequest :=
  match decodeFrame cpuHz responses b with
  | .error r => .error r
  | .ok frame =>
    if frame.header.version = V3.kProtocolVersion then decodeV3Request build frame
    else decodeLegacyRequest cpuHz build frame

end Decode

/-! ### Accepted headers -/

theorem isOk_ite {c : Prop} [Decidable c] {bad r : Result} (hbad : bad.isOk = false) :
    (if c then bad else r).isOk = true ↔ ¬ c ∧ r.isOk = true := by
  split
  · rename_i hc
    rw [hbad]
    exact ⟨fun h => absurd h (by decide), fun h => absurd hc h.1⟩
  · rename_i hc
    exact ⟨fun h => ⟨hc, h⟩, fun h => h.2⟩

/-- The control part of the header check, for a request. -/
structure AdmittedControl (h : FrameHeader) : Prop where
  total_le : h.totalLength.toNat ≤ 64
  requestId : h.requestId ≠ 0
  sequence : h.sequence = 0
  runId : h.runId = 0

theorem admittedControl {h : FrameHeader} {responseError : Bool} (hkind : isRequestKind h.kind = true)
    (hok : (validateControlHeader h responseError).isOk = true) : AdmittedControl h := by
  unfold validateControlHeader at hok
  dsimp only at hok
  rw [isOk_ite rfl, isOk_ite rfl, isOk_ite rfl, isOk_ite rfl, isOk_ite rfl] at hok
  obtain ⟨-, hid, hitems, hrun, hmax, -⟩ := hok
  rw [hkind, Bool.true_and] at hrun hmax
  simp only [Bool.or_eq_true, decide_eq_true_eq, not_or, not_not, Nat.not_lt, ne_eq] at hitems hrun hmax
  refine ⟨?_, hid, hitems.1.1, hrun⟩
  split at hmax
  · exact hmax
  · exact Nat.le_trans hmax (by decide)

/-- A header of version 1 or 2 that the firmware admits as a command. -/
structure LegacyCommand (b : Bytes) (h : FrameHeader) : Prop where
  header : h = loadHeader b
  length : kHeaderSize ≤ b.length
  magic : leValue (slice b 0 4) = kMagic
  version : h.version = V1.kProtocolVersion ∨ h.version = V2.kProtocolVersion
  request : isRequestKind h.kind = true
  headerLength : h.headerLength.toNat = kHeaderSize
  sizes : h.totalLength.toNat = kMinFrameBytes + h.payloadLength.toNat
  control : AdmittedControl h

theorem isRequestKind_not_data {k : FrameKind} (h : isRequestKind k = true) : isDataKind k = false := by
  unfold isRequestKind requestKinds at h
  simp only [List.contains_eq_mem, List.mem_cons, List.not_mem_nil, or_false, decide_eq_true_eq] at h
  rcases h with rfl | rfl | rfl | rfl | rfl | rfl | rfl | rfl | rfl | rfl | rfl | rfl <;> rfl

theorem legacyCommand_of_decodeHeader {b : Bytes} {h : FrameHeader}
    (hok : decodeHeader b true = .ok h) (hv : h.version ≠ V3.kProtocolVersion) :
    LegacyCommand b h := by
  unfold decodeHeader at hok
  dsimp only at hok
  simp only [Framing.ite_error_eq_ok] at hok
  obtain ⟨hlen, hmagic, hversion, hkind, -, -, hvalid, -, hok⟩ := hok
  cases hok
  have hv3 : decide ((loadHeader b).version = V3.kProtocolVersion) = false := decide_eq_false hv
  rw [hv3] at hversion hkind
  simp only [Bool.not_false, Bool.true_and, Bool.and_true, Bool.or_eq_true, Bool.not_eq_true',
    Bool.and_eq_true, decide_eq_true_eq, not_or, Bool.not_eq_false, ne_eq, not_and_or, not_not]
    at hversion hkind hvalid
  obtain ⟨-, hrequest⟩ := hkind
  rw [validateHeader] at hvalid
  rw [if_neg hv, isOk_ite rfl, isOk_ite rfl, isOk_ite rfl, isOk_ite rfl, isOk_ite rfl, isOk_ite rfl,
    isOk_ite rfl, isOk_ite rfl, isOk_ite rfl, isOk_ite rfl, isRequestKind_not_data hrequest,
    if_neg (by decide)] at hvalid
  obtain ⟨-, -, -, hheader, -, -, -, -, -, hsizes, hcontrol⟩ := hvalid
  exact ⟨rfl, Nat.not_lt.mp hlen, not_not.mp hmagic, hversion, hrequest, not_not.mp hheader,
    not_not.mp hsizes, admittedControl hrequest hcontrol⟩

theorem validateHeader_mono {h : FrameHeader} (hok : (validateHeader h true).isOk = true) :
    (validateHeader h false).isOk = true := by
  rw [validateHeader] at hok ⊢
  by_cases hv : h.version = V3.kProtocolVersion
  · rw [if_pos hv] at hok ⊢
    rw [validateV3Header, isOk_ite rfl] at hok ⊢
    refine ⟨?_, hok.2⟩
    have hkind := hok.1
    simp only [Bool.or_eq_true, not_or, Bool.true_and, Bool.false_and, Bool.false_eq_true,
      not_false_eq_true, and_true] at hkind ⊢
    exact hkind.1
  · rw [if_neg hv, isOk_ite rfl, isOk_ite rfl] at hok ⊢
    refine ⟨hok.1, ?_, hok.2.2⟩
    have hkind := hok.2.1
    simp only [Bool.or_eq_true, not_or, Bool.true_and, Bool.false_and, Bool.false_eq_true,
      not_false_eq_true, and_true] at hkind ⊢
    exact hkind.1

/-- What is admitted as a command is admitted as a frame. -/
theorem decodeHeader_mono {b : Bytes} {h : FrameHeader} (hok : decodeHeader b true = .ok h) :
    decodeHeader b false = .ok h := by
  unfold decodeHeader at hok ⊢
  dsimp only at hok ⊢
  simp only [Framing.ite_error_eq_ok] at hok ⊢
  obtain ⟨hlen, hmagic, hversion, hkind, hchecksum, hreserved, hvalid, hrest⟩ := hok
  refine ⟨hlen, hmagic, hversion, ?_, hchecksum, hreserved, ?_, hrest⟩
  · simp only [Bool.and_eq_true, Bool.or_eq_true, not_and, not_or, Bool.true_and, Bool.false_and,
      Bool.false_eq_true, not_false_eq_true, and_true] at hkind ⊢
    exact fun hv => (hkind hv).1
  · rw [Bool.not_eq_true', Bool.not_eq_false] at hvalid ⊢
    exact validateHeader_mono hvalid

section Responses

variable {cpuHz : ℕ} {responses responses' : FrameHeader → Bytes → Result}

theorem validatePayload_responses {h : FrameHeader} (hv : h.version ≠ V3.kProtocolVersion)
    (hkind : isRequestKind h.kind = true) (payload : Bytes) :
    validatePayload cpuHz responses h payload = validatePayload cpuHz responses' h payload := by
  unfold validatePayload
  rw [if_neg hv, if_neg hv, if_pos hkind, if_pos hkind]

/-- An older command never gets to the checks of the responses. -/
theorem decodeRequest_responses {b : Bytes} {h : FrameHeader} (hok : decodeHeader b true = .ok h)
    (hv : h.version ≠ V3.kProtocolVersion) (build : Build) :
    decodeRequest cpuHz responses build b = decodeRequest cpuHz responses' build b := by
  have hkind := (legacyCommand_of_decodeHeader hok hv).request
  have hframe : decodeFrame cpuHz responses b = decodeFrame cpuHz responses' b := by
    unfold decodeFrame
    rw [decodeHeader_mono hok]
    dsimp only
    rw [validatePayload_responses hv hkind]
  unfold decodeRequest
  rw [hframe]

end Responses

/-! ### Failures name their issue -/

/-- A result that is a success or says what was wrong. -/
def Named (r : Result) : Prop := r.isOk = true ∨ r.issue ≠ .none

/-- A computation whose failures say what was wrong. -/
def Names {α : Type} (x : Except Result α) : Prop :=
  ∀ r, x = .error r → r.isOk = false ∧ r.issue ≠ .none

theorem named_ite {c : Prop} [Decidable c] {r r' : Result} (hr : Named r) (hr' : Named r') :
    Named (if c then r else r') := by
  split
  · exact hr
  · exact hr'

theorem names_ite {α : Type} {c : Prop} [Decidable c] {x y : Except Result α} (hx : Names x)
    (hy : Names y) : Names (if c then x else y) := by
  split
  · exact hx
  · exact hy

theorem names_ok {α : Type} (a : α) : Names (.ok a : Except Result α) := by
  intro r hr
  cases hr

theorem names_error {α : Type} {r : Result} (hok : r.isOk = false) (hr : r.issue ≠ .none) :
    Names (.error r : Except Result α) := by
  intro r' hr'
  cases hr'
  exact ⟨hok, hr⟩

theorem names_map {α β : Type} {x : Except Result α} {f : α → β} (hx : Names x) :
    Names (x.map f) := by
  cases x with
  | error r =>
    intro r' hr'
    cases hr'
    exact hx r rfl
  | ok a => exact names_ok (f a)

/-- A validator's failure passed on. -/
theorem names_of_named {α : Type} {r : Result} {x : Except Result α} (hr : Named r) (hx : Names x) :
    Names (if !r.isOk then .error r else x) := by
  split
  · rename_i hbad
    rw [Bool.not_eq_true'] at hbad
    rcases hr with hok | hissue
    · rw [hbad] at hok
      cases hok
    · exact names_error hbad hissue
  · exact hx

theorem named_validateV3Header (h : FrameHeader) (commandsOnly : Bool) :
    Named (validateV3Header h commandsOnly) := by
  unfold validateV3Header
  dsimp only
  repeat' with_reducible apply named_ite
  all_goals first | exact .inl rfl | exact .inr (by decide)

theorem named_validateV1DataHeader (h : FrameHeader) : Named (validateV1DataHeader h) := by
  unfold validateV1DataHeader
  dsimp only
  repeat' with_reducible apply named_ite
  all_goals first | exact .inl rfl | exact .inr (by decide)

theorem named_validateV2DataHeader (h : FrameHeader) : Named (validateV2DataHeader h) := by
  unfold validateV2DataHeader
  dsimp only
  repeat' with_reducible apply named_ite
  all_goals first | exact .inl rfl | exact .inr (by decide)

theorem named_validateControlHeader (h : FrameHeader) (responseError : Bool) :
    Named (validateControlHeader h responseError) := by
  unfold validateControlHeader
  dsimp only
  repeat' with_reducible apply named_ite
  all_goals first | exact .inl rfl | exact .inr (by decide)

theorem named_validateHeader (h : FrameHeader) (commandsOnly : Bool) :
    Named (validateHeader h commandsOnly) := by
  rw [validateHeader]
  repeat' with_reducible apply named_ite
  all_goals
    first
    | exact .inr (by decide)
    | exact named_validateV3Header h commandsOnly
    | exact named_validateV1DataHeader h
    | exact named_validateV2DataHeader h
    | exact named_validateControlHeader h _

theorem names_decodeHeader (b : Bytes) (commandsOnly : Bool) : Names (decodeHeader b commandsOnly) := by
  unfold decodeHeader
  dsimp only
  iterate 6 refine names_ite (names_error rfl (by decide)) ?_
  exact names_of_named (named_validateHeader _ _)
    (names_ite (names_error rfl (by decide)) (names_ok _))

theorem named_validateConfiguration (payload : Bytes) (version : UInt8) :
    Named (validateConfiguration payload version) := by
  unfold validateConfiguration
  dsimp only
  repeat' with_reducible apply named_ite
  all_goals first | exact .inl rfl | exact .inr (by decide)

theorem named_validateV3Settings (s : Settings) : Named s.validateV3Settings := by
  unfold Settings.validateV3Settings
  repeat' with_reducible apply named_ite
  all_goals first | exact .inl rfl | exact .inr (by decide)

theorem names_decodeChecksumBenchmarkRequest (payload : Bytes) :
    Names (decodeChecksumBenchmarkRequest payload) := by
  unfold decodeChecksumBenchmarkRequest
  dsimp only
  repeat' with_reducible apply names_ite
  all_goals first | exact names_ok _ | exact names_error rfl (by decide)

theorem names_decodeGpioClockDiagnosticRequest (cpuHz : ℕ) (payload : Bytes) :
    Names (decodeGpioClockDiagnosticRequest cpuHz payload) := by
  unfold decodeGpioClockDiagnosticRequest
  dsimp only
  repeat' with_reducible apply names_ite
  all_goals first | exact names_ok _ | exact names_error rfl (by decide)

section Names

variable {cpuHz : ℕ} {responses : FrameHeader → Bytes → Result}
  (hresponses : ∀ h payload, Named (responses h payload))

include hresponses

theorem named_validatePayload (h : FrameHeader) (payload : Bytes) :
    Named (validatePayload cpuHz responses h payload) := by
  unfold validatePayload
  repeat' with_reducible apply named_ite
  all_goals
    first
    | exact .inl rfl
    | exact .inr (by decide)
    | exact named_validateV3Settings _
    | exact named_validateConfiguration _ _
    | exact hresponses _ _
    | skip
  · split
    · rename_i r hr
      exact .inr (names_decodeChecksumBenchmarkRequest payload r hr).2
    · exact .inl rfl
  · split
    · rename_i r hr
      exact .inr (names_decodeGpioClockDiagnosticRequest cpuHz payload r hr).2
    · exact .inl rfl

theorem names_decodeFrame (b : Bytes) : Names (decodeFrame cpuHz responses b) := by
  unfold decodeFrame
  split
  · rename_i r hr
    obtain ⟨hok, hissue⟩ := names_decodeHeader b false r hr
    exact names_error hok hissue
  · dsimp only
    refine names_ite (names_error rfl (by decide)) ?_
    split
    · exact names_error rfl (by decide)
    · exact names_error rfl (by decide)
    · exact names_ite (names_error rfl (by decide))
        (names_of_named (named_validatePayload hresponses _ _) (names_ok _))

end Names

theorem names_decodeConfiguration (build : Build) (version : UInt8) (payload : Bytes) :
    Names (decodeConfiguration build version payload) := by
  unfold decodeConfiguration
  dsimp only
  split
  · split
    · exact names_ok _
    · exact names_error rfl (by decide)
  · exact names_ok _

theorem names_decodeParameters (cpuHz : ℕ) (build : Build) (command : CommandKind)
    (frame : DecodedFrame) : Names (decodeParameters cpuHz build command frame) := by
  unfold decodeParameters
  dsimp only
  split
  · exact names_map (names_decodeConfiguration _ _ _)
  · split
    · exact names_error rfl (by decide)
    · exact names_ok _
  · exact names_map (names_decodeChecksumBenchmarkRequest _)
  · exact names_map (names_decodeGpioClockDiagnosticRequest _ _)
  · exact names_ok _

theorem names_decodeLegacyRequest (cpuHz : ℕ) (build : Build) (frame : DecodedFrame) :
    Names (decodeLegacyRequest cpuHz build frame) := by
  unfold decodeLegacyRequest
  refine names_ite (names_error rfl (by decide)) ?_
  split
  · exact names_error rfl (by decide)
  · split
    · rename_i command _ _ r hr
      obtain ⟨hok, hissue⟩ := names_decodeParameters cpuHz build command frame r hr
      exact names_error hok hissue
    · exact names_ite (names_ok _) (names_error rfl (by decide))

/-- Every refusal of a request says what was wrong. -/
theorem decodeRequest_names {cpuHz : ℕ} {responses : FrameHeader → Bytes → Result}
    (hresponses : ∀ h payload, Named (responses h payload)) (build : Build) (b : Bytes) :
    Names (decodeRequest cpuHz responses build b) := by
  unfold decodeRequest
  split
  · rename_i r hr
    obtain ⟨hok, hissue⟩ := names_decodeFrame hresponses b r hr
    exact names_error hok hissue
  · refine names_ite ?_ (names_decodeLegacyRequest _ _ _)
    unfold decodeV3Request
    split
    · exact names_error rfl (by decide)
    · exact names_ok _

end ThingDaq.Commands
