import ThingDaq.Host.Parsers
import ThingDaq.Lib.Raised

/-!
# Headers with the exceptions of Python

`_decode_header`, `_decode_v2_header` and `_decode_v3_header` unpack bytes, build members of
enumerations, look kinds up in generated tables and divide by the periods of those tables.  Each of
these operations raises a built-in exception outside its domain; here they are partial, where the
decoders of `Codec` and `ProtocolV3` are total functions.

## Main results

* `decodeHeader_eq`, `decodeV2Header_eq` and `decodeV3Header_eq` — on any bytes the decoders raise
  nothing but their validation errors, and they are the total ones.
-/

namespace ThingDaq.Host.Raising

open Wire Raised

/-! ### Generated tables -/

/-- What the header checks of a version look up. -/
structure Lookups where
  rules : Rules
  /-- `ALLOWED_FLAGS_BY_KIND` -/
  allowedFlagsByKind : List (FrameKind × ℕ)
  /-- `PAYLOAD_SCHEMA_BY_KIND` -/
  payloadSchemaByKind : List (FrameKind × String)
  /-- `ERROR_PAYLOAD_SCHEMA_BY_KIND` -/
  errorPayloadSchemaByKind : List (FrameKind × String)
  /-- `PAYLOAD_SIZE_BY_SCHEMA` -/
  payloadSizeBySchema : List (String × ℕ)
  /-- The checks that the algorithm is one of the host's. -/
  selectChecksum : ChecksumAlgorithm → Except (Raised FrameError) Unit
  /-- The data branch, up to the epoch check. -/
  checkData : Header → Except (Raised FrameError) Unit

/-- The data branch of `_validate_header`. -/
def checkV1Data (h : Header) : Except (Raised FrameError) Unit := do
  raiseIf (h.totalLength ≠ kDataFrameBytes ∨ h.payloadLength ≠ kDataPayloadBytes) .dataFrameSize
  let expectedItems : ℕ := if h.kind = FrameKind.adcData then 1012 else 4048
  raiseIf (h.itemCount ≠ expectedItems) (.dataItemCount h.kind expectedItems)
  raiseIf (h.runId = 0 ∨ h.requestId ≠ 0) .dataIdentity
  let period : ℤ := if h.kind = FrameKind.adcData then 8 else 2
  raiseIf ((← modulo h.firstSampleTicks period) ≠ 0) .unalignedTimestamp

def v1Lookups : Lookups where
  rules := v1Rules
  allowedFlagsByKind := [(1, 15), (2, 15), (16, 0), (17, 0), (18, 0), (19, 0), (20, 0), (21, 0),
    (22, 0), (23, 0), (24, 0), (25, 0), (144, 0x8000), (145, 0x8000), (146, 0x8000), (147, 0x8000),
    (148, 0x8000), (149, 0x8000), (150, 0x8000), (151, 0x8000), (152, 0x8000), (153, 0x8000),
    (159, 0x8000)]
  payloadSchemaByKind := [(1, "adc_data"), (2, "gpio_data"), (16, "empty"), (17, "configure_request"),
    (18, "empty"), (19, "empty"), (20, "empty"), (21, "empty"), (22, "ping_request"),
    (23, "checksum_benchmark_request"), (24, "gpio_clock_diagnostic_request"), (25, "empty"),
    (144, "info_response"), (145, "configure_response"), (146, "configure_response"),
    (147, "status_response"), (148, "stop_response"), (149, "reset_stats_response"),
    (150, "ping_response"), (151, "checksum_benchmark_response"),
    (152, "gpio_clock_diagnostic_response"), (153, "gpio_capture_diagnostic_response"),
    (159, "error_response")]
  errorPayloadSchemaByKind := ([144, 145, 146, 147, 148, 149, 150, 151, 152, 153] :
    List FrameKind).map fun kind => (kind, "response_prefix")
  payloadSizeBySchema := [("empty", 0), ("adc_data", 4048), ("gpio_data", 4048),
    ("configure_request", 8), ("response_prefix", 4), ("info_response", 376),
    ("configure_response", 12), ("status_response", 1228), ("stop_response", 8),
    ("reset_stats_response", 8), ("ping_request", 8), ("ping_response", 12),
    ("checksum_benchmark_request", 8), ("checksum_benchmark_response", 96),
    ("gpio_clock_diagnostic_request", 8), ("gpio_clock_diagnostic_response", 140),
    ("gpio_capture_diagnostic_response", 144), ("error_response", 8)]
  selectChecksum := fun algorithm =>
    raiseIf (isSupportedChecksum algorithm = false) (.unsupportedChecksum algorithm.toNat)
  checkData := checkV1Data

/-- `_DATA_SHAPES_BY_KIND` -/
def dataShapesByKind : List (FrameKind × List (ℕ × ℕ × ℤ)) :=
  [(1, [(4096, 4048, 1012), (2072, 2024, 506)]), (2, [(4096, 4048, 4048), (4096, 4048, 2024)])]

/-- `_DATA_PERIODS_BY_KIND` -/
def dataPeriodsByKind : List (FrameKind × List ℤ) :=
  [(1, [8, 16, 32, 64, 8]), (2, [2, 4, 8, 16, 8])]

/-- The data branch of `_validate_v2_header`. -/
def checkV2Data (h : Header) : Except (Raised FrameError) Unit := do
  let shapes ← getItem dataShapesByKind h.kind
  raiseIf (shapes.contains (h.totalLength, h.payloadLength, h.itemCount) = false) (.noDataLayout h.kind)
  raiseIf (h.runId = 0 ∨ h.requestId ≠ 0) .dataIdentity
  let periods ← getItem dataPeriodsByKind h.kind
  let aligned ← anyOf <| periods.map fun period => do
    return decide ((← modulo h.firstSampleTicks period) = 0)
  raiseIf (aligned = false) .unalignedTimestamp

/-- `_v1_checksum_algorithm`; the enumeration is the one of version 1. -/
def v1ChecksumAlgorithm (algorithm : ChecksumAlgorithm) : Except (Raised FrameError) Unit := do
  let selected ← exceptValueError (.unsupportedChecksum algorithm.toNat)
    (member (checksumAlgorithms.map UInt8.toNat) algorithm.toNat)
  raiseIf (selected ∉ [1, 2, 3]) (.unsupportedChecksum algorithm.toNat)

def v2Lookups : Lookups where
  rules := v2Rules
  allowedFlagsByKind := [(1, 15), (2, 15), (16, 0), (17, 0), (18, 0), (19, 0), (20, 0), (21, 0),
    (22, 0), (23, 0), (24, 0), (25, 0), (144, 0x8000), (145, 0x8000), (146, 0x8000), (147, 0x8000),
    (148, 0x8000), (149, 0x8000), (150, 0x8000), (151, 0x8000), (152, 0x8000), (153, 0x8000),
    (159, 0x8000), (26, 0), (154, 0x8000), (27, 0), (155, 0x8000)]
  payloadSchemaByKind := [(1, "adc_data"), (2, "gpio_data"), (16, "empty"), (17, "configure_request"),
    (18, "empty"), (19, "empty"), (20, "empty"), (21, "empty"), (22, "ping_request"),
    (23, "checksum_benchmark_request"), (24, "gpio_clock_diagnostic_request"), (25, "empty"),
    (144, "info_response"), (145, "configure_response"), (146, "configure_response"),
    (147, "status_response"), (148, "stop_response"), (149, "reset_stats_response"),
    (150, "ping_response"), (151, "checksum_benchmark_response"),
    (152, "gpio_clock_diagnostic_response"), (153, "gpio_capture_diagnostic_response"),
    (159, "error_response"), (26, "empty"), (154, "temperature_response"), (27, "empty"),
    (155, "runtime_health_response")]
  errorPayloadSchemaByKind := ([144, 145, 146, 147, 148, 149, 150, 151, 152, 153, 154, 155] :
    List FrameKind).map fun kind => (kind, "response_prefix")
  payloadSizeBySchema := [("runtime_health_response", 32), ("temperature_response", 12), ("empty", 0),
    ("rate_profile_info", 48), ("adc_data", 4048), ("gpio_data", 4048), ("adc_aux_data", 2024),
    ("gpio_aux_data", 4048), ("configure_request", 16), ("response_prefix", 4), ("info_response", 680),
    ("configure_response", 20), ("status_response", 1476), ("stop_response", 8),
    ("reset_stats_response", 8), ("ping_request", 8), ("ping_response", 12),
    ("checksum_benchmark_request", 8), ("checksum_benchmark_response", 96),
    ("gpio_clock_diagnostic_request", 8), ("gpio_clock_diagnostic_response", 140),
    ("gpio_capture_diagnostic_response", 272), ("error_response", 8)]
  selectChecksum := v1ChecksumAlgorithm
  checkData := checkV2Data

/-! ### Versions 1 and 2 -/

/-- The unpacked fields: the magic word, the reserved byte and the others. -/
def unpackHeader {ε : Type} (data : Bytes) (offset : ℕ) :
    Except (Raised ε) (ℕ × UInt8 × FrameHeader) :=
  let b := data.drop offset
  if kHeaderSize ≤ b.length then .ok (leValue (slice b 0 4), byteAt b 11, loadHeader b)
  else fail .structError

namespace Lookups

variable (l : Lookups)

/-- `expected_payload` -/
def expectedPayload (kind : FrameKind) (responseError : Bool) : Except (Raised FrameError) ℕ := do
  if l.rules.isTypedResponse kind then
    let schema ← if responseError then getItem l.errorPayloadSchemaByKind kind
      else getItem l.payloadSchemaByKind kind
    getItem l.payloadSizeBySchema schema
  else if kind = FrameKind.errorResponse then
    raiseIf (responseError = false) .errorResponseFlag
    return 8
  else
    let schema ← getItem l.payloadSchemaByKind kind
    getItem l.payloadSizeBySchema schema

/-- The control branch. -/
def checkControl (h : Header) : Except (Raised FrameError) Unit := do
  raiseIf (h.totalLength < kMinFrameBytes ∨ l.rules.maxControlFrameBytes < h.totalLength)
    .controlBounds
  raiseIf (h.requestId = 0) .zeroRequestId
  raiseIf (h.sequence ≠ 0 ∨ h.firstSampleTicks ≠ 0 ∨ h.itemCount ≠ 0) .dataOnlyFields
  raiseIf (l.rules.isRequest h.kind ∧ h.runId ≠ 0) .requestRunId
  raiseIf (l.rules.isRequest h.kind ∧ l.rules.maxCommandFrameBytes < h.totalLength) .commandBounds
  let expected ← l.expectedPayload h.kind h.responseError
  raiseIf (h.payloadLength ≠ expected) (.payloadSize h.kind expected)
  raiseIf (h.kind = FrameKind.startResponse ∧ h.responseError = false ∧ h.runId = 0) .startRunId

/-- `_validate_header` and `_validate_v2_header` -/
def validateHeader (h : Header) (reserved : UInt8) : Except (Raised FrameError) Unit := do
  raiseIf (h.headerLength ≠ kHeaderSize) .headerLength
  raiseIf (reserved ≠ 0) .headerReserved
  l.selectChecksum h.checksumAlgorithm
  raiseIf (isDataKind h.kind = false ∧ h.checksumAlgorithm ≠ ChecksumAlgorithm.adler32)
    (l.rules.controlChecksum h.checksumAlgorithm)
  let allowedFlags ← getItem l.allowedFlagsByKind h.kind
  raiseIf (h.flagBits &&& (0xFFFF ^^^ allowedFlags) ≠ 0) (.invalidFlags h.flags h.kind)
  raiseIf (h.hasFlag flagOverrunBefore ∧ h.hasFlag flagGapBefore = false) .overrunWithoutGap
  raiseIf (h.totalLength ≠ kHeaderSize + h.payloadLength + kTrailerSize) .inconsistentLengths
  if isDataKind h.kind then
    l.checkData h
    lift (Rules.checkEpoch h)
  else l.checkControl h

/-- The beginning of both decoders. -/
def readHeader (data : Bytes) (offset : ℕ) : Except (Raised FrameError) (Header × UInt8) := do
  let available := (data.drop offset).length
  raiseIf (available < kHeaderSize) (.shortHeader available)
  let (magic, reserved, w) ← unpackHeader data offset
  raiseIf (magic ≠ kMagic) .badMagic
  raiseIf (w.version ≠ l.rules.version) (.badVersion w.version)
  let _ ← exceptValueError (.unknownKind w.kind.toNat)
    (member (l.rules.frameKinds.map UInt8.toNat) w.kind.toNat)
  let _ ← exceptValueError (.unsupportedChecksum w.checksumAlgorithm.toNat)
    (member (checksumAlgorithms.map UInt8.toNat) w.checksumAlgorithm.toNat)
  return (Header.ofWire w, reserved)

end Lookups

/-- `_decode_header` -/
def decodeHeader (data : Bytes) (offset : ℕ) : Except (Raised FrameError) Header := do
  let (h, reserved) ← v1Lookups.readHeader data offset
  v1Lookups.validateHeader h reserved
  return h

/-- `_decode_v2_header` -/
def decodeV2Header (data : Bytes) (offset : ℕ) : Except (Raised FrameError) Header := do
  let (h, reserved) ← v2Lookups.readHeader data offset
  raiseIf (reserved ≠ 0) .headerReserved
  v2Lookups.validateHeader h 0
  return h

/-! ### Version 3 -/

/-- `_RESPONSE_SIZES` -/
def responseSizes : List (FrameKind × ℕ) :=
  [(FrameKind.infoResponse, 132), (FrameKind.configureResponse, 48), (FrameKind.startResponse, 48),
    (FrameKind.getStatusResponse, 384), (FrameKind.stopResponse, 16),
    (FrameKind.getCapabilitiesResponse, 1404), (FrameKind.getSettingsResponse, 48),
    (FrameKind.errorResponse, 8)]

/-- `_require` -/
def requireV3 (c : Prop) [Decidable c] (message : String) : Except (Raised V3Error) Unit :=
  require c (.validation message)

/-- The control branch of `_decode_v3_header`. -/
def checkV3Control (h : FrameHeader) : Except (Raised V3Error) FrameHeader := do
  requireV3 (h.totalLength.toNat ≤ maxControlFrameBytes) "control frame outside bounds"
  requireV3 (h.sequence = 0 ∧ h.firstSampleTicks = 0 ∧ h.itemCount = 0)
    "nonzero data-only control fields"
  let expected ←
    if requestKinds.contains h.kind then do
      requireV3 (h.flags = 0 ∧ h.runId = 0 ∧ h.requestId ≠ 0) "invalid request fields"
      pure (if h.kind = FrameKind.configureRequest then 20 else 0)
    else do
      requireV3 (h.flags &&& ~~~flagResponseError = 0) "invalid response flags"
      let isError : Bool := h.flags &&& flagResponseError ≠ 0
      requireV3 (h.requestId ≠ 0 ∨ isError = true) "zero request ID requires an error"
      let expected ←
        if h.kind = FrameKind.errorResponse then do
          requireV3 (isError = true) "generic response requires an error"
          pure 8
        else if isError then pure 4
        else getItem responseSizes h.kind
      if h.kind = FrameKind.startResponse ∧ isError = false then
        requireV3 (h.runId ≠ 0) "START requires a nonzero run ID"
      pure expected
  requireV3 (h.payloadLength.toNat = expected) "incorrect control payload size"
  return h

/-- `_decode_v3_header`; the one divisor of its data branch is a constant. -/
def decodeV3Header (data : Bytes) (offset : ℕ) : Except (Raised V3Error) FrameHeader := do
  requireV3 (kHeaderSize ≤ (data.drop offset).length) "truncated header"
  let (magic, reserved, h) ← unpackHeader data offset
  requireV3 (magic = kMagic ∧ h.version = V3.kProtocolVersion) "invalid magic/version"
  requireV3 (h.headerLength.toNat = kHeaderSize ∧ reserved = 0) "invalid header size/reserved"
  requireV3 (h.checksumAlgorithm = 1) "unsupported checksum"
  let _ ← exceptValueError (.validation "unknown frame kind")
    (member (frameKinds.map UInt8.toNat) h.kind.toNat)
  requireV3 (h.totalLength.toNat = kMinFrameBytes + h.payloadLength.toNat) "inconsistent frame length"
  if isDataKind h.kind then lift (checkDataHeader h) else checkV3Control h

/-! ### The decoders are the total ones -/

section Checks

variable {ε α : Type} {c c' : Prop} [Decidable c] [Decidable c'] {e : ε}

theorem raiseIf_congr (h : c ↔ c') : (raiseIf c e : Except (Raised ε) Unit) = raiseIf c' e := by
  unfold raiseIf
  by_cases hc : c
  · rw [if_pos hc, if_pos (h.mp hc)]
  · rw [if_neg hc, if_neg fun hc' => hc (h.mpr hc')]

/-- The same check, and behind it what is the same when it passes. -/
theorem raiseIf_bind_congr {f g : Unit → Except (Raised ε) α} (h : c ↔ c') (hfg : ¬ c' → f () = g ()) :
    (raiseIf c e >>= f) = raiseIf c' e >>= g := by
  rw [raiseIf_congr h]
  unfold raiseIf
  by_cases hc : c'
  · rw [if_pos hc]
    rfl
  · rw [if_neg hc]
    exact hfg hc

theorem raiseIf_of_not (h : ¬ c) : (raiseIf c e : Except (Raised ε) Unit) = .ok () := if_neg h

/-- A check at the end. -/
theorem raiseIf_bind_ok : (raiseIf c e >>= fun _ => .ok ()) = (raiseIf c e : Except (Raised ε) Unit) := by
  unfold raiseIf
  split <;> rfl

theorem getItem_eq {κ ν : Type} [DecidableEq κ] {d : List (κ × ν)} {k : κ} {v : ν}
    (h : d.lookup k = some v) : (getItem d k : Except (Raised ε) ν) = .ok v := by
  unfold getItem
  rw [h]
  rfl

end Checks

theorem mem_map_toNat {members : List UInt8} {v : UInt8} :
    v.toNat ∈ members.map UInt8.toNat ↔ members.contains v = true := by
  rw [List.contains_iff_mem]
  constructor
  · intro h
    obtain ⟨w, hw, heq⟩ := List.mem_map.mp h
    exact UInt8.toNat_inj.mp heq ▸ hw
  · exact fun h => List.mem_map_of_mem h

theorem isKnownChecksum_eq (a : ChecksumAlgorithm) :
    isKnownChecksum a = checksumAlgorithms.contains a := by
  rw [Bool.eq_iff_iff, ← mem_map_toNat]
  change decide (a.toNat ≤ 3) = true ↔ a.toNat ∈ [0, 1, 2, 3]
  simp only [List.mem_cons, List.not_mem_nil, or_false, decide_eq_true_eq]
  omega

theorem isDataKind_cases {k : FrameKind} (h : isDataKind k = true) :
    k = FrameKind.adcData ∨ k = FrameKind.gpioData := by
  simpa [isDataKind] using h

/-- The tables have what the total functions compute. -/
structure Lookups.Agrees (l : Lookups) : Prop where
  flags : ∀ k ∈ l.rules.frameKinds, l.allowedFlagsByKind.lookup k = some (l.rules.allowedFlags k)
  schema : ∀ k ∈ l.rules.frameKinds, isDataKind k = false →
    (l.payloadSchemaByKind.lookup k).bind (List.lookup · l.payloadSizeBySchema) =
      some (l.rules.payloadSize k)
  errorSchema : ∀ k ∈ l.rules.requestKinds.map (· + 128),
    (l.errorPayloadSchemaByKind.lookup k).bind (List.lookup · l.payloadSizeBySchema) = some 4
  errorResponse : l.rules.payloadSize FrameKind.errorResponse = 8
  untyped : l.rules.isTypedResponse FrameKind.errorResponse = false
  checksum : ∀ a, l.selectChecksum a =
    raiseIf (isSupportedChecksum a = false) (.unsupportedChecksum a.toNat)
  data : ∀ h, isDataKind h.kind = true → l.checkData h = lift (l.rules.checkData h)

namespace Lookups

variable {l : Lookups} (hl : l.Agrees) {h : Header}

theorem readHeader_eq (data : Bytes) (offset : ℕ) :
    l.readHeader data offset = lift (l.rules.unpackHeader data offset) := by
  unfold readHeader Rules.unpackHeader
  simp only [lift_check, lift_ok, exceptValueError_member, bind_assoc, pure_bind, mem_map_toNat,
    isKnownChecksum_eq, Bool.not_eq_true]
  refine raiseIf_bind_congr Iff.rfl fun hlen => ?_
  unfold unpackHeader
  dsimp only
  rw [if_pos (by omega)]
  rfl

include hl

/-- The payload size that a kind has to have. -/
theorem expectedPayload_eq (hk : h.kind ∈ l.rules.frameKinds) (hdata : isDataKind h.kind = false) :
    l.expectedPayload h.kind h.responseError =
      raiseIf (h.kind = FrameKind.errorResponse ∧ h.responseError = false) .errorResponseFlag >>= fun _ =>
        .ok (l.rules.expectedPayload h) := by
  have hschema := hl.schema h.kind hk hdata
  obtain ⟨schema, hlookup, hsize⟩ := Option.bind_eq_some_iff.mp hschema
  unfold expectedPayload Rules.expectedPayload
  by_cases htyped : l.rules.isTypedResponse h.kind = true
  · have hkind : h.kind ≠ FrameKind.errorResponse := by
      intro hkind
      rw [hkind, hl.untyped] at htyped
      cases htyped
    rw [if_pos htyped, if_pos htyped]
    simp only [raiseIf, hkind, false_and, if_false, ok_bind]
    cases h.responseError with
    | false =>
      simp only [Bool.false_eq_true, if_false, getItem_eq hlookup, getItem_eq hsize, ok_bind]
    | true =>
      obtain ⟨error, herror, hfour⟩ := Option.bind_eq_some_iff.mp (hl.errorSchema h.kind (List.contains_iff_mem.mp htyped))
      simp only [if_true, getItem_eq herror, getItem_eq hfour, ok_bind]
  · rw [if_neg htyped, if_neg htyped]
    by_cases hkind : h.kind = FrameKind.errorResponse
    · rw [if_pos hkind, hkind, hl.errorResponse]
      simp only [true_and]
      rfl
    · simp only [raiseIf, hkind, false_and, if_false, ok_bind, getItem_eq hlookup, getItem_eq hsize]

theorem checkControl_eq (hk : h.kind ∈ l.rules.frameKinds) (hdata : isDataKind h.kind = false) :
    l.checkControl h = lift (l.rules.checkControl h) := by
  unfold checkControl Rules.checkControl
  simp only [lift_check, lift_ok, expectedPayload_eq hl hk hdata, bind_assoc, ok_bind]
  iterate 7 refine raiseIf_bind_congr Iff.rfl fun _ => ?_
  unfold raiseIf
  split <;> rfl

theorem validateHeader_eq (hk : h.kind ∈ l.rules.frameKinds) (reserved : UInt8) :
    l.validateHeader h reserved = lift (l.rules.validateHeader h reserved) := by
  unfold validateHeader Rules.validateHeader
  simp only [lift_check, hl.checksum, getItem_eq (hl.flags h.kind hk), ok_bind]
  iterate 7 refine raiseIf_bind_congr Iff.rfl fun _ => ?_
  by_cases hdata : isDataKind h.kind = true
  · rw [if_pos hdata, if_pos hdata, hl.data h hdata]
    cases l.rules.checkData h <;> rfl
  · rw [if_neg hdata, if_neg hdata, checkControl_eq hl hk (Bool.not_eq_true _ ▸ hdata)]

end Lookups

/-- A header that was read has a kind of its version. -/
theorem unpackHeader_kind {r : Rules} {data : Bytes} {offset : ℕ} {h : Header} {reserved : UInt8}
    (hr : r.unpackHeader data offset = .ok (h, reserved)) : h.kind ∈ r.frameKinds := by
  unfold Rules.unpackHeader at hr
  simp only [Framing.ite_error_eq_ok] at hr
  obtain ⟨-, -, -, hkind, -, hok⟩ := hr
  cases hok
  rw [Bool.not_eq_false, List.contains_iff_mem] at hkind
  exact hkind

theorem v1Lookups_agrees : v1Lookups.Agrees where
  flags := by decide +kernel
  schema := by decide +kernel
  errorSchema := by decide +kernel
  errorResponse := rfl
  untyped := rfl
  checksum := fun _ => rfl
  data := by
    intro h _
    change checkV1Data h = lift (Host.checkV1Data h)
    unfold checkV1Data Host.checkV1Data
    simp only [lift_check, lift_ok]
    iterate 3 refine raiseIf_bind_congr Iff.rfl fun _ => ?_
    rw [modulo_eq (by split <;> decide), ok_bind, raiseIf_bind_ok]

theorem v2Lookups_agrees : v2Lookups.Agrees where
  flags := by decide +kernel
  schema := by decide +kernel
  errorSchema := by decide +kernel
  errorResponse := rfl
  untyped := rfl
  checksum := by
    intro a
    change v1ChecksumAlgorithm a = _
    unfold v1ChecksumAlgorithm
    rw [exceptValueError_member, bind_assoc]
    simp only [pure_bind]
    -- what is no member is not supported either
    have hsub : a.toNat ∉ checksumAlgorithms.map UInt8.toNat → a.toNat ∉ [1, 2, 3] := by
      change a.toNat ∉ [0, 1, 2, 3] → a.toNat ∉ [1, 2, 3]
      simp
    have hsupported : a.toNat ∉ [1, 2, 3] ↔ isSupportedChecksum a = false := by
      unfold isSupportedChecksum
      simp [← UInt8.toNat_inj, and_assoc]
    rw [raiseIf_congr hsupported]
    by_cases hmem : a.toNat ∈ checksumAlgorithms.map UInt8.toNat
    · simp only [raiseIf, hmem, not_true, if_false, ok_bind]
    · simp only [raiseIf, hmem, not_false_eq_true, if_true, hsupported.mp (hsub hmem)]
      rfl
  data := by
    intro h hdata
    change checkV2Data h = lift (Host.checkV2Data h)
    have hshapes : dataShapesByKind.lookup h.kind = some (v2DataShapes h.kind) := by
      rcases isDataKind_cases hdata with hkind | hkind <;> rw [hkind] <;> rfl
    have hperiods : dataPeriodsByKind.lookup h.kind = some (v2DataPeriods h.kind) := by
      rcases isDataKind_cases hdata with hkind | hkind <;> rw [hkind] <;> rfl
    have hpositive : ∀ period ∈ v2DataPeriods h.kind, 0 < period := by
      unfold v2DataPeriods
      split <;> decide
    have hlisted : (v2DataShapes h.kind).contains (h.totalLength, h.payloadLength, h.itemCount) = false ↔
        (h.totalLength, h.payloadLength, h.itemCount) ∉ v2DataShapes h.kind := by
      rw [← Bool.not_eq_true, List.contains_iff_mem]
    unfold checkV2Data Host.checkV2Data
    rw [getItem_eq hshapes, getItem_eq hperiods, ok_bind, ok_bind, raiseIf_congr hlisted,
      anyOf_map (g := fun period => decide (h.firstSampleTicks % period = 0)), ok_bind]
    · simp only [lift_check, lift_ok, raiseIf_bind_ok]
    · intro period hmem
      rw [modulo_eq (hpositive period hmem)]
      rfl

/-- On any bytes. -/
theorem decodeHeader_eq (data : Bytes) (offset : ℕ) :
    decodeHeader data offset = lift (Host.decodeHeader data offset) := by
  unfold decodeHeader Host.decodeHeader
  rw [Lookups.readHeader_eq]
  change lift (v1Rules.unpackHeader data offset) >>= _ = _
  cases hr : v1Rules.unpackHeader data offset with
  | error e => rfl
  | ok p =>
    obtain ⟨h, reserved⟩ := p
    rw [lift_ok, ok_bind]
    dsimp only
    rw [v1Lookups.validateHeader_eq v1Lookups_agrees (unpackHeader_kind hr)]
    change lift (v1Rules.validateHeader h reserved) >>= _ = _
    cases v1Rules.validateHeader h reserved <;> rfl

theorem decodeV2Header_eq (data : Bytes) (offset : ℕ) :
    decodeV2Header data offset = lift (Host.decodeV2Header data offset) := by
  unfold decodeV2Header Host.decodeV2Header
  rw [Lookups.readHeader_eq]
  change lift (v2Rules.unpackHeader data offset) >>= _ = _
  cases hr : v2Rules.unpackHeader data offset with
  | error e => rfl
  | ok p =>
    obtain ⟨h, reserved⟩ := p
    rw [lift_ok, ok_bind]
    dsimp only
    rw [lift_check]
    refine raiseIf_bind_congr Iff.rfl fun _ => ?_
    rw [v2Lookups.validateHeader_eq v2Lookups_agrees (unpackHeader_kind hr)]
    change lift (validateV2Header h) >>= _ = _
    cases validateV2Header h <;> rfl

theorem lookup_responseSizes : ∀ k ∈ frameKinds, isDataKind k = false → requestKinds.contains k = false →
    responseSizes.lookup k = some (responseSize k) := by
  decide +kernel

theorem checkV3Control_eq {h : FrameHeader} (hk : h.kind ∈ frameKinds)
    (hdata : isDataKind h.kind = false) : checkV3Control h = lift (checkControlHeader h) := by
  unfold checkV3Control checkControlHeader
  simp only [reject, lift_check, requireV3, require_eq]
  refine raiseIf_bind_congr Nat.not_le fun _ => ?_
  refine raiseIf_bind_congr (by simp only [Bool.or_eq_true, decide_eq_true_eq]; tauto) fun _ => ?_
  by_cases hrequest : requestKinds.contains h.kind = true
  · rw [if_pos hrequest, if_pos hrequest]
    simp only [lift_check, lift_ok, pure_bind]
    refine raiseIf_bind_congr (by simp only [Bool.or_eq_true, decide_eq_true_eq]; tauto) fun _ => ?_
    rfl
  · rw [if_neg hrequest, if_neg hrequest]
    simp only [lift_check, lift_ok]
    refine raiseIf_bind_congr (by simp) fun _ => ?_
    refine raiseIf_bind_congr (by simp) fun _ => ?_
    have hlookup : h.kind ≠ FrameKind.errorResponse →
        (getItem responseSizes h.kind : Except (Raised V3Error) ℕ) = .ok (responseSize h.kind) :=
      fun _ => getItem_eq (lookup_responseSizes h.kind hk hdata (Bool.not_eq_true _ ▸ hrequest))
    generalize decide (h.flags &&& flagResponseError ≠ 0) = isError
    by_cases herror : h.kind = FrameKind.errorResponse
    · have hstart : ¬ FrameKind.errorResponse = FrameKind.startResponse := by decide
      rw [if_pos herror]
      refine raiseIf_bind_congr (by simp [herror]) fun _ => ?_
      simp [herror, hstart, raiseIf]
      rfl
    · have hgeneric : ¬ (decide (h.kind = FrameKind.errorResponse) && !isError) = true := by
        simp [herror]
      rw [if_neg herror, if_neg herror, raiseIf_of_not hgeneric, ok_bind]
      cases isError with
      | true =>
        simp [raiseIf]
        rfl
      | false =>
        simp only [Bool.false_eq_true, if_false, hlookup herror, ok_bind, pure_bind]
        by_cases hstart : h.kind = FrameKind.startResponse
        · simp [hstart, raiseIf]
          rfl
        · simp [hstart, raiseIf]
          rfl

theorem decodeV3Header_eq (data : Bytes) (offset : ℕ) :
    decodeV3Header data offset = lift (Host.decodeV3Header (data.drop offset)) := by
  unfold decodeV3Header Host.decodeV3Header
  simp only [reject, lift_check, requireV3, require_eq, exceptValueError_member, bind_assoc, pure_bind,
    mem_map_toNat]
  refine raiseIf_bind_congr Nat.not_le fun hlen => ?_
  unfold unpackHeader
  dsimp only
  rw [if_pos (by omega), ok_bind]
  dsimp only
  refine raiseIf_bind_congr (by simp only [Bool.or_eq_true, decide_eq_true_eq]; tauto) fun _ => ?_
  refine raiseIf_bind_congr (by simp only [Bool.or_eq_true, decide_eq_true_eq]; tauto) fun _ => ?_
  refine raiseIf_bind_congr Iff.rfl fun _ => ?_
  refine raiseIf_bind_congr (by simp) fun hkind => ?_
  refine raiseIf_bind_congr Iff.rfl fun _ => ?_
  by_cases hdata : isDataKind (loadHeader (data.drop offset)).kind = true
  · rw [if_pos hdata, if_pos hdata]
  · rw [if_neg hdata, if_neg hdata]
    refine checkV3Control_eq ?_ (Bool.not_eq_true _ ▸ hdata)
    simpa using hkind

end ThingDaq.Host.Raising
