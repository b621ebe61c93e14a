import ThingDaq.Host.Raising.Headers

/-!
# Control payloads of version 1

The checks of `_validate_payload` of `protocol.py` behind the data kinds.  They index, unpack,
look up and divide, and each of these raises a built-in exception outside its domain; so a
check is written with all of them and returns in `Except (Raised PayloadError)`.

## Main results

* `safe_validateControl` — behind a header that was accepted, no check raises a built-in
  exception: a control payload passes or fails with a `FrameValidationError`.
-/

namespace ThingDaq.Host.Raising

open Wire Raised

/-! ### Checks of a payload -/

/-- The validation errors that a check of a payload raises itself. -/
inductive PayloadError
  | rejected (message : String)
  | unsupportedChecksum (algorithm : ℕ)
  /-- With the text of an error of another version. -/
  | incompatible (e : FrameError)
  deriving DecidableEq, Repr

def PayloadError.frameError : PayloadError → FrameError
  | rejected message => .controlPayload message
  | unsupportedChecksum algorithm => .unsupportedChecksum algorithm
  | incompatible _ => .controlPayload "not a control frame of version 1"

/-- What a check of a payload returns or raises. -/
abbrev Check (α : Type) := Except (Raised PayloadError) α

/-- `if condition: raise FrameValidationError(message)` -/
def rejectIf (c : Prop) [Decidable c] (message : String) : Check Unit :=
  raiseIf c (.rejected message)

/-- `except ValueError as exc: raise FrameValidationError(message) from exc` -/
def orReject {α : Type} (message : String) (x : Check α) : Check α :=
  exceptValueError (.rejected message) x

section Rules

variable {P : Builtin → Prop} {payload : Bytes}

@[simp] theorem within_rejectIf {c : Prop} [Decidable c] {message : String} {Q : Unit → Prop} :
    Within P (rejectIf c message) Q ↔ (¬ c → Q ()) := within_raiseIf

@[simp] theorem within_orReject {α : Type} {message : String} {x : Check α} {Q : α → Prop} :
    Within P (orReject message x) Q ↔ Within (fun b => b.isValueError = false → P b) x Q :=
  within_exceptValueError

/-- Behind a check the rejected case is gone. -/
theorem within_rejectIf_bind {α : Type} {c : Prop} [Decidable c] {message : String} {f : Unit → Check α}
    {Q : α → Prop} (h : ¬ c → Within P (f ()) Q) : Within P (rejectIf c message >>= f) Q :=
  within_bind.mpr (within_rejectIf.mpr h)

theorem safe_rejectIf {c : Prop} [Decidable c] {message : String} :
    Safe (rejectIf c message) fun _ => True := within_rejectIf.mpr fun _ => True.intro

/-- Under a `try` a number may be no member. -/
theorem within_catch_member (members : List ℕ) (v : ℕ) :
    Within (fun b => b.isValueError = false → P b) (member members v : Check ℕ) fun _ => True := by
  simp

/-- A check of several alternatives. -/
theorem safe_rejectAny {cs : List (Check Bool)} {message : String}
    (h : ∀ c ∈ cs, Safe c fun _ => True) :
    Safe (do let any ← anyOf cs; rejectIf (any = true) message) fun _ => True :=
  Within.bind (within_anyOf h fun _ => True.intro) fun _ _ => within_rejectIf.mpr fun _ => True.intro

theorem safe_require {c : Prop} [Decidable c] {e : PayloadError} :
    Safe (require c e) fun _ => True := within_require.mpr fun _ => True.intro

/-- A table of bytes that have to have a value. -/
theorem safe_expectedBytes {table : List (ℕ × ℕ)} {message : String}
    (h : ∀ p ∈ table, p.1 < payload.length) :
    Safe (table.forM fun (offset, expected) => do
      rejectIf ((← byte payload offset) ≠ expected) message) fun _ => True := by
  refine within_forM fun p hp => ?_
  dsimp only
  rw [byte_eq (h p hp), ok_bind]
  exact safe_rejectIf

/-- A table of words that have to have a value. -/
theorem safe_expectedWords {width : ℕ} {table : List (ℕ × ℕ)} {message : String}
    (h : ∀ p ∈ table, p.1 + width ≤ payload.length) :
    Safe (table.forM fun (offset, expected) => do
      rejectIf ((← unsigned width payload offset) ≠ expected) message) fun _ => True := by
  refine within_forM fun p hp => ?_
  dsimp only
  rw [unsigned_eq (h p hp), ok_bind]
  exact safe_rejectIf

end Rules

namespace ControlV1

/-! ### Enumerations -/

def responseStatuses : List ℕ := [0, 1]

def errorCodes : List ℕ := [0, 1, 2, 3, 4, 5, 6, 7, 8, 9, 10, 11, 12]

def sources : List ℕ := [0, 1]

/-- The members of `ChecksumAlgorithm`; the first is reserved. -/
def checksums : List ℕ := [0, 1, 2, 3]

/-- `SUPPORTED_CHECKSUM_ALGORITHMS`, and those of the host. -/
def supportedChecksums : List ℕ := [1, 2, 3]

def deviceStates : List ℕ := [0, 1, 2, 3]

def boardIds : List ℕ := [0, 1]

def mcuIds : List ℕ := [0, 1]

def gpioCaptureDiagnosticModes : List ℕ := [0, 1, 2]

def benchmarkVectors : List ℕ := [0, 1, 2, 3, 4]

def benchmarkMemoryRegions : List ℕ := [0, 1]

def benchmarkCacheStates : List ℕ := [0, 1]

def adcReferences : List ℕ := [0, 1]

def adcClockSources : List ℕ := [0, 1]

def adcCalibrationStates : List ℕ := [0, 1, 2, 3, 4, 5, 6]

/-! ### Responses and configurations -/

/-- `_validate_response_prefix` -/
def validateResponsePrefix (h : Header) (payload : Bytes) : Check Unit := do
  match ← unpackFrom [1, 1, 2] payload 0 with
  | [rawStatus, reserved, rawError] =>
    rejectIf (reserved ≠ 0) "response reserved byte must be zero"
    let (status, error) ← orReject "unknown response status or error code" do
      let status ← member responseStatuses rawStatus
      let error ← member errorCodes rawError
      return (status, error)
    rejectIf (h.responseError ≠ decide (status = 1)) "response flag and status disagree"
    rejectIf (decide (status = 0) ≠ decide (error = 0)) "response status and error code disagree"
  | _ => fail .valueError

/-- `_validate_configuration` -/
def validateConfiguration (payload : Bytes) (offset : ℕ) (applied : Bool) : Check Unit := do
  match ← unpackFrom [1, 1, 1, 1, 4] payload offset with
  | [rawStreams, rawSource, rawChecksum, reserved, frameBytes] =>
    rejectIf (rawStreams.ldiff 3 ≠ 0) "configuration stream mask is invalid"
    let (source, checksum) ← orReject "configuration contains an unknown enum value" do
      let source ← member sources rawSource
      let checksum ← member checksums rawChecksum
      return (source, checksum)
    rejectIf (rawStreams = 0 ∧ source ≠ 0) "zero-stream configuration requires the hardware source"
    rejectIf (checksum = 0) "configuration cannot select checksum ID zero"
    rejectIf (applied = true ∧ checksum ∉ supportedChecksums)
      "applied configuration checksum is not enabled"
    require (checksum ∈ supportedChecksums) (.unsupportedChecksum checksum)
    rejectIf (reserved ≠ 0) "configuration reserved byte must be zero"
    rejectIf (frameBytes ≠ kDataFrameBytes) "configuration data frame size must be 4096"
  | _ => fail .valueError

/-! ### The checksum benchmark -/

/-- `_benchmark_vector_bytes` -/
def benchmarkVectorBytes (vector : ℕ) : Check ℕ :=
  getItem [(0, 0), (1, 9), (2, 64), (3, 512), (4, kDataFrameBytes - kTrailerSize)] vector

/-- `_validate_checksum_benchmark_request` -/
def validateChecksumBenchmarkRequest (payload : Bytes) (offset : ℕ) : Check Unit := do
  match ← unpackFrom [1, 1, 1, 1, 2, 2] payload offset with
  | [rawChecksum, rawVector, rawRegion, rawCacheState, batchCount, iterationsPerBatch] =>
    let (checksum, vector, region, cacheState) ←
      orReject "checksum benchmark contains an unknown enum value" do
        let checksum ← member checksums rawChecksum
        let vector ← member benchmarkVectors rawVector
        let region ← member benchmarkMemoryRegions rawRegion
        let cacheState ← member benchmarkCacheStates rawCacheState
        return (checksum, vector, region, cacheState)
    rejectIf (checksum ∉ supportedChecksums) "checksum benchmark algorithm is not enabled"
    rejectIf (¬ (1 ≤ batchCount ∧ batchCount ≤ 8) ∨
      ¬ (1 ≤ iterationsPerBatch ∧ iterationsPerBatch ≤ 4096))
      "checksum benchmark repetition count is invalid"
    rejectIf (cacheState = 1 ∧ (region ≠ 1 ∨ vector = 0))
      "cold-cache benchmark requires nonempty DMA-visible OCRAM"
    let operations := batchCount * iterationsPerBatch
    let processedBytes := operations * (← benchmarkVectorBytes vector)
    rejectIf (32768 < operations ∨ 8388608 < processedBytes)
      "checksum benchmark exceeds its duration bound"
  | _ => fail .valueError

/-- `_validate_checksum_benchmark_response` -/
def validateChecksumBenchmarkResponse (payload : Bytes) (clockHz : ℕ) : Check Unit := do
  validateChecksumBenchmarkRequest payload 4
  -- the enumerations are built again, outside a `try`
  let vector ← member benchmarkVectors (← byte payload 5)
  let checksum ← member checksums (← byte payload 4)
  let cacheState ← member benchmarkCacheStates (← byte payload 7)
  match ← unpackFrom [2, 2] payload 8 with
  | [batchCount, iterationsPerBatch] =>
    let operations := batchCount * iterationsPerBatch
    let bufferBytes ← unsigned 4 payload 12
    let counterHz ← unsigned 4 payload 16
    let overheadCycles ← unsigned 4 payload 20
    let codeBytes ← unsigned 4 payload 24
    let tableBytes ← unsigned 4 payload 28
    let workingRamBytes ← unsigned 4 payload 32
    let processedBytes ← unsigned 8 payload 40
    let rawCycles ← unsigned 8 payload 48
    let netCycles ← unsigned 8 payload 56
    let cacheSetupCycles ← unsigned 8 payload 64
    let minBatchCycles ← unsigned 4 payload 72
    let maxBatchCycles ← unsigned 4 payload 76
    let expectedTableBytes := if checksum = 1 then 0 else 8192
    let expectedBufferBytes ← benchmarkVectorBytes vector
    let expectedProcessedBytes := operations * expectedBufferBytes
    let calibratedOverhead := operations * overheadCycles
    let reserved ← byte payload 1
    rejectIf (reserved ≠ 0 ∨ counterHz ≠ clockHz ∨ codeBytes = 0 ∨ tableBytes ≠ expectedTableBytes ∨
      workingRamBytes ≠ 2 * kDataFrameBytes ∨ bufferBytes ≠ expectedBufferBytes ∨
      processedBytes ≠ expectedProcessedBytes ∨ rawCycles < calibratedOverhead ∨
      rawCycles - calibratedOverhead ≠ netCycles ∨ maxBatchCycles < minBatchCycles ∨
      netCycles < minBatchCycles * batchCount ∨ maxBatchCycles * batchCount < netCycles ∨
      (cacheState ≠ 1 ∧ cacheSetupCycles ≠ 0)) "checksum benchmark measurements are inconsistent"
    let targetRate ← unsigned 4 payload 92
    let cyclesPerByteQ16 ← unsigned 4 payload 80
    let mbPerSecondQ16 ← unsigned 4 payload 84
    let projectedCpuQ16 ← unsigned 4 payload 88
    rejectIf (targetRate ≠ 8100000) "checksum benchmark target rate is incompatible"
    let totalCycles := netCycles + cacheSetupCycles
    let expectedMetrics : ℕ × ℕ × ℕ ←
      if processedBytes = 0 then pure (0, 0, 0)
      else do
        rejectIf (totalCycles = 0) "nonempty benchmark requires measured cycles"
        let expectedCpb ← floorDiv (totalCycles * 65536) processedBytes
        let bytesPerSecond ← floorDiv (counterHz * processedBytes) totalCycles
        let expectedMbPerSecond := bytesPerSecond * 65536 / 1000000
        let expectedCpu ← floorDiv (expectedCpb * targetRate * 100) counterHz
        pure (expectedCpb, expectedMbPerSecond, expectedCpu)
    rejectIf ((cyclesPerByteQ16, mbPerSecondQ16, projectedCpuQ16) ≠ expectedMetrics)
      "checksum benchmark derived metrics disagree"
  | _ => fail .valueError

/-! ### The diagnostics of the GPIO -/

/-- `_valid_gpio_clock_selection` -/
def validGpioClockSelection (rateHz eventCount : ℕ) : Check Bool := do
  let refused ← anyOf [
    return decide (¬ (1000 ≤ rateHz ∧ rateHz ≤ 4000000)),
    do return (← modulo 24000000 rateHz) ≠ 0,
    do return (← modulo 600000000 rateHz) ≠ 0,
    return decide (¬ (32 ≤ eventCount ∧ eventCount ≤ 8192))]
  if refused then return false
  else
    let elapsedCycles := eventCount * (← floorDiv 600000000 rateHz)
    let majorCount := 2 * eventCount + 16
    return decide (elapsedCycles ≤ 60000000 ∧ majorCount ≤ 0x7FFF)

/-- `_validate_gpio_clock_diagnostic_request` -/
def validateGpioClockDiagnosticRequest (payload : Bytes) (offset : ℕ) : Check Unit := do
  match ← unpackFrom [4, 2, 2] payload offset with
  | [rateHz, eventCount, reserved] =>
    rejectIf (reserved ≠ 0) "GPIO clock diagnostic reserved field must be zero"
    let valid ← validGpioClockSelection rateHz eventCount
    rejectIf (valid = false) "GPIO clock diagnostic selection is invalid"
  | _ => fail .valueError

/-- `_validate_gpio_clock_diagnostic_response` -/
def validateGpioClockDiagnosticResponse (payload : Bytes) (clockHz : ℕ) : Check Unit := do
  let configuredRate ← unsigned 4 payload 4
  let productionRate ← unsigned 4 payload 8
  let pitClock ← unsigned 4 payload 12
  let pitLoad ← unsigned 4 payload 16
  let requestedEvents ← unsigned 4 payload 20
  let scheduledEvents ← unsigned 4 payload 24
  let samples ← unsigned 4 payload 28
  let dwtHz ← unsigned 4 payload 32
  let elapsedCycles ← unsigned 4 payload 36
  let errorFlags ← unsigned 4 payload 40
  let citer ← unsigned 2 payload 124
  let biter ← unsigned 2 payload 126
  let selectionValid ← validGpioClockSelection configuredRate requestedEvents
  let expectedMajorCount := 2 * requestedEvents + 16
  let configurationWasArmed := decide (errorFlags &&& 3 = 0)
  let expectedScheduled ←
    if selectionValid = true ∧ dwtHz = clockHz then do
      floorDiv elapsedCycles (← floorDiv clockHz configuredRate)
    else pure 0
  let inconsistent ← anyOf [
    return !selectionValid,
    return decide (productionRate ≠ 4000000),
    return decide (pitClock ≠ 24000000),
    do return decide ((pitLoad : ℤ) ≠ (← floorDiv 24000000 configuredRate) - 1),
    return decide (errorFlags.ldiff 32767 ≠ 0),
    return configurationWasArmed &&
      decide (biter ≠ expectedMajorCount ∨ biter < citer ∨ samples ≠ biter - citer),
    return decide (dwtHz = clockHz ∧ scheduledEvents ≠ expectedScheduled),
    return decide (errorFlags = 0 ∧ (dwtHz ≠ clockHz ∨ elapsedCycles = 0 ∨
      1 < ((scheduledEvents : ℤ) - requestedEvents).natAbs ∨
      1 < ((samples : ℤ) - scheduledEvents).natAbs))]
  rejectIf (inconsistent = true) "GPIO clock diagnostic evidence is inconsistent"

/-- `_validate_gpio_capture_diagnostic_response` -/
def validateGpioCaptureDiagnosticResponse (payload : Bytes) : Check Unit := do
  let _ ← orReject "GPIO capture diagnostic mode is unknown" do
    member gpioCaptureDiagnosticModes (← byte payload 4)
  let flags ← unsigned 4 payload 20
  let errors ← unsigned 4 payload 16
  let captured ← unsigned 8 payload 32
  let retained ← unsigned 4 payload 40
  let analyzed ← unsigned 4 payload 44
  let limit ← unsigned 4 payload 140
  let inconsistent ← anyOf [
    do return decide (2 < (← byte payload 5)),
    do return decide (2 < (← byte payload 6)),
    do return decide (2 < (← byte payload 7)),
    do return decide ((← unsigned 2 payload 70) ≠ 0),
    do return decide ((← byte payload 139) ≠ 0),
    return decide (errors.ldiff 65535 ≠ 0),
    return decide (flags.ldiff 511 ≠ 0),
    return decide (flags &&& 1 = 0),
    return decide (captured < retained),
    return decide (retained < analyzed),
    return decide (limit < analyzed),
    return decide (¬ (0 < limit ∧ limit ≤ 4048)),
    return decide (flags &&& 64 ≠ 0 ∧ flags &&& 4 = 0)]
  rejectIf (inconsistent = true) "GPIO capture diagnostic evidence is inconsistent"

/-! ### The configuration of the converters -/

/-- The offsets of the fields of the converters in the generated module, whose attributes are named
`INFO_RESPONSE_ADC_CLOCK_HZ_OFFSET`, `STATUS_RESPONSE_ADC0_PIN_OFFSET` and so on. -/
def adcOffsets : List (String × List (String × ℕ)) :=
  [("INFO_RESPONSE",
    [("RESOLUTION_BITS", 42), ("REFERENCE", 132), ("CLOCK_SOURCE", 133),
      ("0_CALIBRATION_STATE", 146), ("1_CALIBRATION_STATE", 147), ("CONFIGURATION_FLAGS", 144),
      ("INITIALIZATION_ERROR_FLAGS", 176), ("CONTAINER_BYTES", 43), ("CLOCK_DIVIDER", 134),
      ("HARDWARE_AVERAGE_COUNT", 135), ("SAMPLE_TIME_ADCK", 142), ("CONVERSION_MODE", 143),
      ("0_PIN", 148), ("1_PIN", 149), ("0_PERIPHERAL", 150), ("1_PERIPHERAL", 151),
      ("0_CHANNEL", 152), ("1_CHANNEL", 153), ("CODE_MIN", 128), ("CODE_MAX", 130),
      ("REFERENCE_MV_NOMINAL", 136), ("INPUT_MIN_MV_NOMINAL", 138), ("INPUT_MAX_MV_NOMINAL", 140),
      ("IPG_CLOCK_HZ", 156), ("CLOCK_HZ", 160), ("CALIBRATION_DEADLINE_US", 164),
      ("0_CALIBRATION_CYCLES", 168), ("1_CALIBRATION_CYCLES", 172)]),
    ("STATUS_RESPONSE",
    [("RESOLUTION_BITS", 172), ("REFERENCE", 180), ("CLOCK_SOURCE", 181),
      ("0_CALIBRATION_STATE", 174), ("1_CALIBRATION_STATE", 175), ("CONFIGURATION_FLAGS", 192),
      ("INITIALIZATION_ERROR_FLAGS", 220), ("CONTAINER_BYTES", 173), ("CLOCK_DIVIDER", 182),
      ("HARDWARE_AVERAGE_COUNT", 183), ("SAMPLE_TIME_ADCK", 190), ("CONVERSION_MODE", 191),
      ("0_PIN", 194), ("1_PIN", 195), ("0_PERIPHERAL", 196), ("1_PERIPHERAL", 197),
      ("0_CHANNEL", 198), ("1_CHANNEL", 199), ("CODE_MIN", 176), ("CODE_MAX", 178),
      ("REFERENCE_MV_NOMINAL", 184), ("INPUT_MIN_MV_NOMINAL", 186), ("INPUT_MAX_MV_NOMINAL", 188),
      ("IPG_CLOCK_HZ", 200), ("CLOCK_HZ", 204), ("CALIBRATION_DEADLINE_US", 208),
      ("0_CALIBRATION_CYCLES", 212), ("1_CALIBRATION_CYCLES", 216)])]

/-- `_adc_offset`; the `prefix` is the schema of the payload. -/
def adcOffset (schema field : String) : Check ℕ := do
  let attributes ← ofOption .attributeError (adcOffsets.lookup schema)
  getAttribute attributes field

/-- `expected_bytes` -/
def expectedAdcBytes (expectedMode : ℕ) : List (String × ℕ) :=
  [("CONTAINER_BYTES", 2), ("CLOCK_DIVIDER", 4), ("HARDWARE_AVERAGE_COUNT", 0),
    ("SAMPLE_TIME_ADCK", 3), ("CONVERSION_MODE", expectedMode), ("0_PIN", 14), ("1_PIN", 15),
    ("0_PERIPHERAL", 1), ("1_PERIPHERAL", 2), ("0_CHANNEL", 7), ("1_CHANNEL", 8)]

/-- A field of the converters of one, two or four bytes. -/
def adcField (width : ℕ) (payload : Bytes) (schema field : String) : Check ℕ := do
  let offset ← adcOffset schema field
  if width = 1 then byte payload offset else unsigned width payload offset

/-- `_validate_adc_metadata_payload` -/
def validateAdcMetadataPayload (payload : Bytes) (schema : String) : Check Unit := do
  let u8 := adcField 1 payload schema
  let u16 := adcField 2 payload schema
  let u32 := adcField 4 payload schema
  let resolution ← u8 "RESOLUTION_BITS"
  rejectIf (resolution ∉ [12, 10]) "ADC metadata reports an unsupported resolution"
  let expectedMode := if resolution = 12 then 2 else 1
  let (reference, clockSource, calibrationStates) ← orReject "ADC metadata contains an unknown enum" do
    let reference ← member adcReferences (← u8 "REFERENCE")
    let clockSource ← member adcClockSources (← u8 "CLOCK_SOURCE")
    let calibration0 ← member adcCalibrationStates (← u8 "0_CALIBRATION_STATE")
    let calibration1 ← member adcCalibrationStates (← u8 "1_CALIBRATION_STATE")
    return (reference, clockSource, (calibration0, calibration1))
  let flags ← u16 "CONFIGURATION_FLAGS"
  let errors ← u32 "INITIALIZATION_ERROR_FLAGS"
  rejectIf (flags.ldiff 511 ≠ 0 ∨ errors.ldiff 2047 ≠ 0) "ADC metadata contains reserved flags"
  let incompatible ← anyOf <| (expectedAdcBytes expectedMode).map fun (field, expected) => do
    return decide ((← u8 field) ≠ expected)
  rejectIf (incompatible = true) "ADC metadata reports incompatible settings"
  let incompatible ← anyOf [
    return decide (reference ≠ 1),
    return decide (clockSource ≠ 1),
    do return decide ((← u16 "CODE_MIN") ≠ 0),
    do return decide ((← u16 "CODE_MAX") ≠ 2 ^ resolution - 1),
    do return decide ((← u16 "REFERENCE_MV_NOMINAL") ≠ 3300),
    do return decide ((← u16 "INPUT_MIN_MV_NOMINAL") ≠ 0),
    do return decide ((← u16 "INPUT_MAX_MV_NOMINAL") ≠ 3300),
    do return decide ((← u32 "IPG_CLOCK_HZ") ≠ 150000000),
    do return decide ((← u32 "CLOCK_HZ") ≠ 37500000),
    do return decide ((← u32 "CALIBRATION_DEADLINE_US") ≠ 10000)]
  rejectIf (incompatible = true) "ADC metadata reports incompatible v1 values"
  let _ ← u32 "0_CALIBRATION_CYCLES"
  let _ ← u32 "1_CALIBRATION_CYCLES"
  let selectedResolution := if resolution = 12 then 128 else 256
  let otherResolution := if resolution = 12 then 256 else 128
  rejectIf (flags &&& 14 ≠ 14 ∨ flags &&& selectedResolution = 0 ∨ flags &&& otherResolution ≠ 0)
    "ADC flags disagree with actual configuration"
  if flags &&& 1 ≠ 0 then
    rejectIf (errors ≠ 0 ∨ flags &&& 112 ≠ 112 ∨ calibrationStates ≠ (1, 1))
      "ADC initialized state is inconsistent"

/-! ### The description of a device and its status -/

/-- The fields of one byte that a description has to repeat, with their values. -/
def expectedScalars : List (ℕ × ℕ) :=
  [(5, 1), (44, 8), (98, 8), (99, 4), (100, 4), (120, 0), (121, 56), (122, 0), (123, 2), (124, 30),
    (125, 0), (126, 1)]

def expectedU32 : List (ℕ × ℕ) :=
  [(16, 8000000), (20, kDataFrameBytes), (24, 1280), (28, 1000000), (32, 4000000), (104, 4048),
    (108, 64768), (112, 16256)]

def expectedU16 : List (ℕ × ℕ) := [(36, 8), (38, 4), (40, 2), (116, 200)]

def gpioPinsByBit : Bytes := [6, 7, 8, 9, 10, 11, 12, 13]

/-- `_validate_info_payload` -/
def validateInfoPayload (payload : Bytes) : Check Unit := do
  rejectIf ((← byte payload 1) ≠ 0) "INFO reserved_0 must be zero"
  rejectIf ((← byte payload 61) ≠ 0) "INFO reserved_2 must be zero"
  let reserved ← anyOf [
    do return decide ((← unsigned 2 payload 118) ≠ 0),
    do return decide ((← byte payload 127) ≠ 0),
    do return decide ((← unsigned 2 payload 154) ≠ 0)]
  rejectIf (reserved = true) "INFO GPIO metadata reserved fields must be zero"
  let (deviceState, dataChecksum) ← orReject "INFO contains an unknown enum value" do
    let deviceState ← member deviceStates (← byte payload 4)
    let _ ← member boardIds (← unsigned 2 payload 62)
    let _ ← member mcuIds (← unsigned 2 payload 64)
    let dataChecksum ← member checksums (← byte payload 45)
    let _ ← member gpioCaptureDiagnosticModes (← byte payload 101)
    return (deviceState, dataChecksum)
  rejectIf (deviceState = 0) "INFO is unavailable while the device is in BOOT"
  expectedScalars.forM fun (offset, expected) => do
    rejectIf ((← byte payload offset) ≠ expected) "INFO reports incompatible v1 capabilities"
  let streamMask ← byte payload 6
  let sourceMask ← byte payload 7
  rejectIf (streamMask.ldiff 3 ≠ 0 ∨ sourceMask = 0 ∨ sourceMask.ldiff 3 ≠ 0)
    "INFO reports an invalid capability mask"
  let checksumMask ← unsigned 4 payload 8
  rejectIf (checksumMask ≠ 14) "INFO checksum mask disagrees with protocol v1"
  rejectIf (checksumMask &&& (1 <<< dataChecksum) = 0) "INFO selected checksum is not advertised"
  require (dataChecksum ∈ supportedChecksums) (.unsupportedChecksum dataChecksum)
  let capabilityBits ← unsigned 4 payload 12
  rejectIf (capabilityBits.ldiff 511 ≠ 0) "INFO reports reserved capability bits"
  let expectedCapabilities := (if streamMask &&& 1 ≠ 0 then 1 else 0) ||| (if streamMask &&& 2 ≠ 0 then
    2 else 0) ||| (if sourceMask &&& 1 ≠ 0 then 4 else 0) ||| (if sourceMask &&& 2 ≠ 0 then 8 else 0)
  rejectIf (capabilityBits &&& 15 ≠ expectedCapabilities)
    "INFO capability bits disagree with source masks"
  let diagnosticFlags ← unsigned 2 payload 102
  rejectIf (diagnosticFlags.ldiff 511 ≠ 0) "INFO GPIO diagnostic flags contain reserved bits"
  rejectIf (decide (capabilityBits &&& 256 ≠ 0) ≠ decide (diagnosticFlags &&& 1 ≠ 0))
    "INFO GPIO diagnostic metadata disagrees with capability bits"
  expectedU32.forM fun (offset, expected) => do
    rejectIf ((← unsigned 4 payload offset) ≠ expected) "INFO reports incompatible v1 timing or sizes"
  expectedU16.forM fun (offset, expected) => do
    rejectIf ((← unsigned 2 payload offset) ≠ expected) "INFO reports incompatible v1 timing"
  rejectIf (slice payload 46 8 ≠ gpioPinsByBit) "INFO GPIO pin map must preserve D6-through-D13"
  let buildBytes := slice payload 66 32
  let terminator ← orReject "INFO build ID must be NUL-terminated ASCII" do
    let terminator ← indexOf buildBytes 0
    let _ ← decodeAscii (buildBytes.take terminator)
    return terminator
  rejectIf ((buildBytes.drop (terminator + 1)).any (· ≠ 0) = true) "INFO build ID padding must be zero"
  validateAdcMetadataPayload payload "INFO_RESPONSE"

/-- `depth_limits` -/
def depthLimits : List (ℕ × ℕ) :=
  [(120, 4), (122, 4), (124, 4), (126, 4), (128, 200), (130, 200), (132, 200)]

/-- `_validate_status_payload` -/
def validateStatusPayload (payload : Bytes) : Check Unit := do
  rejectIf ((← byte payload 1) ≠ 0) "STATUS reserved byte must be zero"
  let (deviceState, source, checksum) ← orReject "STATUS contains an unknown enum value" do
    let deviceState ← member deviceStates (← byte payload 4)
    let source ← member sources (← byte payload 6)
    let checksum ← member checksums (← byte payload 7)
    return (deviceState, source, checksum)
  let streams ← byte payload 5
  rejectIf (streams.ldiff 3 ≠ 0) "STATUS stream mask is invalid"
  rejectIf (deviceState = 0) "STATUS is unavailable while the device is in BOOT"
  rejectIf (deviceState = 1 ∧ streams ≠ 0) "STATUS state and active stream mask disagree"
  rejectIf (deviceState ≠ 1 ∧ streams = 0 ∧ source ≠ 0)
    "zero-stream CONFIGURED/RUNNING status requires hardware source"
  rejectIf (checksum ∉ supportedChecksums) "STATUS checksum is not enabled"
  require (checksum ∈ supportedChecksums) (.unsupportedChecksum checksum)
  rejectIf ((← unsigned 4 payload 8) ≠ kDataFrameBytes) "STATUS data frame size must be 4096"
  rejectIf ((← unsigned 4 payload 52) = 0) "STATUS stats generation must be nonzero"
  rejectIf (10000 < (← unsigned 2 payload 134)) "STATUS GPIO processing CPU exceeds 100%"
  let exceeded ← anyOf <| depthLimits.map fun (offset, maximum) => do
    return decide (maximum < (← unsigned 2 payload offset))
  rejectIf (exceeded = true) "STATUS queue depth exceeds its advertised capacity"
  validateAdcMetadataPayload payload "STATUS_RESPONSE"

/-- The end of `_validate_payload`, for a response without an error. -/
def validateTypedResponse (kind : FrameKind) (payload : Bytes) : Check Unit := do
  if kind = FrameKind.infoResponse then validateInfoPayload payload
  else if kind = FrameKind.configureResponse ∨ kind = FrameKind.startResponse then
    validateConfiguration payload 4 true
  else if kind = FrameKind.getStatusResponse then validateStatusPayload payload
  else if kind = FrameKind.stopResponse then
    rejectIf ((← byte payload 4) ≠ 1) "STOP response state must be IDLE"
    rejectIf ((payload.drop 5).any (· ≠ 0) = true) "STOP response reserved bytes must be zero"
  else if kind = FrameKind.resetStatsResponse then
    rejectIf ((← byte payload 1) ≠ 0) "RESET_STATS reserved byte must be zero"
    rejectIf ((← unsigned 4 payload 4) = 0) "RESET_STATS stats generation must be nonzero"
  else if kind = FrameKind.pingResponse then
    rejectIf ((← byte payload 1) ≠ 0) "PING response reserved byte must be zero"
  else if kind = FrameKind.checksumBenchmarkResponse then
    validateChecksumBenchmarkResponse payload 600000000
  else if kind = FrameKind.gpioClockDiagnosticResponse then
    validateGpioClockDiagnosticResponse payload 600000000
  else if kind = FrameKind.gpioCaptureDiagnosticResponse then
    validateGpioCaptureDiagnosticResponse payload

/-- `_validate_payload`, behind the data kinds. -/
def validateControl (h : Header) (payload : Bytes) : Check Unit := do
  if h.kind = FrameKind.configureRequest then validateConfiguration payload 0 false
  else if h.kind = FrameKind.checksumBenchmarkRequest then validateChecksumBenchmarkRequest payload 0
  else if h.kind = FrameKind.gpioClockDiagnosticRequest then
    validateGpioClockDiagnosticRequest payload 0
  else if v1Rules.isRequest h.kind then return ()
  else
    validateResponsePrefix h payload
    if h.responseError then
      if h.kind = FrameKind.errorResponse then
        rejectIf ((← unsigned 2 payload 6) ≠ 0) "ERROR_RESPONSE reserved bytes must be zero"
    else validateTypedResponse h.kind payload

/-! ### What passes and what fails -/

section Safe

variable {P : Builtin → Prop} {payload : Bytes} {h : Header}

theorem safe_validateResponsePrefix (hlen : 4 ≤ payload.length) :
    Safe (validateResponsePrefix h payload) fun _ => True := by
  unfold validateResponsePrefix
  rw [unpackFrom_eq (by simpa using hlen)]
  simp [unpack]

theorem safe_validateConfiguration {offset : ℕ} (hlen : offset + 8 ≤ payload.length) (applied : Bool) :
    Safe (validateConfiguration payload offset applied) fun _ => True := by
  unfold validateConfiguration
  rw [unpackFrom_eq (by simpa using hlen)]
  simp [unpack]

/-- Every member has a size. -/
theorem safe_benchmarkVectorBytes {vector : ℕ} (h : vector ∈ benchmarkVectors) :
    Safe (benchmarkVectorBytes vector) fun _ => True :=
  within_getItem h fun _ _ => True.intro

/-- What passes names members of the enumerations. -/
theorem safe_validateChecksumBenchmarkRequest {offset : ℕ} (hlen : offset + 8 ≤ payload.length) :
    Safe (validateChecksumBenchmarkRequest payload offset) fun _ =>
      (payload.getD offset 0).toNat ∈ checksums ∧
      (payload.getD (offset + 1) 0).toNat ∈ benchmarkVectors ∧
      (payload.getD (offset + 3) 0).toNat ∈ benchmarkCacheStates := by
  unfold validateChecksumBenchmarkRequest
  rw [unpackFrom_eq (by simpa using hlen)]
  simp only [unpack, List.map, Int.toNat_natCast, List.drop_drop, Nat.add_assoc, Nat.reduceAdd]
  rw [leValue_take_one (by omega), leValue_take_one (by omega), leValue_take_one (by omega),
    leValue_take_one (by omega)]
  simp only [ok_bind, within_bind, within_orReject, within_member, within_rejectIf, within_pure]
  refine ⟨fun hchecksum => ⟨fun hvector => ⟨fun _ => ⟨fun hcache _ _ _ => ?_, ?_⟩, ?_⟩, ?_⟩, ?_⟩
  · exact (safe_benchmarkVectorBytes hvector).mono fun _ _ _ => ⟨hchecksum, hvector, hcache⟩
  -- no membership fails with anything but a `ValueError`
  all_goals exact fun _ h => by cases h

theorem safe_validateChecksumBenchmarkResponse {clockHz : ℕ} (hlen : payload.length = 96)
    (hclock : clockHz ≠ 0) : Safe (validateChecksumBenchmarkResponse payload clockHz) fun _ => True := by
  unfold validateChecksumBenchmarkResponse
  refine (safe_validateChecksumBenchmarkRequest (by omega)).bind ?_
  rintro - ⟨hchecksum, hvector, hcache⟩
  -- the members were built before, from the same bytes
  refine (within_byte (by omega)).bind fun _ hv => (within_mem (hv ▸ hvector)).bind fun vector hv' => ?_
  refine (within_byte (by omega)).bind fun _ hc => (within_mem (hc ▸ hchecksum)).trivial.next fun _ => ?_
  refine (within_byte (by omega)).bind fun _ hs => (within_mem (hs ▸ hcache)).trivial.next fun _ => ?_
  rw [unpackFrom_eq (by simp [hlen]), ok_bind]
  simp only [unpack, List.map, Int.toNat_natCast]
  refine (within_unsigned (by omega)).trivial.next fun _ => ?_
  refine (within_unsigned (by omega)).trivial.next fun counterHz => ?_
  iterate 10 refine (within_unsigned (by omega)).trivial.next fun _ => ?_
  refine (safe_benchmarkVectorBytes (hv'.trans hv ▸ hvector)).next fun _ => ?_
  refine (within_byte (by omega)).trivial.next fun _ => ?_
  refine within_rejectIf_bind fun hmeasured => ?_
  iterate 4 refine (within_unsigned (by omega)).trivial.next fun _ => ?_
  refine safe_rejectIf.next fun _ => ?_
  rw [within_ite]
  constructor
  · intro _
    exact safe_rejectIf
  · intro hprocessed
    refine within_rejectIf_bind fun htotal => ?_
    -- the divisors are the processed bytes, the cycles and the frequency of the counter
    have hcounter : counterHz ≠ 0 := by
      rintro rfl
      exact hmeasured (Or.inr (Or.inl hclock.symm))
    rw [floorDiv_eq hprocessed, ok_bind, floorDiv_eq htotal, ok_bind, floorDiv_eq hcounter]
    exact safe_rejectIf

/-- A selection that is valid has a rate within the bounds. -/
theorem safe_validGpioClockSelection (rateHz eventCount : ℕ) :
    Safe (validGpioClockSelection rateHz eventCount) fun valid =>
      valid = true → 1000 ≤ rateHz ∧ rateHz ≤ 4000000 := by
  unfold validGpioClockSelection
  by_cases hrate : 1000 ≤ rateHz ∧ rateHz ≤ 4000000
  · have hne : rateHz ≠ 0 := by omega
    have hpos : 0 < (rateHz : ℤ) := by omega
    simp only [modulo_eq hpos, floorDiv_eq hne, ok_bind]
    refine Within.bind (R := fun _ => True) (within_anyOf ?_ fun _ => True.intro) fun refused _ => ?_
    · simp
    · rw [within_ite]
      exact ⟨fun _ _ => hrate, fun _ _ => hrate⟩
  · -- the first alternative holds, and nothing is divided
    simp [anyOf, hrate]

theorem safe_validateGpioClockDiagnosticRequest {offset : ℕ} (hlen : offset + 8 ≤ payload.length) :
    Safe (validateGpioClockDiagnosticRequest payload offset) fun _ => True := by
  unfold validateGpioClockDiagnosticRequest
  rw [unpackFrom_eq (by simpa using hlen)]
  simp only [unpack, List.map, ok_bind, within_bind, within_rejectIf]
  exact fun _ => (safe_validGpioClockSelection _ _).mono fun _ _ _ => True.intro

theorem safe_validateGpioClockDiagnosticResponse {clockHz : ℕ} (hlen : payload.length = 140)
    (hclock : 4000000 ≤ clockHz) :
    Safe (validateGpioClockDiagnosticResponse payload clockHz) fun _ => True := by
  unfold validateGpioClockDiagnosticResponse
  simp (disch := omega) only [unsigned_eq, ok_bind]
  generalize leValue (slice payload 4 4) = configuredRate
  refine (safe_validGpioClockSelection _ _).bind fun selectionValid hvalid => ?_
  cases selectionValid with
  | false =>
    -- nothing is divided: the first alternative holds
    simp [anyOf]
  | true =>
    obtain ⟨hmin, hmax⟩ := hvalid rfl
    have hrate : configuredRate ≠ 0 := by omega
    have hquotient : clockHz / configuredRate ≠ 0 := by
      have hpos := Nat.div_pos (Nat.le_trans hmax hclock) (by omega)
      omega
    simp only [floorDiv_eq hrate, ok_bind, floorDiv_eq hquotient, pure_bind]
    rw [within_ite]
    constructor
    all_goals
      intro _
      refine safe_rejectAny ?_
      simp

theorem safe_validateGpioCaptureDiagnosticResponse (hlen : payload.length = 144) :
    Safe (validateGpioCaptureDiagnosticResponse payload) fun _ => True := by
  unfold validateGpioCaptureDiagnosticResponse
  simp (disch := omega) only [byte_eq, unsigned_eq, ok_bind]
  refine Within.bind (R := fun _ => True) (by simp) fun _ _ => ?_
  refine safe_rejectAny ?_
  simp

/-- The names of the fields of the converters. -/
def adcFields : List String :=
  ["RESOLUTION_BITS", "REFERENCE", "CLOCK_SOURCE", "0_CALIBRATION_STATE", "1_CALIBRATION_STATE",
    "CONFIGURATION_FLAGS", "INITIALIZATION_ERROR_FLAGS", "CONTAINER_BYTES", "CLOCK_DIVIDER",
    "HARDWARE_AVERAGE_COUNT", "SAMPLE_TIME_ADCK", "CONVERSION_MODE", "0_PIN", "1_PIN", "0_PERIPHERAL",
    "1_PERIPHERAL", "0_CHANNEL", "1_CHANNEL", "CODE_MIN", "CODE_MAX", "REFERENCE_MV_NOMINAL",
    "INPUT_MIN_MV_NOMINAL", "INPUT_MAX_MV_NOMINAL", "IPG_CLOCK_HZ", "CLOCK_HZ",
    "CALIBRATION_DEADLINE_US", "0_CALIBRATION_CYCLES", "1_CALIBRATION_CYCLES"]

/-- The schemas that have them. -/
def adcSchemas : List String := ["INFO_RESPONSE", "STATUS_RESPONSE"]

/-- Both schemas have all fields, at offsets that leave room for four bytes. -/
theorem adcOffsets_fields : ∀ t ∈ adcOffsets,
    t.2.map Prod.fst = adcFields ∧ ∀ p ∈ t.2, p.2 + 4 ≤ 224 := by
  intro t ht
  rcases List.mem_cons.mp ht with rfl | ht
  · exact ⟨rfl, by decide⟩
  · cases List.mem_singleton.mp ht
    exact ⟨rfl, by decide⟩

theorem safe_adcOffset {schema field : String} (hschema : schema ∈ adcSchemas)
    (hfield : field ∈ adcFields) :
    Within P (adcOffset schema field) fun offset => offset + 4 ≤ 224 := by
  unfold adcOffset
  refine (within_lookup hschema fun _ hmem => hmem).bind fun attributes hmem => ?_
  obtain ⟨hfields, hroom⟩ := adcOffsets_fields _ hmem
  exact within_getAttribute (hfields ▸ hfield) fun offset hoffset => hroom _ hoffset

section Adc

variable {schema field : String} (hschema : schema ∈ adcSchemas) (hlen : 224 ≤ payload.length)

include hschema hlen

theorem safe_adcField {width : ℕ} (hwidth : width ≤ 4) (hfield : field ∈ adcFields) {Q : ℕ → Prop}
    (hQ : ∀ v, Q v) : Within P (adcField width payload schema field) Q := by
  unfold adcField
  refine (safe_adcOffset hschema hfield).bind fun offset hroom => ?_
  rw [within_ite, byte_eq (by omega), unsigned_eq (by omega)]
  exact ⟨fun _ => hQ _, fun _ => hQ _⟩

theorem safe_validateAdcMetadataPayload :
    Safe (validateAdcMetadataPayload payload schema) fun _ => True := by
  have u8 : ∀ {P : Builtin → Prop}, ∀ f ∈ adcFields,
      Within P (adcField 1 payload schema f) fun _ => True :=
    fun f hf => safe_adcField hschema hlen (by decide) hf fun _ => True.intro
  have u16 : ∀ {P : Builtin → Prop}, ∀ f ∈ adcFields,
      Within P (adcField 2 payload schema f) fun _ => True :=
    fun f hf => safe_adcField hschema hlen (by decide) hf fun _ => True.intro
  have u32 : ∀ {P : Builtin → Prop}, ∀ f ∈ adcFields,
      Within P (adcField 4 payload schema f) fun _ => True :=
    fun f hf => safe_adcField hschema hlen (by decide) hf fun _ => True.intro
  have hexpected : ∀ mode, ∀ q ∈ expectedAdcBytes mode, q.1 ∈ adcFields := by
    intro mode q hq
    simp only [expectedAdcBytes, List.mem_cons, List.not_mem_nil, or_false] at hq
    rcases hq with rfl | rfl | rfl | rfl | rfl | rfl | rfl | rfl | rfl | rfl | rfl <;> simp [adcFields]
  unfold validateAdcMetadataPayload
  refine (u8 _ (by simp [adcFields])).next fun resolution => safe_rejectIf.next fun _ => ?_
  refine Within.next ?_ fun enums => ?_
  · -- the members are built under a `try`
    rw [within_orReject]
    refine (u8 _ (by simp [adcFields])).next fun _ => (within_catch_member _ _).next fun _ => ?_
    refine (u8 _ (by simp [adcFields])).next fun _ => (within_catch_member _ _).next fun _ => ?_
    refine (u8 _ (by simp [adcFields])).next fun _ => (within_catch_member _ _).next fun _ => ?_
    refine (u8 _ (by simp [adcFields])).next fun _ => (within_catch_member _ _).next fun _ => ?_
    exact True.intro
  refine (u16 _ (by simp [adcFields])).next fun flags => ?_
  refine (u32 _ (by simp [adcFields])).next fun errors => safe_rejectIf.next fun _ => ?_
  refine Within.next (within_anyOf ?_ fun _ => True.intro) fun incompatible => ?_
  · intro c hc
    obtain ⟨q, hq, rfl⟩ := List.mem_map.mp hc
    exact (u8 _ (hexpected _ q hq)).next fun _ => True.intro
  refine safe_rejectIf.next fun _ => ?_
  refine Within.next (within_anyOf ?_ fun _ => True.intro) fun incompatible => ?_
  · simp only [List.forall_mem_cons, List.not_mem_nil, false_implies, implies_true, and_true,
      within_pure, true_and]
    refine ⟨?_, ?_, ?_, ?_, ?_, ?_, ?_, ?_⟩
    · exact (u16 _ (by simp [adcFields])).next fun _ => True.intro
    · exact (u16 _ (by simp [adcFields])).next fun _ => True.intro
    · exact (u16 _ (by simp [adcFields])).next fun _ => True.intro
    · exact (u16 _ (by simp [adcFields])).next fun _ => True.intro
    · exact (u16 _ (by simp [adcFields])).next fun _ => True.intro
    · exact (u32 _ (by simp [adcFields])).next fun _ => True.intro
    · exact (u32 _ (by simp [adcFields])).next fun _ => True.intro
    · exact (u32 _ (by simp [adcFields])).next fun _ => True.intro
  refine safe_rejectIf.next fun _ => ?_
  refine (u32 _ (by simp [adcFields])).next fun _ => (u32 _ (by simp [adcFields])).next fun _ => ?_
  refine safe_rejectIf.next fun _ => ?_
  rw [within_ite]
  exact ⟨fun _ => safe_rejectIf, fun _ => True.intro⟩

end Adc

theorem safe_validateInfoPayload (hlen : payload.length = 376) :
    Safe (validateInfoPayload payload) fun _ => True := by
  have hbytes : ∀ p ∈ expectedScalars, p.1 < payload.length := by rw [hlen]; decide
  have hu32 : ∀ p ∈ expectedU32, p.1 + 4 ≤ payload.length := by rw [hlen]; decide
  have hu16 : ∀ p ∈ expectedU16, p.1 + 2 ≤ payload.length := by rw [hlen]; decide
  unfold validateInfoPayload
  simp (disch := omega) only [byte_eq, unsigned_eq, ok_bind]
  refine safe_rejectIf.next fun _ => safe_rejectIf.next fun _ => ?_
  refine Within.next (within_anyOf (by simp) fun _ => True.intro) fun _ => safe_rejectIf.next fun _ => ?_
  refine Within.next ?_ fun enums => safe_rejectIf.next fun _ => ?_
  · -- the members are built under a `try`
    rw [within_orReject]
    iterate 5 refine (within_catch_member _ _).next fun _ => ?_
    exact True.intro
  refine (safe_expectedBytes hbytes).next fun _ => ?_
  iterate 3 refine safe_rejectIf.next fun _ => ?_
  refine safe_require.next fun _ => ?_
  iterate 4 refine safe_rejectIf.next fun _ => ?_
  refine (safe_expectedWords hu32).next fun _ => (safe_expectedWords hu16).next fun _ => ?_
  refine safe_rejectIf.next fun _ => ?_
  refine Within.next ?_ fun terminator => safe_rejectIf.next fun _ => ?_
  · -- a text without an end is a `ValueError`, and so is one that is not ASCII
    rw [within_orReject]
    simp
  exact safe_validateAdcMetadataPayload (by decide) (by omega)

theorem safe_validateStatusPayload (hlen : payload.length = 1228) :
    Safe (validateStatusPayload payload) fun _ => True := by
  have hdepth : ∀ p ∈ depthLimits, p.1 + 2 ≤ payload.length := by rw [hlen]; decide
  unfold validateStatusPayload
  simp (disch := omega) only [byte_eq, unsigned_eq, ok_bind]
  refine safe_rejectIf.next fun _ => ?_
  refine Within.next ?_ fun enums => ?_
  · rw [within_orReject]
    iterate 3 refine (within_catch_member _ _).next fun _ => ?_
    exact True.intro
  iterate 5 refine safe_rejectIf.next fun _ => ?_
  refine safe_require.next fun _ => ?_
  iterate 3 refine safe_rejectIf.next fun _ => ?_
  refine Within.next (within_anyOf ?_ fun _ => True.intro) fun _ => safe_rejectIf.next fun _ => ?_
  · intro c hc
    obtain ⟨p, hp, rfl⟩ := List.mem_map.mp hc
    rw [unsigned_eq (hdepth p hp), ok_bind]
    exact True.intro
  exact safe_validateAdcMetadataPayload (by decide) (by omega)

/-- A control header that passed declares the payload of its kind. -/
theorem payloadLength_of_valid {r : Rules} {reserved : UInt8}
    (hvalid : r.validateHeader h reserved = .ok ()) (hdata : isDataKind h.kind = false) :
    h.payloadLength = r.expectedPayload h ∧
      (h.kind = FrameKind.errorResponse → h.responseError = true) := by
  unfold Rules.validateHeader at hvalid
  simp only [Framing.ite_error_eq_ok] at hvalid
  obtain ⟨-, -, -, -, -, -, -, hvalid⟩ := hvalid
  rw [if_neg (by rw [hdata]; decide)] at hvalid
  unfold Rules.checkControl at hvalid
  simp only [Framing.ite_error_eq_ok, not_and, Bool.not_eq_false, not_not] at hvalid
  obtain ⟨-, -, -, -, -, herror, hpayload, -⟩ := hvalid
  exact ⟨hpayload, herror⟩

/-- The payload of a kind, unless it is a typed response that reports an error. -/
theorem expectedPayload_of_kind {r : Rules} {kind : FrameKind} (hkind : h.kind = kind)
    (htyped : r.isTypedResponse kind = false ∨ h.responseError = false) :
    r.expectedPayload h = r.payloadSize kind := by
  unfold Rules.expectedPayload
  rw [hkind]
  rcases htyped with htyped | herror
  · rw [if_neg (by rw [htyped]; decide)]
  · rw [herror]
    simp

theorem safe_validateTypedResponse
    (hsize : ∀ kind, h.kind = kind → isDataKind kind = false → payload.length = v1PayloadSize kind) :
    Safe (validateTypedResponse h.kind payload) fun _ => True := by
  unfold validateTypedResponse
  split_ifs with hinfo hconfiguration hstatus hstop hreset hping hbenchmark hclock hcapture
  · exact safe_validateInfoPayload (hsize _ hinfo rfl)
  · have hlen : payload.length = 12 := by
      rcases hconfiguration with hkind | hkind
      · exact hsize _ hkind rfl
      · exact hsize _ hkind rfl
    exact safe_validateConfiguration (by omega) true
  · exact safe_validateStatusPayload (hsize _ hstatus rfl)
  · have hlen : payload.length = 8 := hsize _ hstop rfl
    simp (disch := omega) only [byte_eq, ok_bind]
    exact safe_rejectIf.next fun _ => safe_rejectIf
  · have hlen : payload.length = 8 := hsize _ hreset rfl
    simp (disch := omega) only [byte_eq, unsigned_eq, ok_bind]
    exact safe_rejectIf.next fun _ => safe_rejectIf
  · have hlen : payload.length = 12 := hsize _ hping rfl
    rw [byte_eq (by omega), ok_bind]
    exact safe_rejectIf
  · exact safe_validateChecksumBenchmarkResponse (hsize _ hbenchmark rfl) (by decide)
  · exact safe_validateGpioClockDiagnosticResponse (hsize _ hclock rfl) (by decide)
  · exact safe_validateGpioCaptureDiagnosticResponse (hsize _ hcapture rfl)
  · exact True.intro

/-- A response has room for its prefix. -/
theorem four_le_expectedPayload (hkind : h.kind ∈ v1Rules.frameKinds) (hdata : isDataKind h.kind = false)
    (hrequest : ¬ v1Rules.isRequest h.kind = true)
    (hlen : payload.length = v1Rules.expectedPayload h) : 4 ≤ payload.length := by
  have hfour : ∀ k ∈ v1Rules.frameKinds, isDataKind k = false → ¬ v1Rules.isRequest k = true →
      4 ≤ v1PayloadSize k := by decide +kernel
  have hsize : 4 ≤ v1Rules.payloadSize h.kind := hfour h.kind hkind hdata hrequest
  rw [hlen, Rules.expectedPayload]
  split_ifs <;> omega

/-- Behind a header that was accepted. -/
theorem safe_validateControl {reserved : UInt8} (hvalid : v1Rules.validateHeader h reserved = .ok ())
    (hkind : h.kind ∈ v1Rules.frameKinds) (hdata : isDataKind h.kind = false)
    (hlen : payload.length = h.payloadLength) :
    Safe (validateControl h payload) fun _ => True := by
  obtain ⟨hpayload, herror⟩ := payloadLength_of_valid hvalid hdata
  rw [hpayload] at hlen
  have hsize : ∀ kind, h.kind = kind → v1Rules.isTypedResponse kind = false ∨ h.responseError = false →
      payload.length = v1PayloadSize kind :=
    fun kind hk htyped => hlen.trans (expectedPayload_of_kind hk htyped)
  unfold validateControl
  split_ifs with hconfigure hbenchmark hclock hrequest hresponse hgeneric
  · have h8 : payload.length = 8 := hsize _ hconfigure (Or.inl rfl)
    exact safe_validateConfiguration (by omega) false
  · have h8 : payload.length = 8 := hsize _ hbenchmark (Or.inl rfl)
    exact (safe_validateChecksumBenchmarkRequest (by omega)).trivial
  · have h8 : payload.length = 8 := hsize _ hclock (Or.inl rfl)
    exact safe_validateGpioClockDiagnosticRequest (by omega)
  · exact True.intro
  · have h8 : payload.length = 8 := hsize _ hgeneric (Or.inl rfl)
    refine (safe_validateResponsePrefix (by omega)).next fun _ => ?_
    rw [unsigned_eq (by omega), ok_bind]
    exact safe_rejectIf
  · exact (safe_validateResponsePrefix (four_le_expectedPayload hkind hdata hrequest hlen)).next
      fun _ => True.intro
  · have herr : h.responseError = false := Bool.not_eq_true _ ▸ hresponse
    refine (safe_validateResponsePrefix (four_le_expectedPayload hkind hdata hrequest hlen)).next
      fun _ => ?_
    exact safe_validateTypedResponse fun kind hk _ => hsize kind hk (Or.inr herr)

end Safe

end ControlV1

end ThingDaq.Host.Raising
