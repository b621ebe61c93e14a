import Mathlib.Data.List.Basic
import ThingDaq.Lib.Bytes

/-!
# Frame headers

The 44-byte header shared by the three protocol versions, its field codecs and
the firmware's header validation (`firmware/src/protocol.cpp`).  A frame kind or
a checksum identifier is whatever byte the wire carries: unknown values are
representable and are rejected by the validators, as in the firmware.

## Main definitions

* `FrameHeader`, `headerBytes`, `writeHeader` — the header and its wire form.
* `validateHeader`, `validateV3Header`, `decodeHeader` — the header checks.
-/

namespace ThingDaq

open Wire

/-! ### Contract constants -/

abbrev kMagic : ℕ := 0xDEADBEEF
abbrev kHeaderSize : ℕ := 44
abbrev kTrailerSize : ℕ := 4
abbrev kMinFrameBytes : ℕ := 48
abbrev kDataFrameBytes : ℕ := 4096
abbrev kDataPayloadBytes : ℕ := 4048
abbrev kDataPrefixBytes : ℕ := 12

namespace V1
abbrev kProtocolVersion : UInt8 := 1
abbrev kMaxControlFrameBytes : ℕ := 1280
abbrev kMaxCommandFrameBytes : ℕ := 56
abbrev kAdcPairsPerFrame : ℕ := 1012
abbrev kGpioSamplesPerFrame : ℕ := 4048
abbrev kAdcBytesPerPair : ℕ := 4
abbrev kAdcPairPeriodTicks : ℕ := 8
abbrev kGpioSamplePeriodTicks : ℕ := 2
end V1

namespace V2
abbrev kProtocolVersion : UInt8 := 2
abbrev kMaxControlFrameBytes : ℕ := 1536
abbrev kMaxCommandFrameBytes : ℕ := 64
abbrev kDisabledAdcPairsPerFrame : ℕ := 1012
abbrev kDisabledGpioSamplesPerFrame : ℕ := 4048
abbrev kInputAdcPairsPerFrame : ℕ := 506
abbrev kInputGpioSamplesPerFrame : ℕ := 2024
end V2

namespace V3
abbrev kProtocolVersion : UInt8 := 3
abbrev kMaxControlFrameBytes : ℕ := 2048
abbrev kMaxCommandFrameBytes : ℕ := 68
end V3

/-! The build-time research switches of `input_experiment_profile.h`, at the
values of the normal build. -/

namespace InputExperiment
abbrev kGpioRle : Bool := false
abbrev kDeferredCodecs : Bool := false
abbrev kEncodeGpio : Bool := false
abbrev kPackAdc : Bool := false
abbrev kEqualRates : Bool := false
abbrev kAdcFrameMultiplier : ℕ := 1
abbrev kGpioRleVersion : UInt8 := 0x82
abbrev kAdcPackedVersion : UInt8 := 0x83
end InputExperiment

/-! ### Kinds, checksums and results -/

abbrev FrameKind := UInt8

namespace FrameKind
def adcData : FrameKind := 1
def gpioData : FrameKind := 2
def infoRequest : FrameKind := 16
def configureRequest : FrameKind := 17
def startRequest : FrameKind := 18
def getStatusRequest : FrameKind := 19
def stopRequest : FrameKind := 20
def resetStatsRequest : FrameKind := 21
def pingRequest : FrameKind := 22
def checksumBenchmarkRequest : FrameKind := 23
def gpioClockDiagnosticRequest : FrameKind := 24
def gpioCaptureDiagnosticRequest : FrameKind := 25
def temperatureRequest : FrameKind := 26
def runtimeHealthRequest : FrameKind := 27
def getCapabilitiesRequest : FrameKind := 28
def getSettingsRequest : FrameKind := 29
def infoResponse : FrameKind := 144
def configureResponse : FrameKind := 145
def startResponse : FrameKind := 146
def getStatusResponse : FrameKind := 147
def stopResponse : FrameKind := 148
def resetStatsResponse : FrameKind := 149
def pingResponse : FrameKind := 150
def checksumBenchmarkResponse : FrameKind := 151
def gpioClockDiagnosticResponse : FrameKind := 152
def gpioCaptureDiagnosticResponse : FrameKind := 153
def temperatureResponse : FrameKind := 154
def runtimeHealthResponse : FrameKind := 155
def getCapabilitiesResponse : FrameKind := 156
def getSettingsResponse : FrameKind := 157
def errorResponse : FrameKind := 159
end FrameKind

abbrev ChecksumAlgorithm := UInt8

namespace ChecksumAlgorithm
def noneReserved : ChecksumAlgorithm := 0
def adler32 : ChecksumAlgorithm := 1
def crc32c : ChecksumAlgorithm := 2
def crc32IsoHdlc : ChecksumAlgorithm := 3
end ChecksumAlgorithm

/-- Frame flags. -/
def flagGapBefore : UInt16 := 2
def flagEpochStart : UInt16 := 4
def flagOverrunBefore : UInt16 := 8
def flagResponseError : UInt16 := 0x8000

inductive ErrorCode
  | ok
  | unsupportedVersion
  | unknownFrameKind
  | invalidFlags
  | invalidLength
  | invalidPayload
  | unsupportedChecksum
  | invalidState
  | unsupportedConfiguration
  | invalidRequestId
  | busy
  | internalError
  | checksumMismatch
  deriving DecidableEq, Repr

/-- The wire number of an error code. -/
def ErrorCode.value : ErrorCode → ℕ
  | .ok => 0
  | .unsupportedVersion => 1
  | .unknownFrameKind => 2
  | .invalidFlags => 3
  | .invalidLength => 4
  | .invalidPayload => 5
  | .unsupportedChecksum => 6
  | .invalidState => 7
  | .unsupportedConfiguration => 8
  | .invalidRequestId => 9
  | .busy => 10
  | .internalError => 11
  | .checksumMismatch => 12

inductive ValidationIssue
  | none
  | badMagic
  | badVersion
  | badKind
  | badFlags
  | badLength
  | badChecksum
  | badPayload
  | badRequestId
  | unsupportedChecksum
  deriving DecidableEq, Repr

structure Result where
  error : ErrorCode := .ok
  issue : ValidationIssue := .none
  deriving DecidableEq, Repr

namespace Result
def success : Result := {}
def isOk (r : Result) : Bool := r.error = .ok
def badMagic : Result := ⟨.invalidLength, .badMagic⟩
def badVersion : Result := ⟨.unsupportedVersion, .badVersion⟩
def badKind : Result := ⟨.unknownFrameKind, .badKind⟩
def badFlags : Result := ⟨.invalidFlags, .badFlags⟩
def badLength : Result := ⟨.invalidLength, .badLength⟩
def badChecksum : Result := ⟨.checksumMismatch, .badChecksum⟩
def badPayload : Result := ⟨.invalidPayload, .badPayload⟩
def badRequestId : Result := ⟨.invalidRequestId, .badRequestId⟩
def unsupportedChecksum : Result := ⟨.unsupportedChecksum, .unsupportedChecksum⟩

@[simp] theorem isOk_success : success.isOk = true := rfl
@[simp] theorem isOk_badMagic : badMagic.isOk = false := rfl
@[simp] theorem isOk_badVersion : badVersion.isOk = false := rfl
@[simp] theorem isOk_badKind : badKind.isOk = false := rfl
@[simp] theorem isOk_badFlags : badFlags.isOk = false := rfl
@[simp] theorem isOk_badLength : badLength.isOk = false := rfl
@[simp] theorem isOk_badChecksum : badChecksum.isOk = false := rfl
@[simp] theorem isOk_badPayload : badPayload.isOk = false := rfl
@[simp] theorem isOk_badRequestId : badRequestId.isOk = false := rfl
@[simp] theorem isOk_unsupportedChecksum : unsupportedChecksum.isOk = false := rfl
end Result

/-! ### Field access -/

/-- The byte at an offset; views of the firmware are only read inside their
size, the default stands for nothing the code can see. -/
def byteAt (b : Bytes) (off : ℕ) : UInt8 := b.getD off 0

def loadU16 (b : Bytes) (off : ℕ) : Option UInt16 :=
  if off + 2 ≤ b.length then some (UInt16.ofNat (leValue (slice b off 2))) else none

def loadU32 (b : Bytes) (off : ℕ) : Option UInt32 :=
  if off + 4 ≤ b.length then some (UInt32.ofNat (leValue (slice b off 4))) else none

def loadU64 (b : Bytes) (off : ℕ) : Option UInt64 :=
  if off + 8 ≤ b.length then some (UInt64.ofNat (leValue (slice b off 8))) else none

/-! ### The header -/

structure FrameHeader where
  kind : FrameKind := FrameKind.infoRequest
  flags : UInt16 := 0
  checksumAlgorithm : ChecksumAlgorithm := ChecksumAlgorithm.adler32
  totalLength : UInt32 := 0
  payloadLength : UInt32 := 0
  runId : UInt32 := 0
  sequence : UInt32 := 0
  requestId : UInt32 := 0
  firstSampleTicks : UInt64 := 0
  itemCount : UInt32 := 0
  version : UInt8 := V1.kProtocolVersion
  headerLength : UInt16 := 44
  deriving DecidableEq, Repr

structure FrameFields where
  kind : FrameKind := FrameKind.infoRequest
  flags : UInt16 := 0
  checksumAlgorithm : ChecksumAlgorithm := ChecksumAlgorithm.adler32
  runId : UInt32 := 0
  sequence : UInt32 := 0
  requestId : UInt32 := 0
  firstSampleTicks : UInt64 := 0
  itemCount : UInt32 := 0
  version : UInt8 := V1.kProtocolVersion
  deriving DecidableEq, Repr

/-- The header a frame of the given lengths gets from its fields. -/
def FrameFields.header (f : FrameFields) (version : UInt8) (total payload : ℕ) : FrameHeader where
  kind := f.kind
  flags := f.flags
  checksumAlgorithm := f.checksumAlgorithm
  totalLength := UInt32.ofNat total
  payloadLength := UInt32.ofNat payload
  runId := f.runId
  sequence := f.sequence
  requestId := f.requestId
  firstSampleTicks := f.firstSampleTicks
  itemCount := f.itemCount
  version := version

/-- The wire form of a header, field by field in offset order; the byte at
offset 11 is reserved. -/
def headerBytes (h : FrameHeader) : Bytes :=
  leBytes 4 kMagic ++ [h.version, h.kind] ++ leBytes 2 h.flags.toNat ++
    leBytes 2 h.headerLength.toNat ++ [h.checksumAlgorithm, 0] ++
    leBytes 4 h.totalLength.toNat ++ leBytes 4 h.payloadLength.toNat ++
    leBytes 4 h.runId.toNat ++ leBytes 4 h.sequence.toNat ++ leBytes 4 h.requestId.toNat ++
    leBytes 8 h.firstSampleTicks.toNat ++ leBytes 4 h.itemCount.toNat

@[simp] theorem length_headerBytes (h : FrameHeader) : (headerBytes h).length = 44 := by
  simp [headerBytes]

/-- `writeHeader` clears the first 44 bytes and stores every field there. -/
def writeHeader (h : FrameHeader) (out : Bytes) : Bytes := store out 0 (headerBytes h)

/-! ### Kind predicates -/

def isDataKind (k : FrameKind) : Bool := k = FrameKind.adcData || k = FrameKind.gpioData

/-- The request kinds of versions 1 and 2. -/
def requestKinds : List FrameKind := [16, 17, 18, 19, 20, 21, 22, 23, 24, 25, 26, 27]

/-- The typed response kinds of versions 1 and 2. -/
def typedResponseKinds : List FrameKind :=
  [144, 145, 146, 147, 148, 149, 150, 151, 152, 153, 154, 155]

def isRequestKind (k : FrameKind) : Bool := requestKinds.contains k

def isTypedResponseKind (k : FrameKind) : Bool := typedResponseKinds.contains k

def isKnownKind (k : FrameKind) : Bool :=
  isDataKind k || isRequestKind k || isTypedResponseKind k || k = FrameKind.errorResponse

def isKnownChecksum (a : ChecksumAlgorithm) : Bool := a.toNat ≤ 3

/-- The supported mask is `14`: Adler-32, CRC-32C and CRC-32. -/
def isSupportedChecksum (a : ChecksumAlgorithm) : Bool := a = 1 || a = 2 || a = 3

def checksumAllowedForKind (k : FrameKind) (a : ChecksumAlgorithm) : Bool :=
  isSupportedChecksum a && (isDataKind k || a = ChecksumAlgorithm.adler32)

def allowedFlags (k : FrameKind) : UInt16 :=
  if isDataKind k then 15
  else if isRequestKind k then 0
  else flagResponseError

/-- The command kinds of version 3. -/
def v3RequestKinds : List FrameKind := [16, 17, 18, 19, 20, 28, 29]

def v3Request (k : FrameKind) : Bool := v3RequestKinds.contains k

def v3Response (k : FrameKind) : Bool := v3Request (k &&& 0x7F) && 0x80 ≤ k.toNat

/-! ### Header validation -/

def v3PayloadSize (k : FrameKind) (error : Bool) : ℕ :=
  if k = FrameKind.errorResponse then 8
  else if error then 4
  else if v3Request k then (if k = FrameKind.configureRequest then 20 else 0)
  else if k = FrameKind.infoResponse then 132
  else if k = FrameKind.configureResponse ∨ k = FrameKind.startResponse ∨
      k = FrameKind.getSettingsResponse then 48
  else if k = FrameKind.getStatusResponse then 384
  else if k = FrameKind.stopResponse then 16
  else if k = FrameKind.getCapabilitiesResponse then 1404
  else 0

def validateV3Header (h : FrameHeader) (commandsOnly : Bool) : Result :=
  let request := v3Request h.kind
  let generic : Bool := h.kind = FrameKind.errorResponse
  let error : Bool := h.flags &&& flagResponseError ≠ 0
  if (!request && !v3Response h.kind && !generic) || (commandsOnly && !request) then
    Result.badKind
  else if h.requestId = 0 && (request || !error) then Result.badRequestId
  else if (h.flags &&& ~~~(if request then 0 else flagResponseError)) ≠ 0 || (generic && !error) then
    Result.badFlags
  else if h.headerLength.toNat ≠ kHeaderSize ||
      h.payloadLength.toNat ≠ v3PayloadSize h.kind error ||
      h.totalLength.toNat ≠ kMinFrameBytes + h.payloadLength.toNat ||
      (if request then V3.kMaxCommandFrameBytes else V3.kMaxControlFrameBytes) <
        h.totalLength.toNat then
    Result.badLength
  else if h.checksumAlgorithm ≠ ChecksumAlgorithm.adler32 then Result.unsupportedChecksum
  else if h.sequence ≠ 0 || h.firstSampleTicks ≠ 0 || h.itemCount ≠ 0 ||
      (request && h.runId ≠ 0) ||
      (h.kind = FrameKind.startResponse && !error && h.runId = 0) then
    Result.badPayload
  else Result.success

/-- The payload length versions 1 and 2 prescribe for a control kind. -/
def expectedPayloadSize (k : FrameKind) (responseError : Bool) (version : UInt8) : Option ℕ :=
  let v2 : Bool := version = V2.kProtocolVersion
  if responseError && isTypedResponseKind k then some 4
  else if k = FrameKind.runtimeHealthRequest then (if v2 then some 0 else none)
  else if k = FrameKind.runtimeHealthResponse then (if v2 then some 32 else none)
  else if k = FrameKind.temperatureRequest then (if v2 then some 0 else none)
  else if k = FrameKind.temperatureResponse then (if v2 then some 12 else none)
  else if k = FrameKind.adcData then some 4048
  else if k = FrameKind.gpioData then some 4048
  else if [16, 18, 19, 20, 21, 25].contains k then some 0
  else if k = FrameKind.configureRequest then some (if v2 then 16 else 8)
  else if k = FrameKind.pingRequest then some 8
  else if k = FrameKind.checksumBenchmarkRequest then some 8
  else if k = FrameKind.gpioClockDiagnosticRequest then some 8
  else if k = FrameKind.infoResponse then some (if v2 then 680 else 376)
  else if k = FrameKind.configureResponse ∨ k = FrameKind.startResponse then
    some (if v2 then 20 else 12)
  else if k = FrameKind.getStatusResponse then some (if v2 then 1476 else 1228)
  else if k = FrameKind.stopResponse then some 8
  else if k = FrameKind.resetStatsResponse then some 8
  else if k = FrameKind.pingResponse then some 12
  else if k = FrameKind.checksumBenchmarkResponse then some 96
  else if k = FrameKind.gpioClockDiagnosticResponse then some 140
  else if k = FrameKind.gpioCaptureDiagnosticResponse then some (if v2 then 272 else 144)
  else if k = FrameKind.errorResponse then (if responseError then some 8 else none)
  else none

/-- Item period of each rate profile of version 2, ADC and GPIO side. -/
def adcPeriods : List ℕ := [8, 16, 32, 64, 8]
def gpioPeriods : List ℕ := [2, 4, 8, 16, 8]

/-- The data-frame part of `validateHeader` for version 2. -/
def validateV2DataHeader (h : FrameHeader) : Result :=
  let adc : Bool := h.kind = FrameKind.adcData
  let items := h.itemCount.toNat
  let payload := h.payloadLength.toNat
  let disabled : Bool := payload = kDataPayloadBytes &&
    items = (if adc then V2.kDisabledAdcPairsPerFrame else V2.kDisabledGpioSamplesPerFrame)
  -- the legacy and the profile input shapes coincide when the frame multiplier is one
  let input : Bool :=
    payload = (if adc then V2.kInputAdcPairsPerFrame * 4 else kDataPayloadBytes) &&
    items = (if adc then V2.kInputAdcPairsPerFrame else V2.kInputGpioSamplesPerFrame)
  let itemBytes := if adc then 4 else if input then 2 else 1
  if (!disabled && !input) || h.totalLength.toNat ≠ kHeaderSize + items * itemBytes + kTrailerSize ||
      h.runId = 0 || h.requestId ≠ 0 then
    Result.badLength
  else
    let aligned := (if adc then adcPeriods else gpioPeriods).any
      fun period => h.firstSampleTicks.toNat % period = 0
    let epochStart : Bool := h.flags &&& flagEpochStart ≠ 0
    let firstItem : Bool := h.sequence = 0 && h.firstSampleTicks = 0
    if aligned && epochStart == firstItem then Result.success else Result.badPayload

/-- The data-frame part of `validateHeader` for version 1. -/
def validateV1DataHeader (h : FrameHeader) : Result :=
  let adc : Bool := h.kind = FrameKind.adcData
  let expectedItems := if adc then V1.kAdcPairsPerFrame else V1.kGpioSamplesPerFrame
  let period := if adc then V1.kAdcPairPeriodTicks else V1.kGpioSamplePeriodTicks
  if h.totalLength.toNat ≠ kDataFrameBytes || h.payloadLength.toNat ≠ kDataPayloadBytes ||
      h.itemCount.toNat ≠ expectedItems then
    Result.badLength
  else if h.runId = 0 || h.requestId ≠ 0 || h.firstSampleTicks.toNat % period ≠ 0 then
    Result.badPayload
  else
    let epochStart : Bool := h.flags &&& flagEpochStart ≠ 0
    let firstItem : Bool := h.sequence = 0 && h.firstSampleTicks = 0
    if epochStart == firstItem then Result.success else Result.badPayload

/-- The control-frame part of `validateHeader` for versions 1 and 2. -/
def validateControlHeader (h : FrameHeader) (responseError : Bool) : Result :=
  let v2 : Bool := h.version = V2.kProtocolVersion
  let maxControl := if v2 then V2.kMaxControlFrameBytes else V1.kMaxControlFrameBytes
  let maxCommand := if v2 then V2.kMaxCommandFrameBytes else V1.kMaxCommandFrameBytes
  if h.totalLength.toNat < kMinFrameBytes || maxControl < h.totalLength.toNat then
    Result.badLength
  else if h.requestId = 0 then Result.badRequestId
  else if h.sequence ≠ 0 || h.firstSampleTicks ≠ 0 || h.itemCount ≠ 0 then Result.badPayload
  else if isRequestKind h.kind && h.runId ≠ 0 then Result.badPayload
  else if isRequestKind h.kind && maxCommand < h.totalLength.toNat then Result.badLength
  else if h.kind = FrameKind.startResponse && !responseError && h.runId = 0 then
    Result.badPayload
  else Result.success

def validateHeader (h : FrameHeader) (commandsOnly : Bool) : Result :=
  let v2 : Bool := h.version = V2.kProtocolVersion
  let responseError : Bool := h.flags &&& flagResponseError ≠ 0
  if h.version = V3.kProtocolVersion then validateV3Header h commandsOnly
  else if h.version ≠ V1.kProtocolVersion && !v2 then Result.badVersion
  else if !isKnownKind h.kind || (commandsOnly && !isRequestKind h.kind) then Result.badKind
  else if !v2 && [FrameKind.temperatureRequest, FrameKind.temperatureResponse,
      FrameKind.runtimeHealthRequest, FrameKind.runtimeHealthResponse].contains h.kind then
    Result.badKind
  else if h.headerLength.toNat ≠ kHeaderSize then Result.badLength
  else if !checksumAllowedForKind h.kind h.checksumAlgorithm then Result.unsupportedChecksum
  else if h.flags &&& ~~~allowedFlags h.kind ≠ 0 then Result.badFlags
  else if h.flags &&& flagOverrunBefore ≠ 0 && h.flags &&& flagGapBefore = 0 then
    Result.badFlags
  else if !isDataKind h.kind &&
      expectedPayloadSize h.kind responseError h.version ≠ some h.payloadLength.toNat then
    Result.badLength
  else if kDataFrameBytes < h.payloadLength.toNat then Result.badLength
  else if h.totalLength.toNat ≠ kMinFrameBytes + h.payloadLength.toNat then Result.badLength
  else if isDataKind h.kind then
    if v2 then validateV2DataHeader h else validateV1DataHeader h
  else validateControlHeader h responseError

/-- The fields of the 44 bytes at the start of `b`, unchecked. -/
def loadHeader (b : Bytes) : FrameHeader where
  kind := byteAt b 5
  flags := UInt16.ofNat (leValue (slice b 6 2))
  checksumAlgorithm := byteAt b 10
  totalLength := UInt32.ofNat (leValue (slice b 12 4))
  payloadLength := UInt32.ofNat (leValue (slice b 16 4))
  runId := UInt32.ofNat (leValue (slice b 20 4))
  sequence := UInt32.ofNat (leValue (slice b 24 4))
  requestId := UInt32.ofNat (leValue (slice b 28 4))
  firstSampleTicks := UInt64.ofNat (leValue (slice b 32 8))
  itemCount := UInt32.ofNat (leValue (slice b 40 4))
  version := byteAt b 4
  headerLength := UInt16.ofNat (leValue (slice b 8 2))

def decodeHeader (b : Bytes) (commandsOnly : Bool) : Except Result FrameHeader :=
  let h := loadHeader b
  let v3 : Bool := h.version = V3.kProtocolVersion
  if b.length < kHeaderSize then .error Result.badLength
  else if leValue (slice b 0 4) ≠ kMagic then .error Result.badMagic
  else if h.version ≠ V1.kProtocolVersion && h.version ≠ V2.kProtocolVersion && !v3 then
    .error Result.badVersion
  else if !v3 && (!isKnownKind h.kind || (commandsOnly && !isRequestKind h.kind)) then
    .error Result.badKind
  else if !isKnownChecksum h.checksumAlgorithm ||
      !checksumAllowedForKind h.kind h.checksumAlgorithm then
    .error Result.unsupportedChecksum
  else if !v3 && byteAt b 11 ≠ 0 then .error Result.badPayload
  else
    let result := validateHeader h commandsOnly
    if !result.isOk then .error result
    else if v3 && byteAt b 11 ≠ 0 then .error Result.badPayload
    else .ok h

/-! ### Reading a header back -/

section HeaderFields

variable (h : FrameHeader) (rest : Bytes)

theorem slice_magic : slice (headerBytes h ++ rest) 0 4 = leBytes 4 kMagic := rfl

theorem slice_flags : slice (headerBytes h ++ rest) 6 2 = leBytes 2 h.flags.toNat := rfl

theorem slice_headerLength :
    slice (headerBytes h ++ rest) 8 2 = leBytes 2 h.headerLength.toNat := rfl

theorem slice_totalLength :
    slice (headerBytes h ++ rest) 12 4 = leBytes 4 h.totalLength.toNat := rfl

theorem slice_payloadLength :
    slice (headerBytes h ++ rest) 16 4 = leBytes 4 h.payloadLength.toNat := rfl

theorem slice_runId : slice (headerBytes h ++ rest) 20 4 = leBytes 4 h.runId.toNat := rfl

theorem slice_sequence : slice (headerBytes h ++ rest) 24 4 = leBytes 4 h.sequence.toNat := rfl

theorem slice_requestId : slice (headerBytes h ++ rest) 28 4 = leBytes 4 h.requestId.toNat := rfl

theorem slice_firstSampleTicks :
    slice (headerBytes h ++ rest) 32 8 = leBytes 8 h.firstSampleTicks.toNat := rfl

theorem slice_itemCount : slice (headerBytes h ++ rest) 40 4 = leBytes 4 h.itemCount.toNat := rfl

theorem byteAt_version : byteAt (headerBytes h ++ rest) 4 = h.version := rfl

theorem byteAt_kind : byteAt (headerBytes h ++ rest) 5 = h.kind := rfl

theorem byteAt_checksumAlgorithm : byteAt (headerBytes h ++ rest) 10 = h.checksumAlgorithm := rfl

theorem byteAt_reserved : byteAt (headerBytes h ++ rest) 11 = 0 := rfl

end HeaderFields

theorem leValue_leBytes_u16 (v : UInt16) : leValue (leBytes 2 v.toNat) = v.toNat :=
  leValue_leBytes_of_lt v.toNat_lt

theorem leValue_leBytes_u32 (v : UInt32) : leValue (leBytes 4 v.toNat) = v.toNat :=
  leValue_leBytes_of_lt v.toNat_lt

theorem leValue_leBytes_u64 (v : UInt64) : leValue (leBytes 8 v.toNat) = v.toNat :=
  leValue_leBytes_of_lt v.toNat_lt

/-- A header read back from its wire form. -/
theorem loadHeader_headerBytes (h : FrameHeader) (rest : Bytes) :
    loadHeader (headerBytes h ++ rest) = h := by
  unfold loadHeader
  rw [slice_flags, slice_headerLength, slice_totalLength, slice_payloadLength, slice_runId,
    slice_sequence, slice_requestId, slice_firstSampleTicks, slice_itemCount, byteAt_version,
    byteAt_kind, byteAt_checksumAlgorithm]
  simp only [leValue_leBytes_u16, leValue_leBytes_u32, leValue_leBytes_u64, UInt16.ofNat_toNat,
    UInt32.ofNat_toNat, UInt64.ofNat_toNat]

end ThingDaq
