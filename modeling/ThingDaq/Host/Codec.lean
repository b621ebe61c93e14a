import ThingDaq.Host.ProtocolV3
import ThingDaq.Host.Checksum

/-!
# The host's frame codecs

`encode_frame`, `decode_frame` and the buffered decoder of each wire version
(`protocol.py`, `protocol_v2.py` and `protocol_v3.py` of `daq_api`).  Versions 1 and 2
share their header and the order of its checks; what they differ in is `Rules`.

Arguments of the encoders are Python integers.  Version 1 refuses what does not fit
the wire first, version 2 when the header is packed, after all other checks; so a
`Header` has integers of any size, and `toBytes` may fail.

The check of a control payload is a parameter: an encoder and both decoders of a
version call the same one, with the header and the payload.
-/

namespace ThingDaq.Host

open Wire

/-! ### Headers -/

/-- `FrameHeader` of version 1 and `V2FrameHeader`. -/
structure Header where
  kind : FrameKind
  flags : ℤ
  checksumAlgorithm : ChecksumAlgorithm
  totalLength : ℕ
  payloadLength : ℕ
  runId : ℤ
  sequence : ℤ
  requestId : ℤ
  firstSampleTicks : ℤ
  itemCount : ℤ
  version : UInt8
  headerLength : ℕ := kHeaderSize
  deriving DecidableEq, Repr

/-- `FrameValidationError` and its version 2, one for each message. -/
inductive FrameError
  | shortHeader (available : ℕ)
  | badMagic
  | badVersion (version : UInt8)
  | unknownKind (kind : ℤ)
  | unsupportedChecksum (algorithm : ℤ)
  | checksumAlgorithmMismatch (observed : ChecksumAlgorithm)
  | headerLength
  | headerReserved
  | invalidFlags (flags : ℤ) (kind : FrameKind)
  | overrunWithoutGap
  | inconsistentLengths
  | dataFrameSize
  | dataItemCount (kind : FrameKind) (expected : ℕ)
  | noDataLayout (kind : FrameKind)
  | dataIdentity
  | unalignedTimestamp
  | epochStart
  | controlBounds
  | zeroRequestId
  | dataOnlyFields
  | requestRunId
  | commandBounds
  | errorResponseFlag
  | payloadSize (kind : FrameKind) (expected : ℕ)
  | startRunId
  | outsideRange (name : String) (bits : ℕ)
  | declaredLength (declared got : ℕ)
  | checksumMismatch (expected observed : ℕ)
  | payloadLength
  | adcCodes
  | controlPayload (message : String)
  /-- `struct.error`, or a plain `ValueError`. -/
  | foreign
  deriving DecidableEq, Repr

/-- The error code an error carries; a foreign one has none. -/
def FrameError.errorCode : FrameError → Option ErrorCode
  | .shortHeader _ | .badMagic | .headerLength | .inconsistentLengths | .dataFrameSize
  | .dataItemCount _ _ | .noDataLayout _ | .controlBounds | .commandBounds | .payloadSize _ _
  | .declaredLength _ _ | .payloadLength => some .invalidLength
  | .badVersion _ => some .unsupportedVersion
  | .unknownKind _ => some .unknownFrameKind
  | .unsupportedChecksum _ | .checksumAlgorithmMismatch _ => some .unsupportedChecksum
  | .invalidFlags _ _ | .overrunWithoutGap | .errorResponseFlag => some .invalidFlags
  | .zeroRequestId => some .invalidRequestId
  | .checksumMismatch _ _ => some .checksumMismatch
  | .foreign => none
  | _ => some .invalidPayload

namespace Header

/-- A header as `_HEADER.unpack_from` reads it. -/
def ofWire (w : FrameHeader) : Header where
  kind := w.kind
  flags := w.flags.toNat
  checksumAlgorithm := w.checksumAlgorithm
  totalLength := w.totalLength.toNat
  payloadLength := w.payloadLength.toNat
  runId := w.runId.toNat
  sequence := w.sequence.toNat
  requestId := w.requestId.toNat
  firstSampleTicks := w.firstSampleTicks.toNat
  itemCount := w.itemCount.toNat
  version := w.version
  headerLength := w.headerLength.toNat

/-- Every field is in the range of its format character. -/
def fits (h : Header) : Prop :=
  (0 ≤ h.flags ∧ h.flags < 2 ^ 16) ∧ h.headerLength < 2 ^ 16 ∧ h.totalLength < 2 ^ 32 ∧
    h.payloadLength < 2 ^ 32 ∧ (0 ≤ h.runId ∧ h.runId < 2 ^ 32) ∧
    (0 ≤ h.sequence ∧ h.sequence < 2 ^ 32) ∧ (0 ≤ h.requestId ∧ h.requestId < 2 ^ 32) ∧
    (0 ≤ h.firstSampleTicks ∧ h.firstSampleTicks < 2 ^ 64) ∧
    (0 ≤ h.itemCount ∧ h.itemCount < 2 ^ 32)

instance (h : Header) : Decidable h.fits := by unfold fits; infer_instance

/-- The header of the wire, for one that fits. -/
def wire (h : Header) : FrameHeader where
  kind := h.kind
  flags := UInt16.ofNat h.flags.toNat
  checksumAlgorithm := h.checksumAlgorithm
  totalLength := UInt32.ofNat h.totalLength
  payloadLength := UInt32.ofNat h.payloadLength
  runId := UInt32.ofNat h.runId.toNat
  sequence := UInt32.ofNat h.sequence.toNat
  requestId := UInt32.ofNat h.requestId.toNat
  firstSampleTicks := UInt64.ofNat h.firstSampleTicks.toNat
  itemCount := UInt32.ofNat h.itemCount.toNat
  version := h.version
  headerLength := UInt16.ofNat h.headerLength

/-- `to_bytes` -/
def toBytes (h : Header) : Except FrameError Bytes :=
  if h.fits then .ok (headerBytes h.wire) else .error .foreign

/-- The bits of the flags that a 16-bit mask sees. -/
def flagBits (h : Header) : ℕ := (h.flags % 2 ^ 16).toNat

def hasFlag (h : Header) (flag : UInt16) : Bool := h.flagBits &&& flag.toNat ≠ 0

def responseError (h : Header) : Bool := h.hasFlag flagResponseError

end Header

/-! ### The header checks of versions 1 and 2 -/

/-- What the two versions differ in. -/
structure Rules where
  version : UInt8
  frameKinds : List FrameKind
  requestKinds : List FrameKind
  payloadSize : FrameKind → ℕ
  maxControlFrameBytes : ℕ
  maxCommandFrameBytes : ℕ
  /-- The data branch, up to the epoch check. -/
  checkData : Header → Except FrameError Unit
  /-- The error for a control frame with another checksum than Adler-32. -/
  controlChecksum : ChecksumAlgorithm → FrameError

namespace Rules

def isRequest (r : Rules) (k : FrameKind) : Bool := r.requestKinds.contains k

def isTypedResponse (r : Rules) (k : FrameKind) : Bool :=
  (r.requestKinds.map (· + 128)).contains k

/-- `ALLOWED_FLAGS_BY_KIND` -/
def allowedFlags (r : Rules) (k : FrameKind) : ℕ :=
  if isDataKind k then 15 else if r.isRequest k then 0 else 0x8000

/-- EPOCH_START marks the first frame of a run and no other. -/
def checkEpoch (h : Header) : Except FrameError Unit :=
  if h.hasFlag flagEpochStart ≠ decide (h.sequence = 0 ∧ h.firstSampleTicks = 0) then
    .error .epochStart
  else .ok ()

/-- The payload size that a control header has to declare. -/
def expectedPayload (r : Rules) (h : Header) : ℕ :=
  if r.isTypedResponse h.kind then if h.responseError then 4 else r.payloadSize h.kind
  else r.payloadSize h.kind

/-- The control branch. -/
def checkControl (r : Rules) (h : Header) : Except FrameError Unit :=
  if h.totalLength < kMinFrameBytes ∨ r.maxControlFrameBytes < h.totalLength then
    .error .controlBounds
  else if h.requestId = 0 then .error .zeroRequestId
  else if h.sequence ≠ 0 ∨ h.firstSampleTicks ≠ 0 ∨ h.itemCount ≠ 0 then .error .dataOnlyFields
  else if r.isRequest h.kind ∧ h.runId ≠ 0 then .error .requestRunId
  else if r.isRequest h.kind ∧ r.maxCommandFrameBytes < h.totalLength then .error .commandBounds
  else if h.kind = FrameKind.errorResponse ∧ h.responseError = false then
    .error .errorResponseFlag
  else if h.payloadLength ≠ r.expectedPayload h then
    .error (.payloadSize h.kind (r.expectedPayload h))
  else if h.kind = FrameKind.startResponse ∧ h.responseError = false ∧ h.runId = 0 then
    .error .startRunId
  else .ok ()

/-- `_validate_header`; version 2 checks the reserved byte before. -/
def validateHeader (r : Rules) (h : Header) (reserved : UInt8) : Except FrameError Unit :=
  if h.headerLength ≠ kHeaderSize then .error .headerLength
  else if reserved ≠ 0 then .error .headerReserved
  else if isSupportedChecksum h.checksumAlgorithm = false then
    .error (.unsupportedChecksum h.checksumAlgorithm.toNat)
  else if isDataKind h.kind = false ∧ h.checksumAlgorithm ≠ ChecksumAlgorithm.adler32 then
    .error (r.controlChecksum h.checksumAlgorithm)
  else if h.flagBits &&& (0xFFFF ^^^ r.allowedFlags h.kind) ≠ 0 then
    .error (.invalidFlags h.flags h.kind)
  else if h.hasFlag flagOverrunBefore ∧ h.hasFlag flagGapBefore = false then
    .error .overrunWithoutGap
  else if h.totalLength ≠ kHeaderSize + h.payloadLength + kTrailerSize then
    .error .inconsistentLengths
  else if isDataKind h.kind then
    match r.checkData h with
    | .error e => .error e
    | .ok () => checkEpoch h
  else r.checkControl h

/-- The fields of a header and its reserved byte, with the checks that make enums of
the raw numbers. -/
def unpackHeader (r : Rules) (data : Bytes) (offset : ℕ) : Except FrameError (Header × UInt8) :=
  let b := data.drop offset
  let w := loadHeader b
  if b.length < kHeaderSize then .error (.shortHeader b.length)
  else if leValue (slice b 0 4) ≠ kMagic then .error .badMagic
  else if w.version ≠ r.version then .error (.badVersion w.version)
  else if r.frameKinds.contains w.kind = false then .error (.unknownKind w.kind.toNat)
  else if isKnownChecksum w.checksumAlgorithm = false then
    .error (.unsupportedChecksum w.checksumAlgorithm.toNat)
  else .ok (Header.ofWire w, byteAt b 11)

end Rules

/-! ### Version 1 -/

/-- The data branch of `_validate_header`. -/
def checkV1Data (h : Header) : Except FrameError Unit :=
  let expectedItems : ℕ := if h.kind = FrameKind.adcData then 1012 else 4048
  let period : ℤ := if h.kind = FrameKind.adcData then 8 else 2
  if h.totalLength ≠ kDataFrameBytes ∨ h.payloadLength ≠ kDataPayloadBytes then
    .error .dataFrameSize
  else if h.itemCount ≠ expectedItems then .error (.dataItemCount h.kind expectedItems)
  else if h.runId = 0 ∨ h.requestId ≠ 0 then .error .dataIdentity
  else if h.firstSampleTicks % period ≠ 0 then .error .unalignedTimestamp
  else .ok ()

/-- `PAYLOAD_SIZE_BY_SCHEMA` of the kind's schema. -/
def v1PayloadSize (k : FrameKind) : ℕ :=
  match k.toNat with
  | 1 => 4048
  | 2 => 4048
  | 17 => 8
  | 22 => 8
  | 23 => 8
  | 24 => 8
  | 144 => 376
  | 145 => 12
  | 146 => 12
  | 147 => 1228
  | 148 => 8
  | 149 => 8
  | 150 => 12
  | 151 => 96
  | 152 => 140
  | 153 => 144
  | 159 => 8
  | _ => 0

def v1Rules : Rules where
  version := V1.kProtocolVersion
  frameKinds := [1, 2, 16, 17, 18, 19, 20, 21, 22, 23, 24, 25,
    144, 145, 146, 147, 148, 149, 150, 151, 152, 153, 159]
  requestKinds := [16, 17, 18, 19, 20, 21, 22, 23, 24, 25]
  payloadSize := v1PayloadSize
  maxControlFrameBytes := 1280
  maxCommandFrameBytes := 56
  checkData := checkV1Data
  controlChecksum := .checksumAlgorithmMismatch

/-- `_decode_header` -/
def decodeHeader (data : Bytes) (offset : ℕ) : Except FrameError Header :=
  match v1Rules.unpackHeader data offset with
  | .error e => .error e
  | .ok (h, reserved) =>
    match v1Rules.validateHeader h reserved with
    | .error e => .error e
    | .ok () => .ok h

/-! ### Version 2 -/

/-- `_DATA_SHAPES_BY_KIND`: total bytes, payload bytes and items. -/
def v2DataShapes (k : FrameKind) : List (ℕ × ℕ × ℤ) :=
  if k = FrameKind.adcData then [(4096, 4048, 1012), (2072, 2024, 506)]
  else [(4096, 4048, 4048), (4096, 4048, 2024)]

/-- `_DATA_PERIODS_BY_KIND` -/
def v2DataPeriods (k : FrameKind) : List ℤ :=
  if k = FrameKind.adcData then [8, 16, 32, 64, 8] else [2, 4, 8, 16, 8]

/-- The data branch of `_validate_v2_header`. -/
def checkV2Data (h : Header) : Except FrameError Unit :=
  if (h.totalLength, h.payloadLength, h.itemCount) ∉ v2DataShapes h.kind then
    .error (.noDataLayout h.kind)
  else if h.runId = 0 ∨ h.requestId ≠ 0 then .error .dataIdentity
  else if (v2DataPeriods h.kind).any (fun period => h.firstSampleTicks % period = 0) = false then
    .error .unalignedTimestamp
  else .ok ()

/-- `PAYLOAD_SIZE_BY_SCHEMA` of the kind's schema. -/
def v2PayloadSize (k : FrameKind) : ℕ :=
  match k.toNat with
  | 17 => 16
  | 144 => 680
  | 145 => 20
  | 146 => 20
  | 147 => 1476
  | 153 => 272
  | 154 => 12
  | 155 => 32
  | _ => v1PayloadSize k

def v2Rules : Rules where
  version := V2.kProtocolVersion
  frameKinds := [1, 2, 16, 17, 18, 19, 20, 21, 22, 23, 24, 25, 26, 27,
    144, 145, 146, 147, 148, 149, 150, 151, 152, 153, 154, 155, 159]
  requestKinds := [16, 17, 18, 19, 20, 21, 22, 23, 24, 25, 26, 27]
  payloadSize := v2PayloadSize
  maxControlFrameBytes := 1536
  maxCommandFrameBytes := 64
  checkData := checkV2Data
  controlChecksum := fun a => .unsupportedChecksum a.toNat

/-- `_validate_v2_header` -/
def validateV2Header (h : Header) : Except FrameError Unit := v2Rules.validateHeader h 0

/-- `_decode_v2_header` -/
def decodeV2Header (data : Bytes) (offset : ℕ) : Except FrameError Header :=
  match v2Rules.unpackHeader data offset with
  | .error e => .error e
  | .ok (h, reserved) =>
    if reserved ≠ 0 then .error .headerReserved
    else
      match validateV2Header h with
      | .error e => .error e
      | .ok () => .ok h

/-! ### Frames of versions 1 and 2 -/

/-- `Frame` and `V2Frame` -/
structure Frame where
  header : Header
  payload : Bytes
  checksum : ℕ
  deriving DecidableEq, Repr

/-- `compute_checksum_value` -/
def computeChecksumValue (a : ChecksumAlgorithm) (data : Bytes) : Option ℕ :=
  if a = ChecksumAlgorithm.adler32 then some (HostChecksum.pureAdler32 data)
  else if a = ChecksumAlgorithm.crc32c then some (HostChecksum.pureCrc32c data)
  else if a = ChecksumAlgorithm.crc32IsoHdlc then some (HostChecksum.pureCrc32IsoHdlc data)
  else none

/-- `compute_checksum` and `compute_v2_checksum` -/
def computeChecksum (a : ChecksumAlgorithm) (data : Bytes) : Except FrameError ℕ :=
  match computeChecksumValue a data with
  | none => .error (.unsupportedChecksum a.toNat)
  | some v => .ok v

/-- The keyword arguments of an encoder. -/
structure EncodeArgs where
  kind : ℤ
  payload : Bytes := []
  flags : ℤ := 0
  checksumAlgorithm : Option ℤ := none
  runId : ℤ := 0
  sequence : ℤ := 0
  requestId : ℤ := 0
  firstSampleTicks : ℤ := 0
  itemCount : ℤ := 0
  deriving DecidableEq, Repr

/-- The constructor of an `IntFlag`: it keeps what is not negative.  What it makes of
a negative number changed between Python versions. -/
structure IntFlag where
  convert : ℤ → ℤ
  keeps : ∀ v, 0 ≤ v → convert v = v

/-- The constructor of an `IntEnum` with these members. -/
def enumMember (members : List UInt8) (v : ℤ) : Option UInt8 :=
  members.find? fun m => (m.toNat : ℤ) = v

/-- The members of `ChecksumAlgorithm`. -/
def checksumAlgorithms : List ChecksumAlgorithm := [0, 1, 2, 3]

section Frames

-- the checks of a control payload
variable (validateControl : Header → Bytes → Except FrameError Unit)

/-- `_validate_payload` and `_validate_v2_payload` -/
def validateFramePayload (h : Header) (payload : Bytes) : Except FrameError Unit :=
  if payload.length ≠ h.payloadLength then .error .payloadLength
  else if h.kind = FrameKind.adcData then
    if adcPayloadCodesValid payload then .ok () else .error .adcCodes
  else if h.kind = FrameKind.gpioData then .ok ()
  else validateControl h payload

/-- `_decode_buffered_frame` and `_decode_buffered_v2_frame` -/
def decodeBufferedFrame (buffer : Bytes) (offset : ℕ) (h : Header) : Except FrameError Frame :=
  let payloadStart := offset + kHeaderSize
  let payloadEnd := payloadStart + h.payloadLength
  let observed := leValue (slice buffer payloadEnd 4)
  match computeChecksum h.checksumAlgorithm (slice buffer offset (payloadEnd - offset)) with
  | .error e => .error e
  | .ok expected =>
    if observed ≠ expected then .error (.checksumMismatch expected observed)
    else
      let payload := slice buffer payloadStart (payloadEnd - payloadStart)
      match validateFramePayload validateControl h payload with
      | .error e => .error e
      | .ok () => .ok ⟨h, payload, observed⟩

/-- The part of `decode_frame` and `decode_v2_frame` behind the header. -/
def decodeWholeFrame (data : Bytes) (h : Header) : Except FrameError Frame :=
  if data.length ≠ h.totalLength then .error (.declaredLength h.totalLength data.length)
  else
    let payloadEnd := kHeaderSize + h.payloadLength
    let payload := slice data kHeaderSize (payloadEnd - kHeaderSize)
    let observed := leValue (slice data payloadEnd 4)
    match computeChecksum h.checksumAlgorithm (data.take payloadEnd) with
    | .error e => .error e
    | .ok expected =>
      if observed ≠ expected then .error (.checksumMismatch expected observed)
      else
        match validateFramePayload validateControl h payload with
        | .error e => .error e
        | .ok () => .ok ⟨h, payload, observed⟩

def decodeFrame (data : Bytes) : Except FrameError Frame :=
  match decodeHeader data 0 with
  | .error e => .error e
  | .ok h => decodeWholeFrame validateControl data h

def decodeV2Frame (data : Bytes) : Except FrameError Frame :=
  match decodeV2Header data 0 with
  | .error e => .error e
  | .ok h => decodeWholeFrame validateControl data h

/-- `_uint` -/
def uint (name : String) (v : ℤ) (bits : ℕ) : Except FrameError ℤ :=
  if 0 ≤ v ∧ v < 2 ^ bits then .ok v else .error (.outsideRange name bits)

/-- The end of both encoders: the checked header, the payload and the trailer. -/
def sealBytes (h : Header) (payload : Bytes) : Except FrameError Bytes :=
  match validateFramePayload validateControl h payload with
  | .error e => .error e
  | .ok () =>
    match h.toBytes with
    | .error e => .error e
    | .ok bytes =>
      match computeChecksum h.checksumAlgorithm (bytes ++ payload) with
      | .error e => .error e
      | .ok v => .ok (bytes ++ payload ++ leBytes 4 v)

/-- The header both encoders build. -/
def EncodeArgs.header (a : EncodeArgs) (version : UInt8) (kind : FrameKind) (flags : ℤ)
    (algorithm : ChecksumAlgorithm) : Header where
  kind := kind
  flags := flags
  checksumAlgorithm := algorithm
  totalLength := kHeaderSize + a.payload.length + kTrailerSize
  payloadLength := a.payload.length
  runId := a.runId
  sequence := a.sequence
  requestId := a.requestId
  firstSampleTicks := a.firstSampleTicks
  itemCount := a.itemCount
  version := version

/-- `selected_checksum`; the default and the bootstrap algorithm are both Adler-32. -/
def EncodeArgs.algorithm (a : EncodeArgs) : Option ChecksumAlgorithm :=
  match a.checksumAlgorithm with
  | none => some ChecksumAlgorithm.adler32
  | some v => enumMember checksumAlgorithms v

/-- `encode_frame` -/
def encodeFrame (a : EncodeArgs) : Except FrameError Bytes := do
  let some kind := enumMember v1Rules.frameKinds a.kind | throw (.unknownKind a.kind)
  let some algorithm := a.algorithm | throw (.unsupportedChecksum (a.checksumAlgorithm.getD 0))
  let flags ← uint "flags" a.flags 16
  let _ ← uint "run_id" a.runId 32
  let _ ← uint "sequence" a.sequence 32
  let _ ← uint "request_id" a.requestId 32
  let _ ← uint "first_sample_ticks" a.firstSampleTicks 64
  let _ ← uint "item_count" a.itemCount 32
  let h := a.header V1.kProtocolVersion kind flags algorithm
  v1Rules.validateHeader h 0
  sealBytes validateControl h a.payload

/-- `encode_v2_frame` -/
def encodeV2Frame (frameFlag : IntFlag) (a : EncodeArgs) : Except FrameError Bytes := do
  let some kind := enumMember v2Rules.frameKinds a.kind | throw (.unknownKind a.kind)
  let flags := frameFlag.convert a.flags
  let some algorithm := a.algorithm | throw .foreign
  let h := a.header V2.kProtocolVersion kind flags algorithm
  validateV2Header h
  sealBytes validateControl h a.payload

end Frames

/-! ### Version 3 -/

/-- The header `encode_v3_frame` builds. -/
def EncodeArgs.v3Header (a : EncodeArgs) (kind : FrameKind) (flags : ℤ) : Header where
  kind := kind
  flags := flags
  checksumAlgorithm := ChecksumAlgorithm.adler32
  totalLength := kMinFrameBytes + a.payload.length
  payloadLength := a.payload.length
  runId := a.runId
  sequence := a.sequence
  requestId := a.requestId
  firstSampleTicks := a.firstSampleTicks
  itemCount := a.itemCount
  version := V3.kProtocolVersion

/-- `encode_v3_frame`.  It checks its header by decoding it. -/
def encodeV3Frame (validateControl : V3Frame → Except V3Error Unit) (frameFlag : IntFlag)
    (a : EncodeArgs) : Except V3Error Bytes :=
  if kDataPrefixBytes + maxEncodedSampleBytes < a.payload.length then
    reject "payload length outside bounds"
  else
    match enumMember frameKinds a.kind with
    | none => reject "unknown frame kind/flags"
    | some kind =>
      let header := a.v3Header kind (frameFlag.convert a.flags)
      if ¬ header.fits then reject "header scalar outside wire range"
      else
        match decodeV3Header (headerBytes header.wire) with
        | .error e => .error e
        | .ok h =>
          match validatePayload validateControl ⟨h, a.payload, 0⟩ with
          | .error e => .error e
          | .ok () =>
            let wire := headerBytes h ++ a.payload
            .ok (wire ++ leBytes 4 (computeV3Checksum wire))

/-- `_decode_buffered_v3_frame` behind `_decode_v3_header`, at an offset. -/
def decodeBufferedV3FrameAt (validateControl : V3Frame → Except V3Error Unit) (buffer : Bytes)
    (offset : ℕ) (header : FrameHeader) : Except V3Error V3Frame :=
  decodeBufferedV3Frame validateControl (buffer.drop offset) header

end ThingDaq.Host
