import ThingDaq.Protocol.Checksum

/-!
# Data frames

The in-place data-frame encoder of `firmware/src/protocol.cpp`, all versions.

## Main results

* `encodeDataFrameInPlace_ok` — what the guards leave of an accepted frame.
* `encodeDataFrameInPlace_flags` — an accepted frame carries the flags it was
  given, whatever the version.
-/

namespace ThingDaq

open Wire

structure DataFrameShape where
  protocolVersion : UInt8
  itemCount : ℕ
  itemBytes : ℕ
  itemPeriodTicks : ℕ
  payloadBytes : ℕ
  frameBytes : ℕ
  deriving DecidableEq, Repr

/-- Every 16-bit sample is a 12-bit code. -/
def adcSamplesFit : Bytes → Bool
  | [] => true
  | [_] => false
  | lo :: hi :: rest => lo.toNat + 256 * hi.toNat < 4096 && adcSamplesFit rest

/-- The high nibble of every second byte is clear. -/
def highNibblesClear : Bytes → Bool
  | _ :: hi :: rest => hi &&& 0xF0 = 0 && highNibblesClear rest
  | _ => true

/-- `validatePayload` on the data kinds of versions 1 and 2. -/
def validateDataPayload (h : FrameHeader) (payload : Bytes) : Result :=
  if payload.length ≠ h.payloadLength.toNat then Result.badLength
  else if h.kind = FrameKind.adcData then
    if adcSamplesFit payload then Result.success else Result.badPayload
  else Result.success

/-- Write the header, then the checksum of everything before the trailer. -/
def sealFrame (h : FrameHeader) (frame : Bytes) (payloadBytes : ℕ) : Result × Bytes :=
  let framed := writeHeader h frame
  match computeChecksum h.checksumAlgorithm (framed.take (kHeaderSize + payloadBytes)) with
  | none => (Result.unsupportedChecksum, framed)
  | some c => (Result.success, store framed (kHeaderSize + payloadBytes) (leBytes 4 c.toNat))

/-- `encodeDataFrameInPlace` of version 1, on the whole page. -/
def encodeDataFrameInPlaceV1 (fields : FrameFields) (frame : Bytes) (payloadBytesWritten : ℕ) :
    Result × Bytes :=
  if frame.length ≠ kDataFrameBytes || payloadBytesWritten ≠ kDataPayloadBytes ||
      !isDataKind fields.kind then
    (Result.badLength, frame)
  else
    let h := fields.header V1.kProtocolVersion kDataFrameBytes kDataPayloadBytes
    let header := validateHeader h false
    if !header.isOk then (header, frame)
    else
      let payload := validateDataPayload h (slice frame kHeaderSize kDataPayloadBytes)
      if !payload.isOk then (payload, frame) else sealFrame h frame kDataPayloadBytes

/-- A version 2 shape is one of the mode shapes at one of the profile periods. -/
def v2ShapeMatches (adc : Bool) (shape : DataFrameShape) : Bool :=
  (if adc then adcPeriods else gpioPeriods).any fun period =>
    shape.itemPeriodTicks = period &&
      ((shape.itemCount = (if adc then V2.kInputAdcPairsPerFrame else V2.kInputGpioSamplesPerFrame)
          && shape.itemBytes = (if adc then 4 else 2)) ||
        (shape.itemCount =
            (if adc then V2.kDisabledAdcPairsPerFrame else V2.kDisabledGpioSamplesPerFrame)
          && shape.itemBytes = (if adc then 4 else 1)))

/-- The second table of the version 2 test adds nothing in the normal build: its
shapes are the first table's with a coverage condition on top. -/
def dataFrameShapeMatchesContract (kind : FrameKind) (shape : DataFrameShape) : Bool :=
  let adc : Bool := kind = FrameKind.adcData
  let payload := shape.itemCount * shape.itemBytes
  let total := payload + kHeaderSize + kTrailerSize
  if !isDataKind kind || shape.itemCount = 0 || shape.itemBytes = 0 || shape.itemPeriodTicks = 0 ||
      2 ^ 32 ≤ shape.payloadBytes || kDataFrameBytes < shape.frameBytes then false
  else if shape.protocolVersion = V3.kProtocolVersion then
    payload + kDataPrefixBytes = shape.payloadBytes && total + kDataPrefixBytes = shape.frameBytes &&
      shape.frameBytes ≤ kDataFrameBytes && shape.itemPeriodTicks = 8 &&
      (if adc then shape.itemBytes = 4 else shape.itemBytes = 1 || shape.itemBytes = 2)
  else if payload ≠ shape.payloadBytes || total ≠ shape.frameBytes then false
  else if shape.protocolVersion = V1.kProtocolVersion then
    shape.itemCount = (if adc then V1.kAdcPairsPerFrame else V1.kGpioSamplesPerFrame) &&
      shape.itemBytes = (if adc then V1.kAdcBytesPerPair else 1) &&
      shape.itemPeriodTicks =
        (if adc then V1.kAdcPairPeriodTicks else V1.kGpioSamplePeriodTicks) &&
      shape.payloadBytes = kDataPayloadBytes && shape.frameBytes = kDataFrameBytes
  else if shape.protocolVersion ≠ V2.kProtocolVersion then false
  else v2ShapeMatches adc shape

/-- The twelve prefix bytes of version 3: encoding, item width, two reserved
bytes, decoded length and record count. -/
def dataPrefix (encoding : UInt8) (itemBytes decodedBytes runCount : ℕ) : Bytes :=
  [encoding, UInt8.ofNat itemBytes, 0, 0] ++ leBytes 4 decodedBytes ++ leBytes 4 runCount

@[simp] theorem length_dataPrefix (e : UInt8) (w d r : ℕ) : (dataPrefix e w d r).length = 12 := by
  simp [dataPrefix]

/-- `encodeDataFrameInPlace` with an explicit shape.  The version 3 prefix is
written before the samples are checked. -/
def encodeDataFrameInPlace (fields : FrameFields) (frame : Bytes) (payloadBytesWritten : ℕ)
    (shape : DataFrameShape) : Result × Bytes :=
  let v3 : Bool := shape.protocolVersion = V3.kProtocolVersion
  let epochStart : Bool := fields.flags &&& flagEpochStart ≠ 0
  let firstItem : Bool := fields.sequence = 0 && fields.firstSampleTicks = 0
  if shape.protocolVersion ≠ V1.kProtocolVersion && shape.protocolVersion ≠ V2.kProtocolVersion &&
      !v3 then
    (Result.badVersion, frame)
  else if frame.length ≠ shape.frameBytes || payloadBytesWritten ≠ shape.payloadBytes ||
      !isDataKind fields.kind || !dataFrameShapeMatchesContract fields.kind shape then
    (Result.badLength, frame)
  else if !isSupportedChecksum fields.checksumAlgorithm ||
      (v3 && fields.checksumAlgorithm ≠ ChecksumAlgorithm.adler32) then
    (Result.unsupportedChecksum, frame)
  else if fields.flags &&& ~~~allowedFlags fields.kind ≠ 0 then (Result.badFlags, frame)
  else if fields.flags &&& flagOverrunBefore ≠ 0 && fields.flags &&& flagGapBefore = 0 then
    (Result.badFlags, frame)
  else if fields.runId = 0 || fields.requestId ≠ 0 || fields.itemCount.toNat ≠ shape.itemCount ||
      fields.firstSampleTicks.toNat % shape.itemPeriodTicks ≠ 0 || epochStart ≠ firstItem then
    (Result.badPayload, frame)
  else
    let h := fields.header shape.protocolVersion shape.frameBytes shape.payloadBytes
    if v3 then
      let framed := store frame kHeaderSize
        (dataPrefix 0 shape.itemBytes (shape.itemCount * shape.itemBytes) 0)
      let samples := slice framed (kHeaderSize + kDataPrefixBytes)
        (shape.payloadBytes - kDataPrefixBytes)
      if fields.kind = FrameKind.adcData && !highNibblesClear samples then
        (Result.badPayload, framed)
      else sealFrame h framed shape.payloadBytes
    else
      let payload := validateDataPayload h (slice frame kHeaderSize shape.payloadBytes)
      if !payload.isOk then (payload, frame) else sealFrame h frame shape.payloadBytes

/-! ### What an accepted frame looks like -/

theorem length_sealFrame (h : FrameHeader) (frame : Bytes) (n : ℕ) :
    (sealFrame h frame n).2.length = frame.length := by
  unfold sealFrame writeHeader
  simp only
  split <;> simp

theorem length_encodeDataFrameInPlaceV1 (f : FrameFields) (frame : Bytes) (n : ℕ) :
    (encodeDataFrameInPlaceV1 f frame n).2.length = frame.length := by
  unfold encodeDataFrameInPlaceV1
  simp only
  split_ifs <;> first | rfl | exact length_sealFrame _ _ _

theorem length_encodeDataFrameInPlace (f : FrameFields) (frame : Bytes) (n : ℕ)
    (shape : DataFrameShape) : (encodeDataFrameInPlace f frame n shape).2.length = frame.length := by
  unfold encodeDataFrameInPlace
  simp only
  split_ifs <;> first | rfl | simp [length_sealFrame]

/-- Sealing writes the header in front and the checksum behind. -/
theorem sealFrame_ok {h : FrameHeader} {frame : Bytes} {n : ℕ} (hlen : frame.length = 48 + n)
    (hok : (sealFrame h frame n).1.isOk = true) :
    ∃ c, computeChecksum h.checksumAlgorithm (headerBytes h ++ slice frame 44 n) = some c ∧
      (sealFrame h frame n).2 = headerBytes h ++ slice frame 44 n ++ leBytes 4 c.toNat := by
  have hwrite : writeHeader h frame = headerBytes h ++ slice frame 44 n ++ frame.drop (44 + n) := by
    unfold writeHeader
    rw [store_of_le (by simp; omega), List.take_zero, List.nil_append, length_headerBytes,
      Nat.zero_add, List.append_assoc, slice, ← List.drop_drop, List.take_append_drop]
  have hbody : (headerBytes h ++ slice frame 44 n).length = 44 + n := by
    rw [List.length_append, length_headerBytes, length_slice]; omega
  have htake : (writeHeader h frame).take (44 + n) = headerBytes h ++ slice frame 44 n := by
    rw [hwrite, ← hbody, List.take_left]
  unfold sealFrame at hok ⊢
  simp only [kHeaderSize, htake] at hok ⊢
  cases hc : computeChecksum h.checksumAlgorithm (headerBytes h ++ slice frame 44 n) with
  | none => rw [hc] at hok; exact absurd hok (by simp)
  | some c =>
    refine ⟨c, rfl, ?_⟩
    have htail : (leBytes 4 c.toNat).length = (frame.drop (44 + n)).length := by
      rw [length_leBytes, List.length_drop]; omega
    have hst := store_append (a := headerBytes h ++ slice frame 44 n) (c := []) htail
    simp only [List.append_nil, hbody] at hst
    simp only [hwrite, hst]

/-- The flags stored by an accepted seal. -/
theorem sealFrame_flags {h : FrameHeader} {frame : Bytes} {n : ℕ} (hlen : frame.length = 48 + n)
    (hok : (sealFrame h frame n).1.isOk = true) :
    slice (sealFrame h frame n).2 6 2 = leBytes 2 h.flags.toNat := by
  obtain ⟨c, -, hview⟩ := sealFrame_ok hlen hok
  rw [hview, List.append_assoc, slice_flags]

/-- An accepted frame of version 1 carries the flags it was given. -/
theorem encodeDataFrameInPlaceV1_flags {f : FrameFields} {frame : Bytes} {n : ℕ}
    (hok : (encodeDataFrameInPlaceV1 f frame n).1.isOk = true) :
    slice (encodeDataFrameInPlaceV1 f frame n).2 6 2 = leBytes 2 f.flags.toNat := by
  unfold encodeDataFrameInPlaceV1 at hok ⊢
  simp only at hok ⊢
  split at hok
  · exact absurd hok (by simp)
  · next hguard =>
    rw [if_neg hguard]
    simp only [Bool.or_eq_true, decide_eq_true_eq, not_or, not_not] at hguard
    split at hok
    · next hbad => simp_all
    · next hhdr =>
      rw [if_neg hhdr]
      split at hok
      · next hbad => simp_all
      · next hpay =>
        rw [if_neg hpay]
        exact sealFrame_flags (by rw [hguard.1.1]; rfl) hok

/-- What the guards of `encodeDataFrameInPlace` leave of an accepted frame. -/
theorem encodeDataFrameInPlace_ok {f : FrameFields} {frame : Bytes} {n : ℕ} {shape : DataFrameShape}
    (hok : (encodeDataFrameInPlace f frame n shape).1.isOk = true) :
    frame.length = shape.frameBytes ∧ n = shape.payloadBytes ∧
      dataFrameShapeMatchesContract f.kind shape = true ∧
      isSupportedChecksum f.checksumAlgorithm = true ∧
      f.flags &&& ~~~allowedFlags f.kind = 0 ∧
      ¬(f.flags &&& flagOverrunBefore ≠ 0 ∧ f.flags &&& flagGapBefore = 0) ∧
      f.runId ≠ 0 ∧ f.requestId = 0 ∧ f.itemCount.toNat = shape.itemCount ∧
      f.firstSampleTicks.toNat % shape.itemPeriodTicks = 0 ∧
      ((f.flags &&& flagEpochStart ≠ 0) ↔ (f.sequence = 0 ∧ f.firstSampleTicks = 0)) ∧
      (shape.protocolVersion = V3.kProtocolVersion →
        f.checksumAlgorithm = ChecksumAlgorithm.adler32 ∧
        (f.kind = FrameKind.adcData → highNibblesClear (slice
            (store frame 44 (dataPrefix 0 shape.itemBytes (shape.itemCount * shape.itemBytes) 0))
            56 (shape.payloadBytes - 12)) = true)) ∧
      ∃ framed : Bytes, framed.length = frame.length ∧
        framed = (if shape.protocolVersion = V3.kProtocolVersion then
          store frame 44 (dataPrefix 0 shape.itemBytes (shape.itemCount * shape.itemBytes) 0)
          else frame) ∧
        encodeDataFrameInPlace f frame n shape =
          sealFrame (f.header shape.protocolVersion shape.frameBytes shape.payloadBytes) framed
            shape.payloadBytes := by
  unfold encodeDataFrameInPlace at hok ⊢
  simp only at hok ⊢
  split at hok
  · exact absurd hok (by simp)
  next h1 =>
  split at hok
  · exact absurd hok (by simp)
  next h2 =>
  split at hok
  · exact absurd hok (by simp)
  next h3 =>
  split at hok
  · exact absurd hok (by simp)
  next h4 =>
  split at hok
  · exact absurd hok (by simp)
  next h5 =>
  split at hok
  · exact absurd hok (by simp)
  next h6 =>
  rw [if_neg h1, if_neg h2, if_neg h3, if_neg h4, if_neg h5, if_neg h6]
  simp only [Bool.or_eq_true, decide_eq_true_eq, not_or, not_not, Bool.not_eq_true',
    Bool.not_eq_false] at h2
  simp only [Bool.or_eq_true, Bool.and_eq_true, decide_eq_true_eq, not_or, not_and, not_not,
    Bool.not_eq_true', Bool.not_eq_false] at h3
  simp only [Bool.and_eq_true, decide_eq_true_eq] at h5
  simp only [Bool.or_eq_true, decide_eq_true_eq, not_or, not_not] at h6
  obtain ⟨⟨⟨h2a, h2b⟩, -⟩, h2d⟩ := h2
  obtain ⟨⟨⟨⟨h6a, h6b⟩, h6c⟩, h6d⟩, h6e⟩ := h6
  have hepoch : (f.flags &&& flagEpochStart ≠ 0) ↔ (f.sequence = 0 ∧ f.firstSampleTicks = 0) := by
    have := congrArg (· = true) h6e
    simpa only [decide_eq_true_eq, Bool.and_eq_true, eq_iff_iff] using this
  refine ⟨h2a, h2b, h2d, h3.1, by simpa using h4, h5, h6a, h6b, h6c, h6d, hepoch, ?_⟩
  by_cases hv3 : shape.protocolVersion = V3.kProtocolVersion
  · simp only [hv3, decide_true, if_true, kHeaderSize, kDataPrefixBytes] at hok ⊢
    split at hok
    · exact absurd hok (by simp)
    next h7 =>
    rw [if_neg h7]
    simp only [Bool.and_eq_true, decide_eq_true_eq, not_and, Bool.not_eq_true', Bool.not_eq_false]
      at h7
    exact ⟨fun _ => ⟨h3.2 (by simpa using hv3), h7⟩, _, length_store _ _ _, rfl, rfl⟩
  · simp only [hv3, decide_false, if_false, Bool.false_eq_true] at hok ⊢
    split at hok
    · next hbad => simp_all
    next h7 =>
    rw [if_neg h7]
    exact ⟨fun h => absurd h (by simp), frame, rfl, rfl, rfl⟩

theorem dataFrameShape_frameBytes {kind : FrameKind} {shape : DataFrameShape}
    (h : dataFrameShapeMatchesContract kind shape = true) :
    shape.frameBytes = 48 + shape.payloadBytes ∧ shape.frameBytes ≤ 4096 := by
  unfold dataFrameShapeMatchesContract at h
  simp only at h
  split at h
  · exact absurd h (by simp)
  next h1 =>
  simp only [kDataFrameBytes, Bool.or_eq_true, decide_eq_true_eq, not_or] at h1
  split at h
  · simp only [kHeaderSize, kTrailerSize, kDataPrefixBytes, Bool.and_eq_true, decide_eq_true_eq] at h
    omega
  split at h
  · exact absurd h (by simp)
  next h2 =>
  simp only [kHeaderSize, kTrailerSize, Bool.or_eq_true, decide_eq_true_eq, not_or, not_not] at h2
  omega

/-- An accepted frame carries the flags it was given. -/
theorem encodeDataFrameInPlace_flags {f : FrameFields} {frame : Bytes} {n : ℕ}
    {shape : DataFrameShape} (hok : (encodeDataFrameInPlace f frame n shape).1.isOk = true) :
    slice (encodeDataFrameInPlace f frame n shape).2 6 2 = leBytes 2 f.flags.toNat := by
  obtain ⟨hlen, -, hshape, -, -, -, -, -, -, -, -, -, framed, hframed, -, heq⟩ :=
    encodeDataFrameInPlace_ok hok
  rw [heq] at hok ⊢
  exact sealFrame_flags (by rw [hframed, hlen, (dataFrameShape_frameBytes hshape).1]) hok

end ThingDaq
