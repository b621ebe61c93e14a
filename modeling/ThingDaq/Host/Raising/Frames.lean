import ThingDaq.Host.Raising.ControlV1

/-!
# Frames of versions 1 and 2 with the exceptions of Python

The rest of a frame behind its header: the table-driven CRC, the trailer, the payload with the
checks of its version, and the whole encoder of version 1, by which version 2 checks the control
payloads that both versions have in common.

## Main results

* `decodeBufferedFrame_eq` — a frame that is complete in the buffer raises nothing but validation
  errors, and is decoded as by the total decoder.
* `safe_encodeFrame` — nor does the encoder of version 1, whatever its arguments are.
-/

namespace ThingDaq.Host.Raising

open Wire Raised

variable {ε : Type}

/-! ### Checksums -/

/-- The word loop of `_pure_reflected_crc32`, over so many words. -/
def crcWords (slice0 slice1 slice2 slice3 : List ℕ) : ℕ → ℕ → Bytes → Except (Raised ε) ℕ
  | 0, remainder, _ => .ok remainder
  | words + 1, remainder, view => do
    let remainder := remainder ^^^ leValue (view.take 4)
    let entry3 ← index slice3 (remainder &&& 0xFF)
    let entry2 ← index slice2 ((remainder >>> 8) &&& 0xFF)
    let entry1 ← index slice1 ((remainder >>> 16) &&& 0xFF)
    let entry0 ← index slice0 (remainder >>> 24)
    crcWords slice0 slice1 slice2 slice3 words (entry3 ^^^ entry2 ^^^ entry1 ^^^ entry0) (view.drop 4)

/-- Its loop over the bytes that are left. -/
def crcTail (slice0 : List ℕ) : ℕ → Bytes → Except (Raised ε) ℕ
  | remainder, [] => .ok remainder
  | remainder, value :: view => do
    let entry ← index slice0 ((remainder ^^^ value.toNat) &&& 0xFF)
    crcTail slice0 ((remainder >>> 8) ^^^ entry) view

/-- `_pure_reflected_crc32` -/
def pureReflectedCrc32 (data : Bytes) (table : List (List ℕ)) : Except (Raised ε) ℕ :=
  match table with
  | [slice0, slice1, slice2, slice3] => do
    let words := data.length / 4
    let remainder ← crcWords slice0 slice1 slice2 slice3 words HostChecksum.UINT32_MAX data
    let remainder ← crcTail slice0 remainder (data.drop (4 * words))
    return remainder ^^^ HostChecksum.UINT32_MAX
  | _ => fail .valueError

/-- `compute_checksum_value`; two of the algorithms are those of `zlib`. -/
def computeChecksumValue (a : ChecksumAlgorithm) (data : Bytes) : Except (Raised ε) (Option ℕ) :=
  if a = ChecksumAlgorithm.adler32 then .ok (some (HostChecksum.pureAdler32 data))
  else if a = ChecksumAlgorithm.crc32c then
    some <$> pureReflectedCrc32 data (HostChecksum.makeReflectedCrcTable 0x82F63B78)
  else if a = ChecksumAlgorithm.crc32IsoHdlc then
    .ok (some (HostChecksum.pureCrc32IsoHdlc data))
  else .ok none

/-- `compute_checksum` and `compute_v2_checksum` -/
def computeChecksum (a : ChecksumAlgorithm) (data : Bytes) : Except (Raised FrameError) ℕ := do
  let _ ← exceptValueError (.unsupportedChecksum a.toNat)
    (member (checksumAlgorithms.map UInt8.toNat) a.toNat)
  match ← computeChecksumValue a data with
  | none => raise (.unsupportedChecksum a.toNat)
  | some v => return v

/-! ### Payloads and frames -/

section Frames

-- the checks of a control payload
variable (validateControl : Header → Bytes → Check Unit)

/-- `_validate_payload` and `_validate_v2_payload` -/
def validateFramePayload (h : Header) (payload : Bytes) : Except (Raised FrameError) Unit := do
  raiseIf (payload.length ≠ h.payloadLength) .payloadLength
  if h.kind = FrameKind.adcData then raiseIf (adcPayloadCodesValid payload = false) .adcCodes
  else if h.kind = FrameKind.gpioData then return ()
  else translate PayloadError.frameError (validateControl h payload)

/-- `_decode_buffered_frame` and `_decode_buffered_v2_frame` -/
def decodeBufferedFrame (buffer : Bytes) (offset : ℕ) (h : Header) : Except (Raised FrameError) Frame := do
  let payloadStart := offset + kHeaderSize
  let payloadEnd := payloadStart + h.payloadLength
  let observed ← unsigned 4 buffer payloadEnd
  let expected ← computeChecksum h.checksumAlgorithm (slice buffer offset (payloadEnd - offset))
  raiseIf (observed ≠ expected) (.checksumMismatch expected observed)
  let payload := slice buffer payloadStart (payloadEnd - payloadStart)
  validateFramePayload validateControl h payload
  return ⟨h, payload, observed⟩

end Frames

/-- `to_bytes` of a header. -/
def headerToBytes (h : Header) : Except (Raised ε) Bytes :=
  if h.fits then .ok (headerBytes h.wire) else fail .structError

/-- `encode_frame` of version 1. -/
def encodeFrame (a : EncodeArgs) : Except (Raised FrameError) Bytes := do
  let kind ← exceptValueError (.unknownKind a.kind)
    (ofOption .valueError (enumMember v1Rules.frameKinds a.kind))
  let algorithm ← exceptValueError (.unsupportedChecksum (a.checksumAlgorithm.getD 0))
    (ofOption .valueError a.algorithm)
  let flags ← lift (uint "flags" a.flags 16)
  let _ ← lift (uint "run_id" a.runId 32)
  let _ ← lift (uint "sequence" a.sequence 32)
  let _ ← lift (uint "request_id" a.requestId 32)
  let _ ← lift (uint "first_sample_ticks" a.firstSampleTicks 64)
  let _ ← lift (uint "item_count" a.itemCount 32)
  let h := a.header V1.kProtocolVersion kind flags algorithm
  v1Lookups.validateHeader h 0
  validateFramePayload ControlV1.validateControl h a.payload
  let body ← (· ++ a.payload) <$> headerToBytes h
  let trailer ← packExact [4] [((← computeChecksum algorithm body : ℕ) : ℤ)]
  return body ++ trailer

/-! ### The total decoder -/

section Checksums

open HostChecksum (Holds IsTable)

variable {p : ℕ} {table : List (List ℕ)}

theorem index_slice {n : ℕ} {slice : List ℕ} (h : Holds p n slice) {i : ℕ} (hi : i < 256) :
    (index slice i : Except (Raised ε) ℕ) = .ok (slice.getD i 0) := by
  refine index_eq 0 ?_
  rw [h, List.length_map, List.length_range]
  exact hi

section Table

variable {slice0 slice1 slice2 slice3 : List ℕ} (h : IsTable p [slice0, slice1, slice2, slice3])

include h

/-- The remainder stays a 32-bit number, which is what its last index needs. -/
theorem crcWords_eq (words : ℕ) {r : ℕ} (hr : r < 2 ^ 32) {data : Bytes}
    (hlen : 4 * words ≤ data.length) (hp : p < 2 ^ 32) :
    (crcWords slice0 slice1 slice2 slice3 words r data : Except (Raised ε) ℕ) =
      .ok (HostChecksum.wordLoop [slice0, slice1, slice2, slice3] words r data) := by
  induction words generalizing r data with
  | zero => rfl
  | succ words ih =>
    have hword : (data.take 4).length = 4 := by rw [List.length_take]; omega
    have hvalue : leValue (data.take 4) < 2 ^ 32 := by
      have hlt := leValue_lt (data.take 4)
      rwa [hword] at hlt
    have hx : r ^^^ leValue (data.take 4) < 2 ^ 32 := Nat.xor_lt_two_pow hr hvalue
    have htop : (r ^^^ leValue (data.take 4)) >>> 24 < 256 := by
      rw [Nat.shiftRight_eq_div_pow]
      omega
    have hnext := Crc.bits_lt hp 32 hx
    rw [← h.lookup hx] at hnext
    have h0 : Holds p 8 slice0 := h.slice0
    have h1 : Holds p 16 slice1 := h.slice1
    have h2 : Holds p 24 slice2 := h.slice2
    have h3 : Holds p 32 slice3 := h.slice3
    unfold crcWords HostChecksum.wordLoop
    dsimp only
    rw [index_slice h3 (HostChecksum.and_byte_lt _), ok_bind,
      index_slice h2 (HostChecksum.and_byte_lt _), ok_bind,
      index_slice h1 (HostChecksum.and_byte_lt _), ok_bind, index_slice h0 htop, ok_bind]
    exact ih hnext (by rw [List.length_drop]; omega)

theorem crcTail_eq (r : ℕ) (data : Bytes) :
    (crcTail slice0 r data : Except (Raised ε) ℕ) =
      .ok (data.foldl (fun remainder value =>
        (remainder >>> 8) ^^^ slice0.getD ((remainder ^^^ value.toNat) &&& 0xFF) 0) r) := by
  induction data generalizing r with
  | nil => rfl
  | cons d data ih =>
    have h0 : Holds p 8 slice0 := h.slice0
    unfold crcTail
    rw [index_slice h0 (HostChecksum.and_byte_lt _), ok_bind, ih, List.foldl_cons]

end Table

theorem pureReflectedCrc32_eq (hp : p < 2 ^ 32) (data : Bytes) :
    (pureReflectedCrc32 data (HostChecksum.makeReflectedCrcTable p) : Except (Raised ε) ℕ) =
      .ok (HostChecksum.pureReflectedCrc32 data (HostChecksum.makeReflectedCrcTable p)) := by
  have h := HostChecksum.makeReflectedCrcTable_isTable p
  unfold HostChecksum.makeReflectedCrcTable at h ⊢
  unfold pureReflectedCrc32 HostChecksum.pureReflectedCrc32
  dsimp only at h ⊢
  rw [crcWords_eq h _ (by decide) (by omega) hp, ok_bind, crcTail_eq h, ok_bind]
  rfl

theorem computeChecksumValue_eq (a : ChecksumAlgorithm) (data : Bytes) :
    (computeChecksumValue a data : Except (Raised ε) (Option ℕ)) =
      .ok (Host.computeChecksumValue a data) := by
  unfold computeChecksumValue Host.computeChecksumValue
  rw [pureReflectedCrc32_eq (by decide)]
  split_ifs <;> rfl

theorem computeChecksum_eq (a : ChecksumAlgorithm) (data : Bytes) :
    computeChecksum a data = lift (Host.computeChecksum a data) := by
  unfold computeChecksum Host.computeChecksum
  rw [computeChecksumValue_eq, exceptValueError_member, bind_assoc]
  simp only [pure_bind, ok_bind]
  by_cases hmem : a.toNat ∈ checksumAlgorithms.map UInt8.toNat
  · rw [raiseIf_of_not (not_not_intro hmem), ok_bind]
    cases Host.computeChecksumValue a data <;> rfl
  · -- what is no member has no value either
    have hnone : Host.computeChecksumValue a data = none := by
      unfold Host.computeChecksumValue
      rw [if_neg, if_neg, if_neg]
      all_goals
        rintro rfl
        exact hmem (by decide)
    rw [hnone]
    simp only [raiseIf, hmem, not_false_eq_true, if_true]
    rfl

end Checksums

section Bodies

variable {validate : Header → Bytes → Check Unit} {h : Header}

/-- A check whose built-in exceptions are validation errors as well. -/
def checked (x : Check Unit) : Except FrameError Unit :=
  (strip x (.rejected "")).mapError PayloadError.frameError

theorem checked_eq {x : Check Unit} {Q : Unit → Prop} (hx : Safe x Q) :
    translate PayloadError.frameError x = lift (checked x) := by
  cases x with
  | ok u => rfl
  | error r =>
    cases r with
    | own e => rfl
    | builtin b => exact hx.elim

/-- The checks of a version as those of the total decoders. -/
def control (validate : Header → Bytes → Check Unit) : ControlCheck where
  check := fun h payload => checked (validate h payload)
  caught := by
    intro h payload hforeign
    unfold checked at hforeign
    cases hx : strip (validate h payload) (.rejected "") with
    | ok u =>
      rw [hx] at hforeign
      cases hforeign
    | error e =>
      rw [hx] at hforeign
      cases e <;> cases hforeign

/-- Control payloads of the declared length raise no built-in exception. -/
def Robust (validate : Header → Bytes → Check Unit) (h : Header) : Prop :=
  ∀ payload : Bytes, payload.length = h.payloadLength → isDataKind h.kind = false →
    Safe (validate h payload) fun _ => True

theorem validateFramePayload_eq (hrobust : Robust validate h) (payload : Bytes) :
    validateFramePayload validate h payload =
      lift (Host.validateFramePayload (control validate).check h payload) := by
  unfold validateFramePayload Host.validateFramePayload
  rw [lift_check]
  refine raiseIf_bind_congr Iff.rfl fun hlen => ?_
  by_cases hadc : h.kind = FrameKind.adcData
  · rw [if_pos hadc, if_pos hadc]
    cases adcPayloadCodesValid payload <;> rfl
  by_cases hgpio : h.kind = FrameKind.gpioData
  · rw [if_neg hadc, if_pos hgpio, if_neg hadc, if_pos hgpio]
    rfl
  rw [if_neg hadc, if_neg hgpio, if_neg hadc, if_neg hgpio]
  exact checked_eq (hrobust payload (not_not.mp hlen) (by simp [isDataKind, hadc, hgpio]))

/-- The frame is complete in the buffer. -/
theorem decodeBufferedFrame_eq (hrobust : Robust validate h) {buffer : Bytes} {offset : ℕ}
    (hroom : offset + kHeaderSize + h.payloadLength + kTrailerSize ≤ buffer.length) :
    decodeBufferedFrame validate buffer offset h =
      lift (Host.decodeBufferedFrame (control validate).check buffer offset h) := by
  unfold decodeBufferedFrame Host.decodeBufferedFrame
  dsimp only
  rw [unsigned_eq hroom, ok_bind, computeChecksum_eq]
  cases Host.computeChecksum h.checksumAlgorithm
    (slice buffer offset (offset + kHeaderSize + h.payloadLength - offset)) with
  | error e => rfl
  | ok expected =>
    rw [lift_ok, ok_bind]
    dsimp only
    rw [lift_check]
    refine raiseIf_bind_congr Iff.rfl fun _ => ?_
    rw [validateFramePayload_eq hrobust]
    cases Host.validateFramePayload (control validate).check h (slice buffer (offset + kHeaderSize)
      (offset + kHeaderSize + h.payloadLength - (offset + kHeaderSize))) <;> rfl

end Bodies

/-! ### The encoder of version 1 -/

theorem within_uint {P : Builtin → Prop} {name : String} {v : ℤ} {bits : ℕ} :
    Within P (lift (uint name v bits)) fun w => w = v ∧ 0 ≤ v ∧ v < 2 ^ bits := by
  refine within_lift fun w h => ?_
  unfold uint at h
  split at h
  · rename_i hrange
    cases h
    exact ⟨rfl, hrange⟩
  · cases h

/-- Under a `try` for `ValueError` an enumeration may be asked for any number. -/
theorem within_exceptValueError_ofOption {P : Builtin → Prop} {α : Type} {e : FrameError}
    {o : Option α} :
    Within P (exceptValueError e (ofOption .valueError o)) fun a => o = some a := by
  rw [within_exceptValueError, within_ofOption]
  exact ⟨fun _ h => h, fun _ h => by cases h⟩

theorem robust_v1 {h : Header} {reserved : UInt8} (hvalid : v1Rules.validateHeader h reserved = .ok ())
    (hkind : h.kind ∈ v1Rules.frameKinds) : Robust ControlV1.validateControl h :=
  fun _ hlen hdata => ControlV1.safe_validateControl hvalid hkind hdata hlen

/-- The header fits once it was checked, and a checksum has 32 bits. -/
theorem safe_encodeFrame (a : EncodeArgs) : Safe (encodeFrame a) fun _ => True := by
  unfold encodeFrame
  refine within_exceptValueError_ofOption.bind fun kind hkind => ?_
  refine within_exceptValueError_ofOption.bind fun algorithm _ => ?_
  refine within_uint.bind fun flags hflags => ?_
  obtain ⟨rfl, hflags⟩ := hflags
  refine within_uint.bind fun _ hrun => within_uint.bind fun _ hsequence => ?_
  refine within_uint.bind fun _ hrequest => within_uint.bind fun _ hticks => ?_
  refine within_uint.bind fun _ hcount => ?_
  generalize hheader : a.header V1.kProtocolVersion kind a.flags algorithm = h
  have hkinds : h.kind ∈ v1Rules.frameKinds := by
    rw [← hheader]
    exact List.contains_iff_mem.mp (enumMember_some hkind).1
  dsimp only
  rw [v1Lookups.validateHeader_eq v1Lookups_agrees hkinds]
  refine Within.bind (R := fun _ => v1Rules.validateHeader h 0 = .ok ()) (within_lift fun _ hv => hv) ?_
  intro _ hvalid
  rw [validateFramePayload_eq (robust_v1 hvalid hkinds)]
  refine safe_lift.next fun _ => ?_
  have htotal := v1Valid_total_le hvalid
  have hfits : h.fits := by
    subst hheader
    unfold EncodeArgs.header at htotal ⊢
    dsimp only at htotal
    refine ⟨hflags, ?_, ?_, ?_, hrun.2, hsequence.2, hrequest.2, hticks.2, hcount.2⟩
    · change kHeaderSize < 2 ^ 16
      decide
    · exact Nat.lt_of_le_of_lt htotal (by decide)
    · change a.payload.length < 2 ^ 32
      omega
  unfold headerToBytes
  rw [if_pos hfits]
  change Safe (computeChecksum algorithm (headerBytes h.wire ++ a.payload) >>= _) _
  rw [computeChecksum_eq]
  refine Within.bind (within_lift fun v hv => computeChecksum_lt hv) fun v hv => ?_
  have hpack : pack [4] [(v : ℤ)] = some (leBytes 4 v ++ []) := by
    unfold pack
    rw [if_pos ⟨Int.natCast_nonneg v, by exact_mod_cast hv⟩]
    rfl
  unfold packExact
  rw [hpack]
  exact True.intro

end ThingDaq.Host.Raising
