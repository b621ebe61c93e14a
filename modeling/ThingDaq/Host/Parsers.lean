import ThingDaq.Host.Incremental

/-!
# The parsers of the host

The parser of each wire version (`protocol.py`, `protocol_v2.py`, `protocol_v3.py`) and
`IncrementalCompatibleFrameParser`, which reads frames of several versions from one
stream and goes by the version byte of each.

The check of a control payload is a parameter again; in the versions' modules it raises
nothing but their validation errors, which `ControlCheck` records.

## Main results

* `parsers_chunking` — how a stream is cut makes no difference.
* `parsers_greedy` — the frames are those of the search from left to right.
-/

namespace ThingDaq.Host

open Wire Framing

/-- `MAGIC_BYTES` -/
def magicBytes : Bytes := leBytes 4 kMagic

/-- Which `except` clause an error meets. -/
def FrameError.errorClass : FrameError → Option ErrorClass
  | .foreign => none
  | .checksumMismatch _ _ => some .checksum
  | _ => some .validation

def V3Error.errorClass : V3Error → Option ErrorClass
  | .checksumMismatch _ _ => some .checksum
  | _ => some .validation

/-- A check of control payloads that raises validation errors only. -/
structure ControlCheck where
  check : Header → Bytes → Except FrameError Unit
  caught : ∀ {h payload}, check h payload ≠ .error .foreign

/-! ### One version -/

/-- `IncrementalFrameParser` -/
def incrementalFrameParser (control : ControlCheck) : Framer FrameError Header Frame where
  magicBytes := magicBytes
  headerSize := kHeaderSize
  maxFrameBytes := max kDataFrameBytes v1Rules.maxControlFrameBytes
  decodeHeader := decodeHeader
  totalLength := Header.totalLength
  decodeFrame := decodeBufferedFrame control.check
  errorClass := FrameError.errorClass

/-- `IncrementalV2FrameParser` -/
def incrementalV2FrameParser (control : ControlCheck) : Framer FrameError Header Frame where
  magicBytes := magicBytes
  headerSize := kHeaderSize
  maxFrameBytes := max kDataFrameBytes v2Rules.maxControlFrameBytes
  decodeHeader := decodeV2Header
  totalLength := Header.totalLength
  decodeFrame := decodeBufferedFrame control.check
  errorClass := FrameError.errorClass

/-- `V3FrameParser` -/
def v3FrameParser (control : FrameHeader → Bytes → Except V3Error Unit) :
    Framer V3Error FrameHeader V3Frame where
  magicBytes := magicBytes
  headerSize := kHeaderSize
  maxFrameBytes := maxDataFrameBytes
  decodeHeader := fun b o => decodeV3Header (b.drop o)
  totalLength := fun h => h.totalLength.toNat
  decodeFrame := decodeBufferedV3FrameAt (controlOf control)
  errorClass := V3Error.errorClass

/-! ### Several versions -/

/-- `CompatibleFrameHeader` -/
inductive CompatibleHeader
  | v1 (h : Header)
  | v2 (h : Header)
  | v3 (h : FrameHeader)

def CompatibleHeader.totalLength : CompatibleHeader → ℕ
  | .v1 h => h.totalLength
  | .v2 h => h.totalLength
  | .v3 h => h.totalLength.toNat

/-- `CompatibleFrame` -/
inductive CompatibleFrame
  | v1 (f : Frame)
  | v2 (f : Frame)
  | v3 (f : V3Frame)

/-- An error of version 2, with the one of another version it was made from. -/
inductive CompatibleError
  | noVersion
  | unsupportedVersion (version : UInt8)
  | v1 (e : FrameError)
  | v2 (e : FrameError)
  | v3 (e : V3Error)

def CompatibleError.errorClass : CompatibleError → Option ErrorClass
  | .noVersion => some .validation
  | .unsupportedVersion _ => some .validation
  | .v1 e => e.errorClass
  | .v2 e => e.errorClass
  | .v3 e => e.errorClass

/-- `_decode_compatible_header` -/
def decodeCompatibleHeader (includeV3 : Bool) (data : Bytes) (offset : ℕ) :
    Except CompatibleError CompatibleHeader :=
  if data.length - offset ≤ 4 then .error .noVersion
  else
    let version := byteAt data (offset + 4)
    if includeV3 && version = V3.kProtocolVersion then
      ((decodeV3Header (data.drop offset)).mapError .v3).map .v3
    else if version = V2.kProtocolVersion then
      ((decodeV2Header data offset).mapError .v2).map .v2
    else if version = V1.kProtocolVersion then
      ((decodeHeader data offset).mapError .v1).map .v1
    else .error (.unsupportedVersion version)

section Compatible

variable (control₁ control₂ : ControlCheck) (control₃ : FrameHeader → Bytes → Except V3Error Unit)

/-- `_decode_buffered_compatible_frame` -/
def decodeBufferedCompatibleFrame (buffer : Bytes) (offset : ℕ) :
    CompatibleHeader → Except CompatibleError CompatibleFrame
  | .v3 h => ((decodeBufferedV3FrameAt (controlOf control₃) buffer offset h).mapError .v3).map .v3
  | .v2 h => ((decodeBufferedFrame control₂.check buffer offset h).mapError .v2).map .v2
  | .v1 h => ((decodeBufferedFrame control₁.check buffer offset h).mapError .v1).map .v1

/-- `IncrementalCompatibleFrameParser` -/
def incrementalCompatibleFrameParser (includeV3 : Bool) :
    Framer CompatibleError CompatibleHeader CompatibleFrame where
  magicBytes := magicBytes
  headerSize := kHeaderSize
  maxFrameBytes :=
    let maxV2 := max kDataFrameBytes v2Rules.maxControlFrameBytes
    if includeV3 then max maxV2 maxDataFrameBytes else maxV2
  decodeHeader := decodeCompatibleHeader includeV3
  totalLength := CompatibleHeader.totalLength
  decodeFrame := decodeBufferedCompatibleFrame control₁ control₂ control₃
  errorClass := CompatibleError.errorClass

/-- The strict decoder of the version that a byte string says it has. -/
def decodeOfVersion (includeV3 : Bool) (data : Bytes) : Except CompatibleError CompatibleFrame :=
  let version := byteAt data 4
  if includeV3 && version = V3.kProtocolVersion then
    ((decodeV3Frame (controlOf control₃) data).mapError .v3).map .v3
  else if version = V2.kProtocolVersion then
    ((decodeV2Frame control₂.check data).mapError .v2).map .v2
  else if version = V1.kProtocolVersion then
    ((decodeFrame control₁.check data).mapError .v1).map .v1
  else .error (.unsupportedVersion version)

end Compatible

/-- The length that the bytes of a header declare. -/
def declaredLength (b : Bytes) : ℕ := (loadHeader b).totalLength.toNat

/-! ### What is raised is caught -/

section Caught

variable {r : Rules} {h : Header}

theorem errorClass_ne_none {e : FrameError} (he : e ≠ .foreign) : e.errorClass ≠ none := by
  cases e <;> first | exact absurd rfl he | exact fun h => by cases h

theorem V3Error.errorClass_ne_none (e : V3Error) : e.errorClass ≠ none := by
  cases e <;> exact fun h => by cases h

theorem ite_ne {α ε : Type} {c : Prop} [Decidable c] {e e' : ε} {x : Except ε α} (he : e ≠ e')
    (hx : x ≠ .error e') : (if c then .error e else x) ≠ .error e' := by
  split
  · exact fun h => he (Except.error.inj h)
  · exact hx

theorem error_ne {α β ε : Type} {x : Except ε α} {e e' : ε} (hx : x ≠ .error e')
    (he : x = .error e) : (.error e : Except ε β) ≠ .error e' := by
  intro h
  cases h
  exact hx he

theorem unpackHeader_caught (data : Bytes) (offset : ℕ) :
    r.unpackHeader data offset ≠ .error .foreign := by
  unfold Rules.unpackHeader
  repeat refine ite_ne (by simp) ?_
  exact fun h => by cases h

theorem checkControl_caught : r.checkControl h ≠ .error .foreign := by
  unfold Rules.checkControl
  repeat refine ite_ne (by simp) ?_
  exact fun h => by cases h

theorem checkEpoch_caught : Rules.checkEpoch h ≠ .error .foreign := by
  unfold Rules.checkEpoch
  refine ite_ne (by simp) ?_
  exact fun h => by cases h

theorem validateHeader_caught (hdata : r.checkData h ≠ .error .foreign)
    (hsum : ∀ a, r.controlChecksum a ≠ .foreign) (reserved : UInt8) :
    r.validateHeader h reserved ≠ .error .foreign := by
  unfold Rules.validateHeader
  refine ite_ne (by simp) (ite_ne (by simp) (ite_ne (by simp) (ite_ne (hsum _) ?_)))
  refine ite_ne (by simp) (ite_ne (by simp) (ite_ne (by simp) ?_))
  split
  · split
    · rename_i e he
      exact error_ne hdata he
    · exact checkEpoch_caught
  · exact checkControl_caught

theorem decodeHeader_caught (data : Bytes) (offset : ℕ) :
    decodeHeader data offset ≠ .error .foreign := by
  unfold decodeHeader
  split
  · rename_i e he
    exact error_ne (unpackHeader_caught data offset) he
  · rename_i h reserved hunpack
    have hdata : v1Rules.checkData h ≠ .error .foreign := by
      change checkV1Data h ≠ _
      unfold checkV1Data
      repeat refine ite_ne (by simp) ?_
      exact fun h => by cases h
    split
    · rename_i e he
      exact error_ne (validateHeader_caught hdata (fun _ h => by cases h) reserved) he
    · exact fun h => by cases h

theorem decodeV2Header_caught (data : Bytes) (offset : ℕ) :
    decodeV2Header data offset ≠ .error .foreign := by
  unfold decodeV2Header
  split
  · rename_i e he
    exact error_ne (unpackHeader_caught data offset) he
  · rename_i h reserved hunpack
    have hdata : v2Rules.checkData h ≠ .error .foreign := by
      change checkV2Data h ≠ _
      unfold checkV2Data
      repeat refine ite_ne (by simp) ?_
      exact fun h => by cases h
    refine ite_ne (by simp) ?_
    split
    · rename_i e he
      exact error_ne (validateHeader_caught hdata (fun _ h => by cases h) 0) he
    · exact fun h => by cases h

theorem decodeBufferedFrame_caught (control : ControlCheck) (buffer : Bytes) (offset : ℕ)
    (h : Header) : decodeBufferedFrame control.check buffer offset h ≠ .error .foreign := by
  unfold decodeBufferedFrame
  dsimp only
  split
  · rename_i e he
    unfold computeChecksum at he
    split at he
    · cases he
      exact fun h => by cases h
    · cases he
  · refine ite_ne (by simp) ?_
    split
    · rename_i e he
      rintro hforeign
      cases hforeign
      unfold validateFramePayload at he
      split at he
      · cases he
      · split at he
        · split at he <;> cases he
        · split at he
          · cases he
          · exact control.caught he
    · exact fun h => by cases h

end Caught

/-! ### Headers in a buffer -/

theorem magicBytes_headerBytes (w : FrameHeader) : magicBytes <+: headerBytes w := by
  unfold headerBytes
  simp only [List.append_assoc]
  exact List.prefix_append _ _

section Front

variable {b : Bytes} {w : FrameHeader} (hw : b.take 44 = headerBytes w)

include hw

theorem magic_of_header : magicBytes <+: b :=
  (magicBytes_headerBytes w).trans (hw ▸ List.take_prefix 44 b)

theorem loadHeader_of_header : loadHeader b = w := by
  have hb : b = headerBytes w ++ b.drop 44 := by rw [← hw, List.take_append_drop]
  rw [hb, loadHeader_headerBytes]

theorem version_of_header : byteAt b 4 = w.version := by
  have hb : b = headerBytes w ++ b.drop 44 := by rw [← hw, List.take_append_drop]
  rw [hb, byteAt_version]

end Front

theorem byteAt_drop (b : Bytes) (o i : ℕ) : byteAt (b.drop o) i = byteAt b (o + i) := by
  unfold byteAt
  rw [List.getD_eq_getElem?_getD, List.getD_eq_getElem?_getD, List.getElem?_drop]

theorem wire_totalLength {h : Header} (hf : h.fits) : h.wire.totalLength.toNat = h.totalLength :=
  UInt32.toNat_ofNat_of_lt' hf.2.2.1

theorem v1Valid_total_le {h : Header} {reserved : UInt8}
    (hvalid : v1Rules.validateHeader h reserved = .ok ()) : h.totalLength ≤ 4096 := by
  unfold Rules.validateHeader at hvalid
  simp only [Framing.ite_error_eq_ok] at hvalid
  obtain ⟨-, -, -, -, -, -, -, hvalid⟩ := hvalid
  split at hvalid
  · split at hvalid
    · cases hvalid
    · rename_i hdata
      change checkV1Data h = .ok () at hdata
      unfold checkV1Data at hdata
      simp only [Framing.ite_error_eq_ok, not_or, not_not] at hdata
      exact Nat.le_of_eq hdata.1.1
  · unfold Rules.checkControl at hvalid
    simp only [Framing.ite_error_eq_ok, not_or, Nat.not_lt] at hvalid
    have hle : h.totalLength ≤ 1280 := hvalid.1.2
    omega

theorem v1Accepts_total_le {h : Header} (hacc : v1Rules.Accepts h) : h.totalLength ≤ 4096 :=
  v1Valid_total_le hacc.valid

theorem v2Accepts_total_le {h : Header} (hacc : v2Rules.Accepts h) : h.totalLength ≤ 4096 := by
  have hvalid := hacc.valid
  unfold Rules.validateHeader at hvalid
  simp only [Framing.ite_error_eq_ok] at hvalid
  obtain ⟨-, -, -, -, -, -, -, hvalid⟩ := hvalid
  split at hvalid
  · split at hvalid
    · cases hvalid
    · rename_i hdata
      change checkV2Data h = .ok () at hdata
      unfold checkV2Data at hdata
      simp only [Framing.ite_error_eq_ok, not_not] at hdata
      obtain ⟨hshape, -⟩ := hdata
      unfold v2DataShapes at hshape
      split at hshape <;> simp at hshape <;> omega
  · unfold Rules.checkControl at hvalid
    simp only [Framing.ite_error_eq_ok, not_or, Nat.not_lt] at hvalid
    have hle : h.totalLength ≤ 1536 := hvalid.1.2
    omega

/-! ### The formats -/

/-- The frames of version 1 or 2 in a stream. -/
def frameSync (control : ControlCheck) (header : Bytes → ℕ → Except FrameError Header) (r : Rules)
    (hok : ∀ {data h}, header data 0 = .ok h ↔
      kHeaderSize ≤ data.length ∧ r.Accepts h ∧ data.take 44 = headerBytes h.wire) :
    Sync UInt8 FrameError Header Frame where
  toFormat := frameFormat control.check header
  magic := magicBytes
  magic_ne := by decide
  magic_le := by change 4 ≤ 44; decide
  isLocal := frameFormat_local hok
  header_magic := fun hh => magic_of_header (hok.mp hh).2.2

def v1Sync (control : ControlCheck) : Sync UInt8 FrameError Header Frame :=
  frameSync control decodeHeader v1Rules decodeHeader_ok

def v2Sync (control : ControlCheck) : Sync UInt8 FrameError Header Frame :=
  frameSync control decodeV2Header v2Rules decodeV2Header_ok

def v3Sync (control : FrameHeader → Bytes → Except V3Error Unit) :
    Sync UInt8 V3Error FrameHeader V3Frame where
  toFormat := v3Format control
  magic := magicBytes
  magic_ne := by decide
  magic_le := by change 4 ≤ 44; decide
  isLocal := v3Format_local
  header_magic := fun hh => magic_of_header (decodeV3Header_ok.mp hh).2.2

section Formats

variable (control : ControlCheck) (control₃ : FrameHeader → Bytes → Except V3Error Unit)

theorem v1_follows : (incrementalFrameParser control).Follows (v1Sync control) where
  magicBytes := rfl
  headerSize := rfl
  totalLength := rfl
  decodeHeader := fun _ _ => rfl
  decodeFrame := fun b o h => decodeBufferedFrame_drop b o h
  header_caught := fun he =>
    errorClass_ne_none fun hf => decodeHeader_caught _ 0 (hf ▸ he)
  body_caught := fun he =>
    errorClass_ne_none fun hf => decodeBufferedFrame_caught control _ 0 _ (hf ▸ he)
  headerSize_le := by change 44 ≤ 4096; decide
  size_le := fun hh => v1Accepts_total_le (decodeHeader_ok.mp hh).2.1

theorem v2_follows : (incrementalV2FrameParser control).Follows (v2Sync control) where
  magicBytes := rfl
  headerSize := rfl
  totalLength := rfl
  decodeHeader := fun _ _ => rfl
  decodeFrame := fun b o h => decodeBufferedFrame_drop b o h
  header_caught := fun he =>
    errorClass_ne_none fun hf => decodeV2Header_caught _ 0 (hf ▸ he)
  body_caught := fun he =>
    errorClass_ne_none fun hf => decodeBufferedFrame_caught control _ 0 _ (hf ▸ he)
  headerSize_le := by change 44 ≤ 4096; decide
  size_le := fun hh => v2Accepts_total_le (decodeV2Header_ok.mp hh).2.1

theorem v3_follows : (v3FrameParser control₃).Follows (v3Sync control₃) where
  magicBytes := rfl
  headerSize := rfl
  totalLength := rfl
  decodeHeader := fun _ _ => rfl
  decodeFrame := fun _ _ _ => rfl
  header_caught := fun _ => V3Error.errorClass_ne_none _
  body_caught := fun _ => V3Error.errorClass_ne_none _
  headerSize_le := by change 44 ≤ 4108; decide
  size_le := fun hh => (decodeV3Header_ok.mp hh).2.1.total_le

/-! ### Their strict decoders -/

theorem frame_strict {header : Bytes → ℕ → Except FrameError Header} {r : Rules}
    (hok : ∀ {data h}, header data 0 = .ok h ↔
      kHeaderSize ≤ data.length ∧ r.Accepts h ∧ data.take 44 = headerBytes h.wire) :
    (frameSync control header r hok).Strict declaredLength (fun data =>
      match header data 0 with
      | .error e => .error e
      | .ok h => decodeWholeFrame control.check data h) where
  declared_eq := by
    intro b h hh
    obtain ⟨-, hacc, hbytes⟩ := hok.mp hh
    unfold declaredLength
    rw [loadHeader_of_header hbytes, wire_totalLength hacc.fits]
    rfl
  decode_ok := by
    intro b f
    exact (iff_of_eq (congrArg (· = Except.ok f) (strict_eq b))).trans Format.strict_ok

theorem v1_strict : (v1Sync control).Strict declaredLength (decodeFrame control.check) :=
  frame_strict control decodeHeader_ok

theorem v2_strict : (v2Sync control).Strict declaredLength (decodeV2Frame control.check) :=
  frame_strict control decodeV2Header_ok

theorem v3_strict : (v3Sync control₃).Strict declaredLength (decodeV3Frame (controlOf control₃)) where
  declared_eq := by
    intro b h hh
    obtain ⟨-, hacc, hbytes⟩ := decodeV3Header_ok.mp hh
    unfold declaredLength
    rw [loadHeader_of_header hbytes]
    rfl
  decode_ok := by
    intro b f
    rw [decodeV3Frame_ok, ← v3Framed_iff]
    constructor
    · rintro ⟨hh, hlen, hbody⟩
      exact ⟨f.header, hh, hlen, hbody⟩
    · rintro ⟨h, hh, hlen, hbody⟩
      obtain ⟨hheader, -⟩ := decodeBufferedV3Frame_ok.mp hbody
      subst hheader
      exact ⟨hh, hlen, hbody⟩

end Formats

/-! ### Several versions in one stream -/

theorem map_mapError_ok {α β ε ε' : Type} {x : Except ε α} {f : ε → ε'} {g : α → β} {y : β} :
    ((x.mapError f).map g) = .ok y ↔ ∃ a, x = .ok a ∧ g a = y := by
  cases x with
  | error e => exact ⟨fun h => (by cases h), fun ⟨_, h, _⟩ => (by cases h)⟩
  | ok a =>
    constructor
    · intro h
      exact ⟨a, rfl, Except.ok.inj h⟩
    · rintro ⟨a', ha, rfl⟩
      cases ha
      rfl

theorem map_mapError_error {α β ε ε' : Type} {x : Except ε α} {f : ε → ε'} {g : α → β} {e' : ε'}
    (h : ((x.mapError f).map g) = .error e') : ∃ e, x = .error e ∧ f e = e' := by
  cases x with
  | error e => exact ⟨e, rfl, Except.error.inj h⟩
  | ok a => cases h

/-- A header of the version that it says it has. -/
theorem decodeCompatibleHeader_ok {includeV3 : Bool} {b : Bytes} {h : CompatibleHeader} :
    decodeCompatibleHeader includeV3 b 0 = .ok h ↔
      match h with
      | .v1 h => decodeHeader b 0 = .ok h
      | .v2 h => decodeV2Header b 0 = .ok h
      | .v3 h => includeV3 = true ∧ decodeV3Header b = .ok h := by
  unfold decodeCompatibleHeader
  dsimp only
  rw [Framing.ite_error_eq_ok, Nat.sub_zero, Nat.zero_add, List.drop_zero]
  constructor
  · rintro ⟨-, hok⟩
    split at hok
    · rename_i hv3
      obtain ⟨h', hh', rfl⟩ := map_mapError_ok.mp hok
      exact ⟨(Bool.and_eq_true _ _ ▸ hv3).1, hh'⟩
    · split at hok
      · obtain ⟨h', hh', rfl⟩ := map_mapError_ok.mp hok
        exact hh'
      · split at hok
        · obtain ⟨h', hh', rfl⟩ := map_mapError_ok.mp hok
          exact hh'
        · cases hok
  · intro hh
    cases h with
    | v1 h =>
      obtain ⟨hlen, hacc, hbytes⟩ := decodeHeader_ok.mp hh
      have hversion : byteAt b 4 = 1 := (version_of_header hbytes).trans hacc.version
      change 44 ≤ b.length at hlen
      refine ⟨by omega, ?_⟩
      rw [hversion, if_neg (by cases includeV3 <;> decide), if_neg (by decide), if_pos rfl]
      exact map_mapError_ok.mpr ⟨h, hh, rfl⟩
    | v2 h =>
      obtain ⟨hlen, hacc, hbytes⟩ := decodeV2Header_ok.mp hh
      have hversion : byteAt b 4 = 2 := (version_of_header hbytes).trans hacc.version
      change 44 ≤ b.length at hlen
      refine ⟨by omega, ?_⟩
      rw [hversion, if_neg (by cases includeV3 <;> decide), if_pos rfl]
      exact map_mapError_ok.mpr ⟨h, hh, rfl⟩
    | v3 h =>
      obtain ⟨hinclude, hh⟩ := hh
      obtain ⟨hlen, hacc, hbytes⟩ := decodeV3Header_ok.mp hh
      have hversion : byteAt b 4 = 3 := (version_of_header hbytes).trans hacc.version
      change 44 ≤ b.length at hlen
      refine ⟨by omega, ?_⟩
      rw [hversion, hinclude, if_pos (by simp)]
      exact map_mapError_ok.mpr ⟨h, hh, rfl⟩

section Several

variable (control₁ control₂ : ControlCheck) (control₃ : FrameHeader → Bytes → Except V3Error Unit)
  (includeV3 : Bool)

def compatibleFormat : Format UInt8 CompatibleError CompatibleHeader CompatibleFrame where
  headerSize := kHeaderSize
  decodeHeader := fun b => decodeCompatibleHeader includeV3 b 0
  size := CompatibleHeader.totalLength
  decodeBody := fun b h => decodeBufferedCompatibleFrame control₁ control₂ control₃ b 0 h

theorem compatibleFormat_local :
    (compatibleFormat control₁ control₂ control₃ includeV3).Local where
  header_take := by
    intro b h n hn
    change decodeCompatibleHeader includeV3 (b.take n) 0 = .ok h ↔
      decodeCompatibleHeader includeV3 b 0 = .ok h
    rw [decodeCompatibleHeader_ok, decodeCompatibleHeader_ok]
    cases h with
    | v1 h => exact (v1Sync control₁).isLocal.header_take hn
    | v2 h => exact (v2Sync control₂).isLocal.header_take hn
    | v3 h => exact and_congr_right fun _ => (v3Sync control₃).isLocal.header_take hn
  header_length := by
    intro b h hh
    replace hh := decodeCompatibleHeader_ok.mp hh
    cases h with
    | v1 h => exact (v1Sync control₁).isLocal.header_length hh
    | v2 h => exact (v2Sync control₂).isLocal.header_length hh
    | v3 h => exact (v3Sync control₃).isLocal.header_length hh.2
  headerSize_le := by
    intro b h hh
    replace hh := decodeCompatibleHeader_ok.mp hh
    cases h with
    | v1 h => exact (v1Sync control₁).isLocal.headerSize_le hh
    | v2 h => exact (v2Sync control₂).isLocal.headerSize_le hh
    | v3 h => exact (v3Sync control₃).isLocal.headerSize_le hh.2
  body_take := by
    intro b h n hh hn
    replace hh := decodeCompatibleHeader_ok.mp hh
    cases h with
    | v1 h =>
      have hbody := (v1Sync control₁).isLocal.body_take hh hn
      exact congrArg (fun x => (x.mapError CompatibleError.v1).map CompatibleFrame.v1) hbody
    | v2 h =>
      have hbody := (v2Sync control₂).isLocal.body_take hh hn
      exact congrArg (fun x => (x.mapError CompatibleError.v2).map CompatibleFrame.v2) hbody
    | v3 h =>
      have hbody := (v3Sync control₃).isLocal.body_take hh.2 hn
      exact congrArg (fun x => (x.mapError CompatibleError.v3).map CompatibleFrame.v3) hbody

theorem compatible_magic {b : Bytes} {h : CompatibleHeader}
    (hh : decodeCompatibleHeader includeV3 b 0 = .ok h) : magicBytes <+: b := by
  replace hh := decodeCompatibleHeader_ok.mp hh
  cases h with
  | v1 h => exact magic_of_header (decodeHeader_ok.mp hh).2.2
  | v2 h => exact magic_of_header (decodeV2Header_ok.mp hh).2.2
  | v3 h => exact magic_of_header (decodeV3Header_ok.mp hh.2).2.2

def compatibleSync : Sync UInt8 CompatibleError CompatibleHeader CompatibleFrame where
  toFormat := compatibleFormat control₁ control₂ control₃ includeV3
  magic := magicBytes
  magic_ne := by decide
  magic_le := by change 4 ≤ 44; decide
  isLocal := compatibleFormat_local control₁ control₂ control₃ includeV3
  header_magic := fun hh => compatible_magic includeV3 hh

theorem decodeCompatibleHeader_drop (b : Bytes) (o : ℕ) :
    decodeCompatibleHeader includeV3 b o = decodeCompatibleHeader includeV3 (b.drop o) 0 := by
  unfold decodeCompatibleHeader
  rw [List.length_drop, Nat.sub_zero, Nat.zero_add, byteAt_drop, List.drop_zero]
  rfl

theorem decodeBufferedCompatibleFrame_drop (b : Bytes) (o : ℕ) (h : CompatibleHeader) :
    decodeBufferedCompatibleFrame control₁ control₂ control₃ b o h =
      decodeBufferedCompatibleFrame control₁ control₂ control₃ (b.drop o) 0 h := by
  cases h with
  | v1 h =>
    exact congrArg (fun x => (x.mapError CompatibleError.v1).map CompatibleFrame.v1)
      (decodeBufferedFrame_drop b o h)
  | v2 h =>
    exact congrArg (fun x => (x.mapError CompatibleError.v2).map CompatibleFrame.v2)
      (decodeBufferedFrame_drop b o h)
  | v3 h => rfl

theorem decodeCompatibleHeader_caught {b : Bytes} {e : CompatibleError}
    (he : decodeCompatibleHeader includeV3 b 0 = .error e) : e.errorClass ≠ none := by
  unfold decodeCompatibleHeader at he
  dsimp only at he
  split at he
  · cases he
    exact fun h => by cases h
  · split at he
    · obtain ⟨e', -, rfl⟩ := map_mapError_error he
      exact V3Error.errorClass_ne_none e'
    · split at he
      · obtain ⟨e', he', rfl⟩ := map_mapError_error he
        exact errorClass_ne_none fun hf => decodeV2Header_caught b 0 (hf ▸ he')
      · split at he
        · obtain ⟨e', he', rfl⟩ := map_mapError_error he
          exact errorClass_ne_none fun hf => decodeHeader_caught b 0 (hf ▸ he')
        · cases he
          exact fun h => by cases h

theorem decodeBufferedCompatibleFrame_caught {b : Bytes} {h : CompatibleHeader}
    {e : CompatibleError}
    (he : decodeBufferedCompatibleFrame control₁ control₂ control₃ b 0 h = .error e) :
    e.errorClass ≠ none := by
  cases h with
  | v1 h =>
    obtain ⟨e', he', rfl⟩ := map_mapError_error he
    exact errorClass_ne_none fun hf => decodeBufferedFrame_caught control₁ b 0 h (hf ▸ he')
  | v2 h =>
    obtain ⟨e', he', rfl⟩ := map_mapError_error he
    exact errorClass_ne_none fun hf => decodeBufferedFrame_caught control₂ b 0 h (hf ▸ he')
  | v3 h =>
    obtain ⟨e', -, rfl⟩ := map_mapError_error he
    exact V3Error.errorClass_ne_none e'

theorem le_compatibleMaxFrameBytes :
    4096 ≤ (incrementalCompatibleFrameParser control₁ control₂ control₃ includeV3).maxFrameBytes := by
  cases includeV3 with
  | false => change 4096 ≤ max 4096 1536; decide
  | true => change 4096 ≤ max (max 4096 1536) 4108; decide

theorem compatible_follows :
    (incrementalCompatibleFrameParser control₁ control₂ control₃ includeV3).Follows
      (compatibleSync control₁ control₂ control₃ includeV3) where
  magicBytes := rfl
  headerSize := rfl
  totalLength := rfl
  decodeHeader := decodeCompatibleHeader_drop includeV3
  decodeFrame := decodeBufferedCompatibleFrame_drop control₁ control₂ control₃
  header_caught := decodeCompatibleHeader_caught includeV3
  body_caught := decodeBufferedCompatibleFrame_caught control₁ control₂ control₃
  headerSize_le := by
    have hmax := le_compatibleMaxFrameBytes control₁ control₂ control₃ includeV3
    change 44 ≤ _
    omega
  size_le := by
    intro b h hh
    replace hh := decodeCompatibleHeader_ok.mp hh
    have hmax := le_compatibleMaxFrameBytes control₁ control₂ control₃ includeV3
    cases h with
    | v1 h => exact (v1Accepts_total_le (decodeHeader_ok.mp hh).2.1).trans hmax
    | v2 h => exact (v2Accepts_total_le (decodeV2Header_ok.mp hh).2.1).trans hmax
    | v3 h =>
      obtain ⟨rfl, hh⟩ := hh
      exact (decodeV3Header_ok.mp hh).2.1.total_le

/-- A frame of the version that it says it has. -/
theorem decodeOfVersion_ok {b : Bytes} {f : CompatibleFrame} :
    decodeOfVersion control₁ control₂ control₃ includeV3 b = .ok f ↔
      match f with
      | .v1 f => decodeFrame control₁.check b = .ok f
      | .v2 f => decodeV2Frame control₂.check b = .ok f
      | .v3 f => includeV3 = true ∧ decodeV3Frame (controlOf control₃) b = .ok f := by
  unfold decodeOfVersion
  dsimp only
  constructor
  · intro hok
    split at hok
    · rename_i hv3
      obtain ⟨f', hf', rfl⟩ := map_mapError_ok.mp hok
      exact ⟨(Bool.and_eq_true _ _ ▸ hv3).1, hf'⟩
    · split at hok
      · obtain ⟨f', hf', rfl⟩ := map_mapError_ok.mp hok
        exact hf'
      · split at hok
        · obtain ⟨f', hf', rfl⟩ := map_mapError_ok.mp hok
          exact hf'
        · cases hok
  · intro hf
    cases f with
    | v1 f =>
      obtain ⟨h, hh, -⟩ := (v1_strict control₁).decode_ok.mp hf
      obtain ⟨-, hacc, hbytes⟩ := decodeHeader_ok.mp hh
      have hversion : byteAt b 4 = 1 := (version_of_header hbytes).trans hacc.version
      rw [hversion, if_neg (by cases includeV3 <;> decide), if_neg (by decide), if_pos rfl]
      exact map_mapError_ok.mpr ⟨f, hf, rfl⟩
    | v2 f =>
      obtain ⟨h, hh, -⟩ := (v2_strict control₂).decode_ok.mp hf
      obtain ⟨-, hacc, hbytes⟩ := decodeV2Header_ok.mp hh
      have hversion : byteAt b 4 = 2 := (version_of_header hbytes).trans hacc.version
      rw [hversion, if_neg (by cases includeV3 <;> decide), if_pos rfl]
      exact map_mapError_ok.mpr ⟨f, hf, rfl⟩
    | v3 f =>
      obtain ⟨hinclude, hf⟩ := hf
      obtain ⟨h, hh, -⟩ := (v3_strict control₃).decode_ok.mp hf
      obtain ⟨-, hacc, hbytes⟩ := decodeV3Header_ok.mp hh
      have hversion : byteAt b 4 = 3 := (version_of_header hbytes).trans hacc.version
      rw [hversion, hinclude, if_pos (by simp)]
      exact map_mapError_ok.mpr ⟨f, hf, rfl⟩

theorem compatible_strict :
    (compatibleSync control₁ control₂ control₃ includeV3).Strict declaredLength
      (decodeOfVersion control₁ control₂ control₃ includeV3) where
  declared_eq := by
    intro b h hh
    replace hh := decodeCompatibleHeader_ok.mp hh
    cases h with
    | v1 h => exact (v1_strict control₁).declared_eq hh
    | v2 h => exact (v2_strict control₂).declared_eq hh
    | v3 h => exact (v3_strict control₃).declared_eq hh.2
  decode_ok := by
    intro b f
    change _ ↔ ∃ h, decodeCompatibleHeader includeV3 b 0 = .ok h ∧ b.length = h.totalLength ∧
      decodeBufferedCompatibleFrame control₁ control₂ control₃ b 0 h = .ok f
    rw [decodeOfVersion_ok]
    constructor
    · intro hf
      cases f with
      | v1 f =>
        obtain ⟨h, hh, hlen, hbody⟩ := (v1_strict control₁).decode_ok.mp hf
        exact ⟨.v1 h, decodeCompatibleHeader_ok.mpr hh, hlen, map_mapError_ok.mpr ⟨f, hbody, rfl⟩⟩
      | v2 f =>
        obtain ⟨h, hh, hlen, hbody⟩ := (v2_strict control₂).decode_ok.mp hf
        exact ⟨.v2 h, decodeCompatibleHeader_ok.mpr hh, hlen, map_mapError_ok.mpr ⟨f, hbody, rfl⟩⟩
      | v3 f =>
        obtain ⟨h, hh, hlen, hbody⟩ := (v3_strict control₃).decode_ok.mp hf.2
        exact ⟨.v3 h, decodeCompatibleHeader_ok.mpr ⟨hf.1, hh⟩, hlen,
          map_mapError_ok.mpr ⟨f, hbody, rfl⟩⟩
    · rintro ⟨h, hh, hlen, hbody⟩
      replace hh := decodeCompatibleHeader_ok.mp hh
      cases h with
      | v1 h =>
        obtain ⟨f', hf', rfl⟩ := map_mapError_ok.mp hbody
        exact (v1_strict control₁).decode_ok.mpr ⟨h, hh, hlen, hf'⟩
      | v2 h =>
        obtain ⟨f', hf', rfl⟩ := map_mapError_ok.mp hbody
        exact (v2_strict control₂).decode_ok.mpr ⟨h, hh, hlen, hf'⟩
      | v3 h =>
        obtain ⟨f', hf', rfl⟩ := map_mapError_ok.mp hbody
        exact ⟨hh.1, (v3_strict control₃).decode_ok.mpr ⟨h, hh.2, hlen, hf'⟩⟩

end Several

/-! ### Every parser -/

open IncrementalParser

/-- However a stream is cut, a fresh parser returns the same frames and ends with the
same bytes in its buffer and the same counters, the high-water mark apart. -/
def ChunkingInvariant {ε η φ : Type} (F : Framer ε η φ) : Prop :=
  ∀ chunks chunks' : List Bytes, chunks.flatten = chunks'.flatten →
    ∃ p p' frames, feedAll F {} chunks = .ok (p, frames) ∧ feedAll F {} chunks' = .ok (p', frames) ∧
      p.rest = p'.rest ∧
      { p.counters with highWaterMark := 0 } = { p'.counters with highWaterMark := 0 }

theorem Framer.Follows.chunkingInvariant {ε η φ : Type} {F : Framer ε η φ}
    {S : Sync UInt8 ε η φ} (hF : F.Follows S) : ChunkingInvariant F := by
  intro chunks chunks' heq
  obtain ⟨p, hp, hscanned⟩ := feedAll_fresh hF chunks
  obtain ⟨p', hp', hscanned'⟩ := feedAll_fresh hF chunks'
  rw [← heq] at hp' hscanned'
  have hrest : p.rest = p'.rest := hscanned.rest_eq.trans hscanned'.rest_eq.symm
  refine ⟨p, p', _, hp, hp', hrest, ?_⟩
  unfold counters
  rw [bufferedBytes_eq, bufferedBytes_eq, hrest, hscanned.tally, hscanned'.tally,
    hscanned.received, hscanned'.received]

/-- Cut in any way, a stream gives the frames of the search from left to right; and a
frame in it is only lost to one that starts before it and overlaps it: one that was
found, or an incomplete one at which the search ended. -/
structure GreedyScanner {ε η φ : Type} (F : Framer ε η φ) (S : Sync UInt8 ε η φ)
    (decode : Bytes → Except ε φ) : Prop where
  frames : ∀ chunks, ∃ p, feedAll F {} chunks =
    .ok (p, (S.search declaredLength decode chunks.flatten).map Found.frame)
  complete : ∀ (stream : Bytes) (i n : ℕ) (f : φ), i + n ≤ stream.length →
    decode (slice stream i n) = .ok f →
      (⟨i, n, f⟩ ∈ S.search declaredLength decode stream) ∨
        (∃ g ∈ S.search declaredLength decode stream, g.start < i ∧ i < g.start + g.length) ∨
        ∃ j < i, S.magic <+: stream.drop j ∧ S.incomplete (stream.drop j) = true ∧
          ∀ g ∈ S.search declaredLength decode stream, g.start + g.length ≤ j

theorem Framer.Follows.greedyScanner {ε η φ : Type} {F : Framer ε η φ} {S : Sync UInt8 ε η φ}
    {decode : Bytes → Except ε φ} (hF : F.Follows S) (hS : S.Strict declaredLength decode) :
    GreedyScanner F S decode where
  frames := by
    intro chunks
    obtain ⟨p, hp, -⟩ := feedAll_fresh hF chunks
    rw [← Sync.search_frames hS] at hp
    exact ⟨p, hp⟩
  complete := fun _ _ _ _ hn hok => Sync.search_complete hS hn hok

section Parsers

variable (control₁ control₂ : ControlCheck) (control₃ : FrameHeader → Bytes → Except V3Error Unit)
  (includeV3 : Bool)

/-- How a stream is cut makes no difference to any parser. -/
theorem parsers_chunking :
    ChunkingInvariant (incrementalFrameParser control₁) ∧
      ChunkingInvariant (incrementalV2FrameParser control₂) ∧
      ChunkingInvariant (v3FrameParser control₃) ∧
      ChunkingInvariant (incrementalCompatibleFrameParser control₁ control₂ control₃ includeV3) :=
  ⟨(v1_follows control₁).chunkingInvariant, (v2_follows control₂).chunkingInvariant,
    (v3_follows control₃).chunkingInvariant,
    (compatible_follows control₁ control₂ control₃ includeV3).chunkingInvariant⟩

/-- Every parser is the search with the strict decoder of its version. -/
theorem parsers_greedy :
    GreedyScanner (incrementalFrameParser control₁) (v1Sync control₁)
        (decodeFrame control₁.check) ∧
      GreedyScanner (incrementalV2FrameParser control₂) (v2Sync control₂)
        (decodeV2Frame control₂.check) ∧
      GreedyScanner (v3FrameParser control₃) (v3Sync control₃)
        (decodeV3Frame (controlOf control₃)) ∧
      GreedyScanner (incrementalCompatibleFrameParser control₁ control₂ control₃ includeV3)
        (compatibleSync control₁ control₂ control₃ includeV3)
        (decodeOfVersion control₁ control₂ control₃ includeV3) := by
  refine ⟨?_, ?_, ?_, ?_⟩
  · exact (v1_follows control₁).greedyScanner (v1_strict control₁)
  · exact (v2_follows control₂).greedyScanner (v2_strict control₂)
  · exact (v3_follows control₃).greedyScanner (v3_strict control₃)
  · exact (compatible_follows control₁ control₂ control₃ includeV3).greedyScanner
      (compatible_strict control₁ control₂ control₃ includeV3)

end Parsers

end ThingDaq.Host
