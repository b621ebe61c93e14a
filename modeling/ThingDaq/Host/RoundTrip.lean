import ThingDaq.Host.Codec
import ThingDaq.Lib.Framing

/-!
# Frames survive their codecs

Each decoder accepts exactly the byte strings of one shape: the wire form of a header
that passes the version's checks, the payload it declares, and the checksum of both.
Each encoder produces exactly the byte strings of that shape.  Round trips in both
directions follow, and so does the agreement of the strict decoders with the buffered
ones, which look at nothing behind the frame.

## Main results

* `headerBytes_loadHeader` — the first 44 bytes are the wire form of what they load.
* `decodeHeader_ok`, `decodeV2Header_ok`, `decodeV3Header_ok` — the accepted headers.
* `Framed`, `decodeFrame_ok`, `encodeFrame_ok` and their versions 2 and 3.
-/

namespace ThingDaq.Host

open Wire

/-! ### Headers on the wire -/

theorem leBytes_slice {b : Bytes} {o n : ℕ} (h : o + n ≤ b.length) :
    leBytes n (leValue (slice b o n)) = slice b o n := by
  have hlen : (slice b o n).length = n := by
    rw [length_slice]
    omega
  have hbytes := leBytes_leValue (slice b o n)
  rwa [hlen] at hbytes

theorem leValue_slice_lt {b : Bytes} {o n : ℕ} : leValue (slice b o n) < 256 ^ n := by
  have h := leValue_lt (slice b o n)
  have hlen : (slice b o n).length ≤ n := by
    rw [length_slice]
    omega
  exact h.trans_le (Nat.pow_le_pow_right (by omega) hlen)

/-- One byte as a range. -/
theorem slice_one {b : Bytes} {o : ℕ} (h : o < b.length) : slice b o 1 = [byteAt b o] := by
  unfold slice byteAt
  rw [List.drop_eq_getElem_cons h, List.take_succ_cons, List.take_zero]
  simp [List.getElem?_eq_getElem h]

/-- The fields of a header are its bytes, if the magic and the reserved byte are. -/
theorem headerBytes_loadHeader {b : Bytes} (hlen : kHeaderSize ≤ b.length)
    (hmagic : leValue (slice b 0 4) = kMagic) (hreserved : byteAt b 11 = 0) :
    headerBytes (loadHeader b) = b.take 44 := by
  have hlen' : 44 ≤ b.length := hlen
  have h16 : ∀ o, (UInt16.ofNat (leValue (slice b o 2))).toNat = leValue (slice b o 2) := fun o =>
    UInt16.toNat_ofNat_of_lt' (leValue_slice_lt (n := 2))
  have h32 : ∀ o, (UInt32.ofNat (leValue (slice b o 4))).toNat = leValue (slice b o 4) := fun o =>
    UInt32.toNat_ofNat_of_lt' (leValue_slice_lt (n := 4))
  have h64 : ∀ o, (UInt64.ofNat (leValue (slice b o 8))).toNat = leValue (slice b o 8) := fun o =>
    UInt64.toNat_ofNat_of_lt' (leValue_slice_lt (n := 8))
  have hpair : ∀ o, o + 2 ≤ b.length → [byteAt b o, byteAt b (o + 1)] = slice b o 2 := by
    intro o ho
    have h1 := slice_one (b := b) (o := o) (by omega)
    have h2 := slice_one (b := b) (o := o + 1) (by omega)
    have hsplit : slice b o 2 = slice b o 1 ++ slice b (o + 1) 1 := by
      unfold slice
      rw [← List.drop_drop, ← List.take_add]
    rw [hsplit, h1, h2]
    rfl
  unfold headerBytes loadHeader
  dsimp only
  rw [h16, h16, h32, h32, h32, h32, h32, h64, h32, ← hmagic, ← hreserved,
    leBytes_slice (by omega), leBytes_slice (by omega), leBytes_slice (by omega),
    leBytes_slice (by omega), leBytes_slice (by omega), leBytes_slice (by omega),
    leBytes_slice (by omega), leBytes_slice (by omega), leBytes_slice (by omega),
    leBytes_slice (by omega), hpair 4 (by omega), hpair 10 (by omega)]
  have hzero : slice b 0 4 = b.take 4 := rfl
  rw [hzero, take_append_slice, take_append_slice, take_append_slice, take_append_slice,
    take_append_slice, take_append_slice, take_append_slice, take_append_slice,
    take_append_slice, take_append_slice, take_append_slice]

theorem headerBytes_inj {h h' : FrameHeader} (hbytes : headerBytes h = headerBytes h') : h = h' := by
  have hself := loadHeader_headerBytes h []
  have hother := loadHeader_headerBytes h' []
  rw [← hself, hbytes, hother]

namespace Header

theorem toNat_u16 {v : ℤ} (h : 0 ≤ v ∧ v < 2 ^ 16) : ((UInt16.ofNat v.toNat).toNat : ℤ) = v := by
  have hlt : v.toNat < 2 ^ 16 := by omega
  rw [UInt16.toNat_ofNat_of_lt' hlt]
  omega

theorem toNat_u32 {v : ℤ} (h : 0 ≤ v ∧ v < 2 ^ 32) : ((UInt32.ofNat v.toNat).toNat : ℤ) = v := by
  have hlt : v.toNat < 2 ^ 32 := by omega
  rw [UInt32.toNat_ofNat_of_lt' hlt]
  omega

theorem toNat_u64 {v : ℤ} (h : 0 ≤ v ∧ v < 2 ^ 64) : ((UInt64.ofNat v.toNat).toNat : ℤ) = v := by
  have hlt : v.toNat < 2 ^ 64 := by omega
  rw [UInt64.toNat_ofNat_of_lt' hlt]
  omega

theorem ofWire_wire {h : Header} (hf : h.fits) : ofWire h.wire = h := by
  obtain ⟨hflags, hlen, htotal, hpay, hrun, hseq, hreq, hticks, hitems⟩ := hf
  unfold ofWire wire
  dsimp only
  rw [toNat_u16 hflags, toNat_u32 hrun, toNat_u32 hseq, toNat_u32 hreq, toNat_u64 hticks,
    toNat_u32 hitems, UInt32.toNat_ofNat_of_lt' htotal, UInt32.toNat_ofNat_of_lt' hpay,
    UInt16.toNat_ofNat_of_lt' hlen]

theorem wire_ofWire (w : FrameHeader) : (ofWire w).wire = w := by
  unfold wire ofWire
  simp

theorem fits_ofWire (w : FrameHeader) : (ofWire w).fits := by
  unfold fits ofWire
  have h1 := w.flags.toNat_lt
  have h2 := w.headerLength.toNat_lt
  have h3 := w.totalLength.toNat_lt
  have h4 := w.payloadLength.toNat_lt
  have h5 := w.runId.toNat_lt
  have h6 := w.sequence.toNat_lt
  have h7 := w.requestId.toNat_lt
  have h8 := w.firstSampleTicks.toNat_lt
  have h9 := w.itemCount.toNat_lt
  dsimp only
  omega

end Header

/-! ### Accepted headers of versions 1 and 2 -/

namespace Rules

/-- A header that the decoder of these rules accepts. -/
structure Accepts (r : Rules) (h : Header) : Prop where
  fits : h.fits
  version : h.version = r.version
  kind : r.frameKinds.contains h.kind = true
  checksum : isKnownChecksum h.checksumAlgorithm = true
  valid : r.validateHeader h 0 = .ok ()

variable {r : Rules} {h : Header} {data : Bytes}

theorem unpackHeader_ok {reserved : UInt8} :
    r.unpackHeader data 0 = .ok (h, reserved) ↔
      kHeaderSize ≤ data.length ∧ leValue (slice data 0 4) = kMagic ∧
        (loadHeader data).version = r.version ∧
        r.frameKinds.contains (loadHeader data).kind = true ∧
        isKnownChecksum (loadHeader data).checksumAlgorithm = true ∧
        h = Header.ofWire (loadHeader data) ∧ reserved = byteAt data 11 := by
  unfold unpackHeader
  rw [List.drop_zero]
  dsimp only
  simp only [Framing.ite_error_eq_ok, Except.ok.injEq, Prod.mk.injEq, Nat.not_lt, not_not,
    Bool.not_eq_false]
  constructor
  · rintro ⟨h1, h2, h3, h4, h5, h6, h7⟩
    exact ⟨h1, h2, h3, h4, h5, h6.symm, h7.symm⟩
  · rintro ⟨h1, h2, h3, h4, h5, h6, h7⟩
    exact ⟨h1, h2, h3, h4, h5, h6.symm, h7.symm⟩

/-- The checks that every accepted header has passed. -/
theorem validateHeader_ok {reserved : UInt8} (hok : r.validateHeader h reserved = .ok ()) :
    h.headerLength = kHeaderSize ∧ reserved = 0 ∧
      isSupportedChecksum h.checksumAlgorithm = true ∧
      h.totalLength = kHeaderSize + h.payloadLength + kTrailerSize := by
  unfold validateHeader at hok
  simp only [Framing.ite_error_eq_ok, not_not, Bool.not_eq_false] at hok
  obtain ⟨h1, h2, h3, -, -, -, h7, -⟩ := hok
  exact ⟨h1, h2, h3, h7⟩

/-- What a header decoder makes of the bytes, given how it treats the reserved byte. -/
theorem header_ok (decode : Bytes → Except FrameError Header)
    (hdecode : ∀ {data h}, decode data = .ok h ↔
      ∃ reserved, r.unpackHeader data 0 = .ok (h, reserved) ∧ reserved = 0 ∧
        r.validateHeader h 0 = .ok ()) :
    decode data = .ok h ↔
      kHeaderSize ≤ data.length ∧ r.Accepts h ∧ data.take 44 = headerBytes h.wire := by
  rw [hdecode]
  constructor
  · rintro ⟨reserved, hunpack, hreserved, hvalid⟩
    obtain ⟨hlen, hmagic, hversion, hkind, hchecksum, rfl, rfl⟩ := unpackHeader_ok.mp hunpack
    refine ⟨hlen, ⟨Header.fits_ofWire _, hversion, hkind, hchecksum, hvalid⟩, ?_⟩
    rw [Header.wire_ofWire, headerBytes_loadHeader hlen hmagic hreserved]
  · rintro ⟨hlen, hacc, hbytes⟩
    have hdata : data = headerBytes h.wire ++ data.drop 44 := by
      rw [← hbytes, List.take_append_drop]
    have hload : loadHeader data = h.wire := by
      rw [hdata, loadHeader_headerBytes]
    refine ⟨0, unpackHeader_ok.mpr ⟨hlen, ?_, ?_, ?_, ?_, ?_, ?_⟩, rfl, hacc.valid⟩
    · rw [hdata, slice_magic]
      exact leValue_leBytes_of_lt (by decide)
    · rw [hload]
      exact hacc.version
    · rw [hload]
      exact hacc.kind
    · rw [hload]
      exact hacc.checksum
    · rw [hload, Header.ofWire_wire hacc.fits]
    · rw [hdata, byteAt_reserved]

end Rules

theorem decodeHeader_ok {data : Bytes} {h : Header} :
    decodeHeader data 0 = .ok h ↔
      kHeaderSize ≤ data.length ∧ v1Rules.Accepts h ∧ data.take 44 = headerBytes h.wire := by
  apply Rules.header_ok fun data => decodeHeader data 0
  intro data h
  unfold decodeHeader
  constructor
  · intro hok
    split at hok
    · cases hok
    · rename_i h' reserved hunpack
      split at hok
      · cases hok
      · rename_i hvalid
        cases hok
        obtain ⟨-, hreserved, -, -⟩ := Rules.validateHeader_ok hvalid
        subst hreserved
        exact ⟨0, hunpack, rfl, hvalid⟩
  · rintro ⟨reserved, hunpack, rfl, hvalid⟩
    rw [hunpack]
    dsimp only
    rw [hvalid]

theorem decodeV2Header_ok {data : Bytes} {h : Header} :
    decodeV2Header data 0 = .ok h ↔
      kHeaderSize ≤ data.length ∧ v2Rules.Accepts h ∧ data.take 44 = headerBytes h.wire := by
  apply Rules.header_ok fun data => decodeV2Header data 0
  intro data h
  unfold decodeV2Header
  constructor
  · intro hok
    split at hok
    · cases hok
    · rename_i h' reserved hunpack
      split at hok
      · cases hok
      · rename_i hreserved
        split at hok
        · cases hok
        · rename_i hvalid
          cases hok
          exact ⟨reserved, hunpack, not_not.mp hreserved, hvalid⟩
  · rintro ⟨reserved, hunpack, rfl, hvalid⟩
    rw [hunpack]
    dsimp only
    rw [if_neg (not_not.mpr rfl)]
    unfold validateV2Header
    rw [hvalid]

/-! ### Frames of versions 1 and 2 -/

theorem computeChecksum_lt {a : ChecksumAlgorithm} {data : Bytes} {v : ℕ}
    (h : computeChecksum a data = .ok v) : v < 2 ^ 32 := by
  have hcrc : ∀ p, p < 2 ^ 32 → Crc.crc32 p data < 2 ^ 32 := by
    intro p hp
    exact Nat.xor_lt_two_pow (Crc.run_lt hp (by decide) (by decide) data) (by decide)
  have hadler : Adler.adler32 data < 2 ^ 32 := by
    obtain ⟨h1, h2⟩ := Adler.state_lt data (1, 0) (by decide) (by decide)
    unfold Adler.modulus at h1 h2
    unfold Adler.adler32
    omega
  have hc : HostChecksum.pureCrc32c data = Crc.crc32 0x82F63B78 data :=
    HostChecksum.pureReflectedCrc32_eq (HostChecksum.makeReflectedCrcTable_isTable _) (by decide) data
  have hi : HostChecksum.pureCrc32IsoHdlc data = Crc.crc32 0xEDB88320 data :=
    HostChecksum.pureReflectedCrc32_eq (HostChecksum.makeReflectedCrcTable_isTable _) (by decide) data
  unfold computeChecksum computeChecksumValue at h
  rw [HostChecksum.pureAdler32_eq, hc, hi] at h
  split at h
  · cases h
  · rename_i v' hv
    cases h
    split at hv
    · cases hv
      exact hadler
    · split at hv
      · cases hv
        exact hcrc _ (by decide)
      · split at hv
        · cases hv
          exact hcrc _ (by decide)
        · cases hv

variable {validateControl : Header → Bytes → Except FrameError Unit}

/-- `w` is the wire form of the frame `f` of a version. -/
structure Framed (r : Rules) (validateControl : Header → Bytes → Except FrameError Unit)
    (f : Frame) (w : Bytes) : Prop where
  header : r.Accepts f.header
  payload : validateFramePayload validateControl f.header f.payload = .ok ()
  checksum : computeChecksum f.header.checksumAlgorithm (headerBytes f.header.wire ++ f.payload) =
    .ok f.checksum
  bytes : w = headerBytes f.header.wire ++ f.payload ++ leBytes 4 f.checksum

theorem payload_length {h : Header} {payload : Bytes}
    (hok : validateFramePayload validateControl h payload = .ok ()) :
    payload.length = h.payloadLength := by
  unfold validateFramePayload at hok
  split at hok
  · cases hok
  · rename_i hlen
    exact not_not.mp hlen

theorem decodeWholeFrame_ok {data : Bytes} {h : Header} {f : Frame} :
    decodeWholeFrame validateControl data h = .ok f ↔
      data.length = h.totalLength ∧ f.header = h ∧
        f.payload = slice data kHeaderSize h.payloadLength ∧
        f.checksum = leValue (slice data (kHeaderSize + h.payloadLength) 4) ∧
        computeChecksum h.checksumAlgorithm (data.take (kHeaderSize + h.payloadLength)) =
          .ok f.checksum ∧
        validateFramePayload validateControl h f.payload = .ok () := by
  unfold decodeWholeFrame
  dsimp only
  rw [Nat.add_sub_cancel_left]
  constructor
  · intro hok
    split at hok
    · cases hok
    · rename_i hlen
      split at hok
      · cases hok
      · rename_i expected hexpected
        split at hok
        · cases hok
        · rename_i hsum
          split at hok
          · cases hok
          · rename_i hpayload
            cases hok
            rw [not_not.mp hsum]
            exact ⟨not_not.mp hlen, rfl, rfl, rfl, hexpected, hpayload⟩
  · rintro ⟨hlen, hheader, hpayload, hobserved, hexpected, hvalid⟩
    rw [if_neg (not_not.mpr hlen), hexpected]
    dsimp only
    rw [if_neg (not_not.mpr hobserved.symm), ← hpayload, hvalid]
    dsimp only
    rw [← hobserved, ← hheader]

/-- A whole frame behind an accepted header. -/
theorem framed_iff {r : Rules} {data : Bytes} {f : Frame} :
    (kHeaderSize ≤ data.length ∧ r.Accepts f.header ∧ data.take 44 = headerBytes f.header.wire) ∧
        decodeWholeFrame validateControl data f.header = .ok f ↔
      Framed r validateControl f data := by
  rw [decodeWholeFrame_ok]
  constructor
  · rintro ⟨⟨hlen, hacc, hbytes⟩, htotal, -, hpayload, hobserved, hexpected, hvalid⟩
    obtain ⟨-, -, -, hsizes⟩ := Rules.validateHeader_ok hacc.valid
    have hlength : data.length = 44 + f.header.payloadLength + 4 := htotal.trans hsizes
    have hfront : headerBytes f.header.wire ++ f.payload =
        data.take (kHeaderSize + f.header.payloadLength) := by
      rw [← hbytes, hpayload]
      exact take_append_slice data 44 _
    refine ⟨hacc, hvalid, by rw [hfront, hexpected], ?_⟩
    rw [hfront, hobserved, leBytes_slice (by rw [hlength]), take_append_slice]
    exact (List.take_of_length_le (by rw [hlength])).symm
  · rintro ⟨hacc, hvalid, hsum, hdata⟩
    obtain ⟨-, -, -, hsizes⟩ := Rules.validateHeader_ok hacc.valid
    have hplen := payload_length hvalid
    have hhead : (headerBytes f.header.wire).length = 44 := length_headerBytes _
    have hbody : (headerBytes f.header.wire ++ f.payload).length =
        kHeaderSize + f.header.payloadLength := by
      rw [List.length_append, hhead, hplen]
    have hlength : data.length = f.header.totalLength := by
      rw [hdata, List.length_append, hbody, length_leBytes, hsizes]
    refine ⟨⟨?_, hacc, ?_⟩, hlength, rfl, ?_, ?_, ?_, hvalid⟩
    · rw [hlength, hsizes]
      omega
    · rw [hdata, List.append_assoc, List.take_left' hhead]
    · rw [hdata, slice_append_left (by rw [hbody]), slice_append_right hhead.le, hhead]
      exact (slice_self hplen).symm
    · rw [hdata, slice_append_right (by rw [hbody]), hbody, Nat.sub_self,
        slice_self (length_leBytes 4 _),
        leValue_leBytes_of_lt (show f.checksum < 256 ^ 4 from computeChecksum_lt hsum)]
    · rw [hdata, List.take_left' hbody, hsum]

/-- Behind the header, both decoders are one. -/
theorem wholeFrame_iff {data : Bytes} {f : Frame} {header : Except FrameError Header} :
    (match header with
      | .error e => .error e
      | .ok h => decodeWholeFrame validateControl data h : Except FrameError Frame) = .ok f ↔
      header = .ok f.header ∧ decodeWholeFrame validateControl data f.header = .ok f := by
  constructor
  · intro hok
    split at hok
    · cases hok
    · have hheader := (decodeWholeFrame_ok.mp hok).2.1
      rw [hheader]
      exact ⟨rfl, hok⟩
  · rintro ⟨rfl, hok⟩
    exact hok

theorem decodeFrame_ok {data : Bytes} {f : Frame} :
    decodeFrame validateControl data = .ok f ↔ Framed v1Rules validateControl f data := by
  rw [← framed_iff, ← decodeHeader_ok]
  exact wholeFrame_iff

theorem decodeV2Frame_ok {data : Bytes} {f : Frame} :
    decodeV2Frame validateControl data = .ok f ↔ Framed v2Rules validateControl f data := by
  rw [← framed_iff, ← decodeV2Header_ok]
  exact wholeFrame_iff

/-! ### Encoders of versions 1 and 2 -/

theorem sealBytes_ok {h : Header} {payload w : Bytes} :
    sealBytes validateControl h payload = .ok w ↔
      validateFramePayload validateControl h payload = .ok () ∧ h.fits ∧
        ∃ v, computeChecksum h.checksumAlgorithm (headerBytes h.wire ++ payload) = .ok v ∧
          w = headerBytes h.wire ++ payload ++ leBytes 4 v := by
  unfold sealBytes Header.toBytes
  constructor
  · intro hok
    split at hok
    · cases hok
    · rename_i hvalid
      split at hok
      · cases hok
      · rename_i bytes hbytes
        split at hbytes
        · rename_i hfits
          cases hbytes
          split at hok
          · cases hok
          · rename_i v hv
            cases hok
            exact ⟨hvalid, hfits, v, hv, rfl⟩
        · cases hbytes
  · rintro ⟨hvalid, hfits, v, hv, rfl⟩
    rw [hvalid, if_pos hfits]
    dsimp only
    rw [hv]

/-- A number is the member found for it. -/
theorem enumMember_some {members : List UInt8} {v : ℤ} {m : UInt8}
    (h : enumMember members v = some m) : members.contains m = true ∧ (m.toNat : ℤ) = v := by
  refine ⟨?_, ?_⟩
  · rw [List.contains_iff_mem]
    exact List.mem_of_find?_eq_some h
  · have hfound := List.find?_some h
    simpa using hfound

theorem enumMember_of_contains {members : List UInt8} {m : UInt8}
    (h : members.contains m = true) : enumMember members m.toNat = some m := by
  have hmem := List.contains_iff_mem.mp h
  cases hfind : enumMember members m.toNat with
  | none =>
    have hnone := List.find?_eq_none.mp hfind m hmem
    simp at hnone
  | some m' =>
    obtain ⟨-, hm⟩ := enumMember_some hfind
    rw [UInt8.toNat_inj.mp (Int.ofNat_inj.mp hm)]

theorem isKnownChecksum_iff {a : ChecksumAlgorithm} :
    isKnownChecksum a = true ↔ checksumAlgorithms.contains a = true := by
  simp only [isKnownChecksum, checksumAlgorithms, List.contains_iff_mem, List.mem_cons,
    List.not_mem_nil, or_false, ← UInt8.toNat_inj, decide_eq_true_eq]
  change a.toNat ≤ 3 ↔ a.toNat = 0 ∨ a.toNat = 1 ∨ a.toNat = 2 ∨ a.toNat = 3
  omega

/-- The header fields and the payload that the arguments describe. -/
structure EncodeArgs.Describes (a : EncodeArgs) (flags : ℤ) (h : Header) (payload : Bytes) :
    Prop where
  kind : (h.kind.toNat : ℤ) = a.kind
  flags : h.flags = flags
  runId : h.runId = a.runId
  sequence : h.sequence = a.sequence
  requestId : h.requestId = a.requestId
  firstSampleTicks : h.firstSampleTicks = a.firstSampleTicks
  itemCount : h.itemCount = a.itemCount
  payload : payload = a.payload

/-- The arguments for a frame. -/
def Frame.args (f : Frame) : EncodeArgs where
  kind := f.header.kind.toNat
  payload := f.payload
  flags := f.header.flags
  checksumAlgorithm := some f.header.checksumAlgorithm.toNat
  runId := f.header.runId
  sequence := f.header.sequence
  requestId := f.header.requestId
  firstSampleTicks := f.header.firstSampleTicks
  itemCount := f.header.itemCount

theorem EncodeArgs.algorithm_some {a : EncodeArgs} {algorithm : ChecksumAlgorithm}
    (h : a.algorithm = some algorithm) :
    isKnownChecksum algorithm = true ∧ (algorithm.toNat : ℤ) = a.checksumAlgorithm.getD 1 := by
  unfold EncodeArgs.algorithm at h
  split at h
  · rename_i hnone
    cases h
    rw [hnone]
    exact ⟨rfl, rfl⟩
  · rename_i v hv
    obtain ⟨hmem, hval⟩ := enumMember_some h
    rw [hv]
    exact ⟨isKnownChecksum_iff.mpr hmem, hval⟩

/-- The common end of the two encoders. -/
theorem framed_of_seal {r : Rules} {a : EncodeArgs} {kind : FrameKind} {flags : ℤ}
    {algorithm : ChecksumAlgorithm} {w : Bytes} (hkind : enumMember r.frameKinds a.kind = some kind)
    (halgorithm : a.algorithm = some algorithm)
    (hvalid : r.validateHeader (a.header r.version kind flags algorithm) 0 = .ok ())
    (hseal : sealBytes validateControl (a.header r.version kind flags algorithm) a.payload = .ok w) :
    ∃ f, Framed r validateControl f w ∧ a.Describes flags f.header f.payload ∧
      (f.header.checksumAlgorithm.toNat : ℤ) = a.checksumAlgorithm.getD 1 := by
  obtain ⟨hpayload, hfits, v, hv, hw⟩ := sealBytes_ok.mp hseal
  obtain ⟨hmem, hkindval⟩ := enumMember_some hkind
  obtain ⟨hknown, halgval⟩ := EncodeArgs.algorithm_some halgorithm
  refine ⟨⟨a.header r.version kind flags algorithm, a.payload, v⟩,
    ⟨⟨hfits, rfl, hmem, hknown, hvalid⟩, hpayload, hv, hw⟩, ?_⟩
  exact ⟨⟨hkindval, rfl, rfl, rfl, rfl, rfl, rfl, rfl⟩, halgval⟩

/-- The header that the encoders build from a frame's own arguments. -/
theorem Framed.header_args {r : Rules} {f : Frame} {w : Bytes} (h : Framed r validateControl f w) :
    f.args.header r.version f.header.kind f.header.flags f.header.checksumAlgorithm = f.header := by
  obtain ⟨hlen, -, -, hsizes⟩ := Rules.validateHeader_ok h.header.valid
  have hplen := payload_length h.payload
  have hversion := h.header.version
  unfold EncodeArgs.header Frame.args
  dsimp only
  rw [hplen, ← hsizes, ← hversion, ← hlen]

theorem bind_ok {ε α β : Type} {x : Except ε α} {f : α → Except ε β} {b : β} :
    (x >>= f) = .ok b ↔ ∃ a, x = .ok a ∧ f a = .ok b := by
  cases x with
  | error e => exact ⟨fun h => (by cases h), fun ⟨_, h, _⟩ => (by cases h)⟩
  | ok a => exact ⟨fun h => ⟨a, rfl, h⟩, fun ⟨_, h, hf⟩ => by cases h; exact hf⟩

theorem uint_ok {name : String} {v v' : ℤ} {bits : ℕ} :
    uint name v bits = .ok v' ↔ (0 ≤ v ∧ v < 2 ^ bits) ∧ v' = v := by
  unfold uint
  split
  · rename_i hv
    exact ⟨fun h => ⟨hv, (Except.ok.inj h).symm⟩, fun h => congrArg Except.ok h.2.symm⟩
  · rename_i hv
    exact ⟨fun h => (by cases h), fun h => absurd h.1 hv⟩

theorem encodeFrame_ok {a : EncodeArgs} {w : Bytes} :
    encodeFrame validateControl a = .ok w ↔
      ∃ kind algorithm, enumMember v1Rules.frameKinds a.kind = some kind ∧
        a.algorithm = some algorithm ∧ (a.header V1.kProtocolVersion kind a.flags algorithm).fits ∧
        v1Rules.validateHeader (a.header V1.kProtocolVersion kind a.flags algorithm) 0 = .ok () ∧
        sealBytes validateControl (a.header V1.kProtocolVersion kind a.flags algorithm)
          a.payload = .ok w := by
  unfold encodeFrame
  constructor
  · intro hok
    split at hok
    · rename_i kind hkind
      split at hok
      · rename_i algorithm halgorithm
        simp only [bind_ok, uint_ok] at hok
        obtain ⟨flags, ⟨_, rfl⟩, _, ⟨_, rfl⟩, _, ⟨_, rfl⟩, _, ⟨_, rfl⟩, _, ⟨_, rfl⟩, _, ⟨_, rfl⟩, _,
          hvalid, hseal⟩ := hok
        exact ⟨kind, algorithm, hkind, halgorithm, (sealBytes_ok.mp hseal).2.1, hvalid, hseal⟩
      · cases hok
    · cases hok
  · rintro ⟨kind, algorithm, hkind, halgorithm, hfits, hvalid, hseal⟩
    obtain ⟨hflags, -, -, -, hrun, hseq, hreq, hticks, hitems⟩ := hfits
    rw [hkind, halgorithm]
    dsimp only
    simp only [bind_ok, uint_ok]
    exact ⟨_, ⟨hflags, rfl⟩, _, ⟨hrun, rfl⟩, _, ⟨hseq, rfl⟩, _, ⟨hreq, rfl⟩, _, ⟨hticks, rfl⟩, _,
      ⟨hitems, rfl⟩, (), hvalid, hseal⟩

theorem encodeV2Frame_ok {frameFlag : IntFlag} {a : EncodeArgs} {w : Bytes} :
    encodeV2Frame validateControl frameFlag a = .ok w ↔
      ∃ kind algorithm, enumMember v2Rules.frameKinds a.kind = some kind ∧
        a.algorithm = some algorithm ∧
        validateV2Header (a.header V2.kProtocolVersion kind (frameFlag.convert a.flags) algorithm) =
          .ok () ∧
        sealBytes validateControl
          (a.header V2.kProtocolVersion kind (frameFlag.convert a.flags) algorithm) a.payload =
          .ok w := by
  unfold encodeV2Frame
  constructor
  · intro hok
    split at hok
    · rename_i kind hkind
      dsimp only at hok
      split at hok
      · rename_i algorithm halgorithm
        obtain ⟨_, hvalid, hseal⟩ := bind_ok.mp hok
        exact ⟨kind, algorithm, hkind, halgorithm, hvalid, hseal⟩
      · cases hok
    · cases hok
  · rintro ⟨kind, algorithm, hkind, halgorithm, hvalid, hseal⟩
    rw [hkind, halgorithm]
    exact bind_ok.mpr ⟨(), hvalid, hseal⟩

/-! ### Both directions -/

theorem encodeFrame_framed {a : EncodeArgs} {w : Bytes} (h : encodeFrame validateControl a = .ok w) :
    ∃ f, Framed v1Rules validateControl f w ∧ a.Describes a.flags f.header f.payload ∧
      (f.header.checksumAlgorithm.toNat : ℤ) = a.checksumAlgorithm.getD 1 := by
  obtain ⟨kind, algorithm, hkind, halgorithm, -, hvalid, hseal⟩ := encodeFrame_ok.mp h
  exact framed_of_seal hkind halgorithm hvalid hseal

theorem encodeV2Frame_framed {frameFlag : IntFlag} {a : EncodeArgs} {w : Bytes}
    (h : encodeV2Frame validateControl frameFlag a = .ok w) :
    ∃ f, Framed v2Rules validateControl f w ∧
      a.Describes (frameFlag.convert a.flags) f.header f.payload ∧
      (f.header.checksumAlgorithm.toNat : ℤ) = a.checksumAlgorithm.getD 1 := by
  obtain ⟨kind, algorithm, hkind, halgorithm, hvalid, hseal⟩ := encodeV2Frame_ok.mp h
  exact framed_of_seal hkind halgorithm hvalid hseal

theorem Framed.algorithm_args {r : Rules} {f : Frame} {w : Bytes} (h : Framed r validateControl f w) :
    f.args.algorithm = some f.header.checksumAlgorithm :=
  enumMember_of_contains (isKnownChecksum_iff.mp h.header.checksum)

theorem Framed.seal {r : Rules} {f : Frame} {w : Bytes} (h : Framed r validateControl f w) :
    sealBytes validateControl f.header f.payload = .ok w :=
  sealBytes_ok.mpr ⟨h.payload, h.header.fits, f.checksum, h.checksum, h.bytes⟩

theorem Framed.encodeFrame {f : Frame} {w : Bytes} (h : Framed v1Rules validateControl f w) :
    encodeFrame validateControl f.args = .ok w := by
  have hheader : f.args.header V1.kProtocolVersion f.header.kind f.args.flags
      f.header.checksumAlgorithm = f.header := h.header_args
  apply encodeFrame_ok.mpr
  refine ⟨f.header.kind, f.header.checksumAlgorithm, enumMember_of_contains h.header.kind,
    h.algorithm_args, ?_, ?_, ?_⟩
  · rw [hheader]
    exact h.header.fits
  · rw [hheader]
    exact h.header.valid
  · rw [hheader]
    exact h.seal

theorem Framed.encodeV2Frame {frameFlag : IntFlag} {f : Frame} {w : Bytes}
    (h : Framed v2Rules validateControl f w) :
    encodeV2Frame validateControl frameFlag f.args = .ok w := by
  have hflags : frameFlag.convert f.args.flags = f.header.flags :=
    frameFlag.keeps _ h.header.fits.1.1
  have hheader : f.args.header V2.kProtocolVersion f.header.kind
      (frameFlag.convert f.args.flags) f.header.checksumAlgorithm = f.header := by
    rw [hflags]
    exact h.header_args
  apply encodeV2Frame_ok.mpr
  refine ⟨f.header.kind, f.header.checksumAlgorithm, enumMember_of_contains h.header.kind,
    h.algorithm_args, ?_, ?_⟩
  · rw [hheader]
    exact h.header.valid
  · rw [hheader]
    exact h.seal

/-! ### Buffered decoding of versions 1 and 2 -/

theorem slice_drop (b : Bytes) (o i n : ℕ) : slice b (o + i) n = slice (b.drop o) i n := by
  unfold slice
  rw [List.drop_drop]

/-- Decoding at an offset is decoding what is there. -/
theorem decodeBufferedFrame_drop (buffer : Bytes) (offset : ℕ) (h : Header) :
    decodeBufferedFrame validateControl buffer offset h =
      decodeBufferedFrame validateControl (buffer.drop offset) 0 h := by
  have hbody : slice buffer offset (offset + kHeaderSize + h.payloadLength - offset) =
      slice (buffer.drop offset) 0 (0 + kHeaderSize + h.payloadLength - 0) := by
    rw [Nat.add_assoc, Nat.add_sub_cancel_left, Nat.zero_add, Nat.sub_zero]
    exact slice_drop buffer offset 0 _
  have hpayload : slice buffer (offset + kHeaderSize)
        (offset + kHeaderSize + h.payloadLength - (offset + kHeaderSize)) =
      slice (buffer.drop offset) (0 + kHeaderSize)
        (0 + kHeaderSize + h.payloadLength - (0 + kHeaderSize)) := by
    rw [Nat.add_sub_cancel_left, Nat.add_sub_cancel_left, Nat.zero_add]
    exact slice_drop buffer offset _ _
  have htrailer : slice buffer (offset + kHeaderSize + h.payloadLength) 4 =
      slice (buffer.drop offset) (0 + kHeaderSize + h.payloadLength) 4 := by
    rw [Nat.add_assoc, Nat.zero_add]
    exact slice_drop buffer offset _ _
  unfold decodeBufferedFrame
  dsimp only
  rw [hbody, hpayload, htrailer]

/-- A whole frame is a buffered one at the front. -/
theorem decodeWholeFrame_eq {data : Bytes} {h : Header} (hlen : data.length = h.totalLength) :
    decodeWholeFrame validateControl data h = decodeBufferedFrame validateControl data 0 h := by
  unfold decodeWholeFrame decodeBufferedFrame
  dsimp only
  rw [if_neg (not_not.mpr hlen), Nat.zero_add, Nat.sub_zero]
  rfl

/-- A version's header decoder with the buffered frame decoder. -/
def frameFormat (validateControl : Header → Bytes → Except FrameError Unit)
    (decodeHeader : Bytes → ℕ → Except FrameError Header) :
    Framing.Format UInt8 FrameError Header Frame where
  headerSize := kHeaderSize
  decodeHeader := fun b => decodeHeader b 0
  size := Header.totalLength
  decodeBody := fun b h => decodeBufferedFrame validateControl b 0 h

/-- The incremental parser at a position of its buffer: the header, then the frame
once its declared length is there. -/
def incrementalFrame (validateControl : Header → Bytes → Except FrameError Unit)
    (decodeHeader : Bytes → ℕ → Except FrameError Header) (buffer : Bytes) (offset : ℕ) :
    Option (Except FrameError Frame) :=
  match decodeHeader buffer offset with
  | .error e => some (.error e)
  | .ok h =>
    if buffer.length - offset < h.totalLength then none
    else some (decodeBufferedFrame validateControl buffer offset h)

section Buffered

variable {decodeHeader : Bytes → ℕ → Except FrameError Header} {r : Rules}

theorem incrementalFrame_eq (hoffset : ∀ b o, decodeHeader b o = decodeHeader (b.drop o) 0)
    (buffer : Bytes) (offset : ℕ) :
    incrementalFrame validateControl decodeHeader buffer offset =
      (frameFormat validateControl decodeHeader).front (buffer.drop offset) := by
  unfold incrementalFrame Framing.Format.front frameFormat
  rw [hoffset]
  dsimp only
  split
  · rename_i hh
    rw [hh]
  · rename_i h hh
    rw [hh, decodeBufferedFrame_drop, List.length_drop]

theorem decodeBufferedFrame_header {b : Bytes} {offset : ℕ} {h : Header} {f : Frame}
    (hok : decodeBufferedFrame validateControl b offset h = .ok f) : f.header = h := by
  unfold decodeBufferedFrame at hok
  dsimp only at hok
  split at hok
  · cases hok
  · split at hok
    · cases hok
    · split at hok
      · cases hok
      · cases hok
        rfl

/-- The frame decoder reads nothing behind the declared length. -/
theorem decodeBufferedFrame_take {b : Bytes} {h : Header} {n : ℕ}
    (hsizes : h.totalLength = kHeaderSize + h.payloadLength + kTrailerSize) (hn : h.totalLength ≤ n) :
    decodeBufferedFrame validateControl (b.take n) 0 h =
      decodeBufferedFrame validateControl b 0 h := by
  have hn' : 44 + h.payloadLength + 4 ≤ n := hsizes ▸ hn
  unfold decodeBufferedFrame
  dsimp only
  rw [slice_take (by omega), slice_take (by omega), slice_take (by omega)]

theorem frameFormat_local (hok : ∀ {data h}, decodeHeader data 0 = .ok h ↔
      kHeaderSize ≤ data.length ∧ r.Accepts h ∧ data.take 44 = headerBytes h.wire) :
    (frameFormat validateControl decodeHeader).Local where
  header_take := by
    intro b h n hn
    change 44 ≤ n at hn
    change decodeHeader (b.take n) 0 = .ok h ↔ decodeHeader b 0 = .ok h
    rw [hok, hok, List.take_take, Nat.min_eq_left hn, List.length_take]
    constructor
    · rintro ⟨hlen, hrest⟩
      exact ⟨hlen.trans (Nat.min_le_right _ _), hrest⟩
    · rintro ⟨hlen, hrest⟩
      exact ⟨Nat.le_min.mpr ⟨hn, hlen⟩, hrest⟩
  header_length := fun hh => (hok.mp hh).1
  headerSize_le := by
    intro b h hh
    obtain ⟨-, -, -, hsizes⟩ := Rules.validateHeader_ok (hok.mp hh).2.1.valid
    change 44 ≤ h.totalLength
    have hsum : h.totalLength = 44 + h.payloadLength + 4 := hsizes
    omega
  body_take := by
    intro b h n hh hn
    obtain ⟨-, -, -, hsizes⟩ := Rules.validateHeader_ok (hok.mp hh).2.1.valid
    exact decodeBufferedFrame_take hsizes hn

/-- The strict decoders of versions 1 and 2. -/
theorem strict_eq (data : Bytes) :
    (match decodeHeader data 0 with
      | .error e => .error e
      | .ok h => decodeWholeFrame validateControl data h : Except FrameError Frame) =
      (frameFormat validateControl decodeHeader).strict
        (fun h n => .declaredLength h.totalLength n) data := by
  unfold Framing.Format.strict frameFormat
  dsimp only
  cases decodeHeader data 0 with
  | error e => rfl
  | ok h =>
    dsimp only
    by_cases hlen : data.length = h.totalLength
    · rw [if_neg (not_not.mpr hlen)]
      exact decodeWholeFrame_eq hlen
    · unfold decodeWholeFrame
      rw [if_pos hlen, if_pos hlen]

/-- Strict on a range of a buffer, incremental at its start. -/
theorem incremental_iff (hoffset : ∀ b o, decodeHeader b o = decodeHeader (b.drop o) 0)
    (hok : ∀ {data h}, decodeHeader data 0 = .ok h ↔
      kHeaderSize ≤ data.length ∧ r.Accepts h ∧ data.take 44 = headerBytes h.wire)
    {buffer : Bytes} {offset n : ℕ} {f : Frame} (hn : offset + n ≤ buffer.length) :
    (match decodeHeader (slice buffer offset n) 0 with
      | .error e => .error e
      | .ok h => decodeWholeFrame validateControl (slice buffer offset n) h :
        Except FrameError Frame) = .ok f ↔
      incrementalFrame validateControl decodeHeader buffer offset = some (.ok f) ∧
        f.header.totalLength = n := by
  have hlocal : (frameFormat validateControl decodeHeader).Local := frameFormat_local hok
  rw [strict_eq, incrementalFrame_eq hoffset]
  unfold slice
  rw [hlocal.strict_take_iff (by rw [List.length_drop]; omega)]
  constructor
  · rintro ⟨h, hh, hsize, hfront⟩
    obtain ⟨h', hh', -, hbody⟩ := Framing.Format.front_ok.mp hfront
    have hheader : f.header = h' := decodeBufferedFrame_header hbody
    have heq : h = h' := Except.ok.inj (hh.symm.trans hh')
    refine ⟨hfront, ?_⟩
    rw [hheader, ← heq]
    exact hsize
  · rintro ⟨hfront, hsize⟩
    obtain ⟨h', hh', -, hbody⟩ := Framing.Format.front_ok.mp hfront
    have hheader : f.header = h' := decodeBufferedFrame_header hbody
    exact ⟨h', hh', hheader ▸ hsize, hfront⟩

end Buffered

/-! ### Version 3 -/

/-- A header that `_decode_v3_header` accepts. -/
structure V3Accepts (h : FrameHeader) : Prop where
  version : h.version = V3.kProtocolVersion
  headerLength : h.headerLength.toNat = kHeaderSize
  checksum : h.checksumAlgorithm = 1
  kind : frameKinds.contains h.kind = true
  sizes : h.totalLength.toNat = kMinFrameBytes + h.payloadLength.toNat
  valid : (if isDataKind h.kind then checkDataHeader h else checkControlHeader h) = .ok h

theorem checkDataHeader_eq {h h' : FrameHeader} (hok : checkDataHeader h = .ok h') : h' = h := by
  unfold checkDataHeader reject at hok
  dsimp only at hok
  simp only [Framing.ite_error_eq_ok, Except.ok.injEq] at hok
  obtain ⟨-, -, -, -, -, -, -, heq⟩ := hok
  exact heq.symm

theorem checkControlHeader_eq {h h' : FrameHeader} (hok : checkControlHeader h = .ok h') :
    h' = h := by
  unfold checkControlHeader reject at hok
  dsimp only at hok
  simp only [Framing.ite_error_eq_ok] at hok
  obtain ⟨-, -, hok⟩ := hok
  split at hok
  · simp only [Framing.ite_error_eq_ok, Except.ok.injEq] at hok
    exact hok.2.2.symm
  · simp only [Framing.ite_error_eq_ok, Except.ok.injEq] at hok
    obtain ⟨-, -, -, -, -, heq⟩ := hok
    exact heq.symm

theorem decodeV3Header_ok {b : Bytes} {h : FrameHeader} :
    decodeV3Header b = .ok h ↔ kHeaderSize ≤ b.length ∧ V3Accepts h ∧ b.take 44 = headerBytes h := by
  unfold decodeV3Header reject
  dsimp only
  constructor
  · intro hok
    simp only [Framing.ite_error_eq_ok] at hok
    obtain ⟨hlen, hmagic, hsize, hchecksum, hkind, htotal, hok⟩ := hok
    simp only [ne_eq, Bool.or_eq_true, decide_eq_true_eq, not_or, not_not] at hmagic hsize
    simp only [Bool.not_eq_true', Bool.not_eq_false] at hkind
    have heq : h = loadHeader b := by
      split at hok
      · exact checkDataHeader_eq hok
      · exact checkControlHeader_eq hok
    subst heq
    refine ⟨Nat.not_lt.mp hlen, ⟨hmagic.2, hsize.1, not_not.mp hchecksum, hkind, not_not.mp htotal,
      hok⟩, ?_⟩
    rw [headerBytes_loadHeader (Nat.not_lt.mp hlen) hmagic.1 hsize.2]
  · rintro ⟨hlen, hacc, hbytes⟩
    have hdata : b = headerBytes h ++ b.drop 44 := by
      rw [← hbytes, List.take_append_drop]
    have hload : loadHeader b = h := by
      rw [hdata, loadHeader_headerBytes]
    have hmagic : leValue (slice b 0 4) = kMagic := by
      rw [hdata, slice_magic]
      exact leValue_leBytes_of_lt (by decide)
    have hreserved : byteAt b 11 = 0 := by
      rw [hdata, byteAt_reserved]
    rw [hload, if_neg (Nat.not_lt.mpr hlen), hmagic, hreserved, hacc.version, hacc.headerLength,
      hacc.checksum, hacc.kind, hacc.sizes]
    simpa using hacc.valid

/-- The longest frame is a data frame. -/
theorem V3Accepts.total_le {h : FrameHeader} (hacc : V3Accepts h) :
    h.totalLength.toNat ≤ maxDataFrameBytes := by
  have hvalid := hacc.valid
  have hsizes : h.totalLength.toNat = 48 + h.payloadLength.toNat := hacc.sizes
  change h.totalLength.toNat ≤ 4108
  split at hvalid
  · unfold checkDataHeader reject at hvalid
    dsimp only at hvalid
    simp only [Framing.ite_error_eq_ok] at hvalid
    have hbound := hvalid.1
    simp only [Bool.or_eq_true, decide_eq_true_eq, not_or, Nat.not_lt] at hbound
    change _ ∧ h.payloadLength.toNat ≤ 12 + 4048 at hbound
    omega
  · unfold checkControlHeader reject at hvalid
    dsimp only at hvalid
    simp only [Framing.ite_error_eq_ok] at hvalid
    have hbound : ¬ 2048 < h.totalLength.toNat := hvalid.1
    omega

section V3

variable {control : FrameHeader → Bytes → Except V3Error Unit}

/-- A check of control payloads as the codec calls it.  The settings of a CONFIGURE
request and a response are decoded without the trailer. -/
def controlOf (control : FrameHeader → Bytes → Except V3Error Unit) (f : V3Frame) :
    Except V3Error Unit :=
  control f.header f.payload

/-- `w` is the wire form of the version 3 frame `f`. -/
structure V3Framed (control : FrameHeader → Bytes → Except V3Error Unit) (f : V3Frame)
    (w : Bytes) : Prop where
  header : V3Accepts f.header
  payload : validatePayload (controlOf control) f = .ok ()
  length : f.payload.length = f.header.payloadLength.toNat
  checksum : f.checksum = computeV3Checksum (headerBytes f.header ++ f.payload)
  bytes : w = headerBytes f.header ++ f.payload ++ leBytes 4 f.checksum

/-- The payload check does not look at the trailer. -/
theorem validatePayload_checksum (h : FrameHeader) (payload : Bytes) (c c' : ℕ) :
    validatePayload (controlOf control) ⟨h, payload, c⟩ =
      validatePayload (controlOf control) ⟨h, payload, c'⟩ := rfl

theorem decodeBufferedV3Frame_ok {b : Bytes} {h : FrameHeader} {f : V3Frame} :
    decodeBufferedV3Frame (controlOf control) b h = .ok f ↔
      f.header = h ∧
        f.payload = slice b kHeaderSize (h.totalLength.toNat - kTrailerSize - kHeaderSize) ∧
        f.checksum = leValue (slice b (h.totalLength.toNat - kTrailerSize) 4) ∧
        f.checksum = computeV3Checksum (b.take (h.totalLength.toNat - kTrailerSize)) ∧
        validatePayload (controlOf control) f = .ok () := by
  unfold decodeBufferedV3Frame
  dsimp only
  rw [Framing.ite_error_eq_ok]
  constructor
  · rintro ⟨hsum, hok⟩
    split at hok
    · cases hok
    · rename_i hvalid
      cases hok
      exact ⟨rfl, rfl, rfl, (not_not.mp hsum).symm, hvalid⟩
  · rintro ⟨rfl, hpayload, hobserved, hexpected, hvalid⟩
    refine ⟨not_not.mpr (hexpected.symm.trans hobserved), ?_⟩
    rw [← hpayload, ← hobserved, hvalid]

theorem computeV3Checksum_lt (data : Bytes) : computeV3Checksum data < 256 ^ 4 := by
  obtain ⟨h1, h2⟩ := Adler.state_lt data (1, 0) (by decide) (by decide)
  unfold Adler.modulus at h1 h2
  unfold computeV3Checksum Adler.adler32
  omega

/-- A whole version 3 frame. -/
theorem v3Framed_iff {data : Bytes} {f : V3Frame} :
    decodeV3Header data = .ok f.header ∧ data.length = f.header.totalLength.toNat ∧
        decodeBufferedV3Frame (controlOf control) data f.header = .ok f ↔
      V3Framed control f data := by
  rw [decodeV3Header_ok, decodeBufferedV3Frame_ok]
  constructor
  · rintro ⟨⟨hlen, hacc, hbytes⟩, htotal, -, hpayload, hobserved, hexpected, hvalid⟩
    have hsizes : f.header.totalLength.toNat = 48 + f.header.payloadLength.toNat := hacc.sizes
    have hstop : f.header.totalLength.toNat - kTrailerSize = 44 + f.header.payloadLength.toNat := by
      change f.header.totalLength.toNat - 4 = _
      omega
    rw [hstop] at hpayload hobserved hexpected
    have hfront : headerBytes f.header ++ f.payload =
        data.take (44 + f.header.payloadLength.toNat) := by
      rw [← hbytes, hpayload, show 44 + f.header.payloadLength.toNat - kHeaderSize =
        f.header.payloadLength.toNat from Nat.add_sub_cancel_left _ _]
      exact take_append_slice data 44 _
    refine ⟨hacc, hvalid, ?_, by rw [hfront, hexpected], ?_⟩
    · rw [hpayload, length_slice]
      change min (44 + f.header.payloadLength.toNat - 44) (data.length - 44) = _
      omega
    · rw [hfront, hobserved, leBytes_slice (by omega), take_append_slice]
      exact (List.take_of_length_le (by omega)).symm
  · rintro ⟨hacc, hvalid, hplen, hsum, hdata⟩
    have hsizes : f.header.totalLength.toNat = 48 + f.header.payloadLength.toNat := hacc.sizes
    have hstop : f.header.totalLength.toNat - kTrailerSize = 44 + f.header.payloadLength.toNat := by
      change f.header.totalLength.toNat - 4 = _
      omega
    have hhead : (headerBytes f.header).length = 44 := length_headerBytes _
    have hbody : (headerBytes f.header ++ f.payload).length =
        44 + f.header.payloadLength.toNat := by
      rw [List.length_append, hhead, hplen]
    have hlength : data.length = f.header.totalLength.toNat := by
      rw [hdata, List.length_append, hbody, length_leBytes]
      omega
    have hpay : 44 + f.header.payloadLength.toNat - kHeaderSize = f.header.payloadLength.toNat :=
      Nat.add_sub_cancel_left _ _
    rw [hstop, hpay]
    refine ⟨⟨?_, hacc, ?_⟩, hlength, rfl, ?_, ?_, ?_, hvalid⟩
    · change 44 ≤ data.length
      omega
    · rw [hdata, List.append_assoc, List.take_left' hhead]
    · rw [hdata, slice_append_left (by rw [hbody]), slice_append_right hhead.le, hhead]
      exact (slice_self hplen).symm
    · rw [hdata, slice_append_right (by rw [hbody]), hbody, Nat.sub_self,
        slice_self (length_leBytes 4 _), leValue_leBytes_of_lt (hsum ▸ computeV3Checksum_lt _)]
    · rw [hdata, List.take_left' hbody, hsum]

theorem decodeV3Frame_ok {data : Bytes} {f : V3Frame} :
    decodeV3Frame (controlOf control) data = .ok f ↔ V3Framed control f data := by
  rw [← v3Framed_iff]
  unfold decodeV3Frame reject
  rw [Framing.ite_error_eq_ok]
  constructor
  · rintro ⟨-, hok⟩
    split at hok
    · cases hok
    · rename_i h hh
      rw [Framing.ite_error_eq_ok] at hok
      obtain ⟨hlen, hok⟩ := hok
      obtain ⟨hheader, -⟩ := decodeBufferedV3Frame_ok.mp hok
      subst hheader
      exact ⟨hh, not_not.mp hlen, hok⟩
  · rintro ⟨hh, hlen, hok⟩
    obtain ⟨-, hacc, -⟩ := decodeV3Header_ok.mp hh
    have hsizes : f.header.totalLength.toNat = 48 + f.header.payloadLength.toNat := hacc.sizes
    have hmax : f.header.totalLength.toNat ≤ 4108 := hacc.total_le
    refine ⟨?_, ?_⟩
    · simp only [Bool.or_eq_true, decide_eq_true_eq, not_or, Nat.not_lt]
      change 48 ≤ data.length ∧ data.length ≤ 4108
      omega
    · rw [hh]
      dsimp only
      rw [if_neg (not_not.mpr hlen), hok]

theorem encodeV3Frame_ok {frameFlag : IntFlag} {a : EncodeArgs} {w : Bytes} :
    encodeV3Frame (controlOf control) frameFlag a = .ok w ↔
      a.payload.length ≤ kDataPrefixBytes + maxEncodedSampleBytes ∧
        ∃ kind, enumMember frameKinds a.kind = some kind ∧
          (a.v3Header kind (frameFlag.convert a.flags)).fits ∧
          V3Framed control
            ⟨(a.v3Header kind (frameFlag.convert a.flags)).wire, a.payload,
              computeV3Checksum
                (headerBytes (a.v3Header kind (frameFlag.convert a.flags)).wire ++ a.payload)⟩ w := by
  unfold encodeV3Frame reject
  rw [Framing.ite_error_eq_ok, Nat.not_lt]
  refine and_congr_right fun hlen => ?_
  cases hkind : enumMember frameKinds a.kind with
  | none => exact ⟨fun h => (by cases h), fun ⟨_, h, _⟩ => (by cases h)⟩
  | some kind =>
    dsimp only
    rw [Framing.ite_error_eq_ok, not_not]
    constructor
    · rintro ⟨hfits, hok⟩
      refine ⟨kind, rfl, hfits, ?_⟩
      split at hok
      · cases hok
      · rename_i h hh
        split at hok
        · cases hok
        · rename_i hvalid
          cases hok
          obtain ⟨-, hacc, hbytes⟩ := decodeV3Header_ok.mp hh
          -- The header comes back from its own bytes.
          have hheader : (a.v3Header kind (frameFlag.convert a.flags)).wire = h := by
            rw [List.take_of_length_le (length_headerBytes _).le] at hbytes
            exact headerBytes_inj hbytes
          have hlength : a.payload.length = h.payloadLength.toNat := by
            rw [← hheader]
            exact (UInt32.toNat_ofNat_of_lt' hfits.2.2.2.1).symm
          rw [hheader]
          exact ⟨hacc, (validatePayload_checksum _ _ _ 0).trans hvalid, hlength, rfl, rfl⟩
    · rintro ⟨kind', hsome, hfits, hframed⟩
      cases hsome
      have hh : decodeV3Header (headerBytes (a.v3Header kind (frameFlag.convert a.flags)).wire) =
          .ok (a.v3Header kind (frameFlag.convert a.flags)).wire := by
        apply decodeV3Header_ok.mpr
        exact ⟨(length_headerBytes _).ge, hframed.header,
          List.take_of_length_le (length_headerBytes _).le⟩
      have hvalid : validatePayload (controlOf control)
          ⟨(a.v3Header kind (frameFlag.convert a.flags)).wire, a.payload, 0⟩ = .ok () :=
        (validatePayload_checksum _ _ 0 _).trans hframed.payload
      refine ⟨hfits, ?_⟩
      rw [hh]
      dsimp only
      rw [hvalid]
      exact congrArg Except.ok hframed.bytes.symm

/-- The arguments for a version 3 frame. -/
def V3Frame.args (f : V3Frame) : EncodeArgs where
  kind := f.header.kind.toNat
  payload := f.payload
  flags := f.header.flags.toNat
  runId := f.header.runId.toNat
  sequence := f.header.sequence.toNat
  requestId := f.header.requestId.toNat
  firstSampleTicks := f.header.firstSampleTicks.toNat
  itemCount := f.header.itemCount.toNat

theorem encodeV3Frame_framed {frameFlag : IntFlag} {a : EncodeArgs} {w : Bytes}
    (h : encodeV3Frame (controlOf control) frameFlag a = .ok w) :
    ∃ f, V3Framed control f w ∧
      a.Describes (frameFlag.convert a.flags) (Header.ofWire f.header) f.payload := by
  obtain ⟨-, kind, hkind, hfits, hframed⟩ := encodeV3Frame_ok.mp h
  obtain ⟨-, hval⟩ := enumMember_some hkind
  refine ⟨_, hframed, ?_⟩
  dsimp only
  rw [Header.ofWire_wire hfits]
  exact ⟨hval, rfl, rfl, rfl, rfl, rfl, rfl, rfl⟩

theorem V3Framed.encodeV3Frame {frameFlag : IntFlag} {f : V3Frame} {w : Bytes}
    (h : V3Framed control f w) : encodeV3Frame (controlOf control) frameFlag f.args = .ok w := by
  have hsizes : f.header.totalLength.toNat = 48 + f.header.payloadLength.toNat := h.header.sizes
  have hmax : f.header.totalLength.toNat ≤ 4108 := h.header.total_le
  have hflags : frameFlag.convert f.args.flags = f.header.flags.toNat :=
    frameFlag.keeps _ (Int.natCast_nonneg _)
  have hheader : f.args.v3Header f.header.kind (frameFlag.convert f.args.flags) =
      Header.ofWire f.header := by
    rw [hflags]
    unfold EncodeArgs.v3Header V3Frame.args Header.ofWire
    dsimp only
    rw [h.length, ← h.header.sizes, h.header.version, h.header.headerLength, h.header.checksum]
    rfl
  apply encodeV3Frame_ok.mpr
  refine ⟨?_, f.header.kind, enumMember_of_contains h.header.kind, ?_, ?_⟩
  · change f.payload.length ≤ 12 + 4048
    rw [h.length]
    omega
  · rw [hheader]
    exact Header.fits_ofWire _
  · have hframe : (⟨f.header, f.payload, computeV3Checksum (headerBytes f.header ++ f.payload)⟩ :
        V3Frame) = f := by
      rw [← h.checksum]
    rw [hheader, Header.wire_ofWire]
    exact hframe.symm ▸ h

/-! ### Buffered decoding of version 3 -/

def v3Format (control : FrameHeader → Bytes → Except V3Error Unit) :
    Framing.Format UInt8 V3Error FrameHeader V3Frame where
  headerSize := kHeaderSize
  decodeHeader := decodeV3Header
  size := fun h => h.totalLength.toNat
  decodeBody := decodeBufferedV3Frame (controlOf control)

theorem v3Format_local : (v3Format control).Local where
  header_take := by
    intro b h n hn
    change 44 ≤ n at hn
    change decodeV3Header (b.take n) = .ok h ↔ decodeV3Header b = .ok h
    rw [decodeV3Header_ok, decodeV3Header_ok, List.take_take, Nat.min_eq_left hn, List.length_take]
    constructor
    · rintro ⟨hlen, hrest⟩
      exact ⟨hlen.trans (Nat.min_le_right _ _), hrest⟩
    · rintro ⟨hlen, hrest⟩
      exact ⟨Nat.le_min.mpr ⟨hn, hlen⟩, hrest⟩
  header_length := fun hh => (decodeV3Header_ok.mp hh).1
  headerSize_le := by
    intro b h hh
    have hsizes : h.totalLength.toNat = 48 + h.payloadLength.toNat :=
      (decodeV3Header_ok.mp hh).2.1.sizes
    change 44 ≤ h.totalLength.toNat
    omega
  body_take := by
    intro b h n hh hn
    have hsizes : h.totalLength.toNat = 48 + h.payloadLength.toNat :=
      (decodeV3Header_ok.mp hh).2.1.sizes
    change h.totalLength.toNat ≤ n at hn
    change decodeBufferedV3Frame (controlOf control) (b.take n) h =
      decodeBufferedV3Frame (controlOf control) b h
    have hstop : h.totalLength.toNat - kTrailerSize + 4 ≤ n := by
      change h.totalLength.toNat - 4 + 4 ≤ n
      omega
    have hpayload : kHeaderSize + (h.totalLength.toNat - kTrailerSize - kHeaderSize) ≤ n := by
      change 44 + (h.totalLength.toNat - 4 - 44) ≤ n
      omega
    unfold decodeBufferedV3Frame
    dsimp only
    rw [List.take_take, Nat.min_eq_left (by omega), slice_take hstop, slice_take hpayload]

/-- The incremental parser at a position of its buffer. -/
def incrementalV3Frame (validateControl : V3Frame → Except V3Error Unit) (buffer : Bytes)
    (offset : ℕ) : Option (Except V3Error V3Frame) :=
  match decodeV3Header (buffer.drop offset) with
  | .error e => some (.error e)
  | .ok h =>
    if buffer.length - offset < h.totalLength.toNat then none
    else some (decodeBufferedV3FrameAt validateControl buffer offset h)

theorem incrementalV3_iff {buffer : Bytes} {offset n : ℕ} {f : V3Frame}
    (hn : offset + n ≤ buffer.length) :
    decodeV3Frame (controlOf control) (slice buffer offset n) = .ok f ↔
      incrementalV3Frame (controlOf control) buffer offset = some (.ok f) ∧
        f.header.totalLength.toNat = n := by
  have hfront : incrementalV3Frame (controlOf control) buffer offset =
      (v3Format control).front (buffer.drop offset) := by
    unfold incrementalV3Frame Framing.Format.front v3Format
    dsimp only
    cases decodeV3Header (buffer.drop offset) with
    | error e => rfl
    | ok h =>
      dsimp only
      rw [List.length_drop]
      rfl
  have hstrict : decodeV3Frame (controlOf control) (slice buffer offset n) = .ok f ↔
      (v3Format control).strict (fun _ _ => .validation "truncated or trailing frame bytes")
        ((buffer.drop offset).take n) = .ok f := by
    rw [decodeV3Frame_ok, ← v3Framed_iff, Framing.Format.strict_ok]
    constructor
    · rintro ⟨hh, hlen, hbody⟩
      exact ⟨f.header, hh, hlen, hbody⟩
    · rintro ⟨h, hh, hlen, hbody⟩
      obtain ⟨hheader, -⟩ := decodeBufferedV3Frame_ok.mp hbody
      subst hheader
      exact ⟨hh, hlen, hbody⟩
  rw [hstrict, hfront, v3Format_local.strict_take_iff (by rw [List.length_drop]; omega)]
  constructor
  · rintro ⟨h, hh, hsize, hok⟩
    obtain ⟨h', hh', -, hbody⟩ := Framing.Format.front_ok.mp hok
    obtain ⟨hheader, -⟩ := decodeBufferedV3Frame_ok.mp hbody
    have heq : h = h' := Except.ok.inj (hh.symm.trans hh')
    refine ⟨hok, ?_⟩
    rw [hheader, ← heq]
    exact hsize
  · rintro ⟨hok, hsize⟩
    obtain ⟨h', hh', -, hbody⟩ := Framing.Format.front_ok.mp hok
    obtain ⟨hheader, -⟩ := decodeBufferedV3Frame_ok.mp hbody
    exact ⟨h', hh', hheader ▸ hsize, hok⟩

end V3

/-! ### The three codecs -/

/-- An encoder, a strict decoder and a decoder from a buffer that agree. -/
structure RoundTrips {ε φ : Type} (encode : EncodeArgs → Except ε Bytes)
    (decode : Bytes → Except ε φ) (incremental : Bytes → ℕ → Option (Except ε φ))
    (args : φ → EncodeArgs) (describes : EncodeArgs → φ → Prop) (totalLength : φ → ℕ) : Prop where
  /-- What is encoded is decoded, to the fields and the payload it was made from. -/
  decode_encode : ∀ a w, encode a = .ok w → ∃ f, decode w = .ok f ∧ describes a f
  /-- What is decoded is encoded, to the same bytes. -/
  encode_decode : ∀ w f, decode w = .ok f → encode (args f) = .ok w
  /-- A range of a buffer is a frame exactly when the buffered decoder finds that
  frame, of that length, at its start. -/
  incremental_iff : ∀ buffer offset n f, offset + n ≤ buffer.length →
    (decode (slice buffer offset n) = .ok f ↔
      incremental buffer offset = some (.ok f) ∧ totalLength f = n)

/-- Each version's codec is inverse on its image, and its buffered decoder agrees with
the strict one, whatever its check of control payloads is. -/
theorem codecs_inverse (control₁ control₂ : Header → Bytes → Except FrameError Unit)
    (control₃ : FrameHeader → Bytes → Except V3Error Unit) (frameFlag : IntFlag) :
    RoundTrips (encodeFrame control₁) (decodeFrame control₁)
        (incrementalFrame control₁ decodeHeader) Frame.args
        (fun a f => a.Describes a.flags f.header f.payload ∧
          (f.header.checksumAlgorithm.toNat : ℤ) = a.checksumAlgorithm.getD 1)
        (fun f => f.header.totalLength) ∧
      RoundTrips (encodeV2Frame control₂ frameFlag) (decodeV2Frame control₂)
        (incrementalFrame control₂ decodeV2Header) Frame.args
        (fun a f => a.Describes (frameFlag.convert a.flags) f.header f.payload ∧
          (f.header.checksumAlgorithm.toNat : ℤ) = a.checksumAlgorithm.getD 1)
        (fun f => f.header.totalLength) ∧
      RoundTrips (encodeV3Frame (controlOf control₃) frameFlag) (decodeV3Frame (controlOf control₃))
        (incrementalV3Frame (controlOf control₃)) V3Frame.args
        (fun a f => a.Describes (frameFlag.convert a.flags) (Header.ofWire f.header) f.payload)
        (fun f => f.header.totalLength.toNat) := by
  refine ⟨⟨?_, ?_, ?_⟩, ⟨?_, ?_, ?_⟩, ⟨?_, ?_, ?_⟩⟩
  · intro a w h
    obtain ⟨f, hf, hdescribes⟩ := encodeFrame_framed h
    exact ⟨f, decodeFrame_ok.mpr hf, hdescribes⟩
  · intro w f h
    exact (decodeFrame_ok.mp h).encodeFrame
  · intro buffer offset n f hn
    exact incremental_iff (fun _ _ => rfl) decodeHeader_ok hn
  · intro a w h
    obtain ⟨f, hf, hdescribes⟩ := encodeV2Frame_framed h
    exact ⟨f, decodeV2Frame_ok.mpr hf, hdescribes⟩
  · intro w f h
    exact (decodeV2Frame_ok.mp h).encodeV2Frame
  · intro buffer offset n f hn
    exact incremental_iff (fun _ _ => rfl) decodeV2Header_ok hn
  · intro a w h
    obtain ⟨f, hf, hdescribes⟩ := encodeV3Frame_framed h
    exact ⟨f, decodeV3Frame_ok.mpr hf, hdescribes⟩
  · intro w f h
    exact (decodeV3Frame_ok.mp h).encodeV3Frame
  · intro buffer offset n f hn
    exact incrementalV3_iff hn

/-- A version 1 PING, out and back. -/
example :
    let ping : EncodeArgs := { kind := 22, payload := [1, 2, 3, 4, 5, 6, 7, 8], requestId := 9 }
    ((encodeFrame (fun _ _ => .ok ()) ping).bind (decodeFrame fun _ _ => .ok ())).map
      (fun f => (f.header.requestId, f.payload)) = .ok (9, ping.payload) := by
  decide +kernel

end ThingDaq.Host
