import ThingDaq.Firmware.Requests
import ThingDaq.Host.RoundTrip

/-!
# Control frames of version 3

Both ends check a frame before they look at its payload: the firmware with
`validateV3Header` and `decodeFrame` (`protocol.cpp`), the host with `_decode_v3_header` and
`decode_v3_frame` (`protocol_v3.py`).  The checks come in another order, from other tables,
and with other bounds on the length.  For control frames they accept the same bytes.

## Main definitions

* `ControlFields` — what both ask of the header of a control frame.

## Main results

* `validateV3Header_iff`, `v3Accepts_iff` — each check is that.
* `decodeFrame_framed` — the firmware decodes what the host has framed.
* `control_frames_agree` — either end decodes a control frame to what the other does.
-/

namespace ThingDaq.Link

open Wire Commands

/-! ### The kinds -/

theorem v3Request_iff {k : FrameKind} : v3Request k = true ↔
    k = 16 ∨ k = 17 ∨ k = 18 ∨ k = 19 ∨ k = 20 ∨ k = 28 ∨ k = 29 := by
  unfold v3Request v3RequestKinds
  simp only [List.contains_eq_mem, List.mem_cons, List.not_mem_nil, or_false, decide_eq_true_eq]

theorem host_request_eq (k : FrameKind) : Host.requestKinds.contains k = v3Request k := rfl

/-- The same table, entry by entry, and the other as a formula. -/
theorem controlKind_iff (k : FrameKind) :
    Host.frameKinds.contains k = true ∧ isDataKind k = false ↔
      v3Request k = true ∨ v3Response k = true ∨ k = FrameKind.errorResponse := by
  have hall : ∀ n < 256, (Host.frameKinds.contains (UInt8.ofNat n) && !isDataKind (UInt8.ofNat n)) =
      (v3Request (UInt8.ofNat n) || v3Response (UInt8.ofNat n) ||
        decide (UInt8.ofNat n = FrameKind.errorResponse)) := by
    decide +kernel
  have hk := hall k.toNat k.toNat_lt
  rw [UInt8.ofNat_toNat] at hk
  rw [← Bool.not_eq_true', ← Bool.and_eq_true, hk, Bool.or_eq_true, Bool.or_eq_true, decide_eq_true_eq,
    or_assoc]

theorem not_response_of_request {k : FrameKind} (h : v3Request k = true) :
    isDataKind k = false ∧ v3Response k = false ∧ k ≠ FrameKind.errorResponse ∧
      k ≠ FrameKind.startResponse := by
  rcases v3Request_iff.mp h with rfl | rfl | rfl | rfl | rfl | rfl | rfl <;> decide

/-- The size tables agree on responses. -/
theorem responseSize_eq {k : FrameKind} (h : v3Response k = true ∨ k = FrameKind.errorResponse)
    (error : Bool) : v3PayloadSize k error =
      if k = FrameKind.errorResponse then 8 else if error then 4 else Host.responseSize k := by
  have hall : ∀ n < 256, (v3Response (UInt8.ofNat n) = true ∨ UInt8.ofNat n = FrameKind.errorResponse) →
      ∀ error, v3PayloadSize (UInt8.ofNat n) error =
        if UInt8.ofNat n = FrameKind.errorResponse then 8 else if error then 4
        else Host.responseSize (UInt8.ofNat n) := by
    decide +kernel
  have hk := hall k.toNat k.toNat_lt
  rw [UInt8.ofNat_toNat] at hk
  exact hk h error

theorem payloadSize_le (k : FrameKind) (error : Bool) : v3PayloadSize k error ≤ 1404 := by
  unfold v3PayloadSize
  repeat' split
  all_goals decide

/-! ### The header -/

/-- The flags of a response say that it reports an error. -/
def reportsError (h : FrameHeader) : Bool := h.flags &&& flagResponseError ≠ 0

structure RequestFields (h : FrameHeader) : Prop where
  kind : v3Request h.kind = true
  flags : h.flags = 0
  runId : h.runId = 0
  requestId : h.requestId ≠ 0
  payload : h.payloadLength.toNat = if h.kind = FrameKind.configureRequest then 20 else 0

structure ResponseFields (h : FrameHeader) : Prop where
  kind : v3Response h.kind = true ∨ h.kind = FrameKind.errorResponse
  flags : h.flags &&& ~~~flagResponseError = 0
  requestId : h.requestId = 0 → reportsError h = true
  generic : h.kind = FrameKind.errorResponse → reportsError h = true
  start : h.kind = FrameKind.startResponse → reportsError h = false → h.runId ≠ 0
  payload : h.payloadLength.toNat = v3PayloadSize h.kind (reportsError h)

/-- What both ends ask of the header of a control frame. -/
structure ControlFields (h : FrameHeader) : Prop where
  headerLength : h.headerLength.toNat = kHeaderSize
  checksum : h.checksumAlgorithm = ChecksumAlgorithm.adler32
  zeros : h.sequence = 0 ∧ h.firstSampleTicks = 0 ∧ h.itemCount = 0
  total : h.totalLength.toNat = kMinFrameBytes + h.payloadLength.toNat
  role : RequestFields h ∨ ResponseFields h

variable {h : FrameHeader}

theorem not_request_of_response {k : FrameKind}
    (h : v3Response k = true ∨ k = FrameKind.errorResponse) : v3Request k = false := by
  by_contra hrequest
  obtain ⟨-, hresponse, hgeneric, -⟩ := not_response_of_request (Bool.not_eq_false _ ▸ hrequest)
  rcases h with h | h
  · rw [hresponse] at h
    cases h
  · exact hgeneric h

theorem ControlFields.payload_le (hf : ControlFields h) : h.payloadLength.toNat ≤ 1404 := by
  rcases hf.role with hr | hr
  · rw [hr.payload]
    split <;> decide
  · rw [hr.payload]
    exact payloadSize_le _ _

theorem ControlFields.kind (hf : ControlFields h) :
    Host.frameKinds.contains h.kind = true ∧ isDataKind h.kind = false := by
  refine (controlKind_iff _).mpr ?_
  rcases hf.role with hr | hr
  · exact .inl hr.kind
  · exact .inr hr.kind

theorem and_complement_zero {flags : UInt16} : flags &&& ~~~0 = 0 ↔ flags = 0 := by
  rw [UInt16.not_zero, UInt16.and_neg_one]

/-- A request without flags has the size of its kind. -/
theorem requestSize (h0 : h.flags = 0) (hrequest : v3Request h.kind = true) :
    v3PayloadSize h.kind (reportsError h) = if h.kind = FrameKind.configureRequest then 20 else 0 := by
  have herror : reportsError h = false := by
    unfold reportsError
    rw [h0]
    rfl
  unfold v3PayloadSize
  rw [if_neg (not_response_of_request hrequest).2.2.1, herror, if_neg Bool.false_ne_true, if_pos hrequest]

/-- The firmware's check. -/
theorem validateV3Header_iff : (validateV3Header h false).isOk = true ↔ ControlFields h := by
  have herror : (decide (h.flags &&& flagResponseError ≠ 0)) = reportsError h := rfl
  have hzero : reportsError h = true ↔ ¬ h.flags &&& flagResponseError = 0 := decide_eq_true_iff
  unfold validateV3Header
  dsimp only
  rw [herror, isOk_ite rfl, isOk_ite rfl, isOk_ite rfl, isOk_ite rfl, isOk_ite rfl, isOk_ite rfl]
  simp only [Bool.false_and, Bool.or_false, Bool.and_eq_true, Bool.or_eq_true, Bool.not_eq_true',
    decide_eq_true_eq, decide_eq_false_iff_not, not_or, not_and, ne_eq, not_not, Bool.not_eq_false]
  cases hrequest : v3Request h.kind with
  | true =>
    obtain ⟨-, -, hgeneric, hstart⟩ := not_response_of_request hrequest
    rw [if_pos rfl, if_pos rfl]
    constructor
    · rintro ⟨-, hid, ⟨hflags, -⟩, ⟨⟨⟨hlength, hpayload⟩, htotal⟩, -⟩, hchecksum,
        ⟨⟨⟨⟨hsequence, hticks⟩, hitems⟩, hrun⟩, -⟩, -⟩
      have hnone := and_complement_zero.mp hflags
      rw [requestSize hnone hrequest] at hpayload
      exact ⟨hlength, hchecksum, ⟨hsequence, hticks, hitems⟩, htotal,
        .inl ⟨hrequest, hnone, hrun rfl, fun h0 => (hid h0).1 rfl, hpayload⟩⟩
    · rintro ⟨hlength, hchecksum, ⟨hsequence, hticks, hitems⟩, htotal, hr | hr⟩
      · have hpayload := hr.payload
        have hsmall : ¬ V3.kMaxCommandFrameBytes < h.totalLength.toNat := by
          change ¬ 68 < h.totalLength.toNat
          change _ = 48 + _ at htotal
          split at hpayload <;> omega
        rw [← requestSize hr.flags hrequest] at hpayload
        exact ⟨fun hf => absurd hf.1 (by decide), fun h0 => absurd h0 hr.requestId,
          ⟨and_complement_zero.mpr hr.flags, fun hk => absurd hk hgeneric⟩,
          ⟨⟨⟨hlength, hpayload⟩, htotal⟩, hsmall⟩, hchecksum,
          ⟨⟨⟨⟨hsequence, hticks⟩, hitems⟩, fun _ => hr.runId⟩, fun hs => absurd hs.1 hstart⟩, rfl⟩
      · rw [not_request_of_response hr.kind] at hrequest
        cases hrequest
  | false =>
    rw [if_neg Bool.false_ne_true, if_neg Bool.false_ne_true]
    constructor
    · rintro ⟨hkind, hid, ⟨hflags, hgeneric⟩, ⟨⟨⟨hlength, hpayload⟩, htotal⟩, -⟩, hchecksum,
        ⟨⟨⟨⟨hsequence, hticks⟩, hitems⟩, -⟩, hstart⟩, -⟩
      refine ⟨hlength, hchecksum, ⟨hsequence, hticks, hitems⟩, htotal, .inr ⟨?_, hflags, ?_, ?_, ?_,
        hpayload⟩⟩
      · cases hresponse : v3Response h.kind with
        | true => exact .inl rfl
        | false => exact .inr (hkind ⟨rfl, hresponse⟩)
      · exact fun h0 => (hid h0).2
      · exact hgeneric
      · exact fun hk hf => hstart ⟨hk, hf⟩
    · rintro ⟨hlength, hchecksum, ⟨hsequence, hticks, hitems⟩, htotal, hr | hr⟩
      · rw [hr.kind] at hrequest
        cases hrequest
      · have hsmall : ¬ V3.kMaxControlFrameBytes < h.totalLength.toNat := by
          have hle := payloadSize_le h.kind (reportsError h)
          rw [← hr.payload] at hle
          change ¬ 2048 < h.totalLength.toNat
          change _ = 48 + _ at htotal
          omega
        refine ⟨?_, fun h0 => ⟨Bool.false_ne_true, hr.requestId h0⟩, ⟨hr.flags, hr.generic⟩,
          ⟨⟨⟨hlength, hr.payload⟩, htotal⟩, hsmall⟩, hchecksum,
          ⟨⟨⟨⟨hsequence, hticks⟩, hitems⟩, fun hf => absurd hf Bool.false_ne_true⟩,
            fun hs => hr.start hs.1 hs.2⟩, rfl⟩
        rintro ⟨-, hnone⟩
        refine hr.kind.resolve_left fun hresponse => ?_
        rw [hnone] at hresponse
        cases hresponse

/-! ### The host -/

theorem checkControlHeader_request (hrequest : v3Request h.kind = true) :
    Host.checkControlHeader h = .ok h ↔ h.totalLength.toNat ≤ 2048 ∧
      (h.sequence = 0 ∧ h.firstSampleTicks = 0 ∧ h.itemCount = 0) ∧ RequestFields h := by
  have hkinds : Host.requestKinds.contains h.kind = true := hrequest
  unfold Host.checkControlHeader Host.reject
  dsimp only
  rw [hkinds, if_pos rfl]
  simp only [Framing.ite_error_eq_ok, Bool.or_eq_true, decide_eq_true_eq, not_or, ne_eq, not_not,
    Nat.not_lt]
  constructor
  · rintro ⟨hsmall, ⟨⟨hsequence, hticks⟩, hitems⟩, ⟨⟨hflags, hrun⟩, hid⟩, hpayload, -⟩
    exact ⟨hsmall, ⟨hsequence, hticks, hitems⟩, hrequest, hflags, hrun, hid, hpayload⟩
  · rintro ⟨hsmall, ⟨hsequence, hticks, hitems⟩, hr⟩
    exact ⟨hsmall, ⟨⟨hsequence, hticks⟩, hitems⟩, ⟨⟨hr.flags, hr.runId⟩, hr.requestId⟩, hr.payload, trivial⟩

theorem checkControlHeader_response (hkind : v3Response h.kind = true ∨ h.kind = FrameKind.errorResponse) :
    Host.checkControlHeader h = .ok h ↔ h.totalLength.toNat ≤ 2048 ∧
      (h.sequence = 0 ∧ h.firstSampleTicks = 0 ∧ h.itemCount = 0) ∧ ResponseFields h := by
  have herror : (decide (h.flags &&& flagResponseError ≠ 0)) = reportsError h := rfl
  have hkinds : Host.requestKinds.contains h.kind = false := not_request_of_response hkind
  unfold Host.checkControlHeader Host.reject
  dsimp only
  rw [herror, hkinds, if_neg Bool.false_ne_true, ← responseSize_eq hkind]
  simp only [Framing.ite_error_eq_ok, Bool.or_eq_true, Bool.and_eq_true, Bool.not_eq_true',
    decide_eq_true_eq, not_or, not_and, ne_eq, not_not, Nat.not_lt, Bool.not_eq_false]
  constructor
  · rintro ⟨hsmall, ⟨⟨hsequence, hticks⟩, hitems⟩, hflags, hid, hgeneric, hstart, hpayload, -⟩
    exact ⟨hsmall, ⟨hsequence, hticks, hitems⟩, hkind, hflags, hid, hgeneric,
      fun hk hf => hstart ⟨hk, hf⟩, hpayload⟩
  · rintro ⟨hsmall, ⟨hsequence, hticks, hitems⟩, hr⟩
    exact ⟨hsmall, ⟨⟨hsequence, hticks⟩, hitems⟩, hr.flags, hr.requestId, hr.generic,
      fun hs => hr.start hs.1 hs.2, hr.payload, trivial⟩

/-- The host's check. -/
theorem v3Accepts_iff : Host.V3Accepts h ∧ isDataKind h.kind = false ↔
    h.version = V3.kProtocolVersion ∧ ControlFields h := by
  constructor
  · rintro ⟨hacc, hdata⟩
    have hvalid := hacc.valid
    rw [hdata, if_neg Bool.false_ne_true] at hvalid
    refine ⟨hacc.version, ?_⟩
    cases hrequest : v3Request h.kind with
    | true =>
      obtain ⟨-, hzeros, hr⟩ := (checkControlHeader_request hrequest).mp hvalid
      exact ⟨hacc.headerLength, hacc.checksum, hzeros, hacc.sizes, .inl hr⟩
    | false =>
      have hkind := ((controlKind_iff h.kind).mp ⟨hacc.kind, hdata⟩).resolve_left
        (Bool.eq_false_iff.mp hrequest)
      obtain ⟨-, hzeros, hr⟩ := (checkControlHeader_response hkind).mp hvalid
      exact ⟨hacc.headerLength, hacc.checksum, hzeros, hacc.sizes, .inr hr⟩
  · rintro ⟨hversion, hf⟩
    obtain ⟨hkinds, hdata⟩ := hf.kind
    have hsmall : h.totalLength.toNat ≤ 2048 := by
      have hle := hf.payload_le
      have htotal : h.totalLength.toNat = 48 + h.payloadLength.toNat := hf.total
      omega
    refine ⟨⟨hversion, hf.headerLength, hf.checksum, hkinds, hf.total, ?_⟩, hdata⟩
    rw [hdata, if_neg Bool.false_ne_true]
    rcases hf.role with hr | hr
    · exact (checkControlHeader_request hr.kind).mpr ⟨hsmall, hf.zeros, hr⟩
    · exact (checkControlHeader_response hr.kind).mpr ⟨hsmall, hf.zeros, hr⟩

/-! ### The bytes -/

/-- The firmware's header decoder, on a header of version 3. -/
theorem decodeHeader_v3 {b : Bytes} :
    decodeHeader b false = .ok h ∧ h.version = V3.kProtocolVersion ↔
      Host.decodeV3Header b = .ok h ∧ isDataKind h.kind = false := by
  have hallowed : h.checksumAlgorithm = ChecksumAlgorithm.adler32 →
      (!isKnownChecksum h.checksumAlgorithm ||
        !checksumAllowedForKind h.kind h.checksumAlgorithm) = false := by
    intro hchecksum
    rw [hchecksum]
    unfold checksumAllowedForKind
    rw [decide_eq_true (rfl : ChecksumAlgorithm.adler32 = ChecksumAlgorithm.adler32), Bool.or_true]
    rfl
  have hheader : h.version = V3.kProtocolVersion →
      ((validateHeader h false).isOk = true ↔ ControlFields h) := by
    intro hversion
    unfold validateHeader
    dsimp only
    rw [if_pos hversion]
    exact validateV3Header_iff
  rw [Host.decodeV3Header_ok]
  unfold decodeHeader
  dsimp only
  constructor
  · rintro ⟨hok, hversion⟩
    simp only [Framing.ite_error_eq_ok] at hok
    obtain ⟨hlen, hmagic, -, -, -, -, hvalid, hreserved, heq⟩ := hok
    cases heq
    rw [Bool.not_eq_true', Bool.not_eq_false] at hvalid
    rw [decide_eq_true hversion, Bool.true_and, decide_eq_true_eq, not_not] at hreserved
    obtain ⟨hacc, hdata⟩ := v3Accepts_iff.mpr ⟨hversion, (hheader hversion).mp hvalid⟩
    exact ⟨⟨Nat.not_lt.mp hlen, hacc, (Host.headerBytes_loadHeader (Nat.not_lt.mp hlen)
      (not_not.mp hmagic) hreserved).symm⟩, hdata⟩
  · rintro ⟨⟨hlen, hacc, hbytes⟩, hdata⟩
    obtain ⟨hversion, hf⟩ := v3Accepts_iff.mp ⟨hacc, hdata⟩
    have hb : b = headerBytes h ++ b.drop 44 := by
      rw [← hbytes, List.take_append_drop]
    have hload : loadHeader b = h := by
      rw [hb, loadHeader_headerBytes]
    have hmagic : leValue (slice b 0 4) = kMagic := by
      rw [hb, slice_magic]
      exact leValue_leBytes_of_lt (by decide)
    have hreserved : byteAt b 11 = 0 := by
      rw [hb, byteAt_reserved]
    rw [hload, if_neg (Nat.not_lt.mpr hlen), hmagic, hreserved, hallowed hf.checksum,
      (hheader hversion).mpr hf, hversion]
    exact ⟨rfl, rfl⟩

section Frames

variable {cpuHz : ℕ} {responses : FrameHeader → Bytes → Result} {b payload : Bytes}

/-- What the firmware's frame decoder checks. -/
theorem decodeFrame_ok {f : DecodedFrame} : Commands.decodeFrame cpuHz responses b = .ok f ↔
    decodeHeader b false = .ok f.header ∧ b.length = f.header.totalLength.toNat ∧
      loadU32 b (kHeaderSize + f.header.payloadLength.toNat) = some f.checksum ∧
      computeChecksum f.header.checksumAlgorithm
        (b.take (kHeaderSize + f.header.payloadLength.toNat)) = some f.checksum ∧
      f.payload = slice b kHeaderSize f.header.payloadLength.toNat ∧
      (Commands.validatePayload cpuHz responses f.header f.payload).isOk = true := by
  unfold Commands.decodeFrame
  cases hheader : decodeHeader b false with
  | error r => exact ⟨fun hok => (by cases hok), fun hok => (by cases hok.1)⟩
  | ok h =>
    dsimp only
    constructor
    · intro hok
      rw [Framing.ite_error_eq_ok] at hok
      obtain ⟨hlen, hok⟩ := hok
      split at hok
      · cases hok
      · cases hok
      · next observed expected hload hsum =>
        simp only [Framing.ite_error_eq_ok, Bool.not_eq_true', Bool.not_eq_false] at hok
        obtain ⟨hsame, hvalid, heq⟩ := hok
        cases heq
        exact ⟨rfl, not_not.mp hlen, hload, (not_not.mp hsame) ▸ hsum, rfl, hvalid⟩
    · rintro ⟨heq, hlen, hload, hsum, hpayload, hvalid⟩
      cases heq
      rw [if_neg (not_not.mpr hlen), hload, hsum]
      dsimp only
      rw [if_neg (not_not.mpr rfl), ← hpayload, hvalid]
      rfl

/-- The firmware's trailer check is the host's. -/
theorem checksum_agrees {n : ℕ} (hn : n + 4 ≤ b.length) :
    (∃ checksum, loadU32 b n = some checksum ∧
        computeChecksum ChecksumAlgorithm.adler32 (b.take n) = some checksum) ↔
      leValue (slice b n 4) = Host.computeV3Checksum (b.take n) := by
  have hload : loadU32 b n = some (UInt32.ofNat (leValue (slice b n 4))) := if_pos hn
  have hnat : (UInt32.ofNat (leValue (slice b n 4))).toNat = leValue (slice b n 4) :=
    UInt32.toNat_ofNat_of_lt' (Host.leValue_slice_lt (n := 4))
  rw [hload, computeChecksum_adler32]
  constructor
  · rintro ⟨checksum, hobserved, hexpected⟩
    rw [← hnat, Option.some.inj hobserved, ← Option.some.inj hexpected, Checksum.adler32_eq]
    rfl
  · intro hsame
    refine ⟨_, rfl, congrArg some (UInt32.toNat_inj.mp ?_)⟩
    rw [hnat, hsame, Checksum.adler32_eq]
    rfl

theorem ControlFields.sizes (hf : ControlFields h) :
    h.totalLength.toNat - kTrailerSize = kHeaderSize + h.payloadLength.toNat ∧
      h.totalLength.toNat - kTrailerSize - kHeaderSize = h.payloadLength.toNat ∧
      kHeaderSize + h.payloadLength.toNat + 4 = h.totalLength.toNat := by
  have htotal : h.totalLength.toNat = 48 + h.payloadLength.toNat := hf.total
  change h.totalLength.toNat - 4 = 44 + h.payloadLength.toNat ∧
    h.totalLength.toNat - 4 - 44 = h.payloadLength.toNat ∧
    44 + h.payloadLength.toNat + 4 = h.totalLength.toNat
  omega

/-- The firmware decodes what the host has framed. -/
theorem decodeFrame_framed {control : FrameHeader → Bytes → Except Host.V3Error Unit} {f : Host.V3Frame}
    (hframed : Host.V3Framed control f b) (hdata : isDataKind f.header.kind = false)
    (hvalid : (Commands.validatePayload cpuHz responses f.header f.payload).isOk = true) :
    ∃ checksum, Commands.decodeFrame cpuHz responses b = .ok ⟨f.header, f.payload, checksum⟩ := by
  obtain ⟨hheader, hlen, hbody⟩ := Host.v3Framed_iff.mpr hframed
  obtain ⟨-, hpayload, hobserved, hexpected, -⟩ := Host.decodeBufferedV3Frame_ok.mp hbody
  obtain ⟨hheader', hversion⟩ := decodeHeader_v3.mpr ⟨hheader, hdata⟩
  obtain ⟨-, hf⟩ := v3Accepts_iff.mp ⟨hframed.header, hdata⟩
  obtain ⟨hstop, hpay, hroom⟩ := hf.sizes
  rw [hstop] at hobserved hexpected
  obtain ⟨sum, hload, hsum⟩ :=
    (checksum_agrees (hroom.trans hlen.symm).le).mpr (hobserved.symm.trans hexpected)
  rw [hpay] at hpayload
  refine ⟨sum, decodeFrame_ok.mpr ⟨hheader', hlen, hload, ?_, hpayload, hvalid⟩⟩
  dsimp only
  rw [hf.checksum]
  exact hsum

/-- A control frame of version 3 that either end decodes is decoded by the other to the same
header and payload, once both find the record in the payload in order.  `control` and
`responses` are the record checks of the host and of the firmware. -/
theorem control_frames_agree {control : FrameHeader → Bytes → Except Host.V3Error Unit} :
    ((∃ checksum, Commands.decodeFrame cpuHz responses b = .ok ⟨h, payload, checksum⟩) ∧
        h.version = V3.kProtocolVersion ∧ control h payload = .ok ()) ↔
      ((∃ checksum, Host.decodeV3Frame (Host.controlOf control) b = .ok ⟨h, payload, checksum⟩) ∧
        isDataKind h.kind = false ∧
        (Commands.validatePayload cpuHz responses h payload).isOk = true) := by
  constructor
  · rintro ⟨⟨checksum, hok⟩, hversion, hcontrol⟩
    obtain ⟨hheader, hlen, hload, hsum, hpayload, hvalid⟩ := decodeFrame_ok.mp hok
    obtain ⟨hheader', hdata⟩ := decodeHeader_v3.mp ⟨hheader, hversion⟩
    obtain ⟨-, hf⟩ := v3Accepts_iff.mp ⟨(Host.decodeV3Header_ok.mp hheader').2.1, hdata⟩
    obtain ⟨hstop, hpay, hroom⟩ := hf.sizes
    dsimp only at hload hsum
    rw [hf.checksum] at hsum
    have hsame := (checksum_agrees (hroom.trans hlen.symm).le).mp ⟨checksum, hload, hsum⟩
    refine ⟨⟨leValue (slice b (h.totalLength.toNat - kTrailerSize) 4), Host.decodeV3Frame_ok.mpr
      (Host.v3Framed_iff.mp ⟨hheader', hlen,
        Host.decodeBufferedV3Frame_ok.mpr ⟨rfl, ?_, rfl, ?_, ?_⟩⟩)⟩, hdata, hvalid⟩
    · rw [hpay]
      exact hpayload
    · rw [hstop]
      exact hsame
    · unfold Host.validatePayload
      rw [if_neg (by rw [hdata]; exact Bool.false_ne_true)]
      exact hcontrol
  · rintro ⟨⟨checksum, hok⟩, hdata, hvalid⟩
    have hframed := Host.decodeV3Frame_ok.mp hok
    have hcontrol := hframed.payload
    unfold Host.validatePayload at hcontrol
    rw [if_neg (by rw [hdata]; exact Bool.false_ne_true)] at hcontrol
    exact ⟨decodeFrame_framed hframed hdata hvalid, hframed.header.version, hcontrol⟩

end Frames

end ThingDaq.Link
