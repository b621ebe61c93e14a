import ThingDaq.Pipeline.Invariant

/-!
# What the operations do to a page

The byte-level half of `finishFill`, the codecs and `finalizeGapBefore`: each
leaves the wire form of a frame with the same content, and the promotion test
`validFrameSize` asks no more than that its timestamps do not wrap.

## Main results

* `Framed.validFrameSize` — the test on a complete page.
* `encodePage_framed` — an accepted page.
* `flagPage_content` — a late gap mark.
* `compressGpio_spec`, `packAdc12_spec` — the codecs.
-/

namespace ThingDaq

open Wire Table

/-! ### Rewriting header and prefix fields -/

section Rewrite

variable (h : FrameHeader) (e : UInt8) (w n r : ℕ) (rest : Bytes)

theorem store_flags (v : UInt16) : store (headerBytes h ++ rest) 6 (leBytes 2 v.toNat) =
    headerBytes { h with flags := v } ++ rest := by
  have h1 : headerBytes h ++ rest = (headerBytes h).take 6 ++
      (leBytes 2 h.flags.toNat ++ ((headerBytes h).drop 8 ++ rest)) := rfl
  have h2 := store_append (a := (headerBytes h).take 6) (m := leBytes 2 h.flags.toNat)
    (c := (headerBytes h).drop 8 ++ rest) (s := leBytes 2 v.toNat) (by simp)
  rw [h1]
  exact h2

theorem store_totalLength (v : UInt32) : store (headerBytes h ++ rest) 12 (leBytes 4 v.toNat) =
    headerBytes { h with totalLength := v } ++ rest := by
  have h1 : headerBytes h ++ rest = (headerBytes h).take 12 ++
      (leBytes 4 h.totalLength.toNat ++ ((headerBytes h).drop 16 ++ rest)) := rfl
  have h2 := store_append (a := (headerBytes h).take 12) (m := leBytes 4 h.totalLength.toNat)
    (c := (headerBytes h).drop 16 ++ rest) (s := leBytes 4 v.toNat) (by simp)
  rw [h1]
  exact h2

theorem store_payloadLength (v : UInt32) : store (headerBytes h ++ rest) 16 (leBytes 4 v.toNat) =
    headerBytes { h with payloadLength := v } ++ rest := by
  have h1 : headerBytes h ++ rest = (headerBytes h).take 16 ++
      (leBytes 4 h.payloadLength.toNat ++ ((headerBytes h).drop 20 ++ rest)) := rfl
  have h2 := store_append (a := (headerBytes h).take 16) (m := leBytes 4 h.payloadLength.toNat)
    (c := (headerBytes h).drop 20 ++ rest) (s := leBytes 4 v.toNat) (by simp)
  rw [h1]
  exact h2

theorem store_encoding (e' : UInt8) :
    store (headerBytes h ++ (dataPrefix e w n r ++ rest)) 44 [e'] =
      headerBytes h ++ (dataPrefix e' w n r ++ rest) := by
  have h2 := store_append (a := headerBytes h) (m := [e]) (c := (dataPrefix e w n r).drop 1 ++ rest)
    (s := [e']) rfl
  rw [length_headerBytes] at h2
  exact h2

theorem store_runCount (r' : ℕ) :
    store (headerBytes h ++ (dataPrefix e w n r ++ rest)) 52 (leBytes 4 r') =
      headerBytes h ++ (dataPrefix e w n r' ++ rest) := by
  have hsplit : ∀ v, headerBytes h ++ (dataPrefix e w n v ++ rest) =
      (headerBytes h ++ ([e, UInt8.ofNat w, 0, 0] ++ leBytes 4 n)) ++ (leBytes 4 v ++ rest) := by
    intro v
    simp only [dataPrefix, List.append_assoc]
  have hlen : (headerBytes h ++ ([e, UInt8.ofNat w, 0, 0] ++ leBytes 4 n)).length = 52 := by simp
  have hst := store_append (a := headerBytes h ++ ([e, UInt8.ofNat w, 0, 0] ++ leBytes 4 n))
    (m := leBytes 4 r) (c := rest) (s := leBytes 4 r') (by simp)
  rw [hlen] at hst
  rw [hsplit, hsplit, hst]

end Rewrite

/-! ### The promotion test -/

namespace Content

variable {setup : RunSetup} {s : Stream} {sequence runId : UInt32} {size : ℕ} {f : PacketFrame}
  {o : Origin} {d : V3Data} (h : Content setup s sequence runId size f o d)

include h

theorem size_le : 60 < size ∧ size ≤ 4096 := by
  have h1 := h.wellFormed.samples_pos
  have h2 := h.wellFormed.samples_le
  have h3 := h.wellFormed.size
  rw [h.size_eq, d.length_wire]
  omega

theorem byteAt_eq {k : ℕ} (hk : k < size) : byteAt f.bytes k = byteAt d.wire k := by
  unfold byteAt
  rw [← h.bytes, List.getD_eq_getElem?_getD, List.getD_eq_getElem?_getD, List.getElem?_take_of_lt hk]

theorem slice_eq {k n : ℕ} (hk : k + n ≤ size) : slice f.bytes k n = slice d.wire k n := by
  rw [← h.bytes, slice_take hk]

theorem flags_eq : flagsOf f = d.flags := by
  have := h.size_le
  unfold flagsOf
  rw [h.slice_eq (by omega), d.wire_eq, slice_flags, leValue_leBytes_u16, UInt16.ofNat_toNat]
  rfl

end Content

namespace Core

variable {c : Core} {i : ℕ} {o : Origin}

/-- On a complete version 3 page the promotion test is the timestamp test. -/
theorem validFrameSize_v3 {d : V3Data} (hi : i < 200) (hv3 : c.setup.layout.isV3 = true)
    (hc : Content c.setup (c.records i).stream (c.records i).sequence (c.records i).runId
      (c.records i).frameSize (c.frames i) o d)
    (hcount : (c.records i).itemCount = (c.layoutOf i).itemCount) :
    c.validFrameSize i = true ↔ o.TicksFit (c.layoutOf i).itemCount := by
  obtain ⟨hlow, hhigh⟩ := hc.size_le
  have hwf := hc.wellFormed
  have hview : validV3DataView ((c.frames i).bytes.take (c.records i).frameSize) =
      decide d.TicksFit := by rw [hc.bytes]; exact validV3DataView_wire hwf
  have hkind : byteAt (c.frames i).bytes 5 = (c.records i).stream.frameKind := by
    rw [hc.byteAt_eq (by omega), ← hc.kind, d.wire_eq]
    rfl
  have hwidth : (byteAt (c.frames i).bytes 45).toNat = (c.layoutOf i).itemBytes := by
    rw [hc.byteAt_eq (by omega), byteAt_wire_itemBytes, hwf.toNat_itemBytes, hc.width]
    rfl
  have hitems : leValue (slice ((c.frames i).bytes.take (c.records i).frameSize) 40 4) =
      (c.records i).itemCount := by
    rw [hc.bytes, d.wire_eq, slice_itemCount, leValue_leBytes_u32, hcount]
    exact hwf.toNat_itemCount.trans hc.count
  have henc : byteAt (c.frames i).bytes 44 = d.encoding.byte := by
    rw [hc.byteAt_eq (by omega), byteAt_wire_encoding]
  have hfit : d.TicksFit ↔ o.TicksFit (c.layoutOf i).itemCount := by
    unfold V3Data.TicksFit Origin.TicksFit
    rw [hc.ticks, hc.count]
    rfl
  have hperm : (decide (d.encoding.byte = 0) ||
      (decide (d.encoding.byte = 2) && decide (c.setup.layout.adcPolicy = .pack12)) ||
      (decide (d.encoding.byte = 1) && decide (c.setup.layout.gpioPolicy = .rleAuto))) = true := by
    have := hc.encoding
    cases he : d.encoding <;> rw [he] at this
    · rfl
    · have hp : c.setup.layout.gpioPolicy = .rleAuto := this
      rw [hp]
      rfl
    · have hp : c.setup.layout.adcPolicy = .pack12 := this
      rw [hp]
      rfl
  unfold validFrameSize
  simp only [hview, hkind, hwidth, hitems, henc, hv3, if_true, (c.frames i).size_eq,
    kPacketBufferCount, kMinFrameBytes, kDataPrefixBytes, kDataFrameBytes]
  rw [if_neg (by omega), if_neg (by simp [hcount]; omega)]
  by_cases ht : d.TicksFit
  · simp only [ht, decide_true, Bool.not_true, ne_eq, not_true, decide_false, Bool.or_self,
      Bool.false_eq_true, if_false, hperm, true_iff]
    exact hfit.mp ht
  · simp only [ht, decide_false, Bool.not_false, Bool.true_or, if_true, Bool.false_eq_true,
      false_iff]
    exact fun hn => ht (hfit.mpr hn)

theorem validFrameSize_legacy (hi : i < 200) (hv3 : ¬c.setup.layout.isV3 = true)
    (hsize : (c.records i).frameSize = (c.layoutOf i).frameBytes) :
    c.validFrameSize i = true := by
  unfold validFrameSize
  simp only [hsize, kPacketBufferCount]
  rw [if_neg (by omega), if_neg hv3]
  simp

end Core

/-! ### A late gap mark -/

theorem uint16_or_and (a b m : UInt16) : (a ||| b) &&& m = (a &&& m) ||| (b &&& m) := by
  apply UInt16.toBitVec_inj.mp
  simp only [UInt16.toBitVec_and, UInt16.toBitVec_or, BitVec.and_or_distrib_right]

/-- A frame with the gap bits added. -/
def V3Data.flagged (d : V3Data) : V3Data :=
  { d with flags := d.flags ||| (flagGapBefore ||| flagOverrunBefore) }

theorem V3Data.WellFormed.flagged {d : V3Data} (h : d.WellFormed) : d.flagged.WellFormed where
  kind := h.kind
  flags := by
    show (d.flags ||| (flagGapBefore ||| flagOverrunBefore)) &&& ~~~15 = 0
    rw [uint16_or_and, h.flags]
    decide
  overrun := by
    rintro ⟨-, h0⟩
    have h2 : (d.flags ||| (flagGapBefore ||| flagOverrunBefore)) &&& 2 = 0 := h0
    rw [uint16_or_and] at h2
    have := (UInt16.or_eq_zero_iff.mp h2).2
    revert this
    decide
  runId := h.runId
  aligned := h.aligned
  nonempty := h.nonempty
  ticks := h.ticks
  size := h.size
  smaller := h.smaller

/-- Sealing a body into the page in front of its checksum. -/
theorem PacketFrame.take_seal {f : PacketFrame} {body : Bytes} {n : ℕ}
    (hbody : f.bytes.take n = body) (hn : n + 4 ≤ 4096) (v : ℕ) :
    (f.store n (leBytes 4 v)).bytes.take (n + 4) = body ++ leBytes 4 v := by
  have := take_store_end (b := f.bytes) (n := n) (s := leBytes 4 v)
    (by rw [length_leBytes, f.size_eq]; exact hn)
  rw [length_leBytes, hbody] at this
  exact this

/-- A store inside a sealed prefix of the page. -/
theorem PacketFrame.take_store {f : PacketFrame} {off n : ℕ} {bs : Bytes}
    (h : off + bs.length ≤ n) (hn : n ≤ 4096) :
    (f.store off bs).bytes.take n = Wire.store (f.bytes.take n) off bs :=
  Wire.take_store h (by rw [f.size_eq]; exact hn)

/-- `finalizeGapBefore` on the page. -/
def flagPage (f : PacketFrame) (size : ℕ) (checksum : UInt32) : PacketFrame :=
  (f.store 6 (leBytes 2 (flagsOf f ||| (flagGapBefore ||| flagOverrunBefore)).toNat)).store
    (size - kTrailerSize) (leBytes 4 checksum.toNat)

/-- Storing flags, and anything behind them. -/
theorem flagsOf_store (f : PacketFrame) (v : UInt16) {off : ℕ} (hoff : 8 ≤ off) (bs : Bytes) :
    flagsOf ((f.store 6 (leBytes 2 v.toNat)).store off bs) = v := by
  have hread : slice (Wire.store f.bytes 6 (leBytes 2 v.toNat)) 6 (leBytes 2 v.toNat).length =
      leBytes 2 v.toNat := slice_store (by rw [length_leBytes, f.size_eq]; decide)
  rw [length_leBytes] at hread
  unfold flagsOf
  show UInt16.ofNat (leValue (slice (Wire.store (Wire.store f.bytes 6 _) off bs) 6 2)) = v
  rw [slice_store_before (by omega), hread, leValue_leBytes_u16, UInt16.ofNat_toNat]

theorem flagsOf_flagPage {f : PacketFrame} {size : ℕ} (hsize : 12 ≤ size) (checksum : UInt32) :
    flagsOf (flagPage f size checksum) =
      flagsOf f ||| (flagGapBefore ||| flagOverrunBefore) :=
  flagsOf_store f _ (by unfold kTrailerSize; omega) _

theorem Content.flagPage {setup : RunSetup} {s : Stream} {sequence runId : UInt32} {size : ℕ}
    {f : PacketFrame} {o : Origin} {d : V3Data} (h : Content setup s sequence runId size f o d)
    {checksum : UInt32}
    (hsum : computeChecksum ChecksumAlgorithm.adler32
      ((f.store 6 (leBytes 2 (flagsOf f ||| (flagGapBefore ||| flagOverrunBefore)).toNat)).bytes.take
        (size - kTrailerSize)) = some checksum) :
    Content setup s sequence runId size (ThingDaq.flagPage f size checksum) o d.flagged := by
  obtain ⟨hlow, hhigh⟩ := h.size_le
  have hsz : size = 60 + d.samples.length := by rw [h.size_eq, d.length_wire]
  have hsamples : d.flagged.samples = d.samples := rfl
  have hbody : (f.store 6 (leBytes 2 (flagsOf f |||
      (flagGapBefore ||| flagOverrunBefore)).toNat)).bytes.take (size - 4) = d.flagged.body := by
    rw [PacketFrame.take_store (by rw [length_leBytes]; omega) (by omega)]
    have htake : f.bytes.take (size - 4) = d.body := by
      rw [← Nat.min_eq_left (show size - 4 ≤ size by omega), ← List.take_take, h.bytes]
      unfold V3Data.wire
      rw [List.take_left' (by rw [d.length_body]; omega)]
    rw [htake, h.flags_eq]
    unfold V3Data.body
    rw [store_flags]
    rfl
  have hc : checksum = Checksum.adler32 d.flagged.body := by
    unfold kTrailerSize at hsum
    rw [hbody, computeChecksum_adler32] at hsum
    exact (Option.some.inj hsum).symm
  exact
    { wellFormed := h.wellFormed.flagged
      bytes := by
        have := PacketFrame.take_seal hbody (by omega) checksum.toNat
        rw [show size - 4 + 4 = size by omega] at this
        unfold ThingDaq.flagPage kTrailerSize
        rw [this, hc]
        rfl
      size_eq := by rw [V3Data.length_wire, hsamples, hsz]
      kind := h.kind
      width := h.width
      count := h.count
      sequence_eq := h.sequence_eq
      runId_eq := h.runId_eq
      origin_stream := h.origin_stream
      origin_sequence := h.origin_sequence
      origin_runId := h.origin_runId
      ticks := h.ticks
      payload := h.payload
      encoding := h.encoding }

/-! ### Finishing a page -/

theorem RunSetup.frameBytes_eq_v3 (r : RunSetup) (hv3 : r.layout.isV3 = true) (s : Stream) :
    (r.stream s).frameBytes + r.layout.prefixBytes =
      60 + (r.stream s).itemCount * (r.stream s).itemBytes := by
  obtain ⟨-, -, -, hf, -⟩ := FrameLayout.valid_iff.mp (r.stream_valid s)
  unfold RunLayout.prefixBytes kDataPrefixBytes
  rw [if_pos hv3, hf]
  omega

/-- The samples of a page, where the layout puts them. -/
def samplesOf (setup : RunSetup) (s : Stream) (f : PacketFrame) : Bytes :=
  slice f.bytes (kHeaderSize + setup.layout.prefixBytes) (setup.stream s).payloadBytes

/-- An accepted page is complete: it holds the samples the producer wrote and
carries the flags asked for. -/
theorem encodePage_framed {p : Pipeline} {r : BufferRecord} {completion : FrameCompletion}
    {f : PacketFrame} (hok : (p.encodePage r completion f).1.isOk = true) :
    Framed p.setup { r with frameSize := (p.frameShape r.stream).frameBytes }
        (p.encodePage r completion f).2
        ⟨samplesOf p.setup r.stream f, completion.firstSampleTicks, r.stream, r.sequence, r.runId⟩ ∧
      flagsOf (p.encodePage r completion f).2 = (Pipeline.completionFields r completion).flags := by
  set shape := p.frameShape r.stream with hshape
  set fields := Pipeline.completionFields r completion with hfields
  have hpage : shape.frameBytes ≤ 4096 := p.setup.frameBytes_le r.stream
  have hviewlen : (f.bytes.take shape.frameBytes).length = shape.frameBytes := by
    rw [List.length_take, f.size_eq]
    exact Nat.min_eq_left hpage
  have hsz : 44 ≤ shape.frameBytes := by
    have := p.setup.frameBytes_eq r.stream
    have : shape.frameBytes = (p.setup.stream r.stream).frameBytes + p.setup.layout.prefixBytes := rfl
    omega
  have hflags : ∀ (b : Bytes), b.length = shape.frameBytes →
      slice b 6 2 = leBytes 2 fields.flags.toNat → flagsOf (f.store 0 b) = fields.flags := by
    intro b hb hfl
    unfold flagsOf
    show UInt16.ofNat (leValue (slice (Wire.store f.bytes 0 b) 6 2)) = _
    rw [store_zero (by rw [f.size_eq, hb]; exact hpage), slice_append_left (by omega), hfl,
      leValue_leBytes_u16, UInt16.ofNat_toNat]
  unfold Pipeline.encodePage at hok ⊢
  simp only at hok ⊢
  by_cases hv1 : p.setup.layout.protocolVersion = V1.kProtocolVersion
  · rw [if_pos hv1] at hok ⊢
    have hnv3 : ¬p.setup.layout.isV3 = true := by
      unfold RunLayout.isV3
      rw [hv1]
      decide
    refine ⟨?_, hflags _ ?_ (encodeDataFrameInPlaceV1_flags hok)⟩
    · unfold Framed
      rw [if_neg hnv3]
      show (p.setup.stream r.stream).frameBytes + p.setup.layout.prefixBytes = _
      unfold RunLayout.prefixBytes
      rw [if_neg hnv3]
      rfl
    · rw [length_encodeDataFrameInPlaceV1, hviewlen]
  · rw [if_neg hv1] at hok ⊢
    refine ⟨?_, hflags _ ?_ (encodeDataFrameInPlace_flags hok)⟩
    · unfold Framed
      by_cases hv3 : p.setup.layout.isV3 = true
      · rw [if_pos hv3]
        have hver : shape.protocolVersion = V3.kProtocolVersion := of_decide_eq_true hv3
        obtain ⟨hwf, hcnt, hwire⟩ := encodeDataFrameInPlace_v3 hver hok
        have hsamples : slice (f.bytes.take shape.frameBytes) 56 (shape.itemCount * shape.itemBytes) =
            samplesOf p.setup r.stream f := by
          obtain ⟨-, hpay, -⟩ := FrameLayout.valid_iff.mp (p.setup.stream_valid r.stream)
          have hfb : shape.frameBytes = 60 + shape.itemCount * shape.itemBytes :=
            p.setup.frameBytes_eq_v3 hv3 r.stream
          rw [slice_take (by omega)]
          unfold samplesOf RunLayout.prefixBytes
          rw [if_pos hv3, hpay]
          rfl
        rw [hsamples] at hwf hcnt hwire
        have hlen := length_encodeDataFrameInPlace fields (f.bytes.take shape.frameBytes)
          shape.payloadBytes shape
        rw [hviewlen] at hlen
        refine ⟨_, ⟨hwf, ?_, ?_, rfl, rfl, hcnt, rfl, rfl, rfl, rfl, rfl, rfl, rfl, trivial⟩,
          fun _ => rfl⟩
        · show (Wire.store f.bytes 0 _).take shape.frameBytes = _
          rw [store_zero (by rw [f.size_eq, hlen]; exact hpage), List.take_left' hlen, hwire]
        · rw [← hwire, hlen]
      · rw [if_neg hv3]
        show (p.setup.stream r.stream).frameBytes + p.setup.layout.prefixBytes = _
        unfold RunLayout.prefixBytes
        rw [if_neg hv3]
        rfl
    · rw [length_encodeDataFrameInPlace, hviewlen]

end ThingDaq
