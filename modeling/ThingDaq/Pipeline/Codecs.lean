import ThingDaq.Lib.InPlace
import ThingDaq.Pipeline.Pages

/-!
# The deferred codecs

`packAdc12` packs a page in place and `compressGpio` goes through a free page of
the pool; both rewrite the length fields and the checksum.  Either way the page
ends as the wire form of the same frame under another encoding.

## Main results

* `packAdc12_cases`, `compressGpio_cases` — every outcome of a codec on a complete
  raw page.
-/

namespace ThingDaq

open Wire Table

/-! ### Twelve-bit packing in place -/

theorem pack12_append : ∀ (n : ℕ) (a b : Bytes), a.length = n * 4 →
    pack12 (a ++ b) = pack12 a ++ pack12 b := by
  intro n
  induction n with
  | zero =>
    intro a b h
    have : a = [] := List.length_eq_zero_iff.mp (by omega)
    subst this
    rfl
  | succ n ih =>
    intro a b h
    match a, h with
    | a₀ :: a₁ :: b₀ :: b₁ :: rest, h =>
      simp only [List.length_cons] at h
      simp only [List.cons_append, pack12, ih rest b (by omega),
        List.append_assoc]
    | [], h => simp at h
    | [_], h => simp at h; omega
    | [_, _], h => simp at h; omega
    | [_, _, _], h => simp at h; omega

theorem pack12_four {d : Bytes} (h : d.length = 4) : pack12 d = packPair d := by
  match d, h with
  | [a₀, a₁, b₀, b₁], _ => rfl

theorem packPairs_succ (base n : ℕ) (f : PacketFrame) :
    Pipeline.packPairs base (n + 1) f =
      (Pipeline.packPairs base n f).store (base + 3 * n)
        (packPair (slice (Pipeline.packPairs base n f).bytes (base + 4 * n) 4)) := by
  unfold Pipeline.packPairs
  rw [List.range_succ, List.foldl_append]
  rfl

/-- The packing loop is a loop in place, four bytes to three. -/
theorem packPairs_bytes (base n : ℕ) (f : PacketFrame) :
    (Pipeline.packPairs base n f).bytes = inPlace 4 3 base packPair n f.bytes := by
  induction n with
  | zero => rfl
  | succ n ih =>
    rw [packPairs_succ, inPlace_succ, ← ih]
    rfl

/-- Pair by pair, the packed payload. -/
theorem flatMap_packPair (b : Bytes) (base : ℕ) : ∀ n, base + 4 * n ≤ b.length →
    (List.range n).flatMap (converted 4 base packPair b) = pack12 (slice b base (4 * n)) := by
  intro n
  induction n with
  | zero =>
    intro _
    simp [slice, pack12]
  | succ n ih =>
    intro hn
    have hsplit : slice b base (4 * (n + 1)) =
        slice b base (4 * n) ++ slice b (base + 4 * n) 4 := by
      unfold slice
      rw [Nat.mul_succ, List.take_add, List.drop_drop]
    have hlen : (slice b base (4 * n)).length = n * 4 := by
      rw [length_slice]
      omega
    have hlen4 : (slice b (base + 4 * n) 4).length = 4 := by
      rw [length_slice]
      omega
    rw [List.range_succ, List.flatMap_append, ih (by omega), hsplit, pack12_append n _ _ hlen,
      pack12_four hlen4, List.flatMap_singleton]
    rfl

/-- In front of `base` and from the read position on the packing loop changes nothing. -/
theorem packPairs_spec (base : ℕ) (f : PacketFrame) (n : ℕ) (hn : base + 4 * n ≤ 4096) :
    (∀ o k, o + k ≤ base → slice (Pipeline.packPairs base n f).bytes o k = slice f.bytes o k) ∧
      (∀ o k, base + 3 * n ≤ o →
        slice (Pipeline.packPairs base n f).bytes o k = slice f.bytes o k) ∧
      slice (Pipeline.packPairs base n f).bytes base (3 * n) =
        pack12 (slice f.bytes base (4 * n)) := by
  have hfit : base + 4 * n ≤ f.bytes.length := by rw [f.size_eq]; exact hn
  have hpack : ∀ d : Bytes, d.length = 4 → (packPair d).length = 3 := fun d _ => length_packPair d
  have ho := length_converted hpack hfit
  rw [packPairs_bytes, inPlace_eq (by decide) hpack hfit]
  refine ⟨fun o k hok => slice_writeRecords_before hok,
    fun o k hok => slice_writeRecords_after ho hok, ?_⟩
  rw [slice_writeRecords ho (by omega), flatMap_packPair f.bytes base n hfit]

/-! ### Recoding a raw page -/

/-- The same frame under another encoding. -/
def V3Data.recoded (d : V3Data) (e : Encoding) : V3Data := { d with encoding := e }

section Recode

variable {setup : RunSetup} {s : Stream} {sequence runId : UInt32} {size : ℕ} {f : PacketFrame}
  {o : Origin} {d : V3Data} (h : Content setup s sequence runId size f o d)
  (hraw : d.encoding = .raw)

include h hraw

theorem Content.raw_size : size = 60 + d.payload.length := by
  rw [h.size_eq, d.length_wire]
  unfold V3Data.samples
  rw [hraw]

theorem Content.raw_samples : slice f.bytes 56 d.payload.length = d.payload := by
  have hs := h.raw_size hraw
  have hsamples : d.samples = d.payload := by
    unfold V3Data.samples
    rw [hraw]
  rw [h.slice_eq (by omega), ← hsamples]
  exact slice_wire_samples d

theorem Content.raw_front : f.bytes.take 56 =
    headerBytes d.header ++ dataPrefix 0 d.itemBytes (d.itemCount * d.itemBytes) 0 := by
  have hs := h.raw_size hraw
  have hruns : d.runCount = 0 := by
    unfold V3Data.runCount
    rw [hraw]
  rw [← Nat.min_eq_left (show 56 ≤ size by omega), ← List.take_take, h.bytes, d.wire_eq,
    ← List.append_assoc, List.take_left' (by simp), hraw, hruns]
  rfl

end Recode

section Relabel

variable {setup : RunSetup} {s : Stream} {sequence runId : UInt32} {size : ℕ} {f : PacketFrame}
  {o : Origin} {d : V3Data} {e : Encoding} {g : PacketFrame} {n : ℕ}

/-- A page with the body and the checksum of a recoded frame. -/
theorem Content.recode (h : Content setup s sequence runId size f o d)
    (hwf : (d.recoded e).WellFormed) (hperm : e.permitted setup.layout)
    (hn : n = (d.recoded e).samples.length)
    (hbody : g.bytes.take (56 + n) = (d.recoded e).body) :
    Content setup s sequence runId (60 + n)
      (g.store (56 + n) (leBytes 4 (Checksum.adler32 (d.recoded e).body).toNat)) o
      (d.recoded e) where
  wellFormed := hwf
  bytes := by
    have hle := hwf.samples_le
    have hsz := hwf.size
    have := PacketFrame.take_seal hbody (by omega)
      (Checksum.adler32 (d.recoded e).body).toNat
    rw [show 56 + n + 4 = 60 + n by omega] at this
    exact this
  size_eq := by rw [V3Data.length_wire, hn]
  kind := h.kind
  width := h.width
  count := h.count
  sequence_eq := h.sequence_eq
  runId_eq := h.runId_eq
  origin_stream := h.origin_stream
  origin_sequence := h.origin_sequence
  origin_runId := h.origin_runId
  ticks := h.ticks
  payload := h.payload
  encoding := hperm

/-- A codec leaves the header of the raw frame with a new prefix and new samples;
rewriting the two lengths makes it the body of the recoded frame. -/
theorem take_relength (hn : n = (d.recoded e).samples.length) (hsize : n ≤ 4036)
    (htake : g.bytes.take (56 + n) = headerBytes d.header ++
      (dataPrefix e.byte d.itemBytes (d.itemCount * d.itemBytes) (d.recoded e).runCount ++
        (d.recoded e).samples)) :
    ((g.store 12 (leBytes 4 (60 + n))).store 16 (leBytes 4 (12 + n))).bytes.take (56 + n) =
      (d.recoded e).body := by
  have htotal : 60 + n = (UInt32.ofNat (60 + n)).toNat := by
    rw [UInt32.toNat_ofNat']
    omega
  have hpayload : 12 + n = (UInt32.ofNat (12 + n)).toNat := by
    rw [UInt32.toNat_ofNat']
    omega
  rw [PacketFrame.take_store (by rw [length_leBytes]; omega) (by omega),
    PacketFrame.take_store (by rw [length_leBytes]; omega) (by omega), htake,
    htotal, store_totalLength, hpayload, store_payloadLength, hn]
  rfl

end Relabel

/-! ### `packAdc12` -/

theorem V3Data.WellFormed.packed {d : V3Data} (h : d.WellFormed) (hk : d.kind = FrameKind.adcData) :
    (d.recoded .adcPack12).WellFormed where
  kind := by
    rcases h.kind with ⟨hk', hw, -, hn⟩ | ⟨hk', -⟩
    · exact Or.inl ⟨hk', hw, Encoding.noConfusion, hn⟩
    · exact absurd (hk.symm.trans hk') (by decide)
  flags := h.flags
  overrun := h.overrun
  runId := h.runId
  aligned := h.aligned
  nonempty := h.nonempty
  ticks := h.ticks
  size := h.size
  smaller := fun he => Encoding.noConfusion he

/-- The page `packAdc12` leaves. -/
def packPage (f : PacketFrame) (n : ℕ) : PacketFrame :=
  (((Pipeline.packPairs 56 n f).store 44 [2]).store 12 (leBytes 4 (60 + n * 3))).store 16
    (leBytes 4 (12 + n * 3))

theorem Content.packPage {setup : RunSetup} {s : Stream} {sequence runId : UInt32} {size : ℕ}
    {f : PacketFrame} {o : Origin} {d : V3Data} (h : Content setup s sequence runId size f o d)
    (hraw : d.encoding = .raw) (hk : d.kind = FrameKind.adcData) :
    (ThingDaq.packPage f d.itemCount).bytes.take (56 + d.itemCount * 3) =
      (d.recoded .adcPack12).body := by
  have hwf := h.wellFormed
  have hw : d.itemBytes = 4 := hwf.width_legal.1 hk
  have hlen : d.payload.length = d.itemCount * 4 := by rw [hwf.aligned, hw]
  have hsize := hwf.size
  have hn : d.itemCount * 3 = (d.recoded .adcPack12).samples.length :=
    (length_pack12 d.itemCount d.payload hlen).symm
  obtain ⟨hfront, -, hpacked⟩ := packPairs_spec 56 f d.itemCount (by omega)
  have hfront56 : (Pipeline.packPairs 56 d.itemCount f).bytes.take 56 = f.bytes.take 56 := by
    have := hfront 0 56 (by omega)
    simpa [slice] using this
  have htake : (Pipeline.packPairs 56 d.itemCount f).bytes.take (56 + d.itemCount * 3) =
      headerBytes d.header ++ (dataPrefix 0 d.itemBytes (d.itemCount * d.itemBytes) 0 ++
        pack12 d.payload) := by
    rw [← take_append_slice, hfront56, h.raw_front hraw, Nat.mul_comm d.itemCount 3, hpacked,
      Nat.mul_comm 4, ← hlen, h.raw_samples hraw, List.append_assoc]
  unfold ThingDaq.packPage
  refine take_relength hn (by omega) ?_
  rw [PacketFrame.take_store (by simp; omega) (by omega), htake, store_encoding]
  rfl

/-- A page with a codec's result in it. -/
structure Coded (c : Core) (i : ℕ) (o : Origin) (f : PacketFrame) (size : ℕ) : Prop where
  size_ne : size ≠ 0
  framed : Framed c.setup { c.records i with state := .ready, frameSize := size } f o
  flags : flagsOf f = flagsOf (c.frames i)

theorem Framed.of_content {setup : RunSetup} {r : BufferRecord} {f : PacketFrame} {o : Origin}
    {d : V3Data} (hv3 : setup.layout.isV3 = true) (hstate : r.state ≠ .filling)
    (h : Content setup r.stream r.sequence r.runId r.frameSize f o d) : Framed setup r f o := by
  unfold Framed
  rw [if_pos hv3]
  exact ⟨d, h, fun hf => absurd hf hstate⟩

theorem Coded.of_recoded {c : Core} {i : ℕ} {o : Origin} {f : PacketFrame} {size : ℕ} {d : V3Data}
    {e : Encoding} (hv3 : c.setup.layout.isV3 = true)
    (hc : Content c.setup (c.records i).stream (c.records i).sequence (c.records i).runId
      (c.records i).frameSize (c.frames i) o d) (hsize : size ≠ 0)
    (h : Content c.setup (c.records i).stream (c.records i).sequence (c.records i).runId size f o
      (d.recoded e)) : Coded c i o f size where
  size_ne := hsize
  framed := Framed.of_content hv3 BufferState.noConfusion h
  flags := h.flags_eq.trans hc.flags_eq.symm

section Cases

variable {p : Pipeline} {i : ℕ} {o : Origin} {d : V3Data} (hv3 : p.setup.layout.isV3 = true)
  (hc : Content p.setup (p.records i).stream (p.records i).sequence (p.records i).runId
    (p.records i).frameSize (p.frames i) o d)
  (hraw : d.encoding = .raw)

include hv3 hc hraw

/-- Packing a complete raw page always succeeds. -/
theorem packAdc12_cases (hstream : (p.records i).stream = .adc)
    (hpolicy : p.setup.layout.adcPolicy = .pack12)
    (hcount : (p.records i).itemCount = (p.layoutOf i).itemCount) :
    ∃ f size, Coded p.toCore i o f size ∧
      p.packAdc12 i = (p.withCore (p.toCore.rework i f size), true) := by
  have hwf := hc.wellFormed
  have hk : d.kind = FrameKind.adcData := by rw [hc.kind, hstream]; rfl
  have hn : (p.records i).itemCount = d.itemCount := by rw [hcount, hc.count]; rfl
  have hw : d.itemBytes = 4 := hwf.width_legal.1 hk
  have hlen : d.payload.length = d.itemCount * 4 := by rw [hwf.aligned, hw]
  have hsize := hwf.size
  have hpos := hwf.nonempty
  have hpre : p.setup.layout.prefixBytes = 12 := by
    unfold RunLayout.prefixBytes
    rw [if_pos hv3]
  have halg := p.setup.v3_adler hv3
  have hnib : highNibblesClear (slice (p.frames i).bytes 56 (d.itemCount * 4)) = true := by
    rw [← hlen, hc.raw_samples hraw]
    rcases hwf.kind with ⟨-, -, -, hnib⟩ | ⟨hk', -⟩
    · exact hnib
    · exact absurd (hk.symm.trans hk') (by decide)
  have hbody := hc.packPage hraw hk
  have hns : d.itemCount * 3 = (d.recoded .adcPack12).samples.length :=
    (length_pack12 d.itemCount d.payload hlen).symm
  rw [← hn] at hnib hbody hns hpos hlen
  set sum := Checksum.adler32 (d.recoded .adcPack12).body with hsum
  set n := (p.records i).itemCount * 3 with hn3
  refine ⟨(packPage (p.frames i) (p.records i).itemCount).store (56 + n) (leBytes 4 sum.toNat),
    60 + n, Coded.of_recoded hv3 hc (by omega) (hc.recode (hwf.packed hk) hpolicy hns hbody), ?_⟩
  · have hchk : computeChecksum ChecksumAlgorithm.adler32
        ((packPage (p.frames i) (p.records i).itemCount).bytes.take (56 + n)) = some sum := by
      rw [hbody, computeChecksum_adler32]
    unfold Pipeline.packAdc12
    unfold packPage at hchk ⊢
    simp only [hpre, kHeaderSize, halg, hv3, if_true, ← hn3, Nat.reduceAdd,
      show 60 + n - 4 = 56 + n by omega] at hchk ⊢
    rw [if_neg (by simp [hnib])]
    simp only [hchk]
    rfl

end Cases

/-! ### `compressGpio` -/

theorem V3Data.WellFormed.compressed {d : V3Data} (h : d.WellFormed)
    (hk : d.kind = FrameKind.gpioData)
    (hsmall : (d.recoded .gpioRle).samples.length < d.payload.length) :
    (d.recoded .gpioRle).WellFormed where
  kind := by
    rcases h.kind with ⟨hk', -⟩ | ⟨hk', hw, -⟩
    · exact absurd (hk'.symm.trans hk) (by decide)
    · exact Or.inr ⟨hk', hw, Encoding.noConfusion⟩
  flags := h.flags
  overrun := h.overrun
  runId := h.runId
  aligned := h.aligned
  nonempty := h.nonempty
  ticks := h.ticks
  size := h.size
  smaller := fun _ => hsmall

theorem Content.congr {setup : RunSetup} {s : Stream} {sequence runId : UInt32} {size : ℕ}
    {f f' : PacketFrame} {o : Origin} {d : V3Data} (h : Content setup s sequence runId size f o d)
    (hf : f'.bytes.take size = f.bytes.take size) : Content setup s sequence runId size f' o d :=
  { h with bytes := hf.trans h.bytes }

theorem PacketFrame.take_store_zero {f : PacketFrame} {b : Bytes} {n : ℕ} (hlen : b.length = n)
    (hn : n ≤ 4096) : (f.store 0 b).bytes.take n = b := by
  show (Wire.store f.bytes 0 b).take n = b
  rw [store_zero (by rw [f.size_eq, hlen]; exact hn), List.take_left' hlen]

/-- The page `sealRle` builds behind encoded samples. -/
theorem take_sealRle {setup : RunSetup} {s : Stream} {sequence runId : UInt32} {size k : ℕ}
    {f target : PacketFrame} {o : Origin} {d : V3Data}
    (h : Content setup s sequence runId size f o d) (hraw : d.encoding = .raw)
    (hk : k = (d.recoded .gpioRle).samples.length) (hsize : k ≤ 4036)
    (hsamples : slice target.bytes 56 k = (d.recoded .gpioRle).samples) :
    (((((target.store 0 (f.bytes.take 56)).store 44 [1]).store 52
      (leBytes 4 (d.recoded .gpioRle).runCount)).store 12 (leBytes 4 (60 + k))).store 16
        (leBytes 4 (12 + k))).bytes.take (56 + k) = (d.recoded .gpioRle).body := by
  have hlen : (f.bytes.take 56).length = 56 := by
    rw [List.length_take, f.size_eq]
    decide
  have htake : (target.store 0 (f.bytes.take 56)).bytes.take (56 + k) = headerBytes d.header ++
      (dataPrefix 0 d.itemBytes (d.itemCount * d.itemBytes) 0 ++ (d.recoded .gpioRle).samples) := by
    have hafter : slice (target.store 0 (f.bytes.take 56)).bytes 56 k = slice target.bytes 56 k :=
      slice_store_after (by rw [hlen])
    rw [← take_append_slice, PacketFrame.take_store_zero hlen (by omega), hafter, h.raw_front hraw,
      hsamples, List.append_assoc]
  refine take_relength hk hsize ?_
  rw [PacketFrame.take_store (by rw [length_leBytes]; omega) (by omega),
    PacketFrame.take_store (by simp; omega) (by omega), htake, store_encoding, store_runCount]
  rfl

/-- Every outcome of compressing a complete raw page: it stays as it is, or the
RLE form went through a free page that is free again. -/
theorem compressGpio_cases {p : Pipeline} {i : ℕ} {o : Origin} {d : V3Data}
    (hv3 : p.setup.layout.isV3 = true)
    (hc : Content p.setup (p.records i).stream (p.records i).sequence (p.records i).runId
      (p.records i).frameSize (p.frames i) o d)
    (hraw : d.encoding = .raw) (hstream : (p.records i).stream = .gpio)
    (hpolicy : p.setup.layout.gpioPolicy = .rleAuto)
    (hlive : (p.records i).state ≠ .free)
    (hfree : ∀ j, (p.records j).state = .free → p.records j = {}) :
    (∃ b, p.compressGpio i = (p, b) ∨ p.compressGpio i = (p.encodingRejection, b)) ∨
      ∃ scratch t f size, (p.records scratch).state = .free ∧ Coded p.toCore i o f size ∧
        p.compressGpio i =
          (p.withCore ((p.toCore.setFrame scratch t).rework i f size), true) := by
  have hwf := hc.wellFormed
  have hk : d.kind = FrameKind.gpioData := by rw [hc.kind, hstream]; rfl
  have hpre : p.setup.layout.prefixBytes = 12 := by
    unfold RunLayout.prefixBytes
    rw [if_pos hv3]
  have halg := p.setup.v3_adler hv3
  obtain ⟨⟨hcpos, hwpos, -⟩, hpay, -, hfb, -⟩ :=
    FrameLayout.valid_iff.mp (p.setup.stream_valid (p.records i).stream)
  have hfit := p.setup.frameBytes_eq_v3 hv3 (p.records i).stream
  have hle := p.setup.frameBytes_le (p.records i).stream
  have hwidth : (p.layoutOf i).itemBytes = d.itemBytes := hc.width.symm
  have hcount : (p.layoutOf i).itemCount = d.itemCount := hc.count.symm
  have hpaylen : (p.layoutOf i).payloadBytes = d.payload.length := by
    rw [hwf.aligned, ← hwidth, ← hcount]
    exact hpay
  have hfblen : (p.layoutOf i).frameBytes = d.payload.length + 48 := by
    rw [← hpaylen]
    exact hfb.trans (by rw [← hpay]; rfl)
  have hdecoded : slice (p.frames i).bytes 56 (p.layoutOf i).payloadBytes = d.payload := by
    rw [hpaylen]
    exact hc.raw_samples hraw
  have hsize := hwf.size
  unfold Pipeline.compressGpio
  simp only [hpre, kHeaderSize, Nat.reduceAdd, hdecoded, hwidth, hcount]
  set selection := Rle.sizeForAdaptiveSelection d.payload ⟨d.itemBytes, d.itemCount⟩
    ((p.layoutOf i).frameBytes - 1) with hselection
  by_cases hst : selection.status ≠ .ok
  · rw [if_pos hst]
    exact Or.inl ⟨false, Or.inr rfl⟩
  rw [if_neg hst]
  by_cases hsel : selection.selectRle = true
  swap
  · rw [if_pos (by simpa using hsel)]
    exact Or.inl ⟨true, Or.inl rfl⟩
  rw [if_neg (by simpa using hsel)]
  cases hfind : (List.range kPacketBufferCount).find? fun j => (p.records j).state = .free with
  | none => exact Or.inl ⟨false, Or.inl rfl⟩
  | some scratch =>
    have hsfree : (p.records scratch).state = .free := by simpa using List.find?_some hfind
    have hsrange : scratch < 200 := by simpa using List.mem_of_find?_eq_some hfind
    have hne : i ≠ scratch := fun he => hlive (he ▸ hsfree)
    have hselected := Rle.sizeForAdaptiveSelection_select hwf.itemBytes_pos.1 hwf.aligned (hselection ▸ hsel)
    rw [← hselection] at hselected
    set plan := selection.plan with hplan
    set k := plan.encodedPayloadBytes with hkdef
    have hrle : (d.recoded .gpioRle).samples = Rle.rleBytes d.payload d.itemBytes d.itemCount := rfl
    have hk' : k = (d.recoded .gpioRle).samples.length := by
      rw [hrle, Rle.length_rleBytes hwf.aligned, hkdef, hselected.payload, hselected.runCount]
    have hruns : plan.runCount = (d.recoded .gpioRle).runCount := hselected.runCount
    have hframe : plan.encodedFrameBytes = k + 48 := hselected.frame
    have hprofit := hselected.profitable
    have hsmall : (d.recoded .gpioRle).samples.length < d.payload.length := by
      rw [← hk']
      omega
    set out := slice (p.frames scratch).bytes 56 (p.layoutOf i).payloadBytes with hout
    have houtlen : out.length = d.payload.length := by
      rw [hout, length_slice, (p.frames scratch).size_eq, hpaylen]
      unfold kDataFrameBytes
      omega
    have hcoded : (if d.itemBytes = 2 then Rle.encodeHybrid16 d.payload plan out
        else Rle.encode d.payload plan out) =
        ({ status := .ok, runCount := plan.runCount, bytesWritten := k },
          store out 0 (d.recoded .gpioRle).samples) := by
      have hitems := hwf.itemCount_le
      by_cases hw2 : d.itemBytes = 2
      · rw [if_pos hw2]
        have hsel2 := hselected
        have hal := hwf.aligned
        rw [hw2] at hsel2 hal
        rw [hrle, hw2]
        exact Rle.encodeHybrid16_select hsel2 hwf.nonempty hal (by omega)
      · rw [if_neg hw2, hrle]
        exact Rle.encode_select hselected hwf.itemBytes_pos.1 hwf.nonempty (by omega) hwf.aligned
          (by omega) (by omega) (by omega)
    set target := (p.frames scratch).store 56 (store out 0 (d.recoded .gpioRle).samples) with htarget
    have hsamples : slice target.bytes 56 k = (d.recoded .gpioRle).samples := by
      have hst0 : store out 0 (d.recoded .gpioRle).samples =
          (d.recoded .gpioRle).samples ++ out.drop k := by
        rw [store_zero (by omega), ← hk']
      have hback := slice_store (b := (p.frames scratch).bytes) (o := 56)
        (s := store out 0 (d.recoded .gpioRle).samples)
        (by rw [length_store, houtlen, (p.frames scratch).size_eq]; unfold kDataFrameBytes; omega)
      rw [length_store, houtlen] at hback
      have hcut : slice target.bytes 56 k = (slice target.bytes 56 d.payload.length).take k := by
        unfold slice
        rw [List.take_take, Nat.min_eq_left (by omega)]
      rw [hcut]
      show (slice (Wire.store (p.frames scratch).bytes 56 _) 56 d.payload.length).take k = _
      rw [hback, hst0, List.take_left' hk'.symm]
    have hbody := take_sealRle hc hraw hk' (by omega) hsamples
    set sum := Checksum.adler32 (d.recoded .gpioRle).body with hsum
    set page := ((((target.store 0 ((p.frames i).bytes.take 56)).store 44 [1]).store 52
      (leBytes 4 (d.recoded .gpioRle).runCount)).store 12 (leBytes 4 (60 + k))).store 16
        (leBytes 4 (12 + k)) with hpage
    have hseal : p.sealRle (p.frames i) target plan k =
        (some sum, page.store (56 + k) (leBytes 4 sum.toNat)) := by
      have hchk : computeChecksum ChecksumAlgorithm.adler32 (page.bytes.take (56 + k)) = some sum := by
        rw [hbody, computeChecksum_adler32]
      unfold Pipeline.sealRle
      simp only [hpre, kHeaderSize, kTrailerSize, Nat.reduceAdd, hv3, if_true, halg, hruns, hframe,
        show k + 48 + 12 = 60 + k by omega, show 60 + k - 4 = 56 + k by omega,
        Nat.add_comm k 12, ← hpage, hchk]
    have hcontent := hc.recode (hwf.compressed hk hsmall) hpolicy hk' hbody
    refine Or.inr ⟨scratch, page.store (56 + k) (leBytes 4 sum.toNat),
      (p.frames i).store 0 ((page.store (56 + k) (leBytes 4 sum.toNat)).bytes.take (60 + k)), 60 + k,
      hsfree, Coded.of_recoded hv3 hc (by omega) (hcontent.congr ?_), ?_⟩
    · refine PacketFrame.take_store_zero ?_ (by omega)
      rw [List.length_take, PacketFrame.size_eq]
      unfold kDataFrameBytes
      omega
    · have hrecords : Function.update (Function.update (Function.update p.records scratch
          { p.records scratch with state := .filling }) i { p.records i with frameSize := 60 + k })
            scratch {} = Function.update p.records i { p.records i with frameSize := 60 + k } := by
        funext j
        by_cases hj : j = scratch
        · subst hj
          rw [Function.update_self, Function.update_of_ne hne.symm, hfree j hsfree]
        · rw [Function.update_of_ne hj]
          by_cases hji : j = i
          · subst hji
            rw [Function.update_self, Function.update_self]
          · rw [Function.update_of_ne hji, Function.update_of_ne hj, Function.update_of_ne hji]
      simp only
      rw [← hout, hcoded]
      simp only [← htarget, hseal, if_true, hframe, show k + 48 + 12 = 60 + k by omega,
        Pipeline.recycle, Pipeline.toCore_withCore, Pipeline.withCore_withCore, Core.setRecord, Core.setFrame,
        Core.rework, Function.update_of_ne hne, kPacketBufferCount, if_neg (not_le.mpr hsrange),
        hrecords, Function.update_self, hfblen]
      rw [Prod.mk.injEq]
      exact ⟨rfl, decide_eq_true (by omega)⟩

end ThingDaq
