import ThingDaq.Pipeline.Fidelity

/-!
# Packing in place

`packAdc12` (`firmware/src/packet_buffer_pipeline.cpp`) reads the codes of a page from the
array that it writes the packed bytes to, four bytes behind for every three.  `packApart`
is the same loop with an output buffer of its own.

## Main results

* `highNibblesClear_iff` — the check in front of the loop finds every code above 4095.
* `packPairs_turns` — the loop byte by byte, as the source writes it.
* `Reach.payload_fits` — every ADC page in use holds its payload.
* `packAdc12_in_place` — a code above 4095 and an untouched page, or the bytes that
  packing into a separate buffer gives.
-/

namespace ThingDaq

open Wire Table

/-! ### The check -/

/-- Code `k` of a payload. -/
def codeAt (payload : Bytes) (k : ℕ) : ℕ := leValue (slice payload (2 * k) 2)

theorem codeAt_zero (lo hi : UInt8) (rest : Bytes) :
    codeAt (lo :: hi :: rest) 0 = lo.toNat + 256 * hi.toNat := rfl

theorem codeAt_succ (lo hi : UInt8) (rest : Bytes) (k : ℕ) :
    codeAt (lo :: hi :: rest) (k + 1) = codeAt rest k := rfl

theorem highNibblesClear_iff : ∀ (n : ℕ) (payload : Bytes), payload.length = 2 * n →
    (highNibblesClear payload = true ↔ ∀ k < n, codeAt payload k ≤ 4095) := by
  intro n
  induction n with
  | zero =>
    intro payload h
    have : payload = [] := List.length_eq_zero_iff.mp h
    subst this
    simp [highNibblesClear]
  | succ n ih =>
    intro payload h
    obtain ⟨lo, hi, rest, rfl⟩ : ∃ lo hi rest, payload = lo :: hi :: rest := by
      rcases payload with - | ⟨lo, - | ⟨hi, rest⟩⟩
      · simp at h
      · simp at h
        omega
      · exact ⟨lo, hi, rest, rfl⟩
    simp only [List.length_cons] at h
    have hlo := lo.toNat_lt
    -- the low byte does not decide: a clear high nibble is a high byte below 16
    have hfirst : hi &&& 0xF0 = 0 ↔ codeAt (lo :: hi :: rest) 0 ≤ 4095 := by
      rw [Host.and_240_eq_zero, codeAt_zero]
      omega
    rw [highNibblesClear, Bool.and_eq_true, decide_eq_true_eq, hfirst, ih rest (by omega)]
    constructor
    · rintro ⟨h0, hrest⟩ k hk
      cases k with
      | zero => exact h0
      | succ k => exact hrest k (by omega)
    · intro hall
      exact ⟨hall 0 (by omega), fun k hk => hall (k + 1) (by omega)⟩

/-! ### The loop -/

/-- One turn, byte by byte: both codes are read before the first of the three is written. -/
def packTurn (base : ℕ) (f : PacketFrame) (i : ℕ) : PacketFrame :=
  let data := fun k => (byteAt f.bytes (base + k)).toNat
  let a := data (4 * i) ||| (data (4 * i + 1) <<< 8)
  let b := data (4 * i + 2) ||| (data (4 * i + 3) <<< 8)
  ((f.store (base + 3 * i) [UInt8.ofNat a]).store (base + 3 * i + 1)
    [UInt8.ofNat ((a >>> 8) ||| (b <<< 4))]).store (base + 3 * i + 2) [UInt8.ofNat (b >>> 4)]

/-- Three bytes in a row. -/
theorem frame_store_three {f : PacketFrame} {o : ℕ} (x y z : UInt8) (h : o + 3 ≤ 4096) :
    ((f.store o [x]).store (o + 1) [y]).store (o + 2) [z] = f.store o [x, y, z] := by
  have hlen : f.bytes.length = 4096 := f.size_eq
  have htwo : store (store f.bytes o [x]) (o + 1) [y] = store f.bytes o [x, y] :=
    store_store (x := [x]) (y := [y]) (by simp; omega)
  have hthree : store (store f.bytes o [x, y]) (o + 2) [z] = store f.bytes o [x, y, z] :=
    store_store (x := [x, y]) (y := [z]) (by simp; omega)
  simp only [PacketFrame.store, htwo, hthree]

theorem byteAt_slice {b : Bytes} {o n j : ℕ} (h : j < n) :
    byteAt (slice b o n) j = byteAt b (o + j) := by
  unfold byteAt slice
  rw [List.getD_eq_getElem?_getD, List.getD_eq_getElem?_getD, List.getElem?_take_of_lt h,
    List.getElem?_drop]

theorem packTurn_eq {base i : ℕ} {f : PacketFrame} (h : base + 3 * i + 3 ≤ 4096) :
    packTurn base f i = f.store (base + 3 * i) (packPair (slice f.bytes (base + 4 * i) 4)) := by
  have hread : ∀ j < 4, byteAt (slice f.bytes (base + 4 * i) 4) j =
      byteAt f.bytes (base + (4 * i + j)) := fun j hj => by
    rw [byteAt_slice hj, Nat.add_assoc]
  unfold packTurn
  rw [frame_store_three _ _ _ h]
  simp only [packPair, hread 0 (by decide), hread 1 (by decide), hread 2 (by decide),
    hread 3 (by decide), Nat.add_zero]

theorem packPairs_turns {base : ℕ} {f : PacketFrame} : ∀ n, base + 4 * n ≤ 4096 →
    Pipeline.packPairs base n f = (List.range n).foldl (packTurn base) f := by
  intro n
  induction n with
  | zero => intro _; rfl
  | succ n ih =>
    intro h
    rw [packPairs_succ, List.range_succ, List.foldl_append, ← ih (by omega)]
    exact (packTurn_eq (by omega)).symm

/-- The loop with an output buffer of its own. -/
def packApart (payload : Bytes) (n : ℕ) : Bytes :=
  (List.range n).foldl (fun out i => store out (3 * i) (packPair (slice payload (4 * i) 4)))
    (List.replicate (3 * n) 0)

theorem packApart_eq {payload : Bytes} {n : ℕ} (h : payload.length = 4 * n) :
    packApart payload n = pack12 payload := by
  have hpack : ∀ d : Bytes, d.length = 4 → (packPair d).length = 3 := fun d _ => length_packPair d
  have hloop : packApart payload n =
      writeRecords 3 0 (converted 4 0 packPair payload) n (List.replicate (3 * n) 0) := by
    unfold packApart writeRecords converted
    simp only [Nat.zero_add]
  have hlen : ∀ i < n, (converted 4 0 packPair payload i).length = 3 :=
    length_converted hpack (by omega)
  rw [hloop, writeRecords_eq hlen (by simp), flatMap_packPair payload 0 n (by omega)]
  simp [slice, ← h]

/-! ### The page -/

section Page

variable (p : Pipeline) (i : ℕ)

/-- Where the payload of a page begins. -/
def Pipeline.payloadBase : ℕ := kHeaderSize + p.setup.layout.prefixBytes

/-- The codes of page `i`, before they are packed. -/
def Pipeline.adcPayload : Bytes :=
  slice (p.frames i).bytes p.payloadBase ((p.records i).itemCount * 4)

/-- The page holds as many pairs as its record counts. -/
def Pipeline.PayloadFits : Prop :=
  p.payloadBase + (p.records i).itemCount * 4 ≤ kDataFrameBytes

instance : Decidable (p.PayloadFits i) := inferInstanceAs (Decidable (_ ≤ _))

end Page

/-- Admitted layouts leave room for the payload of an ADC page in use. -/
theorem Reach.payload_fits {R : Rules} {t : Tracked} (h : Reach R t) {i : ℕ}
    (huse : (t.pipe.records i).state ≠ .free) (hadc : (t.pipe.records i).stream = .adc) :
    t.pipe.PayloadFits i := by
  have hcount := (h.good.inv.slot i).count huse
  change (t.pipe.records i).itemCount = (t.pipe.setup.stream (t.pipe.records i).stream).itemCount
    at hcount
  have hbytes : (t.pipe.setup.stream .adc).itemBytes = 4 :=
    (RunLayout.sampling_of_valid t.pipe.setup.layout_valid).adcBytes
  obtain ⟨-, -, -, hframe, -⟩ := FrameLayout.valid_iff.mp (t.pipe.setup.stream_valid .adc)
  have hle := t.pipe.setup.frameBytes_le .adc
  rw [hbytes] at hframe
  rw [hadc] at hcount
  unfold Pipeline.PayloadFits Pipeline.payloadBase kHeaderSize kDataFrameBytes
  omega

section Packed

variable {p : Pipeline} {i : ℕ}

theorem packAdc12_refused (h : highNibblesClear (p.adcPayload i) = false) :
    p.packAdc12 i =
      ({ p with encodingRejections := (p.encodingRejections + 1) % 2 ^ 32 }, false) := by
  unfold Pipeline.adcPayload Pipeline.payloadBase at h
  unfold Pipeline.packAdc12
  simp only [h, Bool.not_false, if_true]

/-- Header fields in front of the payload, and a trailer behind the packed part. -/
inductive Relabel (base n : ℕ) : PacketFrame → PacketFrame → Prop
  | refl (f : PacketFrame) : Relabel base n f f
  | header {f g : PacketFrame} {off : ℕ} {bs : Bytes} (h : Relabel base n f g)
      (hoff : off + bs.length ≤ base) : Relabel base n f (g.store off bs)
  | trailer {f g : PacketFrame} {bs : Bytes} (h : Relabel base n f g) (hlen : bs.length = 4) :
      Relabel base n f (g.store (base + n) bs)

/-- Such writes keep the packed part and what lies behind the trailer. -/
theorem Relabel.slice {base n : ℕ} {f g : PacketFrame} (h : Relabel base n f g) {o k : ℕ}
    (hok : base ≤ o ∧ o + k ≤ base + n ∨ base + n + 4 ≤ o) :
    Wire.slice g.bytes o k = Wire.slice f.bytes o k := by
  induction h with
  | refl => rfl
  | header _ hoff ih => exact (slice_store_after (by omega)).trans ih
  | trailer _ hlen ih =>
    rcases hok with ⟨-, hok⟩ | hok
    · exact (slice_store_before (by omega)).trans ih
    · exact (slice_store_after (by omega)).trans ih

/-- The two lengths of the header are relabelled together. -/
theorem Relabel.lengths {base n : ℕ} {f g : PacketFrame} (h : Relabel base n f g)
    (hbase : 44 ≤ base) (frame payload : ℕ) :
    Relabel base n f ((g.store 12 (leBytes 4 frame)).store 16 (leBytes 4 payload)) :=
  (h.header (by rw [length_leBytes]; omega)).header (by rw [length_leBytes]; omega)

theorem packAdc12_packed (h : highNibblesClear (p.adcPayload i) = true) :
    Relabel p.payloadBase ((p.records i).itemCount * 3)
      (Pipeline.packPairs p.payloadBase (p.records i).itemCount (p.frames i))
      ((p.packAdc12 i).1.frames i) := by
  have hsize : 48 + p.setup.layout.prefixBytes + (p.records i).itemCount * 3 - 4 =
      p.payloadBase + (p.records i).itemCount * 3 := by
    unfold Pipeline.payloadBase kHeaderSize
    omega
  have hbase : 44 ≤ p.payloadBase := by
    unfold Pipeline.payloadBase kHeaderSize
    omega
  have hv3 : p.setup.layout.isV3 = true → 45 ≤ p.payloadBase := fun hv3 => by
    unfold Pipeline.payloadBase RunLayout.prefixBytes kHeaderSize kDataPrefixBytes
    rw [if_pos hv3]
    omega
  have hclear : highNibblesClear (Wire.slice (p.frames i).bytes
    (kHeaderSize + p.setup.layout.prefixBytes) ((p.records i).itemCount * 4)) = true := h
  have hframe : ∀ (q : Pipeline) (f : PacketFrame), (q.withCore (q.setFrame i f)).frames i = f :=
    fun q f => Function.update_self ..
  have hlabel : Relabel p.payloadBase ((p.records i).itemCount * 3)
      (Pipeline.packPairs p.payloadBase (p.records i).itemCount (p.frames i))
      (if p.setup.layout.isV3 then
        (Pipeline.packPairs p.payloadBase (p.records i).itemCount (p.frames i)).store 44 [2]
      else (Pipeline.packPairs p.payloadBase (p.records i).itemCount (p.frames i)).store 4
        [InputExperiment.kAdcPackedVersion]) := by
    split
    · next hpage => exact (Relabel.refl _).header (hv3 hpage)
    · exact (Relabel.refl _).header (by simp; omega)
  unfold Pipeline.packAdc12
  simp only [hclear, Bool.not_true, Bool.false_eq_true, if_false]
  have hheader := hlabel.lengths hbase (48 + p.setup.layout.prefixBytes + (p.records i).itemCount * 3)
    (p.setup.layout.prefixBytes + (p.records i).itemCount * 3)
  split
  · -- without a checksum the frame has no trailer
    rw [hframe]
    exact hheader
  · rw [hframe, hsize]
    exact hheader.trailer (length_leBytes _ _)

end Packed

/-- `packAdc12` finds a code above 4095 and leaves every page as it is, or it leaves the
bytes that packing the payload into a separate buffer gives, and nothing behind them and
the checksum is touched. -/
theorem packAdc12_in_place (p : Pipeline) (i : ℕ) (hfit : p.PayloadFits i) :
    ((∃ k < 2 * (p.records i).itemCount, 4095 < codeAt (p.adcPayload i) k) ∧
      (p.packAdc12 i).2 = false ∧ (p.packAdc12 i).1.frames = p.frames) ∨
    ((∀ k < 2 * (p.records i).itemCount, codeAt (p.adcPayload i) k ≤ 4095) ∧
      slice ((p.packAdc12 i).1.frames i).bytes p.payloadBase ((p.records i).itemCount * 3) =
        packApart (p.adcPayload i) (p.records i).itemCount ∧
      ∀ o k, p.payloadBase + (p.records i).itemCount * 3 + 4 ≤ o →
        slice ((p.packAdc12 i).1.frames i).bytes o k = slice (p.frames i).bytes o k) := by
  set n := (p.records i).itemCount with hn
  have hfit' : p.payloadBase + 4 * n ≤ 4096 := by
    have := hfit
    unfold Pipeline.PayloadFits kDataFrameBytes at this
    omega
  have hlen : (p.adcPayload i).length = 4 * n := by
    unfold Pipeline.adcPayload
    rw [length_slice, (p.frames i).size_eq]
    unfold kDataFrameBytes
    omega
  have hcheck := highNibblesClear_iff (2 * n) (p.adcPayload i) (by omega)
  cases hclear : highNibblesClear (p.adcPayload i) with
  | false =>
    refine Or.inl ⟨?_, by rw [packAdc12_refused hclear], by rw [packAdc12_refused hclear]⟩
    by_contra hall
    push Not at hall
    rw [hcheck.mpr hall] at hclear
    cases hclear
  | true =>
    have hpacked := packAdc12_packed hclear
    obtain ⟨-, hback, hplace⟩ := packPairs_spec p.payloadBase (p.frames i) n hfit'
    refine Or.inr ⟨hcheck.mp hclear, ?_, fun o k ho => ?_⟩
    · rw [hpacked.slice (Or.inl ⟨le_rfl, le_rfl⟩), ← hn, Nat.mul_comm n 3, hplace,
        packApart_eq hlen, Pipeline.adcPayload, ← hn, Nat.mul_comm n 4]
    · rw [hpacked.slice (Or.inr ho), hback o k (by omega)]

/-- A page of four pairs with two codes in it, and with a wide one. -/
def pageOf (codes : Bytes) : Pipeline :=
  (Tracked.initial.run [.startRun 7 ChecksumAlgorithm.adler32 3 shortBlocks, .beginFill .adc,
    .writePayload { bufferIndex := 0, lease := 1 } 0 codes]).pipe

theorem packAdc12_in_place_pair :
    slice (((pageOf [0x34, 0x02, 0xff, 0x0f]).packAdc12 0).1.frames 0).bytes 56 12 =
        [0x34, 0xf2, 0xff, 0, 0, 0, 0, 0, 0, 0, 0, 0] ∧
      ((pageOf [0x34, 0x02, 0x00, 0x10]).packAdc12 0).1.frames =
        (pageOf [0x34, 0x02, 0x00, 0x10]).frames := by
  have hnarrow := packAdc12_in_place (pageOf [0x34, 0x02, 0xff, 0x0f]) 0 (by decide +kernel)
  have hwide := packAdc12_in_place (pageOf [0x34, 0x02, 0x00, 0x10]) 0 (by decide +kernel)
  have hbase : (pageOf [0x34, 0x02, 0xff, 0x0f]).payloadBase = 56 := by decide +kernel
  have hcount : ((pageOf [0x34, 0x02, 0xff, 0x0f]).records 0).itemCount = 4 := by decide +kernel
  refine ⟨?_, ?_⟩
  · rcases hnarrow with ⟨hcode, -⟩ | ⟨-, hplace, -⟩
    · exact absurd hcode (by decide +kernel)
    · rw [hbase, hcount] at hplace
      rw [hplace]
      decide +kernel
  · rcases hwide with ⟨-, -, hpages⟩ | ⟨hall, -⟩
    · exact hpages
    · exact absurd hall (by decide +kernel)

end ThingDaq
