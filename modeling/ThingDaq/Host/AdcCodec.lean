import ThingDaq.Host.DataFrames
import ThingDaq.Host.SampleCodecs

/-!
# The host's ADC sample codec

`encode_adc_payload` of `daq_api/src/thingdone_daq/protocol_v3.py`, and what the byte lanes of the
PACK12 decoder compute.  Three bytes hold two codes of twelve bits; the decoder never looks at
them together, it moves whole lanes and joins the middle one through two large integers.

## Main results

* `unpack12_eq` — the lanes put the two codes of every three bytes side by side.
* `adc_codec` — what is encoded decodes to the same pairs.
-/

namespace ThingDaq.Host

open Wire

/-- One turn of the loop, the range check included. -/
def adcPairBytes (policy : AdcPolicy) (pair : ℤ × ℤ) : Except V3Error Bytes :=
  if ¬((0 ≤ pair.1 ∧ pair.1 ≤ 4095) ∧ 0 ≤ pair.2 ∧ pair.2 ≤ 4095) then
    reject "ADC code outside 0..4095"
  else
    let a := pair.1.toNat
    let b := pair.2.toNat
    match policy with
    | .pack12 =>
      .ok [UInt8.ofNat (a &&& 255), UInt8.ofNat ((a >>> 8) ||| ((b &&& 15) <<< 4)),
        UInt8.ofNat (b >>> 4)]
    | .raw => .ok (leBytes 2 a ++ leBytes 2 b)

def encodeAdcPayload (pairs : List (ℤ × ℤ)) (policy : AdcPolicy) : Except V3Error Bytes :=
  if pairs.length < 1 || maxAdcPairs < pairs.length then reject "ADC pair count outside bounds"
  else
    match pairs.foldlM (fun samples pair => (samples ++ ·) <$> adcPairBytes policy pair) [] with
    | .error e => .error e
    | .ok samples => .ok (dataPrefix policy.encoding.byte 4 (4 * pairs.length) 0 ++ samples)

/-! ### The byte lanes -/

/-- The two codes of twelve bits in three bytes. -/
def packedCodes (p : Bytes) : ℕ × ℕ :=
  ((byteAt p 0).toNat + 256 * ((byteAt p 1).toNat % 16),
    (byteAt p 1).toNat / 16 + 16 * (byteAt p 2).toNat)

/-- A pair as the two words of a RAW payload. -/
def pairBytes (p : ℕ × ℕ) : Bytes := leBytes 2 p.1 ++ leBytes 2 p.2

@[simp] theorem length_pairBytes (p : ℕ × ℕ) : (pairBytes p).length = 4 := by
  rw [pairBytes, List.length_append, length_leBytes, length_leBytes]

theorem toNat_lowNibble (p : UInt8) : (lowNibble p).toNat = p.toNat % 16 := by
  unfold lowNibble
  rw [UInt8.toNat_and]
  exact Nat.and_two_pow_sub_one_eq_mod p.toNat 4

theorem toNat_highNibble (p : UInt8) : (highNibble p).toNat = p.toNat / 16 := by
  unfold highNibble
  rw [UInt8.toNat_shiftRight]
  exact Nat.shiftRight_eq_div_pow p.toNat 4

theorem toNat_lowNibbleShift (p : UInt8) : (lowNibbleShift p).toNat = (p.toNat % 16) <<< 4 := by
  have hp := toNat_lowNibble p
  unfold lowNibble at hp
  unfold lowNibbleShift
  rw [UInt8.toNat_shiftLeft, hp, show (4 : UInt8).toNat % 8 = 4 by decide, Nat.shiftLeft_eq]
  omega

/-- Below the shift the two sides of an or have no common bit. -/
theorem or_shiftLeft {x y k : ℕ} (h : x < 2 ^ k) : x ||| y <<< k = x + 2 ^ k * y := by
  rw [Nat.or_comm, ← Nat.shiftLeft_add_eq_or_of_lt h, Nat.shiftLeft_eq]
  ring

/-- The four bytes that the lanes make of three. -/
theorem pairBytes_packedCodes (p₀ p₁ p₂ : UInt8) :
    pairBytes (packedCodes [p₀, p₁, p₂]) =
      [p₀, lowNibble p₁, highNibble p₁ ||| lowNibbleShift p₂, highNibble p₂] := by
  have h₀ := p₀.toNat_lt
  have h₁ := p₁.toNat_lt
  have h₂ := p₂.toNat_lt
  have hbytes : pairBytes (packedCodes [p₀, p₁, p₂]) =
      [UInt8.ofNat (p₀.toNat + 256 * (p₁.toNat % 16)),
        UInt8.ofNat ((p₀.toNat + 256 * (p₁.toNat % 16)) / 256),
        UInt8.ofNat (p₁.toNat / 16 + 16 * p₂.toNat),
        UInt8.ofNat ((p₁.toNat / 16 + 16 * p₂.toNat) / 256)] := rfl
  rw [hbytes]
  refine congrArg₂ (· :: ·) ?_ (congrArg₂ (· :: ·) ?_ (congrArg₂ (· :: ·) ?_
    (congrArg (· :: []) ?_))) <;> apply UInt8.toNat_inj.mp
  · rw [UInt8.toNat_ofNat']
    omega
  · rw [toNat_lowNibble, UInt8.toNat_ofNat']
    omega
  · rw [UInt8.toNat_or, toNat_highNibble, toNat_lowNibbleShift, UInt8.toNat_ofNat',
      or_shiftLeft (by omega)]
    omega
  · rw [toNat_highNibble, UInt8.toNat_ofNat']
    omega

theorem unpack12_cons (p₀ p₁ p₂ : UInt8) (rest : Bytes) (n : ℕ) :
    unpack12 (p₀ :: p₁ :: p₂ :: rest) (n + 1) =
      pairBytes (packedCodes [p₀, p₁, p₂]) ++ unpack12 rest n := by
  rw [pairBytes_packedCodes]
  unfold unpack12
  rw [stride_cons_three (by omega), stride_cons_three (by omega), stride_cons_three (by omega)]
  simp only [List.map_cons]
  rw [leBytes_or, interleave4]
  rfl

theorem itemsOf_append {w n : ℕ} (i rest : Bytes) (h : i.length = w) :
    Rle.itemsOf (i ++ rest) w (n + 1) = i :: Rle.itemsOf rest w n := by
  unfold Rle.itemsOf
  rw [List.range_succ_eq_map, List.map_cons, List.map_map, Nat.zero_mul, slice_append_left (by omega),
    slice_self h]
  refine congrArg (i :: ·) (List.map_congr_left fun k _ => ?_)
  show slice (i ++ rest) ((k + 1) * w) w = slice rest (k * w) w
  rw [slice_append_right (by rw [h]; exact Nat.le_mul_of_pos_left w (by omega)), h, Nat.succ_mul,
    Nat.add_sub_cancel]

/-- The bulk operations do what a loop over the pairs would do. -/
theorem unpack12_eq : ∀ (n : ℕ) (samples : Bytes), samples.length = 3 * n →
    unpack12 samples n = ((Rle.itemsOf samples 3 n).map packedCodes).flatMap pairBytes := by
  intro n
  induction n with
  | zero =>
    intro samples h
    rw [List.length_eq_zero_iff.mp h]
    rfl
  | succ n ih =>
    intro samples h
    match samples, h with
    | p₀ :: p₁ :: p₂ :: rest, h =>
      have hlen : rest.length = 3 * n := by
        simp only [List.length_cons] at h
        omega
      have hitems : Rle.itemsOf (p₀ :: p₁ :: p₂ :: rest) 3 (n + 1) =
          [p₀, p₁, p₂] :: Rle.itemsOf rest 3 n := itemsOf_append [p₀, p₁, p₂] rest rfl
      rw [unpack12_cons, ih rest hlen, hitems, List.map_cons, List.flatMap_cons]
    | [], h => simp at h
    | [_], h => simp at h; omega
    | [_, _], h => simp at h; omega

/-! ### Pairs of a decoded payload -/

/-- The code pairs of a decoded ADC payload. -/
def V3DecodedData.pairs (d : V3DecodedData) : List (ℕ × ℕ) :=
  (Rle.itemsOf d.payload 4 d.itemCount).map fun r => (leValue (r.take 2), leValue (r.drop 2))

theorem pairs_flatMap {l : List (ℕ × ℕ)} (h : ∀ p ∈ l, p.1 < 65536 ∧ p.2 < 65536) :
    (Rle.itemsOf (l.flatMap pairBytes) 4 l.length).map
      (fun r => (leValue (r.take 2), leValue (r.drop 2))) = l := by
  have hlengths : ∀ r ∈ l.map pairBytes, r.length = 4 := by
    intro r hr
    obtain ⟨p, -, rfl⟩ := List.mem_map.mp hr
    exact length_pairBytes p
  have hitems := itemsOf_flatten (l.map pairBytes) hlengths
  rw [List.length_map] at hitems
  rw [List.flatMap_def, hitems, List.map_map]
  refine (List.map_congr_left fun p hp => ?_).trans (List.map_id l)
  obtain ⟨h₁, h₂⟩ := h p hp
  have hlen : (leBytes 2 p.1).length = 2 := length_leBytes 2 p.1
  show (leValue ((leBytes 2 p.1 ++ leBytes 2 p.2).take 2), leValue ((leBytes 2 p.1 ++ leBytes 2 p.2).drop 2))
    = p
  rw [List.take_left' hlen, List.drop_left' hlen, leValue_leBytes_of_lt h₁, leValue_leBytes_of_lt h₂]

theorem packedCodes_lt (p : Bytes) : (packedCodes p).1 < 4096 ∧ (packedCodes p).2 < 4096 := by
  have h₀ := (byteAt p 0).toNat_lt
  have h₁ := (byteAt p 1).toNat_lt
  have h₂ := (byteAt p 2).toNat_lt
  unfold packedCodes
  dsimp only
  omega

/-- The pairs that the lanes make are the codes of the groups of three bytes. -/
theorem pairs_unpack12 {samples : Bytes} {n : ℕ} (h : samples.length = 3 * n) :
    (Rle.itemsOf (unpack12 samples n) 4 n).map (fun r => (leValue (r.take 2), leValue (r.drop 2))) =
      (Rle.itemsOf samples 3 n).map packedCodes := by
  have hlen : ((Rle.itemsOf samples 3 n).map packedCodes).length = n := by
    rw [List.length_map, Rle.length_itemsOf]
  have hpairs := pairs_flatMap (l := (Rle.itemsOf samples 3 n).map packedCodes) (fun p hp => by
    obtain ⟨q, -, rfl⟩ := List.mem_map.mp hp
    have := packedCodes_lt q
    omega)
  rw [hlen] at hpairs
  rw [unpack12_eq n samples h]
  exact hpairs

/-! ### The encoder -/

/-- Lists of pairs that the encoder takes. -/
structure AdcPairs (pairs : List (ℤ × ℤ)) : Prop where
  nonempty : 1 ≤ pairs.length
  count : pairs.length ≤ maxAdcPairs
  codes : ∀ p ∈ pairs, (0 ≤ p.1 ∧ p.1 ≤ 4095) ∧ 0 ≤ p.2 ∧ p.2 ≤ 4095

/-- The bytes of one pair in the range. -/
def adcPairCode (policy : AdcPolicy) (a b : ℕ) : Bytes :=
  match policy with
  | .pack12 =>
    [UInt8.ofNat (a &&& 255), UInt8.ofNat ((a >>> 8) ||| ((b &&& 15) <<< 4)), UInt8.ofNat (b >>> 4)]
  | .raw => pairBytes (a, b)

/-- The natural number behind a code of the range. -/
def natPair (p : ℤ × ℤ) : ℕ × ℕ := (p.1.toNat, p.2.toNat)

theorem adcPairBytes_ok {policy : AdcPolicy} {p : ℤ × ℤ} {b : Bytes} :
    adcPairBytes policy p = .ok b ↔ ((0 ≤ p.1 ∧ p.1 ≤ 4095) ∧ 0 ≤ p.2 ∧ p.2 ≤ 4095) ∧
      b = adcPairCode policy (natPair p).1 (natPair p).2 := by
  unfold adcPairBytes reject
  rw [Framing.ite_error_eq_ok, not_not]
  refine and_congr_right fun _ => ?_
  cases policy <;> exact ⟨fun h => (Except.ok.inj h).symm, fun h => congrArg Except.ok h.symm⟩

theorem foldlM_adcPairBytes {policy : AdcPolicy} {pairs : List (ℤ × ℤ)} {acc b : Bytes} :
    pairs.foldlM (fun samples pair => (samples ++ ·) <$> adcPairBytes policy pair) acc = .ok b ↔
      (∀ p ∈ pairs, (0 ≤ p.1 ∧ p.1 ≤ 4095) ∧ 0 ≤ p.2 ∧ p.2 ≤ 4095) ∧
        b = acc ++ (pairs.map natPair).flatMap fun p => adcPairCode policy p.1 p.2 := by
  induction pairs generalizing acc with
  | nil => simp [pure, Except.pure, eq_comm]
  | cons p pairs ih =>
    rw [List.foldlM_cons, List.map_cons, List.flatMap_cons, List.forall_mem_cons, ← List.append_assoc]
    constructor
    · intro h
      cases hp : adcPairBytes policy p with
      | error e =>
        rw [hp] at h
        cases h
      | ok code =>
        rw [hp] at h
        obtain ⟨hrange, rfl⟩ := adcPairBytes_ok.mp hp
        obtain ⟨hrest, hb⟩ := ih.mp h
        exact ⟨⟨hrange, hrest⟩, hb⟩
    · rintro ⟨⟨hrange, hrest⟩, hb⟩
      rw [adcPairBytes_ok.mpr ⟨hrange, rfl⟩]
      exact ih.mpr ⟨hrest, hb⟩

theorem encodeAdcPayload_ok {pairs : List (ℤ × ℤ)} {policy : AdcPolicy} {payload : Bytes} :
    encodeAdcPayload pairs policy = .ok payload ↔ AdcPairs pairs ∧
      payload = dataPrefix policy.encoding.byte 4 (4 * pairs.length) 0 ++
        (pairs.map natPair).flatMap fun p => adcPairCode policy p.1 p.2 := by
  unfold encodeAdcPayload reject
  rw [Framing.ite_error_eq_ok]
  simp only [Bool.or_eq_true, decide_eq_true_eq, not_or, Nat.not_lt]
  constructor
  · rintro ⟨⟨hpos, hmax⟩, h⟩
    split at h
    · cases h
    · next samples hfold =>
      obtain ⟨hcodes, rfl⟩ := foldlM_adcPairBytes.mp hfold
      exact ⟨⟨hpos, hmax, hcodes⟩, (Except.ok.inj h).symm⟩
  · rintro ⟨⟨hpos, hmax, hcodes⟩, rfl⟩
    refine ⟨⟨hpos, hmax⟩, ?_⟩
    rw [foldlM_adcPairBytes.mpr ⟨hcodes, rfl⟩]
    rfl

/-- Three bytes of the encoder hold the codes that were put in. -/
theorem packedCodes_adcPairCode {a b : ℕ} (ha : a < 4096) (hb : b < 4096) :
    packedCodes (adcPairCode .pack12 a b) = (a, b) := by
  have hlow : a &&& 255 = a % 256 := Nat.and_two_pow_sub_one_eq_mod a 8
  have hnibble : b &&& 15 = b % 16 := Nat.and_two_pow_sub_one_eq_mod b 4
  have hmiddle : (a >>> 8) ||| ((b &&& 15) <<< 4) = a / 256 + 16 * (b % 16) := by
    rw [or_shiftLeft (by rw [Nat.shiftRight_eq_div_pow]; omega), Nat.shiftRight_eq_div_pow, hnibble,
      show (2 : ℕ) ^ 8 = 256 from rfl, show (2 : ℕ) ^ 4 = 16 from rfl]
  have hhigh : b >>> 4 = b / 16 := Nat.shiftRight_eq_div_pow b 4
  have hbytes : packedCodes (adcPairCode .pack12 a b) =
      ((UInt8.ofNat (a &&& 255)).toNat +
          256 * ((UInt8.ofNat ((a >>> 8) ||| ((b &&& 15) <<< 4))).toNat % 16),
        (UInt8.ofNat ((a >>> 8) ||| ((b &&& 15) <<< 4))).toNat / 16 +
          16 * (UInt8.ofNat (b >>> 4)).toNat) := rfl
  rw [hbytes, hmiddle, hlow, hhigh, UInt8.toNat_ofNat', UInt8.toNat_ofNat', UInt8.toNat_ofNat']
  refine Prod.ext ?_ ?_ <;> dsimp only <;> omega

/-- The encoder's samples are groups of three bytes that hold the pairs. -/
theorem packedCodes_flatMap {l : List (ℕ × ℕ)} (h : ∀ p ∈ l, p.1 < 4096 ∧ p.2 < 4096) :
    (Rle.itemsOf (l.flatMap fun p => adcPairCode .pack12 p.1 p.2) 3 l.length).map packedCodes = l := by
  have hlengths : ∀ r ∈ l.map fun p => adcPairCode .pack12 p.1 p.2, r.length = 3 := by
    intro r hr
    obtain ⟨p, -, rfl⟩ := List.mem_map.mp hr
    rfl
  have hitems := itemsOf_flatten _ hlengths
  rw [List.length_map] at hitems
  rw [List.flatMap_def, hitems, List.map_map]
  refine (List.map_congr_left fun p hp => ?_).trans (List.map_id l)
  exact packedCodes_adcPairCode (h p hp).1 (h p hp).2

/-- Behind its prefix an ADC payload is judged by its encoding alone. -/
theorem decodeDataPayload_adcPrefix {e : UInt8} {n : ℕ} {samples : Bytes} (hn : 1 ≤ n)
    (hmax : n ≤ maxAdcPairs) (hlen : samples.length ≤ maxEncodedSampleBytes) :
    decodeDataPayload FrameKind.adcData (dataPrefix e 4 (4 * n) 0 ++ samples) n =
      decodeSamples FrameKind.adcData e 4 0 n samples := by
  change n ≤ 1012 at hmax
  change samples.length ≤ 4048 at hlen
  set pre := dataPrefix e 4 (4 * n) 0 with hpre
  have hprelen : pre.length = 12 := length_dataPrefix _ _ _ _
  have henc : byteAt (pre ++ samples) 0 = e := by rw [hpre]; rfl
  have hwidth : (byteAt (pre ++ samples) 1).toNat = 4 := by rw [hpre]; rfl
  have hreserved : leValue (slice (pre ++ samples) 2 2) = 0 := by rw [hpre]; rfl
  have hdecoded : leValue (slice (pre ++ samples) 4 4) = 4 * n := by
    rw [show slice (pre ++ samples) 4 4 = leBytes 4 (4 * n) by rw [hpre]; rfl,
      leValue_leBytes_of_lt (by omega)]
  have hruns : leValue (slice (pre ++ samples) 8 4) = 0 := by rw [hpre]; rfl
  have hdrop : (pre ++ samples).drop 12 = samples := List.drop_left' hprelen
  unfold decodeDataPayload
  simp only [henc, hwidth, hreserved, hdecoded, hruns, kDataPrefixBytes, hdrop, List.length_append,
    hprelen]
  rw [if_neg (by simp [maxEncodedSampleBytes]; omega), if_neg (by decide), if_neg (by simp),
    if_neg (by decide), if_neg (by simp [maxLogicalPayloadBytes]; omega), if_neg (by simp; omega)]

/-- A PACK12 payload is accepted whatever its samples are. -/
theorem decodeDataPayload_pack12 {n : ℕ} {samples : Bytes} (hn : 1 ≤ n) (hmax : n ≤ maxAdcPairs)
    (hlen : samples.length = 3 * n) :
    decodeDataPayload FrameKind.adcData (dataPrefix Encoding.adcPack12.byte 4 (4 * n) 0 ++ samples) n =
      .ok ⟨.adcPack12, 4, n, unpack12 samples n, samples.length⟩ := by
  change n ≤ 1012 at hmax
  rw [decodeDataPayload_adcPrefix hn hmax (by change _ ≤ 4048; omega)]
  unfold decodeSamples
  rw [if_neg (by decide), if_pos (by decide), if_neg (by simp), if_neg (not_not.mpr hlen)]

theorem highNibblesClear_pairBytes {l : List (ℕ × ℕ)} (h : ∀ p ∈ l, p.1 < 4096 ∧ p.2 < 4096) :
    highNibblesClear (l.flatMap pairBytes) = true := by
  induction l with
  | nil => rfl
  | cons p l ih =>
    obtain ⟨⟨h₁, h₂⟩, hrest⟩ := List.forall_mem_cons.mp h
    have hhigh : ∀ v < 4096, UInt8.ofNat (v / 256) &&& 0xF0 = 0 := by
      intro v hv
      rw [and_240_eq_zero, UInt8.toNat_ofNat']
      omega
    change (UInt8.ofNat (p.1 / 256) &&& 0xF0 = 0 && (UInt8.ofNat (p.2 / 256) &&& 0xF0 = 0 &&
      highNibblesClear (l.flatMap pairBytes))) = true
    rw [hhigh p.1 h₁, hhigh p.2 h₂, ih hrest]
    rfl

theorem length_flatMap_pairBytes (l : List (ℕ × ℕ)) : (l.flatMap pairBytes).length = l.length * 4 := by
  induction l with
  | nil => rfl
  | cons p l ih =>
    rw [List.flatMap_cons, List.length_append, ih, length_pairBytes, List.length_cons]
    omega

theorem length_flatMap_pack12 (l : List (ℕ × ℕ)) :
    (l.flatMap fun p => adcPairCode .pack12 p.1 p.2).length = 3 * l.length := by
  induction l with
  | nil => rfl
  | cons p l ih =>
    rw [List.flatMap_cons, List.length_append, ih, List.length_cons]
    change 3 + _ = _
    omega

theorem decodeDataPayload_rawPairs {l : List (ℕ × ℕ)} (hn : 1 ≤ l.length) (hmax : l.length ≤ maxAdcPairs)
    (h : ∀ p ∈ l, p.1 < 4096 ∧ p.2 < 4096) :
    decodeDataPayload FrameKind.adcData (dataPrefix Encoding.raw.byte 4 (4 * l.length) 0 ++
        l.flatMap pairBytes) l.length =
      .ok ⟨.raw, 4, l.length, l.flatMap pairBytes, l.length * 4⟩ := by
  change l.length ≤ 1012 at hmax
  have hlen := length_flatMap_pairBytes l
  rw [decodeDataPayload_adcPrefix hn hmax (by change _ ≤ 4048; omega)]
  unfold decodeSamples
  dsimp only
  rw [if_pos (by decide), if_neg (by simp [hlen]),
    if_neg (by rw [adcPayloadCodesValid_eq, highNibblesClear_pairBytes h]; simp), hlen]

/-! ### The codec -/

/-- Whatever is accepted as PACK12 has the codes of its groups of three bytes. -/
theorem pairs_of_pack12 {kind : FrameKind} {payload : Bytes} {n : ℕ} {d : V3DecodedData}
    (h : decodeDataPayload kind payload n = .ok d) (henc : d.encoding = .adcPack12) :
    d.pairs = (Rle.itemsOf (payload.drop 12) 3 n).map packedCodes := by
  obtain ⟨-, -, -, -, -, hsamples⟩ := decodeDataPayload_sound h
  unfold decodeSamples reject at hsamples
  dsimp only at hsamples
  split at hsamples
  · -- a RAW payload is not packed
    simp only [Framing.ite_error_eq_ok] at hsamples
    obtain ⟨-, -, hd⟩ := hsamples
    cases hd
    cases henc
  split at hsamples
  · simp only [Framing.ite_error_eq_ok, not_not] at hsamples
    obtain ⟨-, hlen, hd⟩ := hsamples
    cases hd
    exact pairs_unpack12 hlen
  split at hsamples
  · simp only [Framing.ite_error_eq_ok] at hsamples
    obtain ⟨-, -, -, hsamples⟩ := hsamples
    split at hsamples
    · cases hsamples
    · rw [Framing.ite_error_eq_ok] at hsamples
      obtain ⟨-, hd⟩ := hsamples
      cases hd
      cases henc
  · cases hsamples

/-- For every payload the bulk decoder yields the codes that stand in its bytes, and decoding what
was encoded returns the pairs. -/
theorem adc_codec :
    (∀ (n : ℕ) (samples : Bytes), samples.length = 3 * n →
      unpack12 samples n = ((Rle.itemsOf samples 3 n).map packedCodes).flatMap pairBytes) ∧
    (∀ (n : ℕ) (samples : Bytes), 1 ≤ n → n ≤ maxAdcPairs → samples.length = 3 * n →
      ∃ d, decodeDataPayload FrameKind.adcData
          (dataPrefix Encoding.adcPack12.byte 4 (4 * n) 0 ++ samples) n = .ok d ∧
        d.pairs = (Rle.itemsOf samples 3 n).map packedCodes) ∧
    (∀ (kind : FrameKind) (payload : Bytes) (n : ℕ) (d : V3DecodedData),
      decodeDataPayload kind payload n = .ok d → d.encoding = .adcPack12 →
        d.pairs = (Rle.itemsOf (payload.drop 12) 3 n).map packedCodes) ∧
    (∀ (pairs : List (ℤ × ℤ)) (policy : AdcPolicy),
      (∃ payload, encodeAdcPayload pairs policy = .ok payload) ↔ AdcPairs pairs) ∧
    (∀ (pairs : List (ℤ × ℤ)) (policy : AdcPolicy) (payload : Bytes),
      encodeAdcPayload pairs policy = .ok payload →
        ∃ d, decodeDataPayload FrameKind.adcData payload pairs.length = .ok d ∧
          d.encoding = policy.encoding ∧
          d.pairs.map (fun p => ((p.1 : ℤ), (p.2 : ℤ))) = pairs) := by
  refine ⟨unpack12_eq, fun n samples hn hmax hlen => ⟨_, decodeDataPayload_pack12 hn hmax hlen,
    pairs_unpack12 hlen⟩, fun kind payload n d h henc => pairs_of_pack12 h henc, fun pairs policy =>
    ⟨fun ⟨payload, h⟩ => (encodeAdcPayload_ok.mp h).1, fun h => ⟨_, encodeAdcPayload_ok.mpr ⟨h, rfl⟩⟩⟩,
    ?_⟩
  intro pairs policy payload h
  obtain ⟨hpairs, rfl⟩ := encodeAdcPayload_ok.mp h
  have hcount : (pairs.map natPair).length = pairs.length := List.length_map _
  have hcodes : ∀ p ∈ pairs.map natPair, p.1 < 4096 ∧ p.2 < 4096 := by
    intro p hp
    obtain ⟨q, hq, rfl⟩ := List.mem_map.mp hp
    have := hpairs.codes q hq
    unfold natPair
    dsimp only
    omega
  have hback : (pairs.map natPair).map (fun p => ((p.1 : ℤ), (p.2 : ℤ))) = pairs := by
    rw [List.map_map]
    refine (List.map_congr_left fun q hq => ?_).trans (List.map_id pairs)
    obtain ⟨⟨h₁, -⟩, h₂, -⟩ := hpairs.codes q hq
    exact Prod.ext (Int.toNat_of_nonneg h₁) (Int.toNat_of_nonneg h₂)
  have hnonempty := hpairs.nonempty
  have hmax := hpairs.count
  rw [← hcount] at hnonempty hmax ⊢
  cases policy with
  | raw =>
    refine ⟨_, decodeDataPayload_rawPairs hnonempty hmax hcodes, rfl, ?_⟩
    rw [V3DecodedData.pairs, pairs_flatMap fun p hp => ?_]
    · exact hback
    · have := hcodes p hp
      omega
  | pack12 =>
    have hlen := length_flatMap_pack12 (pairs.map natPair)
    refine ⟨_, decodeDataPayload_pack12 hnonempty hmax hlen, rfl, ?_⟩
    rw [V3DecodedData.pairs, pairs_unpack12 hlen, packedCodes_flatMap hcodes]
    exact hback

end ThingDaq.Host
