import ThingDaq.Host.ProtocolV3
import ThingDaq.Host.Models

/-!
# The host's GPIO sample encoder

`encode_gpio_payload` of `daq_api/src/thingdone_daq/protocol_v3.py`, the encoder that tests and
simulators use.  It builds the RAW and the RLE form in one pass over the samples and keeps
the smaller one.

Samples are natural numbers; the range check of the source also turns away negative ones.

## Main results

* `encodeGpioPayload_eq` — the pass computes the records of the maximal runs.
* `decodeDataPayload_rle` — what the decoder accepts as RLE is a list of maximal runs.
* `gpio_codec` — the two are inverse, and RLE is used when it is smaller.
-/

namespace ThingDaq.Host

open Wire

/-- The locals of the loop. -/
structure GpioRuns where
  raw : Bytes := []
  rle : Bytes := []
  previous : Option ℕ := none
  length : ℕ := 0
  runs : ℕ := 0
  deriving DecidableEq, Repr

/-- The wire form of a run. -/
def gpioRecord (width : ℕ) (run : ℕ × ℕ) : Bytes := leBytes 2 run.1 ++ leBytes width run.2

def gpioStep (widthBits : ℕ) (s : GpioRuns) (value : ℕ) : Except V3Error GpioRuns :=
  let width := widthBits / 8
  if 2 ^ widthBits ≤ value then reject "GPIO sample outside width"
  else
    let raw := s.raw ++ leBytes width value
    match s.previous with
    | none => .ok { s with raw := raw, previous := some value, length := 1 }
    | some previous =>
      if value = previous then .ok { s with raw := raw, length := s.length + 1 }
      else
        .ok { raw := raw
              rle := s.rle ++ gpioRecord width (s.length, previous)
              previous := some value
              length := 1
              runs := s.runs + 1 }

def encodeGpioPayload (values : List ℕ) (widthBits : ℕ) (policy : GpioPolicy) :
    Except V3Error Bytes :=
  let width := widthBits / 8
  if widthBits ≠ 8 && widthBits ≠ 16 then reject "GPIO width must be 8 or 16"
  else if values.length < 1 || maxLogicalPayloadBytes / width < values.length then
    reject "GPIO count outside bounds"
  else
    match values.foldlM (gpioStep widthBits) {} with
    | .error e => .error e
    | .ok s =>
      -- the list is not empty, so there is a last sample
      let rle := s.rle ++ gpioRecord width (s.length, s.previous.getD 0)
      if policy = .rleAuto && rle.length < s.raw.length then
        .ok (dataPrefix 1 width s.raw.length (s.runs + 1) ++ rle)
      else .ok (dataPrefix 0 width s.raw.length 0 ++ s.raw)

/-! ### The pass over the samples -/

/-- The samples as they stand in a RAW payload. -/
def gpioRaw (width : ℕ) (values : List ℕ) : Bytes := values.flatMap (leBytes width)

/-- The records of the maximal runs. -/
def gpioRle (width : ℕ) (values : List ℕ) : Bytes :=
  (RunLength.runs values).flatMap (gpioRecord width)

theorem length_gpioRaw (width : ℕ) (values : List ℕ) :
    (gpioRaw width values).length = values.length * width := by
  unfold gpioRaw
  induction values with
  | nil => simp
  | cons v values ih =>
    rw [List.flatMap_cons, List.length_append, ih, length_leBytes, List.length_cons]
    ring

theorem length_flatMap_gpioRecord (width : ℕ) (r : List (ℕ × ℕ)) :
    (r.flatMap (gpioRecord width)).length = r.length * (2 + width) := by
  induction r with
  | nil => simp
  | cons p r ih =>
    rw [List.flatMap_cons, List.length_append, ih, gpioRecord, List.length_append, length_leBytes,
      length_leBytes, List.length_cons]
    ring

/-- The pass from a state inside a run. -/
theorem foldlM_gpioStep {bits : ℕ} (values : List ℕ) : ∀ (s : GpioRuns) (p : ℕ),
    s.previous = some p → (∀ v ∈ values, v < 2 ^ bits) →
    ∃ s', values.foldlM (gpioStep bits) s = .ok s' ∧
      s'.raw = s.raw ++ gpioRaw (bits / 8) values ∧
      s'.rle ++ gpioRecord (bits / 8) (s'.length, s'.previous.getD 0) =
        s.rle ++ (RunLength.emit p s.length values).flatMap (gpioRecord (bits / 8)) ∧
      s'.runs + 1 = s.runs + (RunLength.emit p s.length values).length := by
  induction values with
  | nil =>
    intro s p hp _
    refine ⟨s, rfl, by simp [gpioRaw], ?_, rfl⟩
    simp [RunLength.emit, hp]
  | cons v values ih =>
    intro s p hp hv
    have hfit : ¬2 ^ bits ≤ v := not_le.mpr (hv v List.mem_cons_self)
    have hrest := fun x hx => hv x (List.mem_cons_of_mem v hx)
    have hraw : gpioRaw (bits / 8) (v :: values) = leBytes (bits / 8) v ++ gpioRaw (bits / 8) values :=
      List.flatMap_cons
    rw [List.foldlM_cons]
    by_cases hsame : v = p
    · -- the run goes on
      subst hsame
      have hstep : gpioStep bits s v =
          .ok { s with raw := s.raw ++ leBytes (bits / 8) v, length := s.length + 1 } := by
        unfold gpioStep
        rw [if_neg hfit, hp]
        exact if_pos rfl
      obtain ⟨s', hs', h1, h2, h3⟩ := ih
        { s with raw := s.raw ++ leBytes (bits / 8) v, length := s.length + 1 } v hp hrest
      refine ⟨s', by rw [hstep]; exact hs', ?_, ?_, ?_⟩
      · rw [h1, hraw, List.append_assoc]
      · rw [h2, RunLength.emit, if_pos rfl]
      · rw [h3, RunLength.emit, if_pos rfl]
    · -- a new run starts, the old one is written
      have hstep : gpioStep bits s v = .ok
          { raw := s.raw ++ leBytes (bits / 8) v
            rle := s.rle ++ gpioRecord (bits / 8) (s.length, p)
            previous := some v
            length := 1
            runs := s.runs + 1 } := by
        unfold gpioStep
        rw [if_neg hfit, hp]
        exact if_neg hsame
      obtain ⟨s', hs', h1, h2, h3⟩ := ih
        { raw := s.raw ++ leBytes (bits / 8) v
          rle := s.rle ++ gpioRecord (bits / 8) (s.length, p)
          previous := some v
          length := 1
          runs := s.runs + 1 } v rfl hrest
      refine ⟨s', by rw [hstep]; exact hs', ?_, ?_, ?_⟩
      · rw [h1, hraw, List.append_assoc]
      · rw [h2, RunLength.emit, if_neg hsame, List.flatMap_cons, List.append_assoc]
      · rw [h3, RunLength.emit, if_neg hsame, List.length_cons]
        exact Nat.add_right_comm s.runs 1 _

/-- What the encoder makes of samples it takes. -/
def gpioPayload (values : List ℕ) (width : ℕ) (policy : GpioPolicy) : Bytes :=
  if policy = .rleAuto && (gpioRle width values).length < (gpioRaw width values).length then
    dataPrefix 1 width (gpioRaw width values).length (RunLength.runs values).length ++
      gpioRle width values
  else dataPrefix 0 width (gpioRaw width values).length 0 ++ gpioRaw width values

/-- The samples of a width that fit a payload. -/
structure GpioSamples (width : ℕ) (values : List ℕ) : Prop where
  widths : width = 1 ∨ width = 2
  nonempty : 0 < values.length
  fits : values.length ≤ maxLogicalPayloadBytes / width
  range : ∀ v ∈ values, v < 256 ^ width

variable {width : ℕ} {values : List ℕ}

/-- The whole pass over samples that are there and in range. -/
theorem foldlM_gpioStep_all (hne : values ≠ []) (hrange : ∀ v ∈ values, v < 256 ^ width) :
    ∃ s, values.foldlM (gpioStep (8 * width)) {} = .ok s ∧ s.raw = gpioRaw width values ∧
      s.rle ++ gpioRecord width (s.length, s.previous.getD 0) = gpioRle width values ∧
      s.runs + 1 = (RunLength.runs values).length := by
  have hbits : 8 * width / 8 = width := by omega
  have hrange : ∀ v ∈ values, v < 2 ^ (8 * width) := by
    intro v hv
    rw [pow_mul]
    exact hrange v hv
  obtain ⟨v, rest, rfl⟩ : ∃ v rest, values = v :: rest := List.exists_cons_of_ne_nil hne
  have hv : ¬2 ^ (8 * width) ≤ v := not_le.mpr (hrange v List.mem_cons_self)
  have hfirst : gpioStep (8 * width) {} v =
      .ok { raw := leBytes width v, previous := some v, length := 1 } := by
    unfold gpioStep
    rw [if_neg hv, hbits]
    rfl
  obtain ⟨s, hs, hraw, hrle, hruns⟩ := foldlM_gpioStep rest
    { raw := leBytes width v, previous := some v, length := 1 } v rfl
    (fun x hx => hrange x (List.mem_cons_of_mem v hx))
  have hemit : RunLength.emit v 1 rest = RunLength.runs (v :: rest) :=
    RunLength.emit_eq_runs rest v 1 Nat.one_pos
  rw [hbits] at hraw hrle
  rw [hemit] at hrle hruns
  refine ⟨s, ?_, hraw, hrle, ?_⟩
  · rw [List.foldlM_cons, hfirst]
    exact hs
  · rw [hruns]
    exact Nat.zero_add _

theorem encodeGpioPayload_eq (h : GpioSamples width values) (policy : GpioPolicy) :
    encodeGpioPayload values (8 * width) policy = .ok (gpioPayload values width policy) := by
  have hbits : 8 * width / 8 = width := by omega
  have hpos := h.nonempty
  obtain ⟨s, hfold, hraw, hrle, hruns⟩ :=
    foldlM_gpioStep_all (List.length_pos_iff.mp h.nonempty) h.range
  unfold encodeGpioPayload
  dsimp only
  rw [if_neg (by rcases h.widths with rfl | rfl <;> simp), hbits,
    if_neg (by have := h.fits; simp only [Bool.or_eq_true, decide_eq_true_eq]; omega), hfold]
  dsimp only
  rw [hraw, hrle, hruns]
  unfold gpioPayload
  split <;> rfl

/-! ### The prefix -/

/-- Behind its prefix a payload is judged by its encoding alone. -/
theorem decodeDataPayload_prefix {e : UInt8} {n r : ℕ} {samples : Bytes}
    (hw : width = 1 ∨ width = 2) (hn : 0 < n) (hfit : n ≤ maxLogicalPayloadBytes / width)
    (hr : r < 2 ^ 32) (hlen : samples.length ≤ maxEncodedSampleBytes) :
    decodeDataPayload FrameKind.gpioData (dataPrefix e width (n * width) r ++ samples) n =
      decodeSamples FrameKind.gpioData e width r n samples := by
  set pre := dataPrefix e width (n * width) r with hpre
  have hpos : 0 < width := by omega
  have hbytes : n * width ≤ 4048 := by
    have := (Nat.le_div_iff_mul_le hpos).mp hfit
    exact this
  have hprelen : pre.length = 12 := length_dataPrefix _ _ _ _
  have henc : byteAt (pre ++ samples) 0 = e := by rw [hpre]; rfl
  have hwidth : (byteAt (pre ++ samples) 1).toNat = width := by
    rw [show byteAt (pre ++ samples) 1 = UInt8.ofNat width by rw [hpre]; rfl]
    rcases hw with rfl | rfl <;> rfl
  have hreserved : leValue (slice (pre ++ samples) 2 2) = 0 := by rw [hpre]; rfl
  have hdecoded : leValue (slice (pre ++ samples) 4 4) = n * width := by
    rw [show slice (pre ++ samples) 4 4 = leBytes 4 (n * width) by rw [hpre]; rfl,
      leValue_leBytes_of_lt (by omega)]
  have hruns : leValue (slice (pre ++ samples) 8 4) = r := by
    rw [show slice (pre ++ samples) 8 4 = leBytes 4 r by rw [hpre]; rfl,
      leValue_leBytes_of_lt (by omega)]
  have hdrop : (pre ++ samples).drop 12 = samples := List.drop_left' hprelen
  unfold decodeDataPayload
  simp only [henc, hwidth, hreserved, hdecoded, hruns, kDataPrefixBytes, hdrop, List.length_append,
    hprelen]
  rw [if_neg (by simp; omega), if_neg (by decide), if_neg (by simp),
    if_neg (by rcases hw with rfl | rfl <;> decide), if_neg (by simp; omega), if_neg (by simp)]

/-- A payload whose reserved field is zero starts with the prefix it announces. -/
theorem eq_dataPrefix_append {payload : Bytes} (hlen : 12 ≤ payload.length)
    (hreserved : leValue (slice payload 2 2) = 0) :
    payload = dataPrefix (byteAt payload 0) (byteAt payload 1).toNat (leValue (slice payload 4 4))
      (leValue (slice payload 8 4)) ++ payload.drop 12 := by
  match payload, hlen with
  | b₀ :: b₁ :: b₂ :: b₃ :: b₄ :: b₅ :: b₆ :: b₇ :: b₈ :: b₉ :: b₁₀ :: b₁₁ :: rest, _ =>
    have hzero : leValue [b₂, b₃] = 0 := hreserved
    have hzeros : [b₂, b₃] = leBytes 2 0 := by
      rw [← hzero]
      exact (leBytes_leValue [b₂, b₃]).symm
    have hb₁ : UInt8.ofNat b₁.toNat = b₁ := UInt8.ofNat_toNat
    have hcount : leBytes 4 (leValue [b₄, b₅, b₆, b₇]) = [b₄, b₅, b₆, b₇] :=
      leBytes_leValue [b₄, b₅, b₆, b₇]
    have hruns : leBytes 4 (leValue [b₈, b₉, b₁₀, b₁₁]) = [b₈, b₉, b₁₀, b₁₁] :=
      leBytes_leValue [b₈, b₉, b₁₀, b₁₁]
    show _ = [b₀, UInt8.ofNat b₁.toNat, 0, 0] ++ leBytes 4 (leValue [b₄, b₅, b₆, b₇]) ++
      leBytes 4 (leValue [b₈, b₉, b₁₀, b₁₁]) ++ rest
    rw [hb₁, hcount, hruns]
    injection hzeros with h₂ h₃
    injection h₃ with h₃
    rw [h₂, h₃]
    rfl

/-! ### Decoding what was encoded -/

/-- The records read back. -/
theorem rleRecords_gpioRecord {r : List (ℕ × ℕ)} (hlen : ∀ p ∈ r, p.1 < 65536)
    (hrange : ∀ p ∈ r, p.2 < 256 ^ width) : rleRecords (r.flatMap (gpioRecord width)) width = r := by
  have hmap : r.flatMap (gpioRecord width) =
      (r.map fun p => (p.1, leBytes width p.2)).flatMap Rle.recordBytes := by
    rw [List.flatMap_map]
    rfl
  rw [hmap, rleRecords_flatMap, List.map_map]
  · refine (List.map_congr_left fun p hp => ?_).trans (List.map_id r)
    show (p.1, leValue (leBytes width p.2)) = p
    rw [leValue_leBytes_of_lt (hrange p hp)]
  · intro p hp
    obtain ⟨q, -, rfl⟩ := List.mem_map.mp hp
    exact length_leBytes _ _
  · intro p hp
    obtain ⟨q, hq, rfl⟩ := List.mem_map.mp hp
    exact hlen q hq

theorem expandRuns_eq (width : ℕ) (r : List (ℕ × ℕ)) :
    expandRuns width r = gpioRaw width (RunLength.expand r) := by
  unfold expandRuns gpioRaw
  induction r with
  | nil => rfl
  | cons p r ih =>
    rw [List.flatMap_cons, ih, RunLength.expand_cons, List.flatMap_append, List.flatMap_replicate]

theorem mem_runs_mem_values {p : ℕ × ℕ} (h : p ∈ RunLength.runs values) : p.2 ∈ values :=
  Rle.mem_runs_mem h

theorem GpioSamples.length_le (h : GpioSamples width values) : values.length * width ≤ 4048 := by
  have hpos : 0 < width := by rcases h.widths with hw | hw <;> omega
  exact (Nat.le_div_iff_mul_le hpos).mp h.fits

theorem GpioSamples.count_le (h : GpioSamples width values) : values.length ≤ 4048 := by
  have hpos : 0 < width := by rcases h.widths with hw | hw <;> omega
  exact (Nat.le_mul_of_pos_right values.length hpos).trans h.length_le

theorem GpioSamples.run_lt (h : GpioSamples width values) :
    ∀ p ∈ RunLength.runs values, p.1 < 65536 := by
  intro p hp
  have hle := List.le_sum_of_mem (List.mem_map_of_mem (f := Prod.fst) hp)
  rw [RunLength.sum_runs] at hle
  have := h.count_le
  omega

/-- The encoding that `gpioPayload` uses. -/
def gpioEncoding (values : List ℕ) (width : ℕ) (policy : GpioPolicy) : Encoding :=
  if policy = .rleAuto && (gpioRle width values).length < (gpioRaw width values).length then .gpioRle
  else .raw

theorem decodeDataPayload_gpioPayload (h : GpioSamples width values) (policy : GpioPolicy) :
    decodeDataPayload FrameKind.gpioData (gpioPayload values width policy) values.length =
      .ok ⟨gpioEncoding values width policy, width, values.length, gpioRaw width values,
        (gpioPayload values width policy).length - 12⟩ := by
  have hbytes := h.length_le
  have hvalues := h.count_le
  have hraw := length_gpioRaw width values
  unfold gpioPayload gpioEncoding
  split
  · rename_i hrle
    simp only [Bool.and_eq_true, decide_eq_true_eq] at hrle
    have hlen : (gpioRle width values).length = (RunLength.runs values).length * (2 + width) :=
      length_flatMap_gpioRecord width (RunLength.runs values)
    have hcount := RunLength.length_runs_le values
    have hne : values ≠ [] := List.length_pos_iff.mp h.nonempty
    have hrecords : rleRecords (gpioRle width values) width = RunLength.runs values :=
      rleRecords_gpioRecord h.run_lt fun p hp => h.range _ (mem_runs_mem_values hp)
    have hchecked : checkRuns values.length (RunLength.runs values) 0 none = .ok values.length := by
      rw [checkRuns_ok _ 0 none (RunLength.runs_pos values) (RunLength.runs_ne values)
        (fun _ _ => Option.some_ne_none _ |>.symm) (by rw [RunLength.sum_runs]; omega),
        RunLength.sum_runs, Nat.zero_add]
    rw [hraw, decodeDataPayload_prefix h.widths h.nonempty h.fits (by omega)
      (by unfold maxEncodedSampleBytes; omega)]
    unfold decodeSamples
    dsimp only
    rw [if_neg (by decide), if_neg (by decide), if_pos rfl, if_neg (by simp),
      if_neg (by rw [hlen]; simp [RunLength.runs_ne_nil hne, hcount]),
      if_neg (by omega), hrecords, hchecked]
    dsimp only
    rw [if_neg (by simp), expandRuns_eq, RunLength.expand_runs]
    simp
  · rw [hraw, decodeDataPayload_prefix h.widths h.nonempty h.fits (by omega)
      (by unfold maxEncodedSampleBytes; omega)]
    unfold decodeSamples
    dsimp only
    rw [if_pos rfl, if_neg (by simp [hraw]), if_neg (by simp [FrameKind.gpioData, FrameKind.adcData])]
    simp

/-! ### Everything the decoder takes for RLE -/

/-- What the validating pass has seen when it is through. -/
theorem checkRuns_sound {itemCount : ℕ} (r : List (ℕ × ℕ)) : ∀ (total : ℕ) (previous : Option ℕ)
    (result : ℕ), checkRuns itemCount r total previous = .ok result →
    (∀ p ∈ r, 0 < p.1) ∧ r.IsChain (fun p q => p.2 ≠ q.2) ∧
      (∀ p ∈ r.head?, previous ≠ some p.2) ∧ result = total + (r.map Prod.fst).sum := by
  induction r with
  | nil =>
    intro total previous result h
    rw [checkRuns] at h
    injection h with h
    exact ⟨fun p hp => absurd hp List.not_mem_nil, List.IsChain.nil, fun p hp => by simp at hp,
      by simp [h]⟩
  | cons p r ih =>
    obtain ⟨n, v⟩ := p
    intro total previous result h
    rw [checkRuns] at h
    split at h
    · cases h
    rename_i hbounds
    split at h
    · cases h
    rename_i hprevious
    obtain ⟨hpos, hchain, hhead, hresult⟩ := ih _ _ _ h
    simp only [Bool.or_eq_true, decide_eq_true_eq, not_or] at hbounds
    refine ⟨List.forall_mem_cons.mpr ⟨Nat.pos_of_ne_zero hbounds.1, hpos⟩, ?_, ?_, ?_⟩
    · cases r with
      | nil => exact List.IsChain.singleton _
      | cons q r =>
        refine List.isChain_cons_cons.mpr ⟨fun heq => ?_, hchain⟩
        exact hhead q rfl (congrArg some heq)
    · intro q hq
      obtain rfl : (n, v) = q := by simpa using hq
      exact hprevious
    · rw [hresult, List.map_cons, List.sum_cons, Nat.add_assoc]

/-- Samples made of whole records are the wire form of the records read. -/
theorem flatMap_rleRecords {samples : Bytes} {n : ℕ} (h : samples.length = n * (2 + width)) :
    (rleRecords samples width).flatMap (gpioRecord width) = samples ∧
      (rleRecords samples width).length = n ∧
      ∀ p ∈ rleRecords samples width, p.2 < 256 ^ width := by
  have hcount : samples.length / (2 + width) = n := by
    rw [h]
    exact Nat.mul_div_cancel n (by omega)
  have hitem := Rle.length_of_mem_itemsOf h
  unfold rleRecords
  rw [hcount]
  refine ⟨?_, by simp [Rle.itemsOf], ?_⟩
  · refine Eq.trans ?_ (Rle.flatten_itemsOf h)
    rw [List.flatMap_map, List.flatten_eq_flatMap]
    refine List.flatMap_congr fun r hr => ?_
    have hlen := hitem r hr
    have htake : (r.take 2).length = 2 := by simp [hlen]
    have hdrop : (r.drop 2).length = width := by simp [hlen]
    unfold gpioRecord
    dsimp only
    nth_rewrite 1 [← htake]
    nth_rewrite 1 [← hdrop]
    rw [leBytes_leValue, leBytes_leValue, List.take_append_drop]
    rfl
  · intro p hp
    obtain ⟨r, hr, rfl⟩ := List.mem_map.mp hp
    have hlen := hitem r hr
    have hlt := leValue_lt (r.drop 2)
    rw [List.length_drop, hlen, Nat.add_sub_cancel_left] at hlt
    exact hlt

/-- The checks in front of the encodings. -/
theorem decodeDataPayload_sound {kind : FrameKind} {payload : Bytes} {n : ℕ} {d : V3DecodedData}
    (h : decodeDataPayload kind payload n = .ok d) :
    12 ≤ payload.length ∧ leValue (slice payload 2 2) = 0 ∧
      (if kind = FrameKind.adcData then decide ((byteAt payload 1).toNat ≠ 4)
        else decide ((byteAt payload 1).toNat ≠ 1 ∧ (byteAt payload 1).toNat ≠ 2)) = false ∧
      (0 < n ∧ n ≤ maxLogicalPayloadBytes / (byteAt payload 1).toNat) ∧
      leValue (slice payload 4 4) = n * (byteAt payload 1).toNat ∧
      decodeSamples kind (byteAt payload 0) (byteAt payload 1).toNat (leValue (slice payload 8 4)) n
        (payload.drop 12) = .ok d := by
  unfold decodeDataPayload at h
  dsimp only at h
  generalize (if kind = FrameKind.adcData then decide ((byteAt payload 1).toNat ≠ 4)
    else decide ((byteAt payload 1).toNat ≠ 1 ∧ (byteAt payload 1).toNat ≠ 2)) = illegal at h ⊢
  split at h
  · cases h
  rename_i hlen
  split at h
  · cases h
  split at h
  · cases h
  rename_i hreserved
  split at h
  · cases h
  rename_i hlegal
  split at h
  · cases h
  rename_i hitems
  split at h
  · cases h
  rename_i hdecoded
  simp only [Bool.or_eq_true, decide_eq_true_eq, not_or, not_lt, kDataPrefixBytes] at hlen hitems
  rw [not_not] at hreserved hdecoded
  exact ⟨hlen.1, hreserved, by simpa using hlegal, hitems, hdecoded, h⟩

/-- Only the branch of encoding 1 makes an RLE result, and only from GPIO runs that cover the
samples and are smaller than they are. -/
theorem decodeSamples_rle_sound {kind : FrameKind} {e : UInt8} {runs n : ℕ} {samples : Bytes}
    {d : V3DecodedData} (h : decodeSamples kind e width runs n samples = .ok d)
    (hrle : d.encoding = .gpioRle) :
    e = 1 ∧ kind = FrameKind.gpioData ∧ samples.length = runs * (2 + width) ∧
      samples.length < n * width ∧ checkRuns n (rleRecords samples width) 0 none = .ok n ∧
      d = ⟨.gpioRle, width, n, expandRuns width (rleRecords samples width), samples.length⟩ := by
  unfold decodeSamples at h
  dsimp only at h
  split at h
  · split at h
    · cases h
    split at h
    · cases h
    injection h with h
    rw [← h] at hrle
    cases hrle
  split at h
  · split at h
    · cases h
    split at h
    · cases h
    injection h with h
    rw [← h] at hrle
    cases hrle
  split at h
  · rename_i hone
    split at h
    · cases h
    rename_i hkind
    split at h
    · cases h
    rename_i hrecords
    split at h
    · cases h
    rename_i hsmaller
    split at h
    · cases h
    rename_i total hchecked
    split at h
    · cases h
    rename_i htotal
    injection h with h
    rw [not_not] at hkind htotal
    simp only [Bool.or_eq_true, decide_eq_true_eq, not_or, not_not] at hrecords
    rw [htotal] at hchecked
    exact ⟨hone, hkind, hrecords.2, not_le.mp hsmaller, hchecked, h.symm⟩
  · cases h

/-- What is accepted as RLE is the RLE form of some samples, and decodes to them. -/
theorem decodeDataPayload_rle {kind : FrameKind} {payload : Bytes} {n : ℕ} {d : V3DecodedData}
    (h : decodeDataPayload kind payload n = .ok d) (hrle : d.encoding = .gpioRle) :
    ∃ width values, GpioSamples width values ∧ payload = gpioPayload values width .rleAuto ∧
      n = values.length ∧ d.itemBytes = width ∧ d.itemCount = values.length ∧
      d.payload = gpioRaw width values := by
  obtain ⟨hlen, hreserved, hlegal, hitems, hdecoded, hsamples⟩ := decodeDataPayload_sound h
  obtain ⟨hone, hkind, hrecords, hsmaller, hchecked, rfl⟩ := decodeSamples_rle_sound hsamples hrle
  have hform := eq_dataPrefix_append hlen hreserved
  rw [hdecoded, hone] at hform
  generalize (byteAt payload 1).toNat = width at *
  generalize leValue (slice payload 8 4) = runs at *
  generalize payload.drop 12 = samples at *
  have hwidth : width = 1 ∨ width = 2 := by
    rw [hkind, if_neg (by decide)] at hlegal
    have : ¬(width ≠ 1 ∧ width ≠ 2) := of_decide_eq_false hlegal
    omega
  obtain ⟨hwire, hcount, hrange⟩ := flatMap_rleRecords hrecords
  obtain ⟨hpos, hne, -, hsum⟩ := checkRuns_sound _ _ _ _ hchecked
  set r := rleRecords samples width with hr
  have hruns : RunLength.runs (RunLength.expand r) = r := RunLength.runs_expand r hpos hne
  have hlength : (RunLength.expand r).length = n := by
    rw [← RunLength.sum_runs, hruns, hsum, Nat.zero_add]
  have hrle' : gpioRle width (RunLength.expand r) = samples := by
    unfold gpioRle
    rw [hruns]
    exact hwire
  have hraw : (gpioRaw width (RunLength.expand r)).length = n * width := by
    rw [length_gpioRaw, hlength]
  refine ⟨width, RunLength.expand r, ⟨hwidth, by omega, by omega, ?_⟩, ?_, hlength.symm, rfl,
    hlength.symm, expandRuns_eq width r⟩
  · intro v hv
    rw [RunLength.expand, List.mem_flatMap] at hv
    obtain ⟨p, hp, hv⟩ := hv
    rw [(List.mem_replicate.mp hv).2]
    exact hrange p hp
  · unfold gpioPayload
    rw [if_pos (by rw [hrle', hraw]; simp; omega), hrle', hraw, hruns, hcount]
    exact hform

/-- The samples of a decoded payload. -/
def V3DecodedData.samples (d : V3DecodedData) : List ℕ :=
  (Rle.itemsOf d.payload d.itemBytes d.itemCount).map leValue

theorem samples_gpioRaw {d : V3DecodedData} (h : GpioSamples width values)
    (hbytes : d.itemBytes = width) (hcount : d.itemCount = values.length)
    (hpayload : d.payload = gpioRaw width values) : d.samples = values := by
  unfold V3DecodedData.samples
  rw [hbytes, hcount, hpayload, gpioRaw, List.flatMap_def]
  have hitems := itemsOf_flatten (w := width) (values.map (leBytes width)) (by simp)
  rw [List.length_map] at hitems
  rw [hitems, List.map_map]
  refine (List.map_congr_left fun v hv => ?_).trans (List.map_id values)
  exact leValue_leBytes_of_lt (h.range v hv)

/-- The two halves of the codec: what is encoded decodes to the same samples, as RLE when that
is smaller, and what decodes from RLE encodes to the same payload. -/
theorem gpio_codec :
    (∀ (width : ℕ) (values : List ℕ) (policy : GpioPolicy), GpioSamples width values →
      ∃ payload d, encodeGpioPayload values (8 * width) policy = .ok payload ∧
        decodeDataPayload FrameKind.gpioData payload values.length = .ok d ∧
        d.itemBytes = width ∧ d.itemCount = values.length ∧ d.samples = values ∧
        (d.encoding = .gpioRle ↔
          policy = .rleAuto ∧ (gpioRle width values).length < (gpioRaw width values).length) ∧
        (d.encoding = .gpioRle → payload.drop 12 = gpioRle width values) ∧
        (d.encoding ≠ .gpioRle → d.encoding = .raw ∧ payload.drop 12 = gpioRaw width values)) ∧
    (∀ (kind : FrameKind) (payload : Bytes) (n : ℕ) (d : V3DecodedData),
      decodeDataPayload kind payload n = .ok d → d.encoding = .gpioRle →
        encodeGpioPayload d.samples (8 * d.itemBytes) .rleAuto = .ok payload) ∧
    (∀ (kind kind' : FrameKind) (payload payload' : Bytes) (n n' : ℕ) (d d' : V3DecodedData),
      decodeDataPayload kind payload n = .ok d → decodeDataPayload kind' payload' n' = .ok d' →
      d.encoding = .gpioRle → d'.encoding = .gpioRle → d.itemBytes = d'.itemBytes →
        d.samples = d'.samples → payload = payload') := by
  have hcanonical : ∀ (kind : FrameKind) (payload : Bytes) (n : ℕ) (d : V3DecodedData),
      decodeDataPayload kind payload n = .ok d → d.encoding = .gpioRle →
        encodeGpioPayload d.samples (8 * d.itemBytes) .rleAuto = .ok payload := by
    intro kind payload n d h hrle
    obtain ⟨width, values, hvalues, hpayload, -, hbytes, hcount, hraw⟩ := decodeDataPayload_rle h hrle
    rw [samples_gpioRaw hvalues hbytes hcount hraw, hbytes, hpayload]
    exact encodeGpioPayload_eq hvalues .rleAuto
  refine ⟨fun width values policy h => ?_, hcanonical, ?_⟩
  · refine ⟨_, _, encodeGpioPayload_eq h policy, decodeDataPayload_gpioPayload h policy, rfl, rfl,
      samples_gpioRaw h rfl rfl rfl, ?_⟩
    unfold gpioEncoding gpioPayload
    split
    · rename_i hsmaller
      simp only [Bool.and_eq_true, decide_eq_true_eq] at hsmaller
      refine ⟨⟨fun _ => hsmaller, fun _ => rfl⟩, fun _ => ?_, fun hne => absurd rfl hne⟩
      exact List.drop_left' (length_dataPrefix _ _ _ _)
    · rename_i hlarger
      simp only [Bool.and_eq_true, decide_eq_true_eq] at hlarger
      refine ⟨⟨fun heq => (by cases heq), fun hs => absurd hs hlarger⟩, fun heq => (by cases heq),
        fun _ => ⟨rfl, ?_⟩⟩
      exact List.drop_left' (length_dataPrefix _ _ _ _)
  · intro kind kind' payload payload' n n' d d' h h' hrle hrle' hbytes hsamples
    have he := hcanonical kind payload n d h hrle
    have he' := hcanonical kind' payload' n' d' h' hrle'
    rw [hsamples, hbytes, he'] at he
    injection he with he
    exact he.symm

/-- Five equal samples, under a policy that would compress them. -/
theorem five_equal_samples : GpioSamples 1 [7, 7, 7, 7, 7] ∧
    ∃ payload d, encodeGpioPayload [7, 7, 7, 7, 7] 8 .rleAuto = .ok payload ∧
      decodeDataPayload FrameKind.gpioData payload 5 = .ok d ∧ d.encoding = .gpioRle ∧
      d.samples = [7, 7, 7, 7, 7] ∧ encodeGpioPayload d.samples 8 .rleAuto = .ok payload := by
  have hvalues : GpioSamples 1 [7, 7, 7, 7, 7] := ⟨Or.inl rfl, by decide, by decide, by decide⟩
  obtain ⟨payload, d, he, hd, hbytes, -, hsamples, hrle, -⟩ :=
    gpio_codec.1 1 [7, 7, 7, 7, 7] .rleAuto hvalues
  have hencoding : d.encoding = .gpioRle := hrle.mpr ⟨rfl, by decide⟩
  refine ⟨hvalues, payload, d, he, hd, hencoding, hsamples, ?_⟩
  have hback := gpio_codec.2.1 FrameKind.gpioData payload 5 d hd hencoding
  rw [hbytes] at hback
  exact hback

end ThingDaq.Host
