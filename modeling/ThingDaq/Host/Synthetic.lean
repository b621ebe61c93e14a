import ThingDaq.Host.Alignment
import ThingDaq.Lib.Bytes
import ThingDaq.Lib.Window
import Mathlib.Tactic.IntervalCases

/-!
# The host's synthetic patterns

`daq_api/src/thingdone_daq/synthetic.py`: the sample formulas, the cycles they are precomputed
in, and the validation of a decoded block.  Indices are Python integers.

## Main definitions

* `validateSyntheticBlock` — accepts a block or says what is wrong with it.
* `Block.expected` — the sample of a global index that a block should hold.

## Main results

* `cyclicBytes_items`, `cyclicMismatch_items` — what is cut from a cycle, and what is compared
  with it, is a window of the sequence the cycle is a period of.
* `validateSyntheticBlock_ok` — exactly the blocks with the expected samples are accepted.
-/

namespace ThingDaq.Host.Synthetic

open Wire Window
open Alignment (Block AuxBankMode)

inductive SyntheticGPIOPattern
  | allZero
  | walkingBit
  | counter
  | highTransition
  deriving DecidableEq, Repr

/-- `SyntheticPatternError`, with the values its message reports. -/
inductive SyntheticPatternError
  | missingFlag
  | v3Samples
  | adcUnaligned
  | gpioUnaligned
  | adcBytes (observed expected : ℕ)
  | gpioBytes (observed expected : ℕ)
  | adcPair (index : ℕ) (observed expected : ℕ × ℕ)
  | gpioSample (index observed expected : ℕ)
  deriving DecidableEq, Repr

/-! ### Sample formulas -/

/-- `ADC_RESOLUTION_BITS` -/
def adcResolutionBits : ℕ := 12

def syntheticAdcCode (converter sampleIndex : ℕ) : ℕ :=
  (2 * sampleIndex + converter) % 2 ^ adcResolutionBits

/-- `struct.pack("<HH", …)` -/
def packPair (adc0 adc1 : ℕ) : Bytes := leBytes 2 adc0 ++ leBytes 2 adc1

def syntheticGpioBankBytes (sampleIndex : ℕ) : SyntheticGPIOPattern → ℕ × ℕ
  | .allZero => (0, 0)
  | .walkingBit => (1 <<< (sampleIndex % 8), 1 <<< ((sampleIndex + 3) % 8))
  | .counter => (sampleIndex % 256, (3 * sampleIndex + 0x55) % 256)
  | .highTransition =>
    (if sampleIndex % 2 = 0 then 0xAA else 0x55, if sampleIndex % 2 = 0 then 0x0F else 0xF0)

def syntheticGpioValue (sampleIndex : ℕ) (mode : AuxBankMode) (pattern : SyntheticGPIOPattern) : ℕ :=
  let banks := syntheticGpioBankBytes sampleIndex pattern
  match mode with
  | .disabled => banks.1
  | .input => banks.1 ||| banks.2 <<< 8

def itemBytes : AuxBankMode → ℕ
  | .disabled => 1
  | .input => 2

/-! ### Cycles -/

/-- `_adc_pattern_cycle` -/
def adcPatternCycle : Bytes :=
  (List.range (2 ^ (adcResolutionBits - 1))).flatMap fun index =>
    packPair (2 * index % 2 ^ adcResolutionBits) ((2 * index + 1) % 2 ^ adcResolutionBits)

/-- `_gpio_pattern_cycle` -/
def gpioPatternCycle : Bytes := (List.range 256).map UInt8.ofNat

/-- `_gpio_mode_pattern_cycle` -/
def gpioModePatternCycle (mode : AuxBankMode) (pattern : SyntheticGPIOPattern) : Bytes :=
  if mode = .disabled ∧ pattern = .counter then gpioPatternCycle
  else (List.range 256).flatMap fun index =>
    leBytes (itemBytes mode) (syntheticGpioValue index mode pattern)

/-- `_cyclic_bytes` -/
def cyclicBytes (cycle : Bytes) (start length : ℕ) : Bytes :=
  if length = 0 then []
  else
    let offset := start % cycle.length
    let first := min length (cycle.length - offset)
    if first = length then slice cycle offset length
    else
      let remaining := length - first
      cycle.drop offset ++ (List.replicate (remaining / cycle.length) cycle).flatten ++
        cycle.take (remaining % cycle.length)

/-- The first place where two segments of one length differ. -/
def firstDifference (actual expected : Bytes) : Option ℕ :=
  (List.range actual.length).find? fun i => actual[i]? ≠ expected[i]?

/-- The loop of `_cyclic_mismatch`; every turn compares at least one byte. -/
def cyclicMismatchFrom (payload cycle : Bytes) : ℕ → ℕ → ℕ → Option ℕ
  | 0, _, _ => none
  | fuel + 1, position, cyclePosition =>
    if position < payload.length then
      let segment := min (payload.length - position) (cycle.length - cyclePosition)
      match firstDifference (slice payload position segment) (slice cycle cyclePosition segment) with
      | some relative => some (position + relative)
      | none => cyclicMismatchFrom payload cycle fuel (position + segment) 0
    else none

/-- `_cyclic_mismatch` -/
def cyclicMismatch (payload cycle : Bytes) (start : ℕ) : Option ℕ :=
  cyclicMismatchFrom payload cycle (payload.length + 1) 0 (start % cycle.length)

/-! ### Payloads -/

def syntheticAdcPayload (startIndex pairCount : ℕ) : Bytes :=
  cyclicBytes adcPatternCycle (startIndex * 4) (pairCount * 4)

/-- The edge pairs of a version 3 cycle. -/
def edges : List (ℕ × ℕ) := [(0, 0), (4095, 4095), (0xABC, 0x123), (0x555, 0xAAA)]

def syntheticV3AdcPayload (firstPairIndex pairCount : ℕ) : Bytes :=
  (List.range pairCount).foldl (fun payload offset =>
    match edges[(firstPairIndex + offset) % 2048]? with
    | some edge => store payload (offset * 4) (packPair edge.1 edge.2)
    | none => payload) (syntheticAdcPayload firstPairIndex pairCount)

def syntheticGpioPayload (startIndex sampleCount : ℕ) (mode : AuxBankMode)
    (pattern : SyntheticGPIOPattern) : Bytes :=
  cyclicBytes (gpioModePatternCycle mode pattern) (startIndex * itemBytes mode)
    (sampleCount * itemBytes mode)

/-! ### Validation -/

def validateSyntheticAdcPayload (payload : Bytes) (startIndex pairCount : ℕ) :
    Except SyntheticPatternError Unit :=
  if payload.length ≠ pairCount * 4 then .error (.adcBytes payload.length (pairCount * 4))
  else
    match cyclicMismatch payload adcPatternCycle (startIndex * 4) with
    | none => .ok ()
    | some mismatch =>
      let pairOffset := mismatch / 4
      let sampleIndex := startIndex + pairOffset
      .error (.adcPair sampleIndex
        (leValue (slice payload (pairOffset * 4) 2), leValue (slice payload (pairOffset * 4 + 2) 2))
        (syntheticAdcCode 0 sampleIndex, syntheticAdcCode 1 sampleIndex))

def validateSyntheticGpioPayload (payload : Bytes) (startIndex sampleCount : ℕ)
    (mode : AuxBankMode) (pattern : SyntheticGPIOPattern) : Except SyntheticPatternError Unit :=
  if payload.length ≠ sampleCount * itemBytes mode then
    .error (.gpioBytes payload.length (sampleCount * itemBytes mode))
  else
    match cyclicMismatch payload (gpioModePatternCycle mode pattern)
      (startIndex * itemBytes mode) with
    | none => .ok ()
    | some mismatch =>
      let sampleOffset := mismatch / itemBytes mode
      let sampleIndex := startIndex + sampleOffset
      .error (.gpioSample sampleIndex
        (leValue (slice payload (sampleOffset * itemBytes mode) (itemBytes mode)))
        (syntheticGpioValue sampleIndex mode pattern))

/-- `first_pair_index` and `first_sample_index` -/
def firstIndex (b : Block) : ℕ := b.firstSampleTicks / b.periodTicks

/-- The pattern of a version 3 GPIO block. -/
def v3GpioPattern (sequence : ℕ) : SyntheticGPIOPattern :=
  if sequence % 2 = 0 then .allZero else .highTransition

/-- The samples a version 3 block is compared with. -/
def v3Expected (b : Block) : Bytes :=
  match b.kind with
  | .adcData => syntheticV3AdcPayload (firstIndex b) b.itemCount
  | .gpioData =>
    syntheticGpioPayload (firstIndex b) b.itemCount b.auxBankMode (v3GpioPattern b.sequence)

def validateSyntheticBlock (b : Block) (gpioPattern : SyntheticGPIOPattern) :
    Except SyntheticPatternError Unit :=
  if !b.synthetic then .error .missingFlag
  else if b.protocolVersion = 3 then
    if b.payload ≠ v3Expected b then .error .v3Samples else .ok ()
  else
    match b.kind with
    | .adcData =>
      if b.firstSampleTicks % b.periodTicks ≠ 0 then .error .adcUnaligned
      else validateSyntheticAdcPayload b.payload (firstIndex b) b.itemCount
    | .gpioData =>
      if b.firstSampleTicks % b.periodTicks ≠ 0 then .error .gpioUnaligned
      else validateSyntheticGpioPayload b.payload (firstIndex b) b.itemCount b.auxBankMode gpioPattern

/-! ### What is cut from a cycle -/

theorem firstDifference_eq_none {actual expected : Bytes} (h : actual.length = expected.length) :
    firstDifference actual expected = none ↔ actual = expected := by
  unfold firstDifference
  rw [List.find?_eq_none]
  constructor
  · intro hall
    apply List.ext_getElem?
    intro i
    rcases Nat.lt_or_ge i actual.length with hi | hi
    · simpa using hall i (List.mem_range.mpr hi)
    · rw [List.getElem?_eq_none hi, List.getElem?_eq_none (h ▸ hi)]
  · rintro rfl i _
    simp

section Cycle

variable {g : ℕ → Bytes} {w P : ℕ} (hw : ∀ i, (g i).length = w) (hwidth : 0 < w)
  (hper : Function.Periodic g P) (hperiod : 0 < P)

include hw hwidth hper hperiod

theorem cyclicBytes_items (start n : ℕ) :
    cyclicBytes (items g 0 P) (start * w) (n * w) = items g start n := by
  have hlen : (items g 0 P).length = P * w := length_items hw 0 P
  have hphase : start * w % (P * w) = start % P * w := Nat.mul_mod_mul_right w start P
  have hlt := Nat.mod_lt start hperiod
  have hdrop : (items g 0 P).drop (start % P * w) = items g (start % P) (P - start % P) := by
    rw [drop_items hw 0 hlt.le, Nat.zero_add]
  unfold cyclicBytes
  rw [hlen, hphase]
  dsimp only
  by_cases hzero : n * w = 0
  · have hn : n = 0 := (Nat.mul_eq_zero.mp hzero).resolve_right (Nat.ne_of_gt hwidth)
    rw [if_pos hzero, hn, items_zero]
  rw [if_neg hzero, ← Nat.sub_mul, Nat.mul_min_mul_right]
  by_cases hfits : n ≤ P - start % P
  · -- within one period
    rw [min_eq_left hfits, if_pos rfl, slice, hdrop, take_items hw _ hfits, items_mod hper]
  · have hmin : min n (P - start % P) = P - start % P := min_eq_right (not_le.mp hfits).le
    rw [hmin, if_neg (fun h => hfits (le_of_eq (Nat.eq_of_mul_eq_mul_right hwidth h).symm)),
      ← Nat.sub_mul, hdrop, Nat.mul_div_mul_right _ _ hwidth, Nat.mul_mod_mul_right,
      flatten_replicate_items hper]
    generalize hrest : n - (P - start % P) = rest
    rw [take_items hw 0 (Nat.mod_lt rest hperiod).le, List.append_assoc]
    -- the tail starts a new period
    have htail : items g 0 (rest / P * P) ++ items g 0 (rest % P) = items g 0 rest := by
      have hsplit := items_add g 0 (rest / P * P) (rest % P)
      rw [Nat.div_add_mod', ← items_mod hper (0 + rest / P * P), Nat.zero_add,
        Nat.mul_mod_left] at hsplit
      exact hsplit.symm
    have hwhole : n = (P - start % P) + rest := by omega
    rw [htail, hwhole, items_add, items_mod hper]
    congr 1
    rw [← items_mod hper (start + (P - start % P)), ← Nat.mod_add_mod,
      Nat.add_sub_cancel' hlt.le, Nat.mod_self]

/-- The loop compares one segment of the cycle after another: after `k` items it stands at item
`c` of the cycle, and it ends without a mismatch when the rest of the payload is right. -/
theorem cyclicMismatchFrom_items {payload : Bytes} {start n : ℕ} (hlength : payload.length = n * w)
    {fuel k c : ℕ} (hfuel : n - k < fuel) (hk : k ≤ n) (hc : k < n → c = (start + k) % P) :
    cyclicMismatchFrom payload (items g 0 P) fuel (k * w) (c * w) = none ↔
      payload.drop (k * w) = items g (start + k) (n - k) := by
  induction fuel generalizing k c with
  | zero => exact absurd hfuel (Nat.not_lt_zero _)
  | succ fuel ih =>
    unfold cyclicMismatchFrom
    rw [hlength, length_items hw]
    rcases Nat.lt_or_ge k n with hlt | hge
    · have hphase := hc hlt
      have hclt : c < P := hphase ▸ Nat.mod_lt _ hperiod
      rw [if_pos (Nat.mul_lt_mul_of_pos_right hlt hwidth), ← Nat.sub_mul, ← Nat.sub_mul,
        Nat.mul_min_mul_right]
      dsimp only
      generalize hm : min (n - k) (P - c) = m
      have hmle : m ≤ n - k := hm ▸ Nat.min_le_left _ _
      have hmP : m ≤ P - c := hm ▸ Nat.min_le_right _ _
      have hmpos : 0 < m := hm ▸ Nat.lt_min.mpr ⟨Nat.sub_pos_of_lt hlt, Nat.sub_pos_of_lt hclt⟩
      -- the segment of the cycle holds the items the payload should hold here
      have hsegment : slice (items g 0 P) (c * w) (m * w) = items g (start + k) m := by
        rw [slice, drop_items hw 0 hclt.le, Nat.zero_add, take_items hw c hmP, hphase,
          items_mod hper]
      have hwhole : (slice payload (k * w) (m * w)).length = (items g (start + k) m).length := by
        rw [length_items hw, length_slice, hlength, ← Nat.sub_mul, Nat.mul_min_mul_right,
          Nat.min_eq_left hmle]
      have hdifference := firstDifference_eq_none hwhole
      have hnext : k + m < n → 0 = (start + (k + m)) % P := by
        intro hmore
        have hend : m = P - c := by omega
        rw [← Nat.add_assoc, ← Nat.mod_add_mod, ← hphase, hend, Nat.add_sub_cancel' hclt.le,
          Nat.mod_self]
      have hrest := ih (k := k + m) (c := 0) (by omega) (by omega) hnext
      rw [Nat.zero_mul, Nat.add_mul] at hrest
      rw [hsegment]
      have hsplit : payload.drop (k * w) = items g (start + k) (n - k) ↔
          slice payload (k * w) (m * w) = items g (start + k) m ∧
            payload.drop (k * w + m * w) = items g (start + (k + m)) (n - (k + m)) := by
        have hn : n - k = m + (n - (k + m)) := by omega
        have hlen : (payload.drop (k * w)).length = (m + (n - (k + m))) * w := by
          rw [List.length_drop, hlength, ← Nat.sub_mul, ← hn]
        rw [hn, eq_items_add_iff hw hlen, List.drop_drop, ← Nat.add_assoc start]
        rfl
      rw [hsplit]
      cases hfirst : firstDifference (slice payload (k * w) (m * w)) (items g (start + k) m) with
      | none =>
        rw [hfirst] at hdifference
        simp only [hdifference.mp rfl, true_and]
        exact hrest
      | some relative =>
        rw [hfirst] at hdifference
        simp only [reduceCtorEq, false_iff] at hdifference ⊢
        exact fun h => hdifference h.1
    · have hn : k = n := le_antisymm hk hge
      rw [hn, if_neg (lt_irrefl _), Nat.sub_self, items_zero, List.drop_eq_nil_of_le hlength.le]
      exact ⟨fun _ => rfl, fun _ => rfl⟩

/-- Nothing differs from the cycle exactly when the payload is a window of its sequence. -/
theorem cyclicMismatch_items {payload : Bytes} {n : ℕ} (hlength : payload.length = n * w)
    (start : ℕ) : cyclicMismatch payload (items g 0 P) (start * w) = none ↔
      payload = items g start n := by
  have hfuel : n - 0 < payload.length + 1 := by
    rw [hlength]
    have := Nat.le_mul_of_pos_right n hwidth
    omega
  have hphase : 0 < n → start % P = (start + 0) % P := fun _ => rfl
  have hloop := cyclicMismatchFrom_items hw hwidth hper hperiod hlength hfuel (Nat.zero_le n) hphase
  unfold cyclicMismatch
  rw [length_items hw, Nat.mul_mod_mul_right]
  simpa using hloop

end Cycle

/-! ### The sequences the cycles are periods of -/

/-- The bytes of a pair of the ramp. -/
def adcItem (index : ℕ) : Bytes := packPair (syntheticAdcCode 0 index) (syntheticAdcCode 1 index)

/-- The bytes of a pair of version 3. -/
def v3AdcItem (index : ℕ) : Bytes :=
  match edges[index % 2048]? with
  | some edge => packPair edge.1 edge.2
  | none => adcItem index

/-- The bytes of a GPIO sample. -/
def gpioItem (mode : AuxBankMode) (pattern : SyntheticGPIOPattern) (index : ℕ) : Bytes :=
  leBytes (itemBytes mode) (syntheticGpioValue index mode pattern)

@[simp] theorem length_packPair (a b : ℕ) : (packPair a b).length = 4 := by
  simp [packPair]

@[simp] theorem length_adcItem (i : ℕ) : (adcItem i).length = 4 := length_packPair _ _

@[simp] theorem length_v3AdcItem (i : ℕ) : (v3AdcItem i).length = 4 := by
  unfold v3AdcItem
  split
  · exact length_packPair _ _
  · exact length_adcItem i

@[simp] theorem length_gpioItem (mode : AuxBankMode) (pattern : SyntheticGPIOPattern) (i : ℕ) :
    (gpioItem mode pattern i).length = itemBytes mode := length_leBytes _ _

theorem itemBytes_pos (mode : AuxBankMode) : 0 < itemBytes mode := by
  cases mode <;> decide

theorem periodic_adcItem : Function.Periodic adcItem 2048 := by
  intro i
  unfold adcItem syntheticAdcCode adcResolutionBits
  rw [show (2 * (i + 2048) + 0) % 2 ^ 12 = (2 * i + 0) % 2 ^ 12 by omega,
    show (2 * (i + 2048) + 1) % 2 ^ 12 = (2 * i + 1) % 2 ^ 12 by omega]

theorem periodic_v3AdcItem : Function.Periodic v3AdcItem 2048 := by
  intro i
  unfold v3AdcItem
  rw [Nat.add_mod_right, periodic_adcItem i]

theorem periodic_bankBytes (pattern : SyntheticGPIOPattern) :
    Function.Periodic (fun i => syntheticGpioBankBytes i pattern) 256 := by
  intro i
  cases pattern <;> dsimp only [syntheticGpioBankBytes]
  · rw [show (i + 256) % 8 = i % 8 by omega, show (i + 256 + 3) % 8 = (i + 3) % 8 by omega]
  · rw [show (i + 256) % 256 = i % 256 by omega,
      show (3 * (i + 256) + 0x55) % 256 = (3 * i + 0x55) % 256 by omega]
  · rw [show (i + 256) % 2 = i % 2 by omega]

theorem periodic_gpioItem (mode : AuxBankMode) (pattern : SyntheticGPIOPattern) :
    Function.Periodic (gpioItem mode pattern) 256 := by
  intro i
  have hbanks := periodic_bankBytes pattern i
  dsimp only at hbanks
  unfold gpioItem syntheticGpioValue
  rw [hbanks]

theorem adcPatternCycle_eq : adcPatternCycle = items adcItem 0 2048 := by
  unfold adcPatternCycle items
  apply List.flatMap_congr
  intro i _
  rw [Nat.zero_add]
  rfl

theorem gpioModePatternCycle_eq (mode : AuxBankMode) (pattern : SyntheticGPIOPattern) :
    gpioModePatternCycle mode pattern = items (gpioItem mode pattern) 0 256 := by
  unfold gpioModePatternCycle
  split
  · next h =>
    -- the table of the byte counter
    obtain ⟨rfl, rfl⟩ := h
    unfold gpioPatternCycle items
    rw [List.map_eq_flatMap]
    apply List.flatMap_congr
    intro i hi
    have hbyte : gpioItem .disabled .counter (0 + i) = [UInt8.ofNat (i % 256)] := by
      rw [Nat.zero_add]
      rfl
    rw [hbyte, Nat.mod_eq_of_lt (List.mem_range.mp hi)]
  · unfold items
    simp only [Nat.zero_add]
    rfl

/-! ### Payloads are windows -/

theorem syntheticAdcPayload_eq (start n : ℕ) :
    syntheticAdcPayload start n = items adcItem start n := by
  unfold syntheticAdcPayload
  rw [adcPatternCycle_eq]
  exact cyclicBytes_items length_adcItem (by decide) periodic_adcItem (by decide) start n

theorem syntheticGpioPayload_eq (start n : ℕ) (mode : AuxBankMode)
    (pattern : SyntheticGPIOPattern) :
    syntheticGpioPayload start n mode pattern = items (gpioItem mode pattern) start n := by
  unfold syntheticGpioPayload
  rw [gpioModePatternCycle_eq]
  exact cyclicBytes_items (length_gpioItem mode pattern) (itemBytes_pos mode)
    (periodic_gpioItem mode pattern) (by decide) start n

/-- After `m` turns the first `m` pairs of the ramp are those of version 3. -/
theorem patchEdges_items (start n : ℕ) {m : ℕ} (hm : m ≤ n) :
    (List.range m).foldl (fun payload offset =>
      match edges[(start + offset) % 2048]? with
      | some edge => store payload (offset * 4) (packPair edge.1 edge.2)
      | none => payload) (items adcItem start n) =
    items v3AdcItem start m ++ items adcItem (start + m) (n - m) := by
  induction m with
  | zero => simp
  | succ m ih =>
    have hrest : n - m = 1 + (n - (m + 1)) := by omega
    have hone : items adcItem (start + m) 1 = adcItem (start + m) := by
      rw [items_succ, items_zero]
      rfl
    rw [List.range_succ, List.foldl_append, ih (by omega), hrest, items_add, hone, items_succ,
      ← Nat.add_assoc start, List.append_assoc]
    simp only [List.foldl_cons, List.foldl_nil]
    unfold v3AdcItem
    split
    · next edge hedge =>
      have hstore := store_append (a := items v3AdcItem start m) (m := adcItem (start + m))
        (c := items adcItem (start + m + 1) (n - (m + 1))) (s := packPair edge.1 edge.2) (by simp)
      rw [length_items length_v3AdcItem] at hstore
      exact hstore
    · rfl

theorem syntheticV3AdcPayload_eq (start n : ℕ) :
    syntheticV3AdcPayload start n = items v3AdcItem start n := by
  unfold syntheticV3AdcPayload
  rw [syntheticAdcPayload_eq, patchEdges_items start n le_rfl, Nat.sub_self, items_zero,
    List.append_nil]

theorem validateSyntheticAdcPayload_ok {payload : Bytes} {start n : ℕ} :
    validateSyntheticAdcPayload payload start n = .ok () ↔ payload = items adcItem start n := by
  unfold validateSyntheticAdcPayload
  by_cases hlength : payload.length = n * 4
  · have hmismatch := cyclicMismatch_items length_adcItem (by decide) periodic_adcItem (by decide)
      hlength start
    rw [if_neg (not_not.mpr hlength), adcPatternCycle_eq, ← hmismatch]
    split
    · next hnone => simp [hnone]
    · next hsome => simp [hsome]
  · rw [if_pos hlength]
    simp only [reduceCtorEq, false_iff]
    rintro rfl
    exact hlength (length_items length_adcItem start n)

theorem validateSyntheticGpioPayload_ok {payload : Bytes} {start n : ℕ} {mode : AuxBankMode}
    {pattern : SyntheticGPIOPattern} :
    validateSyntheticGpioPayload payload start n mode pattern = .ok () ↔
      payload = items (gpioItem mode pattern) start n := by
  unfold validateSyntheticGpioPayload
  by_cases hlength : payload.length = n * itemBytes mode
  · have hmismatch := cyclicMismatch_items (length_gpioItem mode pattern) (itemBytes_pos mode)
      (periodic_gpioItem mode pattern) (by decide) hlength start
    rw [if_neg (not_not.mpr hlength), gpioModePatternCycle_eq, ← hmismatch]
    split
    · next hnone => simp [hnone]
    · next hsome => simp [hsome]
  · rw [if_pos hlength]
    simp only [reduceCtorEq, false_iff]
    rintro rfl
    exact hlength (length_items (length_gpioItem mode pattern) start n)

/-! ### Blocks -/

/-- The sample of a global index that a block should hold. -/
def expected (b : Block) (pattern : SyntheticGPIOPattern) : ℕ → Bytes :=
  match b.kind with
  | .adcData => if b.protocolVersion = 3 then v3AdcItem else adcItem
  | .gpioData =>
    gpioItem b.auxBankMode (if b.protocolVersion = 3 then v3GpioPattern b.sequence else pattern)

/-- Exactly the blocks with the expected samples are accepted. -/
theorem validateSyntheticBlock_ok {b : Block} {pattern : SyntheticGPIOPattern} :
    validateSyntheticBlock b pattern = .ok () ↔
      b.synthetic = true ∧ (b.protocolVersion = 3 ∨ b.firstSampleTicks % b.periodTicks = 0) ∧
        b.payload = items (expected b pattern) (firstIndex b) b.itemCount := by
  unfold validateSyntheticBlock expected v3Expected
  cases b.synthetic with
  | false => simp
  | true =>
    by_cases hv3 : b.protocolVersion = 3
    · cases b.kind with
      | adcData => simp [hv3, syntheticV3AdcPayload_eq]
      | gpioData => simp [hv3, syntheticGpioPayload_eq]
    · by_cases haligned : b.firstSampleTicks % b.periodTicks = 0
      · cases b.kind with
        | adcData => simp [hv3, haligned, validateSyntheticAdcPayload_ok]
        | gpioData => simp [hv3, haligned, validateSyntheticGpioPayload_ok]
      · cases b.kind with
        | adcData => simp [hv3, haligned]
        | gpioData => simp [hv3, haligned]

end ThingDaq.Host.Synthetic
