import ThingDaq.Lib.Crc
import ThingDaq.Protocol.Checksum

/-!
# The firmware's CRCs are CRCs

The eight slices of `makeReflectedCrcTable` hold the remainders of single bytes after
eight to sixty-four steps.  The word loops of `reflectedCrc32` look up the four bytes of
a remainder, or the eight of two words, and combine them: by linearity that is the
division bit by bit.

## Main results

* `toNat_crcTable` — slice `k` at `i` is `i` after `8 * (k + 1)` steps.
* `reflectedCrc32_eq` — the firmware's CRC is the bit-by-bit one.
* `adlerSums_lt` — no 32-bit sum of the two-lane Adler-32 wraps.
-/

namespace ThingDaq.Checksum

open Wire

/-! ### Tables -/

theorem toNat_lowBitMask (r : UInt32) :
    0 - (r &&& 1) = if r.toNat.testBit 0 then 0xFFFFFFFF else 0 := by
  have hand : (r &&& 1).toNat = r.toNat % 2 := by
    rw [UInt32.toNat_and]
    exact Nat.and_one_is_mod _
  rw [Nat.testBit_zero]
  rcases Nat.mod_two_eq_zero_or_one r.toNat with h | h
  · have hzero : r &&& 1 = 0 := UInt32.toNat_inj.mp (by rw [hand, h]; rfl)
    rw [hzero, h]
    rfl
  · have hone : r &&& 1 = 1 := UInt32.toNat_inj.mp (by rw [hand, h]; rfl)
    rw [hone, h]
    rfl

theorem toNat_crcBit (p r : UInt32) : (crcBit p r).toNat = Crc.bit p.toNat r.toNat := by
  unfold crcBit Crc.bit
  rw [toNat_lowBitMask, UInt32.toNat_xor, UInt32.toNat_shiftRight]
  congr 1
  split
  · rw [UInt32.toNat_and]
    have hp := p.toNat_lt
    exact Nat.and_two_pow_sub_one_of_lt_two_pow hp
  · rw [UInt32.and_zero]
    rfl

theorem toNat_crcBits (p r : UInt32) (n : ℕ) :
    ((List.range n).foldl (fun r _ => crcBit p r) r).toNat = Crc.bits p.toNat n r.toNat := by
  induction n with
  | zero => rfl
  | succ n ih =>
    rw [List.range_succ, List.foldl_append, List.foldl_cons, List.foldl_nil, toNat_crcBit, ih,
      Nat.add_comm n 1, Crc.bits_add]
    rfl

theorem toNat_crcTable (p : UInt32) (slice : ℕ) (index : UInt32) :
    (crcTable p slice index).toNat = Crc.bits p.toNat (8 * (slice + 1)) index.toNat := by
  induction slice with
  | zero => exact toNat_crcBits p index 8
  | succ slice ih =>
    have hsplit := Crc.bits_split (p := p.toNat) 0 (crcTable p slice index).toNat
    rw [crcTable, UInt32.toNat_xor, toNat_crcBits, UInt32.toNat_and, UInt32.toNat_shiftRight,
      Nat.mul_succ, Nat.add_comm _ 8, Crc.bits_add, ← ih]
    rw [Nat.zero_add] at hsplit
    rw [hsplit, Nat.xor_comm]
    rfl

/-! ### Words -/

theorem toNat_loadWord (data : Bytes) : (loadWord data).toNat = leValue (data.take 4) := by
  unfold loadWord
  rw [UInt32.toNat_ofNat']
  apply Nat.mod_eq_of_lt
  have h := leValue_lt (data.take 4)
  refine h.trans_le ?_
  rw [show (2 ^ 32 : ℕ) = 256 ^ 4 by norm_num]
  exact Nat.pow_le_pow_right (by omega) (List.length_take_le _ _)

theorem toNat_xor_loadWord (r : UInt32) (data : Bytes) :
    (r ^^^ loadWord data).toNat = r.toNat ^^^ leValue (data.take 4) := by
  rw [UInt32.toNat_xor, toNat_loadWord]

/-- The four bytes of a word, looked up in four neighbouring slices. -/
theorem toNat_lookup (p word : UInt32) (k : ℕ) :
    (crcTable p (k + 3) (word &&& 0xFF) ^^^ crcTable p (k + 2) ((word >>> 8) &&& 0xFF) ^^^
      crcTable p (k + 1) ((word >>> 16) &&& 0xFF) ^^^ crcTable p k (word >>> 24)).toNat =
    Crc.bits p.toNat (8 * k + 32) word.toNat := by
  have h₁ := Crc.bits_split (p := p.toNat) (8 * k + 24) word.toNat
  have h₂ := Crc.bits_split (p := p.toNat) (8 * k + 16) (word.toNat >>> 8)
  have h₃ := Crc.bits_split (p := p.toNat) (8 * k + 8) (word.toNat >>> 16)
  rw [← Nat.shiftRight_add] at h₂ h₃
  rw [h₁, h₂, h₃]
  simp only [UInt32.toNat_xor, toNat_crcTable, UInt32.toNat_and, UInt32.toNat_shiftRight,
    Nat.xor_assoc]
  rfl

/-! ### The loop -/

theorem toNat_crcLoop (p : UInt32) (fuel : ℕ) (r : UInt32) (data : Bytes)
    (h : data.length ≤ fuel) : (crcLoop p fuel r data).toNat = Crc.run p.toNat r.toNat data := by
  induction fuel generalizing r data with
  | zero =>
    have hnil : data = [] := List.length_eq_zero_iff.mp (by omega)
    subst hnil
    rfl
  | succ fuel ih =>
    unfold crcLoop
    by_cases h8 : 8 ≤ data.length
    · -- Two words: the first one takes the remainder with it.
      have hsplit : data = data.take 4 ++ ((data.drop 4).take 4 ++ data.drop 8) := by
        rw [← List.drop_drop (i := 4) (j := 4), List.take_append_drop, List.take_append_drop]
      have hlen₁ : (data.take 4).length = 4 := by rw [List.length_take]; omega
      have hlen₂ : ((data.drop 4).take 4).length = 4 := by
        rw [List.length_take, List.length_drop]; omega
      have hone := toNat_lookup p (r ^^^ loadWord data) 4
      have htwo := toNat_lookup p (loadWord (data.drop 4)) 0
      dsimp only
      rw [if_pos h8, ih _ _ (by rw [List.length_drop]; omega)]
      conv => rhs; rw [hsplit, Crc.run_append, Crc.run_append, Crc.run_eq _ (data.take 4),
        Crc.run_eq _ ((data.drop 4).take 4), hlen₁, hlen₂, Crc.bits_xor (8 * 4),
        ← Crc.bits_add]
      congr 1
      rw [toNat_xor_loadWord] at hone
      rw [toNat_loadWord] at htwo
      rw [← hone, ← htwo, ← UInt32.toNat_xor]
      congr 1
      simp only [UInt32.xor_assoc]
    · dsimp only
      rw [if_neg h8]
      by_cases h4 : 4 ≤ data.length
      · have hsplit : data = data.take 4 ++ data.drop 4 := (List.take_append_drop 4 data).symm
        have hlen : (data.take 4).length = 4 := by rw [List.length_take]; omega
        have hone := toNat_lookup p (r ^^^ loadWord data) 0
        rw [if_pos h4, ih _ _ (by rw [List.length_drop]; omega)]
        conv => rhs; rw [hsplit, Crc.run_append, Crc.run_eq _ (data.take 4), hlen]
        rw [toNat_xor_loadWord] at hone
        congr 1
      · rw [if_neg h4]
        cases data with
        | nil => rfl
        | cons d rest =>
          have hbyte := Crc.bits_split (p := p.toNat) 0 (r.toNat ^^^ d.toNat)
          dsimp only
          rw [ih _ _ (by rw [List.length_cons] at h; omega)]
          have hrun : Crc.run p.toNat r.toNat (d :: rest) =
              Crc.run p.toNat (Crc.bits p.toNat 8 (r.toNat ^^^ d.toNat)) rest := rfl
          rw [hrun]
          congr 1
          rw [Nat.zero_add] at hbyte
          have hd : (UInt32.ofNat d.toNat).toNat = d.toNat := by
            rw [UInt32.toNat_ofNat']
            exact Nat.mod_eq_of_lt (d.toNat_lt.trans (by decide))
          have hshift : d.toNat >>> 8 = 0 := Nat.shiftRight_eq_zero _ _ d.toNat_lt
          rw [hbyte, UInt32.toNat_xor, toNat_crcTable, UInt32.toNat_and, UInt32.toNat_xor, hd,
            Nat.shiftRight_xor_distrib, hshift, Nat.xor_zero, Nat.xor_comm, UInt32.toNat_shiftRight]
          rfl

/-- The firmware's table-driven CRC is the division bit by bit. -/
theorem reflectedCrc32_eq (p : UInt32) (data : Bytes) :
    (reflectedCrc32 p data).toNat = Crc.crc32 p.toNat data := by
  unfold reflectedCrc32 Crc.crc32
  rw [UInt32.toNat_xor, toNat_crcLoop p _ _ _ (Nat.le_refl _)]
  rfl

/-! ### The sums of the two-lane Adler-32

The model reduces every 32-bit sum.  Here are the sums without the reduction, in the
order in which `adler32` computes them. -/

/-- A lane's accumulators after each of its bytes. -/
def laneSums : ℕ × ℕ → Bytes → List ℕ
  | _, [] => []
  | s, d :: data =>
    let first := s.1 + d.toNat
    let second := s.2 + first
    first :: second :: laneSums (first, second) data

/-- A lane without reductions. -/
def exactLane (data : Bytes) : ℕ × ℕ :=
  data.foldl (fun s d => (s.1 + d.toNat, s.2 + (s.1 + d.toNat))) (1, 0)

def blockSums (s : ℕ × ℕ) (block : Bytes) : List ℕ :=
  let lane1Bytes := block.length / 2
  let lane2Bytes := block.length - lane1Bytes
  let l1 := exactLane (block.take lane1Bytes)
  let l2 := exactLane (block.drop lane1Bytes)
  let blockFirst := (l1.1 + l2.1 - 1) % Adler.modulus
  let blockSecond := (l1.2 + l2.2 + lane2Bytes * (l1.1 - 1)) % Adler.modulus
  let previousSum := if s.1 = 0 then Adler.modulus - 1 else s.1 - 1
  laneSums (1, 0) (block.take lane1Bytes) ++ laneSums (1, 0) (block.drop lane1Bytes) ++
    [l1.1 + l2.1, l1.2 + l2.2, lane2Bytes * (l1.1 - 1), l1.2 + l2.2 + lane2Bytes * (l1.1 - 1),
      s.2 + blockSecond, block.length * previousSum,
      s.2 + blockSecond + block.length * previousSum, previousSum + blockFirst]

/-- Every sum of a run, block by block. -/
def adlerSums : ℕ → ℕ × ℕ → Bytes → List ℕ
  | 0, _, _ => []
  | fuel + 1, s, data =>
    if data = [] then []
    else
      let block := data.take reductionBlockBytes
      blockSums s block ++ adlerSums fuel (adlerBlock s block) (data.drop reductionBlockBytes)

theorem exactLane_foldl (data : Bytes) (s : ℕ × ℕ) :
    data.foldl (fun s d => (s.1 + d.toNat, s.2 + (s.1 + d.toNat))) s =
      (s.1 + Adler.sum1 data, s.2 + data.length * s.1 + Adler.sum2 data) := by
  induction data generalizing s with
  | nil => simp [Adler.sum1, Adler.sum2]
  | cons d data ih =>
    rw [List.foldl_cons, ih, Adler.sum1, Adler.sum2, List.length_cons]
    refine Prod.ext ?_ ?_
    · exact Nat.add_assoc _ _ _
    · ring

theorem exactLane_eq (data : Bytes) :
    exactLane data = (1 + Adler.sum1 data, data.length + Adler.sum2 data) := by
  have h := exactLane_foldl data (1, 0)
  simpa [exactLane] using h

/-- A lane's sums only grow, so the last ones bound them all. -/
theorem laneSums_le (data : Bytes) (s : ℕ × ℕ) :
    ∀ v ∈ laneSums s data,
      v ≤ s.1 + Adler.sum1 data ∨ v ≤ s.2 + data.length * s.1 + Adler.sum2 data := by
  induction data generalizing s with
  | nil => exact fun v hv => by cases hv
  | cons d data ih =>
    have hsecond : s.2 + (s.1 + d.toNat) + data.length * (s.1 + d.toNat) + Adler.sum2 data =
        s.2 + (data.length + 1) * s.1 + ((data.length + 1) * d.toNat + Adler.sum2 data) := by ring
    intro v hv
    rw [Adler.sum1, Adler.sum2, List.length_cons]
    simp only [laneSums, List.mem_cons] at hv
    rcases hv with rfl | rfl | hv
    · left
      omega
    · right
      rw [← hsecond]
      omega
    · rcases ih _ v hv with h | h
      · left
        omega
      · right
        rw [← hsecond]
        exact h

theorem blockSums_lt {s : ℕ × ℕ} (h1 : s.1 < Adler.modulus) (h2 : s.2 < Adler.modulus)
    {block : Bytes} (hlen : block.length ≤ reductionBlockBytes) :
    ∀ v ∈ blockSums s block, v < 2 ^ 32 := by
  unfold reductionBlockBytes at hlen
  obtain ⟨a, b, ha, hb⟩ : ∃ a b : Bytes, block.take (block.length / 2) = a ∧
    block.drop (block.length / 2) = b := ⟨_, _, rfl, rfl⟩
  have hla : a.length ≤ 2776 := by rw [← ha, List.length_take]; omega
  have hlb : b.length ≤ 2776 := by rw [← hb, List.length_drop]; omega
  have hlb' : block.length - block.length / 2 = b.length := by rw [← hb, List.length_drop]
  have ha1 := Adler.sum1_le a
  have ha2 := Adler.sum2_le a
  have hb1 := Adler.sum1_le b
  have hb2 := Adler.sum2_le b
  have hqa : a.length * (a.length + 1) ≤ 2776 * 2777 := Nat.mul_le_mul (by omega) (by omega)
  have hqb : b.length * (b.length + 1) ≤ 2776 * 2777 := Nat.mul_le_mul (by omega) (by omega)
  have hcross : b.length * Adler.sum1 a ≤ 2776 * 707880 := Nat.mul_le_mul (by omega) (by omega)
  have hprev : (if s.1 = 0 then Adler.modulus - 1 else s.1 - 1) ≤ 65520 := by
    unfold Adler.modulus at *
    split <;> omega
  have hmul : block.length * (if s.1 = 0 then Adler.modulus - 1 else s.1 - 1) ≤ 5552 * 65520 :=
    Nat.mul_le_mul hlen hprev
  have hmod : ∀ x, x % Adler.modulus < 65521 := fun x => Nat.mod_lt _ (by decide)
  unfold Adler.modulus at h2
  unfold blockSums
  simp only [ha, hb, hlb', exactLane_eq, Nat.add_sub_cancel_left]
  intro v hv
  rw [List.mem_append, List.mem_append] at hv
  rcases hv with (hv | hv) | hv
  · rcases laneSums_le a (1, 0) v hv with h | h
    · omega
    · simp only at h
      omega
  · rcases laneSums_le b (1, 0) v hv with h | h
    · omega
    · simp only at h
      omega
  · have hfirst := hmod (1 + Adler.sum1 a + (1 + Adler.sum1 b) - 1)
    have hsecond := hmod (a.length + Adler.sum2 a + (b.length + Adler.sum2 b) +
      b.length * Adler.sum1 a)
    simp only [List.mem_cons, List.not_mem_nil, or_false] at hv
    rcases hv with rfl | rfl | rfl | rfl | rfl | rfl | rfl | rfl
    all_goals omega

/-- No sum of the two-lane Adler-32 reaches 32 bits. -/
theorem adlerSums_lt (fuel : ℕ) {s : ℕ × ℕ} (h1 : s.1 < Adler.modulus) (h2 : s.2 < Adler.modulus)
    (data : Bytes) : ∀ v ∈ adlerSums fuel s data, v < 2 ^ 32 := by
  induction fuel generalizing s data with
  | zero => exact fun v hv => by cases hv
  | succ fuel ih =>
    intro v hv
    unfold adlerSums at hv
    split at hv
    · cases hv
    have htake : (data.take reductionBlockBytes).length ≤ reductionBlockBytes := by simp
    rcases List.mem_append.mp hv with hv | hv
    · exact blockSums_lt h1 h2 htake v hv
    · obtain ⟨hl1, hl2⟩ := Adler.state_lt (data.take reductionBlockBytes) s h1 h2
      rw [adlerBlock_eq h1 h2 htake] at hv
      exact ih hl1 hl2 _ v hv

end ThingDaq.Checksum
