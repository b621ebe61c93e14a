import ThingDaq.Lib.Adler
import ThingDaq.Protocol.Frame

/-!
# The firmware's checksums

`firmware/src/checksum.cpp`: Adler-32 in two accumulator lanes per block of 5552
bytes with delayed reductions, and the two reflected CRC-32 variants through
eight-slice tables.

## Main results

* `adler32_eq` — the two-lane implementation computes the Adler-32 of RFC 1950:
  no 32-bit accumulation wraps within a block, and the concatenation identity of
  the lanes is exact.
* `computeChecksum_isSome` — a supported algorithm always yields a checksum.
-/

namespace ThingDaq

open Wire

namespace Checksum

/-! ### Adler-32 -/

def reductionBlockBytes : ℕ := 5552

/-- One byte of a lane: both accumulators are 32-bit and never reduced. -/
def laneStep (s : ℕ × ℕ) (d : UInt8) : ℕ × ℕ :=
  ((s.1 + d.toNat) % 2 ^ 32, (s.2 + (s.1 + d.toNat) % 2 ^ 32) % 2 ^ 32)

/-- An accumulator lane over its bytes, from `kAdler32Initial` and zero. -/
def lane (data : Bytes) : ℕ × ℕ := data.foldl laneStep (1, 0)

/-- One block: the first half and the rest in independent lanes, then the
concatenation identity, then the concatenation with everything before. -/
def adlerBlock (s : ℕ × ℕ) (block : Bytes) : ℕ × ℕ :=
  let lane1Bytes := block.length / 2
  let lane2Bytes := block.length - lane1Bytes
  let l1 := lane (block.take lane1Bytes)
  let l2 := lane (block.drop lane1Bytes)
  let blockFirst := ((l1.1 + l2.1 - 1) % 2 ^ 32) % Adler.modulus
  let blockSecond := ((l1.2 + l2.2 + lane2Bytes * (l1.1 - 1)) % 2 ^ 32) % Adler.modulus
  let previousSum := if s.1 = 0 then Adler.modulus - 1 else s.1 - 1
  ((previousSum + blockFirst) % 2 ^ 32 % Adler.modulus,
    (s.2 + blockSecond + block.length * previousSum) % 2 ^ 32 % Adler.modulus)

/-- The block loop; the fuel is the number of bytes left, which each round of
the firmware's loop decreases. -/
def adlerLoop : ℕ → ℕ × ℕ → Bytes → ℕ × ℕ
  | 0, s, _ => s
  | fuel + 1, s, data =>
    if data = [] then s
    else adlerLoop fuel (adlerBlock s (data.take reductionBlockBytes))
      (data.drop reductionBlockBytes)

def adler32 (data : Bytes) : UInt32 :=
  let s := adlerLoop data.length (1, 0) data
  UInt32.ofNat (s.2 * 65536 + s.1)

/-- The unreduced lane, with no wrap. -/
theorem lane_foldl (data : Bytes) : ∀ s : ℕ × ℕ,
    s.1 + Adler.sum1 data < 2 ^ 32 → s.2 + data.length * s.1 + Adler.sum2 data < 2 ^ 32 →
      data.foldl laneStep s =
        (s.1 + Adler.sum1 data, s.2 + data.length * s.1 + Adler.sum2 data) := by
  induction data with
  | nil => intro s _ _; simp [Adler.sum1, Adler.sum2]
  | cons d data ih =>
    intro s h1 h2
    rw [Adler.sum1] at h1
    rw [Adler.sum2, List.length_cons] at h2
    have hsecond : s.2 + (s.1 + d.toNat) + data.length * (s.1 + d.toNat) + Adler.sum2 data
        = s.2 + (data.length + 1) * s.1 + ((data.length + 1) * d.toNat + Adler.sum2 data) := by
      ring
    have hnn : 0 ≤ data.length * (s.1 + d.toNat) := Nat.zero_le _
    have hstep : laneStep s d = (s.1 + d.toNat, s.2 + (s.1 + d.toNat)) := by
      unfold laneStep
      rw [Nat.mod_eq_of_lt (show s.1 + d.toNat < 2 ^ 32 by omega), Nat.mod_eq_of_lt (by omega)]
    rw [List.foldl_cons, hstep, ih _ (by simpa [Nat.add_assoc] using h1) (by simpa [hsecond] using h2)]
    refine Prod.ext ?_ ?_
    · simp [Adler.sum1, Nat.add_assoc]
    · simp only [Adler.sum2, List.length_cons]
      rw [hsecond, Nat.add_assoc]

theorem lane_eq {data : Bytes} (h : data.length ≤ 2776) :
    lane data = (1 + Adler.sum1 data, data.length + Adler.sum2 data) := by
  have h1 := Adler.sum1_le data
  have h2 := Adler.sum2_le data
  have h3 : data.length * (data.length + 1) ≤ 2776 * 2777 :=
    Nat.mul_le_mul h (by omega)
  have := lane_foldl data (1, 0) (by omega) (by simp only; omega)
  simpa [lane] using this

/-- A block advances the running sums as the definition does. -/
theorem adlerBlock_eq {s : ℕ × ℕ} (h1 : s.1 < Adler.modulus) (h2 : s.2 < Adler.modulus)
    {block : Bytes} (hlen : block.length ≤ reductionBlockBytes) :
    adlerBlock s block = Adler.state s block := by
  unfold reductionBlockBytes at hlen
  obtain ⟨a, b, hab⟩ : ∃ a b : Bytes, a = block.take (block.length / 2) ∧
    b = block.drop (block.length / 2) := ⟨_, _, rfl, rfl⟩
  have hblock : block = a ++ b := by rw [hab.1, hab.2, List.take_append_drop]
  have hla : a.length = block.length / 2 := by rw [hab.1, List.length_take]; omega
  have hlb : b.length = block.length - block.length / 2 := by rw [hab.2, List.length_drop]
  have ha1 := Adler.sum1_le a
  have ha2 := Adler.sum2_le a
  have hb1 := Adler.sum1_le b
  have hb2 := Adler.sum2_le b
  have hqa : a.length * (a.length + 1) ≤ 2776 * 2777 := Nat.mul_le_mul (by omega) (by omega)
  have hqb : b.length * (b.length + 1) ≤ 2776 * 2777 := Nat.mul_le_mul (by omega) (by omega)
  have hcross : b.length * Adler.sum1 a ≤ 2776 * 707880 := Nat.mul_le_mul (by omega) (by omega)
  have hlane1 : lane (block.take (block.length / 2)) =
      (1 + Adler.sum1 a, a.length + Adler.sum2 a) := by
    rw [← hab.1]; exact lane_eq (by omega)
  have hlane2 : lane (block.drop (block.length / 2)) =
      (1 + Adler.sum1 b, b.length + Adler.sum2 b) := by
    rw [← hab.2]; exact lane_eq (by omega)
  -- the state before the block, with the subtraction of one taken modulo 65521
  obtain ⟨prev, hprev⟩ : ∃ prev, prev = if s.1 = 0 then Adler.modulus - 1 else s.1 - 1 := ⟨_, rfl⟩
  have hprevLt : prev < Adler.modulus := by
    rw [hprev]; unfold Adler.modulus at *; split <;> omega
  have hprevCongr : prev + 1 ≡ s.1 [MOD Adler.modulus] := by
    rw [hprev]
    split
    · next h0 => rw [h0]; decide
    · next h0 => rw [Nat.sub_add_cancel (by omega)]
  have hmulPrev : block.length * prev ≤ 5552 * 65521 :=
    Nat.mul_le_mul hlen (by unfold Adler.modulus at hprevLt; omega)
  obtain ⟨hc1, hc2⟩ := Adler.state_congr block s
  obtain ⟨hl1, hl2⟩ := Adler.state_lt block s h1 h2
  have hsum1 : Adler.sum1 block = Adler.sum1 a + Adler.sum1 b := by
    rw [hblock, Adler.sum1_append]
  have hsum2 : Adler.sum2 block = Adler.sum2 a + b.length * Adler.sum1 a + Adler.sum2 b := by
    rw [hblock, Adler.sum2_append]
  have hlenab : block.length = a.length + b.length := by rw [hblock, List.length_append]
  have hM : Adler.modulus = 65521 := rfl
  unfold adlerBlock
  simp only [hlane1, hlane2, ← hlb, ← hprev]
  refine Prod.ext ?_ ?_
  · -- the first sum
    have hinner : (1 + Adler.sum1 a + (1 + Adler.sum1 b) - 1) % 2 ^ 32 = 1 + Adler.sum1 block := by
      rw [Nat.mod_eq_of_lt (by omega), hsum1]; omega
    have hmodlt : (1 + Adler.sum1 block) % Adler.modulus < Adler.modulus := Nat.mod_lt _ (by decide)
    simp only [hinner]
    rw [Nat.mod_eq_of_lt (show _ < 2 ^ 32 by omega)]
    refine Nat.ModEq.eq_of_lt_of_lt ?_ (Nat.mod_lt _ (by decide)) hl1
    calc (prev + (1 + Adler.sum1 block) % Adler.modulus) % Adler.modulus
        ≡ prev + (1 + Adler.sum1 block) % Adler.modulus [MOD Adler.modulus] := Nat.mod_modEq _ _
      _ ≡ prev + (1 + Adler.sum1 block) [MOD Adler.modulus] :=
          (Nat.ModEq.refl _).add (Nat.mod_modEq _ _)
      _ = prev + 1 + Adler.sum1 block := by omega
      _ ≡ s.1 + Adler.sum1 block [MOD Adler.modulus] := hprevCongr.add_right _
      _ ≡ (Adler.state s block).1 [MOD Adler.modulus] := hc1.symm
  · -- the second sum
    have hinner : (a.length + Adler.sum2 a + (b.length + Adler.sum2 b) +
        b.length * (1 + Adler.sum1 a - 1)) % 2 ^ 32 = block.length + Adler.sum2 block := by
      rw [Nat.add_sub_cancel_left, Nat.mod_eq_of_lt (by omega), hsum2, hlenab]; omega
    have hmodlt : (block.length + Adler.sum2 block) % Adler.modulus < Adler.modulus :=
      Nat.mod_lt _ (by decide)
    simp only [hinner]
    rw [Nat.mod_eq_of_lt (show _ < 2 ^ 32 by omega)]
    refine Nat.ModEq.eq_of_lt_of_lt ?_ (Nat.mod_lt _ (by decide)) hl2
    calc (s.2 + (block.length + Adler.sum2 block) % Adler.modulus + block.length * prev) %
          Adler.modulus
        ≡ s.2 + (block.length + Adler.sum2 block) % Adler.modulus + block.length * prev
            [MOD Adler.modulus] := Nat.mod_modEq _ _
      _ ≡ s.2 + (block.length + Adler.sum2 block) + block.length * prev [MOD Adler.modulus] :=
          ((Nat.ModEq.refl _).add (Nat.mod_modEq _ _)).add_right _
      _ = s.2 + block.length * (prev + 1) + Adler.sum2 block := by ring
      _ ≡ s.2 + block.length * s.1 + Adler.sum2 block [MOD Adler.modulus] :=
          ((Nat.ModEq.refl _).add (hprevCongr.mul_left _)).add_right _
      _ ≡ (Adler.state s block).2 [MOD Adler.modulus] := hc2.symm

theorem adlerLoop_eq : ∀ (fuel : ℕ) (s : ℕ × ℕ) (data : Bytes), data.length ≤ fuel →
    s.1 < Adler.modulus → s.2 < Adler.modulus → adlerLoop fuel s data = Adler.state s data := by
  intro fuel
  induction fuel with
  | zero =>
    intro s data hlen _ _
    have : data = [] := List.length_eq_zero_iff.mp (by omega)
    subst this
    rfl
  | succ fuel ih =>
    intro s data hlen h1 h2
    unfold adlerLoop
    split
    · next h => subst h; rfl
    · next h =>
      have hpos : 0 < data.length := List.length_pos_iff.mpr h
      have htake : (data.take reductionBlockBytes).length ≤ reductionBlockBytes := by simp
      have hdrop : (data.drop reductionBlockBytes).length ≤ fuel := by
        rw [List.length_drop]; unfold reductionBlockBytes; omega
      obtain ⟨hl1, hl2⟩ := Adler.state_lt (data.take reductionBlockBytes) s h1 h2
      rw [adlerBlock_eq h1 h2 htake, ih _ _ hdrop hl1 hl2]
      unfold Adler.state
      rw [← List.foldl_append, List.take_append_drop]

/-- The two-lane implementation computes RFC 1950's Adler-32. -/
theorem adler32_eq (data : Bytes) : (adler32 data).toNat = Adler.adler32 data := by
  have hloop := adlerLoop_eq data.length (1, 0) data le_rfl (by decide) (by decide)
  obtain ⟨h1, h2⟩ := Adler.state_lt data (1, 0) (by decide) (by decide)
  unfold Adler.modulus at h1 h2
  unfold adler32 Adler.adler32
  rw [hloop, UInt32.toNat_ofNat']
  exact Nat.mod_eq_of_lt (by omega)

/-! ### Reflected CRC-32 -/

def kCrc32cReflectedPolynomial : UInt32 := 0x82F63B78
def kCrc32IsoHdlcReflectedPolynomial : UInt32 := 0xEDB88320

/-- One shift of the table construction. -/
def crcBit (polynomial remainder : UInt32) : UInt32 :=
  (remainder >>> 1) ^^^ (polynomial &&& (0 - (remainder &&& 1)))

/-- Entry `index` of slice `slice` of `makeReflectedCrcTable`. -/
def crcTable (polynomial : UInt32) : ℕ → UInt32 → UInt32
  | 0, index => (List.range 8).foldl (fun r _ => crcBit polynomial r) index
  | slice + 1, index =>
    let previous := crcTable polynomial slice index
    (previous >>> 8) ^^^ (List.range 8).foldl (fun r _ => crcBit polynomial r) (previous &&& 0xFF)

/-- The little-endian word at the front of the data. -/
def loadWord (data : Bytes) : UInt32 := UInt32.ofNat (leValue (data.take 4))

/-- The CRC loop: eight bytes at a time, then four, then single bytes. -/
def crcLoop (polynomial : UInt32) : ℕ → UInt32 → Bytes → UInt32
  | 0, remainder, _ => remainder
  | fuel + 1, remainder, data =>
    let table := crcTable polynomial
    if 8 ≤ data.length then
      let first := remainder ^^^ loadWord data
      let second := loadWord (data.drop 4)
      crcLoop polynomial fuel
        (table 7 (first &&& 0xFF) ^^^ table 6 ((first >>> 8) &&& 0xFF) ^^^
          table 5 ((first >>> 16) &&& 0xFF) ^^^ table 4 (first >>> 24) ^^^
          table 3 (second &&& 0xFF) ^^^ table 2 ((second >>> 8) &&& 0xFF) ^^^
          table 1 ((second >>> 16) &&& 0xFF) ^^^ table 0 (second >>> 24))
        (data.drop 8)
    else if 4 ≤ data.length then
      let word := remainder ^^^ loadWord data
      crcLoop polynomial fuel
        (table 3 (word &&& 0xFF) ^^^ table 2 ((word >>> 8) &&& 0xFF) ^^^
          table 1 ((word >>> 16) &&& 0xFF) ^^^ table 0 (word >>> 24))
        (data.drop 4)
    else
      match data with
      | [] => remainder
      | d :: rest =>
        crcLoop polynomial fuel
          ((remainder >>> 8) ^^^ table 0 ((remainder ^^^ UInt32.ofNat d.toNat) &&& 0xFF)) rest

def reflectedCrc32 (polynomial : UInt32) (data : Bytes) : UInt32 :=
  crcLoop polynomial data.length 0xFFFFFFFF data ^^^ 0xFFFFFFFF

def crc32c (data : Bytes) : UInt32 := reflectedCrc32 kCrc32cReflectedPolynomial data

def crc32IsoHdlc (data : Bytes) : UInt32 := reflectedCrc32 kCrc32IsoHdlcReflectedPolynomial data

end Checksum

/-! ### Dispatch -/

def computeChecksum (a : ChecksumAlgorithm) (data : Bytes) : Option UInt32 :=
  if a = ChecksumAlgorithm.adler32 then some (Checksum.adler32 data)
  else if a = ChecksumAlgorithm.crc32c then some (Checksum.crc32c data)
  else if a = ChecksumAlgorithm.crc32IsoHdlc then some (Checksum.crc32IsoHdlc data)
  else none

theorem computeChecksum_adler32 (data : Bytes) :
    computeChecksum ChecksumAlgorithm.adler32 data = some (Checksum.adler32 data) := rfl

theorem computeChecksum_isSome {a : ChecksumAlgorithm} (h : isSupportedChecksum a = true)
    (data : Bytes) : ∃ c, computeChecksum a data = some c := by
  simp only [isSupportedChecksum, Bool.or_eq_true, decide_eq_true_eq] at h
  rcases h with (rfl | rfl) | rfl
  · exact ⟨_, rfl⟩
  · exact ⟨_, rfl⟩
  · exact ⟨_, rfl⟩

end ThingDaq
