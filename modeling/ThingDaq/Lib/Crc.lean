import ThingDaq.Lib.Bytes
import Mathlib.Data.Nat.Bitwise

/-!
# Reflected cyclic redundancy checks

A reflected CRC divides a bit string by a polynomial, least significant bit first.
`bit` is one step of the division; everything else is steps of it.  A step is linear
in exclusive or (`bits_xor`) and only moves clear bits down (`bits_shiftLeft`), so a
byte string is one number divided at once (`run_eq`), and a number is divided byte by
byte (`bits_split`).  The tables of an implementation hold the quotients of bytes.
-/

namespace Crc

open Wire

/-- One step of the division. -/
def bit (polynomial r : ℕ) : ℕ := (r >>> 1) ^^^ if r.testBit 0 then polynomial else 0

/-- So many steps. -/
def bits (polynomial n : ℕ) (r : ℕ) : ℕ := (bit polynomial)^[n] r

/-- The remainder after a byte string, bit by bit. -/
def run (polynomial : ℕ) (r : ℕ) (data : Bytes) : ℕ :=
  data.foldl (fun r d => bits polynomial 8 (r ^^^ d.toNat)) r

/-- The CRC-32 of a byte string, with all ones before and inverted at the end. -/
def crc32 (polynomial : ℕ) (data : Bytes) : ℕ := run polynomial 0xFFFFFFFF data ^^^ 0xFFFFFFFF

variable {p : ℕ}

theorem bits_add (m n r : ℕ) : bits p (m + n) r = bits p m (bits p n r) :=
  Function.iterate_add_apply _ _ _ _

theorem bit_xor (a b : ℕ) : bit p (a ^^^ b) = bit p a ^^^ bit p b := by
  unfold bit
  rw [Nat.shiftRight_xor_distrib, Nat.testBit_xor]
  -- Two steps that both add the polynomial add nothing.
  cases a.testBit 0 <;> cases b.testBit 0
  · simp
  · simp [Nat.xor_assoc]
  · simp [Nat.xor_assoc, Nat.xor_comm p]
  · rw [if_neg (by decide), if_pos rfl, Nat.xor_zero, Nat.xor_assoc, Nat.xor_comm p, Nat.xor_assoc,
      Nat.xor_self, Nat.xor_zero]

theorem bits_xor (n a b : ℕ) : bits p n (a ^^^ b) = bits p n a ^^^ bits p n b := by
  induction n generalizing a b with
  | zero => rfl
  | succ n ih =>
    unfold bits at *
    rw [Function.iterate_succ_apply, bit_xor, ih]
    rfl

/-- Clear bits only move the rest down. -/
theorem bits_shiftLeft (n r : ℕ) : bits p n (r <<< n) = r := by
  induction n with
  | zero => rfl
  | succ n ih =>
    have hstep : bit p (r <<< (n + 1)) = r <<< n := by
      unfold bit
      rw [Nat.testBit_shiftLeft]
      simp [Nat.shiftLeft_succ, Nat.shiftRight_succ]
    unfold bits at *
    rw [Function.iterate_succ_apply, hstep, ih]

theorem bit_lt {w : ℕ} (hp : p < 2 ^ w) {r : ℕ} (hr : r < 2 ^ w) : bit p r < 2 ^ w := by
  unfold bit
  apply Nat.xor_lt_two_pow
  · exact (Nat.shiftRight_le r 1).trans_lt hr
  · split
    · exact hp
    · exact Nat.two_pow_pos w

theorem bits_lt {w : ℕ} (hp : p < 2 ^ w) (n : ℕ) {r : ℕ} (hr : r < 2 ^ w) : bits p n r < 2 ^ w := by
  induction n generalizing r with
  | zero => exact hr
  | succ n ih =>
    unfold bits at *
    rw [Function.iterate_succ_apply]
    exact ih (bit_lt hp hr)

/-! ### Bytes of a number -/

/-- A number is its low byte and the rest, shifted. -/
theorem byte_xor (x : ℕ) : x = (x &&& 255) ^^^ ((x >>> 8) <<< 8) := by
  apply Nat.eq_of_testBit_eq
  intro i
  rw [Nat.testBit_xor, Nat.testBit_and, Nat.testBit_shiftLeft, Nat.testBit_shiftRight,
    show (255 : ℕ) = 2 ^ 8 - 1 from rfl, Nat.testBit_two_pow_sub_one]
  by_cases h : i < 8
  · simp [h, Nat.not_le.mpr h]
  · have : 8 + (i - 8) = i := by omega
    simp [h, Nat.not_lt.mp h, this]

/-- Dividing a number takes its low byte all the way and the rest a byte less. -/
theorem bits_split (n x : ℕ) :
    bits p (n + 8) x = bits p (n + 8) (x &&& 255) ^^^ bits p n (x >>> 8) := by
  conv => lhs; rw [byte_xor x, bits_xor]
  rw [bits_add n 8 (_ <<< 8), bits_shiftLeft]

theorem byte_cons (d : UInt8) (v : ℕ) : d.toNat + 256 * v = d.toNat ^^^ (v <<< 8) := by
  have hd : d.toNat < 2 ^ 8 := d.toNat_lt
  rw [show 256 * v = v <<< 8 by rw [Nat.shiftLeft_eq]; omega]
  rw [Nat.add_comm, Nat.shiftLeft_add_eq_or_of_lt hd]
  apply Nat.eq_of_testBit_eq
  intro i
  rw [Nat.testBit_or, Nat.testBit_xor, Nat.testBit_shiftLeft]
  by_cases h : i < 8
  · simp [Nat.not_le.mpr h]
  · have hlow : d.toNat.testBit i = false :=
      Nat.testBit_lt_two_pow (hd.trans_le (Nat.pow_le_pow_right (by omega) (by omega)))
    simp [hlow]

/-- A byte string is divided as the number it is the little-endian bytes of. -/
theorem run_eq (r : ℕ) (data : Bytes) : run p r data = bits p (8 * data.length) (r ^^^ leValue data) := by
  induction data generalizing r with
  | nil => simp [run, bits, leValue]
  | cons d data ih =>
    have hcons : run p r (d :: data) = run p (bits p 8 (r ^^^ d.toNat)) data := rfl
    have hsplit : bits p 8 (r ^^^ (d.toNat ^^^ leValue data <<< 8)) =
        bits p 8 (r ^^^ d.toNat) ^^^ leValue data := by
      rw [← Nat.xor_assoc, bits_xor, bits_shiftLeft]
    rw [hcons, ih, leValue_cons, List.length_cons, Nat.mul_succ, bits_add, byte_cons, hsplit]

theorem run_append (r : ℕ) (a b : Bytes) : run p r (a ++ b) = run p (run p r a) b :=
  List.foldl_append

theorem run_lt {w : ℕ} (hp : p < 2 ^ w) (hw : 8 ≤ w) {r : ℕ} (hr : r < 2 ^ w) (data : Bytes) :
    run p r data < 2 ^ w := by
  induction data generalizing r with
  | nil => exact hr
  | cons d data ih =>
    apply ih
    apply bits_lt hp
    apply Nat.xor_lt_two_pow hr
    exact d.toNat_lt.trans_le (Nat.pow_le_pow_right (by omega) hw)

end Crc
