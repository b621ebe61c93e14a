import Mathlib.Data.Nat.ModEq
import Mathlib.Tactic.Ring
import Mathlib.Tactic.Linarith
import ThingDaq.Lib.Bytes

/-!
# Adler-32

The checksum of RFC 1950: two running sums modulo `65521`.  `adler32` is the
byte-at-a-time definition.  Any implementation that delays the reductions
computes with the plain sums `sum1` and `sum2`; `state_congr` says what a run of
the definition leaves modulo `65521`, and `sum1_append`, `sum2_append` are the
concatenation identities that split a run into lanes.
-/

namespace Adler

open Wire

def modulus : ℕ := 65521

/-- One byte of the definition. -/
def step (s : ℕ × ℕ) (d : UInt8) : ℕ × ℕ :=
  ((s.1 + d.toNat) % modulus, (s.2 + (s.1 + d.toNat) % modulus) % modulus)

/-- The running sums after a byte string. -/
def state (s : ℕ × ℕ) (data : Bytes) : ℕ × ℕ := data.foldl step s

/-- The Adler-32 of a byte string. -/
def adler32 (data : Bytes) : ℕ := (state (1, 0) data).2 * 65536 + (state (1, 0) data).1

/-! ### Plain sums -/

/-- The sum of the bytes. -/
def sum1 : Bytes → ℕ
  | [] => 0
  | d :: ds => d.toNat + sum1 ds

/-- The sum of the bytes, each weighted with how many bytes are left. -/
def sum2 : Bytes → ℕ
  | [] => 0
  | d :: ds => (ds.length + 1) * d.toNat + sum2 ds

theorem sum1_append (a b : Bytes) : sum1 (a ++ b) = sum1 a + sum1 b := by
  induction a with
  | nil => simp [sum1]
  | cons d a ih => rw [List.cons_append, sum1, sum1, ih, Nat.add_assoc]

theorem sum2_append (a b : Bytes) : sum2 (a ++ b) = sum2 a + b.length * sum1 a + sum2 b := by
  induction a with
  | nil => simp [sum1, sum2]
  | cons d a ih =>
    rw [List.cons_append, sum2, sum2, sum1, ih, List.length_append]
    ring

theorem sum1_le (a : Bytes) : sum1 a ≤ 255 * a.length := by
  induction a with
  | nil => simp [sum1]
  | cons d a ih =>
    have := d.toNat_lt
    rw [sum1, List.length_cons]
    omega

theorem sum2_le (a : Bytes) : 2 * sum2 a ≤ 255 * (a.length * (a.length + 1)) := by
  induction a with
  | nil => simp [sum2]
  | cons d a ih =>
    have hd : d.toNat ≤ 255 := by have := d.toNat_lt; omega
    have hmul : (a.length + 1) * d.toNat ≤ (a.length + 1) * 255 := Nat.mul_le_mul_left _ hd
    rw [sum2, List.length_cons]
    nlinarith

/-! ### What a run of the definition leaves -/

theorem state_lt (data : Bytes) : ∀ s : ℕ × ℕ, s.1 < modulus → s.2 < modulus →
    (state s data).1 < modulus ∧ (state s data).2 < modulus := by
  induction data with
  | nil => intro s h1 h2; exact ⟨h1, h2⟩
  | cons d data ih =>
    intro s h1 h2
    exact ih (step s d) (Nat.mod_lt _ (by decide)) (Nat.mod_lt _ (by decide))

theorem state_congr (data : Bytes) : ∀ s : ℕ × ℕ,
    (state s data).1 ≡ s.1 + sum1 data [MOD modulus] ∧
      (state s data).2 ≡ s.2 + data.length * s.1 + sum2 data [MOD modulus] := by
  induction data with
  | nil => intro s; constructor <;> simp [state, sum1, sum2, Nat.ModEq]
  | cons d data ih =>
    intro s
    obtain ⟨h1, h2⟩ := ih (step s d)
    have hs1 : (step s d).1 ≡ s.1 + d.toNat [MOD modulus] := Nat.mod_modEq _ _
    have hs2 : (step s d).2 ≡ s.2 + (s.1 + d.toNat) [MOD modulus] :=
      (Nat.mod_modEq _ _).trans ((Nat.ModEq.refl _).add (Nat.mod_modEq _ _))
    constructor
    · calc (state s (d :: data)).1 ≡ (step s d).1 + sum1 data [MOD modulus] := h1
        _ ≡ s.1 + d.toNat + sum1 data [MOD modulus] := hs1.add_right _
        _ = s.1 + sum1 (d :: data) := by rw [sum1, Nat.add_assoc]
    · calc (state s (d :: data)).2
          ≡ (step s d).2 + data.length * (step s d).1 + sum2 data [MOD modulus] := h2
        _ ≡ s.2 + (s.1 + d.toNat) + data.length * (s.1 + d.toNat) + sum2 data [MOD modulus] :=
            (hs2.add (hs1.mul_left _)).add_right _
        _ = s.2 + (d :: data).length * s.1 + sum2 (d :: data) := by
            rw [sum2, List.length_cons]; ring

end Adler
