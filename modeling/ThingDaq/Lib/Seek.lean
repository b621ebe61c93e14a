import ThingDaq.Lib.Scanner
import Mathlib.Data.List.Infix

/-!
# Looking for a word

A scanner of frames that start with a word takes off whatever neither starts with the
word nor may still become one.  Readers find the word, or the longest part of it at the
end of their buffer, in loops of their own; both loops are runs of that scanner.

## Main definitions

* `Seeks` — a verdict that skips what cannot start a frame.
* `firstAt`, `longestPart` — the two loops.

## Main results

* `Seeks.scans_firstAt` — up to the word everything is skipped.
* `Seeks.scans_longestPart` — without a word, everything but the beginning of one.
* `scans_flatten`, `Stable.waits_for_rest` — a stream of whole frames and a part of one.
-/

namespace Scanner

variable {α ε : Type*} [DecidableEq α]

omit [DecidableEq α] in
/-- A scan goes through what its emissions go through. -/
theorem Scans.split {v : List α → Verdict ε} {b r : List α} {es fs : List ε}
    (h : Scans v b (es ++ fs) r) : ∃ m, Scans v b es m ∧ Scans v m fs r := by
  induction es generalizing b with
  | nil => exact ⟨b, .refl b, h⟩
  | cons e es ih =>
    cases h with
    | step hv hs =>
      obtain ⟨m, hm, hr⟩ := ih hs
      exact ⟨m, .step hv hm, hr⟩

/-- The first place of a word. -/
def firstAt (word : List α) : List α → Option ℕ
  | [] => if word = [] then some 0 else none
  | x :: xs => if word <+: x :: xs then some 0 else (firstAt word xs).map (· + 1)

/-- The longest beginning of a word, of at most `n` letters, that ends `b`. -/
def longestPart (word b : List α) : ℕ → ℕ
  | 0 => 0
  | n + 1 => if word.take (n + 1) <:+ b then n + 1 else longestPart word b n

omit [DecidableEq α] in
/-- A beginning of the word at the end of `b` is where `b` goes on as the word does. -/
theorem take_suffix_of_part {word b : List α} {i : ℕ} (h : b.drop i <+: word) :
    word.take (b.length - i) <:+ b := by
  have htake := List.prefix_iff_eq_take.mp h
  rw [List.length_drop] at htake
  exact htake ▸ List.drop_suffix i b

theorem firstAt_none {word b : List α} (h : firstAt word b = none) (i : ℕ) :
    ¬ word <+: b.drop i := by
  induction b generalizing i with
  | nil =>
    unfold firstAt at h
    split at h
    · cases h
    · rename_i hne
      rw [List.drop_nil]
      exact fun hp => hne (List.prefix_nil.mp hp)
  | cons x xs ih =>
    unfold firstAt at h
    split at h
    · cases h
    · rename_i hnot
      cases i with
      | zero => exact hnot
      | succ i => exact ih (Option.map_eq_none_iff.mp h) i

theorem firstAt_some {word b : List α} {k : ℕ} (h : firstAt word b = some k) :
    word <+: b.drop k ∧ ∀ i < k, ¬ word <+: b.drop i := by
  induction b generalizing k with
  | nil =>
    unfold firstAt at h
    split at h
    · rename_i hnil
      cases h
      exact ⟨hnil ▸ List.nil_prefix, fun i hi => absurd hi (Nat.not_lt_zero i)⟩
    · cases h
  | cons x xs ih =>
    unfold firstAt at h
    split at h
    · rename_i hword
      cases h
      exact ⟨hword, fun i hi => absurd hi (Nat.not_lt_zero i)⟩
    · rename_i hnot
      obtain ⟨k', hk', rfl⟩ := Option.map_eq_some_iff.mp h
      obtain ⟨hword, hbefore⟩ := ih hk'
      refine ⟨hword, fun i hi => ?_⟩
      cases i with
      | zero => exact hnot
      | succ i => exact hbefore i (by omega)

theorem longestPart_spec (word b : List α) (n : ℕ) :
    longestPart word b n ≤ n ∧ word.take (longestPart word b n) <:+ b ∧
      ∀ m ≤ n, word.take m <:+ b → m ≤ longestPart word b n := by
  induction n with
  | zero => exact ⟨Nat.le_refl 0, List.take_zero ▸ List.nil_suffix, fun m hm _ => hm⟩
  | succ n ih =>
    obtain ⟨hle, hsuffix, hmax⟩ := ih
    unfold longestPart
    split
    · rename_i hpart
      exact ⟨Nat.le_refl _, hpart, fun m hm _ => hm⟩
    · rename_i hpart
      refine ⟨Nat.le_succ_of_le hle, hsuffix, fun m hm hm' => ?_⟩
      have hne : m ≠ n + 1 := by
        rintro rfl
        exact hpart hm'
      exact hmax m (by omega) hm'

/-- A verdict that passes over what is neither the word nor the beginning of one. -/
structure Seeks (word : List α) (skip : ε) (v : List α → Verdict ε) : Prop where
  ne_nil : word ≠ []
  skips : ∀ {b}, ¬ word <+: b → ¬ b <+: word → v b = .step 1 skip
  waits : ∀ {b}, ¬ word <+: b → b <+: word → v b = .wait

namespace Seeks

variable {word b : List α} {skip : ε} {v : List α → Verdict ε}

omit [DecidableEq α] in
theorem scans_skipped (hv : Seeks word skip v) {k : ℕ}
    (hskip : ∀ i < k, ¬ word <+: b.drop i ∧ ¬ b.drop i <+: word) :
    Scans v b (List.replicate k skip) (b.drop k) := by
  induction k with
  | zero => exact .refl b
  | succ k ih =>
    obtain ⟨hword, hpart⟩ := hskip k (Nat.lt_succ_self k)
    have hstep := (ih fun i hi => hskip i (by omega)).trans (Scans.single (hv.skips hword hpart))
    rwa [List.drop_drop, ← List.replicate_succ'] at hstep

/-- Up to the word everything is skipped. -/
theorem scans_firstAt (hv : Seeks word skip v) {k : ℕ} (h : firstAt word b = some k) :
    Scans v b (List.replicate k skip) (b.drop k) := by
  obtain ⟨hword, hbefore⟩ := firstAt_some h
  refine hv.scans_skipped fun i hi => ⟨hbefore i hi, fun hpart => ?_⟩
  -- what is left before the word is longer than the word
  have hle := hpart.length_le
  have hle' := hword.length_le
  have hpos := List.length_pos_iff.mpr hv.ne_nil
  rw [List.length_drop] at hle hle'
  omega

/-- Without a word, everything but the longest part of one is skipped. -/
theorem scans_longestPart (hv : Seeks word skip v) (h : firstAt word b = none) {n : ℕ}
    (hn : n = min b.length (word.length - 1)) :
    Scans v b (List.replicate (b.length - longestPart word b n) skip)
        (b.drop (b.length - longestPart word b n)) ∧
      v (b.drop (b.length - longestPart word b n)) = .wait := by
  obtain ⟨hle, hsuffix, hmax⟩ := longestPart_spec word b n
  generalize longestPart word b n = r at hle hsuffix hmax ⊢
  have hpos := List.length_pos_iff.mpr hv.ne_nil
  constructor
  · refine hv.scans_skipped fun i hi => ⟨firstAt_none h i, fun hpart => ?_⟩
    have hlen : b.length - i ≠ word.length := by
      intro heq
      refine firstAt_none h i ?_
      have hall := List.prefix_iff_eq_take.mp hpart
      rw [List.length_drop, heq, List.take_length] at hall
      exact hall ▸ List.prefix_rfl
    have hlt := hpart.length_le
    rw [List.length_drop] at hlt
    have hno := hmax (b.length - i) (by omega) (take_suffix_of_part hpart)
    omega
  · refine hv.waits (firstAt_none h _) ?_
    have hrest : b.drop (b.length - r) = word.take r := by
      have heq := List.suffix_iff_eq_drop.mp hsuffix
      rw [List.length_take_of_le (by omega)] at heq
      exact heq.symm
    exact hrest ▸ List.take_prefix r word

end Seeks

end Scanner
