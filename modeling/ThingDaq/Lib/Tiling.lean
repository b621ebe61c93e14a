import Mathlib.Order.Basic
import Mathlib.Data.List.Basic

/-!
# Tilings of an interval

A list of items, some of which cover a range of the natural numbers, tiles
`[lo, hi)` when the ranges follow one another without a gap and without an
overlap.  `Announces` says that certain items are followed at once by another.
-/

namespace Tiling

variable {α : Type} {span : α → Option (ℕ × ℕ)} {P : α → Prop} {R : α → α → Prop}

/-- The items cover `[lo, hi)` one after the other.  `span x` is the start and
the width of what `x` covers, if it covers anything. -/
def Tiles (span : α → Option (ℕ × ℕ)) : ℕ → List α → ℕ → Prop
  | lo, [], hi => lo = hi
  | lo, x :: xs, hi =>
    match span x with
    | none => Tiles span lo xs hi
    | some (start, width) => start = lo ∧ Tiles span (lo + width) xs hi

theorem Tiles.append {lo mid hi : ℕ} {xs ys : List α} (h : Tiles span lo xs mid)
    (h' : Tiles span mid ys hi) : Tiles span lo (xs ++ ys) hi := by
  induction xs generalizing lo with
  | nil =>
    simp only [Tiles] at h
    subst h
    exact h'
  | cons x xs ih =>
    simp only [List.cons_append, Tiles] at h ⊢
    cases hs : span x with
    | none =>
      rw [hs] at h
      exact ih h
    | some p =>
      rw [hs] at h
      exact ⟨h.1, ih h.2⟩

/-- Items that cover nothing. -/
theorem tiles_silent {xs : List α} (h : ∀ x ∈ xs, span x = none) (lo : ℕ) :
    Tiles span lo xs lo := by
  induction xs with
  | nil => rfl
  | cons x xs ih =>
    simp only [Tiles, h x List.mem_cons_self]
    exact ih fun y hy => h y (List.mem_cons_of_mem x hy)

theorem tiles_single {x : α} {lo width : ℕ} (h : span x = some (lo, width)) :
    Tiles span lo [x] (lo + width) := by
  simp [Tiles, h]

/-- Every item with `P` is followed at once by one that it announces. -/
def Announces (P : α → Prop) (R : α → α → Prop) : List α → Prop
  | [] => True
  | x :: xs => (P x → ∃ y ∈ xs.head?, R x y) ∧ Announces P R xs

theorem Announces.append {xs ys : List α} (h : Announces P R xs) (h' : Announces P R ys) :
    Announces P R (xs ++ ys) := by
  induction xs with
  | nil => exact h'
  | cons x xs ih =>
    refine ⟨fun hx => ?_, ih h.2⟩
    obtain ⟨y, hy, hr⟩ := h.1 hx
    refine ⟨y, ?_, hr⟩
    cases xs with
    | nil => cases hy
    | cons z zs => exact hy

theorem announces_silent {xs : List α} (h : ∀ x ∈ xs, ¬P x) : Announces P R xs := by
  induction xs with
  | nil => exact True.intro
  | cons x xs ih =>
    exact ⟨fun hx => absurd hx (h x List.mem_cons_self),
      ih fun y hy => h y (List.mem_cons_of_mem x hy)⟩

end Tiling
