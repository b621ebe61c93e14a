import Mathlib.Data.Nat.Periodic
import Mathlib.Data.List.Basic

/-!
# Windows of a sequence of items

A stream of items of one width is cut into payloads: `items g s n` holds the items
`g s, …, g (s + n - 1)` one after another.  When `g` is periodic, every payload can be cut from
one period of it.

## Main results

* `take_items`, `drop_items` — where an item begins.
* `items_mod` — only the phase of the first item matters.
* `flatten_replicate_items` — whole periods one after another.
* `items_eq_iff` — two payloads are equal when their items are.
-/

namespace Window

variable {α : Type*}

/-- The items of a sequence from `s` on. -/
def items (g : ℕ → List α) (s n : ℕ) : List α := (List.range n).flatMap fun i => g (s + i)

@[simp] theorem items_zero (g : ℕ → List α) (s : ℕ) : items g s 0 = [] := rfl

theorem items_add (g : ℕ → List α) (s a b : ℕ) :
    items g s (a + b) = items g s a ++ items g (s + a) b := by
  unfold items
  rw [List.range_add, List.flatMap_append, List.flatMap_map]
  congr 1
  apply List.flatMap_congr
  intro i _
  rw [Nat.add_assoc]

theorem items_succ (g : ℕ → List α) (s n : ℕ) : items g s (n + 1) = items g s n ++ g (s + n) := by
  rw [items_add]
  congr 1
  simp [items]

theorem items_congr {g g' : ℕ → List α} {s s' n : ℕ} (h : ∀ i < n, g (s + i) = g' (s' + i)) :
    items g s n = items g' s' n := by
  unfold items
  apply List.flatMap_congr
  intro i hi
  exact h i (List.mem_range.mp hi)

section Width

variable {g : ℕ → List α} {w : ℕ} (hw : ∀ i, (g i).length = w)

include hw

theorem length_items (s n : ℕ) : (items g s n).length = n * w := by
  induction n with
  | zero => simp
  | succ n ih => rw [items_succ, List.length_append, ih, hw, Nat.succ_mul]

theorem take_items {k n : ℕ} (s : ℕ) (h : k ≤ n) : (items g s n).take (k * w) = items g s k := by
  obtain ⟨m, rfl⟩ := Nat.exists_eq_add_of_le h
  rw [items_add, ← length_items hw s k, List.take_left]

theorem drop_items {k n : ℕ} (s : ℕ) (h : k ≤ n) :
    (items g s n).drop (k * w) = items g (s + k) (n - k) := by
  obtain ⟨m, rfl⟩ := Nat.exists_eq_add_of_le h
  rw [items_add, ← length_items hw s k, List.drop_left, Nat.add_sub_cancel_left]

/-- A payload is right when its first items and the rest are. -/
theorem eq_items_add_iff {l : List α} {a b : ℕ} (h : l.length = (a + b) * w) (s : ℕ) :
    l = items g s (a + b) ↔ l.take (a * w) = items g s a ∧ l.drop (a * w) = items g (s + a) b := by
  have hlen : (l.take (a * w)).length = (items g s a).length := by
    rw [length_items hw, List.length_take, h, Nat.add_mul]
    exact Nat.min_eq_left (Nat.le_add_right _ _)
  rw [items_add]
  nth_rewrite 1 [← List.take_append_drop (a * w) l]
  exact ⟨fun heq => List.append_inj heq hlen, fun heq => congrArg₂ _ heq.1 heq.2⟩

/-- Payloads that agree agree item by item. -/
theorem items_eq_iff {g' : ℕ → List α} (hw' : ∀ i, (g' i).length = w) (s s' : ℕ) {n : ℕ} :
    items g s n = items g' s' n ↔ ∀ i < n, g (s + i) = g' (s' + i) := by
  refine ⟨?_, items_congr⟩
  induction n with
  | zero => exact fun _ i hi => absurd hi (Nat.not_lt_zero i)
  | succ n ih =>
    intro h i hi
    rw [items_succ, items_succ] at h
    have hlen : (items g s n).length = (items g' s' n).length := by
      rw [length_items hw, length_items hw']
    obtain ⟨hfirst, hlast⟩ := List.append_inj h hlen
    rcases Nat.lt_succ_iff_lt_or_eq.mp hi with hlt | rfl
    · exact ih hfirst i hlt
    · exact hlast

end Width

section Periodic

variable {g : ℕ → List α} {P : ℕ} (hper : Function.Periodic g P)

include hper

theorem items_mod (s n : ℕ) : items g (s % P) n = items g s n := by
  apply items_congr
  intro i _
  rw [← hper.map_mod_nat (s % P + i), ← hper.map_mod_nat (s + i), Nat.mod_add_mod]

/-- So many periods. -/
theorem flatten_replicate_items (r : ℕ) :
    (List.replicate r (items g 0 P)).flatten = items g 0 (r * P) := by
  induction r with
  | zero => simp
  | succ r ih =>
    rw [List.replicate_succ', List.flatten_append, ih, Nat.succ_mul, items_add, ← items_mod hper (0 + r * P),
      Nat.zero_add, Nat.mul_mod_left]
    simp

end Periodic

end Window
