import Mathlib.Data.List.Basic
import Mathlib.Data.List.Nodup
import Mathlib.Algebra.BigOperators.Group.Finset.Basic
import Mathlib.Data.Fintype.Basic
import Mathlib.Order.Defs.LinearOrder

/-!
# Counting over a table, saturating counters, bounded queues

Four small theories that a table of owned slots needs.

* `countTo n P` counts the indices below `n` with a decidable property; an update
  of the table at one index changes it by at most one (`countTo_update`).
* `satAdd` is addition clamped at a machine maximum.
* `push` and `eraseFirst` are the operations of a queue with a capacity.
* `nearer` is one step of a scan for the slot with the smallest key.
-/

namespace Table

/-! ### Counting -/

/-- How many indices below `n` have the property. -/
def countTo (n : ℕ) (P : ℕ → Bool) : ℕ := (List.range n).countP P

theorem countTo_eq_zero {n : ℕ} {P : ℕ → Bool} :
    countTo n P = 0 ↔ ∀ i, i < n → P i = false := by
  simp [countTo, List.countP_eq_zero]

theorem countTo_congr {n : ℕ} {P Q : ℕ → Bool} (h : ∀ i, i < n → P i = Q i) :
    countTo n P = countTo n Q := by
  refine List.countP_congr fun i hi => ?_
  rw [h i (List.mem_range.mp hi)]

theorem countTo_succ (n : ℕ) (P : ℕ → Bool) :
    countTo (n + 1) P = countTo n P + if P n then 1 else 0 := by
  unfold countTo
  rw [List.range_succ, List.countP_append, List.countP_singleton]

/-- Changing the property at one index below `n` moves the count by the
difference at that index. -/
theorem countTo_update {n i : ℕ} {P Q : ℕ → Bool} (hi : i < n)
    (h : ∀ j, j < n → j ≠ i → P j = Q j) :
    countTo n P + (if Q i then 1 else 0) = countTo n Q + (if P i then 1 else 0) := by
  induction n with
  | zero => omega
  | succ n ih =>
    rw [countTo_succ, countTo_succ]
    rcases Nat.lt_or_ge i n with hin | hin
    · have hn := h n (by omega) (by omega)
      have := ih hin fun j hj hne => h j (by omega) hne
      rw [hn]
      omega
    · have hni : i = n := by omega
      subst hni
      have hlow : countTo i P = countTo i Q :=
        countTo_congr fun j hj => h j (by omega) (by omega)
      omega

theorem countTo_add (m n : ℕ) (P : ℕ → Bool) :
    countTo (m + n) P = countTo m P + countTo n fun i => P (m + i) := by
  induction n with
  | zero => rfl
  | succ n ih =>
    rw [← Nat.add_assoc, countTo_succ, countTo_succ, ih, Nat.add_assoc]

theorem countTo_const (n : ℕ) (b : Bool) : (countTo n fun _ => b) = if b then n else 0 := by
  unfold countTo
  cases b <;> simp

/-- A property of the blocks that `t` indices behind the last block have, or none of them. -/
theorem countTo_blocks {α : Type*} (l : List α) {n : ℕ} (hn : 0 < n) (t : ℕ)
    (P : Option α → Bool) : (countTo (l.length * n + t) fun i => P l[i / n]?) =
      (l.countP fun a => P (some a)) * n + if P none then t else 0 := by
  induction l with
  | nil =>
    rw [List.length_nil, Nat.zero_mul, Nat.zero_add]
    exact (countTo_const t (P none)).trans (by simp)
  | cons a l ih =>
    have hfirst : (countTo n fun i => P (a :: l)[i / n]?) = if P (some a) then n else 0 := by
      rw [← countTo_const n (P (some a))]
      exact countTo_congr fun i hi => by rw [Nat.div_eq_of_lt hi]; rfl
    have hrest : (countTo (l.length * n + t) fun i => P (a :: l)[(n + i) / n]?) =
        countTo (l.length * n + t) fun i => P l[i / n]? :=
      countTo_congr fun i _ => by rw [Nat.add_div_left _ hn, List.getElem?_cons_succ]
    rw [List.length_cons, show (l.length + 1) * n + t = n + (l.length * n + t) by
      rw [Nat.add_mul, Nat.one_mul]; omega, countTo_add, hfirst, hrest, ih, List.countP_cons]
    cases P (some a)
    · simp
    · simp only [if_true, Nat.add_mul, Nat.one_mul]
      omega

/-! ### Saturating counters -/

/-- Addition clamped at `max`. -/
def satAdd (max v a : ℕ) : ℕ := if max - v < a then max else v + a

/-- A clamped sum that stays below the maximum is the sum. -/
theorem satAdd_eq {max v a : ℕ} (h : satAdd max v a < max) : satAdd max v a = v + a := by
  unfold satAdd at h ⊢
  split at h
  · omega
  · rw [if_neg ‹_›]

/-- Until the captured count reaches its maximum it is the lost count plus `w`
for each completed block. -/
def Balanced (max w captured lost completed : ℕ) : Prop :=
  captured < max → captured = lost + w * completed

theorem Balanced.lose {max w captured lost completed : ℕ}
    (h : Balanced max w captured lost completed) (a : ℕ) :
    Balanced max w (satAdd max captured a) (satAdd max lost a) completed := by
  intro hlt
  have hsum := satAdd_eq hlt
  have hold := h (by omega)
  rw [hsum] at hlt ⊢
  unfold satAdd
  rw [if_neg (by omega)]
  omega

theorem Balanced.complete {max w captured lost completed : ℕ} (hw : 0 < w)
    (h : Balanced max w captured lost completed) :
    Balanced max w (satAdd max captured w) lost (satAdd max completed 1) := by
  intro hlt
  have hsum := satAdd_eq hlt
  have hold := h (by omega)
  -- Every completed block holds at least one item, so their count lags behind.
  have hle : completed ≤ w * completed := Nat.le_mul_of_pos_left _ hw
  rw [hsum] at hlt ⊢
  unfold satAdd
  rw [if_neg (by omega), Nat.mul_succ]
  omega

/-- Multiplication clamped at `max`. -/
def satMul (max a b : ℕ) : ℕ := if a = 0 ∨ b = 0 then 0 else if max / b < a then max else a * b

theorem satMul_eq {max a b : ℕ} (h : satMul max a b < max) : satMul max a b = a * b := by
  unfold satMul at h ⊢
  split at h
  · next h0 => rw [if_pos h0]; rcases h0 with rfl | rfl <;> simp
  · next h0 =>
    rw [if_neg h0]
    split at h
    · omega
    · rw [if_neg ‹_›]

/-! ### Bounded queues -/

/-- Append to a queue of capacity `cap`, unless it is full. -/
def push {α : Type*} (cap : ℕ) (q : List α) (x : α) : Option (List α) :=
  if q.length = cap then none else some (q ++ [x])

/-- Remove the first occurrence, if there is one. -/
def eraseFirst {α : Type*} [DecidableEq α] (q : List α) (x : α) : Option (List α) :=
  if x ∈ q then some (q.erase x) else none

theorem push_eq_some {α : Type*} {cap : ℕ} {q : List α} {x : α} (h : q.length < cap) :
    push cap q x = some (q ++ [x]) := if_neg (by omega)

theorem eraseFirst_eq_some {α : Type*} [DecidableEq α] {q : List α} {x : α} (h : x ∈ q) :
    eraseFirst q x = some (q.erase x) := if_pos h

/-- A queue without repeats over a table of `n` slots cannot hold more than `n`. -/
theorem length_le_of_nodup {n : ℕ} {l : List ℕ} (hnd : l.Nodup) (h : ∀ i ∈ l, i < n) :
    l.length ≤ n := by
  have hsub : l ⊆ List.range n := fun i hi => List.mem_range.mpr (h i hi)
  have := (hnd.subperm hsub).length_le
  simpa using this

/-- With a slot of the table missing, the queue is strictly shorter. -/
theorem length_lt_of_nodup {n k : ℕ} {l : List ℕ} (hnd : l.Nodup) (h : ∀ i ∈ l, i < n)
    (hk : k < n) (hkl : k ∉ l) : l.length < n := by
  have hcons : (k :: l).Nodup := List.nodup_cons.mpr ⟨hkl, hnd⟩
  have hall : ∀ i ∈ k :: l, i < n := by
    intro i hi
    rcases List.mem_cons.mp hi with rfl | hi
    · exact hk
    · exact h i hi
  have := length_le_of_nodup hcons hall
  simp only [List.length_cons] at this
  omega

/-! ### Scanning for the smallest key -/

section Scan

variable {α : Type*} [LinearOrder α] (key : ℕ → Option α)

/-- Keep the better of the best slot so far and slot `j`, when `j` has a key. -/
def nearer (best : Option (ℕ × α)) (j : ℕ) : Option (ℕ × α) :=
  match key j, best with
  | none, _ => best
  | some d, none => some (j, d)
  | some d, some (k, e) => if d < e then some (j, d) else some (k, e)

/-- The scan from `best` over `l` ends with the smallest key among them. -/
theorem foldl_nearer_some (l : List ℕ) : ∀ (best : Option (ℕ × α)) (j : ℕ) (d : α),
    l.foldl (nearer key) best = some (j, d) →
      (best = some (j, d) ∨ (j ∈ l ∧ key j = some d)) ∧
        (∀ k e, best = some (k, e) → d ≤ e) ∧ ∀ k ∈ l, ∀ e, key k = some e → d ≤ e := by
  induction l with
  | nil =>
    intro best j d h
    refine ⟨Or.inl h, ?_, by simp⟩
    intro k e hb
    rw [List.foldl_nil, hb] at h
    cases h
    exact le_rfl
  | cons x l ih =>
    intro best j d h
    obtain ⟨hmem, hbest, hl⟩ := ih (nearer key best x) j d h
    unfold nearer at hmem hbest
    cases hx : key x with
    | none =>
      simp only [hx] at hmem hbest
      refine ⟨hmem.imp id fun h => ⟨List.mem_cons_of_mem _ h.1, h.2⟩, hbest, ?_⟩
      intro k hk e he
      rcases List.mem_cons.mp hk with rfl | hk
      · rw [hx] at he; cases he
      · exact hl k hk e he
    | some a =>
      simp only [hx] at hmem hbest
      have hxa : d ≤ a := by
        cases best with
        | none => exact hbest x a rfl
        | some q =>
          obtain ⟨k, e⟩ := q
          simp only at hbest
          split at hbest
          · exact hbest x a rfl
          · next hlt => exact le_trans (hbest k e rfl) (not_lt.mp hlt)
      refine ⟨?_, ?_, ?_⟩
      · rcases hmem with hm | ⟨hj, hd⟩
        · cases best with
          | none =>
            cases hm
            exact Or.inr ⟨List.mem_cons_self, hx⟩
          | some q =>
            simp only at hm
            split at hm
            · cases hm
              exact Or.inr ⟨List.mem_cons_self, hx⟩
            · exact Or.inl hm
        · exact Or.inr ⟨List.mem_cons_of_mem _ hj, hd⟩
      · intro k e hb
        subst hb
        simp only at hbest
        split at hbest
        · next hlt => exact le_trans hxa (le_of_lt hlt)
        · exact hbest k e rfl
      · intro k hk e he
        rcases List.mem_cons.mp hk with rfl | hk
        · rw [hx] at he
          cases he
          exact hxa
        · exact hl k hk e he

/-- The scan finds nothing when no slot has a key. -/
theorem foldl_nearer_none (l : List ℕ) : ∀ best : Option (ℕ × α),
    l.foldl (nearer key) best = none → best = none ∧ ∀ k ∈ l, key k = none := by
  induction l with
  | nil => intro best h; exact ⟨h, by simp⟩
  | cons x l ih =>
    intro best h
    obtain ⟨hbest, hl⟩ := ih (nearer key best x) h
    unfold nearer at hbest
    cases hx : key x with
    | none =>
      simp only [hx] at hbest
      refine ⟨hbest, ?_⟩
      intro k hk
      rcases List.mem_cons.mp hk with rfl | hk
      · exact hx
      · exact hl k hk
    | some a =>
      simp only [hx] at hbest
      cases best with
      | none => cases hbest
      | some q =>
        simp only at hbest
        split at hbest <;> cases hbest

end Scan

end Table
