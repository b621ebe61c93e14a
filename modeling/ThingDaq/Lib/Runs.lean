import Mathlib.Data.List.Basic
import Mathlib.Algebra.GroupWithZero.Nat
import Mathlib.Data.List.Chain

/-!
# Maximal runs

Run-length coding of a list: `runs` cuts it into maximal runs of equal items and
`expand` puts it together again.  `emit` is the left-to-right form that an
encoder loop computes, holding the current item and how often it was seen.

## Main results

* `expand_runs` — the round trip.
* `runs_pos`, `runs_ne`, `sum_runs` — the runs are nonempty, neighbouring runs
  differ, and their lengths add up.
* `emit_eq_runs` — the loop computes the maximal runs.
* `runs_expand` — nonempty runs whose neighbours differ are the runs of what they expand to.
-/

namespace RunLength

variable {α : Type*} [DecidableEq α]

/-- Put an item in front of a list of runs. -/
def consRun (x : α) : List (ℕ × α) → List (ℕ × α)
  | [] => [(1, x)]
  | (n, y) :: rest => if x = y then (n + 1, y) :: rest else (1, x) :: (n, y) :: rest

/-- The maximal runs of a list, each with its length. -/
def runs : List α → List (ℕ × α)
  | [] => []
  | x :: l => consRun x (runs l)

/-- The list with the given runs. -/
def expand (r : List (ℕ × α)) : List α := r.flatMap fun p => List.replicate p.1 p.2

/-- The encoder loop: the current item has been seen `n` times. -/
def emit (cur : α) (n : ℕ) : List α → List (ℕ × α)
  | [] => [(n, cur)]
  | x :: l => if x = cur then emit cur (n + 1) l else (n, cur) :: emit x 1 l

omit [DecidableEq α] in
@[simp] theorem expand_nil : expand ([] : List (ℕ × α)) = [] := rfl

omit [DecidableEq α] in
@[simp] theorem expand_cons (p : ℕ × α) (r : List (ℕ × α)) :
    expand (p :: r) = List.replicate p.1 p.2 ++ expand r := rfl

theorem consRun_cons (x y : α) (n : ℕ) (r : List (ℕ × α)) :
    consRun x ((n, y) :: r) = if x = y then (n + 1, y) :: r else (1, x) :: (n, y) :: r := rfl

theorem expand_consRun (x : α) (r : List (ℕ × α)) : expand (consRun x r) = x :: expand r := by
  cases r with
  | nil => rfl
  | cons p r =>
    obtain ⟨n, y⟩ := p
    rw [consRun_cons]
    split
    · next h => subst h; simp [List.replicate_succ]
    · rfl

theorem expand_runs (l : List α) : expand (runs l) = l := by
  induction l with
  | nil => rfl
  | cons x l ih => rw [runs, expand_consRun, ih]

theorem runs_ne_nil {l : List α} (h : l ≠ []) : runs l ≠ [] := by
  intro h0
  have := expand_runs l
  rw [h0] at this
  exact h this.symm

theorem runs_pos (l : List α) : ∀ p ∈ runs l, 0 < p.1 := by
  induction l with
  | nil => intro p hp; simp [runs] at hp
  | cons x l ih =>
    intro p hp
    rw [runs] at hp
    cases hr : runs l with
    | nil => rw [hr] at hp; simp [consRun] at hp; simp [hp]
    | cons q r =>
      obtain ⟨n, y⟩ := q
      rw [hr] at hp ih
      rw [consRun_cons] at hp
      split at hp
      · rcases List.mem_cons.mp hp with rfl | hp
        · exact Nat.succ_pos n
        · exact ih p (List.mem_cons_of_mem _ hp)
      · rcases List.mem_cons.mp hp with rfl | hp
        · exact Nat.one_pos
        · exact ih p hp

/-- Neighbouring runs differ. -/
theorem runs_ne (l : List α) : (runs l).IsChain fun p q => p.2 ≠ q.2 := by
  induction l with
  | nil => exact List.IsChain.nil
  | cons x l ih =>
    rw [runs]
    cases hr : runs l with
    | nil => exact List.IsChain.singleton _
    | cons q r =>
      obtain ⟨n, y⟩ := q
      rw [hr] at ih
      rw [consRun_cons]
      split
      · cases r with
        | nil => exact List.IsChain.singleton _
        | cons q' r =>
          rw [List.isChain_cons_cons] at ih ⊢
          exact ih
      · next h => exact List.isChain_cons_cons.mpr ⟨h, ih⟩

/-- The run lengths add up to the length of the list. -/
theorem sum_runs (l : List α) : ((runs l).map Prod.fst).sum = l.length := by
  have h := congrArg List.length (expand_runs l)
  rw [← h]
  simp [expand, List.length_flatMap]

theorem length_runs_le (l : List α) : (runs l).length ≤ l.length := by
  induction l with
  | nil => simp [runs]
  | cons x l ih =>
    rw [runs]
    cases hr : runs l with
    | nil => simp [consRun]
    | cons q r =>
      obtain ⟨n, y⟩ := q
      rw [hr] at ih
      rw [consRun_cons]
      split
      · simp at ih ⊢; omega
      · simpa using ih

theorem runs_replicate_append {cur : α} {l : List α} {n : ℕ} (hn : 0 < n) :
    runs (List.replicate n cur ++ l) = match runs l with
      | (m, y) :: rest => if cur = y then (n + m, y) :: rest else (n, cur) :: (m, y) :: rest
      | [] => [(n, cur)] := by
  induction n with
  | zero => omega
  | succ n ih =>
    rw [List.replicate_succ, List.cons_append, runs]
    rcases Nat.eq_zero_or_pos n with rfl | hpos
    · simp only [List.replicate_zero, List.nil_append]
      cases hr : runs l with
      | nil => rfl
      | cons q r =>
        obtain ⟨m, y⟩ := q
        simp only [consRun]
        split
        · next h => subst h; rw [Nat.add_comm]
        · rfl
    · rw [ih hpos]
      cases hr : runs l with
      | nil => simp [consRun]
      | cons q r =>
        obtain ⟨m, y⟩ := q
        simp only
        split
        · next h => subst h; simp [consRun]; omega
        · simp [consRun]

/-- The loop computes the maximal runs. -/
theorem emit_eq_runs (l : List α) : ∀ (cur : α) (n : ℕ), 0 < n →
    emit cur n l = runs (List.replicate n cur ++ l) := by
  induction l with
  | nil =>
    intro cur n hn
    rw [runs_replicate_append hn]
    rfl
  | cons x l ih =>
    intro cur n hn
    rw [emit]
    split
    · next h =>
      subst h
      rw [ih x (n + 1) (Nat.succ_pos n), List.replicate_succ']
      simp
    · next h =>
      have hne : ¬cur = x := fun he => h he.symm
      rw [ih x 1 Nat.one_pos, runs_replicate_append hn]
      have hhead : ∃ m rest, runs (x :: l) = (m, x) :: rest := by
        rw [runs]
        cases runs l with
        | nil => exact ⟨1, [], rfl⟩
        | cons q r =>
          obtain ⟨m, y⟩ := q
          rw [consRun_cons]
          split
          · next h => subst h; exact ⟨_, _, rfl⟩
          · exact ⟨1, _, rfl⟩
      obtain ⟨m, rest, hm⟩ := hhead
      simp [hm, hne]

/-- How many runs an item in front adds. -/
theorem length_runs_cons_cons (x y : α) (l : List α) :
    (runs (x :: y :: l)).length = (runs (y :: l)).length + if x = y then 0 else 1 := by
  have hhead : ∃ m rest, runs (y :: l) = (m, y) :: rest := by
    rw [runs]
    cases runs l with
    | nil => exact ⟨1, [], rfl⟩
    | cons q r =>
      obtain ⟨m, z⟩ := q
      rw [consRun_cons]
      split
      · next h => subst h; exact ⟨_, _, rfl⟩
      · exact ⟨1, _, rfl⟩
  obtain ⟨m, rest, hm⟩ := hhead
  rw [runs, hm]
  rw [consRun_cons]
  split <;> simp

/-- Nonempty runs whose neighbours differ are maximal. -/
theorem runs_expand (r : List (ℕ × α)) (hpos : ∀ p ∈ r, 0 < p.1)
    (hne : r.IsChain fun p q => p.2 ≠ q.2) : runs (expand r) = r := by
  induction r with
  | nil => rfl
  | cons p r ih =>
    have hrest := ih (fun q hq => hpos q (List.mem_cons_of_mem p hq)) hne.tail
    rw [expand_cons, runs_replicate_append (hpos p List.mem_cons_self), hrest]
    cases r with
    | nil => rfl
    | cons q r => exact if_neg (List.isChain_cons_cons.mp hne).1

/-- Renaming the items renames the runs, as long as different items keep different names. -/
theorem runs_map {β : Type*} [DecidableEq β] (f : α → β) (l : List α)
    (hf : ∀ x ∈ l, ∀ y ∈ l, f x = f y → x = y) :
    runs (l.map f) = (runs l).map fun p => (p.1, f p.2) := by
  induction l with
  | nil => rfl
  | cons x l ih =>
    have hrest := ih fun y hy z hz => hf y (List.mem_cons_of_mem x hy) z (List.mem_cons_of_mem x hz)
    rw [List.map_cons, runs, hrest, runs]
    cases hr : runs l with
    | nil => rfl
    | cons q r =>
      obtain ⟨n, y⟩ := q
      have hy : y ∈ l := by
        rw [← expand_runs l, hr, expand_cons]
        have hn : 0 < n := runs_pos l (n, y) (by rw [hr]; exact List.mem_cons_self)
        exact List.mem_append_left _ (List.mem_replicate.mpr ⟨by omega, rfl⟩)
      rw [List.map_cons, consRun_cons, consRun_cons]
      by_cases hxy : x = y
      · subst hxy
        rw [if_pos rfl, if_pos rfl]
        rfl
      · rw [if_neg hxy, if_neg fun h =>
          hxy (hf x List.mem_cons_self y (List.mem_cons_of_mem x hy) h)]
        rfl

end RunLength
