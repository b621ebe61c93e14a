import ThingDaq.Lib.Counting

/-!
# Rings of leased buffers

What the consumer side of a ring of DMA buffers computes: a round-robin search
for a free buffer, the choice of the oldest filled one, and the numbering of
leases.  `stamp` is the position of the `k`-th block of a stream whose position
counter is clamped at a machine maximum.

## Main results

* `searchFrom_some`, `searchFrom_none` — the search visits every buffer.
* `oldest_some`, `oldest_none` — the choice has the smallest position.
* `stamp_succ`, `stamp_lt` — positions advance by one block and are strictly
  increasing below the maximum.
-/

namespace Ring

open Table

/-! ### Searching round robin -/

/-- The first index at or after `start`, cyclically, with the property. -/
def searchFrom (n start : ℕ) (P : ℕ → Bool) : Option ℕ :=
  ((List.range n).map fun attempt => (start + attempt) % n).find? P

theorem searchFrom_some {n start i : ℕ} {P : ℕ → Bool} (h : searchFrom n start P = some i) :
    i < n ∧ P i = true := by
  refine ⟨?_, List.find?_some h⟩
  obtain ⟨a, ha, rfl⟩ := List.mem_map.mp (List.mem_of_find?_eq_some h)
  exact Nat.mod_lt _ (by have := List.mem_range.mp ha; omega)

theorem searchFrom_none {n start : ℕ} {P : ℕ → Bool} (h : searchFrom n start P = none) :
    ∀ i < n, P i = false := by
  intro i hi
  -- The attempt that reaches `i` is its cyclic distance from `start`.
  have hreach : (start + (i + (n - start % n)) % n) % n = i := by
    have hlt : start % n < n := Nat.mod_lt _ (by omega)
    rw [Nat.add_mod, Nat.mod_mod, ← Nat.add_mod, Nat.add_mod start, Nat.add_mod_mod,
      show start % n + (i + (n - start % n)) = i + n by omega, Nat.add_mod_right,
      Nat.mod_eq_of_lt hi]
  have hmem : i ∈ (List.range n).map fun attempt => (start + attempt) % n :=
    List.mem_map.mpr ⟨(i + (n - start % n)) % n,
      List.mem_range.mpr (Nat.mod_lt _ (by omega)), hreach⟩
  have := List.find?_eq_none.mp h i hmem
  simpa using this

/-! ### The oldest buffer -/

/-- The index below `n` with the property and the smallest key, keys at the
maximum excluded. -/
def oldest (n max : ℕ) (P : ℕ → Bool) (key : ℕ → ℕ) : Option ℕ :=
  ((List.range n).foldl
    (nearer fun i => if P i && decide (key i < max) then some (key i) else none) none).map Prod.fst

theorem oldest_some {n max i : ℕ} {P : ℕ → Bool} {key : ℕ → ℕ} (h : oldest n max P key = some i) :
    i < n ∧ P i = true ∧ key i < max ∧ ∀ j < n, P j = true → key i ≤ key j := by
  obtain ⟨⟨j, d⟩, hscan, rfl⟩ := Option.map_eq_some_iff.mp h
  obtain ⟨hmem, -, hmin⟩ := foldl_nearer_some _ _ _ _ _ hscan
  rcases hmem with hnone | ⟨hj, hkey⟩
  · cases hnone
  · simp only [Option.ite_none_right_eq_some, Bool.and_eq_true, decide_eq_true_eq,
      Option.some.injEq] at hkey
    obtain ⟨⟨hP, hlt⟩, rfl⟩ := hkey
    refine ⟨List.mem_range.mp hj, hP, hlt, ?_⟩
    intro k hk hPk
    by_cases hkmax : key k < max
    · exact hmin k (List.mem_range.mpr hk) (key k) (by simp [hPk, hkmax])
    · exact le_trans (le_of_lt hlt) (not_lt.mp hkmax)

/-! ### Leases -/

/-- The next lease number and the counter after it; zero is never given out. -/
def allocateLease (next : UInt32) : UInt32 × UInt32 :=
  let first := if next = 0 then (next + 1, next + 1 + 1) else (next, next + 1)
  (first.1, if first.2 = 0 then 1 else first.2)

/-! ### Positions -/

/-- The position of block `k` of `w` items, counted from `first` and clamped. -/
def stamp (max first w k : ℕ) : ℕ := min (first + w * k) max

theorem stamp_succ (max first w k : ℕ) :
    satAdd max (stamp max first w k) w = stamp max first w (k + 1) := by
  unfold satAdd stamp
  have hmul : w * (k + 1) = w * k + w := Nat.mul_succ w k
  split <;> omega

theorem stamp_mono (max first w : ℕ) {k l : ℕ} (h : k ≤ l) :
    stamp max first w k ≤ stamp max first w l := by
  have hmul : w * k ≤ w * l := Nat.mul_le_mul_left w h
  unfold stamp
  omega

/-- Below the maximum a position is exact. -/
theorem stamp_eq {max first w k : ℕ} (h : stamp max first w k < max) :
    stamp max first w k = first + w * k := by
  unfold stamp at h ⊢
  omega

theorem stamp_lt {max first w k l : ℕ} (hw : 0 < w) (h : stamp max first w k < max) (hkl : k < l) :
    stamp max first w k < stamp max first w l := by
  have hexact := stamp_eq h
  have hstep : w * k < w * l := Nat.mul_lt_mul_of_pos_left hkl hw
  unfold stamp at h hexact ⊢
  omega

end Ring
