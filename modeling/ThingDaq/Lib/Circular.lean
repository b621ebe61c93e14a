import Mathlib.Data.List.Basic
import Mathlib.Data.Nat.ModEq
import Mathlib.Logic.Function.Basic

/-!
# Circular arrays

A queue in a fixed array is a window of it: `n` slots counted from a head, the first slot
following the last.  `window` is the list of items in those slots, and the rules say what
a write, a step of the head and a shift of the items do to it.

## Main results

* `window_succ`, `window_head` — a window ends and begins with a slot of the array.
* `window_update_end` — a write behind the window does not change it.
* `window_shiftDown` — moving the items behind an offset one slot down erases the offset.
* `find?_window` — a scan over the slots finds the first item with a property.
-/

namespace Circular

variable {α : Type*} {c : ℕ}

/-- The slot `k` places behind `head`. -/
def slot (head : Fin c) (k : ℕ) : Fin c := ⟨(head + k) % c, Nat.mod_lt _ (Fin.pos head)⟩

@[simp] theorem slot_zero (head : Fin c) : slot head 0 = head := by
  apply Fin.ext
  change (head.val + 0) % c = head.val
  rw [Nat.add_zero, Nat.mod_eq_of_lt head.isLt]

@[simp] theorem slot_slot (head : Fin c) (j k : ℕ) : slot (slot head j) k = slot head (j + k) := by
  apply Fin.ext
  change ((head.val + j) % c + k) % c = (head.val + (j + k)) % c
  rw [Nat.mod_add_mod, Nat.add_assoc]

/-- Once around the array. -/
@[simp] theorem slot_self (head : Fin c) : slot head c = head := by
  apply Fin.ext
  change (head.val + c) % c = head.val
  rw [Nat.add_mod_right, Nat.mod_eq_of_lt head.isLt]

/-- Less than once around the array no slot is met twice. -/
theorem slot_inj {head : Fin c} {j k : ℕ} (hj : j < c) (hk : k < c) (h : slot head j = slot head k) :
    j = k := by
  have hval : (head.val + j) % c = (head.val + k) % c := congrArg Fin.val h
  have hmod : j % c = k % c := Nat.ModEq.add_left_cancel' head.val hval
  rwa [Nat.mod_eq_of_lt hj, Nat.mod_eq_of_lt hk] at hmod

/-- The items in `n` slots from `head` on. -/
def window (f : Fin c → α) (head : Fin c) (n : ℕ) : List α :=
  (List.range n).map fun k => f (slot head k)

variable (f : Fin c → α) (head : Fin c) (n : ℕ)

@[simp] theorem window_zero : window f head 0 = [] := rfl

@[simp] theorem length_window : (window f head n).length = n := by
  rw [window, List.length_map, List.length_range]

@[simp] theorem getElem_window {k : ℕ} (h : k < (window f head n).length) :
    (window f head n)[k] = f (slot head k) := by
  simp only [window, List.getElem_map, List.getElem_range]

theorem getElem?_window (k : ℕ) :
    (window f head n)[k]? = if k < n then some (f (slot head k)) else none := by
  split
  · next h => rw [List.getElem?_eq_getElem (by rwa [length_window]), getElem_window]
  · next h => exact List.getElem?_eq_none (by rw [length_window]; omega)

theorem window_succ : window f head (n + 1) = window f head n ++ [f (slot head n)] := by
  simp only [window, List.range_succ, List.map_append, List.map_cons, List.map_nil]

theorem window_head : window f head (n + 1) = f head :: window f (slot head 1) n := by
  simp only [window, List.range_succ_eq_map, List.map_cons, List.map_map, slot_zero, slot_slot]
  refine congrArg _ (List.map_congr_left fun k _ => ?_)
  simp only [Function.comp, Nat.succ_eq_one_add]

variable {f head n}

/-- Two arrays that agree on the slots of a window agree on the window. -/
theorem window_congr {g : Fin c → α} (h : ∀ k < n, f (slot head k) = g (slot head k)) :
    window f head n = window g head n :=
  List.map_congr_left fun k hk => h k (List.mem_range.mp hk)

theorem window_update_end (h : n < c) (a : α) :
    window (Function.update f (slot head n) a) head n = window f head n :=
  window_congr fun k hk => Function.update_of_ne (fun he => by
    have := slot_inj (by omega) h he
    omega) _ _

/-! ### Shifting -/

/-- Move the items of `m` slots, those behind the offset `start`, one slot down. -/
def shiftDown (head : Fin c) (start m : ℕ) (f : Fin c → α) : Fin c → α :=
  (List.range' start m).foldl
    (fun g offset => Function.update g (slot head offset) (g (slot head (offset + 1)))) f

theorem shiftDown_succ (start m : ℕ) : shiftDown head start (m + 1) f =
    Function.update (shiftDown head start m f) (slot head (start + m))
      (shiftDown head start m f (slot head (start + m + 1))) := by
  unfold shiftDown
  rw [List.range'_1_concat, List.foldl_append]
  rfl

/-- While the loop runs, the slots in front of its offset hold their successors' items and
the others still hold their own. -/
theorem shiftDown_slot {start m k : ℕ} (hm : start + m < c) (hk : k < c) :
    shiftDown head start m f (slot head k) =
      if start ≤ k ∧ k < start + m then f (slot head (k + 1)) else f (slot head k) := by
  induction m generalizing k with
  | zero => exact (if_neg (by omega)).symm
  | succ m ih =>
    rw [shiftDown_succ]
    rcases eq_or_ne k (start + m) with rfl | hne
    · -- the item that is moved has not been overwritten yet
      rw [Function.update_self, ih (by omega) (by omega), if_neg (by omega), if_pos (by omega)]
    · rw [Function.update_of_ne fun he => hne (slot_inj hk (by omega) he), ih (by omega) hk]
      refine if_congr ?_ rfl rfl
      omega

theorem window_shiftDown {start : ℕ} (hstart : start ≤ n) (hn : n < c) :
    window (shiftDown head start (n - start) f) head n = (window f head (n + 1)).eraseIdx start := by
  refine List.ext_getElem ?_ fun k hk _ => ?_
  · rw [List.length_eraseIdx_of_lt (by rw [length_window]; omega), length_window, length_window]
    rfl
  · rw [length_window] at hk
    rw [getElem_window, shiftDown_slot (by omega) (by omega), List.getElem_eraseIdx]
    by_cases hlt : k < start
    · rw [if_neg (by omega), dif_pos hlt, getElem_window]
    · rw [if_pos (by omega), dif_neg hlt, getElem_window]

/-! ### Searching -/

theorem find?_window (p : α → Bool) :
    ((List.range n).find? fun k => p (f (slot head k))) = (window f head n).findIdx? p := by
  have hwindow : (window f head n).findIdx? p =
      (List.range n).findIdx? fun k => p (f (slot head k)) := List.findIdx?_map
  rw [hwindow]
  cases hfind : (List.range n).find? fun k => p (f (slot head k)) with
  | none =>
    refine (List.findIdx?_eq_none_iff.mpr fun k hk => ?_).symm
    simpa using List.find?_eq_none.mp hfind k hk
  | some k =>
    obtain ⟨hp, hmem, hfirst⟩ := List.find?_range_eq_some.mp hfind
    refine (List.findIdx?_eq_some_iff_getElem.mpr ⟨by simpa using hmem, ?_⟩).symm
    simp only [List.getElem_range]
    exact ⟨hp, fun j hj => by simpa using hfirst j hj⟩

end Circular
