import ThingDaq.Lib.Circular
import ThingDaq.Lib.Counting

/-!
# The bounded queue

`FixedQueue` (`firmware/src/usb_transport.h`) holds the ready and transmit queues of the
packet pipeline, the command and response queues of the transport and the packed frames of
the batch packer: an array with a head, a tail and a size.  The other modules use a list in
its place.

A `FixedQueue` carries the relation between its indices, so every operation proves that it
keeps them.  Two indices are below `capacity` and are reduced after their sum, which an
array of `capacity` items leaves room for in `std::size_t`.

## Main results

* `push_table`, `eraseFirst_table` — the list operations of the pipeline are those of the
  queue.
* `step_refines` — every operation gives what it gives on a bounded list.
* `fixed_queue_refines` — so does every sequence of operations.
-/

namespace ThingDaq

open Circular

structure FixedQueue (α : Type*) (capacity : ℕ) where
  storage : Fin capacity → α
  head : Fin capacity
  tail : Fin capacity
  size : ℕ
  size_le : size ≤ capacity
  /-- The tail is the slot behind the last item. -/
  tail_eq : tail = slot head size

namespace FixedQueue

variable {α : Type*} {capacity : ℕ}

/-- The queue as it is constructed, its items value-initialized. -/
def initial (h : 0 < capacity) (zero : α) : FixedQueue α capacity where
  storage := fun _ => zero
  head := ⟨0, h⟩
  tail := ⟨0, h⟩
  size := 0
  size_le := Nat.zero_le _
  tail_eq := (slot_zero _).symm

variable (q : FixedQueue α capacity)

def empty : Bool := q.size = 0

def full : Bool := q.size = capacity

theorem not_full (h : ¬ q.full) : q.size < capacity := by
  have hle := q.size_le
  simp only [full, decide_eq_true_eq] at h
  omega

theorem not_empty (h : ¬ q.empty) : 0 < q.size := by
  simp only [empty, decide_eq_true_eq] at h
  omega

def push (item : α) : FixedQueue α capacity × Bool :=
  if h : q.full then (q, false)
  else
    ({ storage := Function.update q.storage q.tail item
       head := q.head
       tail := slot q.tail 1
       size := q.size + 1
       size_le := q.not_full h
       tail_eq := by rw [q.tail_eq, slot_slot] }, true)

def popFront : FixedQueue α capacity × Bool :=
  if h : q.empty then (q, false)
  else
    ({ storage := q.storage
       head := slot q.head 1
       tail := q.tail
       size := q.size - 1
       size_le := (Nat.sub_le _ _).trans q.size_le
       tail_eq := by rw [q.tail_eq, slot_slot, Nat.add_sub_cancel' (q.not_empty h)] }, true)

def pop : FixedQueue α capacity × Option α :=
  if q.empty then (q, none) else (q.popFront.1, some (q.storage q.head))

def front : Option α := if q.empty then none else some (q.storage q.head)

/-- `at(offset)` -/
def atOffset (offset : ℕ) : Option α :=
  if offset < q.size then some (q.storage (slot q.head offset)) else none

/-- The first offset that holds the item. -/
def findFirst [BEq α] (item : α) : Option ℕ :=
  (List.range q.size).find? fun offset => q.storage (slot q.head offset) == item

theorem findFirst_lt [BEq α] {item : α} {found : ℕ} (h : q.findFirst item = some found) :
    found < q.size := List.mem_range.mp (List.mem_of_find?_eq_some h)

/-- One slot back: the index goes up by `capacity - 1`. -/
theorem tail_back (h : 0 < q.size) : slot q.tail (capacity - 1) = slot q.head (q.size - 1) := by
  have hsum : q.size + (capacity - 1) = q.size - 1 + capacity := by
    have hle := q.size_le
    omega
  rw [q.tail_eq, slot_slot, hsum, ← slot_slot, slot_self]

def eraseFirst [BEq α] (item : α) : FixedQueue α capacity × Bool :=
  match h : q.findFirst item with
  | none => (q, false)
  | some found =>
    ({ storage := shiftDown q.head found (q.size - 1 - found) q.storage
       head := q.head
       tail := slot q.tail (capacity - 1)
       size := q.size - 1
       size_le := (Nat.sub_le _ _).trans q.size_le
       tail_eq := q.tail_back (Nat.zero_lt_of_lt (q.findFirst_lt h)) }, true)

def clear : FixedQueue α capacity where
  storage := q.storage
  head := ⟨0, Fin.pos q.head⟩
  tail := ⟨0, Fin.pos q.head⟩
  size := 0
  size_le := Nat.zero_le _
  tail_eq := (slot_zero _).symm

/-! ### The items of a queue -/

/-- What the queue holds, oldest first. -/
def contents : List α := window q.storage q.head q.size

@[simp] theorem length_contents : q.contents.length = q.size := length_window ..

@[simp] theorem contents_initial (h : 0 < capacity) (zero : α) :
    (initial h zero).contents = [] := rfl

@[simp] theorem contents_clear : q.clear.contents = [] := rfl

/-- A push writes the slot behind the last item. -/
theorem contents_push (h : ¬ q.full) (item : α) :
    (q.push item).1.contents = q.contents ++ [item] := by
  rw [push, dif_neg h]
  change window (Function.update q.storage q.tail item) q.head (q.size + 1) = _
  rw [window_succ, q.tail_eq, window_update_end (q.not_full h), Function.update_self]
  rfl

theorem contents_eq_cons (h : ¬ q.empty) :
    q.contents = q.storage q.head :: q.popFront.1.contents := by
  rw [popFront, dif_neg h]
  change window q.storage q.head q.size = _ :: window q.storage (slot q.head 1) (q.size - 1)
  rw [← window_head, Nat.sub_add_cancel (q.not_empty h)]

theorem contents_eq_nil (h : q.empty = true) : q.contents = [] := by
  rw [← List.length_eq_zero_iff, length_contents]
  simpa [empty] using h

theorem contents_popFront : q.popFront.1.contents = q.contents.tail := by
  by_cases h : q.empty
  · rw [popFront, dif_pos h, q.contents_eq_nil h, List.tail_nil]
  · rw [q.contents_eq_cons h, List.tail_cons]

theorem popFront_done : q.popFront.2 = !q.contents.isEmpty := by
  by_cases h : q.empty
  · rw [popFront, dif_pos h, q.contents_eq_nil h]
    rfl
  · rw [q.contents_eq_cons h, popFront, dif_neg h]
    rfl

theorem pop_eq : q.pop = (q.popFront.1, q.front) := by
  unfold pop front
  split
  · next h => rw [popFront, dif_pos h]
  · rfl

theorem front_eq : q.front = q.contents.head? := by
  unfold front
  by_cases h : q.empty
  · rw [if_pos h, q.contents_eq_nil h, List.head?_nil]
  · rw [if_neg h, q.contents_eq_cons h, List.head?_cons]

theorem atOffset_eq (offset : ℕ) : q.atOffset offset = q.contents[offset]? := by
  rw [contents, getElem?_window]
  rfl

theorem findFirst_eq [BEq α] (item : α) :
    q.findFirst item = q.contents.findIdx? (· == item) := find?_window (· == item)

/-- The shift closes the gap, and the last slot is given up. -/
theorem contents_eraseFirst [BEq α] (item : α) :
    (q.eraseFirst item).1.contents = q.contents.erase item := by
  rw [List.erase_eq_eraseP', List.eraseP_eq_eraseIdx, ← findFirst_eq]
  unfold eraseFirst
  split
  · next hnone => rw [hnone]
  · next found hsome =>
    have hlt := q.findFirst_lt hsome
    have hle := q.size_le
    have hshift : window (shiftDown q.head found (q.size - 1 - found) q.storage) q.head
        (q.size - 1) = (window q.storage q.head (q.size - 1 + 1)).eraseIdx found :=
      window_shiftDown (by omega) (by omega)
    rw [Nat.sub_add_cancel (by omega)] at hshift
    refine hshift.trans ?_
    rw [hsome]
    rfl

theorem eraseFirst_done [BEq α] (item : α) :
    (q.eraseFirst item).2 = q.contents.any (· == item) := by
  have hany : (q.findFirst item).isSome = q.contents.any (· == item) := by
    rw [findFirst_eq, List.findIdx?_isSome]
  rw [← hany]
  unfold eraseFirst
  split
  · next hnone => rw [hnone]; rfl
  · next hsome =>
    change true = _
    rw [hsome]
    rfl

theorem push_done (item : α) : (q.push item).2 = false ↔ q.contents.length = capacity := by
  rw [length_contents]
  unfold push
  split
  · next h => simpa [full] using h
  · next h => simpa [full] using h

/-- A push is refused exactly by a full queue, which it leaves alone. -/
theorem push_table (item : α) : Table.push capacity q.contents item =
    if (q.push item).2 then some (q.push item).1.contents else none := by
  unfold Table.push
  by_cases h : q.full
  · have hdone : (q.push item).2 = false := by rw [push, dif_pos h]
    rw [if_pos ((q.push_done item).mp hdone), hdone, if_neg (by decide)]
  · have hdone : (q.push item).2 = true := by rw [push, dif_neg h]
    have hlt := q.not_full h
    rw [if_neg (by rw [length_contents]; omega), hdone, if_pos rfl, q.contents_push h]

theorem eraseFirst_table [DecidableEq α] (item : α) : Table.eraseFirst q.contents item =
    if (q.eraseFirst item).2 then some (q.eraseFirst item).1.contents else none := by
  unfold Table.eraseFirst
  rw [eraseFirst_done, contents_eraseFirst]
  refine if_congr ?_ rfl rfl
  simp

/-! ### Sequences of calls -/

inductive Call (α : Type*)
  | push (item : α)
  | pop
  | popFront
  | front
  | atOffset (offset : ℕ)
  | eraseFirst (item : α)
  | clear

/-- What a call returns: a flag, a pointer to an item or an item, or nothing. -/
inductive Reply (α : Type*)
  | done (ok : Bool)
  | item (value : Option α)
  | nothing
  deriving DecidableEq

def step [BEq α] : Call α → FixedQueue α capacity × Reply α
  | .push item => ((q.push item).1, .done (q.push item).2)
  | .pop => (q.pop.1, .item q.pop.2)
  | .popFront => (q.popFront.1, .done q.popFront.2)
  | .front => (q, .item q.front)
  | .atOffset offset => (q, .item (q.atOffset offset))
  | .eraseFirst item => ((q.eraseFirst item).1, .done (q.eraseFirst item).2)
  | .clear => (q.clear, .nothing)

def run [BEq α] : FixedQueue α capacity → List (Call α) → FixedQueue α capacity × List (Reply α)
  | q, [] => (q, [])
  | q, call :: calls =>
    let rest := run (q.step call).1 calls
    (rest.1, (q.step call).2 :: rest.2)

end FixedQueue

/-! ### Bounded lists -/

namespace BoundedList

open FixedQueue (Call Reply)

variable {α : Type*} [BEq α]

/-- The calls on a list of at most `capacity` items, oldest first: append, remove the head,
look at an item, remove the first occurrence. -/
def step (capacity : ℕ) (l : List α) : Call α → List α × Reply α
  | .push item =>
    match Table.push capacity l item with
    | some l' => (l', .done true)
    | none => (l, .done false)
  | .pop => (l.tail, .item l.head?)
  | .popFront => (l.tail, .done !l.isEmpty)
  | .front => (l, .item l.head?)
  | .atOffset offset => (l, .item l[offset]?)
  | .eraseFirst item => (l.erase item, .done (l.any (· == item)))
  | .clear => ([], .nothing)

def run (capacity : ℕ) : List α → List (Call α) → List α × List (Reply α)
  | l, [] => (l, [])
  | l, call :: calls =>
    let rest := run capacity (step capacity l call).1 calls
    (rest.1, (step capacity l call).2 :: rest.2)

end BoundedList

namespace FixedQueue

variable {α : Type*} {capacity : ℕ} [BEq α] (q : FixedQueue α capacity)

/-- Every call gives what it gives on the list of the items. -/
theorem step_refines (call : Call α) :
    BoundedList.step capacity q.contents call = ((q.step call).1.contents, (q.step call).2) := by
  cases call with
  | push item =>
    by_cases h : q.full
    · have hdone : q.push item = (q, false) := by rw [push, dif_pos h]
      simp only [BoundedList.step, step, push_table, hdone, Bool.false_eq_true, if_false]
    · have hdone : (q.push item).2 = true := by rw [push, dif_neg h]
      simp only [BoundedList.step, step, push_table, hdone, if_true]
  | pop => simp only [BoundedList.step, step, pop_eq, contents_popFront, front_eq]
  | popFront => simp only [BoundedList.step, step, contents_popFront, popFront_done]
  | front => simp only [BoundedList.step, step, front_eq]
  | atOffset offset => simp only [BoundedList.step, step, atOffset_eq]
  | eraseFirst item => simp only [BoundedList.step, step, contents_eraseFirst, eraseFirst_done]
  | clear => rfl

theorem run_refines (calls : List (Call α)) : ∀ q : FixedQueue α capacity,
    BoundedList.run capacity q.contents calls = ((q.run calls).1.contents, (q.run calls).2) := by
  induction calls with
  | nil => intro q; rfl
  | cons call calls ih =>
    intro q
    simp only [BoundedList.run, run, step_refines, ih]

/-- The indices name slots, and no sum of two of them exceeds twice the capacity. -/
structure InRange (q : FixedQueue α capacity) : Prop where
  head_lt : q.head.val < capacity
  tail_lt : q.tail.val < capacity
  size_le : q.size ≤ capacity
  tail_eq : q.tail.val = (q.head.val + q.size) % capacity
  /-- `head_ + offset + 1`, as far as an item or its successor is looked up -/
  offset_lt : ∀ offset < q.size, q.head.val + offset + 1 < 2 * capacity
  /-- `tail_ + Capacity - 1` -/
  back_lt : q.tail.val + capacity - 1 < 2 * capacity

omit [BEq α] in
theorem inRange : q.InRange where
  head_lt := q.head.isLt
  tail_lt := q.tail.isLt
  size_le := q.size_le
  tail_eq := congrArg Fin.val q.tail_eq
  offset_lt := fun offset h => by
    have hhead := q.head.isLt
    have hle := q.size_le
    omega
  back_lt := by
    have htail := q.tail.isLt
    omega

/-- After any calls the queue holds what the bounded list holds and has replied what it
replied, refuses an item exactly if it holds `capacity` items, and stays in its array. -/
theorem fixed_queue_refines (h : 0 < capacity) (zero : α) (calls : List (Call α)) :
    ∃ (q : FixedQueue α capacity) (replies : List (Reply α)),
      (initial h zero).run calls = (q, replies) ∧
      BoundedList.run capacity [] calls = (q.contents, replies) ∧
      (∀ item, (q.push item).2 = false ↔ q.contents.length = capacity) ∧
      q.InRange := by
  have hrun := run_refines calls (initial h zero)
  rw [contents_initial] at hrun
  exact ⟨_, _, rfl, hrun, fun item => push_done _ item, inRange _⟩

/-- A queue of three that wraps around and loses an item from the middle. -/
theorem fixed_queue_refines_wrapped : ∃ (q : FixedQueue ℕ 3) (replies : List (Reply ℕ)),
    (initial (by decide) 0).run
      [.push 1, .push 2, .push 3, .push 4, .pop, .push 4, .eraseFirst 3, .atOffset 1] =
        (q, replies) ∧
    q.contents = [2, 4] ∧
    replies = [.done true, .done true, .done true, .done false, .item (some 1), .done true,
      .done true, .item (some 4)] := by
  obtain ⟨q, replies, hrun, hlist, -⟩ := fixed_queue_refines (by decide : 0 < 3) 0
    [.push 1, .push 2, .push 3, .push 4, .pop, .push 4, .eraseFirst 3, .atOffset 1]
  obtain ⟨hcontents, hreplies⟩ := Prod.mk.inj hlist
  exact ⟨q, replies, hrun, hcontents.symm, hreplies.symm⟩

end FixedQueue

end ThingDaq
