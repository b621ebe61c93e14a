import ThingDaq.Lib.Bytes

/-!
# Loops that rewrite a buffer in place

A loop reads records of `r` bytes and writes records of `w ≤ r` bytes to the same buffer,
from the same base on.  What it reads in turn `n` begins at `r * n`, and what it has
written by then ends at `w * n`: it never reads a byte that it wrote.  So it writes what
the loop with an output buffer of its own writes.

## Main results

* `writeRecords_eq` — the buffer after a loop of writes whose data does not depend on it.
* `inPlace_eq` — the data written in place does not depend on the writes.
-/

namespace Wire

/-! ### Loops of writes -/

/-- Write the record `o i` of `w` bytes in turn `i < n`, from `base` on. -/
def writeRecords (w base : ℕ) (o : ℕ → Bytes) (n : ℕ) (b : Bytes) : Bytes :=
  (List.range n).foldl (fun b i => store b (base + w * i) (o i)) b

section Write

variable {w base n : ℕ} {o : ℕ → Bytes} {b : Bytes}

theorem writeRecords_succ : writeRecords w base o (n + 1) b =
    store (writeRecords w base o n b) (base + w * n) (o n) := by
  unfold writeRecords
  rw [List.range_succ, List.foldl_append]
  rfl

@[simp] theorem length_writeRecords : (writeRecords w base o n b).length = b.length := by
  induction n with
  | zero => rfl
  | succ n ih => rw [writeRecords_succ, length_store, ih]

theorem length_records (ho : ∀ i < n, (o i).length = w) :
    ((List.range n).flatMap o).length = w * n := by
  rw [List.length_flatMap, List.map_congr_left fun i hi => ho i (List.mem_range.mp hi)]
  simp [Nat.mul_comm]

/-- The records side by side between what was in front of them and what is behind them. -/
theorem writeRecords_eq (ho : ∀ i < n, (o i).length = w) (hfit : base + w * n ≤ b.length) :
    writeRecords w base o n b =
      b.take base ++ ((List.range n).flatMap o ++ b.drop (base + w * n)) := by
  induction n with
  | zero => simp [writeRecords]
  | succ n ih =>
    have hn : w * (n + 1) = w * n + w := Nat.mul_succ w n
    have hlen := length_records (n := n) fun i hi => ho i (Nat.lt_succ_of_lt hi)
    have hfront : (b.take base ++ (List.range n).flatMap o).length = base + w * n := by
      rw [List.length_append, List.length_take, hlen, Nat.min_eq_left (by omega)]
    have hdrop : b.drop (base + w * n) =
        slice b (base + w * n) w ++ b.drop (base + w * (n + 1)) := by
      have hsplit := (List.take_append_drop w (b.drop (base + w * n))).symm
      rwa [List.drop_drop, Nat.add_assoc, ← hn] at hsplit
    rw [writeRecords_succ, ih (fun i hi => ho i (by omega)) (by omega), ← List.append_assoc,
      hdrop, ← hfront, store_append (by rw [ho n (by omega), length_slice]; omega), List.range_succ,
      List.flatMap_append]
    simp only [List.flatMap_singleton, List.append_assoc]

/-- The writes leave everything behind them alone. -/
theorem slice_writeRecords_after (ho : ∀ i < n, (o i).length = w) {off k : ℕ}
    (h : base + w * n ≤ off) :
    slice (writeRecords w base o n b) off k = slice b off k := by
  induction n with
  | zero => rfl
  | succ n ih =>
    have hn : w * (n + 1) = w * n + w := Nat.mul_succ w n
    rw [writeRecords_succ, slice_store_after (by rw [ho n (by omega)]; omega),
      ih (fun i hi => ho i (by omega)) (by omega)]

theorem slice_writeRecords_before {off k : ℕ} (h : off + k ≤ base) :
    slice (writeRecords w base o n b) off k = slice b off k := by
  induction n with
  | zero => rfl
  | succ n ih => rw [writeRecords_succ, slice_store_before (by omega), ih]

theorem slice_writeRecords (ho : ∀ i < n, (o i).length = w) (hfit : base + w * n ≤ b.length) :
    slice (writeRecords w base o n b) base (w * n) = (List.range n).flatMap o := by
  have hlen := length_records ho
  have htake : (b.take base).length = base := by rw [List.length_take]; omega
  rw [writeRecords_eq ho hfit, slice_append_right (by omega), htake, Nat.sub_self,
    slice_append_left (by omega), slice_self hlen]

end Write

/-! ### Reading and writing one buffer -/

/-- In turn `i < n` read the record at `r * i`, convert it and write it at `w * i`. -/
def inPlace (r w base : ℕ) (g : Bytes → Bytes) (n : ℕ) (b : Bytes) : Bytes :=
  (List.range n).foldl (fun b i => store b (base + w * i) (g (slice b (base + r * i) r))) b

/-- What the loop writes in turn `i` if it reads from `b`. -/
def converted (r base : ℕ) (g : Bytes → Bytes) (b : Bytes) (i : ℕ) : Bytes :=
  g (slice b (base + r * i) r)

section InPlace

variable {r w base n : ℕ} {g : Bytes → Bytes} {b : Bytes}

theorem inPlace_succ : inPlace r w base g (n + 1) b =
    store (inPlace r w base g n b) (base + w * n)
      (g (slice (inPlace r w base g n b) (base + r * n) r)) := by
  unfold inPlace
  rw [List.range_succ, List.foldl_append]
  rfl

theorem length_converted (hg : ∀ d, d.length = r → (g d).length = w)
    (hfit : base + r * n ≤ b.length) : ∀ i < n, (converted r base g b i).length = w := by
  intro i hi
  have hle : r * (i + 1) ≤ r * n := Nat.mul_le_mul_left r hi
  have hsucc : r * (i + 1) = r * i + r := Nat.mul_succ r i
  exact hg _ (by rw [length_slice]; omega)

/-- The read-ahead invariant: what turn `n` reads is behind everything that was written. -/
theorem inPlace_eq (hw : w ≤ r) (hg : ∀ d, d.length = r → (g d).length = w)
    (hfit : base + r * n ≤ b.length) :
    inPlace r w base g n b = writeRecords w base (converted r base g b) n b := by
  induction n with
  | zero => rfl
  | succ n ih =>
    have hsucc : r * (n + 1) = r * n + r := Nat.mul_succ r n
    have hahead : w * n ≤ r * n := Nat.mul_le_mul_right n hw
    have hread : slice (writeRecords w base (converted r base g b) n b) (base + r * n) r =
        slice b (base + r * n) r :=
      slice_writeRecords_after (length_converted hg (by omega)) (by omega)
    rw [inPlace_succ, writeRecords_succ, ih (by omega), hread]
    rfl

end InPlace

end Wire
