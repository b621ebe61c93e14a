import Mathlib.Data.List.Basic
import Mathlib.Tactic.Ring

/-!
# Byte strings and little-endian fields

A wire buffer is a list of bytes.  A fixed-width field at an offset is read with
`slice` and written with `store`; its value is the little-endian number of
`leValue`, and `leBytes` is the encoder.

## Main results

* `leValue_leBytes` — reading back a field gives the value modulo its width.
* `leBytes_leValue` — a field is determined by its value.
* `slice_store`, `slice_store_before`, `slice_store_after` — a store changes its
  own range only.
-/

namespace Wire

abbrev Bytes := List UInt8

/-! ### Little-endian numbers -/

/-- The `n` little-endian bytes of `v`, truncated modulo `256 ^ n`. -/
def leBytes : ℕ → ℕ → Bytes
  | 0, _ => []
  | n + 1, v => UInt8.ofNat v :: leBytes n (v / 256)

/-- The number a little-endian byte string stands for. -/
def leValue : Bytes → ℕ
  | [] => 0
  | b :: bs => b.toNat + 256 * leValue bs

@[simp] theorem leBytes_zero (v : ℕ) : leBytes 0 v = [] := rfl

@[simp] theorem leValue_nil : leValue [] = 0 := rfl

@[simp] theorem leValue_cons (b : UInt8) (bs : Bytes) :
    leValue (b :: bs) = b.toNat + 256 * leValue bs := rfl

@[simp] theorem length_leBytes : ∀ n v : ℕ, (leBytes n v).length = n := by
  intro n
  induction n with
  | zero => intro v; rfl
  | succ n ih => intro v; simp [leBytes, ih]

theorem leValue_leBytes : ∀ n v : ℕ, leValue (leBytes n v) = v % 256 ^ n := by
  intro n
  induction n with
  | zero => intro v; simp [Nat.mod_one]
  | succ n ih =>
    intro v
    have hpow : (256 : ℕ) ^ (n + 1) = 256 * 256 ^ n := by rw [pow_succ, mul_comm]
    rw [leBytes, leValue_cons, ih, hpow, Nat.mod_mul]
    simp

theorem leValue_leBytes_of_lt {n v : ℕ} (h : v < 256 ^ n) : leValue (leBytes n v) = v := by
  rw [leValue_leBytes, Nat.mod_eq_of_lt h]

theorem leValue_lt (bs : Bytes) : leValue bs < 256 ^ bs.length := by
  induction bs with
  | nil => simp
  | cons b bs ih =>
    have hb := b.toNat_lt
    rw [leValue_cons, List.length_cons, pow_succ]
    omega

theorem leBytes_leValue (bs : Bytes) : leBytes bs.length (leValue bs) = bs := by
  induction bs with
  | nil => rfl
  | cons b bs ih =>
    have hb := b.toNat_lt
    have hdiv : (b.toNat + 256 * leValue bs) / 256 = leValue bs := by omega
    have hhead : UInt8.ofNat (b.toNat + 256 * leValue bs) = b := by
      apply UInt8.toNat_inj.mp
      rw [UInt8.toNat_ofNat']
      omega
    rw [List.length_cons, leBytes, leValue_cons, hdiv, hhead, ih]

/-! ### Ranges -/

/-- The `n` bytes at `off`, fewer if the buffer ends first. -/
def slice (b : Bytes) (off n : ℕ) : Bytes := (b.drop off).take n

/-- Overwrite the bytes at `off`; a store that does not fit changes nothing. -/
def store (b : Bytes) (off : ℕ) (bs : Bytes) : Bytes :=
  if off + bs.length ≤ b.length then b.take off ++ bs ++ b.drop (off + bs.length) else b

@[simp] theorem length_slice (b : Bytes) (off n : ℕ) :
    (slice b off n).length = min n (b.length - off) := by
  simp [slice]

@[simp] theorem length_store (b : Bytes) (off : ℕ) (bs : Bytes) :
    (store b off bs).length = b.length := by
  unfold store
  split
  · simp; omega
  · rfl

theorem store_of_le {b : Bytes} {off : ℕ} {bs : Bytes} (h : off + bs.length ≤ b.length) :
    store b off bs = b.take off ++ bs ++ b.drop (off + bs.length) := if_pos h

theorem slice_append_left {a b : Bytes} {off n : ℕ} (h : off + n ≤ a.length) :
    slice (a ++ b) off n = slice a off n := by
  unfold slice
  rw [List.drop_append_of_le_length (by omega), List.take_append_of_le_length (by simp; omega)]

theorem slice_append_right {a b : Bytes} {off n : ℕ} (h : a.length ≤ off) :
    slice (a ++ b) off n = slice b (off - a.length) n := by
  unfold slice
  rw [List.drop_append, List.drop_eq_nil_of_le h, List.nil_append]

theorem slice_self {a : Bytes} {n : ℕ} (h : a.length = n) : slice a 0 n = a := by
  simp [slice, ← h]

theorem take_append_slice (b : Bytes) (off n : ℕ) :
    b.take off ++ slice b off n = b.take (off + n) := by
  rw [slice, List.take_add]

/-- A store is read back. -/
theorem slice_store {b : Bytes} {o : ℕ} {s : Bytes} (h : o + s.length ≤ b.length) :
    slice (store b o s) o s.length = s := by
  rw [store_of_le h, List.append_assoc, slice_append_right (by simp)]
  have hlen : (b.take o).length = o := by simp; omega
  rw [hlen, Nat.sub_self, slice_append_left (by simp), slice_self rfl]

/-- A store leaves everything before it alone. -/
theorem slice_store_before {b : Bytes} {p : ℕ} {s : Bytes} {o n : ℕ} (h : o + n ≤ p) :
    slice (store b p s) o n = slice b o n := by
  unfold store
  split
  · next hle =>
    have hlen : (b.take p).length = p := by simp; omega
    rw [List.append_assoc, slice_append_left (by omega)]
    unfold slice
    rw [List.drop_take, List.take_take, Nat.min_eq_left (by omega)]
  · rfl

/-- A store leaves everything after it alone. -/
theorem slice_store_after {b : Bytes} {off : ℕ} {bs : Bytes} {o n : ℕ}
    (h : off + bs.length ≤ o) : slice (store b off bs) o n = slice b o n := by
  unfold store
  split
  · next hle =>
    have hlen : (b.take off ++ bs).length = off + bs.length := by simp; omega
    rw [slice_append_right (by omega), hlen]
    unfold slice
    rw [List.drop_drop, Nat.add_sub_cancel' h]
  · rfl

/-- Storing over a middle block of known length. -/
theorem store_append {a m c s : Bytes} (h : s.length = m.length) :
    store (a ++ (m ++ c)) a.length s = a ++ (s ++ c) := by
  have hdrop : (a ++ (m ++ c)).drop (a.length + s.length) = c := by
    rw [← List.append_assoc, List.drop_left' (by simp [h])]
  rw [store_of_le (by simp [h]), hdrop]
  simp

/-- Two stores in a row, the second right behind the first. -/
theorem store_store {b x y : Bytes} {o : ℕ} (h : o + (x ++ y).length ≤ b.length) :
    store (store b o x) (o + x.length) y = store b o (x ++ y) := by
  rw [List.length_append] at h
  have hfst : store b o x = (b.take o ++ x) ++ b.drop (o + x.length) :=
    store_of_le (by omega)
  have hlen : (b.take o ++ x).length = o + x.length := by simp; omega
  rw [store_of_le (show o + x.length + y.length ≤ _ by rw [length_store]; omega), hfst,
    List.take_left' hlen, List.drop_append, List.drop_eq_nil_of_le (by omega), hlen,
    store_of_le (by rw [List.length_append]; omega)]
  simp only [List.nil_append, List.drop_drop, List.length_append]
  rw [show o + x.length + (o + x.length + y.length - (o + x.length))
    = o + (x.length + y.length) by omega]
  simp [List.append_assoc]

/-- Storing in front of a buffer leaves the part behind the store. -/
theorem store_zero {b bs : Bytes} (h : bs.length ≤ b.length) :
    store b 0 bs = bs ++ b.drop bs.length := by
  rw [store_of_le (by omega)]
  simp

/-- A store inside the first `n` bytes, seen through them. -/
theorem take_store {b bs : Bytes} {off n : ℕ} (h : off + bs.length ≤ n) (hn : n ≤ b.length) :
    (store b off bs).take n = store (b.take n) off bs := by
  have hlen : (b.take off ++ bs).length = off + bs.length := by simp; omega
  rw [store_of_le (by omega), store_of_le (by rw [List.length_take]; omega), List.take_append,
    List.take_of_length_le (by omega), hlen, List.take_take, Nat.min_eq_left (by omega),
    List.drop_take]

/-- A store at `n`, seen through its own end. -/
theorem take_store_end {b s : Bytes} {n : ℕ} (h : n + s.length ≤ b.length) :
    (store b n s).take (n + s.length) = b.take n ++ s := by
  have hlen : (b.take n ++ s).length = n + s.length := by simp; omega
  rw [store_of_le h, ← hlen, List.take_left]

theorem slice_take {b : Bytes} {off n m : ℕ} (h : off + n ≤ m) :
    slice (b.take m) off n = slice b off n := by
  unfold slice
  rw [List.drop_take, List.take_take, Nat.min_eq_left (by omega)]

end Wire
