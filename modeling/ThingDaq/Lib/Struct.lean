import ThingDaq.Lib.Bytes
import Mathlib.Algebra.BigOperators.Fin
import Mathlib.Data.List.GetD

/-!
# Packed integers

A record of unsigned little-endian fields, given by their widths in bytes: `pack` refuses a
value that does not fit its field, `unpack` reads any bytes.  Also tables whose rows have one
width, and numbers that are sets of bits.

## Main results

* `pack_iff` — packing is the inverse of unpacking on the bytes of the record's size.
* `rows_flatten`, `flatten_rows` — a table is cut into the rows it was joined from.
* `testBit_bitmap`, `bitmap_testBit` — a bitmap has the bits it was made of.
-/

namespace Wire

/-- Values one after another, `none` when one is out of range. -/
def pack : List ℕ → List ℤ → Option Bytes
  | [], [] => some []
  | w :: ws, v :: vs =>
    if 0 ≤ v ∧ v < 256 ^ w then (pack ws vs).map (leBytes w v.toNat ++ ·) else none
  | _, _ => none

def unpack : List ℕ → Bytes → List ℤ
  | [], _ => []
  | w :: ws, b => (leValue (b.take w) : ℤ) :: unpack ws (b.drop w)

@[simp] theorem length_unpack : ∀ (ws : List ℕ) (b : Bytes), (unpack ws b).length = ws.length
  | [], _ => rfl
  | _ :: ws, b => by rw [unpack, List.length_cons, length_unpack ws, List.length_cons]

theorem unpack_nonneg {ws : List ℕ} {b : Bytes} {v : ℤ} (h : v ∈ unpack ws b) : 0 ≤ v := by
  induction ws generalizing b with
  | nil => cases h
  | cons w ws ih =>
    rcases List.mem_cons.mp h with rfl | h
    · exact Int.natCast_nonneg _
    · exact ih h

theorem length_pack {ws : List ℕ} {vs : List ℤ} {b : Bytes} (h : pack ws vs = some b) :
    b.length = ws.sum := by
  induction ws generalizing vs b with
  | nil =>
    cases vs with
    | nil =>
      cases h
      rfl
    | cons v vs => cases h
  | cons w ws ih =>
    cases vs with
    | nil => cases h
    | cons v vs =>
      unfold pack at h
      split at h
      · obtain ⟨rest, hrest, rfl⟩ := Option.map_eq_some_iff.mp h
        rw [List.length_append, length_leBytes, ih hrest, List.sum_cons]
      · cases h

/-- The bytes behind the record do not matter. -/
theorem unpack_append {ws : List ℕ} {b : Bytes} (h : ws.sum ≤ b.length) (rest : Bytes) :
    unpack ws (b ++ rest) = unpack ws b := by
  induction ws generalizing b with
  | nil => rfl
  | cons w ws ih =>
    rw [List.sum_cons] at h
    rw [unpack, unpack, List.take_append_of_le_length (by omega), List.drop_append_of_le_length
      (by omega), ih (by rw [List.length_drop]; omega)]

theorem unpack_pack {ws : List ℕ} {vs : List ℤ} {b : Bytes} (h : pack ws vs = some b) :
    unpack ws b = vs := by
  induction ws generalizing vs b with
  | nil =>
    cases vs with
    | nil => rfl
    | cons v vs => cases h
  | cons w ws ih =>
    cases vs with
    | nil => cases h
    | cons v vs =>
      unfold pack at h
      split at h
      · next hfits =>
        obtain ⟨rest, hrest, rfl⟩ := Option.map_eq_some_iff.mp h
        obtain ⟨n, rfl⟩ := Int.eq_ofNat_of_zero_le hfits.1
        have hlt : n < 256 ^ w := by exact_mod_cast hfits.2
        have hlen : (leBytes w (n : ℤ).toNat).length = w := length_leBytes w _
        rw [unpack, List.take_left' hlen, List.drop_left' hlen, ih hrest, Int.toNat_natCast,
          leValue_leBytes_of_lt hlt]
      · cases h

theorem pack_unpack {ws : List ℕ} {b : Bytes} (h : b.length = ws.sum) :
    pack ws (unpack ws b) = some b := by
  induction ws generalizing b with
  | nil =>
    rw [List.length_eq_zero_iff.mp h]
    rfl
  | cons w ws ih =>
    rw [List.sum_cons] at h
    have hlen : (b.take w).length = w := by
      rw [List.length_take]
      omega
    have hlt := leValue_lt (b.take w)
    rw [hlen] at hlt
    have hbytes : leBytes w (leValue (b.take w)) = b.take w := by
      have hback := leBytes_leValue (b.take w)
      rw [hlen] at hback
      exact hback
    rw [unpack, pack, if_pos ⟨Int.natCast_nonneg _, by exact_mod_cast hlt⟩, ih
      (by rw [List.length_drop]; omega), Int.toNat_natCast, hbytes, Option.map_some,
      List.take_append_drop]

/-- Packing and unpacking are inverse on the bytes of the record's size. -/
theorem pack_iff {ws : List ℕ} {vs : List ℤ} {b : Bytes} :
    pack ws vs = some b ↔ b.length = ws.sum ∧ unpack ws b = vs := by
  constructor
  · intro h
    exact ⟨length_pack h, unpack_pack h⟩
  · rintro ⟨hlen, rfl⟩
    exact pack_unpack hlen

/-- The packed values are those of the front of the bytes. -/
theorem unpack_take {ws : List ℕ} {n : ℕ} {b : Bytes} (hn : ws.sum = n) (h : n ≤ b.length) :
    unpack ws (b.take n) = unpack ws b := by
  conv_rhs => rw [← List.take_append_drop n b]
  exact (unpack_append (by rw [List.length_take]; omega) _).symm

/-- The field behind the first `off` bytes. -/
theorem slice_field {a s rest : Bytes} {off n : ℕ} (ha : a.length = off) (hs : s.length = n) :
    slice (a ++ (s ++ rest)) off n = s := by
  rw [slice_append_right ha.le, ha, Nat.sub_self, slice_append_left (by omega), slice_self hs]

/-! ### Tables -/

/-- The first `count` rows of a table. -/
def rows (data : Bytes) (size count : ℕ) : List Bytes :=
  (List.range count).map fun i => slice data (i * size) size

theorem rows_succ (data : Bytes) (size count : ℕ) :
    rows data size (count + 1) = data.take size :: rows (data.drop size) size count := by
  unfold rows
  rw [List.range_succ_eq_map, List.map_cons, List.map_map, Nat.zero_mul]
  refine congrArg (_ :: ·) (List.map_congr_left fun i _ => ?_)
  simp only [Function.comp_apply, slice, List.drop_drop]
  rw [Nat.succ_mul, Nat.add_comm]

theorem length_of_mem_rows {data : Bytes} {size count : ℕ} (h : count * size ≤ data.length)
    {r : Bytes} (hr : r ∈ rows data size count) : r.length = size := by
  unfold rows at hr
  obtain ⟨i, hi, rfl⟩ := List.mem_map.mp hr
  have hrow : (i + 1) * size ≤ count * size := Nat.mul_le_mul_right size (List.mem_range.mp hi)
  rw [Nat.add_mul, Nat.one_mul] at hrow
  rw [length_slice]
  omega

theorem flatten_rows {data : Bytes} {size count : ℕ} (h : count * size ≤ data.length) :
    (rows data size count).flatten = data.take (count * size) := by
  induction count generalizing data with
  | zero => simp [rows]
  | succ count ih =>
    rw [Nat.add_mul, Nat.one_mul] at h
    rw [rows_succ, List.flatten_cons, ih (by rw [List.length_drop]; omega), Nat.add_mul, Nat.one_mul,
      Nat.add_comm, List.take_add]

theorem rows_flatten {l : List Bytes} {size : ℕ} (h : ∀ r ∈ l, r.length = size) (rest : Bytes) :
    rows (l.flatten ++ rest) size l.length = l := by
  induction l with
  | nil => rfl
  | cons r l ih =>
    have hr : r.length = size := h r List.mem_cons_self
    rw [List.length_cons, rows_succ, List.flatten_cons, List.append_assoc, List.take_left' hr,
      List.drop_left' hr, ih fun x hx => h x (List.mem_cons_of_mem r hx)]

theorem length_flatten_rows {l : List Bytes} {size : ℕ} (h : ∀ r ∈ l, r.length = size) :
    l.flatten.length = l.length * size := by
  induction l with
  | nil => simp
  | cons r l ih =>
    rw [List.flatten_cons, List.length_append, h r List.mem_cons_self,
      ih fun x hx => h x (List.mem_cons_of_mem r hx), List.length_cons]
    ring

/-! ### Rows of values -/

section Values

variable {α : Type} {a n : ℕ} {d : α}

/-- A row of named values, numbered values and a last one. -/
theorem row_split {l : List α} (h : l.length = a + n + 1) :
    l.take a ++ (List.ofFn fun i : Fin n => l.getD (a + i) d) ++ [l.getD (a + n) d] = l := by
  have hmiddle : (List.ofFn fun i : Fin n => l.getD (a + i) d) = (l.drop a).take n := by
    apply List.ext_getElem
    · simp only [List.length_ofFn, List.length_take, List.length_drop]
      omega
    · intro i hi _
      rw [List.length_ofFn] at hi
      rw [List.getElem_ofFn, List.getElem_take, List.getElem_drop, List.getD_eq_getElem]
  have hlast : [l.getD (a + n) d] = l.drop (a + n) := by
    rw [List.getD_eq_getElem _ _ (by omega), List.drop_eq_getElem_cons (by omega),
      List.drop_eq_nil_of_le (by omega)]
  rw [hmiddle, hlast, ← List.take_add, List.take_append_drop]

variable {c : List α} {f : Fin n → α} {v : α}

theorem getD_row_last (h : c.length = a) : (c ++ List.ofFn f ++ [v]).getD (a + n) d = v := by
  have hlen : (c ++ List.ofFn f).length = a + n := by rw [List.length_append, List.length_ofFn, h]
  rw [List.getD_append_right _ _ _ _ hlen.le, hlen, Nat.sub_self]
  rfl

theorem getD_row (h : c.length = a) (i : Fin n) :
    (c ++ List.ofFn f ++ [v]).getD (a + i) d = f i := by
  have hi := i.isLt
  rw [List.getD_append _ _ _ _ (by rw [List.length_append, List.length_ofFn]; omega),
    List.getD_append_right _ _ _ _ (by omega), h, Nat.add_sub_cancel_left,
    List.getD_eq_getElem _ _ (by rw [List.length_ofFn]; exact hi), List.getElem_ofFn]

theorem take_row (h : c.length = a) : (c ++ List.ofFn f ++ [v]).take a = c := by
  rw [List.append_assoc, List.take_left' h]

end Values

/-! ### Bitmaps -/

/-- The number whose bits are given. -/
def bitmap {n : ℕ} (f : Fin n → Bool) : ℕ := ∑ i, if f i then 1 <<< (i : ℕ) else 0

theorem bitmap_succ {n : ℕ} (f : Fin (n + 1) → Bool) :
    bitmap f = bitmap (fun i => f i.castSucc) + if f (Fin.last n) then 2 ^ n else 0 := by
  unfold bitmap
  rw [Fin.sum_univ_castSucc]
  simp [Nat.shiftLeft_eq]

theorem bitmap_lt {n : ℕ} (f : Fin n → Bool) : bitmap f < 2 ^ n := by
  induction n with
  | zero => simp [bitmap]
  | succ n ih =>
    have hrest := ih fun i => f i.castSucc
    rw [bitmap_succ, pow_succ]
    split <;> omega

theorem testBit_bitmap {n : ℕ} (f : Fin n → Bool) (i : Fin n) : (bitmap f).testBit i = f i := by
  induction n with
  | zero => exact i.elim0
  | succ n ih =>
    have hlt := bitmap_lt fun i => f (Fin.castSucc i)
    have hsum : bitmap f = 2 ^ n * (f (Fin.last n)).toNat + bitmap fun i => f (Fin.castSucc i) := by
      rw [bitmap_succ, Nat.add_comm]
      cases f (Fin.last n) <;> simp
    rw [hsum, Nat.testBit_two_pow_mul_add _ hlt]
    refine Fin.lastCases ?_ (fun j => ?_) i
    · rw [if_neg (by simp)]
      cases f (Fin.last n) <;> simp
    · rw [if_pos (by simp)]
      exact ih _ j

/-- A number with so many bits is the bitmap of its bits. -/
theorem bitmap_testBit {n v : ℕ} (h : v < 2 ^ n) : bitmap (fun i : Fin n => v.testBit i) = v := by
  apply Nat.eq_of_testBit_eq
  intro i
  rcases Nat.lt_or_ge i n with hi | hi
  · exact testBit_bitmap (fun i : Fin n => v.testBit i) ⟨i, hi⟩
  · have hpow : (2 : ℕ) ^ n ≤ 2 ^ i := Nat.pow_le_pow_right (by decide) hi
    rw [Nat.testBit_lt_two_pow ((bitmap_lt _).trans_le hpow), Nat.testBit_lt_two_pow (h.trans_le hpow)]

end Wire
