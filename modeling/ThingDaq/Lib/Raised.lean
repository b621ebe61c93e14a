import ThingDaq.Lib.Struct

/-!
# Exceptions of a program and of its language

A Python function raises exceptions of its own, and it raises the built-in ones of the
operations that it uses outside their domain: an index behind the end, a key that a `dict`
does not have, a number that is no member of an enumeration, a record that does not fit its
buffer.  Here those operations are partial functions, and `Within P x Q` is the weakest
precondition of `x`: what is built in lies within `P`, and what is returned satisfies `Q`.

## Main results

* `within_bind` and the rules of the operations — preconditions are computed from the end of
  a function to its beginning.
* `Within.eq_lift` — a function without built-in exceptions is one that raises its own only.
-/

/-- Built-in exceptions. -/
inductive Builtin
  | indexError
  | keyError
  | valueError
  | unicodeDecodeError
  | structError
  | overflowError
  | zeroDivisionError
  | attributeError
  | assertionError
  deriving DecidableEq, Repr

/-- `except ValueError` -/
@[simp] def Builtin.isValueError : Builtin → Bool
  | valueError => true
  | unicodeDecodeError => true
  | _ => false

/-- An exception of the program or a built-in one. -/
inductive Raised (ε : Type)
  | own (e : ε)
  | builtin (b : Builtin)
  deriving DecidableEq, Repr

namespace Raised

open Wire

variable {ε ε' α β κ ν : Type}

/-! ### Operations -/

/-- `raise` -/
def raise (e : ε) : Except (Raised ε) α := .error (.own e)

def fail (b : Builtin) : Except (Raised ε) α := .error (.builtin b)

/-- `if not condition: raise` -/
def require (c : Prop) [Decidable c] (e : ε) : Except (Raised ε) Unit :=
  if c then .ok () else raise e

/-- `if condition: raise` -/
def raiseIf (c : Prop) [Decidable c] (e : ε) : Except (Raised ε) Unit :=
  if c then raise e else .ok ()

/-- An operation that has no value for its argument. -/
def ofOption (b : Builtin) : Option α → Except (Raised ε) α
  | some a => .ok a
  | none => fail b

/-- `sequence[i]` -/
def index (l : List α) (i : ℕ) : Except (Raised ε) α := ofOption .indexError l[i]?

/-- A byte of a byte string. -/
def byte (b : Bytes) (i : ℕ) : Except (Raised ε) ℕ := UInt8.toNat <$> index b i

/-- `struct.unpack_from` with little-endian unsigned fields of these widths. -/
def unpackFrom (widths : List ℕ) (b : Bytes) (offset : ℕ) : Except (Raised ε) (List ℕ) :=
  if offset + widths.sum ≤ b.length then
    .ok ((unpack widths (b.drop offset)).map Int.toNat)
  else fail .structError

/-- `struct.unpack`, which takes no other size. -/
def unpackExact (widths : List ℕ) (b : Bytes) : Except (Raised ε) (List ℤ) :=
  if b.length = widths.sum then .ok (unpack widths b) else fail .structError

/-- `struct.pack` of little-endian unsigned fields. -/
def packExact (widths : List ℕ) (values : List ℤ) : Except (Raised ε) Bytes :=
  ofOption .structError (pack widths values)

/-- `struct.unpack_from` with one field. -/
def unsigned (width : ℕ) (b : Bytes) (offset : ℕ) : Except (Raised ε) ℕ :=
  if offset + width ≤ b.length then .ok (leValue (slice b offset width)) else fail .structError

/-- The constructor of an enumeration. -/
def member (members : List ℕ) (v : ℕ) : Except (Raised ε) ℕ :=
  if v ∈ members then .ok v else fail .valueError

/-- `dict[key]` -/
def getItem [DecidableEq κ] (d : List (κ × ν)) (k : κ) : Except (Raised ε) ν :=
  ofOption .keyError (d.lookup k)

/-- `a // b` -/
def floorDiv (a b : ℕ) : Except (Raised ε) ℕ :=
  if b = 0 then fail .zeroDivisionError else .ok (a / b)

/-- `a % b`, which has the sign of `b`. -/
def modulo (a b : ℤ) : Except (Raised ε) ℤ :=
  if b = 0 then fail .zeroDivisionError else .ok (a.fmod b)

/-- `bytes.index` -/
def indexOf (b : Bytes) (v : UInt8) : Except (Raised ε) ℕ := ofOption .valueError (b.idxOf? v)

/-- `bytes.decode("ascii")` -/
def decodeAscii (b : Bytes) : Except (Raised ε) (List Char) :=
  if b.all fun v => v.toNat < 128 then .ok (b.map fun v => Char.ofNat v.toNat)
  else fail .unicodeDecodeError

/-- `getattr` -/
def getAttribute (attributes : List (String × α)) (name : String) : Except (Raised ε) α :=
  ofOption .attributeError (attributes.lookup name)

/-- `zip` with `strict=True`. -/
def zipStrict (l : List α) (l' : List β) : Except (Raised ε) (List (α × β)) :=
  if l.length = l'.length then .ok (l.zip l') else fail .valueError

/-- `a or b or …` -/
def anyOf : List (Except (Raised ε) Bool) → Except (Raised ε) Bool
  | [] => .ok false
  | c :: cs => do
    if ← c then return true else anyOf cs

/-- `try: … except (…): raise e`, where no exception of the program is one of those. -/
def exceptThose (caught : Builtin → Bool) (e : ε) (x : Except (Raised ε) α) : Except (Raised ε) α :=
  x.mapError fun
    | .builtin b => if caught b then .own e else .builtin b
    | .own e => .own e

/-- `except ValueError` -/
def exceptValueError (e : ε) (x : Except (Raised ε) α) : Except (Raised ε) α :=
  exceptThose Builtin.isValueError e x

/-- `except` for the exceptions of a program, each made into another one. -/
def translate (f : ε → ε') (x : Except (Raised ε) α) : Except (Raised ε') α :=
  x.mapError fun
    | .builtin b => .builtin b
    | .own e => .own (f e)

/-- A function that raises exceptions of its own only. -/
def lift (x : Except ε α) : Except (Raised ε) α := x.mapError own

/-! ### Preconditions -/

/-- A built-in exception of `x` is one of `P`, a value of `x` has the property `Q`. -/
def Within (P : Builtin → Prop) (x : Except (Raised ε) α) (Q : α → Prop) : Prop :=
  match x with
  | .ok a => Q a
  | .error (.own _) => True
  | .error (.builtin b) => P b

/-- No built-in exception is raised. -/
abbrev Safe (x : Except (Raised ε) α) (Q : α → Prop) : Prop := Within (fun _ => False) x Q

instance {P : Builtin → Prop} [DecidablePred P] {Q : α → Prop} [DecidablePred Q]
    (x : Except (Raised ε) α) : Decidable (Within P x Q) :=
  match x with
  | .ok a => inferInstanceAs (Decidable (Q a))
  | .error (.own _) => inferInstanceAs (Decidable True)
  | .error (.builtin b) => inferInstanceAs (Decidable (P b))

section Rules

variable {P : Builtin → Prop} {x : Except (Raised ε) α} {Q R : α → Prop}

@[simp] theorem within_ok {a : α} : Within P (.ok a : Except (Raised ε) α) Q ↔ Q a := Iff.rfl

@[simp] theorem within_pure {a : α} : Within P (pure a : Except (Raised ε) α) Q ↔ Q a := Iff.rfl

@[simp] theorem within_raise {e : ε} : Within P (raise e : Except (Raised ε) α) Q ↔ True := Iff.rfl

@[simp] theorem within_fail {b : Builtin} : Within P (fail b : Except (Raised ε) α) Q ↔ P b := Iff.rfl

@[simp] theorem within_bind {f : α → Except (Raised ε) β} {Q : β → Prop} :
    Within P (x >>= f) Q ↔ Within P x fun a => Within P (f a) Q := by
  cases x with
  | ok a => rfl
  | error r => cases r <;> rfl

@[simp] theorem within_map {f : α → β} {Q : β → Prop} :
    Within P (f <$> x) Q ↔ Within P x fun a => Q (f a) := by
  cases x with
  | ok a => rfl
  | error r => cases r <;> rfl

@[simp] theorem within_ite {c : Prop} [Decidable c] {y : Except (Raised ε) α} :
    Within P (if c then x else y) Q ↔ (c → Within P x Q) ∧ (¬ c → Within P y Q) := by
  split <;> simp_all

theorem Within.mono (h : Within P x Q) (hQ : ∀ a, Q a → R a) : Within P x R := by
  cases x with
  | ok a => exact hQ a h
  | error r => cases r <;> exact h

theorem Within.and (h : Within P x Q) (h' : Within P x R) : Within P x fun a => Q a ∧ R a := by
  cases x with
  | ok a => exact ⟨h, h'⟩
  | error r => cases r <;> exact h

/-- Nothing is asked of the value. -/
theorem Within.trivial (h : Within P x Q) : Within P x fun _ => True := h.mono fun _ _ => True.intro

/-- One step and the rest. -/
theorem Within.bind {f : α → Except (Raised ε) β} {Q : β → Prop} (h : Within P x R)
    (hf : ∀ a, R a → Within P (f a) Q) : Within P (x >>= f) Q :=
  within_bind.mpr (h.mono hf)

/-- One step and the rest, which takes any value. -/
theorem Within.next {f : α → Except (Raised ε) β} (h : Within P x fun _ => True)
    (hf : ∀ a, Within P (f a) fun _ => True) : Within P (x >>= f) fun _ => True :=
  h.bind fun a _ => hf a

@[simp] theorem within_require {c : Prop} [Decidable c] {e : ε} {Q : Unit → Prop} :
    Within P (require c e) Q ↔ (c → Q ()) := by
  unfold require
  simp

@[simp] theorem within_raiseIf {c : Prop} [Decidable c] {e : ε} {Q : Unit → Prop} :
    Within P (raiseIf c e) Q ↔ (¬ c → Q ()) := by
  unfold raiseIf
  simp

@[simp] theorem within_ofOption {b : Builtin} {o : Option α} :
    Within P (ofOption b o : Except (Raised ε) α) Q ↔ (∀ a, o = some a → Q a) ∧ (o = none → P b) := by
  cases o <;> simp [ofOption]

@[simp] theorem within_member {members : List ℕ} {v : ℕ} {Q : ℕ → Prop} :
    Within P (member members v : Except (Raised ε) ℕ) Q ↔
      (v ∈ members → Q v) ∧ (v ∉ members → P .valueError) := by
  unfold member
  rw [within_ite, within_ok, within_fail]

@[simp] theorem within_indexOf {b : Bytes} {v : UInt8} {Q : ℕ → Prop} :
    Within P (indexOf b v : Except (Raised ε) ℕ) Q ↔
      (∀ i, b.idxOf? v = some i → Q i) ∧ (b.idxOf? v = none → P .valueError) := by
  unfold indexOf
  rw [within_ofOption]

@[simp] theorem within_decodeAscii {b : Bytes} {Q : List Char → Prop} :
    Within P (decodeAscii b : Except (Raised ε) (List Char)) Q ↔
      ((b.all fun v => v.toNat < 128) = true → Q (b.map fun v => Char.ofNat v.toNat)) ∧
        (¬ (b.all fun v => v.toNat < 128) = true → P .unicodeDecodeError) := by
  unfold decodeAscii
  rw [within_ite, within_ok, within_fail]

/-- A key that the table has. -/
theorem within_lookup [DecidableEq κ] {b : Builtin} {d : List (κ × ν)} {k : κ} {Q : ν → Prop}
    (h : k ∈ d.map Prod.fst) (hQ : ∀ v, (k, v) ∈ d → Q v) :
    Within P (ofOption b (d.lookup k) : Except (Raised ε) ν) Q := by
  rw [within_ofOption]
  constructor
  · intro v hv
    obtain ⟨l₁, l₂, hd, -⟩ := List.lookup_eq_some_iff.mp hv
    exact hQ v (hd ▸ List.mem_append_right _ List.mem_cons_self)
  · intro hv
    obtain ⟨⟨k', v⟩, hmem, rfl⟩ := List.mem_map.mp h
    exact absurd rfl (bne_iff_ne.mp (List.lookup_eq_none_iff.mp hv _ hmem))

theorem within_getItem [DecidableEq κ] {d : List (κ × ν)} {k : κ} {Q : ν → Prop}
    (h : k ∈ d.map Prod.fst) (hQ : ∀ v, (k, v) ∈ d → Q v) :
    Within P (getItem d k : Except (Raised ε) ν) Q := within_lookup h hQ

theorem within_getAttribute {d : List (String × α)} {k : String}
    (h : k ∈ d.map Prod.fst) (hQ : ∀ v, (k, v) ∈ d → Q v) :
    Within P (getAttribute d k : Except (Raised ε) α) Q := within_lookup h hQ

/-- A divisor that was checked. -/
theorem floorDiv_eq {a b : ℕ} (h : b ≠ 0) : (floorDiv a b : Except (Raised ε) ℕ) = .ok (a / b) :=
  if_neg h

theorem modulo_eq {a b : ℤ} (h : 0 < b) : (modulo a b : Except (Raised ε) ℤ) = .ok (a % b) := by
  unfold modulo
  rw [if_neg (by omega), Int.fmod_eq_emod_of_nonneg a (Int.le_of_lt h)]

/-- All alternatives may be asked. -/
theorem within_anyOf {cs : List (Except (Raised ε) Bool)} {Q : Bool → Prop}
    (h : ∀ c ∈ cs, Within P c fun _ => True) (hQ : ∀ b, Q b) : Within P (anyOf cs) Q := by
  induction cs with
  | nil => exact hQ false
  | cons c cs ih =>
    unfold anyOf
    refine (h c List.mem_cons_self).bind fun b _ => ?_
    rw [within_ite]
    exact ⟨fun _ => hQ true, fun _ => ih fun c' hc' => h c' (List.mem_cons_of_mem c hc')⟩

/-- Alternatives that all have an answer. -/
theorem anyOf_map {l : List α} {f : α → Except (Raised ε) Bool} {g : α → Bool}
    (h : ∀ a ∈ l, f a = .ok (g a)) : anyOf (l.map f) = .ok (l.any g) := by
  induction l with
  | nil => rfl
  | cons a l ih =>
    rw [List.map_cons, anyOf, h a List.mem_cons_self, List.any_cons]
    cases hg : g a with
    | true => rfl
    | false => exact ih fun a' ha' => h a' (List.mem_cons_of_mem a ha')

/-- A loop over a list whose body asks nothing of the turns before. -/
theorem within_forM {l : List α} {f : α → Except (Raised ε) PUnit}
    (h : ∀ a ∈ l, Within P (f a) fun _ => True) : Within P (l.forM f) fun _ => True := by
  induction l with
  | nil => exact True.intro
  | cons a l ih =>
    change Within P (f a >>= fun _ => l.forM f) _
    exact (h a List.mem_cons_self).bind fun _ _ => ih fun a' ha' => h a' (List.mem_cons_of_mem a ha')

/-- What a `try` does not catch has to be asked for. -/
theorem within_exceptThose {caught : Builtin → Bool} {e : ε} :
    Within P (exceptThose caught e x) Q ↔ Within (fun b => caught b = false → P b) x Q := by
  cases x with
  | ok a => rfl
  | error r =>
    cases r with
    | own e' => rfl
    | builtin b =>
      change Within P (.error (if caught b then .own e else .builtin b)) Q ↔ (caught b = false → P b)
      cases caught b <;> simp [Within]

theorem within_exceptValueError {e : ε} :
    Within P (exceptValueError e x) Q ↔ Within (fun b => b.isValueError = false → P b) x Q :=
  within_exceptThose

@[simp] theorem within_translate {f : ε → ε'} : Within P (translate f x) Q ↔ Within P x Q := by
  cases x with
  | ok a => rfl
  | error r => cases r <;> rfl

end Rules

/-! ### Operations in their domain -/

section Domain

variable {b : Bytes} {i o w : ℕ}

@[simp] theorem ok_bind {a : α} {f : α → Except (Raised ε) β} : (Except.ok a >>= f) = f a := rfl

theorem index_eq {l : List α} (d : α) (h : i < l.length) :
    (index l i : Except (Raised ε) α) = .ok (l.getD i d) := by
  unfold index
  rw [List.getElem?_eq_getElem h, List.getD_eq_getElem l d h]
  rfl

theorem byte_eq (h : i < b.length) : (byte b i : Except (Raised ε) ℕ) = .ok (b.getD i 0).toNat := by
  unfold byte
  rw [index_eq 0 h]
  rfl

theorem unsigned_eq (h : o + w ≤ b.length) :
    (unsigned w b o : Except (Raised ε) ℕ) = .ok (leValue (slice b o w)) := if_pos h

theorem within_byte {P : Builtin → Prop} (h : i < b.length) :
    Within P (byte b i : Except (Raised ε) ℕ) fun v => v = (b.getD i 0).toNat := by
  rw [byte_eq h]
  exact rfl

theorem within_unsigned {P : Builtin → Prop} (h : o + w ≤ b.length) :
    Within P (unsigned w b o : Except (Raised ε) ℕ) fun v => v = leValue (slice b o w) := by
  rw [unsigned_eq h]
  exact rfl

/-- An unpacked byte is the one that is indexed. -/
theorem leValue_take_one (h : o < b.length) : leValue ((b.drop o).take 1) = (b.getD o 0).toNat := by
  rw [List.drop_eq_getElem_cons h, List.take_succ_cons, List.take_zero, leValue_cons, leValue_nil,
    List.getD_eq_getElem b 0 h]
  omega

theorem unpackFrom_eq {ws : List ℕ} (h : o + ws.sum ≤ b.length) :
    (unpackFrom ws b o : Except (Raised ε) (List ℕ)) =
      .ok ((unpack ws (b.drop o)).map Int.toNat) := if_pos h

theorem unpackExact_eq {ws : List ℕ} (h : b.length = ws.sum) :
    (unpackExact ws b : Except (Raised ε) (List ℤ)) = .ok (unpack ws b) := if_pos h

theorem within_mem {P : Builtin → Prop} {members : List ℕ} {v : ℕ} (h : v ∈ members) :
    Within P (member members v : Except (Raised ε) ℕ) fun v' => v' = v :=
  within_member.mpr ⟨fun _ => rfl, fun hnot => absurd h hnot⟩

theorem member_eq {members : List ℕ} {v : ℕ} (h : v ∈ members) :
    (member members v : Except (Raised ε) ℕ) = .ok v := if_pos h

end Domain

/-! ### Functions without built-in exceptions -/

section Lift

variable {x : Except ε α}

@[simp] theorem lift_ok {a : α} : (lift (.ok a) : Except (Raised ε) α) = .ok a := rfl

@[simp] theorem lift_pure {a : α} : (lift (pure a) : Except (Raised ε) α) = pure a := rfl

@[simp] theorem lift_error {e : ε} : (lift (.error e) : Except (Raised ε) α) = raise e := rfl

@[simp] theorem lift_bind {f : α → Except ε β} : lift (x >>= f) = lift x >>= fun a => lift (f a) := by
  cases x <;> rfl

@[simp] theorem lift_map {f : α → β} : lift (f <$> x) = f <$> lift x := by
  cases x <;> rfl

theorem lift_ite {c : Prop} [Decidable c] {y : Except ε α} :
    lift (if c then x else y) = if c then lift x else lift y := by
  split <;> rfl

/-- A check is a step of its own. -/
theorem lift_check {c : Prop} [Decidable c] {e : ε} :
    lift (if c then .error e else x) = raiseIf c e >>= fun _ => lift x := by
  unfold raiseIf
  split <;> rfl

theorem require_eq {c : Prop} [Decidable c] {e : ε} : require c e = raiseIf (¬ c) e := by
  unfold require raiseIf
  split <;> simp_all

/-- Under a `try` a partial operation is a check. -/
theorem exceptValueError_member {members : List ℕ} {v : ℕ} {e : ε} :
    exceptValueError e (member members v) = (raiseIf (v ∉ members) e >>= fun _ => pure v) := by
  unfold member raiseIf
  by_cases h : v ∈ members
  · rw [if_pos h, if_neg (not_not_intro h)]
    rfl
  · rw [if_neg h, if_pos h]
    rfl

/-- The own exceptions of a function that raises no other. -/
def strip (y : Except (Raised ε) α) (e : ε) : Except ε α :=
  y.mapError fun
    | .own e => e
    | .builtin _ => e

theorem Within.eq_lift {y : Except (Raised ε) α} {Q : α → Prop} (h : Safe y Q) (e : ε) :
    y = lift (strip y e) := by
  cases y with
  | ok a => rfl
  | error r =>
    cases r with
    | own e' => rfl
    | builtin b => exact h.elim

theorem within_lift {P : Builtin → Prop} {Q : α → Prop} (h : ∀ a, x = .ok a → Q a) :
    Within P (lift x) Q := by
  cases x with
  | ok a => exact h a rfl
  | error e => exact True.intro

theorem safe_lift : Safe (lift x) fun _ => True := within_lift fun _ _ => True.intro

end Lift

end Raised
