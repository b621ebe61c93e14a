import Mathlib.Tactic.Common
import Mathlib.Algebra.Ring.Nat

/-!
# Machine arithmetic and its faults

Unsigned arithmetic of `w` bits goes on after a sum or a product that does not fit: the
value is reduced and nothing is reported.  A `Traced` computation has that value and the
faults on the way to it, and `Exact x Q` says that there were none and that the value
satisfies `Q`.

## Main results

* `exact_bind` and the rules of the operations — the bounds under which a computation is
  exact are computed from its text, and its value with them.
-/

namespace Machine

inductive Fault
  /-- A sum or a product beyond the word. -/
  | wrap
  /-- A conversion that cuts off bits. -/
  | narrow
  | zeroDivisor
  deriving DecidableEq, Repr

structure Traced (α : Type) where
  value : α
  faults : List Fault
  deriving DecidableEq, Repr

instance : Monad Traced where
  pure a := ⟨a, []⟩
  bind x f := ⟨(f x.value).value, x.faults ++ (f x.value).faults⟩

/-! ### Operations -/

/-- A value reduced to `w` bits. -/
def reduce (w : ℕ) (fault : Fault) (v : ℕ) : Traced ℕ :=
  ⟨v % 2 ^ w, if v < 2 ^ w then [] else [fault]⟩

def add (w x y : ℕ) : Traced ℕ := reduce w .wrap (x + y)

def mul (w x y : ℕ) : Traced ℕ := reduce w .wrap (x * y)

/-- `static_cast` to an unsigned type of `w` bits -/
def narrow (w x : ℕ) : Traced ℕ := reduce w .narrow x

def div (x y : ℕ) : Traced ℕ := ⟨x / y, if y = 0 then [.zeroDivisor] else []⟩

/-! ### Exact computations -/

/-- No fault, and a value that satisfies `Q`. -/
def Exact {α : Type} (x : Traced α) (Q : α → Prop) : Prop := x.faults = [] ∧ Q x.value

section Rules

variable {α β : Type} {Q : α → Prop} {R : β → Prop} {w x y : ℕ} {P : ℕ → Prop}

@[simp] theorem exact_pure (a : α) : Exact (pure a) Q ↔ Q a :=
  ⟨fun h => h.2, fun h => ⟨rfl, h⟩⟩

@[simp] theorem exact_bind (t : Traced α) (f : α → Traced β) :
    Exact (t >>= f) R ↔ Exact t fun a => Exact (f a) R := by
  change (t.faults ++ (f t.value).faults = [] ∧ R (f t.value).value) ↔ _
  rw [List.append_eq_nil_iff, and_assoc]
  rfl

theorem exact_reduce (fault : Fault) (v : ℕ) :
    Exact (reduce w fault v) P ↔ v < 2 ^ w ∧ P v := by
  unfold Exact reduce
  constructor
  · rintro ⟨hfault, hP⟩
    have hlt : v < 2 ^ w := by
      by_contra h
      simp only [h, if_false, List.cons_ne_nil] at hfault
    exact ⟨hlt, by rwa [Nat.mod_eq_of_lt hlt] at hP⟩
  · rintro ⟨hlt, hP⟩
    exact ⟨if_pos hlt, by rwa [Nat.mod_eq_of_lt hlt]⟩

@[simp] theorem exact_add : Exact (add w x y) P ↔ x + y < 2 ^ w ∧ P (x + y) := exact_reduce ..

@[simp] theorem exact_mul : Exact (mul w x y) P ↔ x * y < 2 ^ w ∧ P (x * y) := exact_reduce ..

@[simp] theorem exact_narrow : Exact (narrow w x) P ↔ x < 2 ^ w ∧ P x := exact_reduce ..

@[simp] theorem exact_div : Exact (div x y) P ↔ y ≠ 0 ∧ P (x / y) := by
  unfold Exact div
  by_cases h : y = 0 <;> simp [h]

theorem exact_ite {c : Prop} [Decidable c] (t u : Traced α) :
    Exact (if c then t else u) Q ↔ (c → Exact t Q) ∧ (¬ c → Exact u Q) := by
  by_cases h : c <;> simp [h]

theorem Exact.mono {Q' : α → Prop} {t : Traced α} (h : Exact t Q) (hQ : ∀ a, Q a → Q' a) :
    Exact t Q' := ⟨h.1, hQ _ h.2⟩

/-- A guard by the quotient of the largest word covers the product. -/
theorem mul_lt_of_le_div (h : x ≤ (2 ^ w - 1) / y) : x * y < 2 ^ w := by
  have hword : 0 < 2 ^ w := Nat.two_pow_pos w
  have hmul : x * y ≤ 2 ^ w - 1 :=
    Nat.le_trans (Nat.mul_le_mul_right y h) (Nat.div_mul_le_self _ _)
  omega

end Rules

end Machine
