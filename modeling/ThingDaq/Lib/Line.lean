import Mathlib.Data.List.Basic
import Mathlib.Data.List.Pairwise

/-!
# Numbered lines with gap marks

A producer numbers its items `0, 1, 2, …`.  Some items are lost before they
reach the consumer, and each surviving item carries a mark that is meant to say
"something was lost directly before me".  A *line* is what is still in flight:
the surviving items in order, between the number the consumer expects next and
the number the producer will use next.  A pending bit stands for the mark of the
item the producer has not made yet.

`Exact e l n b` says the marks are right: every item of `l` is marked exactly
when its number is not the one after its predecessor's (or not `e`, for the
head), and the pending bit is set exactly when `n` is not the one after the last.

## Main results

* `Exact.append`, `Exact.lose` — producing an item, or losing some.
* `Exact.drop_mid`, `Exact.drop_last` — losing an item of the line, when the
  successor (or the pending bit) takes the mark.
* `Exact.head` — what a consumed item's mark says.
* `Exact.pairwise_lt` — the numbers increase along the line.
-/

namespace Line

/-- One item in flight: its number and whether it is marked. -/
structure Slot where
  num : ℕ
  mark : Bool
  deriving DecidableEq

/-- The marks of the line `l` are exact, when the consumer expects `e` and the
producer is about to use `n` with pending bit `b`. -/
def Exact : ℕ → List Slot → ℕ → Bool → Prop
  | e, [], n, b => e ≤ n ∧ (b = true ↔ n ≠ e)
  | e, f :: l, n, b => e ≤ f.num ∧ (f.mark = true ↔ f.num ≠ e) ∧ Exact (f.num + 1) l n b

@[simp] theorem exact_nil (e n : ℕ) (b : Bool) :
    Exact e [] n b ↔ e ≤ n ∧ (b = true ↔ n ≠ e) := Iff.rfl

@[simp] theorem exact_cons (e n : ℕ) (b : Bool) (f : Slot) (l : List Slot) :
    Exact e (f :: l) n b ↔
      e ≤ f.num ∧ (f.mark = true ↔ f.num ≠ e) ∧ Exact (f.num + 1) l n b := Iff.rfl

theorem exact_init : Exact 0 [] 0 false := by simp

theorem Exact.le {l : List Slot} : ∀ {e n : ℕ} {b : Bool}, Exact e l n b → e ≤ n := by
  induction l with
  | nil => intro e n b h; exact h.1
  | cons f l ih =>
    intro e n b h
    have h1 := h.1
    have h2 := ih h.2.2
    omega

theorem Exact.num_mem {l : List Slot} : ∀ {e n : ℕ} {b : Bool}, Exact e l n b →
    ∀ f ∈ l, e ≤ f.num ∧ f.num < n := by
  induction l with
  | nil => intro e n b _ f hf; simp at hf
  | cons g l ih =>
    intro e n b h f hf
    have hle := h.2.2.le
    rcases List.mem_cons.mp hf with rfl | hf
    · exact ⟨h.1, by omega⟩
    · have := ih h.2.2 f hf
      have := h.1
      omega

/-- The numbers increase along the line. -/
theorem Exact.pairwise_lt {l : List Slot} : ∀ {e n : ℕ} {b : Bool}, Exact e l n b →
    l.Pairwise fun f g => f.num < g.num := by
  induction l with
  | nil => intro e n b _; exact List.Pairwise.nil
  | cons f l ih =>
    intro e n b h
    refine List.Pairwise.cons ?_ (ih h.2.2)
    intro g hg
    have := (h.2.2.num_mem g hg).1
    omega

/-- The producer makes its next item: it takes the pending bit for its mark. -/
theorem Exact.append {l : List Slot} : ∀ {e n : ℕ} {b : Bool}, Exact e l n b →
    Exact e (l ++ [⟨n, b⟩]) (n + 1) false := by
  induction l with
  | nil => intro e n b h; simpa using h
  | cons f l ih => intro e n b h; exact ⟨h.1, h.2.1, ih h.2.2⟩

/-- The producer skips some numbers. -/
theorem Exact.lose {l : List Slot} {k : ℕ} (hk : 0 < k) : ∀ {e n : ℕ} {b : Bool}, Exact e l n b →
    Exact e l (n + k) true := by
  induction l with
  | nil =>
    intro e n b h
    have := h.1
    simp only [exact_nil, true_iff]
    omega
  | cons f l ih => intro e n b h; exact ⟨h.1, h.2.1, ih h.2.2⟩

/-- An item with a successor is lost: the successor takes the mark. -/
theorem Exact.drop_mid {l r : List Slot} {f g : Slot} : ∀ {e n : ℕ} {b : Bool},
    Exact e (l ++ f :: g :: r) n b → Exact e (l ++ ⟨g.num, true⟩ :: r) n b := by
  induction l with
  | nil =>
    intro e n b h
    obtain ⟨he, -, hg, -, hr⟩ := h
    have hlt : e < g.num := by omega
    exact ⟨Nat.le_of_lt hlt, by simpa using Nat.ne_of_gt hlt, hr⟩
  | cons a l ih => intro e n b h; exact ⟨h.1, h.2.1, ih h.2.2⟩

/-- The last item is lost: the pending bit takes the mark. -/
theorem Exact.drop_last {l : List Slot} {f : Slot} : ∀ {e n : ℕ} {b : Bool},
    Exact e (l ++ [f]) n b → Exact e l n true := by
  induction l with
  | nil =>
    intro e n b h
    obtain ⟨he, -, hn, -⟩ := h
    simp only [exact_nil, true_iff]
    omega
  | cons a l ih => intro e n b h; exact ⟨h.1, h.2.1, ih h.2.2⟩

/-- The consumer takes the head: its mark says whether the expected number was
lost, and the line behind it is exact from the number after it. -/
theorem Exact.head {l : List Slot} {f : Slot} {e n : ℕ} {b : Bool} (h : Exact e (f :: l) n b) :
    e ≤ f.num ∧ (f.mark = true ↔ f.num ≠ e) ∧ Exact (f.num + 1) l n b := h

end Line
