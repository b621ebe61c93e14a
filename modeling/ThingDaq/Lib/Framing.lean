import Mathlib.Data.List.Basic

/-!
# Framed byte strings

A format has a header of a fixed size, which says how long the whole frame is, and a
body that is decoded once all of it is there.  The same format is read in two ways:
strictly, when the byte string has to be one frame and nothing else, and from the
front of a buffer that may hold more.

When the header depends on nothing but its own bytes and the body on nothing but the
frame's, the two readings agree.

## Main results

* `Local.strict_take_iff` — the strict reading of a prefix is the reading from the
  buffer it is a prefix of.
-/

namespace Framing

variable {α ε η φ : Type*}

/-- A check that a result has passed. -/
theorem ite_error_eq_ok {c : Prop} [Decidable c] {e : ε} {x : Except ε φ} {a : φ} :
    (if c then .error e else x) = .ok a ↔ ¬ c ∧ x = .ok a := by
  by_cases h : c
  · rw [if_pos h]
    exact ⟨fun he => (by cases he), fun he => absurd h he.1⟩
  · rw [if_neg h]
    exact ⟨fun he => ⟨h, he⟩, And.right⟩

/-- A header, the length it declares, and the frame behind it. -/
structure Format (α ε η φ : Type*) where
  headerSize : ℕ
  decodeHeader : List α → Except ε η
  size : η → ℕ
  decodeBody : List α → η → Except ε φ

namespace Format

variable (F : Format α ε η φ)

/-- One frame and nothing else. -/
def strict (wrongLength : η → ℕ → ε) (b : List α) : Except ε φ :=
  match F.decodeHeader b with
  | .error e => .error e
  | .ok h => if b.length ≠ F.size h then .error (wrongLength h b.length) else F.decodeBody b h

/-- The frame at the front of a buffer, once its declared length has arrived. -/
def front (b : List α) : Option (Except ε φ) :=
  match F.decodeHeader b with
  | .error e => some (.error e)
  | .ok h => if b.length < F.size h then none else some (F.decodeBody b h)

/-- Nothing behind the header, or behind the frame, is looked at. -/
structure Local : Prop where
  header_take : ∀ {b : List α} {h : η} {n : ℕ}, F.headerSize ≤ n →
    (F.decodeHeader (b.take n) = .ok h ↔ F.decodeHeader b = .ok h)
  header_length : ∀ {b : List α} {h : η}, F.decodeHeader b = .ok h → F.headerSize ≤ b.length
  headerSize_le : ∀ {b : List α} {h : η}, F.decodeHeader b = .ok h → F.headerSize ≤ F.size h
  body_take : ∀ {b : List α} {h : η} {n : ℕ}, F.decodeHeader b = .ok h → F.size h ≤ n →
    F.decodeBody (b.take n) h = F.decodeBody b h

variable {F} {b : List α} {f : φ}

theorem strict_ok {wrongLength : η → ℕ → ε} :
    F.strict wrongLength b = .ok f ↔
      ∃ h, F.decodeHeader b = .ok h ∧ b.length = F.size h ∧ F.decodeBody b h = .ok f := by
  unfold strict
  constructor
  · intro hs
    split at hs
    · cases hs
    · rename_i h hh
      split at hs
      · cases hs
      · rename_i hlen
        exact ⟨h, hh, not_not.mp hlen, hs⟩
  · rintro ⟨h, hh, hlen, hbody⟩
    rw [hh]
    dsimp only
    rw [if_neg (not_not.mpr hlen), hbody]

theorem front_ok :
    F.front b = some (.ok f) ↔
      ∃ h, F.decodeHeader b = .ok h ∧ F.size h ≤ b.length ∧ F.decodeBody b h = .ok f := by
  unfold front
  constructor
  · intro hs
    split at hs
    · cases hs
    · rename_i h hh
      split at hs
      · cases hs
      · rename_i hlen
        exact ⟨h, hh, Nat.not_lt.mp hlen, Option.some.inj hs⟩
  · rintro ⟨h, hh, hlen, hbody⟩
    rw [hh]
    dsimp only
    rw [if_neg (Nat.not_lt.mpr hlen), hbody]

/-- The first `n` elements are one frame exactly when the buffer starts with that
frame and it has `n` elements. -/
theorem Local.strict_take_iff (hF : F.Local) {wrongLength : η → ℕ → ε} {n : ℕ}
    (hn : n ≤ b.length) :
    F.strict wrongLength (b.take n) = .ok f ↔
      ∃ h, F.decodeHeader b = .ok h ∧ F.size h = n ∧ F.front b = some (.ok f) := by
  have hlen : (b.take n).length = n := List.length_take_of_le hn
  rw [strict_ok]
  constructor
  · rintro ⟨h, hh, hsize, hbody⟩
    rw [hlen] at hsize
    have hle : F.headerSize ≤ n := hlen ▸ hF.header_length hh
    replace hh := (hF.header_take hle).mp hh
    rw [hF.body_take hh (Nat.le_of_eq hsize.symm)] at hbody
    exact ⟨h, hh, hsize.symm, front_ok.mpr ⟨h, hh, hsize ▸ hn, hbody⟩⟩
  · rintro ⟨h, hh, hsize, hfront⟩
    obtain ⟨h', hh', -, hbody⟩ := front_ok.mp hfront
    have heq : h' = h := Except.ok.inj (hh'.symm.trans hh)
    subst heq
    have hle : F.headerSize ≤ n := hsize ▸ hF.headerSize_le hh
    refine ⟨h', (hF.header_take hle).mpr hh, hlen.trans hsize.symm, ?_⟩
    rw [hF.body_take hh (Nat.le_of_eq hsize), hbody]

end Format

end Framing
