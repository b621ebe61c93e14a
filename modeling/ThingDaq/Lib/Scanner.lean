import Mathlib.Data.List.Basic
import Mathlib.Algebra.GroupWithZero.Nat

/-!
# Incremental scanners

A scanner looks at the front of its buffer and either waits for more input or
takes some of it off with an emission.  When a verdict does not change as input
is appended, it does not matter in which portions the input arrives: whatever was
scanned early is what scanning everything at once would have emitted.

## Main results

* `Scans.append` — scanning is not affected by what comes later.
* `Scans.scan_eq` — a partial scan is the beginning of the complete one.
* `scan_append` — scanning in two portions.
-/

namespace Scanner

variable {α ε : Type*}

/-- What the front of a buffer says. -/
inductive Verdict (ε : Type*)
  | wait
  | step (n : ℕ) (e : ε)

/-- Verdicts take something off the buffer and do not depend on later input. -/
structure Stable (v : List α → Verdict ε) : Prop where
  pos : ∀ {b n e}, v b = .step n e → 0 < n
  le : ∀ {b n e}, v b = .step n e → n ≤ b.length
  append : ∀ {b n e}, v b = .step n e → ∀ c, v (b ++ c) = .step n e

/-- From `b`, with the emissions `es`, to `r`. -/
inductive Scans (v : List α → Verdict ε) : List α → List ε → List α → Prop
  | refl (b : List α) : Scans v b [] b
  | step {b r : List α} {n : ℕ} {e : ε} {es : List ε} (h : v b = .step n e)
      (hs : Scans v (b.drop n) es r) : Scans v b (e :: es) r

/-- The complete scan, by recursion on fuel. -/
def scanFuel (v : List α → Verdict ε) : ℕ → List α → List ε × List α
  | 0, b => ([], b)
  | fuel + 1, b =>
    match v b with
    | .wait => ([], b)
    | .step n e => (e :: (scanFuel v fuel (b.drop n)).1, (scanFuel v fuel (b.drop n)).2)

/-- Everything a buffer emits, and what stays in it. -/
def scan (v : List α → Verdict ε) (b : List α) : List ε × List α := scanFuel v b.length b

variable {v : List α → Verdict ε} {b r : List α} {es : List ε}

theorem Scans.single {n : ℕ} {e : ε} (h : v b = .step n e) : Scans v b [e] (b.drop n) :=
  .step h (.refl _)

theorem Scans.trans {m : List α} {fs : List ε} (h : Scans v b es m) (h' : Scans v m fs r) :
    Scans v b (es ++ fs) r := by
  induction h with
  | refl => exact h'
  | step hv _ ih => exact .step hv (ih h')

section Stable

variable (hv : Stable v)

include hv

/-- What was scanned stays scanned, whatever comes later. -/
theorem Scans.append (h : Scans v b es r) (c : List α) : Scans v (b ++ c) es (r ++ c) := by
  induction h with
  | refl b => exact .refl _
  | step hstep _ ih =>
    refine .step (hv.append hstep c) ?_
    rw [List.drop_append_of_le_length (hv.le hstep)]
    exact ih

/-- More fuel than input makes no difference. -/
theorem scanFuel_eq : ∀ (fuel : ℕ) (b : List α), b.length ≤ fuel → scanFuel v fuel b = scan v b := by
  have key : ∀ (fuel fuel' : ℕ) (b : List α), b.length ≤ fuel → b.length ≤ fuel' →
      scanFuel v fuel b = scanFuel v fuel' b := by
    intro fuel
    induction fuel with
    | zero =>
      intro fuel' b hb hb'
      obtain rfl : b = [] := List.length_eq_zero_iff.mp (by omega)
      cases fuel' with
      | zero => rfl
      | succ fuel' =>
        cases hvb : v [] with
        | wait => simp only [scanFuel, hvb]
        | step n e =>
          have hpos := hv.pos hvb
          have hle := hv.le hvb
          simp at hle
          omega
    | succ fuel ih =>
      intro fuel' b hb hb'
      cases fuel' with
      | zero =>
        obtain rfl : b = [] := List.length_eq_zero_iff.mp (by omega)
        cases hvb : v [] with
        | wait => simp only [scanFuel, hvb]
        | step n e =>
          have hpos := hv.pos hvb
          have hle := hv.le hvb
          simp at hle
          omega
      | succ fuel' =>
        cases hvb : v b with
        | wait => simp only [scanFuel, hvb]
        | step n e =>
          have hpos := hv.pos hvb
          have hle := hv.le hvb
          have hdrop : (b.drop n).length = b.length - n := List.length_drop
          simp only [scanFuel, hvb]
          rw [ih fuel' (b.drop n) (by omega) (by omega)]
  intro fuel b hb
  exact key fuel b.length b hb (Nat.le_refl _)

theorem scan_wait (h : v b = .wait) : scan v b = ([], b) := by
  rw [← scanFuel_eq hv (b.length + 1) b (Nat.le_succ _)]
  simp only [scanFuel, h]

theorem scan_step {n : ℕ} {e : ε} (h : v b = .step n e) :
    scan v b = (e :: (scan v (b.drop n)).1, (scan v (b.drop n)).2) := by
  have hdrop : (b.drop n).length ≤ b.length := by rw [List.length_drop]; omega
  rw [← scanFuel_eq hv (b.length + 1) b (Nat.le_succ _), ← scanFuel_eq hv b.length (b.drop n) hdrop]
  simp only [scanFuel, h]

/-- A partial scan is the beginning of the complete one. -/
theorem Scans.scan_eq (h : Scans v b es r) : scan v b = (es ++ (scan v r).1, (scan v r).2) := by
  induction h with
  | refl b => simp
  | step hstep _ ih => rw [scan_step hv hstep, ih]; rfl

/-- A scan that came to a halt is the complete one. -/
theorem Scans.scan_of_wait (h : Scans v b es r) (hr : v r = .wait) : scan v b = (es, r) := by
  rw [h.scan_eq hv, scan_wait hv hr]
  simp

/-- The complete scan is a scan, and it comes to a halt. -/
theorem scan_scans (b : List α) : Scans v b (scan v b).1 (scan v b).2 ∧ v (scan v b).2 = .wait := by
  induction hn : b.length using Nat.strongRecOn generalizing b with
  | _ n ih =>
    cases hvb : v b with
    | wait =>
      rw [scan_wait hv hvb]
      exact ⟨.refl b, hvb⟩
    | step k e =>
      have hpos := hv.pos hvb
      have hle := hv.le hvb
      have hdrop : (b.drop k).length < n := by rw [List.length_drop]; omega
      obtain ⟨hs, hw⟩ := ih _ hdrop (b.drop k) rfl
      rw [scan_step hv hvb]
      exact ⟨.step hvb hs, hw⟩

/-- Scanning in two portions. -/
theorem scan_append (b c : List α) :
    scan v (b ++ c) = ((scan v b).1 ++ (scan v ((scan v b).2 ++ c)).1,
      (scan v ((scan v b).2 ++ c)).2) :=
  ((scan_scans hv b).1.append hv c).scan_eq hv

/-- Each emission takes something off the buffer. -/
theorem Scans.length_le (h : Scans v b es r) : es.length + r.length ≤ b.length := by
  induction h with
  | refl b => simp
  | step hstep _ ih =>
    have hpos := hv.pos hstep
    have hle := hv.le hstep
    rw [List.length_drop] at ih
    rw [List.length_cons]
    omega

/-- Emissions account for all of the input. -/
theorem Scans.length (size : ε → ℕ) (hsize : ∀ {b n e}, v b = .step n e → size e = n)
    (h : Scans v b es r) : b.length = (es.map size).sum + r.length := by
  induction h with
  | refl b => simp
  | step hstep _ ih =>
    have hle := hv.le hstep
    rw [List.length_drop] at ih
    rw [List.map_cons, List.sum_cons, hsize hstep]
    omega

end Stable

end Scanner
