import ThingDaq.Lib.Calls

/-!
# Loops that call out

`while (true)` with `continue` and `break`: the body either goes on with a new value of the
loop variables or ends the loop with a result.  The loop runs on fuel and gives nothing when
that is used up, so its rule asks for a measure and promises a result.

## Main definitions

* `Prog.loop` — at most so many turns of a body.
* `Prog.state` — a computation on the state that gives a value.

## Main results

* `wp_loop` — the rule for loops: an invariant that knows the calls made so far, and a
  measure below the fuel.
-/

namespace Calls.Prog

variable {I : Interface} {σ α β ρ : Type}

/-- What a turn of a loop says. -/
inductive Turn (ρ α : Type)
  | again (r : ρ)
  | leave (a : α)

/-- At most `fuel` turns. -/
def loop (body : ρ → Prog I σ (Turn ρ α)) : ℕ → ρ → Prog I σ (Option α)
  | 0, _ => pure none
  | fuel + 1, r => do
    match ← body r with
    | .again r => loop body fuel r
    | .leave a => pure (some a)

/-- A computation on the state that gives a value. -/
def state (f : σ → α × σ) : Prog I σ α := do
  let s ← get
  modify fun _ => (f s).2
  return (f s).1

section Rules

variable {s : σ}

theorem wp_get_bind {q : σ → Prog I σ β} {Q : β → σ → List (Call I σ) → Prop} :
    (get >>= q).wp s Q ↔ (q s).wp s Q := Iff.rfl

theorem wp_modify_bind {f : σ → σ} {q : Unit → Prog I σ β} {Q : β → σ → List (Call I σ) → Prop} :
    (modify f >>= q).wp s Q ↔ (q ()).wp (f s) Q := Iff.rfl

theorem wp_state_bind {f : σ → α × σ} {q : α → Prog I σ β}
    {Q : β → σ → List (Call I σ) → Prop} :
    (state f >>= q).wp s Q ↔ (q (f s).1).wp (f s).2 Q := Iff.rfl

theorem wp_invoke_bind {op : I.Op} {q : I.Reply op → Prog I σ β}
    {Q : β → σ → List (Call I σ) → Prop} :
    (invoke op >>= q).wp s Q ↔
      ∀ r, (q r).wp s fun b s' calls => Q b s' (⟨s, op, r⟩ :: calls) := Iff.rfl

theorem wp_ite {c : Prop} [Decidable c] {p q : Prog I σ α} {Q : α → σ → List (Call I σ) → Prop}
    (hp : c → p.wp s Q) (hq : ¬ c → q.wp s Q) : (if c then p else q).wp s Q := by
  split
  · rename_i hc
    exact hp hc
  · rename_i hc
    exact hq hc

/-- What a turn of a loop has to do: keep the invariant and use up some of the measure, or
end with a result. -/
def Turned (inv : ρ → σ → List (Call I σ) → Prop) (measure : ρ → σ → ℕ)
    (Q : α → σ → List (Call I σ) → Prop) (r : ρ) (s : σ) (past : List (Call I σ)) :
    Turn ρ α → σ → List (Call I σ) → Prop
  | .again r', s', calls => inv r' s' (past ++ calls) ∧ measure r' s' < measure r s
  | .leave a, s', calls => Q a s' (past ++ calls)

section Turned

variable {inv : ρ → σ → List (Call I σ) → Prop} {measure : ρ → σ → ℕ}
  {Q : α → σ → List (Call I σ) → Prop} {r r' : ρ} {s' : σ} {a : α} {past calls : List (Call I σ)}

theorem turned_again (h : inv r' s' (past ++ calls)) (hless : measure r' s' < measure r s) :
    Turned inv measure Q r s past (.again r') s' calls := ⟨h, hless⟩

theorem turned_leave (h : Q a s' (past ++ calls)) :
    Turned inv measure Q r s past (.leave a) s' calls := h

/-- A call before the rest of the turn. -/
theorem turned_cons {c : Call I σ} {turn : Turn ρ α}
    (h : Turned inv measure Q r s (past ++ [c]) turn s' calls) :
    Turned inv measure Q r s past turn s' (c :: calls) := by
  cases turn with
  | again r' =>
    obtain ⟨hinv, hless⟩ := h
    rw [List.append_assoc] at hinv
    exact ⟨hinv, hless⟩
  | leave a =>
    change Q a s' (past ++ [c] ++ calls) at h
    rw [List.append_assoc] at h
    exact h

end Turned

/-- A loop whose turns keep the invariant and use up the measure ends, with what its last
turn gives. -/
theorem wp_loop {body : ρ → Prog I σ (Turn ρ α)} (inv : ρ → σ → List (Call I σ) → Prop)
    (measure : ρ → σ → ℕ) {Q : α → σ → List (Call I σ) → Prop}
    (hbody : ∀ r s past, inv r s past → (body r).wp s (Turned inv measure Q r s past))
    {fuel : ℕ} {r : ρ} {past : List (Call I σ)} (hinv : inv r s past) (hfuel : measure r s < fuel) :
    (loop body fuel r).wp s fun result s' calls =>
      ∃ a, result = some a ∧ Q a s' (past ++ calls) := by
  induction fuel generalizing r s past with
  | zero => exact absurd hfuel (Nat.not_lt_zero _)
  | succ fuel ih =>
    unfold loop
    apply wp_bind
    refine wp_mono (hbody r s past hinv) ?_
    intro turn s' calls hturn
    cases turn with
    | again r' =>
      obtain ⟨hinv', hless⟩ := hturn
      refine wp_mono (ih hinv' (by omega)) ?_
      rintro result s'' calls' ⟨a, ha, hQ⟩
      exact ⟨a, ha, by rwa [List.append_assoc] at hQ⟩
    | leave a =>
      refine wp_pure ⟨a, rfl, ?_⟩
      rw [List.append_nil]
      exact hturn

end Rules

end Calls.Prog
