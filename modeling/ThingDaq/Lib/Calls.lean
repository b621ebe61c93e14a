import Mathlib.Data.List.Basic

/-!
# Programs that call out

A program with a state of its own calls an outside world and goes on with the reply.
Nothing is assumed of the world: an `Env` answers every call, and its answer may go by
everything that was called before, so what holds for every `Env` holds for every order in
which the outside can act between two calls.

## Main definitions

* `Prog` — the programs; `run` executes one, and gives the calls it made.
* `wp p s Q` — whatever the world answers, `p` ends with `Q`.
* `Keeps view allowed p` — `p` makes only `allowed` calls and leaves the `view` of the
  state alone.
* `LastReply calls op r` — the reply that a program acted on last.

## Main results

* `run_of_wp` — the weakest precondition speaks of every execution.
* `wp_bind`, `keeps_bind` — sequencing.
-/

namespace Calls

/-- What a program can call, and the replies it can get. -/
structure Interface where
  Op : Type
  Reply : Op → Type

inductive Prog (I : Interface) (σ α : Type)
  | done (a : α)
  | update (f : σ → σ) (k : σ → Prog I σ α)
  | call (op : I.Op) (k : I.Reply op → Prog I σ α)

/-- A call that was made, with the state it was made in. -/
structure Call (I : Interface) (σ : Type) where
  state : σ
  op : I.Op
  reply : I.Reply op

/-- The outside world: it sees what was called so far. -/
abbrev Env (I : Interface) (σ : Type) := List (Call I σ) → (op : I.Op) → I.Reply op

structure Outcome (I : Interface) (σ α : Type) where
  value : α
  state : σ
  calls : List (Call I σ)

variable {I : Interface} {σ α β γ : Type}

namespace Prog

def bind : Prog I σ α → (α → Prog I σ β) → Prog I σ β
  | done a, q => q a
  | update f k, q => update f fun s => (k s).bind q
  | call op k, q => call op fun r => (k r).bind q

instance : Monad (Prog I σ) where
  pure := done
  bind := bind

def get : Prog I σ σ := update id done

def modify (f : σ → σ) : Prog I σ Unit := update f fun _ => done ()

/-- Call and return the reply. -/
def invoke (op : I.Op) : Prog I σ (I.Reply op) := call op done

/-- Run `p` if `b` holds; the value is `a` otherwise. -/
def ifSo (b : Bool) (p : Prog I σ α) (a : α) : Prog I σ α := if b then p else pure a

/-- Execute in a world that has seen the calls in `past`. -/
def run (env : Env I σ) : Prog I σ α → σ → List (Call I σ) → Outcome I σ α
  | done a, s, _ => ⟨a, s, []⟩
  | update f k, s, past => (k (f s)).run env (f s) past
  | call op k, s, past =>
    let made : Call I σ := ⟨s, op, env past op⟩
    let rest := (k (env past op)).run env s (past ++ [made])
    { rest with calls := made :: rest.calls }

/-! ### Weakest preconditions -/

/-- Whatever the world answers, the program ends with a value, a state and calls in `Q`. -/
def wp : Prog I σ α → σ → (α → σ → List (Call I σ) → Prop) → Prop
  | done a, s, Q => Q a s []
  | update f k, s, Q => (k (f s)).wp (f s) Q
  | call op k, s, Q => ∀ r, (k r).wp s fun a s' calls => Q a s' (⟨s, op, r⟩ :: calls)

variable {p : Prog I σ α} {s : σ} {Q Q' : α → σ → List (Call I σ) → Prop}

theorem run_of_wp (env : Env I σ) (past : List (Call I σ)) (h : p.wp s Q) :
    Q (p.run env s past).value (p.run env s past).state (p.run env s past).calls := by
  induction p generalizing s past Q with
  | done a => exact h
  | update f k ih => exact ih (f s) past h
  | call op k ih => exact ih (env past op) (past ++ [⟨s, op, env past op⟩]) (h (env past op))

theorem wp_mono (h : p.wp s Q) (hQ : ∀ a s' calls, Q a s' calls → Q' a s' calls) :
    p.wp s Q' := by
  induction p generalizing s Q Q' with
  | done a => exact hQ a s [] h
  | update f k ih => exact ih (f s) h hQ
  | call op k ih =>
    intro r
    exact ih r (h r) fun a s' calls => hQ a s' (⟨s, op, r⟩ :: calls)

theorem wp_bind {q : α → Prog I σ β} {Q : β → σ → List (Call I σ) → Prop}
    (h : p.wp s fun a s' calls => (q a).wp s' fun b s'' calls' => Q b s'' (calls ++ calls')) :
    (p >>= q).wp s Q := by
  change (p.bind q).wp s Q
  induction p generalizing s Q with
  | done a => exact h
  | update f k ih => exact ih (f s) h
  | call op k ih =>
    intro r
    exact ih r (h r)

theorem wp_pure {a : α} (h : Q a s []) : (pure a : Prog I σ α).wp s Q := h

theorem wp_get {Q : σ → σ → List (Call I σ) → Prop} (h : Q s s []) :
    (get : Prog I σ σ).wp s Q := h

theorem wp_modify {f : σ → σ} {Q : Unit → σ → List (Call I σ) → Prop} (h : Q () (f s) []) :
    (modify f : Prog I σ Unit).wp s Q := h

theorem wp_invoke {op : I.Op} {Q : I.Reply op → σ → List (Call I σ) → Prop}
    (h : ∀ r, Q r s [⟨s, op, r⟩]) : (invoke op : Prog I σ (I.Reply op)).wp s Q := h

/-! ### Frames -/

/-- The calls are allowed ones, made while the state looks like `s`. -/
def Quiet (view : σ → γ) (allowed : I.Op → Prop) (s : σ) (calls : List (Call I σ)) : Prop :=
  ∀ c ∈ calls, view c.state = view s ∧ allowed c.op

/-- The program leaves the view of the state alone and makes allowed calls only. -/
def Keeps (view : σ → γ) (allowed : I.Op → Prop) (p : Prog I σ α) : Prop :=
  ∀ s, p.wp s fun _ s' calls => view s' = view s ∧ Quiet view allowed s calls

variable {view : σ → γ} {allowed : I.Op → Prop}

theorem quiet_nil : Quiet view allowed s [] := by
  intro c hc
  cases hc

theorem Quiet.append {calls calls' : List (Call I σ)} {s' : σ} (h : Quiet view allowed s calls)
    (hs : view s' = view s) (h' : Quiet view allowed s' calls') :
    Quiet view allowed s (calls ++ calls') := by
  intro c hc
  rcases List.mem_append.mp hc with hc | hc
  · exact h c hc
  · exact ⟨(h' c hc).1.trans hs, (h' c hc).2⟩

theorem quiet_singleton {op : I.Op} {r : I.Reply op} (h : allowed op) :
    Quiet view allowed s [⟨s, op, r⟩] := by
  intro c hc
  rw [List.mem_singleton.mp hc]
  exact ⟨rfl, h⟩

theorem keeps_pure (a : α) : Keeps view allowed (pure a : Prog I σ α) :=
  fun _ => ⟨rfl, quiet_nil⟩

theorem keeps_get : Keeps view allowed (get : Prog I σ σ) := fun _ => ⟨rfl, quiet_nil⟩

theorem keeps_modify {f : σ → σ} (h : ∀ s, view (f s) = view s) :
    Keeps view allowed (modify f : Prog I σ Unit) :=
  fun s => ⟨h s, quiet_nil⟩

theorem keeps_invoke {op : I.Op} (h : allowed op) :
    Keeps view allowed (invoke op : Prog I σ (I.Reply op)) :=
  fun _ _ => ⟨rfl, quiet_singleton h⟩

theorem keeps_bind {q : α → Prog I σ β} (hp : Keeps view allowed p)
    (hq : ∀ a, Keeps view allowed (q a)) : Keeps view allowed (p >>= q) := by
  intro s
  apply wp_bind
  refine wp_mono (hp s) ?_
  rintro a s' calls ⟨hs, hcalls⟩
  refine wp_mono (hq a s') ?_
  rintro b s'' calls' ⟨hs', hcalls'⟩
  exact ⟨hs'.trans hs, hcalls.append hs hcalls'⟩

/-- Go on after a program that keeps the view. -/
theorem wp_bind_keeps {q : α → Prog I σ β} {Q : β → σ → List (Call I σ) → Prop}
    (hp : Keeps view allowed p)
    (h : ∀ a s' calls, view s' = view s → Quiet view allowed s calls →
      (q a).wp s' fun b s'' calls' => Q b s'' (calls ++ calls')) : (p >>= q).wp s Q := by
  apply wp_bind
  refine wp_mono (hp s) ?_
  rintro a s' calls ⟨hs, hcalls⟩
  exact h a s' calls hs hcalls

theorem keeps_ite {b : Prop} [Decidable b] {q : Prog I σ α} (hp : Keeps view allowed p)
    (hq : Keeps view allowed q) : Keeps view allowed (if b then p else q) := by
  split
  · exact hp
  · exact hq

theorem keeps_ifSo {b : Bool} {a : α} (hp : Keeps view allowed p) :
    Keeps view allowed (ifSo b p a) :=
  keeps_ite hp (keeps_pure a)

/-- A coarser view of the state, and fewer calls that are allowed. -/
theorem Keeps.mono {δ : Type} {view' : σ → δ} {allowed' : I.Op → Prop}
    (h : Keeps view allowed p) (hview : ∀ s s', view s = view s' → view' s = view' s')
    (hallowed : ∀ op, allowed op → allowed' op) : Keeps view' allowed' p := by
  intro s
  refine wp_mono (h s) ?_
  rintro a s' calls ⟨hs, hcalls⟩
  exact ⟨hview _ _ hs, fun c hc => ⟨hview _ _ (hcalls c hc).1, hallowed _ (hcalls c hc).2⟩⟩

end Prog

/-! ### The last reply -/

/-- The last call of `op` got the reply `r`. -/
def LastReply (calls : List (Call I σ)) (op : I.Op) (r : I.Reply op) : Prop :=
  ∃ before after s, calls = before ++ ⟨s, op, r⟩ :: after ∧ ∀ c ∈ after, c.op ≠ op

theorem lastReply_singleton (s : σ) (op : I.Op) (r : I.Reply op) :
    LastReply [⟨s, op, r⟩] op r := by
  refine ⟨[], [], s, rfl, ?_⟩
  intro c hc
  cases hc

theorem LastReply.prepend {calls : List (Call I σ)} {op : I.Op} {r : I.Reply op}
    (earlier : List (Call I σ)) (h : LastReply calls op r) :
    LastReply (earlier ++ calls) op r := by
  obtain ⟨before, after, s, rfl, hafter⟩ := h
  exact ⟨earlier ++ before, after, s, (List.append_assoc _ _ _).symm, hafter⟩

theorem LastReply.append {calls later : List (Call I σ)} {op : I.Op} {r : I.Reply op}
    (h : LastReply calls op r) (hlater : ∀ c ∈ later, c.op ≠ op) :
    LastReply (calls ++ later) op r := by
  obtain ⟨before, after, s, rfl, hafter⟩ := h
  refine ⟨before, after ++ later, s, by rw [List.append_assoc, List.cons_append], ?_⟩
  intro c hc
  rcases List.mem_append.mp hc with hc | hc
  · exact hafter c hc
  · exact hlater c hc

end Calls
