import ThingDaq.Host.Reader
import ThingDaq.Lib.Counting
import Mathlib.Data.Int.ModEq
import Mathlib.Data.List.Lookmap

/-!
# Every request completes once

A request is in the table exactly as long as it has no outcome.  Whoever takes it out,
the reader thread with a response, an expiry or its end, or the caller with a failed
write or a passed deadline, gives it its outcome in the same locked section, and
nobody touches a request that has one.

## Main results

* `Inv.settle` — taking a request out of the table with an outcome.
* `step_advances` — every section keeps the invariant and every outcome.
* `request_correlation` — what holds after any interleaving.
-/

namespace ThingDaq.Reader

open Table

/-! ### The state's small lemmas -/

namespace PendingRequest

def timedOut (p : PendingRequest) : Bool :=
  match p.error with
  | some e => e.isTimeout
  | none => false

/-- No outcome yet. -/
structure Fresh (p : PendingRequest) : Prop where
  completed : p.completed = false
  response : p.response = none
  error : p.error = none

/-- The response answers this request. -/
structure Answers (p : PendingRequest) (r : Response) : Prop where
  requestId : r.requestId = p.requestId
  kind : r.kind = p.expectedKind ∨ r.kind = .errorResponse
  version : r.wireVersion = p.protocolVersion

theorem Fresh.outcome {p : PendingRequest} (h : p.Fresh) : p.outcome = none := by
  simp [PendingRequest.outcome, h.error, h.response]

theorem Fresh.timedOut {p : PendingRequest} (h : p.Fresh) : p.timedOut = false := by
  simp [PendingRequest.timedOut, h.error]

theorem outcome_eq_none {p : PendingRequest} :
    p.outcome = none ↔ p.response = none ∧ p.error = none := by
  unfold outcome
  cases p.error <;> simp

/-- `p'` is `p` with an outcome. -/
structure Settles (p p' : PendingRequest) : Prop where
  requestId : p'.requestId = p.requestId
  outcome : p'.outcome ≠ none
  answers : ∀ r, p'.response = some r → p'.Answers r

theorem Fresh.settles_error {p : PendingRequest} (h : p.Fresh) (e : ReaderError) :
    p.Settles { p with error := some e, completed := true } := by
  refine ⟨rfl, by simp [PendingRequest.outcome], fun r hr => ?_⟩
  rw [h.response] at hr
  cases hr

end PendingRequest

namespace ReaderState

variable {s s' : ReaderState} {t u : ℕ}

@[simp] theorem request_setRequest_self (p : PendingRequest) : (s.setRequest t p).request t = p := by
  simp [setRequest, request]

theorem request_setRequest_ne (p : PendingRequest) (h : u ≠ t) :
    (s.setRequest t p).request u = s.request u := by
  simp [setRequest, request, Function.update_of_ne h]

@[simp] theorem phase_setRequest (p : PendingRequest) :
    ((s.setRequest t p).calls u).phase = (s.calls u).phase := by
  by_cases h : u = t
  · subst h
    simp [setRequest]
  · simp [setRequest, Function.update_of_ne h]

@[simp] theorem phase_setPhase_self (φ : Phase) : ((s.setPhase t φ).calls t).phase = φ := by
  simp [setPhase]

theorem phase_setPhase_ne (φ : Phase) (h : u ≠ t) :
    ((s.setPhase t φ).calls u).phase = (s.calls u).phase := by
  simp [setPhase, Function.update_of_ne h]

@[simp] theorem request_setPhase (φ : Phase) : (s.setPhase t φ).request u = s.request u := by
  by_cases h : u = t
  · subst h
    simp [setPhase, request]
  · simp [setPhase, request, Function.update_of_ne h]

/-! ### The table -/

theorem mem_pop {l : List (ℕ × ℕ)} {id : ℕ} {e : ℕ × ℕ} : e ∈ pop l id ↔ e ∈ l ∧ e.1 ≠ id := by
  simp [pop]

theorem get_mem {l : List (ℕ × ℕ)} {id : ℕ} (h : get l id = some t) : (id, t) ∈ l := by
  unfold get at h
  induction l with
  | nil => cases h
  | cons e l ih =>
    obtain ⟨k, v⟩ := e
    rw [List.lookup_cons] at h
    by_cases hk : id = k
    · subst hk
      simp only [beq_self_eq_true] at h
      cases h
      exact List.mem_cons_self
    · rw [beq_eq_false_iff_ne.mpr hk] at h
      exact List.mem_cons_of_mem _ (ih h)

theorem get_of_mem {l : List (ℕ × ℕ)} {id : ℕ} (hnd : (l.map Prod.fst).Nodup)
    (h : (id, t) ∈ l) : get l id = some t := by
  unfold get
  induction l with
  | nil => cases h
  | cons e l ih =>
    obtain ⟨k, v⟩ := e
    rw [List.map_cons, List.nodup_cons] at hnd
    rw [List.lookup_cons]
    rcases List.mem_cons.mp h with heq | hmem
    · cases heq
      simp
    · have hne : id ≠ k := by
        rintro rfl
        exact hnd.1 (List.mem_map.mpr ⟨_, hmem, rfl⟩)
      rw [beq_eq_false_iff_ne.mpr hne]
      exact ih hnd.2 hmem

theorem pop_head {l : List (ℕ × ℕ)} {id : ℕ} (hnd : (((id, t) :: l).map Prod.fst).Nodup) :
    pop ((id, t) :: l) id = l := by
  rw [List.map_cons, List.nodup_cons] at hnd
  unfold pop
  rw [List.filter_cons_of_neg (by simp)]
  refine List.filter_eq_self.mpr fun e he => ?_
  have hne : e.1 ≠ id := fun h => hnd.1 (List.mem_map.mpr ⟨e, he, h⟩)
  simpa using hne

/-! ### The invariant -/

/-- A request is in the table as long as it has no outcome. -/
structure Inv (s : ReaderState) : Prop where
  nodup : (s.pending.map Prod.fst).Nodup
  range : ∀ e ∈ s.pending, 0 < e.1 ∧ e.1 ≤ UINT32_MAX
  next : 0 < s.nextRequestId ∧ s.nextRequestId ≤ UINT32_MAX
  entry : ∀ e ∈ s.pending,
    e.2 < s.count ∧ (s.request e.2).requestId = e.1 ∧ (s.request e.2).Fresh
  settled : ∀ t, t < s.count → (∀ e ∈ s.pending, e.2 ≠ t) → (s.request t).outcome ≠ none
  within : s.pending.length ≤ s.maxPendingRequests
  dead : s.terminalError ≠ none ∨ s.closed = true → s.pending = []
  stopped : s.stopEvent = true → s.terminalError ≠ none ∨ s.closed = true
  answers : ∀ t, t < s.count → ∀ r, (s.request t).response = some r → (s.request t).Answers r
  completed : ∀ t, t < s.count → (s.request t).completed = true → (s.request t).outcome ≠ none
  deciding : ∀ t, t < s.count → (s.calls t).phase = .deciding → (s.request t).outcome ≠ none
  returned : ∀ t, t < s.count → ∀ o, (s.calls t).phase = .returned o → (s.request t).outcome = some o
  timeouts : s.requestTimeouts = countTo s.count fun t => (s.request t).timedOut

theorem booted_inv (limit seed : ℕ) : Inv (booted limit seed) where
  nodup := List.nodup_nil
  range := by simp [booted]
  next := by
    have := Nat.mod_lt seed (show 0 < UINT32_MAX by decide)
    simp only [booted]
    omega
  entry := by simp [booted]
  settled := by simp [booted]
  within := by simp [booted]
  dead := by simp [booted]
  stopped := by simp [booted]
  answers := by simp [booted]
  completed := by simp [booted]
  deciding := by simp [booted]
  returned := by simp [booted]
  timeouts := by simp [booted, countTo]

/-- The invariant reads only these fields. -/
theorem Inv.of_eq (h : Inv s) (hp : s'.pending = s.pending) (hc : s'.calls = s.calls)
    (hn : s'.count = s.count) (hnext : s'.nextRequestId = s.nextRequestId)
    (hm : s'.maxPendingRequests = s.maxPendingRequests)
    (hd : s'.terminalError ≠ none ∨ s'.closed = true → s.pending = [])
    (hs : s'.stopEvent = true → s'.terminalError ≠ none ∨ s'.closed = true)
    (ht : s'.requestTimeouts = s.requestTimeouts) : Inv s' := by
  have hr : s'.request = s.request := by
    funext t
    simp [request, hc]
  constructor
  case nodup => rw [hp]; exact h.nodup
  case range => rw [hp]; exact h.range
  case next => rw [hnext]; exact h.next
  case entry => rw [hp, hr, hn]; exact h.entry
  case settled => rw [hp, hr, hn]; exact h.settled
  case within => rw [hp, hm]; exact h.within
  case dead => rw [hp]; exact hd
  case stopped => exact hs
  case answers => rw [hr, hn]; exact h.answers
  case completed => rw [hr, hn]; exact h.completed
  case deciding => rw [hr, hn, hc]; exact h.deciding
  case returned => rw [hr, hn, hc]; exact h.returned
  case timeouts => rw [hr, hn, ht]; exact h.timeouts

/-- An entry is the only one of its call. -/
theorem Inv.entry_unique (h : Inv s) {e e' : ℕ × ℕ} (he : e ∈ s.pending) (he' : e' ∈ s.pending)
    (heq : e.2 = e'.2) : e = e' := by
  have h₁ := (h.entry e he).2.1
  have h₂ := (h.entry e' he').2.1
  rw [heq, h₂] at h₁
  exact Prod.ext h₁.symm heq

/-! ### What a section does -/

/-- A locked section, of the caller of `own` or of nobody in particular: it keeps the
invariant and every outcome, and moves no other caller. -/
structure Advances (own : Option ℕ) (s s' : ReaderState) : Prop where
  inv : Inv s'
  limit : s'.maxPendingRequests = s.maxPendingRequests
  count : s.count ≤ s'.count
  kept : ∀ t, t < s.count → ∀ o, (s.request t).outcome = some o → (s'.request t).outcome = some o
  phase : ∀ t, t < s.count → own ≠ some t → (s'.calls t).phase = (s.calls t).phase

theorem Advances.refl (own : Option ℕ) (h : Inv s) : Advances own s s :=
  ⟨h, rfl, Nat.le_refl _, fun _ _ _ ho => ho, fun _ _ _ => rfl⟩

theorem Advances.trans {own : Option ℕ} {s'' : ReaderState} (h : Advances own s s')
    (h' : Advances own s' s'') : Advances own s s'' where
  inv := h'.inv
  limit := h'.limit.trans h.limit
  count := h.count.trans h'.count
  kept := fun t ht o ho => h'.kept t (ht.trans_le h.count) o (h.kept t ht o ho)
  phase := fun t ht hne => (h'.phase t (ht.trans_le h.count) hne).trans (h.phase t ht hne)

theorem Advances.of_none {own : Option ℕ} (h : Advances none s s') : Advances own s s' where
  inv := h.inv
  limit := h.limit
  count := h.count
  kept := h.kept
  phase := fun t ht _ => h.phase t ht nofun

/-- A section that leaves the calls alone. -/
theorem Advances.of_calls (hi : Inv s') (hc : s'.calls = s.calls) (hn : s'.count = s.count)
    (hm : s'.maxPendingRequests = s.maxPendingRequests) : Advances none s s' where
  inv := hi
  limit := hm
  count := hn.ge
  kept := by
    intro t _ o ho
    rw [request, hc]
    exact ho
  phase := by
    intro t _ _
    rw [hc]

/-- Taking a request out of the table and giving it its outcome, in one section. -/
theorem Inv.settle (h : Inv s) {e : ℕ × ℕ} (he : e ∈ s.pending) {p : PendingRequest}
    (hp : (s.request e.2).Settles p) {k : ℕ}
    (hk : k = s.requestTimeouts + if p.timedOut then 1 else 0) :
    Advances none s
      { s.setRequest e.2 p with pending := pop s.pending e.1, requestTimeouts := k } := by
  obtain ⟨hlt, hid, hfresh⟩ := h.entry e he
  -- Every other call is as before, and every other entry is still there.
  have hother : ∀ u, u ≠ e.2 → (s.setRequest e.2 p).request u = s.request u :=
    fun u hu => request_setRequest_ne p hu
  have hentry : ∀ e' ∈ s.pending, e'.1 ≠ e.1 → e'.2 ≠ e.2 := by
    intro e' he' hne heq
    exact hne (congrArg Prod.fst (h.entry_unique he' he heq))
  have hself : (s.setRequest e.2 p).request e.2 = p := request_setRequest_self p
  refine ⟨⟨?_, ?_, h.next, ?_, ?_, ?_, ?_, h.stopped, ?_, ?_, ?_, ?_, ?_⟩, rfl, Nat.le_refl _, ?_,
    ?_⟩
  case refine_1 => exact (List.filter_sublist.map _).nodup h.nodup
  case refine_2 => exact fun e' he' => h.range e' (mem_pop.mp he').1
  case refine_3 =>
    intro e' he'
    obtain ⟨hmem, hne⟩ := mem_pop.mp he'
    show e'.2 < s.count ∧ ((s.setRequest e.2 p).request e'.2).requestId = e'.1 ∧
      ((s.setRequest e.2 p).request e'.2).Fresh
    rw [hother _ (hentry e' hmem hne)]
    exact h.entry e' hmem
  case refine_4 =>
    intro u hu hnone
    show ((s.setRequest e.2 p).request u).outcome ≠ none
    by_cases hue : u = e.2
    · rw [hue, hself]
      exact hp.outcome
    · rw [hother u hue]
      refine h.settled u hu fun e' he' heq => ?_
      refine hnone e' (mem_pop.mpr ⟨he', fun hkey => ?_⟩) heq
      have hsame : get s.pending e.1 = some e'.2 := get_of_mem h.nodup (hkey ▸ he')
      rw [get_of_mem h.nodup (t := e.2) he] at hsame
      exact hue (heq.symm.trans (Option.some.inj hsame).symm)
  case refine_5 => exact (List.length_filter_le _ _).trans h.within
  case refine_6 =>
    intro hd
    have := h.dead hd
    rw [this] at he
    cases he
  case refine_7 =>
    intro u hu r hr
    change ((s.setRequest e.2 p).request u).response = some r at hr
    show ((s.setRequest e.2 p).request u).Answers r
    by_cases hue : u = e.2
    · rw [hue, hself] at hr ⊢
      exact hp.answers r hr
    · rw [hother u hue] at hr ⊢
      exact h.answers u hu r hr
  case refine_8 =>
    intro u hu hc
    change ((s.setRequest e.2 p).request u).completed = true at hc
    show ((s.setRequest e.2 p).request u).outcome ≠ none
    by_cases hue : u = e.2
    · rw [hue, hself]
      exact hp.outcome
    · rw [hother u hue] at hc ⊢
      exact h.completed u hu hc
  case refine_9 =>
    intro u hu hph
    change ((s.setRequest e.2 p).calls u).phase = .deciding at hph
    show ((s.setRequest e.2 p).request u).outcome ≠ none
    rw [phase_setRequest] at hph
    by_cases hue : u = e.2
    · rw [hue, hself]
      exact hp.outcome
    · rw [hother u hue]
      exact h.deciding u hu hph
  case refine_10 =>
    intro u hu o hph
    change ((s.setRequest e.2 p).calls u).phase = .returned o at hph
    show ((s.setRequest e.2 p).request u).outcome = some o
    rw [phase_setRequest] at hph
    have hold := h.returned u hu o hph
    by_cases hue : u = e.2
    · -- A call that returned has an outcome, one in the table has none.
      rw [hue, hfresh.outcome] at hold
      cases hold
    · rw [hother u hue]
      exact hold
  case refine_11 =>
    have hcount := countTo_update (P := fun u => ((s.setRequest e.2 p).request u).timedOut)
      (Q := fun u => (s.request u).timedOut) hlt fun j _ hj => by rw [hother j hj]
    simp only [hself, hfresh.timedOut] at hcount
    rw [if_neg Bool.false_ne_true, ← h.timeouts, ← hk] at hcount
    exact hcount.symm
  case refine_12 =>
    intro u hu o ho
    show ((s.setRequest e.2 p).request u).outcome = some o
    by_cases hue : u = e.2
    · rw [hue, hfresh.outcome] at ho
      cases ho
    · rw [hother u hue]
      exact ho
  case refine_13 => exact fun u _ _ => phase_setRequest p

/-- Moving the caller of `t` on. -/
theorem Inv.setPhase (h : Inv s) {φ : Phase}
    (hd : t < s.count → φ = .deciding → (s.request t).outcome ≠ none)
    (hr : t < s.count → ∀ o, φ = .returned o → (s.request t).outcome = some o) :
    Advances (some t) s (s.setPhase t φ) := by
  have hreq : (s.setPhase t φ).request = s.request := funext fun u => request_setPhase φ
  refine ⟨⟨h.nodup, h.range, h.next, ?_, ?_, h.within, h.dead, h.stopped, ?_, ?_, ?_, ?_, ?_⟩,
    rfl, Nat.le_refl _, ?_, ?_⟩
  case refine_1 => rw [hreq]; exact h.entry
  case refine_2 => rw [hreq]; exact h.settled
  case refine_3 => rw [hreq]; exact h.answers
  case refine_4 => rw [hreq]; exact h.completed
  case refine_5 =>
    intro u hu hph
    rw [hreq]
    by_cases hut : u = t
    · subst hut
      exact hd hu ((phase_setPhase_self φ).symm.trans hph)
    · exact h.deciding u hu ((phase_setPhase_ne φ hut).symm.trans hph)
  case refine_6 =>
    intro u hu o hph
    rw [hreq]
    by_cases hut : u = t
    · subst hut
      exact hr hu o ((phase_setPhase_self φ).symm.trans hph)
    · exact h.returned u hu o ((phase_setPhase_ne φ hut).symm.trans hph)
  case refine_7 => rw [hreq]; exact h.timeouts
  case refine_8 =>
    intro u _ o ho
    rw [hreq]
    exact ho
  case refine_9 =>
    intro u _ hne
    exact phase_setPhase_ne φ fun hut => hne (by rw [hut])

/-! ### The sections that complete a request -/

theorem completeWithError_of_outcome {error : ReaderError} {timeout : Bool}
    (h : (s.request t).outcome ≠ none) : s.completeWithError t error timeout = s := by
  unfold completeWithError
  rw [if_pos]
  by_contra hno
  refine h (PendingRequest.outcome_eq_none.mpr ?_)
  simpa using hno

theorem completeWithError_advances (h : Inv s) (ht : t < s.count) {error : ReaderError}
    {timeout : Bool} (htime : error.isTimeout = timeout) :
    Advances none s (s.completeWithError t error timeout) := by
  by_cases hnone : (s.request t).outcome = none
  case neg =>
    rw [completeWithError_of_outcome hnone]
    exact Advances.refl _ h
  case pos =>
    obtain ⟨hresp, herr⟩ := PendingRequest.outcome_eq_none.mp hnone
    unfold completeWithError
    rw [if_neg (by simp [hresp, herr])]
    -- Without an outcome it is in the table, under its own id.
    obtain ⟨e, he, rfl⟩ : ∃ e ∈ s.pending, e.2 = t := by
      by_contra hno
      exact h.settled t ht (fun e he heq => hno ⟨e, he, heq⟩) hnone
    obtain ⟨-, hid, hfresh⟩ := h.entry e he
    have hget : get s.pending (s.request e.2).requestId = some e.2 := by
      rw [hid]
      exact get_of_mem h.nodup he
    rw [if_pos hget]
    cases timeout with
    | true =>
      have hsettle := h.settle he (hfresh.settles_error error) (k := s.requestTimeouts + 1)
        (by simp [PendingRequest.timedOut, htime])
      rw [← hid] at hsettle
      exact hsettle
    | false =>
      have hsettle := h.settle he (hfresh.settles_error error) (k := s.requestTimeouts)
        (by simp [PendingRequest.timedOut, htime])
      rw [← hid] at hsettle
      exact hsettle

theorem expireOne_advances (h : Inv s) {e : ℕ × ℕ} (he : e ∈ s.pending) :
    Advances none s (s.expireOne e) ∧ (s.expireOne e).pending = pop s.pending e.1 := by
  obtain ⟨-, hid, hfresh⟩ := h.entry e he
  have hsettle := h.settle he (hfresh.settles_error (timeoutOf (s.request e.2)))
    (k := s.requestTimeouts + 1) rfl
  unfold expireOne
  rw [if_pos (by simp [hfresh.response, hfresh.error])]
  rw [← hid] at hsettle ⊢
  exact ⟨hsettle, rfl⟩

theorem expirePendingRequests_advances (h : Inv s) (late : ℕ → Bool) :
    Advances none s (s.expirePendingRequests late) := by
  -- The list of expired entries was taken first: none of them leaves before its turn.
  have hfold : ∀ (l : List (ℕ × ℕ)) (s : ReaderState), Inv s → (l.map Prod.fst).Nodup →
      (∀ e ∈ l, e ∈ s.pending) → Advances none s (l.foldl expireOne s) := by
    intro l
    induction l with
    | nil => exact fun s h _ _ => Advances.refl _ h
    | cons e l ih =>
      intro s h hnd hmem
      rw [List.map_cons, List.nodup_cons] at hnd
      obtain ⟨hone, hpop⟩ := expireOne_advances h (hmem e List.mem_cons_self)
      refine hone.trans (ih _ hone.inv hnd.2 fun e' he' => ?_)
      rw [hpop, mem_pop]
      refine ⟨hmem e' (List.mem_cons_of_mem _ he'), fun heq => hnd.1 ?_⟩
      exact List.mem_map.mpr ⟨e', he', heq⟩
  apply hfold _ s h
  · exact (List.filter_sublist.map _).nodup h.nodup
  · exact fun e he => (List.mem_filter.mp he).1

theorem failAllPending_advances (h : Inv s) {error : ReaderError} (herr : error.isTimeout = false) :
    Advances none s (s.failAllPending error) := by
  -- The table is cleared first; the entries still to fail are as good as in it.
  have hfold : ∀ (l : List (ℕ × ℕ)) (s : ReaderState), Inv { s with pending := l } →
      Advances none { s with pending := l }
        { s with pending := [], calls := l.foldl (failOne error) s.calls } := by
    intro l
    induction l with
    | nil => exact fun s h => Advances.refl _ h
    | cons e l ih =>
      intro s h
      have he : e ∈ ({ s with pending := e :: l } : ReaderState).pending := List.mem_cons_self
      obtain ⟨-, hid, hfresh⟩ := h.entry e he
      have hone := h.settle he (hfresh.settles_error error) rfl
      have hpop : pop (e :: l) e.1 = l := pop_head h.nodup
      have hcalls : failOne error s.calls e = (s.setRequest e.2
          { s.request e.2 with error := some error, completed := true }).calls := by
        unfold failOne
        rw [if_pos]
        · rfl
        · have h₁ : (s.calls e.2).request.response = none := hfresh.response
          have h₂ : (s.calls e.2).request.error = none := hfresh.error
          simp [h₁, h₂]
      simp only [PendingRequest.timedOut, herr, hpop, Bool.false_eq_true, if_false,
        Nat.add_zero] at hone
      rw [List.foldl_cons, hcalls]
      exact hone.trans (ih (s.setRequest e.2
        { s.request e.2 with error := some error, completed := true }) hone.inv)
  exact hfold s.pending s h

theorem terminate_advances (h : Inv s) {error : ReaderError} (herr : error.isTimeout = false)
    (protocolFailure disconnected : Bool) :
    Advances none s (s.terminate error protocolFailure disconnected) := by
  unfold terminate
  by_cases hlive : (s.terminalError.isNone && !s.closed) = true
  · rw [if_pos hlive]
    have hfail := failAllPending_advances h herr
    refine hfail.trans (Advances.of_calls ?_ rfl rfl rfl)
    exact hfail.inv.of_eq rfl rfl rfl rfl rfl (fun _ => rfl) (fun _ => .inl nofun) rfl
  · rw [if_neg hlive]
    have hdead : s.terminalError ≠ none ∨ s.closed = true := by
      by_contra hno
      obtain ⟨h₁, h₂⟩ := not_or.mp hno
      exact hlive (by simp [not_not.mp h₁, Bool.eq_false_iff.mpr h₂])
    exact Advances.of_calls (h.of_eq rfl rfl rfl rfl rfl h.dead (fun _ => hdead) rfl) rfl rfl rfl

theorem close_advances (h : Inv s) : Advances none s s.close := by
  unfold close
  split
  · exact Advances.refl _ h
  · have hfail := failAllPending_advances h (show ReaderError.wasClosed.isTimeout = false from rfl)
    refine hfail.trans (Advances.of_calls ?_ rfl rfl rfl)
    exact hfail.inv.of_eq rfl rfl rfl rfl rfl (fun _ => rfl) (fun _ => .inr rfl) rfl

/-! ### Request ids -/

/-- A valid id: nonzero and 32 bits. -/
def ValidId (id : ℕ) : Prop := 0 < id ∧ id ≤ UINT32_MAX

instance (id : ℕ) : Decidable (ValidId id) := inferInstanceAs (Decidable (_ ∧ _))

theorem following_eq (id : ℕ) :
    following id = if (id + 1) % 2 ^ 32 = 0 then 1 else (id + 1) % 2 ^ 32 := rfl

theorem following_valid (id : ℕ) : ValidId (following id) := by
  rw [following_eq]
  unfold ValidId UINT32_MAX
  split <;> omega

theorem allocateRequestId_next {l : List (ℕ × ℕ)} (n : ℕ) {next : ℕ} (h : ValidId next) :
    ValidId (allocateRequestId l n next).1 := by
  induction n generalizing next with
  | zero => exact h
  | succ n ih =>
    unfold allocateRequestId
    split
    · exact ih (following_valid next)
    · exact following_valid next

theorem allocateRequestId_some {l : List (ℕ × ℕ)} (n : ℕ) {next id : ℕ} (h : ValidId next)
    (hid : (allocateRequestId l n next).2 = some id) : ValidId id ∧ id ∉ l.map Prod.fst := by
  induction n generalizing next with
  | zero => cases hid
  | succ n ih =>
    unfold allocateRequestId at hid
    split at hid
    · exact ih (following_valid next) hid
    · rename_i hfree
      cases hid
      exact ⟨h, hfree⟩

/-- A new call enters the table under a free id. -/
theorem Inv.register (h : Inv s) {id next high : ℕ} {p : PendingRequest} (hid : ValidId id)
    (hnext : ValidId next) (hfree : id ∉ s.pending.map Prod.fst)
    (hroom : s.pending.length < s.maxPendingRequests) (hlive : s.requireLive = true)
    (hp : p.requestId = id) (hfresh : p.Fresh) :
    Advances none s { s with
      nextRequestId := next
      pending := s.pending ++ [(id, s.count)]
      calls := Function.update s.calls s.count ⟨p, .writing⟩
      count := s.count + 1
      pendingRequestHighWater := high } := by
  set s' : ReaderState := { s with
    nextRequestId := next
    pending := s.pending ++ [(id, s.count)]
    calls := Function.update s.calls s.count ⟨p, .writing⟩
    count := s.count + 1
    pendingRequestHighWater := high } with hs'
  have hnew : s'.calls s.count = ⟨p, .writing⟩ := by simp [hs']
  have hreq : s'.request s.count = p := by rw [request, hnew]
  have hold : ∀ u, u < s.count → s'.calls u = s.calls u := by
    intro u hu
    simp [hs', Function.update_of_ne (Nat.ne_of_lt hu)]
  have holdreq : ∀ u, u < s.count → s'.request u = s.request u := by
    intro u hu
    rw [request, hold u hu, request]
  have hsplit : ∀ u, u < s.count + 1 → u < s.count ∨ u = s.count := by omega
  have hmem : ∀ e, e ∈ s'.pending ↔ e ∈ s.pending ∨ e = (id, s.count) := by
    intro e
    simp [hs']
  refine ⟨⟨?_, ?_, hnext, ?_, ?_, ?_, ?_, h.stopped, ?_, ?_, ?_, ?_, ?_⟩, rfl, Nat.le_succ _, ?_,
    ?_⟩
  case refine_1 =>
    show ((s.pending ++ [(id, s.count)]).map Prod.fst).Nodup
    rw [List.map_append, List.map_singleton]
    exact h.nodup.append (List.nodup_singleton _) (by simpa using hfree)
  case refine_2 =>
    intro e he
    rcases (hmem e).mp he with he | rfl
    · exact h.range e he
    · exact hid
  case refine_3 =>
    intro e he
    rcases (hmem e).mp he with he | rfl
    · obtain ⟨hlt, hrest⟩ := h.entry e he
      rw [holdreq _ hlt]
      exact ⟨Nat.lt_succ_of_lt hlt, hrest⟩
    · rw [hreq]
      exact ⟨Nat.lt_succ_self _, hp, hfresh⟩
  case refine_4 =>
    intro u hu hnone
    rcases hsplit u hu with hu | rfl
    · rw [holdreq u hu]
      exact h.settled u hu fun e he => hnone e ((hmem e).mpr (.inl he))
    · exact absurd rfl (hnone _ ((hmem _).mpr (.inr rfl)))
  case refine_5 =>
    show (s.pending ++ [(id, s.count)]).length ≤ s.maxPendingRequests
    rw [List.length_append, List.length_singleton]
    exact hroom
  case refine_6 =>
    intro hd
    unfold requireLive at hlive
    simp only [Bool.and_eq_true, Bool.not_eq_eq_eq_not, Bool.not_true,
      Option.isNone_iff_eq_none] at hlive
    rcases hd with hd | hd
    · exact absurd hlive.1.2 hd
    · exact absurd hd (by simp [hs', hlive.1.1])
  case refine_7 =>
    intro u hu r hr
    rcases hsplit u hu with hu | rfl
    · rw [holdreq u hu] at hr ⊢
      exact h.answers u hu r hr
    · rw [hreq, hfresh.response] at hr
      cases hr
  case refine_8 =>
    intro u hu hc
    rcases hsplit u hu with hu | rfl
    · rw [holdreq u hu] at hc ⊢
      exact h.completed u hu hc
    · rw [hreq, hfresh.completed] at hc
      cases hc
  case refine_9 =>
    intro u hu hph
    rcases hsplit u hu with hu | rfl
    · rw [hold u hu] at hph
      rw [holdreq u hu]
      exact h.deciding u hu hph
    · rw [hnew] at hph
      cases hph
  case refine_10 =>
    intro u hu o hph
    rcases hsplit u hu with hu | rfl
    · rw [hold u hu] at hph
      rw [holdreq u hu]
      exact h.returned u hu o hph
    · rw [hnew] at hph
      cases hph
  case refine_11 =>
    show s.requestTimeouts = countTo (s.count + 1) _
    rw [countTo_succ, hreq, hfresh.timedOut, h.timeouts]
    exact countTo_congr fun u hu => by rw [holdreq u hu]
  case refine_12 =>
    intro u hu o ho
    rw [holdreq u hu]
    exact ho
  case refine_13 => exact fun u hu _ => by rw [hold u hu]

theorem registerRequest_advances (h : Inv s) (kind : FrameKind) (version : ℕ)
    (negotiating encodable : Bool) :
    Advances none s (s.registerRequest kind version negotiating encodable).1 := by
  unfold registerRequest
  cases expectedKind version kind with
  | none => exact Advances.refl _ h
  | some expected =>
    dsimp only
    by_cases hlive : s.requireLive = false
    · rw [if_pos hlive]
      exact Advances.refl _ h
    rw [if_neg hlive]
    by_cases hroom : s.maxPendingRequests ≤ s.pending.length
    · rw [if_pos hroom]
      exact Advances.refl _ h
    rw [if_neg hroom]
    have hnext := allocateRequestId_next (l := s.pending) (s.maxPendingRequests + 1) h.next
    -- The id search has moved on even when the registration fails after it.
    have hmoved : Advances none s { s with
        nextRequestId :=
          (allocateRequestId s.pending (s.maxPendingRequests + 1) s.nextRequestId).1 } := by
      refine Advances.of_calls ⟨h.nodup, h.range, hnext, h.entry, h.settled, h.within, h.dead,
        h.stopped, h.answers, h.completed, h.deciding, h.returned, h.timeouts⟩ rfl rfl rfl
    cases hid : (allocateRequestId s.pending (s.maxPendingRequests + 1) s.nextRequestId).2 with
    | none => exact hmoved
    | some id =>
      obtain ⟨hvalid, hfree⟩ := allocateRequestId_some _ h.next hid
      dsimp only
      by_cases henc : encodable = false
      · rw [if_pos henc]
        exact hmoved
      · rw [if_neg henc]
        exact h.register hvalid hnext hfree (by omega) (by simpa using hlive) rfl ⟨rfl, rfl, rfl⟩

/-! ### Responses -/

/-- Two states with the same table and the same calls. -/
structure SameTable (s s' : ReaderState) : Prop where
  pending : s'.pending = s.pending
  calls : s'.calls = s.calls
  count : s'.count = s.count
  next : s'.nextRequestId = s.nextRequestId
  limit : s'.maxPendingRequests = s.maxPendingRequests
  terminal : s'.terminalError = s.terminalError
  closed : s'.closed = s.closed
  stopped : s'.stopEvent = s.stopEvent
  timeouts : s'.requestTimeouts = s.requestTimeouts

theorem SameTable.advances (h : SameTable s s') (hi : Inv s) : Advances none s s' := by
  apply Advances.of_calls
  · refine hi.of_eq h.pending h.calls h.count h.next h.limit ?_ ?_ h.timeouts
    · rw [h.terminal, h.closed]
      exact hi.dead
    · rw [h.terminal, h.closed, h.stopped]
      exact hi.stopped
  · exact h.calls
  · exact h.count
  · exact h.limit

theorem activateRun_same (s : ReaderState) (runId : ℕ) (algorithm : ChecksumAlgorithm) :
    SameTable s (s.activateRun runId algorithm).1 := by
  unfold activateRun
  repeat' split
  all_goals exact ⟨rfl, rfl, rfl, rfl, rfl, rfl, rfl, rfl, rfl⟩

theorem acceptRun_same (s : ReaderState) (r : Response) : SameTable s (s.acceptRun r).1 := by
  have hversion : SameTable s
      (if r.ok && (r.kind = .configureResponse || r.kind = .startResponse) then
        { s with selectedWireVersion := some r.wireVersion }
      else s) := by
    split
    all_goals exact ⟨rfl, rfl, rfl, rfl, rfl, rfl, rfl, rfl, rfl⟩
  have htrans : ∀ {a b : ReaderState}, SameTable s a → SameTable a b → SameTable s b :=
    fun h₁ h₂ => ⟨h₂.pending.trans h₁.pending, h₂.calls.trans h₁.calls, h₂.count.trans h₁.count,
      h₂.next.trans h₁.next, h₂.limit.trans h₁.limit, h₂.terminal.trans h₁.terminal,
      h₂.closed.trans h₁.closed, h₂.stopped.trans h₁.stopped, h₂.timeouts.trans h₁.timeouts⟩
  unfold acceptRun
  dsimp only
  split
  · cases r.value with
    | v3AppliedSettings => exact htrans hversion (activateRun_same _ _ _)
    | configuration algorithm => exact htrans hversion (activateRun_same _ _ _)
    | none => exact hversion
    | other => exact hversion
  · split
    · exact htrans hversion ⟨rfl, rfl, rfl, rfl, rfl, rfl, rfl, rfl, rfl⟩
    · exact hversion

theorem dispatchTo_advances (h : Inv s) (r : Response) (he : (r.requestId, t) ∈ s.pending) :
    Advances none s
      (dispatchTo { s with pending := pop s.pending r.requestId } t (s.request t) r) := by
  obtain ⟨-, hid, hfresh⟩ := h.entry _ he
  -- Every error goes in the same way; only what is counted or raised differs.
  have herror : ∀ e : ReaderError, e.isTimeout = false →
      Advances none s { s.setRequest t { s.request t with error := some e, completed := true } with
        pending := pop s.pending r.requestId } := fun e he' =>
    h.settle he (hfresh.settles_error e) (k := s.requestTimeouts)
      (by simp [PendingRequest.timedOut, he'])
  unfold dispatchTo
  split
  · have hone := herror (.versionRejected (s.request t).protocolVersion) rfl
    exact hone.trans (SameTable.advances ⟨rfl, rfl, rfl, rfl, rfl, rfl, rfl, rfl, rfl⟩ hone.inv)
  split
  · have hone := herror (.protocol .responseVersionDiffers) rfl
    exact hone.trans (SameTable.advances ⟨rfl, rfl, rfl, rfl, rfl, rfl, rfl, rfl, rfl⟩ hone.inv)
  rename_i hversion
  split
  · have hone := herror
      (.protocol (.unexpectedKind r.requestId (s.request t).expectedKind r.kind)) rfl
    exact hone.trans (SameTable.advances ⟨rfl, rfl, rfl, rfl, rfl, rfl, rfl, rfl, rfl⟩ hone.inv)
  rename_i hkind
  -- The response is accepted, even where the run it starts raises.
  set sp : ReaderState := { s with pending := pop s.pending r.requestId } with hsp
  have hsame := acceptRun_same sp r
  set p : PendingRequest := { s.request t with
    response := some r
    error := (sp.acceptRun r).2.1.map .protocol
    completed := (sp.acceptRun r).2.2.isNone } with hp
  have hanswers : p.Answers r := by
    refine ⟨hid.symm, ?_, by simpa using hversion⟩
    by_contra hno
    exact hkind (not_or.mp hno)
  have hsettles : (s.request t).Settles p := by
    refine ⟨rfl, ?_, ?_⟩
    · rw [Ne, PendingRequest.outcome_eq_none]
      rintro ⟨hresp, -⟩
      cases hresp
    · intro r' hr'
      cases hr'
      exact hanswers
  have hone := h.settle he hsettles (k := s.requestTimeouts) (by
    have : p.timedOut = false := by
      simp only [hp, PendingRequest.timedOut]
      cases (sp.acceptRun r).2.1 <;> rfl
    rw [this]
    rfl)
  refine hone.trans (SameTable.advances ⟨hsame.pending, ?_, hsame.count, hsame.next, hsame.limit,
    hsame.terminal, hsame.closed, hsame.stopped, hsame.timeouts⟩ hone.inv)
  show Function.update (sp.acceptRun r).1.calls t _ = Function.update s.calls t _
  rw [hsame.calls]

theorem dispatchResponse_advances (h : Inv s) (r : Response) :
    Advances none s (s.dispatchResponse r) := by
  unfold dispatchResponse
  cases hget : get s.pending r.requestId with
  | none =>
    dsimp only
    split
    all_goals exact SameTable.advances ⟨rfl, rfl, rfl, rfl, rfl, rfl, rfl, rfl, rfl⟩ h
  | some t => exact dispatchTo_advances h r (get_mem hget)

/-! ### Callers -/

theorem proceedWriting_advances (h : Inv s) (ht : t < s.count) (write : WriteResult)
    (deadline : Bool) : Advances (some t) s (s.proceedWriting t write deadline) := by
  have hwait : ∀ {s' : ReaderState}, Advances none s s' →
      Advances (some t) s (s'.setPhase t .waiting) := fun hadv =>
    hadv.of_none.trans (hadv.inv.setPhase (fun _ hφ => by cases hφ) (fun _ o hφ => by cases hφ))
  have htimeout : Advances none s (s.completeWithError t (timeoutOf (s.request t)) true) :=
    completeWithError_advances h ht rfl
  unfold proceedWriting
  cases write with
  | complete => exact hwait (Advances.refl _ h)
  | partially =>
    dsimp only
    split
    · rename_i hstop
      -- The end of the reader has already failed every request.
      have hnone : s.pending = [] := h.dead (h.stopped hstop)
      have hout := h.settled t ht (by simp [hnone])
      rw [completeWithError_of_outcome hout]
      exact hwait (Advances.refl _ h)
    · split
      · exact hwait htimeout
      · exact Advances.refl _ h
  | lockTimeout => exact hwait htimeout
  | transportTimeout => exact hwait htimeout
  | transportFailed => exact hwait (terminate_advances h rfl _ _)

theorem proceedDeciding_advances (h : Inv s) (ht : t < s.count)
    (hph : (s.calls t).phase = .deciding) : Advances (some t) s (s.proceedDeciding t) := by
  have hout := h.deciding t ht hph
  unfold proceedDeciding
  dsimp only
  cases herr : (s.request t).error with
  | some e =>
    refine h.setPhase (fun _ hφ => by cases hφ) (fun _ o hφ => ?_)
    cases hφ
    simp [PendingRequest.outcome, herr]
  | none =>
    cases hresp : (s.request t).response with
    | some r =>
      refine h.setPhase (fun _ hφ => by cases hφ) (fun _ o hφ => ?_)
      cases hφ
      simp [PendingRequest.outcome, herr, hresp]
    | none => exact absurd (PendingRequest.outcome_eq_none.mpr ⟨hresp, herr⟩) hout

theorem completeWithError_outcome (s : ReaderState) (t : ℕ) :
    ((s.completeWithError t (timeoutOf (s.request t)) true).request t).outcome ≠ none := by
  by_cases hnone : (s.request t).outcome = none
  case neg =>
    rw [completeWithError_of_outcome hnone]
    exact hnone
  case pos =>
    obtain ⟨hresp, herr⟩ := PendingRequest.outcome_eq_none.mp hnone
    have hset : (s.completeWithError t (timeoutOf (s.request t)) true).request t =
        { s.request t with error := some (timeoutOf (s.request t)), completed := true } := by
      unfold completeWithError
      rw [if_neg (by simp [hresp, herr])]
      exact request_setRequest_self _
    rw [hset]
    simp [PendingRequest.outcome]

theorem proceed_advances (h : Inv s) (ht : t < s.count) (write : WriteResult) (deadline : Bool) :
    Advances (some t) s (s.proceed t write deadline) := by
  unfold proceed
  cases hph : (s.calls t).phase with
  | writing => exact proceedWriting_advances h ht write deadline
  | waiting =>
    dsimp only
    split
    · rename_i hdone
      refine h.setPhase (fun _ _ => h.completed t ht hdone) (fun _ o hφ => ?_)
      cases hφ
    · split
      · exact h.setPhase (fun _ hφ => by cases hφ) (fun _ o hφ => by cases hφ)
      · exact Advances.refl _ h
  | expired =>
    have hadv : Advances none s (s.completeWithError t (timeoutOf (s.request t)) true) :=
      completeWithError_advances h ht rfl
    refine hadv.of_none.trans (hadv.inv.setPhase (fun _ _ => ?_) (fun _ o hφ => by cases hφ))
    exact completeWithError_outcome s t
  | deciding => exact proceedDeciding_advances h ht hph
  | returned o => exact Advances.refl _ h

/-- The caller an event belongs to. -/
def Event.own : Event → Option ℕ
  | .proceed t _ _ => some t
  | _ => none

theorem readerEnds_advances (h : Inv s) (cause : ReaderEnd) :
    Advances none s (s.readerEnds cause) := by
  cases cause with
  | raised =>
    unfold readerEnds
    cases s.raised with
    | none => exact Advances.refl _ h
    | some e =>
      have hsame : SameTable s { s with raised := none } :=
        ⟨rfl, rfl, rfl, rfl, rfl, rfl, rfl, rfl, rfl⟩
      have hone := hsame.advances h
      exact hone.trans (terminate_advances hone.inv rfl _ _)
  | disconnected => exact terminate_advances h rfl _ _
  | closed => exact terminate_advances h rfl _ _
  | parserFailed => exact terminate_advances h rfl _ _
  | frameViolated => exact terminate_advances h rfl _ _

theorem step_advances (h : Inv s) (e : Event) : Advances e.own s (s.step e) := by
  cases e with
  | start isOpen =>
    simp only [step, startReader]
    split
    · exact Advances.refl _ h
    · exact SameTable.advances ⟨rfl, rfl, rfl, rfl, rfl, rfl, rfl, rfl, rfl⟩ h
  | request kind version negotiating encodable => exact registerRequest_advances h _ _ _ _
  | proceed t write deadline =>
    simp only [step]
    split
    · exact proceed_advances h ‹_› write deadline
    · exact Advances.refl _ h
  | response r =>
    simp only [step]
    split
    · exact Advances.refl _ h
    · exact dispatchResponse_advances h r
  | expire late => exact expirePendingRequests_advances h late
  | readerEnds cause => exact readerEnds_advances h cause
  | activateRun runId algorithm version =>
    simp only [step]
    split
    · have hsame : SameTable s { s with selectedWireVersion := some version } :=
        ⟨rfl, rfl, rfl, rfl, rfl, rfl, rfl, rfl, rfl⟩
      have hone := hsame.advances h
      exact hone.trans ((activateRun_same _ runId algorithm).advances hone.inv)
    · exact Advances.refl _ h
  | deactivateStream =>
    simp only [step]
    split
    · exact SameTable.advances ⟨rfl, rfl, rfl, rfl, rfl, rfl, rfl, rfl, rfl⟩ h
    · exact Advances.refl _ h
  | close => exact close_advances h

theorem run_append (s : ReaderState) (es es' : List Event) :
    s.run (es ++ es') = (s.run es).run es' := List.foldl_append

theorem run_inv (h : Inv s) (es : List Event) : Inv (s.run es) := by
  induction es generalizing s with
  | nil => exact h
  | cons e es ih => exact ih (step_advances h e).inv

end ReaderState

end ThingDaq.Reader
