import ThingDaq.Firmware.Control
import Mathlib.Logic.Relation

/-!
# The invariant of the control state

Whatever the protocol version, a dispatch changes the control state by a few
moves.  `Move` lists them; a call is a chain of moves (`dispatch_moves`), and every
property of the state is proved move by move.

## Main results

* `dispatch_moves`, `recoverToIdle_moves` — what the calls do, in moves.
* `control_invariant` — the invariant holds after any sequence of calls, and each
  call that leaves `running` leaves a stop pending.
-/

namespace ThingDaq.Control

open Relation

/-- The part of the control state that decides what happens next. -/
structure Core where
  settingsKnown : Bool
  negotiatedVersion : UInt8
  state : DeviceState
  configuration : Configuration
  hasConfiguration : Bool
  runId : UInt32
  pending : PendingMask

def ControlState.core {σ : Type} (s : ControlState σ) : Core :=
  ⟨s.settingsKnown, s.negotiatedVersion, s.state, s.configuration, s.hasConfiguration, s.runId,
    s.pending⟩

/-! ### Moves -/

inductive Move (build : Build) : Core → Core → Prop
  | settings {c : Core} (known : Bool) (h : c.state ≠ .running) :
      Move build c { c with settingsKnown := known }
  | configure {c : Core} (cfg : Configuration) (h : c.state ≠ .running)
      (hp : c.pending.isZero = true)
      (hv : cfg.protocolVersion = V1.kProtocolVersion ∨ cfg.protocolVersion = V2.kProtocolVersion) :
      Move build c { c with
        state := .configured
        configuration := cfg
        negotiatedVersion := cfg.protocolVersion
        hasConfiguration := true }
  | configureV3 {c : Core} (h : c.state ≠ .running) (hp : c.pending.isZero = true) :
      Move build c { c with
        state := .idle
        configuration := Configuration.idle build
        hasConfiguration := false
        negotiatedVersion := V3.kProtocolVersion }
  | start {c : Core} (hk : c.settingsKnown = true) (h : c.state = .configured)
      (hp : c.pending.isZero = true) :
      Move build c { c with
        state := .running
        runId := nextNonzero c.runId
        pending := { c.pending with startEpoch := true } }
  | startV3 {c : Core} (cfg : Configuration) (hk : c.settingsKnown = true) (h : c.state ≠ .running)
      (hp : c.pending.isZero = true) (hv : cfg.protocolVersion = V3.kProtocolVersion) :
      Move build c { c with
        state := .running
        configuration := cfg
        hasConfiguration := true
        negotiatedVersion := V3.kProtocolVersion
        runId := nextNonzero c.runId
        pending := { c.pending with startEpoch := true } }
  | idle {c : Core} (needsStopSignal : Bool) (h : c.state = .running → needsStopSignal = true) :
      Move build c { c with
        state := .idle
        configuration := Configuration.idle build
        hasConfiguration := false
        pending := ⟨false, c.pending.stop || needsStopSignal⟩ }

abbrev Moves (build : Build) : Core → Core → Prop := ReflTransGen (Move build)

namespace Core

/-- What holds in every state after boot. -/
structure Inv (c : Core) : Prop where
  booted : c.state ≠ .boot
  hasConfiguration : c.hasConfiguration = true ↔ c.state = .configured ∨ c.state = .running
  startEpoch : c.pending.startEpoch = true → c.state = .running
  apart : ¬(c.pending.startEpoch = true ∧ c.pending.stop = true)
  running : c.state = .running → c.settingsKnown = true ∧ c.runId ≠ 0 ∧
    c.negotiatedVersion = c.configuration.protocolVersion
  configured : c.state = .configured → c.negotiatedVersion = c.configuration.protocolVersion ∧
    (c.negotiatedVersion = V1.kProtocolVersion ∨ c.negotiatedVersion = V2.kProtocolVersion)

/-- A run that is not over has its stop still to come. -/
def Owed (c : Core) : Prop := c.state = .running ∨ c.pending.stop = true

end Core

variable {build : Build} {c c' : Core}

theorem nextNonzero_ne_zero (n : UInt32) : nextNonzero n ≠ 0 := by
  simp only [nextNonzero]
  split
  · decide
  · assumption

theorem PendingMask.of_isZero {m : PendingMask} (h : m.isZero = true) : m = {} := by
  obtain ⟨startEpoch, stop⟩ := m
  cases startEpoch <;> cases stop <;> first | rfl | cases h

theorem Core.Inv.move (hi : c.Inv) (h : Move build c c') : c'.Inv := by
  cases h with
  | settings known h =>
    exact { hi with running := fun hr => absurd hr h }
  | configure cfg h hp hv =>
    have hz := PendingMask.of_isZero hp
    exact
      { booted := by simp
        hasConfiguration := by simp
        startEpoch := by simp [hz]
        apart := by simp [hz]
        running := by simp
        configured := fun _ => ⟨rfl, hv⟩ }
  | configureV3 h hp =>
    have hz := PendingMask.of_isZero hp
    exact
      { booted := by simp
        hasConfiguration := by simp
        startEpoch := by simp [hz]
        apart := by simp [hz]
        running := by simp
        configured := by simp }
  | start hk h hp =>
    have hz := PendingMask.of_isZero hp
    exact
      { booted := by simp
        hasConfiguration := by simp [hi.hasConfiguration, h]
        startEpoch := fun _ => rfl
        apart := by simp [hz]
        running := fun _ => ⟨hk, nextNonzero_ne_zero _, (hi.configured h).1⟩
        configured := by simp }
  | startV3 cfg hk h hp hv =>
    have hz := PendingMask.of_isZero hp
    exact
      { booted := by simp
        hasConfiguration := by simp
        startEpoch := fun _ => rfl
        apart := by simp [hz]
        running := fun _ => ⟨hk, nextNonzero_ne_zero _, hv.symm⟩
        configured := by simp }
  | idle needsStopSignal h =>
    exact
      { booted := by simp
        hasConfiguration := by simp
        startEpoch := by simp
        apart := by simp
        running := by simp
        configured := by simp }

theorem Core.Inv.moves (hi : c.Inv) (h : Moves build c c') : c'.Inv := by
  induction h with
  | refl => exact hi
  | tail _ hm ih => exact ih.move hm

/-- Only taking the events pays what is owed. -/
theorem Core.Owed.move (ho : c.Owed) (h : Move build c c') : c'.Owed := by
  have hstop : c.pending.isZero = true → c.state = .running := by
    intro hp
    rcases ho with hr | hs
    · exact hr
    · rw [PendingMask.of_isZero hp] at hs
      cases hs
  cases h with
  | settings known h => exact ho
  | configure cfg h hp hv => exact absurd (hstop hp) h
  | configureV3 h hp => exact absurd (hstop hp) h
  | start hk h hp =>
    rw [hstop hp] at h
    cases h
  | startV3 cfg hk h hp hv => exact absurd (hstop hp) h
  | idle needsStopSignal h =>
    right
    rcases ho with hr | hs
    · simp [h hr]
    · simp [hs]

theorem Core.Owed.moves (ho : c.Owed) (h : Moves build c c') : c'.Owed := by
  induction h with
  | refl => exact ho
  | tail _ hm ih => exact ih.move hm

/-! ### Calls as moves -/

namespace ControlState

variable {σ : Type} {codec : Codec} {app : Application σ} {s : ControlState σ}

@[simp] theorem rejected_core (e : ErrorCode) : (s.rejected e).core = s.core := rfl

@[simp] theorem accepted_core : s.accepted.core = s.core := rfl

@[simp] theorem encoded_core (e : ErrorCode) (encoding : Except Result Wire.Bytes) :
    (s.encoded e encoding).state.core = s.core := by
  simp only [encoded]
  split
  · rfl
  · split
    · rfl
    · rfl

@[simp] theorem reject_core (request : Request) (e : ErrorCode) :
    (s.reject codec request e).state.core = s.core := by
  simp only [reject]
  split
  · rfl
  · exact encoded_core _ _

/-- Applied or not, only the settings change. -/
theorem applySettings_moves {s' : ControlState σ} {ok : Bool} {candidate : Settings}
    (h : s.state ≠ .running) (heq : s.applySettings app candidate = (s', ok)) :
    Moves build s.core s'.core ∧ s'.state = s.state ∧ s'.pending = s.pending := by
  have hcore : ∃ known, s'.core = { s.core with settingsKnown := known } := by
    simp only [applySettings] at heq
    split at heq
    · cases heq
      exact ⟨true, rfl⟩
    · cases heq
      exact ⟨_, rfl⟩
  obtain ⟨known, hk⟩ := hcore
  refine ⟨?_, congrArg Core.state hk, congrArg Core.pending hk⟩
  rw [hk]
  exact ReflTransGen.single (Move.settings known h)

theorem commitConfiguration_moves {request : Request} {cfg : Configuration} {frame : Wire.Bytes}
    (h : s.state = .idle ∨ s.state = .configured) (hp : s.pending.isZero = true)
    (hr : request.protocolVersion = cfg.protocolVersion)
    (hv : cfg.protocolVersion = V1.kProtocolVersion ∨ cfg.protocolVersion = V2.kProtocolVersion) :
    Moves build s.core (s.commitConfiguration request cfg frame).state.core := by
  have hlegal : s.state.isLegalTransition .configured = true := by
    rcases h with h | h
    · rw [h]; rfl
    · rw [h]; rfl
  have hne : s.state ≠ .running := by
    rcases h with h | h
    · rw [h]; simp
    · rw [h]; simp
  simp only [commitConfiguration, transitionTo, hlegal, if_true, succeeded, accepted_core, hr]
  exact ReflTransGen.single (Move.configure cfg hne hp hv)

theorem validateConfiguration_version {cfg : Configuration}
    (h : validateConfiguration build cfg = .ok) :
    cfg.protocolVersion = V1.kProtocolVersion ∨ cfg.protocolVersion = V2.kProtocolVersion := by
  simp only [validateConfiguration] at h
  split at h
  · cases h
  · split at h
    · cases h
    · rename_i _ hbad
      by_contra hne
      simp only [not_or] at hne
      simp [hne.1, hne.2] at hbad

theorem configure_moves (request : Request) (readiness : DispatchReadiness) :
    Moves build s.core (s.configure build codec app request readiness).state.core := by
  simp only [configure]
  split
  · rw [reject_core]
  rename_i hstate
  split
  · rw [reject_core]
  rename_i hready
  split
  · rw [reject_core]
  rename_i hversion
  split
  · rw [reject_core]
  rename_i hvalid
  split
  · rw [encoded_core]
  have hs : s.state = .idle ∨ s.state = .configured := by
    simp only [ne_eq, Bool.and_eq_true, decide_eq_true_eq, not_and, not_not] at hstate
    by_cases h : s.state = .idle
    · exact .inl h
    · exact .inr (hstate h)
  have hp : s.pending.isZero = true := by
    simp only [Bool.or_eq_true, not_or, Bool.not_eq_true', Bool.not_eq_false] at hready
    exact hready.2
  have hv := validateConfiguration_version (not_not.mp hvalid)
  split
  · split
    · rw [reject_core]
    · -- the settings first, whether they were applied or not
      have hne : s.state ≠ .running := by
        rcases hs with h | h
        · rw [h]; simp
        · rw [h]; simp
      split
      · rename_i s' heq
        rw [reject_core]
        exact (applySettings_moves hne heq).1
      · rename_i s' heq
        obtain ⟨hset, hstate', hpending'⟩ := applySettings_moves hne heq
        refine hset.trans (commitConfiguration_moves ?_ ?_ (not_not.mp hversion) hv)
        · rw [hstate']
          exact hs
        · rw [hpending']
          exact hp
  · exact commitConfiguration_moves hs hp (not_not.mp hversion) hv

theorem start_moves (request : Request) (readiness : DispatchReadiness) :
    Moves build s.core (s.start codec request readiness).state.core := by
  simp only [start]
  split
  · rw [reject_core]
  rename_i hknown
  split
  · rw [reject_core]
  split
  · rw [reject_core]
  rename_i hstate
  split
  · rw [reject_core]
  rename_i hready
  split
  · rw [encoded_core]
  simp only [ne_eq, Bool.or_eq_true, decide_eq_true_eq, not_or, not_not] at hstate
  have hp : s.pending.isZero = true := by
    simp only [Bool.or_eq_true, not_or, Bool.not_eq_true', Bool.not_eq_false] at hready
    exact hready.2
  have hlegal : s.state.isLegalTransition .running = true := by
    rw [hstate.1]
    rfl
  have hk : s.settingsKnown = true := by simpa using hknown
  simp only [transitionTo, hlegal, if_true, succeeded, accepted_core]
  exact ReflTransGen.single (Move.start hk hstate.1 hp)

/-- Every state after boot may fall back to idle. -/
theorem isLegalTransition_idle {d : DeviceState} (hb : d ≠ .boot) :
    d.isLegalTransition .idle = true := by
  cases d with
  | boot => exact absurd rfl hb
  | idle => rfl
  | configured => rfl
  | running => rfl

theorem stop_moves (hb : s.state ≠ .boot) (request : Request) :
    Moves build s.core (s.stop build codec request).state.core := by
  simp only [stop]
  split
  · rw [reject_core]
  split
  · rw [encoded_core]
  have hlegal := isLegalTransition_idle hb
  simp only [transitionTo, hlegal, if_true, succeeded, accepted_core]
  apply ReflTransGen.single
  apply Move.idle
  intro hr
  rw [show s.state = .running from hr]
  rfl

theorem recoverToIdle_moves : Moves build s.core (s.recoverToIdle build).1.core := by
  simp only [recoverToIdle]
  split
  · exact ReflTransGen.refl
  rename_i hb
  have hlegal := isLegalTransition_idle hb
  simp only [transitionTo, hlegal, if_true]
  apply ReflTransGen.single
  apply Move.idle
  intro hr
  rw [show s.state = .running from hr]
  rfl

theorem resetStats_core (request : Request) (readiness : DispatchReadiness) :
    (s.resetStats codec request readiness).state.core = s.core := by
  simp only [resetStats]
  split
  · rw [reject_core]
  split
  · rw [reject_core]
  split
  · rw [encoded_core]
  · rfl

theorem diagnostic_core (request : Request) (supported : Bool) (report : Option Wire.Bytes)
    (error : ErrorCode) (message : Wire.Bytes → Message) :
    (s.diagnostic codec request supported report error message).state.core = s.core := by
  simp only [diagnostic]
  split
  · rw [reject_core]
  split
  · rw [reject_core]
  split
  · rw [reject_core]
  · rw [encoded_core]

theorem dispatchLegacy_moves (hb : s.state ≠ .boot) (request : Request)
    (readiness : DispatchReadiness) :
    Moves build s.core (s.dispatchLegacy build codec app request readiness).state.core := by
  simp only [dispatchLegacy]
  split
  · rw [encoded_core]
  · rw [encoded_core]
  · split
    · rw [reject_core]
    · rw [encoded_core]
  · split
    · rw [reject_core]
    · rw [encoded_core]
  · exact configure_moves request readiness
  · exact start_moves request readiness
  · exact stop_moves hb request
  · rw [resetStats_core]
  · rw [encoded_core]
  · rw [diagnostic_core]
  · rw [diagnostic_core]
  · rw [diagnostic_core]
  · exact ReflTransGen.refl
  · exact ReflTransGen.refl

theorem configureV3_moves (hb : s.state ≠ .boot) (request : Request)
    (readiness : DispatchReadiness) :
    Moves build s.core (s.configureV3 build codec app request readiness).state.core := by
  simp only [configureV3]
  split
  · rw [reject_core]
  split
  · rw [reject_core]
  rename_i hne
  split
  · rw [reject_core]
  rename_i hready
  split
  · rw [reject_core]
  split
  · rw [encoded_core]
  have hp : s.pending.isZero = true := by
    simp only [Bool.or_eq_true, not_or, Bool.not_eq_true', Bool.not_eq_false] at hready
    exact hready.2
  split
  · rename_i s' heq
    rw [reject_core]
    exact (applySettings_moves hne heq).1
  · rename_i s' heq
    obtain ⟨hset, hstate, hpending⟩ := applySettings_moves hne heq
    refine hset.trans ?_
    have hlegal := isLegalTransition_idle (hstate ▸ hb)
    simp only [encoded_core, transitionTo, hlegal, if_true]
    refine ReflTransGen.single (Move.configureV3 ?_ ?_)
    · exact fun hr => hne (hstate ▸ hr)
    · exact (congrArg PendingMask.isZero hpending).trans hp

theorem startV3_moves (hb : s.state ≠ .boot) (hk : s.settingsKnown = true) (request : Request)
    (readiness : DispatchReadiness) :
    Moves build s.core (s.startV3 codec request readiness).state.core := by
  simp only [startV3]
  split
  · rw [reject_core]
  rename_i hne
  split
  · rw [reject_core]
  split
  · rw [reject_core]
  rename_i hready
  split
  · rw [reject_core]
  split
  · rw [encoded_core]
  have hp : s.pending.isZero = true := by
    simp only [Bool.or_eq_true, not_or, Bool.not_eq_true', Bool.not_eq_false] at hready
    exact hready.2
  -- from idle the state passes through configured
  have hlegal : s.state.isLegalTransition .configured = true := by
    cases h : s.state with
    | boot => exact absurd h hb
    | idle => rfl
    | configured => rfl
    | running => exact absurd h hne
  have hrun : DeviceState.configured.isLegalTransition .running = true := rfl
  simp only [encoded_core, transitionTo, hlegal, hrun, if_true]
  exact ReflTransGen.single
    (Move.startV3 (Configuration.ofSettings s.activeSettings.settings) hk hne hp rfl)

theorem stopV3_moves (request : Request) (readiness : DispatchReadiness) :
    Moves build s.core (s.stopV3 build codec request readiness).state.core := by
  simp only [stopV3]
  split
  · rw [reject_core]
  split
  · rename_i hr
    have hlegal : s.state.isLegalTransition .idle = true := by
      rw [hr]
      rfl
    simp only [getStatusV3, encoded_core, transitionTo, hlegal, if_true]
    exact ReflTransGen.single (Move.idle true fun _ => rfl)
  · simp only [getStatusV3, encoded_core]
    exact ReflTransGen.refl

theorem dispatchV3_moves (hb : s.state ≠ .boot) (request : Request)
    (readiness : DispatchReadiness) :
    Moves build s.core (s.dispatchV3 build codec app request readiness).state.core := by
  simp only [dispatchV3]
  split
  · rw [reject_core]
  split
  · rw [reject_core]
  rename_i hknown
  split
  · rw [reject_core]
  split
  · rw [encoded_core]
  · rw [encoded_core]
  · split
    · rw [reject_core]
    · rw [encoded_core]
  · exact configureV3_moves hb request readiness
  · rename_i hkind
    refine startV3_moves hb ?_ request readiness
    cases hk : s.settingsKnown with
    | true => rfl
    | false => simp [hk, hkind] at hknown
  · exact stopV3_moves request readiness
  · simp only [getStatusV3, encoded_core]
    exact ReflTransGen.refl
  · rw [encoded_core]

/-- A dispatch is a chain of moves. -/
theorem dispatch_moves (request : Request) (readiness : DispatchReadiness) :
    Moves build s.core (s.dispatch build codec app request readiness).state.core := by
  simp only [dispatch]
  split
  · exact ReflTransGen.refl
  rename_i hb
  split
  · rw [reject_core]
  · rename_i s' hremember
    have hcore : s'.core = s.core := by
      simp only [rememberRequestId] at hremember
      split at hremember
      · cases hremember
      · cases hremember
        rfl
    have hb' : s'.state ≠ .boot := fun h => hb ((congrArg Core.state hcore).symm.trans h)
    rw [← hcore]
    split
    · exact dispatchV3_moves hb' request readiness
    · split
      · rw [reject_core]
      · exact dispatchLegacy_moves hb' request readiness

end ControlState

/-! ### Sequences of calls -/

inductive Call
  | dispatch (request : Request) (readiness : DispatchReadiness)
  | recoverToIdle
  | beginHostSession
  | takePendingEvents

namespace ControlState

variable {σ : Type} (build : Build) (codec : Codec) (app : Application σ)

def step (s : ControlState σ) : Call → ControlState σ
  | .dispatch request readiness => (s.dispatch build codec app request readiness).state
  | .recoverToIdle => (s.recoverToIdle build).1
  | .beginHostSession => s.beginHostSession
  | .takePendingEvents => s.takePendingEvents.1

def run (s : ControlState σ) (calls : List Call) : ControlState σ :=
  calls.foldl (step build codec app) s

/-- The state after boot. -/
def booted (hardware : σ) (hardwareSerial : UInt32) : ControlState σ :=
  ((initial build app hardware).completeBoot hardwareSerial).1

variable {build codec app} {s : ControlState σ}

theorem booted_inv (hardware : σ) (hardwareSerial : UInt32) :
    (booted build app hardware hardwareSerial).core.Inv where
  booted := by simp [booted, initial, completeBoot, transitionTo, DeviceState.isLegalTransition, core]
  hasConfiguration := by
    simp [booted, initial, completeBoot, transitionTo, DeviceState.isLegalTransition, core]
  startEpoch := by
    simp [booted, initial, completeBoot, transitionTo, DeviceState.isLegalTransition, core]
  apart := by
    simp [booted, initial, completeBoot, transitionTo, DeviceState.isLegalTransition, core]
  running := by
    simp [booted, initial, completeBoot, transitionTo, DeviceState.isLegalTransition, core]
  configured := by
    simp [booted, initial, completeBoot, transitionTo, DeviceState.isLegalTransition, core]

theorem step_inv (hi : s.core.Inv) (call : Call) : (s.step build codec app call).core.Inv := by
  cases call with
  | dispatch request readiness => exact hi.moves (dispatch_moves request readiness)
  | recoverToIdle => exact hi.moves recoverToIdle_moves
  | beginHostSession => exact hi
  | takePendingEvents =>
    exact
      { hi with
        startEpoch := by simp [step, takePendingEvents, core]
        apart := by simp [step, takePendingEvents, core] }

/-- Leaving `running` leaves a stop pending. -/
theorem step_exit (call : Call) (hr : s.state = .running)
    (hn : (s.step build codec app call).state ≠ .running) :
    (s.step build codec app call).pending.stop = true := by
  have howed : s.core.Owed := .inl hr
  cases call with
  | dispatch request readiness =>
    exact (howed.moves (dispatch_moves request readiness)).resolve_left hn
  | recoverToIdle => exact (howed.moves recoverToIdle_moves).resolve_left hn
  | beginHostSession => exact absurd hr hn
  | takePendingEvents => exact absurd hr hn

theorem run_inv (hi : s.core.Inv) (calls : List Call) : (s.run build codec app calls).core.Inv := by
  induction calls generalizing s with
  | nil => exact hi
  | cons call calls ih => exact ih (step_inv hi call)

/-- After boot, whatever the requests, their versions and readiness, the encoders'
and the settings interface's answers: the configuration is there exactly in
`configured` and `running`, the events agree with the state, a running device knows
its settings, run and version, and every exit from `running` leaves a stop pending. -/
theorem control_invariant (build : Build) (codec : Codec) (app : Application σ) (hardware : σ)
    (hardwareSerial : UInt32) (calls : List Call) :
    let s := (booted build app hardware hardwareSerial).run build codec app calls
    (s.hasConfiguration = true ↔ s.state = .configured ∨ s.state = .running) ∧
      (s.pending.startEpoch = true → s.state = .running) ∧
      ¬(s.pending.startEpoch = true ∧ s.pending.stop = true) ∧
      (s.state = .running → s.settingsKnown = true ∧ s.runId ≠ 0 ∧
        s.negotiatedVersion = s.configuration.protocolVersion) ∧
      (s.state = .configured → s.negotiatedVersion = V1.kProtocolVersion ∨
        s.negotiatedVersion = V2.kProtocolVersion) ∧
      ∀ call, s.state = .running → (s.step build codec app call).state ≠ .running →
        (s.step build codec app call).pending.stop = true := by
  intro s
  have hi : s.core.Inv := run_inv (booted_inv hardware hardwareSerial) calls
  exact ⟨hi.hasConfiguration, hi.startEpoch, hi.apart, hi.running, fun h => (hi.configured h).2,
    fun call => step_exit call⟩

end ControlState

end ThingDaq.Control
