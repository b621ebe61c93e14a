import ThingDaq.Firmware.ControlInvariant

/-!
# Settings are applied as a transaction

CONFIGURE asks the settings interface to apply a candidate, and takes it only when the
interface reads it back exactly; otherwise it has the former settings restored.  When
the restoration does not read back either, nobody knows what the hardware holds.

`latch` says what the comment on `applySettings` asks for: an unverified rollback
inhibits START and every report until a later CONFIGURE is verified.  The code keeps
`settingsKnown` instead, which a CONFIGURE that fails and is rolled back sets as well.

## Main results

* `dispatch_touches` — a dispatch touches the settings by one `applySettings` of the
  candidate it attempts, or not at all.
* `dispatch_unknown` — what is refused while the settings are unknown.
* `settings_transactional` — the transaction over any sequence of calls.
-/

namespace ThingDaq.Control

open Wire

/-- Requests that start a run, or whose response reports settings, clocks or state. -/
def Request.reports (request : Request) : Bool :=
  match request.kind with
  | .start | .info | .getStatus | .getSettings => true
  | .stop => request.protocolVersion = V3.kProtocolVersion
  | _ => false

namespace ControlState

variable {σ : Type} (build : Build) (codec : Codec) (app : Application σ)

/-! ### What a dispatch attempts -/

/-- The candidate reads back exactly, settings and clocks. -/
def verifies (s : ControlState σ) (candidate : Settings) : Bool :=
  let (_, ok, readback) := app.apply s.hardware candidate
  ok && readback.settings = candidate && readback.clocks = clocksFor candidate.cpuProfile

/-- After the candidate, the former settings read back exactly. -/
def restores (s : ControlState σ) (candidate : Settings) : Bool :=
  let (_, ok, restored) := app.apply (app.apply s.hardware candidate).1 s.activeSettings.settings
  ok && restored = s.activeSettings

/-- Whether a CONFIGURE may change anything now. -/
def configurable (s : ControlState σ) (readiness : DispatchReadiness) : Bool :=
  readiness.configurationReady && readiness.pendingFrames = 0 && s.pending.isZero

/-- The configuration that a legacy CONFIGURE validates. -/
def legacyCandidate (request : Request) : Configuration :=
  { request.configuration with
    legacyV2 := decide (request.protocolVersion = V2.kProtocolVersion) }

/-- The settings that a version 2 CONFIGURE applies. -/
def attemptedLegacy (s : ControlState σ) (request : Request) (readiness : DispatchReadiness) :
    Option Settings :=
  let candidate := legacyCandidate request
  if request.kind = .configure ∧ (s.state = .idle ∨ s.state = .configured) ∧
      s.configurable readiness = true ∧ request.protocolVersion = candidate.protocolVersion ∧
      validateConfiguration build candidate = .ok ∧
      (codec request s.runId (.configure request.configuration)).isOk = true ∧
      (candidate.legacyV2 && build.cpuProfile ≠ 0) = true ∧
      app.supports s.hardware (legacySettings build candidate) = true then
    some (legacySettings build candidate)
  else none

/-- The settings that a version 3 CONFIGURE applies. -/
def attemptedV3 (s : ControlState σ) (request : Request) (readiness : DispatchReadiness) :
    Option Settings :=
  if request.kind = .configure ∧ s.activeSettings.settings.boardSupports = true ∧
      request.settings.validateV3Settings.isOk = true ∧ s.state ≠ .running ∧
      s.configurable readiness = true ∧ request.settings.boardSupports = true ∧
      app.supports s.hardware request.settings = true ∧
      (codec request s.runId
        (.v3Settings ⟨request.settings, clocksFor request.settings.cpuProfile⟩)).isOk = true then
    some request.settings
  else none

/-- The candidate that a dispatch hands to the settings interface. -/
def attempted (s : ControlState σ) (request : Request) (readiness : DispatchReadiness) :
    Option Settings :=
  if s.state = .boot || (s.rememberRequestId request.requestId).isNone then none
  else if request.protocolVersion = V3.kProtocolVersion then
    s.attemptedV3 codec app request readiness
  else s.attemptedLegacy build codec app request readiness

/-- An unverified rollback latches; a verified CONFIGURE releases. -/
def latch (s : ControlState σ) (latched : Bool) : Call → Bool
  | .dispatch request readiness =>
    match s.attempted build codec app request readiness with
    | none => latched
    | some candidate =>
      if s.verifies app candidate then false
      else if s.restores app candidate then latched
      else true
  | _ => latched

/-- A step with the latch beside the state. -/
def track (p : ControlState σ × Bool) (call : Call) : ControlState σ × Bool :=
  (p.1.step build codec app call, p.1.latch build codec app p.2 call)

/-- Latched, no CONFIGURE that fails is rolled back after all. -/
def MeetsAt (p : ControlState σ × Bool) : Call → Prop
  | .dispatch request readiness => p.2 = true →
      ∀ candidate, p.1.attempted build codec app request readiness = some candidate →
        p.1.verifies app candidate = true ∨ p.1.restores app candidate = false
  | _ => True

def Meets (p : ControlState σ × Bool) : List Call → Prop
  | [] => True
  | call :: calls => MeetsAt build codec app p call ∧ Meets (track build codec app p call) calls

/-! ### The settings of a state -/

/-- What the settings interface and the control state hold of the settings. -/
structure Held (σ : Type) where
  hardware : σ
  active : Applied
  known : Bool

def held (s : ControlState σ) : Held σ := ⟨s.hardware, s.activeSettings, s.settingsKnown⟩

variable {build codec app} {s s' : ControlState σ}

@[simp] theorem encoded_held (e : ErrorCode) (encoding : Except Result Bytes) :
    (s.encoded e encoding).state.held = s.held := by
  simp only [encoded]
  split
  · rfl
  · split <;> rfl

@[simp] theorem reject_held (request : Request) (e : ErrorCode) :
    (s.reject codec request e).state.held = s.held := by
  simp only [reject]
  split
  · rfl
  · exact encoded_held _ _

theorem transitionTo_held (next : DeviceState) : (s.transitionTo next).1.held = s.held := by
  simp only [transitionTo]
  split <;> rfl

theorem commitConfiguration_held (request : Request) (c : Configuration) (frame : Bytes) :
    (s.commitConfiguration request c frame).state.held = s.held := by
  simp only [commitConfiguration]
  have h := transitionTo_held (s := s) .configured
  split
  · rename_i s' heq
    rw [heq] at h
    rw [refused, encoded_held, h]
  · rename_i s' heq
    rw [heq] at h
    exact h

variable (app) in
theorem applySettings_eq (candidate : Settings) :
    (s.applySettings app candidate).2 = s.verifies app candidate ∧
    (s.verifies app candidate = true →
      (s.applySettings app candidate).1.activeSettings =
        ⟨candidate, clocksFor candidate.cpuProfile⟩ ∧
      (s.applySettings app candidate).1.settingsKnown = true) ∧
    (s.verifies app candidate = false →
      (s.applySettings app candidate).1.activeSettings = s.activeSettings ∧
      (s.applySettings app candidate).1.settingsKnown = s.restores app candidate) := by
  simp only [applySettings, verifies, restores]
  split
  · rename_i hok
    refine ⟨hok.symm, fun _ => ⟨?_, rfl⟩, fun h => ?_⟩
    · simp only [Bool.and_eq_true, decide_eq_true_eq] at hok
      exact congrArg₂ Applied.mk hok.1.2 hok.2
    · rw [hok] at h
      cases h
  · rename_i hbad
    have hbad : _ = false := Bool.eq_false_iff.mpr hbad
    refine ⟨hbad.symm, fun h => ?_, fun _ => ⟨rfl, rfl⟩⟩
    rw [hbad] at h
    cases h

/-! ### Dispatch and the settings -/

/-- How a dispatch that attempts `a` leaves the settings, and whether it succeeds. -/
def Touches (app : Application σ) (s : ControlState σ) (a : Option Settings) (d : Dispatch σ) :
    Prop :=
  match a with
  | none => d.state.held = s.held
  | some candidate => d.state.held = (s.applySettings app candidate).1.held ∧
      d.commandAccepted = s.verifies app candidate

theorem encoded_not_accepted {e : ErrorCode} (h : e ≠ .ok) (encoding : Except Result Bytes) :
    (s.encoded e encoding).commandAccepted = false := by
  simp only [encoded]
  split
  · rfl
  · simp [Dispatch.commandAccepted, h]

theorem reject_not_accepted (request : Request) {e : ErrorCode} (h : e ≠ .ok) :
    (s.reject codec request e).commandAccepted = false := by
  simp only [reject]
  split
  · simp [Dispatch.commandAccepted, h]
  · exact encoded_not_accepted (by simp) _

theorem configurable_eq (readiness : DispatchReadiness) :
    (!readiness.configurationReady || readiness.pendingFrames ≠ 0 || !s.pending.isZero) =
      !s.configurable readiness := by
  simp [configurable]

theorem legacy_state_eq :
    (s.state ≠ .idle && s.state ≠ .configured) = true ↔ ¬(s.state = .idle ∨ s.state = .configured) := by
  simp

theorem commitConfiguration_accepted {request : Request} {c : Configuration} {frame : Bytes}
    (h : s.state = .idle ∨ s.state = .configured) :
    (s.commitConfiguration request c frame).commandAccepted = true := by
  have hlegal : s.state.isLegalTransition .configured = true := by
    rcases h with h | h
    · rw [h]; rfl
    · rw [h]; rfl
  simp [commitConfiguration, transitionTo, hlegal, succeeded, Dispatch.commandAccepted]

variable (app) in
theorem applySettings_state (candidate : Settings) :
    (s.applySettings app candidate).1.state = s.state := by
  simp only [applySettings]
  split <;> rfl

/-- The end of a CONFIGURE that reached the settings interface. -/
theorem touches_apply {candidate : Settings} {d : Dispatch σ}
    (hok : ∀ s', s.applySettings app candidate = (s', true) →
      d.state.held = s'.held ∧ d.commandAccepted = true)
    (hbad : ∀ s', s.applySettings app candidate = (s', false) →
      d.state.held = s'.held ∧ d.commandAccepted = false) :
    Touches app s (some candidate) d := by
  have happ := (applySettings_eq app (s := s) candidate).1
  cases heq : s.applySettings app candidate with
  | mk s' ok =>
    rw [heq] at happ
    cases ok with
    | true =>
      obtain ⟨h₁, h₂⟩ := hok s' heq
      exact ⟨by rw [heq]; exact h₁, h₂.trans happ⟩
    | false =>
      obtain ⟨h₁, h₂⟩ := hbad s' heq
      exact ⟨by rw [heq]; exact h₁, h₂.trans happ⟩

variable (build codec app) in
theorem configure_touches (request : Request) (readiness : DispatchReadiness)
    (hkind : request.kind = .configure) :
    Touches app s (s.attemptedLegacy build codec app request readiness)
      (s.configure build codec app request readiness) := by
  unfold configure attemptedLegacy
  rw [show ({ request.configuration with
    legacyV2 := decide (request.protocolVersion = V2.kProtocolVersion) } : Configuration) =
      legacyCandidate request from rfl]
  generalize legacyCandidate request = candidate
  dsimp only
  rw [configurable_eq]
  by_cases hstate : s.state = .idle ∨ s.state = .configured
  case neg =>
    rw [if_pos (legacy_state_eq.mpr hstate), if_neg fun h => hstate h.2.1]
    exact reject_held _ _
  rw [if_neg fun h => legacy_state_eq.mp h hstate]
  by_cases hready : s.configurable readiness = true
  case neg =>
    have hnot : (!s.configurable readiness) = true := by simpa using hready
    rw [if_pos hnot, if_neg fun h => hready h.2.2.1]
    exact reject_held _ _
  have hnot : ¬(!s.configurable readiness) = true := by simpa using hready
  rw [if_neg hnot]
  by_cases hversion : request.protocolVersion = candidate.protocolVersion
  case neg =>
    rw [if_pos hversion, if_neg fun h => hversion h.2.2.2.1]
    exact reject_held _ _
  rw [if_neg (not_not.mpr hversion)]
  by_cases hvalid : validateConfiguration build candidate = .ok
  case neg =>
    rw [if_pos hvalid, if_neg fun h => hvalid h.2.2.2.2.1]
    exact reject_held _ _
  rw [if_neg (not_not.mpr hvalid)]
  cases hframe : codec request s.runId (.configure request.configuration) with
  | error e =>
    rw [if_neg fun h => by cases h.2.2.2.2.2.1]
    exact encoded_held _ _
  | ok frame =>
    dsimp only
    by_cases hlegacy : (candidate.legacyV2 && build.cpuProfile ≠ 0) = true
    case neg =>
      rw [if_neg hlegacy, if_neg fun h => hlegacy h.2.2.2.2.2.2.1]
      exact commitConfiguration_held _ _ _
    rw [if_pos hlegacy]
    by_cases hsup : app.supports s.hardware (legacySettings build candidate) = true
    case neg =>
      have hnot : (!app.supports s.hardware (legacySettings build candidate)) = true := by
        simpa using hsup
      rw [if_pos hnot, if_neg fun h => hsup h.2.2.2.2.2.2.2]
      exact reject_held _ _
    have hnot : ¬(!app.supports s.hardware (legacySettings build candidate)) = true := by
      simpa using hsup
    rw [if_neg hnot,
      if_pos ⟨hkind, hstate, hready, hversion, hvalid, rfl, hlegacy, hsup⟩]
    apply touches_apply
    · intro s' heq
      rw [heq]
      refine ⟨commitConfiguration_held _ _ _, commitConfiguration_accepted ?_⟩
      have hsame := applySettings_state app (s := s) (legacySettings build candidate)
      rw [heq] at hsame
      rw [hsame]
      exact hstate
    · intro s' heq
      rw [heq]
      exact ⟨reject_held _ _, reject_not_accepted _ (by simp)⟩

variable (build codec app) in
theorem configureV3_touches (request : Request) (readiness : DispatchReadiness)
    (hkind : request.kind = .configure) (hboard : s.activeSettings.settings.boardSupports = true) :
    Touches app s (s.attemptedV3 codec app request readiness)
      (s.configureV3 build codec app request readiness) := by
  unfold configureV3 attemptedV3
  rw [configurable_eq]
  by_cases hvalid : request.settings.validateV3Settings.isOk = true
  case neg =>
    have hnot : (!request.settings.validateV3Settings.isOk) = true := by simpa using hvalid
    rw [if_pos hnot, if_neg fun h => hvalid h.2.2.1]
    exact reject_held _ _
  have hnot : ¬(!request.settings.validateV3Settings.isOk) = true := by simpa using hvalid
  rw [if_neg hnot]
  by_cases hstate : s.state = .running
  case pos =>
    rw [if_pos hstate, if_neg fun h => h.2.2.2.1 hstate]
    exact reject_held _ _
  rw [if_neg hstate]
  by_cases hready : s.configurable readiness = true
  case neg =>
    have hnot : (!s.configurable readiness) = true := by simpa using hready
    rw [if_pos hnot, if_neg fun h => hready h.2.2.2.2.1]
    exact reject_held _ _
  have hnot : ¬(!s.configurable readiness) = true := by simpa using hready
  rw [if_neg hnot]
  by_cases hsup : request.settings.boardSupports = true ∧ app.supports s.hardware request.settings = true
  case neg =>
    have hnot : (!request.settings.boardSupports || !app.supports s.hardware request.settings) =
        true := by
      by_contra hno
      simp only [Bool.or_eq_true, Bool.not_eq_true', not_or, Bool.not_eq_false] at hno
      exact hsup hno
    rw [if_pos hnot, if_neg fun h => hsup ⟨h.2.2.2.2.2.1, h.2.2.2.2.2.2.1⟩]
    exact reject_held _ _
  have hnot : ¬(!request.settings.boardSupports || !app.supports s.hardware request.settings) =
      true := by simp [hsup.1, hsup.2]
  rw [if_neg hnot]
  cases hframe : codec request s.runId
      (.v3Settings ⟨request.settings, clocksFor request.settings.cpuProfile⟩) with
  | error e =>
    rw [if_neg fun h => by cases h.2.2.2.2.2.2.2]
    exact encoded_held _ _
  | ok frame =>
    dsimp only
    rw [if_pos ⟨hkind, hboard, hvalid, hstate, hready, hsup.1, hsup.2, rfl⟩]
    apply touches_apply
    · intro s' heq
      rw [heq]
      refine ⟨?_, rfl⟩
      rw [encoded_held]
      exact transitionTo_held (s := { s' with
        configuration := Configuration.idle build, hasConfiguration := false }) .idle
    · intro s' heq
      rw [heq]
      exact ⟨reject_held _ _, reject_not_accepted _ (by simp)⟩

theorem start_held (request : Request) (readiness : DispatchReadiness) :
    (s.start codec request readiness).state.held = s.held := by
  simp only [start]
  split
  · rw [reject_held]
  split
  · rw [reject_held]
  split
  · rw [reject_held]
  split
  · rw [reject_held]
  split
  · rw [encoded_held]
  have h := transitionTo_held (s := s) .running
  split
  · rename_i s' heq
    rw [heq] at h
    rw [refused, encoded_held, h]
  · rename_i s' heq
    rw [heq] at h
    exact h

theorem stop_held (request : Request) : (s.stop build codec request).state.held = s.held := by
  simp only [stop]
  split
  · rw [reject_held]
  split
  · rw [encoded_held]
  have h := transitionTo_held (s := s) .idle
  split
  · rename_i s' heq
    rw [heq] at h
    rw [refused, encoded_held, h]
  · rename_i s' heq
    rw [heq] at h
    exact h

theorem resetStats_held (request : Request) (readiness : DispatchReadiness) :
    (s.resetStats codec request readiness).state.held = s.held := by
  simp only [resetStats]
  split
  · rw [reject_held]
  split
  · rw [reject_held]
  split
  · rw [encoded_held]
  · rfl

theorem diagnostic_held (request : Request) (supported : Bool) (report : Option Bytes)
    (error : ErrorCode) (message : Bytes → Message) :
    (s.diagnostic codec request supported report error message).state.held = s.held := by
  simp only [diagnostic]
  split
  · rw [reject_held]
  split
  · rw [reject_held]
  split
  · rw [reject_held]
  · rw [encoded_held]

theorem startV3_held (request : Request) (readiness : DispatchReadiness) :
    (s.startV3 codec request readiness).state.held = s.held := by
  simp only [startV3]
  split
  · rw [reject_held]
  split
  · rw [reject_held]
  split
  · rw [reject_held]
  split
  · rw [reject_held]
  split
  · rw [encoded_held]
  · rw [encoded_held]
    exact (transitionTo_held .running).trans (transitionTo_held .configured)

theorem stopV3_held (request : Request) (readiness : DispatchReadiness) :
    (s.stopV3 build codec request readiness).state.held = s.held := by
  simp only [stopV3, getStatusV3]
  split
  · rw [reject_held]
  split
  · rw [encoded_held]
    exact transitionTo_held (s := s) .idle
  · rw [encoded_held]

variable (build codec app) in
theorem dispatchLegacy_touches (request : Request) (readiness : DispatchReadiness) :
    Touches app s (s.attemptedLegacy build codec app request readiness)
      (s.dispatchLegacy build codec app request readiness) := by
  by_cases hkind : request.kind = .configure
  · have hconf := configure_touches build codec app (s := s) request
      readiness hkind
    unfold dispatchLegacy
    rw [hkind]
    exact hconf
  -- Only CONFIGURE attempts anything.
  have hnone : s.attemptedLegacy build codec app request readiness = none := by
    unfold attemptedLegacy
    exact if_neg fun h => hkind h.1
  rw [hnone]
  show (s.dispatchLegacy build codec app request readiness).state.held = s.held
  simp only [dispatchLegacy]
  split
  · rw [encoded_held]
  · rw [encoded_held]
  · split
    · rw [reject_held]
    · rw [encoded_held]
  · split
    · rw [reject_held]
    · rw [encoded_held]
  · exact absurd ‹_› hkind
  · exact start_held request readiness
  · exact stop_held request
  · rw [resetStats_held]
  · rw [encoded_held]
  · rw [diagnostic_held]
  · rw [diagnostic_held]
  · rw [diagnostic_held]
  · rfl
  · rfl

variable (build codec app) in
theorem dispatchV3_touches (request : Request) (readiness : DispatchReadiness) :
    Touches app s (s.attemptedV3 codec app request readiness)
      (s.dispatchV3 build codec app request readiness) := by
  by_cases hconf : request.kind = .configure ∧ s.activeSettings.settings.boardSupports = true
  · have htouch := configureV3_touches build codec app (s := s)
      request readiness hconf.1 hconf.2
    unfold dispatchV3
    simp only [hconf.1, hconf.2]
    rw [if_neg (by decide), if_neg (by simp), if_neg (by decide)]
    exact htouch
  have hnone : s.attemptedV3 codec app request readiness = none := by
    unfold attemptedV3
    exact if_neg fun h => hconf ⟨h.1, h.2.1⟩
  rw [hnone]
  show (s.dispatchV3 build codec app request readiness).state.held = s.held
  simp only [dispatchV3]
  split
  · rw [reject_held]
  split
  · rw [reject_held]
  split
  · rw [reject_held]
  rename_i hboard
  split
  · rw [encoded_held]
  · rw [encoded_held]
  · split
    · rw [reject_held]
    · rw [encoded_held]
  · rename_i hkind
    exact absurd ⟨hkind, by simpa using hboard⟩ hconf
  · exact startV3_held request readiness
  · exact stopV3_held request readiness
  · simp only [getStatusV3, encoded_held]
  · rw [encoded_held]

/-- The request-id window is no part of what the handlers read. -/
theorem rememberRequestId_same {id : UInt32} (h : s.rememberRequestId id = some s') :
    s' = { s with recentRequestIds := s'.recentRequestIds } := by
  simp only [rememberRequestId] at h
  split at h
  · cases h
  · cases h
    rfl

theorem Touches.of_ids {ids : List UInt32} {a : Option Settings} {d : Dispatch σ}
    (h : Touches app { s with recentRequestIds := ids } a d) : Touches app s a d := by
  cases a with
  | none => exact h
  | some candidate =>
    refine ⟨h.1.trans ?_, h.2⟩
    simp only [applySettings]
    split <;> rfl

variable (build codec app) in
/-- A dispatch touches the settings by applying what it attempts, or not at all. -/
theorem dispatch_touches (request : Request) (readiness : DispatchReadiness) :
    Touches app s (s.attempted build codec app request readiness)
      (s.dispatch build codec app request readiness) := by
  simp only [attempted, dispatch]
  by_cases hboot : s.state = .boot
  · rw [if_pos hboot, if_pos (by simp [hboot])]
    rfl
  rw [if_neg hboot]
  cases hid : s.rememberRequestId request.requestId with
  | none =>
    rw [if_pos (by simp)]
    exact reject_held _ _
  | some s' =>
    have hnot : ¬(decide (s.state = .boot) || (some s').isNone) = true := by simp [hboot]
    rw [if_neg hnot]
    have hsame := rememberRequestId_same hid
    by_cases hv3 : request.protocolVersion = V3.kProtocolVersion
    · have htouch := dispatchV3_touches build codec app (s := s')
        request readiness
      dsimp only
      rw [if_pos hv3, if_pos hv3]
      rw [hsame] at htouch ⊢
      exact htouch.of_ids
    · have htouch := dispatchLegacy_touches build codec app (s := s')
        request readiness
      dsimp only
      rw [if_neg hv3, if_neg hv3]
      split
      · -- INFO and GET_STATUS during a version 3 run, which attempt nothing.
        rename_i hlegacy
        have hnone : s.attemptedLegacy build codec app request readiness = none := by
          unfold attemptedLegacy
          refine if_neg fun h => ?_
          rw [h.1] at hlegacy
          simp at hlegacy
        rw [hnone]
        show (s'.reject codec request _).state.held = s.held
        rw [reject_held, hsame]
        rfl
      · rw [hsame] at htouch ⊢
        exact htouch.of_ids

/-! ### While the settings are unknown -/

/-- The request is answered by a typed error or not at all. -/
structure Refuses (codec : Codec) (s : ControlState σ) (request : Request) (d : Dispatch σ) :
    Prop where
  accepted : d.commandAccepted = false
  response : ∀ frame, d.response = some frame →
    ∃ e, e ≠ ErrorCode.ok ∧ codec request s.runId (.typedError e) = .ok frame

variable (codec) in
theorem reject_refuses (request : Request) {e : ErrorCode} (h : e ≠ .ok) :
    Refuses codec s request (s.reject codec request e) := by
  refine ⟨reject_not_accepted request h, fun frame hframe => ⟨e, h, ?_⟩⟩
  unfold reject at hframe
  cases hcodec : codec request s.runId (.typedError e) with
  | ok frame' =>
    rw [hcodec] at hframe
    cases hframe
    rfl
  | error r =>
    rw [hcodec] at hframe
    cases hframe

variable (build codec app) in
theorem dispatchLegacy_unknown (hknown : s.settingsKnown = false) {request : Request}
    (hreports : request.reports = true) (hv3 : request.protocolVersion ≠ V3.kProtocolVersion)
    (readiness : DispatchReadiness) :
    (s.dispatchLegacy build codec app request readiness).commandAccepted = false ∧
      ∀ frame, (s.dispatchLegacy build codec app request readiness).response = some frame →
        ∃ e, e ≠ ErrorCode.ok ∧ codec request s.runId (.typedError e) = .ok frame := by
  have hrefuses : Refuses codec s request (s.reject codec request .internalError) :=
    reject_refuses codec request (by simp)
  unfold Request.reports at hreports
  unfold dispatchLegacy
  cases hkind : request.kind with
  | info =>
    simp only [hknown, Bool.not_false, if_true]
    exact ⟨hrefuses.accepted, hrefuses.response⟩
  | getStatus =>
    simp only [hknown, Bool.not_false, if_true]
    exact ⟨hrefuses.accepted, hrefuses.response⟩
  | start =>
    simp only [start, hknown, Bool.not_false, if_true]
    exact ⟨hrefuses.accepted, hrefuses.response⟩
  | getSettings => exact ⟨rfl, fun frame hframe => by cases hframe⟩
  | stop =>
    rw [hkind] at hreports
    exact absurd (of_decide_eq_true hreports) hv3
  | _ =>
    rw [hkind] at hreports
    cases hreports

variable (build codec app) in
theorem dispatchV3_unknown (hknown : s.settingsKnown = false) {request : Request}
    (hreports : request.reports = true) (readiness : DispatchReadiness) :
    Refuses codec s request (s.dispatchV3 build codec app request readiness) := by
  unfold dispatchV3
  split
  · exact reject_refuses codec request (by simp)
  · have hkind : request.kind ≠ .configure ∧ request.kind ≠ .getCapabilities := by
      unfold Request.reports at hreports
      constructor
      · intro h
        rw [h] at hreports
        cases hreports
      · intro h
        rw [h] at hreports
        cases hreports
    rw [if_pos (by simp [hknown, hkind])]
    exact reject_refuses codec request (by simp)

theorem dispatch_unknown (hknown : s.settingsKnown = false) {request : Request}
    (hreports : request.reports = true) (readiness : DispatchReadiness) :
    Refuses codec s request (s.dispatch build codec app request readiness) := by
  unfold dispatch
  split
  · exact ⟨rfl, fun frame hframe => by cases hframe⟩
  cases hid : s.rememberRequestId request.requestId with
  | none => exact reject_refuses codec request (by simp)
  | some s' =>
    have hsame := rememberRequestId_same hid
    have hknown' : s'.settingsKnown = false := by rw [hsame]; exact hknown
    have hrun : s'.runId = s.runId := by rw [hsame]
    dsimp only
    split
    · obtain ⟨h₁, h₂⟩ := dispatchV3_unknown build codec app hknown'
        hreports readiness
      exact ⟨h₁, hrun ▸ h₂⟩
    · rename_i hv3
      split
      · obtain ⟨h₁, h₂⟩ := reject_refuses codec (s := s') request
          (show ErrorCode.unsupportedConfiguration ≠ .ok by simp)
        exact ⟨h₁, hrun ▸ h₂⟩
      · obtain ⟨h₁, h₂⟩ := dispatchLegacy_unknown build codec app
          hknown' hreports hv3 readiness
        exact ⟨h₁, hrun ▸ h₂⟩

/-! ### Any sequence of calls -/

/-- The interface once read `applied` back exactly. -/
def ReadBack (app : Application σ) (applied : Applied) : Prop :=
  (∃ hardware, (app.apply hardware applied.settings).2 = (true, applied)) ∧
    applied.clocks = clocksFor applied.settings.cpuProfile

variable (build codec app) in
/-- Only a candidate that reads back exactly becomes the active settings. -/
theorem dispatch_active (request : Request) (readiness : DispatchReadiness) :
    (s.dispatch build codec app request readiness).state.activeSettings = s.activeSettings ∨
    ∃ candidate, s.attempted build codec app request readiness = some candidate ∧
      s.verifies app candidate = true ∧
      (s.dispatch build codec app request readiness).commandAccepted = true ∧
      (s.dispatch build codec app request readiness).state.activeSettings =
        ⟨candidate, clocksFor candidate.cpuProfile⟩ := by
  have htouch := dispatch_touches build codec app (s := s) request
    readiness
  cases hatt : s.attempted build codec app request readiness with
  | none =>
    rw [hatt] at htouch
    exact .inl (congrArg Held.active htouch)
  | some candidate =>
    rw [hatt] at htouch
    obtain ⟨hheld, hacc⟩ := htouch
    obtain ⟨-, hgood, hbad⟩ := applySettings_eq app (s := s) candidate
    cases hv : s.verifies app candidate with
    | true =>
      refine .inr ⟨candidate, rfl, hv, hacc.trans hv, ?_⟩
      exact (congrArg Held.active hheld).trans (hgood hv).1
    | false => exact .inl ((congrArg Held.active hheld).trans (hbad hv).1)

theorem verifies_readBack {candidate : Settings} (h : s.verifies app candidate = true) :
    ReadBack app ⟨candidate, clocksFor candidate.cpuProfile⟩ := by
  refine ⟨⟨s.hardware, ?_⟩, rfl⟩
  unfold verifies at h
  simp only [Bool.and_eq_true, decide_eq_true_eq] at h
  exact Prod.ext h.1.1 (congrArg₂ Applied.mk h.1.2 h.2)

variable (build codec app) in
theorem step_active (call : Call) :
    (s.step build codec app call).activeSettings = s.activeSettings ∨
      ReadBack app (s.step build codec app call).activeSettings := by
  cases call with
  | dispatch request readiness =>
    rcases dispatch_active build codec app (s := s) request
      readiness with h | ⟨candidate, -, hv, -, h⟩
    · exact .inl h
    · right
      show ReadBack app (s.dispatch build codec app request readiness).state.activeSettings
      rw [h]
      exact verifies_readBack hv
  | recoverToIdle =>
    left
    simp only [step, recoverToIdle]
    split
    · rfl
    · simp only [transitionTo]
      split
      · rename_i heq
        split at heq <;> cases heq
        rfl
      · rename_i heq
        split at heq <;> cases heq
        rfl
  | beginHostSession => exact .inl rfl
  | takePendingEvents => exact .inl rfl

theorem run_active (calls : List Call) :
    (s.run build codec app calls).activeSettings = s.activeSettings ∨
      ReadBack app (s.run build codec app calls).activeSettings := by
  induction calls generalizing s with
  | nil => exact .inl rfl
  | cons call calls ih =>
    rcases ih (s := s.step build codec app call) with h | h
    · rcases step_active build codec app (s := s) call with h' | h'
      · exact .inl (h.trans h')
      · exact .inr (by rw [run, List.foldl_cons, ← run, h]; exact h')
    · exact .inr h

/-- The latch and the code's flag. -/
theorem track_known {p : ControlState σ × Bool} (hp : p.2 = true → p.1.settingsKnown = false)
    {call : Call} (h : MeetsAt build codec app p call) :
    (track build codec app p call).2 = true →
      (track build codec app p call).1.settingsKnown = false := by
  cases call with
  | dispatch request readiness =>
    intro hlatched
    simp only [track, latch] at hlatched
    have htouch := dispatch_touches build codec app (s := p.1)
      request readiness
    show (p.1.dispatch build codec app request readiness).state.settingsKnown = false
    cases hatt : p.1.attempted build codec app request readiness with
    | none =>
      rw [hatt] at htouch hlatched
      exact (congrArg Held.known htouch).trans (hp hlatched)
    | some candidate =>
      rw [hatt] at htouch hlatched
      obtain ⟨-, -, hbad⟩ := applySettings_eq app (s := p.1) candidate
      dsimp only at hlatched
      split at hlatched
      · cases hlatched
      rename_i hv
      have hv := Bool.eq_false_iff.mpr hv
      have hknown := (congrArg Held.known htouch.1).trans (hbad hv).2
      rw [show (p.1.dispatch build codec app request readiness).state.settingsKnown = _ from hknown]
      split at hlatched
      · -- A failed CONFIGURE was rolled back: the condition excludes it here.
        rename_i hr
        rcases h hlatched candidate hatt with h' | h'
        · rw [hv] at h'
          cases h'
        · exact h'
      · exact Bool.eq_false_iff.mpr ‹_›
  | recoverToIdle =>
    intro hlatched
    have hknown := hp hlatched
    simp only [track, step, recoverToIdle]
    split
    · exact hknown
    · simp only [transitionTo]
      split
      · rename_i heq
        split at heq <;> cases heq
        exact hknown
      · rename_i heq
        split at heq <;> cases heq
        exact hknown
  | beginHostSession => exact hp
  | takePendingEvents => exact hp

theorem tracked_known {p : ControlState σ × Bool} (hp : p.2 = true → p.1.settingsKnown = false)
    (calls : List Call) (h : Meets build codec app p calls) :
    (calls.foldl (track build codec app) p).2 = true →
      (calls.foldl (track build codec app) p).1.settingsKnown = false := by
  induction calls generalizing p with
  | nil => exact hp
  | cons call calls ih => exact ih (track_known hp h.1) h.2

theorem tracked_run (p : ControlState σ × Bool) (calls : List Call) :
    (calls.foldl (track build codec app) p).1 = p.1.run build codec app calls := by
  induction calls generalizing p with
  | nil => rfl
  | cons call calls ih => exact ih (track build codec app p call)

/-- Whatever the calls and the answers of the settings interface: the active settings
are those of boot or were read back exactly, a failed CONFIGURE leaves them as they
were, and a change is a verified candidate.  Where no CONFIGURE that fails after an
unverified rollback is itself rolled back, every START and every report is refused from
the unverified rollback to the next verified CONFIGURE. -/
theorem settings_transactional (build : Build) (codec : Codec) (app : Application σ) (hardware : σ)
    (hardwareSerial : UInt32) (calls : List Call) :
    let s := (booted build app hardware hardwareSerial).run build codec app calls
    (s.activeSettings = ⟨app.defaults, clocksFor app.defaults.cpuProfile⟩ ∨
      ReadBack app s.activeSettings) ∧
    (∀ request readiness, request.kind = .configure →
      (s.dispatch build codec app request readiness).commandAccepted = false →
      (s.dispatch build codec app request readiness).state.activeSettings = s.activeSettings) ∧
    (∀ request readiness,
      (s.dispatch build codec app request readiness).state.activeSettings ≠ s.activeSettings →
      ∃ candidate, s.attempted build codec app request readiness = some candidate ∧
        s.verifies app candidate = true ∧
        (s.dispatch build codec app request readiness).state.activeSettings =
          ⟨candidate, clocksFor candidate.cpuProfile⟩) ∧
    (Meets build codec app (booted build app hardware hardwareSerial, false) calls →
      (calls.foldl (track build codec app) (booted build app hardware hardwareSerial, false)).2 =
        true →
      ∀ request readiness, request.reports = true →
        Refuses codec s request (s.dispatch build codec app request readiness)) := by
  intro s
  refine ⟨run_active calls, ?_, ?_, ?_⟩
  · intro request readiness _ hfailed
    rcases dispatch_active build codec app (s := s) request
      readiness with h | ⟨candidate, -, -, hacc, -⟩
    · exact h
    · rw [hfailed] at hacc
      cases hacc
  · intro request readiness hne
    rcases dispatch_active build codec app (s := s) request
      readiness with h | ⟨candidate, hatt, hv, -, h⟩
    · exact absurd h hne
    · exact ⟨candidate, hatt, hv, h⟩
  · intro hmeets hlatched request readiness hreports
    have hknown := tracked_known (by simp) calls hmeets hlatched
    rw [tracked_run] at hknown
    exact dispatch_unknown hknown hreports readiness

/-! ### A failed CONFIGURE that repairs the flag -/

/-- A settings interface whose first three attempts fail. -/
def failsThrice : Application ℕ where
  defaults := Settings.defaultsFor 1
  supports := fun _ _ => true
  apply := fun n candidate => (n + 1, decide (3 ≤ n), ⟨candidate, clocksFor candidate.cpuProfile⟩)

/-- A version 3 request that asks for the default settings. -/
def v3Request (kind : CommandKind) (id : UInt32) : Request :=
  { kind := kind, requestId := id, protocolVersion := 3, settings := Settings.defaultsFor 1 }

def emptyFrames : Codec := fun _ _ _ => .ok []

/-- After the unverified rollback START is refused. -/
theorem settings_transactional_latched :
    Refuses emptyFrames
      ((booted ⟨true, 1⟩ failsThrice 0 7).run ⟨true, 1⟩ emptyFrames failsThrice
        [.dispatch (v3Request .configure 1) {}])
      (v3Request .start 2)
      (((booted ⟨true, 1⟩ failsThrice 0 7).run ⟨true, 1⟩ emptyFrames failsThrice
        [.dispatch (v3Request .configure 1) {}]).dispatch ⟨true, 1⟩ emptyFrames failsThrice
        (v3Request .start 2) {}) :=
  (settings_transactional ⟨true, 1⟩ emptyFrames failsThrice 0 7
    [.dispatch (v3Request .configure 1) {}]).2.2.2 ⟨fun h => (by cases h), trivial⟩
    (by decide +kernel) (v3Request .start 2) {} rfl

/-- The first CONFIGURE fails and so does its rollback; the second fails too and is
rolled back, and START is accepted although no CONFIGURE was verified. -/
theorem settings_repaired_by_failure :
    (List.foldl (track ⟨true, 1⟩ emptyFrames failsThrice)
      (booted ⟨true, 1⟩ failsThrice 0 7, false)
      [.dispatch (v3Request .configure 1) {}, .dispatch (v3Request .configure 2) {}]).2 = true ∧
    (((booted ⟨true, 1⟩ failsThrice 0 7).run ⟨true, 1⟩ emptyFrames failsThrice
      [.dispatch (v3Request .configure 1) {}, .dispatch (v3Request .configure 2) {}]).dispatch
      ⟨true, 1⟩ emptyFrames failsThrice (v3Request .start 3) {}).commandAccepted = true := by
  decide +kernel

end ControlState

end ThingDaq.Control
