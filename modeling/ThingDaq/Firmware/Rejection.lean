import ThingDaq.Firmware.Transaction

/-!
# Rejected commands

A request that `dispatch` answers with a typed error has changed nothing that a later
request could see, but for the window of request ids, the counters of rejected commands
and, after settings that could not be applied, what is known of the settings.

## Main results

* `Handled` — what every handler leaves alone; one lemma for each of them.
* `dispatch_handled` — the same of a dispatch, its window apart.
* `typed_rejection_atomic` — a typed error is atomic, whatever the version.
-/

namespace ThingDaq.Control

open Wire

namespace ControlState

variable {σ : Type}

/-- A handler leaves the window and the serial number alone, and when it answers a typed
error also the state, the configuration, the run, the generation and the events. -/
structure Handled (s : ControlState σ) (d : Dispatch σ) : Prop where
  window : d.state.recentRequestIds = s.recentRequestIds
  serial : d.state.hardwareSerial = s.hardwareSerial
  atomic : d.status = .responseReady → d.commandError ≠ .ok →
    d.state =
      { s with
        settingsKnown := d.state.settingsKnown
        hardware := d.state.hardware
        statistics := s.statistics.recordCommandRejected d.commandError }

variable {build : Build} {codec : Codec} {app : Application σ} {s s' : ControlState σ}
  {d : Dispatch σ}

/-- An answer that is no typed error. -/
theorem handled_of_no_error (window : d.state.recentRequestIds = s.recentRequestIds)
    (serial : d.state.hardwareSerial = s.hardwareSerial)
    (h : d.status ≠ .responseReady ∨ d.commandError = .ok) : Handled s d where
  window := window
  serial := serial
  atomic := by
    intro hready herror
    rcases h with h | h
    · exact absurd hready h
    · exact absurd h herror

/-- The settings interface may have been asked before. -/
theorem Handled.of_settings (h : Handled s' d) {known : Bool} {hardware : σ}
    (hs : s' = { s with settingsKnown := known, hardware := hardware }) : Handled s d where
  window := by rw [h.window, hs]
  serial := by rw [h.serial, hs]
  atomic := by
    intro hready herror
    refine (h.atomic hready herror).trans ?_
    rw [hs]

theorem handled_encoded (error : ErrorCode) (encoding : Except Result Bytes) :
    Handled s (s.encoded error encoding) := by
  unfold encoded
  split
  · exact handled_of_no_error rfl rfl (.inl (by simp))
  · by_cases hok : error = .ok
    · rw [if_pos hok]
      exact handled_of_no_error rfl rfl (.inr hok)
    · rw [if_neg hok]
      exact ⟨rfl, rfl, fun _ _ => rfl⟩

theorem handled_reject (request : Request) (error : ErrorCode) :
    Handled s (s.reject codec request error) := by
  unfold reject
  split
  · exact ⟨rfl, rfl, fun _ _ => rfl⟩
  · exact handled_encoded _ _

/-- A transition that the table refuses is an encoding failure. -/
theorem handled_refused (hwindow : s'.recentRequestIds = s.recentRequestIds)
    (hserial : s'.hardwareSerial = s.hardwareSerial) : Handled s s'.refused :=
  handled_of_no_error hwindow hserial (.inl (by simp [refused, encoded]))

theorem handled_succeeded {frame : Bytes} (hwindow : s'.recentRequestIds = s.recentRequestIds)
    (hserial : s'.hardwareSerial = s.hardwareSerial) : Handled s (s'.succeeded frame) :=
  handled_of_no_error hwindow hserial (.inr rfl)

/-- The transition table does not look at the window. -/
theorem transitionTo_window (s : ControlState σ) (next : DeviceState) :
    (s.transitionTo next).1.recentRequestIds = s.recentRequestIds ∧
      (s.transitionTo next).1.hardwareSerial = s.hardwareSerial := by
  unfold transitionTo
  split <;> exact ⟨rfl, rfl⟩

/-- A failed attempt leaves the active settings. -/
theorem applySettings_failed {candidate : Settings} (h : s.applySettings app candidate = (s', false)) :
    s' = { s with settingsKnown := s'.settingsKnown, hardware := s'.hardware } := by
  unfold applySettings at h
  split at h
  dsimp only at h
  split at h
  · cases h
  · cases h
    rfl

theorem applySettings_window {candidate : Settings} {ok : Bool}
    (h : s.applySettings app candidate = (s', ok)) :
    s'.recentRequestIds = s.recentRequestIds ∧ s'.hardwareSerial = s.hardwareSerial := by
  unfold applySettings at h
  split at h
  dsimp only at h
  split at h <;> (cases h; exact ⟨rfl, rfl⟩)

/-! ### The legacy handlers -/

theorem handled_commitConfiguration {request : Request} {candidate : Configuration} {frame : Bytes}
    (hwindow : s'.recentRequestIds = s.recentRequestIds)
    (hserial : s'.hardwareSerial = s.hardwareSerial) :
    Handled s (s'.commitConfiguration request candidate frame) := by
  obtain ⟨htw, hts⟩ := transitionTo_window s' .configured
  unfold commitConfiguration
  split
  · rename_i heq
    rw [heq] at htw hts
    exact handled_refused (htw.trans hwindow) (hts.trans hserial)
  · rename_i heq
    rw [heq] at htw hts
    exact handled_succeeded (htw.trans hwindow) (hts.trans hserial)

theorem handled_configure (request : Request) (readiness : DispatchReadiness) :
    Handled s (s.configure build codec app request readiness) := by
  unfold configure
  split
  · exact handled_reject _ _
  split
  · exact handled_reject _ _
  dsimp only
  split
  · exact handled_reject _ _
  split
  · exact handled_reject _ _
  split
  · exact handled_encoded _ _
  split
  · split
    · exact handled_reject _ _
    · split
      · rename_i happly
        exact (handled_reject _ _).of_settings (applySettings_failed happly)
      · rename_i happly
        obtain ⟨hwindow, hserial⟩ := applySettings_window happly
        exact handled_commitConfiguration hwindow hserial
  · exact handled_commitConfiguration rfl rfl

theorem handled_start (request : Request) (readiness : DispatchReadiness) :
    Handled s (s.start codec request readiness) := by
  obtain ⟨htw, hts⟩ := transitionTo_window s .running
  unfold start
  split
  · exact handled_reject _ _
  split
  · exact handled_reject _ _
  split
  · exact handled_reject _ _
  split
  · exact handled_reject _ _
  dsimp only
  split
  · exact handled_encoded _ _
  · split
    · rename_i heq
      rw [heq] at htw hts
      exact handled_refused htw hts
    · rename_i heq
      rw [heq] at htw hts
      exact handled_succeeded htw hts

theorem handled_stop (request : Request) : Handled s (s.stop build codec request) := by
  obtain ⟨htw, hts⟩ := transitionTo_window s .idle
  unfold stop
  split
  · exact handled_reject _ _
  split
  · exact handled_encoded _ _
  · dsimp only
    split
    · rename_i heq
      rw [heq] at htw hts
      exact handled_refused htw hts
    · rename_i heq
      rw [heq] at htw hts
      exact handled_succeeded htw hts

theorem handled_resetStats (request : Request) (readiness : DispatchReadiness) :
    Handled s (s.resetStats codec request readiness) := by
  unfold resetStats
  split
  · exact handled_reject _ _
  split
  · exact handled_reject _ _
  split
  · exact handled_encoded _ _
  · exact handled_succeeded rfl rfl

theorem handled_diagnostic (request : Request) (supported : Bool) (report : Option Bytes)
    (error : ErrorCode) (message : Bytes → Message) :
    Handled s (s.diagnostic codec request supported report error message) := by
  unfold diagnostic
  split
  · exact handled_reject _ _
  split
  · exact handled_reject _ _
  split
  · exact handled_reject _ _
  · exact handled_encoded _ _

theorem handled_unknownKind : Handled s s.unknownKind :=
  handled_of_no_error rfl rfl (.inl (by simp [unknownKind]))

theorem handled_dispatchLegacy (request : Request) (readiness : DispatchReadiness) :
    Handled s (s.dispatchLegacy build codec app request readiness) := by
  unfold dispatchLegacy
  cases request.kind with
  | info =>
    dsimp only
    split
    · exact handled_reject _ _
    · exact handled_encoded _ _
  | getStatus =>
    dsimp only
    split
    · exact handled_reject _ _
    · exact handled_encoded _ _
  | configure => exact handled_configure _ _
  | start => exact handled_start _ _
  | stop => exact handled_stop _
  | resetStats => exact handled_resetStats _ _
  | ping => exact handled_encoded _ _
  | getTemperature => exact handled_encoded _ _
  | getRuntimeHealth => exact handled_encoded _ _
  | checksumBenchmark => exact handled_diagnostic ..
  | gpioClockDiagnostic => exact handled_diagnostic ..
  | gpioCaptureDiagnostic => exact handled_diagnostic ..
  | getCapabilities => exact handled_unknownKind
  | getSettings => exact handled_unknownKind

/-! ### The handlers of version 3 -/

/-- A response that is encoded after a change is no typed error. -/
theorem handled_encoded_ok (hwindow : s'.recentRequestIds = s.recentRequestIds)
    (hserial : s'.hardwareSerial = s.hardwareSerial) (encoding : Except Result Bytes) :
    Handled s (s'.encoded .ok encoding) := by
  unfold encoded
  split
  · exact handled_of_no_error hwindow hserial (.inl (by simp))
  · exact handled_of_no_error hwindow hserial (.inr rfl)

theorem handled_configureV3 (request : Request) (readiness : DispatchReadiness) :
    Handled s (s.configureV3 build codec app request readiness) := by
  unfold configureV3
  split
  · exact handled_reject _ _
  split
  · exact handled_reject _ _
  split
  · exact handled_reject _ _
  split
  · exact handled_reject _ _
  split
  · exact handled_encoded _ _
  split
  · rename_i happly
    exact (handled_reject _ _).of_settings (applySettings_failed happly)
  · rename_i happly
    obtain ⟨hwindow, hserial⟩ := applySettings_window happly
    dsimp only
    refine handled_encoded_ok ?_ ?_ _
    · exact (transitionTo_window _ .idle).1.trans hwindow
    · exact (transitionTo_window _ .idle).2.trans hserial

theorem handled_startV3 (request : Request) (readiness : DispatchReadiness) :
    Handled s (s.startV3 codec request readiness) := by
  unfold startV3
  split
  · exact handled_reject _ _
  split
  · exact handled_reject _ _
  split
  · exact handled_reject _ _
  dsimp only
  split
  · exact handled_reject _ _
  split
  · exact handled_encoded _ _
  · refine handled_encoded_ok ?_ ?_ _
    · exact (transitionTo_window _ .running).1.trans (transitionTo_window _ .configured).1
    · exact (transitionTo_window _ .running).2.trans (transitionTo_window _ .configured).2

theorem handled_stopV3 (request : Request) (readiness : DispatchReadiness) :
    Handled s (s.stopV3 build codec request readiness) := by
  unfold stopV3
  split
  · exact handled_reject _ _
  split
  · refine handled_encoded_ok ?_ ?_ _
    · exact (transitionTo_window s .idle).1
    · exact (transitionTo_window s .idle).2
  · exact handled_encoded _ _

theorem handled_dispatchV3 (request : Request) (readiness : DispatchReadiness) :
    Handled s (s.dispatchV3 build codec app request readiness) := by
  unfold dispatchV3
  split
  · exact handled_reject _ _
  split
  · exact handled_reject _ _
  split
  · exact handled_reject _ _
  split
  · exact handled_encoded _ _
  · exact handled_encoded _ _
  · split
    · exact handled_reject _ _
    · exact handled_encoded _ _
  · exact handled_configureV3 _ _
  · exact handled_startV3 _ _
  · exact handled_stopV3 _ _
  · exact handled_encoded _ _
  · exact handled_encoded _ _

/-! ### A dispatch -/

/-- An id that is remembered reaches one handler. -/
theorem dispatch_handled {request : Request} (hboot : s.state ≠ .boot)
    (hid : s.rememberRequestId request.requestId = some s') (readiness : DispatchReadiness) :
    Handled s' (s.dispatch build codec app request readiness) := by
  unfold dispatch
  rw [if_neg hboot, hid]
  dsimp only
  split
  · exact handled_dispatchV3 _ _
  · split
    · exact handled_reject _ _
    · exact handled_dispatchLegacy _ _

/-- An id that is refused is answered by a typed error. -/
theorem dispatch_refused {request : Request} (hboot : s.state ≠ .boot)
    (hid : s.rememberRequestId request.requestId = none) (readiness : DispatchReadiness) :
    s.dispatch build codec app request readiness = s.reject codec request .invalidRequestId := by
  unfold dispatch
  rw [if_neg hboot, hid]

/-- Rejections do not start a generation. -/
theorem recordCommandRejected_generation (s : Statistics) (error : ErrorCode) :
    (s.recordCommandRejected error).generation = s.generation ∧
      (s.recordCommandRejected error).commandsAccepted = s.commandsAccepted ∧
      (s.recordCommandRejected error).adc = s.adc ∧ (s.recordCommandRejected error).gpio = s.gpio := by
  unfold Statistics.recordCommandRejected
  dsimp only
  split <;> exact ⟨rfl, rfl, rfl, rfl⟩

/-- What a rejected command leaves as it was. -/
structure Unchanged (s s' : ControlState σ) : Prop where
  state : s'.state = s.state
  configuration : s'.configuration = s.configuration
  hasConfiguration : s'.hasConfiguration = s.hasConfiguration
  negotiatedVersion : s'.negotiatedVersion = s.negotiatedVersion
  runId : s'.runId = s.runId
  hardwareSerial : s'.hardwareSerial = s.hardwareSerial
  generation : s'.statistics.generation = s.statistics.generation
  commandsAccepted : s'.statistics.commandsAccepted = s.statistics.commandsAccepted
  adc : s'.statistics.adc = s.statistics.adc
  gpio : s'.statistics.gpio = s.statistics.gpio
  activeSettings : s'.activeSettings = s.activeSettings
  pending : s'.pending = s.pending

theorem Handled.unchanged (h : Handled s d) (hready : d.status = .responseReady)
    (herror : d.commandError ≠ .ok) : Unchanged s d.state := by
  obtain ⟨hgen, hacc, hadc, hgpio⟩ := recordCommandRejected_generation s.statistics d.commandError
  rw [h.atomic hready herror]
  exact ⟨rfl, rfl, rfl, rfl, rfl, rfl, hgen, hacc, hadc, hgpio, rfl, rfl⟩

/-- A request that is answered by a typed error, by any version's dispatcher and in any
state, changes the window of request ids, the counters of rejected commands and, when
settings could not be applied, whether the settings are known. -/
theorem typed_rejection_atomic (build : Build) (codec : Codec) (app : Application σ)
    (s : ControlState σ) (request : Request) (readiness : DispatchReadiness)
    (hready : (s.dispatch build codec app request readiness).status = .responseReady)
    (herror : (s.dispatch build codec app request readiness).commandError ≠ .ok) :
    let d := s.dispatch build codec app request readiness
    Unchanged s d.state ∧
      d.state.statistics = s.statistics.recordCommandRejected d.commandError ∧
      (d.state.settingsKnown = s.settingsKnown ∧ d.state.hardware = s.hardware ∨
        ∃ candidate, s.attempted build codec app request readiness = some candidate ∧
          (s.applySettings app candidate).2 = false ∧
          d.state.settingsKnown = (s.applySettings app candidate).1.settingsKnown ∧
          d.state.hardware = (s.applySettings app candidate).1.hardware) := by
  intro d
  have hboot : s.state ≠ .boot := by
    intro hboot
    unfold dispatch at hready
    rw [if_pos hboot] at hready
    cases hready
  have hrest : Unchanged s d.state ∧
      d.state.statistics = s.statistics.recordCommandRejected d.commandError := by
    cases hid : s.rememberRequestId request.requestId with
    | none =>
      have hd : Handled s d := by
        show Handled s (s.dispatch build codec app request readiness)
        rw [dispatch_refused hboot hid readiness]
        exact handled_reject _ _
      exact ⟨hd.unchanged hready herror, congrArg statistics (hd.atomic hready herror)⟩
    | some s₁ =>
      have hd : Handled s₁ d := dispatch_handled hboot hid readiness
      have hsame := rememberRequestId_same hid
      have hun := hd.unchanged hready herror
      have hst := congrArg statistics (hd.atomic hready herror)
      rw [hsame] at hun hst
      exact ⟨⟨hun.state, hun.configuration, hun.hasConfiguration, hun.negotiatedVersion, hun.runId,
        hun.hardwareSerial, hun.generation, hun.commandsAccepted, hun.adc, hun.gpio,
        hun.activeSettings, hun.pending⟩, hst⟩
  refine ⟨hrest.1, hrest.2, ?_⟩
  -- What became of the settings is what the attempt, if there was one, did to them.
  have htouch := dispatch_touches build codec app (s := s) request readiness
  cases hatt : s.attempted build codec app request readiness with
  | none =>
    rw [hatt] at htouch
    exact .inl ⟨congrArg Held.known htouch, congrArg Held.hardware htouch⟩
  | some candidate =>
    rw [hatt] at htouch
    obtain ⟨hheld, haccepted⟩ := htouch
    have hnot : d.commandAccepted = false := by
      unfold Dispatch.commandAccepted
      simp only [Bool.and_eq_false_iff, decide_eq_false_iff_not]
      exact .inr herror
    refine .inr ⟨candidate, rfl, ?_, congrArg Held.known hheld, congrArg Held.hardware hheld⟩
    have hverifies := haccepted.symm.trans hnot
    exact (applySettings_eq app (s := s) candidate).1.trans hverifies

/-- A CONFIGURE whose settings are not applied, nor the former ones restored. -/
theorem typed_rejection_atomic_configure :
    let s := booted ⟨true, 1⟩ failsThrice 0 7
    let d := s.dispatch ⟨true, 1⟩ emptyFrames failsThrice (v3Request .configure 1) {}
    d.status = .responseReady ∧ d.commandError = .internalError ∧ d.state.settingsKnown = false ∧
      Unchanged s d.state :=
  ⟨by decide +kernel, by decide +kernel, by decide +kernel,
    (typed_rejection_atomic ⟨true, 1⟩ emptyFrames failsThrice (booted ⟨true, 1⟩ failsThrice 0 7)
      (v3Request .configure 1) {} (by decide +kernel) (by decide +kernel)).1⟩

end ControlState

end ThingDaq.Control
