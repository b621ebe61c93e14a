import ThingDaq.Firmware.Acquisition

/-!
# Run flags of the acquisition controller

A run of the controller begins with a reservation, becomes active, is stopped and drained,
and ends when a service visit finds every path of it quiescent.

Everything but the start and the end of a visit leaves the `identity` of a run alone and
never stops the packet pipeline; this is shown program by program with `Keeps`.

## Main results

* `step_disciplined` — one command, from a settled controller.
* `history_disciplined` — every command of every session, whatever the components answer.
-/

namespace ThingDaq.Firmware.Acquisition

open Calls Prog

/-! ### What a run is -/

namespace PhysicalRun

/-- A start is pending, or the run is active or draining. -/
def Ongoing (r : PhysicalRun) : Prop :=
  r.startPending = true ∨ r.active = true ∨ r.drainPending = true

/-- The run id tells whether there is a run. -/
def Flagged (r : PhysicalRun) : Prop := r.runId ≠ 0 ↔ r.Ongoing

/-- Between two commands no start is pending. -/
def Settled (r : PhysicalRun) : Prop :=
  r = {} ∨ r.runId ≠ 0 ∧ r.startPending = false ∧ (r.active || r.drainPending) = true

/-- What does not change while a run goes on. -/
def identity (r : PhysicalRun) : UInt32 × UInt8 × UInt8 × Bool × Bool :=
  (r.runId, r.streamMask, r.auxBankMode, r.startPending, r.active || r.drainPending)

variable {r r' : PhysicalRun}

theorem Settled.flagged (h : r.Settled) : r.Flagged := by
  rcases h with rfl | ⟨hid, -, hgoing⟩
  · refine iff_of_false (fun h => h rfl) ?_
    rintro (h | h | h) <;> cases h
  · exact iff_of_true hid (Or.inr (by simpa using hgoing))

theorem identity_eq (h : r'.identity = r.identity) :
    r'.runId = r.runId ∧ r'.streamMask = r.streamMask ∧ r'.auxBankMode = r.auxBankMode ∧
      r'.startPending = r.startPending ∧
        (r'.active || r'.drainPending) = (r.active || r.drainPending) := by
  simpa only [identity, Prod.mk.injEq] using h

theorem flagged_of_identity (h : r'.identity = r.identity) (hr : r.Flagged) : r'.Flagged := by
  obtain ⟨hid, -, -, hpending, hgoing⟩ := identity_eq h
  have hongoing : ∀ q : PhysicalRun,
      q.Ongoing ↔ q.startPending = true ∨ (q.active || q.drainPending) = true := by
    intro q
    rw [Ongoing, Bool.or_eq_true]
  unfold Flagged at *
  rw [hongoing] at *
  rw [hid, hpending, hgoing]
  exact hr

theorem settled_of_identity (h : r'.identity = r.identity)
    (hr : r.runId ≠ 0 ∧ r.startPending = false ∧ (r.active || r.drainPending) = true) :
    r'.Settled := by
  obtain ⟨hid, -, -, hpending, hgoing⟩ := identity_eq h
  right
  rw [hid, hpending, hgoing]
  exact hr

theorem paths_of_identity (h : r'.identity = r.identity) :
    r'.includesAdc = r.includesAdc ∧ r'.includesGpio = r.includesGpio ∧
      r'.gpioPath = r.gpioPath := by
  obtain ⟨-, hmask, hmode, -⟩ := identity_eq h
  unfold includesAdc includesGpio gpioPath
  rw [hmask, hmode]
  exact ⟨rfl, rfl, rfl⟩

end PhysicalRun

/-- The calls of a program that does not end production. -/
def Silent (op : Op) : Prop := op ≠ .stopProduction

def runOf (s : Controller) : PhysicalRun := s.run

def identityOf (s : Controller) : UInt32 × UInt8 × UInt8 × Bool × Bool := s.run.identity

theorem keeps_identity {α : Type} {p : Control α} (h : Keeps runOf Silent p) :
    Keeps identityOf Silent p :=
  h.mono (fun _ _ hs => congrArg PhysicalRun.identity hs) (fun _ hop => hop)

/-! ### The audit -/

variable (wiring : Wiring)

theorem inspectRate_keeps (c : Configuration) : Keeps runOf Silent (inspectRate wiring c) := by
  unfold inspectRate
  apply keeps_ite
  · refine keeps_bind (keeps_invoke nofun) fun faulted => ?_
    exact keeps_bind (keeps_invoke nofun) fun transactionActive => keeps_pure _
  · exact keeps_pure _

theorem inspectAdc_keeps (c : Configuration) (epoch : UInt32) :
    Keeps runOf Silent (inspectAdc wiring c epoch) := by
  unfold inspectAdc
  apply keeps_ite
  · exact keeps_pure _
  · refine keeps_bind (keeps_invoke nofun) fun ready => ?_
    refine keeps_bind (keeps_invoke nofun) fun running => ?_
    refine keeps_bind (keeps_invoke nofun) fun packerReady => ?_
    exact keeps_bind (keeps_invoke nofun) fun status => keeps_pure _

theorem inspectGpio_keeps (c : Configuration) (epoch : UInt32) :
    Keeps runOf Silent (inspectGpio wiring c epoch) := by
  unfold inspectGpio
  apply keeps_ite
  · exact keeps_pure _
  · refine keeps_bind (keeps_invoke nofun) fun packerReady => ?_
    exact keeps_bind (keeps_invoke nofun) fun status => keeps_pure _

/-- A clean audit: there is no run, and the run id is one. -/
theorem inspect_spec (c : Configuration) (epoch : UInt32) (s : Controller) :
    (inspect wiring c epoch).wp s fun conflicts s' calls =>
      runOf s' = runOf s ∧ Quiet runOf Silent s calls ∧
        (conflicts = [] → ¬ s.run.Ongoing ∧ epoch ≠ 0) := by
  unfold inspect
  dsimp only
  split
  · exact ⟨rfl, quiet_nil, nofun⟩
  · split
    · exact ⟨rfl, quiet_nil, nofun⟩
    · split
      · exact ⟨rfl, quiet_nil, nofun⟩
      · rename_i hepoch
        apply wp_bind
        apply wp_get
        refine wp_bind_keeps (inspectRate_keeps wiring c) fun rate s₁ calls₁ hs₁ hcalls₁ => ?_
        refine wp_bind_keeps (keeps_ifSo (inspectAdc_keeps wiring c epoch))
          fun adc s₂ calls₂ hs₂ hcalls₂ => ?_
        refine wp_bind_keeps (keeps_ifSo (inspectGpio_keeps wiring c epoch))
          fun gpio s₃ calls₃ hs₃ hcalls₃ => ?_
        have hquiet := hcalls₁.append hs₁ (hcalls₂.append hs₂ (hcalls₃.append hs₃ quiet_nil))
        refine ⟨hs₃.trans (hs₂.trans hs₁), hquiet, ?_⟩
        intro hclean
        refine ⟨?_, hepoch⟩
        rintro (h | h | h) <;> simp [conflictIf, h] at hclean

theorem readyForStart_spec (c : Configuration) (epoch : UInt32) (s : Controller) :
    (readyForStart wiring c epoch).wp s fun ready s' calls =>
      runOf s' = runOf s ∧ Quiet runOf Silent s calls ∧
        (ready = true → ¬ s.run.Ongoing ∧ epoch ≠ 0) := by
  unfold readyForStart
  apply wp_bind
  refine wp_mono (inspect_spec wiring c epoch s) ?_
  rintro conflicts s' calls ⟨hs, hcalls, hclean⟩
  refine ⟨hs, hcalls.append hs quiet_nil, ?_⟩
  intro hready
  simp only [Bool.and_eq_true, List.isEmpty_iff] at hready
  exact hclean hready.2

/-! ### START -/

theorem configureRate_keeps (c : Configuration) (report : Report) :
    Keeps runOf Silent (configureRate wiring c report) := by
  unfold configureRate
  apply keeps_ite
  · refine keeps_bind (keeps_invoke nofun) fun selected => ?_
    refine keeps_bind (keeps_modify fun _ => rfl) fun _ => ?_
    refine keeps_bind (keeps_invoke nofun) fun configured => ?_
    exact keeps_bind (keeps_modify fun _ => rfl) fun _ => keeps_pure _
  · exact keeps_pure _

theorem startPacker_keeps (c : Configuration) (runId : UInt32) (epochTicks : UInt64)
    (path : Path) (report : Report) :
    Keeps runOf Silent (startPacker c runId epochTicks path report) :=
  keeps_bind (keeps_invoke nofun) fun _ => keeps_pure _

theorem prepareAdcCapture_keeps (c : Configuration) (runId : UInt32) (report : Report) :
    Keeps runOf Silent (prepareAdcCapture c runId report) := by
  refine keeps_bind (keeps_invoke nofun) fun _ => ?_
  exact keeps_bind (keeps_invoke nofun) fun status => keeps_pure _

theorem prepareGpioCapture_keeps (c : Configuration) (runId : UInt32) (report : Report) :
    Keeps runOf Silent (prepareGpioCapture c runId report) := by
  refine keeps_bind ?_ fun status => keeps_pure _
  exact keeps_ite (keeps_invoke nofun) (keeps_invoke nofun)

theorem armTrigger_keeps (c : Configuration) (report : Report) :
    Keeps runOf Silent (armTrigger c report) := by
  refine keeps_bind (keeps_invoke nofun) fun armed => ?_
  exact keeps_ite (keeps_pure _) (keeps_pure _)

theorem runStages_keeps (stages : List (Report → Control (Report × Bool)))
    (h : ∀ stage ∈ stages, ∀ report, Keeps runOf Silent (stage report)) (report : Report) :
    Keeps runOf Silent (runStages stages report) := by
  induction stages generalizing report with
  | nil => exact keeps_pure _
  | cons stage rest ih =>
    refine keeps_bind (h stage List.mem_cons_self report) ?_
    rintro ⟨report, ok⟩
    refine keeps_ite (ih ?_ report) (keeps_pure _)
    exact fun later hlater => h later (List.mem_cons_of_mem stage hlater)

theorem startStages_keeps (c : Configuration) (runId : UInt32) (epochTicks : UInt64) :
    ∀ stage ∈ startStages wiring c runId epochTicks, ∀ report,
      Keeps runOf Silent (stage report) := by
  have hif : ∀ (b : Bool) (stage : Report → Control (Report × Bool)),
      (∀ report, Keeps runOf Silent (stage report)) →
        ∀ stage' ∈ stageIf b stage, ∀ report, Keeps runOf Silent (stage' report) := by
    intro b stage h stage' hstage
    unfold stageIf at hstage
    split at hstage
    · rw [List.mem_singleton.mp hstage]
      exact h
    · cases hstage
  intro stage hstage
  unfold startStages at hstage
  simp only [List.mem_append] at hstage
  rcases hstage with ((((h | h) | h) | h) | h) | h
  · rw [List.mem_singleton.mp h]
    exact configureRate_keeps wiring c
  · exact hif _ _ (startPacker_keeps c runId epochTicks .adc) stage h
  · exact hif _ _ (startPacker_keeps c runId epochTicks (gpioPathFor c)) stage h
  · exact hif _ _ (prepareAdcCapture_keeps c runId) stage h
  · exact hif _ _ (prepareGpioCapture_keeps c runId) stage h
  · exact hif _ _ (armTrigger_keeps c) stage h

theorem rollbackCapture_keeps (profile : Profile) (path : Path) (report : Report) :
    Keeps runOf Silent (rollbackCapture profile path report) := by
  unfold rollbackCapture
  apply keeps_ite
  · refine keeps_bind ?_ fun _ => keeps_pure _
    exact keeps_ite (keeps_invoke nofun) (keeps_invoke nofun)
  · exact keeps_pure _

theorem rollbackPacker_keeps (path : Path) (report : Report) :
    Keeps runOf Silent (rollbackPacker path report) := by
  unfold rollbackPacker
  apply keeps_ite
  · exact keeps_bind (keeps_invoke nofun) fun _ => keeps_pure _
  · exact keeps_pure _

theorem rollbackTrigger_keeps (profile : Profile) (report : Report) :
    Keeps runOf Silent (rollbackTrigger profile report) := by
  unfold rollbackTrigger
  apply keeps_ite
  · refine keeps_bind (keeps_invoke nofun) fun running => ?_
    apply keeps_ite
    · exact keeps_bind (keeps_invoke nofun) fun stopped => keeps_pure _
    · exact keeps_pure _
  · exact keeps_pure _

theorem restoreRate_keeps (report : Report) :
    Keeps runOf Silent (restoreRate wiring report) := by
  refine keeps_bind keeps_get fun s => ?_
  apply keeps_ite
  · exact keeps_bind (keeps_invoke nofun) fun restored => keeps_pure _
  · exact keeps_pure _

theorem rollbackSources_keeps (profile : Profile) (report : Report) :
    Keeps runOf Silent (rollbackSources wiring profile report) := by
  refine keeps_bind (rollbackTrigger_keeps profile report) fun report => ?_
  refine keeps_bind (keeps_ifSo (rollbackCapture_keeps profile .gpio report))
    fun report => ?_
  refine keeps_bind (keeps_ifSo (rollbackCapture_keeps profile .auxGpio report))
    fun report => ?_
  refine keeps_bind (keeps_ifSo (rollbackCapture_keeps profile .adc report))
    fun report => ?_
  refine keeps_bind (rollbackPacker_keeps .gpio report) fun report => ?_
  refine keeps_bind (rollbackPacker_keeps .auxGpio report) fun report => ?_
  exact keeps_bind (rollbackPacker_keeps .adc report) fun report => restoreRate_keeps wiring report

/-- Every call is made under the run `r`. -/
def MadeUnder (r : PhysicalRun) (calls : List (Call Components Controller)) : Prop :=
  ∀ call ∈ calls, call.state.run = r

theorem MadeUnder.append {r : PhysicalRun} {calls calls' : List (Call Components Controller)}
    (h : MadeUnder r calls) (h' : MadeUnder r calls') : MadeUnder r (calls ++ calls') := by
  intro call hcall
  rcases List.mem_append.mp hcall with hcall | hcall
  · exact h call hcall
  · exact h' call hcall

theorem madeUnder_of_quiet {s : Controller} {calls : List (Call Components Controller)}
    (h : Quiet runOf Silent s calls) : MadeUnder s.run calls :=
  fun call hcall => (h call hcall).1

theorem madeUnder_singleton (s : Controller) (op : Op) (r : op.Reply) :
    MadeUnder s.run [⟨s, op, r⟩] := by
  intro call hcall
  rw [List.mem_singleton.mp hcall]

theorem madeUnder_nil (r : PhysicalRun) : MadeUnder r [] := by
  intro call hcall
  cases hcall

theorem refuseStart_spec (report : Report) (s : Controller) :
    (refuseStart report).wp s fun result s' calls =>
      result.2 = false ∧ s'.run = s.run ∧ MadeUnder s.run calls := by
  apply wp_bind
  apply wp_invoke
  intro r
  exact ⟨rfl, rfl, (madeUnder_singleton s .stopProduction r).append (madeUnder_nil _)⟩

/-- Every failure after the reservation ends here. -/
theorem rollbackStart_spec (profile : Profile) (report : Report) (s : Controller) :
    (rollbackStart wiring profile report).wp s fun _ s' calls =>
      s'.run = {} ∧ MadeUnder s.run calls := by
  refine wp_bind_keeps (rollbackSources_keeps wiring profile report) fun report s₁ calls hs hcalls => ?_
  have hs : s₁.run = s.run := hs
  apply wp_bind
  apply wp_invoke
  intro r
  have hstop := madeUnder_singleton s₁ .stopProduction r
  rw [hs] at hstop
  exact ⟨rfl, (madeUnder_of_quiet hcalls).append (hstop.append (madeUnder_nil _))⟩

/-- The start after its reservation: it commits, or it rolls everything back. -/
theorem attemptStart_spec (c : Configuration) (runId : UInt32) (epochTicks : UInt64) (report : Report)
    (s : Controller) :
    (attemptStart wiring c runId epochTicks report).wp s fun result s' calls =>
      MadeUnder s.run calls ∧
        (result.2 = true ∧ s'.run = (commit s).run ∨ result.2 = false ∧ s'.run = {}) := by
  have hstages := runStages_keeps _ (startStages_keeps wiring c runId epochTicks) report
  refine wp_bind_keeps hstages ?_
  rintro ⟨report, started⟩ s₁ calls hs hcalls
  have hs : s₁.run = s.run := hs
  have hmade := madeUnder_of_quiet hcalls
  cases started with
  | true =>
    refine ⟨hmade.append (madeUnder_nil _), Or.inl ⟨rfl, ?_⟩⟩
    unfold commit
    rw [hs]
  | false =>
    apply wp_bind
    refine wp_mono (rollbackStart_spec wiring (profileFor c) report s₁) ?_
    rintro report s₂ calls' ⟨hs₂, hcalls'⟩
    rw [hs] at hcalls'
    apply wp_pure
    exact ⟨hmade.append (hcalls'.append (madeUnder_nil _)), Or.inr ⟨rfl, hs₂⟩⟩

/-- A start during a run changes nothing of it; without one it makes a run or leaves none. -/
theorem start_spec (c : Configuration) (runId : UInt32) (epochTicks : UInt64) (report : Report)
    (s : Controller) :
    (start wiring c runId epochTicks report).wp s fun result s' calls =>
      (result.2 = false ∧ s'.run = s.run ∧ MadeUnder s.run calls) ∨
      ¬ s.run.Ongoing ∧ runId ≠ 0 ∧
        (∀ call ∈ calls, call.state.run = s.run ∨
          call.state.run = (reserve c runId epochTicks s).run) ∧
        (result.2 = true ∧ s'.run = (commit (reserve c runId epochTicks s)).run ∨
          result.2 = false ∧ s'.run = {}) := by
  unfold start
  dsimp only
  apply wp_bind
  refine wp_mono (readyForStart_spec wiring c runId s) ?_
  rintro ready s₁ calls₁ ⟨hs₁, hcalls₁, hready⟩
  have hs₁ : s₁.run = s.run := hs₁
  have hmade₁ := madeUnder_of_quiet hcalls₁
  cases ready with
  | false =>
    refine wp_mono (refuseStart_spec _ s₁) ?_
    rintro result s₂ calls₂ ⟨hresult, hs₂, hcalls₂⟩
    rw [hs₁] at hs₂ hcalls₂
    exact Or.inl ⟨hresult, hs₂, hmade₁.append hcalls₂⟩
  | true =>
    obtain ⟨hidle, hid⟩ := hready rfl
    apply wp_bind
    apply wp_invoke
    intro view
    have hview := madeUnder_singleton s₁ .pipeline view
    rw [hs₁] at hview
    cases pipelineMatches view c runId with
    | false =>
      refine wp_mono (refuseStart_spec _ s₁) ?_
      rintro result s₂ calls₂ ⟨hresult, hs₂, hcalls₂⟩
      rw [hs₁] at hs₂ hcalls₂
      exact Or.inl ⟨hresult, hs₂, hmade₁.append (hview.append hcalls₂)⟩
    | true =>
      -- from here on the calls are made under the reservation
      apply wp_bind
      apply wp_modify
      have hreserved : (reserve c runId epochTicks s₁).run = (reserve c runId epochTicks s).run := by
        unfold reserve
        rw [hs₁]
      have hcommitted : (commit (reserve c runId epochTicks s₁)).run =
          (commit (reserve c runId epochTicks s)).run := by
        unfold commit
        rw [hreserved]
      refine wp_mono (attemptStart_spec wiring c runId epochTicks _ _) ?_
      rintro result s₂ calls₂ ⟨hmade₂, hend⟩
      rw [hreserved] at hmade₂
      rw [hcommitted] at hend
      refine Or.inr ⟨hidle, hid, ?_, hend⟩
      intro call hcall
      rcases List.mem_append.mp hcall with hcall | hcall
      · exact Or.inl (hmade₁ call hcall)
      · rcases List.mem_append.mp hcall with hcall | hcall
        · exact Or.inl (hview call hcall)
        · exact Or.inr (hmade₂ call hcall)

/-! ### STOP -/

theorem stopWith_keeps (op : Op) (hop : Silent op) (reply : op.Reply → StopStatus) (path : Path)
    (report : Report) : Keeps runOf Silent (stopWith op reply path report) :=
  keeps_bind (keeps_invoke hop) fun _ => keeps_pure _

theorem stopAdcPath_keeps (report : Report) : Keeps runOf Silent (stopAdcPath report) := by
  refine keeps_bind (keeps_invoke nofun) fun boundary => ?_
  refine keeps_bind (keeps_invoke nofun) fun stopped => ?_
  apply keeps_ite
  · exact keeps_pure _
  · exact keeps_bind (stopWith_keeps (.stopAfterTriggers .adc) nofun id .adc _) fun report => keeps_pure _

theorem stopCombinedPaths_keeps (report : Report) :
    Keeps runOf Silent (stopCombinedPaths report) := by
  refine keeps_bind (keeps_invoke nofun) fun stopped => ?_
  apply keeps_ite
  · exact keeps_pure _
  · refine keeps_bind keeps_get fun s => ?_
    refine keeps_bind (stopWith_keeps (.stopAfterTriggers s.run.gpioPath) nofun id _ _) fun report => ?_
    exact keeps_bind (stopWith_keeps (.stopAfterTriggers .adc) nofun id .adc _) fun report => keeps_pure _

theorem stopGpioPath_keeps (report : Report) : Keeps runOf Silent (stopGpioPath report) := by
  refine keeps_bind keeps_get fun s => ?_
  exact keeps_bind (stopWith_keeps (.stopCapture s.run.gpioPath) nofun id _ report) fun report => keeps_pure _

theorem stopPaths_keeps {streamMask : UInt8} {report : Report} {paths : Control (Report × Bool)}
    (h : stopPaths streamMask report = some paths) : Keeps runOf Silent paths := by
  unfold stopPaths at h
  split at h
  · cases h
    exact stopCombinedPaths_keeps report
  · split at h
    · cases h
      exact stopAdcPath_keeps report
    · split at h
      · cases h
        exact stopGpioPath_keeps report
      · cases h

/-- A stop of an active run leaves it active or draining. -/
theorem stop_keeps (report : Report) : Keeps identityOf Silent (stop report) := by
  intro s
  apply wp_bind
  apply wp_get
  cases hactive : s.run.active with
  | false =>
    rw [if_pos (by decide)]
    exact ⟨rfl, quiet_nil⟩
  | true =>
    rw [if_neg (by decide)]
    split
    · exact ⟨rfl, quiet_nil⟩
    · rename_i paths hpaths
      refine wp_bind_keeps (stopPaths_keeps hpaths) ?_
      rintro ⟨report, stopped⟩ s₁ calls hs hcalls
      have hs : s₁.run = s.run := hs
      have hquiet : Quiet identityOf Silent s calls := fun call hcall =>
        ⟨congrArg PhysicalRun.identity (hcalls call hcall).1, (hcalls call hcall).2⟩
      cases stopped with
      | true =>
        refine ⟨?_, hquiet.append rfl quiet_nil⟩
        change (beginDrain s₁).run.identity = s.run.identity
        simp only [beginDrain, PhysicalRun.identity, hs, hactive, Bool.false_or, Bool.true_or]
      | false =>
        refine ⟨?_, hquiet.append rfl quiet_nil⟩
        change (awaitDrain s₁).run.identity = s.run.identity
        simp only [awaitDrain, PhysicalRun.identity, hs, hactive, Bool.true_or]

theorem stop_inactive (report : Report) {s : Controller} (h : s.run.active = false) :
    (stop report).wp s fun _ s' calls => s' = s ∧ calls = [] := by
  apply wp_bind
  apply wp_get
  rw [h, if_pos (by decide)]
  exact ⟨rfl, rfl⟩

/-! ### Service -/

theorem serviceAdcPath_keeps (draining : Bool) (report : Report) :
    Keeps runOf Silent (serviceAdcPath draining report) := by
  refine keeps_bind (keeps_invoke nofun) fun _ => ?_
  exact keeps_bind (keeps_invoke nofun) fun serviced => keeps_pure _

theorem serviceGpioPath_keeps (draining : Bool) (report : Report) :
    Keeps runOf Silent (serviceGpioPath draining report) := by
  refine keeps_bind keeps_get fun s => ?_
  apply keeps_ite
  · refine keeps_bind (keeps_invoke nofun) fun _ => ?_
    exact keeps_bind (keeps_invoke nofun) fun serviced => keeps_pure _
  · exact keeps_bind (keeps_invoke nofun) fun serviced => keeps_pure _

theorem servicePaths_keeps (report : Report) : Keeps runOf Silent (servicePaths report) := by
  refine keeps_bind keeps_get fun s => ?_
  refine keeps_bind (keeps_ifSo (serviceAdcPath_keeps _ report)) fun report => ?_
  exact keeps_ifSo (serviceGpioPath_keeps _ report)

theorem captureFaulted_keeps (enabled : Bool) (path : Path) :
    Keeps runOf Silent (captureFaulted wiring enabled path) := by
  apply keeps_ite
  · exact keeps_bind (keeps_invoke nofun) fun capture => keeps_pure _
  · exact keeps_pure _

theorem activePathFaulted_keeps : Keeps runOf Silent (activePathFaulted wiring) := by
  refine keeps_bind keeps_get fun s => ?_
  refine keeps_bind (captureFaulted_keeps wiring _ .adc) fun adc => ?_
  exact keeps_ite (keeps_pure _) (captureFaulted_keeps wiring _ _)

theorem stopFirst_keeps (report : Report) : Keeps identityOf Silent (stopFirst wiring report) := by
  refine keeps_bind keeps_get fun s => ?_
  refine keeps_bind (keeps_ifSo (keeps_identity (activePathFaulted_keeps wiring))) fun faulted => ?_
  apply keeps_ite
  · exact stop_keeps _
  · exact keeps_ite (stop_keeps _) (keeps_pure _)

theorem stopFailed_keeps (report : Report) : Keeps identityOf Silent (stopFailed report) := by
  refine keeps_bind keeps_get fun s => ?_
  exact keeps_ite (stop_keeps _) (keeps_pure _)

/-! ### The end of a run -/

/-- The calls that draining a path makes. -/
inductive OnPath (path : Path) : Op → Prop
  | rawSnapshot : OnPath path (.rawSnapshot path)
  | packerSnapshot : OnPath path (.packerSnapshot path)
  | packerStopProduction : OnPath path (.packerStopProduction path)
  | serviceOwnership : OnPath path (.serviceOwnership path)
  | packerService (rawLimit frameLimit : ℕ) : OnPath path (.packerService path rawLimit frameLimit)

theorem OnPath.silent {path : Path} {op : Op} (h : OnPath path op) : Silent op := by
  cases h <;> nofun

/-- The last snapshots of the capture and of the packer say that they are quiescent. -/
def PathQuiescent (calls : List (Call Components Controller)) (path : Path) : Prop :=
  (∃ capture : CaptureSnapshot, LastReply calls (.rawSnapshot path) capture ∧
    capture.quiescent = true) ∧
  ∃ packer : PackerSnapshot, LastReply calls (.packerSnapshot path) packer ∧
    packer.quiescent = true

/-- Every path that the run has is quiescent. -/
def RunQuiescent (calls : List (Call Components Controller)) (r : PhysicalRun) : Prop :=
  (r.includesAdc = true → PathQuiescent calls .adc) ∧
    (r.includesGpio = true → PathQuiescent calls r.gpioPath)

theorem PathQuiescent.prepend {calls : List (Call Components Controller)} {path : Path}
    (earlier : List (Call Components Controller)) (h : PathQuiescent calls path) :
    PathQuiescent (earlier ++ calls) path := by
  obtain ⟨⟨capture, hcapture, hq⟩, packer, hpacker, hq'⟩ := h
  exact ⟨⟨capture, hcapture.prepend earlier, hq⟩, packer, hpacker.prepend earlier, hq'⟩

theorem PathQuiescent.append {calls later : List (Call Components Controller)} {path : Path}
    (h : PathQuiescent calls path) (hlater : ∀ c ∈ later, ¬ OnPath path c.op) :
    PathQuiescent (calls ++ later) path := by
  obtain ⟨⟨capture, hcapture, hq⟩, packer, hpacker, hq'⟩ := h
  refine ⟨⟨capture, hcapture.append ?_, hq⟩, packer, hpacker.append ?_, hq'⟩
  · intro c hc heq
    apply hlater c hc
    rw [heq]
    exact .rawSnapshot
  · intro c hc heq
    apply hlater c hc
    rw [heq]
    exact .packerSnapshot

/-- The replies that `drainPath` hands on are the last ones of its path. -/
theorem drainPath_spec (path : Path) (report : Report) (s : Controller) :
    (drainPath path report).wp s fun result s' calls =>
      runOf s' = runOf s ∧ Quiet runOf (OnPath path) s calls ∧
        LastReply calls (.rawSnapshot path) result.2.1 ∧
        LastReply calls (.packerSnapshot path) result.2.2 := by
  apply wp_bind
  apply wp_invoke
  intro (capture : CaptureSnapshot)
  apply wp_bind
  apply wp_invoke
  intro (packer : PackerSnapshot)
  have hcapture := @lastReply_singleton Components Controller s (.rawSnapshot path) capture
  have hpacker := @lastReply_singleton Components Controller s (.packerSnapshot path) packer
  split
  · apply wp_bind
    apply wp_invoke
    intro _
    apply wp_bind
    apply wp_invoke
    intro (packer' : PackerSnapshot)
    refine ⟨rfl, ?_, hcapture.append ?_, ?_⟩
    · intro c hc
      simp only [List.mem_append, List.mem_singleton, List.not_mem_nil, or_false] at hc
      rcases hc with rfl | rfl | rfl | rfl
      · exact ⟨rfl, .rawSnapshot⟩
      · exact ⟨rfl, .packerSnapshot⟩
      · exact ⟨rfl, .packerStopProduction⟩
      · exact ⟨rfl, .packerSnapshot⟩
    · intro c hc
      simp only [List.mem_append, List.mem_singleton, List.not_mem_nil, or_false] at hc
      rcases hc with rfl | rfl | rfl <;> nofun
    · have hlast := @lastReply_singleton Components Controller s (.packerSnapshot path) packer'
      exact ((hlast.prepend _).prepend _).prepend _
  · refine ⟨rfl, ?_, hcapture.append ?_, hpacker.prepend _⟩
    · intro c hc
      simp only [List.mem_append, List.mem_singleton, List.not_mem_nil, or_false] at hc
      rcases hc with rfl | rfl
      · exact ⟨rfl, .rawSnapshot⟩
      · exact ⟨rfl, .packerSnapshot⟩
    · intro c hc
      simp only [List.mem_append, List.mem_singleton, List.not_mem_nil, or_false] at hc
      rcases hc with rfl
      nofun

/-- What the two drains say: the path is quiescent when they say so. -/
def Drains (path : Path) (s : Controller) (result : Report × Bool) (s' : Controller)
    (calls : List (Call Components Controller)) : Prop :=
  runOf s' = runOf s ∧ Quiet runOf (OnPath path) s calls ∧
    (result.2 = true → PathQuiescent calls path)

theorem adcPathDrained_spec (report : Report) (s : Controller) :
    (adcPathDrained report).wp s (Drains .adc s) := by
  apply wp_bind
  refine wp_mono (drainPath_spec .adc report s) ?_
  rintro ⟨report, capture, packer⟩ s' calls ⟨hs, hcalls, hcapture, hpacker⟩
  refine ⟨hs, hcalls.append hs quiet_nil, ?_⟩
  intro hdrained
  rw [Bool.and_eq_true] at hdrained
  rw [List.append_nil]
  exact ⟨⟨capture, hcapture, hdrained.1⟩, packer, hpacker, hdrained.2⟩

theorem auxGpioPathDrained_spec (report : Report) (s : Controller) :
    (auxGpioPathDrained report).wp s (Drains .auxGpio s) := by
  apply wp_bind
  apply wp_invoke
  intro r
  apply wp_bind
  refine wp_mono (drainPath_spec .auxGpio report s) ?_
  rintro ⟨report, capture, packer⟩ s' calls ⟨hs, hcalls, hcapture, hpacker⟩
  refine ⟨hs, (quiet_singleton .serviceOwnership).append rfl (hcalls.append hs quiet_nil), ?_⟩
  intro hdrained
  rw [Bool.and_eq_true] at hdrained
  rw [List.append_nil]
  exact ⟨⟨capture, hcapture.prepend _, hdrained.1⟩, packer, hpacker.prepend _, hdrained.2⟩

theorem gpioPathDrained_spec (report : Report) (s : Controller) :
    (gpioPathDrained report).wp s (Drains s.run.gpioPath s) := by
  apply wp_bind
  apply wp_get
  split
  · rename_i haux
    rw [haux]
    exact auxGpioPathDrained_spec report s
  · rename_i haux
    have hpath : s.run.gpioPath = .gpio := by
      unfold PhysicalRun.gpioPath at *
      split at haux
      · exact absurd rfl haux
      · rename_i hmode
        rw [if_neg hmode]
    rw [hpath]
    apply wp_bind
    refine wp_mono (drainPath_spec .gpio report s) ?_
    rintro ⟨report, capture, packer⟩ s' calls ⟨hs, hcalls, hcapture, hpacker⟩
    dsimp only
    split
    · -- the packed ring is served once more, and the packer looked at again
      apply wp_bind
      apply wp_invoke
      intro serviced
      apply wp_bind
      apply wp_invoke
      intro (packer' : PackerSnapshot)
      have hlast := @lastReply_singleton Components Controller s' (.packerSnapshot .gpio) packer'
      have hmore : ∀ c ∈ [(⟨s', .packerService .gpio 0 4, serviced⟩ : Call Components Controller)] ++
          [⟨s', .packerSnapshot .gpio, packer'⟩], OnPath .gpio c.op ∧ c.op ≠ .rawSnapshot .gpio := by
        intro c hc
        simp only [List.mem_append, List.mem_singleton] at hc
        rcases hc with rfl | rfl
        · exact ⟨.packerService 0 4, nofun⟩
        · exact ⟨.packerSnapshot, nofun⟩
      refine ⟨hs, hcalls.append hs ?_, ?_⟩
      · intro c hc
        rw [List.append_nil] at hc
        refine ⟨?_, (hmore c hc).1⟩
        simp only [List.mem_append, List.mem_singleton] at hc
        rcases hc with rfl | rfl <;> rfl
      · intro hdrained
        rw [Bool.and_eq_true] at hdrained
        rw [List.append_nil]
        refine ⟨⟨capture, hcapture.append fun c hc => (hmore c hc).2, hdrained.1⟩, packer', ?_,
          hdrained.2⟩
        exact (hlast.prepend _).prepend _
    · refine ⟨hs, hcalls.append hs quiet_nil, ?_⟩
      intro hdrained
      rw [Bool.and_eq_true] at hdrained
      rw [List.append_nil]
      exact ⟨⟨capture, hcapture, hdrained.1⟩, packer, hpacker, hdrained.2⟩

/-- A path that the run does not have is drained. -/
theorem ifSo_drains {b : Bool} {path : Path} {p : Control (Report × Bool)} {report : Report}
    {s : Controller} (h : p.wp s (Drains path s)) :
    (ifSo b p (report, true)).wp s fun result s' calls =>
      runOf s' = runOf s ∧ Quiet runOf (OnPath path) s calls ∧
        (result.2 = true → b = true → PathQuiescent calls path) := by
  cases b with
  | true =>
    refine wp_mono h ?_
    rintro result s' calls ⟨hs, hcalls, hdrained⟩
    exact ⟨hs, hcalls, fun hresult _ => hdrained hresult⟩
  | false => exact ⟨rfl, quiet_nil, fun _ h => nomatch h⟩

/-- The end of a visit leaves the run alone, or finds it quiescent and clears it. -/
theorem finishDrain_spec (report : Report) (s : Controller) :
    (finishDrain report).wp s fun _ s' calls =>
      MadeUnder s.run calls ∧
        (s'.run = s.run ∧ (∀ c ∈ calls, Silent c.op) ∨ s'.run = {} ∧ RunQuiescent calls s.run) := by
  apply wp_bind
  apply wp_get
  split
  · apply wp_pure
    exact ⟨madeUnder_nil _, Or.inl ⟨rfl, fun c hc => absurd hc List.not_mem_nil⟩⟩
  · apply wp_bind
    refine wp_mono (ifSo_drains (adcPathDrained_spec report s)) ?_
    rintro ⟨report, adcDrained⟩ s₁ adcCalls ⟨hs₁, hadcCalls, hadc⟩
    have hs₁ : s₁.run = s.run := hs₁
    apply wp_bind
    refine wp_mono (ifSo_drains (gpioPathDrained_spec report s₁)) ?_
    rintro ⟨report, gpioDrained⟩ s₂ gpioCalls ⟨hs₂, hgpioCalls, hgpio⟩
    rw [hs₁] at hgpioCalls hgpio
    have hs₂ : s₂.run = s.run := Eq.trans hs₂ hs₁
    have hadcMade : MadeUnder s.run adcCalls := fun c hc => (hadcCalls c hc).1
    have hgpioMade : MadeUnder s.run gpioCalls := fun c hc => (hgpioCalls c hc).1.trans hs₁
    -- the GPIO path is drained without a call on the ADC path
    have hother : ∀ c ∈ gpioCalls, ¬ OnPath .adc c.op := by
      intro c hc hadcOp
      have hgpioOp := (hgpioCalls c hc).2
      unfold PhysicalRun.gpioPath at hgpioOp
      generalize c.op = op at *
      split at hgpioOp <;> cases hadcOp <;> cases hgpioOp
    dsimp only at hadc hgpio ⊢
    split
    · rename_i hboth
      rw [Bool.and_eq_true] at hboth
      apply wp_bind
      apply wp_invoke
      intro r
      have hstop := madeUnder_singleton s₂ .stopProduction r
      rw [hs₂] at hstop
      refine ⟨hadcMade.append (hgpioMade.append (hstop.append (madeUnder_nil _))), Or.inr ⟨rfl, ?_, ?_⟩⟩
      · intro hincludes
        apply (hadc hboth.1 hincludes).append
        intro c hc
        rcases List.mem_append.mp hc with hc | hc
        · exact hother c hc
        · rw [List.mem_singleton.mp hc]
          nofun
      · intro hincludes
        refine PathQuiescent.prepend adcCalls ?_
        apply (hgpio hboth.2 hincludes).append
        intro c hc
        rw [List.mem_singleton.mp hc]
        nofun
    · refine ⟨hadcMade.append (hgpioMade.append (madeUnder_nil _)), Or.inl ⟨hs₂, ?_⟩⟩
      intro c hc
      change c ∈ adcCalls ++ (gpioCalls ++ []) at hc
      rw [List.append_nil] at hc
      rcases List.mem_append.mp hc with hc | hc
      · exact (hadcCalls c hc).2.silent
      · exact (hgpioCalls c hc).2.silent

theorem RunQuiescent.prepend {calls : List (Call Components Controller)} {r : PhysicalRun}
    (earlier : List (Call Components Controller)) (h : RunQuiescent calls r) :
    RunQuiescent (earlier ++ calls) r :=
  ⟨fun hr => (h.1 hr).prepend earlier, fun hr => (h.2 hr).prepend earlier⟩

/-- What a visit does to a run: nothing that its identity shows, or its end. -/
def Visits (s s' : Controller) (calls : List (Call Components Controller)) : Prop :=
  (∀ c ∈ calls, identityOf c.state = identityOf s) ∧
    (identityOf s' = identityOf s ∧ (∀ c ∈ calls, Silent c.op) ∨
      s'.run = {} ∧ RunQuiescent calls s.run)

theorem visits_of_quiet {s s' : Controller} {calls : List (Call Components Controller)}
    (hs : identityOf s' = identityOf s) (h : Quiet identityOf Silent s calls) : Visits s s' calls :=
  ⟨fun c hc => (h c hc).1, Or.inl ⟨hs, fun c hc => (h c hc).2⟩⟩

theorem Visits.after {s s₁ s₂ : Controller} {calls calls' : List (Call Components Controller)}
    (hs : identityOf s₁ = identityOf s) (h : Quiet identityOf Silent s calls)
    (h' : Visits s₁ s₂ calls') : Visits s s₂ (calls ++ calls') := by
  obtain ⟨hmade, hend⟩ := h'
  constructor
  · intro c hc
    rcases List.mem_append.mp hc with hc | hc
    · exact (h c hc).1
    · exact (hmade c hc).trans hs
  · rcases hend with ⟨hs₂, hsilent⟩ | ⟨hcleared, hquiescent⟩
    · refine Or.inl ⟨hs₂.trans hs, ?_⟩
      intro c hc
      rcases List.mem_append.mp hc with hc | hc
      · exact (h c hc).2
      · exact hsilent c hc
    · refine Or.inr ⟨hcleared, RunQuiescent.prepend calls ?_⟩
      -- the paths of a run are part of its identity
      obtain ⟨hadc, hgpio, hpath⟩ := PhysicalRun.paths_of_identity hs
      unfold RunQuiescent at *
      rw [hadc, hgpio, hpath] at hquiescent
      exact hquiescent

theorem finishDrain_visits (report : Report) (s : Controller) :
    (finishDrain report).wp s fun _ s' calls => Visits s s' calls := by
  refine wp_mono (finishDrain_spec report s) ?_
  rintro _ s' calls ⟨hmade, hend⟩
  refine ⟨fun c hc => congrArg PhysicalRun.identity (hmade c hc), ?_⟩
  rcases hend with ⟨hs, hsilent⟩ | hcleared
  · exact Or.inl ⟨congrArg PhysicalRun.identity hs, hsilent⟩
  · exact Or.inr hcleared

theorem service_spec (report : Report) (s : Controller) :
    (service wiring report).wp s fun _ s' calls => Visits s s' calls := by
  apply wp_bind
  apply wp_get
  split
  · exact visits_of_quiet rfl quiet_nil
  · refine wp_bind_keeps (stopFirst_keeps wiring _) ?_
    rintro ⟨report, stopped⟩ s₁ calls₁ hs₁ hcalls₁
    have hnothing : Visits s s₁ (calls₁ ++ []) :=
      Visits.after hs₁ hcalls₁ (visits_of_quiet rfl quiet_nil)
    cases stopped with
    | false => exact hnothing
    | true =>
      apply wp_bind
      apply wp_get
      split
      · exact hnothing
      · refine wp_bind_keeps (keeps_identity (servicePaths_keeps report))
          fun report s₂ calls₂ hs₂ hcalls₂ => ?_
        refine wp_bind_keeps (stopFailed_keeps report) ?_
        rintro ⟨report, stopped⟩ s₃ calls₃ hs₃ hcalls₃
        have hthree : ∀ s' calls', Visits s₃ s' calls' →
            Visits s s' (calls₁ ++ (calls₂ ++ (calls₃ ++ calls'))) := fun s' calls' h =>
          Visits.after hs₁ hcalls₁ (Visits.after hs₂ hcalls₂ (Visits.after hs₃ hcalls₃ h))
        cases stopped with
        | false => exact hthree _ _ (visits_of_quiet rfl quiet_nil)
        | true =>
          refine wp_mono (finishDrain_visits report s₃) ?_
          intro _ s₄ calls₄ h
          exact hthree s₄ calls₄ h

theorem service_idle (report : Report) {s : Controller} (hactive : s.run.active = false)
    (hdrain : s.run.drainPending = false) :
    (service wiring report).wp s fun _ s' calls => s' = s ∧ calls = [] := by
  apply wp_bind
  apply wp_get
  rw [hactive, hdrain, if_pos (by decide)]
  exact ⟨rfl, rfl⟩

/-! ### Sessions -/

/-- What holds of every command.  A start during a run is refused, and is the one command
that stops the pipeline under a run without ending it. -/
structure Disciplined (step : Step) : Prop where
  flagged : step.before.run.Flagged ∧ step.outcome.state.run.Flagged ∧
    ∀ c ∈ step.outcome.calls, c.state.run.Flagged
  steady : step.before.run.Ongoing →
    (∀ c ∈ step.outcome.calls, c.state.run.runId = step.before.run.runId) ∧
      (step.outcome.state.run.runId = step.before.run.runId ∨ step.outcome.state.run = {})
  production : step.before.run.Ongoing → step.command.startId = none →
    (∃ c ∈ step.outcome.calls, c.op = .stopProduction) →
      step.command.isService = true ∧ RunQuiescent step.outcome.calls step.before.run ∧
        step.outcome.state.run = {}
  started : ∀ runId, step.command.startId = some runId → step.outcome.value.2 = true →
    ¬ step.before.run.Ongoing ∧ runId ≠ 0 ∧ step.outcome.state.run.runId = runId ∧
      step.outcome.state.run.active = true
  failed : step.command.startId ≠ none → step.outcome.value.2 = false →
    ¬ step.before.run.Ongoing → step.outcome.state.run = {}
  busy : step.command.startId ≠ none → step.before.run.Ongoing →
    step.outcome.value.2 = false ∧ step.outcome.state.run = step.before.run

variable {s : Controller}

theorem not_ongoing_iff (hs : s.run.Settled) : ¬ s.run.Ongoing ↔ s.run = {} := by
  rcases hs with h | ⟨-, -, hgoing⟩
  · refine iff_of_true ?_ h
    rw [h]
    rintro (h | h | h) <;> cases h
  · refine iff_of_false (fun h => h (Or.inr (by simpa using hgoing))) ?_
    intro h
    rw [h] at hgoing
    cases hgoing

/-- The controller is settled again after a command. -/
theorem start_disciplined (c : Configuration) (runId : UInt32) (epochTicks : UInt64)
    (report : Report) (hs : s.run.Settled) (outcome : Outcome Components Controller (Report × Bool))
    (h : (outcome.value.2 = false ∧ outcome.state.run = s.run ∧ MadeUnder s.run outcome.calls) ∨
      ¬ s.run.Ongoing ∧ runId ≠ 0 ∧
        (∀ call ∈ outcome.calls, call.state.run = s.run ∨
          call.state.run = (reserve c runId epochTicks s).run) ∧
        (outcome.value.2 = true ∧ outcome.state.run = (commit (reserve c runId epochTicks s)).run ∨
          outcome.value.2 = false ∧ outcome.state.run = {})) :
    Disciplined ⟨.start c runId epochTicks report, s, outcome⟩ ∧ outcome.state.run.Settled := by
  rcases h with ⟨hvalue, hrun, hmade⟩ | ⟨hidle, hid, hmade, hend⟩
  · refine ⟨?_, hrun ▸ hs⟩
    exact
      { flagged := ⟨hs.flagged, hrun ▸ hs.flagged, fun call hcall => hmade call hcall ▸ hs.flagged⟩
        steady := fun _ => ⟨fun call hcall => by rw [hmade call hcall],
          Or.inl (congrArg PhysicalRun.runId hrun)⟩
        production := fun _ hstart => nomatch hstart
        started := fun _ _ htrue => by rw [hvalue] at htrue; cases htrue
        failed := fun _ _ hidle => hrun.trans ((not_ongoing_iff hs).mp hidle)
        busy := fun _ _ => ⟨hvalue, hrun⟩ }
  · have hcleared := (not_ongoing_iff hs).mp hidle
    have hreserved : (reserve c runId epochTicks s).run.Flagged :=
      iff_of_true hid (Or.inl rfl)
    have hcommitted : (commit (reserve c runId epochTicks s)).run.Settled :=
      Or.inr ⟨hid, rfl, rfl⟩
    have hafter : outcome.state.run.Settled := by
      rcases hend with ⟨-, hrun⟩ | ⟨-, hrun⟩
      · exact hrun ▸ hcommitted
      · exact Or.inl hrun
    refine ⟨?_, hafter⟩
    exact
      { flagged := by
          refine ⟨hs.flagged, hafter.flagged, ?_⟩
          intro call hcall
          rcases hmade call hcall with h | h
          · exact h ▸ hs.flagged
          · exact h ▸ hreserved
        steady := fun hongoing => absurd hongoing hidle
        production := fun hongoing => absurd hongoing hidle
        started := by
          intro id hstart htrue
          cases hstart
          rcases hend with ⟨-, hrun⟩ | ⟨hfalse, -⟩
          · rw [hrun]
            exact ⟨hidle, hid, rfl, rfl⟩
          · rw [hfalse] at htrue
            cases htrue
        failed := by
          intro _ hfalse _
          rcases hend with ⟨htrue, -⟩ | ⟨-, hrun⟩
          · rw [htrue] at hfalse
            cases hfalse
          · exact hrun
        busy := fun _ hongoing => absurd hongoing hidle }

/-- The other commands act on a run through a visit, and do nothing without one. -/
theorem visit_disciplined (command : Command) (hcommand : command.startId = none)
    (hs : s.run.Settled) (outcome : Outcome Components Controller (Report × Bool))
    (hidle : s.run = {} → outcome.state = s ∧ outcome.calls = [])
    (h : Visits s outcome.state outcome.calls)
    (hsilent : command.isService = false → ∀ c ∈ outcome.calls, Silent c.op) :
    Disciplined ⟨command, s, outcome⟩ ∧ outcome.state.run.Settled := by
  obtain ⟨hmade, hend⟩ := h
  have hafter : outcome.state.run.Settled := by
    rcases hs with hcleared | hgoing
    · rw [(hidle hcleared).1]
      exact Or.inl hcleared
    · rcases hend with ⟨hrun, -⟩ | ⟨hrun, -⟩
      · exact PhysicalRun.settled_of_identity hrun hgoing
      · exact Or.inl hrun
  refine ⟨?_, hafter⟩
  exact
    { flagged := ⟨hs.flagged, hafter.flagged,
        fun c hc => PhysicalRun.flagged_of_identity (hmade c hc) hs.flagged⟩
      steady := by
        intro _
        refine ⟨fun c hc => (PhysicalRun.identity_eq (hmade c hc)).1, ?_⟩
        rcases hend with ⟨hrun, -⟩ | ⟨hrun, -⟩
        · exact Or.inl (PhysicalRun.identity_eq hrun).1
        · exact Or.inr hrun
      production := by
        rintro - - ⟨c, hc, hstop⟩
        rcases hend with ⟨-, hquiet⟩ | ⟨hrun, hquiescent⟩
        · exact absurd hstop (hquiet c hc)
        · refine ⟨?_, hquiescent, hrun⟩
          by_contra hservice
          exact hsilent (Bool.eq_false_iff.mpr hservice) c hc hstop
      started := by
        intro runId hstart
        rw [hcommand] at hstart
        cases hstart
      failed := fun hstart => absurd hcommand hstart
      busy := fun hstart => absurd hcommand hstart }

theorem cleared_flags (h : s.run = {}) : s.run.active = false ∧ s.run.drainPending = false := by
  rw [h]
  exact ⟨rfl, rfl⟩

theorem perform_service {Q : Controller → List (Call Components Controller) → Prop}
    {report : Report} (h : (service wiring report).wp s fun _ s' calls => Q s' calls) :
    (perform wiring (.service report)).wp s fun _ s' calls => Q s' calls := by
  apply wp_bind
  refine wp_mono h ?_
  intro _ s' calls hQ
  apply wp_pure
  rw [List.append_nil]
  exact hQ

theorem step_disciplined (env : Env Components Controller)
    (past : List (Call Components Controller)) (command : Command) (hs : s.run.Settled) :
    Disciplined ⟨command, s, (perform wiring command).run env s past⟩ ∧
      ((perform wiring command).run env s past).state.run.Settled := by
  cases command with
  | start c runId epochTicks report =>
    exact start_disciplined c runId epochTicks report hs _
      (run_of_wp env past (start_spec wiring c runId epochTicks report s))
  | stop report =>
    have hquiet := run_of_wp env past (stop_keeps report s)
    refine visit_disciplined (.stop report) rfl hs _ ?_ (visits_of_quiet hquiet.1 hquiet.2) ?_
    · exact fun h => run_of_wp env past (stop_inactive report (cleared_flags h).1)
    · exact fun _ c hc => (hquiet.2 c hc).2
  | service report =>
    have hvisits := run_of_wp env past (perform_service wiring (service_spec wiring report s))
    refine visit_disciplined (.service report) rfl hs _ ?_ hvisits nofun
    intro h
    have hflags := cleared_flags h
    exact run_of_wp env past (perform_service wiring (service_idle wiring report hflags.1 hflags.2))

/-- Every command of every session, whatever the components answer. -/
theorem history_disciplined (env : Env Components Controller) (commands : List Command) :
    ∀ step ∈ history wiring env {} [] commands, Disciplined step := by
  have hall : ∀ (s : Controller) (past : List (Call Components Controller)), s.run.Settled →
      ∀ step ∈ history wiring env s past commands, Disciplined step := by
    induction commands with
    | nil => exact fun _ _ _ _ hstep => nomatch hstep
    | cons command rest ih =>
      intro s past hs step hstep
      obtain ⟨hdisciplined, hsettled⟩ := step_disciplined wiring env past command hs
      rcases List.mem_cons.mp hstep with rfl | hlater
      · exact hdisciplined
      · exact ih _ _ hsettled step hlater
  exact hall {} [] (Or.inl rfl)

/-! ### A start during a run -/

def fullyWired : Wiring where
  rateScheduler := false
  adcTriggerScheduler := true
  capture := fun _ => true
  packer := fun _ => true

/-- ADC alone, with the legacy schedule. -/
def adcOnly : Configuration := { streamMask := adcBit }

/-- Components that do what they are asked, with the pipeline open for run 1. -/
def willing : Env Components Controller
  | _, .rateFaulted | _, .rateTransactionActive | _, .triggerRunning => false
  | _, .rateConfigure _ | _, .triggerReady | _, .triggerArm | _, .triggerStop => true
  | _, .rateSelected => none
  | _, .inspectStart _ _ | _, .prepare _ _ | _, .startCapture _ _ => StartStatus.ok
  | _, .stopAtBoundaryBeforeTriggers => true
  | _, .stopCapture _ | _, .stopAfterTriggers _ => StopStatus.ok
  | _, .rawSnapshot _ => { quiescent := true }
  | _, .packerReadyForStart _ | _, .packerStartRun _ _ _ _ => true
  | _, .packerService _ _ _ => {}
  | _, .packerSnapshot _ => { running := false, quiescent := true }
  | _, .pipeline =>
    { acceptingFrames := true, runId := 1, checksumAlgorithm := ChecksumAlgorithm.adler32
      enabledStreamMask := adcBit, layout := legacyLayout }
  | _, .setAdcModes _ _ _ | _, .serviceOwnership _ | _, .packerStopProduction _
  | _, .stopProduction => ()

def twoStarts : List Command := [.start adcOnly 1 100 {}, .start adcOnly 2 200 {}]

theorem first_start_disciplined :
    ∃ step ∈ history fullyWired willing {} [] twoStarts, step.outcome.value.2 = true ∧
      step.outcome.state.run.active = true ∧ Disciplined step :=
  ⟨_, List.mem_cons_self, by decide +kernel, by decide +kernel,
    history_disciplined fullyWired willing twoStarts _ List.mem_cons_self⟩

/-- The second start fails and the first run goes on. -/
theorem failed_start_keeps_run :
    ¬ ∀ (wiring : Wiring) (env : Env Components Controller) (commands : List Command),
      ∀ step ∈ history wiring env {} [] commands, step.command.startId ≠ none →
        step.outcome.value.2 = false → step.outcome.state.run = {} := by
  intro hall
  have hsecond := hall fullyWired willing twoStarts _ (List.mem_cons_of_mem _ List.mem_cons_self)
    nofun (by decide +kernel)
  exact absurd (congrArg PhysicalRun.active hsecond) (by decide +kernel)

end ThingDaq.Firmware.Acquisition
