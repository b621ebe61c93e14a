import ThingDaq.Host.DataFrames

/-!
# Loss reconciliation of the client

`ThingDAQ` of `daq_api/src/thingdone_daq/client.py`, as far as its loss accounting goes:
which configuration it remembers, what it infers to be missing from the gaps in a run,
and how it compares that with the counters of the firmware (`loss_counters`,
`_firmware_evidence`, `_counter_reconciliation_errors`).

A method is one event, with the response it got; a method that raises before it changes
anything is no event.  The ghost `run` is the GPIO layout of the run that the inferred
counters are about.

## Main results

* `run_inv` — what is inferred counts whole frames of the run's layout.
* `reconciliation_iff_remembered` — counters that agree are found to agree exactly when the
  client still goes by the run's layout.
-/

namespace ThingDaq.Host

inductive DeviceState
  | boot
  | idle
  | configured
  | running
  deriving DecidableEq, Repr

/-! ### Counters -/

/-- What the firmware dropped of one stream. -/
structure Dropped where
  frames : ℕ
  items : ℕ
  bytes : ℕ
  deriving DecidableEq, Repr

/-- The loss counters of `FirmwareCounters`. -/
structure FirmwareCounters where
  statsGeneration : ℕ
  dropped : Alignment.FrameKind → Dropped

/-- `Status`, and the configuration that `status` makes of its other fields when it knows
no better: one without the auxiliary bank. -/
structure Status where
  deviceState : DeviceState
  runId : ℕ
  counters : FirmwareCounters
  described : DAQConfiguration
  described_mode : described.auxBankMode = .disabled

/-- `V3Status`: it has no byte counters. -/
structure V3Status where
  running : Bool
  runId : ℕ
  framesDropped : Alignment.FrameKind → ℕ
  itemsDropped : Alignment.FrameKind → ℕ

inductive StatusReply
  | legacy (status : Status)
  | v3 (status : V3Status)

/-- An entry of `_inferred_missing_frames` and of `_inferred_missing_items`. -/
structure Inferred where
  frames : ℕ
  items : ℕ
  deriving DecidableEq, Repr

/-- The texts of the two checks. -/
inductive CounterError
  | generationChanged (expected observed : ℕ)
  | disagree (kind : Alignment.FrameKind) (host firmware : Dropped)
  deriving DecidableEq, Repr

def CounterError.isDisagreement : CounterError → Bool
  | .disagree _ _ _ => true
  | .generationChanged _ _ => false

/-- `ADC_BYTES_PER_PAIR`, and `item_bytes` of a GPIO layout. -/
def itemSize (mode : Alignment.AuxBankMode) : Alignment.FrameKind → ℕ
  | .adcData => 4
  | .gpioData =>
    match mode with
    | .disabled => 1
    | .input => 2

/-! ### The client -/

structure Client where
  /-- The settings of a version 3 session, once there is one. -/
  v3 : Option V3Settings
  /-- `_verified_identity` is there: two INFO responses were equal. -/
  verified : Bool
  state : Option DeviceState
  runId : ℕ
  configuration : Option DAQConfiguration
  /-- `applied_configuration` of the last INFO. -/
  deviceInfo : Option (Option DAQConfiguration)
  /-- The streams in `_expected_sequence`. -/
  expecting : Alignment.FrameKind → Bool
  inferred : Alignment.FrameKind → Option Inferred
  lossStatsGeneration : Option ℕ
  telemetryErrors : List CounterError
  /-- The layout the reader decodes blocks with. -/
  readerMode : Alignment.AuxBankMode
  /-- Ghost: the layout of the run that `inferred` is about. -/
  run : Option Alignment.AuxBankMode

namespace Client

/-- `__init__` -/
def opened : Client where
  v3 := none
  verified := false
  state := none
  runId := 0
  configuration := none
  deviceInfo := none
  expecting := fun _ => false
  inferred := fun _ => none
  lossStatsGeneration := none
  telemetryErrors := []
  readerMode := .disabled
  run := none

/-- `_clear_stream_expectations` -/
def clearStreamExpectations (c : Client) (preserveInferred : Bool) : Client :=
  { c with
    expecting := fun _ => false
    inferred := if preserveInferred then c.inferred else fun _ => none }

def enabled (configuration : DAQConfiguration) : Alignment.FrameKind → Bool
  | .adcData => configuration.adc
  | .gpioData => configuration.gpio

/-- `_initialize_stream_expectations`: a run begins for the client. -/
def initializeStreamExpectations (c : Client) (configuration : DAQConfiguration) : Client :=
  { c with
    expecting := enabled configuration
    inferred := fun k => if enabled configuration k then some ⟨0, 0⟩ else none
    readerMode := configuration.auxBankMode
    run := some configuration.auxBankMode }

/-! ### STATUS -/

/-- `status` of versions 1 and 2. -/
def applyStatus (c : Client) (status : Status) : Client :=
  let configuration :=
    if status.deviceState = .idle then none
    else
      match c.configuration with
      | some configuration => some configuration
      | none =>
        match c.deviceInfo with
        | some (some applied) => some applied
        | _ => some status.described
  { c with
    state := some status.deviceState
    runId := status.runId
    configuration := configuration }

/-- `status` of version 3. -/
def applyV3Status (c : Client) (status : V3Status) : Client :=
  { c with
    runId := status.runId
    state := some (if status.running then .running else .configured) }

/-- `_v3_counters` -/
def v3Counters (c : Client) (applied : V3Settings) (status : V3Status) : FirmwareCounters :=
  let width :=
    match c.configuration with
    | some configuration => itemSize configuration.auxBankMode .gpioData
    | none => applied.gpioWidthBits / 8
  { statsGeneration := if status.runId = 0 then 1 else status.runId
    dropped := fun k =>
      ⟨status.framesDropped k, status.itemsDropped k,
        match k with
        | .adcData => status.itemsDropped .adcData * 4
        | .gpioData => status.itemsDropped .gpioData * width⟩ }

/-- A status with the counters in it; the session decides what kind of response it may
be. -/
def refresh (c : Client) : StatusReply → Option (Client × FirmwareCounters)
  | .legacy status =>
    match c.v3 with
    | none => some (c.applyStatus status, status.counters)
    | some _ => none
  | .v3 status =>
    match c.v3 with
    | none => none
    | some applied =>
      some (c.applyV3Status status, (c.applyV3Status status).v3Counters applied status)

/-! ### Reconciliation -/

/-- `_observe_loss_stats_generation` -/
def observeLossStatsGeneration (c : Client) (observed : ℕ) : Client × Option CounterError :=
  match c.lossStatsGeneration with
  | none => ({ c with lossStatsGeneration := some observed }, none)
  | some expected =>
    if expected = observed then (c, none) else (c, some (.generationChanged expected observed))

/-- The bytes the client expects of so many items: it goes by the configuration it
remembers. -/
def expectedBytes (c : Client) (kind : Alignment.FrameKind) (items : ℕ) : ℕ :=
  match kind with
  | .adcData => items * 4
  | .gpioData =>
    items *
      match c.configuration with
      | some configuration => itemSize configuration.auxBankMode .gpioData
      | none => 1

/-- The turn of the loop for one stream. -/
def disagreement (c : Client) (firmware : FirmwareCounters) (kind : Alignment.FrameKind) :
    List CounterError :=
  match c.inferred kind with
  | none => []
  | some inferred =>
    let host : Dropped := ⟨inferred.frames, inferred.items, c.expectedBytes kind inferred.items⟩
    if firmware.dropped kind ≠ host then [.disagree kind host (firmware.dropped kind)] else []

/-- `_counter_reconciliation_errors`; the dictionaries have the ADC stream first. -/
def counterReconciliationErrors (c : Client) (firmware : FirmwareCounters) :
    Client × List CounterError :=
  let (c, generationError) := c.observeLossStatsGeneration firmware.statsGeneration
  (c, generationError.toList ++ c.disagreement firmware .adcData ++ c.disagreement firmware .gpioData)

/-- `loss_counters`, with the errors it finds. -/
def lossCounters (c : Client) (reply : StatusReply) : Option (Client × List CounterError) :=
  match c.refresh reply with
  | none => none
  | some (c, firmware) =>
    let (c, errors) := c.counterReconciliationErrors firmware
    some ({ c with telemetryErrors := c.telemetryErrors ++
        errors.filter fun e => !c.telemetryErrors.contains e }, errors)

/-- `items_per_frame` and `bytes_per_item` of `_firmware_evidence`. -/
def unitsOf (c : Client) (kind : Alignment.FrameKind) : ℕ × ℕ :=
  match c.configuration with
  | none =>
    match kind with
    | .adcData => (1012, 4)
    | .gpioData => (4048, 1)
  | some configuration =>
    (itemsPerFrame configuration.auxBankMode kind, itemSize configuration.auxBankMode kind)

/-- `counters_match` of `_firmware_evidence`. -/
def countersMatch (c : Client) (kind : Alignment.FrameKind) (inferred : Inferred)
    (dropped : Dropped) : Option Bool :=
  let expected := c.expectedBytes kind inferred.items
  let unitsMatch : Bool :=
    (c.v3.isSome || dropped.items = dropped.frames * (c.unitsOf kind).1) &&
      dropped.bytes = dropped.items * (c.unitsOf kind).2
  if dropped.frames = inferred.frames ∧ dropped.items = inferred.items ∧
      dropped.bytes = expected ∧ unitsMatch = true then some true
  else if inferred.frames ≤ dropped.frames ∧ inferred.items ≤ dropped.items ∧
      expected ≤ dropped.bytes ∧ unitsMatch = true then none
  else some false

/-- `_firmware_evidence`, when the status arrives. -/
def firmwareEvidence (c : Client) (kind : Alignment.FrameKind) (reply : StatusReply) :
    Option (Client × Option Bool) :=
  match c.refresh reply with
  | none => none
  | some (c, firmware) =>
    let (c, _) := c.observeLossStatsGeneration firmware.statsGeneration
    some (c, c.countersMatch kind ((c.inferred kind).getD ⟨0, 0⟩) (firmware.dropped kind))

/-! ### Methods -/

/-- `_v3_stream_configuration` -/
def v3StreamConfiguration (settings : V3Settings) : DAQConfiguration where
  adc := settings.adc
  gpio := settings.gpio
  source := settings.source
  dataChecksumAlgorithm := ChecksumAlgorithm.adler32
  auxBankMode := if settings.gpio then settings.auxBankMode else .disabled
  rateProfile := .adc1MhzGpio1Mhz
  controlOnly := by
    intro hadc hgpio
    rcases settings.streams with h | h
    · rw [h] at hadc
      cases hadc
    · rw [h] at hgpio
      cases hgpio
  auxiliary := by
    intro h
    by_contra hgpio
    rw [if_neg hgpio] at h
    cases h
  checksum := by decide

inductive Event
  /-- `_accept_legacy_info` -/
  | info (state : DeviceState) (applied : Option DAQConfiguration) (runId : ℕ)
  | negotiateV3 (settings : V3Settings)
  | verify
  /-- The RUNNING branches of `_apply_session_policy` and of `synchronize`. -/
  | adopt (status : Status)
  | adoptV3 (status : V3Status)
  | configure (response : DAQConfiguration) (runId : ℕ)
  | configureV3 (settings : V3Settings) (runId : ℕ)
  | start (response : DAQConfiguration) (runId : ℕ)
  | startV3 (runId : ℕ)
  | stop (runId : ℕ)
  | stopV3
  | status (reply : StatusReply)
  | resetStats (generation : ℕ)
  /-- A block after a gap, with the status `_firmware_evidence` got, if any. -/
  | gap (kind : Alignment.FrameKind) (frames items : ℕ) (reply : Option StatusReply)
  | lossCounters (reply : StatusReply)
  | close

def acceptLegacyInfo (c : Client) (state : DeviceState) (applied : Option DAQConfiguration)
    (runId : ℕ) : Client :=
  let cleared :=
    if c.runId ≠ runId then
      { c.clearStreamExpectations false with lossStatsGeneration := none, telemetryErrors := [] }
    else c
  { cleared with
    deviceInfo := some applied
    state := some state
    runId := runId
    configuration := if state = .idle then none else applied }

def adoptRun (c : Client) (status : Status) : Client :=
  let c := c.applyStatus status
  match c.configuration with
  | some configuration =>
    if status.deviceState = .running ∧ c.runId ≠ 0 then
      { c.initializeStreamExpectations configuration with
        lossStatsGeneration := some status.counters.statsGeneration
        telemetryErrors := [] }
    else c
  | none => c

/-- The version 3 client takes the layout of a run from its settings. -/
def beginV3Run (c : Client) (settings : V3Settings) (runId : ℕ) : Client :=
  let configuration := v3StreamConfiguration settings
  { c.initializeStreamExpectations configuration with
    configuration := some configuration
    state := some .running
    runId := runId
    telemetryErrors := [] }

/-- START of versions 1 and 2.  An echo that differs from the request raises before the
expectations are made; the client then has no run. -/
def startRun (c : Client) (response : DAQConfiguration) (runId : ℕ) : Client :=
  match c.configuration with
  | none => c
  | some requested =>
    if runId = 0 then c
    else
      let c :=
        { c with
          state := some .running
          configuration := some response
          runId := runId
          readerMode := response.auxBankMode
          run := none }
      if response ≠ requested then c
      else
        { c.initializeStreamExpectations response with
          lossStatsGeneration := none
          telemetryErrors := [] }

def setInferred (c : Client) (kind : Alignment.FrameKind) (inferred : Inferred) : Client :=
  { c with inferred := Function.update c.inferred kind (some inferred) }

/-- A gap in `_process_block`.  Before version 3 a frame has a fixed number of items. -/
def recordGap (c : Client) (kind : Alignment.FrameKind) (frames items : ℕ)
    (reply : Option StatusReply) : Client :=
  if c.expecting kind && c.configuration.isSome then
    match c.inferred kind with
    | none => c
    | some inferred =>
      let missing := if c.v3.isSome then items else frames * itemsPerFrame c.readerMode kind
      let c := c.setInferred kind ⟨inferred.frames + frames, inferred.items + missing⟩
      match reply.bind (c.firmwareEvidence kind) with
      | none => c
      | some (c, _) => c
  else c

def step (c : Client) : Event → Client
  | .info state applied runId => if c.v3.isSome then c else c.acceptLegacyInfo state applied runId
  | .negotiateV3 settings => if c.v3.isSome || c.verified then c else { c with v3 := some settings }
  | .verify => { c with verified := true }
  | .adopt status => if c.v3.isSome || !c.verified then c else c.adoptRun status
  | .adoptV3 status =>
    match c.v3 with
    | none => c
    | some settings =>
      if status.running && c.verified then c.beginV3Run settings status.runId else c
  | .configure response runId =>
    if c.v3.isSome then c
    else { c with state := some .configured, configuration := some response, runId := runId }
  | .configureV3 settings runId =>
    if c.v3.isSome then { c with v3 := some settings, state := some .configured, runId := runId }
    else c
  | .start response runId => if c.v3.isSome || !c.verified then c else c.startRun response runId
  | .startV3 runId =>
    match c.v3 with
    | none => c
    | some settings =>
      if c.verified then { c.beginV3Run settings runId with lossStatsGeneration := none } else c
  | .stop runId =>
    if c.v3.isSome then c
    else
      { c.clearStreamExpectations true with
        state := some .idle
        configuration := none
        runId := runId }
  | .stopV3 =>
    if c.v3.isSome then { c.clearStreamExpectations true with state := some .configured } else c
  | .status reply => ((c.refresh reply).map Prod.fst).getD c
  | .resetStats generation =>
    { c.clearStreamExpectations false with
      lossStatsGeneration := some generation
      telemetryErrors := [] }
  | .gap kind frames items reply => c.recordGap kind frames items reply
  | .lossCounters reply => ((c.lossCounters reply).map Prod.fst).getD c
  | .close => c.clearStreamExpectations false

def runFrom (c : Client) (es : List Event) : Client := es.foldl step c

/-! ### What is inferred -/

/-- Before version 3, whole frames of the run's layout are inferred; in version 3 a stream
that is tracked has a configuration. -/
structure Inv (c : Client) : Prop where
  whole : ∀ mode, c.v3 = none → c.run = some mode → ∀ k inferred, c.inferred k = some inferred →
    inferred.items = inferred.frames * itemsPerFrame mode k
  reader : ∀ mode, c.run = some mode → c.readerMode = mode
  tracked : c.v3.isSome = true → ∀ k, c.inferred k ≠ none → c.configuration ≠ none
  untracked : c.verified = false → ∀ k, c.inferred k = none

variable {c c' : Client}

/-- Nothing changes that the invariant is about; a version 3 session keeps its
configuration. -/
structure Keeps (c c' : Client) : Prop where
  v3 : c'.v3 = c.v3
  verified : c'.verified = c.verified
  inferred : c'.inferred = c.inferred
  readerMode : c'.readerMode = c.readerMode
  run : c'.run = c.run
  configuration : c.v3.isSome = true → c'.configuration = c.configuration

theorem Keeps.refl (c : Client) : Keeps c c := ⟨rfl, rfl, rfl, rfl, rfl, fun _ => rfl⟩

theorem Keeps.trans {c'' : Client} (h : Keeps c c') (h' : Keeps c' c'') : Keeps c c'' where
  v3 := h'.v3.trans h.v3
  verified := h'.verified.trans h.verified
  inferred := h'.inferred.trans h.inferred
  readerMode := h'.readerMode.trans h.readerMode
  run := h'.run.trans h.run
  configuration := fun hv => (h'.configuration (h.v3 ▸ hv)).trans (h.configuration hv)

theorem Keeps.inv (h : Keeps c c') (hc : Inv c) : Inv c' where
  whole := by
    rw [h.v3, h.run, h.inferred]
    exact hc.whole
  reader := by
    rw [h.run, h.readerMode]
    exact hc.reader
  tracked := by
    rw [h.v3, h.inferred]
    intro hv k hk
    rw [h.configuration hv]
    exact hc.tracked hv k hk
  untracked := by
    rw [h.verified, h.inferred]
    exact hc.untracked

theorem applyStatus_keeps (hv : c.v3 = none) (status : Status) : Keeps c (c.applyStatus status) :=
  ⟨rfl, rfl, rfl, rfl, rfl, fun hsome => by rw [hv] at hsome; cases hsome⟩

theorem refresh_keeps {reply : StatusReply} {firmware : FirmwareCounters}
    (h : c.refresh reply = some (c', firmware)) : Keeps c c' := by
  unfold refresh at h
  split at h
  · split at h
    · rename_i hv
      cases h
      exact applyStatus_keeps hv _
    · cases h
  · split at h
    · cases h
    · cases h
      exact ⟨rfl, rfl, rfl, rfl, rfl, fun _ => rfl⟩

theorem observeLossStatsGeneration_keeps (c : Client) (observed : ℕ) :
    Keeps c (c.observeLossStatsGeneration observed).1 ∧
      (c.observeLossStatsGeneration observed).1.configuration = c.configuration := by
  unfold observeLossStatsGeneration
  split
  · exact ⟨⟨rfl, rfl, rfl, rfl, rfl, fun _ => rfl⟩, rfl⟩
  · split
    · exact ⟨Keeps.refl c, rfl⟩
    · exact ⟨Keeps.refl c, rfl⟩

theorem lossCounters_keeps {reply : StatusReply} {errors : List CounterError}
    (h : c.lossCounters reply = some (c', errors)) : Keeps c c' := by
  unfold lossCounters at h
  split at h
  · cases h
  · rename_i c₁ firmware hrefresh
    cases h
    have hobserve := (observeLossStatsGeneration_keeps c₁ firmware.statsGeneration).1
    exact ((refresh_keeps hrefresh).trans hobserve).trans ⟨rfl, rfl, rfl, rfl, rfl, fun _ => rfl⟩

theorem firmwareEvidence_keeps {kind : Alignment.FrameKind} {reply : StatusReply}
    {result : Option Bool} (h : c.firmwareEvidence kind reply = some (c', result)) :
    Keeps c c' := by
  unfold firmwareEvidence at h
  split at h
  · cases h
  · rename_i c₁ firmware hrefresh
    cases h
    exact (refresh_keeps hrefresh).trans (observeLossStatsGeneration_keeps c₁ _).1

theorem inv_opened : Inv opened where
  whole := fun _ _ _ _ _ h => by cases h
  reader := fun _ h => by cases h
  tracked := fun h => by cases h
  untracked := fun _ _ => rfl

/-- Without anything inferred only the reader's layout matters. -/
theorem inv_cleared (hinferred : ∀ k, c.inferred k = none)
    (hreader : ∀ mode, c.run = some mode → c.readerMode = mode) : Inv c where
  whole := by
    intro mode _ _ k inferred h
    rw [hinferred k] at h
    cases h
  reader := hreader
  tracked := fun _ k h => absurd (hinferred k) h
  untracked := fun _ => hinferred

theorem inv_begun {configuration : DAQConfiguration} (hverified : c.verified = true)
    (hinferred : c.inferred = fun k => if enabled configuration k then some ⟨0, 0⟩ else none)
    (hreader : ∀ mode, c.run = some mode → c.readerMode = mode)
    (hconfiguration : c.v3.isSome = true → c.configuration ≠ none) : Inv c where
  whole := by
    intro mode _ _ k inferred h
    rw [hinferred] at h
    dsimp only at h
    split at h
    · cases h
      exact (Nat.zero_mul _).symm
    · cases h
  reader := hreader
  tracked := fun hv _ _ => hconfiguration hv
  untracked := by
    intro h
    rw [hverified] at h
    cases h

theorem recordGap_inv (hc : Inv c) (kind : Alignment.FrameKind) (frames items : ℕ)
    (reply : Option StatusReply) : Inv (c.recordGap kind frames items reply) := by
  unfold recordGap
  split
  · cases hk : c.inferred kind with
    | none => exact hc
    | some inferred =>
      dsimp only
      generalize hmissing : (if c.v3.isSome = true then items
        else frames * itemsPerFrame c.readerMode kind) = missing
      have hcounted :
          Inv (c.setInferred kind ⟨inferred.frames + frames, inferred.items + missing⟩) := by
        unfold setInferred
        refine ⟨?_, hc.reader, ?_, ?_⟩
        · intro mode hv hrun k inferred' h
          dsimp only at hv hrun h
          by_cases hkind : k = kind
          · subst hkind
            rw [Function.update_self] at h
            cases h
            -- the reader's frames have the run's layout
            have hwhole := hc.whole mode hv hrun k inferred hk
            have hmode := hc.reader mode hrun
            rw [hv, if_neg (by decide), hmode] at hmissing
            dsimp only
            rw [hwhole, ← hmissing, Nat.add_mul]
          · rw [Function.update_of_ne hkind] at h
            exact hc.whole mode hv hrun k inferred' h
        · intro hv k h
          by_cases hkind : k = kind
          · subst hkind
            exact hc.tracked hv k (fun hnone => by rw [hk] at hnone; cases hnone)
          · dsimp only at h
            rw [Function.update_of_ne hkind] at h
            exact hc.tracked hv k h
        · intro hv
          have hnone := hc.untracked hv kind
          rw [hk] at hnone
          cases hnone
      split
      · exact hcounted
      · rename_i c' result hevidence
        obtain ⟨r, -, hr⟩ := Option.bind_eq_some_iff.mp hevidence
        exact (firmwareEvidence_keeps hr).inv hcounted
  · exact hc

theorem adoptRun_inv (hc : Inv c) (hv : c.v3 = none) (hverified : c.verified = true)
    (status : Status) : Inv (c.adoptRun status) := by
  unfold adoptRun
  dsimp only
  split
  · split
    · refine inv_begun hverified rfl (fun mode hmode => Option.some.inj hmode) ?_
      intro hsome
      change c.v3.isSome = true at hsome
      rw [hv] at hsome
      cases hsome
    · exact (applyStatus_keeps hv status).inv hc
  · exact (applyStatus_keeps hv status).inv hc

theorem beginV3Run_inv (hverified : c.verified = true) (settings : V3Settings) (runId : ℕ) :
    Inv (c.beginV3Run settings runId) :=
  inv_begun hverified rfl (fun _ hmode => Option.some.inj hmode) (fun _ h => by cases h)

theorem startRun_inv (hc : Inv c) (hv : c.v3 = none) (hverified : c.verified = true)
    (response : DAQConfiguration) (runId : ℕ) : Inv (c.startRun response runId) := by
  have hsession : c.v3.isSome ≠ true := by
    rw [hv]
    exact Bool.false_ne_true
  unfold startRun
  split
  · exact hc
  · split
    · exact hc
    · dsimp only
      split
      · exact ⟨fun _ _ h => (by cases h), fun _ h => (by cases h), fun h => absurd h hsession,
          hc.untracked⟩
      · exact inv_begun hverified rfl (fun _ hmode => Option.some.inj hmode)
          (fun h => absurd h hsession)

theorem step_inv (hc : Inv c) (e : Event) : Inv (c.step e) := by
  cases e with
  | info state applied runId =>
    simp only [step]
    split
    · exact hc
    · rename_i hv
      unfold acceptLegacyInfo
      dsimp only
      split
      · exact inv_cleared (fun _ => rfl) hc.reader
      · exact ⟨hc.whole, hc.reader, fun h => absurd h hv, hc.untracked⟩
  | negotiateV3 settings =>
    simp only [step]
    split
    · exact hc
    · rename_i h
      simp only [Bool.or_eq_true, not_or, Bool.not_eq_true] at h
      exact inv_cleared (hc.untracked h.2) hc.reader
  | verify => exact ⟨hc.whole, hc.reader, hc.tracked, fun h => by cases h⟩
  | adopt status =>
    simp only [step]
    split
    · exact hc
    · rename_i h
      simp only [Bool.or_eq_true, Bool.not_eq_true', not_or, Bool.not_eq_true, Bool.not_eq_false,
        Option.isSome_eq_false_iff, Option.isNone_iff_eq_none] at h
      exact adoptRun_inv hc h.1 h.2 status
  | adoptV3 status =>
    simp only [step]
    split
    · exact hc
    · split
      · rename_i h
        simp only [Bool.and_eq_true] at h
        exact beginV3Run_inv h.2 _ _
      · exact hc
  | configure response runId =>
    simp only [step]
    split
    · exact hc
    · rename_i hv
      exact ⟨hc.whole, hc.reader, fun h => absurd h hv, hc.untracked⟩
  | configureV3 settings runId =>
    simp only [step]
    split
    · rename_i hv
      exact ⟨fun _ h => (by cases h), hc.reader, fun _ => hc.tracked hv, hc.untracked⟩
    · exact hc
  | start response runId =>
    simp only [step]
    split
    · exact hc
    · rename_i h
      simp only [Bool.or_eq_true, Bool.not_eq_true', not_or, Bool.not_eq_true, Bool.not_eq_false,
        Option.isSome_eq_false_iff, Option.isNone_iff_eq_none] at h
      exact startRun_inv hc h.1 h.2 response runId
  | startV3 runId =>
    simp only [step]
    split
    · exact hc
    · split
      · rename_i hverified
        have hbegun := beginV3Run_inv hverified (c := c)
        exact ⟨(hbegun _ runId).whole, (hbegun _ runId).reader, (hbegun _ runId).tracked,
          (hbegun _ runId).untracked⟩
      · exact hc
  | stop runId =>
    simp only [step]
    split
    · exact hc
    · rename_i hv
      exact ⟨hc.whole, hc.reader, fun h => absurd h hv, hc.untracked⟩
  | stopV3 =>
    simp only [step]
    split
    · exact ⟨hc.whole, hc.reader, hc.tracked, hc.untracked⟩
    · exact hc
  | status reply =>
    simp only [step]
    cases h : c.refresh reply with
    | none => exact hc
    | some result => exact (refresh_keeps h).inv hc
  | resetStats generation => exact inv_cleared (fun _ => rfl) hc.reader
  | gap kind frames items reply => exact recordGap_inv hc kind frames items reply
  | lossCounters reply =>
    simp only [step]
    cases h : c.lossCounters reply with
    | none => exact hc
    | some result => exact (lossCounters_keeps h).inv hc
  | close => exact inv_cleared (fun _ => rfl) hc.reader

theorem run_inv (es : List Event) : Inv (opened.runFrom es) := by
  have hrun : ∀ c, Inv c → Inv (c.runFrom es) := by
    induction es with
    | nil => exact fun c hc => hc
    | cons e es ih => exact fun c hc => ih (c.step e) (step_inv hc e)
  exact hrun opened inv_opened

/-! ### Reconciliation -/

/-- The layout that `status` leaves the client with: none after a stop, so the 8-bit one. -/
def remembered (c : Client) (status : Status) : Alignment.AuxBankMode :=
  if status.deviceState = .idle then .disabled
  else
    match c.configuration with
    | some configuration => configuration.auxBankMode
    | none =>
      match c.deviceInfo with
      | some (some applied) => applied.auxBankMode
      | _ => .disabled

/-- The firmware dropped what the client inferred, in items of the run's size. -/
def Agrees (c : Client) (reply : StatusReply) (mode : Alignment.AuxBankMode) : Prop :=
  c.run = some mode ∧ ∃ c' firmware, c.refresh reply = some (c', firmware) ∧
    ∀ k inferred, c.inferred k = some inferred →
      firmware.dropped k = ⟨inferred.frames, inferred.items, inferred.items * itemSize mode k⟩

/-- `loss_counters` finds no disagreement, and the evidence for every stream of the run
says that the counters match. -/
def Reconciles (c : Client) (reply : StatusReply) : Prop :=
  (∃ c' errors, c.lossCounters reply = some (c', errors) ∧
    ∀ e ∈ errors, e.isDisagreement = false) ∧
  ∀ k, c.inferred k ≠ none → ∃ c', c.firmwareEvidence k reply = some (c', some true)

/-- Nothing is missing, or the client goes by the layout of the run.  A version 3 client
always does. -/
def GoesByRunLayout (c : Client) (reply : StatusReply) (mode : Alignment.AuxBankMode) : Prop :=
  match reply with
  | .v3 _ => True
  | .legacy status =>
    (∀ k inferred, c.inferred k = some inferred → inferred.frames = 0) ∨
      c.remembered status = mode

/-- What the two checks ask of one stream: the counters of the firmware, and the bytes as
the client counts them. -/
def Matches (c : Client) (firmware : FirmwareCounters) (k : Alignment.FrameKind)
    (inferred : Inferred) : Prop :=
  firmware.dropped k = ⟨inferred.frames, inferred.items, c.expectedBytes k inferred.items⟩

theorem disagreement_clean (c : Client) (firmware : FirmwareCounters) (k : Alignment.FrameKind) :
    (∀ e ∈ c.disagreement firmware k, e.isDisagreement = false) ↔
      ∀ inferred, c.inferred k = some inferred → c.Matches firmware k inferred := by
  unfold disagreement
  cases c.inferred k with
  | none => exact iff_of_true (fun e he => by cases he) (fun _ h => by cases h)
  | some inferred =>
    dsimp only
    split
    · rename_i hne
      refine iff_of_false ?_ (fun hall => hne (hall inferred rfl))
      intro hall
      have hno := hall _ (List.mem_singleton_self _)
      cases hno
    · rename_i heq
      refine iff_of_true (fun e he => by cases he) ?_
      intro _ hsome
      cases hsome
      exact not_not.mp heq

theorem observeLossStatsGeneration_error (c : Client) (observed : ℕ) :
    ∀ e ∈ (c.observeLossStatsGeneration observed).2.toList, e.isDisagreement = false := by
  unfold observeLossStatsGeneration
  intro e he
  split at he
  · cases he
  · split at he
    · cases he
    · rw [List.mem_singleton.mp he]
      rfl

theorem counterReconciliationErrors_clean (c : Client) (firmware : FirmwareCounters) :
    (∀ e ∈ (c.counterReconciliationErrors firmware).2, e.isDisagreement = false) ↔
      ∀ k inferred, c.inferred k = some inferred → c.Matches firmware k inferred := by
  obtain ⟨hkeeps, hconfiguration⟩ := observeLossStatsGeneration_keeps c firmware.statsGeneration
  have hgeneration := observeLossStatsGeneration_error c firmware.statsGeneration
  unfold counterReconciliationErrors
  dsimp only
  generalize (c.observeLossStatsGeneration firmware.statsGeneration).1 = c₁ at *
  have hstream : ∀ k, (∀ e ∈ c₁.disagreement firmware k, e.isDisagreement = false) ↔
      ∀ inferred, c.inferred k = some inferred → c.Matches firmware k inferred := by
    intro k
    rw [disagreement_clean, hkeeps.inferred]
    unfold Matches expectedBytes
    rw [hconfiguration]
  constructor
  · intro hclean k
    apply (hstream k).mp
    intro e he
    apply hclean
    cases k with
    | adcData => exact List.mem_append_left _ (List.mem_append_right _ he)
    | gpioData => exact List.mem_append_right _ he
  · intro hagree e he
    rcases List.mem_append.mp he with he | he
    · rcases List.mem_append.mp he with he | he
      · exact hgeneration e he
      · exact (hstream .adcData).mpr (hagree .adcData) e he
    · exact (hstream .gpioData).mpr (hagree .gpioData) e he

theorem lossCounters_clean {reply : StatusReply} {firmware : FirmwareCounters}
    (h : c.refresh reply = some (c', firmware)) :
    (∃ c'' errors, c.lossCounters reply = some (c'', errors) ∧
        ∀ e ∈ errors, e.isDisagreement = false) ↔
      ∀ k inferred, c'.inferred k = some inferred → c'.Matches firmware k inferred := by
  rw [← counterReconciliationErrors_clean]
  unfold lossCounters
  rw [h]
  constructor
  · rintro ⟨c'', errors, herrors, hclean⟩
    cases herrors
    exact hclean
  · exact fun hclean => ⟨_, _, rfl, hclean⟩

/-- The units of the counters, as `_firmware_evidence` checks them. -/
def UnitsMatch (c : Client) (k : Alignment.FrameKind) (dropped : Dropped) : Prop :=
  (c.v3.isSome = true ∨ dropped.items = dropped.frames * (c.unitsOf k).1) ∧
    dropped.bytes = dropped.items * (c.unitsOf k).2

theorem countersMatch_eq_true {k : Alignment.FrameKind} {inferred : Inferred} {dropped : Dropped} :
    c.countersMatch k inferred dropped = some true ↔
      dropped = ⟨inferred.frames, inferred.items, c.expectedBytes k inferred.items⟩ ∧
        c.UnitsMatch k dropped := by
  unfold countersMatch UnitsMatch
  dsimp only
  rw [Dropped.mk.injEq]
  split
  · rename_i h
    simp only [Bool.and_eq_true, Bool.or_eq_true, decide_eq_true_eq] at h
    exact iff_of_true rfl ⟨⟨h.1, h.2.1, h.2.2.1⟩, h.2.2.2⟩
  · rename_i h
    simp only [Bool.and_eq_true, Bool.or_eq_true, decide_eq_true_eq] at h
    refine iff_of_false ?_ (fun hall => h ⟨hall.1.1, hall.1.2.1, hall.1.2.2, hall.2⟩)
    split <;> intro hno <;> cases hno

theorem firmwareEvidence_eq_true {reply : StatusReply} {firmware : FirmwareCounters}
    {k : Alignment.FrameKind} {inferred : Inferred} (h : c.refresh reply = some (c', firmware))
    (hk : c'.inferred k = some inferred) :
    (∃ c'', c.firmwareEvidence k reply = some (c'', some true)) ↔
      c'.Matches firmware k inferred ∧ c'.UnitsMatch k (firmware.dropped k) := by
  obtain ⟨hkeeps, hconfiguration⟩ := observeLossStatsGeneration_keeps c' firmware.statsGeneration
  unfold firmwareEvidence
  rw [h]
  dsimp only
  generalize (c'.observeLossStatsGeneration firmware.statsGeneration).1 = c₁ at *
  have htrue : c₁.countersMatch k ((c₁.inferred k).getD ⟨0, 0⟩) (firmware.dropped k) = some true ↔
      c'.Matches firmware k inferred ∧ c'.UnitsMatch k (firmware.dropped k) := by
    rw [countersMatch_eq_true, hkeeps.inferred, hk]
    unfold Matches UnitsMatch expectedBytes unitsOf
    rw [hconfiguration, hkeeps.v3]
    rfl
  rw [← htrue]
  constructor
  · rintro ⟨c'', hevidence⟩
    exact (Prod.mk.inj (Option.some.inj hevidence)).2
  · intro hmatch
    exact ⟨c₁, by rw [hmatch]⟩

/-- Both checks together. -/
theorem reconciles_iff {reply : StatusReply} {firmware : FirmwareCounters}
    (h : c.refresh reply = some (c', firmware)) :
    c.Reconciles reply ↔ ∀ k inferred, c.inferred k = some inferred →
      c'.Matches firmware k inferred ∧ c'.UnitsMatch k (firmware.dropped k) := by
  have hinferred := (refresh_keeps h).inferred
  unfold Reconciles
  rw [lossCounters_clean h, hinferred]
  constructor
  · rintro ⟨-, hevidence⟩ k inferred hk
    apply (firmwareEvidence_eq_true h (hinferred ▸ hk)).mp
    apply hevidence k
    rw [hk]
    exact Option.some_ne_none inferred
  · intro hall
    refine ⟨fun k inferred hk => (hall k inferred hk).1, ?_⟩
    intro k hk
    obtain ⟨inferred, hk⟩ := Option.ne_none_iff_exists'.mp hk
    exact (firmwareEvidence_eq_true h (hinferred ▸ hk)).mpr (hall k inferred hk)

/-- Without a configuration the client counts as for the 8-bit layout. -/
def layout (configuration : Option DAQConfiguration) : Alignment.AuxBankMode :=
  match configuration with
  | some configuration => configuration.auxBankMode
  | none => .disabled

theorem layout_applyStatus (c : Client) (status : Status) :
    layout (c.applyStatus status).configuration = c.remembered status := by
  unfold applyStatus remembered
  dsimp only
  by_cases hidle : status.deviceState = .idle
  · rw [if_pos hidle, if_pos hidle]
    rfl
  · rw [if_neg hidle, if_neg hidle]
    cases c.configuration with
    | some configuration => rfl
    | none =>
      match c.deviceInfo with
      | some (some applied) => rfl
      | some none => exact status.described_mode
      | none => exact status.described_mode

theorem expectedBytes_eq (c : Client) (k : Alignment.FrameKind) (items : ℕ) :
    c.expectedBytes k items = items * itemSize (layout c.configuration) k := by
  unfold expectedBytes
  cases k with
  | adcData => rfl
  | gpioData =>
    cases c.configuration with
    | none => rfl
    | some configuration => rfl

theorem unitsOf_eq (c : Client) (k : Alignment.FrameKind) :
    c.unitsOf k =
      (itemsPerFrame (layout c.configuration) k, itemSize (layout c.configuration) k) := by
  unfold unitsOf
  cases c.configuration with
  | some configuration => rfl
  | none =>
    cases k with
    | adcData => rfl
    | gpioData => rfl

theorem itemsPerFrame_injective {mode mode' : Alignment.AuxBankMode} {k : Alignment.FrameKind}
    (h : itemsPerFrame mode k = itemsPerFrame mode' k) : mode = mode' := by
  cases mode <;> cases mode' <;> cases k <;> first | rfl | cases h

/-- Before version 3 the frames in the counters have a fixed number of items, so the layout
shows as soon as one is missing. -/
theorem reconciles_legacy {status : Status} {mode : Alignment.AuxBankMode} (hc : Inv c)
    (hv : c.v3 = none)
    (hrun : c.run = some mode)
    (hagrees : ∀ k inferred, c.inferred k = some inferred → status.counters.dropped k =
      ⟨inferred.frames, inferred.items, inferred.items * itemSize mode k⟩) :
    c.Reconciles (.legacy status) ↔ c.GoesByRunLayout (.legacy status) mode := by
  have hrefresh : c.refresh (.legacy status) = some (c.applyStatus status, status.counters) := by
    simp only [refresh, hv]
  rw [reconciles_iff hrefresh]
  constructor
  · intro hall
    by_cases hmissing : ∀ k inferred, c.inferred k = some inferred → inferred.frames = 0
    · exact Or.inl hmissing
    · right
      push Not at hmissing
      obtain ⟨k, inferred, hk, hframes⟩ := hmissing
      obtain ⟨-, hitems | hitems, -⟩ := hall k inferred hk
      · change c.v3.isSome = true at hitems
        rw [hv] at hitems
        cases hitems
      · rw [hagrees k inferred hk, unitsOf_eq, layout_applyStatus] at hitems
        dsimp only at hitems
        rw [hc.whole mode hv hrun k inferred hk] at hitems
        exact (itemsPerFrame_injective (Nat.eq_of_mul_eq_mul_left
          (Nat.pos_of_ne_zero hframes) hitems)).symm
  · intro hlayout k inferred hk
    have hwhole := hc.whole mode hv hrun k inferred hk
    unfold Matches UnitsMatch
    rw [hagrees k inferred hk, expectedBytes_eq, unitsOf_eq, layout_applyStatus]
    rcases hlayout with hnothing | hmode
    · have hitems : inferred.items = 0 := by rw [hwhole, hnothing k inferred hk, Nat.zero_mul]
      rw [hitems, hnothing k inferred hk]
      simp only [Nat.zero_mul, or_true, and_self]
    · rw [hmode]
      exact ⟨rfl, Or.inr hwhole, rfl⟩

/-- The version 3 client makes the bytes of the firmware itself, from the items and the
configuration that it also expects them by. -/
theorem reconciles_v3 {applied : V3Settings} {status : V3Status} (hc : Inv c)
    (hv : c.v3 = some applied)
    (hagrees : ∀ k inferred, c.inferred k = some inferred →
      status.framesDropped k = inferred.frames ∧ status.itemsDropped k = inferred.items) :
    c.Reconciles (.v3 status) := by
  have hrefresh : c.refresh (.v3 status) = some (c.applyV3Status status,
      (c.applyV3Status status).v3Counters applied status) := by
    simp only [refresh, hv]
  rw [reconciles_iff hrefresh]
  intro k inferred hk
  obtain ⟨hframes, hitems⟩ := hagrees k inferred hk
  have hsome : c.v3.isSome = true := by rw [hv]; rfl
  have htracked : c.configuration ≠ none := by
    apply hc.tracked hsome k
    rw [hk]
    exact Option.some_ne_none inferred
  obtain ⟨configuration, hconfiguration⟩ := Option.ne_none_iff_exists'.mp htracked
  have happlied : (c.applyV3Status status).configuration = some configuration := hconfiguration
  unfold Matches UnitsMatch v3Counters expectedBytes unitsOf
  rw [happlied]
  refine ⟨?_, Or.inl hsome, ?_⟩
  · cases k with
    | adcData => simp only [hframes, hitems]
    | gpioData => simp only [hframes, hitems]
  · cases k with
    | adcData => rfl
    | gpioData => rfl

theorem reconciliation_iff_remembered (es : List Event) (reply : StatusReply)
    (mode : Alignment.AuxBankMode)
    (h : (opened.runFrom es).Agrees reply mode) :
    (opened.runFrom es).Reconciles reply ↔ (opened.runFrom es).GoesByRunLayout reply mode := by
  have hinv := run_inv es
  generalize opened.runFrom es = c at *
  obtain ⟨hrun, c', firmware, hrefresh, hagrees⟩ := h
  cases reply with
  | legacy status =>
    cases hv : c.v3 with
    | some applied =>
      simp only [refresh, hv] at hrefresh
      cases hrefresh
    | none =>
      simp only [refresh, hv] at hrefresh
      cases hrefresh
      exact reconciles_legacy hinv hv hrun hagrees
  | v3 status =>
    cases hv : c.v3 with
    | none =>
      simp only [refresh, hv] at hrefresh
      cases hrefresh
    | some applied =>
      simp only [refresh, hv] at hrefresh
      cases hrefresh
      refine iff_of_true (reconciles_v3 hinv hv ?_) True.intro
      intro k inferred hk
      have hdropped := hagrees k inferred hk
      unfold v3Counters at hdropped
      rw [Dropped.mk.injEq] at hdropped
      exact ⟨hdropped.1, hdropped.2.1⟩

/-- GPIO with the auxiliary bank: items of 16 bits. -/
def auxiliaryRun : DAQConfiguration where
  adc := false
  gpio := true
  source := .hardware
  dataChecksumAlgorithm := ChecksumAlgorithm.adler32
  auxBankMode := .input
  rateProfile := .adc1MhzGpio4Mhz
  controlOnly := fun _ h => by cases h
  auxiliary := fun _ => rfl
  checksum := by decide

/-- A frame is lost in a run of 16-bit items. -/
def lossyRun : List Event :=
  [.info .idle none 0, .verify, .configure auxiliaryRun 0, .start auxiliaryRun 1,
    .gap .gpioData 1 0 none]

def stoppedRun : List Event := lossyRun ++ [.stop 1]

/-- The firmware lost the same frame. -/
def lossyStatus (state : DeviceState) : Status where
  deviceState := state
  runId := 1
  counters :=
    { statsGeneration := 1
      dropped := fun
        | .adcData => ⟨0, 0, 0⟩
        | .gpioData => ⟨1, 2024, 4048⟩ }
  described :=
    { adc := false, gpio := true, source := .hardware
      dataChecksumAlgorithm := ChecksumAlgorithm.adler32
      auxBankMode := .disabled, rateProfile := .adc1MhzGpio4Mhz
      controlOnly := fun _ h => (by cases h)
      auxiliary := fun h => (by cases h)
      checksum := (by decide) }
  described_mode := rfl

theorem lossyStatus_dropped (state : DeviceState) {k : Alignment.FrameKind} {inferred : Inferred}
    (h : (opened.runFrom lossyRun).inferred k = some inferred) :
    (lossyStatus state).counters.dropped k =
      ⟨inferred.frames, inferred.items, inferred.items * itemSize .input k⟩ := by
  cases k with
  | adcData => cases h
  | gpioData =>
    cases h
    rfl

theorem lossyRun_agrees :
    (opened.runFrom lossyRun).Agrees (.legacy (lossyStatus .running)) .input ∧
      (opened.runFrom stoppedRun).Agrees (.legacy (lossyStatus .idle)) .input :=
  ⟨⟨rfl, _, _, rfl, fun _ _ => lossyStatus_dropped .running⟩,
    ⟨rfl, _, _, rfl, fun _ _ => lossyStatus_dropped .idle⟩⟩

theorem reconciliation_while_running :
    (opened.runFrom lossyRun).Agrees (.legacy (lossyStatus .running)) .input ∧
      (opened.runFrom lossyRun).Reconciles (.legacy (lossyStatus .running)) :=
  ⟨lossyRun_agrees.1, (reconciliation_iff_remembered lossyRun _ .input lossyRun_agrees.1).mpr
    (Or.inr rfl)⟩

/-- STOP keeps what is inferred and forgets the layout: the client then expects 2024 bytes
for the 2024 items. -/
theorem reconciliation_fails_after_stop :
    ¬ ∀ (es : List Event) (reply : StatusReply) (mode : Alignment.AuxBankMode),
      (opened.runFrom es).Agrees reply mode → (opened.runFrom es).Reconciles reply := by
  intro hall
  have hreconciles := hall stoppedRun (.legacy (lossyStatus .idle)) .input
    lossyRun_agrees.2
  have hinv := run_inv stoppedRun
  have hlayout := (reconciles_legacy hinv rfl rfl (fun _ _ => lossyStatus_dropped .idle)).mp
    hreconciles
  rcases hlayout with hnothing | hmode
  · have hzero : 1 = 0 := hnothing .gpioData ⟨1, 2024⟩ rfl
    cases hzero
  · have hdisabled : Alignment.AuxBankMode.disabled = .input := hmode
    cases hdisabled

end Client

end ThingDaq.Host
