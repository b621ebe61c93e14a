import ThingDaq.Pipeline.Effects
import ThingDaq.Pipeline.Ownership

/-!
# Equal coverage

While a run with both streams accepts frames, the promotion loop takes a frame only of a
stream that has not covered more time than the other.  Coverage is counted in whole frames of
the stream with the longer ones, over promoted and dropped frames.

## Main definitions

* `Pipeline.promotions` — the frames a call promotes, each with the state it was chosen in.
* `Level` — without drops the coverages are at most one apart.

## Main results

* `level_run` — `Level` holds in every reachable state.
* `equal_coverage` — no stream runs ahead, and two READY heads never wait for each other.
-/

namespace ThingDaq

open Wire Table

/-! ### One turn of the loop -/

/-- What one turn of the promotion loop leaves: the pipeline, the report, the stream it
promoted a frame of, and whether the loop goes on. -/
structure ServiceTurn where
  pipe : Pipeline
  report : PromotionReport
  promoted : Option Stream := none
  again : Bool := true

/-- The body of the loop behind its budget. -/
def Pipeline.serviceTurn (p : Pipeline) (report : PromotionReport) : ServiceTurn :=
  if p.transmitQueue.length = kPacketTransmitQueueDepth then
    { pipe := p, report := { report with transmitQueueFull := true }, again := false }
  else
    match p.selectReadySource with
    | (none, deferred) =>
      if deferred then
        { pipe := { p with fairnessDeferrals := sat64 p.fairnessDeferrals 1 }
          report := { report with fairnessDeferred := true }, again := false }
      else { pipe := p, report := report, again := false }
    | (some s, _) =>
      match p.readyQueues s with
      | [] => { pipe := p.invalidOperation, report := { report with invariantError := true } }
      | i :: rest =>
        let popped := p.withCore (p.setReady s rest)
        let r := popped.records i
        if kPacketBufferCount ≤ i then
          { pipe := popped.invalidOperation, report := { report with invariantError := true } }
        else if r.state ≠ .ready || r.stream ≠ s || !popped.validFrameSize i then
          { pipe := popped.invalidOperation.dropBuffer i false
            report := { report with invariantError := true } }
        else
          let finalized := popped.finalizeGapBefore i
          if !finalized.2 then
            { pipe := finalized.1.encodingRejection.dropBuffer i false
              report := { report with invariantError := true } }
          else
            match push kPacketTransmitQueueDepth finalized.1.transmitQueue i with
            | none =>
              let q := finalized.1
              let rejected : Pipeline :=
                { q with transmitQueueRejections := sat32 q.transmitQueueRejections 1 }
              { pipe := rejected.dropBuffer i false
                report := { report with transmitQueueFull := true }, again := false }
            | some queue =>
              { pipe := finalized.1.promote s i queue
                report := { report with framesPromoted := report.framesPromoted + 1 }
                promoted := some s }

/-- The loop takes turns. -/
theorem serviceLoop_succ (limit fuel : ℕ) (p : Pipeline) (report : PromotionReport) :
    Pipeline.serviceLoop limit (fuel + 1) p report =
      if limit ≤ report.framesPromoted then (p, report)
      else if (p.serviceTurn report).again then
        Pipeline.serviceLoop limit fuel (p.serviceTurn report).pipe (p.serviceTurn report).report
      else ((p.serviceTurn report).pipe, (p.serviceTurn report).report) := by
  rw [Pipeline.serviceLoop]
  by_cases hlimit : limit ≤ report.framesPromoted
  · rw [if_pos hlimit, if_pos hlimit]
  rw [if_neg hlimit, if_neg hlimit]
  unfold Pipeline.serviceTurn
  by_cases hfull : p.transmitQueue.length = kPacketTransmitQueueDepth
  · simp only [if_pos hfull]
    rfl
  simp only [if_neg hfull]
  rcases p.selectReadySource with ⟨_ | s, deferred⟩
  · cases deferred <;> rfl
  simp only
  cases hqueue : p.readyQueues s with
  | nil => rfl
  | cons i rest =>
  simp only
  by_cases hbound : kPacketBufferCount ≤ i
  · simp only [if_pos hbound]
    rfl
  simp only [if_neg hbound]
  generalize p.withCore (p.setReady s rest) = popped
  generalize (decide ((popped.records i).state ≠ .ready) || decide ((popped.records i).stream ≠ s) ||
    !popped.validFrameSize i) = refused
  cases refused
  swap
  · rfl
  simp only [Bool.false_eq_true, if_false]
  generalize popped.finalizeGapBefore i = finalized
  obtain ⟨q, ok⟩ := finalized
  cases ok
  · rfl
  simp only [Bool.not_true, Bool.false_eq_true, if_false]
  generalize push kPacketTransmitQueueDepth q.transmitQueue i = pushed
  cases pushed <;> rfl

/-- The promotions of a loop, each with the state it was chosen in. -/
def Pipeline.promotionsFrom (limit : ℕ) : ℕ → Pipeline → PromotionReport → List (Pipeline × Stream)
  | 0, _, _ => []
  | fuel + 1, p, report =>
    if limit ≤ report.framesPromoted then []
    else
      ((p.serviceTurn report).promoted.map fun s => (p, s)).toList ++
        if (p.serviceTurn report).again then
          promotionsFrom limit fuel (p.serviceTurn report).pipe (p.serviceTurn report).report
        else []

/-- The promotions of a call. -/
def Pipeline.promotions (p : Pipeline) (limit : ℕ) : List (Pipeline × Stream) :=
  promotionsFrom limit ((p.readyQueues .adc).length + (p.readyQueues .gpio).length + 1) p {}

/-- A turn counts what it promotes. -/
theorem serviceTurn_framesPromoted (p : Pipeline) (report : PromotionReport) :
    (p.serviceTurn report).report.framesPromoted =
      report.framesPromoted + (p.serviceTurn report).promoted.toList.length := by
  unfold Pipeline.serviceTurn
  split
  · rfl
  split
  · split <;> rfl
  split
  · rfl
  dsimp only
  split
  · rfl
  split
  · rfl
  split
  · rfl
  split <;> rfl

/-- The report of a call counts its promotions. -/
theorem length_promotionsFrom (limit fuel : ℕ) : ∀ (p : Pipeline) (report : PromotionReport),
    (Pipeline.serviceLoop limit fuel p report).2.framesPromoted =
      report.framesPromoted + (Pipeline.promotionsFrom limit fuel p report).length := by
  induction fuel with
  | zero => exact fun _ _ => rfl
  | succ fuel ih =>
    intro p report
    rw [serviceLoop_succ, Pipeline.promotionsFrom]
    split
    · rfl
    have hturn := serviceTurn_framesPromoted p report
    have hone : ((p.serviceTurn report).promoted.map fun s => (p, s)).toList.length =
        (p.serviceTurn report).promoted.toList.length := by
      cases (p.serviceTurn report).promoted <;> rfl
    rw [List.length_append, hone]
    split
    · rw [ih, hturn, Nat.add_assoc]
    · exact hturn

theorem length_promotions (p : Pipeline) (limit : ℕ) :
    (p.serviceReadyFrames limit).2.framesPromoted = (p.promotions limit).length := by
  have h := length_promotionsFrom limit
    ((p.readyQueues .adc).length + (p.readyQueues .gpio).length + 1) p {}
  rw [show ({} : PromotionReport).framesPromoted = 0 from rfl, Nat.zero_add] at h
  exact h

/-! ### Pipelines with the same coverage -/

/-- Run and promoted frames are the same, and whatever is dropped is counted. -/
structure Steady (p q : Pipeline) : Prop where
  acceptingFrames : q.acceptingFrames = p.acceptingFrames
  enabledStreamMask : q.enabledStreamMask = p.enabledStreamMask
  setup : q.setup = p.setup
  emitted : ∀ s, (q.sourceCounters s).framesEmitted = (p.sourceCounters s).framesEmitted
  dropped : ∀ s, (q.sourceCounters s).framesDropped = 0 → (p.sourceCounters s).framesDropped = 0 ∧
    (q.sourceCounters s).framesDroppedAfterPromotion =
      (p.sourceCounters s).framesDroppedAfterPromotion

section Steady

variable {p q r : Pipeline}

theorem Steady.trans (h : Steady p q) (h' : Steady q r) : Steady p r where
  acceptingFrames := h'.acceptingFrames.trans h.acceptingFrames
  enabledStreamMask := h'.enabledStreamMask.trans h.enabledStreamMask
  setup := h'.setup.trans h.setup
  emitted := fun s => (h'.emitted s).trans (h.emitted s)
  dropped := fun s hs => by
    obtain ⟨hq, heq⟩ := h'.dropped s hs
    obtain ⟨hp, heq'⟩ := h.dropped s hq
    exact ⟨hp, heq.trans heq'⟩

theorem SameRun.steady (h : SameRun p q) : Steady p q where
  acceptingFrames := h.acceptingFrames
  enabledStreamMask := h.enabledStreamMask
  setup := h.setup
  emitted := fun s => (h.counts s).framesEmitted
  dropped := fun s hs =>
    ⟨(h.counts s).framesDropped.symm.trans hs, (h.counts s).framesDroppedAfterPromotion⟩

/-- A counter that something was added to is not zero. -/
theorem sat64_ne_zero {v a : ℕ} (ha : 0 < a) : sat64 v a ≠ 0 := by
  unfold sat64 satAdd u64Max
  split <;> omega

/-- A dropped buffer counts as a dropped frame of its stream. -/
theorem dropBuffer_steady (p : Pipeline) (i : ℕ) (evict : Bool) : Steady p (p.dropBuffer i evict) := by
  have hrun := Pipeline.dropBuffer_stays p i evict
  by_cases hlive : i < 200 ∧ (p.records i).state ≠ .free
  swap
  · rw [dropBuffer_invalid hlive]
    have hsame : SameRun p p.invalidOperation := SameRun.of_core rfl rfl rfl rfl
    exact hsame.steady
  obtain ⟨hi, hstate⟩ := hlive
  have hcounters : (p.dropBuffer i evict).sourceCounters =
      Function.update p.sourceCounters (p.records i).stream
        (Core.lossOf (p.records i).itemCount (Core.droppedCounters
          (p.sourceCounters (p.records i).stream) (p.records i) evict)) := by
    rw [dropBuffer_core hi hstate]
    exact p.toCore.drop_counters i evict
  refine ⟨hrun.acceptingFrames, hrun.enabledStreamMask, hrun.setup, ?_, ?_⟩
  · intro s
    rw [hcounters]
    by_cases hs : s = (p.records i).stream
    · subst hs
      rw [Function.update_self]
      unfold Core.lossOf Core.droppedCounters
      cases evict <;> cases (p.records i).state <;> rfl
    · rw [Function.update_of_ne hs]
  · intro s hzero
    rw [hcounters] at hzero ⊢
    by_cases hs : s = (p.records i).stream
    · subst hs
      rw [Function.update_self] at hzero
      exact absurd hzero (sat64_ne_zero Nat.one_pos)
    · rw [Function.update_of_ne hs] at hzero ⊢
      exact ⟨hzero, rfl⟩

theorem steady_closed : Closed Steady where
  trans := Steady.trans
  change := fun _ _ hrun => hrun.steady
  dropBuffer := dropBuffer_steady

theorem steady_enqueue (p : Pipeline) (s : Stream) (i : ℕ) :
    Steady p (p.withCore (p.setReady s (p.readyQueues s ++ [i]))) :=
  ⟨rfl, rfl, rfl, fun _ => rfl, fun _ h => ⟨h, rfl⟩⟩

end Steady

/-! ### Coverage -/

/-- The coverage of so many frames of a stream. -/
def coverageOf (layout : RunLayout) (s : Stream) (frames : ℕ) : ℕ :=
  if layout.isV3 then
    satMul u64Max frames (layout.streams s).coverageTicks /
      max (layout.streams .adc).coverageTicks (layout.streams .gpio).coverageTicks
  else
    let weighted : Bool := (InputExperiment.kEqualRates || layout.rateProfile = .adc1mhzGpio1mhz) &&
      layout.protocolVersion = V2.kProtocolVersion
    frames / (if weighted && s = .adc then 4 else 1)

theorem coverageFrames_eq (c : Core) (s : Stream) :
    c.coverageFrames s = coverageOf c.setup.layout s (c.accountedFrames s) := rfl

/-- One factor more adds the other factor at most. -/
theorem satMul_succ (max a b : ℕ) : satMul max a b ≤ satMul max (a + 1) b ∧
    satMul max (a + 1) b ≤ satMul max a b + b := by
  unfold satMul
  rcases Nat.eq_zero_or_pos b with rfl | hb
  · simp
  rw [if_neg (by omega : ¬(a + 1 = 0 ∨ b = 0))]
  have hmul : (a + 1) * b = a * b + b := Nat.succ_mul a b
  have hsucc := Nat.div_lt_iff_lt_mul (x := max) (y := a + 1) hb
  have hdiv := Nat.div_lt_iff_lt_mul (x := max) (y := a) hb
  rw [hmul] at hsucc
  rw [hmul]
  rcases Nat.eq_zero_or_pos a with rfl | ha
  · rw [if_pos (Or.inl rfl)]
    split <;> omega
  rw [if_neg (by omega : ¬(a = 0 ∨ b = 0))]
  split <;> split <;> omega

/-- One frame more covers at most one unit more. -/
theorem coverageOf_succ (layout : RunLayout) (s : Stream) (n : ℕ) :
    coverageOf layout s n ≤ coverageOf layout s (n + 1) ∧
      coverageOf layout s (n + 1) ≤ coverageOf layout s n + 1 := by
  unfold coverageOf
  split
  · obtain ⟨hle, hge⟩ := satMul_succ u64Max n (layout.streams s).coverageTicks
    generalize hunit : max (layout.streams .adc).coverageTicks
      (layout.streams .gpio).coverageTicks = unit
    have hticks : (layout.streams s).coverageTicks ≤ unit := by
      rw [← hunit]
      cases s
      · exact le_max_left _ _
      · exact le_max_right _ _
    refine ⟨Nat.div_le_div_right hle, ?_⟩
    rcases Nat.eq_zero_or_pos unit with rfl | hpos
    · simp
    · rw [← Nat.add_div_right _ hpos]
      exact Nat.div_le_div_right (by omega)
  · dsimp only
    split <;> omega

/-- While a run with both streams has dropped nothing, their coverages are at most one apart. -/
def Level (p : Pipeline) : Prop :=
  p.acceptingFrames = true → p.enabledStreamMask = kAllStreamMask →
    (∀ s, (p.sourceCounters s).framesDropped = 0) → ∀ s,
      (p.sourceCounters s).framesEmitted ≤ u64Max ∧
      (p.sourceCounters s).framesDroppedAfterPromotion = 0 ∧
      p.coverageFrames s ≤ p.coverageFrames s.peer + 1

section Level

variable {p q : Pipeline}

theorem Steady.coverage (h : Steady p q) {s : Stream}
    (hdropped : (q.sourceCounters s).framesDropped = 0) :
    q.coverageFrames s = p.coverageFrames s := by
  obtain ⟨hzero, hafter⟩ := h.dropped s hdropped
  rw [coverageFrames_eq, coverageFrames_eq, h.setup]
  unfold Core.accountedFrames
  dsimp only
  rw [h.emitted, hafter, hdropped, hzero]

theorem Steady.level (h : Steady p q) (hp : Level p) : Level q := by
  intro haccept hmask hdropped s
  rw [h.acceptingFrames] at haccept
  rw [h.enabledStreamMask] at hmask
  have hbefore := hp haccept hmask fun t => (h.dropped t (hdropped t)).1
  obtain ⟨hmax, hafter, hlevel⟩ := hbefore s
  rw [h.coverage (hdropped s), h.coverage (hdropped s.peer), h.emitted,
    (h.dropped s (hdropped s)).2]
  exact ⟨hmax, hafter, hlevel⟩

/-- With no drops the promoted frames are accounted for. -/
theorem accountedFrames_eq {c : Core} {s : Stream} (hdropped : (c.sourceCounters s).framesDropped = 0)
    (hafter : (c.sourceCounters s).framesDroppedAfterPromotion = 0) :
    c.accountedFrames s = (c.sourceCounters s).framesEmitted := by
  unfold Core.accountedFrames
  dsimp only
  rw [hdropped, hafter]
  have hadd : sat64 (c.sourceCounters s).framesEmitted 0 = (c.sourceCounters s).framesEmitted := by
    unfold sat64 satAdd
    rw [if_neg (by omega), Nat.add_zero]
  rw [hadd]
  split <;> omega

/-- Promoting a frame of a stream that is not ahead. -/
theorem promote_level {s : Stream} {i : ℕ} {queue : List ℕ} (hp : Level p)
    (hbehind : p.acceptingFrames = true → p.enabledStreamMask = kAllStreamMask →
      (∀ t, (p.sourceCounters t).framesDropped = 0) →
        p.coverageFrames s ≤ p.coverageFrames s.peer) : Level (p.promote s i queue) := by
  intro haccept hmask hdropped
  have hcounters : (p.promote s i queue).sourceCounters = Function.update p.sourceCounters s
      ((p.promote s i queue).sourceCounters s) := by
    funext t
    by_cases ht : t = s
    · rw [ht, Function.update_self]
    · rw [Function.update_of_ne ht]
      exact Function.update_of_ne ht _ _
  have hself : ((p.promote s i queue).sourceCounters s).framesEmitted =
        sat64 (p.sourceCounters s).framesEmitted 1 ∧
      ((p.promote s i queue).sourceCounters s).framesDropped =
        (p.sourceCounters s).framesDropped ∧
      ((p.promote s i queue).sourceCounters s).framesDroppedAfterPromotion =
        (p.sourceCounters s).framesDroppedAfterPromotion := by
    simp [Pipeline.promote, Pipeline.withCore, Core.setCounters, Core.setDepth, Core.setRecord,
      Core.setTransmit]
  have hpeer : (p.promote s i queue).sourceCounters s.peer = p.sourceCounters s.peer := by
    rw [hcounters, Function.update_of_ne s.peer_ne]
  have hzero : ∀ t, (p.sourceCounters t).framesDropped = 0 := by
    intro t
    have ht := hdropped t
    by_cases hts : t = s
    · rw [hts, hself.2.1] at ht
      rw [hts]
      exact ht
    · rw [hcounters, Function.update_of_ne hts] at ht
      exact ht
  have hbefore := hp haccept hmask hzero
  have hle := hbehind haccept hmask hzero
  obtain ⟨hmax, hafter, -⟩ := hbefore s
  obtain ⟨hmaxpeer, hafterpeer, hlevelpeer⟩ := hbefore s.peer
  rw [Stream.peer_peer] at hlevelpeer
  -- the stream advances by one unit at most, the other one stays
  have hstay : (p.promote s i queue).coverageFrames s.peer = p.coverageFrames s.peer := by
    rw [coverageFrames_eq, coverageFrames_eq]
    unfold Core.accountedFrames
    rw [hpeer]
    rfl
  have hemitted : (p.sourceCounters s).framesEmitted ≤ sat64 (p.sourceCounters s).framesEmitted 1 ∧
      sat64 (p.sourceCounters s).framesEmitted 1 ≤ (p.sourceCounters s).framesEmitted + 1 ∧
      sat64 (p.sourceCounters s).framesEmitted 1 ≤ u64Max := by
    unfold sat64 satAdd
    split <;> omega
  have hadvance : p.coverageFrames s ≤ (p.promote s i queue).coverageFrames s ∧
      (p.promote s i queue).coverageFrames s ≤ p.coverageFrames s + 1 := by
    rw [coverageFrames_eq, coverageFrames_eq, accountedFrames_eq (hzero s) hafter,
      accountedFrames_eq (hself.2.1.trans (hzero s)) (hself.2.2.trans hafter), hself.1]
    have hsucc := coverageOf_succ p.setup.layout s (p.sourceCounters s).framesEmitted
    have hcases : sat64 (p.sourceCounters s).framesEmitted 1 = (p.sourceCounters s).framesEmitted ∨
        sat64 (p.sourceCounters s).framesEmitted 1 = (p.sourceCounters s).framesEmitted + 1 := by
      omega
    rcases hcases with heq | heq
    · rw [heq]
      exact ⟨le_rfl, Nat.le_succ _⟩
    · rw [heq]
      exact hsucc
  intro t
  have htwo : t = s ∨ t = s.peer := by cases t <;> cases s <;> decide
  rcases htwo with rfl | rfl
  · rw [hself.1, hself.2.2, hstay]
    exact ⟨hemitted.2.2, hafter, by omega⟩
  · rw [hpeer, Stream.peer_peer, hstay]
    exact ⟨hmaxpeer, hafterpeer, by omega⟩

/-- A stream is chosen in a run with both streams only when it is not ahead. -/
theorem selectFrom_coverage {l : List Stream} {b d : Bool} {s : Stream}
    (h : p.selectFrom l b = (some s, d)) (haccept : p.acceptingFrames = true)
    (hmask : p.enabledStreamMask = kAllStreamMask) :
    p.coverageFrames s ≤ p.coverageFrames s.peer := by
  induction l generalizing b with
  | nil => cases h
  | cons t l ih =>
    rw [Pipeline.selectFrom] at h
    split at h
    · exact ih h
    split at h
    · rename_i hopen
      simp [haccept, hmask] at hopen
    split at h
    · rename_i hle
      simp only [Prod.mk.injEq, Option.some.injEq] at h
      rw [← h.1]
      exact hle
    · exact ih h

/-- What a turn can do: promote a frame of the chosen stream, or nothing that moves the
coverage. -/
theorem serviceTurn_cases (p : Pipeline) (report : PromotionReport)
    {Rel : Pipeline → Pipeline → Prop} (hrel : Closed Rel) :
    ((p.serviceTurn report).promoted = none ∧ Rel p (p.serviceTurn report).pipe) ∨
      ∃ s d q i queue, p.selectReadySource = (some s, d) ∧
        (p.serviceTurn report).promoted = some s ∧ Rel p q ∧
        (p.serviceTurn report).pipe = q.promote s i queue := by
  unfold Pipeline.serviceTurn
  split
  · exact Or.inl ⟨rfl, hrel.refl p⟩
  split
  · split
    · exact Or.inl ⟨rfl, hrel.quiet rfl rfl rfl rfl⟩
    · exact Or.inl ⟨rfl, hrel.refl p⟩
  rename_i s d hselect
  split
  · exact Or.inl ⟨rfl, hrel.invalidOperation p⟩
  rename_i i rest hqueue
  dsimp only
  have hrest : rest.Sublist (p.readyQueues s) := by
    rw [hqueue]
    exact List.sublist_cons_self i rest
  have hpopped := hrel.setReady p s hrest
  generalize p.withCore (p.setReady s rest) = popped at hpopped
  have hinvalid := hrel.trans hpopped (hrel.invalidOperation popped)
  split
  · exact Or.inl ⟨rfl, hinvalid⟩
  split
  · exact Or.inl ⟨rfl, hrel.dropped hinvalid i false⟩
  have hfinal := hrel.trans hpopped (hrel.finalizeGapBefore popped i)
  generalize popped.finalizeGapBefore i = finalized at hfinal
  split
  · exact Or.inl ⟨rfl, hrel.dropped (hrel.trans hfinal (hrel.encodingRejection _)) i false⟩
  split
  · refine Or.inl ⟨rfl, hrel.dropped (hrel.trans hfinal ?_) i false⟩
    exact hrel.same rfl (SameRun.moved rfl rfl rfl rfl rfl rfl rfl)
  · rename_i queue _
    exact Or.inr ⟨s, d, finalized.1, i, queue, hselect, rfl, hfinal, rfl⟩

theorem serviceTurn_level (hp : Level p) (report : PromotionReport) :
    Level (p.serviceTurn report).pipe := by
  rcases serviceTurn_cases p report steady_closed with
    ⟨-, hsteady⟩ | ⟨s, d, q, i, queue, hselect, -, hsteady, heq⟩
  · exact hsteady.level hp
  · rw [heq]
    apply promote_level (hsteady.level hp)
    intro haccept hmask hdropped
    rw [hsteady.acceptingFrames] at haccept
    rw [hsteady.enabledStreamMask] at hmask
    -- what was dropped since the choice would show in the counters
    rw [hsteady.coverage (hdropped s), hsteady.coverage (hdropped s.peer)]
    exact selectFrom_coverage hselect haccept hmask

theorem serviceLoop_level (limit fuel : ℕ) : ∀ {p : Pipeline} {report : PromotionReport},
    Level p → Level (Pipeline.serviceLoop limit fuel p report).1 := by
  induction fuel with
  | zero => exact fun hp => hp
  | succ fuel ih =>
    intro p report hp
    rw [serviceLoop_succ]
    have hturn := serviceTurn_level hp report
    split
    · exact hp
    split
    · exact ih hturn
    · exact hturn

/-- The promotions of a loop, in a run with both streams. -/
theorem promotionsFrom_coverage (limit fuel : ℕ) : ∀ {p : Pipeline} {report : PromotionReport},
    p.acceptingFrames = true → p.enabledStreamMask = kAllStreamMask →
    ∀ x ∈ Pipeline.promotionsFrom limit fuel p report,
      x.1.coverageFrames x.2 ≤ x.1.coverageFrames x.2.peer := by
  induction fuel with
  | zero => exact fun _ _ x hx => absurd hx (List.not_mem_nil)
  | succ fuel ih =>
    intro p report haccept hmask x hx
    rw [Pipeline.promotionsFrom] at hx
    split at hx
    · exact absurd hx List.not_mem_nil
    rcases List.mem_append.mp hx with hx | hx
    · -- the promotion of this turn
      rcases serviceTurn_cases p report steady_closed with ⟨hnone, -⟩ | ⟨s, d, _, _, _, hsel, hsome, -, -⟩
      · rw [hnone] at hx
        cases hx
      · rw [hsome] at hx
        have heq : x = (p, s) := by simpa using hx
        rw [heq]
        exact selectFrom_coverage hsel haccept hmask
    · split at hx
      swap
      · exact absurd hx List.not_mem_nil
      have hstays : (p.serviceTurn report).pipe.acceptingFrames = p.acceptingFrames ∧
          (p.serviceTurn report).pipe.enabledStreamMask = p.enabledStreamMask := by
        rcases serviceTurn_cases p report Pipeline.stays_closed with
          ⟨-, h⟩ | ⟨_, _, _, _, _, -, -, h, heq⟩
        · exact ⟨h.acceptingFrames, h.enabledStreamMask⟩
        · rw [heq]
          exact ⟨h.acceptingFrames, h.enabledStreamMask⟩
      exact ih (hstays.1.trans haccept) (hstays.2.trans hmask) x hx

/-- A refused fill counts as a drop. -/
theorem beginFill_level (hp : Level p) (s : Stream) : Level (p.beginFill s).1 := by
  unfold Pipeline.beginFill
  split
  · exact (steady_closed.invalidOperation p).level hp
  split
  · exact (steady_closed.invalidOperation p).level hp
  dsimp only
  generalize hproduced : p.withCore (p.setCounters s _) = produced
  have hfirst : Steady p produced := by
    rw [← hproduced]
    refine steady_closed.same rfl ?_
    exact SameRun.tally (s := s) rfl rfl rfl rfl rfl rfl rfl ⟨rfl, rfl, rfl⟩
  have htaken := hfirst.trans (steady_closed.takeFreeBuffer produced)
  split
  · rename_i q hq
    intro _ _ hdropped
    have hs := hdropped s
    simp only [Pipeline.refuseFill, Pipeline.recordDrop, Pipeline.withCore, Core.setCounters,
      Core.setGapNext, Function.update_self] at hs
    exact absurd hs (sat64_ne_zero Nat.one_pos)
  · rename_i q i hq
    rw [hq] at htaken
    have hopened : Steady q (q.openBuffer s i (p.sourceCounters s).nextSequence
        (p.setup.stream s).itemCount).1 :=
      ⟨rfl, rfl, rfl, fun _ => rfl, fun _ h => ⟨h, rfl⟩⟩
    exact (htaken.trans hopened).level hp

theorem recordSourceFrameDrops_level (hp : Level p) (s : Stream) (n : ℕ) :
    Level (p.recordSourceFrameDrops s n).1 := by
  unfold Pipeline.recordSourceFrameDrops
  split
  · exact (steady_closed.invalidOperation p).level hp
  split
  · exact (steady_closed.invalidOperation p).level hp
  split
  · exact hp
  rename_i hn
  intro _ _ hdropped
  have hs := hdropped s
  simp only [Pipeline.withCore, Core.setCounters, Core.setGapNext, Function.update_self] at hs
  exact absurd hs (sat64_ne_zero (Nat.pos_of_ne_zero hn))

/-- Stopped, a run is not accepting. -/
theorem stopProduction_level (p : Pipeline) : Level p.stopProduction.1 := by
  have hscan : ∀ (l : List ℕ) (acc : Pipeline × ℕ), acc.1.acceptingFrames = false →
      (l.foldl (fun (acc : Pipeline × ℕ) i =>
        if (decide ((acc.1.records i).state ≠ .filling) ||
            decide ((acc.1.records i).frameSize ≠ 0)) = true then acc
        else (acc.1.dropBuffer i false, acc.2 + 1)) acc).1.acceptingFrames = false := by
    intro l
    induction l with
    | nil => exact fun _ h => h
    | cons i l ih =>
      intro acc hacc
      rw [List.foldl_cons]
      apply ih
      split
      · exact hacc
      · exact (Pipeline.dropBuffer_stays acc.1 i false).acceptingFrames.trans hacc
  intro haccept
  have hclosed := hscan (List.range kPacketBufferCount) ({ p with acceptingFrames := false }, 0) rfl
  unfold Pipeline.stopProduction at haccept
  dsimp only at haccept
  rw [hclosed] at haccept
  cases haccept

/-- Every operation keeps the level, whatever the callers do. -/
theorem step_level {t : Tracked} (ht : Level t.pipe) (op : Op) : Level (t.step op).pipe := by
  cases op with
  | startRun runId alg mask layout =>
    have hstep : (t.step (.startRun runId alg mask layout)).pipe =
      (t.pipe.startRun runId alg mask layout).1 := rfl
    rw [hstep]
    rcases startRun_cases t.pipe runId alg mask layout with ⟨setup, heq⟩ | ⟨heq, -⟩
    · rw [heq]
      intro _ _ _ s
      refine ⟨Nat.zero_le _, rfl, ?_⟩
      have hzero : ∀ s, (t.pipe.reset runId mask setup).accountedFrames s = 0 := fun _ => rfl
      rw [coverageFrames_eq, hzero]
      unfold coverageOf
      split
      · simp [satMul]
      · simp
    · rw [heq]
      have hsame : SameRun t.pipe t.pipe.rejectStart := SameRun.of_core rfl rfl rfl rfl
      exact hsame.steady.level ht
  | stopProduction =>
    simp only [Tracked.step]
    exact stopProduction_level t.pipe
  | beginFill s => exact beginFill_level ht s
  | recordSourceFrameDrops s n => exact recordSourceFrameDrops_level ht s n.toNat
  | writePayload h off bs => exact (steady_closed.writePayload t.pipe h off bs).level ht
  | finishFill h completion => exact (steady_closed.finishFill steady_enqueue t.pipe h completion).level ht
  | cancelFill h => exact (steady_closed.cancelFill t.pipe h).level ht
  | setDeferredClock ticks =>
    have hsame : SameRun t.pipe (t.pipe.setDeferredClock ticks) := SameRun.of_core rfl rfl rfl rfl
    exact hsame.steady.level ht
  | serviceDeferred ticks budget readTicks =>
    exact (steady_closed.serviceDeferred t.pipe ticks budget readTicks).level ht
  | serviceReadyFrames limit => exact serviceLoop_level limit _ ht
  | prepareFrontFrame => exact (steady_closed.prepareFrontFrame t.pipe).level ht
  | markFrontFrameStarted => exact (steady_closed.markFrontFrameStarted t.pipe).level ht
  | abortFrontFrame => exact (steady_closed.abortFrontFrame t.pipe).level ht
  | releaseFrontFrame => exact (steady_closed.releaseFrontFrame t.pipe).level ht

theorem level_run {R : Rules} {t : Tracked} (h : Reach R t) : Level t.pipe := by
  induction h with
  | initial => exact fun haccept => by cases haccept
  | step _ _ ih => exact step_level ih _

end Level

/-! ### Progress -/

section Progress

variable {p : Pipeline} {g : History}

/-- A READY frame at the head of the queue. -/
def Pipeline.readyHead (p : Pipeline) (s : Stream) : Prop :=
  ∃ i rest, p.readyQueues s = i :: rest ∧ (p.records i).state = .ready

/-- Of two streams one is not ahead. -/
theorem selectReadySource_both (h : ∀ s, p.readyCandidate s = true) :
    ∃ s d, p.selectReadySource = (some s, d) := by
  unfold Pipeline.selectReadySource
  rw [Pipeline.selectFrom, if_neg (by simp [h])]
  split
  · exact ⟨_, _, rfl⟩
  rename_i hfair
  split
  · exact ⟨_, _, rfl⟩
  rename_i hahead
  rw [Pipeline.selectFrom, if_neg (by simp [h]), if_neg hfair, if_pos]
  · exact ⟨_, _, rfl⟩
  · rw [Stream.peer_peer]
    omega

/-- With a READY head on both sides and room in the transmit queue a turn promotes a frame. -/
theorem serviceTurn_promotes (hinv : Inv ⟨p.toCore, g⟩)
    (hvalid : ∀ i, (p.records i).state = .ready → p.validFrameSize i = true)
    (hmask : p.enabledStreamMask = kAllStreamMask) (hheads : ∀ s, p.readyHead s)
    (hroom : p.transmitQueue.length < kPacketTransmitQueueDepth) (report : PromotionReport) :
    (p.serviceTurn report).promoted ≠ none := by
  have hcandidate : ∀ s, p.readyCandidate s = true := by
    intro s
    obtain ⟨i, rest, hqueue, hstate⟩ := hheads s
    unfold Pipeline.readyCandidate
    rw [hqueue, hmask]
    cases s <;> simp [hstate] <;> decide
  obtain ⟨s, d, hselect⟩ := selectReadySource_both hcandidate
  obtain ⟨i, rest, hqueue, hstate⟩ := hheads s
  have hlive : (p.records i).state ≠ .free := by rw [hstate]; decide
  have hbound : i < 200 := (hinv.slot i).bound hlive
  have hmem : i ∈ p.readyQueues s := by rw [hqueue]; exact List.mem_cons_self
  have hstream : (p.records i).stream = s := ((hinv.queues.ready_mem s i).mp hmem).1
  obtain ⟨q, hfinal, htransmit, -⟩ := promote_moves (R := ⟨false, false, false⟩) hinv hqueue hstate
    (hvalid i hstate)
  have hpush : push kPacketTransmitQueueDepth q.transmitQueue i = some (q.transmitQueue ++ [i]) := by
    apply push_eq_some
    rw [htransmit]
    exact hroom
  have hguard : ¬(decide (((p.withCore (p.setReady s rest)).records i).state ≠ .ready) ||
      decide (((p.withCore (p.setReady s rest)).records i).stream ≠ s) ||
      !(p.withCore (p.setReady s rest)).validFrameSize i) = true := by
    have hpopped : (p.withCore (p.setReady s rest)).validFrameSize i = true := hvalid i hstate
    rw [hpopped]
    simp only [Bool.not_true, Bool.or_false, Bool.or_eq_true, decide_eq_true_eq, not_or, not_not]
    exact ⟨hstate, hstream⟩
  unfold Pipeline.serviceTurn
  rw [if_neg (Nat.ne_of_lt hroom), hselect]
  dsimp only
  rw [hqueue]
  dsimp only
  rw [if_neg (by unfold kPacketBufferCount; omega), if_neg hguard, hfinal]
  dsimp only
  rw [if_neg (by simp), hpush]
  exact Option.some_ne_none s

end Progress

/-- Promotion keeps the coverages of the two streams together. -/
structure EqualCoverage (p : Pipeline) : Prop where
  /-- a stream that is ahead waits -/
  behind : ∀ limit, ∀ x ∈ p.promotions limit, x.1.coverageFrames x.2 ≤ x.1.coverageFrames x.2.peer
  level : (∀ s, (p.sourceCounters s).framesDropped = 0) →
    ∀ s, p.coverageFrames s ≤ p.coverageFrames s.peer + 1
  progress : (∀ s, p.readyHead s) → p.transmitQueue.length < kPacketTransmitQueueDepth →
    ∀ limit, 0 < limit → 0 < (p.serviceReadyFrames limit).2.framesPromoted

/-- In every run with both streams, while it accepts frames and as long as no timestamp of a
finished version 3 frame wraps. -/
theorem equal_coverage {R : Rules} {t : Tracked} (hticks : R.ticks = true) (h : Reach R t)
    (haccept : t.pipe.acceptingFrames = true) (hmask : t.pipe.enabledStreamMask = kAllStreamMask) :
    EqualCoverage t.pipe where
  behind := fun limit => promotionsFrom_coverage limit _ haccept hmask
  level := fun hdropped s => (level_run h haccept hmask hdropped s).2.2
  progress := by
    intro hheads hroom limit hlimit
    have hinv := h.good.inv
    have hfits : Fits t.world :=
      h.rule (P := Fits) (fun _ hf => hf.fits) fun _ _ hi ho hm => ho.move hticks hi hm
    have hvalid : ∀ i, (t.pipe.records i).state = .ready → t.pipe.validFrameSize i = true := by
      intro i hstate
      have hsize := (hinv.slot i).sized (Or.inl hstate)
      exact (hinv.validFrameSize (by rw [hstate]; decide) hsize).mpr (hfits i hsize)
    have hturn := serviceTurn_promotes (g := t.history) hinv hvalid hmask hheads hroom {}
    rw [length_promotions]
    unfold Pipeline.promotions
    rw [Pipeline.promotionsFrom, if_neg (not_le.mpr hlimit), List.length_append]
    cases hp : (t.pipe.serviceTurn {}).promoted with
    | none => exact absurd hp hturn
    | some s => exact Nat.lt_add_right _ Nat.one_pos

/-- An ADC and a GPIO frame with the given first timestamp. -/
def twoHeads (ticks : UInt64) : List Op :=
  [.startRun 7 ChecksumAlgorithm.adler32 3 (publicV3 .disabled .raw .raw), .beginFill .adc,
    .finishFill { bufferIndex := 0, stream := .adc, sequence := 0, lease := 1 }
      { firstSampleTicks := ticks, payloadBytesWritten := 4032 },
    .beginFill .gpio,
    .finishFill { bufferIndex := 1, stream := .gpio, sequence := 0, lease := 2 }
      { firstSampleTicks := ticks, payloadBytesWritten := 4032 }]

theorem equal_coverage_twoHeads : EqualCoverage (Tracked.initial.run (twoHeads 80)).pipe ∧
    0 < ((Tracked.initial.run (twoHeads 80)).pipe.serviceReadyFrames 4).2.framesPromoted := by
  obtain ⟨t, ht⟩ : ∃ t, t = Tracked.initial.run (twoHeads 80) := ⟨_, rfl⟩
  have hreach : Reach ⟨false, false, true⟩ t := by
    rw [ht]
    exact Reach.initial.run ⟨trivial, ⟨fun h => (by cases h), fun h => (by cases h)⟩,
      ⟨fun h => (by cases h), fun _ _ => by decide +kernel⟩,
      ⟨fun h => (by cases h), fun h => (by cases h)⟩,
      ⟨fun h => (by cases h), fun _ _ => by decide +kernel⟩, trivial⟩
  have hstate : t.pipe.acceptingFrames = true ∧ t.pipe.enabledStreamMask = kAllStreamMask ∧
      t.pipe.readyQueues .adc = [0] ∧ (t.pipe.records 0).state = .ready ∧
      t.pipe.readyQueues .gpio = [1] ∧ (t.pipe.records 1).state = .ready ∧
      t.pipe.transmitQueue.length < kPacketTransmitQueueDepth := by
    rw [ht]
    decide +kernel
  obtain ⟨haccept, hmask, hadc, hadcReady, hgpio, hgpioReady, hroom⟩ := hstate
  have h := equal_coverage rfl hreach haccept hmask
  have hheads : ∀ s, t.pipe.readyHead s := by
    intro s
    cases s
    · exact ⟨0, [], hadc, hadcReady⟩
    · exact ⟨1, [], hgpio, hgpioReady⟩
  rw [← ht]
  exact ⟨h, h.progress hheads hroom 4 (by decide)⟩

/-- Frames whose last timestamps wrap are READY and cannot be promoted. -/
theorem equal_coverage_wrapping :
    Reach ⟨false, false, false⟩ (Tracked.initial.run (twoHeads 18446744073709551608)) ∧
      (Tracked.initial.run (twoHeads 18446744073709551608)).pipe.acceptingFrames = true ∧
      (Tracked.initial.run (twoHeads 18446744073709551608)).pipe.enabledStreamMask =
        kAllStreamMask ∧
      ((Tracked.initial.run (twoHeads 18446744073709551608)).pipe.serviceReadyFrames
        4).2.framesPromoted = 0 ∧
      ¬EqualCoverage (Tracked.initial.run (twoHeads 18446744073709551608)).pipe := by
  obtain ⟨t, ht⟩ : ∃ t, t = Tracked.initial.run (twoHeads 18446744073709551608) := ⟨_, rfl⟩
  have hreach : Reach ⟨false, false, false⟩ t := by
    rw [ht]
    exact Reach.initial.run ⟨trivial, ⟨fun h => (by cases h), fun h => (by cases h)⟩,
      ⟨fun h => (by cases h), fun h => (by cases h)⟩,
      ⟨fun h => (by cases h), fun h => (by cases h)⟩,
      ⟨fun h => (by cases h), fun h => (by cases h)⟩, trivial⟩
  have hstate : t.pipe.acceptingFrames = true ∧ t.pipe.enabledStreamMask = kAllStreamMask ∧
      t.pipe.readyQueues .adc = [0] ∧ (t.pipe.records 0).state = .ready ∧
      t.pipe.readyQueues .gpio = [1] ∧ (t.pipe.records 1).state = .ready ∧
      t.pipe.transmitQueue.length < kPacketTransmitQueueDepth ∧
      (t.pipe.serviceReadyFrames 4).2.framesPromoted = 0 := by
    rw [ht]
    decide +kernel
  obtain ⟨haccept, hmask, hadc, hadcReady, hgpio, hgpioReady, hroom, hnone⟩ := hstate
  rw [← ht]
  refine ⟨hreach, haccept, hmask, hnone, fun h => ?_⟩
  have hheads : ∀ s, t.pipe.readyHead s := by
    intro s
    cases s
    · exact ⟨0, [], hadc, hadcReady⟩
    · exact ⟨1, [], hgpio, hgpioReady⟩
  have hsome := h.progress hheads hroom 4 (by decide)
  omega

end ThingDaq
