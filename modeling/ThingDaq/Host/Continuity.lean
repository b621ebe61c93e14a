import ThingDaq.Host.DataFrames
import ThingDaq.Host.BlockConservation

/-!
# Continuity of one block

`analyze_stream_continuity` (`daq_api/src/thingdone_daq/models.py`): a decoded block
against the sequence and the timestamp that its stream expects next.  The block completes
the stream, is ahead of it by a gap, or is an anomaly of one of five kinds.  A constructor
is the list of the checks of its `__post_init__`, the first of which that fails is raised.

## Main definitions

* `FirmwareLossEvidence`, `MeasuredGap`, `StreamAnomaly` — the records and their checks.
* `fromExpected`, `analyzeStreamContinuity` — the measurement and the classification.

## Main results

* `fromExpected_gap` — a forward jump over whole frames is measured, and no check fails.
* `continuity_classified` — what raises, and what each answer means.
-/

namespace ThingDaq.Host.Continuity

open Wire (Bytes)
open Alignment (Source)

/-! ### Checks -/

/-- A condition with the message of the `ValueError` for its failure. -/
abbrev Check := Bool × String

/-- The first check that fails is raised. -/
def ensure {α : Type} (checks : List Check) (value : α) : Except String α :=
  match checks.find? fun c => !c.1 with
  | none => .ok value
  | some c => .error c.2

/-- `_unsigned` -/
def unsigned (name : String) (value bits : ℕ) : Check :=
  (value < 2 ^ bits, name ++ " must be an unsigned " ++ toString bits ++ "-bit integer")

/-- `_unsigned` of a value that may be `None`. -/
def unsignedOption (name : String) (value : Option ℕ) (bits : ℕ) : Check :=
  (value.all (· < 2 ^ bits), (unsigned name 0 bits).2)

theorem ensure_ok {α : Type} {checks : List Check} {value value' : α} :
    ensure checks value = .ok value' ↔ (∀ c ∈ checks, c.1 = true) ∧ value = value' := by
  unfold ensure
  split
  · rename_i hnone
    rw [List.find?_eq_none] at hnone
    refine ⟨fun h => ⟨fun c hc => by simpa using hnone c hc, Except.ok.inj h⟩, fun h => ?_⟩
    rw [h.2]
  · rename_i c hsome
    have hbad := List.find?_some hsome
    have hmem := List.mem_of_find?_eq_some hsome
    refine iff_of_false (by simp) (fun h => ?_)
    rw [h.1 c hmem] at hbad
    cases hbad

/-! ### The records -/

/-- `FirmwareLossEvidence`, of one block: without the counters of a status. -/
structure FirmwareLossEvidence where
  source : Alignment.Source
  gapBefore : Bool
  overrunBefore : Bool
  expectedCumulativeFrames : ℕ := 0
  expectedCumulativeItems : ℕ := 0
  flagsMatch : Bool := true
  errors : List String := []
  deriving DecidableEq, Repr

/-- `__post_init__` -/
def FirmwareLossEvidence.checked (e : FirmwareLossEvidence) : Except String FirmwareLossEvidence :=
  ensure
    [(!e.overrunBefore || e.gapBefore, "firmware overrun evidence requires GAP_BEFORE"),
     (e.errors.all (· ≠ ""), "firmware evidence errors must be nonempty strings")]
    e

/-- A `StreamGap` with all that is kept of it. -/
structure MeasuredGap extends Alignment.StreamGap where
  hostQueueDrops : ℕ
  source : Alignment.Source
  sequenceInferredItems : Option ℕ
  firmwareEvidence : Option FirmwareLossEvidence
  variableFrameItems : Bool
  deriving DecidableEq, Repr

namespace MeasuredGap

/-- `sequence_inferred_items` after `__post_init__`. -/
def sequenceItems (g : MeasuredGap) : Option ℕ :=
  if g.sequenceInferredItems = none ∧ g.variableFrameItems = false then
    some (g.missingFrames * g.itemsPerFrame)
  else g.sequenceInferredItems

/-- `__post_init__` -/
def checked (g : MeasuredGap) : Except String MeasuredGap :=
  ensure
    [unsigned "run_id" g.runId 32,
     unsigned "expected_sequence" g.expectedSequence 32,
     unsigned "observed_sequence" g.observedSequence 32,
     unsigned "expected_first_sample_ticks" g.expectedFirstSampleTicks 64,
     unsigned "observed_first_sample_ticks" g.observedFirstSampleTicks 64,
     unsigned "missing_frames" g.missingFrames 32,
     unsigned "missing_items" g.missingItems 64,
     (g.runId ≠ 0, "stream gap run ID must be nonzero"),
     (!g.firmwareOverrun || g.firmwareReported,
       "firmware overrun attribution requires a gap marker"),
     (0 < g.itemPeriodTicks && 0 < g.itemsPerFrame,
       "stream gap timing/layout metadata must be positive"),
     (!g.variableFrameItems ||
         ((g.missingFrames = 0 ↔ g.missingItems = 0) && g.missingFrames ≤ g.missingItems),
       "variable-frame gap requires items for each missing frame"),
     (g.sequenceItems.all (· = g.missingItems),
       "sequence and timestamp imply different missing item counts"),
     (g.firmwareEvidence.all (·.source = g.source),
       "firmware evidence source disagrees with stream gap"),
     (g.firmwareEvidence.all fun e =>
         e.gapBefore = g.firmwareReported && e.overrunBefore = g.firmwareOverrun,
       "firmware evidence flags disagree with stream gap"),
     (g.observedSequence = (g.expectedSequence + g.missingFrames) % 2 ^ 32,
       "missing frame count disagrees with stream sequences"),
     (g.observedFirstSampleTicks =
         (g.expectedFirstSampleTicks + g.missingItems * g.itemPeriodTicks) % 2 ^ 64,
       "missing item count disagrees with stream timestamps")]
    { g with sequenceInferredItems := g.sequenceItems }

end MeasuredGap

inductive StreamAnomalyReason
  | duplicate
  | reordered
  | staleRun
  | timestampInconsistent
  | firmwareEvidenceMismatch
  | hostQueueRangeInconsistent
  deriving DecidableEq, Repr

structure StreamAnomaly where
  reason : StreamAnomalyReason
  kind : Alignment.FrameKind
  source : Alignment.Source
  activeRunId : ℕ
  observedRunId : ℕ
  observedSequence : ℕ
  observedFirstSampleTicks : ℕ
  expectedSequence : Option ℕ := none
  expectedFirstSampleTicks : Option ℕ := none
  sequenceInferredItems : Option ℕ := none
  timestampInferredItems : Option ℕ := none
  firmwareEvidence : Option FirmwareLossEvidence := none
  occurrences : ℕ := 1
  deriving DecidableEq, Repr

/-- `__post_init__` -/
def StreamAnomaly.checked (a : StreamAnomaly) : Except String StreamAnomaly :=
  ensure
    [unsigned "active_run_id" a.activeRunId 32,
     unsigned "observed_run_id" a.observedRunId 32,
     (a.activeRunId ≠ 0 && a.observedRunId ≠ 0, "stream anomalies require nonzero run identities"),
     unsigned "observed_sequence" a.observedSequence 32,
     unsigned "observed_first_sample_ticks" a.observedFirstSampleTicks 64,
     unsignedOption "expected_sequence" a.expectedSequence 32,
     unsignedOption "expected_first_sample_ticks" a.expectedFirstSampleTicks 64,
     (a.occurrences ≠ 0, "stream anomaly occurrences must be positive"),
     (a.firmwareEvidence.all (·.source = a.source), "firmware evidence source disagrees with anomaly")]
    a

/-! ### Measurement -/

/-- The distance from an expected counter of `2 ^ bits` to the observed one. -/
def distance (bits observed expected : ℕ) : ℕ := (observed + 2 ^ bits - expected) % 2 ^ bits

/-- The items of so many frames, which version 3 does not fix. -/
def sequenceItems (current : DataBlock) (frames : ℕ) : Option ℕ :=
  if current.protocolVersion = 3 then none else some (frames * current.itemCount)

/-- The evidence that the flags of a block are. -/
def evidenceOf (current : DataBlock) : FirmwareLossEvidence where
  source := current.source
  gapBefore := current.gapBefore
  overrunBefore := current.overrunBefore

/-- The evidence of a gap, with the error that contradicts its flag. -/
def gapEvidence (current : DataBlock) (missingFrames missingItems : ℕ) : FirmwareLossEvidence :=
  let flagErrors :=
    if decide (missingItems ≠ 0) ≠ current.gapBefore then
      ["GAP_BEFORE does not match the inferred stream discontinuity"]
    else []
  { evidenceOf current with
    expectedCumulativeFrames := missingFrames
    expectedCumulativeItems := missingItems
    flagsMatch := flagErrors.isEmpty
    errors := flagErrors }

/-- The fields of a measured gap. -/
def measured (current : DataBlock)
    (expectedSequence expectedFirstSampleTicks hostQueueDrops missingFrames missingItems : ℕ)
    (evidence : FirmwareLossEvidence) : MeasuredGap where
  kind := current.kind
  runId := current.runId
  expectedSequence := expectedSequence
  observedSequence := current.sequence
  missingFrames := missingFrames
  missingItems := missingItems
  expectedFirstSampleTicks := expectedFirstSampleTicks
  observedFirstSampleTicks := current.firstSampleTicks
  firmwareReported := current.gapBefore
  firmwareOverrun := current.overrunBefore
  hostQueueDrops := min hostQueueDrops missingFrames
  source := current.source
  sequenceInferredItems := sequenceItems current missingFrames
  firmwareEvidence := some evidence
  itemPeriodTicks := current.periodTicks
  itemsPerFrame := current.itemCount
  variableFrameItems := current.protocolVersion = 3

/-- `StreamGap.from_expected` -/
def fromExpected (current : DataBlock) (expectedSequence expectedFirstSampleTicks : ℕ)
    (hostQueueDrops : ℕ := 0) : Except String (Option MeasuredGap) := do
  let missingFrames := distance 32 current.sequence expectedSequence
  let tickDelta := distance 64 current.firstSampleTicks expectedFirstSampleTicks
  let missingItems := tickDelta / current.periodTicks
  ensure
    [unsigned "expected_sequence" expectedSequence 32,
     unsigned "expected_first_sample_ticks" expectedFirstSampleTicks 64,
     (missingFrames ≤ (2 ^ 32 - 1) / 2, "duplicate or reversed sequence is not a forward gap"),
     (tickDelta ≤ (2 ^ 64 - 1) / 2, "reversed timestamp is not a forward gap"),
     (tickDelta % current.periodTicks = 0, "stream timestamp gap is not sample-period aligned"),
     ((sequenceItems current missingFrames).all (· = missingItems),
       "sequence and timestamp imply different missing item counts")]
    ()
  if missingFrames = 0 ∧ missingItems = 0 ∧ current.gapBefore = false then return none
  let evidence ← (gapEvidence current missingFrames missingItems).checked
  let gap ← (measured current expectedSequence expectedFirstSampleTicks hostQueueDrops missingFrames
    missingItems evidence).checked
  return some gap

/-! ### Classification -/

/-- What `analyze_stream_continuity` returns. -/
inductive Classified
  | complete
  | gap (g : MeasuredGap)
  | anomaly (a : StreamAnomaly)
  deriving DecidableEq, Repr

/-- `StreamAnomaly.stale_run` -/
def StreamAnomaly.staleRun (block : DataBlock) (activeRunId : ℕ) : Except String StreamAnomaly := do
  let evidence ← (evidenceOf block).checked
  StreamAnomaly.checked
    { reason := .staleRun
      kind := block.kind
      source := block.source
      activeRunId := activeRunId
      observedRunId := block.runId
      observedSequence := block.sequence
      observedFirstSampleTicks := block.firstSampleTicks
      firmwareEvidence := some evidence }

/-- The most items that the payload of a version 3 block may hold. -/
def maxItems (current : DataBlock) : ℕ :=
  match current.kind with
  | .adcData => maxAdcPairs
  | .gpioData => maxLogicalPayloadBytes / current.itemBytes

/-- The items that the timestamps leave out, if they are a whole number. -/
def timestampItems (current : DataBlock) (tickDelta : ℕ) : Option ℕ :=
  if tickDelta ≤ (2 ^ 64 - 1) / 2 ∧ tickDelta % current.periodTicks = 0 then
    some (tickDelta / current.periodTicks)
  else none

def countsConsistent (current : DataBlock) (sequenceDelta : ℕ) (timestampItems : Option ℕ) : Bool :=
  if current.protocolVersion = 3 then
    timestampItems.any fun items => sequenceDelta ≤ items && items ≤ sequenceDelta * maxItems current
  else timestampItems = sequenceItems current sequenceDelta

/-- An anomaly of the active run, with the expectation it fails. -/
def observed (current : DataBlock) (expectedSequence expectedFirstSampleTicks activeRunId : ℕ)
    (reason : StreamAnomalyReason) (sequenceItems timestampItems : Option ℕ)
    (evidence : FirmwareLossEvidence) : Except String Classified := do
  let anomaly ← StreamAnomaly.checked
    { reason := reason
      kind := current.kind
      source := current.source
      activeRunId := activeRunId
      observedRunId := current.runId
      observedSequence := current.sequence
      observedFirstSampleTicks := current.firstSampleTicks
      expectedSequence := some expectedSequence
      expectedFirstSampleTicks := some expectedFirstSampleTicks
      sequenceInferredItems := sequenceItems
      timestampInferredItems := timestampItems
      firmwareEvidence := some evidence }
  return .anomaly anomaly

/-- The evidence with the one error that contradicts its flags. -/
def FirmwareLossEvidence.contradicted (e : FirmwareLossEvidence) (error : String) :
    Except String FirmwareLossEvidence :=
  FirmwareLossEvidence.checked { e with flagsMatch := false, errors := [error] }

/-- The evidence, contradicted where its flags do not fit. -/
def FirmwareLossEvidence.amended (e : FirmwareLossEvidence) (misfit : Bool) (error : String) :
    Except String FirmwareLossEvidence :=
  if misfit then e.contradicted error else .ok e

/-- `analyze_stream_continuity`, for a block of the active run. -/
def analyzeActive (current : DataBlock) (expectedSequence expectedFirstSampleTicks activeRunId : ℕ)
    (previousSequence : Option ℕ) (evidence : FirmwareLossEvidence) : Except String Classified := do
  let observed := observed current expectedSequence expectedFirstSampleTicks activeRunId
  let sequenceDelta := distance 32 current.sequence expectedSequence
  let tickDelta := distance 64 current.firstSampleTicks expectedFirstSampleTicks
  if (2 ^ 32 - 1) / 2 < sequenceDelta then
    let reason :=
      if previousSequence = some current.sequence then StreamAnomalyReason.duplicate
      else .reordered
    let evidence ← evidence.amended evidence.gapBefore
      "firmware marked a gap on a duplicate or reordered frame"
    observed reason none none evidence
  else
    let timestampItems := timestampItems current tickDelta
    if timestampItems = none ∨ countsConsistent current sequenceDelta timestampItems = false then
      let evidence ← evidence.amended (evidence.gapBefore ≠ decide (0 < sequenceDelta))
        "GAP_BEFORE does not match the sequence-inferred stream discontinuity"
      observed .timestampInconsistent (sequenceItems current sequenceDelta) timestampItems evidence
    else if sequenceDelta = 0 then
      if evidence.gapBefore = false then return .complete
      let evidence ← evidence.contradicted "firmware marked a gap where continuity is complete"
      observed .firmwareEvidenceMismatch (some 0) (some 0) evidence
    else
      match ← fromExpected current expectedSequence expectedFirstSampleTicks with
      | none => return .complete
      | some gap => return .gap gap

/-- The checks of the arguments. -/
def argumentChecks (expectedSequence expectedFirstSampleTicks activeRunId : ℕ)
    (previousSequence : Option ℕ) : List Check :=
  [unsigned "expected_sequence" expectedSequence 32,
   unsigned "expected_first_sample_ticks" expectedFirstSampleTicks 64,
   unsigned "active_run_id" activeRunId 32,
   unsignedOption "previous_sequence" previousSequence 32,
   (previousSequence.all fun previous => expectedSequence = (previous + 1) % 2 ^ 32,
     "previous and expected stream sequences disagree")]

def analyzeStreamContinuity (current : DataBlock)
    (expectedSequence expectedFirstSampleTicks activeRunId : ℕ) (previousSequence : Option ℕ) :
    Except String Classified := do
  ensure (argumentChecks expectedSequence expectedFirstSampleTicks activeRunId previousSequence) ()
  let evidence ← (evidenceOf current).checked
  if current.runId ≠ activeRunId then
    return .anomaly (← StreamAnomaly.staleRun current activeRunId)
  analyzeActive current expectedSequence expectedFirstSampleTicks activeRunId previousSequence evidence

/-! ### Valid blocks -/

/-- What the constructor of a block promises. -/
structure Sampled (b : DataBlock) : Prop where
  runId : b.runId < 2 ^ 32 ∧ b.runId ≠ 0
  sequence : b.sequence < 2 ^ 32
  ticks : b.firstSampleTicks < 2 ^ 64
  overrun : b.overrunBefore = true → b.gapBefore = true
  items : 0 < b.itemCount ∧ b.itemCount ≤ 4048
  period : 0 < b.periodTicks ∧ b.periodTicks ≤ 64

theorem periodTicks_bounds (b : DataBlock) : 0 < b.periodTicks ∧ b.periodTicks ≤ 64 := by
  unfold Alignment.Block.periodTicks
  cases b.kind <;> cases b.rateProfile <;> decide

theorem sampled_of_check {b : DataBlock} {encoded : Option Bytes} (h : b.check encoded = true) :
    Sampled b := by
  unfold DataBlock.check at h
  simp only [Bool.and_eq_true, decide_eq_true_eq, Bool.or_eq_true, ne_eq] at h
  obtain ⟨⟨⟨⟨⟨⟨hfits, hrun⟩, hoverrun⟩, -⟩, -⟩, hlayout⟩, -⟩ := h
  refine ⟨⟨hfits.1.1, hrun⟩, hfits.1.2, hfits.2, ?_, ?_, periodTicks_bounds b⟩
  · intro ho
    rw [ho] at hoverrun
    simpa using hoverrun
  · cases encoded with
    | none =>
      dsimp only at hlayout
      rw [Bool.and_eq_true, decide_eq_true_eq, decide_eq_true_eq] at hlayout
      unfold Alignment.Block.itemCount Alignment.Block.itemBytes
      rw [hlayout.2]
      cases b.kind <;> cases b.auxBankMode <;> decide
    | some payload =>
      dsimp only at hlayout
      rw [Bool.and_eq_true] at hlayout
      have hpayload := hlayout.2
      unfold DataBlock.checkV3Payload at hpayload
      simp only [Bool.and_eq_true, decide_eq_true_eq] at hpayload
      obtain ⟨⟨⟨-, ⟨⟨hpos, hle⟩, hmod⟩⟩, -⟩, -⟩ := hpayload
      have hbytes : 0 < b.itemBytes := by
        unfold Alignment.Block.itemBytes
        cases b.kind <;> cases b.auxBankMode <;> decide
      unfold Alignment.Block.itemCount
      refine ⟨Nat.div_pos (Nat.le_of_dvd hpos (Nat.dvd_of_mod_eq_zero hmod)) hbytes, ?_⟩
      exact (Nat.div_le_self _ _).trans hle

/-! ### Distances -/

theorem distance_lt (bits observed expected : ℕ) : distance bits observed expected < 2 ^ bits :=
  Nat.mod_lt _ (Nat.two_pow_pos bits)

/-- The observed counter is the expected one moved on by the distance, across the wrap. -/
theorem add_distance {bits observed expected : ℕ} (ho : observed < 2 ^ bits)
    (he : expected < 2 ^ bits) : (expected + distance bits observed expected) % 2 ^ bits = observed := by
  unfold distance
  rw [Nat.add_mod_mod, show expected + (observed + 2 ^ bits - expected) = observed + 2 ^ bits by omega,
    Nat.add_mod_right, Nat.mod_eq_of_lt ho]

theorem distance_eq_zero {bits observed expected : ℕ} (ho : observed < 2 ^ bits)
    (he : expected < 2 ^ bits) : distance bits observed expected = 0 ↔ observed = expected := by
  constructor
  · intro h
    have hadd := add_distance ho he
    rw [h, Nat.add_zero, Nat.mod_eq_of_lt he] at hadd
    exact hadd.symm
  · rintro rfl
    unfold distance
    rw [Nat.add_sub_cancel_left, Nat.mod_self]

/-! ### Whole frames -/

/-- The ticks are those of so many missing frames: frames of the block's coverage, or in
version 3 of one to `maxItems` items each. -/
def Spans (b : DataBlock) (frames ticks : ℕ) : Prop :=
  if b.protocolVersion = 3 then
    ∃ items, ticks = items * b.periodTicks ∧ frames ≤ items ∧ items ≤ frames * maxItems b
  else ticks = frames * b.coverageTicks

variable {b : DataBlock} {frames ticks : ℕ}

theorem maxItems_le (b : DataBlock) : maxItems b ≤ 4048 := by
  unfold maxItems
  split
  · decide
  · exact Nat.div_le_self _ _

/-- Missing frames cannot span half the range of the timestamps. -/
theorem Spans.aligned (hb : Sampled b) (hframes : frames < 2 ^ 31) (h : Spans b frames ticks) :
    ∃ items, ticks = items * b.periodTicks ∧ timestampItems b ticks = some items ∧
      countsConsistent b frames (some items) = true ∧ (frames = 0 ↔ items = 0) ∧ frames ≤ items := by
  have hperiod := hb.period
  have hitem : ∀ items, items ≤ frames * 4048 → ticks = items * b.periodTicks →
      timestampItems b ticks = some items := by
    intro items hle hticks
    have hbound : items * b.periodTicks ≤ frames * 4048 * 64 := Nat.mul_le_mul hle hperiod.2
    unfold timestampItems
    rw [if_pos ⟨by omega, by rw [hticks, Nat.mul_mod_left]⟩, hticks, Nat.mul_div_cancel _ hperiod.1]
  unfold Spans at h
  unfold countsConsistent sequenceItems
  split at h
  · rename_i hversion
    obtain ⟨items, hticks, hlow, hhigh⟩ := h
    have hmax : frames * maxItems b ≤ frames * 4048 := Nat.mul_le_mul_left _ (maxItems_le b)
    refine ⟨items, hticks, hitem items (hhigh.trans hmax) hticks, ?_, ?_, hlow⟩
    · rw [if_pos hversion]
      simp [hlow, hhigh]
    · constructor
      · rintro rfl
        omega
      · omega
  · rename_i hversion
    have hmul : ticks = frames * b.itemCount * b.periodTicks := by
      rw [h, Alignment.Block.coverageTicks, Nat.mul_assoc]
    have hle : frames ≤ frames * b.itemCount := Nat.le_mul_of_pos_right _ hb.items.1
    refine ⟨frames * b.itemCount, hmul, hitem _ (Nat.mul_le_mul_left _ hb.items.2) hmul, ?_, ?_, hle⟩
    · rw [if_neg hversion]
      simp [hversion]
    · constructor
      · rintro rfl
        exact Nat.zero_mul _
      · omega

/-- Consistent counts are those of whole frames. -/
theorem spans_of_consistent {items : ℕ} (htime : timestampItems b ticks = some items)
    (hcounts : countsConsistent b frames (some items) = true) : Spans b frames ticks := by
  have hticks : ticks = items * b.periodTicks := by
    unfold timestampItems at htime
    split at htime
    · rename_i h
      cases htime
      exact (Nat.div_mul_cancel (Nat.dvd_of_mod_eq_zero h.2)).symm
    · cases htime
  unfold countsConsistent sequenceItems at hcounts
  unfold Spans
  split at hcounts
  · rename_i hversion
    rw [if_pos hversion]
    simp only [Option.any_some, Bool.and_eq_true, decide_eq_true_eq] at hcounts
    exact ⟨items, hticks, hcounts.1, hcounts.2⟩
  · rename_i hversion
    rw [if_neg hversion]
    simp only [Option.some.injEq, decide_eq_true_eq] at hcounts
    rw [hticks, hcounts, Nat.mul_assoc, ← Alignment.Block.coverageTicks]

theorem Spans.zero (hb : Sampled b) : Spans b 0 ticks ↔ ticks = 0 := by
  constructor
  · intro h
    obtain ⟨items, hticks, -, -, hzero, -⟩ := h.aligned hb (by decide)
    rw [hticks, hzero.mp rfl, Nat.zero_mul]
  · rintro rfl
    unfold Spans
    split
    · exact ⟨0, (Nat.zero_mul _).symm, le_rfl, Nat.zero_le _⟩
    · exact (Nat.zero_mul _).symm

/-! ### Constructors of valid blocks -/

theorem checked_evidence (hb : Sampled b) (e : FirmwareLossEvidence)
    (he : e.gapBefore = b.gapBefore ∧ e.overrunBefore = b.overrunBefore)
    (herrors : ∀ error ∈ e.errors, error ≠ "") : e.checked = .ok e := by
  refine ensure_ok.mpr ⟨?_, rfl⟩
  simp only [List.forall_mem_cons, List.not_mem_nil, false_imp_iff, implies_true, and_true]
  constructor
  · rw [he.1, he.2]
    cases ho : b.overrunBefore with
    | false => rfl
    | true => rw [hb.overrun ho]; rfl
  · simpa using herrors

theorem checked_evidenceOf (hb : Sampled b) : (evidenceOf b).checked = .ok (evidenceOf b) :=
  checked_evidence hb _ ⟨rfl, rfl⟩ (by simp [evidenceOf])

theorem contradicted_evidenceOf (hb : Sampled b) {error : String} (herror : error ≠ "") :
    (evidenceOf b).contradicted error =
      .ok { evidenceOf b with flagsMatch := false, errors := [error] } := by
  unfold FirmwareLossEvidence.contradicted
  exact checked_evidence hb _ ⟨rfl, rfl⟩ (by simp [herror])

/-- A report about the active run passes its checks. -/
theorem observed_ok (hb : Sampled b) {expectedSequence expectedTicks : ℕ}
    (hseq : expectedSequence < 2 ^ 32) (hticks : expectedTicks < 2 ^ 64)
    (reason : StreamAnomalyReason) (sequence timestamp : Option ℕ) (evidence : FirmwareLossEvidence)
    (hsource : evidence.source = b.source) :
    ∃ a, observed b expectedSequence expectedTicks b.runId reason sequence timestamp evidence =
      .ok (.anomaly a) ∧ a.reason = reason := by
  unfold observed
  refine ⟨_, congrArg (· >>= _) (ensure_ok.mpr ⟨?_, rfl⟩), rfl⟩
  simp only [List.forall_mem_cons, List.not_mem_nil, false_imp_iff, implies_true, and_true, unsigned,
    unsignedOption, Option.all_some, decide_eq_true_eq, Bool.and_eq_true, ne_eq]
  exact ⟨hb.runId.1, hb.runId.1, ⟨hb.runId.2, hb.runId.2⟩, hb.sequence, hb.ticks, hseq, hticks,
    by decide, hsource⟩

/-- A report about another run needs an active one. -/
theorem staleRun_ok (hb : Sampled b) {activeRunId : ℕ} (hactive : activeRunId < 2 ^ 32) :
    if activeRunId = 0 then ∃ e, StreamAnomaly.staleRun b activeRunId = .error e
    else ∃ a, StreamAnomaly.staleRun b activeRunId = .ok a ∧ a.reason = .staleRun := by
  unfold StreamAnomaly.staleRun
  rw [checked_evidenceOf hb]
  split
  · rename_i hzero
    subst hzero
    refine ⟨"stream anomalies require nonzero run identities", ?_⟩
    change ensure _ _ = _
    unfold ensure
    rw [List.find?_cons_of_neg (by simp [unsigned]), List.find?_cons_of_neg (by simpa [unsigned] using hb.runId.1),
      List.find?_cons_of_pos (by simp)]
  · rename_i hzero
    refine ⟨_, ensure_ok.mpr ⟨?_, rfl⟩, rfl⟩
    simp only [List.forall_mem_cons, List.not_mem_nil, false_imp_iff, implies_true, and_true, unsigned,
      unsignedOption, Option.all_some, Option.all_none, decide_eq_true_eq, Bool.and_eq_true, ne_eq]
    exact ⟨hactive, hb.runId.1, ⟨hzero, hb.runId.2⟩, hb.sequence, hb.ticks, trivial, trivial, by decide,
      rfl⟩

/-! ### Blocks of the active run -/

section Active

variable {expectedSequence expectedTicks : ℕ} (previous : Option ℕ)

/-- The gap has the true distances. -/
structure Measures (b : DataBlock) (expectedSequence expectedTicks : ℕ) (g : MeasuredGap) : Prop where
  stream : g.kind = b.kind ∧ g.source = b.source ∧ g.runId = b.runId
  expected : g.expectedSequence = expectedSequence ∧ g.expectedFirstSampleTicks = expectedTicks
  observed : g.observedSequence = b.sequence ∧ g.observedFirstSampleTicks = b.firstSampleTicks
  frames : g.missingFrames = distance 32 b.sequence expectedSequence
  sequence : (expectedSequence + g.missingFrames) % 2 ^ 32 = b.sequence
  items : g.missingItems * b.periodTicks = distance 64 b.firstSampleTicks expectedTicks
  ticks : (expectedTicks + g.missingItems * b.periodTicks) % 2 ^ 64 = b.firstSampleTicks

theorem checked_gapEvidence (hb : Sampled b) (frames items : ℕ) :
    (gapEvidence b frames items).checked = .ok (gapEvidence b frames items) := by
  refine checked_evidence hb _ ⟨rfl, rfl⟩ ?_
  unfold gapEvidence
  dsimp only
  split <;> simp

/-- Every check of the gap's own constructor holds of whole missing frames. -/
theorem checked_measured (drops : ℕ) (hb : Sampled b) {frames items : ℕ} (hseq : expectedSequence < 2 ^ 32)
    (hticks : expectedTicks < 2 ^ 64) (hframes : frames < 2 ^ 32) (hitems : items < 2 ^ 64)
    (hzero : frames = 0 ↔ items = 0) (hle : frames ≤ items)
    (hsame : (sequenceItems b frames).all (· = items) = true)
    (hsequence : (expectedSequence + frames) % 2 ^ 32 = b.sequence)
    (hafter : (expectedTicks + items * b.periodTicks) % 2 ^ 64 = b.firstSampleTicks) :
    (measured b expectedSequence expectedTicks drops frames items (gapEvidence b frames items)).checked =
      .ok (measured b expectedSequence expectedTicks drops frames items (gapEvidence b frames items)) := by
  have hkept : (measured b expectedSequence expectedTicks drops frames items
      (gapEvidence b frames items)).sequenceItems = sequenceItems b frames := by
    unfold MeasuredGap.sequenceItems measured sequenceItems
    dsimp only
    by_cases hversion : b.protocolVersion = 3
    · rw [if_pos hversion, if_neg (by simp [hversion])]
    · rw [if_neg hversion, if_neg (by simp)]
  have hoverrun : (!b.overrunBefore) = true ∨ b.gapBefore = true := by
    cases ho : b.overrunBefore with
    | false => exact .inl rfl
    | true => exact .inr (hb.overrun ho)
  refine ensure_ok.mpr ⟨?_, ?_⟩
  · simp only [List.forall_mem_cons, List.not_mem_nil, false_imp_iff, implies_true, and_true, hkept,
      unsigned, decide_eq_true_eq, Bool.and_eq_true, Bool.or_eq_true, ne_eq]
    exact ⟨hb.runId.1, hseq, hb.sequence, hticks, hb.ticks, hframes, hitems, hb.runId.2,
      hoverrun, ⟨hb.period.1, hb.items.1⟩, .inr ⟨hzero, hle⟩, hsame,
      decide_eq_true rfl, by simp [measured, gapEvidence, evidenceOf], hsequence.symm, hafter.symm⟩
  · rw [hkept]
    rfl

/-- A forward jump over whole frames passes every check of the constructor. -/
theorem fromExpected_gap (hb : Sampled b) (hseq : expectedSequence < 2 ^ 32)
    (hticks : expectedTicks < 2 ^ 64) (hpos : 0 < distance 32 b.sequence expectedSequence)
    (hhalf : distance 32 b.sequence expectedSequence < 2 ^ 31)
    (hspans : Spans b (distance 32 b.sequence expectedSequence)
      (distance 64 b.firstSampleTicks expectedTicks)) :
    ∃ g, fromExpected b expectedSequence expectedTicks = .ok (some g) ∧
      Measures b expectedSequence expectedTicks g := by
  have hperiod := hb.period.1
  have hsequence := add_distance hb.sequence hseq
  have hafter := add_distance hb.ticks hticks
  obtain ⟨items, hmul, htime, hcounts, hzero, hle⟩ := hspans.aligned hb hhalf
  have hitems : distance 64 b.firstSampleTicks expectedTicks / b.periodTicks = items := by
    rw [hmul, Nat.mul_div_cancel _ hperiod]
  have haligned : distance 64 b.firstSampleTicks expectedTicks ≤ (2 ^ 64 - 1) / 2 ∧
      distance 64 b.firstSampleTicks expectedTicks % b.periodTicks = 0 := by
    unfold timestampItems at htime
    split at htime
    · assumption
    · cases htime
  have hsame : (sequenceItems b (distance 32 b.sequence expectedSequence)).all (· = items) = true := by
    unfold countsConsistent at hcounts
    split at hcounts
    · rename_i hversion
      rw [sequenceItems, if_pos hversion]
      rfl
    · simp only [decide_eq_true_eq] at hcounts
      rw [← hcounts]
      simp
  have hitemsLt : items < 2 ^ 64 := by
    have hlt := distance_lt 64 b.firstSampleTicks expectedTicks
    have hmulLe : items ≤ items * b.periodTicks := Nat.le_mul_of_pos_right _ hperiod
    omega
  generalize hframes : distance 32 b.sequence expectedSequence = frames at *
  generalize hdelta : distance 64 b.firstSampleTicks expectedTicks = delta at *
  unfold fromExpected
  simp only [hframes, hdelta, hitems]
  have hguard : ensure
      [unsigned "expected_sequence" expectedSequence 32,
       unsigned "expected_first_sample_ticks" expectedTicks 64,
       (decide (frames ≤ (2 ^ 32 - 1) / 2), "duplicate or reversed sequence is not a forward gap"),
       (decide (delta ≤ (2 ^ 64 - 1) / 2), "reversed timestamp is not a forward gap"),
       (decide (delta % b.periodTicks = 0), "stream timestamp gap is not sample-period aligned"),
       ((sequenceItems b frames).all (· = items),
         "sequence and timestamp imply different missing item counts")] () = .ok () := by
    refine ensure_ok.mpr ⟨?_, rfl⟩
    simp only [List.forall_mem_cons, List.not_mem_nil, false_imp_iff, implies_true, and_true, unsigned,
      decide_eq_true_eq]
    exact ⟨hseq, hticks, by omega, haligned.1, haligned.2, hsame⟩
  rw [hguard]
  have hmeasured := checked_measured 0 hb hseq hticks (by omega) hitemsLt hzero hle hsame
    hsequence (hmul ▸ hafter)
  have hmiss : ¬ (frames = 0 ∧ items = 0 ∧ b.gapBefore = false) := fun h => by omega
  rw [if_neg hmiss]
  dsimp only [bind, Except.bind, pure, Except.pure]
  rw [checked_gapEvidence hb]
  dsimp only
  rw [hmeasured]
  exact ⟨_, rfl, ⟨rfl, rfl, rfl⟩, ⟨rfl, rfl⟩, ⟨rfl, rfl⟩, hframes.symm, hsequence, hmul.symm.trans hdelta.symm,
    hmul ▸ hafter⟩

/-- The evidence that goes with an anomaly, contradicted or not. -/
theorem amended_evidenceOf (hb : Sampled b) (misfit : Bool) {error : String} (herror : error ≠ "") :
    ∃ e, (evidenceOf b).amended misfit error = .ok e ∧ e.source = b.source := by
  unfold FirmwareLossEvidence.amended
  split
  · exact ⟨_, contradicted_evidenceOf hb herror, rfl⟩
  · exact ⟨_, rfl, rfl⟩

theorem active_behind (hb : Sampled b) (hseq : expectedSequence < 2 ^ 32) (hticks : expectedTicks < 2 ^ 64)
    (h : 2 ^ 31 ≤ distance 32 b.sequence expectedSequence) :
    ∃ a, analyzeActive b expectedSequence expectedTicks b.runId previous (evidenceOf b) =
        .ok (.anomaly a) ∧
      a.reason = if previous = some b.sequence then .duplicate else .reordered := by
  unfold analyzeActive
  dsimp only
  rw [if_pos (by omega)]
  obtain ⟨e, he, hsource⟩ := amended_evidenceOf hb (evidenceOf b).gapBefore
    (show "firmware marked a gap on a duplicate or reordered frame" ≠ "" by decide)
  rw [he]
  exact observed_ok hb hseq hticks _ _ _ e hsource

theorem active_inconsistent (hb : Sampled b) (hseq : expectedSequence < 2 ^ 32)
    (hticks : expectedTicks < 2 ^ 64) (h : distance 32 b.sequence expectedSequence < 2 ^ 31)
    (hspans : ¬ Spans b (distance 32 b.sequence expectedSequence)
      (distance 64 b.firstSampleTicks expectedTicks)) :
    ∃ a, analyzeActive b expectedSequence expectedTicks b.runId previous (evidenceOf b) =
        .ok (.anomaly a) ∧ a.reason = .timestampInconsistent := by
  have hbad : timestampItems b (distance 64 b.firstSampleTicks expectedTicks) = none ∨
      countsConsistent b (distance 32 b.sequence expectedSequence)
        (timestampItems b (distance 64 b.firstSampleTicks expectedTicks)) = false := by
    cases htime : timestampItems b (distance 64 b.firstSampleTicks expectedTicks) with
    | none => exact .inl rfl
    | some items =>
      right
      by_contra hcounts
      exact hspans (spans_of_consistent htime (by simpa using hcounts))
  unfold analyzeActive
  dsimp only
  rw [if_neg (by omega), if_pos hbad]
  obtain ⟨e, he, hsource⟩ := amended_evidenceOf hb
    ((evidenceOf b).gapBefore ≠ decide (0 < distance 32 b.sequence expectedSequence))
    (show "GAP_BEFORE does not match the sequence-inferred stream discontinuity" ≠ "" by decide)
  rw [he]
  exact observed_ok hb hseq hticks _ _ _ e hsource

/-- Whole frames are no inconsistency. -/
theorem Spans.consistent (hb : Sampled b) (hframes : frames < 2 ^ 31) (h : Spans b frames ticks) :
    ¬ (timestampItems b ticks = none ∨ countsConsistent b frames (timestampItems b ticks) = false) := by
  obtain ⟨items, -, htime, hcounts, -, -⟩ := h.aligned hb hframes
  rw [htime, hcounts]
  simp

theorem active_complete (hb : Sampled b) (hseq : expectedSequence < 2 ^ 32)
    (hticks : expectedTicks < 2 ^ 64) (hsequence : b.sequence = expectedSequence)
    (htime : b.firstSampleTicks = expectedTicks) (hgap : b.gapBefore = false) :
    analyzeActive b expectedSequence expectedTicks b.runId previous (evidenceOf b) = .ok .complete := by
  have hframes := (distance_eq_zero hb.sequence hseq).mpr hsequence
  have hdelta := (distance_eq_zero hb.ticks hticks).mpr htime
  have hgood := ((Spans.zero hb).mpr rfl).consistent hb (by decide)
  unfold analyzeActive
  dsimp only
  rw [hframes, hdelta, if_neg (show ¬ (2 ^ 32 - 1) / 2 < 0 by decide), if_neg hgood, if_pos rfl,
    if_pos (show (evidenceOf b).gapBefore = false from hgap)]
  rfl

theorem active_contradicted (hb : Sampled b) (hseq : expectedSequence < 2 ^ 32)
    (hticks : expectedTicks < 2 ^ 64) (hsequence : b.sequence = expectedSequence)
    (htime : b.firstSampleTicks = expectedTicks) (hgap : b.gapBefore = true) :
    ∃ a, analyzeActive b expectedSequence expectedTicks b.runId previous (evidenceOf b) =
        .ok (.anomaly a) ∧ a.reason = .firmwareEvidenceMismatch := by
  have hframes := (distance_eq_zero hb.sequence hseq).mpr hsequence
  have hdelta := (distance_eq_zero hb.ticks hticks).mpr htime
  have hgood := ((Spans.zero hb).mpr rfl).consistent hb (by decide)
  have hmark : ¬ (evidenceOf b).gapBefore = false := by
    rw [show (evidenceOf b).gapBefore = true from hgap]
    decide
  unfold analyzeActive
  dsimp only
  rw [hframes, hdelta, if_neg (show ¬ (2 ^ 32 - 1) / 2 < 0 by decide), if_neg hgood, if_pos rfl,
    if_neg hmark, contradicted_evidenceOf hb (by decide)]
  exact observed_ok hb hseq hticks _ _ _ _ rfl

theorem active_gap (hb : Sampled b) (hseq : expectedSequence < 2 ^ 32) (hticks : expectedTicks < 2 ^ 64)
    (hpos : 0 < distance 32 b.sequence expectedSequence)
    (hhalf : distance 32 b.sequence expectedSequence < 2 ^ 31)
    (hspans : Spans b (distance 32 b.sequence expectedSequence)
      (distance 64 b.firstSampleTicks expectedTicks)) :
    ∃ g, analyzeActive b expectedSequence expectedTicks b.runId previous (evidenceOf b) = .ok (.gap g) ∧
      Measures b expectedSequence expectedTicks g := by
  obtain ⟨g, hg, hmeasures⟩ := fromExpected_gap hb hseq hticks hpos hhalf hspans
  unfold analyzeActive
  dsimp only
  rw [if_neg (by omega), if_neg (hspans.consistent hb hhalf), if_neg (by omega), hg]
  exact ⟨g, rfl, hmeasures⟩

end Active

/-! ### Every answer -/

/-- The kind of an answer. -/
inductive Verdict
  | complete
  | gap
  | anomaly (reason : StreamAnomalyReason)
  deriving DecidableEq, Repr

def Classified.verdict : Classified → Verdict
  | .complete => .complete
  | .gap _ => .gap
  | .anomaly a => .anomaly a.reason

/-- What a verdict says of the block. -/
def Holds (b : DataBlock) (expectedSequence expectedTicks activeRunId : ℕ)
    (previousSequence : Option ℕ) : Verdict → Prop
  | .complete => b.runId = activeRunId ∧ b.sequence = expectedSequence ∧
      b.firstSampleTicks = expectedTicks ∧ b.gapBefore = false
  | .gap => b.runId = activeRunId ∧ 0 < distance 32 b.sequence expectedSequence ∧
      distance 32 b.sequence expectedSequence < 2 ^ 31 ∧
      Spans b (distance 32 b.sequence expectedSequence) (distance 64 b.firstSampleTicks expectedTicks)
  | .anomaly .staleRun => b.runId ≠ activeRunId
  | .anomaly .duplicate => b.runId = activeRunId ∧
      2 ^ 31 ≤ distance 32 b.sequence expectedSequence ∧ previousSequence = some b.sequence
  | .anomaly .reordered => b.runId = activeRunId ∧
      2 ^ 31 ≤ distance 32 b.sequence expectedSequence ∧ previousSequence ≠ some b.sequence
  | .anomaly .timestampInconsistent => b.runId = activeRunId ∧
      distance 32 b.sequence expectedSequence < 2 ^ 31 ∧
      ¬ Spans b (distance 32 b.sequence expectedSequence) (distance 64 b.firstSampleTicks expectedTicks)
  | .anomaly .firmwareEvidenceMismatch => b.runId = activeRunId ∧ b.sequence = expectedSequence ∧
      b.firstSampleTicks = expectedTicks ∧ b.gapBefore = true
  | .anomaly .hostQueueRangeInconsistent => False

section Verdicts

variable {expectedSequence expectedTicks activeRunId : ℕ} {previous : Option ℕ}

open Classical in
/-- The verdict on a block, asked in the order of the source. -/
noncomputable def verdictOf (b : DataBlock) (expectedSequence expectedTicks activeRunId : ℕ)
    (previousSequence : Option ℕ) : Verdict :=
  if b.runId ≠ activeRunId then .anomaly .staleRun
  else if 2 ^ 31 ≤ distance 32 b.sequence expectedSequence then
    if previousSequence = some b.sequence then .anomaly .duplicate else .anomaly .reordered
  else if ¬ Spans b (distance 32 b.sequence expectedSequence)
      (distance 64 b.firstSampleTicks expectedTicks) then .anomaly .timestampInconsistent
  else if 0 < distance 32 b.sequence expectedSequence then .gap
  else if b.gapBefore then .anomaly .firmwareEvidenceMismatch
  else .complete

/-- The verdicts exclude each other. -/
theorem Holds.eq_verdictOf (hb : Sampled b) (hseq : expectedSequence < 2 ^ 32)
    (hticks : expectedTicks < 2 ^ 64) {v : Verdict}
    (h : Holds b expectedSequence expectedTicks activeRunId previous v) :
    v = verdictOf b expectedSequence expectedTicks activeRunId previous := by
  have hhere : b.sequence = expectedSequence → b.firstSampleTicks = expectedTicks →
      ¬ 2 ^ 31 ≤ distance 32 b.sequence expectedSequence ∧
        ¬ 0 < distance 32 b.sequence expectedSequence ∧
        Spans b (distance 32 b.sequence expectedSequence)
          (distance 64 b.firstSampleTicks expectedTicks) := by
    intro hsequence htime
    rw [(distance_eq_zero hb.sequence hseq).mpr hsequence,
      (distance_eq_zero hb.ticks hticks).mpr htime]
    exact ⟨by decide, by decide, (Spans.zero hb).mpr rfl⟩
  unfold verdictOf
  cases v with
  | complete =>
    obtain ⟨hrun, hsequence, htime, hgap⟩ := h
    obtain ⟨hhalf, hpos, hspans⟩ := hhere hsequence htime
    rw [if_neg (not_not.mpr hrun), if_neg hhalf, if_neg (not_not.mpr hspans), if_neg hpos, hgap,
      if_neg (by decide)]
  | gap =>
    obtain ⟨hrun, hpos, hhalf, hspans⟩ := h
    rw [if_neg (not_not.mpr hrun), if_neg (by omega), if_neg (not_not.mpr hspans), if_pos hpos]
  | anomaly reason =>
    cases reason with
    | staleRun => rw [if_pos (show b.runId ≠ activeRunId from h)]
    | duplicate =>
      obtain ⟨hrun, hhalf, hprevious⟩ := h
      rw [if_neg (not_not.mpr hrun), if_pos hhalf, if_pos hprevious]
    | reordered =>
      obtain ⟨hrun, hhalf, hprevious⟩ := h
      rw [if_neg (not_not.mpr hrun), if_pos hhalf, if_neg hprevious]
    | timestampInconsistent =>
      obtain ⟨hrun, hhalf, hspans⟩ := h
      rw [if_neg (not_not.mpr hrun), if_neg (by omega), if_pos hspans]
    | firmwareEvidenceMismatch =>
      obtain ⟨hrun, hsequence, htime, hgap⟩ := h
      obtain ⟨hhalf, hpos, hspans⟩ := hhere hsequence htime
      rw [if_neg (not_not.mpr hrun), if_neg hhalf, if_neg (not_not.mpr hspans), if_neg hpos,
        if_pos hgap]
    | hostQueueRangeInconsistent => exact h.elim

variable (previous) in
/-- A block of the active run gets an answer, and the answer's verdict holds. -/
theorem active_holds (hb : Sampled b) (hseq : expectedSequence < 2 ^ 32)
    (hticks : expectedTicks < 2 ^ 64) :
    ∃ answer, analyzeActive b expectedSequence expectedTicks b.runId previous (evidenceOf b) =
        .ok answer ∧
      Holds b expectedSequence expectedTicks b.runId previous answer.verdict ∧
      ∀ g, answer = .gap g → Measures b expectedSequence expectedTicks g := by
  by_cases hhalf : 2 ^ 31 ≤ distance 32 b.sequence expectedSequence
  · obtain ⟨a, ha, hreason⟩ := active_behind previous hb hseq hticks hhalf
    refine ⟨.anomaly a, ha, ?_, fun g hg => by cases hg⟩
    change Holds _ _ _ _ _ (.anomaly a.reason)
    rw [hreason]
    by_cases hprevious : previous = some b.sequence
    · rw [if_pos hprevious]
      exact ⟨rfl, hhalf, hprevious⟩
    · rw [if_neg hprevious]
      exact ⟨rfl, hhalf, hprevious⟩
  have hhalf : distance 32 b.sequence expectedSequence < 2 ^ 31 := by omega
  by_cases hspans : Spans b (distance 32 b.sequence expectedSequence)
      (distance 64 b.firstSampleTicks expectedTicks)
  swap
  · obtain ⟨a, ha, hreason⟩ := active_inconsistent previous hb hseq hticks hhalf hspans
    refine ⟨.anomaly a, ha, ?_, fun g hg => by cases hg⟩
    change Holds _ _ _ _ _ (.anomaly a.reason)
    rw [hreason]
    exact ⟨rfl, hhalf, hspans⟩
  rcases Nat.eq_zero_or_pos (distance 32 b.sequence expectedSequence) with hzero | hpos
  · have hsequence := (distance_eq_zero hb.sequence hseq).mp hzero
    rw [hzero, Spans.zero hb] at hspans
    have htime := (distance_eq_zero hb.ticks hticks).mp hspans
    cases hgap : b.gapBefore with
    | false =>
      exact ⟨.complete, active_complete previous hb hseq hticks hsequence htime hgap,
        ⟨rfl, hsequence, htime, hgap⟩, fun g hg => by cases hg⟩
    | true =>
      obtain ⟨a, ha, hreason⟩ := active_contradicted previous hb hseq hticks hsequence
        htime hgap
      refine ⟨.anomaly a, ha, ?_, fun g hg => by cases hg⟩
      change Holds _ _ _ _ _ (.anomaly a.reason)
      rw [hreason]
      exact ⟨rfl, hsequence, htime, hgap⟩
  · obtain ⟨g, hg, hmeasures⟩ := active_gap previous hb hseq hticks hpos hhalf hspans
    exact ⟨.gap g, hg, ⟨rfl, hpos, hhalf, hspans⟩, fun g' hg' => by cases hg'; exact hmeasures⟩

theorem ensure_error {α : Type} {checks : List Check} {value : α} {c : Check} (hc : c ∈ checks)
    (hbad : c.1 = false) : ∃ e, ensure checks value = .error e := by
  cases hensure : ensure checks value with
  | error e => exact ⟨e, rfl⟩
  | ok value' =>
    have hgood := (ensure_ok.mp hensure).1 c hc
    rw [hbad] at hgood
    cases hgood

/-- For a valid block and arguments in range: the call raises exactly when the previous
sequence is given and is not the one before the expected, or no run is active.  An answer
has the one verdict that holds of the block, and a gap the true distances. -/
theorem continuity_classified (b : DataBlock) (encoded : Option Bytes) (hvalid : b.check encoded = true)
    (expectedSequence expectedTicks activeRunId : ℕ) (previous : Option ℕ)
    (hseq : expectedSequence < 2 ^ 32) (hticks : expectedTicks < 2 ^ 64)
    (hactive : activeRunId < 2 ^ 32) (hprevious : ∀ p ∈ previous, p < 2 ^ 32) :
    let result := analyzeStreamContinuity b expectedSequence expectedTicks activeRunId previous
    ((∃ e, result = .error e) ↔
        (∃ p ∈ previous, expectedSequence ≠ (p + 1) % 2 ^ 32) ∨ activeRunId = 0) ∧
      ∀ answer, result = .ok answer →
        (∀ v, answer.verdict = v ↔ Holds b expectedSequence expectedTicks activeRunId previous v) ∧
        ∀ g, answer = .gap g → Measures b expectedSequence expectedTicks g := by
  intro result
  have hb := sampled_of_check hvalid
  by_cases hagree : ∃ p ∈ previous, expectedSequence ≠ (p + 1) % 2 ^ 32
  · obtain ⟨p, hp, hne⟩ := hagree
    obtain rfl := Option.mem_def.mp hp
    have hbad : (decide (expectedSequence = (p + 1) % 2 ^ 32),
        "previous and expected stream sequences disagree").1 = false := decide_eq_false hne
    have herror : ∃ e, result = .error e := by
      have hmem : _ ∈ argumentChecks expectedSequence expectedTicks activeRunId (some p) :=
        List.mem_of_getLast? rfl
      obtain ⟨e, he⟩ : ∃ e, ensure (argumentChecks expectedSequence expectedTicks activeRunId
          (some p)) () = .error e := ensure_error hmem hbad
      refine ⟨e, ?_⟩
      change analyzeStreamContinuity _ _ _ _ _ = _
      unfold analyzeStreamContinuity
      rw [he]
      rfl
    refine ⟨iff_of_true herror (.inl ⟨p, rfl, hne⟩), fun answer hok => ?_⟩
    obtain ⟨e, he⟩ := herror
    rw [hok] at he
    cases he
  have hguard : result = (do
      if b.runId ≠ activeRunId then return .anomaly (← StreamAnomaly.staleRun b activeRunId)
      analyzeActive b expectedSequence expectedTicks activeRunId previous (evidenceOf b)) := by
    have hchecks : ensure (argumentChecks expectedSequence expectedTicks activeRunId previous) () =
        .ok () := by
      refine ensure_ok.mpr ⟨?_, rfl⟩
      unfold argumentChecks
      simp only [List.forall_mem_cons, List.not_mem_nil, false_imp_iff, implies_true, and_true,
        unsigned, unsignedOption, decide_eq_true_eq]
      refine ⟨hseq, hticks, hactive, ?_, ?_⟩
      · cases previous with
        | none => rfl
        | some p => exact decide_eq_true (hprevious p rfl)
      · cases previous with
        | none => rfl
        | some p =>
          refine decide_eq_true ?_
          by_contra hne
          exact hagree ⟨p, rfl, hne⟩
    change analyzeStreamContinuity _ _ _ _ _ = _
    unfold analyzeStreamContinuity
    rw [hchecks, checked_evidenceOf hb]
    rfl
  by_cases hrun : b.runId = activeRunId
  · subst hrun
    rw [if_neg (not_not.mpr rfl)] at hguard
    obtain ⟨answer, hanswer, hholds, hmeasures⟩ := active_holds previous hb hseq hticks
    have hresult : result = .ok answer := hguard.trans hanswer
    refine ⟨iff_of_false ?_ ?_, ?_⟩
    · rintro ⟨e, he⟩
      rw [hresult] at he
      cases he
    · rintro (h | h)
      · exact hagree h
      · exact hb.runId.2 h
    · intro answer' hok
      obtain rfl := Except.ok.inj (hresult.symm.trans hok)
      refine ⟨fun v => ⟨fun hv => hv ▸ hholds, fun hv => ?_⟩, hmeasures⟩
      exact (hholds.eq_verdictOf hb hseq hticks).trans (hv.eq_verdictOf hb hseq hticks).symm
  · rw [if_pos hrun] at hguard
    have hstale := staleRun_ok hb hactive
    by_cases hzero : activeRunId = 0
    · rw [if_pos hzero] at hstale
      obtain ⟨e, he⟩ := hstale
      rw [he] at hguard
      refine ⟨iff_of_true ⟨e, hguard⟩ (.inr hzero), fun answer hok => ?_⟩
      rw [hguard] at hok
      cases hok
    · rw [if_neg hzero] at hstale
      obtain ⟨a, ha, hreason⟩ := hstale
      rw [ha] at hguard
      have hresult : result = .ok (.anomaly a) := hguard
      refine ⟨iff_of_false ?_ (not_or.mpr ⟨hagree, hzero⟩), ?_⟩
      · rintro ⟨e, he⟩
        rw [hresult] at he
        cases he
      · intro answer hok
        obtain rfl := Except.ok.inj (hresult.symm.trans hok)
        have hholds : Holds b expectedSequence expectedTicks activeRunId previous
            (Classified.anomaly a).verdict := by
          change Holds _ _ _ _ _ (.anomaly a.reason)
          rw [hreason]
          exact hrun
        refine ⟨fun v => ⟨fun hv => hv ▸ hholds, fun hv => ?_⟩, fun g hg => by cases hg⟩
        exact (hholds.eq_verdictOf hb hseq hticks).trans (hv.eq_verdictOf hb hseq hticks).symm

end Verdicts

theorem gap_of_verdict {result : Except String Classified}
    (h : result.toOption.map Classified.verdict = some .gap) : ∃ g, result = .ok (.gap g) := by
  cases result with
  | error e => cases h
  | ok answer =>
    cases answer with
    | complete => cases h
    | gap g => exact ⟨g, rfl⟩
    | anomaly a => cases h

/-- A gap of two frames across the wrap of both counters. -/
theorem continuity_classified_wrap :
    let b := Station.sampleBlock 7 1
    ∃ g, analyzeStreamContinuity b (2 ^ 32 - 1) (2 ^ 64 - 8) 7 (some (2 ^ 32 - 2)) = .ok (.gap g) ∧
      g.missingFrames = 2 ∧ Measures b (2 ^ 32 - 1) (2 ^ 64 - 8) g := by
  intro b
  have hall := (continuity_classified b (some [0, 1, 0, 0, 1, 0, 0, 0, 0, 0, 0, 0, 5])
    (by decide +kernel) (2 ^ 32 - 1) (2 ^ 64 - 8) 7 (some (2 ^ 32 - 2)) (by decide) (by decide)
    (by decide) (by decide)).2
  obtain ⟨g, hg⟩ : ∃ g, analyzeStreamContinuity b (2 ^ 32 - 1) (2 ^ 64 - 8) 7 (some (2 ^ 32 - 2)) =
      .ok (.gap g) := gap_of_verdict (by decide +kernel)
  have hmeasures := (hall _ hg).2 g rfl
  exact ⟨g, hg, hmeasures.frames.trans (by decide +kernel), hmeasures⟩

/-- One frame of up to 4048 samples is missing before this block of one sample. -/
def lateBlock : DataBlock := { Station.sampleBlock 7 1 with firstSampleTicks := 800 }

theorem error_of_toOption {result : Except String Classified} (h : result.toOption = none) :
    ∃ e, result = .error e := by
  cases result with
  | error e => exact ⟨e, rfl⟩
  | ok answer => cases h

/-- The missing frame of a version 3 gap need not have the coverage of the block after it;
and a previous sequence that is not the one before the expected one raises, as does the
comparison with no active run. -/
theorem continuity_variable_frames :
    lateBlock.check (some [0, 1, 0, 0, 1, 0, 0, 0, 0, 0, 0, 0, 5]) = true ∧
      (∃ g, analyzeStreamContinuity lateBlock 0 0 7 none = .ok (.gap g)) ∧
      distance 64 lateBlock.firstSampleTicks 0 ≠
        distance 32 lateBlock.sequence 0 * lateBlock.coverageTicks ∧
      (∃ e, analyzeStreamContinuity lateBlock 0 0 7 (some 5) = .error e) ∧
      ∃ e, analyzeStreamContinuity lateBlock 0 0 0 none = .error e :=
  ⟨by decide +kernel, gap_of_verdict (by decide +kernel), by decide +kernel,
    error_of_toOption (by decide +kernel), error_of_toOption (by decide +kernel)⟩

end ThingDaq.Host.Continuity
