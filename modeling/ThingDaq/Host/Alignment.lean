import ThingDaq.Lib.Tiling
import Mathlib.Data.PNat.Basic
import Mathlib.Data.List.Perm.Basic
import Mathlib.Data.List.Lookmap
import Mathlib.Tactic.Linarith

/-!
# Timestamp alignment

`TimestampAligner` (`daq_api/src/thingdone_daq/alignment.py`) pairs ADC and GPIO
blocks that cover the same interval of a run.  Blocks wait in `pending`, keyed by
their first tick; what is older than the lateness window, or flushed, leaves as an
`AlignedInterval`, and stretches with no block at all as an `AlignmentLoss`.

A Python call that raises keeps what it changed before.  So a call is an
`Outcome` here: the state it leaves, the items it emitted on the way, and the
error that ended it, if any.

## Main results

* `drain`, `flushPending` — the two loops, total by well-founded recursion: a turn
  empties a slot or moves the output towards the first pending tick.
-/

namespace ThingDaq.Alignment

open Tiling

abbrev UINT32_MAX : ℕ := 2 ^ 32 - 1
abbrev UINT64_MAX : ℕ := 2 ^ 64 - 1

/-! ### Blocks and gaps -/

inductive FrameKind
  | adcData
  | gpioData
  deriving DecidableEq, Repr

inductive Source
  | hardware
  | synthetic
  deriving DecidableEq, Repr

inductive AuxBankMode
  | disabled
  | input
  deriving DecidableEq, Repr

inductive RateProfile
  | adc1MhzGpio4Mhz
  | adc500KhzGpio2Mhz
  | adc250KhzGpio1Mhz
  | adc125KhzGpio500Khz
  | adc1MhzGpio1Mhz
  deriving DecidableEq, Repr

def RateProfile.adcPairPeriodTicks : RateProfile → ℕ
  | .adc1MhzGpio4Mhz => 8
  | .adc500KhzGpio2Mhz => 16
  | .adc250KhzGpio1Mhz => 32
  | .adc125KhzGpio500Khz => 64
  | .adc1MhzGpio1Mhz => 8

def RateProfile.gpioSamplePeriodTicks : RateProfile → ℕ
  | .adc1MhzGpio4Mhz => 2
  | .adc500KhzGpio2Mhz => 4
  | .adc250KhzGpio1Mhz => 8
  | .adc125KhzGpio500Khz => 16
  | .adc1MhzGpio1Mhz => 8

/-- The continuity evidence of a `StreamGap`, which is what `_gap_signature`
compares. -/
structure StreamGap where
  kind : FrameKind
  runId : ℕ
  expectedSequence : ℕ
  observedSequence : ℕ
  missingFrames : ℕ
  missingItems : ℕ
  expectedFirstSampleTicks : ℕ
  observedFirstSampleTicks : ℕ
  firmwareReported : Bool
  firmwareOverrun : Bool
  itemPeriodTicks : ℕ
  itemsPerFrame : ℕ
  deriving DecidableEq, Repr

/-- An `ADCBlock` or a `GPIOBlock`.  Only an ADC block has an embedded gap. -/
structure Block where
  kind : FrameKind
  runId : ℕ
  sequence : ℕ
  firstSampleTicks : ℕ
  payload : List UInt8
  gapBefore : Bool
  overrunBefore : Bool
  synthetic : Bool
  auxBankMode : AuxBankMode
  rateProfile : RateProfile
  protocolVersion : ℕ
  gap : Option StreamGap
  deriving DecidableEq, Repr

namespace Block

def source (b : Block) : Source := if b.synthetic then .synthetic else .hardware

def itemBytes (b : Block) : ℕ :=
  match b.kind, b.auxBankMode with
  | .adcData, _ => 4
  | .gpioData, .disabled => 1
  | .gpioData, .input => 2

def itemCount (b : Block) : ℕ := b.payload.length / b.itemBytes

def periodTicks (b : Block) : ℕ :=
  match b.kind with
  | .adcData => b.rateProfile.adcPairPeriodTicks
  | .gpioData => b.rateProfile.gpioSamplePeriodTicks

/-- `_block_coverage_ticks`. -/
def coverageTicks (b : Block) : ℕ := b.itemCount * b.periodTicks

def endTickExclusive (b : Block) : ℕ := (b.firstSampleTicks + b.coverageTicks) % 2 ^ 64

/-- `_block_profile_signature`. -/
def profileSignature (b : Block) : ℕ × AuxBankMode × RateProfile :=
  (b.protocolVersion, b.auxBankMode, b.rateProfile)

end Block

inductive AlignError
  | closed
  | equalRates
  | notOneInterval
  | notAligned
  | crossesWrap
  | zeroRun
  | zeroCoverage
  | coverageChanged
  | profileChanged
  | sourceChanged
  | late
  | duplicate
  | gapNotAligned
  | gapEmitted
  | gapDuplicate
  | gapStorageFull
  | continuity
  | gapDisagrees
  | invalidInterval
  | invalidLoss
  | pendingBehind
  | pendingNotAligned
  | timestampWrap
  | noProgress
  | noEpoch
  | zeroDivision
  | slotTaken
  | boundExceeded
  deriving DecidableEq, Repr

/-- `StreamGap.from_expected`; every `ValueError` on its way becomes the
continuity error of the aligner. -/
def fromExpected (block : Block) (expectedSequence expectedFirstSampleTicks : ℕ) :
    Except AlignError (Option StreamGap) :=
  let missingFrames := (block.sequence + 2 ^ 32 - expectedSequence) % 2 ^ 32
  let tickDelta := (block.firstSampleTicks + 2 ^ 64 - expectedFirstSampleTicks) % 2 ^ 64
  let period := block.periodTicks
  let missingItems := tickDelta / period
  if UINT32_MAX / 2 < missingFrames ∨ UINT64_MAX / 2 < tickDelta ∨ tickDelta % period ≠ 0 ∨
      block.protocolVersion ≠ 3 ∧ missingFrames * block.itemCount ≠ missingItems then
    .error .continuity
  else if missingFrames = 0 ∧ missingItems = 0 ∧ block.gapBefore = false then .ok none
  else if block.overrunBefore ∧ block.gapBefore = false ∨ block.runId = 0 ∨ block.itemCount = 0 ∨
      block.protocolVersion = 3 ∧
        ((missingFrames = 0) ≠ (missingItems = 0) ∨ missingItems < missingFrames) then
    .error .continuity
  else
    .ok (some
      { kind := block.kind
        runId := block.runId
        expectedSequence := expectedSequence
        observedSequence := block.sequence
        missingFrames := missingFrames
        missingItems := missingItems
        expectedFirstSampleTicks := expectedFirstSampleTicks
        observedFirstSampleTicks := block.firstSampleTicks
        firmwareReported := block.gapBefore
        firmwareOverrun := block.overrunBefore
        itemPeriodTicks := period
        itemsPerFrame := block.itemCount })

/-! ### Output items -/

inductive AlignmentLossReason
  | windowExpired
  | explicitFlush
  | endOfInput
  | runBoundary
  deriving DecidableEq, Repr

/-- A `StreamMask` of the two streams. -/
structure StreamMask where
  adc : Bool
  gpio : Bool
  deriving DecidableEq, Repr

def StreamMask.none : StreamMask := ⟨false, false⟩

structure AlignedInterval where
  adc : Option Block
  gpio : Option Block
  streamGaps : List StreamGap
  deriving DecidableEq, Repr

namespace AlignedInterval

def blocks (i : AlignedInterval) : List Block := i.adc.toList ++ i.gpio.toList

/-- The block that the interval takes its tick and its coverage from. -/
def reference (i : AlignedInterval) : Option Block := i.adc.or i.gpio

def firstSampleTicks (i : AlignedInterval) : ℕ := (i.reference.map Block.firstSampleTicks).getD 0

def frameCoverageTicks (i : AlignedInterval) : ℕ := (i.reference.map Block.coverageTicks).getD 0

/-- The gap describes the block of its stream. -/
def describes (i : AlignedInterval) (gap : StreamGap) : Bool :=
  match (if gap.kind = .adcData then i.adc else i.gpio) with
  | none => false
  | some block => gap.runId == block.runId && gap.observedSequence == block.sequence &&
      gap.observedFirstSampleTicks == block.firstSampleTicks

/-- `__post_init__` of an interval. -/
def check (i : AlignedInterval) : Bool :=
  match i.reference with
  | none => false
  | some block =>
    (block.endTickExclusive + 2 ^ 64 - block.firstSampleTicks) % 2 ^ 64 == block.coverageTicks &&
      block.firstSampleTicks % block.coverageTicks == 0 &&
      decide (block.firstSampleTicks + block.coverageTicks ≤ UINT64_MAX) &&
      (match i.adc, i.gpio with
        | some adc, some gpio => adc.runId == gpio.runId && adc.source == gpio.source &&
            adc.firstSampleTicks == gpio.firstSampleTicks &&
            adc.endTickExclusive == gpio.endTickExclusive &&
            adc.profileSignature == gpio.profileSignature
        | _, _ => true) &&
      i.streamGaps.all i.describes && decide (i.streamGaps.map StreamGap.kind).Nodup

end AlignedInterval

structure AlignmentLoss where
  reason : AlignmentLossReason
  runId : ℕ
  source : Source
  firstSampleTicks : ℕ
  intervalCount : ℕ
  presentStreams : StreamMask
  missingStreams : StreamMask
  frameCoverageTicks : ℕ
  deriving DecidableEq, Repr

/-- `__post_init__` of a loss. -/
def AlignmentLoss.check (l : AlignmentLoss) : Bool :=
  l.runId != 0 && l.frameCoverageTicks != 0 &&
    l.firstSampleTicks % l.frameCoverageTicks == 0 && l.intervalCount != 0 &&
    (l.missingStreams.adc || l.missingStreams.gpio) &&
    decide (l.firstSampleTicks + l.intervalCount * l.frameCoverageTicks ≤ UINT64_MAX)

inductive AlignmentItem
  | interval (i : AlignedInterval)
  | loss (l : AlignmentLoss)
  | gap (g : StreamGap)
  deriving DecidableEq, Repr

namespace AlignmentItem

/-- What an item covers: an interval its frame, a loss of both streams its
range, a loss of one stream nothing, since its interval follows. -/
def span : AlignmentItem → Option (ℕ × ℕ)
  | .interval i => some (i.firstSampleTicks, i.frameCoverageTicks)
  | .loss l => if l.presentStreams = StreamMask.none then
      some (l.firstSampleTicks, l.intervalCount * l.frameCoverageTicks) else none
  | .gap _ => none

/-- A loss of one stream. -/
def OneSided : AlignmentItem → Prop
  | .loss l => l.presentStreams ≠ StreamMask.none
  | _ => False

/-- The second item is the interval at the tick of the first, a loss. -/
def Completes : AlignmentItem → AlignmentItem → Prop
  | .loss l, .interval i => i.firstSampleTicks = l.firstSampleTicks
  | _, _ => False

def blocks : AlignmentItem → List Block
  | .interval i => i.blocks
  | _ => []

end AlignmentItem

/-! ### The aligner -/

structure PendingInterval where
  adc : Option Block := none
  gpio : Option Block := none
  deriving DecidableEq, Repr

namespace PendingInterval

def complete (s : PendingInterval) : Bool := s.adc.isSome && s.gpio.isSome

def presentStreams (s : PendingInterval) : StreamMask := ⟨s.adc.isSome, s.gpio.isSome⟩

def blocks (s : PendingInterval) : List Block := s.adc.toList ++ s.gpio.toList

/-- The block of a stream. -/
def side (s : PendingInterval) (kind : FrameKind) : Option Block :=
  match kind with
  | .adcData => s.adc
  | .gpioData => s.gpio

def put (s : PendingInterval) (block : Block) : PendingInterval :=
  match block.kind with
  | .adcData => { s with adc := some block }
  | .gpioData => { s with gpio := some block }

end PendingInterval

structure TimestampAligner where
  maxPendingIntervals : ℕ+
  pending : List (ℕ × PendingInterval) := []
  announcedGaps : List StreamGap := []
  activeRunId : Option ℕ := none
  activeSource : Option Source := none
  frameCoverageTicks : Option ℕ := none
  profileSignature : Option (ℕ × AuxBankMode × RateProfile) := none
  nextOutputTicks : ℕ := 0
  expectedSequence : FrameKind → ℕ := fun _ => 0
  expectedTicks : FrameKind → ℕ := fun _ => 0
  highWaterIntervals : ℕ := 0
  closed : Bool := false

/-- The state a call leaves, the items it emitted and the error that ended it.
`former` is present when the call began a run; it holds the items that closed the
run before.  `accepted` is the block that the call stored. -/
structure Outcome where
  state : TimestampAligner
  former : Option (List AlignmentItem) := none
  outputs : List AlignmentItem := []
  accepted : Option Block := none
  error : Option AlignError := none

/-- What the caller gets: the outputs of a call that raises are lost. -/
def Outcome.returned (o : Outcome) : List AlignmentItem :=
  if o.error.isSome then [] else o.former.getD [] ++ o.outputs

/-- The items of a call go after those of the loop's earlier turns. -/
def Outcome.after (o : Outcome) (items : List AlignmentItem) : Outcome :=
  { o with outputs := items ++ o.outputs }

/-- The second half of a call, after a first half that did not raise. -/
def Outcome.andThen (o : Outcome) (f : TimestampAligner → Outcome) : Outcome :=
  if o.error.isSome then o
  else
    let next := f o.state
    { next with former := o.former, outputs := o.outputs ++ next.outputs }

namespace TimestampAligner

/-- The slot at a tick. -/
def slotAt (a : TimestampAligner) (ticks : ℕ) : Option PendingInterval := a.pending.lookup ticks

/-- `min(self._pending)`. -/
def minPending (a : TimestampAligner) : ℕ := (a.pending.map Prod.fst).min?.getD 0

/-- `max(self._pending)`. -/
def maxPending (a : TimestampAligner) : ℕ := (a.pending.map Prod.fst).max?.getD 0

/-- A gap is kept under its stream, run, sequence and tick. -/
def gapKey (gap : StreamGap) : FrameKind × ℕ × ℕ × ℕ :=
  (gap.kind, gap.runId, gap.observedSequence, gap.observedFirstSampleTicks)

def announced (a : TimestampAligner) (key : FrameKind × ℕ × ℕ × ℕ) : Option StreamGap :=
  a.announcedGaps.find? fun gap => gapKey gap = key

/-- `_advance`: announcements of what is behind the output are forgotten. -/
def advance (a : TimestampAligner) (coverage count : ℕ) : Except AlignError TimestampAligner :=
  let next := a.nextOutputTicks + count * coverage
  if UINT64_MAX < next then .error .timestampWrap
  else .ok { a with
    nextOutputTicks := next
    announcedGaps := a.announcedGaps.filter fun gap => decide (next ≤ gap.observedFirstSampleTicks) }

/-- `_alignment_loss`. -/
def alignmentLoss (a : TimestampAligner) (reason : AlignmentLossReason)
    (firstSampleTicks intervalCount : ℕ) (present : StreamMask) : Except AlignError AlignmentLoss :=
  match a.activeRunId, a.activeSource, a.frameCoverageTicks with
  | some runId, some source, some coverage =>
    let loss : AlignmentLoss :=
      { reason := reason
        runId := runId
        source := source
        firstSampleTicks := firstSampleTicks
        intervalCount := intervalCount
        presentStreams := present
        missingStreams := ⟨!present.adc, !present.gpio⟩
        frameCoverageTicks := coverage }
    if loss.check then .ok loss else .error .invalidLoss
  | _, _, _ => .error .noEpoch

structure ContinuityResult where
  block : Block
  gap : Option StreamGap
  emitGap : Bool
  announcedKey : Option (FrameKind × ℕ × ℕ × ℕ)

/-- `_continuity_result`: the gap before a block, announced, embedded or
computed; all that are given must agree. -/
def continuityResult (a : TimestampAligner) (block : Block) : Except AlignError ContinuityResult := do
  let computed ← fromExpected block (a.expectedSequence block.kind) (a.expectedTicks block.kind)
  let key := (block.kind, block.runId, block.sequence, block.firstSampleTicks)
  let announced := a.announced key
  let embedded := if block.kind = .adcData then block.gap else none
  if announced.isSome && embedded.isSome && announced != embedded then throw .gapDisagrees
  let supplied := announced.or embedded
  if supplied.isSome && supplied != computed then throw .gapDisagrees
  return { block := block
           gap := supplied.or computed
           emitGap := announced.isNone
           announcedKey := if announced.isSome then some key else none }

/-- What the aligner expects after a block. -/
def expectAfter (a : TimestampAligner) (result : ContinuityResult) : TimestampAligner :=
  { a with
    expectedSequence := Function.update a.expectedSequence result.block.kind
      ((result.block.sequence + 1) % 2 ^ 32)
    expectedTicks := Function.update a.expectedTicks result.block.kind result.block.endTickExclusive
    announcedGaps := match result.announcedKey with
      | none => a.announcedGaps
      | some key => a.announcedGaps.filter fun gap => gapKey gap ≠ key }

/-- The items of a slot, before anything changes. -/
def slotItems (a : TimestampAligner) (slot : PendingInterval) (ticks : ℕ)
    (lossReason : Option AlignmentLossReason) :
    Except AlignError (List ContinuityResult × List AlignmentItem) := do
  let continuity ← slot.blocks.mapM a.continuityResult
  let interval : AlignedInterval :=
    ⟨slot.adc, slot.gpio, continuity.filterMap ContinuityResult.gap⟩
  if !interval.check then throw .invalidInterval
  let gaps := (continuity.filter ContinuityResult.emitGap).filterMap ContinuityResult.gap
  let loss ← match lossReason with
    | none => pure []
    | some reason => do
      let loss ← a.alignmentLoss reason ticks 1 slot.presentStreams
      pure [AlignmentItem.loss loss]
  return (continuity, gaps.map AlignmentItem.gap ++ loss ++ [.interval interval])

/-- `_emit_slot`. -/
def emitSlot (a : TimestampAligner) (coverage ticks : ℕ) (lossReason : Option AlignmentLossReason) :
    Outcome :=
  match a.slotAt ticks with
  | none => { state := a, error := some .noEpoch }
  | some slot =>
    match a.slotItems slot ticks lossReason with
    | .error e => { state := a, error := some e }
    | .ok (continuity, items) =>
      let a := continuity.foldl expectAfter a
      let a := { a with pending := a.pending.filter fun entry => decide (entry.1 ≠ ticks) }
      match a.advance coverage 1 with
      | .error e => { state := a, error := some e }
      | .ok a => { state := a, outputs := items }

/-! ### The two loops -/

/-- The loss of a stretch without any block, and the output moved past it. -/
def skipEmpty (a : TimestampAligner) (coverage : ℕ) (reason : AlignmentLossReason) (count : ℕ) :
    Except AlignError (TimestampAligner × AlignmentItem) := do
  let loss ← a.alignmentLoss reason a.nextOutputTicks count StreamMask.none
  let next ← a.advance coverage count
  return (next, .loss loss)

theorem advance_ok {a a' : TimestampAligner} {coverage count : ℕ}
    (h : a.advance coverage count = .ok a') :
    a.nextOutputTicks + count * coverage ≤ UINT64_MAX ∧
      a' = { a with
        nextOutputTicks := a.nextOutputTicks + count * coverage
        announcedGaps := a.announcedGaps.filter fun gap =>
          decide (a.nextOutputTicks + count * coverage ≤ gap.observedFirstSampleTicks) } := by
  simp only [advance] at h
  split at h
  · cases h
  · rename_i hle
    exact ⟨Nat.le_of_not_lt hle, (Except.ok.inj h).symm⟩

theorem skipEmpty_ok {a a' : TimestampAligner} {coverage count : ℕ} {reason : AlignmentLossReason}
    {item : AlignmentItem} (h : a.skipEmpty coverage reason count = .ok (a', item)) :
    ∃ loss, a.alignmentLoss reason a.nextOutputTicks count StreamMask.none = .ok loss ∧
      item = .loss loss ∧ a.advance coverage count = .ok a' := by
  simp only [skipEmpty] at h
  cases hl : a.alignmentLoss reason a.nextOutputTicks count StreamMask.none with
  | error e => rw [hl] at h; cases h
  | ok loss =>
    cases ha : a.advance coverage count with
    | error e => rw [hl, ha] at h; cases h
    | ok b =>
      rw [hl, ha] at h
      cases h
      exact ⟨loss, rfl, rfl, rfl⟩

/-- What `expectAfter` leaves alone. -/
theorem foldl_expectAfter_pending (results : List ContinuityResult) (a : TimestampAligner) :
    (results.foldl expectAfter a).pending = a.pending := by
  induction results generalizing a with
  | nil => rfl
  | cons r rs ih => exact ih (a.expectAfter r)

theorem emitSlot_pending {a : TimestampAligner} {coverage ticks : ℕ}
    {reason : Option AlignmentLossReason} (h : (a.emitSlot coverage ticks reason).error = none) :
    (a.emitSlot coverage ticks reason).state.pending.length < a.pending.length := by
  unfold emitSlot at h ⊢
  cases hs : a.slotAt ticks with
  | none => rw [hs] at h; cases h
  | some slot =>
    rw [hs] at h
    cases hi : a.slotItems slot ticks reason with
    | error e => simp only [hi] at h; cases h
    | ok result =>
      simp only [hi] at h ⊢
      split at h
      · cases h
      · rename_i b hb
        rw [(advance_ok hb).2]
        simp only [foldl_expectAfter_pending]
        -- the entry of the slot is filtered out
        refine List.length_filter_lt_length_iff_exists.mpr ?_
        obtain ⟨l₁, l₂, heq, -⟩ := List.lookup_eq_some_iff.mp hs
        exact ⟨(ticks, slot), by rw [heq]; simp, by simp⟩

/-- `_drain`: intervals leave while the next one is complete or out of the
lateness window of `highest`. -/
def drain (a : TimestampAligner) (coverage highest : ℕ) : Outcome :=
  if a.pending = [] then { state := a }
  else
    let slot := a.slotAt a.nextOutputTicks
    if (slot.map PendingInterval.complete).getD false then
      let o := a.emitSlot coverage a.nextOutputTicks none
      if ho : o.error = none then (o.state.drain coverage highest).after o.outputs else o
    else if highest < a.nextOutputTicks then { state := a }
    else if hz : coverage = 0 then { state := a, error := some .zeroDivision }
    else
      let span := (highest - a.nextOutputTicks) / coverage
      if span < a.maxPendingIntervals then { state := a }
      else if slot.isSome then
        let o := a.emitSlot coverage a.nextOutputTicks (some .windowExpired)
        if ho : o.error = none then (o.state.drain coverage highest).after o.outputs else o
      else
        let eligible := span - a.maxPendingIntervals + 1
        let distance := (a.minPending - a.nextOutputTicks) / coverage
        let count := min eligible distance
        if hc : count = 0 then { state := a, error := some .noProgress }
        else
          match hn : a.skipEmpty coverage .windowExpired count with
          | .error e => { state := a, error := some e }
          | .ok (next, item) => (next.drain coverage highest).after [item]
  termination_by (a.pending.length, highest + 1 - a.nextOutputTicks)
  decreasing_by
    · exact Prod.Lex.left _ _ (emitSlot_pending ho)
    · exact Prod.Lex.left _ _ (emitSlot_pending ho)
    · obtain ⟨loss, -, -, ha⟩ := skipEmpty_ok hn
      have hpos : 0 < count * coverage :=
        Nat.mul_pos (Nat.pos_of_ne_zero hc) (Nat.pos_of_ne_zero hz)
      rw [(advance_ok ha).2]
      exact Prod.Lex.right _ (by simp only; omega)

/-- `_flush_pending`: everything pending leaves now. -/
def flushPending (a : TimestampAligner) (coverage : ℕ) (reason : AlignmentLossReason) : Outcome :=
  if a.pending = [] then { state := a }
  else if a.minPending < a.nextOutputTicks then { state := a, error := some .pendingBehind }
  else if a.nextOutputTicks < a.minPending then
    let delta := a.minPending - a.nextOutputTicks
    if coverage = 0 then { state := a, error := some .zeroDivision }
    else if delta % coverage ≠ 0 then { state := a, error := some .pendingNotAligned }
    else
      match hn : a.skipEmpty coverage reason (delta / coverage) with
      | .error e => { state := a, error := some e }
      | .ok (next, item) => (next.flushPending coverage reason).after [item]
  else
    let complete := ((a.slotAt a.minPending).map PendingInterval.complete).getD false
    let o := a.emitSlot coverage a.minPending (if complete then none else some reason)
    if ho : o.error = none then (o.state.flushPending coverage reason).after o.outputs else o
  termination_by (a.pending.length, a.minPending - a.nextOutputTicks)
  decreasing_by
    · obtain ⟨loss, -, -, ha⟩ := skipEmpty_ok hn
      have hm : delta / coverage * coverage = delta :=
        Nat.div_mul_cancel (Nat.dvd_of_mod_eq_zero (by omega))
      rw [(advance_ok ha).2]
      refine Prod.Lex.right _ ?_
      rw [hm]
      change a.minPending - (a.nextOutputTicks + (a.minPending - a.nextOutputTicks)) <
        a.minPending - a.nextOutputTicks
      omega
    · exact Prod.Lex.left _ _ (emitSlot_pending ho)

/-! ### Calls -/

/-- `_start_epoch`. -/
def startEpoch (a : TimestampAligner) (runId : ℕ) (source : Option Source) (coverage : ℕ)
    (profile : Option (ℕ × AuxBankMode × RateProfile)) : Except AlignError TimestampAligner :=
  if runId = 0 then .error .zeroRun
  else if coverage = 0 then .error .zeroCoverage
  else .ok { a with
    pending := []
    announcedGaps := []
    activeRunId := some runId
    activeSource := source
    frameCoverageTicks := some coverage
    profileSignature := profile
    nextOutputTicks := 0
    expectedSequence := fun _ => 0
    expectedTicks := fun _ => 0 }

/-- A new run after the items `closing` of the one before. -/
def beginRun (a : TimestampAligner) (closing : List AlignmentItem) (runId : ℕ)
    (source : Option Source) (coverage : ℕ)
    (profile : Option (ℕ × AuxBankMode × RateProfile)) : Outcome :=
  match a.startEpoch runId source coverage profile with
  | .error e => { state := a, outputs := closing, error := some e }
  | .ok a => { state := a, former := some closing }

/-- `_activate_epoch`. -/
def activateEpoch (a : TimestampAligner) (runId : ℕ) (source : Option Source) (coverage : ℕ)
    (profile : Option (ℕ × AuxBankMode × RateProfile)) : Outcome :=
  match a.activeRunId, a.frameCoverageTicks with
  | none, _ => a.beginRun [] runId source coverage profile
  | some _, none => { state := a, error := some .noEpoch }
  | some active, some current =>
    if runId ≠ active then
      let o := a.flushPending current .runBoundary
      if o.error.isSome then o else o.state.beginRun o.outputs runId source coverage profile
    else if coverage ≠ current then { state := a, error := some .coverageChanged }
    else if profile.isSome ∧ a.profileSignature.isSome ∧ profile ≠ a.profileSignature then
      { state := a, error := some .profileChanged }
    else
      let a := { a with profileSignature := a.profileSignature.or profile }
      if source.isSome ∧ a.activeSource.isSome ∧ source ≠ a.activeSource then
        { state := a, error := some .sourceChanged }
      else { state := { a with activeSource := a.activeSource.or source } }

/-- `_push_announced_gap` of a gap that is kept. -/
def keepGap (a : TimestampAligner) (gap : StreamGap) : Outcome :=
  if gap.observedFirstSampleTicks < a.nextOutputTicks then
    { state := a, error := some .gapEmitted }
  else if (a.announced (gapKey gap)).isSome then { state := a, error := some .gapDuplicate }
  else if 2 * a.maxPendingIntervals ≤ a.announcedGaps.length then
    { state := a, error := some .gapStorageFull }
  else { state := { a with announcedGaps := a.announcedGaps ++ [gap] }, outputs := [.gap gap] }

/-- `_push_announced_gap`. -/
def pushAnnouncedGap (a : TimestampAligner) (gap : StreamGap) : Outcome :=
  let coverage := gap.itemPeriodTicks * gap.itemsPerFrame
  if coverage = 0 then { state := a, error := some .zeroDivision }
  else if gap.expectedFirstSampleTicks % coverage ≠ 0 ∨
      gap.observedFirstSampleTicks % coverage ≠ 0 then
    { state := a, error := some .gapNotAligned }
  else (a.activateEpoch gap.runId none coverage none).andThen fun a => a.keepGap gap

/-- `_validate_block_interval`. -/
def validateBlockInterval (block : Block) : Option AlignError :=
  let coverage := block.coverageTicks
  if (block.endTickExclusive + 2 ^ 64 - block.firstSampleTicks) % 2 ^ 64 ≠ coverage then
    some .notOneInterval
  else if coverage = 0 then some .zeroDivision
  else if block.firstSampleTicks % coverage ≠ 0 then some .notAligned
  else if UINT64_MAX < block.firstSampleTicks + coverage then some .crossesWrap
  else none

/-- The slot of a block with the block in it. -/
def store (a : TimestampAligner) (block : Block) : TimestampAligner :=
  let ticks := block.firstSampleTicks
  let pending := match a.slotAt ticks with
    | none => a.pending ++ [(ticks, ({} : PendingInterval).put block)]
    | some slot => a.pending.map fun e => if e.1 = ticks then (ticks, slot.put block) else e
  { a with
    pending := pending
    highWaterIntervals := max a.highWaterIntervals pending.length }

/-- Is the place of a block taken? -/
def taken (a : TimestampAligner) (block : Block) : Bool :=
  ((a.slotAt block.firstSampleTicks).bind fun slot => slot.side block.kind).isSome

/-- The last part of a push: what the stored block completes or expires. -/
def settle (a : TimestampAligner) (coverage : ℕ) (block : Block) : Outcome :=
  if a.taken block then { state := a, error := some .slotTaken }
  else
    let a := a.store block
    let o := a.drain coverage a.maxPending
    if o.error = none ∧ (o.state.maxPendingIntervals : ℕ) < o.state.pending.length then
      { o with accepted := some block, error := some .boundExceeded }
    else { o with accepted := some block }

/-- A push in the activated run. -/
def accept (a : TimestampAligner) (block : Block) : Outcome :=
  if block.firstSampleTicks < a.nextOutputTicks then { state := a, error := some .late }
  else if a.taken block then { state := a, error := some .duplicate }
  else
    match a.frameCoverageTicks with
    | none => { state := a, error := some .noEpoch }
    | some coverage =>
      (a.drain coverage block.firstSampleTicks).andThen fun a => a.settle coverage block

/-- `push` of a block. -/
def pushBlock (a : TimestampAligner) (block : Block) : Outcome :=
  if a.closed then { state := a, error := some .closed }
  else if block.rateProfile = .adc1MhzGpio1Mhz then { state := a, error := some .equalRates }
  else
    match validateBlockInterval block with
    | some e => { state := a, error := some e }
    | none =>
      (a.activateEpoch block.runId (some block.source) block.coverageTicks
        (some block.profileSignature)).andThen fun a => a.accept block

/-- `push` of an announced gap. -/
def pushGap (a : TimestampAligner) (gap : StreamGap) : Outcome :=
  if a.closed then { state := a, error := some .closed } else a.pushAnnouncedGap gap

def flushWith (a : TimestampAligner) (reason : AlignmentLossReason) : Outcome :=
  match a.frameCoverageTicks with
  | none => { state := a, error := some .noEpoch }
  | some coverage => a.flushPending coverage reason

def flush (a : TimestampAligner) : Outcome :=
  if a.closed then { state := a } else a.flushWith .explicitFlush

def finish (a : TimestampAligner) : Outcome :=
  if a.closed then { state := a }
  else
    let o := a.flushWith .endOfInput
    if o.error.isSome then o else { o with state := { o.state with announcedGaps := [], closed := true } }

end TimestampAligner

end ThingDaq.Alignment
