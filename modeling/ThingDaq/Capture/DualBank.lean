import ThingDaq.Capture.Barrier

/-!
# The dual bank capture ring

`DualBankCaptureRing` (`firmware/src/gpio_dual_bank_capture.cpp`): the primary and
the auxiliary GPIO bank fill the halves of four blocks by DMA.  A generation is
published when both banks completed it with its destination, its timestamp and a
full count, and nothing marked it in between.

Positions are ticks.  A ring refuses to schedule a block whose ticks would not
fit 64 bits, so a position is always exact.

## Main results

* `Sound.step` — every operation keeps the join barrier and the balance.
* `dual_bank_safety` — ownership, accounting and stale callbacks in every run;
  order and clean publication in every run that keeps to the schedule.
* `dual_bank_lost_error` — an error reported while a bank's generation has no
  slot does not reach that generation.
-/

namespace ThingDaq.GpioJoin

open Table Ring Join Capture

abbrev kBankCount : ℕ := 2
abbrev kSamplesPerBlock : ℕ := 2024
abbrev kRingDepth : ℕ := 4
abbrev kGenerationSlotCount : ℕ := 8
abbrev kAllBanksMask : ℕ := 3
abbrev kOverflowDestination : ℕ := 4
abbrev kInvalidDestination : ℕ := 255

/-- `gpio_sample_period_ticks` of the rate profiles. -/
def kGpioSamplePeriodTicks : List ℕ := [2, 4, 8, 16, 8]

def validPeriod (period : ℕ) : Bool := kGpioSamplePeriodTicks.contains period

inductive OperationStatus
  | ok
  | alreadyRunning
  | notRunning
  | notQuiescent
  | invalidEpoch
  | invalidPeriod
  | timestampOverflow
  | invalidBank
  | invalidCompletion
  | noReadyBuffer
  | invalidHandle
  | invalidStopProgress
  deriving DecidableEq, Repr

inductive StopReason
  | stop
  | rollback
  | fault
  deriving DecidableEq, Repr

structure Progress where
  bankMajorLoops : ℕ → ℕ := fun _ => 0
  bankSamplesCompleted : ℕ → ℕ := fun _ => 0
  bankRingOverruns : ℕ → ℕ := fun _ => 0
  bankStaleCompletions : ℕ → ℕ := fun _ => 0
  pairedMajorLoops : ℕ := 0
  buffersCompleted : ℕ := 0
  buffersAcquired : ℕ := 0
  buffersReleased : ℕ := 0
  sampleInstantsCaptured : ℕ := 0
  sampleInstantsJoined : ℕ := 0
  sampleInstantsDelivered : ℕ := 0
  sampleInstantsLost : ℕ := 0
  rawRingOverruns : ℕ := 0
  generationSkewEvents : ℕ := 0
  generationSkewSamples : ℕ := 0
  canceledGenerations : ℕ := 0
  cancellationSamples : ℕ := 0
  stopTailSamples : ℕ := 0
  timestampMismatches : ℕ := 0
  countMismatches : ℕ := 0
  destinationMismatches : ℕ := 0
  scheduleExhaustions : ℕ := 0
  staleCompletions : ℕ := 0
  cacheDmaDiscards : ℕ := 0
  cacheCpuInvalidations : ℕ := 0
  hardwareErrors : ℕ := 0
  invariantErrors : ℕ := 0
  readyHighWater : ℕ := 0

def inc32 (v : ℕ) : ℕ := satAdd u32Max v 1

def inc64 (v : ℕ) : ℕ := satAdd u64Max v 1

/-- Add to the counter of one bank. -/
def bump (max : ℕ) (counters : ℕ → ℕ) (bank amount : ℕ) : ℕ → ℕ :=
  Function.update counters bank (satAdd max (counters bank) amount)

namespace Progress

/-- A stale completion, also counted for its bank when there is such a bank. -/
def stale (p : Progress) (bank : ℕ) : Progress :=
  { p with
    staleCompletions := inc32 p.staleCompletions
    bankStaleCompletions := if bank < kBankCount then bump u32Max p.bankStaleCompletions bank 1
      else p.bankStaleCompletions }

def exhausted (p : Progress) : Progress :=
  { p with scheduleExhaustions := inc32 p.scheduleExhaustions }

def invariantError (p : Progress) : Progress :=
  { p with invariantErrors := inc32 p.invariantErrors }

/-- A block went to the overflow sink. -/
def overrun (p : Progress) : Progress :=
  { p with
    rawRingOverruns := inc64 p.rawRingOverruns
    bankRingOverruns := bump u32Max (bump u32Max p.bankRingOverruns 0 1) 1 1 }

end Progress

/-- What the banks reported for a generation, by bank. -/
structure Report where
  observedFirstTicks : ℕ → ℕ := fun _ => 0
  observedCounts : ℕ → ℕ := fun _ => 0

instance : Inhabited Report := ⟨{}⟩

structure DualBankCaptureRing extends Barrier Report where
  progress : Progress := {}
  samplePeriodTicks : ℕ := 0
  samplesPerBlock : ℕ := kSamplesPerBlock

def DualBankCaptureRing.initial : DualBankCaptureRing := { slots := fun _ => GenerationSlot.empty }

structure PrimeResult where
  status : OperationStatus := .notQuiescent
  epoch : UInt32 := 0
  activeGeneration : UInt32 := 0
  queuedGeneration : UInt32 := 1
  activeDestination : ℕ := kInvalidDestination
  queuedDestination : ℕ := kInvalidDestination
  deriving DecidableEq, Repr

structure ReservationResult where
  status : OperationStatus := .notRunning
  generation : UInt32 := 0
  destination : ℕ := kInvalidDestination
  firstSampleTicks : ℕ := 0
  deriving DecidableEq, Repr

structure CompletionResult where
  status : OperationStatus := .invalidCompletion
  bank : ℕ := 0
  generation : UInt32 := 0
  futureGeneration : UInt32 := 0
  completedDestination : ℕ := kInvalidDestination
  futureDestination : ℕ := kInvalidDestination
  completionMask : ℕ := 0
  consumed : Bool := false
  pairReady : Bool := false
  pairLost : Bool := false
  deriving DecidableEq, Repr

/-- A lease on a block.  The two pointers are the block whose halves they
address, `none` the null pointer. -/
structure BufferHandle where
  primaryWords : Option ℕ := none
  auxiliaryWords : Option ℕ := none
  firstSampleTicks : ℕ := 0
  samplePeriodTicks : ℕ := 0
  sampleCount : ℕ := 0
  epoch : UInt32 := 0
  generation : UInt32 := 0
  lease : UInt32 := 0
  bufferIndex : ℕ := kInvalidDestination
  deriving DecidableEq, Repr

def BufferHandle.valid (h : BufferHandle) : Bool :=
  h.primaryWords.isSome && h.auxiliaryWords.isSome && decide (h.bufferIndex < kRingDepth) &&
    decide (0 < h.sampleCount) && decide (h.sampleCount ≤ kSamplesPerBlock) &&
    h.samplePeriodTicks != 0 && h.epoch != 0 && h.lease != 0

structure BankStopState where
  generation : UInt32 := 0
  destination : ℕ := kInvalidDestination
  firstSampleTicks : ℕ := 0
  sampleCount : ℕ := 0
  deriving DecidableEq, Repr

structure StopReport where
  status : OperationStatus := .notRunning
  reason : StopReason := .stop
  samplesDiscarded : ℕ := 0
  generationsCanceled : ℕ := 0
  buffersDiscarded : ℕ := 0
  readyBuffersToDrain : ℕ := 0
  readingBuffersToRelease : ℕ := 0
  deriving DecidableEq, Repr

def isBufferDestination (destination : ℕ) : Bool := decide (destination < kRingDepth)

def isDmaDestination (destination : ℕ) : Bool :=
  isBufferDestination destination || destination == kOverflowDestination

def absoluteDifference (left right : ℕ) : ℕ := if right ≤ left then left - right else right - left

namespace DualBankCaptureRing

/-- The ticks of one block. -/
def coverage (r : DualBankCaptureRing) : ℕ := r.samplesPerBlock * r.samplePeriodTicks

def findGeneration (r : DualBankCaptureRing) (generation : UInt32) : Option ℕ :=
  r.toBarrier.findGeneration kGenerationSlotCount generation

def noteInvariantError (r : DualBankCaptureRing) : DualBankCaptureRing :=
  { r with progress := r.progress.invariantError }

/-- Scheduling leaves the reports of the slot as they are; a slot is emptied when
it is done with. -/
def scheduleGeneration (r : DualBankCaptureRing) (generation : UInt32) :
    DualBankCaptureRing × Option ℕ :=
  let out := r.toBarrier.scheduleGeneration kRingDepth kGenerationSlotCount
    (fun first => if u64Max - first < r.coverage then none else some (first + r.coverage)) id
    generation
  ({ r with
      toBarrier := out.1
      progress := if out.2.2 then r.progress.invariantError else r.progress }, out.2.1)

def markOutstandingInvalid (r : DualBankCaptureRing) : DualBankCaptureRing :=
  { r with toBarrier := r.toBarrier.markOutstandingInvalid }

/-- The members that `prime` resets before it schedules. -/
def rewound (r : DualBankCaptureRing) (epoch : UInt32) (samplePeriodTicks : ℕ)
    (initialGeneration : UInt32) (firstSampleTicks samplesPerBlock : ℕ) : DualBankCaptureRing :=
  { r with
    toCore := r.toCore.primed epoch initialGeneration firstSampleTicks
    nextFreeSearch := 0
    progress := {}
    samplePeriodTicks := samplePeriodTicks
    samplesPerBlock := samplesPerBlock }

/-- `prime` gives up: no generation and no block stays in use. -/
def rolledBack (r : DualBankCaptureRing) : DualBankCaptureRing :=
  { r.noteInvariantError with
    running := false
    epoch := 0
    samplePeriodTicks := 0
    slots := fun _ => GenerationSlot.empty
    records := fun _ => {} }

def prime (r : DualBankCaptureRing) (epoch samplePeriodTicks initialGeneration : UInt32)
    (firstSampleTicks : UInt64) (samplesPerBlock : UInt32) : DualBankCaptureRing × PrimeResult :=
  let result : PrimeResult :=
    { epoch := epoch
      activeGeneration := initialGeneration
      queuedGeneration := initialGeneration + 1 }
  let coverage := samplesPerBlock.toNat * samplePeriodTicks.toNat
  if epoch = 0 then (r, { result with status := .invalidEpoch })
  else if samplesPerBlock.toNat = 0 ∨ kSamplesPerBlock < samplesPerBlock.toNat ∨
      !validPeriod samplePeriodTicks.toNat ∨
      firstSampleTicks.toNat % samplePeriodTicks.toNat ≠ 0 then
    (r, { result with status := .invalidPeriod })
  else if u64Max - firstSampleTicks.toNat < coverage ∨
      u64Max - (firstSampleTicks.toNat + coverage) < coverage then
    (r, { result with status := .timestampOverflow })
  else if r.running then (r, { result with status := .alreadyRunning })
  else if !r.allBuffersFree kRingDepth then (r, { result with status := .notQuiescent })
  else
    let active := (r.rewound epoch samplePeriodTicks.toNat initialGeneration firstSampleTicks.toNat
      samplesPerBlock.toNat).scheduleGeneration initialGeneration
    let queued := active.1.scheduleGeneration (initialGeneration + 1)
    match active.2, queued.2 with
    | some a, some q =>
      let activeDestination := (queued.1.slots a).destination
      let queuedDestination := (queued.1.slots q).destination
      if isBufferDestination activeDestination && isBufferDestination queuedDestination &&
          activeDestination != queuedDestination then
        -- One discard for each half of each block and of the overflow sink.
        ({ queued.1 with progress := { queued.1.progress with
            cacheDmaDiscards := satAdd u32Max queued.1.progress.cacheDmaDiscards
              (kBankCount * kRingDepth + kBankCount) } },
          { result with
            status := .ok
            activeDestination := activeDestination
            queuedDestination := queuedDestination })
      else (queued.1.rolledBack, { result with status := .notQuiescent })
    | _, _ => (queued.1.rolledBack, { result with status := .notQuiescent })

def reserveGeneration (r : DualBankCaptureRing) (epoch generation : UInt32) :
    DualBankCaptureRing × ReservationResult :=
  let result : ReservationResult := { generation := generation }
  if !r.running then (r, result)
  else if epoch = 0 ∨ epoch ≠ r.epoch then (r, { result with status := .invalidEpoch })
  else
    let out := r.scheduleGeneration generation
    match out.2 with
    | none => (out.1, { result with status := .invalidCompletion })
    | some j => (out.1, { result with
        status := .ok
        destination := (out.1.slots j).destination
        firstSampleTicks := (out.1.slots j).first })

/-- The sample instants that a pair of reports stands for. -/
def logicalSamples (x : Report) : ℕ :=
  if x.observedCounts 1 < x.observedCounts 0 then x.observedCounts 0 else x.observedCounts 1

/-- What `finalizeGeneration` counts for every pair. -/
def countPair (p : Progress) (x : Report) : Progress :=
  let skew := absoluteDifference (x.observedCounts 0) (x.observedCounts 1)
  let p := if skew ≠ 0 then
      { p with
        generationSkewEvents := inc64 p.generationSkewEvents
        generationSkewSamples := satAdd u64Max p.generationSkewSamples skew }
    else p
  let p := if x.observedFirstTicks 0 ≠ x.observedFirstTicks 1 then
      { p with timestampMismatches := inc32 p.timestampMismatches } else p
  { p with
    pairedMajorLoops := inc64 p.pairedMajorLoops
    sampleInstantsCaptured := satAdd u64Max p.sampleInstantsCaptured (logicalSamples x) }

/-- The data of a slot is marked, disagrees between the banks or is incomplete. -/
def spoiled (r : DualBankCaptureRing) (slot : GenerationSlot Report) : Bool :=
  let counts := slot.extra.observedCounts
  let ticks := slot.extra.observedFirstTicks
  slot.invalidData || counts 0 != counts 1 || ticks 0 != ticks 1 ||
    !(logicalSamples slot.extra == r.samplesPerBlock && counts 0 == r.samplesPerBlock &&
      counts 1 == r.samplesPerBlock)

/-- `finalizeGeneration`, with whether the pair is ready and whether it is lost. -/
def finalizeGeneration (r : DualBankCaptureRing) (j : ℕ) : DualBankCaptureRing × Bool × Bool :=
  let slot := r.slots j
  let p := countPair r.progress slot.extra
  let lost := satAdd u64Max p.sampleInstantsLost (logicalSamples slot.extra)
  let cleared := Function.update r.slots j GenerationSlot.empty
  if slot.destination = kOverflowDestination then
    ({ r with
        slots := cleared
        progress := { p.overrun with sampleInstantsLost := lost } }, false, true)
  else if !isBufferDestination slot.destination then
    ({ r with
        slots := cleared
        progress := { p.invariantError with sampleInstantsLost := lost } }, false, true)
  else
    let record := r.records slot.destination
    let ownershipMatches := decide (record.state = .dmaOwned ∧ record.epoch = r.epoch ∧
      record.generation = slot.generation ∧ record.first = slot.first)
    let p := if ownershipMatches then p else p.invariantError
    if r.spoiled slot || !ownershipMatches then
      ({ r with
          records := if ownershipMatches then
              Function.update r.records slot.destination { record with state := .discardPending }
            else r.records
          slots := cleared
          progress := { p with sampleInstantsLost := lost } }, false, true)
    else
      let published := r.toBarrier.setState slot.destination .ready
      ({ r with
          records := published.records
          slots := cleared
          progress := { p with
            buffersCompleted := inc64 p.buffersCompleted
            sampleInstantsJoined := satAdd u64Max p.sampleInstantsJoined r.samplesPerBlock
            readyHighWater := max p.readyHighWater (published.countState kRingDepth .ready) } },
        true, false)

/-- A destination that contradicts the slot's spoils everything in flight. -/
def checkDestination (r : DualBankCaptureRing) (j destination : ℕ) : DualBankCaptureRing × Bool :=
  if !isDmaDestination destination ∨ destination ≠ (r.slots j).destination then
    ({ r with
        toBarrier := (r.toBarrier.markSlot j (r.slots j).extra).markOutstandingInvalid
        progress := { r.progress with
          destinationMismatches := inc32 r.progress.destinationMismatches } }, false)
  else (r, true)

/-- A short or long block spoils its generation. -/
def checkCount (r : DualBankCaptureRing) (j sampleCount : ℕ) : DualBankCaptureRing × Bool :=
  if sampleCount ≠ r.samplesPerBlock then
    ({ r with
        toBarrier := r.toBarrier.markSlot j (r.slots j).extra
        progress := { r.progress with countMismatches := inc32 r.progress.countMismatches } }, false)
  else (r, true)

/-- So does a block that begins at another tick. -/
def checkTimestamp (r : DualBankCaptureRing) (j firstSampleTicks : ℕ) : DualBankCaptureRing × Bool :=
  if firstSampleTicks ≠ (r.slots j).first then
    ({ r with
        toBarrier := r.toBarrier.markSlot j (r.slots j).extra
        progress := { r.progress with
          timestampMismatches := inc32 r.progress.timestampMismatches } }, false)
  else (r, true)

/-- What a bank observed is kept in the slot. -/
def observed (r : DualBankCaptureRing) (bank j firstSampleTicks bounded : ℕ) : DualBankCaptureRing :=
  { r with
    slots := Function.update r.slots j { r.slots j with
      extra := ⟨Function.update (r.slots j).extra.observedFirstTicks bank firstSampleTicks,
        Function.update (r.slots j).extra.observedCounts bank bounded⟩ } }

/-- The report of a bank, once its slot is known. -/
def reported (r : DualBankCaptureRing) (bank j bounded : ℕ) : DualBankCaptureRing :=
  { r with
    toCore := r.toCore.report bank j
    progress := { r.progress with
      bankMajorLoops := bump u64Max r.progress.bankMajorLoops bank 1
      bankSamplesCompleted := bump u64Max r.progress.bankSamplesCompleted bank bounded } }

/-- Banks more than one loop apart spoil everything in flight. -/
def checkSkew (r : DualBankCaptureRing) : DualBankCaptureRing × Bool :=
  if 1 < absoluteDifference (r.progress.bankMajorLoops 0) (r.progress.bankMajorLoops 1) then
    ({ r with progress := { r.progress with
        generationSkewEvents := inc64 r.progress.generationSkewEvents } }.markOutstandingInvalid, false)
  else (r, true)

/-- Schedule the generation after next; without a slot everything in flight is
spoiled and the bank continues into the overflow sink. -/
def scheduleFuture (r : DualBankCaptureRing) (generation : UInt32) :
    DualBankCaptureRing × ℕ × Bool :=
  let out := r.scheduleGeneration generation
  match out.2 with
  | none =>
    ({ out.1 with progress := out.1.progress.exhausted }.markOutstandingInvalid,
      kOverflowDestination, false)
  | some k => (out.1, (out.1.slots k).destination, true)

def onMajorLoopComplete (r : DualBankCaptureRing) (bank : ℕ) (epoch generation : UInt32)
    (destination firstSampleTicks sampleCount : ℕ) : DualBankCaptureRing × CompletionResult :=
  let result : CompletionResult :=
    { bank := bank
      generation := generation
      futureGeneration := generation + 2
      completedDestination := destination }
  if !r.running then
    ({ r with progress := r.progress.stale bank }, { result with status := .notRunning })
  else if epoch = 0 ∨ epoch ≠ r.epoch then
    ({ r with progress := r.progress.stale bank }, { result with status := .invalidEpoch })
  else if ¬bank < kBankCount then
    (r.noteInvariantError, { result with status := .invalidBank })
  else if generation ≠ r.nextCompletion bank then
    ({ r with progress := r.progress.stale bank }, result)
  else match r.findGeneration generation with
  | none =>
    ({ r with
        toCore := r.toCore.skip bank
        progress := r.progress.exhausted.invariantError },
      { result with consumed := true, pairLost := true })
  | some j =>
    if (r.slots j).completionMask.testBit bank then
      ({ r with progress := r.progress.stale bank }, result)
    else
      let placed := r.checkDestination j destination
      let counted := placed.1.checkCount j sampleCount
      let timed := counted.1.checkTimestamp j firstSampleTicks
      let bounded := min sampleCount r.samplesPerBlock
      let skewed := ((timed.1.observed bank j firstSampleTicks bounded).reported bank j
        bounded).checkSkew
      let future := skewed.1.scheduleFuture (generation + 2)
      let mask := (future.1.slots j).completionMask
      let result := { result with
        completionMask := mask
        consumed := true
        futureDestination := future.2.1
        status := if placed.2 && counted.2 && timed.2 && skewed.2 && future.2.2 then .ok
          else .invalidCompletion }
      if mask = kAllBanksMask then
        let done := future.1.finalizeGeneration j
        (done.1, { result with pairReady := done.2.1, pairLost := done.2.2 })
      else (future.1, result)

/-- `acquireReady` after its `serviceDiscarded`. -/
def acquireReady (r : DualBankCaptureRing) : DualBankCaptureRing × Option BufferHandle :=
  match r.toBarrier.lease kRingDepth with
  | none => (r, none)
  | some (selected, b) =>
    ({ r with
        toBarrier := b
        progress := { r.progress with
          buffersAcquired := inc64 r.progress.buffersAcquired
          sampleInstantsDelivered :=
            satAdd u64Max r.progress.sampleInstantsDelivered r.samplesPerBlock
          cacheCpuInvalidations := satAdd u32Max r.progress.cacheCpuInvalidations 2 } },
      some ⟨some selected, some selected, (b.records selected).first, r.samplePeriodTicks,
        r.samplesPerBlock, (b.records selected).epoch, (b.records selected).generation,
        (b.records selected).lease, selected⟩)

def handleMatches (r : DualBankCaptureRing) (h : BufferHandle) (state : BufferState) : Bool :=
  h.valid && h.sampleCount == r.samplesPerBlock &&
    decide ((r.records h.bufferIndex).state = state) &&
    decide ((r.records h.bufferIndex).epoch = h.epoch) &&
    decide ((r.records h.bufferIndex).generation = h.generation) &&
    decide ((r.records h.bufferIndex).first = h.firstSampleTicks) &&
    decide ((r.records h.bufferIndex).lease = h.lease) &&
    decide (h.samplePeriodTicks = r.samplePeriodTicks) &&
    decide (h.primaryWords = some h.bufferIndex) && decide (h.auxiliaryWords = some h.bufferIndex)

/-- The first critical section of `release`. -/
def beginRelease (r : DualBankCaptureRing) (h : BufferHandle) : DualBankCaptureRing × Bool :=
  if r.handleMatches h .reading then
    ({ r with toBarrier := r.toBarrier.setState h.bufferIndex .releasing }, true)
  else (r, false)

/-- The cache discards and the second critical section of `release`. -/
def endRelease (r : DualBankCaptureRing) (h : BufferHandle) : DualBankCaptureRing × OperationStatus :=
  let r := { r with progress := { r.progress with
    cacheDmaDiscards := satAdd u32Max r.progress.cacheDmaDiscards 2 } }
  if !r.handleMatches h .releasing then (r.noteInvariantError, .invalidHandle)
  else
    ({ r with
        toBarrier := r.toBarrier.clear h.bufferIndex
        progress := { r.progress with
          buffersReleased := inc64 r.progress.buffersReleased } }, .ok)

/-- The first critical section of one round of `serviceDiscarded`. -/
def beginDiscard (r : DualBankCaptureRing) : DualBankCaptureRing × Option ℕ :=
  match r.toBarrier.selectDiscarded kRingDepth with
  | none => (r, none)
  | some i => ({ r with toBarrier := r.toBarrier.setState i .releasing }, some i)

/-- The cache discards and the second critical section of that round. -/
def endDiscard (r : DualBankCaptureRing) (i : ℕ) : DualBankCaptureRing × Bool :=
  let r := { r with progress := { r.progress with
    cacheDmaDiscards := satAdd u32Max r.progress.cacheDmaDiscards 2 } }
  if (r.records i).state ≠ .releasing then (r.noteInvariantError, false)
  else ({ r with toBarrier := r.toBarrier.clear i }, true)

/-- What a bank contributed to a slot when the ring stops, and from which tick. -/
def contributed (r : DualBankCaptureRing) (slot : GenerationSlot Report) (bank : BankStopState)
    (index : ℕ) : ℕ × ℕ :=
  if slot.completionMask.testBit index then
    (slot.extra.observedCounts index, slot.extra.observedFirstTicks index)
  else if bank.generation = slot.generation then
    (min bank.sampleCount r.samplesPerBlock, bank.firstSampleTicks)
  else (0, 0)

/-- The stopped bank wrote where the slot does not say. -/
def misplaced (slot : GenerationSlot Report) (bank : BankStopState) (index : ℕ) : Bool :=
  !slot.completionMask.testBit index && bank.generation == slot.generation &&
    bank.sampleCount != 0 && bank.destination != slot.destination

/-- A contribution from another tick than the slot's. -/
def mistimed (slot : GenerationSlot Report) (c : ℕ × ℕ) : Bool := c.1 != 0 && c.2 != slot.first

/-- The mismatches that `stop` finds in a slot. -/
def countMismatched (p : Progress) (slot : GenerationSlot Report) (banks : ℕ → BankStopState)
    (c0 c1 : ℕ × ℕ) : Progress :=
  let skew := absoluteDifference c0.1 c1.1
  let p := if misplaced slot (banks 0) 0 then
      { p with destinationMismatches := inc32 p.destinationMismatches } else p
  let p := if misplaced slot (banks 1) 1 then
      { p with destinationMismatches := inc32 p.destinationMismatches } else p
  let p := if skew ≠ 0 then
      { p with
        generationSkewEvents := inc64 p.generationSkewEvents
        generationSkewSamples := satAdd u64Max p.generationSkewSamples skew
        countMismatches := inc32 p.countMismatches }
    else p
  let p := if c0.1 ≠ 0 ∧ c1.1 ≠ 0 ∧ c0.2 ≠ c1.2 then
      { p with timestampMismatches := inc32 p.timestampMismatches } else p
  if mistimed slot c0 || mistimed slot c1 then
    { p with timestampMismatches := inc32 p.timestampMismatches } else p

/-- What `stop` counts for samples that a dropped slot had taken. -/
def countDropped (p : Progress) (reason : StopReason) (attempted destination : ℕ) : Progress :=
  if attempted ≠ 0 then
    let p := { p with
      sampleInstantsCaptured := satAdd u64Max p.sampleInstantsCaptured attempted
      sampleInstantsLost := satAdd u64Max p.sampleInstantsLost attempted }
    let p := if reason = .stop then
        { p with stopTailSamples := satAdd u64Max p.stopTailSamples attempted }
      else { p with cancellationSamples := satAdd u64Max p.cancellationSamples attempted }
    if destination = kOverflowDestination then p.overrun else p
  else p

/-- The counters after a slot was dropped by `stop`, with the samples lost. -/
def stopProgress (r : DualBankCaptureRing) (slot : GenerationSlot Report)
    (banks : ℕ → BankStopState) (reason : StopReason) : Progress × ℕ :=
  let c0 := r.contributed slot (banks 0) 0
  let c1 := r.contributed slot (banks 1) 1
  let attempted := if c1.1 < c0.1 then c0.1 else c1.1
  let p := countMismatched r.progress slot banks c0 c1
  let p := { p with canceledGenerations := inc64 p.canceledGenerations }
  (countDropped p reason attempted slot.destination, attempted)

/-- `stop` drops slot `j`; the flag says that the progress it was told is
consistent. -/
def stopSlot (banks : ℕ → BankStopState) (reason : StopReason)
    (s : DualBankCaptureRing × StopReport × Bool) (j : ℕ) :
    DualBankCaptureRing × StopReport × Bool :=
  let (r, report, validProgress) := s
  let slot := r.slots j
  if !slot.valid then s
  else
    let (p, attempted) := r.stopProgress slot banks reason
    let report := { report with
      samplesDiscarded := satAdd u64Max report.samplesDiscarded attempted
      generationsCanceled := report.generationsCanceled + 1 }
    let validProgress := validProgress && !misplaced slot (banks 0) 0 &&
      !misplaced slot (banks 1) 1 && !mistimed slot (r.contributed slot (banks 0) 0) &&
      !mistimed slot (r.contributed slot (banks 1) 1)
    let cleared := Function.update r.slots j GenerationSlot.empty
    if isBufferDestination slot.destination then
      let record := r.records slot.destination
      if record.state ≠ .dmaOwned ∨ record.epoch ≠ r.epoch ∨ record.generation ≠ slot.generation then
        ({ r with slots := cleared, progress := p.invariantError }, report, validProgress)
      else
        ({ r with
            records := Function.update r.records slot.destination
              { record with state := .discardPending }
            slots := cleared
            progress := p },
          { report with buffersDiscarded := report.buffersDiscarded + 1 }, validProgress)
    else ({ r with slots := cleared, progress := p }, report, validProgress)

/-- The progress that `stop` is told agrees with the ring. -/
def stopAgrees (r : DualBankCaptureRing) (banks : ℕ → BankStopState) : Bool :=
  (List.range kBankCount).all fun bank =>
    decide ((banks bank).generation = r.nextCompletion bank) &&
      decide ((banks bank).sampleCount ≤ r.samplesPerBlock) &&
      ((banks bank).sampleCount == 0 || isDmaDestination (banks bank).destination)

/-- A count beyond the block is a mismatch of its own. -/
def countOversized (r : DualBankCaptureRing) (bank : BankStopState) : DualBankCaptureRing :=
  if r.samplesPerBlock < bank.sampleCount then
    { r with progress := { r.progress with countMismatches := inc32 r.progress.countMismatches } }
  else r

/-- `stop` up to its `serviceDiscarded`. -/
def stop (r : DualBankCaptureRing) (banks : ℕ → BankStopState) (reason : StopReason) :
    DualBankCaptureRing × StopReport :=
  if !r.running then (r, { reason := reason })
  else
    let stopped := ({ r with running := false }.countOversized (banks 0)).countOversized (banks 1)
    let out := (List.range kGenerationSlotCount).foldl (stopSlot banks reason)
      (stopped, { reason := reason }, r.stopAgrees banks)
    (out.1, { out.2.1 with
      readyBuffersToDrain := out.1.countState kRingDepth .ready
      readingBuffersToRelease := out.1.countState kRingDepth .reading
      status := if out.2.2 then .ok else .invalidStopProgress })

def cancel (r : DualBankCaptureRing) (epoch : UInt32) (reason : StopReason) :
    DualBankCaptureRing × StopReport :=
  if epoch = 0 ∨ epoch ≠ r.epoch then (r, { reason := reason, status := .invalidEpoch })
  else r.stop (fun bank => { generation := r.nextCompletion bank }) reason

def recordHardwareError (r : DualBankCaptureRing) (epoch : UInt32) : DualBankCaptureRing :=
  if r.running ∧ epoch ≠ 0 ∧ epoch = r.epoch then
    { r with progress := { r.progress with
        hardwareErrors := inc32 r.progress.hardwareErrors } }.markOutstandingInvalid
  else r

end DualBankCaptureRing

/-! ### What an operation does to the barrier -/

namespace DualBankCaptureRing

/-- Until it reaches its maximum, the captured count is the lost samples and the
completed blocks. -/
def Books (r : DualBankCaptureRing) : Prop :=
  Balanced u64Max r.samplesPerBlock r.progress.sampleInstantsCaptured r.progress.sampleInstantsLost
    r.progress.buffersCompleted

/-- A report agrees with a generation when it names its destination, its first
tick and a full block. -/
def expects (samplesPerBlock destination first : ℕ) : ℕ × ℕ × ℕ :=
  (destination, first, samplesPerBlock)

/-- The size of a block and the balance survive. -/
structure Keeps (r r' : DualBankCaptureRing) : Prop where
  samples : r'.samplesPerBlock = r.samplesPerBlock
  period : r'.samplePeriodTicks = r.samplePeriodTicks
  books : r.Books → r'.Books

theorem Keeps.trans {r r' r'' : DualBankCaptureRing} (h : Keeps r r') (h' : Keeps r' r'') :
    Keeps r r'' :=
  ⟨h'.samples.trans h.samples, h'.period.trans h.period, fun hb => h'.books (h.books hb)⟩

theorem Keeps.coverage {r r' : DualBankCaptureRing} (h : Keeps r r') : r'.coverage = r.coverage := by
  unfold DualBankCaptureRing.coverage
  rw [h.samples, h.period]

theorem checkDestination_marks (r : DualBankCaptureRing) (j destination : ℕ) :
    Barrier.Marks r.toBarrier (r.checkDestination j destination).1.toBarrier ∧
      (((r.checkDestination j destination).1.slots j).invalidData = true ∨
        destination = (r.slots j).destination) ∧ Keeps r (r.checkDestination j destination).1 := by
  unfold checkDestination
  by_cases hbad : !isDmaDestination destination ∨ destination ≠ (r.slots j).destination
  · rw [if_pos hbad]
    have hmarks := (r.toBarrier.markSlot j (r.slots j).extra).markOutstandingInvalid_marks
    exact ⟨(r.toBarrier.markSlot_marks j _).trans hmarks,
      Or.inl ((hmarks.slot j).2.2.2.2.2 (r.toBarrier.markSlot_invalid j _)), rfl, rfl, id⟩
  · rw [if_neg hbad]
    exact ⟨Barrier.Marks.of_core rfl, Or.inr (not_ne_iff.mp fun hne => hbad (Or.inr hne)), rfl, rfl, id⟩

theorem checkCount_marks (r : DualBankCaptureRing) (j sampleCount : ℕ) :
    Barrier.Marks r.toBarrier (r.checkCount j sampleCount).1.toBarrier ∧
      (((r.checkCount j sampleCount).1.slots j).invalidData = true ∨
        sampleCount = r.samplesPerBlock) ∧ Keeps r (r.checkCount j sampleCount).1 := by
  unfold checkCount
  by_cases hbad : sampleCount ≠ r.samplesPerBlock
  · rw [if_pos hbad]
    exact ⟨r.toBarrier.markSlot_marks j _, Or.inl (r.toBarrier.markSlot_invalid j _), rfl, rfl, id⟩
  · rw [if_neg hbad]
    exact ⟨Barrier.Marks.of_core rfl, Or.inr (not_ne_iff.mp hbad), rfl, rfl, id⟩

theorem checkTimestamp_marks (r : DualBankCaptureRing) (j firstSampleTicks : ℕ) :
    Barrier.Marks r.toBarrier (r.checkTimestamp j firstSampleTicks).1.toBarrier ∧
      (((r.checkTimestamp j firstSampleTicks).1.slots j).invalidData = true ∨
        firstSampleTicks = (r.slots j).first) ∧ Keeps r (r.checkTimestamp j firstSampleTicks).1 := by
  unfold checkTimestamp
  by_cases hbad : firstSampleTicks ≠ (r.slots j).first
  · rw [if_pos hbad]
    exact ⟨r.toBarrier.markSlot_marks j _, Or.inl (r.toBarrier.markSlot_invalid j _), rfl, rfl, id⟩
  · rw [if_neg hbad]
    exact ⟨Barrier.Marks.of_core rfl, Or.inr (not_ne_iff.mp hbad), rfl, rfl, id⟩

theorem observed_marks (r : DualBankCaptureRing) (bank j firstSampleTicks bounded : ℕ) :
    Barrier.Marks r.toBarrier (r.observed bank j firstSampleTicks bounded).toBarrier := by
  refine ⟨fun _ => false, fun k => ((r.observed bank j firstSampleTicks bounded).slots k).extra, ?_⟩
  have hslots : (r.observed bank j firstSampleTicks bounded).slots =
      r.toCore.marked (fun _ => false)
        fun k => ((r.observed bank j firstSampleTicks bounded).slots k).extra := by
    funext k
    by_cases hk : k = j
    · subst hk
      simp [observed, Core.marked]
    · simp [observed, Core.marked, hk]
  rw [← hslots]
  rfl

/-- The three checks and the note of what a bank observed.  A report that the
slot does not expect leaves a mark. -/
theorem checks_marks (r : DualBankCaptureRing) (bank j destination firstSampleTicks sampleCount : ℕ)
    (bounded : ℕ) :
    let after := (((r.checkDestination j destination).1.checkCount j sampleCount).1.checkTimestamp j
      firstSampleTicks).1.observed bank j firstSampleTicks bounded
    Barrier.Marks r.toBarrier after.toBarrier ∧
      ((after.slots j).invalidData = true ∨ (destination, firstSampleTicks, sampleCount) =
        expects r.samplesPerBlock (r.slots j).destination (r.slots j).first) ∧ Keeps r after := by
  intro after
  obtain ⟨hm1, ha1, hk1⟩ := r.checkDestination_marks j destination
  obtain ⟨hm2, ha2, hk2⟩ := (r.checkDestination j destination).1.checkCount_marks j sampleCount
  obtain ⟨hm3, ha3, hk3⟩ := ((r.checkDestination j destination).1.checkCount j
    sampleCount).1.checkTimestamp_marks j firstSampleTicks
  have hm4 := (((r.checkDestination j destination).1.checkCount j sampleCount).1.checkTimestamp j
    firstSampleTicks).1.observed_marks bank j firstSampleTicks bounded
  have hk := (hk1.trans hk2).trans hk3
  refine ⟨((hm1.trans hm2).trans hm3).trans hm4, ?_, hk.samples, hk.period, hk.books⟩
  -- A mark made by one check survives the later ones.
  rcases ha1 with hbad | hdest
  · exact Or.inl ((hm4.slot j).2.2.2.2.2 ((hm3.slot j).2.2.2.2.2 ((hm2.slot j).2.2.2.2.2 hbad)))
  rcases ha2 with hbad | hcount
  · exact Or.inl ((hm4.slot j).2.2.2.2.2 ((hm3.slot j).2.2.2.2.2 hbad))
  rcases ha3 with hbad | htime
  · exact Or.inl ((hm4.slot j).2.2.2.2.2 hbad)
  refine Or.inr ?_
  rw [(hm2.slot j).2.2.2.2.1, (hm1.slot j).2.2.2.2.1] at htime
  rw [hdest, htime, hcount, hk1.samples]
  rfl

theorem checkSkew_marks (r : DualBankCaptureRing) :
    Barrier.Marks r.toBarrier r.checkSkew.1.toBarrier ∧ Keeps r r.checkSkew.1 := by
  unfold checkSkew
  split
  · exact ⟨r.toBarrier.markOutstandingInvalid_marks, rfl, rfl, id⟩
  · exact ⟨Barrier.Marks.of_core rfl, rfl, rfl, id⟩

theorem scheduleGeneration_keeps (r : DualBankCaptureRing) (generation : UInt32) :
    Keeps r (r.scheduleGeneration generation).1 := by
  refine ⟨rfl, rfl, fun hb => ?_⟩
  simp only [Books, scheduleGeneration] at hb ⊢
  split
  · exact hb
  · exact hb

theorem scheduleFuture_marks (r : DualBankCaptureRing) (generation : UInt32) :
    Barrier.Marks (r.scheduleGeneration generation).1.toBarrier
      (r.scheduleFuture generation).1.toBarrier ∧ Keeps r (r.scheduleFuture generation).1 := by
  have hkeeps := r.scheduleGeneration_keeps generation
  unfold scheduleFuture
  cases hsome : (r.scheduleGeneration generation).2 with
  | none =>
    simp only [hsome]
    exact ⟨Barrier.markOutstandingInvalid_marks _, hkeeps.samples, hkeeps.period, hkeeps.books⟩
  | some k =>
    simp only [hsome]
    exact ⟨Barrier.Marks.of_core rfl, hkeeps⟩

/-- The tick after a block that is scheduled. -/
theorem advance_eq {r : DualBankCaptureRing} {first nf : ℕ}
    (h : (if u64Max - first < r.coverage then none else some (first + r.coverage)) = some nf) :
    nf = satAdd u64Max first r.coverage := by
  unfold satAdd
  split at h
  · cases h
  · cases h
    simp only [u64Max] at *
    split <;> omega

theorem countPair_books (p : Progress) (x : Report) :
    (countPair p x).sampleInstantsCaptured = satAdd u64Max p.sampleInstantsCaptured (logicalSamples x) ∧
      (countPair p x).sampleInstantsLost = p.sampleInstantsLost ∧
      (countPair p x).buffersCompleted = p.buffersCompleted := by
  unfold countPair
  dsimp only
  split_ifs <;> exact ⟨rfl, rfl, rfl⟩

/-- A finished generation is accounted for. -/
theorem finalizeGeneration_keeps (r : DualBankCaptureRing) (hpos : 0 < r.samplesPerBlock) (j : ℕ) :
    Keeps r (r.finalizeGeneration j).1 := by
  obtain ⟨hcap, hlost, hdone⟩ := countPair_books r.progress (r.slots j).extra
  unfold finalizeGeneration
  dsimp only
  generalize countPair r.progress (r.slots j).extra = p at *
  have hlose : r.Books → Balanced u64Max r.samplesPerBlock p.sampleInstantsCaptured
      (satAdd u64Max p.sampleInstantsLost (logicalSamples (r.slots j).extra)) p.buffersCompleted := by
    intro hb
    rw [hcap, hlost, hdone]
    exact hb.lose _
  by_cases hover : (r.slots j).destination = kOverflowDestination
  · rw [if_pos hover]
    exact ⟨rfl, rfl, hlose⟩
  rw [if_neg hover]
  by_cases hbuf : isBufferDestination (r.slots j).destination = true
  swap
  · rw [if_pos (by simpa using hbuf)]
    exact ⟨rfl, rfl, hlose⟩
  rw [if_neg (by simpa using hbuf)]
  split
  · refine ⟨rfl, rfl, fun hb => ?_⟩
    simp only [Books]
    split
    · exact hlose hb
    · exact hlose hb
  · next hgood =>
    have hfull : logicalSamples (r.slots j).extra = r.samplesPerBlock := by
      simp only [spoiled, Bool.or_eq_true, Bool.not_eq_true', not_or, Bool.not_eq_false,
        Bool.and_eq_true, beq_iff_eq] at hgood
      exact hgood.1.2.1.1
    have hcomplete : r.Books → Balanced u64Max r.samplesPerBlock p.sampleInstantsCaptured
        p.sampleInstantsLost (inc64 p.buffersCompleted) := by
      intro hb
      rw [hcap, hlost, hdone, hfull]
      exact hb.complete hpos
    refine ⟨rfl, rfl, fun hb => ?_⟩
    simp only [Books]
    split
    · exact hcomplete hb
    · exact hcomplete hb

/-- A finished generation is published or lost. -/
theorem finalizeGeneration_finalizes {r : DualBankCaptureRing} {j : ℕ}
    (htarget : (r.slots j).destination ≤ 4)
    (hown : (r.slots j).destination < 4 → r.records (r.slots j).destination =
      ⟨.dmaOwned, r.epoch, (r.slots j).generation, (r.slots j).first, 0⟩) :
    Barrier.Finalizes 4 j r.toBarrier (r.finalizeGeneration j).1.toBarrier := by
  unfold finalizeGeneration Barrier.Finalizes
  dsimp only
  by_cases hover : (r.slots j).destination = kOverflowDestination
  · rw [if_pos hover]
    refine Or.inl ?_
    simp only [Core.settle, hover, Nat.lt_irrefl, if_false]
  · have hlt : (r.slots j).destination < 4 := by
      simp only [kOverflowDestination] at hover
      omega
    rw [if_neg hover, if_neg (by simpa [isBufferDestination] using hlt)]
    -- The record is the one the slot was scheduled with.
    have hmatch : decide ((r.records (r.slots j).destination).state = .dmaOwned ∧
        (r.records (r.slots j).destination).epoch = r.epoch ∧
        (r.records (r.slots j).destination).generation = (r.slots j).generation ∧
        (r.records (r.slots j).destination).first = (r.slots j).first) = true := by
      rw [hown hlt]
      simp
    simp only [hmatch, Bool.not_true, Bool.or_false, if_true]
    split
    · refine Or.inl ?_
      simp only [Core.settle, Core.setState, hlt, if_true]
    · next hgood =>
      refine Or.inr ⟨?_, hlt, ?_⟩
      · simp only [spoiled, Bool.or_eq_true, not_or, Bool.not_eq_true] at hgood
        exact hgood.1.1.1
      · simp only [Core.settle, Core.setState, Barrier.setState, hlt, if_true]

/-- The callback is of the running epoch. -/
def Hears (r : DualBankCaptureRing) (epoch : UInt32) : Prop :=
  r.running = true ∧ epoch ≠ 0 ∧ epoch = r.epoch

instance (r : DualBankCaptureRing) (epoch : UInt32) : Decidable (r.Hears epoch) :=
  inferInstanceAs (Decidable (r.running = true ∧ epoch ≠ 0 ∧ epoch = r.epoch))

theorem recordHardwareError_ignored {r : DualBankCaptureRing} {epoch : UInt32}
    (h : ¬r.Hears epoch) : r.recordHardwareError epoch = r := if_neg h

/-- The generation a bank is at has a slot. -/
def OnSchedule (r : DualBankCaptureRing) (bank : ℕ) : Prop :=
  (r.findGeneration (r.nextCompletion bank)).isSome

instance (r : DualBankCaptureRing) (bank : ℕ) : Decidable (r.OnSchedule bank) :=
  inferInstanceAs (Decidable ((r.findGeneration (r.nextCompletion bank)).isSome = true))

/-! ### Stopping -/

/-- The counters after `stop` dropped a slot keep the balance. -/
theorem stopProgress_books {r : DualBankCaptureRing} (hb : r.Books) (slot : GenerationSlot Report)
    (banks : ℕ → BankStopState) (reason : StopReason) :
    Balanced u64Max r.samplesPerBlock (r.stopProgress slot banks reason).1.sampleInstantsCaptured
      (r.stopProgress slot banks reason).1.sampleInstantsLost
      (r.stopProgress slot banks reason).1.buffersCompleted := by
  have hsame : (countMismatched r.progress slot banks (r.contributed slot (banks 0) 0)
      (r.contributed slot (banks 1) 1)).sampleInstantsCaptured = r.progress.sampleInstantsCaptured ∧
      (countMismatched r.progress slot banks (r.contributed slot (banks 0) 0)
        (r.contributed slot (banks 1) 1)).sampleInstantsLost = r.progress.sampleInstantsLost ∧
      (countMismatched r.progress slot banks (r.contributed slot (banks 0) 0)
        (r.contributed slot (banks 1) 1)).buffersCompleted = r.progress.buffersCompleted := by
    unfold countMismatched
    dsimp only
    split_ifs <;> exact ⟨rfl, rfl, rfl⟩
  unfold stopProgress countDropped
  dsimp only
  generalize countMismatched r.progress slot banks (r.contributed slot (banks 0) 0)
    (r.contributed slot (banks 1) 1) = p at *
  obtain ⟨hcap, hlost, hdone⟩ := hsame
  generalize (if (r.contributed slot (banks 1) 1).1 < (r.contributed slot (banks 0) 0).1 then
    (r.contributed slot (banks 0) 0).1 else (r.contributed slot (banks 1) 1).1) = attempted
  have hlose := hb.lose attempted
  have hkeep : Balanced u64Max r.samplesPerBlock r.progress.sampleInstantsCaptured
    r.progress.sampleInstantsLost r.progress.buffersCompleted := hb
  rw [← hcap, ← hlost, ← hdone] at hlose hkeep
  split_ifs
  · exact hlose
  · exact hlose
  · exact hlose
  · exact hlose
  · exact hkeep

theorem stopSlot_core {r : DualBankCaptureRing} (hown : Owned 4 8 r.toCore) {j : ℕ} (hj : j < 8)
    (banks : ℕ → BankStopState) (reason : StopReason) (report : StopReport) (agrees : Bool) :
    (stopSlot banks reason (r, report, agrees) j).1.toCore = r.toCore.drop 4 j ∧
      Keeps r (stopSlot banks reason (r, report, agrees) j).1 := by
  unfold stopSlot Core.drop
  dsimp only
  by_cases hvalid : (r.slots j).valid = true
  swap
  · have hoff : (r.slots j).valid = false := by simpa using hvalid
    simp only [hoff, Bool.not_false, Bool.false_eq_true, if_true, if_false]
    exact ⟨trivial, rfl, rfl, id⟩
  simp only [hvalid, Bool.not_true, Bool.false_eq_true, if_false, if_true]
  have hbooks : r.Books → _ := fun hb => stopProgress_books hb (r.slots j) banks reason
  by_cases hlt : (r.slots j).destination < 4
  · have hrec := hown.owned j hj hvalid hlt
    have hbuf : isBufferDestination (r.slots j).destination = true := decide_eq_true hlt
    have hagree : ¬((r.records (r.slots j).destination).state ≠ .dmaOwned ∨
        (r.records (r.slots j).destination).epoch ≠ r.epoch ∨
        (r.records (r.slots j).destination).generation ≠ (r.slots j).generation) := by
      rw [hrec]
      simp
    simp only [hbuf, if_true, if_neg hagree]
    refine ⟨?_, rfl, rfl, hbooks⟩
    simp only [Core.settle, Core.setState, if_pos hlt]
  · have hbuf : isBufferDestination (r.slots j).destination = false := decide_eq_false hlt
    simp only [hbuf, Bool.false_eq_true, if_false]
    refine ⟨?_, rfl, rfl, hbooks⟩
    simp only [Core.settle, if_neg hlt]

/-- `stop` drops the slots one after another. -/
theorem stopSlots_core (banks : ℕ → BankStopState) (reason : StopReason) (js : List ℕ)
    (hjs : ∀ j ∈ js, j < 8) {s : DualBankCaptureRing × StopReport × Bool}
    (hown : Owned 4 8 s.1.toCore) :
    (js.foldl (stopSlot banks reason) s).1.toCore = js.foldl (fun c j => c.drop 4 j) s.1.toCore ∧
      Keeps s.1 (js.foldl (stopSlot banks reason) s).1 := by
  induction js generalizing s with
  | nil => exact ⟨rfl, rfl, rfl, id⟩
  | cons j js ih =>
    obtain ⟨hcore, hkeeps⟩ := stopSlot_core hown (hjs j (by simp)) banks reason s.2.1 s.2.2
    have hnext : Owned 4 8 (stopSlot banks reason s j).1.toCore := by
      rw [show s = (s.1, s.2.1, s.2.2) from rfl, hcore]
      exact hown.drop (hjs j (by simp))
    obtain ⟨hcore', hkeeps'⟩ := ih (fun k hk => hjs k (by simp [hk])) hnext
    simp only [List.foldl_cons]
    refine ⟨?_, hkeeps.trans hkeeps'⟩
    rw [hcore', hcore]

theorem countOversized_keeps (r : DualBankCaptureRing) (bank : BankStopState) :
    (r.countOversized bank).toCore = r.toCore ∧ Keeps r (r.countOversized bank) := by
  unfold countOversized
  split
  · exact ⟨rfl, rfl, rfl, id⟩
  · exact ⟨rfl, rfl, rfl, id⟩

theorem stop_core {r : DualBankCaptureRing} {g : Ghost (ℕ × ℕ × ℕ)}
    (hinv : Inv 4 8 u64Max ⟨r.toCore, g⟩) (hrun : r.running = true) (banks : ℕ → BankStopState)
    (reason : StopReason) :
    (r.stop banks reason).1.toCore = r.toCore.halt 4 8 ∧ Keeps r (r.stop banks reason).1 := by
  unfold stop
  rw [if_neg (by simpa using hrun)]
  dsimp only
  obtain ⟨hc0, hk0⟩ := countOversized_keeps { r with running := false } (banks 0)
  obtain ⟨hc1, hk1⟩ := countOversized_keeps (countOversized { r with running := false } (banks 0))
    (banks 1)
  generalize ((countOversized { r with running := false } (banks 0)).countOversized (banks 1)) =
    stopped at *
  have hcore0 : stopped.toCore = { r.toCore with running := false } := hc1.trans hc0
  have hown : Owned 4 8 stopped.toCore := by
    rw [hcore0]
    exact ⟨hinv.toOwned.owned, hinv.toOwned.apart⟩
  obtain ⟨hcore, hkeeps⟩ := stopSlots_core banks reason (List.range 8)
    (s := (stopped, { reason := reason }, r.stopAgrees banks)) (fun j hj => List.mem_range.mp hj) hown
  have hstart : Keeps r { r with running := false } := ⟨rfl, rfl, id⟩
  refine ⟨?_, ((hstart.trans hk0).trans hk1).trans hkeeps⟩
  simp only [hcore0] at hcore
  exact hcore.trans hinv.drop_all

end DualBankCaptureRing

/-! ### Runs -/

/-- A ring with what an observer knows about it. -/
structure Machine where
  ring : DualBankCaptureRing := DualBankCaptureRing.initial
  seen : Observed (ℕ × ℕ × ℕ) := {}

inductive Op
  | prime (epoch samplePeriodTicks initialGeneration : UInt32) (firstSampleTicks : UInt64)
      (samplesPerBlock : UInt32)
  | reserveGeneration (epoch generation : UInt32)
  | onMajorLoopComplete (bank : ℕ) (epoch generation : UInt32)
      (destination firstSampleTicks sampleCount : ℕ)
  | recordHardwareError (epoch : UInt32)
  | acquireReady
  | beginRelease (handle : BufferHandle)
  | endRelease (handle : BufferHandle)
  | beginDiscard
  | endDiscard (i : ℕ)
  | stop (banks : ℕ → BankStopState) (reason : StopReason)
  | cancel (epoch : UInt32) (reason : StopReason)

namespace Machine

def step (m : Machine) : Op → Machine
  | .prime epoch period generation first samples =>
    let out := m.ring.prime epoch period generation first samples
    ⟨out.1, if out.2.status = .ok then
        { first := first.toNat, width := samples.toNat * period.toNat } else m.seen⟩
  | .reserveGeneration epoch generation =>
    { m with ring := (m.ring.reserveGeneration epoch generation).1 }
  | .onMajorLoopComplete bank epoch generation destination first count =>
    let out := m.ring.onMajorLoopComplete bank epoch generation destination first count
    ⟨out.1, bif out.2.consumed then m.seen.report bank (destination, first, count) else m.seen⟩
  | .recordHardwareError epoch =>
    -- The error belongs to whatever either bank is at.
    ⟨m.ring.recordHardwareError epoch,
      if m.ring.Hears epoch then (m.seen.fail 0).fail 1 else m.seen⟩
  | .acquireReady =>
    let out := m.ring.acquireReady
    ⟨out.1, match out.2 with
      | none => m.seen
      | some handle => m.seen.lend handle.bufferIndex handle.firstSampleTicks⟩
  | .beginRelease handle =>
    let out := m.ring.beginRelease handle
    ⟨out.1, if out.2 then m.seen.takeBack handle.bufferIndex else m.seen⟩
  | .endRelease handle => { m with ring := (m.ring.endRelease handle).1 }
  | .beginDiscard => { m with ring := m.ring.beginDiscard.1 }
  | .endDiscard i => { m with ring := (m.ring.endDiscard i).1 }
  | .stop banks reason => { m with ring := (m.ring.stop banks reason).1 }
  | .cancel epoch reason => { m with ring := (m.ring.cancel epoch reason).1 }

def run (m : Machine) (ops : List Op) : Machine := ops.foldl step m

/-- A callback that the ring acts on comes while the generation its bank is at
has a slot. -/
def keepsSchedule (m : Machine) : Op → Bool
  | .onMajorLoopComplete bank epoch generation _ _ _ =>
    decide (m.ring.Hears epoch → bank < kBankCount →
      generation = m.ring.nextCompletion bank → m.ring.OnSchedule bank)
  | .recordHardwareError epoch =>
    decide (m.ring.Hears epoch → ∀ bank < kBankCount, m.ring.OnSchedule bank)
  | _ => true

/-- Every step of a run keeps to the schedule. -/
def onSchedule (m : Machine) : List Op → Bool
  | [] => true
  | op :: ops => m.keepsSchedule op && (m.step op).onSchedule ops

end Machine

/-- The observed behaviour is a join barrier's, and the counters balance. -/
structure Sound (strict : Bool) (m : Machine) : Prop where
  good : Good 4 8 strict (DualBankCaptureRing.expects m.ring.samplesPerBlock) m.ring.toBarrier m.seen
  width : m.ring.running = true → m.seen.width = m.ring.coverage
  positive : 0 < m.ring.samplesPerBlock
  books : m.ring.Books

namespace Sound

variable {strict : Bool} {m : Machine}

theorem initial (strict : Bool) : Sound strict {} := by
  refine ⟨Good.initial (by decide) (fun _ _ => rfl) ?_, fun h => (by cases h), by decide, fun _ => rfl⟩
  ext1
  · funext i
    simp [Core.halt, Core.primed, DualBankCaptureRing.initial]
  · funext j
    simp only [Core.halt]
    split <;> rfl
  all_goals rfl

/-- A step that changes the barrier and keeps the rest. -/
theorem keep {r : DualBankCaptureRing} {o : Observed (ℕ × ℕ × ℕ)} (h : Sound strict m)
    (hgood : Good 4 8 strict (DualBankCaptureRing.expects m.ring.samplesPerBlock) r.toBarrier o)
    (hrun : r.running = true → m.ring.running = true) (hwidth : o.width = m.seen.width)
    (hkeeps : DualBankCaptureRing.Keeps m.ring r) : Sound strict ⟨r, o⟩ := by
  refine ⟨?_, fun hr => ?_, hkeeps.samples ▸ h.positive, hkeeps.books h.books⟩
  · rw [hkeeps.samples]
    exact hgood
  · rw [hkeeps.coverage, hwidth]
    exact h.width (hrun hr)

/-- A step that only counts. -/
theorem count (h : Sound strict m) {r : DualBankCaptureRing}
    (hbarrier : r.toBarrier = m.ring.toBarrier) (hkeeps : DualBankCaptureRing.Keeps m.ring r) :
    Sound strict ⟨r, m.seen⟩ :=
  h.keep (hbarrier ▸ h.good) (fun hr => by rw [hbarrier] at hr; exact hr) rfl hkeeps

theorem scheduleGeneration (h : Sound strict m) (hrun : m.ring.running = true)
    (generation : UInt32) : Sound strict ⟨(m.ring.scheduleGeneration generation).1, m.seen⟩ := by
  refine h.keep (h.good.schedule (by decide) _ _ generation hrun ?_) (fun _ => hrun) rfl
    (m.ring.scheduleGeneration_keeps generation)
  intro nf hnf
  rw [h.width hrun]
  exact DualBankCaptureRing.advance_eq hnf

theorem reserveGeneration (h : Sound strict m) (epoch generation : UInt32) :
    Sound strict (m.step (.reserveGeneration epoch generation)) := by
  simp only [Machine.step, DualBankCaptureRing.reserveGeneration]
  by_cases hrun : m.ring.running = true
  swap
  · rw [if_pos (by simpa using hrun)]
    exact h
  rw [if_neg (by simpa using hrun)]
  by_cases hepoch : epoch = 0 ∨ epoch ≠ m.ring.epoch
  · rw [if_pos hepoch]
    exact h
  rw [if_neg hepoch]
  have hsched := h.scheduleGeneration hrun generation
  split
  · exact hsched
  · exact hsched

/-- A primed ring schedules two generations, so `prime` never gives up. -/
theorem prime (h : Sound strict m) (epoch period generation : UInt32) (first : UInt64)
    (samples : UInt32) : Sound strict (m.step (.prime epoch period generation first samples)) := by
  simp only [Machine.step, DualBankCaptureRing.prime]
  by_cases hepoch : epoch = 0
  · simp only [if_pos hepoch]
    exact h
  by_cases hperiod : samples.toNat = 0 ∨ kSamplesPerBlock < samples.toNat ∨
      !validPeriod period.toNat ∨ first.toNat % period.toNat ≠ 0
  · simp only [if_neg hepoch, if_pos hperiod]
    exact h
  by_cases hroom : u64Max - first.toNat < samples.toNat * period.toNat ∨
      u64Max - (first.toNat + samples.toNat * period.toNat) < samples.toNat * period.toNat
  · simp only [if_neg hepoch, if_neg hperiod, if_pos hroom]
    exact h
  by_cases hrun : m.ring.running = true
  · simp only [if_neg hepoch, if_neg hperiod, if_neg hroom, hrun, if_true]
    exact h
  by_cases hfree : m.ring.allBuffersFree kRingDepth = true
  swap
  · simp only [if_neg hepoch, if_neg hperiod, if_neg hroom, hrun, hfree]
    exact h
  simp only [if_neg hepoch, if_neg hperiod, if_neg hroom, hrun, hfree, Bool.not_true,
    Bool.false_eq_true, if_false]
  have hfree' := Barrier.allBuffersFree_iff.mp hfree
  have hsamples : 0 < samples.toNat := by omega
  have hticks : 0 < period.toNat := by
    have hvalid : validPeriod period.toNat = true := by
      by_contra hcon
      exact hperiod (Or.inr (Or.inr (Or.inl (by simpa using hcon))))
    simp only [validPeriod, kGpioSamplePeriodTicks, List.contains_iff_mem, List.mem_cons,
      List.not_mem_nil, or_false] at hvalid
    omega
  generalize hc : samples.toNat * period.toNat = coverage at *
  have hcoverage : 0 < coverage := hc ▸ Nat.mul_pos hsamples hticks
  generalize hr : m.ring.rewound epoch period.toNat generation first.toNat samples.toNat = r
  have hrewound : Sound strict ⟨r, { first := first.toNat, width := coverage }⟩ := by
    subst hr
    refine ⟨(h.good.prime _ (by decide) epoch generation (by simpa using hrun) hfree' ?_ hcoverage
      rfl).1, fun _ => hc.symm, hsamples, fun _ => rfl⟩
    have := first.toNat_lt
    simp only [u64Max]
    omega
  have hnext : r.nextSchedule = generation ∧ r.running = true ∧
      (∀ j, (r.slots j).valid = false) ∧ (∀ i < 4, (r.records i).state = .free) ∧
      r.nextFirst = first.toNat ∧ r.coverage = coverage := by
    subst hr
    exact ⟨rfl, rfl, fun _ => rfl, hfree', rfl, hc⟩
  obtain ⟨hsched, hrun0, hempty, hidle, hfirst, hcov⟩ := hnext
  have hroom1 : ¬u64Max - first.toNat < coverage := fun hlt => hroom (Or.inl hlt)
  have hroom2 : ¬u64Max - (first.toNat + coverage) < coverage := fun hlt => hroom (Or.inr hlt)
  have hnf : (if u64Max - r.nextFirst < r.coverage then none else some (r.nextFirst + r.coverage)) =
      some (first.toNat + coverage) := by
    rw [hfirst, hcov, if_neg hroom1]
  have hnf' : (if u64Max - (first.toNat + coverage) < r.coverage then none
      else some (first.toNat + coverage + r.coverage)) = some (first.toNat + coverage + coverage) := by
    rw [hcov, if_neg hroom2]
  obtain ⟨active, queued, a, q, hactive, hqueued, hrun1, hda, hdq, hdiff⟩ :=
    Barrier.scheduleGeneration_two (n := 4) (m := 8) (b := r.toBarrier)
      (fun first => if u64Max - first < r.coverage then none else some (first + r.coverage)) id
      (by decide) (by decide) (fun j _ => hempty j) hidle hnf hnf'
  rw [hsched] at hactive hqueued
  -- Both generations get a block of their own.
  have hfst : r.scheduleGeneration generation = ({ r with toBarrier := active }, some a) := by
    simp only [DualBankCaptureRing.scheduleGeneration, hactive]
    rfl
  have hsnd : ({ r with toBarrier := active } : DualBankCaptureRing).scheduleGeneration
      (generation + 1) = ({ r with toBarrier := queued }, some q) := by
    have hsame : ({ r with toBarrier := active } : DualBankCaptureRing).coverage = r.coverage := rfl
    simp only [DualBankCaptureRing.scheduleGeneration, hsame, hqueued]
    rfl
  have hone := hrewound.scheduleGeneration hrun0 generation
  rw [hfst] at hone
  have htwo := hone.scheduleGeneration (hrun1.trans hrun0) (generation + 1)
  simp only [hsnd] at htwo
  have hok : (isBufferDestination (queued.slots a).destination &&
      isBufferDestination (queued.slots q).destination &&
      (queued.slots a).destination != (queued.slots q).destination) = true := by
    simp [isBufferDestination, hda, hdq, hdiff]
  simp only [hfst, hsnd, hok, if_true]
  exact htwo.count rfl ⟨rfl, rfl, id⟩

/-- A completion that finds its slot. -/
theorem completion {bank j : ℕ} (h : Sound strict m) (hrun : m.ring.running = true)
    (hbank : bank < 2) (hj : j < 8) (hvalid : (m.ring.slots j).valid = true)
    (hgen : (m.ring.slots j).generation = m.ring.nextCompletion bank)
    (hbit : (m.ring.slots j).completionMask.testBit bank = false) (future : UInt32)
    (destination first count bounded : ℕ) :
    let checked := (((m.ring.checkDestination j destination).1.checkCount j count).1.checkTimestamp j
      first).1.observed bank j first bounded
    let after := ((checked.reported bank j bounded).checkSkew.1.scheduleFuture future).1
    Sound strict ⟨if (after.slots j).completionMask = kAllBanksMask then
        (after.finalizeGeneration j).1 else after, m.seen.report bank (destination, first, count)⟩ := by
  intro checked after
  obtain ⟨hplaced, hagree, hkplaced⟩ := m.ring.checks_marks bank j destination first count bounded
  have hkreport : DualBankCaptureRing.Keeps checked (checked.reported bank j bounded) :=
    ⟨rfl, rfl, id⟩
  obtain ⟨hskew, hkskew⟩ := (checked.reported bank j bounded).checkSkew_marks
  obtain ⟨hfuture, hkfuture⟩ :=
    (checked.reported bank j bounded).checkSkew.1.scheduleFuture_marks future
  have hk3 := (hkplaced.trans hkreport).trans hkskew
  have hkafter : DualBankCaptureRing.Keeps m.ring after := hk3.trans hkfuture
  have hpos : 0 < after.samplesPerBlock := hkafter.samples ▸ h.positive
  have hgood := h.good.complete (if (after.slots j).completionMask = kAllBanksMask then
      (after.finalizeGeneration j).1 else after).toBarrier future (destination, first, count)
    (by decide) hrun hbank hj hvalid hgen hbit hplaced hagree rfl hskew ?_ hfuture ?_ ?_
  rotate_left
  · intro nf hnf
    rw [h.width hrun, ← hk3.coverage]
    exact DualBankCaptureRing.advance_eq hnf
  · intro hpart
    rw [if_neg hpart]
  · intro hfull htarget hown
    rw [if_pos hfull]
    exact DualBankCaptureRing.finalizeGeneration_finalizes htarget hown
  -- Either way the counters balance.
  have hkeeps : DualBankCaptureRing.Keeps after (if (after.slots j).completionMask = kAllBanksMask
      then (after.finalizeGeneration j).1 else after) := by
    split
    · exact after.finalizeGeneration_keeps hpos j
    · exact ⟨rfl, rfl, id⟩
  exact h.keep hgood (fun _ => hrun) rfl (hkafter.trans hkeeps)

theorem onMajorLoopComplete (h : Sound strict m) (bank : ℕ) (epoch generation : UInt32)
    (destination first count : ℕ) (hguard : strict = true → m.ring.Hears epoch → bank < 2 →
      generation = m.ring.nextCompletion bank → m.ring.OnSchedule bank) :
    Sound strict (m.step (.onMajorLoopComplete bank epoch generation destination first count)) := by
  simp only [Machine.step, DualBankCaptureRing.onMajorLoopComplete]
  by_cases hrun : m.ring.running = true
  swap
  · rw [if_pos (by simpa using hrun)]
    exact h.count rfl ⟨rfl, rfl, id⟩
  rw [if_neg (by simpa using hrun)]
  by_cases hepoch : epoch = 0 ∨ epoch ≠ m.ring.epoch
  · rw [if_pos hepoch]
    exact h.count rfl ⟨rfl, rfl, id⟩
  rw [if_neg hepoch]
  by_cases hbank : bank < kBankCount
  swap
  · rw [if_pos hbank]
    exact h.count rfl ⟨rfl, rfl, id⟩
  rw [if_neg (not_not_intro hbank)]
  by_cases hnext : generation = m.ring.nextCompletion bank
  swap
  · rw [if_pos hnext]
    exact h.count rfl ⟨rfl, rfl, id⟩
  rw [if_neg (not_not_intro hnext)]
  cases hfind : m.ring.findGeneration generation with
  | none =>
    -- Only a run that leaves the schedule gets here.
    cases strict with
    | true =>
      have hhears : m.ring.Hears epoch :=
        ⟨hrun, fun h0 => hepoch (Or.inl h0), not_ne_iff.mp fun hne => hepoch (Or.inr hne)⟩
      have hsome := hguard rfl hhears hbank hnext
      unfold DualBankCaptureRing.OnSchedule at hsome
      rw [← hnext, hfind] at hsome
      cases hsome
    | false =>
      exact h.keep (h.good.skip (by decide) bank (destination, first, count) rfl) (fun _ => hrun) rfl
        ⟨rfl, rfl, id⟩
  | some j =>
    obtain ⟨hj, hvalid, hgen⟩ := Barrier.findGeneration_some hfind
    dsimp only
    by_cases hbit : (m.ring.slots j).completionMask.testBit bank = true
    · rw [if_pos hbit]
      exact h.count rfl ⟨rfl, rfl, id⟩
    rw [if_neg hbit]
    have hslot := h.completion hrun hbank hj hvalid (hgen.trans hnext) (by simpa using hbit)
      (generation + 2) destination first count (min count m.ring.samplesPerBlock)
    dsimp only at hslot
    split
    · next hfull =>
      rw [if_pos hfull] at hslot
      exact hslot
    · next hfull =>
      rw [if_neg hfull] at hslot
      exact hslot

/-- An error spoils everything in flight, so in particular what the banks are
at. -/
theorem recordHardwareError (h : Sound strict m) (epoch : UInt32)
    (hguard : strict = true → m.ring.Hears epoch → ∀ bank < 2, m.ring.OnSchedule bank) :
    Sound strict (m.step (.recordHardwareError epoch)) := by
  simp only [Machine.step]
  by_cases hhears : m.ring.Hears epoch
  · rw [if_pos hhears, DualBankCaptureRing.recordHardwareError, if_pos ⟨hhears.1, hhears.2⟩]
    have hmarks := m.ring.toBarrier.markOutstandingInvalid_marks
    have hall : ∀ j, (m.ring.slots j).valid = true →
        (m.ring.toBarrier.markOutstandingInvalid.slots j).invalidData = true := by
      intro j hv
      simp [Barrier.markOutstandingInvalid, hv]
    have hfirst := h.good.fail 0 (by decide) hhears.1 (by decide) hmarks
      (fun j _ hv _ => hall j hv) fun hs => hguard hs hhears 0 (by decide)
    have hsecond := hfirst.fail 1 (by decide) (hmarks.same.1.trans hhears.1) (by decide)
      (Barrier.Marks.of_core rfl) (fun j _ hv _ => hall j ((hmarks.slot j).1 ▸ hv)) (by
        intro hs
        rw [hmarks.findGeneration, hmarks.same.2.2.1]
        exact hguard hs hhears 1 (by decide))
    exact h.keep hsecond (fun _ => hhears.1) rfl ⟨rfl, rfl, id⟩
  · rw [if_neg hhears, DualBankCaptureRing.recordHardwareError_ignored hhears]
    exact h

theorem acquireReady (h : Sound strict m) : Sound strict (m.step .acquireReady) := by
  simp only [Machine.step, DualBankCaptureRing.acquireReady]
  cases hlease : m.ring.toBarrier.lease kRingDepth with
  | none => exact h
  | some out =>
    have hrun : out.2.running = m.ring.running := by
      rcases m.ring.toBarrier.lease_cases kRingDepth with hnone | ⟨i, -, -, -, -, hsome⟩
      · rw [hnone] at hlease
        cases hlease
      · rw [hsome] at hlease
        cases hlease
        rfl
    exact h.keep (h.good.lease (by decide) hlease) (fun hr => hrun ▸ hr) rfl ⟨rfl, rfl, id⟩

theorem beginRelease (h : Sound strict m) (handle : BufferHandle) :
    Sound strict (m.step (.beginRelease handle)) := by
  simp only [Machine.step, DualBankCaptureRing.beginRelease]
  by_cases hmatches : m.ring.handleMatches handle .reading = true
  · simp only [if_pos hmatches]
    have hread : (m.ring.records handle.bufferIndex).state = .reading := by
      simp only [DualBankCaptureRing.handleMatches, Bool.and_eq_true, decide_eq_true_eq] at hmatches
      exact hmatches.1.1.1.1.1.1.1.2
    exact h.keep (h.good.release (by decide) hread) id rfl ⟨rfl, rfl, id⟩
  · simp only [if_neg hmatches]
    exact h

theorem endRelease (h : Sound strict m) (handle : BufferHandle) :
    Sound strict (m.step (.endRelease handle)) := by
  simp only [Machine.step, DualBankCaptureRing.endRelease]
  split
  · exact h.count rfl ⟨rfl, rfl, id⟩
  · next hmatches =>
    have hreleasing : (m.ring.records handle.bufferIndex).state = .releasing := by
      simp only [DualBankCaptureRing.handleMatches, Bool.not_eq_true', Bool.not_eq_false,
        Bool.and_eq_true, decide_eq_true_eq] at hmatches
      exact hmatches.1.1.1.1.1.1.1.2
    exact h.keep (h.good.giveBack (by decide) {} (Or.inr hreleasing) (Or.inr rfl) rfl) id rfl
      ⟨rfl, rfl, id⟩

theorem beginDiscard (h : Sound strict m) : Sound strict (m.step .beginDiscard) := by
  simp only [Machine.step, DualBankCaptureRing.beginDiscard]
  cases hselect : m.ring.toBarrier.selectDiscarded kRingDepth with
  | none => exact h
  | some i =>
    have hpending := (Barrier.selectDiscarded_some hselect).2
    exact h.keep (h.good.giveBack (by decide) _ (Or.inl hpending) (Or.inl rfl) rfl) id rfl
      ⟨rfl, rfl, id⟩

theorem endDiscard (h : Sound strict m) (i : ℕ) : Sound strict (m.step (.endDiscard i)) := by
  simp only [Machine.step, DualBankCaptureRing.endDiscard]
  split
  · exact h.count rfl ⟨rfl, rfl, id⟩
  · next hreleasing =>
    exact h.keep (h.good.giveBack (by decide) {} (Or.inr (not_ne_iff.mp hreleasing)) (Or.inr rfl) rfl)
      id rfl ⟨rfl, rfl, id⟩

theorem stop (h : Sound strict m) (banks : ℕ → BankStopState) (reason : StopReason) :
    Sound strict (m.step (.stop banks reason)) := by
  simp only [Machine.step]
  by_cases hrun : m.ring.running = true
  · obtain ⟨g, hinv, -⟩ := h.good.history
    obtain ⟨hcore, hkeeps⟩ := DualBankCaptureRing.stop_core hinv hrun banks reason
    exact h.keep (h.good.halt (by decide) hcore) (fun _ => hrun) rfl hkeeps
  · rw [DualBankCaptureRing.stop, if_pos (by simpa using hrun)]
    exact h

theorem cancel (h : Sound strict m) (epoch : UInt32) (reason : StopReason) :
    Sound strict (m.step (.cancel epoch reason)) := by
  simp only [Machine.step, DualBankCaptureRing.cancel]
  split
  · exact h
  · exact h.stop _ reason

/-- Every operation keeps the ring sound. -/
theorem step (h : Sound strict m) (op : Op) (hguard : strict = true → m.keepsSchedule op = true) :
    Sound strict (m.step op) := by
  cases op with
  | prime epoch period generation first samples => exact h.prime epoch period generation first samples
  | reserveGeneration epoch generation => exact h.reserveGeneration epoch generation
  | onMajorLoopComplete bank epoch generation destination first count =>
    exact h.onMajorLoopComplete bank epoch generation destination first count
      fun hs => of_decide_eq_true (hguard hs)
  | recordHardwareError epoch =>
    exact h.recordHardwareError epoch fun hs => of_decide_eq_true (hguard hs)
  | acquireReady => exact h.acquireReady
  | beginRelease handle => exact h.beginRelease handle
  | endRelease handle => exact h.endRelease handle
  | beginDiscard => exact h.beginDiscard
  | endDiscard i => exact h.endDiscard i
  | stop banks reason => exact h.stop banks reason
  | cancel epoch reason => exact h.cancel epoch reason

theorem run (h : Sound strict m) (ops : List Op) (hguard : strict = true → m.onSchedule ops = true) :
    Sound strict (m.run ops) := by
  induction ops generalizing m with
  | nil => exact h
  | cons op ops ih =>
    have hsplit : strict = true → m.keepsSchedule op = true ∧ (m.step op).onSchedule ops = true :=
      fun hs => Bool.and_eq_true_iff.mp (hguard hs)
    exact ih (h.step op fun hs => (hsplit hs).1) fun hs => (hsplit hs).2

end Sound

/-! ### Safety -/

/-- What holds in every state of every run. -/
structure Safe (m : Machine) : Prop where
  /-- No generation in flight goes to a block that is ready or lent. -/
  apart : ∀ i < kRingDepth, (m.ring.records i).state = .ready ∨ i ∈ m.seen.held →
    ∀ j < kGenerationSlotCount, (m.ring.slots j).valid = true → (m.ring.slots j).destination ≠ i
  balance : m.ring.progress.sampleInstantsCaptured < u64Max →
    m.ring.progress.sampleInstantsCaptured = m.ring.progress.sampleInstantsLost +
      m.ring.samplesPerBlock * m.ring.progress.buffersCompleted
  /-- A callback after `stop` or of another epoch is a statistic. -/
  stale : ∀ epoch, ¬m.ring.Hears epoch →
    (∀ bank generation destination first count, ∃ s t,
      m.step (.onMajorLoopComplete bank epoch generation destination first count) =
        ⟨{ m.ring with progress := { m.ring.progress with
          staleCompletions := s, bankStaleCompletions := t } }, m.seen⟩) ∧
    m.step (.recordHardwareError epoch) = m

/-- What holds while callbacks keep to the schedule. -/
structure Published (m : Machine) : Prop where
  /-- A ready or lent block holds one generation, which both banks reported in it
  with its first tick and a full count, and at which no error was recorded. -/
  clean : ∀ i < kRingDepth, (m.ring.records i).state = .ready ∨ i ∈ m.seen.held →
    ∃ k, (m.ring.records i).first = stamp u64Max m.seen.first m.seen.width k ∧
      ∀ bank < kBankCount, (m.seen.done bank)[k]? =
        some (i, (m.ring.records i).first, m.ring.samplesPerBlock) ∧ k ∉ m.seen.failed bank
  /-- Leases are of later and later generations, at their exact ticks. -/
  order : ∃ ks : List ℕ, ks.Pairwise (· < ·) ∧
    m.seen.acquired = ks.map fun k => m.seen.first + m.seen.width * k

theorem stale_step (m : Machine) {epoch : UInt32} (h : ¬m.ring.Hears epoch) :
    (∀ bank generation destination first count, ∃ s t,
      m.step (.onMajorLoopComplete bank epoch generation destination first count) =
        ⟨{ m.ring with progress := { m.ring.progress with
          staleCompletions := s, bankStaleCompletions := t } }, m.seen⟩) ∧
    m.step (.recordHardwareError epoch) = m := by
  refine ⟨fun bank generation destination first count => ?_, ?_⟩
  · refine ⟨(m.ring.progress.stale bank).staleCompletions,
      (m.ring.progress.stale bank).bankStaleCompletions, ?_⟩
    simp only [Machine.step, DualBankCaptureRing.onMajorLoopComplete]
    by_cases hrun : m.ring.running = true
    · have hepoch : epoch = 0 ∨ epoch ≠ m.ring.epoch := by
        by_contra hcon
        push Not at hcon
        exact h ⟨hrun, hcon.1, hcon.2⟩
      rw [if_neg (by simpa using hrun), if_pos hepoch]
      rfl
    · rw [if_pos (by simpa using hrun)]
      rfl
  · simp only [Machine.step, DualBankCaptureRing.recordHardwareError_ignored h, if_neg h]

theorem Sound.safe {m : Machine} (h : Sound false m) : Safe m := by
  refine ⟨?_, h.books, fun epoch => stale_step m⟩
  intro i hi hs j hj hv
  apply h.good.apart ?_ hi hj hv
  exact hs.imp id fun hheld => (h.good.reading hheld).2

theorem Sound.published {m : Machine} (h : Sound true m) : Published m := by
  refine ⟨?_, h.good.order⟩
  intro i hi hs
  exact h.good.clean hi (hs.imp id fun hheld => (h.good.reading hheld).2)

/-- In every state of every run no block that is ready or lent is a target of the
DMA, samples are accounted for and stale callbacks do nothing; in every run that
keeps to the schedule what is published was completed by both banks without an
error, and is delivered in order. -/
theorem dual_bank_safety (ops : List Op) : Safe (Machine.run {} ops) ∧
    (Machine.onSchedule {} ops = true → Published (Machine.run {} ops)) := by
  refine ⟨((Sound.initial false).run ops fun h => by cases h).safe, fun hops => ?_⟩
  exact ((Sound.initial true).run ops fun _ => hops).published

/-- A bank completes the generations from `start` up to `stop` of epoch 1, each
where and when it was sent: four samples two ticks apart. -/
def completions (bank start stop : ℕ) : List Op :=
  (List.range' start (stop - start)).map fun k =>
    .onMajorLoopComplete bank 1 (UInt32.ofNat k) (min k 4) (8 * k) 4

/-- Three generations, the second of them short in one bank. -/
def shortGeneration : List Op :=
  .prime 1 2 0 0 4 :: completions 0 0 1 ++ completions 1 0 1 ++
    [.onMajorLoopComplete 0 1 1 1 8 4, .onMajorLoopComplete 1 1 1 1 8 3] ++
    completions 0 2 3 ++ completions 1 2 3 ++ [.acquireReady, .acquireReady]

theorem dual_bank_safety_shortGeneration :
    Machine.onSchedule {} shortGeneration = true ∧
      (Machine.run {} shortGeneration).seen.acquired = [0, 16] ∧
      Published (Machine.run {} shortGeneration) :=
  ⟨by decide +kernel, by decide +kernel, (dual_bank_safety shortGeneration).2 (by decide +kernel)⟩

/-- The primary bank runs ahead until the table is full, so its generation 8 has
no slot when an error is recorded.  The other bank catches up, and generation 8
is scheduled into block 0. -/
def lostError : List Op :=
  .prime 1 2 0 0 4 :: completions 0 0 8 ++ .recordHardwareError 1 :: completions 1 0 6 ++
    [.beginDiscard, .endDiscard 0, .reserveGeneration 1 8] ++ completions 1 6 8 ++
    [.onMajorLoopComplete 0 1 8 0 64 4, .onMajorLoopComplete 1 1 8 0 64 4]

/-- An error that finds no slot is forgotten. -/
theorem dual_bank_lost_error : ¬Published (Machine.run {} lostError) := by
  intro h
  have hready : ((Machine.run {} lostError).ring.records 0).state = .ready := by decide +kernel
  have hfirst : ((Machine.run {} lostError).ring.records 0).first = 64 := by decide +kernel
  have hstart : (Machine.run {} lostError).seen.first = 0 := by decide +kernel
  have hwidth : (Machine.run {} lostError).seen.width = 8 := by decide +kernel
  have hfailed : (Machine.run {} lostError).seen.failed 0 = [8] := by decide +kernel
  obtain ⟨k, hk, hclean⟩ := h.clean 0 (by decide) (Or.inl hready)
  rw [hfirst, hstart, hwidth] at hk
  have hk8 : k = 8 := by
    simp only [stamp, u64Max] at hk
    omega
  apply (hclean 0 (by decide)).2
  rw [hfailed, hk8]
  exact List.mem_singleton.mpr rfl

end ThingDaq.GpioJoin
