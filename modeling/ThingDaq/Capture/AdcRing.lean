import ThingDaq.Capture.Barrier

/-!
# The ADC pair capture ring

`PairCaptureRing` (`firmware/src/adc_dma_capture.cpp`): two ADC channels fill the
halves of eight pair buffers by DMA.  A generation is published when both
channels completed it and no error was recorded against it.

`release`, and each round of `serviceDiscarded`, leaves its critical section to
run cache maintenance, so each is two steps here and callbacks may come in
between.  `acquireReady` and `stop` call `serviceDiscarded` first and last; a run
takes those rounds as steps of their own.

## Main results

* `Good.step` — every operation is a sequence of moves of the join barrier.
* `pair_ring_safety` — ownership, accounting and stale callbacks in every run;
  order and clean publication in every run that keeps to the schedule.
* `pair_ring_lost_error` — an error reported while the channel's generation has
  no slot is lost, and the generation is published.
-/

namespace ThingDaq.AdcCapture

open Table Ring Join Capture

abbrev kConverterCount : ℕ := 2
abbrev kAllConvertersMask : ℕ := 3
abbrev kAdcDmaRingDepth : ℕ := 8
abbrev kGenerationSlotCount : ℕ := 12
abbrev kOverflowDestination : ℕ := 8
abbrev kInvalidDestination : ℕ := 255
abbrev kAdcPairsPerFrame : ℕ := 1012

inductive OperationStatus
  | ok
  | alreadyRunning
  | notRunning
  | notQuiescent
  | invalidEpoch
  | invalidConverter
  | invalidCompletion
  | noReadyBuffer
  | invalidHandle
  | invalidStopProgress
  | invalidPairCount
  deriving DecidableEq, Repr

structure Progress where
  channelMajorLoops : ℕ → ℕ := fun _ => 0
  channelResults : ℕ → ℕ := fun _ => 0
  pairedMajorLoops : ℕ := 0
  buffersCompleted : ℕ := 0
  buffersAcquired : ℕ := 0
  buffersReleased : ℕ := 0
  pairsCaptured : ℕ := 0
  pairsDelivered : ℕ := 0
  pairsLost : ℕ := 0
  stopDiscardedPairs : ℕ := 0
  incompleteConversions : ℕ := 0
  overwrittenConversions : ℕ := 0
  ringOverruns : ℕ := 0
  incompleteBuffers : ℕ := 0
  cacheDmaDiscards : ℕ := 0
  cacheCpuInvalidations : ℕ := 0
  readyHighWater : ℕ := 0
  adcEtcErrorEvents : ℕ := 0
  adcEtcErrorFlags : UInt32 := 0
  dmaErrorEvents : ℕ := 0
  completionMismatches : ℕ := 0
  destinationMismatches : ℕ := 0
  scheduleExhaustions : ℕ := 0
  invariantErrors : ℕ := 0
  staleCompletions : ℕ := 0

def inc32 (v : ℕ) : ℕ := satAdd u32Max v 1

def inc64 (v : ℕ) : ℕ := satAdd u64Max v 1

namespace Progress

def stale (p : Progress) : Progress := { p with staleCompletions := inc32 p.staleCompletions }

def mismatch (p : Progress) : Progress :=
  { p with completionMismatches := inc32 p.completionMismatches }

def exhausted (p : Progress) : Progress :=
  { p with scheduleExhaustions := inc32 p.scheduleExhaustions }

def invariantError (p : Progress) : Progress :=
  { p with invariantErrors := inc32 p.invariantErrors }

end Progress

/-- The `extra` of a slot is its `minimum_lost_pairs`. -/
structure PairCaptureRing extends Barrier ℕ where
  progress : Progress := {}
  pairsPerBuffer : ℕ := kAdcPairsPerFrame

def PairCaptureRing.initial : PairCaptureRing := { slots := fun _ => GenerationSlot.empty }

structure PrimeResult where
  status : OperationStatus := .notQuiescent
  epoch : UInt32 := 0
  activeGeneration : UInt32 := 0
  queuedGeneration : UInt32 := 1
  activeDestination : ℕ := kInvalidDestination
  queuedDestination : ℕ := kInvalidDestination
  deriving DecidableEq, Repr

structure ReservationResult where
  status : OperationStatus := .notRunning
  epoch : UInt32 := 0
  generation : UInt32 := 0
  destination : ℕ := kInvalidDestination
  deriving DecidableEq, Repr

structure CompletionResult where
  status : OperationStatus := .invalidCompletion
  epoch : UInt32 := 0
  completedGeneration : UInt32 := 0
  futureGeneration : UInt32 := 0
  converter : ℕ := 0
  completedDestination : ℕ := kInvalidDestination
  futureDestination : ℕ := kOverflowDestination
  completionMask : ℕ := 0
  consumed : Bool := false
  pairReady : Bool := false
  pairLost : Bool := false
  deriving DecidableEq, Repr

/-- A lease on a buffer.  `pairs` is the buffer whose storage the pointer
addresses, `none` the null pointer. -/
structure BufferHandle where
  pairs : Option ℕ := none
  firstPair : ℕ := 0
  pairCount : ℕ := 0
  epoch : UInt32 := 0
  lease : UInt32 := 0
  bufferIndex : ℕ := kInvalidDestination
  deriving DecidableEq, Repr

def BufferHandle.validForPairCount (h : BufferHandle) (expected : ℕ) : Bool :=
  h.pairs.isSome && decide (h.bufferIndex < kAdcDmaRingDepth) && expected != 0 &&
    decide (expected ≤ kAdcPairsPerFrame) && h.pairCount == expected && h.epoch != 0 &&
    h.lease != 0

structure ChannelStopState where
  generation : UInt32 := 0
  minorPairs : ℕ := 0
  destination : ℕ := kInvalidDestination
  deriving DecidableEq, Repr

structure StopReport where
  status : OperationStatus := .notRunning
  pairsDiscarded : ℕ := 0
  buffersDiscarded : ℕ := 0
  readyBuffersToDrain : ℕ := 0
  readingBuffersToRelease : ℕ := 0
  deriving DecidableEq, Repr

def isBufferDestination (destination : ℕ) : Bool := decide (destination < kAdcDmaRingDepth)

def isDmaDestination (destination : ℕ) : Bool :=
  isBufferDestination destination || destination == kOverflowDestination

def absoluteDifference (left right : ℕ) : ℕ := if right ≤ left then left - right else right - left

namespace PairCaptureRing

def findGeneration (r : PairCaptureRing) (generation : UInt32) : Option ℕ :=
  r.toBarrier.findGeneration kGenerationSlotCount generation

def noteInvariantError (r : PairCaptureRing) : PairCaptureRing :=
  { r with progress := r.progress.invariantError }

def scheduleGeneration (r : PairCaptureRing) (generation : UInt32) : PairCaptureRing × Option ℕ :=
  let out := r.toBarrier.scheduleGeneration kAdcDmaRingDepth kGenerationSlotCount
    (fun first => some (satAdd u64Max first r.pairsPerBuffer)) (fun _ => 0) generation
  ({ r with
      toBarrier := out.1
      progress := if out.2.2 then r.progress.invariantError else r.progress }, out.2.1)

def markOutstandingInvalid (r : PairCaptureRing) : PairCaptureRing :=
  { r with toBarrier := r.toBarrier.markOutstandingInvalid }

def markGenerationInvalid (r : PairCaptureRing) (generation : UInt32) (minimumLostPairs : ℕ) :
    PairCaptureRing :=
  match r.findGeneration generation with
  | none => { r with progress := r.progress.exhausted.invariantError }
  | some j =>
    { r with toBarrier := r.toBarrier.markSlot j (max (r.slots j).extra minimumLostPairs) }

/-- The members that `prime` resets before it schedules. -/
def rewound (r : PairCaptureRing) (epoch initialGeneration : UInt32)
    (firstPair pairsPerBuffer : ℕ) : PairCaptureRing :=
  { r with
    toCore := r.toCore.primed epoch initialGeneration firstPair
    nextFreeSearch := 0
    progress := {}
    pairsPerBuffer := pairsPerBuffer }

/-- `prime` gives up: no generation and no buffer stays in use. -/
def rolledBack (r : PairCaptureRing) : PairCaptureRing :=
  { r.noteInvariantError with
    running := false
    epoch := 0
    slots := fun _ => GenerationSlot.empty
    records := fun _ => {} }

def prime (r : PairCaptureRing) (epoch initialGeneration : UInt32) (firstPair : UInt64)
    (pairsPerBuffer : UInt32) : PairCaptureRing × PrimeResult :=
  let result : PrimeResult :=
    { epoch := epoch
      activeGeneration := initialGeneration
      queuedGeneration := initialGeneration + 1 }
  if epoch = 0 then (r, { result with status := .invalidEpoch })
  else if pairsPerBuffer.toNat = 0 ∨ kAdcPairsPerFrame < pairsPerBuffer.toNat then
    (r, { result with status := .invalidPairCount })
  else if r.running then (r, { result with status := .alreadyRunning })
  else if !r.allBuffersFree kAdcDmaRingDepth then (r, { result with status := .notQuiescent })
  else
    let active := (r.rewound epoch initialGeneration firstPair.toNat
      pairsPerBuffer.toNat).scheduleGeneration initialGeneration
    let queued := active.1.scheduleGeneration (initialGeneration + 1)
    match active.2, queued.2 with
    | some a, some q =>
      let activeDestination := (queued.1.slots a).destination
      let queuedDestination := (queued.1.slots q).destination
      if isBufferDestination activeDestination && isBufferDestination queuedDestination &&
          activeDestination != queuedDestination then
        -- One discard for each buffer and one for the overflow sink.
        ({ queued.1 with progress := { queued.1.progress with
            cacheDmaDiscards := satAdd u32Max queued.1.progress.cacheDmaDiscards
              (kAdcDmaRingDepth + 1) } },
          { result with
            status := .ok
            activeDestination := activeDestination
            queuedDestination := queuedDestination })
      else (queued.1.rolledBack, { result with status := .notQuiescent })
    | _, _ => (queued.1.rolledBack, { result with status := .notQuiescent })

def reserveGeneration (r : PairCaptureRing) (epoch generation : UInt32) :
    PairCaptureRing × ReservationResult :=
  let result : ReservationResult := { epoch := epoch, generation := generation }
  if !r.running then (r, { result with status := .notRunning })
  else if epoch = 0 ∨ epoch ≠ r.epoch then (r, { result with status := .invalidEpoch })
  else
    let out := r.scheduleGeneration generation
    match out.2 with
    | none => (out.1, { result with status := .invalidCompletion })
    | some j => (out.1, { result with status := .ok, destination := (out.1.slots j).destination })

/-- `finalizeGeneration`, with whether the pair is ready and whether it is lost. -/
def finalizeGeneration (r : PairCaptureRing) (j : ℕ) : PairCaptureRing × Bool × Bool :=
  let slot := r.slots j
  let p := { r.progress with
    pairedMajorLoops := inc64 r.progress.pairedMajorLoops
    pairsCaptured := satAdd u64Max r.progress.pairsCaptured r.pairsPerBuffer }
  let lost := satAdd u64Max p.pairsLost r.pairsPerBuffer
  let cleared := Function.update r.slots j GenerationSlot.empty
  if slot.destination = kOverflowDestination then
    ({ r with
        slots := cleared
        progress := { p with ringOverruns := inc64 p.ringOverruns, pairsLost := lost } },
      false, true)
  else if !isBufferDestination slot.destination then
    ({ r with
        slots := cleared
        progress := { p.invariantError with
          incompleteBuffers := inc64 p.incompleteBuffers
          pairsLost := lost } }, false, true)
  else
    let record := r.records slot.destination
    let ownershipMatches := decide (record.state = .dmaOwned ∧ record.epoch = r.epoch ∧
      record.generation = slot.generation)
    let p := if ownershipMatches then p else p.invariantError
    if slot.invalidData || !ownershipMatches then
      ({ r with
          records := if ownershipMatches then
              Function.update r.records slot.destination { record with state := .discardPending }
            else r.records
          slots := cleared
          progress := { p with
            incompleteBuffers := inc64 p.incompleteBuffers
            pairsLost := lost } }, false, true)
    else
      let published := r.toBarrier.setState slot.destination .ready
      ({ r with
          records := published.records
          slots := cleared
          progress := { p with
            buffersCompleted := inc64 p.buffersCompleted
            readyHighWater := max p.readyHighWater
              (published.countState kAdcDmaRingDepth .ready) } }, true, false)

/-- The report of a converter, once its slot is known: the mask, the next
generation and the counters of the channel. -/
def reported (r : PairCaptureRing) (converter j : ℕ) : PairCaptureRing :=
  { r with
    toCore := r.toCore.report converter j
    progress := { r.progress with
      channelMajorLoops := Function.update r.progress.channelMajorLoops converter
        (inc64 (r.progress.channelMajorLoops converter))
      channelResults := Function.update r.progress.channelResults converter
        (satAdd u64Max (r.progress.channelResults converter) r.pairsPerBuffer) } }

/-- A destination that contradicts the slot's spoils the generation. -/
def checkDestination (r : PairCaptureRing) (j destination : ℕ) : PairCaptureRing × Bool :=
  if destination ≠ (r.slots j).destination ∨ !isDmaDestination destination then
    ({ r with
        toBarrier := r.toBarrier.markSlot j (r.slots j).extra
        progress := { r.progress with
          destinationMismatches := inc32 r.progress.destinationMismatches
          completionMismatches := inc32 r.progress.completionMismatches } }, false)
  else (r, true)

/-- Channels more than one loop apart spoil everything in flight. -/
def checkSkew (r : PairCaptureRing) : PairCaptureRing × Bool :=
  if 1 < absoluteDifference (r.progress.channelMajorLoops 0) (r.progress.channelMajorLoops 1) then
    ({ r with progress := r.progress.mismatch }.markOutstandingInvalid, false)
  else (r, true)

/-- Schedule the generation after next; without a slot everything in flight is
spoiled and the channel continues into the overflow sink. -/
def scheduleFuture (r : PairCaptureRing) (generation : UInt32) : PairCaptureRing × ℕ × Bool :=
  let out := r.scheduleGeneration generation
  match out.2 with
  | none =>
    ({ out.1 with progress := out.1.progress.exhausted }.markOutstandingInvalid,
      kOverflowDestination, false)
  | some k => (out.1, (out.1.slots k).destination, true)

def onMajorLoopComplete (r : PairCaptureRing) (converter : ℕ) (epoch generation : UInt32)
    (destination : ℕ) : PairCaptureRing × CompletionResult :=
  let result : CompletionResult :=
    { converter := converter
      epoch := epoch
      completedGeneration := generation
      completedDestination := destination
      futureGeneration := generation + 2 }
  if !r.running then
    ({ r with progress := r.progress.stale }, { result with status := .notRunning })
  else if epoch = 0 ∨ epoch ≠ r.epoch then
    ({ r with progress := r.progress.stale }, { result with status := .invalidEpoch })
  else if ¬converter < kConverterCount then
    (r.noteInvariantError, { result with status := .invalidConverter })
  else if generation ≠ r.nextCompletion converter then
    ({ r with progress := r.progress.stale.mismatch }, result)
  else match r.findGeneration generation with
  | none =>
    ({ r with
        toCore := r.toCore.skip converter
        progress := r.progress.exhausted.mismatch.invariantError },
      { result with consumed := true, pairLost := true })
  | some j =>
    if (r.slots j).completionMask.testBit converter then
      ({ r with progress := r.progress.stale.mismatch }, result)
    else
      let placed := r.checkDestination j destination
      let skewed := (placed.1.reported converter j).checkSkew
      let future := skewed.1.scheduleFuture (generation + 2)
      let mask := (future.1.slots j).completionMask
      let result := { result with
        completionMask := mask
        consumed := true
        futureDestination := future.2.1
        status := if placed.2 && skewed.2 && future.2.2 then .ok else .invalidCompletion }
      if mask = kAllConvertersMask then
        let done := future.1.finalizeGeneration j
        (done.1, { result with pairReady := done.2.1, pairLost := done.2.2 })
      else (future.1, result)

/-- An overwrite in one converter spoils the generation it is at. -/
def overwritten (r : PairCaptureRing) (known : UInt8) (converter : ℕ) : PairCaptureRing :=
  if known.toNat.testBit converter then
    { r with progress := { r.progress with
        overwrittenConversions := inc64 r.progress.overwrittenConversions } }.markGenerationInvalid
      (r.nextCompletion converter) 1
  else r

def recordAdcEtcError (r : PairCaptureRing) (epoch : UInt32) (converterMask : UInt8)
    (rawFlags : UInt32) : PairCaptureRing :=
  if !r.running ∨ epoch = 0 ∨ epoch ≠ r.epoch then r
  else
    let known := converterMask &&& 3
    let r := if known = 0 ∨ known ≠ converterMask then r.noteInvariantError else r
    let r := { r with progress := { r.progress with
      adcEtcErrorEvents := inc32 r.progress.adcEtcErrorEvents
      adcEtcErrorFlags := r.progress.adcEtcErrorFlags ||| rawFlags } }
    (r.overwritten known 0).overwritten known 1

def recordDmaError (r : PairCaptureRing) (epoch : UInt32) (converter : ℕ) : PairCaptureRing :=
  if !r.running ∨ epoch = 0 ∨ epoch ≠ r.epoch then r
  else if ¬converter < kConverterCount then r.noteInvariantError
  else
    { r with progress := { r.progress with
        dmaErrorEvents := inc32 r.progress.dmaErrorEvents } }.markGenerationInvalid
      (r.nextCompletion converter) 0

/-- `acquireReady` after its `serviceDiscarded`. -/
def acquireReady (r : PairCaptureRing) : PairCaptureRing × Option BufferHandle :=
  match r.toBarrier.lease kAdcDmaRingDepth with
  | none => (r, none)
  | some (selected, b) =>
    ({ r with
        toBarrier := b
        progress := { r.progress with
          buffersAcquired := inc64 r.progress.buffersAcquired
          pairsDelivered := satAdd u64Max r.progress.pairsDelivered r.pairsPerBuffer
          cacheCpuInvalidations := inc32 r.progress.cacheCpuInvalidations } },
      some ⟨some selected, (b.records selected).first, r.pairsPerBuffer, (b.records selected).epoch,
        (b.records selected).lease, selected⟩)

def handleMatches (r : PairCaptureRing) (h : BufferHandle) (state : BufferState) : Bool :=
  h.validForPairCount r.pairsPerBuffer && decide ((r.records h.bufferIndex).state = state) &&
    decide ((r.records h.bufferIndex).epoch = h.epoch) &&
    decide ((r.records h.bufferIndex).lease = h.lease) &&
    decide ((r.records h.bufferIndex).first = h.firstPair) &&
    decide (h.pairs = some h.bufferIndex)

/-- The first critical section of `release`. -/
def beginRelease (r : PairCaptureRing) (h : BufferHandle) : PairCaptureRing × Bool :=
  if r.handleMatches h .reading then
    ({ r with toBarrier := r.toBarrier.setState h.bufferIndex .releasing }, true)
  else (r, false)

/-- The cache discard and the second critical section of `release`. -/
def endRelease (r : PairCaptureRing) (h : BufferHandle) : PairCaptureRing × OperationStatus :=
  let r := { r with progress := { r.progress with
    cacheDmaDiscards := inc32 r.progress.cacheDmaDiscards } }
  if !r.handleMatches h .releasing then (r.noteInvariantError, .invalidHandle)
  else
    ({ r with
        toBarrier := r.toBarrier.clear h.bufferIndex
        progress := { r.progress with
          buffersReleased := inc64 r.progress.buffersReleased } }, .ok)

/-- The first critical section of one round of `serviceDiscarded`. -/
def beginDiscard (r : PairCaptureRing) : PairCaptureRing × Option ℕ :=
  match r.toBarrier.selectDiscarded kAdcDmaRingDepth with
  | none => (r, none)
  | some i => ({ r with toBarrier := r.toBarrier.setState i .releasing }, some i)

/-- The cache discard and the second critical section of that round. -/
def endDiscard (r : PairCaptureRing) (i : ℕ) : PairCaptureRing × Bool :=
  let r := { r with progress := { r.progress with
    cacheDmaDiscards := inc32 r.progress.cacheDmaDiscards } }
  if (r.records i).state ≠ .releasing then (r.noteInvariantError, false)
  else ({ r with toBarrier := r.toBarrier.clear i }, true)

/-- `serviceDiscarded` when no callback comes between its sections. -/
def serviceDiscarded (r : PairCaptureRing) : ℕ → PairCaptureRing
  | 0 => r
  | limit + 1 =>
    match r.beginDiscard with
    | (_, none) => r
    | (begun, some i) =>
      if (begun.endDiscard i).2 then (begun.endDiscard i).1.serviceDiscarded limit
      else (begun.endDiscard i).1

/-- What a converter contributed to a slot when the ring stops. -/
def contributed (r : PairCaptureRing) (slot : GenerationSlot ℕ) (channel : ChannelStopState)
    (converter : ℕ) : ℕ :=
  if slot.completionMask.testBit converter then r.pairsPerBuffer
  else if channel.generation = slot.generation then min channel.minorPairs r.pairsPerBuffer
  else 0

/-- The stopped channel was not writing where the slot says. -/
def misplaced (slot : GenerationSlot ℕ) (channel : ChannelStopState) (converter : ℕ) : Bool :=
  !slot.completionMask.testBit converter && channel.generation == slot.generation &&
    channel.destination != slot.destination

/-- The counters after a slot was dropped by `stop`. -/
def stopProgress (r : PairCaptureRing) (slot : GenerationSlot ℕ)
    (channels : ℕ → ChannelStopState) : Progress × ℕ :=
  let c0 := r.contributed slot (channels 0) 0
  let c1 := r.contributed slot (channels 1) 1
  let lost := max (max c0 c1) slot.extra
  let p := r.progress
  let p := if misplaced slot (channels 0) 0 then
      { p with destinationMismatches := inc32 p.destinationMismatches } else p
  let p := if misplaced slot (channels 1) 1 then
      { p with destinationMismatches := inc32 p.destinationMismatches } else p
  let p := if lost ≠ 0 then
      let p := { p with
        pairsCaptured := satAdd u64Max p.pairsCaptured lost
        pairsLost := satAdd u64Max p.pairsLost lost
        stopDiscardedPairs := satAdd u64Max p.stopDiscardedPairs lost }
      if slot.destination = kOverflowDestination then
        { p with ringOverruns := inc64 p.ringOverruns }
      else { p with incompleteBuffers := inc64 p.incompleteBuffers }
    else p
  let p := if absoluteDifference c0 c1 ≠ 0 then
      { p.mismatch with
        incompleteConversions :=
          satAdd u64Max p.incompleteConversions (absoluteDifference c0 c1) }
    else p
  (p, lost)

/-- `stop` drops slot `j`; the flag says that the progress it was told is
consistent. -/
def stopSlot (channels : ℕ → ChannelStopState) (s : PairCaptureRing × StopReport × Bool) (j : ℕ) :
    PairCaptureRing × StopReport × Bool :=
  let (r, report, validProgress) := s
  let slot := r.slots j
  if !slot.valid then s
  else
    let (p, lost) := r.stopProgress slot channels
    let report := { report with pairsDiscarded := satAdd u64Max report.pairsDiscarded lost }
    let validProgress := validProgress && !misplaced slot (channels 0) 0 &&
      !misplaced slot (channels 1) 1
    let cleared := Function.update r.slots j GenerationSlot.empty
    if isBufferDestination slot.destination then
      let record := r.records slot.destination
      if record.state ≠ .dmaOwned ∨ record.epoch ≠ r.epoch ∨ record.generation ≠ slot.generation then
        ({ r with slots := cleared, progress := p.invariantError }, report, false)
      else
        ({ r with
            records := Function.update r.records slot.destination
              { record with state := .discardPending }
            slots := cleared
            progress := p },
          { report with buffersDiscarded := report.buffersDiscarded + 1 }, validProgress)
    else ({ r with slots := cleared, progress := p }, report, validProgress)

/-- The progress that `stop` is told agrees with the ring. -/
def stopAgrees (r : PairCaptureRing) (channels : ℕ → ChannelStopState) : Bool :=
  (List.range kConverterCount).all fun converter =>
    decide ((channels converter).minorPairs ≤ r.pairsPerBuffer) &&
      isDmaDestination (channels converter).destination &&
      decide ((channels converter).generation = r.nextCompletion converter)

/-- `stop` up to its `serviceDiscarded`. -/
def stop (r : PairCaptureRing) (channels : ℕ → ChannelStopState) : PairCaptureRing × StopReport :=
  if !r.running then (r, {})
  else
    let out := (List.range kGenerationSlotCount).foldl (stopSlot channels)
      ({ r with running := false }, {}, r.stopAgrees channels)
    (out.1, { out.2.1 with
      readyBuffersToDrain := out.1.countState kAdcDmaRingDepth .ready
      readingBuffersToRelease := out.1.countState kAdcDmaRingDepth .reading
      status := if out.2.2 then .ok else .invalidStopProgress })

end PairCaptureRing

/-! ### What an operation does to the barrier -/

namespace PairCaptureRing

/-- Until it reaches its maximum, the captured count is the lost pairs and the
completed buffers. -/
def Books (r : PairCaptureRing) : Prop :=
  Balanced u64Max r.pairsPerBuffer r.progress.pairsCaptured r.progress.pairsLost
    r.progress.buffersCompleted

/-- A report agrees with a generation when it names its destination. -/
def expects (destination _first : ℕ) : ℕ := destination

/-- The size of a block and the balance survive. -/
structure Keeps (r r' : PairCaptureRing) : Prop where
  pairs : r'.pairsPerBuffer = r.pairsPerBuffer
  books : r.Books → r'.Books

theorem Keeps.trans {r r' r'' : PairCaptureRing} (h : Keeps r r') (h' : Keeps r' r'') : Keeps r r'' :=
  ⟨h'.pairs.trans h.pairs, fun hb => h'.books (h.books hb)⟩

theorem checkDestination_marks (r : PairCaptureRing) (j destination : ℕ) :
    Barrier.Marks r.toBarrier (r.checkDestination j destination).1.toBarrier ∧
      (((r.checkDestination j destination).1.slots j).invalidData = true ∨
        destination = (r.slots j).destination) ∧ Keeps r (r.checkDestination j destination).1 := by
  unfold checkDestination
  by_cases hbad : destination ≠ (r.slots j).destination ∨ !isDmaDestination destination
  · rw [if_pos hbad]
    exact ⟨r.toBarrier.markSlot_marks j _, Or.inl (r.toBarrier.markSlot_invalid j _), rfl, id⟩
  · rw [if_neg hbad]
    exact ⟨Barrier.Marks.of_core rfl, Or.inr (not_ne_iff.mp fun hne => hbad (Or.inl hne)), rfl, id⟩

theorem checkSkew_marks (r : PairCaptureRing) :
    Barrier.Marks r.toBarrier r.checkSkew.1.toBarrier ∧ Keeps r r.checkSkew.1 := by
  unfold checkSkew
  split
  · exact ⟨r.toBarrier.markOutstandingInvalid_marks, rfl, id⟩
  · exact ⟨Barrier.Marks.of_core rfl, rfl, id⟩

theorem scheduleGeneration_keeps (r : PairCaptureRing) (generation : UInt32) :
    Keeps r (r.scheduleGeneration generation).1 := by
  refine ⟨rfl, fun hb => ?_⟩
  simp only [Books, scheduleGeneration] at hb ⊢
  split
  · exact hb
  · exact hb

theorem scheduleFuture_marks (r : PairCaptureRing) (generation : UInt32) :
    Barrier.Marks (r.scheduleGeneration generation).1.toBarrier
      (r.scheduleFuture generation).1.toBarrier ∧ Keeps r (r.scheduleFuture generation).1 := by
  have hkeeps := r.scheduleGeneration_keeps generation
  unfold scheduleFuture
  cases hsome : (r.scheduleGeneration generation).2 with
  | none =>
    simp only [hsome]
    exact ⟨Barrier.markOutstandingInvalid_marks _, hkeeps.pairs, hkeeps.books⟩
  | some k =>
    simp only [hsome]
    exact ⟨Barrier.Marks.of_core rfl, hkeeps⟩

/-- A finished generation is accounted for. -/
theorem finalizeGeneration_keeps (r : PairCaptureRing) (hpos : 0 < r.pairsPerBuffer) (j : ℕ) :
    Keeps r (r.finalizeGeneration j).1 := by
  unfold finalizeGeneration
  dsimp only
  by_cases hover : (r.slots j).destination = kOverflowDestination
  · rw [if_pos hover]
    exact ⟨rfl, fun hb => hb.lose r.pairsPerBuffer⟩
  rw [if_neg hover]
  by_cases hbuf : isBufferDestination (r.slots j).destination = true
  swap
  · rw [if_pos (by simpa using hbuf)]
    exact ⟨rfl, fun hb => hb.lose r.pairsPerBuffer⟩
  rw [if_neg (by simpa using hbuf)]
  split
  · refine ⟨rfl, fun hb => ?_⟩
    simp only [Books]
    split
    · exact hb.lose r.pairsPerBuffer
    · exact hb.lose r.pairsPerBuffer
  · refine ⟨rfl, fun hb => ?_⟩
    simp only [Books]
    split
    · exact hb.complete hpos
    · exact hb.complete hpos

/-- A finished generation is published or lost. -/
theorem finalizeGeneration_finalizes {r : PairCaptureRing} {j : ℕ}
    (htarget : (r.slots j).destination ≤ 8)
    (hown : (r.slots j).destination < 8 → r.records (r.slots j).destination =
      ⟨.dmaOwned, r.epoch, (r.slots j).generation, (r.slots j).first, 0⟩) :
    Barrier.Finalizes 8 j r.toBarrier (r.finalizeGeneration j).1.toBarrier := by
  unfold finalizeGeneration Barrier.Finalizes
  dsimp only
  by_cases hover : (r.slots j).destination = kOverflowDestination
  · rw [if_pos hover]
    refine Or.inl ?_
    simp only [Core.settle, hover, Nat.lt_irrefl, if_false]
  · have hlt : (r.slots j).destination < 8 := by
      simp only [kOverflowDestination] at hover
      omega
    rw [if_neg hover, if_neg (by simpa [isBufferDestination] using hlt)]
    -- The record is the one the slot was scheduled with.
    have hmatch : decide ((r.records (r.slots j).destination).state = .dmaOwned ∧
        (r.records (r.slots j).destination).epoch = r.epoch ∧
        (r.records (r.slots j).destination).generation = (r.slots j).generation) = true := by
      rw [hown hlt]
      simp
    simp only [hmatch, Bool.not_true, Bool.or_false, if_true]
    by_cases hbad : (r.slots j).invalidData = true
    · simp only [hbad, if_true]
      refine Or.inl ?_
      simp only [Core.settle, Core.setState, hlt, if_true]
    · have hclean : (r.slots j).invalidData = false := by simpa using hbad
      simp only [hclean, Bool.false_eq_true, if_false]
      refine Or.inr ⟨trivial, hlt, ?_⟩
      simp only [Core.settle, Core.setState, Barrier.setState, hlt, if_true]

/-- The callback is of the running epoch. -/
def Hears (r : PairCaptureRing) (epoch : UInt32) : Prop :=
  r.running = true ∧ epoch ≠ 0 ∧ epoch = r.epoch

instance (r : PairCaptureRing) (epoch : UInt32) : Decidable (r.Hears epoch) :=
  inferInstanceAs (Decidable (r.running = true ∧ epoch ≠ 0 ∧ epoch = r.epoch))

/-- The generation a converter is at has a slot. -/
def OnSchedule (r : PairCaptureRing) (converter : ℕ) : Prop :=
  (r.findGeneration (r.nextCompletion converter)).isSome

instance (r : PairCaptureRing) (converter : ℕ) : Decidable (r.OnSchedule converter) :=
  inferInstanceAs (Decidable ((r.findGeneration (r.nextCompletion converter)).isSome = true))

theorem Hears.not_ignored {r : PairCaptureRing} {epoch : UInt32} (h : r.Hears epoch) :
    ¬((!r.running) = true ∨ epoch = 0 ∨ epoch ≠ r.epoch) := by
  rintro (hoff | hzero | hold)
  · rw [h.1] at hoff
    cases hoff
  · exact h.2.1 hzero
  · exact hold h.2.2

theorem ignored_of_not_hears {r : PairCaptureRing} {epoch : UInt32} (h : ¬r.Hears epoch) :
    (!r.running) = true ∨ epoch = 0 ∨ epoch ≠ r.epoch := by
  by_contra hcon
  push Not at hcon
  exact h ⟨by simpa using hcon.1, hcon.2.1, hcon.2.2⟩

theorem markGenerationInvalid_marks (r : PairCaptureRing) (generation : UInt32) (lost : ℕ) :
    Barrier.Marks r.toBarrier (r.markGenerationInvalid generation lost).toBarrier ∧
      (∀ j, r.findGeneration generation = some j →
        ((r.markGenerationInvalid generation lost).slots j).invalidData = true) ∧
      Keeps r (r.markGenerationInvalid generation lost) := by
  unfold markGenerationInvalid
  cases hfind : r.findGeneration generation with
  | none =>
    refine ⟨Barrier.Marks.of_core rfl, ?_, rfl, id⟩
    intro j hj
    cases hj
  | some j =>
    refine ⟨r.toBarrier.markSlot_marks j _, fun k hk => ?_, rfl, id⟩
    cases hk
    exact r.toBarrier.markSlot_invalid j _

/-! ### Stopping -/

/-- The counters after `stop` dropped a slot keep the balance. -/
theorem stopProgress_books {r : PairCaptureRing} (hb : r.Books) (slot : GenerationSlot ℕ)
    (channels : ℕ → ChannelStopState) :
    Balanced u64Max r.pairsPerBuffer (r.stopProgress slot channels).1.pairsCaptured
      (r.stopProgress slot channels).1.pairsLost
      (r.stopProgress slot channels).1.buffersCompleted := by
  unfold stopProgress
  dsimp only
  generalize max (max (r.contributed slot (channels 0) 0) (r.contributed slot (channels 1) 1))
    slot.extra = lost
  by_cases hlost : lost = 0
  · simp only [hlost, ne_eq, not_true_eq_false, if_false]
    split_ifs <;> exact hb
  · simp only [ne_eq, hlost, not_false_eq_true, if_true]
    split_ifs <;> exact hb.lose lost

theorem stopSlot_core {r : PairCaptureRing} (hown : Owned 8 12 r.toCore) {j : ℕ} (hj : j < 12)
    (channels : ℕ → ChannelStopState) (report : StopReport) (agrees : Bool) :
    (stopSlot channels (r, report, agrees) j).1.toCore = r.toCore.drop 8 j ∧
      (stopSlot channels (r, report, agrees) j).1.pairsPerBuffer = r.pairsPerBuffer ∧
      (r.Books → (stopSlot channels (r, report, agrees) j).1.Books) := by
  unfold stopSlot Core.drop
  dsimp only
  by_cases hvalid : (r.slots j).valid = true
  swap
  · have hoff : (r.slots j).valid = false := by simpa using hvalid
    simp only [hoff, Bool.not_false, Bool.false_eq_true, if_true, if_false]
    exact ⟨trivial, trivial, id⟩
  simp only [hvalid, Bool.not_true, Bool.false_eq_true, if_false, if_true]
  have hbooks : r.Books → _ := fun hb => stopProgress_books hb (r.slots j) channels
  by_cases hlt : (r.slots j).destination < 8
  · have hrec := hown.owned j hj hvalid hlt
    have hbuf : isBufferDestination (r.slots j).destination = true := decide_eq_true hlt
    have hagree : ¬((r.records (r.slots j).destination).state ≠ .dmaOwned ∨
        (r.records (r.slots j).destination).epoch ≠ r.epoch ∨
        (r.records (r.slots j).destination).generation ≠ (r.slots j).generation) := by
      rw [hrec]
      simp
    simp only [hbuf, if_true, if_neg hagree]
    refine ⟨?_, trivial, hbooks⟩
    simp only [Core.settle, Core.setState, if_pos hlt]
  · have hbuf : isBufferDestination (r.slots j).destination = false := decide_eq_false hlt
    simp only [hbuf, Bool.false_eq_true, if_false]
    refine ⟨?_, trivial, hbooks⟩
    simp only [Core.settle, if_neg hlt]

/-- `stop` drops the slots one after another. -/
theorem stopSlots_core (channels : ℕ → ChannelStopState) (js : List ℕ) (hjs : ∀ j ∈ js, j < 12)
    {s : PairCaptureRing × StopReport × Bool} (hown : Owned 8 12 s.1.toCore) :
    (js.foldl (stopSlot channels) s).1.toCore = js.foldl (fun c j => c.drop 8 j) s.1.toCore ∧
      (js.foldl (stopSlot channels) s).1.pairsPerBuffer = s.1.pairsPerBuffer ∧
      (s.1.Books → (js.foldl (stopSlot channels) s).1.Books) := by
  induction js generalizing s with
  | nil => exact ⟨rfl, rfl, id⟩
  | cons j js ih =>
    obtain ⟨hcore, hpairs, hbooks⟩ := stopSlot_core hown (hjs j (by simp)) channels s.2.1 s.2.2
    have hnext : Owned 8 12 (stopSlot channels s j).1.toCore := by
      rw [show s = (s.1, s.2.1, s.2.2) from rfl, hcore]
      exact hown.drop (hjs j (by simp))
    obtain ⟨hcore', hpairs', hbooks'⟩ := ih (fun k hk => hjs k (by simp [hk])) hnext
    simp only [List.foldl_cons]
    refine ⟨?_, hpairs'.trans hpairs, fun hb => hbooks' (hbooks hb)⟩
    rw [hcore', hcore]

theorem stop_core {r : PairCaptureRing} {g : Ghost ℕ} (hinv : Inv 8 12 u64Max ⟨r.toCore, g⟩)
    (hrun : r.running = true) (channels : ℕ → ChannelStopState) :
    (r.stop channels).1.toCore = r.toCore.halt 8 12 ∧
      (r.stop channels).1.pairsPerBuffer = r.pairsPerBuffer ∧
      (r.Books → (r.stop channels).1.Books) := by
  unfold stop
  rw [if_neg (by simpa using hrun)]
  have hown : Owned 8 12 ({ r.toCore with running := false } : Core ℕ) :=
    ⟨hinv.toOwned.owned, hinv.toOwned.apart⟩
  obtain ⟨hcore, hpairs, hbooks⟩ := stopSlots_core channels (List.range 12)
    (s := ({ r with running := false }, {}, r.stopAgrees channels))
    (fun j hj => List.mem_range.mp hj) hown
  refine ⟨?_, hpairs, hbooks⟩
  exact hcore.trans hinv.drop_all

end PairCaptureRing

/-! ### Runs -/

/-- A ring with what an observer knows about it. -/
structure Machine where
  ring : PairCaptureRing := PairCaptureRing.initial
  seen : Observed ℕ := { width := kAdcPairsPerFrame }

inductive Op
  | prime (epoch initialGeneration : UInt32) (firstPair : UInt64) (pairsPerBuffer : UInt32)
  | reserveGeneration (epoch generation : UInt32)
  | onMajorLoopComplete (converter : ℕ) (epoch generation : UInt32) (destination : ℕ)
  | recordAdcEtcError (epoch : UInt32) (converterMask : UInt8) (rawFlags : UInt32)
  | recordDmaError (epoch : UInt32) (converter : ℕ)
  | acquireReady
  | beginRelease (handle : BufferHandle)
  | endRelease (handle : BufferHandle)
  | beginDiscard
  | endDiscard (i : ℕ)
  | stop (channels : ℕ → ChannelStopState)

namespace Machine

/-- The converters of a mask failed. -/
def failing (o : Observed ℕ) (known : UInt8) : Observed ℕ :=
  let o := if known.toNat.testBit 0 then o.fail 0 else o
  if known.toNat.testBit 1 then o.fail 1 else o

def step (m : Machine) : Op → Machine
  | .prime epoch generation firstPair pairs =>
    let out := m.ring.prime epoch generation firstPair pairs
    ⟨out.1, if out.2.status = .ok then { first := firstPair.toNat, width := pairs.toNat }
      else m.seen⟩
  | .reserveGeneration epoch generation =>
    { m with ring := (m.ring.reserveGeneration epoch generation).1 }
  | .onMajorLoopComplete converter epoch generation destination =>
    let out := m.ring.onMajorLoopComplete converter epoch generation destination
    ⟨out.1, bif out.2.consumed then m.seen.report converter destination else m.seen⟩
  | .recordAdcEtcError epoch mask flags =>
    ⟨m.ring.recordAdcEtcError epoch mask flags,
      if m.ring.Hears epoch then failing m.seen (mask &&& 3) else m.seen⟩
  | .recordDmaError epoch converter =>
    ⟨m.ring.recordDmaError epoch converter,
      if m.ring.Hears epoch ∧ converter < kConverterCount then m.seen.fail converter else m.seen⟩
  | .acquireReady =>
    let out := m.ring.acquireReady
    ⟨out.1, match out.2 with
      | none => m.seen
      | some handle => m.seen.lend handle.bufferIndex handle.firstPair⟩
  | .beginRelease handle =>
    let out := m.ring.beginRelease handle
    ⟨out.1, if out.2 then m.seen.takeBack handle.bufferIndex else m.seen⟩
  | .endRelease handle => { m with ring := (m.ring.endRelease handle).1 }
  | .beginDiscard => { m with ring := m.ring.beginDiscard.1 }
  | .endDiscard i => { m with ring := (m.ring.endDiscard i).1 }
  | .stop channels => { m with ring := (m.ring.stop channels).1 }

def run (m : Machine) (ops : List Op) : Machine := ops.foldl step m

/-- A callback that the ring acts on comes while the generation its channel is
at has a slot. -/
def keepsSchedule (m : Machine) : Op → Bool
  | .onMajorLoopComplete converter epoch generation _ =>
    decide (m.ring.Hears epoch → converter < kConverterCount →
      generation = m.ring.nextCompletion converter → m.ring.OnSchedule converter)
  | .recordAdcEtcError epoch mask _ =>
    decide (m.ring.Hears epoch → ∀ converter < kConverterCount,
      (mask &&& 3).toNat.testBit converter = true → m.ring.OnSchedule converter)
  | .recordDmaError epoch converter =>
    decide (m.ring.Hears epoch → converter < kConverterCount → m.ring.OnSchedule converter)
  | _ => true

/-- Every step of a run keeps to the schedule. -/
def onSchedule (m : Machine) : List Op → Bool
  | [] => true
  | op :: ops => m.keepsSchedule op && (m.step op).onSchedule ops

end Machine

/-- The observed behaviour is a join barrier's, and the counters balance. -/
structure Sound (strict : Bool) (m : Machine) : Prop where
  good : Good 8 12 strict PairCaptureRing.expects m.ring.toBarrier m.seen
  width : m.seen.width = m.ring.pairsPerBuffer
  positive : 0 < m.ring.pairsPerBuffer
  books : m.ring.Books

namespace Sound

variable {strict : Bool} {m : Machine}

theorem initial (strict : Bool) : Sound strict {} := by
  refine ⟨Good.initial (by decide) (fun _ _ => rfl) ?_, rfl, by decide, fun _ => rfl⟩
  ext1
  · funext i
    simp [Core.halt, Core.primed, PairCaptureRing.initial]
  · funext j
    simp only [Core.halt]
    split <;> rfl
  all_goals rfl

/-- A step that only counts. -/
theorem count (h : Sound strict m) {r : PairCaptureRing} (hbarrier : r.toBarrier = m.ring.toBarrier)
    (hpairs : r.pairsPerBuffer = m.ring.pairsPerBuffer) (hbooks : m.ring.Books → r.Books) :
    Sound strict ⟨r, m.seen⟩ :=
  ⟨hbarrier ▸ h.good, h.width.trans hpairs.symm, hpairs ▸ h.positive, hbooks h.books⟩

theorem scheduleGeneration (h : Sound strict m) (hrun : m.ring.running = true)
    (generation : UInt32) : Sound strict ⟨(m.ring.scheduleGeneration generation).1, m.seen⟩ := by
  refine ⟨h.good.schedule (by decide) _ _ generation hrun ?_, h.width, h.positive, ?_⟩
  · intro nf hnf
    cases hnf
    rw [h.width]
  · have hb := h.books
    simp only [PairCaptureRing.Books, PairCaptureRing.scheduleGeneration] at hb ⊢
    split
    · exact hb
    · exact hb

theorem reserveGeneration (h : Sound strict m) (epoch generation : UInt32) :
    Sound strict (m.step (.reserveGeneration epoch generation)) := by
  simp only [Machine.step, PairCaptureRing.reserveGeneration]
  by_cases hrun : m.ring.running = true
  swap
  · rw [if_pos (by simpa using hrun)]
    exact h
  rw [if_neg (by simpa using hrun)]
  by_cases hepoch : epoch = 0 ∨ epoch ≠ m.ring.epoch
  · rw [if_pos hepoch]
    exact h
  rw [if_neg hepoch]
  have hsched := h.scheduleGeneration hrun generation
  split
  · exact hsched
  · exact hsched

/-- A primed ring schedules two generations, so `prime` never gives up. -/
theorem prime (h : Sound strict m) (epoch generation : UInt32) (firstPair : UInt64)
    (pairs : UInt32) : Sound strict (m.step (.prime epoch generation firstPair pairs)) := by
  simp only [Machine.step, PairCaptureRing.prime]
  by_cases hepoch : epoch = 0
  · simp only [if_pos hepoch]
    exact h
  by_cases hcount : pairs.toNat = 0 ∨ kAdcPairsPerFrame < pairs.toNat
  · simp only [if_neg hepoch, if_pos hcount]
    exact h
  by_cases hrun : m.ring.running = true
  · simp only [if_neg hepoch, if_neg hcount, hrun, if_true]
    exact h
  by_cases hfree : m.ring.allBuffersFree kAdcDmaRingDepth = true
  swap
  · simp only [if_neg hepoch, if_neg hcount, hrun, hfree]
    exact h
  simp only [if_neg hepoch, if_neg hcount, hrun, hfree, Bool.not_true, Bool.false_eq_true, if_false]
  have hfree' := Barrier.allBuffersFree_iff.mp hfree
  generalize hr : m.ring.rewound epoch generation firstPair.toNat pairs.toNat = r
  have hrewound : Sound strict ⟨r, { first := firstPair.toNat, width := pairs.toNat }⟩ := by
    subst hr
    refine ⟨(h.good.prime _ (by decide) epoch generation (by simpa using hrun) hfree' ?_ ?_ rfl).1, rfl,
      ?_, fun _ => rfl⟩
    · have := firstPair.toNat_lt
      simp only [u64Max]
      omega
    · omega
    · simp only [PairCaptureRing.rewound]
      omega
  have hnext : r.nextSchedule = generation ∧ r.running = true ∧
      (∀ j, (r.slots j).valid = false) ∧ ∀ i < 8, (r.records i).state = .free := by
    subst hr
    exact ⟨rfl, rfl, fun _ => rfl, hfree'⟩
  obtain ⟨active, queued, a, q, hactive, hqueued, hrun1, hda, hdq, hdiff⟩ :=
    Barrier.scheduleGeneration_two (n := 8) (m := 12) (b := r.toBarrier)
      (fun first => some (satAdd u64Max first r.pairsPerBuffer)) (fun _ => 0)
      (by decide) (by decide) (fun j _ => hnext.2.2.1 j) hnext.2.2.2 rfl rfl
  rw [hnext.1] at hactive hqueued
  -- Both generations get a buffer of their own.
  have hfst : r.scheduleGeneration generation = ({ r with toBarrier := active }, some a) := by
    simp only [PairCaptureRing.scheduleGeneration, hactive]
    rfl
  have hsnd : ({ r with toBarrier := active } : PairCaptureRing).scheduleGeneration (generation + 1) =
      ({ r with toBarrier := queued }, some q) := by
    simp only [PairCaptureRing.scheduleGeneration, hqueued]
    rfl
  have hone := hrewound.scheduleGeneration hnext.2.1 generation
  rw [hfst] at hone
  have htwo := hone.scheduleGeneration (hrun1.trans hnext.2.1) (generation + 1)
  simp only [hsnd] at htwo
  have hok : (isBufferDestination (queued.slots a).destination &&
      isBufferDestination (queued.slots q).destination &&
      (queued.slots a).destination != (queued.slots q).destination) = true := by
    simp [isBufferDestination, hda, hdq, hdiff]
  simp only [hfst, hsnd, hok, if_true]
  exact htwo.count rfl rfl id

/-- A completion that finds its slot. -/
theorem completion {converter j : ℕ} (h : Sound strict m) (hrun : m.ring.running = true)
    (hch : converter < 2) (hj : j < 12) (hvalid : (m.ring.slots j).valid = true)
    (hgen : (m.ring.slots j).generation = m.ring.nextCompletion converter)
    (hbit : (m.ring.slots j).completionMask.testBit converter = false) (future : UInt32)
    (destination : ℕ) :
    let after := (((m.ring.checkDestination j destination).1.reported converter j).checkSkew.1.scheduleFuture
      future).1
    Sound strict ⟨if (after.slots j).completionMask = kAllConvertersMask then
        (after.finalizeGeneration j).1 else after, m.seen.report converter destination⟩ := by
  intro after
  obtain ⟨hplaced, hagree, hkplaced⟩ := m.ring.checkDestination_marks j destination
  have hkreport : PairCaptureRing.Keeps (m.ring.checkDestination j destination).1
      ((m.ring.checkDestination j destination).1.reported converter j) := ⟨rfl, id⟩
  obtain ⟨hskew, hkskew⟩ := ((m.ring.checkDestination j destination).1.reported converter j).checkSkew_marks
  obtain ⟨hfuture, hkfuture⟩ := ((m.ring.checkDestination j destination).1.reported converter
    j).checkSkew.1.scheduleFuture_marks future
  have hk3 := (hkplaced.trans hkreport).trans hkskew
  have hkafter : PairCaptureRing.Keeps m.ring after := hk3.trans hkfuture
  have hpos : 0 < after.pairsPerBuffer := hkafter.pairs ▸ h.positive
  have hgood := h.good.complete (if (after.slots j).completionMask = kAllConvertersMask then
      (after.finalizeGeneration j).1 else after).toBarrier future destination (by decide) hrun hch hj
    hvalid hgen hbit hplaced hagree rfl hskew ?_ hfuture ?_ ?_
  rotate_left
  · intro nf hnf
    cases hnf
    rw [h.width, hk3.pairs]
  · intro hpart
    rw [if_neg hpart]
  · intro hfull htarget hown
    rw [if_pos hfull]
    exact PairCaptureRing.finalizeGeneration_finalizes htarget hown
  -- Either way the counters balance.
  have hkeeps : PairCaptureRing.Keeps after (if (after.slots j).completionMask = kAllConvertersMask
      then (after.finalizeGeneration j).1 else after) := by
    split
    · exact after.finalizeGeneration_keeps hpos j
    · exact ⟨rfl, id⟩
  have hk := hkafter.trans hkeeps
  exact ⟨hgood, h.width.trans hk.pairs.symm, hk.pairs ▸ h.positive, hk.books h.books⟩

theorem onMajorLoopComplete (h : Sound strict m) (converter : ℕ) (epoch generation : UInt32)
    (destination : ℕ) (hguard : strict = true → m.ring.Hears epoch → converter < 2 →
      generation = m.ring.nextCompletion converter → m.ring.OnSchedule converter) :
    Sound strict (m.step (.onMajorLoopComplete converter epoch generation destination)) := by
  simp only [Machine.step, PairCaptureRing.onMajorLoopComplete]
  by_cases hrun : m.ring.running = true
  swap
  · rw [if_pos (by simpa using hrun)]
    exact h.count rfl rfl id
  rw [if_neg (by simpa using hrun)]
  by_cases hepoch : epoch = 0 ∨ epoch ≠ m.ring.epoch
  · rw [if_pos hepoch]
    exact h.count rfl rfl id
  rw [if_neg hepoch]
  by_cases hch : converter < kConverterCount
  swap
  · rw [if_pos hch]
    exact h.count rfl rfl id
  rw [if_neg (not_not_intro hch)]
  by_cases hnext : generation = m.ring.nextCompletion converter
  swap
  · rw [if_pos hnext]
    exact h.count rfl rfl id
  rw [if_neg (not_not_intro hnext)]
  cases hfind : m.ring.findGeneration generation with
  | none =>
    -- Only a run that leaves the schedule gets here.
    cases strict with
    | true =>
      have hhears : m.ring.Hears epoch :=
        ⟨hrun, fun h0 => hepoch (Or.inl h0), not_ne_iff.mp fun hne => hepoch (Or.inr hne)⟩
      have hsome := hguard rfl hhears hch hnext
      unfold PairCaptureRing.OnSchedule at hsome
      rw [← hnext, hfind] at hsome
      cases hsome
    | false => exact ⟨h.good.skip (by decide) converter destination rfl, h.width, h.positive, h.books⟩
  | some j =>
    obtain ⟨hj, hvalid, hgen⟩ := Barrier.findGeneration_some hfind
    dsimp only
    by_cases hbit : (m.ring.slots j).completionMask.testBit converter = true
    · rw [if_pos hbit]
      exact h.count rfl rfl id
    rw [if_neg hbit]
    have hslot := h.completion hrun hch hj hvalid (hgen.trans hnext) (by simpa using hbit)
      (generation + 2) destination
    dsimp only at hslot
    split
    · next hfull =>
      rw [if_pos hfull] at hslot
      exact hslot
    · next hfull =>
      rw [if_neg hfull] at hslot
      exact hslot

/-- An error of a converter spoils the generation it is at. -/
theorem markGenerationInvalid {converter : ℕ} (h : Sound strict m) (hrun : m.ring.running = true)
    (hch : converter < 2) (lost : ℕ) (hguard : strict = true → m.ring.OnSchedule converter) :
    Sound strict ⟨m.ring.markGenerationInvalid (m.ring.nextCompletion converter) lost,
      m.seen.fail converter⟩ := by
  obtain ⟨hmarks, hhit, hkeeps⟩ :=
    m.ring.markGenerationInvalid_marks (m.ring.nextCompletion converter) lost
  refine ⟨h.good.fail converter (by decide) hrun hch hmarks ?_ hguard, h.width.trans hkeeps.pairs.symm,
    hkeeps.pairs ▸ h.positive, hkeeps.books h.books⟩
  intro j hj hv hgen
  -- There is one slot with this number, and it was found.
  cases hfind : m.ring.findGeneration (m.ring.nextCompletion converter) with
  | none => exact absurd hgen (Barrier.findGeneration_none hfind j hj hv)
  | some k =>
    obtain ⟨hk, hvk, hgk⟩ := Barrier.findGeneration_some hfind
    obtain ⟨g, hinv, -⟩ := h.good.history
    have hjk : j = k := hinv.distinct j hj k hk hv hvk (hgen.trans hgk.symm)
    exact hjk ▸ hhit k hfind

theorem overwritten (h : Sound strict m) (converter : ℕ) (hrun : m.ring.running = true)
    (hch : converter < 2) (known : UInt8)
    (hguard : strict = true → known.toNat.testBit converter = true → m.ring.OnSchedule converter) :
    Sound strict ⟨m.ring.overwritten known converter,
      if known.toNat.testBit converter then m.seen.fail converter else m.seen⟩ := by
  unfold PairCaptureRing.overwritten
  by_cases hbit : known.toNat.testBit converter = true
  · rw [if_pos hbit, if_pos hbit]
    generalize hp : ({ m.ring.progress with
      overwrittenConversions := inc64 m.ring.progress.overwrittenConversions } : Progress) = p
    have hcount : Sound strict ⟨{ m.ring with progress := p }, m.seen⟩ := by
      subst hp
      exact h.count rfl rfl id
    exact hcount.markGenerationInvalid hrun hch 1 fun hs => hguard hs hbit
  · rw [if_neg hbit, if_neg hbit]
    exact h

theorem overwritten_same (r : PairCaptureRing) (known : UInt8) (converter : ℕ) :
    (r.overwritten known converter).running = r.running ∧
      ∀ c, (r.overwritten known converter).OnSchedule c ↔ r.OnSchedule c := by
  have hmarks : Barrier.Marks r.toBarrier (r.overwritten known converter).toBarrier := by
    unfold PairCaptureRing.overwritten
    split
    · generalize ({ r.progress with
        overwrittenConversions := inc64 r.progress.overwrittenConversions } : Progress) = p
      exact (PairCaptureRing.markGenerationInvalid_marks { r with progress := p } _ 1).1
    · exact Barrier.Marks.of_core rfl
  refine ⟨hmarks.same.1, fun c => ?_⟩
  unfold PairCaptureRing.OnSchedule PairCaptureRing.findGeneration
  rw [hmarks.findGeneration, hmarks.same.2.2.1]

theorem recordAdcEtcError (h : Sound strict m) (epoch : UInt32) (mask : UInt8) (flags : UInt32)
    (hguard : strict = true → m.ring.Hears epoch → ∀ converter < 2,
      (mask &&& 3).toNat.testBit converter = true → m.ring.OnSchedule converter) :
    Sound strict (m.step (.recordAdcEtcError epoch mask flags)) := by
  simp only [Machine.step]
  by_cases hhears : m.ring.Hears epoch
  swap
  · rw [if_neg hhears, PairCaptureRing.recordAdcEtcError,
      if_pos (PairCaptureRing.ignored_of_not_hears hhears)]
    exact h
  rw [if_pos hhears, PairCaptureRing.recordAdcEtcError, if_neg hhears.not_ignored]
  dsimp only
  -- The event is counted before it is attributed.
  generalize hr : ({ (if mask &&& 3 = 0 ∨ mask &&& 3 ≠ mask then m.ring.noteInvariantError
    else m.ring) with progress := _ } : PairCaptureRing) = r
  have hsame : r.toBarrier = m.ring.toBarrier ∧ PairCaptureRing.Keeps m.ring r := by
    subst hr
    split
    · exact ⟨rfl, rfl, id⟩
    · exact ⟨rfl, rfl, id⟩
  have hcount : Sound strict ⟨r, m.seen⟩ := h.count hsame.1 hsame.2.pairs hsame.2.books
  have hrun : r.running = true := by
    rw [hsame.1]
    exact hhears.1
  have hon : ∀ c, r.OnSchedule c ↔ m.ring.OnSchedule c := by
    intro c
    unfold PairCaptureRing.OnSchedule PairCaptureRing.findGeneration
    rw [hsame.1]
  obtain ⟨hrun0, hon0⟩ := overwritten_same r (mask &&& 3) 0
  have hfirst := hcount.overwritten 0 hrun (by decide) (mask &&& 3)
    fun hs hbit => (hon 0).mpr (hguard hs hhears 0 (by decide) hbit)
  exact hfirst.overwritten 1 (hrun0.trans hrun) (by decide) (mask &&& 3)
    fun hs hbit => (hon0 1).mpr ((hon 1).mpr (hguard hs hhears 1 (by decide) hbit))

theorem recordDmaError (h : Sound strict m) (epoch : UInt32) (converter : ℕ)
    (hguard : strict = true → m.ring.Hears epoch → converter < 2 → m.ring.OnSchedule converter) :
    Sound strict (m.step (.recordDmaError epoch converter)) := by
  simp only [Machine.step]
  by_cases hhears : m.ring.Hears epoch
  swap
  · rw [if_neg fun hh => hhears hh.1, PairCaptureRing.recordDmaError,
      if_pos (PairCaptureRing.ignored_of_not_hears hhears)]
    exact h
  by_cases hch : converter < kConverterCount
  · rw [if_pos ⟨hhears, hch⟩, PairCaptureRing.recordDmaError, if_neg hhears.not_ignored,
      if_neg (not_not_intro hch)]
    generalize hp : ({ m.ring.progress with
      dmaErrorEvents := inc32 m.ring.progress.dmaErrorEvents } : Progress) = p
    have hcount : Sound strict ⟨{ m.ring with progress := p }, m.seen⟩ := by
      subst hp
      exact h.count rfl rfl id
    exact hcount.markGenerationInvalid hhears.1 hch 0 fun hs => hguard hs hhears hch
  · rw [if_neg fun hh => hch hh.2, PairCaptureRing.recordDmaError, if_neg hhears.not_ignored,
      if_pos hch]
    exact h.count rfl rfl id

theorem acquireReady (h : Sound strict m) : Sound strict (m.step .acquireReady) := by
  simp only [Machine.step, PairCaptureRing.acquireReady]
  cases hlease : m.ring.toBarrier.lease kAdcDmaRingDepth with
  | none => exact h
  | some out => exact ⟨h.good.lease (by decide) hlease, h.width, h.positive, h.books⟩

theorem beginRelease (h : Sound strict m) (handle : BufferHandle) :
    Sound strict (m.step (.beginRelease handle)) := by
  simp only [Machine.step, PairCaptureRing.beginRelease]
  by_cases hmatches : m.ring.handleMatches handle .reading = true
  · simp only [if_pos hmatches]
    have hread : (m.ring.records handle.bufferIndex).state = .reading := by
      simp only [PairCaptureRing.handleMatches, Bool.and_eq_true, decide_eq_true_eq] at hmatches
      exact hmatches.1.1.1.1.2
    exact ⟨h.good.release (by decide) hread, h.width, h.positive, h.books⟩
  · simp only [if_neg hmatches]
    exact h

theorem endRelease (h : Sound strict m) (handle : BufferHandle) :
    Sound strict (m.step (.endRelease handle)) := by
  simp only [Machine.step, PairCaptureRing.endRelease]
  split
  · exact h.count rfl rfl id
  · next hmatches =>
    have hreleasing : (m.ring.records handle.bufferIndex).state = .releasing := by
      simp only [PairCaptureRing.handleMatches, Bool.not_eq_true', Bool.not_eq_false,
        Bool.and_eq_true, decide_eq_true_eq] at hmatches
      exact hmatches.1.1.1.1.2
    exact ⟨h.good.giveBack (by decide) {} (Or.inr hreleasing) (Or.inr rfl) rfl, h.width, h.positive,
      h.books⟩

theorem beginDiscard (h : Sound strict m) : Sound strict (m.step .beginDiscard) := by
  simp only [Machine.step, PairCaptureRing.beginDiscard]
  cases hselect : m.ring.toBarrier.selectDiscarded kAdcDmaRingDepth with
  | none => exact h
  | some i =>
    have hpending := (Barrier.selectDiscarded_some hselect).2
    exact ⟨h.good.giveBack (by decide) _ (Or.inl hpending) (Or.inl rfl) rfl, h.width, h.positive,
      h.books⟩

theorem endDiscard (h : Sound strict m) (i : ℕ) : Sound strict (m.step (.endDiscard i)) := by
  simp only [Machine.step, PairCaptureRing.endDiscard]
  split
  · exact h.count rfl rfl id
  · next hreleasing =>
    exact ⟨h.good.giveBack (by decide) {} (Or.inr (not_ne_iff.mp hreleasing)) (Or.inr rfl) rfl, h.width,
      h.positive, h.books⟩

theorem stop (h : Sound strict m) (channels : ℕ → ChannelStopState) :
    Sound strict (m.step (.stop channels)) := by
  simp only [Machine.step]
  by_cases hrun : m.ring.running = true
  · obtain ⟨g, hinv, -⟩ := h.good.history
    obtain ⟨hcore, hpairs, hbooks⟩ := PairCaptureRing.stop_core hinv hrun channels
    exact ⟨h.good.halt (by decide) hcore, h.width.trans hpairs.symm, hpairs ▸ h.positive,
      hbooks h.books⟩
  · rw [PairCaptureRing.stop, if_pos (by simpa using hrun)]
    exact h

/-- Every operation keeps the ring sound. -/
theorem step (h : Sound strict m) (op : Op) (hguard : strict = true → m.keepsSchedule op = true) :
    Sound strict (m.step op) := by
  cases op with
  | prime epoch generation first pairs => exact h.prime epoch generation first pairs
  | reserveGeneration epoch generation => exact h.reserveGeneration epoch generation
  | onMajorLoopComplete converter epoch generation destination =>
    exact h.onMajorLoopComplete converter epoch generation destination
      fun hs => of_decide_eq_true (hguard hs)
  | recordAdcEtcError epoch mask flags =>
    exact h.recordAdcEtcError epoch mask flags fun hs => of_decide_eq_true (hguard hs)
  | recordDmaError epoch converter =>
    exact h.recordDmaError epoch converter fun hs => of_decide_eq_true (hguard hs)
  | acquireReady => exact h.acquireReady
  | beginRelease handle => exact h.beginRelease handle
  | endRelease handle => exact h.endRelease handle
  | beginDiscard => exact h.beginDiscard
  | endDiscard i => exact h.endDiscard i
  | stop channels => exact h.stop channels

theorem run (h : Sound strict m) (ops : List Op) (hguard : strict = true → m.onSchedule ops = true) :
    Sound strict (m.run ops) := by
  induction ops generalizing m with
  | nil => exact h
  | cons op ops ih =>
    have hsplit : strict = true → m.keepsSchedule op = true ∧ (m.step op).onSchedule ops = true :=
      fun hs => Bool.and_eq_true_iff.mp (hguard hs)
    exact ih (h.step op fun hs => (hsplit hs).1) fun hs => (hsplit hs).2

end Sound

/-! ### Safety -/

/-- What holds in every state of every run. -/
structure Safe (m : Machine) : Prop where
  /-- No generation in flight goes to a buffer that is ready or lent. -/
  apart : ∀ i < kAdcDmaRingDepth, (m.ring.records i).state = .ready ∨ i ∈ m.seen.held →
    ∀ j < kGenerationSlotCount, (m.ring.slots j).valid = true → (m.ring.slots j).destination ≠ i
  balance : m.ring.progress.pairsCaptured < u64Max →
    m.ring.progress.pairsCaptured =
      m.ring.progress.pairsLost + m.ring.pairsPerBuffer * m.ring.progress.buffersCompleted
  /-- A callback after `stop` or of another epoch is a statistic. -/
  stale : ∀ epoch, ¬m.ring.Hears epoch →
    (∀ converter generation destination, ∃ s,
      m.step (.onMajorLoopComplete converter epoch generation destination) =
        ⟨{ m.ring with progress := { m.ring.progress with staleCompletions := s } }, m.seen⟩) ∧
    (∀ mask flags, m.step (.recordAdcEtcError epoch mask flags) = m) ∧
    ∀ converter, m.step (.recordDmaError epoch converter) = m

/-- What holds while callbacks keep to the schedule. -/
structure Published (m : Machine) : Prop where
  /-- A ready or lent buffer holds one generation, which both converters reported
  in it and at which no error was recorded. -/
  clean : ∀ i < kAdcDmaRingDepth, (m.ring.records i).state = .ready ∨ i ∈ m.seen.held →
    ∃ k, (m.ring.records i).first = stamp u64Max m.seen.first m.ring.pairsPerBuffer k ∧
      ∀ converter < kConverterCount, (m.seen.done converter)[k]? = some i ∧
        k ∉ m.seen.failed converter
  /-- Leases are of later and later generations, at their exact positions. -/
  order : ∃ ks : List ℕ, ks.Pairwise (· < ·) ∧
    m.seen.acquired = ks.map fun k => m.seen.first + m.ring.pairsPerBuffer * k

theorem stale_step (m : Machine) {epoch : UInt32} (h : ¬m.ring.Hears epoch) :
    (∀ converter generation destination, ∃ s,
      m.step (.onMajorLoopComplete converter epoch generation destination) =
        ⟨{ m.ring with progress := { m.ring.progress with staleCompletions := s } }, m.seen⟩) ∧
    (∀ mask flags, m.step (.recordAdcEtcError epoch mask flags) = m) ∧
    ∀ converter, m.step (.recordDmaError epoch converter) = m := by
  have hignored := PairCaptureRing.ignored_of_not_hears h
  refine ⟨fun converter generation destination => ?_, fun mask flags => ?_, fun converter => ?_⟩
  · refine ⟨inc32 m.ring.progress.staleCompletions, ?_⟩
    simp only [Machine.step, PairCaptureRing.onMajorLoopComplete]
    by_cases hrun : m.ring.running = true
    · have hepoch : epoch = 0 ∨ epoch ≠ m.ring.epoch :=
        hignored.resolve_left (by simp [hrun])
      rw [if_neg (by simpa using hrun), if_pos hepoch]
      rfl
    · rw [if_pos (by simpa using hrun)]
      rfl
  · simp only [Machine.step, PairCaptureRing.recordAdcEtcError, if_neg h, if_pos hignored]
  · have hnot : ¬(m.ring.Hears epoch ∧ converter < kConverterCount) := fun hh => h hh.1
    simp only [Machine.step, PairCaptureRing.recordDmaError, if_neg hnot, if_pos hignored]

theorem Sound.safe {m : Machine} (h : Sound false m) : Safe m := by
  refine ⟨?_, h.books, fun epoch => stale_step m⟩
  intro i hi hs j hj hv
  apply h.good.apart ?_ hi hj hv
  exact hs.imp id fun hheld => (h.good.reading hheld).2

theorem Sound.published {m : Machine} (h : Sound true m) : Published m := by
  constructor
  · intro i hi hs
    obtain ⟨k, hfirst, hclean⟩ := h.good.clean hi (hs.imp id fun hheld => (h.good.reading hheld).2)
    rw [h.width] at hfirst
    exact ⟨k, hfirst, hclean⟩
  · obtain ⟨ks, hsorted, hacquired⟩ := h.good.order
    rw [h.width] at hacquired
    exact ⟨ks, hsorted, hacquired⟩

/-- In every state of every run no buffer that is ready or lent is a target of
the DMA, pairs are accounted for and stale callbacks do nothing; in every run
that keeps to the schedule what is published was completed by both converters
without an error, and is delivered in order. -/
theorem pair_ring_safety (ops : List Op) : Safe (Machine.run {} ops) ∧
    (Machine.onSchedule {} ops = true → Published (Machine.run {} ops)) := by
  refine ⟨((Sound.initial false).run ops fun h => by cases h).safe, fun hops => ?_⟩
  exact ((Sound.initial true).run ops fun _ => hops).published

/-- Converter `c` completes the generations from `start` up to `stop` of epoch 1,
each where it was sent. -/
def completions (c start stop : ℕ) : List Op :=
  (List.range' start (stop - start)).map fun k => .onMajorLoopComplete c 1 (UInt32.ofNat k) (min k 8)

/-- Three generations, with an error of one converter in the second. -/
def spoiledGeneration : List Op :=
  .prime 1 0 0 4 :: completions 0 0 1 ++ completions 1 0 1 ++ .recordDmaError 1 1 ::
    completions 1 1 2 ++ completions 0 1 2 ++ completions 0 2 3 ++ completions 1 2 3 ++
    [.acquireReady, .acquireReady]

theorem pair_ring_safety_spoiledGeneration :
    Machine.onSchedule {} spoiledGeneration = true ∧
      (Machine.run {} spoiledGeneration).seen.acquired = [0, 8] ∧
      Published (Machine.run {} spoiledGeneration) :=
  ⟨by decide +kernel, by decide +kernel, (pair_ring_safety spoiledGeneration).2 (by decide +kernel)⟩

/-- Converter 0 runs ahead until the table is full, so its generation 12 has no
slot when an error is recorded.  The other converter catches up, and generation
12 is scheduled into buffer 0. -/
def lostError : List Op :=
  .prime 1 0 0 4 :: completions 0 0 12 ++ .recordDmaError 1 0 :: completions 1 0 10 ++
    [.beginDiscard, .endDiscard 0, .reserveGeneration 1 12] ++ completions 1 10 12 ++
    [.onMajorLoopComplete 0 1 12 0, .onMajorLoopComplete 1 1 12 0]

/-- An error that finds no slot is forgotten. -/
theorem pair_ring_lost_error : ¬Published (Machine.run {} lostError) := by
  intro h
  have hready : ((Machine.run {} lostError).ring.records 0).state = .ready := by decide +kernel
  have hfirst : ((Machine.run {} lostError).ring.records 0).first = 48 := by decide +kernel
  have hstart : (Machine.run {} lostError).seen.first = 0 := by decide +kernel
  have hpairs : (Machine.run {} lostError).ring.pairsPerBuffer = 4 := by decide +kernel
  have hfailed : (Machine.run {} lostError).seen.failed 0 = [12] := by decide +kernel
  obtain ⟨k, hk, hclean⟩ := h.clean 0 (by decide) (Or.inl hready)
  rw [hfirst, hstart, hpairs] at hk
  have hk12 : k = 12 := by
    simp only [stamp, u64Max] at hk
    omega
  apply (hclean 0 (by decide)).2
  rw [hfailed, hk12]
  exact List.mem_singleton.mpr rfl

end ThingDaq.AdcCapture
