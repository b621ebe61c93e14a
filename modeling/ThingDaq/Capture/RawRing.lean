import ThingDaq.Lib.Ring
import Mathlib.Logic.Function.Basic

/-!
# The GPIO raw capture ring

`RawCaptureRing` (`firmware/src/gpio_raw_capture.cpp`): four buffers of 4048
words shared by the eDMA, which always has one active and one queued
destination, and the packer, which leases completed buffers.  When no buffer is
free the DMA is sent to an overflow sink.

`release` and `stop` each leave their critical section to run cache maintenance
and enter it again; the major-loop interrupt may come in between, so each is two
steps here.  `Machine` adds the local of `stop` that survives the gap and three
histories: the destinations of the completed major loops, the handles given out
since the ring was primed, and the handles the consumer still holds.

## Main results

* `Inv.run` — the ownership invariant holds after any operations.
* `raw_ring_safety` — one owner for each buffer, DMA targets apart from the
  consumer, deliveries in order, and the sample balance.
-/

namespace ThingDaq.GpioCapture

open Table Ring

abbrev kGpioRawDmaRingDepth : ℕ := 4
abbrev kGpioSamplesPerFrame : ℕ := 4048
abbrev kOverflowDestination : ℕ := 4
abbrev kInvalidDestination : ℕ := 255
abbrev u64Max : ℕ := 2 ^ 64 - 1
abbrev u32Max : ℕ := 2 ^ 32 - 1

inductive BufferState
  | free
  | dmaActive
  | dmaQueued
  | ready
  | packing
  | releasing
  deriving DecidableEq, Repr

inductive OperationStatus
  | ok
  | alreadyRunning
  | notRunning
  | notQuiescent
  | invalidCompletion
  | noReadyBuffer
  | invalidHandle
  deriving DecidableEq, Repr

structure BufferRecord where
  state : BufferState := .free
  firstSample : ℕ := 0
  lease : UInt32 := 0
  deriving DecidableEq, Repr

/-- The counters of `stats::GpioRawCaptureProgress` that the ring writes. -/
structure Progress where
  majorLoopsCompleted : ℕ := 0
  buffersCompleted : ℕ := 0
  buffersAcquired : ℕ := 0
  buffersReleased : ℕ := 0
  samplesCaptured : ℕ := 0
  samplesDelivered : ℕ := 0
  rawRingOverruns : ℕ := 0
  samplesLost : ℕ := 0
  stopDiscardedSamples : ℕ := 0
  cacheDmaDiscards : ℕ := 0
  cacheCpuInvalidations : ℕ := 0
  readyHighWater : ℕ := 0
  hardwareErrors : ℕ := 0
  deriving DecidableEq, Repr

structure RawCaptureRing where
  records : ℕ → BufferRecord := fun _ => {}
  progress : Progress := {}
  activeFirstSample : ℕ := 0
  queuedFirstSample : ℕ := 0
  nextFirstSample : ℕ := 0
  nextLease : UInt32 := 1
  invariantErrors : ℕ := 0
  nextFreeSearch : ℕ := 0
  activeDestination : ℕ := kInvalidDestination
  queuedDestination : ℕ := kInvalidDestination
  running : Bool := false

/-- A lease on a buffer.  `words` is the buffer whose storage the pointer
addresses, `none` the null pointer. -/
structure BufferHandle where
  words : Option ℕ := none
  firstSample : ℕ := 0
  sampleCount : ℕ := 0
  lease : UInt32 := 0
  bufferIndex : ℕ := kInvalidDestination
  deriving DecidableEq, Repr

def BufferHandle.valid (h : BufferHandle) : Bool :=
  h.words.isSome && decide (h.bufferIndex < kGpioRawDmaRingDepth) && h.lease != 0 &&
    h.sampleCount != 0 && decide (h.sampleCount ≤ kGpioSamplesPerFrame)

structure PrimeResult where
  status : OperationStatus := .notQuiescent
  activeDestination : ℕ := kInvalidDestination
  queuedDestination : ℕ := kInvalidDestination
  deriving DecidableEq, Repr

structure MajorLoopResult where
  status : OperationStatus := .invalidCompletion
  completedDestination : ℕ := kInvalidDestination
  activeDestination : ℕ := kInvalidDestination
  queuedDestination : ℕ := kInvalidDestination
  completedFirstSample : ℕ := 0
  deriving DecidableEq, Repr

structure AcquireResult where
  status : OperationStatus := .noReadyBuffer
  handle : BufferHandle := {}
  deriving DecidableEq, Repr

structure StopReport where
  status : OperationStatus := .notRunning
  activeSamplesDiscarded : ℕ := 0
  readyBuffersToDrain : ℕ := 0
  packingBuffersToRelease : ℕ := 0
  deriving DecidableEq, Repr

def isBufferDestination (destination : ℕ) : Bool := decide (destination < kGpioRawDmaRingDepth)

namespace RawCaptureRing

def setState (r : RawCaptureRing) (i : ℕ) (state : BufferState) : RawCaptureRing :=
  { r with records := Function.update r.records i { r.records i with state := state } }

def noteInvariantError (r : RawCaptureRing) : RawCaptureRing :=
  { r with invariantErrors := satAdd u32Max r.invariantErrors 1 }

def countState (r : RawCaptureRing) (state : BufferState) : ℕ :=
  countTo kGpioRawDmaRingDepth fun i => decide ((r.records i).state = state)

def allBuffersFree (r : RawCaptureRing) : Bool :=
  (List.range kGpioRawDmaRingDepth).all fun i => decide ((r.records i).state = .free)

def handleMatches (r : RawCaptureRing) (h : BufferHandle) (state : BufferState) : Bool :=
  h.valid && decide ((r.records h.bufferIndex).state = state) &&
    decide ((r.records h.bufferIndex).lease = h.lease) &&
    decide ((r.records h.bufferIndex).firstSample = h.firstSample) &&
    decide (h.words = some h.bufferIndex)

def takeFreeBuffer (r : RawCaptureRing) (state : BufferState) (firstSample : ℕ) :
    RawCaptureRing × ℕ :=
  match searchFrom kGpioRawDmaRingDepth r.nextFreeSearch
      fun i => decide ((r.records i).state = .free) with
  | some candidate =>
    ({ r with
        records := Function.update r.records candidate ⟨state, firstSample, 0⟩
        nextFreeSearch := (candidate + 1) % kGpioRawDmaRingDepth }, candidate)
  | none => (r, kOverflowDestination)

def scheduleFutureDestination (r : RawCaptureRing) : RawCaptureRing × ℕ :=
  r.takeFreeBuffer .dmaQueued r.queuedFirstSample

/-- The members that `prime` resets before it takes the two first buffers. -/
def rewound (r : RawCaptureRing) : RawCaptureRing :=
  { r with
    progress := {}
    invariantErrors := 0
    nextFreeSearch := 0
    activeFirstSample := 0
    queuedFirstSample := kGpioSamplesPerFrame
    nextFirstSample := 2 * kGpioSamplesPerFrame }

def prime (r : RawCaptureRing) : RawCaptureRing × PrimeResult :=
  if r.running then (r, { status := .alreadyRunning })
  else if !r.allBuffersFree then (r, { status := .notQuiescent })
  else
    let active := r.rewound.takeFreeBuffer .dmaActive r.rewound.activeFirstSample
    let queued := active.1.takeFreeBuffer .dmaQueued active.1.queuedFirstSample
    if !isBufferDestination active.2 || !isBufferDestination queued.2 then
      ({ queued.1.noteInvariantError with
          activeDestination := kInvalidDestination
          queuedDestination := kInvalidDestination }, { status := .notQuiescent })
    else
      -- One discard for each buffer and one for the overflow sink.
      ({ queued.1 with
          activeDestination := active.2
          queuedDestination := queued.2
          running := true
          progress := { queued.1.progress with
            cacheDmaDiscards := satAdd u32Max queued.1.progress.cacheDmaDiscards
              (kGpioRawDmaRingDepth + 1) } },
        { status := .ok, activeDestination := active.2, queuedDestination := queued.2 })

/-- Account the completed active destination: `none` when it is not one the DMA
can have written. -/
def completeActive (r : RawCaptureRing) : Option RawCaptureRing :=
  if isBufferDestination r.activeDestination then
    if (r.records r.activeDestination).state ≠ .dmaActive then none
    else
      let done := r.setState r.activeDestination .ready
      some { done with progress := { done.progress with
        buffersCompleted := satAdd u64Max done.progress.buffersCompleted 1
        readyHighWater := max done.progress.readyHighWater (done.countState .ready) } }
  else if r.activeDestination = kOverflowDestination then
    some { r with progress := { r.progress with
      rawRingOverruns := satAdd u64Max r.progress.rawRingOverruns 1
      samplesLost := satAdd u64Max r.progress.samplesLost kGpioSamplesPerFrame } }
  else none

/-- The queued destination becomes the active one. -/
def promoteQueued (r : RawCaptureRing) : Option RawCaptureRing :=
  if isBufferDestination r.activeDestination then
    if (r.records r.activeDestination).state ≠ .dmaQueued then none
    else some (r.setState r.activeDestination .dmaActive)
  else if r.activeDestination ≠ kOverflowDestination then none
  else some r

def onMajorLoopComplete (r : RawCaptureRing) : RawCaptureRing × MajorLoopResult :=
  let result : MajorLoopResult :=
    { completedDestination := r.activeDestination, completedFirstSample := r.activeFirstSample }
  if !r.running then (r, { result with status := .notRunning })
  else match r.completeActive with
  | none => (r.noteInvariantError, result)
  | some done =>
    let done := { done with
      progress := { done.progress with
        majorLoopsCompleted := satAdd u64Max done.progress.majorLoopsCompleted 1
        samplesCaptured := satAdd u64Max done.progress.samplesCaptured kGpioSamplesPerFrame }
      activeDestination := done.queuedDestination
      activeFirstSample := done.queuedFirstSample }
    match done.promoteQueued with
    | none => (done.noteInvariantError, result)
    | some next =>
      let next := { next with queuedFirstSample := next.nextFirstSample }
      let queued := next.scheduleFutureDestination
      ({ queued.1 with
          queuedDestination := queued.2
          nextFirstSample := satAdd u64Max queued.1.nextFirstSample kGpioSamplesPerFrame },
        { result with
          status := .ok
          activeDestination := queued.1.activeDestination
          queuedDestination := queued.2 })

def acquireReady (r : RawCaptureRing) : RawCaptureRing × AcquireResult :=
  match oldest kGpioRawDmaRingDepth u64Max (fun i => decide ((r.records i).state = .ready))
      (fun i => (r.records i).firstSample) with
  | none => (r, {})
  | some selected =>
    let lease := allocateLease r.nextLease
    ({ r with
        records := Function.update r.records selected
          { r.records selected with state := .packing, lease := lease.1 }
        nextLease := lease.2
        progress := { r.progress with
          buffersAcquired := satAdd u64Max r.progress.buffersAcquired 1
          samplesDelivered := satAdd u64Max r.progress.samplesDelivered kGpioSamplesPerFrame
          cacheCpuInvalidations := satAdd u32Max r.progress.cacheCpuInvalidations 1 } },
      { status := .ok
        handle := ⟨some selected, (r.records selected).firstSample, kGpioSamplesPerFrame, lease.1,
          selected⟩ })

/-- The first critical section of `release`. -/
def beginRelease (r : RawCaptureRing) (h : BufferHandle) : RawCaptureRing × Bool :=
  if r.handleMatches h .packing then (r.setState h.bufferIndex .releasing, true) else (r, false)

/-- The cache discard and the second critical section of `release`. -/
def endRelease (r : RawCaptureRing) (h : BufferHandle) : RawCaptureRing × OperationStatus :=
  let r := { r with progress := { r.progress with
    cacheDmaDiscards := satAdd u32Max r.progress.cacheDmaDiscards 1 } }
  if !r.handleMatches h .releasing then (r.noteInvariantError, .invalidHandle)
  else
    ({ r with
        records := Function.update r.records h.bufferIndex
          { r.records h.bufferIndex with state := .free, lease := 0 }
        progress := { r.progress with
          buffersReleased := satAdd u64Max r.progress.buffersReleased 1 } }, .ok)

/-- `release` when no interrupt comes between its two sections. -/
def release (r : RawCaptureRing) (h : BufferHandle) : RawCaptureRing × OperationStatus :=
  if (r.beginRelease h).2 then (r.beginRelease h).1.endRelease h else (r, .invalidHandle)

/-- The sample accounting of `stop`. -/
def accountStop (r : RawCaptureRing) (activeSamples : ℕ) : RawCaptureRing :=
  if activeSamples = 0 then r
  else
    let p := { r.progress with
      samplesCaptured := satAdd u64Max r.progress.samplesCaptured activeSamples
      samplesLost := satAdd u64Max r.progress.samplesLost activeSamples }
    { r with progress :=
        if r.activeDestination = kOverflowDestination then
          { p with rawRingOverruns := satAdd u64Max p.rawRingOverruns 1 }
        else { p with
          stopDiscardedSamples := satAdd u64Max p.stopDiscardedSamples activeSamples } }

/-- `stop` takes a destination from the DMA. -/
def retire (r : RawCaptureRing) (destination : ℕ) (expected next : BufferState) :
    RawCaptureRing :=
  if isBufferDestination destination then
    (if (r.records destination).state ≠ expected then r.noteInvariantError
      else r).setState destination next
  else r

/-- The active and queued buffers leave the DMA. -/
def retireTargets (r : RawCaptureRing) : RawCaptureRing :=
  (r.retire r.activeDestination .dmaActive .releasing).retire r.queuedDestination .dmaQueued .free

/-- The first part of `stop`, with the active destination it leaves to discard. -/
def beginStop (r : RawCaptureRing) (activeSamples : ℕ) :
    RawCaptureRing × StopReport × Option ℕ :=
  let r := if kGpioSamplesPerFrame < activeSamples then r.noteInvariantError else r
  let activeSamples := min activeSamples kGpioSamplesPerFrame
  if !r.running then (r, {}, none)
  else
    let retired := (r.accountStop activeSamples).retireTargets
    ({ retired with
        running := false
        activeDestination := kInvalidDestination
        queuedDestination := kInvalidDestination },
      { status := .ok
        activeSamplesDiscarded := activeSamples
        readyBuffersToDrain := retired.countState .ready
        packingBuffersToRelease := retired.countState .packing },
      some r.activeDestination)

/-- The cache discard and the second critical section of `stop`. -/
def endStop (r : RawCaptureRing) (activeToDiscard : ℕ) : RawCaptureRing :=
  let r := { r with progress := { r.progress with
    cacheDmaDiscards := satAdd u32Max r.progress.cacheDmaDiscards 1 } }
  if isBufferDestination activeToDiscard then
    { r with
      records := Function.update r.records activeToDiscard
        { r.records activeToDiscard with state := .free, lease := 0 } }
  else r

def recordHardwareError (r : RawCaptureRing) : RawCaptureRing :=
  { r with progress := { r.progress with
    hardwareErrors := satAdd u32Max r.progress.hardwareErrors 1 } }

end RawCaptureRing

/-! ### Runs -/

/-- The ring with the local of an unfinished `stop` and the histories. -/
structure Machine where
  ring : RawCaptureRing := {}
  discarding : Option ℕ := none
  loops : List ℕ := []
  acquired : List BufferHandle := []
  held : List BufferHandle := []

inductive Op
  | prime
  | onMajorLoopComplete
  | acquireReady
  | beginRelease (h : BufferHandle)
  | endRelease (h : BufferHandle)
  | beginStop (activeSamples : ℕ)
  | endStop
  | recordHardwareError

namespace Machine

def step (m : Machine) : Op → Machine
  | .prime =>
    if m.ring.prime.2.status = .ok then
      { m with ring := m.ring.prime.1, loops := [], acquired := [] }
    else { m with ring := m.ring.prime.1 }
  | .onMajorLoopComplete =>
    let done := m.ring.onMajorLoopComplete
    { m with
      ring := done.1
      loops := if done.2.status = .ok then m.loops ++ [done.2.completedDestination] else m.loops }
  | .acquireReady =>
    let got := m.ring.acquireReady
    if got.2.status = .ok then
      { m with
        ring := got.1
        acquired := m.acquired ++ [got.2.handle]
        held := m.held ++ [got.2.handle] }
    else { m with ring := got.1 }
  | .beginRelease h =>
    let begun := m.ring.beginRelease h
    { m with
      ring := begun.1
      held := if begun.2 then m.held.filter fun g => g.bufferIndex != h.bufferIndex else m.held }
  | .endRelease h => { m with ring := (m.ring.endRelease h).1 }
  | .beginStop activeSamples =>
    let begun := m.ring.beginStop activeSamples
    { m with
      ring := begun.1
      discarding := if begun.2.2.isSome then begun.2.2 else m.discarding }
  | .endStop =>
    match m.discarding with
    | none => m
    | some i => { m with ring := m.ring.endStop i, discarding := none }
  | .recordHardwareError => { m with ring := m.ring.recordHardwareError }

def run (m : Machine) (ops : List Op) : Machine := ops.foldl step m

end Machine

/-- The position of the `k`-th major loop since the ring was primed. -/
def position (k : ℕ) : ℕ := stamp u64Max 0 kGpioSamplesPerFrame k

/-- Who may touch a buffer. -/
inductive Owner
  | pool
  | activeDma
  | queuedDma
  | readyQueue
  | consumer
  | returning
  deriving DecidableEq, Repr

/-- The consumer holds a lease on buffer `i`. -/
def Machine.Holds (m : Machine) (i : ℕ) : Prop := ∃ h ∈ m.held, h.bufferIndex = i

def Machine.Owns (m : Machine) (i : ℕ) : Owner → Prop
  | .pool => (m.ring.records i).state = .free
  | .activeDma => m.ring.running = true ∧ m.ring.activeDestination = i
  | .queuedDma => m.ring.running = true ∧ m.ring.queuedDestination = i
  | .readyQueue => (m.ring.records i).state = .ready
  | .consumer => m.Holds i
  | .returning => (m.ring.records i).state = .releasing

/-- Which loop filled buffer `i`, and that none wrote it since. -/
def FilledBy (loops : List ℕ) (i firstSample : ℕ) : Prop :=
  ∃ k, loops[k]? = some i ∧ firstSample = position k ∧ ∀ l, k < l → loops[l]? ≠ some i

/-- The ownership invariant. -/
structure Inv (m : Machine) : Prop where
  targets : m.ring.running = true → m.ring.activeDestination ≤ 4 ∧ m.ring.queuedDestination ≤ 4 ∧
    (m.ring.activeDestination = m.ring.queuedDestination → m.ring.activeDestination = 4)
  active : ∀ i < 4, (m.ring.records i).state = .dmaActive ↔ m.Owns i .activeDma
  queued : ∀ i < 4, (m.ring.records i).state = .dmaQueued ↔ m.Owns i .queuedDma
  clock : m.ring.running = true → m.ring.activeFirstSample = position m.loops.length ∧
    m.ring.queuedFirstSample = position (m.loops.length + 1) ∧
    m.ring.nextFirstSample = position (m.loops.length + 2)
  stampedActive : ∀ i < 4, m.Owns i .activeDma →
    (m.ring.records i).firstSample = m.ring.activeFirstSample
  stampedQueued : ∀ i < 4, m.Owns i .queuedDma →
    (m.ring.records i).firstSample = m.ring.queuedFirstSample
  unleased : ∀ i < 4, (m.ring.records i).state = .dmaActive ∨
    (m.ring.records i).state = .dmaQueued → (m.ring.records i).lease = 0
  filled : ∀ i < 4, (m.ring.records i).state = .ready ∨ (m.ring.records i).state = .packing →
    FilledBy m.loops i (m.ring.records i).firstSample
  fresh : ∀ i < 4, (m.ring.records i).state = .ready →
    ∀ h ∈ m.acquired, h.firstSample < (m.ring.records i).firstSample
  increasing : m.acquired.Pairwise fun g h => g.firstSample < h.firstSample
  placed : ∀ h ∈ m.acquired, h.firstSample < u64Max ∧
    ∃ k, m.loops[k]? = some h.bufferIndex ∧ h.firstSample = position k
  held : ∀ i < 4, (m.ring.records i).state = .packing ↔ m.Holds i
  discarding : ∀ i < 4, m.discarding = some i →
    (m.ring.records i).state = .releasing ∧ (m.ring.records i).lease = 0

/-- What the consumer, the DMA and the accounting may rely on. -/
structure Safe (m : Machine) : Prop where
  owner : ∀ i < kGpioRawDmaRingDepth, ∃! o, m.Owns i o
  apart : m.ring.running = true → ∀ i < kGpioRawDmaRingDepth,
    i = m.ring.activeDestination ∨ i = m.ring.queuedDestination →
      ¬m.Holds i ∧ (m.ring.records i).state ≠ .ready ∧
        m.ring.activeDestination ≠ m.ring.queuedDestination
  increasing : m.acquired.Pairwise fun g h => g.firstSample < h.firstSample
  placed : ∀ h ∈ m.acquired, ∃ k, m.loops[k]? = some h.bufferIndex ∧
    h.firstSample = kGpioSamplesPerFrame * k
  balanced : m.ring.progress.samplesCaptured < u64Max →
    m.ring.progress.samplesCaptured = m.ring.progress.samplesLost +
      kGpioSamplesPerFrame * m.ring.progress.buffersCompleted

/-! ### What the operations do -/

namespace RawCaptureRing

def Books (r : RawCaptureRing) : Prop :=
  Balanced u64Max kGpioSamplesPerFrame r.progress.samplesCaptured r.progress.samplesLost
    r.progress.buffersCompleted

theorem takeFreeBuffer_cases (r : RawCaptureRing) (state : BufferState) (firstSample : ℕ) :
    (∃ i < 4, (r.records i).state = .free ∧
      r.takeFreeBuffer state firstSample =
        ({ r with
            records := Function.update r.records i ⟨state, firstSample, 0⟩
            nextFreeSearch := (i + 1) % 4 }, i)) ∨
    ((∀ i < 4, (r.records i).state ≠ .free) ∧ r.takeFreeBuffer state firstSample = (r, 4)) := by
  unfold takeFreeBuffer
  cases hsearch : searchFrom kGpioRawDmaRingDepth r.nextFreeSearch
      fun i => decide ((r.records i).state = .free) with
  | some i =>
    obtain ⟨hi, hfree⟩ := searchFrom_some hsearch
    exact Or.inl ⟨i, hi, of_decide_eq_true hfree, rfl⟩
  | none =>
    refine Or.inr ⟨fun i hi => ?_, rfl⟩
    exact of_decide_eq_false (searchFrom_none hsearch i hi)

theorem allBuffersFree_iff (r : RawCaptureRing) :
    r.allBuffersFree = true ↔ ∀ i < 4, (r.records i).state = .free := by
  simp [allBuffersFree]

/-- What a successful `prime` does, `a` and `q` being the buffers it takes. -/
structure Primed (r r' : RawCaptureRing) (a q : ℕ) : Prop where
  records : r'.records = Function.update (Function.update r.records a ⟨.dmaActive, 0, 0⟩) q
    ⟨.dmaQueued, kGpioSamplesPerFrame, 0⟩
  running : r'.running = true
  active : r'.activeDestination = a
  queued : r'.queuedDestination = q
  activeFirst : r'.activeFirstSample = 0
  queuedFirst : r'.queuedFirstSample = kGpioSamplesPerFrame
  nextFirst : r'.nextFirstSample = 2 * kGpioSamplesPerFrame
  books : r'.Books

theorem prime_cases (r : RawCaptureRing) :
    (r.prime.2.status ≠ .ok ∧ r.prime.1 = r) ∨
    (r.running = false ∧ (∀ i < 4, (r.records i).state = .free) ∧
      ∃ a q, a < 4 ∧ q < 4 ∧ a ≠ q ∧ r.prime.2.status = .ok ∧ Primed r r.prime.1 a q) := by
  unfold prime
  by_cases hrun : r.running = true
  · rw [if_pos hrun]
    exact Or.inl ⟨nofun, rfl⟩
  rw [if_neg hrun]
  by_cases hall : r.allBuffersFree = true
  swap
  · rw [if_pos (by simp [hall])]
    exact Or.inl ⟨nofun, rfl⟩
  rw [if_neg (by simp [hall])]
  have hfree := r.allBuffersFree_iff.mp hall
  refine Or.inr ⟨by simpa using hrun, hfree, ?_⟩
  rcases takeFreeBuffer_cases r.rewound .dmaActive r.rewound.activeFirstSample with
    ⟨a, ha, -, htake⟩ | ⟨hnone, -⟩
  swap
  · exact absurd (hfree 0 (by decide)) (hnone 0 (by decide))
  simp only [htake]
  rcases takeFreeBuffer_cases { r.rewound with
      records := Function.update r.rewound.records a ⟨.dmaActive, r.rewound.activeFirstSample, 0⟩
      nextFreeSearch := (a + 1) % 4 } .dmaQueued r.rewound.queuedFirstSample with
    ⟨q, hq, hqfree, htake'⟩ | ⟨hnone, -⟩
  swap
  · -- Three buffers are still free.
    obtain ⟨b, hb, hne⟩ : ∃ b < 4, b ≠ a :=
      if h0 : a = 0 then ⟨1, by decide, by omega⟩ else ⟨0, by decide, Ne.symm h0⟩
    refine absurd ?_ (hnone b hb)
    simp only [Function.update_of_ne hne]
    exact hfree b hb
  simp only [htake']
  have haq : a ≠ q := by
    rintro rfl
    simp at hqfree
  rw [if_neg (by simp [isBufferDestination, ha, hq])]
  exact ⟨a, q, ha, hq, haq, rfl, rfl, rfl, rfl, rfl, rfl, rfl, rfl, by
    intro _
    rfl⟩

/-- What `stop` does to a running ring up to the end of its critical section. -/
structure StopBegun (r r' : RawCaptureRing) : Prop where
  records : ∀ i < 4, r'.records i =
    if i = r.queuedDestination then { r.records i with state := .free }
    else if i = r.activeDestination then { r.records i with state := .releasing }
    else r.records i
  running : r'.running = false
  books : r.Books → r'.Books

theorem accountStop_spec (r : RawCaptureRing) (n : ℕ) : ∃ P,
    r.accountStop n = { r with progress := P } ∧ (r.Books → Books { r with progress := P }) := by
  unfold accountStop
  by_cases h0 : n = 0
  · rw [if_pos h0]
    exact ⟨r.progress, rfl, id⟩
  · rw [if_neg h0]
    refine ⟨_, rfl, fun hb => ?_⟩
    unfold Books at hb ⊢
    dsimp only
    split
    · exact hb.lose n
    · exact hb.lose n

/-- The records after buffer `i` was leased. -/
def acquired (r : RawCaptureRing) (i : ℕ) : ℕ → BufferRecord :=
  Function.update r.records i
    { r.records i with state := .packing, lease := (allocateLease r.nextLease).1 }

/-- The lease given out for buffer `i`. -/
def handleOf (r : RawCaptureRing) (i : ℕ) : BufferHandle :=
  ⟨some i, (r.records i).firstSample, kGpioSamplesPerFrame, (allocateLease r.nextLease).1, i⟩

theorem acquireReady_cases (r : RawCaptureRing) : r.acquireReady = (r, {}) ∨
    ∃ i < 4, (r.records i).state = .ready ∧ (r.records i).firstSample < u64Max ∧
      (∀ j < 4, (r.records j).state = .ready →
        (r.records i).firstSample ≤ (r.records j).firstSample) ∧
      r.acquireReady = ({ r with
        records := r.acquired i
        nextLease := (allocateLease r.nextLease).2
        progress := { r.progress with
          buffersAcquired := satAdd u64Max r.progress.buffersAcquired 1
          samplesDelivered := satAdd u64Max r.progress.samplesDelivered kGpioSamplesPerFrame
          cacheCpuInvalidations := satAdd u32Max r.progress.cacheCpuInvalidations 1 } },
        { status := .ok, handle := r.handleOf i }) := by
  unfold acquireReady
  cases hold : oldest kGpioRawDmaRingDepth u64Max (fun i => decide ((r.records i).state = .ready))
      (fun i => (r.records i).firstSample) with
  | none => exact Or.inl rfl
  | some i =>
    obtain ⟨hi, hready, hmax, hmin⟩ := oldest_some hold
    exact Or.inr ⟨i, hi, of_decide_eq_true hready, hmax,
      fun j hj hs => hmin j hj (decide_eq_true hs), rfl⟩

/-- What `onMajorLoopComplete` does to a ring whose targets are in order, `f`
being the destination it queues. -/
structure LoopDone (r r' : RawCaptureRing) (f : ℕ) : Prop where
  taken : f = 4 ∨ f < 4 ∧ (r.records f).state = .free
  records : ∀ i < 4, r'.records i =
    if i = f then ⟨.dmaQueued, r.nextFirstSample, 0⟩
    else if i = r.queuedDestination then { r.records i with state := .dmaActive }
    else if i = r.activeDestination then { r.records i with state := .ready }
    else r.records i
  running : r'.running = r.running
  active : r'.activeDestination = r.queuedDestination
  queued : r'.queuedDestination = f
  activeFirst : r'.activeFirstSample = r.queuedFirstSample
  queuedFirst : r'.queuedFirstSample = r.nextFirstSample
  nextFirst : r'.nextFirstSample = satAdd u64Max r.nextFirstSample kGpioSamplesPerFrame
  books : r.Books → r'.Books

/-- The destinations that `onMajorLoopComplete` expects to find. -/
structure Armed (r : RawCaptureRing) : Prop where
  active : r.activeDestination = 4 ∨
    r.activeDestination < 4 ∧ (r.records r.activeDestination).state = .dmaActive
  queued : r.queuedDestination = 4 ∨
    r.queuedDestination < 4 ∧ (r.records r.queuedDestination).state = .dmaQueued

theorem Armed.completeActive {r : RawCaptureRing} (h : r.Armed) : ∃ R P,
    r.completeActive = some { r with records := R, progress := P } ∧
      (∀ i < 4, R i = if i = r.activeDestination then { r.records i with state := .ready }
        else r.records i) ∧
      (r.Books → Balanced u64Max kGpioSamplesPerFrame
        (satAdd u64Max P.samplesCaptured kGpioSamplesPerFrame) P.samplesLost
        P.buffersCompleted) := by
  unfold RawCaptureRing.completeActive
  rcases h.active with hover | ⟨hlt, hstate⟩
  · rw [if_neg (by simp [isBufferDestination, hover]), if_pos hover]
    refine ⟨r.records, _, rfl, ?_, fun hb => hb.lose kGpioSamplesPerFrame⟩
    intro i hi
    rw [if_neg (by omega)]
  · rw [if_pos (by simpa [isBufferDestination] using hlt), if_neg (by simp [hstate])]
    refine ⟨_, _, rfl, ?_, fun hb => hb.complete (by decide)⟩
    intro i _
    by_cases hi : i = r.activeDestination
    · simp [setState, hi]
    · simp [setState, hi]

theorem Armed.ne {r : RawCaptureRing} (h : r.Armed) (hlt : r.activeDestination < 4) :
    r.queuedDestination ≠ r.activeDestination := by
  intro heq
  rcases h.active with h4 | ⟨-, ha⟩
  · omega
  · rcases h.queued with h4 | ⟨-, hq⟩
    · omega
    · rw [heq, ha] at hq
      cases hq

theorem retire_eq {r : RawCaptureRing} {i : ℕ} {e n : BufferState}
    (h : i = 4 ∨ i < 4 ∧ (r.records i).state = e) : ∃ R,
    r.retire i e n = { r with records := R } ∧
      ∀ j < 4, R j = if j = i then { r.records j with state := n } else r.records j := by
  unfold retire
  rcases h with h4 | ⟨hlt, hstate⟩
  · rw [if_neg (by simp [isBufferDestination, h4])]
    refine ⟨r.records, rfl, ?_⟩
    intro j hj
    rw [if_neg (by omega)]
  · rw [if_pos (by simpa [isBufferDestination] using hlt), if_neg (by simp [hstate])]
    refine ⟨_, rfl, ?_⟩
    intro j _
    by_cases hj : j = i
    · simp [hj]
    · simp [hj]

theorem Armed.retireTargets {r : RawCaptureRing} (h : r.Armed) : ∃ R,
    r.retireTargets = { r with records := R } ∧
      ∀ i < 4, R i = if i = r.queuedDestination then { r.records i with state := .free }
        else if i = r.activeDestination then { r.records i with state := .releasing }
        else r.records i := by
  obtain ⟨R, hR, hrec⟩ := retire_eq (n := .releasing) h.active
  have hqueued : r.queuedDestination = 4 ∨
      r.queuedDestination < 4 ∧ (R r.queuedDestination).state = .dmaQueued := by
    refine h.queued.imp id fun ⟨hlt, hstate⟩ => ⟨hlt, ?_⟩
    rw [hrec _ hlt, if_neg]
    · exact hstate
    · intro heq
      exact h.ne (heq ▸ hlt) heq
  obtain ⟨R', hR', hrec'⟩ := retire_eq (r := { r with records := R }) (n := .free) hqueued
  refine ⟨R', ?_, ?_⟩
  · rw [RawCaptureRing.retireTargets, hR, hR']
  · intro i hi
    rw [hrec' i hi]
    by_cases hiq : i = r.queuedDestination
    · rw [if_pos hiq, if_pos hiq]
      simp only [hrec i hi]
      split <;> rfl
    · rw [if_neg hiq, if_neg hiq]
      exact hrec i hi

theorem Armed.beginStop {r : RawCaptureRing} (h : r.Armed) (hrun : r.running = true) (n : ℕ) :
    StopBegun r (r.beginStop n).1 ∧ (r.beginStop n).2.2 = some r.activeDestination := by
  unfold RawCaptureRing.beginStop
  obtain ⟨E, hE⟩ : ∃ E, (if kGpioSamplesPerFrame < n then r.noteInvariantError else r) =
      { r with invariantErrors := E } := by
    split
    · exact ⟨_, rfl⟩
    · exact ⟨r.invariantErrors, rfl⟩
  rw [hE]
  simp only [hrun, Bool.not_true, Bool.false_eq_true, if_false]
  obtain ⟨P, hP, hbooks⟩ := accountStop_spec { r with invariantErrors := E }
    (min n kGpioSamplesPerFrame)
  simp only [hrun] at hP
  rw [hP]
  obtain ⟨R, hR, hrec⟩ := Armed.retireTargets (r := { r with
    progress := P, running := true, invariantErrors := E }) ⟨h.active, h.queued⟩
  rw [hR]
  exact ⟨⟨hrec, rfl, hbooks⟩, trivial⟩

theorem beginStop_idle {r : RawCaptureRing} (hrun : r.running = false) (n : ℕ) :
    (∃ E, (r.beginStop n).1 = { r with invariantErrors := E }) ∧ (r.beginStop n).2.2 = none := by
  unfold beginStop
  by_cases hn : kGpioSamplesPerFrame < n
  · simp only [hn, if_true]
    rw [if_pos (by simp [noteInvariantError, hrun])]
    exact ⟨⟨_, rfl⟩, rfl⟩
  · simp only [hn, if_false]
    rw [if_pos (by simp [hrun])]
    exact ⟨⟨r.invariantErrors, rfl⟩, rfl⟩

theorem onMajorLoopComplete_idle {r : RawCaptureRing} (hrun : r.running = false) :
    r.onMajorLoopComplete.1 = r ∧ r.onMajorLoopComplete.2.status = .notRunning := by
  unfold RawCaptureRing.onMajorLoopComplete
  rw [if_pos (by simp [hrun])]
  exact ⟨rfl, rfl⟩

theorem promoteQueued_eq {r : RawCaptureRing} (h : r.activeDestination = 4 ∨
    r.activeDestination < 4 ∧ (r.records r.activeDestination).state = .dmaQueued) : ∃ R,
    r.promoteQueued = some { r with records := R } ∧
      ∀ i < 4, R i = if i = r.activeDestination then { r.records i with state := .dmaActive }
        else r.records i := by
  unfold promoteQueued
  rcases h with hover | ⟨hlt, hstate⟩
  · rw [if_neg (by simp [isBufferDestination, hover]), if_neg (by simp [hover])]
    refine ⟨r.records, rfl, ?_⟩
    intro i hi
    rw [if_neg (by omega)]
  · rw [if_pos (by simpa [isBufferDestination] using hlt), if_neg (by simp [hstate])]
    refine ⟨_, rfl, ?_⟩
    intro i _
    by_cases hi : i = r.activeDestination
    · simp [hi]
    · simp [hi]

theorem Armed.onMajorLoopComplete {r : RawCaptureRing} (h : r.Armed) (hrun : r.running = true) :
    ∃ f, LoopDone r r.onMajorLoopComplete.1 f ∧ r.onMajorLoopComplete.2.status = .ok ∧
      r.onMajorLoopComplete.2.completedDestination = r.activeDestination := by
  obtain ⟨R, P, hcomplete, hR, hbooks⟩ := h.completeActive
  -- The queued buffer is not the one that just completed.
  have hqueued : r.queuedDestination = 4 ∨
      r.queuedDestination < 4 ∧ (R r.queuedDestination).state = .dmaQueued := by
    refine h.queued.imp id fun ⟨hlt, hstate⟩ => ⟨hlt, ?_⟩
    rw [hR _ hlt, if_neg]
    · exact hstate
    · intro heq
      rcases h.active with hover | ⟨-, hactive⟩
      · omega
      · rw [← heq, hstate] at hactive
        cases hactive
  unfold RawCaptureRing.onMajorLoopComplete
  rw [if_neg (by simp [hrun])]
  simp only [hcomplete]
  obtain ⟨R', hpromote, hR'⟩ := promoteQueued_eq (r := { r with
    records := R
    progress := { P with
      majorLoopsCompleted := satAdd u64Max P.majorLoopsCompleted 1
      samplesCaptured := satAdd u64Max P.samplesCaptured kGpioSamplesPerFrame }
    activeDestination := r.queuedDestination
    activeFirstSample := r.queuedFirstSample }) hqueued
  simp only [hpromote]
  have hrecords : ∀ i < 4, R' i =
      if i = r.queuedDestination then { r.records i with state := .dmaActive }
      else if i = r.activeDestination then { r.records i with state := .ready }
      else r.records i := by
    intro i hi
    rw [hR' i hi]
    simp only [hR i hi]
    by_cases hq : i = r.queuedDestination
    · rw [if_pos hq, if_pos hq]
      split <;> rfl
    · rw [if_neg hq, if_neg hq]
  unfold scheduleFutureDestination
  rcases takeFreeBuffer_cases { r with
      records := R'
      progress := { P with
        majorLoopsCompleted := satAdd u64Max P.majorLoopsCompleted 1
        samplesCaptured := satAdd u64Max P.samplesCaptured kGpioSamplesPerFrame }
      activeDestination := r.queuedDestination
      activeFirstSample := r.queuedFirstSample
      queuedFirstSample := r.nextFirstSample } .dmaQueued r.nextFirstSample with
    ⟨f, hf, hfree, htake⟩ | ⟨-, htake⟩
  · simp only [htake]
    refine ⟨f, ⟨Or.inr ⟨hf, ?_⟩, ?_, rfl, rfl, rfl, rfl, rfl, rfl, hbooks⟩, trivial, trivial⟩
    · simp only [hrecords f hf] at hfree
      split at hfree
      · cases hfree
      · split at hfree
        · cases hfree
        · exact hfree
    · intro i hi
      by_cases hif : i = f
      · simp [hif]
      · simp [hif, hrecords i hi]
  · simp only [htake]
    refine ⟨4, ⟨Or.inl rfl, ?_, rfl, rfl, rfl, rfl, rfl, rfl, hbooks⟩, trivial, trivial⟩
    intro i hi
    rw [if_neg (by omega)]
    exact hrecords i hi

end RawCaptureRing

/-! ### The invariant -/

open RawCaptureRing

theorem position_lt {k l : ℕ} (h : position k < u64Max) (hkl : k < l) : position k < position l :=
  stamp_lt (by decide) h hkl

theorem position_succ (k : ℕ) :
    satAdd u64Max (position k) kGpioSamplesPerFrame = position (k + 1) := stamp_succ _ _ _ _

theorem FilledBy.lt {loops : List ℕ} {k i : ℕ} (h : loops[k]? = some i) : k < loops.length :=
  (List.getElem?_eq_some_iff.mp h).1

/-- A loop into another buffer does not disturb a filled one. -/
theorem FilledBy.push {loops : List ℕ} {i a firstSample : ℕ} (h : FilledBy loops i firstSample)
    (hne : a ≠ i) : FilledBy (loops ++ [a]) i firstSample := by
  obtain ⟨k, hk, hpos, hlast⟩ := h
  refine ⟨k, ?_, hpos, ?_⟩
  · rw [List.getElem?_append_left (FilledBy.lt hk)]
    exact hk
  · intro l hl hsome
    rcases Nat.lt_or_ge l loops.length with hlt | hge
    · rw [List.getElem?_append_left hlt] at hsome
      exact hlast l hl hsome
    · rw [List.getElem?_append_right hge, List.getElem?_singleton] at hsome
      split at hsome
      · cases hsome
        exact hne rfl
      · cases hsome

/-- The loop that just ended filled its destination. -/
theorem FilledBy.last (loops : List ℕ) (a : ℕ) :
    FilledBy (loops ++ [a]) a (position loops.length) := by
  refine ⟨loops.length, by simp, rfl, ?_⟩
  intro l hl hsome
  have := FilledBy.lt hsome
  simp only [List.length_append, List.length_singleton] at this
  omega

namespace Inv

theorem initial : Inv {} := by
  refine ⟨?_, ?_, ?_, ?_, ?_, ?_, ?_, ?_, ?_, List.Pairwise.nil, ?_, ?_, ?_⟩ <;>
    simp [Machine.Owns, Machine.Holds]

theorem armed {m : Machine} (h : Inv m) (hrun : m.ring.running = true) : m.ring.Armed := by
  obtain ⟨ha, hq, -⟩ := h.targets hrun
  constructor
  · rcases Nat.lt_or_ge m.ring.activeDestination 4 with hlt | hge
    · exact Or.inr ⟨hlt, (h.active _ hlt).mpr ⟨hrun, rfl⟩⟩
    · exact Or.inl (by omega)
  · rcases Nat.lt_or_ge m.ring.queuedDestination 4 with hlt | hge
    · exact Or.inr ⟨hlt, (h.queued _ hlt).mpr ⟨hrun, rfl⟩⟩
    · exact Or.inl (by omega)

/-- A major loop keeps the invariant. -/
theorem loop {m : Machine} {r : RawCaptureRing} {f : ℕ} (h : Inv m) (hrun : m.ring.running = true)
    (hd : LoopDone m.ring r f) :
    Inv { m with ring := r, loops := m.loops ++ [m.ring.activeDestination] } := by
  have hrun' : r.running = true := by rw [hd.running, hrun]
  have hactive : ∀ i < 4, (m.ring.records i).state = .dmaActive ↔ m.ring.activeDestination = i :=
    fun i hi => (h.active i hi).trans ⟨And.right, fun he => ⟨hrun, he⟩⟩
  have hqueued : ∀ i < 4, (m.ring.records i).state = .dmaQueued ↔ m.ring.queuedDestination = i :=
    fun i hi => (h.queued i hi).trans ⟨And.right, fun he => ⟨hrun, he⟩⟩
  obtain ⟨hclock1, hclock2, hclock3⟩ := h.clock hrun
  -- The buffer taken for the queue was in the pool.
  have hfree : f < 4 → (m.ring.records f).state = .free := by
    intro hlt
    rcases hd.taken with heq | ⟨-, hs⟩
    · omega
    · exact hs
  have hfq : f < 4 → f ≠ m.ring.queuedDestination := by
    intro hlt heq
    have := (hqueued f hlt).mpr heq.symm
    rw [hfree hlt] at this
    cases this
  -- After the loop: `f` queued, the old queued one active, the old active one
  -- ready, the others as they were.
  have hcases : ∀ i < 4,
      (i = f ∧ r.records i = ⟨.dmaQueued, m.ring.nextFirstSample, 0⟩ ∧
        (m.ring.records i).state = .free) ∨
      (i ≠ f ∧ i = m.ring.queuedDestination ∧
        r.records i = { m.ring.records i with state := .dmaActive } ∧
        (m.ring.records i).state = .dmaQueued) ∨
      (i ≠ f ∧ i ≠ m.ring.queuedDestination ∧ i = m.ring.activeDestination ∧
        r.records i = { m.ring.records i with state := .ready } ∧
        (m.ring.records i).state = .dmaActive) ∨
      (i ≠ f ∧ i ≠ m.ring.queuedDestination ∧ i ≠ m.ring.activeDestination ∧
        r.records i = m.ring.records i) := by
    intro i hi
    have hrec := hd.records i hi
    by_cases hif : i = f
    · rw [if_pos hif] at hrec
      exact Or.inl ⟨hif, hrec, by rw [hif]; exact hfree (hif ▸ hi)⟩
    · rw [if_neg hif] at hrec
      by_cases hiq : i = m.ring.queuedDestination
      · rw [if_pos hiq] at hrec
        exact Or.inr (Or.inl ⟨hif, hiq, hrec, (hqueued i hi).mpr hiq.symm⟩)
      · rw [if_neg hiq] at hrec
        by_cases hia : i = m.ring.activeDestination
        · rw [if_pos hia] at hrec
          exact Or.inr (Or.inr (Or.inl ⟨hif, hiq, hia, hrec, (hactive i hi).mpr hia.symm⟩))
        · rw [if_neg hia] at hrec
          exact Or.inr (Or.inr (Or.inr ⟨hif, hiq, hia, hrec⟩))
  refine ⟨?_, ?_, ?_, ?_, ?_, ?_, ?_, ?_, ?_, h.increasing, ?_, ?_, ?_⟩
  · intro _
    obtain ⟨-, hq4, -⟩ := h.targets hrun
    rw [hd.active, hd.queued]
    refine ⟨hq4, ?_, ?_⟩
    · rcases hd.taken with heq | ⟨hlt, -⟩ <;> omega
    · intro heq
      rcases hd.taken with h4 | ⟨hlt, -⟩
      · omega
      · exact absurd heq.symm (hfq hlt)
  · intro i hi
    simp only [Machine.Owns, hrun', hd.active, true_and]
    rcases hcases i hi with ⟨hf, hrec, -⟩ | ⟨-, hq, hrec, -⟩ | ⟨-, hq, -, hrec, -⟩ | ⟨-, hq, ha, hrec⟩
    · rw [hrec]
      exact ⟨fun hs => (by cases hs), fun hs => absurd (hf ▸ hs).symm (hfq (hf ▸ hi))⟩
    · rw [hrec]
      exact ⟨fun _ => hq.symm, fun _ => rfl⟩
    · rw [hrec]
      exact ⟨fun hs => (by cases hs), fun hs => absurd hs.symm hq⟩
    · rw [hrec, hactive i hi]
      exact ⟨fun hs => absurd hs.symm ha, fun hs => absurd hs.symm hq⟩
  · intro i hi
    simp only [Machine.Owns, hrun', hd.queued, true_and]
    rcases hcases i hi with ⟨hf, hrec, -⟩ | ⟨hf, -, hrec, -⟩ | ⟨hf, -, -, hrec, -⟩ | ⟨hf, hq, -, hrec⟩
    · rw [hrec]
      exact ⟨fun _ => hf.symm, fun _ => rfl⟩
    · rw [hrec]
      exact ⟨fun hs => (by cases hs), fun hs => absurd hs.symm hf⟩
    · rw [hrec]
      exact ⟨fun hs => (by cases hs), fun hs => absurd hs.symm hf⟩
    · rw [hrec, hqueued i hi]
      exact ⟨fun hs => absurd hs.symm hq, fun hs => absurd hs.symm hf⟩
  · intro _
    simp only [List.length_append, List.length_singleton, hd.activeFirst, hd.queuedFirst,
      hd.nextFirst]
    exact ⟨hclock2, hclock3, by rw [hclock3, position_succ]⟩
  · intro i hi hown
    simp only [Machine.Owns, hrun', hd.active, true_and] at hown
    rcases hcases i hi with ⟨hf, -, -⟩ | ⟨-, -, hrec, -⟩ | ⟨-, hq, -⟩ | ⟨-, hq, -⟩
    · exact absurd (hf ▸ hown).symm (hfq (hf ▸ hi))
    · rw [hrec, hd.activeFirst]
      exact h.stampedQueued i hi ⟨hrun, hown⟩
    · exact absurd hown.symm hq
    · exact absurd hown.symm hq
  · intro i hi hown
    simp only [Machine.Owns, hrun', hd.queued, true_and] at hown
    rcases hcases i hi with ⟨-, hrec, -⟩ | ⟨hf, -⟩ | ⟨hf, -⟩ | ⟨hf, -⟩
    · rw [hrec, hd.queuedFirst]
    · exact absurd hown.symm hf
    · exact absurd hown.symm hf
    · exact absurd hown.symm hf
  · intro i hi hs
    rcases hcases i hi with ⟨-, hrec, -⟩ | ⟨-, -, hrec, hst⟩ | ⟨-, -, -, hrec, -⟩ | ⟨-, -, -, hrec⟩
    · rw [hrec]
    · rw [hrec]
      exact h.unleased i hi (Or.inr hst)
    · rw [hrec] at hs
      rcases hs with hs | hs <;> cases hs
    · rw [hrec] at hs ⊢
      exact h.unleased i hi hs
  · intro i hi hs
    rcases hcases i hi with ⟨-, hrec, -⟩ | ⟨-, -, hrec, -⟩ | ⟨-, -, ha, hrec, -⟩ | ⟨-, -, ha, hrec⟩
    · rw [hrec] at hs
      rcases hs with hs | hs <;> cases hs
    · rw [hrec] at hs
      rcases hs with hs | hs <;> cases hs
    · have hfirst : (r.records i).firstSample = position m.loops.length := by
        rw [hrec, ← hclock1]
        exact h.stampedActive i hi ⟨hrun, ha.symm⟩
      rw [hfirst, ← ha]
      exact FilledBy.last m.loops i
    · rw [hrec] at hs ⊢
      exact (h.filled i hi hs).push (Ne.symm ha)
  · intro i hi hs g hg
    rcases hcases i hi with ⟨-, hrec, -⟩ | ⟨-, -, hrec, -⟩ | ⟨-, -, ha, hrec, -⟩ | ⟨-, -, -, hrec⟩
    · rw [hrec] at hs
      cases hs
    · rw [hrec] at hs
      cases hs
    · -- Everything acquired so far came from an earlier loop.
      obtain ⟨hlt, k, hk, hpos⟩ := h.placed g hg
      have hfirst : (r.records i).firstSample = position m.loops.length := by
        rw [hrec, ← hclock1]
        exact h.stampedActive i hi ⟨hrun, ha.symm⟩
      rw [hfirst, hpos]
      exact position_lt (hpos ▸ hlt) (FilledBy.lt hk)
    · rw [hrec] at hs ⊢
      exact h.fresh i hi hs g hg
  · intro g hg
    obtain ⟨hlt, k, hk, hpos⟩ := h.placed g hg
    exact ⟨hlt, k, by rw [List.getElem?_append_left (FilledBy.lt hk)]; exact hk, hpos⟩
  · intro i hi
    refine Iff.trans ?_ (h.held i hi)
    rcases hcases i hi with ⟨-, hrec, hs⟩ | ⟨-, -, hrec, hs⟩ | ⟨-, -, -, hrec, hs⟩ | ⟨-, -, -, hrec⟩
    · simp [hrec, hs]
    · simp [hrec, hs]
    · simp [hrec, hs]
    · rw [hrec]
  · intro i hi hd
    have hrel := h.discarding i hi hd
    rcases hcases i hi with ⟨-, -, hs⟩ | ⟨-, -, -, hs⟩ | ⟨-, -, -, -, hs⟩ | ⟨-, -, -, hrec⟩
    · rw [hs] at hrel
      cases hrel.1
    · rw [hs] at hrel
      cases hrel.1
    · rw [hs] at hrel
      cases hrel.1
    · simp only [hrec]
      exact hrel

/-- A buffer outside the DMA goes one step back to the pool. -/
theorem giveBack {m m' : Machine} {i : ℕ} (h : Inv m)
    (hring : m'.ring = { m.ring with
      records := m'.ring.records
      progress := m'.ring.progress
      invariantErrors := m'.ring.invariantErrors })
    (hloops : m'.loops = m.loops) (hacquired : m'.acquired = m.acquired)
    (hother : ∀ j, j ≠ i → m'.ring.records j = m.ring.records j)
    (hold : (m.ring.records i).state = .packing ∨ (m.ring.records i).state = .releasing)
    (hnew : (m'.ring.records i).state = .releasing ∨ (m'.ring.records i).state = .free)
    (hheld : ∀ j, m'.Holds j ↔ m.Holds j ∧ j ≠ i)
    (hdiscarding : ∀ j < 4, m'.discarding = some j → m.discarding = some j ∧ j ≠ i) :
    Inv m' := by
  have hrun : m'.ring.running = m.ring.running := by rw [hring]
  have hact : m'.ring.activeDestination = m.ring.activeDestination := by rw [hring]
  have hque : m'.ring.queuedDestination = m.ring.queuedDestination := by rw [hring]
  have hcur : m'.ring.activeFirstSample = m.ring.activeFirstSample := by rw [hring]
  have hnext : m'.ring.queuedFirstSample = m.ring.queuedFirstSample := by rw [hring]
  have hlater : m'.ring.nextFirstSample = m.ring.nextFirstSample := by rw [hring]
  have hown : ∀ j o, o = .activeDma ∨ o = .queuedDma → (m'.Owns j o ↔ m.Owns j o) := by
    rintro j o (rfl | rfl)
    · simp only [Machine.Owns, hrun, hact]
    · simp only [Machine.Owns, hrun, hque]
  -- Neither target of the DMA is the buffer in question.
  have hdma : ∀ j < 4, ∀ o, o = .activeDma ∨ o = .queuedDma → m.Owns j o → j ≠ i := by
    rintro j hj o (rfl | rfl) hm rfl
    · rw [(h.active j hj).mpr hm] at hold
      rcases hold with hs | hs <;> cases hs
    · rw [(h.queued j hj).mpr hm] at hold
      rcases hold with hs | hs <;> cases hs
  have hkeep : ∀ s, s ≠ .packing → s ≠ .releasing → s ≠ .free →
      ∀ j, (m'.ring.records j).state = s ↔ (m.ring.records j).state = s := by
    intro s h1 h2 h3 j
    by_cases hj : j = i
    · subst hj
      constructor
      · intro hs
        rw [hs] at hnew
        rcases hnew with hs | hs
        · exact absurd hs h2
        · exact absurd hs h3
      · intro hs
        rw [hs] at hold
        rcases hold with hs | hs
        · exact absurd hs h1
        · exact absurd hs h2
    · rw [hother j hj]
  refine ⟨?_, ?_, ?_, ?_, ?_, ?_, ?_, ?_, ?_, ?_, ?_, ?_, ?_⟩
  · rw [hrun, hact, hque]
    exact h.targets
  · intro j hj
    rw [hkeep .dmaActive (by decide) (by decide) (by decide), hown j _ (Or.inl rfl)]
    exact h.active j hj
  · intro j hj
    rw [hkeep .dmaQueued (by decide) (by decide) (by decide), hown j _ (Or.inr rfl)]
    exact h.queued j hj
  · rw [hrun, hcur, hnext, hlater, hloops]
    exact h.clock
  · intro j hj hm
    rw [hown j _ (Or.inl rfl)] at hm
    rw [hother j (hdma j hj _ (Or.inl rfl) hm), hcur]
    exact h.stampedActive j hj hm
  · intro j hj hm
    rw [hown j _ (Or.inr rfl)] at hm
    rw [hother j (hdma j hj _ (Or.inr rfl) hm), hnext]
    exact h.stampedQueued j hj hm
  · intro j hj hs
    rw [hkeep .dmaActive (by decide) (by decide) (by decide),
      hkeep .dmaQueued (by decide) (by decide) (by decide)] at hs
    have hne : j ≠ i := by
      rintro rfl
      rcases hs with hs | hs <;> rw [hs] at hold <;> rcases hold with hs | hs <;> cases hs
    rw [hother j hne]
    exact h.unleased j hj hs
  · intro j hj hs
    by_cases hji : j = i
    · subst hji
      rcases hs with hs | hs <;> rw [hs] at hnew <;> rcases hnew with hs | hs <;> cases hs
    · rw [hother j hji] at hs ⊢
      rw [hloops]
      exact h.filled j hj hs
  · intro j hj hs g hg
    rw [hacquired] at hg
    by_cases hji : j = i
    · subst hji
      rw [hs] at hnew
      rcases hnew with hs | hs <;> cases hs
    · rw [hother j hji] at hs ⊢
      exact h.fresh j hj hs g hg
  · rw [hacquired]
    exact h.increasing
  · rw [hacquired, hloops]
    exact h.placed
  · intro j hj
    rw [hheld j, ← h.held j hj]
    by_cases hji : j = i
    · subst hji
      constructor
      · intro hs
        rw [hs] at hnew
        rcases hnew with hs | hs <;> cases hs
      · rintro ⟨-, hne⟩
        exact absurd rfl hne
    · rw [hother j hji]
      exact ⟨fun hs => ⟨hs, hji⟩, And.left⟩
  · intro j hj hm
    obtain ⟨hd, hne⟩ := hdiscarding j hj hm
    rw [hother j hne]
    exact h.discarding j hj hd

/-- The parts of a handle that `release` compares. -/
theorem handle_of_matches {r : RawCaptureRing} {g : BufferHandle} {s : BufferState}
    (h : r.handleMatches g s = true) : g.bufferIndex < 4 ∧ (r.records g.bufferIndex).state = s ∧
      (r.records g.bufferIndex).lease = g.lease ∧ g.lease ≠ 0 := by
  simp only [handleMatches, BufferHandle.valid, Bool.and_eq_true, decide_eq_true_eq,
    bne_iff_ne, ne_eq] at h
  obtain ⟨⟨⟨⟨⟨⟨⟨⟨-, hlt⟩, hlease⟩, -⟩, -⟩, hstate⟩, hsame⟩, -⟩, -⟩ := h
  exact ⟨hlt, hstate, hsame, hlease⟩

theorem beginRelease {m : Machine} (h : Inv m) (g : BufferHandle) :
    Inv (m.step (.beginRelease g)) := by
  simp only [Machine.step, RawCaptureRing.beginRelease]
  by_cases hmatch : m.ring.handleMatches g .packing = true
  · obtain ⟨hlt, hstate, -, -⟩ := handle_of_matches hmatch
    simp only [hmatch, if_true]
    refine h.giveBack (i := g.bufferIndex) rfl rfl rfl ?_ (Or.inl hstate)
      (Or.inl (by simp [setState])) ?_ ?_
    · intro j hj
      exact Function.update_of_ne hj _ _
    · intro j
      simp only [Machine.Holds, List.mem_filter, bne_iff_ne, ne_eq]
      constructor
      · rintro ⟨k, ⟨hk, hne⟩, rfl⟩
        exact ⟨⟨k, hk, rfl⟩, hne⟩
      · rintro ⟨⟨k, hk, rfl⟩, hne⟩
        exact ⟨k, ⟨hk, hne⟩, rfl⟩
    · intro j hj hd
      refine ⟨hd, fun heq => ?_⟩
      have := (h.discarding j hj hd).1
      rw [heq, hstate] at this
      cases this
  · simp only [hmatch]
    exact h

theorem endRelease {m : Machine} (h : Inv m) (g : BufferHandle) :
    Inv (m.step (.endRelease g)) := by
  simp only [Machine.step, RawCaptureRing.endRelease]
  by_cases hmatch : ({ m.ring with progress := { m.ring.progress with
      cacheDmaDiscards := satAdd u32Max m.ring.progress.cacheDmaDiscards 1 } } :
        RawCaptureRing).handleMatches g .releasing = true
  · obtain ⟨hlt, hstate, hsame, hlease⟩ := handle_of_matches hmatch
    rw [if_neg (by simp [hmatch])]
    refine h.giveBack (i := g.bufferIndex) rfl rfl rfl ?_ (Or.inr hstate) (Or.inr (by simp)) ?_ ?_
    · intro j hj
      exact Function.update_of_ne hj _ _
    · intro j
      refine ⟨fun hj => ⟨hj, ?_⟩, And.left⟩
      -- A buffer on its way back is not leased.
      rintro rfl
      have := (h.held _ hlt).mpr hj
      rw [hstate] at this
      cases this
    · intro j hj hd
      refine ⟨hd, fun heq => hlease ?_⟩
      rw [← hsame, ← heq]
      exact (h.discarding j hj hd).2
  · rw [if_pos (by simp [hmatch])]
    exact ⟨h.targets, h.active, h.queued, h.clock, h.stampedActive, h.stampedQueued, h.unleased,
      h.filled, h.fresh, h.increasing, h.placed, h.held, h.discarding⟩

theorem endStop {m : Machine} (h : Inv m) : Inv (m.step .endStop) := by
  simp only [Machine.step]
  cases hd : m.discarding with
  | none => exact h
  | some i =>
    simp only [RawCaptureRing.endStop]
    by_cases hlt : i < 4
    · obtain ⟨hstate, -⟩ := h.discarding i hlt hd
      rw [if_pos (by simpa [isBufferDestination] using hlt)]
      refine h.giveBack (i := i) rfl rfl rfl ?_ (Or.inr hstate) (Or.inr (by simp)) ?_ ?_
      · intro j hj
        exact Function.update_of_ne hj _ _
      · intro j
        refine ⟨fun hj => ⟨hj, ?_⟩, And.left⟩
        rintro rfl
        have := (h.held _ hlt).mpr hj
        rw [hstate] at this
        cases this
      · intro j _ hj
        cases hj
    · rw [if_neg (by simpa [isBufferDestination] using hlt)]
      exact ⟨h.targets, h.active, h.queued, h.clock, h.stampedActive, h.stampedQueued, h.unleased,
        h.filled, h.fresh, h.increasing, h.placed, h.held, fun j _ hj => by cases hj⟩

/-- Two filled buffers have different positions, unless both are clamped. -/
theorem ready_lt {m : Machine} {i j : ℕ} (h : Inv m) (hi : i < 4) (hj : j < 4) (hne : j ≠ i)
    (hsi : (m.ring.records i).state = .ready) (hsj : (m.ring.records j).state = .ready)
    (hmax : (m.ring.records i).firstSample < u64Max)
    (hle : (m.ring.records i).firstSample ≤ (m.ring.records j).firstSample) :
    (m.ring.records i).firstSample < (m.ring.records j).firstSample := by
  obtain ⟨k, hk, hposk, -⟩ := h.filled i hi (Or.inl hsi)
  obtain ⟨l, hl, hposl, -⟩ := h.filled j hj (Or.inl hsj)
  rw [hposk] at hmax hle ⊢
  rw [hposl] at hle ⊢
  rcases Nat.lt_trichotomy k l with hlt | heq | hgt
  · exact position_lt hmax hlt
  · subst heq
    rw [hk] at hl
    cases hl
    exact absurd rfl hne
  · have hmono : position l ≤ position k := stamp_mono _ _ _ (Nat.le_of_lt hgt)
    have := position_lt (lt_of_le_of_lt hmono hmax) hgt
    omega

theorem acquireReady {m : Machine} (h : Inv m) : Inv (m.step .acquireReady) := by
  simp only [Machine.step]
  rcases acquireReady_cases m.ring with hnone | ⟨i, hi, hstate, hmax, hmin, hgot⟩
  · rw [hnone]
    exact h
  · rw [hgot]
    simp only [if_true]
    have hcases : ∀ j, (j = i ∧ m.ring.acquired i j = ⟨.packing, (m.ring.records i).firstSample,
        (allocateLease m.ring.nextLease).1⟩) ∨ (j ≠ i ∧ m.ring.acquired i j = m.ring.records j) := by
      intro j
      by_cases hj : j = i
      · exact Or.inl ⟨hj, by simp [acquired, hj]⟩
      · exact Or.inr ⟨hj, Function.update_of_ne hj _ _⟩
    have hkeep : ∀ s, s ≠ .packing → s ≠ .ready →
        ∀ j, (m.ring.acquired i j).state = s ↔ (m.ring.records j).state = s := by
      intro s h1 h2 j
      rcases hcases j with ⟨rfl, hrec⟩ | ⟨-, hrec⟩
      · rw [hrec, hstate]
        exact ⟨fun hs => absurd hs.symm h1, fun hs => absurd hs.symm h2⟩
      · rw [hrec]
    have hfirst : ∀ j, (m.ring.acquired i j).firstSample = (m.ring.records j).firstSample := by
      intro j
      rcases hcases j with ⟨rfl, hrec⟩ | ⟨-, hrec⟩ <;> rw [hrec]
    refine ⟨h.targets, ?_, ?_, h.clock, ?_, ?_, ?_, ?_, ?_, ?_, ?_, ?_, ?_⟩
    · intro j hj
      exact (hkeep .dmaActive (by decide) (by decide) j).trans (h.active j hj)
    · intro j hj
      exact (hkeep .dmaQueued (by decide) (by decide) j).trans (h.queued j hj)
    · intro j hj hm
      exact (hfirst j).trans (h.stampedActive j hj hm)
    · intro j hj hm
      exact (hfirst j).trans (h.stampedQueued j hj hm)
    · intro j hj hs
      rcases hcases j with ⟨rfl, hrec⟩ | ⟨-, hrec⟩
      · simp [hrec] at hs
      · simp only [hrec] at hs ⊢
        exact h.unleased j hj hs
    · intro j hj hs
      simp only [hfirst j]
      rcases hcases j with ⟨rfl, -⟩ | ⟨-, hrec⟩
      · exact h.filled j hj (Or.inl hstate)
      · simp only [hrec] at hs
        exact h.filled j hj hs
    · intro j hj hs g hg
      simp only [hfirst j]
      rcases hcases j with ⟨rfl, hrec⟩ | ⟨hne, hrec⟩
      · simp only [hrec] at hs
        cases hs
      · simp only [hrec] at hs
        rcases List.mem_append.mp hg with hg | hg
        · exact h.fresh j hj hs g hg
        · -- The buffer just taken was the oldest.
          rw [List.mem_singleton.mp hg]
          exact h.ready_lt hi hj hne hstate hs hmax (hmin j hj hs)
    · refine List.pairwise_append.mpr ⟨h.increasing, List.pairwise_singleton _ _, ?_⟩
      intro g hg g' hg'
      rw [List.mem_singleton.mp hg']
      exact h.fresh i hi hstate g hg
    · intro g hg
      rcases List.mem_append.mp hg with hg | hg
      · exact h.placed g hg
      · rw [List.mem_singleton.mp hg]
        obtain ⟨k, hk, hpos, -⟩ := h.filled i hi (Or.inl hstate)
        exact ⟨hmax, k, hk, hpos⟩
    · intro j hj
      have hholds : Machine.Holds { m with held := m.held ++ [handleOf m.ring i] } j ↔
          m.Holds j ∨ i = j := by
        simp [Machine.Holds, or_and_right, exists_or, handleOf]
      refine Iff.trans ?_ hholds.symm
      rw [← h.held j hj]
      rcases hcases j with ⟨rfl, hrec⟩ | ⟨hne, hrec⟩
      · simp [hrec]
      · simp [hrec, Ne.symm hne]
    · intro j hj hd
      have hrel := h.discarding j hj hd
      rcases hcases j with ⟨rfl, -⟩ | ⟨-, hsame⟩
      · rw [hstate] at hrel
        cases hrel.1
      · simp only [hsame]
        exact hrel

/-- With every buffer free nothing is leased and nothing awaits its discard. -/
theorem quiet {m : Machine} (h : Inv m) (hfree : ∀ i < 4, (m.ring.records i).state = .free) :
    (∀ i < 4, ¬m.Holds i) ∧ ∀ i < 4, m.discarding ≠ some i := by
  constructor
  · intro i hi hm
    have := (h.held i hi).mpr hm
    rw [hfree i hi] at this
    cases this
  · intro i hi hd
    have := (h.discarding i hi hd).1
    rw [hfree i hi] at this
    cases this

theorem prime {m : Machine} (h : Inv m) : Inv (m.step .prime) := by
  simp only [Machine.step]
  rcases prime_cases m.ring with ⟨hfail, hsame⟩ | ⟨hrun, hfree, a, q, ha, hq, haq, hstatus, hp⟩
  · rw [if_neg hfail, hsame]
    exact h
  · rw [if_pos hstatus]
    obtain ⟨hheld, hdisc⟩ := h.quiet hfree
    have hcases : ∀ i < 4,
        (i = q ∧ m.ring.prime.1.records i = ⟨.dmaQueued, kGpioSamplesPerFrame, 0⟩) ∨
        (i ≠ q ∧ i = a ∧ m.ring.prime.1.records i = ⟨.dmaActive, 0, 0⟩) ∨
        (i ≠ q ∧ i ≠ a ∧ (m.ring.prime.1.records i).state = .free) := by
      intro i hi
      rw [hp.records]
      by_cases hiq : i = q
      · exact Or.inl ⟨hiq, by simp [hiq]⟩
      · by_cases hia : i = a
        · exact Or.inr (Or.inl ⟨hiq, hia, by simp [hia, haq]⟩)
        · exact Or.inr (Or.inr ⟨hiq, hia, by simp [hiq, hia, hfree i hi]⟩)
    refine ⟨?_, ?_, ?_, ?_, ?_, ?_, ?_, ?_, ?_, List.Pairwise.nil, ?_, ?_, ?_⟩
    · intro _
      rw [hp.active, hp.queued]
      exact ⟨by omega, by omega, fun heq => absurd heq haq⟩
    · intro i hi
      simp only [Machine.Owns, hp.running, hp.active, true_and]
      rcases hcases i hi with ⟨rfl, hrec⟩ | ⟨-, rfl, hrec⟩ | ⟨-, hia, hrec⟩
      · simp [hrec, haq]
      · simp [hrec]
      · simp [hrec, Ne.symm hia]
    · intro i hi
      simp only [Machine.Owns, hp.running, hp.queued, true_and]
      rcases hcases i hi with ⟨rfl, hrec⟩ | ⟨hiq, rfl, hrec⟩ | ⟨hiq, -, hrec⟩
      · simp [hrec]
      · simp [hrec, Ne.symm hiq]
      · simp [hrec, Ne.symm hiq]
    · intro _
      rw [hp.activeFirst, hp.queuedFirst, hp.nextFirst]
      simp [position, stamp, kGpioSamplesPerFrame, u64Max]
    · intro i hi hm
      simp only [Machine.Owns, hp.running, hp.active, true_and] at hm
      subst hm
      rcases hcases a hi with ⟨heq, -⟩ | ⟨-, -, hrec⟩ | ⟨-, hne, -⟩
      · exact absurd heq haq
      · rw [hrec, hp.activeFirst]
      · exact absurd rfl hne
    · intro i hi hm
      simp only [Machine.Owns, hp.running, hp.queued, true_and] at hm
      subst hm
      rcases hcases q hi with ⟨-, hrec⟩ | ⟨hne, -⟩ | ⟨hne, -⟩
      · rw [hrec, hp.queuedFirst]
      · exact absurd rfl hne
      · exact absurd rfl hne
    · intro i hi hs
      rcases hcases i hi with ⟨-, hrec⟩ | ⟨-, -, hrec⟩ | ⟨-, -, hrec⟩
      · rw [hrec]
      · rw [hrec]
      · simp [hrec] at hs
    · intro i hi hs
      rcases hcases i hi with ⟨-, hrec⟩ | ⟨-, -, hrec⟩ | ⟨-, -, hrec⟩ <;> simp [hrec] at hs
    · intro i hi hs g hg
      cases hg
    · intro g hg
      cases hg
    · intro i hi
      refine ⟨fun hs => ?_, fun hm => absurd hm (hheld i hi)⟩
      rcases hcases i hi with ⟨-, hrec⟩ | ⟨-, -, hrec⟩ | ⟨-, -, hrec⟩ <;> simp [hrec] at hs
    · intro i hi hd
      exact absurd hd (hdisc i hi)

theorem beginStop {m : Machine} (h : Inv m) (n : ℕ) : Inv (m.step (.beginStop n)) := by
  simp only [Machine.step]
  by_cases hrun : m.ring.running = true
  · obtain ⟨hs, hlocal⟩ := (h.armed hrun).beginStop hrun n
    rw [hlocal]
    simp only [Option.isSome_some, if_true]
    obtain ⟨ha4, -, haq⟩ := h.targets hrun
    -- The active buffer goes back by way of the cache discard, the queued one
    -- was never written.
    have hcases : ∀ i < 4,
        (i = m.ring.queuedDestination ∧
          ((m.ring.beginStop n).1.records i).state = .free ∧
          (m.ring.records i).state = .dmaQueued) ∨
        (i ≠ m.ring.queuedDestination ∧ i = m.ring.activeDestination ∧
          ((m.ring.beginStop n).1.records i).state = .releasing ∧
          (m.ring.records i).state = .dmaActive) ∨
        (i ≠ m.ring.queuedDestination ∧ i ≠ m.ring.activeDestination ∧
          (m.ring.beginStop n).1.records i = m.ring.records i) := by
      intro i hi
      have hrec := hs.records i hi
      by_cases hiq : i = m.ring.queuedDestination
      · rw [if_pos hiq] at hrec
        exact Or.inl ⟨hiq, by rw [hrec], (h.queued i hi).mpr ⟨hrun, hiq.symm⟩⟩
      · rw [if_neg hiq] at hrec
        by_cases hia : i = m.ring.activeDestination
        · rw [if_pos hia] at hrec
          exact Or.inr (Or.inl ⟨hiq, hia, by rw [hrec], (h.active i hi).mpr ⟨hrun, hia.symm⟩⟩)
        · rw [if_neg hia] at hrec
          exact Or.inr (Or.inr ⟨hiq, hia, hrec⟩)
    have hidle : ∀ i o, o = .activeDma ∨ o = .queuedDma →
        ¬Machine.Owns { m with ring := (m.ring.beginStop n).1 } i o := by
      rintro i o (rfl | rfl) ⟨hr, -⟩ <;> rw [hs.running] at hr <;> cases hr
    refine ⟨?_, ?_, ?_, ?_, ?_, ?_, ?_, ?_, ?_, h.increasing, h.placed, ?_, ?_⟩
    · intro hr
      rw [hs.running] at hr
      cases hr
    · intro i hi
      refine ⟨fun hst => ?_, fun hm => absurd hm (hidle i _ (Or.inl rfl))⟩
      rcases hcases i hi with ⟨-, hnew, -⟩ | ⟨-, -, hnew, -⟩ | ⟨-, hia, hrec⟩
      · rw [hst] at hnew
        cases hnew
      · rw [hst] at hnew
        cases hnew
      · simp only [hrec] at hst
        exact absurd ((h.active i hi).mp hst).2.symm hia
    · intro i hi
      refine ⟨fun hst => ?_, fun hm => absurd hm (hidle i _ (Or.inr rfl))⟩
      rcases hcases i hi with ⟨-, hnew, -⟩ | ⟨-, -, hnew, -⟩ | ⟨hiq, -, hrec⟩
      · rw [hst] at hnew
        cases hnew
      · rw [hst] at hnew
        cases hnew
      · simp only [hrec] at hst
        exact absurd ((h.queued i hi).mp hst).2.symm hiq
    · intro hr
      rw [hs.running] at hr
      cases hr
    · intro i _ hm
      exact absurd hm (hidle i _ (Or.inl rfl))
    · intro i _ hm
      exact absurd hm (hidle i _ (Or.inr rfl))
    · intro i hi hst
      rcases hcases i hi with ⟨-, hnew, -⟩ | ⟨-, -, hnew, -⟩ | ⟨-, -, hrec⟩
      · rw [hnew] at hst
        rcases hst with hst | hst <;> cases hst
      · rw [hnew] at hst
        rcases hst with hst | hst <;> cases hst
      · simp only [hrec] at hst ⊢
        exact h.unleased i hi hst
    · intro i hi hst
      rcases hcases i hi with ⟨-, hnew, -⟩ | ⟨-, -, hnew, -⟩ | ⟨-, -, hrec⟩
      · rw [hnew] at hst
        rcases hst with hst | hst <;> cases hst
      · rw [hnew] at hst
        rcases hst with hst | hst <;> cases hst
      · simp only [hrec] at hst ⊢
        exact h.filled i hi hst
    · intro i hi hst g hg
      rcases hcases i hi with ⟨-, hnew, -⟩ | ⟨-, -, hnew, -⟩ | ⟨-, -, hrec⟩
      · rw [hnew] at hst
        cases hst
      · rw [hnew] at hst
        cases hst
      · simp only [hrec] at hst ⊢
        exact h.fresh i hi hst g hg
    · intro i hi
      refine Iff.trans ?_ (h.held i hi)
      rcases hcases i hi with ⟨-, hnew, hst⟩ | ⟨-, -, hnew, hst⟩ | ⟨-, -, hrec⟩
      · simp [hnew, hst]
      · simp [hnew, hst]
      · rw [hrec]
    · intro i hi hd
      cases hd
      have hne : m.ring.activeDestination ≠ m.ring.queuedDestination :=
        fun heq => absurd (haq heq) (by omega)
      simp only [hs.records _ hi, if_neg hne, if_true]
      exact ⟨trivial, h.unleased _ hi (Or.inl ((h.active _ hi).mpr ⟨hrun, rfl⟩))⟩
  · obtain ⟨⟨E, herr⟩, hlocal⟩ := beginStop_idle (r := m.ring) (by simpa using hrun) n
    rw [hlocal, herr]
    exact ⟨h.targets, h.active, h.queued, h.clock, h.stampedActive, h.stampedQueued, h.unleased,
      h.filled, h.fresh, h.increasing, h.placed, h.held, h.discarding⟩

theorem onMajorLoopComplete {m : Machine} (h : Inv m) : Inv (m.step .onMajorLoopComplete) := by
  simp only [Machine.step]
  by_cases hrun : m.ring.running = true
  · obtain ⟨f, hd, hok, hdest⟩ := (h.armed hrun).onMajorLoopComplete hrun
    rw [hok, hdest]
    exact h.loop hrun hd
  · obtain ⟨hsame, hfail⟩ := onMajorLoopComplete_idle (r := m.ring) (by simpa using hrun)
    rw [hsame, if_neg (by simp [hfail])]
    exact h

theorem step {m : Machine} (h : Inv m) (op : Op) : Inv (m.step op) := by
  cases op with
  | prime => exact h.prime
  | onMajorLoopComplete => exact h.onMajorLoopComplete
  | acquireReady => exact h.acquireReady
  | beginRelease g => exact h.beginRelease g
  | endRelease g => exact h.endRelease g
  | beginStop n => exact h.beginStop n
  | endStop => exact h.endStop
  | recordHardwareError =>
    exact ⟨h.targets, h.active, h.queued, h.clock, h.stampedActive, h.stampedQueued, h.unleased,
      h.filled, h.fresh, h.increasing, h.placed, h.held, h.discarding⟩

theorem run {m : Machine} (h : Inv m) (ops : List Op) : Inv (m.run ops) := by
  induction ops generalizing m with
  | nil => exact h
  | cons op ops ih => exact ih (h.step op)

end Inv

/-! ### Safety -/

theorem books_step {m : Machine} (h : Inv m) (hb : m.ring.Books) (op : Op) :
    (m.step op).ring.Books := by
  cases op with
  | prime =>
    simp only [Machine.step]
    rcases prime_cases m.ring with ⟨hfail, hsame⟩ | ⟨-, -, a, q, -, -, -, hok, hp⟩
    · rw [if_neg hfail, hsame]
      exact hb
    · rw [if_pos hok]
      exact hp.books
  | onMajorLoopComplete =>
    by_cases hrun : m.ring.running = true
    · obtain ⟨f, hd, -⟩ := (h.armed hrun).onMajorLoopComplete hrun
      exact hd.books hb
    · simp only [Machine.step, (onMajorLoopComplete_idle (r := m.ring) (by simpa using hrun)).1]
      exact hb
  | acquireReady =>
    simp only [Machine.step]
    rcases acquireReady_cases m.ring with hnone | ⟨i, -, -, -, -, hgot⟩
    · rw [hnone]
      exact hb
    · rw [hgot]
      exact hb
  | beginRelease g =>
    simp only [Machine.step, RawCaptureRing.beginRelease]
    split
    · exact hb
    · exact hb
  | endRelease g =>
    simp only [Machine.step, RawCaptureRing.endRelease]
    split
    · exact hb
    · exact hb
  | beginStop n =>
    by_cases hrun : m.ring.running = true
    · exact ((h.armed hrun).beginStop hrun n).1.books hb
    · obtain ⟨⟨E, herr⟩, -⟩ := beginStop_idle (r := m.ring) (by simpa using hrun) n
      simp only [Machine.step, herr]
      exact hb
  | endStop =>
    simp only [Machine.step]
    split
    · exact hb
    · simp only [RawCaptureRing.endStop]
      split
      · exact hb
      · exact hb
  | recordHardwareError => exact hb

theorem books_run {m : Machine} (h : Inv m) (hb : m.ring.Books) (ops : List Op) :
    (m.run ops).ring.Books := by
  induction ops generalizing m with
  | nil => exact hb
  | cons op ops ih => exact ih (h.step op) (books_step h hb op)

/-- The owner that the state of a record names. -/
def ownerOf : BufferState → Owner
  | .free => .pool
  | .dmaActive => .activeDma
  | .dmaQueued => .queuedDma
  | .ready => .readyQueue
  | .packing => .consumer
  | .releasing => .returning

theorem Inv.owns_iff {m : Machine} (h : Inv m) {i : ℕ} (hi : i < 4) (o : Owner) :
    m.Owns i o ↔ o = ownerOf (m.ring.records i).state := by
  cases o with
  | pool => cases hs : (m.ring.records i).state <;> simp [Machine.Owns, ownerOf, hs]
  | activeDma =>
    rw [← h.active i hi]
    cases hs : (m.ring.records i).state <;> simp [ownerOf]
  | queuedDma =>
    rw [← h.queued i hi]
    cases hs : (m.ring.records i).state <;> simp [ownerOf]
  | readyQueue => cases hs : (m.ring.records i).state <;> simp [Machine.Owns, ownerOf, hs]
  | consumer =>
    rw [Machine.Owns, ← h.held i hi]
    cases hs : (m.ring.records i).state <;> simp [ownerOf]
  | returning => cases hs : (m.ring.records i).state <;> simp [Machine.Owns, ownerOf, hs]

/-- In every state of every run each buffer has one owner, the DMA keeps away
from ready and leased buffers, deliveries are in order, and no sample is
unaccounted for. -/
theorem raw_ring_safety (ops : List Op) : Safe (Machine.run {} ops) := by
  have h := Inv.initial.run ops
  refine ⟨?_, ?_, h.increasing, ?_, ?_⟩
  · intro i hi
    refine ⟨ownerOf ((Machine.run {} ops).ring.records i).state, (h.owns_iff hi _).mpr rfl, ?_⟩
    intro o ho
    exact (h.owns_iff hi o).mp ho
  · intro hrun i hi hdest
    have hdma : ((Machine.run {} ops).ring.records i).state = .dmaActive ∨
        ((Machine.run {} ops).ring.records i).state = .dmaQueued :=
      hdest.imp (fun he => (h.active i hi).mpr ⟨hrun, he.symm⟩)
        fun he => (h.queued i hi).mpr ⟨hrun, he.symm⟩
    refine ⟨fun hm => ?_, fun hs => ?_, fun heq => ?_⟩
    · rw [(h.held i hi).mpr hm] at hdma
      rcases hdma with hs | hs <;> cases hs
    · rw [hs] at hdma
      rcases hdma with hs | hs <;> cases hs
    · have h4 := (h.targets hrun).2.2 heq
      rcases hdest with he | he <;> simp only [kGpioRawDmaRingDepth] at hi <;> omega
  · intro g hg
    obtain ⟨hlt, k, hk, hpos⟩ := h.placed g hg
    refine ⟨k, hk, ?_⟩
    rw [hpos] at hlt ⊢
    exact (stamp_eq hlt).trans (Nat.zero_add _)
  · exact books_run Inv.initial (fun _ => rfl) ops

end ThingDaq.GpioCapture
