import ThingDaq.Host.Station

/-!
# Every block is accounted for

Each data frame that the reader decodes is one of: in the consumer's hands, evicted,
stale, discarded at a run boundary, or still queued, and the counters of its source
say which.  `accounted` adds these five up; each operation of the queue either keeps
`accounted` or raises it by the block in hand.

The sum falls behind in one place only.  A block whose checksum algorithm is not the
run's, or whose eviction makes no report, leaves the reader thread with an error
after it was counted as received.  The reader is live until that thread has
terminated it.

## Main results

* `accounted_receive`, …, `accounted_boundary` — the operations, one by one.
* `troubled_step` — a closed, terminated or ending reader stays so.
* `step_balanced`, `run_balanced` — the invariant along a run.
-/

namespace ThingDaq.Host

open Reader (ReaderState ProtocolError Response ReaderError)
open Reader.ReaderState (ReaderEnd WriteResult)

/-! ### The sum -/

/-- How many of the blocks are of kind `k`. -/
def ofKind (k : Alignment.FrameKind) (l : List DataBlock) : ℕ := l.countP fun b => b.kind = k

@[simp] theorem ofKind_nil (k : Alignment.FrameKind) : ofKind k [] = 0 := rfl

theorem ofKind_append (k : Alignment.FrameKind) (l m : List DataBlock) :
    ofKind k (l ++ m) = ofKind k l + ofKind k m := List.countP_append

theorem ofKind_cons (k : Alignment.FrameKind) (b : DataBlock) (l : List DataBlock) :
    ofKind k (b :: l) = ofKind k [b] + ofKind k l := ofKind_append k [b] l

theorem ofKind_singleton (k : Alignment.FrameKind) (b : DataBlock) :
    ofKind k [b] = if b.kind = k then 1 else 0 := by
  by_cases h : b.kind = k <;> simp [ofKind, h]

namespace StreamState

variable (s : StreamState) (b : DataBlock) (k : Alignment.FrameKind)

/-- Where the received blocks of kind `k` went. -/
def accounted : ℕ :=
  ofKind k s.delivered + (s.source k).blockQueueDrops + (s.source k).staleBlocksDiscarded +
    (s.source k).boundaryBlocksDiscarded + ofKind k s.blocks

/-- The blocks of kind `k` received. -/
def received : ℕ := (s.source k).framesReceived

theorem source_count (j : Alignment.FrameKind) (f : SourceCounters → SourceCounters) :
    (s.count j f).source k = if j = k then f (s.source k) else s.source k := by
  by_cases h : j = k
  · subst h
    rw [if_pos rfl]
    exact Function.update_self _ _ _
  · rw [if_neg h]
    exact Function.update_of_ne (Ne.symm h) _ _

/-! ### What each operation does to it -/

theorem received_receive : (s.receive b).received k = s.received k + ofKind k [b] := by
  unfold received receive
  rw [source_count, ofKind_singleton]
  split <;> rfl

theorem accounted_receive : (s.receive b).accounted k = s.accounted k := by
  unfold accounted receive
  rw [source_count]
  split <;> rfl

theorem received_discardStale : (s.discardStale b).received k = s.received k := by
  unfold received discardStale
  rw [source_count]
  split <;> rfl

theorem accounted_discardStale :
    (s.discardStale b).accounted k = s.accounted k + ofKind k [b] := by
  unfold accounted discardStale
  rw [source_count, ofKind_singleton]
  split
  · simp only [count]
    omega
  · rfl

theorem received_countDrop : (s.countDrop b).received k = s.received k := by
  unfold received countDrop
  rw [source_count]
  split <;> rfl

theorem accounted_countDrop : (s.countDrop b).accounted k = s.accounted k + ofKind k [b] := by
  unfold accounted countDrop
  rw [source_count, ofKind_singleton]
  split
  · simp only [count]
    omega
  · rfl

theorem accounted_append : (s.append b).accounted k = s.accounted k + ofKind k [b] := by
  unfold accounted append
  simp only [ofKind_append]
  omega

/-- A report does not touch the blocks or the counters of a source. -/
theorem enqueueStreamReport_keeps {s s' : StreamState} {report : StreamReport}
    (h : s.enqueueStreamReport report = some s') :
    s'.source = s.source ∧ s'.blocks = s.blocks ∧ s'.delivered = s.delivered := by
  unfold enqueueStreamReport at h
  split at h
  · cases h
  · cases h
    exact ⟨rfl, rfl, rfl⟩
  · split at h
    · split at h <;> (cases h; exact ⟨rfl, rfl, rfl⟩)
    · cases h
      exact ⟨rfl, rfl, rfl⟩

theorem enqueueStreamReport_accounted {s s' : StreamState} {report : StreamReport}
    (h : s.enqueueStreamReport report = some s') :
    s'.accounted k = s.accounted k ∧ s'.received k = s.received k := by
  obtain ⟨h1, h2, h3⟩ := enqueueStreamReport_keeps h
  unfold accounted received
  rw [h1, h2, h3]
  exact ⟨rfl, rfl⟩

/-- An eviction that is reported moves a block from the queue to the drops. -/
theorem evict_accounted {s s' : StreamState} (h : s.evict = (s', true)) :
    s'.accounted k = s.accounted k ∧ s'.received k = s.received k := by
  unfold evict at h
  split at h
  · cases h
    exact ⟨rfl, rfl⟩
  · rename_i dropped rest hblocks
    dsimp only at h
    split at h
    · cases h
    · split at h
      · cases h
      · rename_i s'' hreport
        cases h
        obtain ⟨ha, hr⟩ := enqueueStreamReport_accounted k hreport
        constructor
        · rw [accounted_countDrop, ha]
          unfold accounted
          rw [hblocks, ofKind_cons k dropped rest]
          dsimp only
          omega
        · rw [received_countDrop, hr]
          rfl

theorem deliver_accounted :
    s.deliver.1.accounted k = s.accounted k ∧ s.deliver.1.received k = s.received k := by
  unfold deliver
  split
  · exact ⟨rfl, rfl⟩
  · rename_i b rest hblocks
    refine ⟨?_, rfl⟩
    unfold accounted
    rw [hblocks, ofKind_cons k b rest]
    dsimp only
    rw [ofKind_append]
    omega

/-! ### A run boundary -/

/-- Count one block at a boundary. -/
def boundaryOne (s : StreamState) (b : DataBlock) : StreamState :=
  s.count b.kind fun c => { c with boundaryBlocksDiscarded := c.boundaryBlocksDiscarded + 1 }

/-- The loop of `_record_boundary_blocks_locked`. -/
theorem foldl_boundaryOne (l : List DataBlock) : ∀ s : StreamState,
    ((l.foldl boundaryOne s).source k).boundaryBlocksDiscarded =
        (s.source k).boundaryBlocksDiscarded + ofKind k l ∧
      (l.foldl boundaryOne s).received k = s.received k ∧
      ((l.foldl boundaryOne s).source k).blockQueueDrops = (s.source k).blockQueueDrops ∧
      ((l.foldl boundaryOne s).source k).staleBlocksDiscarded =
        (s.source k).staleBlocksDiscarded ∧
      (l.foldl boundaryOne s).delivered = s.delivered := by
  induction l with
  | nil => exact fun s => ⟨rfl, rfl, rfl, rfl, rfl⟩
  | cons b l ih =>
    intro s
    obtain ⟨h1, h2, h3, h4, h5⟩ := ih (s.boundaryOne b)
    rw [List.foldl_cons, h1, h2, h3, h4, h5, ofKind_cons, ofKind_singleton]
    unfold received boundaryOne
    rw [source_count]
    refine ⟨?_, ?_, ?_, ?_, rfl⟩
    · split
      · dsimp only
        omega
      · omega
    all_goals split <;> rfl

theorem boundary_accounted :
    s.boundary.accounted k = s.accounted k ∧ s.boundary.received k = s.received k := by
  obtain ⟨h1, h2, h3, h4, h5⟩ := foldl_boundaryOne k s.blocks
    { s with boundaryBlocksDiscarded := s.boundaryBlocksDiscarded + s.blocks.length }
  refine ⟨?_, h2⟩
  have hsource : s.boundary.source = (s.blocks.foldl boundaryOne { s with
      boundaryBlocksDiscarded := s.boundaryBlocksDiscarded + s.blocks.length }).source := rfl
  have hdelivered : s.boundary.delivered = (s.blocks.foldl boundaryOne { s with
      boundaryBlocksDiscarded := s.boundaryBlocksDiscarded + s.blocks.length }).delivered := rfl
  have hblocks : s.boundary.blocks = [] := rfl
  unfold accounted
  rw [hsource, hdelivered, hblocks, h1, h3, h4, h5, ofKind_nil]
  dsimp only
  omega

end StreamState

/-! ### A reader that is over -/

/-- Closed, terminated, or with a reader thread on its way to terminate it. -/
def troubled (r : ReaderState) : Bool :=
  r.closed || r.terminalError.isSome || r.raised.isSome

theorem troubled_terminate (r : ReaderState) (error : ReaderError) (protocolFailure disconnected : Bool) :
    troubled (r.terminate error protocolFailure disconnected) = true := by
  unfold troubled ReaderState.terminate ReaderState.failAllPending
  by_cases h : (r.terminalError.isNone && !r.closed) = true
  · simp [h]
  · rw [if_neg h]
    cases hc : r.closed <;> cases ht : r.terminalError <;> simp_all

theorem troubled_completeWithError (r : ReaderState) (t : ℕ) (error : ReaderError) (timeout : Bool) :
    troubled (r.completeWithError t error timeout) = troubled r := by
  unfold ReaderState.completeWithError
  dsimp only
  split
  · rfl
  · split <;> split <;> rfl

theorem troubled_expirePendingRequests (r : ReaderState) (late : ℕ → Bool) :
    troubled (r.expirePendingRequests late) = troubled r := by
  unfold ReaderState.expirePendingRequests
  generalize r.pending.filter (fun e => late e.2) = l
  induction l generalizing r with
  | nil => rfl
  | cons e l ih =>
    rw [List.foldl_cons, ih]
    unfold ReaderState.expireOne
    dsimp only
    split <;> rfl

theorem troubled_registerRequest (r : ReaderState) (kind : FrameKind) (version : ℕ)
    (negotiating encodable : Bool) :
    troubled (r.registerRequest kind version negotiating encodable).1 = troubled r := by
  unfold ReaderState.registerRequest
  split
  · rfl
  · split
    · rfl
    · split
      · rfl
      · dsimp only
        split
        · rfl
        · split <;> rfl

theorem troubled_setPhase (r : ReaderState) (t : ℕ) (φ : Reader.Phase) :
    troubled (r.setPhase t φ) = troubled r := rfl

theorem troubled_proceed (r : ReaderState) (t : ℕ) (write : WriteResult) (deadline : Bool)
    (h : troubled r = true) : troubled (r.proceed t write deadline) = true := by
  unfold ReaderState.proceed
  split
  · unfold ReaderState.proceedWriting
    cases write with
    | complete => exact h
    | partially =>
      dsimp only
      split
      · rw [troubled_setPhase, troubled_completeWithError, h]
      · split
        · rw [troubled_setPhase, troubled_completeWithError, h]
        · exact h
    | lockTimeout =>
      dsimp only
      rw [troubled_setPhase, troubled_completeWithError, h]
    | transportTimeout =>
      dsimp only
      rw [troubled_setPhase, troubled_completeWithError, h]
    | transportFailed => exact troubled_terminate _ _ _ _
  · split
    · exact h
    · split <;> exact h
  · rw [troubled_setPhase, troubled_completeWithError, h]
  · unfold ReaderState.proceedDeciding
    dsimp only
    split
    · exact h
    · split
      · exact h
      · exact troubled_terminate _ _ _ _
  · exact h

theorem troubled_readerEnds (r : ReaderState) (cause : ReaderEnd) (h : troubled r = true) :
    troubled (r.readerEnds cause) = true := by
  cases cause with
  | raised =>
    simp only [ReaderState.readerEnds]
    split
    · exact troubled_terminate _ _ _ _
    · exact h
  | disconnected => exact troubled_terminate _ _ _ _
  | closed => exact troubled_terminate _ _ _ _
  | parserFailed => exact troubled_terminate _ _ _ _
  | frameViolated => exact troubled_terminate _ _ _ _

theorem troubled_activateRun (r : ReaderState) (runId : ℕ) (algorithm : ChecksumAlgorithm) :
    troubled (r.activateRun runId algorithm).1 = troubled r := by
  unfold ReaderState.activateRun
  split
  · rfl
  · split <;> rfl

/-- Closed or terminated. -/
def ended (r : ReaderState) : Bool := r.closed || r.terminalError.isSome

theorem troubled_of_ended {r : ReaderState} (h : ended r = true) : troubled r = true := by
  unfold troubled
  rw [show (r.closed || r.terminalError.isSome) = true from h]
  rfl

theorem ended_of_troubled {r : ReaderState} (h : troubled r = true) (hr : r.raised.isSome = false) :
    ended r = true := by
  unfold troubled at h
  rwa [hr, Bool.or_false] at h

theorem ended_activateRun (r : ReaderState) (runId : ℕ) (algorithm : ChecksumAlgorithm) :
    ended (r.activateRun runId algorithm).1 = ended r := by
  unfold ReaderState.activateRun
  split
  · rfl
  · split <;> rfl

theorem ended_acceptRun (r : ReaderState) (m : Response) : ended (r.acceptRun m).1 = ended r := by
  have hselect : ended (if m.ok && (m.kind = .configureResponse || m.kind = .startResponse) then
      { r with selectedWireVersion := some m.wireVersion } else r) = ended r := by
    split <;> rfl
  unfold ReaderState.acceptRun
  dsimp only
  split
  · split
    · exact (ended_activateRun _ _ _).trans hselect
    · exact (ended_activateRun _ _ _).trans hselect
    · exact hselect
  · split
    · exact hselect
    · exact hselect

theorem ended_dispatchTo (r : ReaderState) (t : ℕ) (p : Reader.PendingRequest) (m : Response) :
    ended (r.dispatchTo t p m) = ended r := by
  unfold ReaderState.dispatchTo
  split
  · rfl
  · split
    · rfl
    · split
      · rfl
      · exact ended_acceptRun r m

/-- A dispatch neither closes nor terminates. -/
theorem ended_dispatchResponse (r : ReaderState) (m : Response) :
    ended (r.dispatchResponse m) = ended r := by
  unfold ReaderState.dispatchResponse
  split
  · dsimp only
    split <;> rfl
  · exact ended_dispatchTo _ _ _ _

namespace Station

variable {s : Station}

theorem ended_station_dispatchResponse (r : Response) (value : AppliedValue) :
    ended (s.dispatchResponse r value).reader = ended s.reader := by
  have h := ended_dispatchResponse s.reader { r with value := value.value }
  unfold dispatchResponse
  dsimp only
  split
  · exact h
  · exact h
  · split <;> exact h

theorem reader_activateRun (s : Station) (runId : ℕ) (algorithm : ChecksumAlgorithm)
    (configuration : Option DAQConfiguration) :
    troubled (s.activateRun runId algorithm configuration).reader = troubled s.reader := by
  have h := troubled_activateRun s.reader runId algorithm
  unfold activateRun
  split
  · rfl
  · rename_i reader hreader
    rw [hreader] at h
    exact h

/-- A block can only raise. -/
theorem ended_dispatchBlock (b : DataBlock) : ended (s.dispatchBlock b).reader = ended s.reader := by
  unfold dispatchBlock
  dsimp only
  split
  · split
    · split
      · rfl
      · split <;> rfl
    · rfl
  · split
    · rfl
    · split
      · split <;> rfl
      · rfl

/-- A closed, terminated or ending reader stays so. -/
theorem troubled_step (e : Event) (h : troubled s.reader = true) :
    troubled (s.step e).reader = true := by
  cases e with
  | start isOpen =>
    simp only [step, ReaderState.step, ReaderState.startReader]
    split <;> exact h
  | request kind version negotiating encodable =>
    exact (troubled_registerRequest _ _ _ _ _).trans h
  | proceed t write deadline =>
    simp only [step, ReaderState.step]
    split
    · exact troubled_proceed _ _ _ _ h
    · exact h
  | expire late => exact (troubled_expirePendingRequests _ _).trans h
  | readerEnds cause => exact troubled_readerEnds _ _ h
  | response r value =>
    simp only [step]
    cases hend : s.ending with
    | true => exact h
    | false =>
      apply troubled_of_ended
      rw [if_neg Bool.false_ne_true, ended_station_dispatchResponse]
      exact ended_of_troubled h hend
  | block b =>
    simp only [step]
    cases hend : s.ending with
    | true => exact h
    | false =>
      apply troubled_of_ended
      rw [if_neg Bool.false_ne_true, ended_dispatchBlock]
      exact ended_of_troubled h hend
  | v3FrameWithoutSettings =>
    simp only [step]
    split <;> exact h
  | refuseFrame error =>
    simp only [step]
    split
    · exact h
    · simp [troubled, raise]
  | activateRun runId algorithm configuration version =>
    simp only [step, activateKnownRun]
    split
    · exact h
    · split
      · exact h
      · split
        · exact h
        · rw [reader_activateRun]
          exact h
  | activateV3Run runId settings =>
    simp only [step, activateV3Run]
    split
    · exact h
    · rw [reader_activateRun]
      exact h
  | deactivateStream =>
    simp only [step]
    split <;> exact h
  | getBlock waited =>
    simp only [step, getBlock]
    split <;> exact h
  | getStreamItem waited =>
    simp only [step, getStreamItem]
    split
    · split <;> exact h
    · exact h
  | close =>
    simp only [step, close]
    split
    · exact h
    · rename_i hclosed
      simp [troubled, ReaderState.close, hclosed]

/-! ### The invariant -/

/-- The books are straight, or the reader is over. -/
def Balanced (s : Station) : Prop :=
  troubled s.reader = true ∨ ∀ k, s.stream.received k = s.stream.accounted k

theorem dispatchBlock_balanced (b : DataBlock) (h : ∀ k, s.stream.received k = s.stream.accounted k) :
    (s.dispatchBlock b).Balanced := by
  -- Counted as received, and not yet accounted for.
  have hin : ∀ k, (s.stream.receive b).received k = (s.stream.receive b).accounted k + ofKind k [b] := by
    intro k
    rw [StreamState.received_receive, StreamState.accounted_receive, h k]
  have hstale : ∀ k, ((s.stream.receive b).discardStale b).received k =
      ((s.stream.receive b).discardStale b).accounted k := by
    intro k
    rw [StreamState.received_discardStale, StreamState.accounted_discardStale, hin k]
  have hraise : ∀ (s : Station) error, (s.raise error).Balanced := fun s error =>
    .inl (by simp [troubled, raise])
  unfold dispatchBlock
  dsimp only
  split
  · split
    · split
      · exact hraise _ _
      · split
        · exact hraise _ _
        · rename_i stream hreport
          right
          intro k
          obtain ⟨ha, hr⟩ := StreamState.enqueueStreamReport_accounted k hreport
          rw [ha, hr]
          exact hstale k
    · exact .inr hstale
  · split
    · exact hraise _ _
    · split
      · split
        · exact hraise _ _
        · rename_i stream hevict
          right
          intro k
          obtain ⟨ha, hr⟩ := StreamState.evict_accounted k hevict
          rw [StreamState.accounted_append, ha, ← hin k, ← hr]
          rfl
      · right
        intro k
        rw [StreamState.accounted_append, ← hin k]
        rfl

theorem boundary_balanced (h : ∀ k, s.stream.received k = s.stream.accounted k) (k) :
    s.stream.boundary.received k = s.stream.boundary.accounted k := by
  obtain ⟨ha, hr⟩ := StreamState.boundary_accounted s.stream k
  rw [ha, hr, h k]

theorem deliver_balanced (h : ∀ k, s.stream.received k = s.stream.accounted k) (k) :
    s.stream.deliver.1.received k = s.stream.deliver.1.accounted k := by
  obtain ⟨ha, hr⟩ := StreamState.deliver_accounted s.stream k
  rw [ha, hr, h k]

theorem activateRun_balanced (runId : ℕ) (algorithm : ChecksumAlgorithm)
    (configuration : Option DAQConfiguration) (h : ∀ k, s.stream.received k = s.stream.accounted k) :
    (s.activateRun runId algorithm configuration).Balanced := by
  unfold activateRun
  split
  · exact .inr h
  · exact .inr (boundary_balanced h)

theorem dispatchResponse_balanced (r : Response) (value : AppliedValue)
    (h : ∀ k, s.stream.received k = s.stream.accounted k) :
    (s.dispatchResponse r value).Balanced := by
  unfold dispatchResponse
  dsimp only
  split
  · exact .inr h
  · exact .inr (boundary_balanced h)
  · split
    · exact .inr h
    · exact .inr (boundary_balanced h)

theorem step_balanced (e : Event) (h : s.Balanced) : (s.step e).Balanced := by
  rcases h with h | h
  · exact .inl (troubled_step e h)
  cases e with
  | start isOpen => exact .inr h
  | request kind version negotiating encodable => exact .inr h
  | proceed t write deadline => exact .inr h
  | expire late => exact .inr h
  | readerEnds cause => exact .inr h
  | response r value =>
    simp only [step]
    split
    · exact .inr h
    · exact dispatchResponse_balanced r value h
  | block b =>
    simp only [step]
    split
    · exact .inr h
    · exact dispatchBlock_balanced b h
  | v3FrameWithoutSettings =>
    simp only [step]
    split <;> exact .inr h
  | refuseFrame error =>
    simp only [step]
    split <;> exact .inr h
  | activateRun runId algorithm configuration version =>
    simp only [step, activateKnownRun]
    split
    · exact .inr h
    · split
      · exact .inr h
      · split
        · exact .inr h
        · exact activateRun_balanced _ _ _ h
  | activateV3Run runId settings =>
    simp only [step, activateV3Run]
    split
    · exact .inr h
    · exact activateRun_balanced _ _ _ h
  | deactivateStream =>
    simp only [step]
    split
    · exact .inr (boundary_balanced h)
    · exact .inr h
  | getBlock waited =>
    simp only [step, getBlock]
    split
    · exact .inr (deliver_balanced h)
    · exact .inr h
  | getStreamItem waited =>
    simp only [step, getStreamItem]
    split
    · split
      · exact .inr h
      · exact .inr (deliver_balanced h)
    · exact .inr h
  | close =>
    -- The queue is emptied uncounted, but the reader is closed.
    simp only [step, close]
    split
    · exact .inr h
    · rename_i hclosed
      left
      simp [troubled, ReaderState.close, hclosed]

theorem run_balanced (es : List Event) (h : s.Balanced) : (s.run es).Balanced := by
  induction es generalizing s with
  | nil => exact h
  | cons e es ih => exact ih (step_balanced e h)

theorem booted_balanced (maxPendingRequests seed maxQueuedBlocks maxQueuedEvents : ℕ) :
    (booted maxPendingRequests seed maxQueuedBlocks maxQueuedEvents).Balanced :=
  .inr fun _ => rfl

/-- In a live reader whose thread has no error to terminate it with, every block that
was received from a source was delivered, evicted, stale, discarded at a boundary, or
is queued. -/
theorem block_conservation (maxPendingRequests seed maxQueuedBlocks maxQueuedEvents : ℕ)
    (es : List Event) (k : Alignment.FrameKind) :
    let s := (booted maxPendingRequests seed maxQueuedBlocks maxQueuedEvents).run es
    s.reader.closed = false → s.reader.terminalError = none → s.reader.raised = none →
      (s.stream.source k).framesReceived =
        ofKind k s.stream.delivered + (s.stream.source k).blockQueueDrops +
          (s.stream.source k).staleBlocksDiscarded +
          (s.stream.source k).boundaryBlocksDiscarded + ofKind k s.stream.blocks := by
  intro s hclosed hterminal hraised
  rcases run_balanced es (booted_balanced maxPendingRequests seed maxQueuedBlocks maxQueuedEvents)
    with h | h
  · change troubled s.reader = true at h
    simp [troubled, hclosed, hterminal, hraised] at h
  · exact h k

/-- A v3 GPIO block of one sample. -/
def sampleBlock (runId sequence : ℕ) : DataBlock where
  kind := .gpioData
  runId := runId
  sequence := sequence
  firstSampleTicks := 8 * sequence
  payload := [5]
  gapBefore := false
  overrunBefore := false
  synthetic := false
  auxBankMode := .disabled
  rateProfile := .adc1MhzGpio1Mhz
  protocolVersion := 3
  gap := none
  checksumAlgorithm := .adler32

/-- A queue of two: one block evicted, one of another run, one delivered, two queued. -/
theorem block_conservation_evicting :
    let settings : V3Settings := ⟨false, true, .hardware, .disabled, .raw, .raw, .inr rfl⟩
    let s := (booted 32 0 2 32).run
      [.start true, .activateV3Run 7 settings, .block (sampleBlock 7 0), .block (sampleBlock 7 1),
       .block (sampleBlock 7 2), .block (sampleBlock 6 9), .getStreamItem false, .getBlock false,
       .block (sampleBlock 7 3)]
    s.reader.closed = false ∧ s.reader.terminalError = none ∧ s.reader.raised = none ∧
      (s.stream.source .gpioData).framesReceived = 5 ∧
      (s.stream.source .gpioData).framesReceived =
        ofKind .gpioData s.stream.delivered + (s.stream.source .gpioData).blockQueueDrops +
          (s.stream.source .gpioData).staleBlocksDiscarded +
          (s.stream.source .gpioData).boundaryBlocksDiscarded + ofKind .gpioData s.stream.blocks :=
  ⟨by decide +kernel, by decide +kernel, by decide +kernel, by decide +kernel,
    block_conservation 32 0 2 32 _ .gpioData (by decide +kernel) (by decide +kernel)
      (by decide +kernel)⟩

/-- A v1 ADC block under CRC-32C, in a run that uses Adler-32. -/
def refusedBlock : DataBlock where
  kind := .adcData
  runId := 7
  sequence := 0
  firstSampleTicks := 0
  payload := List.replicate 4048 0
  gapBefore := false
  overrunBefore := false
  synthetic := false
  auxBankMode := .disabled
  rateProfile := .adc1MhzGpio4Mhz
  protocolVersion := 1
  gap := none
  checksumAlgorithm := .crc32c

/-- After the refusal the reader is neither closed nor terminated, and the block is
nowhere. -/
theorem block_conservation_refused :
    let s := (booted 32 0 2 32).run
      [.start true, .activateRun 7 .adler32 none none, .block refusedBlock]
    s.reader.closed = false ∧ s.reader.terminalError = none ∧ s.reader.requireLive = true ∧
      (s.stream.source .adcData).framesReceived = 1 ∧
      ofKind .adcData s.stream.delivered + (s.stream.source .adcData).blockQueueDrops +
          (s.stream.source .adcData).staleBlocksDiscarded +
          (s.stream.source .adcData).boundaryBlocksDiscarded + ofKind .adcData s.stream.blocks = 0 := by
  decide +kernel

end Station

end ThingDaq.Host
