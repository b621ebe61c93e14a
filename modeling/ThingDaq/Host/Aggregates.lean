import ThingDaq.Host.BlockConservation
import ThingDaq.Host.DataFrames

/-!
# Aggregate and per-source counters of the reader

The reader counts the blocks it loses twice, once in all and once for each source
(`_dispatch_block`, `_record_boundary_blocks_locked`).  A version 3 data frame that
arrives before any settings is counted in all only: `_reader_loop` leaves its source out,
though the kind is in the header.

## Main results

* `stale_aggregate` — the aggregate of the stale blocks is ahead of the sources by the
  frames that were skipped.
* `aggregates_agree` — the aggregates are the sums over the sources exactly when no frame
  was skipped.
-/

namespace ThingDaq.Host

open Wire
open Reader (ReaderState ProtocolError Response)

namespace StreamState

/-- A counter of the two sources, added up. -/
def both (s : StreamState) (counter : SourceCounters → ℕ) : ℕ :=
  counter (s.source .adcData) + counter (s.source .gpioData)

/-- The aggregates are the sums over the sources, but for `skipped` stale blocks that no
source has. -/
structure Agrees (skipped : ℕ) (s : StreamState) : Prop where
  stale : s.staleBlocksDiscarded = s.both SourceCounters.staleBlocksDiscarded + skipped
  boundary : s.boundaryBlocksDiscarded = s.both SourceCounters.boundaryBlocksDiscarded
  drops : s.hostBlockQueueDrops = s.both SourceCounters.blockQueueDrops

variable {s s' : StreamState} {n : ℕ}

/-- A sum moves by what its source moves. -/
theorem both_count (k : Alignment.FrameKind) (f : SourceCounters → SourceCounters)
    {counter : SourceCounters → ℕ} {d : ℕ} (h : counter (f (s.source k)) = counter (s.source k) + d) :
    (s.count k f).both counter = s.both counter + d := by
  unfold both
  cases k with
  | adcData =>
    rw [source_count, source_count, if_pos rfl, if_neg (by decide), h]
    omega
  | gpioData =>
    rw [source_count, source_count, if_neg (by decide), if_pos rfl, h]
    omega

theorem both_count_same (k : Alignment.FrameKind) (f : SourceCounters → SourceCounters)
    {counter : SourceCounters → ℕ} (h : counter (f (s.source k)) = counter (s.source k)) :
    (s.count k f).both counter = s.both counter := both_count k f (d := 0) h

/-! ### The operations -/

theorem Agrees.receive (h : s.Agrees n) (b : DataBlock) : (s.receive b).Agrees n where
  stale := h.stale.trans (congrArg (· + n) (both_count_same b.kind _ rfl).symm)
  boundary := h.boundary.trans (both_count_same b.kind _ rfl).symm
  drops := h.drops.trans (both_count_same b.kind _ rfl).symm

theorem Agrees.discardStale (h : s.Agrees n) (b : DataBlock) : (s.discardStale b).Agrees n := by
  have hstale : (s.discardStale b).both SourceCounters.staleBlocksDiscarded =
      s.both SourceCounters.staleBlocksDiscarded + 1 := both_count b.kind _ rfl
  have hboundary : (s.discardStale b).both SourceCounters.boundaryBlocksDiscarded =
      s.both SourceCounters.boundaryBlocksDiscarded := both_count_same b.kind _ rfl
  have hdrops : (s.discardStale b).both SourceCounters.blockQueueDrops =
      s.both SourceCounters.blockQueueDrops := both_count_same b.kind _ rfl
  constructor
  · change s.staleBlocksDiscarded + 1 = _
    rw [hstale, h.stale]
    omega
  · exact h.boundary.trans hboundary.symm
  · exact h.drops.trans hdrops.symm

theorem Agrees.countDrop (h : s.Agrees n) (b : DataBlock) : (s.countDrop b).Agrees n := by
  have hstale : (s.countDrop b).both SourceCounters.staleBlocksDiscarded =
      s.both SourceCounters.staleBlocksDiscarded := both_count_same b.kind _ rfl
  have hboundary : (s.countDrop b).both SourceCounters.boundaryBlocksDiscarded =
      s.both SourceCounters.boundaryBlocksDiscarded := both_count_same b.kind _ rfl
  have hdrops : (s.countDrop b).both SourceCounters.blockQueueDrops =
      s.both SourceCounters.blockQueueDrops + 1 := both_count b.kind _ rfl
  constructor
  · exact h.stale.trans (congrArg (· + n) hstale.symm)
  · exact h.boundary.trans hboundary.symm
  · change s.hostBlockQueueDrops + 1 = _
    rw [hdrops, h.drops]

/-- A report and the queue are not counted here. -/
theorem Agrees.congr (h : s.Agrees n) (hsource : s'.source = s.source)
    (hstale : s'.staleBlocksDiscarded = s.staleBlocksDiscarded)
    (hboundary : s'.boundaryBlocksDiscarded = s.boundaryBlocksDiscarded)
    (hdrops : s'.hostBlockQueueDrops = s.hostBlockQueueDrops) : s'.Agrees n := by
  have hboth : ∀ counter, s'.both counter = s.both counter := by
    intro counter
    unfold both
    rw [hsource]
  constructor
  · rw [hstale, hboth, h.stale]
  · rw [hboundary, hboth, h.boundary]
  · rw [hdrops, hboth, h.drops]

theorem Agrees.enqueueStreamReport (h : s.Agrees n) {report : StreamReport}
    (hs : s.enqueueStreamReport report = some s') : s'.Agrees n := by
  unfold StreamState.enqueueStreamReport at hs
  split at hs
  · cases hs
  · cases hs
    exact h.congr rfl rfl rfl rfl
  · split at hs
    · split at hs <;> (cases hs; exact h.congr rfl rfl rfl rfl)
    · cases hs
      exact h.congr rfl rfl rfl rfl

/-- The block that was evicted is counted after its report, in both places or in none. -/
theorem Agrees.evict (h : s.Agrees n) : s.evict.1.Agrees n := by
  unfold StreamState.evict
  split
  · exact h
  · rename_i dropped rest hblocks
    have hrest : StreamState.Agrees n { s with blocks := rest } := h.congr rfl rfl rfl rfl
    dsimp only
    split
    · exact hrest
    · split
      · exact hrest
      · rename_i hreport
        exact (hrest.enqueueStreamReport hreport).countDrop dropped

theorem Agrees.append (h : s.Agrees n) (b : DataBlock) : (s.append b).Agrees n :=
  h.congr rfl rfl rfl rfl

theorem Agrees.deliver (h : s.Agrees n) : s.deliver.1.Agrees n := by
  unfold StreamState.deliver
  split
  · exact h
  · exact h.congr rfl rfl rfl rfl

/-- The loop of `_record_boundary_blocks_locked`, for the sums. -/
theorem both_foldl_boundaryOne (l : List DataBlock) : ∀ s : StreamState,
    (l.foldl boundaryOne s).both SourceCounters.boundaryBlocksDiscarded =
        s.both SourceCounters.boundaryBlocksDiscarded + l.length ∧
      (l.foldl boundaryOne s).both SourceCounters.staleBlocksDiscarded =
        s.both SourceCounters.staleBlocksDiscarded ∧
      (l.foldl boundaryOne s).both SourceCounters.blockQueueDrops =
        s.both SourceCounters.blockQueueDrops ∧
      (l.foldl boundaryOne s).boundaryBlocksDiscarded = s.boundaryBlocksDiscarded ∧
      (l.foldl boundaryOne s).staleBlocksDiscarded = s.staleBlocksDiscarded ∧
      (l.foldl boundaryOne s).hostBlockQueueDrops = s.hostBlockQueueDrops := by
  induction l with
  | nil => exact fun s => ⟨rfl, rfl, rfl, rfl, rfl, rfl⟩
  | cons b l ih =>
    intro s
    obtain ⟨h1, h2, h3, h4, h5, h6⟩ := ih (s.boundaryOne b)
    have hone : (s.boundaryOne b).both SourceCounters.boundaryBlocksDiscarded =
        s.both SourceCounters.boundaryBlocksDiscarded + 1 := both_count b.kind _ rfl
    rw [List.foldl_cons, h1, h2, h3, h4, h5, h6, hone, List.length_cons]
    refine ⟨by omega, ?_, ?_, rfl, rfl, rfl⟩
    · exact both_count_same b.kind _ rfl
    · exact both_count_same b.kind _ rfl

theorem Agrees.boundary_step (h : s.Agrees n) : s.boundary.Agrees n := by
  obtain ⟨h1, h2, h3, h4, h5, h6⟩ := both_foldl_boundaryOne s.blocks
    { s with boundaryBlocksDiscarded := s.boundaryBlocksDiscarded + s.blocks.length }
  constructor
  · exact h5.trans (h.stale.trans (congrArg (· + n) h2.symm))
  · refine h4.trans (Eq.trans ?_ h1.symm)
    exact congrArg (· + s.blocks.length) h.boundary
  · exact h6.trans (h.drops.trans h3.symm)

end StreamState

/-! ### Steps -/

namespace Station

variable {s : Station} {n : ℕ}

theorem dispatchBlock_agrees (b : DataBlock) (h : s.stream.Agrees n) :
    (s.dispatchBlock b).stream.Agrees n := by
  have hin := h.receive b
  unfold dispatchBlock
  dsimp only
  split
  · have hstale := hin.discardStale b
    split
    · split
      · exact hstale
      · split
        · exact hstale
        · rename_i hreport
          exact hstale.enqueueStreamReport hreport
    · exact hstale
  · split
    · exact hin
    · split
      · have hevict := hin.evict
        split
        · rename_i heq
          rw [heq] at hevict
          exact hevict
        · rename_i heq
          rw [heq] at hevict
          exact hevict.append b
      · exact hin.append b

theorem activateRun_agrees (runId : ℕ) (algorithm : ChecksumAlgorithm)
    (configuration : Option DAQConfiguration) (h : s.stream.Agrees n) :
    (s.activateRun runId algorithm configuration).stream.Agrees n := by
  unfold activateRun
  split
  · exact h
  · exact h.boundary_step

theorem dispatchResponse_agrees (r : Response) (value : AppliedValue) (h : s.stream.Agrees n) :
    (s.dispatchResponse r value).stream.Agrees n := by
  unfold dispatchResponse
  dsimp only
  split
  · exact h
  · exact h.boundary_step
  · split
    · exact h
    · exact h.boundary_step

theorem skipV3Frame_agrees (h : s.stream.Agrees n) : s.skipV3Frame.stream.Agrees (n + 1) where
  stale := congrArg (· + 1) h.stale
  boundary := h.boundary
  drops := h.drops

/-- The event is the loss of a frame that no source is charged with. -/
def Event.skips : Event → Prop
  | .v3FrameWithoutSettings => True
  | _ => False

theorem step_agrees (e : Event) (he : ¬ e.skips) (h : s.stream.Agrees n) :
    (s.step e).stream.Agrees n := by
  cases e with
  | start isOpen => exact h
  | request kind version negotiating encodable => exact h
  | proceed t write deadline => exact h
  | expire late => exact h
  | readerEnds cause => exact h
  | response r value =>
    simp only [step]
    split
    · exact h
    · exact dispatchResponse_agrees r value h
  | block b =>
    simp only [step]
    split
    · exact h
    · exact dispatchBlock_agrees b h
  | v3FrameWithoutSettings => exact absurd trivial he
  | refuseFrame error =>
    simp only [step]
    split <;> exact h
  | activateRun runId algorithm configuration version =>
    simp only [step, activateKnownRun]
    split
    · exact h
    · split
      · exact h
      · split
        · exact h
        · exact activateRun_agrees _ _ _ h
  | activateV3Run runId settings =>
    simp only [step, activateV3Run]
    split
    · exact h
    · exact activateRun_agrees _ _ _ h
  | deactivateStream =>
    simp only [step]
    split
    · exact h.boundary_step
    · exact h
  | getBlock waited =>
    simp only [step, getBlock]
    split
    · exact h.deliver
    · exact h
  | getStreamItem waited =>
    simp only [step, getStreamItem]
    split
    · split
      · exact h.congr rfl rfl rfl rfl
      · exact h.deliver
    · exact h
  | close =>
    simp only [step, close]
    split
    · exact h
    · exact h.congr rfl rfl rfl rfl

/-! ### Runs -/

variable (c : Controls)

/-- A data frame of version 3 is taken, and no settings are remembered. -/
def Skips (s : Station) (a : Arrival c) : Prop :=
  s.ending = false ∧
    match a with
    | .data f => s.Selects f.frame ∧ f.frame.version = 3 ∧ s.activeV3Settings = none
    | .other e => e.skips

/-- No frame of the run is skipped. -/
def NeverSkips (s : Station) : List (Arrival c) → Prop
  | [] => True
  | a :: as => ¬ s.Skips c a ∧ NeverSkips (s.arrive c a) as

variable {c}

theorem arrive_agrees_of_skips {a : Arrival c} (ha : s.Skips c a) (h : s.stream.Agrees n) :
    (s.arrive c a).stream.Agrees (n + 1) := by
  obtain ⟨hending, ha⟩ := ha
  cases a with
  | data f =>
    obtain ⟨hselects, hversion, hsettings⟩ := ha
    unfold arrive receiveDataFrame
    dsimp only
    rw [hending, if_neg (by decide), if_neg hselects.not_refused, if_pos ⟨hversion, hsettings⟩]
    exact skipV3Frame_agrees h
  | other e =>
    cases e with
    | v3FrameWithoutSettings =>
      change (s.step .v3FrameWithoutSettings).stream.Agrees (n + 1)
      simp only [step]
      rw [hending, if_neg (by decide)]
      exact skipV3Frame_agrees h
    | _ => exact ha.elim

theorem arrive_agrees {a : Arrival c} (ha : ¬ s.Skips c a) (h : s.stream.Agrees n) :
    (s.arrive c a).stream.Agrees n := by
  cases hending : s.ending with
  | true =>
    cases a with
    | data f =>
      unfold arrive
      dsimp only
      rw [hending, if_pos rfl]
      exact h
    | other e =>
      by_cases he : e.skips
      · cases e with
        | v3FrameWithoutSettings =>
          change (s.step .v3FrameWithoutSettings).stream.Agrees n
          simp only [step]
          rw [hending, if_pos rfl]
          exact h
        | _ => exact he.elim
      · exact step_agrees e he h
  | false =>
    cases a with
    | other e => exact step_agrees e (fun he => ha ⟨hending, he⟩) h
    | data f =>
      unfold arrive receiveDataFrame
      dsimp only
      rw [hending, if_neg (by decide)]
      split
      · exact h
      · rename_i hselects
        split
        · rename_i hskip
          -- A frame that is not refused is of the selected version.
          refine absurd ⟨hending, ?_, hskip⟩ ha
          by_contra hno
          simp only [Selects, not_or] at hno
          exact hselects hno
        · split
          · exact h
          · exact dispatchBlock_agrees _ h

theorem booted_agrees (maxPendingRequests seed maxQueuedBlocks maxQueuedEvents : ℕ) :
    (booted maxPendingRequests seed maxQueuedBlocks maxQueuedEvents).stream.Agrees 0 :=
  ⟨rfl, rfl, rfl⟩

/-- In every run the aggregates agree but for the frames that were skipped, of which
there are none exactly when no step skips one. -/
theorem stale_aggregate (as : List (Arrival c)) (s : Station) (h : s.stream.Agrees n) :
    ∃ skipped, (as.foldl (arrive c) s).stream.Agrees (n + skipped) ∧
      (skipped = 0 ↔ s.NeverSkips c as) := by
  induction as generalizing s n with
  | nil => exact ⟨0, h, iff_of_true rfl trivial⟩
  | cons a as ih =>
    by_cases ha : s.Skips c a
    · obtain ⟨skipped, hagrees, -⟩ := ih (s.arrive c a) (arrive_agrees_of_skips ha h)
      refine ⟨skipped + 1, ?_, ?_⟩
      · rw [show n + (skipped + 1) = n + 1 + skipped by omega]
        exact hagrees
      · exact iff_of_false (by omega) (fun hnever => hnever.1 ha)
    · obtain ⟨skipped, hagrees, hiff⟩ := ih (s.arrive c a) (arrive_agrees ha h)
      exact ⟨skipped, hagrees, hiff.trans ⟨fun hrest => ⟨ha, hrest⟩, And.right⟩⟩

/-- In every state that a run reaches, the aggregate stale, boundary and queue-drop
counters are the sums over the two sources exactly when the run never skipped a version 3
data frame for want of settings. -/
theorem aggregates_agree (c : Controls)
    (maxPendingRequests seed maxQueuedBlocks maxQueuedEvents : ℕ) (as : List (Arrival c)) :
    let s := booted maxPendingRequests seed maxQueuedBlocks maxQueuedEvents
    let reached := (as.foldl (arrive c) s).stream
    (reached.staleBlocksDiscarded = reached.both SourceCounters.staleBlocksDiscarded ∧
        reached.boundaryBlocksDiscarded = reached.both SourceCounters.boundaryBlocksDiscarded ∧
        reached.hostBlockQueueDrops = reached.both SourceCounters.blockQueueDrops) ↔
      s.NeverSkips c as := by
  intro s reached
  obtain ⟨skipped, hagrees, hiff⟩ := stale_aggregate as s
    (booted_agrees maxPendingRequests seed maxQueuedBlocks maxQueuedEvents)
  have hstale := hagrees.stale
  rw [← hiff]
  constructor
  · rintro ⟨hsum, -, -⟩
    change reached.staleBlocksDiscarded = reached.both SourceCounters.staleBlocksDiscarded + _ at hstale
    omega
  · rintro rfl
    exact ⟨hstale, hagrees.boundary, hagrees.drops⟩

/-- The first GPIO frame of a version 3 run: one RAW sample. -/
def strayV3Frame : V3Frame :=
  let header : FrameHeader :=
    { kind := FrameKind.gpioData
      totalLength := 61
      payloadLength := 13
      runId := 7
      itemCount := 1
      version := V3.kProtocolVersion }
  let payload : Bytes := [0, 1, 0, 0, 1, 0, 0, 0, 0, 0, 0, 0, 5]
  ⟨header, payload, computeV3Checksum (headerBytes header ++ payload)⟩

theorem strayV3Frame_framed : V3Framed (fun _ _ => .ok ()) strayV3Frame strayV3Frame.toBytes where
  header := ⟨by decide, by decide, by decide, by decide, by decide, by decide +kernel⟩
  payload := by decide +kernel
  length := by decide
  checksum := rfl
  bytes := rfl

/-- The frame as it comes off the wire. -/
def strayV3Arrival : ValidDataFrame anyControl where
  frame := .v3 strayV3Frame
  bytes := strayV3Frame.toBytes
  valid := (decodeOfVersion_ok ..).mpr ⟨rfl, decodeV3Frame_ok.mpr strayV3Frame_framed⟩
  data := by decide

/-- A reader that is just started, while the device still sends: one stale block in all,
and none from either source. -/
theorem aggregates_disagree :
    let s := [Arrival.other (.start true), .data strayV3Arrival].foldl (arrive anyControl)
      (booted 32 0 4 32)
    s.stream.staleBlocksDiscarded = 1 ∧ (s.stream.source .adcData).staleBlocksDiscarded = 0 ∧
      (s.stream.source .gpioData).staleBlocksDiscarded = 0 ∧
      s.stream.staleBlocksDiscarded ≠ s.stream.both SourceCounters.staleBlocksDiscarded := by
  intro s
  exact ⟨rfl, rfl, rfl, by decide⟩

end Station

end ThingDaq.Host
