import ThingDaq.Host.Continuity

/-!
# Loss reports of the queue

A block that is evicted from the queue of the reader becomes a `HostQueueLoss`, and is
joined to the report of its stream if one still waits.  `covering` is the report that a
list of evicted blocks should have; what is delivered and what is queued are the
`covering` reports of the evicted blocks, cut where the consumer took a report.

## Main results

* `covering_aggregatedWith` — one more block of the run, and its report.
* `enqueue_queueLoss`, `enqueue_anomaly` — the bounded report storage never loses the
  report of an eviction.
* `Watch.loss_reports_exact` — the reports of a run account for every block that the queue
  lost.
-/

namespace ThingDaq.Host

open Wire
open Reader (ReaderState ProtocolError Response)
open Continuity (Sampled sampled_of_check)

/-! ### The report of a list of blocks -/

/-- The block is the next one of its stream, in sequence and in ticks. -/
def Follows (a b : DataBlock) : Prop :=
  b.sequence = (a.sequence + 1) % 2 ^ 32 ∧ b.firstSampleTicks = a.endTickExclusive

instance : DecidableRel Follows := fun _ _ => inferInstanceAs (Decidable (_ ∧ _))

/-- How many items the blocks have. -/
def itemsOf (l : List DataBlock) : ℕ := (l.map fun b => b.itemCount).sum

/-- What a report says that covers these blocks and no others. -/
def covering (first : DataBlock) (rest : List DataBlock) : HostQueueLoss where
  kind := first.kind
  source := first.source
  runId := first.runId
  firstSequence := first.sequence
  lastSequence := (rest.getLastD first).sequence
  firstSampleTicks := first.firstSampleTicks
  endSampleTicks := (rest.getLastD first).endTickExclusive
  droppedBlocks := (first :: rest).length
  droppedItems := itemsOf (first :: rest)
  firmwareGapBlocks := (first :: rest).countP fun b => b.gapBefore
  firmwareOverrunBlocks := (first :: rest).countP fun b => b.overrunBefore
  contiguous := (first :: rest).IsChain Follows
  periodTicks := first.periodTicks
  frameItemCount := first.itemCount
  variableFrameItems := first.protocolVersion = 3

/-- A block of a run: its identity, its source and its layout, and the checks of its
constructor. -/
structure OfRun (runId : ℕ) (source : Alignment.Source)
    (signature : ℕ × Alignment.AuxBankMode × Alignment.RateProfile) (b : DataBlock) : Prop where
  run : b.runId = runId
  source : b.source = source
  signature : b.profileSignature = signature
  valid : ∃ encoded, b.check encoded = true

section Covering

variable {runId : ℕ} {source : Alignment.Source}
  {signature : ℕ × Alignment.AuxBankMode × Alignment.RateProfile} {k : Alignment.FrameKind}
  {first b b' : DataBlock} {rest : List DataBlock}

theorem OfRun.sampled (h : OfRun runId source signature b) : Sampled b := by
  obtain ⟨encoded, hcheck⟩ := h.valid
  exact sampled_of_check hcheck

/-- The layout of a run fixes the period of a stream. -/
theorem OfRun.period (h : OfRun runId source signature b) (h' : OfRun runId source signature b')
    (hk : b'.kind = b.kind) : b'.periodTicks = b.periodTicks := by
  have hprofile : b'.rateProfile = b.rateProfile :=
    congrArg (fun s => s.2.2) (h'.signature.trans h.signature.symm)
  unfold Alignment.Block.periodTicks
  rw [hk, hprofile]

theorem OfRun.version (h : OfRun runId source signature b) (h' : OfRun runId source signature b') :
    b'.protocolVersion = b.protocolVersion :=
  congrArg Prod.fst (h'.signature.trans h.signature.symm)

/-- Below version 3 it fixes the size of a frame too. -/
theorem OfRun.items (h : OfRun runId source signature b) (h' : OfRun runId source signature b')
    (hk : b'.kind = b.kind) (hv : b.protocolVersion ≠ 3) : b'.itemCount = b.itemCount := by
  have hmode : b'.auxBankMode = b.auxBankMode :=
    congrArg (fun s => s.2.1) (h'.signature.trans h.signature.symm)
  have hlength : ∀ {b : DataBlock}, (∃ encoded, b.check encoded = true) → b.protocolVersion ≠ 3 →
      b.payload.length = framePayloadBytes b.auxBankMode b.kind := by
    rintro b ⟨encoded, hcheck⟩ hv
    unfold DataBlock.check at hcheck
    simp only [Bool.and_eq_true] at hcheck
    have hlayout := hcheck.1.2
    cases encoded with
    | none =>
      simp only [Bool.and_eq_true, decide_eq_true_eq] at hlayout
      exact hlayout.2
    | some encoded => simp [hv] at hlayout
  unfold Alignment.Block.itemCount Alignment.Block.itemBytes
  rw [hlength h.valid hv, hlength h'.valid (h.version h' ▸ hv), hk, hmode]

/-- The blocks that one report may cover. -/
def SameStream (runId : ℕ) (source : Alignment.Source)
    (signature : ℕ × Alignment.AuxBankMode × Alignment.RateProfile) (k : Alignment.FrameKind)
    (l : List DataBlock) : Prop :=
  ∀ b ∈ l, OfRun runId source signature b ∧ b.kind = k

/-- A chain with one more at its end. -/
theorem isChain_concat {α : Type*} {R : α → α → Prop} (first : α) (rest : List α) (b : α) :
    (first :: (rest ++ [b])).IsChain R ↔ (first :: rest).IsChain R ∧ R (rest.getLastD first) b := by
  induction rest generalizing first with
  | nil => simp
  | cons c rest ih =>
    rw [List.cons_append, List.isChain_cons_cons, List.isChain_cons_cons, ih c, and_assoc,
      List.getLastD_cons]

theorem itemsOf_concat (first : DataBlock) (rest : List DataBlock) (b : DataBlock) :
    itemsOf (first :: (rest ++ [b])) = itemsOf (first :: rest) + b.itemCount := by
  unfold itemsOf
  rw [← List.cons_append, List.map_append, List.sum_append]
  simp

/-- The ends of a chain of blocks with one period. -/
theorem chain_ends {p : ℕ} (hsequence : first.sequence < 2 ^ 32)
    (hp : ∀ b ∈ first :: rest, b.periodTicks = p) (h : (first :: rest).IsChain Follows) :
    (rest.getLastD first).sequence = (first.sequence + rest.length) % 2 ^ 32 ∧
      (rest.getLastD first).endTickExclusive =
        (first.firstSampleTicks + itemsOf (first :: rest) * p) % 2 ^ 64 := by
  induction rest using List.reverseRecOn with
  | nil =>
    refine ⟨(Nat.mod_eq_of_lt hsequence).symm, ?_⟩
    simp [Alignment.Block.endTickExclusive, Alignment.Block.coverageTicks, itemsOf,
      hp first List.mem_cons_self]
  | append_singleton rest b ih =>
    obtain ⟨hchain, hnext, hticks⟩ := (isChain_concat first rest b).mp h
    obtain ⟨hlast, hend⟩ := ih (fun c hc => hp c (by
      rcases List.mem_cons.mp hc with rfl | hc
      · exact List.mem_cons_self
      · exact List.mem_cons_of_mem _ (List.mem_append_left _ hc))) hchain
    have hb := hp b (by simp)
    rw [List.getLastD_concat, hnext, hlast, List.length_append, List.length_singleton]
    constructor
    · omega
    · have hown : b.endTickExclusive = (b.firstSampleTicks + b.itemCount * b.periodTicks) % 2 ^ 64 := rfl
      rw [hown, hticks, hend, hb, itemsOf_concat, Nat.mod_add_mod, Nat.add_mul, Nat.add_assoc]

theorem covering_check (h : SameStream runId source signature k (first :: rest)) :
    (covering first rest).check = true := by
  have hf := (h first List.mem_cons_self).1
  have hs := hf.sampled
  have hlast : OfRun runId source signature (rest.getLastD first) := by
    cases rest using List.reverseRecOn with
    | nil => exact hf
    | append_singleton rest b =>
      rw [List.getLastD_concat]
      exact (h b (by simp)).1
  have hperiod : ∀ b ∈ first :: rest, b.periodTicks = first.periodTicks := fun b hb =>
    hf.period (h b hb).1 ((h b hb).2.trans (h first List.mem_cons_self).2.symm)
  have hone : (first :: rest).length ≤ itemsOf (first :: rest) := by
    have hle := List.length_le_sum_of_one_le ((first :: rest).map fun b => b.itemCount) fun i hi => by
      obtain ⟨b, hb, rfl⟩ := List.mem_map.mp hi
      exact (h b hb).1.sampled.items.1
    rwa [List.length_map] at hle
  have hfixed : first.protocolVersion ≠ 3 →
      itemsOf (first :: rest) = (first :: rest).length * first.itemCount := by
    intro hv
    have hsum := List.sum_eq_card_nsmul ((first :: rest).map fun b => b.itemCount) first.itemCount
      fun i hi => by
        obtain ⟨b, hb, rfl⟩ := List.mem_map.mp hi
        exact hf.items (h b hb).1 ((h b hb).2.trans (h first List.mem_cons_self).2.symm) hv
    simpa [itemsOf] using hsum
  have hoverrun : (first :: rest).countP (fun b => b.overrunBefore) ≤
      (first :: rest).countP fun b => b.gapBefore :=
    List.countP_mono_left fun b hb ho => (h b hb).1.sampled.overrun ho
  have hend : (rest.getLastD first).endTickExclusive < 2 ^ 64 := Nat.mod_lt _ (by decide)
  have hlength : (first :: rest).length = rest.length + 1 := rfl
  unfold HostQueueLoss.check covering
  simp only [Bool.and_eq_true, decide_eq_true_eq, Bool.or_eq_true, Bool.not_eq_true',
    decide_eq_false_iff_not]
  refine ⟨⟨⟨⟨⟨⟨⟨⟨⟨⟨⟨⟨⟨hs.period.1, hs.items.1⟩, ?_⟩, hs.sequence⟩, hlast.sampled.sequence⟩, hs.ticks⟩, hend⟩,
    hs.runId.2⟩, by omega⟩, by omega⟩, ?_⟩, List.countP_le_length⟩, hoverrun⟩, ?_⟩
  · exact hs.runId.1
  · by_cases hv : first.protocolVersion = 3
    · rw [if_pos hv, decide_eq_true_eq]
      exact hone
    · rw [if_neg hv, decide_eq_true_eq]
      exact hfixed hv
  · by_cases hchain : (first :: rest).IsChain Follows
    · obtain ⟨hl, he⟩ := chain_ends hs.sequence hperiod hchain
      exact .inr ⟨by rw [hl, hlength]; rfl, he⟩
    · exact .inl hchain

/-- The report of one block. -/
theorem fromBlock_covering (h : OfRun runId source signature b) :
    HostQueueLoss.fromBlock b = some (covering b []) := by
  have hcheck : (covering b []).check = true := covering_check (k := b.kind) fun c hc => by
    rw [List.mem_singleton.mp hc]
    exact ⟨h, rfl⟩
  have heq : covering b [] =
      { kind := b.kind
        source := b.source
        runId := b.runId
        firstSequence := b.sequence
        lastSequence := b.sequence
        firstSampleTicks := b.firstSampleTicks
        endSampleTicks := b.endTickExclusive
        droppedBlocks := 1
        droppedItems := b.itemCount
        firmwareGapBlocks := b.gapBefore.toNat
        firmwareOverrunBlocks := b.overrunBefore.toNat
        contiguous := true
        periodTicks := b.periodTicks
        frameItemCount := b.itemCount
        variableFrameItems := b.protocolVersion = 3 } := by
    unfold covering itemsOf
    cases hg : b.gapBefore <;> cases ho : b.overrunBefore <;> simp [hg, ho]
  unfold HostQueueLoss.fromBlock HostQueueLoss.checked
  rw [← heq, if_pos hcheck]

/-- One more block of the stream joins the report of those before it. -/
theorem covering_aggregatedWith (h : SameStream runId source signature k (first :: (rest ++ [b]))) :
    (covering first rest).aggregatedWith (covering b []) = some (covering first (rest ++ [b])) := by
  have hf := h first List.mem_cons_self
  have hb := h b (by simp)
  have hkind : b.kind = first.kind := hb.2.trans hf.2.symm
  have hrelated : (covering first rest).related (covering b []) = true := by
    unfold HostQueueLoss.related covering
    simp only [Bool.and_eq_true, decide_eq_true_eq, Bool.or_eq_true]
    refine ⟨⟨⟨⟨⟨hkind.symm, hf.1.source.trans hb.1.source.symm⟩, hf.1.run.trans hb.1.run.symm⟩,
      (hf.1.period hb.1 hkind).symm⟩, by rw [hf.1.version hb.1]⟩, ?_⟩
    by_cases hv : first.protocolVersion = 3
    · exact .inl hv
    · exact .inr (hf.1.items hb.1 hkind hv).symm
  have hmerge : ((covering first rest).canMerge (covering b []) &&
      (covering first rest).contiguous && (covering b []).contiguous) =
        decide ((first :: (rest ++ [b])).IsChain Follows) := by
    rw [Bool.eq_iff_iff, decide_eq_true_eq, isChain_concat]
    unfold HostQueueLoss.canMerge
    rw [hrelated]
    simp only [Bool.true_and, Bool.and_eq_true, covering, decide_eq_true_eq,
      List.isChain_singleton, and_true]
    exact and_comm
  have heq : { covering first rest with
      lastSequence := (covering b []).lastSequence
      endSampleTicks := (covering b []).endSampleTicks
      droppedBlocks := (covering first rest).droppedBlocks + (covering b []).droppedBlocks
      droppedItems := (covering first rest).droppedItems + (covering b []).droppedItems
      firmwareGapBlocks :=
        (covering first rest).firmwareGapBlocks + (covering b []).firmwareGapBlocks
      firmwareOverrunBlocks :=
        (covering first rest).firmwareOverrunBlocks + (covering b []).firmwareOverrunBlocks
      contiguous := decide ((first :: (rest ++ [b])).IsChain Follows) } =
        covering first (rest ++ [b]) := by
    unfold covering
    rw [itemsOf_concat, List.getLastD_concat, ← List.cons_append, List.length_append,
      List.countP_append, List.countP_append]
    simp [itemsOf]
  unfold HostQueueLoss.aggregatedWith HostQueueLoss.joined HostQueueLoss.checked
  rw [hrelated, if_neg (by decide), hmerge, heq, if_pos (covering_check h)]

end Covering

/-! ### The report storage -/

/-- The report, if it is about an eviction. -/
def StreamReport.losses : StreamReport → List HostQueueLoss
  | .queueLoss l => [l]
  | .anomaly _ => []

/-- The reports of evictions of one stream. -/
def lossesOf (k : Alignment.FrameKind) (reports : List StreamReport) : List HostQueueLoss :=
  reports.filterMap fun
    | .queueLoss l => if l.kind = k then some l else none
    | .anomaly _ => none

section Storage

variable {k j : Alignment.FrameKind} {l x m : HostQueueLoss} {a : StaleRun}
  {reports reports' : List StreamReport}

@[simp] theorem lossesOf_nil : lossesOf k [] = [] := rfl

@[simp] theorem lossesOf_anomaly : lossesOf k (.anomaly a :: reports) = lossesOf k reports := rfl

theorem lossesOf_queueLoss :
    lossesOf k (.queueLoss l :: reports) =
      if l.kind = k then l :: lossesOf k reports else lossesOf k reports := by
  unfold lossesOf
  rw [List.filterMap_cons]
  by_cases h : l.kind = k <;> simp [h]

theorem lossesOf_cons (r : StreamReport) (reports : List StreamReport) :
    lossesOf k (r :: reports) = lossesOf k [r] ++ lossesOf k reports :=
  List.filterMap_append (l := [r])

theorem lossesOf_append : lossesOf k (reports ++ reports') =
    lossesOf k reports ++ lossesOf k reports' := List.filterMap_append

theorem lossesOf_reverse : lossesOf k reports.reverse = (lossesOf k reports).reverse :=
  List.filterMap_reverse

/-- No report of the stream: the new one joins none. -/
theorem coalesce_none (h : lossesOf m.kind reports = []) :
    StreamState.coalesce (.queueLoss m) reports = .ok none := by
  induction reports with
  | nil => rfl
  | cons existing older ih =>
    cases existing with
    | anomaly a =>
      simp only [StreamState.coalesce, ih h]
      rfl
    | queueLoss l =>
      rw [lossesOf_queueLoss] at h
      have hk : l.kind ≠ m.kind := by
        intro hk
        rw [if_pos hk] at h
        cases h
      rw [if_neg hk] at h
      simp only [StreamState.coalesce, hk, false_and, if_false, ih h]
      rfl

/-- One report of the stream and the run: the new one joins it in its place. -/
theorem coalesce_some (h : lossesOf m.kind reports = [x]) (hsource : x.source = m.source)
    (hrun : x.runId = m.runId) (hjoin : x.aggregatedWith m = some l) (hl : l.kind = m.kind) :
    ∃ reports', StreamState.coalesce (.queueLoss m) reports = .ok (some reports') ∧
      lossesOf m.kind reports' = [l] ∧
      ∀ j, j ≠ m.kind → lossesOf j reports' = lossesOf j reports := by
  induction reports with
  | nil => cases h
  | cons existing older ih =>
    cases existing with
    | anomaly a =>
      obtain ⟨reports', hc, hk, hj⟩ := ih h
      refine ⟨.anomaly a :: reports', ?_, hk, hj⟩
      simp only [StreamState.coalesce, hc]
      rfl
    | queueLoss y =>
      rw [lossesOf_queueLoss] at h
      by_cases hk : y.kind = m.kind
      · rw [if_pos hk, List.cons.injEq] at h
        obtain ⟨rfl, hnil⟩ := h
        refine ⟨.queueLoss l :: older, ?_, ?_, ?_⟩
        · simp only [StreamState.coalesce, hk, hsource, hrun, and_self, if_true, hjoin]
        · rw [lossesOf_queueLoss, if_pos hl, hnil]
        · intro j hj
          rw [lossesOf_queueLoss, lossesOf_queueLoss, if_neg (fun h => hj (h.symm.trans hl)),
            if_neg (fun h => hj (h.symm.trans hk))]
      · rw [if_neg hk] at h
        obtain ⟨reports', hc, hk', hj⟩ := ih h
        refine ⟨.queueLoss y :: reports', ?_, ?_, ?_⟩
        · simp only [StreamState.coalesce, hk, false_and, if_false, hc]
          rfl
        · rw [lossesOf_queueLoss, if_neg hk, hk']
        · intro j hj'
          rw [lossesOf_queueLoss, lossesOf_queueLoss, hj j hj']

/-- Anomalies leave the storage, and losses stay. -/
theorem lossesOf_eraseP : lossesOf k (reports.eraseP StreamReport.isAnomaly) = lossesOf k reports := by
  induction reports with
  | nil => rfl
  | cons r reports ih =>
    cases r with
    | anomaly a => rfl
    | queueLoss l =>
      rw [List.eraseP_cons_of_neg (by simp [StreamReport.isAnomaly]), lossesOf_queueLoss,
        lossesOf_queueLoss, ih]

/-- A report about a stale run joins another one, or none. -/
theorem coalesce_anomaly (a : StaleRun) (reports : List StreamReport) :
    StreamState.coalesce (.anomaly a) reports = .ok none ∨
      ∃ reports', StreamState.coalesce (.anomaly a) reports = .ok (some reports') ∧
        ∀ k, lossesOf k reports' = lossesOf k reports := by
  induction reports with
  | nil => exact .inl rfl
  | cons existing older ih =>
    have hrest : (StreamState.coalesce (.anomaly a) older).map (Option.map (existing :: ·)) =
        .ok none ∨ ∃ reports', (StreamState.coalesce (.anomaly a) older).map
          (Option.map (existing :: ·)) = .ok (some reports') ∧
            ∀ k, lossesOf k reports' = lossesOf k (existing :: older) := by
      rcases ih with h | ⟨reports', h, hk⟩
      · exact .inl (by rw [h]; rfl)
      · refine .inr ⟨existing :: reports', by rw [h]; rfl, fun k => ?_⟩
        rw [lossesOf_cons, hk k, ← lossesOf_cons]
    cases existing with
    | queueLoss l => exact hrest
    | anomaly b =>
      simp only [StreamState.coalesce]
      cases b.mergedWith a with
      | none => exact hrest
      | some joined => exact .inr ⟨.anomaly joined :: older, rfl, fun k => rfl⟩

/-- With at most one report for each stream there is room for a stream without one. -/
theorem losses_length (h : ∀ k, (lossesOf k reports).length ≤ 1)
    (hlosses : reports.any StreamReport.isAnomaly = false) (hnone : lossesOf k reports = []) :
    reports.length ≤ 1 := by
  have hlen : ∀ {reports : List StreamReport}, reports.any StreamReport.isAnomaly = false →
      reports.length = (lossesOf .adcData reports).length + (lossesOf .gpioData reports).length := by
    intro reports hlosses
    induction reports with
    | nil => rfl
    | cons r reports ih =>
      rw [List.any_cons, Bool.or_eq_false_iff] at hlosses
      cases r with
      | anomaly a => cases hlosses.1
      | queueLoss l =>
        have ih := ih hlosses.2
        rw [lossesOf_queueLoss, lossesOf_queueLoss]
        cases hk : l.kind <;> simp [ih] <;> omega
  rw [hlen hlosses]
  have hadc := h .adcData
  have hgpio := h .gpioData
  cases k with
  | adcData => rw [hnone]; simpa using hgpio
  | gpioData => rw [hnone]; simpa using hadc

/-- A report changes the storage, and nothing else of the stream. -/
theorem enqueueStreamReport_shape {s s' : StreamState} {report : StreamReport}
    (h : s.enqueueStreamReport report = some s') :
    ∃ reports drops, s' = { s with streamReports := reports, lossReportQueueDrops := drops } := by
  unfold StreamState.enqueueStreamReport at h
  split at h
  · cases h
  · cases h
    exact ⟨_, _, rfl⟩
  · split at h
    · split at h <;> (cases h; exact ⟨_, _, rfl⟩)
    · cases h
      exact ⟨_, _, rfl⟩

theorem enqueue_anomaly (s : StreamState) (a : StaleRun) :
    ∃ s', s.enqueueStreamReport (.anomaly a) = some s' ∧
      ∀ k, lossesOf k s'.streamReports = lossesOf k s.streamReports := by
  unfold StreamState.enqueueStreamReport
  rcases coalesce_anomaly a s.streamReports.reverse with h | ⟨reports', h, hk⟩
  · rw [h]
    dsimp only
    split
    · split
      · exact ⟨_, rfl, fun k => by rw [lossesOf_append, lossesOf_eraseP]; exact List.append_nil _⟩
      · exact ⟨_, rfl, fun k => rfl⟩
    · exact ⟨_, rfl, fun k => by rw [lossesOf_append]; exact List.append_nil _⟩
  · rw [h]
    refine ⟨_, rfl, fun k => ?_⟩
    rw [lossesOf_reverse, hk, lossesOf_reverse, List.reverse_reverse]

/-- The first report of a stream takes a place. -/
theorem enqueue_first {s : StreamState} (hcap : 2 ≤ s.maxStreamReports)
    (hone : ∀ k, (lossesOf k s.streamReports).length ≤ 1)
    (hnone : lossesOf m.kind s.streamReports = []) :
    ∃ s', s.enqueueStreamReport (.queueLoss m) = some s' ∧
      lossesOf m.kind s'.streamReports = [m] ∧
      ∀ j, j ≠ m.kind → lossesOf j s'.streamReports = lossesOf j s.streamReports := by
  have hown : lossesOf m.kind [.queueLoss m] = [m] := by
    rw [lossesOf_queueLoss, if_pos rfl, lossesOf_nil]
  have hother : ∀ j, j ≠ m.kind → lossesOf j [.queueLoss m] = [] := by
    intro j hj
    rw [lossesOf_queueLoss, if_neg (Ne.symm hj), lossesOf_nil]
  have hc : StreamState.coalesce (.queueLoss m) s.streamReports.reverse = .ok none :=
    coalesce_none (by rw [lossesOf_reverse, hnone]; rfl)
  unfold StreamState.enqueueStreamReport
  rw [hc]
  dsimp only
  split
  · rename_i hfull
    cases hany : s.streamReports.any StreamReport.isAnomaly with
    | true =>
      refine ⟨_, if_pos rfl, ?_, fun j hj => ?_⟩
      · rw [lossesOf_append, lossesOf_eraseP, hnone, hown]
        rfl
      · rw [lossesOf_append, lossesOf_eraseP, hother j hj, List.append_nil]
    | false =>
      -- the storage is full of losses only, one for each stream
      have hlen := losses_length hone hany hnone
      omega
  · refine ⟨_, rfl, ?_, fun j hj => ?_⟩
    · rw [lossesOf_append, hnone, hown]
      rfl
    · rw [lossesOf_append, hother j hj, List.append_nil]

/-- The next report of a stream joins the one that waits. -/
theorem enqueue_next {s : StreamState} (h : lossesOf m.kind s.streamReports = [x])
    (hsource : x.source = m.source) (hrun : x.runId = m.runId)
    (hjoin : x.aggregatedWith m = some l) (hl : l.kind = m.kind) :
    ∃ s', s.enqueueStreamReport (.queueLoss m) = some s' ∧
      lossesOf m.kind s'.streamReports = [l] ∧
      ∀ j, j ≠ m.kind → lossesOf j s'.streamReports = lossesOf j s.streamReports := by
  have hrev : lossesOf m.kind s.streamReports.reverse = [x] := by
    rw [lossesOf_reverse, h]
    rfl
  obtain ⟨reports', hc, hk, hj⟩ := coalesce_some hrev hsource hrun hjoin hl
  unfold StreamState.enqueueStreamReport
  rw [hc]
  refine ⟨_, rfl, ?_, fun j hj' => ?_⟩
  · rw [lossesOf_reverse, hk]
    rfl
  · rw [lossesOf_reverse, hj j hj', lossesOf_reverse, List.reverse_reverse]

end Storage

/-! ### A reader in a run -/

namespace Station

variable (c : Controls)

/-- What a run is to the reader. -/
def identity (s : Station) :
    Bool × ℕ × Option ℕ × Option DAQConfiguration × Option V3Settings :=
  (s.reader.streamActive, s.reader.activeRunId, s.reader.selectedWireVersion,
    s.activeConfiguration, s.activeV3Settings)

/-- The layout of the blocks of the run, as far as the reader knows it. -/
def layout (s : Station) : ℕ × Alignment.AuxBankMode × Alignment.RateProfile :=
  if s.reader.selectedWireVersion = some 2 then
    (s.activeConfiguration.map fun configuration =>
      (2, configuration.auxBankMode, configuration.rateProfile)).getD
        (2, .disabled, .adc1MhzGpio4Mhz)
  else if s.reader.selectedWireVersion = some 3 then
    (s.activeV3Settings.map fun settings => (3, settings.auxBankMode, .adc1MhzGpio1Mhz)).getD
      (3, .disabled, .adc1MhzGpio1Mhz)
  else (1, .disabled, .adc1MhzGpio4Mhz)

/-- A data frame, a read of the consumer, or an event that leaves the run and its queue
alone.  The blocks of the run have one source. -/
def InRun (source : Alignment.Source) (s : Station) : Arrival c → Prop
  | .data f => ∀ b, s.decodeBlock c f.frame = some b → b.runId = s.reader.activeRunId →
      b.source = source
  | .other (.getBlock _) => True
  | .other (.getStreamItem _) => True
  | .other e => (s.step e).stream = s.stream ∧ (s.step e).identity = s.identity

def StaysInRun (source : Alignment.Source) (s : Station) : List (Arrival c) → Prop
  | [] => True
  | a :: as => s.InRun c source a ∧ StaysInRun source (s.arrive c a) as

/-- The block that was counted as dropped, the oldest of the queue. -/
def evictedBy (s : Station) (a : Arrival c) : List DataBlock :=
  if (s.arrive c a).stream.hostBlockQueueDrops = s.stream.hostBlockQueueDrops then []
  else s.stream.blocks.head?.toList

/-- The report of an eviction that the consumer takes. -/
def readBy (s : Station) : Arrival c → List HostQueueLoss
  | .other (.getStreamItem waited) =>
    if s.consumerMayTake waited then
      match s.stream.streamReports with
      | report :: _ => report.losses
      | [] => []
    else []
  | _ => []

end Station

/-- A reader with the blocks that were evicted, and the reports of evictions that were
read. -/
structure Watch where
  station : Station
  evicted : List DataBlock := []
  read : List HostQueueLoss := []

namespace Station

variable {c : Controls} {s s' : Station}

theorem layout_of_identity (h : s'.identity = s.identity) : s'.layout = s.layout := by
  simp only [identity, Prod.mk.injEq] at h
  unfold layout
  rw [h.2.2.1, h.2.2.2.1, h.2.2.2.2]

theorem checked_ok {b b' : DataBlock} {encoded : Option Bytes} (h : b.checked encoded = some b') :
    b = b' ∧ b.check encoded = true := by
  unfold DataBlock.checked at h
  split at h
  · rename_i hcheck
    exact ⟨Option.some.inj h, hcheck⟩
  · cases h

/-- What a frame of the selected version becomes has the layout of the run. -/
theorem decodeBlock_layout {frame : CompatibleFrame} {b : DataBlock}
    (hv : s.reader.selectedWireVersion = some frame.version) (h : s.decodeBlock c frame = some b) :
    b.profileSignature = s.layout ∧ ∃ encoded, b.check encoded = true := by
  cases frame with
  | v1 f =>
    obtain ⟨rfl, hcheck⟩ := checked_ok h
    refine ⟨?_, none, hcheck⟩
    unfold layout
    rw [hv, if_neg (by simp [CompatibleFrame.version]), if_neg (by simp [CompatibleFrame.version])]
    rfl
  | v2 f =>
    unfold decodeBlock at h
    dsimp only at h
    obtain ⟨configuration, hconf, hb⟩ := Option.bind_eq_some_iff.mp h
    unfold fromV2Frame at hb
    dsimp only at hb
    split at hb
    · cases hb
    split at hb
    · cases hb
    obtain ⟨rfl, hcheck⟩ := checked_ok hb
    refine ⟨?_, none, hcheck⟩
    unfold layout
    rw [hv, if_pos (show some (CompatibleFrame.v2 f).version = some 2 from rfl), hconf]
    rfl
  | v3 f =>
    unfold decodeBlock at h
    dsimp only at h
    obtain ⟨settings, hsettings, hb⟩ := Option.bind_eq_some_iff.mp h
    have hlayout : s.layout = (3, settings.auxBankMode, .adc1MhzGpio1Mhz) := by
      unfold layout
      rw [hv, if_neg (by simp [CompatibleFrame.version]),
        if_pos (show some (CompatibleFrame.v3 f).version = some 3 from rfl), hsettings]
      rfl
    rw [hlayout]
    unfold decodeV3Block at hb
    split at hb
    · cases hb
    split at hb
    · cases hb
    dsimp only at hb
    generalize (if decide (f.header.kind = FrameKind.adcData) = true then settings.adc
      else settings.gpio) = selected at hb
    split at hb
    · cases hb
    split at hb
    · cases hb
    split at hb
    · split at hb
      · cases hb
      · obtain ⟨rfl, hcheck⟩ := checked_ok hb
        exact ⟨rfl, _, hcheck⟩
    · split at hb
      · cases hb
      split at hb
      · cases hb
      · obtain ⟨rfl, hcheck⟩ := checked_ok hb
        exact ⟨rfl, _, hcheck⟩

end Station

namespace Watch

variable (c : Controls)

def arrive (w : Watch) (a : Station.Arrival c) : Watch where
  station := w.station.arrive c a
  evicted := w.evicted ++ w.station.evictedBy c a
  read := w.read ++ w.station.readBy c a

def run (w : Watch) (as : List (Station.Arrival c)) : Watch := as.foldl (arrive c) w

/-- The reports of a stream, read and waiting. -/
def reports (w : Watch) (k : Alignment.FrameKind) : List HostQueueLoss :=
  w.read.filter (fun l => l.kind = k) ++ lossesOf k w.station.stream.streamReports

/-- The reports of a run and the blocks that were evicted since it began; `base` are the
counters it began with. -/
structure Exact (source : Alignment.Source) (base : Alignment.FrameKind → SourceCounters)
    (w : Watch) : Prop where
  active : w.station.reader.streamActive = true
  selected : w.station.reader.selectedWireVersion.isSome
  capacity : 2 ≤ w.station.stream.maxStreamReports
  blocks : ∀ b ∈ w.station.stream.blocks,
    OfRun w.station.reader.activeRunId source w.station.layout b
  one : ∀ k, (lossesOf k w.station.stream.streamReports).length ≤ 1
  pieces : ∀ k, ∃ pieces : List (DataBlock × List DataBlock),
    pieces.flatMap (fun p => p.1 :: p.2) = w.evicted.filter (fun b => b.kind = k) ∧
      pieces.map (fun p => covering p.1 p.2) = w.reports k ∧
      ∀ p ∈ pieces,
        SameStream w.station.reader.activeRunId source w.station.layout k (p.1 :: p.2)
  drops : ∀ k, (w.station.stream.source k).blockQueueDrops =
    (base k).blockQueueDrops + (w.evicted.filter fun b => b.kind = k).length
  items : ∀ k, (w.station.stream.source k).itemQueueDrops =
    (base k).itemQueueDrops + itemsOf (w.evicted.filter fun b => b.kind = k)

variable {c} {source : Alignment.Source} {base : Alignment.FrameKind → SourceCounters} {w : Watch}

/-- What neither evicts nor reads the report of an eviction. -/
theorem Exact.quiet {s' : Station} (h : w.Exact source base)
    (hid : s'.identity = w.station.identity)
    (hcap : s'.stream.maxStreamReports = w.station.stream.maxStreamReports)
    (hblocks : ∀ b ∈ s'.stream.blocks, b ∈ w.station.stream.blocks ∨
      OfRun w.station.reader.activeRunId source w.station.layout b)
    (hloss : ∀ k, lossesOf k s'.stream.streamReports = lossesOf k w.station.stream.streamReports)
    (hdrops : ∀ k, (s'.stream.source k).blockQueueDrops =
      (w.station.stream.source k).blockQueueDrops)
    (hitems : ∀ k, (s'.stream.source k).itemQueueDrops =
      (w.station.stream.source k).itemQueueDrops) :
    Exact source base { w with station := s' } := by
  have hlayout := Station.layout_of_identity hid
  simp only [Station.identity, Prod.mk.injEq] at hid
  constructor
  · exact hid.1.trans h.active
  · rw [hid.2.2.1]
    exact h.selected
  · rw [hcap]
    exact h.capacity
  · intro b hb
    rw [hid.2.1, hlayout]
    exact (hblocks b hb).elim (h.blocks b) id
  · intro k
    rw [hloss]
    exact h.one k
  · intro k
    obtain ⟨pieces, hflat, hmap, hsame⟩ := h.pieces k
    refine ⟨pieces, hflat, ?_, ?_⟩
    · rw [hmap]
      unfold reports
      rw [hloss]
    · rw [hid.2.1, hlayout]
      exact hsame
  · exact fun k => (hdrops k).trans (h.drops k)
  · exact fun k => (hitems k).trans (h.items k)

/-- The report of an evicted block finds the one of its stream, or a place. -/
theorem Exact.enqueue {s : StreamState} {dropped : DataBlock} (h : w.Exact source base)
    (hreports : s.streamReports = w.station.stream.streamReports)
    (hcap : s.maxStreamReports = w.station.stream.maxStreamReports)
    (hd : OfRun w.station.reader.activeRunId source w.station.layout dropped) :
    ∃ stream last, s.enqueueStreamReport (.queueLoss (covering dropped [])) = some stream ∧
      lossesOf dropped.kind stream.streamReports = [last] ∧
      (∀ j, j ≠ dropped.kind →
        lossesOf j stream.streamReports = lossesOf j w.station.stream.streamReports) ∧
      ∃ pieces : List (DataBlock × List DataBlock),
        pieces.flatMap (fun p => p.1 :: p.2) =
            (w.evicted ++ [dropped]).filter (fun b => b.kind = dropped.kind) ∧
          pieces.map (fun p => covering p.1 p.2) =
            w.read.filter (fun l => l.kind = dropped.kind) ++ [last] ∧
          ∀ p ∈ pieces, SameStream w.station.reader.activeRunId source w.station.layout
            dropped.kind (p.1 :: p.2) := by
  obtain ⟨pieces, hflat, hmap, hsame⟩ := h.pieces dropped.kind
  have hevicted : (w.evicted ++ [dropped]).filter (fun b => b.kind = dropped.kind) =
      w.evicted.filter (fun b => b.kind = dropped.kind) ++ [dropped] := by
    simp [List.filter_append]
  cases hone : lossesOf dropped.kind w.station.stream.streamReports with
  | nil =>
    obtain ⟨stream, henq, hlast, hother⟩ := enqueue_first (m := covering dropped [])
      (s := s) (hcap ▸ h.capacity) (hreports ▸ h.one) (hreports ▸ hone)
    refine ⟨stream, _, henq, hlast, fun j hj => (hother j hj).trans (by rw [hreports]), pieces ++ [(dropped, [])], ?_, ?_, ?_⟩
    · rw [List.flatMap_append, hflat, hevicted]
      rfl
    · rw [List.map_append, hmap, reports, hone, List.append_nil]
      rfl
    · intro p hp
      rcases List.mem_append.mp hp with hp | hp
      · exact hsame p hp
      · rw [List.mem_singleton.mp hp]
        intro b hb
        rw [List.mem_singleton.mp hb]
        exact ⟨hd, rfl⟩
  | cons x xs =>
    have hxs : xs = [] := by
      have hlen := h.one dropped.kind
      rw [hone] at hlen
      exact List.length_eq_zero_iff.mp (by simpa using hlen)
    subst hxs
    rw [reports, hone, List.map_eq_append_iff] at hmap
    obtain ⟨before, final, rfl, hbefore, hfinal⟩ := hmap
    obtain ⟨p, rfl, rfl⟩ := List.map_eq_singleton_iff.mp hfinal
    have hp := hsame p (by simp)
    have hext : SameStream w.station.reader.activeRunId source w.station.layout dropped.kind
        (p.1 :: (p.2 ++ [dropped])) := by
      intro b hb
      rw [← List.cons_append, List.mem_append, List.mem_singleton] at hb
      rcases hb with hb | rfl
      · exact hp b hb
      · exact ⟨hd, rfl⟩
    have hfirst := hp p.1 List.mem_cons_self
    obtain ⟨stream, henq, hlast, hother⟩ := enqueue_next (m := covering dropped [])
      (s := s) (hreports ▸ hone)
      (hfirst.1.source.trans hd.source.symm) (hfirst.1.run.trans hd.run.symm)
      (covering_aggregatedWith hext) hfirst.2
    refine ⟨stream, _, henq, hlast, fun j hj => (hother j hj).trans (by rw [hreports]), before ++ [(p.1, p.2 ++ [dropped])], ?_, ?_, ?_⟩
    · rw [hevicted, ← hflat, List.flatMap_append, List.flatMap_append]
      simp
    · rw [List.map_append, hbefore]
      rfl
    · intro q hq
      rcases List.mem_append.mp hq with hq | hq
      · exact hsame q (List.mem_append_left _ hq)
      · rw [List.mem_singleton.mp hq]
        exact hext

theorem enqueueStreamReport_frame {s s' : StreamState} {report : StreamReport}
    (h : s.enqueueStreamReport report = some s') :
    s'.maxStreamReports = s.maxStreamReports ∧ s'.hostBlockQueueDrops = s.hostBlockQueueDrops := by
  obtain ⟨reports, drops, rfl⟩ := enqueueStreamReport_shape h
  exact ⟨rfl, rfl⟩

theorem filter_concat (k : Alignment.FrameKind) (l : List DataBlock) (b : DataBlock) :
    (l ++ [b]).filter (fun b => b.kind = k) =
      l.filter (fun b => b.kind = k) ++ if b.kind = k then [b] else [] := by
  by_cases h : b.kind = k <;> simp [List.filter_append, h]

/-- An eviction reports the block that it drops. -/
theorem Exact.evict {dropped : DataBlock} {rest : List DataBlock} (h : w.Exact source base)
    (hblocks : w.station.stream.blocks = dropped :: rest) :
    ∃ stream, w.station.stream.evict = (stream, true) ∧
      stream.hostBlockQueueDrops = w.station.stream.hostBlockQueueDrops + 1 ∧
      Exact source base
        { w with
          station := { w.station with stream := stream }
          evicted := w.evicted ++ [dropped] } := by
  have hd : OfRun w.station.reader.activeRunId source w.station.layout dropped :=
    h.blocks dropped (by rw [hblocks]; exact List.mem_cons_self)
  obtain ⟨stream, last, henq, hlast, hother, pieces, hflat, hmap, hsame⟩ :=
    h.enqueue (s := { w.station.stream with blocks := rest }) rfl rfl hd
  obtain ⟨hmax, hcount⟩ := enqueueStreamReport_frame henq
  obtain ⟨hsource, hrest, -⟩ := StreamState.enqueueStreamReport_keeps henq
  have hevict : w.station.stream.evict = (stream.countDrop dropped, true) := by
    unfold StreamState.evict
    rw [hblocks]
    dsimp only
    rw [fromBlock_covering hd]
    dsimp only
    rw [henq]
  have hone : ∀ k, k ≠ dropped.kind →
      lossesOf k stream.streamReports = lossesOf k w.station.stream.streamReports := hother
  refine ⟨_, hevict, congrArg (· + 1) hcount, ?_⟩
  constructor
  · exact h.active
  · exact h.selected
  · change 2 ≤ stream.maxStreamReports
    rw [hmax]
    exact h.capacity
  · intro b hb
    refine h.blocks b ?_
    have hb' : b ∈ stream.blocks := hb
    rw [hrest] at hb'
    rw [hblocks]
    exact List.mem_cons_of_mem _ hb'
  · intro k
    change (lossesOf k stream.streamReports).length ≤ 1
    by_cases hk : k = dropped.kind
    · rw [hk, hlast]
      rfl
    · rw [hone k hk]
      exact h.one k
  · intro k
    by_cases hk : k = dropped.kind
    · subst hk
      refine ⟨pieces, hflat, ?_, hsame⟩
      rw [hmap, reports]
      exact congrArg _ hlast.symm
    · obtain ⟨pieces, hflat, hmap, hsame⟩ := h.pieces k
      refine ⟨pieces, ?_, ?_, hsame⟩
      · rw [hflat, filter_concat, if_neg (Ne.symm hk), List.append_nil]
      · rw [hmap, reports, reports]
        exact congrArg _ (hone k hk).symm
  · intro k
    change ((stream.countDrop dropped).source k).blockQueueDrops = _
    unfold StreamState.countDrop
    rw [StreamState.source_count, filter_concat]
    have hold := h.drops k
    by_cases hk : dropped.kind = k
    · rw [if_pos hk, if_pos hk, List.length_append, ← Nat.add_assoc, ← hold]
      exact congrArg (fun f => (f k).blockQueueDrops + 1) hsource
    · rw [if_neg hk, if_neg hk, List.append_nil, ← hold]
      exact congrArg (fun f => (f k).blockQueueDrops) hsource
  · intro k
    change ((stream.countDrop dropped).source k).itemQueueDrops = _
    unfold StreamState.countDrop
    rw [StreamState.source_count, filter_concat]
    have hold := h.items k
    by_cases hk : dropped.kind = k
    · rw [if_pos hk, if_pos hk]
      have hitems : itemsOf (w.evicted.filter (fun b => b.kind = k) ++ [dropped]) =
          itemsOf (w.evicted.filter fun b => b.kind = k) + dropped.itemCount := by
        simp [itemsOf]
      rw [hitems, ← Nat.add_assoc, ← hold]
      exact congrArg (fun f => (f k).itemQueueDrops + dropped.itemCount) hsource
    · rw [if_neg hk, if_neg hk, List.append_nil, ← hold]
      exact congrArg (fun f => (f k).itemQueueDrops) hsource

/-! ### Steps -/

/-- The reader thread ends: nothing of the run or its queue changes. -/
theorem Exact.raise (h : w.Exact source base) (error : ProtocolError) :
    Exact source base { w with station := w.station.raise error } :=
  h.quiet rfl rfl (fun _ hb => .inl hb) (fun _ => rfl) (fun _ => rfl) fun _ => rfl

/-- What a stream operation keeps that only counts. -/
structure Counts (s s' : StreamState) : Prop where
  capacity : s'.maxStreamReports = s.maxStreamReports
  queue : s'.blocks = s.blocks
  reports : ∀ k, lossesOf k s'.streamReports = lossesOf k s.streamReports
  drops : ∀ k, (s'.source k).blockQueueDrops = (s.source k).blockQueueDrops
  items : ∀ k, (s'.source k).itemQueueDrops = (s.source k).itemQueueDrops
  hostDrops : s'.hostBlockQueueDrops = s.hostBlockQueueDrops

theorem Counts.trans {s s' s'' : StreamState} (h : Counts s s') (h' : Counts s' s'') :
    Counts s s'' where
  capacity := h'.capacity.trans h.capacity
  queue := h'.queue.trans h.queue
  reports := fun k => (h'.reports k).trans (h.reports k)
  drops := fun k => (h'.drops k).trans (h.drops k)
  items := fun k => (h'.items k).trans (h.items k)
  hostDrops := h'.hostDrops.trans h.hostDrops

theorem counts_receive (s : StreamState) (b : DataBlock) : Counts s (s.receive b) where
  capacity := rfl
  queue := rfl
  reports := fun _ => rfl
  drops := fun k => by
    unfold StreamState.receive
    rw [StreamState.source_count]
    split <;> rfl
  items := fun k => by
    unfold StreamState.receive
    rw [StreamState.source_count]
    split <;> rfl
  hostDrops := rfl

theorem counts_discardStale (s : StreamState) (b : DataBlock) : Counts s (s.discardStale b) where
  capacity := rfl
  queue := rfl
  reports := fun _ => rfl
  drops := fun k => by
    unfold StreamState.discardStale
    rw [StreamState.source_count]
    split <;> rfl
  items := fun k => by
    unfold StreamState.discardStale
    rw [StreamState.source_count]
    split <;> rfl
  hostDrops := rfl

theorem counts_anomaly {s s' : StreamState} {a : StaleRun}
    (h : s.enqueueStreamReport (.anomaly a) = some s') : Counts s s' := by
  obtain ⟨s'', hs, hloss⟩ := enqueue_anomaly s a
  rw [h, Option.some.injEq] at hs
  subst hs
  obtain ⟨reports, drops, rfl⟩ := enqueueStreamReport_shape h
  exact ⟨rfl, rfl, hloss, fun _ => rfl, fun _ => rfl, rfl⟩

theorem Exact.counts {stream : StreamState} (h : w.Exact source base)
    (hc : Counts w.station.stream stream) :
    Exact source base { w with station := { w.station with stream := stream } } :=
  h.quiet rfl hc.capacity (fun _ hb => .inl (hc.queue ▸ hb)) hc.reports hc.drops hc.items

theorem Exact.append {b : DataBlock} (h : w.Exact source base)
    (hb : OfRun w.station.reader.activeRunId source w.station.layout b) :
    Exact source base
      { w with station := { w.station with stream := w.station.stream.append b } } :=
  h.quiet rfl rfl
    (fun b' hb' => by
      rcases List.mem_append.mp hb' with hb' | hb'
      · exact .inl hb'
      · exact .inr (List.mem_singleton.mp hb' ▸ hb))
    (fun _ => rfl) (fun _ => rfl) fun _ => rfl

/-- The blocks that a dispatch evicts. -/
def evictedIn (s s' : Station) : List DataBlock :=
  if s'.stream.hostBlockQueueDrops = s.stream.hostBlockQueueDrops then []
  else s.stream.blocks.head?.toList

theorem evictedIn_same {s s' : Station}
    (h : s'.stream.hostBlockQueueDrops = s.stream.hostBlockQueueDrops) : evictedIn s s' = [] :=
  if_pos h

/-- A decoded block: counted and discarded, refused, or queued after the oldest made
room. -/
theorem Exact.dispatchBlock {b : DataBlock} (h : w.Exact source base)
    (hb : b.runId = w.station.reader.activeRunId →
      OfRun w.station.reader.activeRunId source w.station.layout b) :
    Exact source base
      { w with
        station := w.station.dispatchBlock b
        evicted := w.evicted ++ evictedIn w.station (w.station.dispatchBlock b) } := by
  have hin := counts_receive w.station.stream b
  have hr := h.counts hin
  have hquiet : ∀ {s' : Station}, Exact source base { w with station := s' } →
      s'.stream.hostBlockQueueDrops = w.station.stream.hostBlockQueueDrops →
      Exact source base
        { w with station := s', evicted := w.evicted ++ evictedIn w.station s' } := by
    intro s' hs hdrops
    rw [evictedIn_same hdrops, List.append_nil]
    exact hs
  unfold Station.dispatchBlock
  dsimp only
  split
  · have hstale := hin.trans (counts_discardStale (w.station.stream.receive b) b)
    split
    · split
      · exact hquiet ((h.counts hstale).raise _) rfl
      · split
        · exact hquiet ((h.counts hstale).raise _) rfl
        · rename_i stream hreport
          have hall := hstale.trans (counts_anomaly hreport)
          exact hquiet (h.counts hall) hall.hostDrops
    · exact hquiet (h.counts hstale) rfl
  · rename_i hrun
    rw [not_or, not_not] at hrun
    have hb := hb hrun.2
    split
    · exact hquiet (hr.raise _) rfl
    split
    · cases hqueue : w.station.stream.blocks with
      | nil =>
        -- a queue of no places
        have hevict : (w.station.stream.receive b).evict = (w.station.stream.receive b, true) := by
          unfold StreamState.evict
          rw [hin.queue, hqueue]
        rw [hevict]
        exact hquiet (hr.append hb) rfl
      | cons dropped rest =>
        obtain ⟨stream, hevict, hdrops, hexact⟩ :=
          hr.evict (hin.queue.trans hqueue)
        have hevict : (w.station.stream.receive b).evict = (stream, true) := hevict
        rw [hevict]
        have hdrops' : (stream.append b).hostBlockQueueDrops =
            w.station.stream.hostBlockQueueDrops + 1 := hdrops
        have hin : evictedIn w.station { w.station with stream := stream.append b } = [dropped] := by
          unfold evictedIn
          rw [if_neg (by rw [hdrops']; omega), hqueue]
          rfl
        dsimp only
        rw [hin]
        exact hexact.append hb
    · exact hquiet (hr.append hb) rfl

/-- A report that is read is still one of the reports. -/
theorem reports_read (read : List HostQueueLoss) (report : StreamReport)
    (rest : List StreamReport) (k : Alignment.FrameKind) :
    (read ++ report.losses).filter (fun l => l.kind = k) ++ lossesOf k rest =
      read.filter (fun l => l.kind = k) ++ lossesOf k (report :: rest) := by
  rw [List.filter_append, List.append_assoc]
  cases report with
  | anomaly a => rfl
  | queueLoss l =>
    rw [lossesOf_queueLoss]
    by_cases hk : l.kind = k <;> simp [StreamReport.losses, hk]

theorem Exact.read {report : StreamReport} {rest : List StreamReport} (h : w.Exact source base)
    (hreports : w.station.stream.streamReports = report :: rest) :
    Exact source base
      { w with
        station := { w.station with stream := { w.station.stream with streamReports := rest } }
        read := w.read ++ report.losses } where
  active := h.active
  selected := h.selected
  capacity := h.capacity
  blocks := h.blocks
  one := fun k => by
    have hone := h.one k
    rw [hreports, lossesOf_cons, List.length_append] at hone
    exact Nat.le_trans (Nat.le_add_left _ _) hone
  pieces := fun k => by
    obtain ⟨pieces, hflat, hmap, hsame⟩ := h.pieces k
    refine ⟨pieces, hflat, ?_, hsame⟩
    rw [hmap, reports, hreports, ← reports_read]
    rfl
  drops := h.drops
  items := h.items

theorem Exact.deliver (h : w.Exact source base) :
    Exact source base
      { w with station := { w.station with stream := w.station.stream.deliver.1 } } := by
  unfold StreamState.deliver
  split
  · exact h
  · rename_i b rest hblocks
    exact h.quiet rfl rfl (fun b' hb' => .inl (hblocks ▸ List.mem_cons_of_mem b hb'))
      (fun _ => rfl) (fun _ => rfl) fun _ => rfl

theorem selected_of_not_refused {s : Station} {frame : CompatibleFrame}
    (hs : s.reader.selectedWireVersion.isSome)
    (h : ¬(s.reader.selectedWireVersion ≠ none ∧
      s.reader.selectedWireVersion ≠ some frame.version)) :
    s.reader.selectedWireVersion = some frame.version := by
  rw [not_and, not_not] at h
  exact h (Option.isSome_iff_ne_none.mp hs)

/-- A data frame. -/
theorem Exact.data {f : ValidDataFrame c} (h : w.Exact source base)
    (hrun : w.station.InRun c source (.data f)) : Exact source base (w.arrive c (.data f)) := by
  have hread : w.station.readBy c (.data f) = [] := rfl
  have hevicted : w.station.evictedBy c (.data f) =
      evictedIn w.station (w.station.arrive c (.data f)) := rfl
  unfold arrive
  rw [hread, List.append_nil, hevicted]
  have hquiet : ∀ {s' : Station}, Exact source base { w with station := s' } →
      s'.stream.hostBlockQueueDrops = w.station.stream.hostBlockQueueDrops →
      Exact source base
        { w with station := s', evicted := w.evicted ++ evictedIn w.station s' } := by
    intro s' hs hdrops
    rw [evictedIn_same hdrops, List.append_nil]
    exact hs
  simp only [Station.arrive, Station.receiveDataFrame]
  split
  · exact hquiet h rfl
  split
  · exact hquiet (h.raise _) rfl
  rename_i hselects
  split
  · refine hquiet (h.counts ?_) rfl
    exact ⟨rfl, rfl, fun _ => rfl, fun _ => rfl, fun _ => rfl, rfl⟩
  split
  · exact hquiet (h.raise _) rfl
  · rename_i b hb
    refine h.dispatchBlock fun hid => ?_
    obtain ⟨hlayout, hcheck⟩ :=
      Station.decodeBlock_layout (selected_of_not_refused h.selected hselects) hb
    exact ⟨hid, hrun b hb hid, hlayout, hcheck⟩

theorem Exact.same {s' : Station} (h : w.Exact source base)
    (hid : s'.identity = w.station.identity) (hstream : s'.stream = w.station.stream) :
    Exact source base { w with station := s' } :=
  h.quiet hid (by rw [hstream]) (fun b hb => .inl (hstream ▸ hb)) (fun k => by rw [hstream])
    (fun k => by rw [hstream]) fun k => by rw [hstream]

theorem deliver_drops (s : StreamState) : s.deliver.1.hostBlockQueueDrops = s.hostBlockQueueDrops := by
  unfold StreamState.deliver
  split <;> rfl

theorem Exact.other {e : Station.Event} (h : w.Exact source base)
    (hrun : w.station.InRun c source (.other e)) : Exact source base (w.arrive c (.other e)) := by
  have hquiet : ∀ {s' : Station}, w.station.step e = s' → w.station.readBy c (.other e) = [] →
      Exact source base { w with station := s' } →
      s'.stream.hostBlockQueueDrops = w.station.stream.hostBlockQueueDrops →
      Exact source base (w.arrive c (.other e)) := by
    rintro s' rfl hread hs hdrops
    have hevicted : w.station.evictedBy c (.other e) = [] := if_pos hdrops
    unfold Watch.arrive
    rw [hread, hevicted, List.append_nil, List.append_nil]
    exact hs
  cases e with
  | getBlock waited =>
    cases htake : w.station.consumerMayTake waited with
    | false => exact hquiet (by simp [Station.step, Station.getBlock, htake]) rfl h rfl
    | true =>
      exact hquiet (by simp [Station.step, Station.getBlock, htake]) rfl h.deliver
        (deliver_drops _)
  | getStreamItem waited =>
    cases htake : w.station.consumerMayTake waited with
    | false =>
      exact hquiet (by simp [Station.step, Station.getStreamItem, htake])
        (by simp [Station.readBy, htake]) h rfl
    | true =>
      cases hreports : w.station.stream.streamReports with
      | nil =>
        exact hquiet (by simp [Station.step, Station.getStreamItem, htake, hreports])
          (by simp [Station.readBy, htake, hreports]) h.deliver (deliver_drops _)
      | cons report rest =>
        have hstep : w.station.step (.getStreamItem waited) =
            { w.station with stream := { w.station.stream with streamReports := rest } } := by
          simp [Station.step, Station.getStreamItem, htake, hreports]
        have hread : w.station.readBy c (.other (.getStreamItem waited)) = report.losses := by
          simp [Station.readBy, htake, hreports]
        have hevicted : w.station.evictedBy c (.other (.getStreamItem waited)) = [] := by
          refine if_pos ?_
          change (w.station.step _).stream.hostBlockQueueDrops = _
          rw [hstep]
        unfold Watch.arrive
        rw [hread, hevicted, List.append_nil]
        change Exact source base { w with
          station := w.station.step (.getStreamItem waited), read := w.read ++ report.losses }
        rw [hstep]
        exact h.read hreports
  | start isOpen => exact hquiet rfl rfl (h.same hrun.2 hrun.1) (by rw [hrun.1])
  | request kind version negotiating encodable =>
    exact hquiet rfl rfl (h.same hrun.2 hrun.1) (by rw [hrun.1])
  | proceed t write deadline => exact hquiet rfl rfl (h.same hrun.2 hrun.1) (by rw [hrun.1])
  | expire late => exact hquiet rfl rfl (h.same hrun.2 hrun.1) (by rw [hrun.1])
  | readerEnds cause => exact hquiet rfl rfl (h.same hrun.2 hrun.1) (by rw [hrun.1])
  | response r value => exact hquiet rfl rfl (h.same hrun.2 hrun.1) (by rw [hrun.1])
  | block b => exact hquiet rfl rfl (h.same hrun.2 hrun.1) (by rw [hrun.1])
  | v3FrameWithoutSettings => exact hquiet rfl rfl (h.same hrun.2 hrun.1) (by rw [hrun.1])
  | refuseFrame error => exact hquiet rfl rfl (h.same hrun.2 hrun.1) (by rw [hrun.1])
  | activateRun runId algorithm configuration version =>
    exact hquiet rfl rfl (h.same hrun.2 hrun.1) (by rw [hrun.1])
  | activateV3Run runId settings => exact hquiet rfl rfl (h.same hrun.2 hrun.1) (by rw [hrun.1])
  | deactivateStream => exact hquiet rfl rfl (h.same hrun.2 hrun.1) (by rw [hrun.1])
  | close => exact hquiet rfl rfl (h.same hrun.2 hrun.1) (by rw [hrun.1])

theorem Exact.run {as : List (Station.Arrival c)} (h : w.Exact source base)
    (hrun : w.station.StaysInRun c source as) : Exact source base (w.run c as) := by
  induction as generalizing w with
  | nil => exact h
  | cons a as ih =>
    refine ih ?_ hrun.2
    cases a with
    | data f => exact h.data hrun.1
    | other e => exact h.other hrun.1

/-- The queue is empty, and nothing was reported. -/
theorem exact_begin {s : Station} (hactive : s.reader.streamActive = true)
    (hselected : s.reader.selectedWireVersion.isSome) (hcap : 2 ≤ s.stream.maxStreamReports)
    (hblocks : s.stream.blocks = []) (hreports : s.stream.streamReports = []) :
    Exact source s.stream.source { station := s } where
  active := hactive
  selected := hselected
  capacity := hcap
  blocks := by simp [hblocks]
  one := by simp [hreports]
  pieces := fun k => ⟨[], rfl, by simp [reports, hreports], by simp⟩
  drops := fun _ => rfl
  items := fun _ => rfl

theorem Exact.evicts (h : w.Exact source base) : w.station.stream.evict.2 = true := by
  cases hblocks : w.station.stream.blocks with
  | nil =>
    unfold StreamState.evict
    rw [hblocks]
  | cons dropped rest =>
    obtain ⟨stream, hevict, -⟩ := h.evict hblocks
    rw [hevict]

/-- The sums over the reports are the blocks and the items that were evicted. -/
theorem sums_of_pieces (pieces : List (DataBlock × List DataBlock)) :
    ((pieces.map fun p => covering p.1 p.2).map HostQueueLoss.droppedBlocks).sum =
        (pieces.flatMap fun p => p.1 :: p.2).length ∧
      ((pieces.map fun p => covering p.1 p.2).map HostQueueLoss.droppedItems).sum =
        itemsOf (pieces.flatMap fun p => p.1 :: p.2) := by
  induction pieces with
  | nil => exact ⟨rfl, rfl⟩
  | cons p pieces ih =>
    rw [List.map_cons, List.map_cons, List.map_cons, List.sum_cons, List.sum_cons, ih.1, ih.2,
      List.flatMap_cons, List.length_append]
    refine ⟨rfl, ?_⟩
    unfold itemsOf covering
    rw [List.map_append, List.sum_append]
    rfl

end Watch

/-! ### Every reader -/

/-- A run is active under a selected version only. -/
def Selected (r : ReaderState) : Prop :=
  r.streamActive = true → r.selectedWireVersion.isSome

/-- The fields are the same, or the run is over. -/
def KeepsRun (r r' : ReaderState) : Prop :=
  r'.selectedWireVersion = r.selectedWireVersion ∧
    (r'.streamActive = true → r.streamActive = true)

theorem Selected.keeps {r r' : ReaderState} (h : Selected r) (hk : KeepsRun r r') : Selected r' :=
  fun hactive => by rw [hk.1]; exact h (hk.2 hactive)

theorem KeepsRun.refl (r : ReaderState) : KeepsRun r r := ⟨rfl, id⟩

theorem KeepsRun.trans {r r' r'' : ReaderState} (h : KeepsRun r r') (h' : KeepsRun r' r'') :
    KeepsRun r r'' := ⟨h'.1.trans h.1, h.2 ∘ h'.2⟩

theorem keepsRun_terminate (r : ReaderState) (error : Reader.ReaderError)
    (protocolFailure disconnected : Bool) :
    KeepsRun r (r.terminate error protocolFailure disconnected) := by
  unfold ReaderState.terminate
  dsimp only
  split <;> exact ⟨rfl, fun h => by cases h⟩

theorem keepsRun_completeWithError (r : ReaderState) (t : ℕ) (error : Reader.ReaderError)
    (timeout : Bool) : KeepsRun r (r.completeWithError t error timeout) := by
  unfold ReaderState.completeWithError
  dsimp only
  split
  · exact .refl r
  · split <;> split <;> exact ⟨rfl, id⟩

theorem keepsRun_expirePendingRequests (r : ReaderState) (late : ℕ → Bool) :
    KeepsRun r (r.expirePendingRequests late) := by
  unfold ReaderState.expirePendingRequests
  generalize r.pending.filter (fun e => late e.2) = l
  induction l generalizing r with
  | nil => exact .refl r
  | cons e l ih =>
    refine KeepsRun.trans ?_ (ih _)
    unfold ReaderState.expireOne
    dsimp only
    split <;> exact ⟨rfl, id⟩

theorem keepsRun_registerRequest (r : ReaderState) (kind : FrameKind) (version : ℕ)
    (negotiating encodable : Bool) :
    KeepsRun r (r.registerRequest kind version negotiating encodable).1 := by
  unfold ReaderState.registerRequest
  repeat' split
  all_goals exact ⟨rfl, id⟩

theorem keepsRun_proceed (r : ReaderState) (t : ℕ) (write : Reader.ReaderState.WriteResult)
    (deadline : Bool) : KeepsRun r (r.proceed t write deadline) := by
  have hphase : ∀ (r' : ReaderState) φ, KeepsRun r r' → KeepsRun r (r'.setPhase t φ) :=
    fun r' φ h => h
  unfold ReaderState.proceed
  split
  · unfold ReaderState.proceedWriting
    dsimp only
    split
    · exact hphase _ _ (.refl r)
    · split
      · exact hphase _ _ (keepsRun_completeWithError ..)
      · split
        · exact hphase _ _ (keepsRun_completeWithError ..)
        · exact .refl r
    · exact hphase _ _ (keepsRun_completeWithError ..)
    · exact hphase _ _ (keepsRun_completeWithError ..)
    · exact hphase _ _ (keepsRun_terminate ..)
  · split
    · exact hphase _ _ (.refl r)
    · split
      · exact hphase _ _ (.refl r)
      · exact .refl r
  · exact hphase _ _ (keepsRun_completeWithError ..)
  · unfold ReaderState.proceedDeciding
    dsimp only
    split
    · exact hphase _ _ (.refl r)
    · split
      · exact hphase _ _ (.refl r)
      · exact hphase _ _ (keepsRun_terminate ..)
  · exact .refl r

theorem keepsRun_readerEnds (r : ReaderState) (cause : Reader.ReaderState.ReaderEnd) :
    KeepsRun r (r.readerEnds cause) := by
  cases cause with
  | raised =>
    simp only [ReaderState.readerEnds]
    split
    · have hclear : KeepsRun r { r with raised := none } := ⟨rfl, id⟩
      exact hclear.trans (keepsRun_terminate ..)
    · exact .refl r
  | disconnected => exact keepsRun_terminate ..
  | closed => exact keepsRun_terminate ..
  | parserFailed => exact keepsRun_terminate ..
  | frameViolated => exact keepsRun_terminate ..

theorem selected_activateRun {r : ReaderState} (hs : r.selectedWireVersion.isSome) (runId : ℕ)
    (algorithm : ChecksumAlgorithm) :
    ((r.activateRun runId algorithm).1).selectedWireVersion.isSome := by
  unfold ReaderState.activateRun
  split
  · exact hs
  · split <;> exact hs

/-- A response begins a run under the version that it came in. -/
theorem selected_dispatchResponse {r : ReaderState} (h : Selected r) (m : Response) :
    Selected (r.dispatchResponse m) := by
  unfold ReaderState.dispatchResponse
  split
  · dsimp only
    split
    · exact fun h => by cases h
    · exact h
  · unfold ReaderState.dispatchTo
    split
    · exact h
    split
    · exact h
    split
    · exact h
    · dsimp only
      unfold ReaderState.acceptRun
      dsimp only
      split
      · rename_i hstart
        rw [Bool.and_eq_true, decide_eq_true_eq] at hstart
        have hselect : ((m.ok && (decide (m.kind = .configureResponse) ||
            decide (m.kind = .startResponse))) = true) := by
          rw [hstart.1, hstart.2]
          decide
        rw [if_pos hselect]
        split
        · exact fun _ => selected_activateRun rfl _ _
        · exact fun _ => selected_activateRun rfl _ _
        · exact fun _ => rfl
      · split
        · exact fun h => by cases h
        · dsimp only
          split
          · exact fun _ => rfl
          · exact h

namespace Station

variable {c : Controls} {s : Station}

/-- What holds of every reader. -/
structure Settled (s : Station) : Prop where
  selected : Selected s.reader
  capacity : 2 ≤ s.stream.maxStreamReports

theorem enqueue_capacity {s s' : StreamState} {report : StreamReport}
    (h : s.enqueueStreamReport report = some s') : s'.maxStreamReports = s.maxStreamReports := by
  obtain ⟨reports, drops, rfl⟩ := enqueueStreamReport_shape h
  rfl

theorem evict_capacity (s : StreamState) : s.evict.1.maxStreamReports = s.maxStreamReports := by
  unfold StreamState.evict
  split
  · rfl
  · dsimp only
    split
    · rfl
    · split
      · rfl
      · rename_i hreport
        have hcap := enqueue_capacity hreport
        exact hcap

theorem deliver_capacity (s : StreamState) :
    s.deliver.1.maxStreamReports = s.maxStreamReports := by
  unfold StreamState.deliver
  split <;> rfl

theorem boundary_capacity (s : StreamState) : s.boundary.maxStreamReports = s.maxStreamReports := by
  have hfold : ∀ (l : List DataBlock) (s : StreamState),
      (l.foldl StreamState.boundaryOne s).maxStreamReports = s.maxStreamReports := by
    intro l
    induction l with
    | nil => exact fun _ => rfl
    | cons b l ih => exact fun s => ih (s.boundaryOne b)
  exact hfold s.blocks _

theorem dispatchBlock_capacity (b : DataBlock) :
    (s.dispatchBlock b).stream.maxStreamReports = s.stream.maxStreamReports := by
  unfold dispatchBlock
  dsimp only
  split
  · split
    · split
      · rfl
      · split
        · rfl
        · rename_i hreport
          have hcap := enqueue_capacity hreport
          exact hcap
    · rfl
  · split
    · rfl
    · split
      · have hevict := evict_capacity (s.stream.receive b)
        split
        · rename_i heq
          rw [heq] at hevict
          exact hevict
        · rename_i heq
          rw [heq] at hevict
          exact hevict
      · rfl

theorem dispatchBlock_reader (b : DataBlock) : KeepsRun s.reader (s.dispatchBlock b).reader := by
  unfold dispatchBlock
  dsimp only
  repeat' split
  all_goals exact ⟨rfl, id⟩

theorem activateRun_settled {runId : ℕ} {algorithm : ChecksumAlgorithm}
    {configuration : Option DAQConfiguration} (h : s.Settled)
    (hs : s.reader.selectedWireVersion.isSome) :
    (s.activateRun runId algorithm configuration).Settled := by
  have hselected := selected_activateRun hs runId algorithm
  unfold activateRun
  split
  · exact h
  · rename_i reader hreader
    rw [hreader] at hselected
    exact ⟨fun _ => hselected, (boundary_capacity _).symm ▸ h.capacity⟩

theorem dispatchResponse_settled (h : s.Settled) (r : Response) (value : AppliedValue) :
    (s.dispatchResponse r value).Settled := by
  have hselected := selected_dispatchResponse h.selected { r with value := value.value }
  have hboundary : 2 ≤ s.stream.boundary.maxStreamReports :=
    (boundary_capacity _).symm ▸ h.capacity
  unfold dispatchResponse
  dsimp only
  split
  · exact ⟨hselected, h.capacity⟩
  · exact ⟨hselected, hboundary⟩
  · split
    · exact ⟨hselected, h.capacity⟩
    · exact ⟨hselected, hboundary⟩

theorem dispatchBlock_settled (h : s.Settled) (b : DataBlock) : (s.dispatchBlock b).Settled :=
  ⟨h.selected.keeps (dispatchBlock_reader b), (dispatchBlock_capacity b).symm ▸ h.capacity⟩

theorem step_settled (h : s.Settled) (e : Event) : (s.step e).Settled := by
  cases e with
  | start isOpen =>
    refine ⟨h.selected.keeps ?_, h.capacity⟩
    simp only [step, ReaderState.step, ReaderState.startReader]
    split <;> exact ⟨rfl, id⟩
  | request kind version negotiating encodable =>
    exact ⟨h.selected.keeps (keepsRun_registerRequest ..), h.capacity⟩
  | proceed t write deadline =>
    refine ⟨h.selected.keeps ?_, h.capacity⟩
    simp only [step, ReaderState.step]
    split
    · exact keepsRun_proceed ..
    · exact .refl _
  | expire late => exact ⟨h.selected.keeps (keepsRun_expirePendingRequests ..), h.capacity⟩
  | readerEnds cause => exact ⟨h.selected.keeps (keepsRun_readerEnds ..), h.capacity⟩
  | response r value =>
    simp only [step]
    split
    · exact h
    · exact dispatchResponse_settled h r value
  | block b =>
    simp only [step]
    split
    · exact h
    · exact dispatchBlock_settled h b
  | v3FrameWithoutSettings =>
    simp only [step]
    split
    · exact h
    · exact ⟨h.selected, h.capacity⟩
  | refuseFrame error =>
    simp only [step]
    split
    · exact h
    · exact ⟨h.selected, h.capacity⟩
  | activateRun runId algorithm configuration version =>
    simp only [step, activateKnownRun]
    split
    · exact h
    split
    · exact h
    split
    · exact h
    · exact activateRun_settled ⟨fun _ => rfl, h.capacity⟩ rfl
  | activateV3Run runId settings =>
    simp only [step, activateV3Run]
    split
    · exact h
    · exact activateRun_settled ⟨fun _ => rfl, h.capacity⟩ rfl
  | deactivateStream =>
    simp only [step]
    split
    · exact ⟨fun h => absurd h Bool.false_ne_true, (boundary_capacity _).symm ▸ h.capacity⟩
    · exact h
  | getBlock waited =>
    simp only [step, getBlock]
    split
    · exact ⟨h.selected, (deliver_capacity _).symm ▸ h.capacity⟩
    · exact h
  | getStreamItem waited =>
    simp only [step, getStreamItem]
    split
    · split
      · exact ⟨h.selected, h.capacity⟩
      · exact ⟨h.selected, (deliver_capacity _).symm ▸ h.capacity⟩
    · exact h
  | close =>
    simp only [step, close]
    split
    · exact h
    · rename_i hclosed
      refine ⟨?_, h.capacity⟩
      intro hactive
      simp [ReaderState.close, hclosed] at hactive

theorem arrive_settled (h : s.Settled) (a : Arrival c) : (s.arrive c a).Settled := by
  cases a with
  | other e => exact step_settled h e
  | data f =>
    simp only [arrive, receiveDataFrame]
    split
    · exact h
    split
    · exact ⟨h.selected, h.capacity⟩
    split
    · exact ⟨h.selected, h.capacity⟩
    split
    · exact ⟨h.selected, h.capacity⟩
    · exact dispatchBlock_settled h _

theorem arrivals_settled (h : s.Settled) (as : List (Arrival c)) :
    (as.foldl (arrive c) s).Settled := by
  induction as generalizing s with
  | nil => exact h
  | cons a as ih => exact ih (arrive_settled h a)

theorem booted_settled (maxPendingRequests seed maxQueuedBlocks maxQueuedEvents : ℕ) :
    (booted maxPendingRequests seed maxQueuedBlocks maxQueuedEvents).Settled :=
  ⟨fun h => absurd h Bool.false_ne_true, Nat.le_max_left _ _⟩

/-- In every reader, from a moment at which a run is active and nothing is queued, as it is
after the activation, and while data frames of one source arrive and the consumer reads,
for each stream: the reports that were read and the one that may wait cover the evicted
blocks, cut into consecutive pieces, so their sums are what the reader counted as
dropped; at most one report waits; and the next eviction does not raise. -/
theorem loss_reports_exact (c : Controls)
    (maxPendingRequests seed maxQueuedBlocks maxQueuedEvents : ℕ)
    (before as : List (Arrival c)) (source : Alignment.Source) :
    let s := before.foldl (arrive c)
      (booted maxPendingRequests seed maxQueuedBlocks maxQueuedEvents)
    let w := Watch.run c { station := s } as
    s.reader.streamActive = true → s.stream.blocks = [] → s.stream.streamReports = [] →
    s.StaysInRun c source as →
      w.station.stream.evict.2 = true ∧
      ∀ k, (lossesOf k w.station.stream.streamReports).length ≤ 1 ∧
        (w.station.stream.source k).blockQueueDrops = (s.stream.source k).blockQueueDrops +
          ((w.reports k).map HostQueueLoss.droppedBlocks).sum ∧
        (w.station.stream.source k).itemQueueDrops = (s.stream.source k).itemQueueDrops +
          ((w.reports k).map HostQueueLoss.droppedItems).sum ∧
        ∃ pieces : List (DataBlock × List DataBlock),
          pieces.flatMap (fun p => p.1 :: p.2) = w.evicted.filter (fun b => b.kind = k) ∧
            pieces.map (fun p => covering p.1 p.2) = w.reports k := by
  intro s w hactive hblocks hreports hrun
  have hsettled : s.Settled := arrivals_settled (booted_settled ..) before
  have hexact : w.Exact source s.stream.source :=
    (Watch.exact_begin hactive (hsettled.selected hactive) hsettled.capacity hblocks hreports).run
      hrun
  refine ⟨hexact.evicts, fun k => ?_⟩
  obtain ⟨pieces, hflat, hmap, -⟩ := hexact.pieces k
  obtain ⟨hsum, hitems⟩ := Watch.sums_of_pieces pieces
  rw [hmap, hflat] at hsum hitems
  exact ⟨hexact.one k, by rw [hsum]; exact hexact.drops k, by rw [hitems]; exact hexact.items k,
    pieces, hflat, hmap⟩

/-- Both streams of the hardware, at the rates of version 1. -/
def legacyConfiguration : DAQConfiguration where
  adc := true
  gpio := true
  source := .hardware
  dataChecksumAlgorithm := .adler32
  auxBankMode := .disabled
  rateProfile := .adc1MhzGpio4Mhz
  controlOnly := by decide
  auxiliary := DAQConfiguration.auxiliary_disabled
  checksum := Eq.refl true

theorem stray_source {b : DataBlock} (h : s.decodeBlock anyControl strayArrival.frame = some b) :
    b.source = .hardware := by
  obtain ⟨configuration, -, hb⟩ := Option.bind_eq_some_iff.mp h
  unfold fromV2Frame at hb
  dsimp only at hb
  split at hb
  · cases hb
  split at hb
  · cases hb
  obtain ⟨rfl, -⟩ := checked_ok hb
  rfl

/-- A run of version 2 with a queue of one block. -/
def evictingBefore : List (Arrival anyControl) :=
  [.other (.start true), .other (.activateRun 7 .adler32 (some legacyConfiguration) (some 2))]

/-- The same frame three times: two evictions, and the report of the first is read before
the second. -/
def evictingArrivals : List (Arrival anyControl) :=
  [.data strayArrival, .data strayArrival, .other (.getStreamItem false), .data strayArrival]

theorem evicting_stays (s : Station) : s.StaysInRun anyControl .hardware evictingArrivals :=
  ⟨fun _ hb _ => stray_source hb, fun _ hb _ => stray_source hb, trivial,
    fun _ hb _ => stray_source hb, trivial⟩

theorem loss_reports_exact_evicting :
    (Watch.run anyControl
      { station := evictingBefore.foldl (arrive anyControl) (booted 32 0 1 32) }
      evictingArrivals).station.stream.evict.2 = true :=
  (loss_reports_exact anyControl 32 0 1 32 evictingBefore evictingArrivals .hardware
    (by decide +kernel) (by decide +kernel) (by decide +kernel) (evicting_stays _)).1

end Station

end ThingDaq.Host
