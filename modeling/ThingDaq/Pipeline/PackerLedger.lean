import ThingDaq.Pipeline.PackerAccounts

/-!
# The packer and the pipeline

The packed frames and the losses go to the pipeline, which numbers both.  `Accounts` is what is
true of a packer and its pipeline between two calls, in every run.

## Main results

* `Accounts.service`, `Accounts.stopProduction` — what every call keeps.
* `samples_counted_once` — every position of every run is counted in one place.
-/

namespace ThingDaq.GpioPacker

open Wire Table Ring
open GpioCapture (BufferHandle)

theorem framed_set {fates : List Fate} {j : ℕ} (hj : fates[j]? = some .waiting) (framed : Bool)
    (k : ℕ) : (fates.set j (if framed then .framed else .unframed))[k]? = some .framed ↔
      framed = true ∧ k = j ∨ fates[k]? = some .framed := by
  by_cases hk : k = j
  · subst hk
    rw [List.getElem?_set_self (List.getElem?_eq_some_iff.mp hj).1, hj]
    cases framed <;> simp
  · rw [List.getElem?_set_ne (Ne.symm hk)]
    exact (or_iff_right fun hnew => hk hnew.2).symm

theorem runs_of_open {f : Feed} {s : Stream} {runId : UInt32} {checksum : ChecksumAlgorithm}
    (h : f.Open s runId checksum) : f.pipe.runId ≠ 0 := by
  have haccepts := h.accepts
  simp only [Pipeline.accepts, Bool.and_eq_true, decide_eq_true_eq] at haccepts
  rw [haccepts.1.1.2]
  exact h.runId

namespace GpioBatchPacker

variable {x y : GpioBatchPacker} {p d : ℕ}

/-! ### The pipeline -/

/-- What the packer knows of the pipeline: every number of the stream is a lost frame that was
reported or a frame that left the queue, and the accepted ones start where their samples do. -/
structure Linked (x : GpioBatchPacker) (f : Feed) : Prop where
  reach : Reach anyCaller f.tracked
  layout : f.pipe.setup.layout = x.layout
  run : f.pipe.runId ≠ 0
  payload : (x.layout.streams .gpio).payloadBytes ≤ kDataPayloadBytes
  numbers : f.produced .gpio =
    x.prepacketFramesProjected + framedFrames x.fates + unframedFrames x.fates
  handed : f.handed.countP (·.accepted) = framedFrames x.fates
  grid : ∃ js : List ℕ, js.Nodup ∧ (∀ j, j ∈ js ↔ x.fates[j]? = some .framed) ∧
    (f.handed.filter (·.accepted)).map (fun h => h.completion.firstSampleTicks) =
      js.map fun j => UInt64.ofNat (j * x.itemCount * (x.layout.streams .gpio).itemPeriodTicks)

theorem framed_append {fates extra : List Fate} (hnone : framedFrames extra = 0) (j : ℕ) :
    (fates ++ extra)[j]? = some .framed ↔ fates[j]? = some .framed := by
  rcases Nat.lt_or_ge j fates.length with hlt | hge
  · rw [List.getElem?_append_left hlt]
  · rw [List.getElem?_append_right hge, List.getElem?_eq_none hge]
    refine ⟨fun hframed => ?_, fun hnone => by cases hnone⟩
    have hmem := List.mem_of_getElem? hframed
    exact absurd hnone (List.countP_pos_iff.mpr ⟨_, hmem, rfl⟩).ne'

theorem Linked.further {f : Feed} {k : ℕ} (h : Linked x f) (hfurther : Further k x y) :
    Linked y f := by
  obtain ⟨extra, hfates, hframed, hunframed⟩ := hfurther.fates
  refine ⟨h.reach, h.layout.trans hfurther.layout.symm, h.run,
    by rw [hfurther.layout]; exact h.payload, ?_, ?_, ?_⟩
  · rw [hfates, framedFrames_append, unframedFrames_append, hframed, hunframed, hfurther.projected]
    exact h.numbers
  · rw [hfates, framedFrames_append, hframed]
    exact h.handed
  · obtain ⟨js, hnodup, hmem, hticks⟩ := h.grid
    rw [hfurther.itemCount, hfurther.layout, hfates]
    exact ⟨js, hnodup, fun j => (hmem j).trans (framed_append hframed j).symm, hticks⟩

variable {f : Feed} {runId : UInt32} {checksum : ChecksumAlgorithm}

/-- The packer with losses handed to the pipeline. -/
def projected (x : GpioBatchPacker) (frames rawSamples packerSamples : ℕ) : GpioBatchPacker :=
  { x with
    progress := { x.progress with
      rawDropSamplesProjected := sat64 x.progress.rawDropSamplesProjected rawSamples
      packerDropSamplesProjected := sat64 x.progress.packerDropSamplesProjected packerSamples }
    prepacketFramesProjected := sat64 x.prepacketFramesProjected frames }

/-- An open pipeline takes the losses, as many numbers as there are frames. -/
theorem applyDropped_spec (hopen : f.Open .gpio runId checksum)
    (frames rawSamples packerSamples : ℕ) (hfits : frames ≤ u64Max)
    (hwhole : rawSamples + packerSamples = frames * x.itemCount) :
    ∃ f', x.applyDroppedFrames f frames rawSamples packerSamples =
        (x.projected frames rawSamples packerSamples, f', true) ∧
      f'.Open .gpio runId checksum ∧ f'.produced .gpio = f.produced .gpio + frames ∧
      f'.handed = f.handed ∧ f'.pipe.setup = f.pipe.setup := by
  unfold applyDroppedFrames
  split
  · next hzero =>
    subst hzero
    rw [Nat.zero_mul] at hwhole
    obtain rfl : rawSamples = 0 := by omega
    obtain rfl : packerSamples = 0 := by omega
    refine ⟨f, ?_, hopen, rfl, rfl, rfl⟩
    unfold projected
    rw [sat64_zero, sat64_zero, sat64_zero]
    rfl
  · obtain ⟨hopen', hproduced, hhanded, hok⟩ := Feed.drops_spec hopen (UInt64.ofNat frames)
    dsimp only
    rw [if_neg (not_not.mpr hok)]
    refine ⟨_, rfl, hopen', ?_, hhanded, ?_⟩
    · rw [hproduced, Function.update_self, UInt64.toNat_ofNat_of_lt' (by
        have : u64Max < 2 ^ 64 := by decide
        exact lt_of_le_of_lt hfits this)]
    · exact (Pipeline.recordSourceFrameDrops_stays f.pipe .gpio _).setup

/-- The packer once the front of its queue went, framed or not. -/
def retired (x : GpioBatchPacker) (i : ℕ) (framed : Bool) : GpioBatchPacker :=
  let r := x.records i
  { x.projected r.droppedFramesBefore r.rawDropSamplesBefore r.packerDropSamplesBefore with
    records := Function.update x.records i {}
    readyQueue := x.readyQueue.drop 1
    fates := x.fates.set (r.firstSample / x.itemCount) (if framed then .framed else .unframed) }

theorem retired_queued {i : ℕ} {rest : List ℕ} (hqueue : x.readyQueue = i :: rest)
    (hnodup : x.readyQueue.Nodup) (framed : Bool) (g : BufferRecord → ℕ) :
    (x.retired i framed).queued g + g (x.records i) = x.queued g := by
  rw [hqueue, List.nodup_cons] at hnodup
  unfold queued
  show ((x.readyQueue.drop 1).map fun j => g (Function.update x.records i {} j)).sum + _ = _
  rw [hqueue, List.drop_one, List.tail_cons, List.map_cons, List.sum_cons, Nat.add_comm]
  congr 2
  refine List.map_congr_left fun j hj => ?_
  rw [Function.update_of_ne]
  rintro rfl
  exact hnodup.1 hj

theorem Queue.retired (h : Queue x) {i : ℕ} {rest : List ℕ} (hqueue : x.readyQueue = i :: rest)
    (hpos : 0 < x.itemCount) (framed : Bool) : Queue (x.retired i framed) := by
  have hmem : i ∈ x.readyQueue := by rw [hqueue]; exact List.mem_cons_self
  obtain ⟨j, hfirst, hfate⟩ := h.slots i hmem
  have hslot : (x.records i).firstSample / x.itemCount = j := by
    rw [hfirst, Nat.mul_div_cancel _ hpos]
  have hrest : (x.retired i framed).readyQueue = rest := by
    show x.readyQueue.drop 1 = rest
    rw [hqueue]
    rfl
  have hnodup := h.nodup
  have hdistinct := h.distinct
  rw [hqueue, List.nodup_cons] at hnodup
  rw [hqueue, List.map_cons, List.nodup_cons] at hdistinct
  have hin : ∀ k ∈ rest, k ∈ x.readyQueue := fun k hk => by
    rw [hqueue]
    exact List.mem_cons_of_mem _ hk
  have hrecords : ∀ k ∈ rest, (x.retired i framed).records k = x.records k := fun k hk =>
    Function.update_of_ne (by rintro rfl; exact hnodup.1 hk) _ _
  constructor
  · rw [hrest]
    exact hnodup.2
  · intro k hk
    rw [hrest] at hk
    rw [hrecords k hk]
    exact h.ready k (hin k hk)
  · intro k hk
    rw [hrest] at hk
    obtain ⟨l, hl, hwaiting⟩ := h.slots k (hin k hk)
    rw [hrecords k hk]
    refine ⟨l, hl, ?_⟩
    -- another frame of the queue starts elsewhere
    have hne : j ≠ l := by
      rintro rfl
      exact hdistinct.1 (List.mem_map.mpr ⟨k, hk, by rw [hl, hfirst]⟩)
    show (x.fates.set _ _)[l]? = _
    rw [hslot, List.getElem?_set_ne hne]
    exact hwaiting
  · rw [hrest]
    have hmap : (rest.map fun k => ((x.retired i framed).records k).firstSample) =
        rest.map fun k => (x.records k).firstSample :=
      List.map_congr_left fun k hk => by rw [hrecords k hk]
    rw [hmap]
    exact hdistinct.2
  · rw [hrest]
    obtain ⟨-, -, -, hwaiting, -⟩ := fates_set hfate framed
    have hcount := h.waiting
    rw [hqueue, List.length_cons] at hcount
    show waitingFrames (x.fates.set _ _) = rest.length
    rw [hslot]
    omega
  · intro k hk
    rw [hrest] at hk
    rw [hrecords k hk]
    exact h.whole k (hin k hk)

theorem Sound.retired (h : Sound 0 0 x) {i : ℕ} {rest : List ℕ} (hqueue : x.readyQueue = i :: rest)
    (framed : Bool) : Sound 0 0 (x.retired i framed) := by
  have hmem : i ∈ x.readyQueue := by rw [hqueue]; exact List.mem_cons_self
  have hpos := h.current.itemCount.1
  obtain ⟨j, hfirst, hfate⟩ := h.queue.slots i hmem
  have hslot : (x.records i).firstSample / x.itemCount = j := by
    rw [hfirst, Nat.mul_div_cancel _ hpos]
  have hwhole := h.queue.whole i hmem
  have hqueued := retired_queued hqueue h.queue.nodup framed
  obtain ⟨hlost, -, hspread, hspent, hall⟩ := h.bounds
  have hcounts := length_fates x.fates
  have htiled := h.positions.tiled
  have hbound := h.positions.bound
  obtain ⟨hparts, hprepacket, hpending, hprojected, hcount, hraw, hpacker, htotal, hrawTotal,
    hpackerTotal⟩ := h.losses
  obtain ⟨s1, s2, s3, s4, s5, s6⟩ := fates_set hfate framed
  have hfates : (x.retired i framed).fates =
      x.fates.set j (if framed then .framed else .unframed) := by
    show x.fates.set _ _ = _
    rw [hslot]
  have hlength : (x.retired i framed).fates.length = x.fates.length := by
    rw [hfates, List.length_set]
  have q1 := hqueued BufferRecord.droppedFramesBefore
  have q2 := hqueued BufferRecord.rawDropSamplesBefore
  have q3 := hqueued BufferRecord.packerDropSamplesBefore
  have e1 : sat64 x.prepacketFramesProjected (x.records i).droppedFramesBefore =
      x.prepacketFramesProjected + (x.records i).droppedFramesBefore := sat64_eq (by omega)
  have e2 : sat64 x.progress.rawDropSamplesProjected (x.records i).rawDropSamplesBefore =
      x.progress.rawDropSamplesProjected + (x.records i).rawDropSamplesBefore := sat64_eq (by omega)
  have e3 : sat64 x.progress.packerDropSamplesProjected (x.records i).packerDropSamplesBefore =
      x.progress.packerDropSamplesProjected + (x.records i).packerDropSamplesBefore :=
    sat64_eq (by omega)
  refine ⟨h.queue.retired hqueue hpos framed, { h.current with filling := ?_ }, ?_, ?_⟩
  · intro b hb
    obtain ⟨hlt, hstate, hvalid⟩ := h.current.filling b hb
    have hne : b ≠ i := fun e => h.queue.apart (b := b) (by rw [hstate]; decide) i hmem e.symm
    refine ⟨hlt, ?_, hvalid⟩
    show (Function.update x.records i {} b).state = _
    rw [Function.update_of_ne hne]
    exact hstate
  · refine { h.positions with
      frames := ?_, packed := ?_, tiled := ?_, unfinished := ?_, running := ?_ }
    · rw [hlength]
      exact h.positions.frames
    · rw [hfates]
      have := h.positions.packed
      show x.progress.framesPacked = _
      have hone : framed.toNat + (!framed).toNat = 1 := by cases framed <;> rfl
      omega
    · rw [hlength]
      exact htiled
    · rw [hlength]
      exact h.positions.unfinished
    · rw [hlength]
      exact h.positions.running
  · constructor
    · intro raw packer hin
      rw [hfates] at hin
      rcases List.mem_or_eq_of_mem_set hin with hold | hnew
      · exact hparts raw packer hold
      · cases framed <;> cases hnew
    · rw [hfates, s3]
      exact hprepacket
    · exact hpending
    · show sat64 _ _ + sat64 _ _ = sat64 _ _ * x.itemCount
      rw [e1, e2, e3, Nat.add_mul]
      omega
    · rw [hfates, s3]
      show x.pendingDroppedFrames + _ + sat64 _ _ = _
      omega
    · rw [hfates, s1]
      show x.pendingRawDropSamples + _ + sat64 _ _ = _
      omega
    · rw [hfates, s2]
      show x.pendingPackerDropSamples + _ + sat64 _ _ = _
      omega
    · have hunfinished : (x.retired i framed).lostUnfinished = x.lostUnfinished := by
        unfold lostUnfinished
        rw [hlength]
        rfl
      rw [hfates, s1, s2, hunfinished]
      exact htotal
    · rw [hfates, s1]
      exact hrawTotal
    · rw [hfates, s2]
      exact hpackerTotal

/-- However the fill ended, the front leaves the queue. -/
theorem settle_cases (x : GpioBatchPacker) {i : ℕ} (hi : i < kGpioPackedRingDepth)
    (status : ThingDaq.OperationStatus) (framed : Bool) (report : ServiceReport) :
    ∃ a b c g, (x.settle i status framed report).1 =
      { x.retire i (if framed then .framed else .unframed) with
        sourceErrors := a
        pipelineErrors := b
        chronologyErrors := c
        packetGapPending := g } := by
  have hnoted : ∀ fate, (x.noteChronologyError.noteSourceError).retire i fate =
      { x.retire i fate with
        sourceErrors := x.noteChronologyError.noteSourceError.sourceErrors
        chronologyErrors := x.noteChronologyError.chronologyErrors } := by
    intro fate
    unfold retire recycle
    rw [if_neg (by omega), if_neg (by omega)]
    rfl
  unfold settle
  dsimp only
  generalize (decide (status = .ok) && !x.timestampValid (x.records i).firstSample) = mistimed
  cases mistimed <;> cases framed <;> simp only [if_true, if_false, Bool.false_eq_true]
  · split
    · exact ⟨_, _, _, _, rfl⟩
    · exact ⟨_, _, _, _, rfl⟩
  · exact ⟨_, _, _, _, rfl⟩
  · rw [hnoted]
    split
    · exact ⟨_, _, _, _, rfl⟩
    · exact ⟨_, _, _, _, rfl⟩
  · rw [hnoted]
    exact ⟨_, _, _, _, rfl⟩

theorem Linked.annotate (h : Linked x f) (sourceErrors pipelineErrors chronologyErrors serviceCalls
    : ℕ) (packetGapPending : Bool) : Linked { x with
      sourceErrors := sourceErrors
      pipelineErrors := pipelineErrors
      chronologyErrors := chronologyErrors
      serviceCalls := serviceCalls
      packetGapPending := packetGapPending } f := { h with }

theorem retire_retired (x : GpioBatchPacker) {i : ℕ} (hi : i < kGpioPackedRingDepth)
    (framed : Bool) :
    ((x.projected (x.records i).droppedFramesBefore (x.records i).rawDropSamplesBefore
      (x.records i).packerDropSamplesBefore).setRecord i { x.records i with
        droppedFramesBefore := 0
        rawDropSamplesBefore := 0
        packerDropSamplesBefore := 0
        state := .framing }).retire i (if framed then .framed else .unframed) =
      x.retired i framed := by
  unfold retire recycle
  rw [if_neg (by omega)]
  unfold setRecord
  dsimp only
  rw [Function.update_idem, Function.update_self]
  rfl

/-- What is true between two calls, of a packer and the pipeline it feeds. -/
structure Accounts (x : GpioBatchPacker) (f : Feed) : Prop where
  sound : Sound 0 0 x
  open_ : x.currentFrameSamples < x.itemCount
  linked : Linked x f

/-- The front of the queue leaves it, and the pipeline numbers its frame. -/
theorem Linked.retired (h : Linked x f) (hsound : Sound 0 0 x) {i : ℕ} {rest : List ℕ}
    (hqueue : x.readyQueue = i :: rest) {f' f'' : Feed} {good framed : Bool} {payload : Bytes}
    {completion : UInt32 → FrameCompletion} (hopen : f''.Open .gpio runId checksum)
    (hlost : f'.produced .gpio = f.produced .gpio + (x.records i).droppedFramesBefore)
    (hhanded : f'.handed = f.handed) (hsetup : f''.pipe.setup = f.pipe.setup)
    (hticks : ∀ sequence, (completion sequence).firstSampleTicks = UInt64.ofNat
      ((x.records i).firstSample * (x.layout.streams .gpio).itemPeriodTicks))
    (hfilled : Feed.Filled .gpio good payload completion f' f'' framed) :
    Linked (x.retired i framed) f'' := by
  have hmem : i ∈ x.readyQueue := by rw [hqueue]; exact List.mem_cons_self
  have hpos := hsound.current.itemCount.1
  obtain ⟨j, hfirst, hfate⟩ := hsound.queue.slots i hmem
  have hslot : (x.records i).firstSample / x.itemCount = j := by
    rw [hfirst, Nat.mul_div_cancel _ hpos]
  have hfates : (x.retired i framed).fates =
      x.fates.set j (if framed then .framed else .unframed) := by
    show x.fates.set _ _ = _
    rw [hslot]
  obtain ⟨-, -, -, -, hframed, hunframed⟩ := fates_set hfate framed
  have hbounds := hsound.bounds
  have hcounts := hsound.losses.frames
  have hin := retired_queued hqueue hsound.queue.nodup framed BufferRecord.droppedFramesBefore
  have hroom := hsound.positions.room hpos
  have hprojected : sat64 x.prepacketFramesProjected (x.records i).droppedFramesBefore =
      x.prepacketFramesProjected + (x.records i).droppedFramesBefore := by
    refine sat64_eq ?_
    have := hbounds.frames
    omega
  have hone : framed.toNat + (!framed).toNat = 1 := by cases framed <;> rfl
  have hlt := (List.getElem?_eq_some_iff.mp hfate).1
  refine ⟨hopen.reach, by rw [hsetup]; exact h.layout, runs_of_open hopen, h.payload, ?_, ?_, ?_⟩
  · rw [hfilled.produced, Function.update_self, hlost, h.numbers, hfates, hframed, hunframed]
    show _ = sat64 _ _ + _ + _
    omega
  · rw [hfates, hframed]
    rcases hfilled.handed with ⟨hsame, haccepted⟩ | ⟨-, hpush⟩
    · rw [hsame, hhanded, h.handed, haccepted]
      rfl
    · rw [hpush, hhanded, List.countP_cons, h.handed]
      cases framed <;> rfl
  · obtain ⟨js, hnodup, hmem, hold⟩ := h.grid
    have hnew : j ∉ js := fun hin => by
      have hframed := (hmem j).mp hin
      rw [hfate] at hframed
      cases hframed
    have hset : ∀ k, (x.retired i framed).fates[k]? = some .framed ↔
        framed = true ∧ k = j ∨ k ∈ js := fun k => by
      rw [hfates, framed_set hfate, hmem k]
    rcases hfilled.handed with ⟨hsame, haccepted⟩ | ⟨-, hpush⟩
    · refine ⟨js, hnodup, fun k => ?_, by rw [hsame, hhanded]; exact hold⟩
      rw [hset, haccepted]
      exact (or_iff_right fun hnew => Bool.false_ne_true hnew.1).symm
    · cases framed with
      | false =>
        refine ⟨js, hnodup, fun k => ?_, by rw [hpush, hhanded]; exact hold⟩
        rw [hset]
        exact (or_iff_right fun hnew => Bool.false_ne_true hnew.1).symm
      | true =>
        refine ⟨j :: js, List.nodup_cons.mpr ⟨hnew, hnodup⟩, fun k => ?_, ?_⟩
        · rw [hset, List.mem_cons, eq_self_iff_true, true_and]
        · rw [hpush, hhanded, List.filter_cons_of_pos rfl, List.map_cons, List.map_cons, hold]
          refine congrArg (· :: _) ?_
          show (completion _).firstSampleTicks =
            UInt64.ofNat (j * x.itemCount * (x.layout.streams .gpio).itemPeriodTicks)
          rw [← hfirst]
          exact hticks _

theorem Accounts.packetizeOne (h : Accounts x f) (hopen : f.Open .gpio runId checksum)
    (hne : x.readyQueue ≠ []) (report : ServiceReport) :
    (x.packetizeOne f report).2.2.2 = true ∧
      Accounts (x.packetizeOne f report).1 (x.packetizeOne f report).2.1 ∧
      (x.packetizeOne f report).2.1.Open .gpio runId checksum ∧
      (x.packetizeOne f report).1.running = x.running := by
  obtain ⟨i, rest, hqueue⟩ := List.exists_cons_of_ne_nil hne
  have hmem : i ∈ x.readyQueue := by rw [hqueue]; exact List.mem_cons_self
  obtain ⟨hi, hstate⟩ := h.sound.queue.ready i hmem
  have hpos := h.sound.current.itemCount.1
  have hin := retired_queued hqueue h.sound.queue.nodup true BufferRecord.droppedFramesBefore
  have hcounts := h.sound.losses.frames
  have hroom := h.sound.positions.room hpos
  have hframes := h.sound.bounds.frames
  obtain ⟨f', happlied, hopen', hproduced, hhanded, hsetup⟩ := applyDropped_spec hopen
    (x.records i).droppedFramesBefore _ _ (by omega) (h.sound.queue.whole i hmem)
  unfold GpioBatchPacker.packetizeOne
  rw [hqueue]
  dsimp only
  rw [if_neg (by omega), if_neg (not_not.mpr hstate), happlied]
  simp only [Bool.not_true, Bool.false_eq_true, if_false]
  generalize hcleared : (x.projected _ _ _).setRecord i _ = cleared
  have hretired : ∀ framed : Bool, cleared.retire i (if framed then .framed else .unframed) =
      x.retired i framed := by
    rw [← hcleared]
    exact retire_retired x hi
  have hlayout : cleared.layout = x.layout := by rw [← hcleared]; rfl
  have hfirst : (cleared.records i).firstSample = (x.records i).firstSample := by
    rw [← hcleared]
    show (Function.update x.records i _ i).firstSample = _
    rw [Function.update_self]
  have hlen : ((cleared.buffers i).bytes.take (cleared.layout.streams .gpio).payloadBytes).length =
      (cleared.layout.streams .gpio).payloadBytes := by
    rw [List.length_take, (cleared.buffers i).size_eq, hlayout]
    exact Nat.min_eq_left h.linked.payload
  obtain ⟨hopen'', hfilled⟩ := Feed.fill_spec hopen'
    (cleared.timestampValid (cleared.records i).firstSample) hlen
    (cleared.completion ((cleared.records i).gapBefore || cleared.packetGapPending)
      (cleared.records i).firstSample)
  have hkeeps := (Feed.fill_keeps hopen'.reach .gpio
    (cleared.timestampValid (cleared.records i).firstSample) hlen
    (cleared.completion ((cleared.records i).gapBefore || cleared.packetGapPending)
      (cleared.records i).firstSample)).2.1
  obtain ⟨a, b, c, g, hsettled⟩ := settle_cases cleared hi (cleared.fillFrame f' i).2.1
    (cleared.fillFrame f' i).2.2 report
  rw [hretired] at hsettled
  rw [hsettled]
  have hlinked : Linked (x.retired i (cleared.fillFrame f' i).2.2) (cleared.fillFrame f' i).1 := by
    refine h.linked.retired h.sound hqueue hopen'' hproduced hhanded (hkeeps.setup.trans hsetup)
      (fun sequence => ?_) hfilled
    show UInt64.ofNat ((cleared.records i).firstSample *
      (cleared.layout.streams .gpio).itemPeriodTicks) = _
    rw [hfirst, hlayout]
  exact ⟨trivial, ⟨(h.sound.retired hqueue _).annotate .., h.open_, hlinked.annotate ..⟩, hopen'',
    rfl⟩

/-- The frames that the queue holds go to the pipeline. -/
theorem Accounts.packetizeLoop (frameLimit fuel : ℕ) : ∀ {x : GpioBatchPacker} {f : Feed}
    (report : ServiceReport), Accounts x f → f.Open .gpio runId checksum →
    Accounts (packetizeLoop frameLimit fuel x f report).1
        (packetizeLoop frameLimit fuel x f report).2.1 ∧
      (packetizeLoop frameLimit fuel x f report).2.1.Open .gpio runId checksum ∧
      (packetizeLoop frameLimit fuel x f report).1.running = x.running := by
  induction fuel with
  | zero => exact fun _ h hopen => ⟨h, hopen, rfl⟩
  | succ fuel ih =>
    intro x f report h hopen
    unfold GpioBatchPacker.packetizeLoop
    split
    · next hmore =>
      have hne : x.readyQueue ≠ [] := by
        rintro hnil
        rw [hnil] at hmore
        simp at hmore
      obtain ⟨htaken, hkept, hopen', hrun⟩ := h.packetizeOne hopen hne report
      dsimp only
      rw [if_pos htaken]
      obtain ⟨hend, hopen'', hrest⟩ := ih (x.packetizeOne f report).2.2.1 hkept hopen'
      exact ⟨hend, hopen'', hrest.trans hrun⟩
    · exact ⟨h, hopen, rfl⟩

theorem Accounts.packetize (h : Accounts x f) (hopen : f.Open .gpio runId checksum)
    (frameLimit : ℕ) (report : ServiceReport) :
    Accounts (x.packetize frameLimit f report).1 (x.packetize frameLimit f report).2.1 ∧
      (x.packetize frameLimit f report).2.1.Open .gpio runId checksum ∧
      (x.packetize frameLimit f report).1.running = x.running :=
  Accounts.packetizeLoop frameLimit _ report h hopen

theorem Going.accounts (h : Going 0 x) (hlinked : Linked x f) : Accounts x f :=
  ⟨h.sound, h.open_, hlinked⟩

/-- Raw buffers come in, and packed frames go out. -/
theorem Accounts.rawLoop (rawBufferLimit frameLimit : ℕ) (source : List Acquired) :
    ∀ {x : GpioBatchPacker} {f : Feed} (report : ServiceReport), Accounts x f →
    f.Open .gpio runId checksum → x.running = true →
    Accounts (rawLoop rawBufferLimit frameLimit source x f report).1
        (rawLoop rawBufferLimit frameLimit source x f report).2.1 ∧
      (rawLoop rawBufferLimit frameLimit source x f report).2.1.Open .gpio runId checksum := by
  induction source with
  | nil => exact fun _ h hopen _ => ⟨h, hopen⟩
  | cons a source ih =>
    intro x f report h hopen hrun
    have hgoing : Going 0 x := ⟨h.sound, hrun, h.open_⟩
    unfold GpioBatchPacker.rawLoop
    split
    · exact ⟨h, hopen⟩
    split
    · exact ⟨h, hopen⟩
    split
    · exact ⟨⟨h.sound.annotate .., h.open_, h.linked.annotate ..⟩, hopen⟩
    obtain ⟨htaken, k, hfurther⟩ := hgoing.takeBuffer a report
    have hkept := htaken.accounts (h.linked.further hfurther)
    dsimp only
    split
    · exact ⟨hkept, hopen⟩
    obtain ⟨hframed, hopen', hsame⟩ := hkept.packetize hopen frameLimit (x.takeBuffer a report).2.1
    exact ih _ hframed hopen' (hsame.trans htaken.running)

/-- The packer once the losses behind the last frame went to the pipeline. -/
def flushed (x : GpioBatchPacker) : GpioBatchPacker :=
  { x.projected x.pendingDroppedFrames x.pendingRawDropSamples x.pendingPackerDropSamples with
    pendingDroppedFrames := 0
    pendingRawDropSamples := 0
    pendingPackerDropSamples := 0
    inputGapPending := false }

theorem Sound.flushed (h : Sound 0 0 x) : Sound 0 0 x.flushed := by
  obtain ⟨hlost, hframes, hspread, hspent, -⟩ := h.bounds
  have htiled := h.positions.tiled
  have hbound := h.positions.bound
  obtain ⟨hparts, hprepacket, hpending, hprojected, hcount, hraw, hpacker, htotal, hrawTotal,
    hpackerTotal⟩ := h.losses
  have e1 : sat64 x.prepacketFramesProjected x.pendingDroppedFrames =
      x.prepacketFramesProjected + x.pendingDroppedFrames := sat64_eq (by omega)
  have e2 : sat64 x.progress.rawDropSamplesProjected x.pendingRawDropSamples =
      x.progress.rawDropSamplesProjected + x.pendingRawDropSamples := sat64_eq (by omega)
  have e3 : sat64 x.progress.packerDropSamplesProjected x.pendingPackerDropSamples =
      x.progress.packerDropSamplesProjected + x.pendingPackerDropSamples := sat64_eq (by omega)
  refine ⟨{ h.queue with }, { h.current with }, { h.positions with },
    { h.losses with pending := ?_, projected := ?_, frames := ?_, raw := ?_, packer := ?_ }⟩
  · exact (Nat.zero_mul _).symm
  · show sat64 _ _ + sat64 _ _ = sat64 _ _ * x.itemCount
    rw [e1, e2, e3, Nat.add_mul]
    omega
  · show 0 + x.queued _ + sat64 _ _ = invalidFrames x.fates
    omega
  · show 0 + x.queued _ + sat64 _ _ = lostRaw x.fates
    omega
  · show 0 + x.queued _ + sat64 _ _ = lostPacker x.fates
    omega

theorem Accounts.finishService (h : Accounts x f) (hopen : f.Open .gpio runId checksum)
    (frameLimit : ℕ) (report : ServiceReport) :
    Accounts (x.finishService frameLimit f report).1
      (x.finishService frameLimit f report).2.1 := by
  unfold GpioBatchPacker.finishService
  dsimp only
  split
  · obtain ⟨-, hframes, hspread, -, -⟩ := h.sound.bounds
    have htiled := h.sound.positions.tiled
    have hbound := h.sound.positions.bound
    have hcount := h.sound.losses.frames
    obtain ⟨f', happlied, hopen', hproduced, hhanded, hsetup⟩ := applyDropped_spec hopen
      x.pendingDroppedFrames _ _ (by omega) h.sound.losses.pending
    have hflushed : x.flushTrailingDrops f = (x.flushed, f', true) := by
      unfold flushTrailingDrops
      rw [happlied]
      rfl
    rw [hflushed]
    refine ⟨h.sound.flushed, h.open_, { h.linked with
      reach := hopen'.reach, layout := ?_, run := runs_of_open hopen', numbers := ?_
      handed := ?_, grid := ?_ }⟩
    · rw [if_pos rfl, hsetup]
      exact h.linked.layout
    · rw [if_pos rfl, hproduced, h.linked.numbers]
      show _ = sat64 _ _ + _ + _
      rw [sat64_eq (by omega)]
      show _ = _ + _ + framedFrames x.fates + unframedFrames x.fates
      omega
    · rw [if_pos rfl, hhanded]
      exact h.linked.handed
    · rw [if_pos rfl, hhanded]
      exact h.linked.grid
  · exact h

theorem Accounts.service (h : Accounts x f) (source : List Acquired)
    (rawBufferLimit frameLimit : ℕ) :
    Accounts (x.service source rawBufferLimit frameLimit f).1
      (x.service source rawBufferLimit frameLimit f).2.1 := by
  have hcounted : Accounts { x with serviceCalls := sat64 x.serviceCalls 1 } f :=
    ⟨h.sound.annotate .., h.open_, h.linked.annotate ..⟩
  unfold GpioBatchPacker.service
  dsimp only
  split
  · exact ⟨hcounted.sound.annotate .., h.open_, hcounted.linked.annotate ..⟩
  · next haccepts =>
    have haccepts : f.pipe.accepts .gpio x.runId x.checksumAlgorithm = true := by
      simpa using haccepts
    have hrunId : f.pipe.runId = x.runId := by
      have hall := haccepts
      simp only [Pipeline.accepts, Bool.and_eq_true, decide_eq_true_eq] at hall
      exact hall.1.1.2
    have hopen : f.Open .gpio x.runId x.checksumAlgorithm :=
      ⟨h.linked.reach, haccepts, hrunId ▸ h.linked.run⟩
    obtain ⟨hframed, hopen', -⟩ := hcounted.packetize hopen frameLimit {}
    generalize ({ x with serviceCalls := sat64 x.serviceCalls 1 } : GpioBatchPacker).packetize
      frameLimit f {} = framed at *
    have hworked : ∀ worked : GpioBatchPacker × Feed × ServiceReport, Accounts worked.1 worked.2.1 →
        worked.2.1.Open .gpio x.runId x.checksumAlgorithm →
        Accounts ((worked.1.packetize frameLimit worked.2.1 worked.2.2).1.finishService frameLimit
            (worked.1.packetize frameLimit worked.2.1 worked.2.2).2.1
            (worked.1.packetize frameLimit worked.2.1 worked.2.2).2.2).1
          ((worked.1.packetize frameLimit worked.2.1 worked.2.2).1.finishService frameLimit
            (worked.1.packetize frameLimit worked.2.1 worked.2.2).2.1
            (worked.1.packetize frameLimit worked.2.1 worked.2.2).2.2).2.1 := by
      intro worked hkept hopened
      obtain ⟨hdrained, hopen'', -⟩ := hkept.packetize hopened frameLimit worked.2.2
      exact hdrained.finishService hopen'' frameLimit _
    cases hrun : framed.1.running with
    | true =>
      obtain ⟨hraw, hopen''⟩ := Accounts.rawLoop rawBufferLimit frameLimit source framed.2.2
        hframed hopen' hrun
      exact hworked (_, _, _) hraw hopen''
    | false => exact hworked framed hframed hopen'

/-! ### The end of a run -/

theorem invalidate_stopped (x : GpioBatchPacker) :
    ({ x with running := false } : GpioBatchPacker).invalidateCurrentFrame =
      { x.invalidateCurrentFrame with running := false } := by
  unfold invalidateCurrentFrame recycle
  dsimp only
  split
  · rfl
  · cases x.fillingBuffer with
    | none => rfl
    | some b =>
      dsimp only
      split <;> rfl

/-- Between two frames there is nothing to give up. -/
theorem Sound.rest (h : Sound 0 0 x) (hempty : x.currentFrameSamples = 0) :
    Sound 0 0 { x with running := false } := by
  refine ⟨{ h.queue with }, { h.current with },
    { h.positions with running := fun hgoing => (by cases hgoing), stopped := fun _ => hempty },
    { h.losses with total := ?_ }⟩
  rw [lostUnfinished_stopped rfl]
  show x.progress.rawGapSamples + x.progress.packerDropSamples = lostRaw x.fates +
    lostPacker x.fates + (x.nextSourceSample - x.fates.length * x.itemCount) + 0
  have htotal := h.losses.total
  unfold lostUnfinished at htotal
  split at htotal
  · next hgoing =>
    rw [Bool.and_eq_true] at hgoing
    have hplace := h.positions.running hgoing.1
    omega
  · exact htotal

/-- The unfinished frame is given up. -/
theorem Sound.giveUp (h : Sound 0 0 x) (hinvalid : x.currentFrameInvalid = true) :
    Sound 0 0 { x.resetCurrentFrame with running := false } := by
  have htotal := h.losses.total
  rw [lostUnfinished_invalid hinvalid] at htotal
  have hrawTotal := h.losses.rawTotal
  have hpackerTotal := h.losses.packerTotal
  refine ⟨{ h.queue with }, ⟨h.current.itemCount, fun _ hnone => (by cases hnone),
      fun hlt => absurd hlt (Nat.lt_irrefl 0), Nat.zero_le _, rfl⟩,
    { h.positions with running := fun hgoing => (by cases hgoing), stopped := fun _ => rfl },
    { h.losses with total := ?_, rawTotal := ?_, packerTotal := ?_ }⟩
  · rw [lostUnfinished_stopped rfl]
    show x.progress.rawGapSamples + x.progress.packerDropSamples = lostRaw x.fates +
      lostPacker x.fates + (x.nextSourceSample - x.fates.length * x.itemCount) + 0
    omega
  · show lostRaw x.fates + 0 + 0 ≤ x.progress.rawGapSamples
    omega
  · show lostPacker x.fates + 0 ≤ x.progress.packerDropSamples
    omega

theorem stopProduction_eq (x : GpioBatchPacker) : x.stopProduction.1 =
    if x.currentFrameSamples = 0 then { x with running := false }
    else { x.invalidateCurrentFrame.resetCurrentFrame with running := false } := by
  by_cases hempty : x.currentFrameSamples = 0
  · rw [if_pos hempty]
    unfold stopProduction
    dsimp only
    rw [if_neg (not_not.mpr hempty)]
  · rw [if_neg hempty]
    unfold stopProduction
    dsimp only
    rw [if_pos hempty]
    exact congrArg resetCurrentFrame (invalidate_stopped x)

theorem Accounts.stopProduction (h : Accounts x f) : Accounts x.stopProduction.1 f := by
  rw [stopProduction_eq]
  split
  · next hempty => exact ⟨h.sound.rest hempty, h.open_, { h.linked with }⟩
  · next hsome =>
    have hrun : x.running = true := by
      by_contra hstopped
      exact hsome (h.sound.positions.stopped (Bool.eq_false_iff.mpr hstopped))
    have hplace := invalidate_samePlace x
    have hfurther : Further 0 x
        { x.invalidateCurrentFrame.resetCurrentFrame with running := false } :=
      hplace.further rfl hplace.nextSourceSample rfl (List.append_nil _).symm rfl rfl
    exact ⟨(h.sound.invalidate hrun).giveUp (invalidate_invalid x),
      (h.sound.invalidate hrun).current.itemCount.1, h.linked.further hfurther⟩

/-- What the other callers do to the pipeline is none of the packer's business. -/
theorem Accounts.other (h : Accounts x f) {op : Op} (hforeign : op.foreign producer.feeds = true)
    (hguard : f.tracked.Guard anyCaller op) : Accounts x (f.call op) := by
  have hlater : Pipeline.Later f.pipe (f.call op).pipe := by
    refine f.tracked.step_later fun runId checksum mask layout => ?_
    rintro rfl
    cases hforeign
  refine ⟨h.sound, h.open_, { h.linked with
    reach := Feed.reach_call op h.linked.reach hguard, layout := ?_, run := ?_, numbers := ?_ }⟩
  · rw [hlater.setup]
    exact h.linked.layout
  · rw [hlater.runId]
    exact h.linked.run
  · rw [f.call_foreign hforeign (s := .gpio) rfl]
    exact h.linked.numbers

/-- The accounts of a whole run. -/
theorem Accounts.run (h : Accounts x f) {turns : List (Turn Event)}
    (hfair : producer.Fair (fun _ _ => True) (x, f) turns) :
    Accounts (producer.run (x, f) turns).1 (producer.run (x, f) turns).2 := by
  refine producer.run_rule (I := Accounts) ?_ (fun _ _ _ h => h.other) h hfair
  intro x f event h _
  cases event with
  | service source rawBufferLimit frameLimit => exact h.service source rawBufferLimit frameLimit
  | stopProduction => exact h.stopProduction

/-! ### The start of a run -/

/-- START: the pipeline begins a run, and the packer after it. -/
def start (x : GpioBatchPacker) (f : Feed) (runId : UInt32) (checksum : ChecksumAlgorithm)
    (mask : UInt8) (layout : RunLayout) (startEpochTicks : ℕ) : GpioBatchPacker × Feed :=
  let started := f.call (.startRun runId checksum mask layout)
  ((x.startRun runId checksum started.pipe startEpochTicks).1, started)

/-- Both accept the run, and nothing was handed over before. -/
structure Starts (x : GpioBatchPacker) (f : Feed) (runId : UInt32) (checksum : ChecksumAlgorithm)
    (mask : UInt8) (layout : RunLayout) (startEpochTicks : ℕ) : Prop where
  reach : Reach anyCaller f.tracked
  handed : f.handed = []
  packet : (f.pipe.startRun runId checksum mask layout).2 = .ok
  packer : (x.startRun runId checksum (x.start f runId checksum mask layout startEpochTicks).2.pipe
    startEpochTicks).2 = .ok

section Start

variable {mask : UInt8} {layout : RunLayout} {startEpochTicks : ℕ} {pipeline : Pipeline}

theorem startRun_ok (hok : (x.startRun runId checksum pipeline startEpochTicks).2 = .ok) :
    runId ≠ 0 ∧ pipeline.runId = runId ∧ pipeline.setup.layout.valid = true ∧
      (pipeline.setup.layout.streams .gpio).itemBytes = 1 ∧
      (pipeline.setup.layout.streams .gpio).payloadBytes ≤ kDataPayloadBytes ∧
      (x.startRun runId checksum pipeline startEpochTicks).1 =
        { buffers := x.buffers
          runId := runId
          checksumAlgorithm := checksum
          layout := pipeline.setup.layout
          startEpochTicks := startEpochTicks
          running := true } := by
  unfold startRun at hok ⊢
  dsimp only at hok ⊢
  split at hok
  · cases hok
  next hrun =>
  split at hok
  · cases hok
  next hquiet =>
  split at hok
  · cases hok
  next hready =>
  split at hok
  · cases hok
  next hlayout =>
  rw [if_neg hrun, if_neg hquiet, if_neg hready, if_neg hlayout]
  simp only [Bool.or_eq_true, decide_eq_true_eq, not_or, Bool.not_eq_true', Bool.not_eq_false,
    not_not, not_lt, ne_eq] at hrun hready hlayout
  obtain ⟨⟨⟨⟨hvalid, -⟩, -⟩, hbytes⟩, hpayload⟩ := hlayout
  have haccepts := hready.1
  simp only [Pipeline.accepts, Bool.and_eq_true, decide_eq_true_eq] at haccepts
  exact ⟨hrun.1, haccepts.1.1.2, hvalid, hbytes, hpayload, rfl⟩

/-- A run starts with nothing to account for. -/
theorem Starts.accounts (h : Starts x f runId checksum mask layout startEpochTicks) :
    Accounts (x.start f runId checksum mask layout startEpochTicks).1
      (x.start f runId checksum mask layout startEpochTicks).2 := by
  obtain ⟨hrun, hpipe, hvalid, hbytes, hpayload, heq⟩ := startRun_ok h.packer
  have hfirst : (x.start f runId checksum mask layout startEpochTicks).1 = _ := heq
  rw [hfirst]
  have hframe := FrameLayout.valid_iff.mp (RunLayout.frameLayout_valid hvalid .gpio)
  have hpos := RunLayout.itemCount_pos hvalid .gpio
  have hitems : ((x.start f runId checksum mask layout startEpochTicks).2.pipe.setup.layout.streams
      .gpio).itemCount ≤ kDataPayloadBytes := by
    have hsize := hframe.2.1
    rw [hbytes, Nat.mul_one] at hsize
    exact hsize ▸ hpayload
  have hproduced : (x.start f runId checksum mask layout startEpochTicks).2.produced .gpio = 0 := by
    have hhistory : (x.start f runId checksum mask layout startEpochTicks).2.tracked.history = {} :=
      if_pos h.packet
    unfold Feed.produced
    rw [hhistory]
  refine ⟨⟨⟨List.nodup_nil, fun _ hi => absurd hi List.not_mem_nil,
      fun _ hi => absurd hi List.not_mem_nil, List.nodup_nil, rfl,
      fun _ hi => absurd hi List.not_mem_nil⟩,
    ⟨⟨hpos, hitems⟩, fun _ hnone => (by cases hnone), fun hlt => absurd hlt (Nat.lt_irrefl 0),
      Nat.zero_le _, rfl⟩, ?_, ?_⟩, hpos, ?_⟩
  · exact ⟨rfl, Nat.zero_le _, rfl, rfl, (Nat.zero_mul _).le, Nat.zero_le _,
      fun _ => Nat.zero_mul _, fun hstop => (by cases hstop)⟩
  · exact ⟨fun _ _ hmem => absurd hmem List.not_mem_nil, rfl, (Nat.zero_mul _).symm,
      (Nat.zero_mul _).symm, rfl, rfl, rfl, rfl, le_rfl, le_rfl⟩
  · refine ⟨Feed.reach_call (.startRun runId checksum mask layout) h.reach trivial, rfl,
      by rw [hpipe]; exact hrun, hpayload, hproduced, ?_, [], List.nodup_nil, fun j => ?_, ?_⟩
    · show f.handed.countP _ = 0
      rw [h.handed]
      rfl
    · exact ⟨fun hmem => absurd hmem List.not_mem_nil, fun hnone => (by cases hnone)⟩
    · show (f.handed.filter _).map _ = []
      rw [h.handed]
      rfl

end Start

/-! ### Positions -/

/-- How many positions of the stream lie in frames of a fate; `none` is the unfinished frame. -/
def positions (x : GpioBatchPacker) (fate : Option Fate → Bool) : ℕ :=
  countTo x.nextSourceSample fun i => fate x.fates[i / x.itemCount]?

theorem Sound.positions_eq (h : Sound p d x) (fate : Option Fate → Bool) :
    x.positions fate = (x.fates.countP fun a => fate (some a)) * x.itemCount +
      if fate none then x.nextSourceSample - x.fates.length * x.itemCount else 0 := by
  unfold GpioBatchPacker.positions
  have hblocks := countTo_blocks x.fates h.current.itemCount.1
    (x.nextSourceSample - x.fates.length * x.itemCount) fate
  rw [Nat.add_sub_cancel' h.positions.tiled] at hblocks
  exact hblocks

/-- Every position is in one place, and the packer counts it there. -/
structure Counted (x : GpioBatchPacker) (f : Feed) : Prop where
  produced : x.progress.samplesProduced = x.nextSourceSample
  places : x.positions (· = some .framed) + x.positions (· = some .unframed) +
    x.positions (· = some .waiting) + x.positions (·.any Fate.isInvalid) +
    x.positions (·.isNone) = x.progress.samplesProduced
  framed : x.positions (· = some .framed) = f.handed.countP (·.accepted) * x.itemCount
  /-- The frames that the pipeline took are the framed ones, each once. -/
  starts : ∃ js : List ℕ, js.Nodup ∧ (∀ j, j ∈ js ↔ x.fates[j]? = some .framed) ∧
    (f.handed.filter (·.accepted)).map (fun h => h.completion.firstSampleTicks) =
      js.map fun j => UInt64.ofNat (j * x.itemCount * (x.layout.streams .gpio).itemPeriodTicks)
  waiting : x.positions (· = some .waiting) = x.readyQueue.length * x.itemCount
  dropped : x.positions (·.any Fate.isInvalid) + x.lostUnfinished =
    x.progress.rawGapSamples + x.progress.packerDropSamples
  unfinished : x.positions (·.isNone) =
    if x.running then x.currentFrameSamples else x.lostUnfinished
  open_ : x.currentFrameSamples < x.itemCount

/-- What the packer, the pipeline and STATUS report together. -/
structure Projected (x : GpioBatchPacker) (f : Feed) : Prop where
  /-- A number of the stream is a lost frame that was reported, a framed or an unframed one. -/
  numbers : f.produced .gpio * x.itemCount = x.prepacketFramesProjected * x.itemCount +
    x.positions (· = some .framed) + x.positions (· = some .unframed)
  frames : (x.progressOf f.pipe).framesDropped + (x.progressOf f.pipe).framesTransmitted +
    f.pipe.owned .gpio + (x.progressOf f.pipe).readyDepth = (x.progressOf f.pipe).framesProduced
  samples : (x.progressOf f.pipe).samplesDropped + (x.progressOf f.pipe).samplesTransmitted +
    f.pipe.owned .gpio * x.itemCount + (x.progressOf f.pipe).readyDepth * x.itemCount +
    (x.positions (·.isNone) - x.lostUnfinished) = (x.progressOf f.pipe).samplesProduced
  /-- What the ring lost stands in for what the packer missed of it. -/
  status : ∀ samplesLost, ∃ dropped,
    gpioItemsDropped (f.pipe.sourceCounters .gpio).itemsDropped samplesLost (x.progressOf f.pipe) =
      min u64Max dropped ∧
    dropped + (x.progressOf f.pipe).rawGapSamples = (x.progressOf f.pipe).samplesDropped +
      max samplesLost (x.progressOf f.pipe).rawDropSamplesProjected

theorem Accounts.counted (h : Accounts x f) : Counted x f := by
  have hproduced := h.sound.positions.produced
  have heq := h.sound.positions_eq
  have hlost := lost_eq h.sound.losses.invalid
  have htotal := h.sound.losses.total
  have htiled := h.sound.positions.tiled
  have hframed : x.positions (· = some .framed) = framedFrames x.fates * x.itemCount := by
    rw [heq]
    simp [framedFrames]
  have hunframed : x.positions (· = some .unframed) = unframedFrames x.fates * x.itemCount := by
    rw [heq]
    simp [unframedFrames]
  have hwaiting : x.positions (· = some .waiting) = waitingFrames x.fates * x.itemCount := by
    rw [heq]
    simp [waitingFrames]
  have hinvalid : x.positions (·.any Fate.isInvalid) = invalidFrames x.fates * x.itemCount := by
    rw [heq]
    simp [invalidFrames]
  have hnone : x.positions (·.isNone) = x.nextSourceSample - x.fates.length * x.itemCount := by
    rw [heq]
    simp
  have hfates := congrArg (· * x.itemCount) (length_fates x.fates)
  simp only [Nat.add_mul] at hfates
  constructor
  · omega
  · omega
  · rw [hframed, h.linked.handed]
  · exact h.linked.grid
  · rw [hwaiting, h.sound.queue.waiting]
  · omega
  · rw [hnone]
    split
    · next hrun =>
      have hplace := h.sound.positions.running hrun
      omega
    · next hstop =>
      rw [lostUnfinished_stopped (Bool.eq_false_iff.mpr hstop)]
  · exact h.open_

theorem Accounts.reported (h : Accounts x f) : Projected x f := by
  have hbounds := h.sound.bounds
  have heq := h.sound.positions_eq
  have hpos := h.sound.current.itemCount.1
  have hnumbers := h.linked.numbers
  have hcount := h.sound.losses.frames
  have hcounts := length_fates x.fates
  have htiled := h.sound.positions.tiled
  have hbound := h.sound.positions.bound
  have hproduced := h.sound.positions.produced
  have hframed : x.positions (· = some .framed) = framedFrames x.fates * x.itemCount := by
    rw [heq]
    simp [framedFrames]
  have hunframed : x.positions (· = some .unframed) = unframedFrames x.fates * x.itemCount := by
    rw [heq]
    simp [unframedFrames]
  have hitems : (f.pipe.setup.stream .gpio).itemCount = x.itemCount :=
    congrArg (fun l => (RunLayout.streams l .gpio).itemCount) h.linked.layout
  have hall : f.produced .gpio ≤ x.fates.length := by omega
  have hallItems := Nat.mul_le_mul_right x.itemCount hall
  -- the pipeline's side of the accounts
  have hnumbered : Numbered f.tracked.world .gpio := by
    refine h.linked.reach.ledger .gpio ?_
    show f.produced .gpio * (f.pipe.setup.stream .gpio).itemCount ≤ u64Max
    rw [hitems]
    omega
  have hbalance : (f.pipe.sourceCounters .gpio).framesDropped +
      (f.pipe.sourceCounters .gpio).framesTransmitted + f.pipe.owned .gpio = f.produced .gpio :=
    hnumbered.balance
  have hitemsDropped : (f.pipe.sourceCounters .gpio).itemsDropped =
      (f.pipe.sourceCounters .gpio).framesDropped * x.itemCount := by
    rw [← hitems]
    exact hnumbered.itemsDropped
  have hitemsTransmitted : (f.pipe.sourceCounters .gpio).itemsTransmitted =
      (f.pipe.sourceCounters .gpio).framesTransmitted * x.itemCount := by
    rw [← hitems]
    exact hnumbered.itemsTransmitted
  have hbalanceItems := congrArg (· * x.itemCount) hbalance
  have hnumberItems := congrArg (· * x.itemCount) hnumbers
  simp only [Nat.add_mul] at hbalanceItems hnumberItems
  obtain ⟨-, hprepacket, -, hprojected, -, hraw, hpacker, htotal, hrawTotal, hpackerTotal⟩ :=
    h.sound.losses
  have hrawSpent : x.progress.rawDropSamplesProjected ≤ x.progress.rawGapSamples := by omega
  have hpackerSpent : x.progress.packerDropSamplesProjected ≤ x.progress.packerDropSamples := by
    omega
  have hlost := hbounds.lost
  have hfates := congrArg (· * x.itemCount) hcounts
  simp only [Nat.add_mul] at hfates
  have hnone : x.positions (·.isNone) = x.nextSourceSample - x.fates.length * x.itemCount := by
    rw [heq]
    simp
  have hunfinished : x.lostUnfinished ≤ x.nextSourceSample - x.fates.length * x.itemCount := by
    unfold lostUnfinished
    split <;> omega
  have hqueue := h.sound.queue.waiting
  have hqueueItems := congrArg (· * x.itemCount) hqueue
  -- what the pipeline numbered, what it was not told of, what waits, and what is being filled
  have hsum : (f.pipe.sourceCounters .gpio).itemsDropped + (x.progress.rawGapSamples -
      x.progress.rawDropSamplesProjected) + (x.progress.packerDropSamples -
      x.progress.packerDropSamplesProjected) + (f.pipe.sourceCounters .gpio).itemsTransmitted +
      f.pipe.owned .gpio * x.itemCount + x.readyQueue.length * x.itemCount +
      (x.positions (·.isNone) - x.lostUnfinished) = x.nextSourceSample := by
    omega
  have hspent : (f.pipe.sourceCounters .gpio).itemsDropped + (x.progress.rawGapSamples -
      x.progress.rawDropSamplesProjected) + (x.progress.packerDropSamples -
      x.progress.packerDropSamplesProjected) ≤ u64Max := by omega
  have hsamplesDropped : (x.progressOf f.pipe).samplesDropped =
      (f.pipe.sourceCounters .gpio).itemsDropped + (x.progress.rawGapSamples -
        x.progress.rawDropSamplesProjected) + (x.progress.packerDropSamples -
        x.progress.packerDropSamplesProjected) := by
    show sat64 (sat64 _ _) _ = _
    rw [sat64_eq (by rw [sat64_eq (by omega)]; exact hspent), sat64_eq (by omega)]
  constructor
  · rw [hframed, hunframed, hnumberItems]
  · show sat64 _ _ + _ + _ + x.readyQueue.length = x.progress.framesProduced
    have hframes := h.sound.positions.frames
    have hroom := (h.sound.positions.room hpos).2
    rw [sat64_eq (by omega)]
    show _ + (f.pipe.sourceCounters .gpio).framesTransmitted + _ + _ = _
    omega
  · rw [hsamplesDropped]
    show _ + (f.pipe.sourceCounters .gpio).itemsTransmitted + _ +
      x.readyQueue.length * x.itemCount + _ = x.progress.samplesProduced
    omega
  · intro samplesLost
    refine ⟨(f.pipe.sourceCounters .gpio).itemsDropped + (samplesLost -
      x.progress.rawDropSamplesProjected) + (x.progress.packerDropSamples -
      x.progress.packerDropSamplesProjected), ?_, ?_⟩
    · show sat64 (sat64 _ (samplesLost - x.progress.rawDropSamplesProjected))
        (x.progress.packerDropSamples - x.progress.packerDropSamplesProjected) = _
      rw [sat64_min (a := samplesLost - _) (by omega), sat64_min (Nat.min_le_left _ _)]
      omega
    · rw [hsamplesDropped]
      show _ + x.progress.rawGapSamples = _ + max samplesLost x.progress.rawDropSamplesProjected
      omega

/-- In every run, whatever the capture ring answers, however much is missing, whatever the pool
and the other callers do, and wherever it stops: every position is in one place, and the reports
add up to the positions. -/
theorem samples_counted_once {mask : UInt8} {layout : RunLayout} {startEpochTicks : ℕ}
    (h : Starts x f runId checksum mask layout startEpochTicks) {turns : List (Turn Event)}
    (hfair : producer.Fair (fun _ _ => True) (x.start f runId checksum mask layout startEpochTicks)
      turns) :
    Counted (producer.run (x.start f runId checksum mask layout startEpochTicks) turns).1
        (producer.run (x.start f runId checksum mask layout startEpochTicks) turns).2 ∧
      Projected (producer.run (x.start f runId checksum mask layout startEpochTicks) turns).1
        (producer.run (x.start f runId checksum mask layout startEpochTicks) turns).2 := by
  have haccounts := h.accounts.run hfair
  exact ⟨haccounts.counted, haccounts.reported⟩

/-! ### Two runs -/

/-- A raw buffer of zeros. -/
def rawBuffer (firstSample sampleCount : ℕ) : Acquired where
  status := .ok
  handle :=
    { words := some 0
      firstSample := firstSample
      sampleCount := sampleCount
      lease := 1
      bufferIndex := 0 }
  words _ := 0
  released := .ok

abbrev firstRun : GpioBatchPacker × Feed :=
  ({} : GpioBatchPacker).start { tracked := Tracked.initial } 7 ChecksumAlgorithm.adler32 2
    legacyLayout 0

theorem firstRun_starts : Starts {} { tracked := Tracked.initial } 7 ChecksumAlgorithm.adler32 2
    legacyLayout 0 where
  reach := .initial
  handed := rfl
  packet := by decide +kernel
  packer := by decide +kernel

/-- One visit with no time for frames. -/
def waitingTurns : List (Turn Event) := [.own (.service [rawBuffer 0 4048] 1 0)]

theorem waiting_apart :
    Starts {} { tracked := Tracked.initial } 7 ChecksumAlgorithm.adler32 2 legacyLayout 0 ∧
      producer.Fair (fun _ _ => True) firstRun waitingTurns ∧
      (producer.run firstRun waitingTurns).1.positions (fun a => a = some .framed) +
        (producer.run firstRun waitingTurns).1.positions (fun a => a = some .unframed) +
        (producer.run firstRun waitingTurns).1.positions (fun a => a.any Fate.isInvalid) +
        (producer.run firstRun waitingTurns).1.positions (fun a => a.isNone) <
      (producer.run firstRun waitingTurns).1.progress.samplesProduced := by
  have hfair : producer.Fair (fun _ _ => True) firstRun waitingTurns := ⟨trivial, trivial⟩
  have hcounted := (firstRun_starts.accounts.run hfair).counted
  have hqueue : (producer.run firstRun waitingTurns).1.readyQueue.length = 1 := by decide +kernel
  refine ⟨firstRun_starts, hfair, ?_⟩
  generalize producer.run firstRun waitingTurns = final at hcounted hqueue ⊢
  have hplaces := hcounted.places
  have hwaiting := hcounted.waiting
  have hopen := hcounted.open_
  rw [hqueue, Nat.one_mul] at hwaiting
  omega

/-- A buffer, a gap that ends inside a frame, some samples more, and the end of the run. -/
def gapTurns : List (Turn Event) :=
  [.own (.service [rawBuffer 0 4048, rawBuffer 10000 100] 2 2), .own .stopProduction,
    .own (.service [] 2 2)]

theorem gap_counted :
    ((producer.run firstRun gapTurns).1.fates = [.framed, .invalid 4048 0] ∧
      (producer.run firstRun gapTurns).1.lostUnfinished = 2004) ∧
    Counted (producer.run firstRun gapTurns).1 (producer.run firstRun gapTurns).2 ∧
      Projected (producer.run firstRun gapTurns).1 (producer.run firstRun gapTurns).2 :=
  ⟨by decide +kernel, samples_counted_once firstRun_starts ⟨trivial, trivial, trivial, trivial⟩⟩

end GpioBatchPacker

end ThingDaq.GpioPacker
