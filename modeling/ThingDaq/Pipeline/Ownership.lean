import ThingDaq.Pipeline.Conservation
import ThingDaq.Pipeline.Order

/-!
# Ownership of the buffers

What the queues hold in every reachable state, and which branches no run takes.
The promotion loop reports an invariant error only for a frame whose timestamps
wrap: `finishFill` seals such a frame, the promotion test refuses it.

## Main results

* `ownership` — queues and records agree, and no queue overflows.
* `ownership_wrapping` — a run in which the promotion loop meets a frame it
  refuses.
-/

namespace ThingDaq

open Wire Table

/-! ### Timestamps that fit stay so -/

section Fits

variable {c c' : Core} {g : History} {i : ℕ}

/-- A move that completes nothing. -/
theorem Fits.sub (h : Fits ⟨c, g⟩) {g' : History} (hsetup : c'.setup = c.setup)
    (hrec : ∀ j, (c'.records j).frameSize ≠ 0 →
      (c.records j).frameSize ≠ 0 ∧ (c'.records j).stream = (c.records j).stream)
    (horigin : g'.origin = g.origin) : Fits ⟨c', g'⟩ := by
  intro j hsize hv3
  obtain ⟨hs, ht⟩ := hrec j hsize
  have hv3' : c'.setup.layout.isV3 = true := hv3
  show (g'.origin j).TicksFit (c'.setup.stream (c'.records j).stream).itemCount
  rw [hsetup] at hv3' ⊢
  rw [ht, horigin]
  exact h j hs hv3'

theorem Fits.complete (h : Fits ⟨c, g⟩) {f : PacketFrame} {n : ℕ} {l : UInt32} {o : Origin}
    (hfit : c.setup.layout.isV3 = true →
      o.TicksFit (c.setup.stream (c.records i).stream).itemCount) :
    Fits ⟨c.complete i f n l, g.complete i o⟩ := by
  intro j hsize hv3
  show ((g.complete i o).origin j).TicksFit
    (c.setup.stream ((c.complete i f n l).records j).stream).itemCount
  by_cases hj : j = i
  · have ho : (g.complete i o).origin i = o := Function.update_self _ _ _
    rw [hj, Core.complete_record, ho]
    exact hfit hv3
  · have hrec : (c.complete i f n l).records j = c.records j := Function.update_of_ne hj _ _
    have ho : (g.complete i o).origin j = g.origin j := Function.update_of_ne hj _ _
    have hs : ((c.complete i f n l).records j).frameSize ≠ 0 := hsize
    rw [hrec] at hs ⊢
    rw [ho]
    exact h j hs hv3

/-- One record changes and stays with its stream if it is complete. -/
theorem Fits.touch (h : Fits ⟨c, g⟩) {g' : History} (hsetup : c'.setup = c.setup)
    (hother : ∀ j, j ≠ i → c'.records j = c.records j)
    (hself : (c'.records i).frameSize ≠ 0 →
      (c.records i).frameSize ≠ 0 ∧ (c'.records i).stream = (c.records i).stream)
    (horigin : g'.origin = g.origin) : Fits ⟨c', g'⟩ := by
  refine h.sub hsetup (fun j hj => ?_) horigin
  by_cases hji : j = i
  · rw [hji] at hj ⊢
    exact hself hj
  · rw [hother j hji] at hj ⊢
    exact ⟨hj, rfl⟩

theorem Fits.drop (h : Fits ⟨c, g⟩) {c₁ : Core} {evict : Bool} (hsetup : c₁.setup = c.setup)
    (hrec : ∀ j, j ≠ i → c₁.records j = c.records j) : Fits ⟨c₁.drop i evict, g⟩ := by
  refine h.sub ((c₁.drop_other i evict).2.2.2.2.2.trans hsetup) (fun j hj => ?_) rfl
  by_cases hji : j = i
  · rw [hji, Core.drop_record_self] at hj
    exact absurd rfl hj
  · rw [Core.drop_record_ne _ _ hji, hrec j hji] at hj ⊢
    exact ⟨hj, rfl⟩

end Fits

theorem Fits.move {R : Rules} {w w' : World} (hticks : R.ticks = true) (hinv : Inv w) (h : Fits w)
    (hmove : Move R w w') : Fits w' := by
  cases hmove with
  | openFill =>
    refine h.touch rfl (fun j hj => Function.update_of_ne hj _ _) (fun hs => absurd ?_ hs) rfl
    simp [Core.openFill, Core.setRecord, Core.setGapNext]
  | lose => exact h.sub rfl (fun j hj => ⟨hj, rfl⟩) rfl
  | scribble => exact h.sub rfl (fun j hj => ⟨hj, rfl⟩) rfl
  | complete _ _ _ _ _ _ _ hfit => exact h.complete (hfit hticks)
  | @finish c g i f size lease o _ _ _ _ hsize _ _ _ hfit =>
    refine Fits.touch (i := i) (h.complete (f := f) (n := size) (l := lease) (hfit hticks)) rfl
      (fun j hj => Function.update_of_ne hj _ _) (fun _ => ⟨?_, ?_⟩) rfl
    · rw [Core.complete_record]
      exact hsize
    · simp [Core.publish, Core.setRecord, Core.setCounters]
  | @publish c g i f size _ _ hdone =>
    refine h.touch (i := i) rfl (fun j hj => ?_) (fun _ => ⟨hdone, ?_⟩) rfl
    · simp [Core.publish, Core.rework, Core.setRecord, Core.setCounters, Core.setFrame,
        Function.update_of_ne hj]
    · simp [Core.publish, Core.rework, Core.setRecord, Core.setCounters, Core.setFrame]
  | @flush c g i f =>
    refine h.touch (i := i) rfl (fun j hj => Function.update_of_ne hj _ _) (fun hs => ?_) rfl
    simpa [Core.flush, Core.setRecord, Core.setFrame] using hs
  | @promote c g s i rest =>
    refine h.touch (i := i) rfl (fun j hj => Function.update_of_ne hj _ _) (fun hs => ?_) rfl
    simpa [Core.promote, Core.setRecord, Core.setCounters, Core.setDepth] using hs
  | dropOpen => exact h.drop rfl fun _ _ => rfl
  | dropQueued => exact h.drop rfl fun j hj => Function.update_of_ne hj _ _
  | evictPromoted => exact h.drop rfl fun _ _ => rfl
  | @start c g i =>
    refine h.touch (i := i) rfl (fun j hj => Function.update_of_ne hj _ _) (fun hs => ?_) rfl
    simpa [Core.start, Core.setRecord] using hs
  | abort => exact h.drop rfl fun _ _ => rfl
  | @release c g i =>
    refine h.touch (i := i) rfl (fun j hj => Function.update_of_ne hj _ _) (fun hs => ?_) rfl
    simp [Core.release, Core.setRecord] at hs

theorem Fits.moves {R : Rules} {w w' : World} (hticks : R.ticks = true) (hinv : Inv w) (h : Fits w)
    (hmoves : Moves R w w') : Fits w' := by
  suffices Inv w' ∧ Fits w' from this.2
  induction hmoves with
  | refl => exact ⟨hinv, h⟩
  | tail _ hstep ih => exact ⟨ih.1.move hstep, ih.2.move hticks ih.1 hstep⟩

theorem Fresh.fits {w : World} (h : Fresh w) : Fits w := fun i hi => by
  rw [h.records] at hi
  exact absurd rfl hi

/-! ### Branches that are not taken -/

/-- No queue turned a frame away. -/
def Unrejected (c : Core) : Prop := c.readyQueueRejections = 0 ∧ c.transmitQueueRejections = 0

theorem Core.propagate_rejections (c : Core) (r : BufferRecord) :
    (c.propagate r).readyQueueRejections = c.readyQueueRejections ∧
      (c.propagate r).transmitQueueRejections = c.transmitQueueRejections := by
  unfold Core.propagate
  split <;> exact ⟨rfl, rfl⟩

theorem Unrejected.drop {c : Core} (h : Unrejected c) (i : ℕ) (evict : Bool) :
    Unrejected (c.drop i evict) := by
  obtain ⟨h1, h2⟩ := Core.propagate_rejections (c.setCounters (c.records i).stream
    (Core.droppedCounters (c.sourceCounters (c.records i).stream) (c.records i) evict)) (c.records i)
  exact ⟨h1.trans h.1, h2.trans h.2⟩

theorem Unrejected.move {R : Rules} {w w' : World} (h : Unrejected w.core) (hmove : Move R w w') :
    Unrejected w'.core := by
  cases hmove with
  | dropOpen => exact h.drop _ _
  | dropQueued =>
    refine Unrejected.drop ?_ _ _
    exact h
  | evictPromoted =>
    refine Unrejected.drop ?_ _ _
    exact h
  | abort =>
    refine Unrejected.drop ?_ _ _
    exact h
  | _ => exact h

/-- A frame whose timestamps fit is never refused by the promotion loop. -/
theorem serviceLoop_sound {R : Rules} {g : History} (hticks : R.ticks = true) (limit : ℕ) :
    ∀ (fuel : ℕ) (p : Pipeline) (report : PromotionReport), Inv ⟨p.toCore, g⟩ → Fits ⟨p.toCore, g⟩ →
      report.invariantError = false →
      (Pipeline.serviceLoop limit fuel p report).2.invariantError = false := by
  intro fuel
  induction fuel with
  | zero => intro p report _ _ h; exact h
  | succ fuel ih =>
    intro p report hinv hfits hreport
    unfold Pipeline.serviceLoop
    split
    · exact hreport
    split
    · exact hreport
    next hfull =>
    have hpush : ∀ j, push 200 p.transmitQueue j = some (p.transmitQueue ++ [j]) := fun j =>
      if_neg hfull
    split
    · split <;> exact hreport
    next s _ hselect =>
    have hcandidate : p.readyCandidate s = true := Pipeline.selectFrom_some hselect
    unfold Pipeline.readyCandidate at hcandidate
    cases hqueue : p.readyQueues s with
    | nil => simp [hqueue] at hcandidate
    | cons i rest =>
      have hstate : (p.records i).state = .ready := by
        simp only [hqueue, Bool.and_eq_true, decide_eq_true_eq] at hcandidate
        exact hcandidate.2
      have hmem : i ∈ p.readyQueues s := by rw [hqueue]; exact List.mem_cons_self
      have hs := ((hinv.queues.ready_mem s i).mp hmem).1
      have hlive : (p.records i).state ≠ .free := by rw [hstate]; decide
      have hsize := (hinv.slot i).sized (Or.inl hstate)
      have hvalid : p.validFrameSize i = true := (hinv.validFrameSize hlive hsize).mpr (hfits i hsize)
      have hi := (hinv.slot i).bound hlive
      have hvalid' : (p.withCore (p.setReady s rest)).validFrameSize i = true := hvalid
      simp only
      rw [if_neg (by unfold kPacketBufferCount; omega), if_neg]
      · obtain ⟨q, hq, htq, hmoves⟩ := promote_moves (R := R) hinv hqueue hstate hvalid
        rw [hq]
        simp only [Bool.not_true, Bool.false_eq_true, if_false, htq]
        rw [show push kPacketTransmitQueueDepth p.transmitQueue i = some (p.transmitQueue ++ [i]) from
          hpush i]
        exact ih _ _ (hinv.moves hmoves) (hfits.moves hticks hinv hmoves) hreport
      · rw [hvalid']
        have hs' : (p.records i).stream = s := hs
        simp [Core.setReady, hstate, hs']

/-- A page that is not in a queue finds room in it. -/
theorem finishFill_queued {p : Pipeline} {g : History} (hinv : Inv ⟨p.toCore, g⟩) (h : FillHandle)
    (completion : FrameCompletion) : (p.finishFill h completion).2.status ≠ .queueFull := by
  unfold Pipeline.finishFill
  split
  · exact OperationStatus.noConfusion
  next hm =>
  have hmatch : p.handleMatches h = true := by simpa using hm
  obtain ⟨hi, hstate, hopen, -⟩ := Core.handleMatches_iff hmatch
  have hpush := hinv.push_ready (s := (p.records h.bufferIndex).stream) hi
    (BufferRecord.not_queued hstate hopen)
  simp only
  split
  · exact OperationStatus.noConfusion
  split
  · exact OperationStatus.noConfusion
  split
  · exact OperationStatus.noConfusion
  split
  · exact OperationStatus.noConfusion
  split
  · next hfull => exact absurd (hpush.symm.trans hfull) (by simp)
  · split <;> exact OperationStatus.noConfusion

/-! ### Every reachable state -/

/-- The places of all buffers. -/
structure Ownership (t : Tracked) : Prop where
  bound : ∀ i, (t.pipe.records i).state ≠ .free → i < kPacketBufferCount
  ready_mem : ∀ s i, i ∈ t.pipe.readyQueues s ↔ (t.pipe.records i).stream = s ∧
    ((t.pipe.records i).state = .ready ∨
      ((t.pipe.records i).state = .filling ∧ (t.pipe.records i).frameSize ≠ 0))
  ready_nodup : ∀ s, (t.pipe.readyQueues s).Nodup
  ready_sorted : ∀ s, (t.pipe.readyQueues s).Pairwise fun i j =>
    t.history.number i < t.history.number j
  sequence : ∀ i, (t.pipe.records i).state ≠ .free →
    (t.pipe.records i).sequence = UInt32.ofNat (t.history.number i)
  transmit_mem : ∀ i, i ∈ t.pipe.transmitQueue ↔ (t.pipe.records i).state = .transmitting
  transmit_nodup : t.pipe.transmitQueue.Nodup
  depth : ∀ s, t.pipe.transmitDepthBySource s = t.pipe.transmitting s
  started : ∀ i, (t.pipe.records i).transmissionStarted = true →
    t.pipe.transmitQueue.head? = some i

/-- No call on the pipeline overflows a queue or meets a frame it must refuse. -/
structure Undisturbed (p : Pipeline) : Prop where
  readyQueueRejections : p.readyQueueRejections = 0
  transmitQueueRejections : p.transmitQueueRejections = 0
  finishFill : ∀ h completion, (p.finishFill h completion).2.status ≠ .queueFull
  serviceReadyFrames : ∀ limit, (p.serviceReadyFrames limit).2.invariantError = false

/-- The ownership invariant, for producers with one open fill per stream and
timestamps that do not wrap. -/
theorem ownership {R : Rules} {t : Tracked} (hone : R.oneOpen = true) (hticks : R.ticks = true)
    (h : Reach R t) : Ownership t ∧ Undisturbed t.pipe := by
  have hinv := h.good.inv
  have hordered : Ordered t.world :=
    h.rule (P := Ordered) (fun _ hf => hf.ordered) fun _ _ hi ho hm => ho.move hone hi hm
  have hfits : Fits t.world :=
    h.rule (P := Fits) (fun _ hf => hf.fits) fun _ _ hi ho hm => ho.move hticks hi hm
  have hclean : Unrejected t.pipe.toCore :=
    h.rule (P := fun w => Unrejected w.core)
      (fun _ hf => ⟨hf.readyQueueRejections, hf.transmitQueueRejections⟩)
      fun _ _ _ hu hm => hu.move hm
  refine ⟨?_, hclean.1, hclean.2, finishFill_queued hinv, fun limit => ?_⟩
  · exact
      { bound := fun i => (hinv.slot i).bound
        ready_mem := hinv.queues.ready_mem
        ready_nodup := hinv.queues.ready_nodup
        ready_sorted := fun s => (hordered.sorted s).sublist
          ((List.sublist_append_right _ _).trans (List.sublist_append_left _ _))
        sequence := hordered.sequence
        transmit_mem := hinv.queues.transmit_mem
        transmit_nodup := hinv.queues.transmit_nodup
        depth := fun s => (hinv.queues.depth s).trans
          (countTo_congr fun i _ => Bool.and_comm _ _)
        started := hinv.queues.started }
  · exact serviceLoop_sound hticks limit _ _ _ hinv hfits rfl

/-- A GPIO frame that is sealed and promoted. -/
def oneFrame : List Op :=
  [.startRun 7 ChecksumAlgorithm.adler32 3 (publicV3 .disabled .raw .raw), .beginFill .gpio,
    .finishFill { bufferIndex := 0, stream := .gpio, sequence := 0, lease := 1 }
      { firstSampleTicks := 80, payloadBytesWritten := 4032 },
    .serviceReadyFrames 4]

theorem ownership_oneFrame : Ownership (Tracked.initial.run oneFrame) ∧
    Undisturbed (Tracked.initial.run oneFrame).pipe ∧
    (Tracked.initial.run oneFrame).pipe.transmitQueue = [0] := by
  have hstart : Reach ⟨true, false, true⟩ (Tracked.initial.run (oneFrame.take 1)) :=
    Reach.initial.run ⟨trivial, trivial⟩
  have h := ownership (R := ⟨true, false, true⟩) (t := Tracked.initial.run oneFrame) rfl rfl
    (Reach.initial.run ⟨trivial,
      ⟨fun _ => hstart.noOpen (by decide +kernel), fun h => by cases h⟩,
      ⟨fun h => (by cases h), fun _ _ => by decide +kernel⟩, trivial, trivial⟩)
  exact ⟨h.1, h.2, by decide +kernel⟩

/-- The same with a frame whose last timestamps wrap. -/
def wrappingFrame : List Op :=
  [.startRun 7 ChecksumAlgorithm.adler32 3 (publicV3 .disabled .raw .raw), .beginFill .gpio,
    .finishFill { bufferIndex := 0, stream := .gpio, sequence := 0, lease := 1 }
      { firstSampleTicks := 18446744073709551608, payloadBytesWritten := 4032 }]

/-- `finishFill` accepts it, the promotion loop drops it as an invariant error. -/
theorem ownership_wrapping : Reach ⟨true, false, false⟩ (Tracked.initial.run wrappingFrame) ∧
    (Tracked.initial.run wrappingFrame).pipe.readyQueues .gpio = [0] ∧
    ((Tracked.initial.run wrappingFrame).pipe.serviceReadyFrames 4).2.invariantError = true ∧
    ¬Undisturbed (Tracked.initial.run wrappingFrame).pipe := by
  have herror : ((Tracked.initial.run wrappingFrame).pipe.serviceReadyFrames 4).2.invariantError =
      true := by decide +kernel
  have hstart : Reach ⟨true, false, false⟩ (Tracked.initial.run (wrappingFrame.take 1)) :=
    Reach.initial.run ⟨trivial, trivial⟩
  refine ⟨Reach.initial.run ⟨trivial,
    ⟨fun _ => hstart.noOpen (by decide +kernel), fun h => by cases h⟩,
    ⟨fun h => (by cases h), fun h => (by cases h)⟩, trivial⟩, by decide +kernel, herror, fun h => ?_⟩
  exact absurd ((h.serviceReadyFrames 4).symm.trans herror) (by decide)

end ThingDaq
