import ThingDaq.Pipeline.Feed

/-!
# The frame on its way

From its first byte on, a frame stays at the head of the transmit queue until the transport
releases or aborts it.  Every other call leaves its page and its record alone: eviction and
gap marks pass over started frames, and codecs, producers and promotion only touch buffers
that are not TRANSMITTING.

## Main definitions

* `Pipeline.Held` — the transport started the frame of this buffer.
* `Untouched` — a call leaves a buffer alone.

## Main results

* `step_untouched` — every call but the transport's leaves the frame on its way alone.
-/

namespace ThingDaq

open Wire Table

/-- The frame of buffer `i` is at the head of the transmit queue, and started. -/
structure Pipeline.Held (p : Pipeline) (i : ℕ) : Prop where
  started : (p.records i).transmissionStarted = true
  state : (p.records i).state = .transmitting
  head : p.transmitQueue.head? = some i
  unready : ∀ s, i ∉ p.readyQueues s

/-- Page, record and place of buffer `i` are the same. -/
structure Untouched (i : ℕ) (p q : Pipeline) : Prop where
  record : q.records i = p.records i
  frame : q.frames i = p.frames i
  head : p.transmitQueue.head? = some i → q.transmitQueue.head? = some i
  ready : ∀ s, i ∈ q.readyQueues s → i ∈ p.readyQueues s
  setup : q.setup = p.setup

variable {p q : Pipeline} {i j : ℕ} {s : Stream}

namespace Untouched

theorem refl (p : Pipeline) : Untouched i p p := ⟨rfl, rfl, id, fun _ => id, rfl⟩

theorem trans {r : Pipeline} (h : Untouched i p q) (h' : Untouched i q r) : Untouched i p r where
  record := h'.record.trans h.record
  frame := h'.frame.trans h.frame
  head := fun hhead => h'.head (h.head hhead)
  ready := fun s hmem => h.ready s (h'.ready s hmem)
  setup := h'.setup.trans h.setup

/-- Only statistics and cursors differ. -/
theorem quiet (h : q.toCore = p.toCore) : Untouched i p q := by
  refine ⟨?_, ?_, ?_, ?_, ?_⟩
  · rw [h]
  · rw [h]
  · rw [h]
    exact id
  · rw [h]
    exact fun _ => id
  · rw [h]

/-- Another page. -/
theorem setFrame (hj : j ≠ i) (f : PacketFrame) : Untouched i p (p.withCore (p.setFrame j f)) :=
  ⟨rfl, Function.update_of_ne hj.symm _ _, id, fun _ => id, rfl⟩

/-- Another record. -/
theorem setRecord (hj : j ≠ i) (r : BufferRecord) : Untouched i p (p.withCore (p.setRecord j r)) :=
  ⟨Function.update_of_ne hj.symm _ _, rfl, id, fun _ => id, rfl⟩

theorem setReady {queue : List ℕ} (h : i ∈ queue → i ∈ p.readyQueues s) :
    Untouched i p (p.withCore (p.setReady s queue)) := by
  refine ⟨rfl, rfl, id, ?_, rfl⟩
  intro u hmem
  change i ∈ Function.update p.readyQueues s queue u at hmem
  by_cases hu : u = s
  · rw [hu, Function.update_self] at hmem
    exact hu ▸ h hmem
  · rwa [Function.update_of_ne hu] at hmem

theorem recycle (hj : j ≠ i) : Untouched i p (p.recycle j) := by
  unfold Pipeline.recycle
  split
  · exact quiet rfl
  · exact setRecord hj {}

theorem recordSourceFrameDrops (p : Pipeline) (i : ℕ) (s : Stream) (n : ℕ) :
    Untouched i p (p.recordSourceFrameDrops s n).1 := by
  unfold Pipeline.recordSourceFrameDrops
  split
  · exact quiet rfl
  split
  · exact quiet rfl
  split
  · exact refl p
  · exact ⟨rfl, rfl, id, fun _ => id, rfl⟩

theorem publishReady (p : Pipeline) (hj : j ≠ i) : Untouched i p (p.publishReady j) :=
  ⟨Function.update_of_ne hj.symm _ _, rfl, id, fun _ => id, rfl⟩

theorem packAdc12 (p : Pipeline) (hj : j ≠ i) : Untouched i p (p.packAdc12 j).1 := by
  unfold Pipeline.packAdc12
  dsimp only
  split
  · exact quiet rfl
  split
  · exact ⟨Function.update_of_ne hj.symm _ _, Function.update_of_ne hj.symm _ _, id, fun _ => id, rfl⟩
  · exact ⟨Function.update_of_ne hj.symm _ _, Function.update_of_ne hj.symm _ _, id, fun _ => id, rfl⟩

theorem finalizeGapBefore (p : Pipeline) (hj : j ≠ i) : Untouched i p (p.finalizeGapBefore j).1 := by
  unfold Pipeline.finalizeGapBefore
  dsimp only
  split
  · exact refl p
  split
  · exact refl p
  split
  · exact refl p
  split
  · exact refl p
  split
  · exact (setFrame hj _).trans (quiet rfl)
  · exact ⟨Function.update_of_ne hj.symm _ _, Function.update_of_ne hj.symm _ _, id, fun _ => id, rfl⟩

/-- A promoted frame goes to the end of the transmit queue. -/
theorem promote (p : Pipeline) (hj : j ≠ i) {queue : List ℕ}
    (hqueue : push kPacketTransmitQueueDepth p.transmitQueue j = some queue) (s : Stream) :
    Untouched i p (p.promote s j queue) := by
  refine ⟨Function.update_of_ne hj.symm _ _, rfl, ?_, fun _ => id, rfl⟩
  intro hhead
  change queue.head? = some i
  obtain ⟨rest, hrest⟩ := List.head?_eq_some_iff.mp hhead
  unfold push at hqueue
  split at hqueue
  · cases hqueue
  · rw [← Option.some.inj hqueue, hrest]
    rfl

end Untouched

namespace Pipeline.Held

theorem keep (h : p.Held i) (hs : Untouched i p q) : q.Held i where
  started := hs.record ▸ h.started
  state := hs.record ▸ h.state
  head := hs.head h.head
  unready := fun s hmem => h.unready s (hs.ready s hmem)

theorem ne_of_state (h : p.Held i) (hstate : (p.records j).state ≠ .transmitting) : j ≠ i := by
  rintro rfl
  exact hstate h.state

theorem ne_of_unstarted (h : p.Held i) (hj : (p.records j).transmissionStarted = false) : j ≠ i := by
  rintro rfl
  rw [h.started] at hj
  cases hj

theorem ne_of_ready (h : p.Held i) (hj : j ∈ p.readyQueues s) : j ≠ i := by
  rintro rfl
  exact h.unready s hj

/-- The gap mark of a dropped frame passes over a started one. -/
theorem dropBuffer (h : p.Held i) (hj : j ≠ i) (evict : Bool) :
    Untouched i p (p.dropBuffer j evict) := by
  by_cases hlive : j < 200 ∧ (p.records j).state ≠ .free
  · obtain ⟨hframes, hready, htransmit, -, -, hsetup⟩ := p.toCore.drop_other j evict
    have hunmarked : p.toCore.marked (p.records j) i = false := by
      by_contra hmarked
      obtain ⟨-, -, -, hstarted, -⟩ := p.toCore.marked_live (Bool.not_eq_false _ ▸ hmarked)
      rw [h.started] at hstarted
      cases hstarted
    have hrecord : (p.toCore.drop j evict).records i = p.records i := by
      rw [p.toCore.drop_record_ne evict hj.symm, hunmarked, Bool.or_false]
    have hcore := dropBuffer_core hlive.1 hlive.2 evict
    refine ⟨?_, ?_, ?_, ?_, ?_⟩
    · rw [hcore]
      exact hrecord
    · rw [hcore, hframes]
    · rw [hcore, htransmit]
      exact id
    · rw [hcore, hready]
      exact fun _ => id
    · rw [hcore, hsetup]
  · rw [dropBuffer_invalid hlive]
    exact Untouched.quiet rfl

/-- A drop behind other changes. -/
theorem dropped (h : p.Held i) (hq : Untouched i p q) (hj : j ≠ i) (evict : Bool) :
    Untouched i p (q.dropBuffer j evict) :=
  hq.trans ((h.keep hq).dropBuffer hj evict)

/-! ### Producers -/

/-- A started frame is no victim. -/
theorem evictCompleteBuffer (h : p.Held i) (j : ℕ) : Untouched i p (p.evictCompleteBuffer j).1 ∧
    ((p.evictCompleteBuffer j).2 = true → j ≠ i) := by
  unfold Pipeline.evictCompleteBuffer
  dsimp only
  split
  · exact ⟨Untouched.quiet rfl, fun hno => by cases hno⟩
  split
  · exact ⟨Untouched.quiet rfl, fun hno => by cases hno⟩
  rename_i hguard
  simp only [Bool.or_eq_true, not_or, Bool.not_eq_true] at hguard
  have hj : j ≠ i := h.ne_of_unstarted hguard.1.2
  split
  · split
    · exact ⟨Untouched.quiet rfl, fun _ => hj⟩
    · rename_i queue herase
      refine ⟨?_, fun _ => hj⟩
      have hsub : i ∈ queue → i ∈ p.readyQueues (p.records j).stream := by
        unfold eraseFirst at herase
        split at herase
        · rw [← Option.some.inj herase]
          exact List.mem_of_mem_erase
        · cases herase
      exact (h.dropped (Untouched.setReady hsub) hj true).trans (Untouched.quiet rfl)
  split
  · exact ⟨Untouched.quiet rfl, fun _ => hj⟩
  split
  · exact ⟨Untouched.quiet rfl, fun _ => hj⟩
  · rename_i queue herase
    refine ⟨?_, fun _ => hj⟩
    generalize hlowered : p.withCore _ = lowered
    have hfirst : Untouched i p lowered := by
      rw [← hlowered]
      refine ⟨rfl, rfl, ?_, fun _ => id, rfl⟩
      intro hhead
      change queue.head? = some i
      obtain ⟨rest, hrest⟩ := List.head?_eq_some_iff.mp hhead
      unfold eraseFirst at herase
      split at herase
      · rw [← Option.some.inj herase, hrest, List.erase_cons_tail (by simpa using hj.symm)]
        rfl
      · cases herase
    exact (h.dropped hfirst hj true).trans (Untouched.quiet rfl)

theorem takeFreeBuffer (h : p.Held i) : Untouched i p p.takeFreeBuffer.1 ∧
    ∀ j, p.takeFreeBuffer.2 = some j → j ≠ i := by
  unfold Pipeline.takeFreeBuffer
  dsimp only
  split
  · rename_i offset hfind
    refine ⟨Untouched.quiet rfl, ?_⟩
    rintro _ ⟨⟩
    have hfree := List.find?_some hfind
    exact h.ne_of_state (by rw [of_decide_eq_true hfree]; decide)
  split
  · exact ⟨Untouched.quiet rfl, fun _ hno => by cases hno⟩
  rename_i victim _
  generalize hcounted : ({ p with poolExhaustions := sat32 p.poolExhaustions 1 } : Pipeline) = counted
  have hfirst : Untouched i p counted := by
    rw [← hcounted]
    exact Untouched.quiet rfl
  obtain ⟨hkept, hother⟩ := (h.keep hfirst).evictCompleteBuffer victim
  have hevicted := hfirst.trans hkept
  split
  · rename_i hyes
    refine ⟨hevicted.trans (Untouched.quiet rfl), ?_⟩
    rintro _ ⟨⟩
    exact hother hyes
  · exact ⟨hevicted, fun _ hno => by cases hno⟩

theorem beginFill (h : p.Held i) (s : Stream) : Untouched i p (p.beginFill s).1 := by
  unfold Pipeline.beginFill
  split
  · exact Untouched.quiet rfl
  split
  · exact Untouched.quiet rfl
  dsimp only
  generalize hproduced : p.withCore (p.setCounters s _) = produced
  have hfirst : Untouched i p produced := by
    rw [← hproduced]
    exact ⟨rfl, rfl, id, fun _ => id, rfl⟩
  obtain ⟨hkept, hother⟩ := (h.keep hfirst).takeFreeBuffer
  have htaken := hfirst.trans hkept
  split
  · rename_i hq
    rw [hq] at htaken
    exact htaken.trans ⟨rfl, rfl, id, fun _ => id, rfl⟩
  · rename_i j hq
    rw [hq] at htaken hother
    have hj := hother j rfl
    exact htaken.trans ⟨Function.update_of_ne hj.symm _ _, rfl, id, fun _ => id, rfl⟩

/-- A handle is for a buffer that is FILLING. -/
theorem ne_of_handle (h : p.Held i) {fill : FillHandle} (hmatch : p.handleMatches fill = true) :
    fill.bufferIndex ≠ i :=
  h.ne_of_state (by rw [(Core.handleMatches_iff hmatch).2.1]; decide)

theorem writePayload (h : p.Held i) (fill : FillHandle) (off : ℕ) (bs : Bytes) :
    Untouched i p (p.writePayload fill off bs) := by
  unfold Pipeline.writePayload
  split
  · exact Untouched.quiet rfl
  · rename_i hmatch
    exact Untouched.setFrame (h.ne_of_handle (by simpa using hmatch)) _

theorem cancelFill (h : p.Held i) (fill : FillHandle) : Untouched i p (p.cancelFill fill).1 := by
  unfold Pipeline.cancelFill
  split
  · exact Untouched.quiet rfl
  · rename_i hmatch
    exact h.dropBuffer (h.ne_of_handle (by simpa using hmatch)) false

theorem finishFill (h : p.Held i) (fill : FillHandle) (completion : FrameCompletion) :
    Untouched i p (p.finishFill fill completion).1 := by
  unfold Pipeline.finishFill
  split
  · exact Untouched.quiet rfl
  rename_i hmatch
  have hj : fill.bufferIndex ≠ i := h.ne_of_handle (by simpa using hmatch)
  dsimp only
  generalize p.encodePage (p.records fill.bufferIndex) completion (p.frames fill.bufferIndex) = encoded
  split
  · exact h.dropBuffer hj _
  split
  · exact h.dropBuffer hj _
  split
  · exact h.dropped (q := p.encodingRejection) (Untouched.quiet rfl) hj _
  have hwritten : Untouched i p (p.withCore (p.setFrame fill.bufferIndex encoded.2)) :=
    Untouched.setFrame hj _
  split
  · exact h.dropped (q := (p.withCore _).encodingRejection) (hwritten.trans (Untouched.quiet rfl)) hj _
  generalize hc : (p.withCore (p.setFrame fill.bufferIndex encoded.2)).withCore
    ((p.withCore (p.setFrame fill.bufferIndex encoded.2)).setRecord fill.bufferIndex _) = complete
  have hcomplete : Untouched i p complete := by
    rw [← hc]
    exact hwritten.trans (Untouched.setRecord hj _)
  split
  · refine h.dropped (hcomplete.trans ?_) hj _
    exact ⟨rfl, rfl, id, fun _ => id, rfl⟩
  rename_i queue hpush
  have hqueue : i ∈ queue → i ∈ complete.readyQueues (p.records fill.bufferIndex).stream := by
    unfold push at hpush
    split at hpush
    · cases hpush
    · rw [← Option.some.inj hpush]
      intro hmem
      rcases List.mem_append.mp hmem with hmem | hmem
      · exact hmem
      · exact absurd (List.mem_singleton.mp hmem).symm hj
  have hqueued := hcomplete.trans (Untouched.setReady hqueue)
  split
  · exact hqueued.trans (Untouched.setRecord hj _)
  · exact hqueued.trans (Untouched.publishReady _ hj)

/-- The scan of `stopProduction` drops open buffers. -/
theorem stopProduction (h : p.Held i) : Untouched i p p.stopProduction.1 := by
  unfold Pipeline.stopProduction
  dsimp only
  have hscan : ∀ (l : List ℕ) (acc : Pipeline × ℕ), acc.1.Held i →
      Untouched i acc.1 (l.foldl (fun (acc : Pipeline × ℕ) j =>
        if (decide ((acc.1.records j).state ≠ .filling) ||
            decide ((acc.1.records j).frameSize ≠ 0)) = true then acc
        else (acc.1.dropBuffer j false, acc.2 + 1)) acc).1 := by
    intro l
    induction l with
    | nil => exact fun acc _ => Untouched.refl _
    | cons j l ih =>
      intro acc hheld
      rw [List.foldl_cons]
      split
      · exact ih acc hheld
      · rename_i hopen
        simp only [Bool.or_eq_true, decide_eq_true_eq, not_or, not_not] at hopen
        have hj : j ≠ i := hheld.ne_of_state (by rw [hopen.1]; decide)
        have hone := hheld.dropBuffer hj false
        exact hone.trans (ih (acc.1.dropBuffer j false, acc.2 + 1) (hheld.keep hone))
  generalize hclosed : ({ p with acceptingFrames := false } : Pipeline) = closed
  have hfirst : Untouched i p closed := by
    rw [← hclosed]
    exact Untouched.quiet rfl
  exact hfirst.trans (hscan (List.range kPacketBufferCount) (closed, 0) (h.keep hfirst))

/-- No run starts while a frame waits. -/
theorem startRun (h : p.Held i) (runId : UInt32) (alg : ChecksumAlgorithm) (mask : UInt8)
    (layout : RunLayout) : (p.startRun runId alg mask layout).1 = p.rejectStart := by
  have hbusy : p.quiescent = false := by
    obtain ⟨rest, hrest⟩ := List.head?_eq_some_iff.mp h.head
    unfold Core.quiescent
    rw [hrest, List.isEmpty_cons, Bool.and_false]
  unfold Pipeline.startRun
  split
  · rfl
  · rw [if_pos (by rw [hbusy]; rfl)]

/-! ### Codecs -/

theorem compressGpio (h : p.Held i) (hj : j ≠ i) : Untouched i p (p.compressGpio j).1 := by
  unfold Pipeline.compressGpio
  dsimp only
  generalize Rle.sizeForAdaptiveSelection _ _ _ = selection
  split
  · exact Untouched.quiet rfl
  split
  · exact Untouched.refl p
  split
  · exact Untouched.refl p
  rename_i scratch hfind
  have hfree := List.find?_some hfind
  have hscratch : scratch ≠ i := h.ne_of_state (by rw [of_decide_eq_true hfree]; decide)
  generalize (if (p.layoutOf j).itemBytes = 2 then _ else _ : Rle.EncodeResult × Bytes) = encoded
  have hborrowed : Untouched i p
      (p.withCore (p.setRecord scratch { p.records scratch with state := .filling })) :=
    Untouched.setRecord hscratch _
  generalize p.withCore (p.setRecord scratch { p.records scratch with state := .filling }) = borrowed
    at hborrowed ⊢
  have hreturned : ∀ q : Pipeline, Untouched i borrowed q → Untouched i p (q.recycle scratch) :=
    fun q hq => (hborrowed.trans hq).trans (Untouched.recycle hscratch)
  have hrejected : ∀ f, Untouched i borrowed
      (borrowed.withCore (borrowed.setFrame scratch f)).encodingRejection :=
    fun f => (Untouched.setFrame hscratch f).trans (Untouched.quiet rfl)
  split
  · generalize p.sealRle _ _ _ _ = sealed
    split
    · exact hreturned _ (hrejected _)
    · refine hreturned _ ⟨Function.update_of_ne hj.symm _ _, ?_, id, fun _ => id, rfl⟩
      exact (Function.update_of_ne hj.symm _ _).trans (Function.update_of_ne hscratch.symm _ _)
  · exact hreturned _ (hrejected _)

theorem discardDeferred (h : p.Held i) (hj : j ≠ i) : Untouched i p (p.discardDeferred s j) :=
  h.dropped (Untouched.setReady List.mem_of_mem_erase) hj false

theorem settleDeferred (h : p.Held i) (hj : j ≠ i) (s : Stream) (late ok : Bool) :
    Untouched i p (p.settleDeferred s j late ok) := by
  have hcodec : ∀ k, Untouched i p (p.setCodec s k) := fun k => Untouched.quiet rfl
  unfold Pipeline.settleDeferred
  dsimp only
  split
  · exact (hcodec _).trans ((h.keep (hcodec _)).discardDeferred hj)
  split
  · exact (hcodec _).trans ((h.keep (hcodec _)).discardDeferred hj)
  · exact (hcodec _).trans (Untouched.publishReady _ hj)

theorem encodeDeferred (h : p.Held i) (hj : j ≠ i) (ticks : UInt64)
    (readTicks : Option (UInt64 × UInt64)) (s : Stream) :
    Untouched i p (p.encodeDeferred ticks readTicks s j) := by
  unfold Pipeline.encodeDeferred
  dsimp only
  generalize hcoded : (if (p.records j).stream = .gpio then p.compressGpio j else p.packAdc12 j) = coded
  have hfirst : Untouched i p coded.1 := by
    rw [← hcoded]
    split
    · exact h.compressGpio hj
    · exact Untouched.packAdc12 p hj
  generalize hwork : coded.1.countWork s _ = worked
  have hcounted : Untouched i p worked := by
    rw [← hwork]
    exact hfirst.trans (Untouched.quiet rfl)
  exact (hcounted.trans ((h.keep hcounted).settleDeferred hj s _ _)).trans (Untouched.quiet rfl)

theorem serviceDeferred (h : p.Held i) (ticks : UInt64) (budget : ℕ)
    (readTicks : Option (UInt64 × UInt64)) : Untouched i p (p.serviceDeferred ticks budget readTicks) := by
  have hfrom : ∀ (l : List Stream) (p : Pipeline), p.Held i →
      Untouched i p (Pipeline.serviceDeferredFrom ticks budget readTicks l p) := by
    intro l
    induction l with
    | nil => exact fun p _ => Untouched.refl p
    | cons s l ih =>
      intro p hheld
      rw [Pipeline.serviceDeferredFrom]
      split
      · exact ih p hheld
      rename_i j hold
      have hj : j ≠ i := hheld.ne_of_ready (oldestDeferred_some hold).1
      dsimp only
      generalize hk : p.setCodec s _ = aged
      have haged : Untouched i p aged := by
        rw [← hk]
        exact Untouched.quiet rfl
      have hheld' := hheld.keep haged
      apply haged.trans
      split
      · have hdiscarded : ∀ k, Untouched i aged ((aged.setCodec s k).discardDeferred s j) := fun k =>
          have hcodec : Untouched i aged (aged.setCodec s k) := Untouched.quiet rfl
          hcodec.trans ((hheld'.keep hcodec).discardDeferred hj)
        exact (hdiscarded _).trans (ih _ (hheld'.keep (hdiscarded _)))
      split
      · exact ih aged hheld'
      · exact hheld'.encodeDeferred hj ticks readTicks s
  unfold Pipeline.serviceDeferred
  split
  · exact Untouched.refl p
  · have hclock : Untouched i p (p.setDeferredClock ticks) := Untouched.quiet rfl
    exact hclock.trans (hfrom _ _ (h.keep hclock))

/-! ### Promotion -/

theorem serviceLoop (limit : ℕ) : ∀ (fuel : ℕ) (p : Pipeline) (report : PromotionReport),
    p.Held i → Untouched i p (Pipeline.serviceLoop limit fuel p report).1 := by
  intro fuel
  induction fuel with
  | zero => exact fun p _ _ => Untouched.refl p
  | succ fuel ih =>
    intro p report h
    unfold Pipeline.serviceLoop
    split
    · exact Untouched.refl p
    split
    · exact Untouched.refl p
    split
    · split
      · exact Untouched.quiet rfl
      · exact Untouched.refl p
    rename_i s _ _
    split
    · have hinvalid : Untouched i p p.invalidOperation := Untouched.quiet rfl
      exact hinvalid.trans (ih _ _ (h.keep hinvalid))
    rename_i j rest hready
    have hj : j ≠ i := h.ne_of_ready (s := s) (by rw [hready]; exact List.mem_cons_self)
    dsimp only
    have hpopped : Untouched i p (p.withCore (p.setReady s rest)) :=
      Untouched.setReady fun hmem => hready ▸ List.mem_cons_of_mem j hmem
    have h' := h.keep hpopped
    apply hpopped.trans
    generalize p.withCore (p.setReady s rest) = popped at h' ⊢
    have hinvalid : Untouched i popped popped.invalidOperation := Untouched.quiet rfl
    split
    · exact hinvalid.trans (ih _ _ (h'.keep hinvalid))
    split
    · have hdropped := h'.dropped hinvalid hj false
      exact hdropped.trans (ih _ _ (h'.keep hdropped))
    have hfinal := Untouched.finalizeGapBefore popped hj
    have h'' := h'.keep hfinal
    apply hfinal.trans
    generalize popped.finalizeGapBefore j = finalized at h'' ⊢
    split
    · have hdropped := h''.dropped (q := finalized.1.encodingRejection) (Untouched.quiet rfl) hj false
      exact hdropped.trans (ih _ _ (h''.keep hdropped))
    split
    · refine h''.dropped ?_ hj false
      exact ⟨rfl, rfl, id, fun _ => id, rfl⟩
    · rename_i queue hqueue
      have hpromoted := Untouched.promote finalized.1 hj hqueue s
      exact hpromoted.trans (ih _ _ (h''.keep hpromoted))

end Pipeline.Held

/-! ### Steps -/

/-- The calls of the transport. -/
def Op.transport : Op → Bool
  | .prepareFrontFrame => true
  | .markFrontFrameStarted => true
  | .abortFrontFrame => true
  | .releaseFrontFrame => true
  | _ => false

/-- What the transport started stays as it is until the transport goes on. -/
theorem step_untouched {t : Tracked} (h : t.pipe.Held i) {op : Op} (hop : op.transport = false) :
    Untouched i t.pipe (t.step op).pipe := by
  cases op with
  | startRun runId alg mask layout =>
    have hrejected := h.startRun runId alg mask layout
    unfold Tracked.step
    dsimp only
    rw [hrejected]
    exact Untouched.quiet rfl
  | stopProduction =>
    simp only [Tracked.step]
    exact h.stopProduction
  | beginFill s => exact h.beginFill s
  | recordSourceFrameDrops s n => exact Untouched.recordSourceFrameDrops t.pipe i s n.toNat
  | writePayload fill off bs => exact h.writePayload fill off bs
  | finishFill fill completion => exact h.finishFill fill completion
  | cancelFill fill => exact h.cancelFill fill
  | setDeferredClock ticks => exact Untouched.quiet rfl
  | serviceDeferred ticks budget readTicks => exact h.serviceDeferred ticks budget readTicks
  | serviceReadyFrames limit => exact Pipeline.Held.serviceLoop limit _ _ _ h
  | prepareFrontFrame => cases hop
  | markFrontFrameStarted => cases hop
  | abortFrontFrame => cases hop
  | releaseFrontFrame => cases hop

/-- Under the invariant a started frame is held. -/
theorem Inv.held {g : History} (hinv : Inv ⟨p.toCore, g⟩)
    (hstarted : (p.records i).transmissionStarted = true) : p.Held i := by
  have hstate := (hinv.slot i).started hstarted
  refine ⟨hstarted, hstate, hinv.queues.started i hstarted, fun s hmem => ?_⟩
  exact BufferRecord.not_queued_of_transmitting hstate ((hinv.queues.ready_mem s i).mp hmem).2

end ThingDaq
