import ThingDaq.Pipeline.Fairness
import ThingDaq.Pipeline.Fidelity
import Mathlib.Data.List.Find

/-!
# The deadline of deferred codecs

A page of a stream with a codec takes its place in the source FIFO when it is finished and
waits there.  `serviceDeferred` encodes the oldest waiting page of one stream per call; a page
that is 80000 ticks old when its turn comes, or when its encoding is done, is dropped.

The clock is a 64-bit one and the pipeline keeps its low 32 bits, so the age it sees is the age
of the page only as long as that stays below 2³².

## Main definitions

* `Ledger` — history variables: the clock, when each page was finished and in which order, and
  what became of it.
* `Timed` — runs with a clock that does not go back, in which no page is taken up whose age has
  wrapped into the deadline.

## Main results

* `Spares` and its lemmas — only `serviceDeferred` publishes or drops a waiting page.
* `deferred_deadline` — deadline, single outcome and order, in every such run.
-/

namespace ThingDaq

open Wire Table

/-- A complete page that waits for its codec. -/
def Core.waits (c : Core) (i : ℕ) : Bool :=
  (c.records i).state = .filling && (c.records i).frameSize ≠ 0

theorem Core.waits_iff {c : Core} {i : ℕ} : c.waits i = true ↔
    (c.records i).state = .filling ∧ (c.records i).frameSize ≠ 0 := by
  unfold Core.waits
  rw [Bool.and_eq_true, decide_eq_true_eq, decide_eq_true_eq]

theorem Core.not_waits {c : Core} {i : ℕ}
    (h : (c.records i).state ≠ .filling ∨ (c.records i).frameSize = 0) : c.waits i = false := by
  rw [Bool.eq_false_iff]
  intro hw
  obtain ⟨hstate, hsize⟩ := Core.waits_iff.mp hw
  exact h.elim (fun h => h hstate) hsize

/-! ### Operations that leave waiting pages alone -/

/-- Waiting pages keep everything but their gap marks, none comes in, and the FIFOs only lose
frames. -/
structure Spares (p q : Pipeline) : Prop where
  kept : ∀ j, p.waits j = true → ∃ b, q.records j = { p.records j with gapBeforeRequired := b }
  fewer : ∀ j, q.waits j = true → p.waits j = true
  ready : ∀ s, (q.readyQueues s).Sublist (p.readyQueues s)
  clock : q.deferredNow = p.deferredNow

namespace Spares

variable {p q r : Pipeline} {i : ℕ}

theorem same (hrec : q.records = p.records)
    (hready : ∀ s, (q.readyQueues s).Sublist (p.readyQueues s))
    (hclock : q.deferredNow = p.deferredNow) : Spares p q where
  kept := fun j _ => ⟨(p.records j).gapBeforeRequired, by rw [hrec]⟩
  fewer := fun j hj => by
    unfold Core.waits at hj ⊢
    rw [hrec] at hj
    exact hj
  ready := hready
  clock := hclock

/-- Only the core changes, and of it neither records nor FIFOs. -/
theorem quiet (hrec : q.records = p.records) (hready : q.readyQueues = p.readyQueues)
    (hclock : q.deferredNow = p.deferredNow) : Spares p q :=
  same hrec (fun s => by rw [hready]) hclock

theorem refl (p : Pipeline) : Spares p p := quiet rfl rfl rfl

theorem trans (h : Spares p q) (h' : Spares q r) : Spares p r where
  kept := by
    intro j hj
    obtain ⟨b, hb⟩ := h.kept j hj
    have hq : q.waits j = true := by
      unfold Core.waits at hj ⊢
      rw [hb]
      exact hj
    obtain ⟨b', hb'⟩ := h'.kept j hq
    exact ⟨b', by rw [hb', hb]⟩
  fewer := fun j hj => h.fewer j (h'.fewer j hj)
  ready := fun s => (h'.ready s).trans (h.ready s)
  clock := h'.clock.trans h.clock

/-- One record changes, of a page that does not wait. -/
theorem off (hoff : OffBy i p.toCore q.toCore) (hp : p.waits i = false) (hq : q.waits i = false)
    (hready : ∀ s, (q.readyQueues s).Sublist (p.readyQueues s))
    (hclock : q.deferredNow = p.deferredNow) : Spares p q where
  kept := by
    intro j hj
    apply hoff
    rintro rfl
    rw [hp] at hj
    cases hj
  fewer := by
    intro j hj
    have hne : j ≠ i := by
      rintro rfl
      rw [hq] at hj
      cases hj
    unfold Core.waits at hj ⊢
    rw [hoff.state hne, hoff.frameSize hne] at hj
    exact hj
  ready := hready
  clock := hclock

theorem set {x : BufferRecord} (hrec : q.records = Function.update p.records i x)
    (hp : p.waits i = false) (hx : x.state ≠ .filling ∨ x.frameSize = 0)
    (hready : ∀ s, (q.readyQueues s).Sublist (p.readyQueues s))
    (hclock : q.deferredNow = p.deferredNow) : Spares p q := by
  refine off (i := i) ?_ hp (Core.not_waits ?_) hready hclock
  · intro j hj
    refine ⟨(p.records j).gapBeforeRequired, ?_⟩
    rw [hrec, Function.update_of_ne hj]
  · rw [hrec, Function.update_self]
    exact hx

end Spares

section Operations

variable {p q : Pipeline} {i : ℕ} {s : Stream}

theorem dropBuffer_clock (p : Pipeline) (i : ℕ) (evict : Bool) :
    (p.dropBuffer i evict).deferredNow = p.deferredNow := by
  have hrecycle : ∀ q : Pipeline, (q.recycle i).deferredNow = q.deferredNow := by
    intro q
    unfold Pipeline.recycle
    split <;> rfl
  have hpropagate : ∀ (q : Pipeline) (r : BufferRecord),
      (q.propagateGapAfter r).deferredNow = q.deferredNow := by
    intro q r
    unfold Pipeline.propagateGapAfter
    split
    · unfold Pipeline.markGapBefore
      dsimp only
      split
      · rfl
      split <;> rfl
    · rfl
  unfold Pipeline.dropBuffer
  dsimp only
  split
  · rfl
  · rw [hrecycle]
    exact hpropagate _ _

/-- A dropped buffer is free, and the other records keep everything but their gap marks. -/
theorem dropBuffer_records (p : Pipeline) (i : ℕ) (evict : Bool) :
    OffBy i p.toCore (p.dropBuffer i evict).toCore ∧
      (i < 200 → ((p.dropBuffer i evict).records i).state = .free) := by
  by_cases hlive : i < 200 ∧ (p.records i).state ≠ .free
  · rw [dropBuffer_core hlive.1 hlive.2]
    refine ⟨?_, ?_⟩
    · intro j hj
      exact ⟨_, Core.drop_record_ne _ evict hj⟩
    · intro _
      rw [Core.drop_record_self]
  · rw [dropBuffer_invalid hlive]
    refine ⟨fun j _ => ⟨_, rfl⟩, ?_⟩
    intro hi
    exact of_not_not fun hfree => hlive ⟨hi, hfree⟩

theorem dropBuffer_spares (hi : p.waits i = false) (evict : Bool) :
    Spares p (p.dropBuffer i evict) := by
  obtain ⟨hoff, hfree⟩ := dropBuffer_records p i evict
  have hready : ∀ s, ((p.dropBuffer i evict).readyQueues s).Sublist (p.readyQueues s) := by
    intro s
    rw [dropBuffer_readyQueues]
  by_cases hbound : i < 200
  · refine Spares.off hoff hi (Core.not_waits (Or.inl ?_)) hready (dropBuffer_clock p i evict)
    rw [hfree hbound]
    decide
  · rw [dropBuffer_invalid fun h => hbound h.1]
    exact Spares.quiet rfl rfl rfl

/-- Records that differ in one place, both times not waiting. -/
theorem setRecord_spares {x : BufferRecord} (hp : p.waits i = false)
    (hx : x.state ≠ .filling ∨ x.frameSize = 0) : Spares p (p.withCore (p.setRecord i x)) :=
  Spares.set (i := i) rfl hp hx (fun _ => List.Sublist.refl _) rfl

theorem setReady_spares {queue : List ℕ} (hsub : queue.Sublist (p.readyQueues s)) :
    Spares p (p.withCore (p.setReady s queue)) := by
  refine Spares.same rfl ?_ rfl
  intro t
  show (Function.update p.readyQueues s queue t).Sublist (p.readyQueues t)
  by_cases ht : t = s
  · rw [ht, Function.update_self]
    exact hsub
  · rw [Function.update_of_ne ht]

theorem recycle_spares (hi : p.waits i = false) : Spares p (p.recycle i) := by
  unfold Pipeline.recycle
  split
  · exact Spares.quiet rfl rfl rfl
  · refine setRecord_spares hi (Or.inl ?_)
    decide

/-- Eviction takes READY and promoted frames. -/
theorem evictCompleteBuffer_spares (p : Pipeline) (i : ℕ) :
    Spares p (p.evictCompleteBuffer i).1 ∧
      ((p.evictCompleteBuffer i).2 = true → ((p.evictCompleteBuffer i).1.records i).state = .free) := by
  have hinvalid : Spares p p.invalidOperation := Spares.quiet rfl rfl rfl
  unfold Pipeline.evictCompleteBuffer
  dsimp only
  split
  · exact ⟨hinvalid, fun h => by cases h⟩
  rename_i hbound
  have hi : i < 200 := by
    unfold kPacketBufferCount at hbound
    omega
  split
  · exact ⟨hinvalid, fun h => by cases h⟩
  rename_i hguard
  simp only [Bool.or_eq_true, Bool.and_eq_true, decide_eq_true_eq, not_or, not_and, not_not] at hguard
  have hwaits : p.waits i = false := by
    apply Core.not_waits
    left
    intro hfilling
    have := hguard.1.1 (by rw [hfilling]; decide)
    rw [hfilling] at this
    cases this
  split
  · split
    · exact ⟨hinvalid, fun h => by cases h⟩
    rename_i queue herase
    have hsub : queue.Sublist (p.readyQueues (p.records i).stream) := by
      unfold eraseFirst at herase
      split at herase
      · rw [← Option.some.inj herase]
        exact List.erase_sublist
      · cases herase
    have hpopped := setReady_spares (p := p) hsub
    generalize hq : p.withCore (p.setReady (p.records i).stream queue) = popped at hpopped
    have hwaits' : popped.waits i = false := by rw [← hq]; exact hwaits
    refine ⟨?_, fun _ => (dropBuffer_records popped i true).2 hi⟩
    exact (hpopped.trans (dropBuffer_spares hwaits' true)).trans (Spares.quiet rfl rfl rfl)
  split
  · exact ⟨hinvalid, fun h => by cases h⟩
  split
  · exact ⟨hinvalid, fun h => by cases h⟩
  generalize hq : p.withCore _ = lowered
  have hlowered : Spares p lowered := by
    rw [← hq]
    exact Spares.quiet rfl rfl rfl
  have hwaits' : lowered.waits i = false := by rw [← hq]; exact hwaits
  refine ⟨?_, fun _ => (dropBuffer_records lowered i true).2 hi⟩
  exact (hlowered.trans (dropBuffer_spares hwaits' true)).trans (Spares.quiet rfl rfl rfl)

theorem takeFreeBuffer_spares (p : Pipeline) : Spares p p.takeFreeBuffer.1 ∧
    ∀ i, p.takeFreeBuffer.2 = some i → (p.takeFreeBuffer.1.records i).state = .free := by
  unfold Pipeline.takeFreeBuffer
  dsimp only
  split
  · rename_i o hfind
    refine ⟨Spares.quiet rfl rfl rfl, ?_⟩
    intro i hi
    rw [← Option.some.inj hi]
    simpa using List.find?_some hfind
  split
  · exact ⟨Spares.quiet rfl rfl rfl, fun _ h => by cases h⟩
  rename_i victim _
  generalize hcounted : ({ p with poolExhaustions := sat32 p.poolExhaustions 1 } : Pipeline) = q
  have hfirst : Spares p q := by
    rw [← hcounted]
    exact Spares.quiet rfl rfl rfl
  obtain ⟨hevicted, hfree⟩ := evictCompleteBuffer_spares q victim
  split
  · rename_i hyes
    refine ⟨(hfirst.trans hevicted).trans (Spares.quiet rfl rfl rfl), ?_⟩
    intro i hi
    rw [← Option.some.inj hi]
    exact hfree hyes
  · exact ⟨hfirst.trans hevicted, fun _ h => by cases h⟩

theorem beginFill_spares (p : Pipeline) (s : Stream) : Spares p (p.beginFill s).1 := by
  unfold Pipeline.beginFill
  split
  · exact Spares.quiet rfl rfl rfl
  split
  · exact Spares.quiet rfl rfl rfl
  dsimp only
  generalize hproduced : p.withCore (p.setCounters s _) = produced
  have hfirst : Spares p produced := by
    rw [← hproduced]
    exact Spares.quiet rfl rfl rfl
  obtain ⟨htaken, hfree⟩ := takeFreeBuffer_spares produced
  apply hfirst.trans
  split
  · rename_i q hq
    rw [hq] at htaken
    exact htaken.trans (Spares.quiet rfl rfl rfl)
  · rename_i q i hq
    rw [hq] at htaken hfree
    have hi : q.waits i = false := by
      apply Core.not_waits
      left
      rw [hfree i rfl]
      decide
    exact htaken.trans (Spares.set (i := i) rfl hi (Or.inr rfl) (fun _ => List.Sublist.refl _) rfl)

theorem recordSourceFrameDrops_spares (p : Pipeline) (s : Stream) (n : ℕ) :
    Spares p (p.recordSourceFrameDrops s n).1 := by
  unfold Pipeline.recordSourceFrameDrops
  split
  · exact Spares.quiet rfl rfl rfl
  split
  · exact Spares.quiet rfl rfl rfl
  split
  · exact Spares.refl p
  · exact Spares.quiet rfl rfl rfl

theorem writePayload_spares (p : Pipeline) (h : FillHandle) (off : ℕ) (bs : Bytes) :
    Spares p (p.writePayload h off bs) := by
  unfold Pipeline.writePayload
  split
  · exact Spares.quiet rfl rfl rfl
  · exact Spares.quiet rfl rfl rfl

/-- A handle is for an open buffer. -/
theorem not_waits_of_handle {h : FillHandle} (hm : p.handleMatches h = true) :
    p.waits h.bufferIndex = false := by
  obtain ⟨-, -, hopen, -⟩ := Core.handleMatches_iff hm
  exact Core.not_waits (Or.inr hopen)

theorem cancelFill_spares (p : Pipeline) (h : FillHandle) : Spares p (p.cancelFill h).1 := by
  unfold Pipeline.cancelFill
  split
  · exact Spares.quiet rfl rfl rfl
  · rename_i hm
    exact dropBuffer_spares (not_waits_of_handle (by simpa using hm)) false

/-- Only open buffers are cancelled. -/
theorem stopProduction_spares (p : Pipeline) : Spares p p.stopProduction.1 := by
  have hscan : ∀ (l : List ℕ) (acc : Pipeline × ℕ),
      Spares acc.1 (l.foldl (fun (acc : Pipeline × ℕ) i =>
        if (decide ((acc.1.records i).state ≠ .filling) ||
            decide ((acc.1.records i).frameSize ≠ 0)) = true then acc
        else (acc.1.dropBuffer i false, acc.2 + 1)) acc).1 := by
    intro l
    induction l with
    | nil => exact fun acc => Spares.refl acc.1
    | cons i l ih =>
      intro acc
      rw [List.foldl_cons]
      refine Spares.trans ?_ (ih _)
      split
      · exact Spares.refl acc.1
      · rename_i hopen
        simp only [Bool.or_eq_true, decide_eq_true_eq, not_or, not_not] at hopen
        exact dropBuffer_spares (Core.not_waits (Or.inr hopen.2)) false
  unfold Pipeline.stopProduction
  dsimp only
  generalize hclosed : ({ p with acceptingFrames := false } : Pipeline) = closed
  have hfirst : Spares p closed := by
    rw [← hclosed]
    exact Spares.quiet rfl rfl rfl
  exact hfirst.trans (hscan (List.range kPacketBufferCount) (closed, 0))

theorem finalizeGapBefore_spares (hi : p.waits i = false) :
    Spares p (p.finalizeGapBefore i).1 ∧ (p.finalizeGapBefore i).1.waits i = false := by
  unfold Pipeline.finalizeGapBefore
  dsimp only
  split
  · exact ⟨Spares.refl p, hi⟩
  split
  · exact ⟨Spares.refl p, hi⟩
  split
  · exact ⟨Spares.refl p, hi⟩
  split
  · exact ⟨Spares.refl p, hi⟩
  split
  · exact ⟨Spares.quiet rfl rfl rfl, hi⟩
  have hsame : (p.records i).state ≠ .filling ∨ (p.records i).frameSize = 0 := by
    by_contra hno
    rw [not_or, not_not] at hno
    rw [Core.waits_iff.mpr hno] at hi
    cases hi
  refine ⟨Spares.set (i := i) rfl hi hsame (fun _ => List.Sublist.refl _) rfl, ?_⟩
  apply Core.not_waits
  simp only [Pipeline.withCore, Core.setRecord, Function.update_self]
  exact hsame

/-- A turn of the promotion loop takes a READY head off its queue. -/
theorem serviceTurn_spares (p : Pipeline) (report : PromotionReport) :
    Spares p (p.serviceTurn report).pipe ∧ ∀ s, (p.serviceTurn report).promoted = some s →
      ∃ i rest, p.readyQueues s = i :: rest ∧
        (p.serviceTurn report).pipe.readyQueues = Function.update p.readyQueues s rest := by
  unfold Pipeline.serviceTurn
  split
  · exact ⟨Spares.refl p, fun _ h => by cases h⟩
  split
  · split
    · exact ⟨Spares.quiet rfl rfl rfl, fun _ h => by cases h⟩
    · exact ⟨Spares.refl p, fun _ h => by cases h⟩
  rename_i s d hselect
  have hcandidate := Pipeline.selectFrom_some hselect
  split
  · exact ⟨Spares.quiet rfl rfl rfl, fun _ h => by cases h⟩
  rename_i i rest hqueue
  have hwaits : p.waits i = false := by
    unfold Pipeline.readyCandidate at hcandidate
    simp only [hqueue, Bool.and_eq_true, decide_eq_true_eq] at hcandidate
    apply Core.not_waits
    left
    rw [hcandidate.2]
    decide
  have hrest : rest.Sublist (p.readyQueues s) := by
    rw [hqueue]
    exact List.sublist_cons_self i rest
  have hpopped := setReady_spares (p := p) hrest
  have hqueues : (p.withCore (p.setReady s rest)).readyQueues =
    Function.update p.readyQueues s rest := rfl
  have hwaits' : (p.withCore (p.setReady s rest)).waits i = false := hwaits
  dsimp only
  generalize p.withCore (p.setReady s rest) = popped at hpopped hqueues hwaits'
  have hinvalid : Spares popped popped.invalidOperation := Spares.quiet rfl rfl rfl
  split
  · exact ⟨hpopped.trans hinvalid, fun _ h => by cases h⟩
  split
  · refine ⟨(hpopped.trans hinvalid).trans (dropBuffer_spares ?_ false), fun _ h => by cases h⟩
    exact hwaits'
  obtain ⟨hfinal, hwaits''⟩ := finalizeGapBefore_spares hwaits'
  have hready := finalizeGapBefore_readyQueues (p := popped) (i := i)
  generalize popped.finalizeGapBefore i = finalized at hfinal hwaits'' hready
  have hmoved := hpopped.trans hfinal
  split
  · refine ⟨hmoved.trans ?_, fun _ h => by cases h⟩
    have hcounted : Spares finalized.1 finalized.1.encodingRejection := Spares.quiet rfl rfl rfl
    refine hcounted.trans (dropBuffer_spares ?_ false)
    exact hwaits''
  split
  · refine ⟨hmoved.trans ?_, fun _ h => by cases h⟩
    generalize hrejected : ({ finalized.1 with
      transmitQueueRejections := sat32 finalized.1.transmitQueueRejections 1 } : Pipeline) = rejected
    have hcounted : Spares finalized.1 rejected := by
      rw [← hrejected]
      exact Spares.quiet rfl rfl rfl
    refine hcounted.trans (dropBuffer_spares ?_ false)
    rw [← hrejected]
    exact hwaits''
  · refine ⟨hmoved.trans ?_, ?_⟩
    · refine Spares.set (i := i) rfl hwaits'' (Or.inl ?_) (fun _ => List.Sublist.refl _) rfl
      simp
    · intro t ht
      rw [← Option.some.inj ht]
      exact ⟨i, rest, hqueue, hready.trans hqueues⟩

theorem serviceLoop_spares (limit fuel : ℕ) : ∀ (p : Pipeline) (report : PromotionReport),
    Spares p (Pipeline.serviceLoop limit fuel p report).1 := by
  induction fuel with
  | zero => exact fun p _ => Spares.refl p
  | succ fuel ih =>
    intro p report
    have hturn := (serviceTurn_spares p report).1
    rw [serviceLoop_succ]
    split
    · exact Spares.refl p
    split
    · exact hturn.trans (ih _ _)
    · exact hturn

/-! ### The transport's side -/

variable {g : History} (hinv : Inv ⟨p.toCore, g⟩)

include hinv

/-- The front frame does not wait for a codec. -/
theorem front_not_waits {rest : List ℕ} (hqueue : p.transmitQueue = i :: rest) :
    p.waits i = false := by
  apply Core.not_waits
  left
  rw [(hinv.front hqueue).2.1]
  decide

theorem prepareFrontFrame_spares : Spares p p.prepareFrontFrame.1 := by
  unfold Pipeline.prepareFrontFrame
  split
  · exact Spares.quiet rfl rfl rfl
  rename_i i rest hqueue
  dsimp only
  split
  · exact Spares.quiet rfl rfl rfl
  split
  · exact Spares.quiet rfl rfl rfl
  · exact (finalizeGapBefore_spares (front_not_waits hinv hqueue)).1

theorem markFrontFrameStarted_spares : Spares p p.markFrontFrameStarted := by
  unfold Pipeline.markFrontFrameStarted
  split
  · exact Spares.quiet rfl rfl rfl
  rename_i i rest hqueue
  dsimp only
  split
  · exact Spares.quiet rfl rfl rfl
  split
  · exact Spares.quiet rfl rfl rfl
  · refine setRecord_spares (front_not_waits hinv hqueue) (Or.inl ?_)
    rw [(hinv.front hqueue).2.1]
    decide

omit hinv in
theorem lowerDepth_spares (p : Pipeline) (s : Stream) : Spares p (p.lowerDepth s) ∧
    ∀ i, (p.lowerDepth s).waits i = p.waits i := by
  unfold Pipeline.lowerDepth
  split
  · exact ⟨Spares.quiet rfl rfl rfl, fun _ => rfl⟩
  · exact ⟨Spares.quiet rfl rfl rfl, fun _ => rfl⟩

theorem abortFrontFrame_spares : Spares p p.abortFrontFrame.1 := by
  unfold Pipeline.abortFrontFrame
  split
  · exact Spares.quiet rfl rfl rfl
  rename_i i rest hqueue
  have hwaits := front_not_waits hinv hqueue
  have hpopped : Spares p (p.withCore (p.setTransmit rest)) := Spares.quiet rfl rfl rfl
  have hwaits' : (p.withCore (p.setTransmit rest)).waits i = false := hwaits
  dsimp only
  apply hpopped.trans
  generalize p.withCore (p.setTransmit rest) = popped at hwaits'
  have hinvalid : Spares popped popped.invalidOperation := Spares.quiet rfl rfl rfl
  split
  · exact hinvalid
  split
  · refine hinvalid.trans (recycle_spares ?_)
    exact hwaits'
  · obtain ⟨hlowered, hsame⟩ := lowerDepth_spares popped (popped.records i).stream
    refine hlowered.trans (dropBuffer_spares ?_ false)
    rw [hsame]
    exact hwaits'

theorem releaseFrontFrame_spares : Spares p p.releaseFrontFrame := by
  unfold Pipeline.releaseFrontFrame
  split
  · exact Spares.quiet rfl rfl rfl
  rename_i i rest hqueue
  have hwaits := front_not_waits hinv hqueue
  have hstate := (hinv.front hqueue).2.1
  have hpopped : Spares p (p.withCore (p.setTransmit rest)) := Spares.quiet rfl rfl rfl
  have hwaits' : (p.withCore (p.setTransmit rest)).waits i = false := hwaits
  have hstate' : ((p.withCore (p.setTransmit rest)).records i).state ≠ .filling := by
    show (p.records i).state ≠ .filling
    rw [hstate]
    decide
  dsimp only
  apply hpopped.trans
  generalize p.withCore (p.setTransmit rest) = popped at hwaits' hstate'
  have hinvalid : Spares popped popped.invalidOperation := Spares.quiet rfl rfl rfl
  split
  · exact hinvalid
  split
  · refine hinvalid.trans (recycle_spares ?_)
    exact hwaits'
  · generalize hstarted : popped.withCore _ = started
    have hfirst : Spares popped started := by
      rw [← hstarted]
      exact Spares.set (i := i) rfl hwaits' (Or.inl hstate') (fun _ => List.Sublist.refl _) rfl
    have hfirst' : started.waits i = false := by
      rw [← hstarted]
      apply Core.not_waits
      simp only [Pipeline.withCore, Core.setRecord, Core.setCounters, Function.update_self]
      exact Or.inl hstate'
    obtain ⟨hlowered, hsame⟩ := lowerDepth_spares started (popped.records i).stream
    refine (hfirst.trans hlowered).trans (recycle_spares ?_)
    rw [hsame]
    exact hfirst'

/-- A run starts when no page waits. -/
theorem startRun_spares (runId : UInt32) (alg : ChecksumAlgorithm) (mask : UInt8)
    (layout : RunLayout) : Spares p (p.startRun runId alg mask layout).1 := by
  by_cases hquiet : p.quiescent = true
  swap
  · unfold Pipeline.startRun
    split
    · exact Spares.quiet rfl rfl rfl
    rw [if_pos (by simpa using hquiet)]
    exact Spares.quiet rfl rfl rfl
  have hfree : ∀ j, (p.records j).state = .free := by
    intro j
    by_contra hlive
    have hj := (hinv.slot j).bound hlive
    unfold Core.quiescent at hquiet
    simp only [Bool.and_eq_true, decide_eq_true_eq] at hquiet
    have hzero := (countTo_eq_zero.mp hquiet.1.1) j hj
    simp [hlive] at hzero
  have hnone : ∀ j, p.waits j = false := by
    intro j
    apply Core.not_waits
    left
    rw [hfree j]
    decide
  rcases startRun_cases p runId alg mask layout with ⟨setup, heq⟩ | ⟨heq, -⟩
  · rw [heq]
    refine ⟨?_, ?_, fun _ => List.nil_sublist _, rfl⟩
    · intro j hj
      rw [hnone j] at hj
      cases hj
    · intro j hj
      have hreset : (p.reset runId mask setup).waits j = false := rfl
      rw [hreset] at hj
      cases hj
  · rw [heq]
    exact Spares.quiet rfl rfl rfl

/-! ### Finishing -/

omit hinv in
/-- What an accepted `finishFill` does: the page takes its place at the end of its FIFO and
waits there when its stream has a codec. -/
structure Finished (p q : Pipeline) (h : FillHandle) : Prop where
  bound : h.bufferIndex < 200
  fresh : p.waits h.bufferIndex = false
  absent : ∀ s, h.bufferIndex ∉ p.readyQueues s
  other : ∀ j, j ≠ h.bufferIndex → q.records j = p.records j
  queue : q.readyQueues =
    Function.update p.readyQueues h.stream (p.readyQueues h.stream ++ [h.bufferIndex])
  deferred : q.waits h.bufferIndex = p.deferred h.stream
  lease : q.waits h.bufferIndex = true → (q.records h.bufferIndex).lease = p.deferredNow
  clock : q.deferredNow = p.deferredNow

theorem finishFill_result (h : FillHandle) (completion : FrameCompletion) :
    ((p.finishFill h completion).2.status ≠ .ok ∧ Spares p (p.finishFill h completion).1) ∨
      ((p.finishFill h completion).2.status = .ok ∧ Finished p (p.finishFill h completion).1 h) := by
  unfold Pipeline.finishFill
  split
  · exact Or.inl ⟨by simp, Spares.quiet rfl rfl rfl⟩
  rename_i hm
  have hmatch : p.handleMatches h = true := by simpa using hm
  obtain ⟨hi, hstate, hopen, hstream, -⟩ := Core.handleMatches_iff hmatch
  have hwaits := not_waits_of_handle hmatch
  have hnot : ¬(p.records h.bufferIndex).Queued := by
    rintro (h1 | ⟨-, h1⟩)
    · rw [hstate] at h1
      cases h1
    · exact h1 hopen
  have hpush := hinv.push_ready (s := (p.records h.bufferIndex).stream) hi hnot
  have hsize := Closed.frameShape_pos p (p.records h.bufferIndex).stream
  dsimp only
  generalize p.encodePage (p.records h.bufferIndex) completion (p.frames h.bufferIndex) = encoded
  split
  · exact Or.inl ⟨by simp, dropBuffer_spares hwaits false⟩
  split
  · exact Or.inl ⟨by simp, dropBuffer_spares hwaits false⟩
  split
  · refine Or.inl ⟨by simp, ?_⟩
    have hcounted : Spares p p.encodingRejection := Spares.quiet rfl rfl rfl
    refine hcounted.trans (dropBuffer_spares ?_ false)
    exact hwaits
  split
  · refine Or.inl ⟨by simp, ?_⟩
    generalize hw : (p.withCore (p.setFrame h.bufferIndex encoded.2)).encodingRejection = written
    have hwritten : Spares p written := by
      rw [← hw]
      exact Spares.quiet rfl rfl rfl
    refine hwritten.trans (dropBuffer_spares ?_ false)
    rw [← hw]
    exact hwaits
  split
  · rename_i hfull
    exact absurd (hpush.symm.trans hfull) (by simp)
  rename_i queue hqueued
  have hqueue : p.readyQueues (p.records h.bufferIndex).stream ++ [h.bufferIndex] = queue :=
    Option.some.inj (hpush.symm.trans hqueued)
  have habsent : ∀ s, h.bufferIndex ∉ p.readyQueues s :=
    fun s hmem => hnot ((hinv.queues.ready_mem s _).mp hmem).2
  split
  · rename_i hdeferred
    refine Or.inr ⟨rfl, hi, hwaits, habsent, ?_, ?_, ?_, ?_, rfl⟩
    · intro j hj
      simp [Pipeline.withCore, Core.setRecord, Core.setReady, Core.setFrame,
        Function.update_of_ne hj]
    · rw [← hstream, hqueue]
      rfl
    · rw [← hstream, hdeferred, Core.waits_iff]
      simp only [Pipeline.withCore, Core.setRecord, Function.update_self]
      exact ⟨hstate, hsize⟩
    · intro _
      simp only [Pipeline.withCore, Core.setRecord, Function.update_self]
  · rename_i hdeferred
    have hready : ∀ (q : Pipeline) (i : ℕ), (q.publishReady i).waits i = false := by
      intro q i
      apply Core.not_waits
      left
      simp [publishReady_core, Core.publish, Core.setRecord, Core.setCounters]
    refine Or.inr ⟨rfl, hi, hwaits, habsent, ?_, ?_, ?_, ?_, rfl⟩
    · intro j hj
      simp [publishReady_core, Core.publish, Pipeline.withCore, Core.setRecord, Core.setReady,
        Core.setFrame, Core.setCounters, Function.update_of_ne hj]
    · rw [← hstream, hqueue]
      rfl
    · rw [← hstream, hready]
      exact (Bool.eq_false_iff.mpr hdeferred).symm
    · intro hw
      rw [hready] at hw
      cases hw

end Operations

/-! ### The service of waiting pages -/

/-- The page a call of `serviceDeferred` runs the codec on, when it has a budget: the oldest
waiting one of the first stream whose oldest is within its deadline. -/
def Pipeline.takenUp (p : Pipeline) (ticks : UInt64) : List Stream → Option ℕ
  | [] => none
  | s :: rest =>
    match p.oldestDeferred s with
    | none => p.takenUp ticks rest
    | some i =>
      if 80000 ≤ (ticks.toUInt32 - (p.records i).lease).toNat then p.takenUp ticks rest else some i

/-- What a call can do to the pages: a waiting one is dropped, or it is the one taken up and
was published in time. -/
structure Serviced (taken : Option ℕ) (ended : UInt64) (p q : Pipeline) : Prop where
  outcome : ∀ j, (∃ b, q.records j = { p.records j with gapBeforeRequired := b }) ∨
    (p.waits j = true ∧ ((q.records j).state = .free ∨ ((q.records j).state = .ready ∧
      taken = some j ∧ (ended.toUInt32 - (p.records j).lease).toNat < 80000)))
  clock : q.deferredNow = p.deferredNow

section Service

variable {p q r : Pipeline} {g : History} {i : ℕ} {s : Stream} {taken : Option ℕ} {ended : UInt64}

theorem Serviced.same (hrec : q.records = p.records) (hclock : q.deferredNow = p.deferredNow) :
    Serviced taken ended p q where
  outcome := fun j => Or.inl ⟨(p.records j).gapBeforeRequired, by rw [hrec]⟩
  clock := hclock

/-- One page is dropped or published. -/
theorem Serviced.one (hoff : OffBy i p.toCore q.toCore) (hi : p.waits i = true)
    (hone : (q.records i).state = .free ∨ ((q.records i).state = .ready ∧ taken = some i ∧
      (ended.toUInt32 - (p.records i).lease).toNat < 80000))
    (hclock : q.deferredNow = p.deferredNow) : Serviced taken ended p q where
  outcome := by
    intro j
    by_cases hj : j = i
    · rw [hj]
      exact Or.inr ⟨hi, hone⟩
    · exact Or.inl (hoff j hj)
  clock := hclock

/-- A page that was served is not served again in the same call. -/
theorem Serviced.trans (h : Serviced taken ended p q) (h' : Serviced taken ended q r) :
    Serviced taken ended p r where
  outcome := by
    intro j
    rcases h.outcome j with ⟨b, hb⟩ | ⟨hwaits, hdone⟩
    · have hsame : q.waits j = p.waits j := by
        unfold Core.waits
        rw [hb]
      rcases h'.outcome j with ⟨b', hb'⟩ | ⟨hwaits', hdone⟩
      · exact Or.inl ⟨b', by rw [hb', hb]⟩
      · rw [hb] at hdone
        rw [hsame] at hwaits'
        exact Or.inr ⟨hwaits', hdone⟩
    · -- it is free or READY by now, so it does not wait
      have hnot : q.waits j = false := by
        apply Core.not_waits
        left
        rcases hdone with hfree | ⟨hready, -⟩
        · rw [hfree]
          decide
        · rw [hready]
          decide
      rcases h'.outcome j with ⟨b', hb'⟩ | ⟨hwaits', -⟩
      · right
        rw [hb']
        exact ⟨hwaits, hdone⟩
      · rw [hnot] at hwaits'
        cases hwaits'
  clock := h'.clock.trans h.clock

/-- A queued page is taken out and dropped. -/
theorem discardDeferred_records (hi : i < 200) :
    OffBy i p.toCore (p.discardDeferred s i).toCore ∧
      ((p.discardDeferred s i).records i).state = .free := by
  obtain ⟨hoff, hfree⟩ := dropBuffer_records
    (p.withCore (p.setReady s ((p.readyQueues s).erase i))) i false
  exact ⟨hoff, hfree hi⟩

theorem discardDeferred_clock (p : Pipeline) (s : Stream) (i : ℕ) :
    (p.discardDeferred s i).deferredNow = p.deferredNow :=
  dropBuffer_clock (p.withCore (p.setReady s ((p.readyQueues s).erase i))) i false

/-- The other stream's FIFO stays as it is. -/
theorem discardDeferred_readyQueues {t : Stream} (ht : t ≠ s) :
    (p.discardDeferred s i).readyQueues t = p.readyQueues t := by
  unfold Pipeline.discardDeferred
  rw [dropBuffer_readyQueues]
  exact Function.update_of_ne ht _ _

/-- The oldest waiting page of a FIFO that lost nothing. -/
theorem oldestDeferred_eq {t : Stream} (hqueue : q.readyQueues t = p.readyQueues t)
    (hoff : OffBy i p.toCore q.toCore) (hnot : i ∉ p.readyQueues t) :
    q.oldestDeferred t = p.oldestDeferred t := by
  unfold Pipeline.oldestDeferred
  rw [hqueue]
  apply List.find?_congr
  intro j hj
  have hne : j ≠ i := by
    rintro rfl
    exact hnot hj
  rw [hoff.state hne, hoff.frameSize hne]

/-- So is the page taken up of the streams that are left. -/
theorem takenUp_eq (ticks : UInt64) (hinv : Inv ⟨p.toCore, g⟩) (hmem : i ∈ p.readyQueues s)
    (hqueue : ∀ t, t ≠ s → q.readyQueues t = p.readyQueues t) (hoff : OffBy i p.toCore q.toCore) :
    ∀ {l : List Stream}, s ∉ l → q.takenUp ticks l = p.takenUp ticks l := by
  intro l
  induction l with
  | nil => exact fun _ => rfl
  | cons t l ih =>
    intro hs
    rw [List.mem_cons, not_or] at hs
    have hts : t ≠ s := fun h => hs.1 h.symm
    have hnot : i ∉ p.readyQueues t := by
      intro hi
      have h1 := ((hinv.queues.ready_mem s i).mp hmem).1
      have h2 := ((hinv.queues.ready_mem t i).mp hi).1
      exact hts (h2.symm.trans h1)
    rw [Pipeline.takenUp, Pipeline.takenUp, oldestDeferred_eq (hqueue t hts) hoff hnot, ih hs.2]
    cases hold : p.oldestDeferred t with
    | none => rfl
    | some j =>
      have hj : j ≠ i := by
        rintro rfl
        exact hnot (oldestDeferred_some hold).1
      obtain ⟨b, hb⟩ := hoff j hj
      simp only
      rw [hb]

theorem recycle_clock (p : Pipeline) (i : ℕ) : (p.recycle i).deferredNow = p.deferredNow := by
  unfold Pipeline.recycle
  split <;> rfl

theorem compressGpio_clock (p : Pipeline) (i : ℕ) :
    (p.compressGpio i).1.deferredNow = p.deferredNow := by
  unfold Pipeline.compressGpio
  dsimp only
  generalize Rle.sizeForAdaptiveSelection _ _ _ = selection
  split
  · rfl
  split
  · rfl
  split
  · rfl
  generalize (if (p.layoutOf i).itemBytes = 2 then _ else _ : Rle.EncodeResult × Bytes) = encoded
  split
  · generalize p.sealRle _ _ _ _ = sealed
    split
    · exact recycle_clock _ _
    · exact recycle_clock _ _
  · exact recycle_clock _ _

theorem packAdc12_clock (p : Pipeline) (i : ℕ) : (p.packAdc12 i).1.deferredNow = p.deferredNow := by
  unfold Pipeline.packAdc12
  dsimp only
  split
  · rfl
  split <;> rfl

/-- The codec rewrites the page it was given, which is then dropped or published. -/
theorem encodeDeferred_serviced (hinv : Inv ⟨p.toCore, g⟩) (hwait : Waiting p.toCore)
    (hi : p.waits i = true) (ticks : UInt64) (readTicks : Option (UInt64 × UInt64)) :
    Serviced (some i) ((readTicks.map Prod.snd).getD ticks) p
      (p.encodeDeferred ticks readTicks s i) := by
  obtain ⟨hstate, hsize⟩ := Core.waits_iff.mp hi
  have hbound : i < 200 := (hinv.slot i).bound (by rw [hstate]; decide)
  obtain ⟨c, f, size, -, -, hrec, -, hcore⟩ :=
    codec_moves (R := ⟨false, false, false⟩) hinv hwait hstate hsize
  have hclock : (if (p.records i).stream = .gpio then p.compressGpio i else p.packAdc12 i).1.deferredNow =
      p.deferredNow := by
    split
    · exact compressGpio_clock p i
    · exact packAdc12_clock p i
  unfold Pipeline.encodeDeferred
  generalize (if (p.records i).stream = .gpio then p.compressGpio i else p.packAdc12 i) = coded
    at hcore hclock ⊢
  dsimp only
  generalize hended : (readTicks.map Prod.snd).getD ticks = ended
  generalize hcounted : coded.1.countWork s _ = worked
  have hworked : worked.toCore = c.rework i f size := by
    rw [← hcounted]
    exact hcore
  have hclock' : worked.deferredNow = p.deferredNow := by
    rw [← hcounted]
    exact hclock
  have hoff : OffBy i p.toCore worked.toCore := by
    intro j hj
    refine ⟨(p.records j).gapBeforeRequired, ?_⟩
    rw [hworked]
    simp only [Core.rework, Core.setRecord, Core.setFrame, Function.update_of_ne hj]
    rw [hrec]
  have hlease : (worked.records i).lease = (p.records i).lease := by
    rw [hworked]
    simp only [Core.rework, Core.setRecord, Function.update_self]
    rw [hrec]
  -- what is dropped from here on was changed in its own record only
  have hdiscard : ∀ (k : CodecCounters) (q : Pipeline),
      q.toCore = ((worked.setCodec s k).discardDeferred s i).toCore →
      q.deferredNow = ((worked.setCodec s k).discardDeferred s i).deferredNow →
      Serviced (some i) ended p q := by
    intro k q hq hqclock
    obtain ⟨hqoff, hfree⟩ := discardDeferred_records (p := worked.setCodec s k) (s := s) hbound
    refine Serviced.one (i := i) ?_ hi (Or.inl ?_) ?_
    · intro j hj
      obtain ⟨b, hb⟩ := hqoff j hj
      obtain ⟨b', hb'⟩ := hoff j hj
      refine ⟨b, ?_⟩
      rw [hq, hb]
      show ({ worked.records j with gapBeforeRequired := b } : BufferRecord) = _
      rw [hb']
    · rw [hq]
      exact hfree
    · rw [hqclock, discardDeferred_clock]
      exact hclock'
  unfold Pipeline.settleDeferred
  dsimp only
  split
  · exact hdiscard _ _ rfl rfl
  rename_i hlate
  split
  · exact hdiscard _ _ rfl rfl
  refine Serviced.one (i := i) ?_ hi (Or.inr ⟨?_, rfl, ?_⟩) hclock'
  · intro j hj
    obtain ⟨b, hb⟩ := hoff j hj
    refine ⟨b, ?_⟩
    simp only [publishReady_core, Core.publish, Core.setRecord, Core.setCounters,
      Function.update_of_ne hj]
    exact hb
  · simp only [publishReady_core, Core.publish, Core.setRecord, Core.setCounters,
      Function.update_self]
  · rw [hlease, decide_eq_true_eq] at hlate
    exact not_le.mp hlate

theorem takenUp_setCodec (ticks : UInt64) (p : Pipeline) (s : Stream) (k : CodecCounters)
    (l : List Stream) : (p.setCodec s k).takenUp ticks l = p.takenUp ticks l := by
  induction l with
  | nil => rfl
  | cons t l ih =>
    rw [Pipeline.takenUp, Pipeline.takenUp, ih]
    rfl

theorem serviceDeferredFrom_serviced (ticks : UInt64) (budget : ℕ)
    (readTicks : Option (UInt64 × UInt64)) {l : List Stream} : ∀ {p : Pipeline}, l.Nodup →
    Inv ⟨p.toCore, g⟩ → Waiting p.toCore → p.deferredNow = ticks.toUInt32 →
    Serviced (if budget = 0 then none else p.takenUp ticks l)
      ((readTicks.map Prod.snd).getD ticks) p
      (Pipeline.serviceDeferredFrom ticks budget readTicks l p) := by
  induction l with
  | nil => exact fun _ _ _ _ => Serviced.same rfl rfl
  | cons s l ih =>
    intro p hnodup hinv hwait hclock
    rw [List.nodup_cons] at hnodup
    rw [Pipeline.serviceDeferredFrom, Pipeline.takenUp]
    cases hold : p.oldestDeferred s with
    | none => exact ih hnodup.2 hinv hwait hclock
    | some i =>
      obtain ⟨hmem, hstate, hsize⟩ := oldestDeferred_some hold
      have hbound : i < 200 := (hinv.slot i).bound (by rw [hstate]; decide)
      dsimp only
      rw [hclock]
      generalize haged : p.setCodec s _ = aged
      have hsame : ∀ taken ended, Serviced taken ended p aged := by
        intro taken ended
        rw [← haged]
        exact Serviced.same rfl rfl
      have hcore : aged.toCore = p.toCore := by
        rw [← haged]
        rfl
      have haclock : aged.deferredNow = ticks.toUInt32 := by
        rw [← haged]
        exact hclock
      have htaken : aged.takenUp ticks l = p.takenUp ticks l := by
        rw [← haged]
        exact takenUp_setCodec ticks p s _ l
      rw [← hcore] at hinv hwait
      by_cases hlate : 80000 ≤ (ticks.toUInt32 - (p.records i).lease).toNat
      · -- past its deadline: the page is dropped and the other source gets its turn
        rw [if_pos hlate, if_pos hlate]
        generalize hk : aged.setCodec s _ = counted
        have hccore : counted.toCore = aged.toCore := by
          rw [← hk]
          rfl
        have hcounted : ∀ taken ended, Serviced taken ended aged counted := by
          intro taken ended
          rw [← hk]
          exact Serviced.same rfl rfl
        have hcclock : counted.deferredNow = ticks.toUInt32 := by
          rw [← hk]
          exact haclock
        obtain ⟨hoff, hfree⟩ := discardDeferred_records (p := counted) (s := s) hbound
        have hmoves := discardDeferred_moves (R := ⟨false, false, false⟩) (s := s) (q := counted)
          hinv (by rw [hcore]; exact hmem) (hccore.trans (Core.rework_self aged.toCore i).symm)
        have hwaits : counted.waits i = true := by
          apply Core.waits_iff.mpr
          rw [hccore, hcore]
          exact ⟨hstate, hsize⟩
        have hdone := (discardDeferred_clock counted s i).trans hcclock
        have hrest := ih hnodup.2 (hinv.moves hmoves) (hwait.moves hmoves) hdone
        have hcinv : Inv ⟨counted.toCore, g⟩ := by
          rw [hccore]
          exact hinv
        have hcmem : i ∈ counted.readyQueues s := by
          rw [hccore, hcore]
          exact hmem
        have heq : (counted.discardDeferred s i).takenUp ticks l = p.takenUp ticks l := by
          rw [takenUp_eq ticks hcinv hcmem (fun t ht => discardDeferred_readyQueues ht) hoff
            hnodup.1, ← htaken]
          rw [← hk]
          exact takenUp_setCodec ticks aged s _ l
        rw [heq] at hrest
        refine ((hsame _ _).trans (hcounted _ _)).trans (Serviced.trans ?_ hrest)
        exact Serviced.one hoff hwaits (Or.inl hfree) (discardDeferred_clock counted s i)
      rw [if_neg hlate, if_neg hlate]
      by_cases hbudget : budget = 0
      · rw [if_pos hbudget, if_pos hbudget]
        have hrest := ih hnodup.2 hinv hwait haclock
        rw [if_pos hbudget] at hrest
        exact (hsame _ _).trans hrest
      rw [if_neg hbudget, if_neg hbudget]
      refine (hsame _ _).trans (encodeDeferred_serviced hinv hwait ?_ ticks readTicks)
      apply Core.waits_iff.mpr
      rw [hcore]
      exact ⟨hstate, hsize⟩

end Service

/-- The run has a codec, so `serviceDeferred` has something to do. -/
def Pipeline.hasCodec (p : Pipeline) : Bool :=
  p.setup.layout.isV3 && !(p.setup.layout.gpioPolicy = .raw && p.setup.layout.adcPolicy = .raw)

theorem serviceDeferred_serviced {p : Pipeline} {g : History} (hinv : Inv ⟨p.toCore, g⟩)
    (hwait : Waiting p.toCore) (ticks : UInt64) (budget : ℕ)
    (readTicks : Option (UInt64 × UInt64)) (hcodec : p.hasCodec = true) :
    Serviced (if budget = 0 then none else
        p.takenUp ticks [p.nextCodecSource, p.nextCodecSource.peer])
      ((readTicks.map Prod.snd).getD ticks) (p.setDeferredClock ticks)
      (p.serviceDeferred ticks budget readTicks) := by
  have hnodup : [p.nextCodecSource, p.nextCodecSource.peer].Nodup := by
    cases p.nextCodecSource <;> decide
  have hguard : ¬(!p.setup.layout.isV3 || (decide (p.setup.layout.gpioPolicy = .raw) &&
      decide (p.setup.layout.adcPolicy = .raw))) = true := by
    unfold Pipeline.hasCodec at hcodec
    intro h
    simp only [Bool.and_eq_true, Bool.or_eq_true, Bool.not_eq_true', decide_eq_true_eq] at hcodec h
    rcases h with h | h
    · rw [hcodec.1] at h
      cases h
    · simp [h] at hcodec
  unfold Pipeline.serviceDeferred
  rw [if_neg hguard]
  have htaken : ∀ l, (p.setDeferredClock ticks).takenUp ticks l = p.takenUp ticks l := by
    intro l
    induction l with
    | nil => rfl
    | cons t l ih =>
      rw [Pipeline.takenUp, Pipeline.takenUp, ih]
      rfl
  rw [← htaken]
  exact serviceDeferredFrom_serviced ticks budget readTicks hnodup hinv hwait rfl

/-! ### History of finished frames -/

/-- Frames are numbered in the order they are finished.  `serial` and `finishedAt` are about the
frame a buffer holds, `deferred`, `published` and `dropped` about the frames that had to wait. -/
structure Ledger where
  /-- the last reading of the clock -/
  latest : ℕ := 0
  /-- the last reading the pipeline was given -/
  now : ℕ := 0
  finishes : ℕ := 0
  serial : ℕ → ℕ := fun _ => 0
  finishedAt : ℕ → ℕ := fun _ => 0
  deferred : List ℕ := []
  /-- number and age at the end of the encoding -/
  published : List (ℕ × ℕ) := []
  dropped : List ℕ := []
  promoted : Stream → List ℕ := fun _ => []

namespace Ledger

/-- Waiting pages that are READY or free after a call at clock `ended`. -/
def settle (l : Ledger) (p q : Pipeline) (ended : ℕ) : Ledger :=
  { l with
    published := l.published ++ ((List.range 200).filter fun j =>
      p.waits j && (q.records j).state = .ready).map fun j => (l.serial j, ended - l.finishedAt j)
    dropped := l.dropped ++ ((List.range 200).filter fun j =>
      p.waits j && (q.records j).state = .free).map l.serial }

/-- A finished frame, at the time the pipeline knows. -/
def finish (l : Ledger) (i : ℕ) (deferred : Bool) : Ledger :=
  { l with
    finishes := l.finishes + 1
    serial := Function.update l.serial i l.finishes
    finishedAt := Function.update l.finishedAt i l.now
    deferred := if deferred then l.deferred ++ [l.finishes] else l.deferred }

/-- The numbers of promoted frames of a stream: each was the head of its queue. -/
def heads (l : Ledger) (s : Stream) (xs : List (Pipeline × Stream)) : List ℕ :=
  xs.filterMap fun x => if x.2 = s then (x.1.readyQueues s).head?.map l.serial else none

def step (l : Ledger) (t : Tracked) (op : Op) : Ledger :=
  match op with
  | .finishFill h completion =>
    let settled := l.settle t.pipe (t.step op).pipe l.latest
    if (t.pipe.finishFill h completion).2.status = .ok then
      settled.finish h.bufferIndex (t.pipe.deferred h.stream) else settled
  | .setDeferredClock ticks =>
    { l.settle t.pipe (t.step op).pipe l.latest with latest := ticks.toNat, now := ticks.toNat }
  | .serviceDeferred ticks _ readTicks =>
    let ended := ((readTicks.map Prod.snd).getD ticks).toNat
    { l.settle t.pipe (t.step op).pipe ended with
      latest := ended
      now := if t.pipe.hasCodec then ticks.toNat else l.now }
  | .serviceReadyFrames limit =>
    { l.settle t.pipe (t.step op).pipe l.latest with
      promoted := fun s => l.promoted s ++ l.heads s (t.pipe.promotions limit) }
  | _ => l.settle t.pipe (t.step op).pipe l.latest

/-- The numbers of the frames that wait. -/
def waiting (l : Ledger) (p : Pipeline) : List ℕ := ((List.range 200).filter p.waits).map l.serial

/-- The clock does not go back, and fewer than 2³² ticks pass until the next call. -/
def Clock (l : Ledger) : Op → Prop
  | .setDeferredClock ticks => l.latest ≤ ticks.toNat
  | .serviceDeferred ticks _ readTicks => l.latest ≤ ticks.toNat ∧ ticks.toNat < l.latest + 2 ^ 32 ∧
      ∀ reads, readTicks = some reads → ticks.toNat ≤ reads.1.toNat ∧ reads.1.toNat ≤ reads.2.toNat
  | _ => True

/-- The page a call takes up has not grown so old that its age seems to be within the deadline
again. -/
def Unwrapped (l : Ledger) (p : Pipeline) : Op → Prop
  | .serviceDeferred ticks budget readTicks => budget ≠ 0 → ∀ i,
      p.takenUp ticks [p.nextCodecSource, p.nextCodecSource.peer] = some i →
      80000 ≤ ((readTicks.map Prod.snd).getD ticks).toNat - l.finishedAt i →
      80000 ≤ (((readTicks.map Prod.snd).getD ticks).toNat - l.finishedAt i) % 2 ^ 32
  | _ => True

end Ledger

/-- The states and histories of runs with such a clock; with `unwrapped`, their calls of
`serviceDeferred` take up no page with a wrapped age. -/
inductive Timed (R : Rules) (unwrapped : Bool) : Tracked → Ledger → Prop
  | initial : Timed R unwrapped Tracked.initial {}
  | step {t : Tracked} {l : Ledger} {op : Op} (h : Timed R unwrapped t l) (hguard : t.Guard R op)
      (hclock : l.Clock op) (hage : unwrapped = true → l.Unwrapped t.pipe op) :
      Timed R unwrapped (t.step op) (l.step t op)

theorem Timed.reach {R : Rules} {unwrapped : Bool} {t : Tracked} {l : Ledger}
    (h : Timed R unwrapped t l) : Reach R t := by
  induction h with
  | initial => exact Reach.initial
  | step _ hguard _ _ ih => exact ih.step hguard

/-! ### Deadline, single outcome and order -/

/-- What the ledger says about deferred frames. -/
structure Settled (l : Ledger) (p : Pipeline) : Prop where
  /-- a published frame was in time when its encoding was done -/
  deadline : ∀ x ∈ l.published, x.2 < 80000
  /-- a deferred frame is published, dropped or still waiting, and that once -/
  once : (l.published.map Prod.fst ++ l.dropped ++ l.waiting p).Perm l.deferred
  distinct : l.deferred.Nodup
  /-- the frames of a stream are promoted in the order they were finished -/
  order : ∀ s, (l.promoted s).Pairwise (· < ·)

/-- The invariant behind it. -/
structure Booked (l : Ledger) (p : Pipeline) : Prop where
  clock : p.deferredNow.toNat = l.now % 2 ^ 32
  behind : l.now ≤ l.latest
  stamp : ∀ j, p.waits j = true →
    (p.records j).lease.toNat = l.finishedAt j % 2 ^ 32 ∧ l.finishedAt j ≤ l.now
  deadline : ∀ x ∈ l.published, x.2 < 80000
  once : (l.published.map Prod.fst ++ l.dropped ++ l.waiting p).Perm l.deferred
  rising : l.deferred.Pairwise (· < ·)
  numbered : ∀ n ∈ l.deferred, n < l.finishes
  line : ∀ s, (l.promoted s ++ (p.readyQueues s).map l.serial).Pairwise (· < ·)
  lined : ∀ s, ∀ n ∈ l.promoted s ++ (p.readyQueues s).map l.serial, n < l.finishes

section Booked

variable {l : Ledger} {p q : Pipeline} {i : ℕ}

theorem Booked.settled (h : Booked l p) : Settled l p where
  deadline := h.deadline
  once := h.once
  distinct := h.rising.imp Nat.ne_of_lt
  order := fun s => (List.pairwise_append.mp (h.line s)).1

theorem Spares.waits (h : Spares p q) (j : ℕ) : q.waits j = p.waits j := by
  rw [Bool.eq_iff_iff]
  refine ⟨h.fewer j, ?_⟩
  intro hj
  obtain ⟨b, hb⟩ := h.kept j hj
  unfold Core.waits at hj ⊢
  rw [hb]
  exact hj

/-- When every waiting page still waits there is nothing to settle. -/
theorem settle_idle (h : ∀ j, p.waits j = true → q.waits j = true) (ended : ℕ) :
    l.settle p q ended = l := by
  have hnone : ∀ st : BufferState, st ≠ .filling →
      ((List.range 200).filter fun j => p.waits j && decide ((q.records j).state = st)) = [] := by
    intro st hst
    apply List.filter_eq_nil_iff.mpr
    intro j _ hj
    rw [Bool.and_eq_true, decide_eq_true_eq] at hj
    have hfilling := (Core.waits_iff.mp (h j hj.1)).1
    exact hst (hj.2.symm.trans hfilling)
  unfold Ledger.settle
  rw [hnone .ready (by decide), hnone .free (by decide), List.map_nil, List.map_nil,
    List.append_nil, List.append_nil]

theorem Spares.settle (h : Spares p q) (ended : ℕ) : l.settle p q ended = l :=
  settle_idle (fun j hj => by rw [h.waits]; exact hj) ended

/-- An operation that leaves waiting pages alone keeps the books. -/
theorem Booked.spares (hl : Booked l p) (h : Spares p q) : Booked l q where
  clock := by
    rw [h.clock]
    exact hl.clock
  behind := hl.behind
  stamp := by
    intro j hj
    have hp := h.fewer j hj
    obtain ⟨b, hb⟩ := h.kept j hp
    rw [hb]
    exact hl.stamp j hp
  deadline := hl.deadline
  once := by
    have hsame : l.waiting q = l.waiting p := by
      unfold Ledger.waiting
      rw [List.filter_congr fun j _ => h.waits j]
    rw [hsame]
    exact hl.once
  rising := hl.rising
  numbered := hl.numbered
  line := by
    intro s
    refine (hl.line s).sublist (List.Sublist.append_left ?_ _)
    exact (h.ready s).map l.serial
  lined := by
    intro s n hn
    refine hl.lined s n (List.Sublist.mem hn (List.Sublist.append_left ?_ _))
    exact (h.ready s).map l.serial

/-- The heads a promotion loop takes come off the queues in order. -/
theorem promotionsFrom_sublist (l : Ledger) (limit : ℕ) (s : Stream) (fuel : ℕ) :
    ∀ (p : Pipeline) (report : PromotionReport),
    (l.heads s (Pipeline.promotionsFrom limit fuel p report) ++
      ((Pipeline.serviceLoop limit fuel p report).1.readyQueues s).map l.serial).Sublist
      ((p.readyQueues s).map l.serial) := by
  induction fuel with
  | zero => exact fun p _ => List.Sublist.refl _
  | succ fuel ih =>
    intro p report
    obtain ⟨hspares, hpops⟩ := serviceTurn_spares p report
    rw [serviceLoop_succ, Pipeline.promotionsFrom]
    split
    · exact List.Sublist.refl _
    -- the turn itself, before the rest of the loop
    have hturn : (l.heads s ((p.serviceTurn report).promoted.map fun s => (p, s)).toList ++
        ((p.serviceTurn report).pipe.readyQueues s).map l.serial).Sublist
        ((p.readyQueues s).map l.serial) := by
      cases hpromoted : (p.serviceTurn report).promoted with
      | none => exact (hspares.ready s).map l.serial
      | some t =>
        obtain ⟨i, rest, hqueue, hrest⟩ := hpops t hpromoted
        by_cases hts : t = s
        · subst hts
          rw [hrest, Function.update_self]
          simp [Ledger.heads, hqueue]
        · rw [hrest, Function.update_of_ne (Ne.symm hts)]
          simp [Ledger.heads, hts]
    have hheads : ∀ xs ys, l.heads s (xs ++ ys) = l.heads s xs ++ l.heads s ys :=
      fun xs ys => List.filterMap_append
    rw [hheads, List.append_assoc]
    split
    · exact (List.Sublist.append_left (ih _ _) _).trans hturn
    · exact hturn

theorem Booked.promotions (hl : Booked l p) (limit : ℕ) :
    Booked { l with promoted := fun s => l.promoted s ++ l.heads s (p.promotions limit) }
      (p.serviceReadyFrames limit).1 := by
  have hsub : ∀ s, ((l.promoted s ++ l.heads s (p.promotions limit)) ++
      ((p.serviceReadyFrames limit).1.readyQueues s).map l.serial).Sublist
      (l.promoted s ++ (p.readyQueues s).map l.serial) := by
    intro s
    rw [List.append_assoc]
    exact List.Sublist.append_left (promotionsFrom_sublist l limit s _ p {}) _
  have hspares := hl.spares (serviceLoop_spares limit
    ((p.readyQueues .adc).length + (p.readyQueues .gpio).length + 1) p {})
  exact
    { clock := hspares.clock
      behind := hspares.behind
      stamp := hspares.stamp
      deadline := hspares.deadline
      once := hspares.once
      rising := hspares.rising
      numbered := hspares.numbered
      line := fun s => (hl.line s).sublist (hsub s)
      lined := fun s n hn => hl.lined s n ((hsub s).mem hn) }

/-- One more frame waits. -/
theorem waiting_finish {h : FillHandle} (hf : Finished p q h) (hdeferred : p.deferred h.stream = true)
    (n : ℕ) : (((List.range 200).filter q.waits).map
      (Function.update l.serial h.bufferIndex n)).Perm (n :: l.waiting p) := by
  have hwaits : ∀ j, q.waits j = true ↔ j = h.bufferIndex ∨ p.waits j = true := by
    intro j
    by_cases hj : j = h.bufferIndex
    · rw [hj, hf.deferred, hdeferred]
      exact ⟨fun _ => Or.inl rfl, fun _ => rfl⟩
    · unfold Core.waits
      rw [hf.other j hj]
      exact ⟨Or.inr, fun h => h.resolve_left hj⟩
  have hperm : ((List.range 200).filter q.waits).Perm
      (h.bufferIndex :: (List.range 200).filter p.waits) := by
    refine (List.perm_ext_iff_of_nodup (List.nodup_range.filter _) ?_).mpr ?_
    · refine List.nodup_cons.mpr ⟨?_, List.nodup_range.filter _⟩
      rw [List.mem_filter, hf.fresh]
      exact fun hm => absurd hm.2 (by decide)
    · intro j
      rw [List.mem_cons, List.mem_filter, List.mem_filter, hwaits, List.mem_range]
      constructor
      · rintro ⟨hj, hi | hp⟩
        · exact Or.inl hi
        · exact Or.inr ⟨hj, hp⟩
      · rintro (hi | ⟨hj, hp⟩)
        · exact ⟨hi ▸ hf.bound, Or.inl hi⟩
        · exact ⟨hj, Or.inr hp⟩
  refine (hperm.map _).trans (List.Perm.of_eq ?_)
  rw [List.map_cons, Function.update_self]
  congr 1
  apply List.map_congr_left
  intro j hj
  apply Function.update_of_ne
  rintro rfl
  rw [List.mem_filter, hf.fresh] at hj
  exact absurd hj.2 (by decide)

theorem waiting_unchanged {h : FillHandle} (hf : Finished p q h)
    (hdeferred : p.deferred h.stream = false) (n : ℕ) : ((List.range 200).filter q.waits).map
      (Function.update l.serial h.bufferIndex n) = l.waiting p := by
  have hwaits : ∀ j, q.waits j = p.waits j := by
    intro j
    by_cases hj : j = h.bufferIndex
    · rw [hj, hf.deferred, hdeferred, hf.fresh]
    · unfold Core.waits
      rw [hf.other j hj]
  unfold Ledger.waiting
  rw [List.filter_congr fun j _ => hwaits j]
  apply List.map_congr_left
  intro j hj
  apply Function.update_of_ne
  rintro rfl
  rw [List.mem_filter, hf.fresh] at hj
  exact absurd hj.2 (by decide)

/-- The finished frame stands at the end of its stream's line. -/
theorem finished_line {h : FillHandle} (hf : Finished p q h) (s : Stream) :
    (s ≠ h.stream → (l.finish h.bufferIndex (p.deferred h.stream)).promoted s ++
      (q.readyQueues s).map (l.finish h.bufferIndex (p.deferred h.stream)).serial =
        l.promoted s ++ (p.readyQueues s).map l.serial) ∧
    (s = h.stream → (l.finish h.bufferIndex (p.deferred h.stream)).promoted s ++
      (q.readyQueues s).map (l.finish h.bufferIndex (p.deferred h.stream)).serial =
        l.promoted s ++ (p.readyQueues s).map l.serial ++ [l.finishes]) := by
  have hqueued : (p.readyQueues s).map (Function.update l.serial h.bufferIndex l.finishes) =
      (p.readyQueues s).map l.serial := by
    apply List.map_congr_left
    intro j hj
    apply Function.update_of_ne
    rintro rfl
    exact hf.absent s hj
  refine ⟨?_, ?_⟩
  · intro hs
    rw [hf.queue, Function.update_of_ne hs]
    exact congrArg _ hqueued
  · rintro rfl
    rw [hf.queue, Function.update_self, List.append_assoc]
    show l.promoted h.stream ++ (p.readyQueues h.stream ++ [h.bufferIndex]).map
      (Function.update l.serial h.bufferIndex l.finishes) = _
    rw [List.map_append, hqueued, List.map_singleton, Function.update_self]

/-- A finished frame takes the next number. -/
theorem Booked.finish {h : FillHandle} (hl : Booked l p) (hf : Finished p q h) :
    Booked (l.finish h.bufferIndex (p.deferred h.stream)) q where
  clock := by
    rw [hf.clock]
    exact hl.clock
  behind := hl.behind
  stamp := by
    intro j hj
    by_cases hji : j = h.bufferIndex
    · subst hji
      refine ⟨?_, ?_⟩
      · rw [hf.lease hj, hl.clock]
        simp only [Ledger.finish, Function.update_self]
      · simp only [Ledger.finish, Function.update_self]
        exact le_rfl
    · simp only [Ledger.finish, Function.update_of_ne hji]
      rw [hf.other j hji]
      apply hl.stamp
      unfold Core.waits at hj ⊢
      rw [hf.other j hji] at hj
      exact hj
  deadline := hl.deadline
  once := by
    cases hdeferred : p.deferred h.stream with
    | true =>
      have hnew := (waiting_finish (l := l) hf hdeferred l.finishes).append_left
        (l.published.map Prod.fst ++ l.dropped)
      refine hnew.trans ?_
      refine List.perm_middle.trans ?_
      exact (hl.once.cons _).trans (List.perm_append_singleton _ _).symm
    | false =>
      show (l.published.map Prod.fst ++ l.dropped ++ _).Perm l.deferred
      rw [show (l.finish h.bufferIndex false).waiting q = _ from
        waiting_unchanged (l := l) hf hdeferred l.finishes]
      exact hl.once
  rising := by
    cases p.deferred h.stream with
    | true =>
      refine List.pairwise_append.mpr ⟨hl.rising, List.pairwise_singleton _ _, ?_⟩
      intro n hn m hm
      rw [List.mem_singleton.mp hm]
      exact hl.numbered n hn
    | false => exact hl.rising
  numbered := by
    intro n hn
    have hcases : n ∈ l.deferred ∨ n = l.finishes := by
      cases hd : p.deferred h.stream with
      | true =>
        rw [hd] at hn
        exact (List.mem_append.mp hn).imp id List.mem_singleton.mp
      | false =>
        rw [hd] at hn
        exact Or.inl hn
    rcases hcases with hn | rfl
    · exact Nat.lt_succ_of_lt (hl.numbered n hn)
    · exact Nat.lt_succ_self _
  line := by
    intro s
    obtain ⟨hold, hnew⟩ := finished_line (l := l) hf s
    by_cases hs : s = h.stream
    · rw [hnew hs]
      refine List.pairwise_append.mpr ⟨hl.line s, List.pairwise_singleton _ _, ?_⟩
      intro n hn m hm
      rw [List.mem_singleton.mp hm]
      exact hl.lined s n hn
    · rw [hold hs]
      exact hl.line s
  lined := by
    intro s n hn
    obtain ⟨hold, hnew⟩ := finished_line (l := l) hf s
    by_cases hs : s = h.stream
    · rw [hnew hs] at hn
      rcases List.mem_append.mp hn with hn | hn
      · exact Nat.lt_succ_of_lt (hl.lined s n hn)
      · rw [List.mem_singleton.mp hn]
        exact Nat.lt_succ_self _
    · rw [hold hs] at hn
      exact Nat.lt_succ_of_lt (hl.lined s n hn)

/-- The FIFOs only lose frames. -/
def Shrinks (p q : Pipeline) : Prop := ∀ s, (q.readyQueues s).Sublist (p.readyQueues s)

theorem shrinks_closed : Closed Shrinks where
  trans := fun h h' s => (h' s).trans (h s)
  change := fun _ _ hrun => hrun.ready
  dropBuffer := fun p i evict s => by rw [dropBuffer_readyQueues]

/-- The pages that waited before are published, dropped or still waiting after. -/
theorem settle_perm (l : Ledger) (ended : ℕ) (hnew : ∀ j, q.waits j = true → p.waits j = true)
    (hfate : ∀ j, p.waits j = true → q.waits j = true ∨ (q.records j).state = .free ∨
      (q.records j).state = .ready) :
    ((l.settle p q ended).published.map Prod.fst ++ (l.settle p q ended).dropped ++
      (l.settle p q ended).waiting q).Perm
      (l.published.map Prod.fst ++ l.dropped ++ l.waiting p) := by
  have hfirst := List.filter_append_perm (fun j => decide ((q.records j).state = .ready))
    ((List.range 200).filter p.waits)
  have hsecond := List.filter_append_perm (fun j => decide ((q.records j).state = .free))
    (((List.range 200).filter p.waits).filter fun j => !decide ((q.records j).state = .ready))
  simp only [List.filter_filter] at hfirst hsecond
  have hready : (List.range 200).filter (fun j => decide ((q.records j).state = .ready) &&
      p.waits j) = (List.range 200).filter fun j => p.waits j && (q.records j).state = .ready :=
    List.filter_congr fun j _ => Bool.and_comm _ _
  have hfree : (List.range 200).filter (fun j => decide ((q.records j).state = .free) &&
      (!decide ((q.records j).state = .ready) && p.waits j)) =
        (List.range 200).filter fun j => p.waits j && (q.records j).state = .free := by
    apply List.filter_congr
    intro j _
    cases p.waits j <;> cases (q.records j).state <;> rfl
  have hstill : (List.range 200).filter (fun j => !decide ((q.records j).state = .free) &&
      (!decide ((q.records j).state = .ready) && p.waits j)) = (List.range 200).filter q.waits := by
    apply List.filter_congr
    intro j _
    rw [Bool.eq_iff_iff]
    simp only [Bool.and_eq_true, Bool.not_eq_true', decide_eq_false_iff_not]
    constructor
    · rintro ⟨h1, h2, h3⟩
      exact (hfate j h3).resolve_right fun h => h.elim h1 h2
    · intro hq
      have hstate := (Core.waits_iff.mp hq).1
      rw [hstate]
      exact ⟨by decide, by decide, hnew j hq⟩
  rw [hready] at hfirst
  rw [hfree, hstill] at hsecond
  have hall := (hfirst.symm.trans (hsecond.symm.append_left _)).map l.serial
  rw [List.map_append, List.map_append] at hall
  rw [List.perm_iff_count] at hall ⊢
  intro n
  have hn := hall n
  have hfst : (Prod.fst ∘ fun j => (l.serial j, ended - l.finishedAt j)) = l.serial := rfl
  simp only [Ledger.settle, Ledger.waiting, List.map_append, List.map_map, List.count_append,
    hfst] at hn ⊢
  omega

/-- A call of the service, on a page the ledger knows the age of. -/
theorem Booked.serviced {ticks ended : UInt64} {taken : Option ℕ} (hl : Booked l p)
    (h : Serviced taken ended (p.setDeferredClock ticks) q) (hshrinks : Shrinks p q)
    (hticks : l.latest ≤ ticks.toNat) (hended : ticks.toNat ≤ ended.toNat)
    (hage : ∀ i, taken = some i → 80000 ≤ ended.toNat - l.finishedAt i →
      80000 ≤ (ended.toNat - l.finishedAt i) % 2 ^ 32) :
    Booked { l.settle p q ended.toNat with latest := ended.toNat, now := ticks.toNat } q := by
  have houtcome : ∀ j, (∃ b, q.records j = { p.records j with gapBeforeRequired := b }) ∨
      (p.waits j = true ∧ ((q.records j).state = .free ∨ ((q.records j).state = .ready ∧
        taken = some j ∧ (ended.toUInt32 - (p.records j).lease).toNat < 80000))) := h.outcome
  have hsame : ∀ j, q.waits j = true → ∃ b, q.records j = { p.records j with gapBeforeRequired := b } := by
    intro j hj
    rcases houtcome j with hb | ⟨-, hdone⟩
    · exact hb
    · have hstate := (Core.waits_iff.mp hj).1
      rw [hstate] at hdone
      rcases hdone with hdone | ⟨hdone, -⟩ <;> cases hdone
  have hnew : ∀ j, q.waits j = true → p.waits j = true := by
    intro j hj
    obtain ⟨b, hb⟩ := hsame j hj
    unfold Core.waits at hj ⊢
    rw [hb] at hj
    exact hj
  have hbehind := hl.behind
  refine
    { clock := ?_
      behind := hended
      stamp := ?_
      deadline := ?_
      once := ?_
      rising := hl.rising
      numbered := hl.numbered
      line := ?_
      lined := ?_ }
  · rw [h.clock]
    exact UInt64.toNat_toUInt32 ticks
  · intro j hj
    obtain ⟨b, hb⟩ := hsame j hj
    obtain ⟨hlease, hle⟩ := hl.stamp j (hnew j hj)
    rw [hb]
    exact ⟨hlease, by show l.finishedAt j ≤ ticks.toNat; omega⟩
  · intro x hx
    rcases List.mem_append.mp hx with hx | hx
    · exact hl.deadline x hx
    obtain ⟨j, hj, rfl⟩ := List.mem_map.mp hx
    rw [List.mem_filter, Bool.and_eq_true, decide_eq_true_eq] at hj
    obtain ⟨-, hwaits, hready⟩ := hj
    rcases houtcome j with ⟨b, hb⟩ | ⟨-, hfree | ⟨-, htaken, hyoung⟩⟩
    · -- a READY page did not wait
      have hstate := (Core.waits_iff.mp hwaits).1
      rw [hb] at hready
      rw [hstate] at hready
      cases hready
    · rw [hfree] at hready
      cases hready
    · obtain ⟨hlease, hle⟩ := hl.stamp j hwaits
      have hold := hage j htaken
      rw [UInt32.toNat_sub, hlease, UInt64.toNat_toUInt32] at hyoung
      show ended.toNat - l.finishedAt j < 80000
      omega
  · refine (settle_perm l ended.toNat hnew ?_).trans hl.once
    intro j hj
    rcases houtcome j with ⟨b, hb⟩ | ⟨-, hfree | ⟨hready, -⟩⟩
    · left
      unfold Core.waits at hj ⊢
      rw [hb]
      exact hj
    · exact Or.inr (Or.inl hfree)
    · exact Or.inr (Or.inr hready)
  · intro s
    refine (hl.line s).sublist (List.Sublist.append_left ?_ _)
    exact (hshrinks s).map l.serial
  · intro s n hn
    refine hl.lined s n (List.Sublist.mem hn (List.Sublist.append_left ?_ _))
    exact (hshrinks s).map l.serial

/-- A run without a codec is not serviced. -/
theorem serviceDeferred_raw (hcodec : p.hasCodec = false) (ticks : UInt64) (budget : ℕ)
    (readTicks : Option (UInt64 × UInt64)) : p.serviceDeferred ticks budget readTicks = p := by
  unfold Pipeline.serviceDeferred
  rw [if_pos]
  unfold Pipeline.hasCodec at hcodec
  cases hv3 : p.setup.layout.isV3 with
  | true =>
    rw [hv3] at hcodec
    simpa using hcodec
  | false => rfl

/-- Every operation keeps the books. -/
theorem Booked.step {R : Rules} {t : Tracked} {op : Op} (hl : Booked l t.pipe) (hgood : Good t)
    (hguard : t.Guard R op) (hclock : l.Clock op) (hage : l.Unwrapped t.pipe op) :
    Booked (l.step t op) (t.step op).pipe := by
  have hinv := hgood.inv
  -- the operations that leave waiting pages alone
  have hspared : ∀ {q : Pipeline}, Spares t.pipe q → Booked (l.settle t.pipe q l.latest) q := by
    intro q hq
    rw [hq.settle]
    exact hl.spares hq
  cases op with
  | startRun runId alg mask layout => exact hspared (startRun_spares hinv runId alg mask layout)
  | stopProduction =>
    simp only [Tracked.step, Ledger.step]
    exact hspared (stopProduction_spares t.pipe)
  | beginFill s => exact hspared (beginFill_spares t.pipe s)
  | recordSourceFrameDrops s n => exact hspared (recordSourceFrameDrops_spares t.pipe s n.toNat)
  | writePayload h off bs => exact hspared (writePayload_spares t.pipe h off bs)
  | cancelFill h => exact hspared (cancelFill_spares t.pipe h)
  | prepareFrontFrame => exact hspared (prepareFrontFrame_spares hinv)
  | markFrontFrameStarted => exact hspared (markFrontFrameStarted_spares hinv)
  | abortFrontFrame => exact hspared (abortFrontFrame_spares hinv)
  | releaseFrontFrame => exact hspared (releaseFrontFrame_spares hinv)
  | finishFill h completion =>
    simp only [Ledger.step, Tracked.step]
    rcases finishFill_result hinv h completion with ⟨hrefused, hq⟩ | ⟨hok, hq⟩
    · rw [if_neg hrefused]
      exact hspared hq
    · rw [if_pos hok, settle_idle]
      · exact hl.finish hq
      · intro j hj
        have hne : j ≠ h.bufferIndex := by
          rintro rfl
          rw [hq.fresh] at hj
          cases hj
        unfold Core.waits at hj ⊢
        rw [hq.other j hne]
        exact hj
  | setDeferredClock ticks =>
    have hlatest : l.latest ≤ ticks.toNat := hclock
    have hbehind := hl.behind
    simp only [Ledger.step, Tracked.step]
    rw [settle_idle (p := t.pipe) (q := t.pipe.setDeferredClock ticks) fun j hj => hj]
    exact
      { clock := UInt64.toNat_toUInt32 ticks
        behind := le_rfl
        stamp := fun j hj => by
          obtain ⟨hlease, hle⟩ := hl.stamp j hj
          exact ⟨hlease, by show l.finishedAt j ≤ ticks.toNat; omega⟩
        deadline := hl.deadline
        once := hl.once
        rising := hl.rising
        numbered := hl.numbered
        line := hl.line
        lined := hl.lined }
  | serviceDeferred ticks budget readTicks =>
    obtain ⟨hlatest, -, hreads⟩ := hclock
    have hended : ticks.toNat ≤ ((readTicks.map Prod.snd).getD ticks).toNat := by
      cases readTicks with
      | none => exact le_rfl
      | some reads =>
        obtain ⟨h1, h2⟩ := hreads reads rfl
        exact h1.trans h2
    simp only [Ledger.step, Tracked.step]
    cases hcodec : t.pipe.hasCodec with
    | true =>
      have hserviced := serviceDeferred_serviced hinv hgood.waiting ticks budget readTicks hcodec
      have hshrinks := shrinks_closed.serviceDeferred t.pipe ticks budget readTicks
      refine hl.serviced hserviced hshrinks hlatest hended ?_
      intro i htaken
      split at htaken
      · cases htaken
      · rename_i hbudget
        exact hage hbudget i htaken
    | false =>
      rw [serviceDeferred_raw hcodec, settle_idle fun j hj => hj]
      have hbehind := hl.behind
      exact
        { clock := hl.clock
          behind := by
            show l.now ≤ ((readTicks.map Prod.snd).getD ticks).toNat
            omega
          stamp := hl.stamp
          deadline := hl.deadline
          once := hl.once
          rising := hl.rising
          numbered := hl.numbered
          line := hl.line
          lined := hl.lined }
  | serviceReadyFrames limit =>
    simp only [Ledger.step, Tracked.step]
    have hspares := serviceLoop_spares limit
      ((t.pipe.readyQueues .adc).length + (t.pipe.readyQueues .gpio).length + 1) t.pipe {}
    rw [show l.settle t.pipe (t.pipe.serviceReadyFrames limit).1 l.latest = l from
      hspares.settle l.latest]
    exact hl.promotions limit

theorem Timed.booked {R : Rules} {t : Tracked} (h : Timed R true t l) : Booked l t.pipe := by
  induction h with
  | initial =>
    exact
      { clock := rfl
        behind := le_rfl
        stamp := fun j hj => by cases hj
        deadline := fun _ hx => by cases hx
        once := List.Perm.of_eq (by decide)
        rising := List.Pairwise.nil
        numbered := fun _ hn => by cases hn
        line := fun _ => List.Pairwise.nil
        lined := fun _ _ hn => by cases hn }
  | step h hguard hclock hage ih => exact ih.step h.reach.good hguard hclock (hage rfl)

end Booked

/-- In every run with a clock that does not go back, as long as no page is taken up whose age
has wrapped into the deadline. -/
theorem deferred_deadline {R : Rules} {t : Tracked} {l : Ledger} (h : Timed R true t l) :
    Settled l t.pipe :=
  h.booked.settled

/-- The ledger after some operations. -/
def Ledger.run : Ledger → Tracked → List Op → Ledger
  | l, _, [] => l
  | l, t, op :: ops => (l.step t op).run (t.step op) ops

/-- Every operation meets what `Timed` asks for. -/
def Ledger.Obeyed (R : Rules) (unwrapped : Bool) : Ledger → Tracked → List Op → Prop
  | _, _, [] => True
  | l, t, op :: ops => t.Guard R op ∧ l.Clock op ∧ (unwrapped = true → l.Unwrapped t.pipe op) ∧
      Obeyed R unwrapped (l.step t op) (t.step op) ops

theorem Timed.run {R : Rules} {unwrapped : Bool} {ops : List Op} : ∀ {t : Tracked} {l : Ledger},
    Timed R unwrapped t l → l.Obeyed R unwrapped t ops →
    Timed R unwrapped (t.run ops) (l.run t ops) := by
  induction ops with
  | nil => exact fun h _ => h
  | cons op ops ih => exact fun h hops => ih (h.step hops.1 hops.2.1 hops.2.2.1) hops.2.2.2

/-- One ADC frame with a codec, finished at clock 0 and not serviced for 79999 ticks. -/
def oneDeferred : List Op :=
  [.startRun 7 ChecksumAlgorithm.adler32 3 shortBlocks, .beginFill .adc,
    .finishFill { bufferIndex := 0, lease := 1 } { firstSampleTicks := 80, payloadBytesWritten := 16 },
    .serviceDeferred 79999 0 none]

/-- It is published by a call at the same time. -/
theorem deferred_in_time :
    Settled (Ledger.run {} Tracked.initial (oneDeferred ++ [.serviceDeferred 79999 1 none]))
        (Tracked.initial.run (oneDeferred ++ [.serviceDeferred 79999 1 none])).pipe ∧
      (Ledger.run {} Tracked.initial (oneDeferred ++ [.serviceDeferred 79999 1 none])).published =
        [(0, 79999)] := by
  refine ⟨?_, by decide +kernel⟩
  refine deferred_deadline (R := ⟨false, false, false⟩) (Timed.initial.run ?_)
  refine ⟨trivial, trivial, fun _ => trivial, ⟨fun h => (by cases h), fun h => (by cases h)⟩, trivial,
    fun _ => trivial, ⟨fun h => (by cases h), fun h => (by cases h)⟩, trivial, fun _ => trivial, trivial,
    ⟨by decide +kernel, by decide +kernel, fun _ h => (by cases h)⟩, fun _ h => absurd rfl h, trivial,
    ⟨by decide +kernel, by decide +kernel, fun _ h => (by cases h)⟩, ?_, trivial⟩
  intro _ _ i htaken
  have hi : i = 0 := by
    have hzero : (Tracked.initial.run oneDeferred).pipe.takenUp 79999
        [(Tracked.initial.run oneDeferred).pipe.nextCodecSource,
          (Tracked.initial.run oneDeferred).pipe.nextCodecSource.peer] = some 0 := by
      decide +kernel
    exact Option.some.inj (htaken.symm.trans hzero)
  subst hi
  decide +kernel

/-- 2³² − 1 ticks later the age of the same frame seems to be 79998, and it is published too. -/
theorem deferred_wrapped :
    Timed ⟨false, false, false⟩ false
      (Tracked.initial.run (oneDeferred ++ [.serviceDeferred 4295047294 1 none]))
      (Ledger.run {} Tracked.initial (oneDeferred ++ [.serviceDeferred 4295047294 1 none])) ∧
    (Ledger.run {} Tracked.initial
      (oneDeferred ++ [.serviceDeferred 4295047294 1 none])).published = [(0, 4295047294)] ∧
    ¬Settled (Ledger.run {} Tracked.initial (oneDeferred ++ [.serviceDeferred 4295047294 1 none]))
      (Tracked.initial.run (oneDeferred ++ [.serviceDeferred 4295047294 1 none])).pipe := by
  have hpublished : (Ledger.run {} Tracked.initial
      (oneDeferred ++ [.serviceDeferred 4295047294 1 none])).published = [(0, 4295047294)] := by
    decide +kernel
  refine ⟨Timed.initial.run ?_, hpublished, ?_⟩
  · exact ⟨trivial, trivial, fun h => (by cases h), ⟨fun h => (by cases h), fun h => (by cases h)⟩, trivial,
      fun h => (by cases h), ⟨fun h => (by cases h), fun h => (by cases h)⟩, trivial,
      fun h => (by cases h), trivial, ⟨by decide +kernel, by decide +kernel, fun _ h => (by cases h)⟩,
      fun h => (by cases h), trivial, ⟨by decide +kernel, by decide +kernel, fun _ h => (by cases h)⟩,
      fun h => (by cases h), trivial⟩
  · intro h
    have hlate := h.deadline (0, 4295047294) (by rw [hpublished]; exact List.mem_singleton_self _)
    exact absurd hlate (by decide)

end ThingDaq
