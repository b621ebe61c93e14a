import ThingDaq.Pipeline.Effects

/-!
# Fill handles

A handle of `beginFill` names a buffer, its stream, its sequence and a lease.  It is good as
long as the buffer stays FILLING and unfinished under that lease.  The field that holds the
lease of an open buffer holds a time in a deferred one, and a buffer goes from stream to
stream and from run to run, so only all the parts together tell a live handle from an old one.

Nothing here asks the callers for anything: the calls come in any order with any arguments.

## Main definitions

* `Shuts` — no buffer opens and no lease is taken.

## Main results

* `step_shuts` — only `beginFill` opens a buffer.
* `fill_handle_linear` — a handle is accepted once and rejected from then on.
-/

namespace ThingDaq

open Wire Table

theorem handleMatches_iff_grant {c : Core} {h : FillHandle} : c.handleMatches h = true ↔
    h.valid = true ∧ h.bufferIndex < kPacketBufferCount ∧
      (c.records h.bufferIndex).grant = some (h.stream, h.sequence, h.lease) := by
  unfold Core.handleMatches BufferRecord.grant
  simp only [Bool.and_eq_true, decide_eq_true_eq]
  constructor
  · rintro ⟨⟨⟨⟨⟨⟨hvalid, hi⟩, hstate⟩, hsize⟩, hstream⟩, hseq⟩, hlease⟩
    rw [if_pos ⟨hstate, hsize⟩, hstream, hseq, hlease]
    exact ⟨hvalid, hi, rfl⟩
  · rintro ⟨hvalid, hi, hgrant⟩
    split at hgrant
    · rename_i hopen
      simp only [Option.some.injEq, Prod.mk.injEq] at hgrant
      exact ⟨⟨⟨⟨⟨⟨hvalid, hi⟩, hopen.1⟩, hopen.2⟩, hgrant.1⟩, hgrant.2.1⟩, hgrant.2.2⟩
    · cases hgrant

/-- No buffer is open that was not open before under the same grant, and no lease is taken. -/
structure Shuts (p q : Pipeline) : Prop where
  grant : ∀ i, (q.records i).grant = (p.records i).grant ∨ (q.records i).grant = none
  lease : q.nextLease = p.nextLease

namespace Shuts

variable {p q r : Pipeline} {i : ℕ}

theorem refl (p : Pipeline) : Shuts p p := ⟨fun _ => Or.inl rfl, rfl⟩

theorem trans (h : Shuts p q) (h' : Shuts q r) : Shuts p r where
  grant := fun j => by
    rcases h'.grant j with hj | hj
    · rw [hj]
      exact h.grant j
    · exact Or.inr hj
  lease := h'.lease.trans h.lease

theorem same (hrec : q.records = p.records) (hlease : q.nextLease = p.nextLease) : Shuts p q :=
  ⟨fun j => Or.inl (by rw [hrec]), hlease⟩

/-- One record changes and does not open. -/
theorem update {r : BufferRecord} (hrec : q.records = Function.update p.records i r)
    (hr : r.grant = (p.records i).grant ∨ r.grant = none) (hlease : q.nextLease = p.nextLease) :
    Shuts p q where
  grant := fun j => by
    rw [hrec]
    by_cases hj : j = i
    · rw [hj, Function.update_self]
      exact hr
    · rw [Function.update_of_ne hj]
      exact Or.inl rfl
  lease := hlease

/-- A buffer that is shut stays shut. -/
theorem shut (h : Shuts p q) (hi : (p.records i).grant = none) : (q.records i).grant = none := by
  rcases h.grant i with hq | hq
  · rw [hq, hi]
  · exact hq

end Shuts

section Operations

variable {p q : Pipeline} {s : Stream}

theorem recycle_shuts (p : Pipeline) (i : ℕ) : Shuts p (p.recycle i) := by
  unfold Pipeline.recycle
  split
  · exact Shuts.same rfl rfl
  · exact Shuts.update (p := p) (i := i) rfl (Or.inr BufferRecord.grant_default) rfl

theorem markGapBefore_shuts (p : Pipeline) (i : ℕ) : Shuts p (p.markGapBefore i) := by
  unfold Pipeline.markGapBefore
  dsimp only
  split
  · exact Shuts.same rfl rfl
  split
  · exact Shuts.same rfl rfl
  · exact Shuts.update (p := p) (i := i) rfl (Or.inl rfl) rfl

theorem dropBuffer_shuts (p : Pipeline) (i : ℕ) (evict : Bool) : Shuts p (p.dropBuffer i evict) := by
  have hpropagate : ∀ (q : Pipeline) (r : BufferRecord), Shuts q (q.propagateGapAfter r) := by
    intro q r
    unfold Pipeline.propagateGapAfter
    split
    · exact markGapBefore_shuts q _
    · exact Shuts.same rfl rfl
  unfold Pipeline.dropBuffer
  dsimp only
  split
  · exact Shuts.same rfl rfl
  · refine Shuts.trans ?_ (recycle_shuts _ i)
    refine Shuts.trans (Shuts.trans ?_ (hpropagate _ _)) (Shuts.same rfl rfl)
    exact Shuts.same rfl rfl

theorem shuts_closed : Closed Shuts where
  trans := Shuts.trans
  change := fun hrec hr hrun => Shuts.update hrec hr hrun.nextLease
  dropBuffer := dropBuffer_shuts

/-- A dropped buffer is shut. -/
theorem dropBuffer_grant {i : ℕ} (hi : i < 200) (evict : Bool) :
    ((p.dropBuffer i evict).records i).grant = none := by
  by_cases hfree : (p.records i).state = .free
  · apply (dropBuffer_shuts p i evict).shut
    apply BufferRecord.grant_state
    rw [hfree]
    decide
  · rw [dropBuffer_core hi hfree, Core.drop_record_self]
    exact BufferRecord.grant_default

theorem publishReady_grant (p : Pipeline) (i : ℕ) :
    ((p.publishReady i).records i).grant = none := by
  rw [publishReady_core]
  unfold Core.publish Core.setRecord Core.setCounters
  dsimp only
  rw [Function.update_self]
  apply BufferRecord.grant_state
  simp

/-- What `finishFill` does with a buffer whose handle it takes: the buffer is shut. -/
theorem finishFill_grant {h : FillHandle} (hm : p.handleMatches h = true)
    (completion : FrameCompletion) :
    ((p.finishFill h completion).1.records h.bufferIndex).grant = none := by
  have hi : h.bufferIndex < 200 := (Core.handleMatches_iff hm).1
  unfold Pipeline.finishFill
  rw [if_neg (by simp [hm])]
  dsimp only
  generalize p.encodePage (p.records h.bufferIndex) completion (p.frames h.bufferIndex) = encoded
  split
  · exact dropBuffer_grant hi _
  split
  · exact dropBuffer_grant hi _
  split
  · exact dropBuffer_grant hi _
  split
  · exact dropBuffer_grant hi _
  split
  · exact dropBuffer_grant hi _
  split
  · simp only [Pipeline.withCore, Core.setRecord, Core.setReady, Function.update_self]
    exact BufferRecord.grant_size (Closed.frameShape_pos p _)
  · exact publishReady_grant _ _

/-- The scan of `stopProduction` shuts every buffer it comes to. -/
theorem stopProduction_shuts (p : Pipeline) : Shuts p p.stopProduction.1 ∧
    ∀ i < 200, (p.stopProduction.1.records i).grant = none := by
  unfold Pipeline.stopProduction
  dsimp only
  have hscan : ∀ (l : List ℕ) (acc : Pipeline × ℕ), (∀ j ∈ l, j < 200) →
      Shuts acc.1 (l.foldl (fun (acc : Pipeline × ℕ) i =>
        if (decide ((acc.1.records i).state ≠ .filling) ||
            decide ((acc.1.records i).frameSize ≠ 0)) = true then acc
        else (acc.1.dropBuffer i false, acc.2 + 1)) acc).1 ∧
      ∀ j ∈ l, ((l.foldl (fun (acc : Pipeline × ℕ) i =>
        if (decide ((acc.1.records i).state ≠ .filling) ||
            decide ((acc.1.records i).frameSize ≠ 0)) = true then acc
        else (acc.1.dropBuffer i false, acc.2 + 1)) acc).1.records j).grant = none := by
    intro l
    induction l with
    | nil => exact fun acc _ => ⟨Shuts.refl _, by simp⟩
    | cons j l ih =>
      intro acc hl
      rw [List.foldl_cons]
      generalize hnext : (if (decide ((acc.1.records j).state ≠ .filling) ||
          decide ((acc.1.records j).frameSize ≠ 0)) = true then acc
        else (acc.1.dropBuffer j false, acc.2 + 1)) = next
      have hone : Shuts acc.1 next.1 ∧ (next.1.records j).grant = none := by
        rw [← hnext]
        split
        · rename_i hshut
          refine ⟨Shuts.refl _, if_neg ?_⟩
          simp only [Bool.or_eq_true, decide_eq_true_eq] at hshut
          rintro ⟨h1, h2⟩
          exact hshut.elim (fun h => h h1) (fun h => h h2)
        · exact ⟨dropBuffer_shuts _ _ _, dropBuffer_grant (hl j List.mem_cons_self) _⟩
      obtain ⟨hrest, hall⟩ := ih next fun k hk => hl k (List.mem_cons_of_mem j hk)
      refine ⟨hone.1.trans hrest, ?_⟩
      intro k hk
      rcases List.mem_cons.mp hk with rfl | hk
      · exact hrest.shut hone.2
      · exact hall k hk
  generalize hclosed : ({ p with acceptingFrames := false } : Pipeline) = closed
  have hfirst : Shuts p closed := by
    rw [← hclosed]
    exact Shuts.same rfl rfl
  obtain ⟨hshuts, hall⟩ := hscan (List.range kPacketBufferCount) (closed, 0)
    fun j hj => by simpa using hj
  refine ⟨hfirst.trans hshuts, ?_⟩
  intro i hi
  exact hall i (by simpa using hi)

theorem recordSourceFrameDrops_shuts (p : Pipeline) (s : Stream) (n : ℕ) :
    Shuts p (p.recordSourceFrameDrops s n).1 := by
  unfold Pipeline.recordSourceFrameDrops
  split
  · exact Shuts.same rfl rfl
  split
  · exact Shuts.same rfl rfl
  split
  · exact Shuts.refl p
  · exact Shuts.same rfl rfl

theorem promote_shuts (p : Pipeline) (s : Stream) (i : ℕ) (queue : List ℕ) :
    Shuts p (p.promote s i queue) := by
  refine Shuts.update (p := p) (i := i) rfl (Or.inr ?_) rfl
  apply BufferRecord.grant_state
  simp

theorem serviceLoop_shuts (limit : ℕ) : ∀ (fuel : ℕ) (p : Pipeline) (report : PromotionReport),
    Shuts p (Pipeline.serviceLoop limit fuel p report).1 := by
  intro fuel
  induction fuel with
  | zero => exact fun p _ => Shuts.refl p
  | succ fuel ih =>
    intro p report
    unfold Pipeline.serviceLoop
    split
    · exact Shuts.refl p
    split
    · exact Shuts.refl p
    split
    · split
      · exact Shuts.same rfl rfl
      · exact Shuts.refl p
    rename_i s _ _
    split
    · exact Shuts.trans (q := p.invalidOperation) (Shuts.same rfl rfl) (ih _ _)
    rename_i i rest _
    dsimp only
    have hpopped : Shuts p (p.withCore (p.setReady s rest)) := Shuts.same rfl rfl
    apply hpopped.trans
    generalize p.withCore (p.setReady s rest) = popped
    have hinvalid : Shuts popped popped.invalidOperation := Shuts.same rfl rfl
    split
    · exact hinvalid.trans (ih _ _)
    split
    · exact (hinvalid.trans (dropBuffer_shuts _ i false)).trans (ih _ _)
    have hfinal := shuts_closed.finalizeGapBefore popped i
    apply hfinal.trans
    generalize popped.finalizeGapBefore i = finalized
    split
    · have hrejected : Shuts finalized.1 finalized.1.encodingRejection := Shuts.same rfl rfl
      exact (hrejected.trans (dropBuffer_shuts _ i false)).trans (ih _ _)
    split
    · apply Shuts.trans _ (dropBuffer_shuts _ i false)
      exact Shuts.same rfl rfl
    · exact (promote_shuts _ _ _ _).trans (ih _ _)

/-- A run that starts shuts every buffer; one that does not changes none. -/
theorem startRun_shuts (p : Pipeline) (runId : UInt32) (alg : ChecksumAlgorithm) (mask : UInt8)
    (layout : RunLayout) : Shuts p (p.startRun runId alg mask layout).1 ∧
      ((p.startRun runId alg mask layout).2 = .ok →
        ∀ i, ((p.startRun runId alg mask layout).1.records i).grant = none) := by
  rcases startRun_cases p runId alg mask layout with ⟨setup, heq⟩ | ⟨hp, hs⟩
  · rw [heq]
    have hnone : ∀ i, ((p.reset runId mask setup).records i).grant = none :=
      fun _ => BufferRecord.grant_default
    exact ⟨⟨fun i => Or.inr (hnone i), rfl⟩, fun _ => hnone⟩
  · rw [hp]
    exact ⟨Shuts.same rfl rfl, fun hok => absurd hok hs⟩

end Operations

/-! ### Leases -/

/-- The lease taken when `n` were taken before. -/
def leaseOf (n : ℕ) : UInt32 := UInt32.ofNat (n % (2 ^ 32 - 1) + 1)

theorem leaseOf_toNat (n : ℕ) : (leaseOf n).toNat = n % (2 ^ 32 - 1) + 1 := by
  have hlt := Nat.mod_lt n (show 0 < 2 ^ 32 - 1 by decide)
  unfold leaseOf
  rw [UInt32.toNat_ofNat']
  omega

theorem takeLease_leaseOf (n : ℕ) :
    Pipeline.takeLease (leaseOf n) = (leaseOf n, leaseOf (n + 1)) := by
  have hlease := leaseOf_toNat n
  have hnext := leaseOf_toNat (n + 1)
  have hne : leaseOf n ≠ 0 := by
    intro h0
    rw [h0] at hlease
    simp at hlease
  unfold Pipeline.takeLease
  dsimp only
  rw [if_neg hne]
  congr 1
  apply UInt32.toNat_inj.mp
  rw [hnext]
  have hadd : (leaseOf n + 1).toNat = (n % (2 ^ 32 - 1) + 2) % 2 ^ 32 := by
    rw [UInt32.toNat_add, hlease]
    rfl
  by_cases hlast : n % (2 ^ 32 - 1) = 2 ^ 32 - 2
  · have hzero : leaseOf n + 1 = 0 := by
      apply UInt32.toNat_inj.mp
      rw [hadd, hlast]
      rfl
    rw [if_pos hzero]
    have hsucc : (n + 1) % (2 ^ 32 - 1) = 0 := by omega
    rw [hsucc]
    rfl
  · have hnz : leaseOf n + 1 ≠ 0 := by
      intro h0
      rw [h0] at hadd
      have hlt := Nat.mod_lt n (show 0 < 2 ^ 32 - 1 by decide)
      simp at hadd
      omega
    rw [if_neg hnz, hadd]
    omega

/-- Fewer than 2³² − 1 leases apart, two leases differ. -/
theorem leaseOf_ne {m n : ℕ} (hmn : m < n) (hn : n < m + (2 ^ 32 - 1)) : leaseOf m ≠ leaseOf n := by
  intro heq
  have hm := leaseOf_toNat m
  have hn' := leaseOf_toNat n
  rw [heq, hn'] at hm
  omega

theorem takeFreeBuffer_lt {p q : Pipeline} {i : ℕ} (h : p.takeFreeBuffer = (q, some i)) : i < 200 := by
  unfold Pipeline.takeFreeBuffer at h
  dsimp only at h
  split at h
  · simp only [Prod.mk.injEq, Option.some.injEq] at h
    rw [← h.2]
    exact Nat.mod_lt _ (by decide)
  split at h
  · cases h
  rename_i victim _
  split at h
  · rename_i hevicted
    simp only [Prod.mk.injEq, Option.some.injEq] at h
    rw [← h.2]
    by_contra hge
    unfold Pipeline.evictCompleteBuffer at hevicted
    rw [if_pos (by unfold kPacketBufferCount; omega)] at hevicted
    cases hevicted
  · cases h

/-- A call that fails opens nothing; one that succeeds opens one buffer under the next lease. -/
theorem beginFill_cases (p : Pipeline) (s : Stream) :
    ((p.beginFill s).2.status ≠ .ok ∧ Shuts p (p.beginFill s).1) ∨
      ∃ i seq, i < 200 ∧ (p.beginFill s).2 = { status := .ok
                                               handle := { bufferIndex := i, stream := s, sequence := seq
                                                           lease := (Pipeline.takeLease p.nextLease).1 } } ∧
        (p.beginFill s).1.nextLease = (Pipeline.takeLease p.nextLease).2 ∧
        ((p.beginFill s).1.records i).grant = some (s, seq, (Pipeline.takeLease p.nextLease).1) ∧
        ∀ j, j ≠ i → ((p.beginFill s).1.records j).grant = (p.records j).grant ∨
          ((p.beginFill s).1.records j).grant = none := by
  unfold Pipeline.beginFill
  split
  · exact Or.inl ⟨by simp, Shuts.same rfl rfl⟩
  split
  · exact Or.inl ⟨by simp, Shuts.same rfl rfl⟩
  dsimp only
  generalize hproduced : p.withCore (p.setCounters s _) = produced
  have hshuts : Shuts p produced := by
    rw [← hproduced]
    exact Shuts.same rfl rfl
  have htaken := hshuts.trans (shuts_closed.takeFreeBuffer produced)
  split
  · rename_i q hq
    rw [hq] at htaken
    exact Or.inl ⟨by simp [Pipeline.refuseFill], htaken.trans (Shuts.same rfl rfl)⟩
  · rename_i q i hq
    have hi := takeFreeBuffer_lt hq
    rw [hq] at htaken
    have hlease : q.nextLease = p.nextLease := htaken.lease
    refine Or.inr ⟨i, (p.sourceCounters s).nextSequence, hi, ?_, ?_, ?_, ?_⟩
    · rw [← hlease]
      rfl
    · rw [← hlease]
      rfl
    · rw [← hlease]
      unfold Pipeline.openBuffer
      simp [Pipeline.updateOwnedHighWater, Pipeline.withCore, Core.setRecord, Core.setGapNext,
        BufferRecord.grant]
    · intro j hj
      have hrec : (q.openBuffer s i (p.sourceCounters s).nextSequence
          (p.setup.stream s).itemCount).1.records j = q.records j := Function.update_of_ne hj _ _
      rw [hrec]
      exact htaken.grant j

/-! ### Runs -/

/-- How many steps of a run have a property. -/
def Tracked.count (P : Tracked → Op → Bool) : Tracked → List Op → ℕ
  | _, [] => 0
  | t, op :: ops => (P t op).toNat + Tracked.count P (t.step op) ops

/-- The call takes a lease. -/
def Tracked.grants (t : Tracked) : Op → Bool
  | .beginFill s => (t.pipe.beginFill s).2.status = .ok
  | _ => false

def Tracked.leases : Tracked → List Op → ℕ := Tracked.count Tracked.grants

/-- The call takes the handle. -/
def Tracked.accepts (h : FillHandle) (t : Tracked) : Op → Bool
  | .finishFill h' completion =>
    h' = h && (t.pipe.finishFill h completion).2.status ≠ .invalidHandle
  | .cancelFill h' => h' = h && (t.pipe.cancelFill h).2
  | _ => false

/-- The call takes the handle, stops production, starts a run or gives the buffer out again. -/
def Tracked.ends (h : FillHandle) (t : Tracked) : Op → Bool
  | .stopProduction => true
  | .startRun runId alg mask layout => (t.pipe.startRun runId alg mask layout).2 = .ok
  | .beginFill s => (t.pipe.beginFill s).2.status = .ok &&
      (t.pipe.beginFill s).2.handle.bufferIndex = h.bufferIndex
  | op => t.accepts h op

/-- The view of the payload, its offset in the page and its length, or none. -/
def Pipeline.writablePayload (p : Pipeline) (h : FillHandle) : Pipeline × Option (ℕ × ℕ) :=
  if !p.handleMatches h then (p.invalidOperation, none)
  else (p, some (kHeaderSize + p.setup.layout.prefixBytes, (p.setup.stream h.stream).payloadBytes))

/-- Every use of the handle fails and counts as invalid, and does nothing else. -/
structure Rejected (p : Pipeline) (h : FillHandle) : Prop where
  writablePayload : p.writablePayload h = (p.invalidOperation, none)
  finishFill : ∀ completion,
    p.finishFill h completion = (p.invalidOperation, { status := .invalidHandle })
  cancelFill : p.cancelFill h = (p.invalidOperation, false)

theorem rejected_of_not_matches {p : Pipeline} {h : FillHandle} (hm : p.handleMatches h = false) :
    Rejected p h where
  writablePayload := by
    unfold Pipeline.writablePayload
    rw [if_pos (by simp [hm])]
  finishFill := by
    intro completion
    unfold Pipeline.finishFill
    rw [if_pos (by simp [hm])]
  cancelFill := by
    unfold Pipeline.cancelFill
    rw [if_pos (by simp [hm])]

/-- Only a handle that matches is taken. -/
theorem handleMatches_of_accepts {t : Tracked} {h : FillHandle} (op : Op)
    (ha : t.accepts h op = true) : t.pipe.handleMatches h = true := by
  by_contra hm
  have hrejected := rejected_of_not_matches (Bool.eq_false_iff.mpr hm)
  cases op with
  | finishFill h' completion => simp [Tracked.accepts, hrejected.finishFill] at ha
  | cancelFill h' => simp [Tracked.accepts, hrejected.cancelFill] at ha
  | _ => cases ha

/-- Only `beginFill` opens a buffer. -/
theorem step_shuts {t : Tracked} {op : Op} (h : t.grants op = false) :
    Shuts t.pipe (t.step op).pipe := by
  cases op with
  | startRun runId alg mask layout => exact (startRun_shuts t.pipe runId alg mask layout).1
  | stopProduction =>
    simp only [Tracked.step]
    exact (stopProduction_shuts t.pipe).1
  | beginFill s =>
    rcases beginFill_cases t.pipe s with ⟨-, hshuts⟩ | ⟨i, seq, -, heq, -⟩
    · exact hshuts
    · simp [Tracked.grants, heq] at h
  | recordSourceFrameDrops s n => exact recordSourceFrameDrops_shuts t.pipe s n.toNat
  | writePayload h' off bs => exact shuts_closed.writePayload t.pipe h' off bs
  | finishFill h' completion => exact shuts_closed.finishFill (fun _ _ _ => Shuts.same rfl rfl) t.pipe h' completion
  | cancelFill h' => exact shuts_closed.cancelFill t.pipe h'
  | setDeferredClock ticks => exact Shuts.same rfl rfl
  | serviceDeferred ticks budget readTicks =>
    exact shuts_closed.serviceDeferred t.pipe ticks budget readTicks
  | serviceReadyFrames limit => exact serviceLoop_shuts limit _ t.pipe {}
  | prepareFrontFrame => exact shuts_closed.prepareFrontFrame t.pipe
  | markFrontFrameStarted => exact shuts_closed.markFrontFrameStarted t.pipe
  | abortFrontFrame => exact shuts_closed.abortFrontFrame t.pipe
  | releaseFrontFrame => exact shuts_closed.releaseFrontFrame t.pipe

section Handle

variable {t : Tracked} {h : FillHandle} {op : Op} {k n : ℕ}

/-- No buffer is open under the handle. -/
def Dead (p : Pipeline) (h : FillHandle) : Prop :=
  (p.records h.bufferIndex).grant ≠ some (h.stream, h.sequence, h.lease)

theorem Dead.not_matches {p : Pipeline} (hdead : Dead p h) : p.handleMatches h = false := by
  rw [Bool.eq_false_iff]
  intro hm
  exact hdead (handleMatches_iff_grant.mp hm).2.2

/-- The lease counter moves on with each lease. -/
theorem step_nextLease (op : Op) (hk : t.pipe.nextLease = leaseOf k) :
    (t.step op).pipe.nextLease = leaseOf (k + (t.grants op).toNat) := by
  cases hg : t.grants op with
  | false => exact (step_shuts hg).lease.trans hk
  | true =>
    cases op with
    | beginFill s =>
      rcases beginFill_cases t.pipe s with ⟨hno, -⟩ | ⟨i, seq, -, -, hnext, -⟩
      · exact absurd (of_decide_eq_true hg) hno
      · rw [hk, takeLease_leaseOf] at hnext
        exact hnext
    | _ => cases hg

/-- An old handle stays dead: a buffer that opens later has a later lease. -/
theorem Dead.step (hdead : Dead t.pipe h) (op : Op) (hh : h.lease = leaseOf n)
    (hk : t.pipe.nextLease = leaseOf k) (hnk : n < k)
    (hbound : k + (t.grants op).toNat < 2 ^ 32) : Dead (t.step op).pipe h := by
  cases hg : t.grants op with
  | false =>
    rcases (step_shuts hg).grant h.bufferIndex with hsame | hnone
    · unfold Dead
      rw [hsame]
      exact hdead
    · unfold Dead
      rw [hnone]
      exact Option.some_ne_none _ |>.symm
  | true =>
    rw [hg] at hbound
    cases op with
    | beginFill s =>
      rcases beginFill_cases t.pipe s with ⟨hno, -⟩ | ⟨i, seq, -, -, -, hopen, hother⟩
      · exact absurd (of_decide_eq_true hg) hno
      by_cases hi : h.bufferIndex = i
      · rw [hk, takeLease_leaseOf] at hopen
        intro heq
        have hsame := hopen.symm.trans (hi ▸ heq)
        simp only [Option.some.injEq, Prod.mk.injEq] at hsame
        have hlease : leaseOf k = leaseOf n := by rw [hsame.2.2, hh]
        apply leaseOf_ne hnk _ hlease.symm
        simp only [Bool.toNat_true] at hbound
        omega
      · intro heq
        have heq' : ((t.pipe.beginFill s).1.records h.bufferIndex).grant =
          some (h.stream, h.sequence, h.lease) := heq
        rcases hother h.bufferIndex hi with hsame | hnone
        · exact hdead (hsame.symm.trans heq')
        · rw [hnone] at heq'
          cases heq'
    | _ => cases hg

/-- Along a run. -/
theorem Dead.run (hh : h.lease = leaseOf n) (ops : List Op) : ∀ {t : Tracked} {k : ℕ},
    Dead t.pipe h → t.pipe.nextLease = leaseOf k → n < k → k + t.leases ops < 2 ^ 32 →
    Dead (t.run ops).pipe h ∧ t.count (Tracked.accepts h) ops = 0 := by
  induction ops with
  | nil => exact fun hdead _ _ _ => ⟨hdead, rfl⟩
  | cons op ops ih =>
    intro t k hdead hk hnk hbound
    have hsplit : t.leases (op :: ops) = (t.grants op).toNat + (t.step op).leases ops := rfl
    rw [hsplit] at hbound
    have hnext := hdead.step op hh hk hnk (by omega)
    obtain ⟨hrun, hcount⟩ := ih hnext (step_nextLease op hk) (by omega) (by omega)
    refine ⟨hrun, ?_⟩
    have hnot : t.accepts h op = false := by
      rw [Bool.eq_false_iff]
      intro ha
      have hm := handleMatches_of_accepts op ha
      rw [hdead.not_matches] at hm
      cases hm
    rw [Tracked.count, hcount, hnot]
    rfl

/-- What ends a handle leaves it dead. -/
theorem dead_of_ends (he : t.ends h op = true) (hh : h.lease = leaseOf n)
    (hk : t.pipe.nextLease = leaseOf k) (hnk : n < k) (hi : h.bufferIndex < 200)
    (hbound : k + (t.grants op).toNat < 2 ^ 32) : Dead (t.step op).pipe h := by
  have hshut : ((t.step op).pipe.records h.bufferIndex).grant = none → Dead (t.step op).pipe h := by
    intro hnone heq
    rw [hnone] at heq
    cases heq
  cases op with
  | startRun runId alg mask layout =>
    exact hshut ((startRun_shuts t.pipe runId alg mask layout).2 (of_decide_eq_true he) _)
  | stopProduction =>
    apply hshut
    simp only [Tracked.step]
    exact (stopProduction_shuts t.pipe).2 _ hi
  | beginFill s =>
    rcases beginFill_cases t.pipe s with ⟨hno, -⟩ | ⟨i, seq, -, heq, -, hopen, -⟩
    · simp [Tracked.ends, hno] at he
    have hindex : i = h.bufferIndex := by
      simp [Tracked.ends, heq] at he
      exact he
    have hgrants : t.grants (.beginFill s) = true := by simp [Tracked.grants, heq]
    rw [hgrants, Bool.toNat_true] at hbound
    rw [hk, takeLease_leaseOf, hindex] at hopen
    intro hsame
    have hpair := hopen.symm.trans hsame
    simp only [Option.some.injEq, Prod.mk.injEq] at hpair
    apply leaseOf_ne hnk (by omega)
    rw [hpair.2.2, hh]
  | finishFill h' completion =>
    have hm := handleMatches_of_accepts (.finishFill h' completion) he
    have hsame : h' = h := by
      simp [Tracked.ends, Tracked.accepts] at he
      exact he.1
    subst hsame
    exact hshut (finishFill_grant hm completion)
  | cancelFill h' =>
    have hm := handleMatches_of_accepts (.cancelFill h') he
    have hsame : h' = h := by
      simp [Tracked.ends, Tracked.accepts] at he
      exact he.1
    subst hsame
    apply hshut
    have hcancel : (t.step (.cancelFill h')).pipe = t.pipe.dropBuffer h'.bufferIndex false := by
      simp only [Tracked.step, Pipeline.cancelFill]
      rw [if_neg (by simp [hm])]
    rw [hcancel]
    exact dropBuffer_grant hi false
  | _ => cases he

theorem Tracked.run_append (t : Tracked) (a b : List Op) : t.run (a ++ b) = (t.run a).run b :=
  List.foldl_append

theorem Tracked.count_append (P : Tracked → Op → Bool) (a b : List Op) : ∀ t : Tracked,
    t.count P (a ++ b) = t.count P a + (t.run a).count P b := by
  induction a with
  | nil => exact fun t => (Nat.zero_add _).symm
  | cons op a ih =>
    intro t
    rw [List.cons_append, Tracked.count, Tracked.count, ih, Nat.add_assoc]
    rfl

theorem run_nextLease (ops : List Op) : ∀ {t : Tracked} {k : ℕ}, t.pipe.nextLease = leaseOf k →
    (t.run ops).pipe.nextLease = leaseOf (k + t.leases ops) := by
  induction ops with
  | nil => exact fun hk => hk
  | cons op ops ih =>
    intro t k hk
    have hrest := ih (step_nextLease op hk)
    rw [Nat.add_assoc] at hrest
    exact hrest

/-- A handle is taken at most once. -/
theorem accepts_once (hh : h.lease = leaseOf n) (hi : h.bufferIndex < 200) (ops : List Op) :
    ∀ {t : Tracked} {k : ℕ}, t.pipe.nextLease = leaseOf k → n < k → k + t.leases ops < 2 ^ 32 →
    t.count (Tracked.accepts h) ops ≤ 1 := by
  induction ops with
  | nil => exact fun _ _ _ => Nat.zero_le 1
  | cons op ops ih =>
    intro t k hk hnk hbound
    have hsplit : t.leases (op :: ops) = (t.grants op).toNat + (t.step op).leases ops := rfl
    rw [hsplit] at hbound
    have hnext := step_nextLease op hk
    rw [Tracked.count]
    cases ha : t.accepts h op with
    | false =>
      rw [Bool.toNat_false, Nat.zero_add]
      exact ih hnext (by omega) (by omega)
    | true =>
      have hends : t.ends h op = true := by
        cases op with
        | finishFill h' completion => exact ha
        | cancelFill h' => exact ha
        | _ => cases ha
      have hdead := dead_of_ends hends hh hk hnk hi (by omega)
      have hnone := (Dead.run hh ops hdead hnext (by omega) (by omega)).2
      rw [hnone]
      rfl

end Handle

/-- Fill handles are linear: `finishFill` and `cancelFill` together take a handle at most once,
and once it was taken, production was stopped or the buffer was given out again, in this run
or a later one, every use of it is rejected. -/
theorem fill_handle_linear (before after : List Op) (s : Stream)
    (hok : ((Tracked.initial.run before).pipe.beginFill s).2.status = .ok)
    (hleases : Tracked.initial.leases (before ++ .beginFill s :: after) < 2 ^ 32) :
    let h := ((Tracked.initial.run before).pipe.beginFill s).2.handle
    let t := (Tracked.initial.run before).step (.beginFill s)
    t.pipe.handleMatches h = true ∧ t.count (Tracked.accepts h) after ≤ 1 ∧
      ∀ early op late, after = early ++ op :: late → (t.run early).ends h op = true →
        Rejected (t.run after).pipe h := by
  intro h t
  have hk : (Tracked.initial.run before).pipe.nextLease =
      leaseOf (Tracked.initial.leases before) := by
    have := run_nextLease before (t := Tracked.initial) (k := 0) rfl
    rwa [Nat.zero_add] at this
  have hgrants : (Tracked.initial.run before).grants (.beginFill s) = true := decide_eq_true hok
  have hnext : t.pipe.nextLease = leaseOf (Tracked.initial.leases before + 1) := by
    have := step_nextLease (.beginFill s) hk
    rwa [hgrants, Bool.toNat_true] at this
  have htotal : Tracked.initial.leases (before ++ .beginFill s :: after) =
      Tracked.initial.leases before + (1 + t.leases after) := by
    unfold Tracked.leases
    rw [Tracked.count_append, Tracked.count, hgrants, Bool.toNat_true]
  rw [htotal] at hleases
  rcases beginFill_cases (Tracked.initial.run before).pipe s with
    ⟨hno, -⟩ | ⟨i, seq, hi, hresult, -, hopen, -⟩
  · exact absurd hok hno
  have hhandle : h = { bufferIndex := i, stream := s, sequence := seq
                       lease := leaseOf (Tracked.initial.leases before) } := by
    rw [hk, takeLease_leaseOf] at hresult
    exact congrArg BeginFillResult.handle hresult
  have hlease : h.lease = leaseOf (Tracked.initial.leases before) := by rw [hhandle]
  have hindex : h.bufferIndex < 200 := by rw [hhandle]; exact hi
  have hvalid : h.valid = true := by
    have hne : leaseOf (Tracked.initial.leases before) ≠ 0 := by
      intro h0
      have := leaseOf_toNat (Tracked.initial.leases before)
      rw [h0] at this
      simp at this
    rw [hhandle]
    simp only [FillHandle.valid, Bool.and_eq_true, decide_eq_true_eq]
    exact ⟨by unfold kInvalidBufferIndex; omega, hne⟩
  refine ⟨?_, accepts_once hlease hindex after hnext (by omega) (by omega), ?_⟩
  · rw [handleMatches_iff_grant]
    refine ⟨hvalid, hindex, ?_⟩
    rw [hk, takeLease_leaseOf] at hopen
    rw [hhandle]
    exact hopen
  · intro early op late hafter hends
    subst hafter
    -- the handle dies at `op` and stays dead
    have hsplit : t.leases (early ++ op :: late) =
        t.leases early + (((t.run early).grants op).toNat + ((t.run early).step op).leases late) := by
      unfold Tracked.leases
      rw [Tracked.count_append, Tracked.count]
    rw [hsplit] at hleases
    have hearly := run_nextLease early hnext
    have hdead := dead_of_ends hends hlease hearly (by omega) hindex (by omega)
    have hlate := Dead.run hlease late hdead (step_nextLease _ hearly) (by omega) (by omega)
    apply rejected_of_not_matches
    rw [Tracked.run_append]
    exact hlate.1.not_matches

/-- A version 3 run with both streams. -/
def openRun : List Op :=
  [.startRun 7 ChecksumAlgorithm.adler32 3 (publicV3 .disabled .raw .raw)]

/-- The first fill of the run is finished. -/
def finishFirst : Op :=
  .finishFill { bufferIndex := 0, stream := .gpio, sequence := 0, lease := 1 }
    { firstSampleTicks := 80, payloadBytesWritten := 4032 }

/-- Its handle is rejected after the next fill too. -/
theorem fill_handle_finished :
    Rejected (((Tracked.initial.run openRun).step (.beginFill .gpio)).run
      [finishFirst, .beginFill .gpio]).pipe
      ((Tracked.initial.run openRun).pipe.beginFill .gpio).2.handle := by
  have hok : ((Tracked.initial.run openRun).pipe.beginFill .gpio).2.status = .ok := by
    decide +kernel
  have hleases : Tracked.initial.leases
      (openRun ++ .beginFill .gpio :: [finishFirst, .beginFill .gpio]) < 2 ^ 32 := by
    decide +kernel
  have hends : (((Tracked.initial.run openRun).step (.beginFill .gpio)).run []).ends
      ((Tracked.initial.run openRun).pipe.beginFill .gpio).2.handle finishFirst = true := by
    decide +kernel
  obtain ⟨-, -, hrejected⟩ := fill_handle_linear openRun [finishFirst, .beginFill .gpio] .gpio hok
    hleases
  exact hrejected [] finishFirst [.beginFill .gpio] (List.nil_append _).symm hends

end ThingDaq
