import ThingDaq.Host.Timeline

/-!
# The assertions of the aligner

The aligner asserts what it relies on: an epoch where it needs a coverage, progress
of its loop, a free place for a block, the configured bound.  In an epoch none of
these fails.  Without one, `flush` and `finish` ask for the coverage before they look
whether anything is pending.

## Main results

* `TimestampAligner.call_proper` — in an epoch a call raises validation errors only.
* `assertions_unreachable_iff` — the calls that never assert are those that flush or
  finish after an epoch has begun.
-/

namespace ThingDaq.Alignment

open Tiling

/-- The errors that refuse an input: a `TimestampAlignmentError` or the `ValueError`
of an item.  The others are the assertions of the aligner and a division by zero. -/
def AlignError.validation : AlignError → Bool
  | .noProgress | .noEpoch | .slotTaken | .boundExceeded | .zeroDivision => false
  | _ => true

namespace TimestampAligner

variable {a a' : TimestampAligner} {c t : ℕ} {items : List AlignmentItem} {n : ℕ+}
  {emitted : List AlignmentItem} {accepted : List Block}

/-! ### What a slot can raise -/

theorem fromExpected_error {block : Block} {sequence ticks : ℕ} {e : AlignError}
    (h : fromExpected block sequence ticks = .error e) : e.validation = true := by
  simp only [fromExpected] at h
  split at h
  · cases h
    rfl
  · split at h
    · cases h
    · split at h
      · cases h
        rfl
      · cases h

/-- After `from_expected` only disagreeing evidence is refused. -/
theorem continuityResult_error {block : Block} {e : AlignError}
    (h : a.continuityResult block = .error e) :
    fromExpected block (a.expectedSequence block.kind) (a.expectedTicks block.kind) = .error e ∨
      e = .gapDisagrees := by
  unfold continuityResult at h
  generalize fromExpected block (a.expectedSequence block.kind)
    (a.expectedTicks block.kind) = computed at h ⊢
  generalize (if block.kind = .adcData then block.gap else none) = embedded at h
  cases computed with
  | error e' =>
    change Except.error e' = Except.error e at h
    rw [Except.error.inj h]
    exact .inl rfl
  | ok computed =>
    simp only [bind, Except.bind, pure, Except.pure, throw, throwThe, MonadExceptOf.throw] at h
    split at h
    · exact .inr (Except.error.inj h).symm
    · split at h
      · exact .inr (Except.error.inj h).symm
      · cases h

theorem mapM_error {α β ε : Type*} {f : α → Except ε β} {l : List α} {e : ε}
    (h : l.mapM f = .error e) : ∃ x ∈ l, f x = .error e := by
  induction l with
  | nil => cases h
  | cons x xs ih =>
    rw [List.mapM_cons] at h
    cases hx : f x with
    | error e' =>
      rw [hx] at h
      cases h
      exact ⟨x, List.mem_cons_self, hx⟩
    | ok y =>
      cases hxs : xs.mapM f with
      | error e' =>
        rw [hx, hxs] at h
        cases h
        obtain ⟨z, hz, hfz⟩ := ih hxs
        exact ⟨z, List.mem_cons_of_mem _ hz, hfz⟩
      | ok ys =>
        rw [hx, hxs] at h
        cases h

/-- With an epoch and its source a loss is refused for its values only. -/
theorem alignmentLoss_error {reason : AlignmentLossReason} {count : ℕ} {present : StreamMask}
    {e : AlignError} (hs : a.Slots c) (hsrc : a.activeSource.isSome)
    (h : a.alignmentLoss reason t count present = .error e) : e.validation = true := by
  obtain ⟨r, hr, -⟩ := hs.run
  obtain ⟨source, hsource⟩ := Option.isSome_iff_exists.mp hsrc
  simp only [alignmentLoss, hr, hsource, hs.coverage] at h
  split at h
  · cases h
  · cases h
    rfl

theorem slotItems_error {slot : PendingInterval} {reason : Option AlignmentLossReason}
    {e : AlignError} (hs : a.Slots c) (hsrc : a.activeSource.isSome)
    (h : a.slotItems slot t reason = .error e) : e.validation = true := by
  cases hc : slot.blocks.mapM a.continuityResult with
  | error e' =>
    simp only [slotItems, hc, bind, Except.bind] at h
    cases h
    obtain ⟨b, -, hb⟩ := mapM_error hc
    rcases continuityResult_error hb with hexp | rfl
    · exact fromExpected_error hexp
    · rfl
  | ok continuity =>
    simp only [slotItems, hc, bind, Except.bind, pure, Except.pure, throw, throwThe,
      MonadExceptOf.throw] at h
    split at h
    · cases h
      rfl
    · cases reason with
      | none => cases h
      | some reason =>
        cases hl : a.alignmentLoss reason t 1 slot.presentStreams with
        | error e' =>
          simp only [hl] at h
          cases h
          exact alignmentLoss_error hs hsrc hl
        | ok loss =>
          simp only [hl] at h
          cases h

/-! ### Proper calls -/

/-- A call that leaves an epoch, and raises nothing but a validation error. -/
structure Proper (o : Outcome) : Prop where
  epoch : o.state.frameCoverageTicks.isSome
  error : ∀ e, o.error = some e → e.validation = true

theorem Slots.epoch (hs : a.Slots c) : a.frameCoverageTicks.isSome := by
  rw [hs.coverage]
  rfl

theorem Proper.ok (h : a.frameCoverageTicks.isSome) : Proper { state := a } :=
  ⟨h, by simp⟩

theorem Proper.raise {e : AlignError} (h : a.frameCoverageTicks.isSome)
    (he : e.validation = true) : Proper { state := a, error := some e } :=
  ⟨h, fun _ h => Option.some.inj h ▸ he⟩

theorem Proper.after {o : Outcome} (h : Proper o) (items : List AlignmentItem) :
    Proper (o.after items) :=
  ⟨h.epoch, h.error⟩

theorem Proper.andThen {o : Outcome} {g : TimestampAligner → Outcome} (h : Proper o)
    (hg : o.error = none → Proper (g o.state)) : Proper (o.andThen g) := by
  simp only [Outcome.andThen]
  split
  · exact h
  · rename_i hne
    have hp := hg (by simpa using hne)
    exact ⟨hp.epoch, hp.error⟩

theorem emitSlot_proper {slot : PendingInterval} (hs : a.Slots c)
    (hslot : a.slotAt a.nextOutputTicks = some slot) (reason : Option AlignmentLossReason) :
    Proper (a.emitSlot c a.nextOutputTicks reason) := by
  have hsrc := hs.source (List.ne_nil_of_mem (mem_of_slotAt hslot))
  rcases emitSlot_emits hs hslot reason with ⟨e, he⟩ | ⟨a', items, he, hm⟩
  · rw [he]
    refine Proper.raise hs.epoch ?_
    replace he := congrArg Outcome.error he
    simp only [emitSlot, hslot] at he
    split at he
    · rename_i e' hi
      cases he
      exact slotItems_error hs hsrc hi
    · split at he
      · rename_i e' hadv
        simp only [advance] at hadv
        split at hadv
        · cases hadv
          cases he
          rfl
        · cases hadv
      · cases he
  · rw [he]
    exact ⟨hm.slots.epoch, by simp⟩

theorem drain_proper (hs : a.Slots c) (highest : ℕ) : Proper (a.drain c highest) :=
  drain_rule (motive := fun _ o => Proper o) (fun _ hs _ => Proper.ok hs.epoch)
    (fun _ _ reason hs hslot _ => emitSlot_proper hs hslot reason)
    (fun _ _ items _ _ h => h.after items) hs

theorem flushPending_proper (hs : a.Slots c) (reason : AlignmentLossReason) :
    Proper (a.flushPending c reason) :=
  flushPending_rule (motive := fun _ o => Proper o) (fun _ hs _ => Proper.ok hs.epoch)
    (fun _ _ reason hs hslot _ => emitSlot_proper hs hslot reason)
    (fun _ _ items _ _ h => h.after items) hs

/-- A drain fills no place. -/
theorem Emits.taken {block : Block} (hm : Emits c a items a') (hs : a.Slots c)
    (hfree : a.taken block = false) : a'.taken block = false := by
  cases hat : a'.slotAt block.firstSampleTicks with
  | none => simp [TimestampAligner.taken, hat]
  | some slot =>
    have hmem := hm.sub.subset (mem_of_slotAt hat)
    have hold := slotAt_of_mem hs.nodup hmem
    simp only [TimestampAligner.taken, hold] at hfree
    simpa only [TimestampAligner.taken, hat] using hfree

/-- The last part of a push, as `settle_keeps` finds it. -/
theorem settle_proper {block : Block} (hs : a.Slots c) (hw : a.Window n c)
    (hc : block.coverageTicks = c) (hv : validateBlockInterval block = none)
    (hsrc : a.activeSource.isSome) (hnext : a.nextOutputTicks ≤ block.firstSampleTicks)
    (hd : Drained c block.firstSampleTicks a) (hfree : a.taken block = false) :
    Proper (a.settle c block) := by
  have hs' := hs.store hfree hc hv hnext hsrc
  have ho := drain_ends hs' (a.store block).maxPending
  have hold : a.pending = [] ∨ (a.store block).Window n c := by
    rcases hd with hnil | hlt
    · exact .inl hnil
    · refine .inr ⟨hw.bound, fun e he => ?_⟩
      rcases (store_entries hs.nodup hfree).2.2 e he with he | ⟨he, -⟩
      · exact hw.within e he
      · rw [he, ← hw.bound]
        exact hlt
  have hwindow := settle_window hw.bound hold ho
  have hlen := hwindow.length_le ho.emits.slots
  rw [← hwindow.bound] at hlen
  have hp := drain_proper hs' (a.store block).maxPending
  simp only [settle, hfree, Bool.false_eq_true, if_false]
  rw [if_neg (fun h => Nat.not_lt.mpr hlen h.2)]
  exact ⟨hp.epoch, hp.error⟩

theorem accept_proper {block : Block} (h : a.Sound n emitted accepted)
    (hc : a.frameCoverageTicks = some block.coverageTicks)
    (hv : validateBlockInterval block = none) (hsrc : a.activeSource.isSome) :
    Proper (a.accept block) := by
  obtain ⟨hs, hw, hl⟩ := h.active_of_coverage hc
  simp only [accept, hc]
  split
  · exact Proper.raise hs.epoch rfl
  rename_i hlate
  cases hfree : a.taken block with
  | true => exact Proper.raise hs.epoch rfl
  | false =>
    simp only [Bool.false_eq_true, if_false]
    have ho := drain_ends hs block.firstSampleTicks
    have hnext := drain_next_le hs (validate_ok hv).1 (Nat.le_of_not_lt hlate)
      fun slot hmem => not_complete_of_free hs.nodup hfree hmem
    refine (drain_proper hs _).andThen fun he => ?_
    rw [← ho.emits.source] at hsrc
    exact settle_proper ho.emits.slots (hw.emit ho.emits) rfl hv hsrc hnext (ho.done he)
      (ho.emits.taken hs hfree)

/-! ### Epochs -/

theorem Keeps.sound {o : Outcome} (h : Keeps n emitted accepted o) :
    ∃ emitted' accepted', o.state.Sound n emitted' accepted' := by
  unfold Keeps at h
  split at h
  · exact ⟨_, _, h⟩
  · exact ⟨_, _, h.2⟩

theorem beginRun_proper {closing : List AlignmentItem} {runId : ℕ} {source : Option Source}
    {profile : Option (ℕ × AuxBankMode × RateProfile)}
    (h : a.frameCoverageTicks.isSome ∨ runId ≠ 0 ∧ c ≠ 0) :
    Proper (a.beginRun closing runId source c profile) := by
  simp only [beginRun, startEpoch]
  by_cases hr : runId = 0
  · have hepoch := h.resolve_right fun h => h.1 hr
    simp only [if_pos hr]
    exact ⟨hepoch, by simp [AlignError.validation]⟩
  · by_cases hc : c = 0
    · have hepoch := h.resolve_right fun h => h.2 hc
      simp only [if_neg hr, if_pos hc]
      exact ⟨hepoch, by simp [AlignError.validation]⟩
    · simp only [if_neg hr, if_neg hc]
      exact ⟨rfl, by simp⟩

theorem activateEpoch_proper (h : a.Sound n emitted accepted) {runId : ℕ} (source : Option Source)
    (profile : Option (ℕ × AuxBankMode × RateProfile))
    (hbegin : a.frameCoverageTicks.isSome ∨ runId ≠ 0 ∧ c ≠ 0) :
    Proper (a.activateEpoch runId source c profile) := by
  cases h with
  | idle bound run coverage pending next he hacc =>
    simp only [activateEpoch, run]
    exact beginRun_proper hbegin
  | active c' slots window log =>
    obtain ⟨r, hr, h0⟩ := slots.run
    have hepoch := slots.epoch
    simp only [activateEpoch, hr, slots.coverage]
    split
    · -- another run: what is pending leaves first
      have hp := flushPending_proper slots .runBoundary
      split
      · exact hp
      · exact beginRun_proper (.inl hp.epoch)
    · split
      · exact Proper.raise hepoch rfl
      · split
        · exact Proper.raise hepoch rfl
        · split
          · exact Proper.raise rfl rfl
          · exact Proper.ok rfl

theorem activateEpoch_refused {runId : ℕ} (source : Option Source)
    (profile : Option (ℕ × AuxBankMode × RateProfile)) (hrun : a.activeRunId = none)
    (h : runId = 0 ∨ c = 0) :
    ∃ e, e.validation = true ∧
      a.activateEpoch runId source c profile = { state := a, error := some e } := by
  simp only [activateEpoch, hrun, beginRun, startEpoch]
  by_cases hr : runId = 0
  · exact ⟨.zeroRun, rfl, by simp [hr]⟩
  · exact ⟨.zeroCoverage, rfl, by simp [hr, h.resolve_left hr]⟩

/-! ### Calls -/

end TimestampAligner

/-- What an ADC block, a GPIO block and a stream gap are never without. -/
def Call.Valid : Call → Prop
  | .pushBlock block => block.coverageTicks ≠ 0
  | .pushGap gap => gap.itemPeriodTicks * gap.itemsPerFrame ≠ 0
  | .flush | .finish => True

instance (call : Call) : Decidable call.Valid := by
  cases call <;> unfold Call.Valid <;> infer_instance

def Call.pushes : Call → Bool
  | .pushBlock _ | .pushGap _ => true
  | .flush | .finish => false

/-- The calls that begin an epoch on an aligner that has none. -/
def Call.begins : Call → Bool
  | .pushBlock block => decide (block.rateProfile ≠ .adc1MhzGpio1Mhz) &&
      (TimestampAligner.validateBlockInterval block).isNone && block.runId != 0
  | .pushGap gap => gap.runId != 0 &&
      gap.expectedFirstSampleTicks % (gap.itemPeriodTicks * gap.itemsPerFrame) == 0 &&
      gap.observedFirstSampleTicks % (gap.itemPeriodTicks * gap.itemsPerFrame) == 0
  | .flush | .finish => false

namespace TimestampAligner

variable {a : TimestampAligner} {n : ℕ+} {emitted : List AlignmentItem} {accepted : List Block}

theorem validate_error {block : Block} {e : AlignError} (hc : block.coverageTicks ≠ 0)
    (h : validateBlockInterval block = some e) : e.validation = true := by
  simp only [validateBlockInterval, if_neg hc] at h
  split at h
  · cases h
    rfl
  split at h
  · cases h
    rfl
  split at h
  · cases h
    rfl
  · cases h

theorem pushBlock_proper {block : Block} (h : a.Sound n emitted accepted)
    (hv : (Call.pushBlock block).Valid)
    (hepoch : a.frameCoverageTicks.isSome ∨ (Call.pushBlock block).begins ∧ a.closed = false) :
    Proper (a.pushBlock block) := by
  simp only [Call.begins, Bool.and_eq_true, decide_eq_true_eq, Option.isNone_iff_eq_none,
    bne_iff_ne, ne_eq] at hepoch
  simp only [pushBlock]
  split
  · rename_i hclosed
    exact Proper.raise (hepoch.resolve_right fun h => by simp [hclosed] at h) rfl
  split
  · rename_i hrate
    exact Proper.raise (hepoch.resolve_right fun h => h.1.1.1 hrate) rfl
  split
  · rename_i e he
    exact Proper.raise (hepoch.resolve_right fun h => by simp [he] at h) (validate_error hv he)
  · rename_i hvalid
    obtain ⟨hkeep, hact⟩ := activateEpoch_keeps h block.runId (some block.source)
      block.coverageTicks (some block.profileSignature)
    refine (activateEpoch_proper h _ _ (hepoch.imp_right fun h => ⟨h.1.2, hv⟩)).andThen ?_
    intro he
    obtain ⟨emitted', accepted', hsound⟩ := hkeep.sound
    exact accept_proper hsound (hact.coverage he) hvalid (hact.source he rfl)

theorem keepGap_proper {gap : StreamGap} (h : a.frameCoverageTicks.isSome) :
    Proper (a.keepGap gap) := by
  simp only [keepGap]
  split
  · exact Proper.raise h rfl
  split
  · exact Proper.raise h rfl
  split
  · exact Proper.raise h rfl
  · exact ⟨h, by simp⟩

theorem pushGap_proper {gap : StreamGap} (h : a.Sound n emitted accepted)
    (hv : (Call.pushGap gap).Valid)
    (hepoch : a.frameCoverageTicks.isSome ∨ (Call.pushGap gap).begins ∧ a.closed = false) :
    Proper (a.pushGap gap) := by
  simp only [Call.begins, Bool.and_eq_true, beq_iff_eq, bne_iff_ne, ne_eq] at hepoch
  simp only [Call.Valid, ne_eq] at hv
  simp only [pushGap, pushAnnouncedGap, if_neg hv]
  split
  · rename_i hclosed
    exact Proper.raise (hepoch.resolve_right fun h => by simp [hclosed] at h) rfl
  split
  · rename_i hmod
    exact Proper.raise (hepoch.resolve_right fun h => by omega) rfl
  · have hp := activateEpoch_proper (c := gap.itemPeriodTicks * gap.itemsPerFrame) h none none
      (hepoch.imp_right fun h => ⟨h.1.1.1, hv⟩)
    exact hp.andThen fun _ => keepGap_proper hp.epoch

theorem flushWith_proper (h : a.Sound n emitted accepted) (hepoch : a.frameCoverageTicks.isSome)
    (reason : AlignmentLossReason) : Proper (a.flushWith reason) := by
  obtain ⟨c, hc⟩ := Option.isSome_iff_exists.mp hepoch
  simp only [flushWith, hc]
  exact flushPending_proper (h.active_of_coverage hc).1 reason

/-- In an epoch a call raises nothing but a validation error. -/
theorem call_proper {call : Call} (h : a.Sound n emitted accepted) (hv : call.Valid)
    (hepoch : a.frameCoverageTicks.isSome ∨ call.begins ∧ a.closed = false) :
    Proper (a.call call) := by
  cases call with
  | pushBlock block => exact pushBlock_proper h hv hepoch
  | pushGap gap => exact pushGap_proper h hv hepoch
  | flush =>
    have hepoch := hepoch.resolve_right fun h => by cases h.1
    simp only [TimestampAligner.call, flush]
    split
    · exact Proper.ok hepoch
    · exact flushWith_proper h hepoch _
  | finish =>
    have hepoch := hepoch.resolve_right fun h => by cases h.1
    have hp := flushWith_proper h hepoch .endOfInput
    simp only [TimestampAligner.call, finish]
    split
    · exact Proper.ok hepoch
    split
    · exact hp
    · exact ⟨hp.epoch, hp.error⟩

/-- A push that begins no epoch is refused while there is none. -/
theorem call_refused {call : Call} (hrun : a.activeRunId = none) (hclosed : a.closed = false)
    (hv : call.Valid) (hpush : call.pushes = true) (hb : call.begins = false) :
    ∃ e, e.validation = true ∧ a.call call = { state := a, error := some e } := by
  cases call with
  | pushBlock block =>
    simp only [TimestampAligner.call, pushBlock, hclosed, Bool.false_eq_true, if_false]
    split
    · exact ⟨.equalRates, rfl, rfl⟩
    rename_i hrate
    split
    · rename_i e he
      exact ⟨e, validate_error hv he, rfl⟩
    · rename_i hvalid
      have hzero : block.runId = 0 := by simpa [Call.begins, hrate, hvalid] using hb
      obtain ⟨e, he, hact⟩ := activateEpoch_refused (c := block.coverageTicks) (some block.source)
        (some block.profileSignature) hrun (.inl hzero)
      exact ⟨e, he, by rw [hact]; rfl⟩
  | pushGap gap =>
    simp only [Call.Valid, ne_eq] at hv
    simp only [TimestampAligner.call, pushGap, pushAnnouncedGap, hclosed, Bool.false_eq_true,
      if_false, if_neg hv]
    split
    · exact ⟨.gapNotAligned, rfl, rfl⟩
    · rename_i hmod
      have hzero : gap.runId = 0 := by
        rw [not_or, not_not, not_not] at hmod
        simpa [Call.begins, hmod.1, hmod.2] using hb
      obtain ⟨e, he, hact⟩ := activateEpoch_refused (c := gap.itemPeriodTicks * gap.itemsPerFrame)
        none none hrun (.inl hzero)
      exact ⟨e, he, by rw [hact]; rfl⟩
  | flush => cases hpush
  | finish => cases hpush

/-- A flush asks for the coverage of an epoch before it asks for anything pending. -/
theorem call_asserts {call : Call} (hc : a.frameCoverageTicks = none) (hclosed : a.closed = false)
    (hpush : call.pushes = false) :
    a.call call = { state := a, error := some .noEpoch } := by
  cases call with
  | pushBlock block => cases hpush
  | pushGap gap => cases hpush
  | flush => simp [TimestampAligner.call, flush, flushWith, hclosed, hc]
  | finish => simp [TimestampAligner.call, finish, flushWith, hclosed, hc]

end TimestampAligner

/-! ### Runs -/

namespace Session

/-- The outcomes of the calls, one after the other. -/
def outcomes (s : Session) : List Call → List Outcome
  | [] => []
  | c :: calls => s.aligner.call c :: (s.step c).outcomes calls

end Session

inductive AlignmentInput
  | block (block : Block)
  | gap (gap : StreamGap)
  deriving DecidableEq, Repr

def AlignmentInput.call : AlignmentInput → Call
  | .block b => .pushBlock b
  | .gap g => .pushGap g

/-- `push`. -/
def TimestampAligner.push (a : TimestampAligner) (item : AlignmentInput) : Outcome :=
  a.call item.call

/-- The generator of `align_by_timestamp`: what it yields, and the error that ended it. -/
def TimestampAligner.alignAll (a : TimestampAligner) :
    List AlignmentInput → List AlignmentItem × Option AlignError
  | [] => (a.finish.returned, a.finish.error)
  | item :: items =>
    let o := a.push item
    match o.error with
    | some e => ([], some e)
    | none =>
      let rest := o.state.alignAll items
      (o.returned ++ rest.1, rest.2)

def alignByTimestamp (maxPendingIntervals : ℕ+) (items : List AlignmentInput) :
    List AlignmentItem × Option AlignError :=
  ({ maxPendingIntervals := maxPendingIntervals } : TimestampAligner).alignAll items

/-- Only validation errors, where there are any. -/
def Documented (error : Option AlignError) : Prop := ∀ e, error = some e → e.validation = true

/-- No flush and no finish before the first call that begins an epoch. -/
def BeginsFirst (calls : List Call) : Prop :=
  ∀ c ∈ calls.takeWhile (fun c => !c.begins), c.pushes = true

instance (calls : List Call) : Decidable (BeginsFirst calls) :=
  inferInstanceAs (Decidable (∀ c ∈ calls.takeWhile (fun c => !c.begins), c.pushes = true))

namespace Session

variable {s : Session} {n : ℕ+}

theorem step_aligner (s : Session) (c : Call) : (s.step c).aligner = (s.aligner.call c).state := by
  simp only [step, record]
  split <;> rfl

theorem outcomes_documented (h : s.Sound n) (hepoch : s.aligner.frameCoverageTicks.isSome)
    (calls : List Call) (hv : ∀ c ∈ calls, c.Valid) :
    ∀ o ∈ s.outcomes calls, Documented o.error := by
  induction calls generalizing s with
  | nil => intro o ho; cases ho
  | cons c calls ih =>
    have hp := TimestampAligner.call_proper h.current (hv c List.mem_cons_self) (.inl hepoch)
    intro o ho
    rcases List.mem_cons.mp ho with rfl | ho
    · exact hp.error
    · refine ih (h.step c) ?_ (fun c hc => hv c (List.mem_cons_of_mem _ hc)) o ho
      rw [step_aligner]
      exact hp.epoch

/-- Before the first epoch the calls that begin none change nothing. -/
theorem outcomes_fresh (h : s.Sound n) (hrun : s.aligner.activeRunId = none)
    (hc : s.aligner.frameCoverageTicks = none) (hclosed : s.aligner.closed = false)
    (calls : List Call) (hv : ∀ c ∈ calls, c.Valid) :
    (∀ o ∈ s.outcomes calls, Documented o.error) ↔ BeginsFirst calls := by
  induction calls generalizing s with
  | nil => exact iff_of_true (fun o ho => nomatch ho) (fun c hc => nomatch hc)
  | cons c calls ih =>
    have hvc := hv c List.mem_cons_self
    have hvs := fun c hc => hv c (List.mem_cons_of_mem _ hc)
    cases hb : c.begins with
    | true =>
      have hp := TimestampAligner.call_proper h.current hvc (.inr ⟨hb, hclosed⟩)
      refine iff_of_true ?_ ?_
      · intro o ho
        rcases List.mem_cons.mp ho with rfl | ho
        · exact hp.error
        · exact outcomes_documented (h.step c) (by rw [step_aligner]; exact hp.epoch) calls hvs o ho
      · intro c' hc'
        simp [hb] at hc'
    | false =>
      cases hpush : c.pushes with
      | true =>
        obtain ⟨e, he, hcall⟩ := TimestampAligner.call_refused hrun hclosed hvc hpush hb
        have hstate : (s.step c).aligner = s.aligner := by rw [step_aligner, hcall]
        have ih := ih (h.step c) (hstate ▸ hrun) (hstate ▸ hc) (hstate ▸ hclosed) hvs
        simp only [outcomes, List.forall_mem_cons, BeginsFirst, List.takeWhile_cons, hb,
          Bool.not_false, if_true, hpush, true_and] at ih ⊢
        rw [ih, and_iff_right_iff_imp]
        intro _ e' he'
        rw [hcall] at he'
        exact Option.some.inj he' ▸ he
      | false =>
        have hcall := TimestampAligner.call_asserts hc hclosed hpush
        refine iff_of_false ?_ ?_
        · intro hall
          have := hall _ List.mem_cons_self .noEpoch (by rw [hcall])
          cases this
        · intro hall
          have := hall c (by simp [hb])
          rw [hpush] at this
          cases this

end Session

namespace TimestampAligner

variable {a : TimestampAligner} {n : ℕ+}

theorem call_keeps {emitted : List AlignmentItem} {accepted : List Block}
    (h : a.Sound n emitted accepted) (call : Call) : Keeps n emitted accepted (a.call call) :=
  Session.call_keeps (s := { aligner := a, current := ⟨emitted, accepted⟩, raised := true })
    ⟨h, fun _ hr => (nomatch hr), fun h => (nomatch h)⟩ call

theorem alignAll_documented {emitted : List AlignmentItem} {accepted : List Block}
    (h : a.Sound n emitted accepted) (hepoch : a.frameCoverageTicks.isSome)
    (items : List AlignmentInput) (hv : ∀ i ∈ items, i.call.Valid) :
    Documented (a.alignAll items).2 := by
  induction items generalizing a emitted accepted with
  | nil => exact (call_proper h (show Call.finish.Valid from True.intro) (.inl hepoch)).error
  | cons item items ih =>
    have hp := call_proper h (hv item List.mem_cons_self) (.inl hepoch)
    obtain ⟨emitted', accepted', hsound⟩ := (call_keeps h item.call).sound
    simp only [alignAll, push]
    split
    · rename_i e he
      exact fun e' he' => hp.error e' (he.trans he')
    · exact ih hsound hp.epoch fun i hi => hv i (List.mem_cons_of_mem _ hi)

end TimestampAligner

/-- No call asserts exactly when no flush and no finish comes before the first item
that begins an epoch, and `align_by_timestamp` asserts on the empty iterable only. -/
theorem assertions_unreachable_iff (n : ℕ+) :
    (∀ calls : List Call, (∀ c ∈ calls, c.Valid) →
      ((∀ o ∈ (Session.initial n).outcomes calls, Documented o.error) ↔ BeginsFirst calls)) ∧
    ∀ items : List AlignmentInput, (∀ i ∈ items, i.call.Valid) →
      (Documented (alignByTimestamp n items).2 ↔ items ≠ []) := by
  have hinit := Session.initial_sound n
  refine ⟨fun calls hv => Session.outcomes_fresh hinit rfl rfl rfl calls hv, fun items hv => ?_⟩
  cases items with
  | nil =>
    refine iff_of_false (fun h => ?_) (fun h => h rfl)
    have := h .noEpoch rfl
    cases this
  | cons item items =>
    refine iff_of_true ?_ (List.cons_ne_nil _ _)
    have hvi := hv item List.mem_cons_self
    simp only [alignByTimestamp, TimestampAligner.alignAll, TimestampAligner.push]
    cases hb : item.call.begins with
    | true =>
      have hp := TimestampAligner.call_proper hinit.current hvi (.inr ⟨hb, rfl⟩)
      obtain ⟨emitted', accepted', hsound⟩ :=
        (TimestampAligner.call_keeps hinit.current item.call).sound
      split
      · rename_i e he
        exact fun e' he' => hp.error e' (he.trans he')
      · exact TimestampAligner.alignAll_documented hsound hp.epoch items
          fun i hi => hv i (List.mem_cons_of_mem _ hi)
    | false =>
      -- the first item raises, since it leaves no epoch
      have hpush : item.call.pushes = true := by cases item <;> rfl
      obtain ⟨e, he, hcall⟩ := TimestampAligner.call_refused
        (a := { maxPendingIntervals := n }) rfl rfl hvi hpush hb
      rw [hcall]
      exact fun e' he' => Option.some.inj he' ▸ he

/-- Four samples of one run. -/
def fourSamples : Block where
  kind := .gpioData
  runId := 1
  sequence := 0
  firstSampleTicks := 0
  payload := [1, 2, 3, 4]
  gapBefore := false
  overrunBefore := false
  synthetic := false
  auxBankMode := .disabled
  rateProfile := .adc1MhzGpio4Mhz
  protocolVersion := 3
  gap := none

theorem assertions_unreachable_begun :
    (∀ o ∈ (Session.initial 8).outcomes [.pushBlock fourSamples, .flush, .finish],
      Documented o.error) ∧ Documented (alignByTimestamp 8 [.block fourSamples]).2 :=
  ⟨((assertions_unreachable_iff 8).1 [.pushBlock fourSamples, .flush, .finish]
      (by decide)).mpr (by decide),
    ((assertions_unreachable_iff 8).2 [.block fourSamples] (by decide)).mpr (by decide)⟩

/-- A flush, a finish and the alignment of nothing, on an aligner that has seen no
input. -/
theorem assertions_reached :
    ¬(∀ o ∈ (Session.initial 8).outcomes [.flush], Documented o.error) ∧
      ¬(∀ o ∈ (Session.initial 8).outcomes [.finish], Documented o.error) ∧
      ¬Documented (alignByTimestamp 8 []).2 := by
  refine ⟨fun h => ?_, fun h => ?_, fun h => ?_⟩
  · exact absurd (h _ List.mem_cons_self .noEpoch rfl) (by decide)
  · exact absurd (h _ List.mem_cons_self .noEpoch rfl) (by decide)
  · exact absurd (h .noEpoch rfl) (by decide)

end ThingDaq.Alignment
