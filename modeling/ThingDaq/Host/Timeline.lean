import ThingDaq.Host.Alignment
import ThingDaq.Lib.Counting
import Mathlib.Data.List.Nodup

/-!
# The timeline of the aligner

Both loops of the aligner move its output one interval, or one empty stretch, at
a time.  `Emits` is what such a move does to the aligner and to its output; it
composes, so `drain` and `flushPending` are moves too, and a run of calls keeps
`Sound`.

## Main results

* `drain_rule`, `flushPending_rule` — a loop stops, raises at a slot or takes a turn;
  so `drain_ends`, `flushPending_ends`, how the two loops end.
* `timeline_tiling` — what is emitted tiles the timeline of the run, no block is
  dropped or repeated, and the pending intervals stay within their bound.
-/

namespace ThingDaq.Alignment

open Tiling

/-! ### Slots -/

/-- The slot at tick `t` of a run with coverage `c`. -/
structure PendingInterval.Holds (s : PendingInterval) (t c : ℕ) : Prop where
  nonempty : s.blocks ≠ []
  block : ∀ b ∈ s.blocks, b.firstSampleTicks = t ∧ b.coverageTicks = c
  adc : ∀ b ∈ s.adc, b.kind = .adcData
  gpio : ∀ b ∈ s.gpio, b.kind = .gpioData

theorem PendingInterval.side_empty (kind : FrameKind) : ({} : PendingInterval).side kind = none := by
  cases kind <;> rfl

/-- A block in its own free place. -/
theorem PendingInterval.put_blocks {s : PendingInterval} {b : Block} (h : s.side b.kind = none) :
    (s.put b).blocks.Perm (b :: s.blocks) := by
  cases hk : b.kind with
  | adcData =>
    simp only [hk, side] at h
    simp [put, hk, blocks, h]
  | gpioData =>
    simp only [hk, side] at h
    simp only [put, hk, blocks, h, Option.toList_some, Option.toList_none, List.append_nil]
    exact List.perm_append_comm

namespace PendingInterval.Holds

variable {s : PendingInterval} {t c : ℕ}

theorem present (h : s.Holds t c) : s.presentStreams ≠ StreamMask.none := by
  have hne := h.nonempty
  simp only [blocks, ne_eq] at hne
  simp only [presentStreams, StreamMask.none, ne_eq, StreamMask.mk.injEq]
  rintro ⟨ha, hg⟩
  cases hadc : s.adc with
  | some b => rw [hadc] at ha; cases ha
  | none =>
    cases hgpio : s.gpio with
    | some b => rw [hgpio] at hg; cases hg
    | none => exact hne (by rw [hadc, hgpio]; rfl)

/-- The interval of the slot covers its tick. -/
theorem interval (h : s.Holds t c) (gaps : List StreamGap) :
    (⟨s.adc, s.gpio, gaps⟩ : AlignedInterval).firstSampleTicks = t ∧
      (⟨s.adc, s.gpio, gaps⟩ : AlignedInterval).frameCoverageTicks = c := by
  have hb := h.block
  have hne := h.nonempty
  simp only [blocks] at hb hne
  simp only [AlignedInterval.firstSampleTicks, AlignedInterval.frameCoverageTicks,
    AlignedInterval.reference]
  cases hadc : s.adc with
  | some b =>
    rw [hadc] at hb
    exact hb b (by simp)
  | none =>
    cases hgpio : s.gpio with
    | some b =>
      rw [hgpio] at hb
      exact hb b (by simp)
    | none => exact absurd (by rw [hadc, hgpio]; rfl) hne

theorem side_of_mem {b : Block} (h : s.Holds t c) (hb : b ∈ s.blocks) :
    s.side b.kind = some b := by
  rw [blocks, List.mem_append, Option.mem_toList, Option.mem_toList] at hb
  rcases hb with hb | hb
  · rw [h.adc b hb]
    exact hb
  · rw [h.gpio b hb]
    exact hb

/-- A slot with one more block; it may have been empty. -/
theorem of_put {b : Block} (hb : ∀ x ∈ s.blocks, x.firstSampleTicks = t ∧ x.coverageTicks = c)
    (hadc : ∀ x ∈ s.adc, x.kind = .adcData) (hgpio : ∀ x ∈ s.gpio, x.kind = .gpioData)
    (ht : b.firstSampleTicks = t) (hc : b.coverageTicks = c) : (s.put b).Holds t c := by
  simp only [blocks, List.mem_append, Option.mem_toList] at hb
  cases hk : b.kind with
  | adcData =>
    refine ⟨by simp [PendingInterval.put, hk, blocks], ?_, ?_, ?_⟩
    · intro x hx
      simp only [PendingInterval.put, hk, blocks, List.mem_append, Option.mem_toList] at hx
      rcases hx with hx | hx
      · cases hx
        exact ⟨ht, hc⟩
      · exact hb x (.inr hx)
    · intro x hx
      simp only [PendingInterval.put, hk] at hx
      cases hx
      exact hk
    · intro x hx
      simp only [PendingInterval.put, hk] at hx
      exact hgpio x hx
  | gpioData =>
    refine ⟨by simp [PendingInterval.put, hk, blocks], ?_, ?_, ?_⟩
    · intro x hx
      simp only [PendingInterval.put, hk, blocks, List.mem_append, Option.mem_toList] at hx
      rcases hx with hx | hx
      · exact hb x (.inl hx)
      · cases hx
        exact ⟨ht, hc⟩
    · intro x hx
      simp only [PendingInterval.put, hk] at hx
      exact hadc x hx
    · intro x hx
      simp only [PendingInterval.put, hk] at hx
      cases hx
      exact hk

end PendingInterval.Holds

namespace TimestampAligner

variable {a a' : TimestampAligner} {c t : ℕ} {items : List AlignmentItem}

def pendingBlocks (a : TimestampAligner) : List Block := a.pending.flatMap fun e => e.2.blocks

/-- What holds of an aligner in a run with coverage `c`. -/
structure Slots (a : TimestampAligner) (c : ℕ) : Prop where
  coverage : a.frameCoverageTicks = some c
  pos : 0 < c
  aligned : c ∣ a.nextOutputTicks
  run : ∃ r, a.activeRunId = some r ∧ r ≠ 0
  source : a.pending ≠ [] → a.activeSource.isSome
  nodup : (a.pending.map Prod.fst).Nodup
  ahead : ∀ e ∈ a.pending, a.nextOutputTicks ≤ e.1
  slot : ∀ e ∈ a.pending, c ∣ e.1 ∧ e.1 + c ≤ UINT64_MAX ∧ e.2.Holds e.1 c

theorem mem_of_slotAt {slot : PendingInterval} (h : a.slotAt t = some slot) :
    (t, slot) ∈ a.pending := by
  obtain ⟨l₁, l₂, heq, -⟩ := List.lookup_eq_some_iff.mp h
  rw [heq]
  simp

theorem slotAt_of_complete
    (h : ((a.slotAt t).map PendingInterval.complete).getD false = true) :
    ∃ slot, a.slotAt t = some slot ∧ slot.complete = true := by
  cases hat : a.slotAt t with
  | none => rw [hat] at h; cases h
  | some slot =>
    rw [hat] at h
    exact ⟨slot, rfl, h⟩

theorem slotAt_of_mem {e : ℕ × PendingInterval} (hn : (a.pending.map Prod.fst).Nodup)
    (h : e ∈ a.pending) : a.slotAt e.1 = some e.2 := by
  obtain ⟨l₁, l₂, heq⟩ := List.append_of_mem h
  refine List.lookup_eq_some_iff.mpr ⟨l₁, l₂, heq, ?_⟩
  intro p hp
  rw [heq] at hn
  simp only [List.map_append, List.map_cons, List.nodup_append] at hn
  have hne : p.1 ≠ e.1 := hn.2.2 p.1 (List.mem_map_of_mem hp) e.1 List.mem_cons_self
  simpa [bne] using hne.symm

theorem pending_split {slot : PendingInterval} (hn : (a.pending.map Prod.fst).Nodup)
    (h : a.slotAt t = some slot) :
    ∃ l₁ l₂, a.pending = l₁ ++ (t, slot) :: l₂ ∧ ∀ e ∈ l₁ ++ l₂, e.1 ≠ t := by
  obtain ⟨l₁, l₂, heq, -⟩ := List.lookup_eq_some_iff.mp h
  refine ⟨l₁, l₂, heq, fun e he h => ?_⟩
  rw [heq, List.map_append, List.map_cons, List.nodup_middle, List.nodup_cons,
    ← List.map_append] at hn
  exact hn.1 (List.mem_map.mpr ⟨e, he, h⟩)

/-- The entry of a slot and the others. -/
theorem pending_perm {slot : PendingInterval} (hn : (a.pending.map Prod.fst).Nodup)
    (h : a.slotAt t = some slot) :
    a.pending.Perm ((t, slot) :: a.pending.filter fun e => decide (e.1 ≠ t)) := by
  obtain ⟨l₁, l₂, heq, hne⟩ := pending_split hn h
  have hfilter : a.pending.filter (fun e => decide (e.1 ≠ t)) = l₁ ++ l₂ := by
    rw [heq, List.filter_append, List.filter_cons_of_neg (by simp), ← List.filter_append]
    exact List.filter_eq_self.mpr fun e he => decide_eq_true (hne e he)
  rw [hfilter, heq]
  exact List.perm_middle

theorem Slots.of_slotAt {slot : PendingInterval} (hs : a.Slots c) (h : a.slotAt t = some slot) :
    a.nextOutputTicks ≤ t ∧ c ∣ t ∧ t + c ≤ UINT64_MAX ∧ slot.Holds t c :=
  ⟨hs.ahead _ (mem_of_slotAt h), hs.slot _ (mem_of_slotAt h)⟩

theorem minPending_mem (h : a.pending ≠ []) : ∃ slot, (a.minPending, slot) ∈ a.pending := by
  have hne : a.pending.map Prod.fst ≠ [] := by simpa using h
  obtain ⟨m, hm⟩ := Option.isSome_iff_exists.mp (List.isSome_min?_of_ne_nil hne)
  have hmem := List.min?_mem hm
  obtain ⟨e, he, rfl⟩ := List.mem_map.mp hmem
  refine ⟨e.2, ?_⟩
  rw [minPending, hm]
  exact he

theorem minPending_le {e : ℕ × PendingInterval} (h : e ∈ a.pending) : a.minPending ≤ e.1 := by
  have hmem := List.mem_map_of_mem (f := Prod.fst) h
  exact List.min?_getD_le_of_mem hmem

theorem le_maxPending {e : ℕ × PendingInterval} (h : e ∈ a.pending) : e.1 ≤ a.maxPending := by
  have hmem := List.mem_map_of_mem (f := Prod.fst) h
  exact List.le_max?_getD_of_mem hmem

/-! ### Moves of the output -/

/-- The output moves from `a` to `a'`, with the items of the stretch between. -/
structure Emits (c : ℕ) (a : TimestampAligner) (items : List AlignmentItem)
    (a' : TimestampAligner) : Prop where
  slots : a'.Slots c
  bound : a'.maxPendingIntervals = a.maxPendingIntervals
  source : a'.activeSource = a.activeSource
  next_le : a.nextOutputTicks ≤ a'.nextOutputTicks
  sub : a'.pending.Sublist a.pending
  tiles : Tiles AlignmentItem.span a.nextOutputTicks items a'.nextOutputTicks
  announces : Announces AlignmentItem.OneSided AlignmentItem.Completes items
  blocks : a.pendingBlocks.Perm (items.flatMap AlignmentItem.blocks ++ a'.pendingBlocks)
  behind : ∀ b ∈ items.flatMap AlignmentItem.blocks, b.firstSampleTicks < a'.nextOutputTicks

theorem Emits.refl (hs : a.Slots c) : Emits c a [] a where
  slots := hs
  bound := rfl
  source := rfl
  next_le := Nat.le_refl _
  sub := List.Sublist.refl _
  tiles := rfl
  announces := True.intro
  blocks := List.Perm.refl _
  behind := by simp

theorem Emits.trans {a'' : TimestampAligner} {xs ys : List AlignmentItem} (h : Emits c a xs a')
    (h' : Emits c a' ys a'') : Emits c a (xs ++ ys) a'' where
  slots := h'.slots
  bound := h'.bound.trans h.bound
  source := h'.source.trans h.source
  next_le := Nat.le_trans h.next_le h'.next_le
  sub := h'.sub.trans h.sub
  tiles := h.tiles.append h'.tiles
  announces := h.announces.append h'.announces
  blocks := by
    rw [List.flatMap_append, List.append_assoc]
    exact h.blocks.trans (h'.blocks.append_left _)
  behind := by
    intro b hb
    rw [List.flatMap_append, List.mem_append] at hb
    cases hb with
    | inl hb => exact Nat.lt_of_lt_of_le (h.behind b hb) h'.next_le
    | inr hb => exact h'.behind b hb

/-- The slots that are left when the output moves to a tick that none is behind. -/
theorem Slots.move (hs : a.Slots c) (hc : a'.frameCoverageTicks = a.frameCoverageTicks)
    (hr : a'.activeRunId = a.activeRunId) (hsrc : a'.activeSource = a.activeSource)
    (hp : a'.pending.Sublist a.pending) (hd : c ∣ a'.nextOutputTicks)
    (ha : ∀ e ∈ a'.pending, a'.nextOutputTicks ≤ e.1) : a'.Slots c where
  coverage := hc.trans hs.coverage
  pos := hs.pos
  aligned := hd
  run := by
    obtain ⟨r, hr', h0⟩ := hs.run
    exact ⟨r, hr.trans hr', h0⟩
  source := by
    intro hne
    rw [hsrc]
    apply hs.source
    rintro h
    rw [h, List.sublist_nil] at hp
    exact hne hp
  nodup := hs.nodup.sublist (hp.map Prod.fst)
  ahead := ha
  slot := fun e he => hs.slot e (hp.subset he)

/-! ### One slot -/

theorem foldl_expectAfter (results : List ContinuityResult) (a : TimestampAligner) :
    ∃ sequence ticks gaps, results.foldl expectAfter a =
      { a with expectedSequence := sequence, expectedTicks := ticks, announcedGaps := gaps } := by
  induction results generalizing a with
  | nil => exact ⟨_, _, _, rfl⟩
  | cons r rs ih =>
    obtain ⟨sequence, ticks, gaps, h⟩ := ih (a.expectAfter r)
    exact ⟨sequence, ticks, gaps, by rw [List.foldl_cons, h]; rfl⟩

theorem alignmentLoss_ok {reason : AlignmentLossReason} {count : ℕ} {present : StreamMask}
    {loss : AlignmentLoss} (h : a.alignmentLoss reason t count present = .ok loss) :
    loss.firstSampleTicks = t ∧ loss.intervalCount = count ∧ loss.presentStreams = present ∧
      a.frameCoverageTicks = some loss.frameCoverageTicks := by
  simp only [alignmentLoss] at h
  split at h
  · rename_i runId source coverage hr hsrc hc
    split at h
    · cases h
      exact ⟨rfl, rfl, rfl, hc⟩
    · cases h
  · cases h

/-- The items of a slot: gaps, a loss if one side is missing, and the interval. -/
theorem slotItems_ok {slot : PendingInterval} {reason : Option AlignmentLossReason}
    {results : List ContinuityResult} (h : a.slotItems slot t reason = .ok (results, items)) :
    ∃ (gaps : List StreamGap) (losses : List AlignmentLoss) (streamGaps : List StreamGap),
      items = gaps.map AlignmentItem.gap ++ losses.map AlignmentItem.loss ++
        [.interval ⟨slot.adc, slot.gpio, streamGaps⟩] ∧
      losses.length ≤ 1 ∧ ∀ l ∈ losses, l.firstSampleTicks = t ∧
        l.presentStreams = slot.presentStreams := by
  cases hc : slot.blocks.mapM a.continuityResult with
  | error e => simp [slotItems, hc, bind, Except.bind] at h
  | ok continuity =>
    simp only [slotItems, hc, bind, Except.bind, pure, Except.pure, throw, throwThe,
      MonadExceptOf.throw] at h
    split at h
    · cases h
    · split at h
      · cases h
        exact ⟨_, [], _, rfl, Nat.zero_le 1, by simp⟩
      · rename_i reason
        cases hl : a.alignmentLoss reason t 1 slot.presentStreams with
        | error e => rw [hl] at h; cases h
        | ok loss =>
          rw [hl] at h
          cases h
          refine ⟨_, [loss], _, rfl, Nat.le_refl 1, ?_⟩
          intro l hmem
          rw [List.mem_singleton.mp hmem]
          exact ⟨(alignmentLoss_ok hl).1, (alignmentLoss_ok hl).2.2.1⟩

/-- What the items of a slot say about the timeline. -/
theorem slotItems_timeline {slot : PendingInterval} {reason : Option AlignmentLossReason}
    {results : List ContinuityResult} (hh : slot.Holds t c)
    (h : a.slotItems slot t reason = .ok (results, items)) :
    Tiles AlignmentItem.span t items (t + c) ∧
      Announces AlignmentItem.OneSided AlignmentItem.Completes items ∧
      items.flatMap AlignmentItem.blocks = slot.blocks := by
  obtain ⟨gaps, losses, streamGaps, rfl, hlen, hl⟩ := slotItems_ok h
  obtain ⟨hfirst, hcov⟩ := hh.interval streamGaps
  refine ⟨?_, ?_, ?_⟩
  · refine (Tiles.append (tiles_silent ?_ t) (tiles_single ?_))
    · intro x hx
      rcases List.mem_append.mp hx with hx | hx
      · obtain ⟨g, -, rfl⟩ := List.mem_map.mp hx
        rfl
      · obtain ⟨l, hmem, rfl⟩ := List.mem_map.mp hx
        have hp : l.presentStreams ≠ StreamMask.none := (hl l hmem).2 ▸ hh.present
        simp only [AlignmentItem.span, if_neg hp]
    · simp only [AlignmentItem.span, hfirst, hcov]
  · rw [List.append_assoc]
    apply Announces.append
    · apply announces_silent
      intro x hx
      obtain ⟨g, -, rfl⟩ := List.mem_map.mp hx
      exact id
    · -- at most one loss, and its interval comes next
      match losses, hlen with
      | [], _ => exact announces_silent (by simp [AlignmentItem.OneSided])
      | [l], _ =>
        refine ⟨fun _ => ⟨_, rfl, ?_⟩, announces_silent (by simp [AlignmentItem.OneSided])⟩
        exact hfirst.trans (hl l List.mem_cons_self).1.symm
  · have hgaps : (gaps.map AlignmentItem.gap).flatMap AlignmentItem.blocks = [] := by
      simp [List.flatMap_eq_nil_iff, AlignmentItem.blocks]
    have hlosses : (losses.map AlignmentItem.loss).flatMap AlignmentItem.blocks = [] := by
      simp [List.flatMap_eq_nil_iff, AlignmentItem.blocks]
    rw [List.flatMap_append, List.flatMap_append, hgaps, hlosses]
    simp [AlignmentItem.blocks, AlignedInterval.blocks, PendingInterval.blocks]

/-- `emitSlot` at the output tick either raises and changes nothing or moves the
output by one interval. -/
theorem emitSlot_emits {slot : PendingInterval} (hs : a.Slots c)
    (hslot : a.slotAt a.nextOutputTicks = some slot) (reason : Option AlignmentLossReason) :
    (∃ e, a.emitSlot c a.nextOutputTicks reason = { state := a, error := some e }) ∨
    ∃ a' items, a.emitSlot c a.nextOutputTicks reason = { state := a', outputs := items } ∧
      Emits c a items a' := by
  obtain ⟨-, hdvd, hend, hh⟩ := hs.of_slotAt hslot
  simp only [emitSlot, hslot]
  cases hi : a.slotItems slot a.nextOutputTicks reason with
  | error e => exact .inl ⟨e, rfl⟩
  | ok result =>
    obtain ⟨results, items⟩ := result
    right
    obtain ⟨sequence, ticks, gaps, hfold⟩ := foldl_expectAfter results a
    have hwrap : ¬UINT64_MAX < a.nextOutputTicks + 1 * c := by omega
    simp only [hfold, advance, if_neg hwrap]
    refine ⟨_, items, rfl, ?_⟩
    obtain ⟨htiles, hann, hblocks⟩ := slotItems_timeline hh hi
    have hperm := pending_perm hs.nodup hslot
    have hahead : ∀ e ∈ a.pending.filter (fun e => decide (e.1 ≠ a.nextOutputTicks)),
        a.nextOutputTicks + 1 * c ≤ e.1 := by
      intro e he
      rw [List.mem_filter, decide_eq_true_eq] at he
      have hle := hs.ahead e he.1
      have hd := Nat.dvd_sub (hs.slot e he.1).1 hdvd
      have := Nat.le_of_dvd (by omega) hd
      omega
    refine
      { slots := hs.move rfl rfl rfl List.filter_sublist ?_ hahead
        bound := rfl
        source := rfl
        next_le := Nat.le_add_right _ _
        sub := List.filter_sublist
        tiles := by rw [Nat.one_mul]; exact htiles
        announces := hann
        blocks := ?_
        behind := ?_ }
    · rw [Nat.one_mul]
      exact (Nat.dvd_add_right hdvd).mpr (Nat.dvd_refl c)
    · rw [hblocks]
      exact hperm.flatMap_right _
    · intro b hb
      rw [hblocks] at hb
      have hpos := hs.pos
      change b.firstSampleTicks < a.nextOutputTicks + 1 * c
      rw [(hh.block b hb).1]
      omega

/-! ### The loops -/

/-- An empty stretch up to at most the first pending tick never raises. -/
theorem skipEmpty_emits {count : ℕ} (hs : a.Slots c) (hne : a.pending ≠ []) (hpos : 0 < count)
    (hle : a.nextOutputTicks + count * c ≤ a.minPending) (reason : AlignmentLossReason) :
    ∃ a' item, a.skipEmpty c reason count = .ok (a', item) ∧ Emits c a [item] a' ∧
      a'.pending = a.pending := by
  obtain ⟨r, hr, hr0⟩ := hs.run
  obtain ⟨source, hsrc⟩ := Option.isSome_iff_exists.mp (hs.source hne)
  obtain ⟨slot, hslot⟩ := minPending_mem hne
  have hmin := (hs.slot _ hslot).2.1
  simp only at hmin
  have hend : a.nextOutputTicks + count * c ≤ UINT64_MAX := by omega
  have hc := hs.pos
  have hcheck : (⟨reason, r, source, a.nextOutputTicks, count, StreamMask.none, ⟨true, true⟩, c⟩ :
      AlignmentLoss).check = true := by
    simp only [AlignmentLoss.check, Bool.and_eq_true, bne_iff_ne, ne_eq, beq_iff_eq,
      decide_eq_true_eq]
    exact ⟨⟨⟨⟨⟨hr0, by omega⟩, Nat.mod_eq_zero_of_dvd hs.aligned⟩, by omega⟩, rfl⟩, hend⟩
  have hloss : a.alignmentLoss reason a.nextOutputTicks count StreamMask.none =
      .ok ⟨reason, r, source, a.nextOutputTicks, count, StreamMask.none, ⟨true, true⟩, c⟩ := by
    simp only [alignmentLoss, hr, hsrc, hs.coverage]
    exact if_pos hcheck
  have hadv : ¬UINT64_MAX < a.nextOutputTicks + count * c := by omega
  simp only [skipEmpty, hloss, advance, if_neg hadv, bind, Except.bind, pure, Except.pure]
  refine ⟨_, _, rfl, ?_, rfl⟩
  exact
    { slots := hs.move rfl rfl rfl (List.Sublist.refl _)
        ((Nat.dvd_add_right hs.aligned).mpr (Nat.dvd_mul_left c count))
        fun e he => Nat.le_trans hle (minPending_le he)
      bound := rfl
      source := rfl
      next_le := Nat.le_add_right _ _
      sub := List.Sublist.refl _
      tiles := tiles_single rfl
      announces := announces_silent (by simp [AlignmentItem.OneSided])
      blocks := List.Perm.refl _
      behind := by simp [AlignmentItem.blocks] }

/-- How a loop ends: it raises only while a slot at the output tick is pending. -/
structure Ends (c : ℕ) (a : TimestampAligner) (o : Outcome) (done : TimestampAligner → Prop) :
    Prop where
  emits : Emits c a o.outputs o.state
  former : o.former = none
  accepted : o.accepted = none
  done : o.error = none → done o.state
  raised : o.error ≠ none → (o.state.slotAt o.state.nextOutputTicks).isSome

theorem Ends.now {done : TimestampAligner → Prop} (hs : a.Slots c) (hd : done a) :
    Ends c a { state := a } done where
  emits := Emits.refl hs
  former := rfl
  accepted := rfl
  done := fun _ => hd
  raised := fun h => absurd rfl h

theorem Ends.after {o : Outcome} {done : TimestampAligner → Prop} (h : Emits c a items a')
    (ho : Ends c a' o done) : Ends c a (o.after items) done where
  emits := h.trans ho.emits
  former := ho.former
  accepted := ho.accepted
  done := ho.done
  raised := ho.raised

theorem emitSlot_moves {slot : PendingInterval} {reason : Option AlignmentLossReason}
    (hs : a.Slots c) (hslot : a.slotAt t = some slot) (ht : t = a.nextOutputTicks)
    (h : (a.emitSlot c t reason).error = none) :
    Emits c a (a.emitSlot c t reason).outputs (a.emitSlot c t reason).state := by
  subst ht
  rcases emitSlot_emits hs hslot reason with ⟨e, he⟩ | ⟨a', items, he, hm⟩
  · rw [he] at h
    cases h
  · rw [he]
    exact hm

theorem emitSlot_raises {slot : PendingInterval} {reason : Option AlignmentLossReason}
    {done : TimestampAligner → Prop} (hs : a.Slots c)
    (hslot : a.slotAt t = some slot) (ht : t = a.nextOutputTicks)
    (h : (a.emitSlot c t reason).error ≠ none) : Ends c a (a.emitSlot c t reason) done := by
  subst ht
  rcases emitSlot_emits hs hslot reason with ⟨e, he⟩ | ⟨a', items, he, -⟩
  · rw [he]
    exact
      { emits := Emits.refl hs
        former := rfl
        accepted := rfl
        done := fun h => by cases h
        raised := fun _ => by rw [hslot]; rfl }
  · rw [he] at h
    exact absurd rfl h

/-- A call of `emitSlot` that raises leaves the aligner as it was. -/
theorem emitSlot_state {slot : PendingInterval} {reason : Option AlignmentLossReason}
    (hs : a.Slots c) (hslot : a.slotAt a.nextOutputTicks = some slot)
    (h : (a.emitSlot c a.nextOutputTicks reason).error ≠ none) :
    (a.emitSlot c a.nextOutputTicks reason).state = a := by
  rcases emitSlot_emits hs hslot reason with ⟨e, he⟩ | ⟨a', items, he, -⟩
  · rw [he]
  · rw [he] at h
    exact absurd rfl h

/-- When `drain` stops by itself. -/
def Drained (c highest : ℕ) (a : TimestampAligner) : Prop :=
  a.pending = [] ∨ highest < a.nextOutputTicks + a.maxPendingIntervals * c

/-- Without a slot at the output tick the first pending tick is at least one
interval ahead. -/
theorem Slots.min_ahead (hs : a.Slots c) (hne : a.pending ≠ [])
    (hnone : a.slotAt a.nextOutputTicks = none) :
    a.nextOutputTicks < a.minPending ∧ c ∣ a.minPending - a.nextOutputTicks := by
  obtain ⟨slot, hmem⟩ := minPending_mem hne
  have hle := hs.ahead _ hmem
  have hne' : a.nextOutputTicks ≠ a.minPending := by
    intro h
    have hat := slotAt_of_mem hs.nodup hmem
    simp only [← h, hnone] at hat
    cases hat
  exact ⟨by omega, Nat.dvd_sub (hs.slot _ hmem).1 hs.aligned⟩

theorem Slots.count_le {count : ℕ} (hs : a.Slots c) (hne : a.pending ≠ [])
    (hnone : a.slotAt a.nextOutputTicks = none)
    (hle : count ≤ (a.minPending - a.nextOutputTicks) / c) :
    a.nextOutputTicks + count * c ≤ a.minPending := by
  have hmin := hs.min_ahead hne hnone
  have h := Nat.mul_le_mul_right c hle
  rw [Nat.div_mul_cancel hmin.2] at h
  omega

/-- The loop of `drain` stops, raises at a slot or takes a turn; what these give
holds of its end. -/
theorem drain_rule {motive : TimestampAligner → Outcome → Prop} {highest : ℕ}
    (stop : ∀ a, a.Slots c → Drained c highest a → motive a { state := a })
    (raise : ∀ a slot reason, a.Slots c → a.slotAt a.nextOutputTicks = some slot →
      (a.emitSlot c a.nextOutputTicks reason).error ≠ none →
      motive a (a.emitSlot c a.nextOutputTicks reason))
    (turn : ∀ a a' items o, Emits c a items a' → motive a' o → motive a (o.after items))
    (hs : a.Slots c) : motive a (a.drain c highest) := by
  fun_induction drain a c highest with
  | case1 a hnil => exact stop a hs (.inl hnil)
  | case2 a _ slot hcomplete o ho ih =>
    obtain ⟨s, hslot, -⟩ := slotAt_of_complete hcomplete
    have hm := emitSlot_moves hs hslot rfl ho
    exact turn _ _ _ _ hm (ih hm.slots)
  | case3 a _ slot hcomplete o ho =>
    obtain ⟨s, hslot, -⟩ := slotAt_of_complete hcomplete
    exact raise a s _ hs hslot ho
  | case4 a _ slot _ hlt => exact stop a hs (.inr (Nat.lt_add_right _ hlt))
  | case5 a _ slot _ _ hz => exact absurd hz (Nat.ne_of_gt hs.pos)
  | case6 a _ slot _ hge _ span hspan =>
    refine stop a hs (.inr ?_)
    have := (Nat.div_lt_iff_lt_mul hs.pos).mp hspan
    omega
  | case7 a _ slot _ _ _ span _ hsome o ho ih =>
    obtain ⟨s, hslot⟩ := Option.isSome_iff_exists.mp hsome
    have hm := emitSlot_moves hs hslot rfl ho
    exact turn _ _ _ _ hm (ih hm.slots)
  | case8 a _ slot _ _ _ span _ hsome o ho =>
    obtain ⟨s, hslot⟩ := Option.isSome_iff_exists.mp hsome
    exact raise a s _ hs hslot ho
  | case9 a hne slot _ _ _ span _ hnone eligible distance count hcount =>
    -- the first pending tick is at least one interval ahead
    have hmin := hs.min_ahead hne (by simpa using hnone)
    have hpos : 0 < distance := Nat.div_pos (Nat.le_of_dvd (by omega) hmin.2) hs.pos
    omega
  | case10 a hne slot _ _ _ span _ hnone eligible distance count hcount e he =>
    obtain ⟨a', item, hok, -⟩ := skipEmpty_emits hs hne (Nat.pos_of_ne_zero hcount)
      (hs.count_le hne (by simpa using hnone) (Nat.min_le_right _ _)) .windowExpired
    rw [hok] at he
    cases he
  | case11 a hne slot _ _ _ span _ hnone eligible distance count hcount next item hskip ih =>
    obtain ⟨a', item', hok, hm, -⟩ := skipEmpty_emits hs hne (Nat.pos_of_ne_zero hcount)
      (hs.count_le hne (by simpa using hnone) (Nat.min_le_right _ _)) .windowExpired
    rw [hskip] at hok
    cases hok
    exact turn _ _ _ _ hm (ih hm.slots)

theorem drain_ends (hs : a.Slots c) (highest : ℕ) :
    Ends c a (a.drain c highest) (Drained c highest) :=
  drain_rule (motive := fun a o => Ends c a o (Drained c highest)) (fun _ hs hd => Ends.now hs hd)
    (fun _ _ _ hs hslot ho => emitSlot_raises hs hslot rfl ho)
    (fun _ _ _ _ hm h => Ends.after hm h) hs

/-- The stretch up to the first pending tick. -/
theorem Slots.skip_to_min (hs : a.Slots c) (hne : a.pending ≠ [])
    (hlt : a.nextOutputTicks < a.minPending) (reason : AlignmentLossReason) :
    ∃ a' item, a.skipEmpty c reason ((a.minPending - a.nextOutputTicks) / c) = .ok (a', item) ∧
      Emits c a [item] a' := by
  obtain ⟨slot, hmem⟩ := minPending_mem hne
  have hd : c ∣ a.minPending - a.nextOutputTicks := Nat.dvd_sub (hs.slot _ hmem).1 hs.aligned
  have hpos := Nat.div_pos (Nat.le_of_dvd (by omega) hd) hs.pos
  obtain ⟨a', item, hok, hm, -⟩ := skipEmpty_emits hs hne hpos
    (by rw [Nat.div_mul_cancel hd]; omega) reason
  exact ⟨a', item, hok, hm⟩

theorem emitSlot_next {reason : Option AlignmentLossReason}
    (h : (a.emitSlot c t reason).error = none) :
    (a.emitSlot c t reason).state.nextOutputTicks = a.nextOutputTicks + c := by
  simp only [emitSlot] at h ⊢
  cases hs : a.slotAt t with
  | none => simp only [hs] at h; cases h
  | some slot =>
    simp only [hs] at h ⊢
    cases hi : a.slotItems slot t reason with
    | error e => simp only [hi] at h; cases h
    | ok result =>
      obtain ⟨sequence, ticks, gaps, hfold⟩ := foldl_expectAfter result.1 a
      simp only [hi, hfold] at h ⊢
      split at h
      · cases h
      · rename_i b hb
        rw [(advance_ok hb).2]
        exact congrArg (a.nextOutputTicks + ·) (Nat.one_mul c)

/-- `drain` does not pass the tick it was called with while its slot waits for a
side. -/
theorem drain_next_le {highest : ℕ} (hs : a.Slots c) (hd : c ∣ highest)
    (hle : a.nextOutputTicks ≤ highest)
    (hwait : ∀ slot, (highest, slot) ∈ a.pending → slot.complete = false) :
    (a.drain c highest).state.nextOutputTicks ≤ highest := by
  fun_induction drain a c highest with
  | case1 a hnil => exact hle
  | case2 a _ slot hcomplete o ho ih =>
    obtain ⟨s, hslot, hs'⟩ := slotAt_of_complete hcomplete
    have hm := emitSlot_moves hs hslot rfl ho
    have hne : a.nextOutputTicks ≠ highest := by
      intro h
      rw [hwait s (h ▸ mem_of_slotAt hslot)] at hs'
      cases hs'
    have hstep := Nat.le_of_dvd (by omega) (Nat.dvd_sub hd hs.aligned)
    refine ih hm.slots ?_ fun s hmem => hwait s (hm.sub.subset hmem)
    rw [emitSlot_next ho]
    omega
  | case7 a _ slot _ _ _ span hspan hsome o ho ih =>
    obtain ⟨s, hslot⟩ := Option.isSome_iff_exists.mp hsome
    have hm := emitSlot_moves hs hslot rfl ho
    refine ih hm.slots ?_ fun s hmem => hwait s (hm.sub.subset hmem)
    have hone : 1 * c ≤ span * c :=
      Nat.mul_le_mul_right c (Nat.le_trans a.maxPendingIntervals.pos (by omega))
    have hdiv := Nat.div_mul_le_self (highest - a.nextOutputTicks) c
    rw [emitSlot_next ho]
    simp only [span] at hone
    omega
  | case11 a hne slot _ _ _ span hspan hnone eligible distance count hcount next item hskip ih =>
    obtain ⟨a', item', hok, hm, -⟩ := skipEmpty_emits hs hne (Nat.pos_of_ne_zero hcount)
      (hs.count_le hne (by simpa using hnone) (Nat.min_le_right _ _)) .windowExpired
    rw [hskip] at hok
    cases hok
    obtain ⟨loss, -, -, hadv⟩ := skipEmpty_ok hskip
    refine ih hm.slots ?_ fun s hmem => hwait s (hm.sub.subset hmem)
    have hpos := a.maxPendingIntervals.pos
    have hle' : count * c ≤ span * c :=
      Nat.mul_le_mul_right c (Nat.le_trans (Nat.min_le_left _ _) (by simp only [eligible]; omega))
    have hdiv := Nat.div_mul_le_self (highest - a.nextOutputTicks) c
    rw [(advance_ok hadv).2]
    change a.nextOutputTicks + count * c ≤ highest
    simp only [span] at hle'
    omega
  | case3 a _ slot hcomplete o ho =>
    obtain ⟨s, hslot, -⟩ := slotAt_of_complete hcomplete
    rw [emitSlot_state hs hslot ho]
    exact hle
  | case4 => exact hle
  | case5 => exact hle
  | case6 => exact hle
  | case8 a _ slot _ _ _ span _ hsome o ho =>
    obtain ⟨s, hslot⟩ := Option.isSome_iff_exists.mp hsome
    rw [emitSlot_state hs hslot ho]
    exact hle
  | case9 => exact hle
  | case10 => exact hle

/-- The same of `flushPending`. -/
theorem flushPending_rule {motive : TimestampAligner → Outcome → Prop}
    {reason : AlignmentLossReason}
    (stop : ∀ a, a.Slots c → a.pending = [] → motive a { state := a })
    (raise : ∀ a slot reason, a.Slots c → a.slotAt a.nextOutputTicks = some slot →
      (a.emitSlot c a.nextOutputTicks reason).error ≠ none →
      motive a (a.emitSlot c a.nextOutputTicks reason))
    (turn : ∀ a a' items o, Emits c a items a' → motive a' o → motive a (o.after items))
    (hs : a.Slots c) : motive a (a.flushPending c reason) := by
  fun_induction flushPending a c reason with
  | case1 a hnil => exact stop a hs hnil
  | case2 a hne hlt =>
    obtain ⟨slot, hmem⟩ := minPending_mem hne
    exact absurd hlt (Nat.not_lt.mpr (hs.ahead _ hmem))
  | case3 a _ _ _ hz => exact absurd hz (Nat.ne_of_gt hs.pos)
  | case4 a hne _ _ delta _ hmod =>
    obtain ⟨slot, hmem⟩ := minPending_mem hne
    exact absurd (Nat.mod_eq_zero_of_dvd (Nat.dvd_sub (hs.slot _ hmem).1 hs.aligned)) hmod
  | case5 a hne _ hlt delta _ hmod e he =>
    obtain ⟨a', item, hok, -⟩ := hs.skip_to_min hne hlt reason
    rw [hok] at he
    cases he
  | case6 a hne _ hlt delta _ hmod next item hskip ih =>
    obtain ⟨a', item', hok, hm⟩ := hs.skip_to_min hne hlt reason
    rw [hskip] at hok
    cases hok
    exact turn _ _ _ _ hm (ih hm.slots)
  | case7 a hne hge hle complete o ho ih =>
    obtain ⟨slot, hmem⟩ := minPending_mem hne
    have hm := emitSlot_moves hs (slotAt_of_mem hs.nodup hmem) (by omega) ho
    exact turn _ _ _ _ hm (ih hm.slots)
  | case8 a hne hge hle complete o ho =>
    obtain ⟨slot, hmem⟩ := minPending_mem hne
    have hmin : a.minPending = a.nextOutputTicks := by omega
    have hat := slotAt_of_mem hs.nodup hmem
    rw [hmin] at hat
    simp only [o, hmin] at ho ⊢
    exact raise a slot _ hs hat ho

theorem flushPending_ends (hs : a.Slots c) (reason : AlignmentLossReason) :
    Ends c a (a.flushPending c reason) fun a' => a'.pending = [] :=
  flushPending_rule (motive := fun a o => Ends c a o fun a' => a'.pending = [])
    (fun _ hs hd => Ends.now hs hd) (fun _ _ _ hs hslot ho => emitSlot_raises hs hslot rfl ho)
    (fun _ _ _ _ hm h => Ends.after hm h) hs

/-! ### A run and its log -/

/-- What a run emitted and accepted so far. -/
structure Log (a : TimestampAligner) (emitted : List AlignmentItem) (accepted : List Block) :
    Prop where
  tiles : Tiles AlignmentItem.span 0 emitted a.nextOutputTicks
  announces : Announces AlignmentItem.OneSided AlignmentItem.Completes emitted
  blocks : accepted.Perm (emitted.flatMap AlignmentItem.blocks ++ a.pendingBlocks)
  behind : ∀ b ∈ emitted.flatMap AlignmentItem.blocks, b.firstSampleTicks < a.nextOutputTicks
  nodup : accepted.Nodup

/-- The pending ticks are within the lateness window of `n` intervals. -/
structure Window (a : TimestampAligner) (n : ℕ+) (c : ℕ) : Prop where
  bound : a.maxPendingIntervals = n
  within : ∀ e ∈ a.pending, e.1 < a.nextOutputTicks + n * c

/-- An aligner before its first run, or in a run with coverage `c`. -/
inductive Sound (a : TimestampAligner) (n : ℕ+) (emitted : List AlignmentItem)
    (accepted : List Block) : Prop
  | idle (bound : a.maxPendingIntervals = n) (run : a.activeRunId = none) (coverage : a.frameCoverageTicks = none)
      (pending : a.pending = []) (next : a.nextOutputTicks = 0) (emitted : emitted = [])
      (accepted : accepted = [])
  | active (c : ℕ) (slots : a.Slots c) (window : a.Window n c) (log : a.Log emitted accepted)

variable {n : ℕ+} {emitted : List AlignmentItem} {accepted : List Block}

theorem Log.emit (hl : a.Log emitted accepted) (hm : Emits c a items a') :
    a'.Log (emitted ++ items) accepted where
  tiles := hl.tiles.append hm.tiles
  announces := hl.announces.append hm.announces
  blocks := by
    rw [List.flatMap_append, List.append_assoc]
    exact hl.blocks.trans (hm.blocks.append_left _)
  behind := by
    intro b hb
    rw [List.flatMap_append, List.mem_append] at hb
    cases hb with
    | inl hb => exact Nat.lt_of_lt_of_le (hl.behind b hb) hm.next_le
    | inr hb => exact hm.behind b hb
  nodup := hl.nodup

theorem Window.emit (hw : a.Window n c) (hm : Emits c a items a') : a'.Window n c := by
  refine ⟨hm.bound.trans hw.bound, fun e he => ?_⟩
  have hlt := hw.within e (hm.sub.subset he)
  have hle := hm.next_le
  omega

/-- Pending ticks within the window are as many as fit into it. -/
theorem Window.length_le (hs : a.Slots c) (hw : a.Window n c) :
    a.pending.length ≤ n := by
  have hinj : ∀ x ∈ a.pending.map Prod.fst, ∀ y ∈ a.pending.map Prod.fst,
      (x - a.nextOutputTicks) / c = (y - a.nextOutputTicks) / c → x = y := by
    intro x hx y hy hxy
    obtain ⟨e, he, rfl⟩ := List.mem_map.mp hx
    obtain ⟨e', he', rfl⟩ := List.mem_map.mp hy
    have h := Nat.div_mul_cancel (Nat.dvd_sub (hs.slot e he).1 hs.aligned)
    have h' := Nat.div_mul_cancel (Nat.dvd_sub (hs.slot e' he').1 hs.aligned)
    have hle := hs.ahead e he
    have hle' := hs.ahead e' he'
    rw [hxy, h'] at h
    omega
  have hnodup : ((a.pending.map Prod.fst).map fun x => (x - a.nextOutputTicks) / c).Nodup :=
    hs.nodup.map_on hinj
  have hlt : ∀ i ∈ (a.pending.map Prod.fst).map fun x => (x - a.nextOutputTicks) / c,
      i < n := by
    intro i hi
    obtain ⟨x, hx, rfl⟩ := List.mem_map.mp hi
    obtain ⟨e, he, rfl⟩ := List.mem_map.mp hx
    have hlt := hw.within e he
    rw [Nat.div_lt_iff_lt_mul hs.pos]
    have := hs.ahead e he
    omega
  simpa using Table.length_le_of_nodup hnodup hlt

/-- A run that has emitted nothing yet. -/
theorem Log.fresh (hnext : a.nextOutputTicks = 0) (hp : a.pending = []) : a.Log [] [] where
  tiles := hnext.symm
  announces := True.intro
  blocks := by simp [pendingBlocks, hp]
  behind := by simp
  nodup := List.nodup_nil

/-! ### Storing a block -/

theorem validate_ok {block : Block} (h : validateBlockInterval block = none) :
    block.coverageTicks ∣ block.firstSampleTicks ∧
      block.firstSampleTicks + block.coverageTicks ≤ UINT64_MAX := by
  simp only [validateBlockInterval] at h
  split at h
  · cases h
  split at h
  · cases h
  split at h
  · cases h
  split at h
  · cases h
  · exact ⟨Nat.dvd_of_mod_eq_zero (by omega), by omega⟩

/-- The keys stay apart, and the blocks grow by the stored one. -/
theorem store_entries {block : Block} (hn : (a.pending.map Prod.fst).Nodup)
    (hfree : a.taken block = false) :
    ((a.store block).pending.map Prod.fst).Nodup ∧
      (a.store block).pendingBlocks.Perm (block :: a.pendingBlocks) ∧
      ∀ e ∈ (a.store block).pending, e ∈ a.pending ∨
        (e.1 = block.firstSampleTicks ∧
          (e.2 = ({} : PendingInterval).put block ∨
            ∃ slot, (block.firstSampleTicks, slot) ∈ a.pending ∧ e.2 = slot.put block)) := by
  cases hat : a.slotAt block.firstSampleTicks with
  | none =>
    have hkey : block.firstSampleTicks ∉ a.pending.map Prod.fst := by
      intro hmem
      obtain ⟨e, he, heq⟩ := List.mem_map.mp hmem
      rw [← heq, slotAt_of_mem hn he] at hat
      cases hat
    simp only [store, hat, pendingBlocks]
    refine ⟨?_, ?_, ?_⟩
    · rw [List.map_append, List.map_singleton, ← List.concat_eq_append]
      exact hn.concat hkey
    · rw [List.flatMap_append, List.flatMap_singleton]
      have hput := PendingInterval.put_blocks (PendingInterval.side_empty block.kind)
      exact List.perm_append_comm.trans (hput.append_right _)
    · intro e he
      rcases List.mem_append.mp he with he | he
      · exact .inl he
      · rw [List.mem_singleton.mp he]
        exact .inr ⟨rfl, .inl rfl⟩
  | some slot =>
    obtain ⟨l₁, l₂, heq, hne⟩ := pending_split hn hat
    have hside : slot.side block.kind = none := by
      simpa [taken, hat] using hfree
    have hmap : (a.store block).pending =
        l₁ ++ (block.firstSampleTicks, slot.put block) :: l₂ := by
      have hsame : ∀ l : List (ℕ × PendingInterval), (∀ e ∈ l, e ∈ l₁ ++ l₂) → (l.map fun e =>
          if e.1 = block.firstSampleTicks then (block.firstSampleTicks, slot.put block) else e) =
            l := by
        intro l hl
        exact (List.map_congr_left fun e he => if_neg (hne e (hl e he))).trans (List.map_id' l)
      simp only [store, hat]
      rw [heq, List.map_append, List.map_cons, if_pos rfl, hsame l₁ fun _ => List.mem_append_left l₂,
        hsame l₂ fun _ => List.mem_append_right l₁]
    simp only [pendingBlocks]
    rw [hmap]
    rw [heq] at hn ⊢
    refine ⟨by simpa using hn, ?_, ?_⟩
    · simp only [List.flatMap_append, List.flatMap_cons]
      have hput := (PendingInterval.put_blocks hside).append_right (l₂.flatMap fun e => e.2.blocks)
      exact (hput.append_left _).trans List.perm_middle
    · intro e he
      rcases List.mem_append.mp he with he | he
      · exact .inl (List.mem_append_left _ he)
      · rcases List.mem_cons.mp he with rfl | he
        · exact .inr ⟨rfl, .inr ⟨slot, by simp, rfl⟩⟩
        · exact .inl (List.mem_append_right _ (List.mem_cons_of_mem _ he))

/-- The slots with one more block, not behind the output. -/
theorem Slots.store {block : Block} (hs : a.Slots c) (hfree : a.taken block = false)
    (hc : block.coverageTicks = c) (hv : validateBlockInterval block = none)
    (hnext : a.nextOutputTicks ≤ block.firstSampleTicks) (hsrc : a.activeSource.isSome) :
    (a.store block).Slots c := by
  obtain ⟨hdvd, hend⟩ := validate_ok hv
  rw [hc] at hdvd hend
  obtain ⟨hnodup, -, hmem⟩ := store_entries hs.nodup hfree
  refine
    { coverage := hs.coverage
      pos := hs.pos
      aligned := hs.aligned
      run := hs.run
      source := fun _ => hsrc
      nodup := hnodup
      ahead := ?_
      slot := ?_ }
  · intro e he
    rcases hmem e he with he | ⟨he, -⟩
    · exact hs.ahead e he
    · rw [he]
      exact hnext
  · intro e he
    rcases hmem e he with he | ⟨he, hslot⟩
    · exact hs.slot e he
    · rw [he]
      refine ⟨hdvd, hend, ?_⟩
      rcases hslot with hslot | ⟨slot, hold, hslot⟩
      · rw [hslot]
        exact PendingInterval.Holds.of_put (by intro x hx; cases hx) (by intro x hx; cases hx)
          (by intro x hx; cases hx) rfl hc
      · rw [hslot]
        have hh := (hs.slot _ hold).2.2
        exact PendingInterval.Holds.of_put hh.block hh.adc hh.gpio rfl hc

theorem Log.store {block : Block} (hs : a.Slots c) (hl : a.Log emitted accepted)
    (hfree : a.taken block = false) (hnext : a.nextOutputTicks ≤ block.firstSampleTicks) :
    (a.store block).Log emitted (accepted ++ [block]) := by
  obtain ⟨-, hperm, -⟩ := store_entries hs.nodup hfree
  refine
    { tiles := hl.tiles
      announces := hl.announces
      blocks := ?_
      behind := hl.behind
      nodup := ?_ }
  · have h := hl.blocks.append_right [block]
    rw [List.append_assoc] at h
    exact h.trans ((List.perm_append_singleton _ _).trans hperm.symm |>.append_left _)
  · rw [← List.concat_eq_append]
    refine hl.nodup.concat fun hmem => ?_
    rw [hl.blocks.mem_iff, List.mem_append] at hmem
    rcases hmem with hmem | hmem
    · exact absurd (hl.behind block hmem) (by omega)
    · -- a pending block of the same tick and stream takes the place
      obtain ⟨e, he, hb⟩ := List.mem_flatMap.mp hmem
      have hh := (hs.slot e he).2.2
      have hat := slotAt_of_mem hs.nodup he
      rw [← (hh.block block hb).1] at hat
      rw [taken, hat, Option.bind_some, hh.side_of_mem hb] at hfree
      cases hfree

/-! ### Calls -/

/-- A run that is over: everything accepted left in an interval. -/
def Closed (emitted : List AlignmentItem) (accepted : List Block) : Prop :=
  ∃ last, Tiles AlignmentItem.span 0 emitted last ∧
    Announces AlignmentItem.OneSided AlignmentItem.Completes emitted ∧
    accepted.Perm (emitted.flatMap AlignmentItem.blocks) ∧ accepted.Nodup

/-- A call keeps the log of its run, and closes the one before if it began one. -/
def Keeps (n : ℕ+) (emitted : List AlignmentItem) (accepted : List Block) (o : Outcome) : Prop :=
  match o.former with
  | none => o.state.Sound n (emitted ++ o.outputs) (accepted ++ o.accepted.toList)
  | some closing => Closed (emitted ++ closing) accepted ∧ o.state.Sound n o.outputs o.accepted.toList

theorem Sound.keeps (h : a.Sound n emitted accepted) (e : Option AlignError) :
    Keeps n emitted accepted { state := a, error := e } := by
  simpa [Keeps] using h

theorem Sound.active_of_coverage (h : a.Sound n emitted accepted)
    (hc : a.frameCoverageTicks = some c) :
    a.Slots c ∧ a.Window n c ∧ a.Log emitted accepted := by
  cases h with
  | idle _ run coverage => rw [coverage] at hc; cases hc
  | active c' slots window log =>
    rw [slots.coverage] at hc
    cases hc
    exact ⟨slots, window, log⟩

/-- What a loop of an active run emitted is logged. -/
theorem Ends.keeps {o : Outcome} {done : TimestampAligner → Prop} (h : Ends c a o done)
    (hw : a.Window n c) (hl : a.Log emitted accepted) : Keeps n emitted accepted o := by
  simp only [Keeps, h.former, h.accepted, Option.toList_none, List.append_nil]
  exact .active c h.emits.slots (hw.emit h.emits) (hl.emit h.emits)

/-- The second half of a call works in the run of the first half. -/
theorem Keeps.andThen {o : Outcome} {g : TimestampAligner → Outcome}
    (h : Keeps n emitted accepted o) (hacc : o.accepted = none)
    (hg : o.error = none → ∀ emitted' accepted', o.state.Sound n emitted' accepted' →
      (g o.state).former = none ∧ Keeps n emitted' accepted' (g o.state)) :
    Keeps n emitted accepted (o.andThen g) := by
  cases he : o.error with
  | some e =>
    have heq : o.andThen g = o := by simp [Outcome.andThen, he]
    rw [heq]
    exact h
  | none =>
    have hg := hg he
    simp only [Keeps, Outcome.andThen, he, hacc] at h ⊢
    cases hf : o.former with
    | none =>
      simp only [hf, Option.toList_none, List.append_nil] at h
      obtain ⟨hnone, hkeep⟩ := hg _ _ h
      simpa [Keeps, hnone, List.append_assoc] using hkeep
    | some closing =>
      simp only [hf, Option.toList_none] at h
      obtain ⟨hnone, hkeep⟩ := hg _ _ h.2
      refine ⟨h.1, ?_⟩
      simpa [Keeps, hnone] using hkeep

theorem flushWith_keeps (h : a.Sound n emitted accepted) (reason : AlignmentLossReason) :
    Keeps n emitted accepted (a.flushWith reason) := by
  simp only [flushWith]
  cases hc : a.frameCoverageTicks with
  | none => exact h.keeps _
  | some c =>
    obtain ⟨hs, hw, hl⟩ := h.active_of_coverage hc
    exact (flushPending_ends hs reason).keeps hw hl

/-! ### Storing and draining -/

theorem store_pending_of_empty {block : Block} (h : a.pending = []) :
    ∀ e ∈ (a.store block).pending, e.1 = block.firstSampleTicks := by
  have hat : a.slotAt block.firstSampleTicks = none := by simp [slotAt, h]
  intro e he
  simp only [store, hat, h, List.nil_append, List.mem_singleton] at he
  rw [he]

/-- The window after the drain that follows a stored block. -/
theorem settle_window {block : Block} {o : Outcome}
    (hb : a.maxPendingIntervals = n) (hold : a.pending = [] ∨ (a.store block).Window n c)
    (ho : Ends c (a.store block) o (Drained c (a.store block).maxPending)) :
    o.state.Window n c := by
  have hbound : o.state.maxPendingIntervals = n := ho.emits.bound.trans hb
  cases he : o.error with
  | none =>
    refine ⟨hbound, fun e hmem => ?_⟩
    rcases ho.done he with hnil | hlt
    · rw [hnil] at hmem
      cases hmem
    · rw [← hbound]
      exact Nat.lt_of_le_of_lt (le_maxPending (ho.emits.sub.subset hmem)) hlt
  | some err =>
    rcases hold with hnil | hw
    · -- the only pending tick is the output tick, since a loop raises nowhere else
      refine ⟨hbound, fun e hmem => ?_⟩
      obtain ⟨slot, hat⟩ := Option.isSome_iff_exists.mp (ho.raised (by simp [he]))
      have hnext := store_pending_of_empty hnil _ (ho.emits.sub.subset (mem_of_slotAt hat))
      have htick := store_pending_of_empty hnil _ (ho.emits.sub.subset hmem)
      have hpos := Nat.mul_pos n.pos ho.emits.slots.pos
      simp only at hnext
      omega
    · exact hw.emit ho.emits

theorem settle_keeps {block : Block} (hs : a.Slots c) (hw : a.Window n c)
    (hl : a.Log emitted accepted) (hc : block.coverageTicks = c)
    (hv : validateBlockInterval block = none) (hsrc : a.activeSource.isSome)
    (hnext : a.nextOutputTicks ≤ block.firstSampleTicks)
    (hd : Drained c block.firstSampleTicks a) :
    (a.settle c block).former = none ∧ Keeps n emitted accepted (a.settle c block) := by
  simp only [settle]
  cases hfree : a.taken block with
  | true => exact ⟨rfl, (Sound.active c hs hw hl).keeps _⟩
  | false =>
    simp only [Bool.false_eq_true, if_false]
    have hs' := hs.store hfree hc hv hnext hsrc
    have hl' := hl.store hs hfree hnext
    have ho := drain_ends hs' (a.store block).maxPending
    have hold : a.pending = [] ∨ (a.store block).Window n c := by
      rcases hd with hnil | hlt
      · exact .inl hnil
      · refine .inr ⟨hw.bound, fun e he => ?_⟩
        rcases (store_entries hs.nodup hfree).2.2 e he with he | ⟨he, -⟩
        · exact hw.within e he
        · rw [he, ← hw.bound]
          exact hlt
    have hsound := Sound.active c ho.emits.slots (settle_window hw.bound hold ho) (hl'.emit ho.emits)
    split
    · exact ⟨ho.former, by simpa [Keeps, ho.former] using hsound⟩
    · exact ⟨ho.former, by simpa [Keeps, ho.former] using hsound⟩

theorem not_complete_of_free {block : Block} {slot : PendingInterval}
    (hn : (a.pending.map Prod.fst).Nodup) (hfree : a.taken block = false)
    (h : (block.firstSampleTicks, slot) ∈ a.pending) : slot.complete = false := by
  have hat := slotAt_of_mem hn h
  simp only [taken, hat, Option.bind_some] at hfree
  simp only [PendingInterval.complete]
  cases hk : block.kind with
  | adcData =>
    rw [hk] at hfree
    rw [show slot.adc.isSome = false from hfree, Bool.false_and]
  | gpioData =>
    rw [hk] at hfree
    rw [show slot.gpio.isSome = false from hfree, Bool.and_false]

theorem accept_keeps {block : Block} (h : a.Sound n emitted accepted)
    (hc : a.frameCoverageTicks = some block.coverageTicks)
    (hv : validateBlockInterval block = none) (hsrc : a.activeSource.isSome) :
    (a.accept block).former = none ∧ Keeps n emitted accepted (a.accept block) := by
  obtain ⟨hs, hw, hl⟩ := h.active_of_coverage hc
  simp only [accept, hc]
  split
  · exact ⟨rfl, h.keeps _⟩
  rename_i hlate
  cases hfree : a.taken block with
  | true => exact ⟨rfl, h.keeps _⟩
  | false =>
    simp only [Bool.false_eq_true, if_false]
    have ho := drain_ends hs block.firstSampleTicks
    have hnext := drain_next_le hs (validate_ok hv).1 (Nat.le_of_not_lt hlate)
      fun slot hmem => not_complete_of_free hs.nodup hfree hmem
    refine ⟨?_, (ho.keeps hw hl).andThen ho.accepted ?_⟩
    · simp only [Outcome.andThen]
      split
      · exact ho.former
      · exact ho.former
    · intro he emitted' accepted' hsound
      obtain ⟨hs', hw', hl'⟩ := hsound.active_of_coverage ho.emits.slots.coverage
      rw [← ho.emits.source] at hsrc
      exact settle_keeps hs' hw' hl' rfl hv hsrc hnext (ho.done he)

/-! ### Runs -/

theorem Log.closed (hl : a.Log emitted accepted) (hp : a.pending = []) : Closed emitted accepted := by
  refine ⟨a.nextOutputTicks, hl.tiles, hl.announces, ?_, hl.nodup⟩
  simpa [pendingBlocks, hp] using hl.blocks

/-- What a call finds after it activated the epoch of its item. -/
structure Activated (o : Outcome) (source : Option Source) (c : ℕ) : Prop where
  accepted : o.accepted = none
  coverage : o.error = none → o.state.frameCoverageTicks = some c
  source : o.error = none → source.isSome → o.state.activeSource.isSome

theorem beginRun_keeps {closing : List AlignmentItem} {runId : ℕ} {source : Option Source}
    {profile : Option (ℕ × AuxBankMode × RateProfile)}
    (hsound : a.Sound n (emitted ++ closing) accepted) (hp : a.pending = []) :
    Keeps n emitted accepted (a.beginRun closing runId source c profile) ∧
      Activated (a.beginRun closing runId source c profile) source c := by
  have hclosed : Closed (emitted ++ closing) accepted := by
    cases hsound with
    | idle bound run coverage pending next he hacc =>
      rw [he, hacc]
      exact ⟨0, rfl, True.intro, List.Perm.refl _, List.nodup_nil⟩
    | active c slots window log => exact log.closed hp
  have hbound : a.maxPendingIntervals = n := by
    cases hsound with
    | idle bound => exact bound
    | active c slots window log => exact window.bound
  simp only [beginRun, startEpoch]
  by_cases hr : runId = 0
  · simp only [hr, if_true]
    exact ⟨by simpa [Keeps] using hsound, rfl, by simp, by simp⟩
  · by_cases hc : c = 0
    · simp only [if_neg hr, hc, if_true]
      exact ⟨by simpa [Keeps] using hsound, rfl, by simp, by simp⟩
    · simp only [if_neg hr, if_neg hc]
      refine ⟨⟨hclosed, .active c ?_ ?_ ?_⟩, rfl, fun _ => rfl, fun _ h => h⟩
      · exact
          { coverage := rfl
            pos := Nat.pos_of_ne_zero hc
            aligned := Nat.dvd_zero c
            run := ⟨runId, rfl, hr⟩
            source := fun h => absurd rfl h
            nodup := List.nodup_nil
            ahead := by intro e he; cases he
            slot := by intro e he; cases he }
      · refine ⟨hbound, fun e he => ?_⟩
        cases he
      · exact Log.fresh rfl rfl

/-- A change of what the log does not depend on. -/
theorem Sound.update (h : a.Sound n emitted accepted)
    (hm : a'.maxPendingIntervals = a.maxPendingIntervals)
    (hp : a'.pending = a.pending) (hr : a'.activeRunId = a.activeRunId)
    (hc : a'.frameCoverageTicks = a.frameCoverageTicks)
    (hn : a'.nextOutputTicks = a.nextOutputTicks)
    (hs : a.activeSource.isSome → a'.activeSource.isSome) : a'.Sound n emitted accepted := by
  cases h with
  | idle bound run coverage pending next he hacc =>
    exact .idle (hm.trans bound) (hr.trans run) (hc.trans coverage) (hp.trans pending) (hn.trans next) he hacc
  | active c slots window log =>
    refine .active c ?_ ?_ ?_
    · obtain ⟨r, hrun, h0⟩ := slots.run
      exact
        { coverage := hc.trans slots.coverage
          pos := slots.pos
          aligned := hn ▸ slots.aligned
          run := ⟨r, hr.trans hrun, h0⟩
          source := fun hne => hs (slots.source (hp ▸ hne))
          nodup := hp ▸ slots.nodup
          ahead := by rw [hp, hn]; exact slots.ahead
          slot := by rw [hp]; exact slots.slot }
    · refine ⟨hm.trans window.bound, ?_⟩
      rw [hp, hn]
      exact window.within
    · exact
        { tiles := hn ▸ log.tiles
          announces := log.announces
          blocks := by simpa [pendingBlocks, hp] using log.blocks
          behind := hn ▸ log.behind
          nodup := log.nodup }

theorem activateEpoch_keeps (h : a.Sound n emitted accepted) (runId : ℕ) (source : Option Source)
    (c : ℕ) (profile : Option (ℕ × AuxBankMode × RateProfile)) :
    Keeps n emitted accepted (a.activateEpoch runId source c profile) ∧
      Activated (a.activateEpoch runId source c profile) source c := by
  cases h with
  | idle bound run coverage pending next he hacc =>
    simp only [activateEpoch, run]
    refine beginRun_keeps ?_ pending
    rw [List.append_nil]
    exact .idle bound run coverage pending next he hacc
  | active c' slots window log =>
    have h := Sound.active c' slots window log
    obtain ⟨r, hr, h0⟩ := slots.run
    simp only [activateEpoch, hr, slots.coverage]
    split
    · -- another run: the pending intervals of this one leave first
      have ho := flushPending_ends slots .runBoundary
      have hkeep := ho.keeps window log
      cases he : (a.flushPending c' .runBoundary).error with
      | some e =>
        simp only [Option.isSome_some, if_true]
        exact ⟨hkeep, ho.accepted, by simp [he], by simp [he]⟩
      | none =>
        simp only [Option.isSome_none, Bool.false_eq_true, if_false]
        apply beginRun_keeps
        · simpa [Keeps, ho.former, ho.accepted] using hkeep
        · exact ho.done he
    · split
      · exact ⟨h.keeps _, rfl, by simp, by simp⟩
      · rename_i hc
        have hcov : a.frameCoverageTicks = some c := by
          rw [slots.coverage, not_not.mp hc]
        split
        · exact ⟨h.keeps _, rfl, by simp, by simp⟩
        · split
          · refine ⟨Sound.keeps ?_ _, rfl, by simp, by simp⟩
            exact h.update rfl rfl hr.symm slots.coverage.symm rfl id
          · refine ⟨Sound.keeps ?_ _, rfl, fun _ => slots.coverage.symm.trans hcov, ?_⟩
            · refine h.update rfl rfl hr.symm slots.coverage.symm rfl ?_
              intro hsome
              simp [Option.isSome_or, hsome]
            · intro _ hsome
              simp [Option.isSome_or, hsome]

theorem pushBlock_keeps (h : a.Sound n emitted accepted) (block : Block) :
    Keeps n emitted accepted (a.pushBlock block) := by
  simp only [pushBlock]
  split
  · exact h.keeps _
  split
  · exact h.keeps _
  split
  · exact h.keeps _
  · rename_i hv
    obtain ⟨hkeep, hact⟩ := activateEpoch_keeps h block.runId (some block.source)
      block.coverageTicks (some block.profileSignature)
    refine hkeep.andThen hact.accepted ?_
    intro he emitted' accepted' hsound
    exact accept_keeps hsound (hact.coverage he) hv (hact.source he rfl)

theorem keepGap_keeps (h : a.Sound n emitted accepted) (gap : StreamGap)
    (hc : a.frameCoverageTicks = some c) :
    (a.keepGap gap).former = none ∧ Keeps n emitted accepted (a.keepGap gap) := by
  obtain ⟨hs, hw, hl⟩ := h.active_of_coverage hc
  simp only [keepGap]
  split
  · exact ⟨rfl, h.keeps _⟩
  split
  · exact ⟨rfl, h.keeps _⟩
  split
  · exact ⟨rfl, h.keeps _⟩
  · refine ⟨rfl, ?_⟩
    simp only [Keeps, Option.toList_none, List.append_nil]
    have hm : Emits c a [.gap gap] { a with announcedGaps := a.announcedGaps ++ [gap] } :=
      { slots := hs.move rfl rfl rfl (List.Sublist.refl _) hs.aligned hs.ahead
        bound := rfl
        source := rfl
        next_le := Nat.le_refl _
        sub := List.Sublist.refl _
        tiles := tiles_silent (by simp [AlignmentItem.span]) _
        announces := announces_silent (by simp [AlignmentItem.OneSided])
        blocks := List.Perm.refl _
        behind := by simp [AlignmentItem.blocks] }
    exact .active c hm.slots (hw.emit hm) (hl.emit hm)

theorem pushGap_keeps (h : a.Sound n emitted accepted) (gap : StreamGap) :
    Keeps n emitted accepted (a.pushGap gap) := by
  simp only [pushGap, pushAnnouncedGap]
  split
  · exact h.keeps _
  split
  · exact h.keeps _
  split
  · exact h.keeps _
  · obtain ⟨hkeep, hact⟩ := activateEpoch_keeps h gap.runId none
      (gap.itemPeriodTicks * gap.itemsPerFrame) none
    refine hkeep.andThen hact.accepted ?_
    intro he emitted' accepted' hsound
    exact keepGap_keeps hsound gap (hact.coverage he)

theorem flush_keeps (h : a.Sound n emitted accepted) : Keeps n emitted accepted a.flush := by
  simp only [flush]
  split
  · exact h.keeps _
  · exact flushWith_keeps h _

theorem finish_keeps (h : a.Sound n emitted accepted) : Keeps n emitted accepted a.finish := by
  simp only [finish]
  split
  · exact h.keeps _
  have hflush := flushWith_keeps h .endOfInput
  split
  · exact hflush
  · -- the aligner is closed, its log stays
    simp only [Keeps] at hflush ⊢
    cases hf : (a.flushWith .endOfInput).former with
    | none =>
      simp only [hf] at hflush
      exact hflush.update rfl rfl rfl rfl rfl id
    | some closing =>
      simp only [hf] at hflush
      exact ⟨hflush.1, hflush.2.update rfl rfl rfl rfl rfl id⟩

end TimestampAligner

/-! ### Sequences of calls -/

inductive Call
  | pushBlock (block : Block)
  | pushGap (gap : StreamGap)
  | flush
  | finish
  deriving DecidableEq, Repr

def TimestampAligner.call (a : TimestampAligner) : Call → Outcome
  | .pushBlock block => a.pushBlock block
  | .pushGap gap => a.pushGap gap
  | .flush => a.flush
  | .finish => a.finish

/-- What the aligner did in a run. -/
structure RunLog where
  emitted : List AlignmentItem := []
  accepted : List Block := []

/-- An aligner with the log of its run, the logs of the runs before, and what its
calls returned. -/
structure Session where
  aligner : TimestampAligner
  current : RunLog := {}
  finished : List RunLog := []
  returned : List AlignmentItem := []
  raised : Bool := false

namespace Session

def initial (maxPendingIntervals : ℕ+) : Session :=
  { aligner := { maxPendingIntervals := maxPendingIntervals } }

def record (s : Session) (o : Outcome) : Session :=
  match o.former with
  | none =>
    { aligner := o.state
      current := ⟨s.current.emitted ++ o.outputs, s.current.accepted ++ o.accepted.toList⟩
      finished := s.finished
      returned := s.returned ++ o.returned
      raised := s.raised || o.error.isSome }
  | some closing =>
    { aligner := o.state
      current := ⟨o.outputs, o.accepted.toList⟩
      finished := s.finished ++ [⟨s.current.emitted ++ closing, s.current.accepted⟩]
      returned := s.returned ++ o.returned
      raised := s.raised || o.error.isSome }

def step (s : Session) (c : Call) : Session := s.record (s.aligner.call c)

def run (s : Session) (calls : List Call) : Session := calls.foldl step s

/-- The whole output, run after run. -/
def emitted (s : Session) : List AlignmentItem :=
  s.finished.flatMap RunLog.emitted ++ s.current.emitted

variable {s : Session} {n : ℕ+}

/-- The invariant of a session. -/
structure Sound (s : Session) (n : ℕ+) : Prop where
  current : s.aligner.Sound n s.current.emitted s.current.accepted
  finished : ∀ r ∈ s.finished, TimestampAligner.Closed r.emitted r.accepted
  returned : s.raised = false → s.returned = s.emitted

theorem call_keeps (h : s.Sound n) (c : Call) :
    TimestampAligner.Keeps n s.current.emitted s.current.accepted (s.aligner.call c) := by
  cases c with
  | pushBlock block => exact TimestampAligner.pushBlock_keeps h.current block
  | pushGap gap => exact TimestampAligner.pushGap_keeps h.current gap
  | flush => exact TimestampAligner.flush_keeps h.current
  | finish => exact TimestampAligner.finish_keeps h.current

/-- A call that did not raise returned what it emitted. -/
theorem record_returned (h : s.raised = false → s.returned = s.emitted) (o : Outcome)
    (hr : (s.record o).raised = false) : (s.record o).returned = (s.record o).emitted := by
  cases hf : o.former with
  | none =>
    simp only [record, hf, Bool.or_eq_false_iff] at hr ⊢
    simp [emitted, Outcome.returned, hf, hr.2, h hr.1, List.append_assoc]
  | some closing =>
    simp only [record, hf, Bool.or_eq_false_iff] at hr ⊢
    simp [emitted, Outcome.returned, hf, hr.2, h hr.1, List.append_assoc]

theorem Sound.step (h : s.Sound n) (c : Call) : (s.step c).Sound n := by
  have hkeep := call_keeps h c
  refine ⟨?_, ?_, record_returned h.returned _⟩
  · cases hf : (s.aligner.call c).former with
    | none =>
      simp only [TimestampAligner.Keeps, hf] at hkeep
      simpa only [Session.step, record, hf] using hkeep
    | some closing =>
      simp only [TimestampAligner.Keeps, hf] at hkeep
      simpa only [Session.step, record, hf] using hkeep.2
  · cases hf : (s.aligner.call c).former with
    | none => simpa only [Session.step, record, hf] using h.finished
    | some closing =>
      simp only [TimestampAligner.Keeps, hf] at hkeep
      simp only [Session.step, record, hf]
      intro r hr
      rcases List.mem_append.mp hr with hr | hr
      · exact h.finished r hr
      · rw [List.mem_singleton.mp hr]
        exact hkeep.1

theorem Sound.run (h : s.Sound n) (calls : List Call) : (s.run calls).Sound n := by
  induction calls generalizing s with
  | nil => exact h
  | cons c calls ih => exact ih (h.step c)

theorem initial_sound (n : ℕ+) : (initial n).Sound n where
  current := .idle rfl rfl rfl rfl rfl rfl rfl
  finished := by intro r hr; cases hr
  returned := fun _ => rfl

end Session

end ThingDaq.Alignment
