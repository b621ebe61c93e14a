import ThingDaq.Lib.Line
import ThingDaq.Pipeline.Order

/-!
# Exact gap flags

The line of a stream with its marks is a `Line` whose consumer is the transport.
A mark is either still pending in the record or already sealed in the page; the
moves carry it from one to the other, and a drop hands it to the frame behind.

## Main results

* `Core.findSuccessor_line` — the scan of `propagateGapAfter` finds the next
  frame of the line.
* `Gapped.move` — every move keeps the marks exact.
* `gap_flags_exact` — the flags of released frames tell every loss.
-/

namespace ThingDaq

open Wire Table Line

/-- Both gap bits. -/
def gapMask : UInt16 := flagGapBefore ||| flagOverrunBefore

/-- The gap bits sealed in the page of a complete frame. -/
def Core.sealed (c : Core) (i : ℕ) : Bool :=
  (c.records i).frameSize ≠ 0 && flagsOf (c.frames i) &&& gapMask ≠ 0

/-- The frame of buffer `i` as a place in its line. -/
def World.slot (w : World) (i : ℕ) : Line.Slot :=
  ⟨w.history.number i, (w.core.records i).gapBeforeRequired || w.core.sealed i⟩

/-- The released frames of a stream, newest first, when `e` is expected next. -/
def LogExact : ℕ → List Released → Prop
  | e, [] => e = 0
  | e, r :: log => e = r.number + 1 ∧ r.sequence = UInt32.ofNat r.number ∧ ∃ e', LogExact e' log ∧
      e' ≤ r.number ∧ r.number < e' + 2 ^ 31 ∧
      r.flags &&& gapMask = if r.number = e' then 0 else gapMask

structure Gapped (w : World) : Prop where
  exact : ∀ s, Exact (w.history.expected s) ((w.core.line s).map w.slot) (w.history.produced s)
    (w.core.gapBeforeNextFrame s)
  bits : ∀ i, (w.core.records i).frameSize ≠ 0 → flagsOf (w.core.frames i) &&& gapMask = 0 ∨
    flagsOf (w.core.frames i) &&& gapMask = gapMask
  lost : ∀ s, w.history.lost s = true → w.core.gapBeforeNextFrame s = true
  afterLoss : ∀ s i, w.core.isOpen s i = true → w.history.afterLoss i = true →
    (w.core.records i).gapBeforeRequired = true
  near : ∀ s, ∀ i ∈ w.core.line s, w.history.number i < w.history.expected s + 2 ^ 31
  started : ∀ i, (w.core.records i).transmissionStarted = true →
    (w.core.records i).gapBeforeRequired = false
  log : ∀ s, LogExact (w.history.expected s) (w.history.released s)

/-! ### The successor of a dropped frame -/

/-- The distance of two sequences, for numbers less than 2³¹ apart. -/
theorem sequence_distance {a b : ℕ} (hab : a < b + 2 ^ 31) (hba : b < a + 2 ^ 31) :
    (UInt32.ofNat a - UInt32.ofNat b).toNat = if b ≤ a then a - b else a + 2 ^ 32 - b := by
  rw [UInt32.toNat_sub]
  simp only [UInt32.toNat_ofNat']
  split <;> omega

section Successor

variable {c : Core} {g : History} {s : Stream} {i j : ℕ}

/-- A started frame is at the head of its line. -/
theorem Inv.started_head (h : Inv ⟨c, g⟩) (hj : (c.records j).transmissionStarted = true)
    (hs : (c.records j).stream = s) : ∃ rest, c.line s = j :: rest := by
  have hhead := h.queues.started j hj
  have hhead' : c.transmitQueue.head? = some j := hhead
  cases hq : c.transmitQueue with
  | nil => rw [hq] at hhead'; cases hhead'
  | cons k rest =>
    rw [hq] at hhead'
    cases hhead'
    unfold Core.line
    rw [hq, List.filter_cons_of_pos (by simpa using hs), List.cons_append, List.cons_append]
    exact ⟨_, rfl⟩

section

variable (hinv : Inv ⟨c, g⟩) (hord : Ordered ⟨c, g⟩)
  (hnear : ∀ a ∈ c.line s, ∀ b ∈ c.line s, g.number a < g.number b + 2 ^ 31)
  {l r : List ℕ} (hline : c.line s = l ++ i :: r)

include hinv hord hnear hline

/-- Only frames behind the dropped one can take its mark. -/
theorem Core.successorDistance_line {d : ℕ} (h : c.successorDistance (c.records i) j = some d) :
    j ∈ r ∧ d = g.number j - g.number i := by
  have hi : i ∈ c.line s := by rw [hline]; simp
  obtain ⟨hlive, hstream, -, hd, hd0, hdlt⟩ := c.successorDistance_some h
  have hs : (c.records i).stream = s := (hinv.mem_line.mp hi).2
  have hj : j ∈ c.line s := hinv.mem_line.mpr ⟨hlive, hstream.trans hs⟩
  have hseqj : (c.records j).sequence = UInt32.ofNat (g.number j) := hord.sequence j hlive
  have hseqi : (c.records i).sequence = UInt32.ofNat (g.number i) :=
    hord.sequence i (hinv.mem_line.mp hi).1
  rw [hseqj, hseqi, sequence_distance (hnear j hj i hi) (hnear i hi j hj)] at hd
  have hji := hnear j hj i hi
  have hij := hnear i hi j hj
  have hlt : g.number i < g.number j := by
    by_contra hnot
    split at hd <;> omega
  rw [if_pos (Nat.le_of_lt hlt)] at hd
  refine ⟨?_, hd⟩
  have hsorted : (l ++ i :: r).Pairwise fun a b => g.number a < g.number b := by
    rw [← hline]
    exact hord.sorted s
  rw [hline] at hj
  rcases List.mem_append.mp hj with hl | hr
  · have := (List.pairwise_append.mp hsorted).2.2 j hl i List.mem_cons_self
    omega
  · rcases List.mem_cons.mp hr with rfl | hr
    · omega
    · exact hr

/-- Every frame behind the dropped one can take its mark. -/
theorem Core.successorDistance_behind (hj : j ∈ r) :
    c.successorDistance (c.records i) j = some (g.number j - g.number i) := by
  have hi : i ∈ c.line s := by rw [hline]; simp
  have hjl : j ∈ c.line s := by rw [hline]; simp [hj]
  obtain ⟨hlivei, hsi⟩ := hinv.mem_line.mp hi
  obtain ⟨hlivej, hsj⟩ := hinv.mem_line.mp hjl
  have hsorted : (l ++ i :: r).Pairwise fun a b => g.number a < g.number b := by
    rw [← hline]
    exact hord.sorted s
  have hlt : g.number i < g.number j :=
    List.rel_of_pairwise_cons (List.pairwise_append.mp hsorted).2.1 hj
  have hns : (c.records j).transmissionStarted = false := by
    by_contra hst
    obtain ⟨rest, hrest⟩ := hinv.started_head (by simpa using hst) hsj
    -- the head of the line has no frame before it
    have hnd := hinv.nodup_line s
    rw [hline] at hrest hnd
    cases l with
    | nil =>
      have hij : i = j := (List.cons.inj hrest).1
      rw [hij] at hlt
      exact absurd hlt (Nat.lt_irrefl _)
    | cons a l =>
      have haj : a = j := (List.cons.inj hrest).1
      subst haj
      have hnot := (List.nodup_cons.mp (List.cons_append ▸ hnd)).1
      exact hnot (by simp [hj])
  have hji := hnear j hjl i hi
  have hij := hnear i hi j hjl
  have hdist : ((c.records j).sequence - (c.records i).sequence).toNat =
      g.number j - g.number i := by
    have hseqj : (c.records j).sequence = UInt32.ofNat (g.number j) := hord.sequence j hlivej
    have hseqi : (c.records i).sequence = UInt32.ofNat (g.number i) := hord.sequence i hlivei
    rw [hseqj, hseqi, sequence_distance hji hij, if_pos (Nat.le_of_lt hlt)]
  unfold Core.successorDistance
  simp only [hdist]
  rw [if_neg (by simp [hlivej, hsj, hsi, hns]), if_neg (by simp; omega)]

/-- The scan finds the next frame of the line. -/
theorem Core.findSuccessor_line :
    (c.findSuccessor (c.records i)).map Prod.fst = r.head? := by
  cases hf : c.findSuccessor (c.records i) with
  | none =>
    cases hr : r with
    | nil => rfl
    | cons j r' =>
      have hj : j ∈ r := by rw [hr]; exact List.mem_cons_self
      have hnone := (foldl_nearer_none _ _ _ hf).2 j (List.mem_range.mpr
        ((hinv.slot j).bound (hinv.mem_line.mp (by rw [hline]; simp [hj])).1))
      rw [Core.successorDistance_behind hinv hord hnear hline hj] at hnone
      cases hnone
  | some q =>
    obtain ⟨k, d⟩ := q
    obtain ⟨-, hkey⟩ := c.findSuccessor_some hf
    obtain ⟨hk, hd⟩ := Core.successorDistance_line hinv hord hnear hline hkey
    cases hr : r with
    | nil => rw [hr] at hk; cases hk
    | cons j r' =>
      have hj : j ∈ r := by rw [hr]; exact List.mem_cons_self
      have hjlive := (hinv.mem_line.mp (show j ∈ c.line s by rw [hline]; simp [hj])).1
      have hle := (foldl_nearer_some _ _ _ _ _ hf).2.2 j
        (List.mem_range.mpr ((hinv.slot j).bound hjlive)) _
        (Core.successorDistance_behind hinv hord hnear hline hj)
      have hsorted : (l ++ i :: r).Pairwise fun a b => g.number a < g.number b := by
        rw [← hline]
        exact hord.sorted s
      have hsr : (i :: r).Pairwise fun a b => g.number a < g.number b :=
        (List.pairwise_append.mp hsorted).2.1
      have hij := List.rel_of_pairwise_cons hsr hj
      have hik := List.rel_of_pairwise_cons hsr hk
      rw [hr] at hk
      rcases List.mem_cons.mp hk with hkj | hk'
      · subst hkj
        rfl
      · have hjk := List.rel_of_pairwise_cons (hr ▸ hsr.of_cons) hk'
        omega

end

end Successor

/-! ### Moves -/

section Moves

variable {c c' : Core} {g g' : History} {s : Stream} {i : ℕ}

theorem World.slot_congr {j : ℕ} (hnumber : g'.number j = g.number j)
    (hrec : c'.records j = c.records j) (hframe : c'.frames j = c.frames j) :
    World.slot ⟨c', g'⟩ j = World.slot ⟨c, g⟩ j := by
  simp only [World.slot, Core.sealed, hnumber, hrec, hframe]

/-- A move that changes one buffer and keeps its mark and its place. -/
theorem Gapped.touch (h : Gapped ⟨c, g⟩) (hline : ∀ s, c'.line s = c.line s)
    (hnumber : g'.number = g.number) (hproduced : g'.produced = g.produced)
    (hexpected : g'.expected = g.expected) (hreleased : g'.released = g.released)
    (hlost : g'.lost = g.lost) (hafter : g'.afterLoss = g.afterLoss)
    (hgapNext : c'.gapBeforeNextFrame = c.gapBeforeNextFrame)
    (hrec : ∀ j, j ≠ i → c'.records j = c.records j)
    (hframe : ∀ j, j ≠ i → c'.frames j = c.frames j)
    (hmark : i ∈ c.line (c.records i).stream → ((c'.records i).gapBeforeRequired || c'.sealed i) =
      ((c.records i).gapBeforeRequired || c.sealed i))
    (hmem : ∀ s, i ∈ c.line s → s = (c.records i).stream)
    (hbits : (c'.records i).frameSize ≠ 0 → flagsOf (c'.frames i) &&& gapMask = 0 ∨
      flagsOf (c'.frames i) &&& gapMask = gapMask)
    (hopen : ∀ s, c'.isOpen s i = true → c.isOpen s i = true ∧
      (c'.records i).gapBeforeRequired = (c.records i).gapBeforeRequired)
    (hstarted : (c'.records i).transmissionStarted = true →
      (c'.records i).gapBeforeRequired = false) : Gapped ⟨c', g'⟩ where
  exact := fun s => by
    have hslots : (c'.line s).map (World.slot ⟨c', g'⟩) = (c.line s).map (World.slot ⟨c, g⟩) := by
      rw [hline]
      refine List.map_congr_left fun j hj => ?_
      by_cases hji : j = i
      · subst hji
        have hm := hmark (by rw [← hmem s hj]; exact hj)
        simp only [World.slot, hnumber, hm]
      · exact World.slot_congr (by rw [hnumber]) (hrec j hji) (hframe j hji)
    show Exact (g'.expected s) ((c'.line s).map (World.slot ⟨c', g'⟩)) (g'.produced s)
      (c'.gapBeforeNextFrame s)
    rw [hslots, hexpected, hproduced, hgapNext]
    exact h.exact s
  bits := fun j hj => by
    by_cases hji : j = i
    · rw [hji] at hj ⊢
      exact hbits hj
    · have hj' : (c'.records j).frameSize ≠ 0 := hj
      show flagsOf (c'.frames j) &&& gapMask = 0 ∨ flagsOf (c'.frames j) &&& gapMask = gapMask
      rw [hrec j hji] at hj'
      rw [hframe j hji]
      exact h.bits j hj'
  lost := fun s hs => by
    show c'.gapBeforeNextFrame s = true
    rw [hgapNext]
    exact h.lost s (by rw [← hlost]; exact hs)
  afterLoss := fun s j hj ha => by
    have hj' : c'.isOpen s j = true := hj
    have ha' : g.afterLoss j = true := by rw [← hafter]; exact ha
    show (c'.records j).gapBeforeRequired = true
    by_cases hji : j = i
    · rw [hji] at hj' ha' ⊢
      obtain ⟨ho, hg⟩ := hopen s hj'
      rw [hg]
      exact h.afterLoss s i ho ha'
    · rw [Core.isOpen_iff, hrec j hji] at hj'
      rw [hrec j hji]
      exact h.afterLoss s j (Core.isOpen_iff.mpr hj') ha'
  near := fun s j hj => by
    show g'.number j < g'.expected s + 2 ^ 31
    rw [hnumber, hexpected]
    exact h.near s j (by rw [← hline]; exact hj)
  started := fun j hj => by
    have hj' : (c'.records j).transmissionStarted = true := hj
    show (c'.records j).gapBeforeRequired = false
    by_cases hji : j = i
    · rw [hji] at hj' ⊢
      exact hstarted hj'
    · rw [hrec j hji] at hj' ⊢
      exact h.started j hj'
  log := fun s => by
    show LogExact (g'.expected s) (g'.released s)
    rw [hexpected, hreleased]
    exact h.log s

theorem Gapped.openFill (h : Gapped ⟨c, g⟩) (hinv : Inv ⟨c, g⟩) {lease : UInt32} (hi : i < 200)
    (hfree : (c.records i).state = .free) (hnone : c.NoOpen s)
    (hnear : g.produced s < g.expected s + 2 ^ 31) :
    Gapped ⟨c.openFill s i lease, g.openFill s i⟩ := by
  have hdefault : c.records i = {} := (hinv.slot i).free hfree
  have hrec : ∀ j, j ≠ i → (c.openFill s i lease).records j = c.records j := fun j hj =>
    Function.update_of_ne hj _ _
  have hself : (c.openFill s i lease).records i = { c.records i with
      state := .filling, stream := s, gapBeforeRequired := c.gapBeforeNextFrame s, runId := c.runId
      sequence := (c.sourceCounters s).nextSequence, itemCount := (c.setup.stream s).itemCount
      lease := lease, frameSize := 0 } := by
    simp [Core.openFill, Core.setRecord, Core.setGapNext, Core.setCounters]
  have hline := fun t => Core.line_openFill (t := t) (l := lease) hinv hi hfree hnone
  have hnot : ∀ t, i ∉ c.line t := fun t hm => (hinv.mem_line.mp hm).1 hfree
  have hother : ∀ t, ∀ j ∈ c.line t, j ≠ i := fun t j hj e => hnot t (by rwa [e] at hj)
  have hnumber : ∀ j, j ≠ i → (g.openFill s i).number j = g.number j := fun j hj =>
    Function.update_of_ne hj _ _
  have hnew : (g.openFill s i).number i = g.produced s := Function.update_self _ _ _
  have hslots : ∀ t, (c.line t).map (World.slot ⟨c.openFill s i lease, g.openFill s i⟩) =
      (c.line t).map (World.slot ⟨c, g⟩) := fun t => List.map_congr_left fun j hj =>
    World.slot_congr (hnumber j (hother t j hj)) (hrec j (hother t j hj)) rfl
  have hslot : World.slot ⟨c.openFill s i lease, g.openFill s i⟩ i =
      ⟨g.produced s, c.gapBeforeNextFrame s⟩ := by
    simp only [World.slot, Core.sealed, hnew, hself]
    simp
  refine ⟨fun t => ?_, fun j hj => ?_, fun t ht => ?_, fun t j hj ha => ?_, fun t j hj => ?_,
    fun j hj => ?_, h.log⟩
  · show Exact (g.expected t) (((c.openFill s i lease).line t).map
      (World.slot ⟨c.openFill s i lease, g.openFill s i⟩)) ((g.openFill s i).produced t)
      ((c.openFill s i lease).gapBeforeNextFrame t)
    rw [hline]
    by_cases ht : t = s
    · subst ht
      have hp : (g.openFill t i).produced t = g.produced t + 1 := Function.update_self _ _ _
      have hn : (c.openFill t i lease).gapBeforeNextFrame t = false := Function.update_self _ _ _
      rw [if_pos rfl, List.map_append, hslots, List.map_singleton, hslot, hp, hn]
      exact (h.exact t).append
    · have hp : (g.openFill s i).produced t = g.produced t := Function.update_of_ne ht _ _
      have hn : (c.openFill s i lease).gapBeforeNextFrame t = c.gapBeforeNextFrame t :=
        Function.update_of_ne ht _ _
      rw [if_neg ht, hslots, hp, hn]
      exact h.exact t
  · by_cases hji : j = i
    · subst hji
      have hj' : ((c.openFill s j lease).records j).frameSize ≠ 0 := hj
      rw [hself] at hj'
      exact absurd rfl hj'
    · have hj' : ((c.openFill s i lease).records j).frameSize ≠ 0 := hj
      rw [hrec j hji] at hj'
      exact h.bits j hj'
  · show (c.openFill s i lease).gapBeforeNextFrame t = true
    by_cases hts : t = s
    · subst hts
      have hl : (g.openFill t i).lost t = false := Function.update_self _ _ _
      exact absurd (hl.symm.trans ht) (by decide)
    · have hl : (g.openFill s i).lost t = g.lost t := Function.update_of_ne hts _ _
      have hn : (c.openFill s i lease).gapBeforeNextFrame t = c.gapBeforeNextFrame t :=
        Function.update_of_ne hts _ _
      rw [hn]
      exact h.lost t (hl.symm.trans ht)
  · show ((c.openFill s i lease).records j).gapBeforeRequired = true
    by_cases hji : j = i
    · subst hji
      have hl : (g.openFill s j).afterLoss j = g.lost s := Function.update_self _ _ _
      rw [hself]
      exact h.lost s (hl.symm.trans ha)
    · have hj' : (c.openFill s i lease).isOpen t j = true := hj
      have hl : (g.openFill s i).afterLoss j = g.afterLoss j := Function.update_of_ne hji _ _
      rw [Core.isOpen_iff, hrec j hji] at hj'
      rw [hrec j hji]
      exact h.afterLoss t j (Core.isOpen_iff.mpr hj') (hl.symm.trans ha)
  · show (g.openFill s i).number j < g.expected t + 2 ^ 31
    have hj' : j ∈ (c.openFill s i lease).line t := hj
    rw [hline] at hj'
    split at hj'
    · next hts =>
      rcases List.mem_append.mp hj' with hm | hm
      · rw [hnumber j (hother t j hm)]
        exact h.near t j hm
      · rw [List.mem_singleton.mp hm, hnew, hts]
        exact hnear
    · rw [hnumber j (hother t j hj')]
      exact h.near t j hj'
  · have hj' : ((c.openFill s i lease).records j).transmissionStarted = true := hj
    by_cases hji : j = i
    · rw [hji, hself, hdefault] at hj'
      cases hj'
    · show ((c.openFill s i lease).records j).gapBeforeRequired = false
      rw [hrec j hji] at hj' ⊢
      exact h.started j hj'

theorem Gapped.lose (h : Gapped ⟨c, g⟩) {n : ℕ} {atSource : Bool} (hn : 0 < n) :
    Gapped ⟨c.lose s n, g.lose s n atSource⟩ where
  exact := fun t => by
    show Exact (g.expected t) ((c.line t).map (World.slot ⟨c, g⟩))
      ((g.lose s n atSource).produced t) ((c.lose s n).gapBeforeNextFrame t)
    by_cases ht : t = s
    · subst ht
      have hp : (g.lose t n atSource).produced t = g.produced t + n := Function.update_self _ _ _
      have hb : (c.lose t n).gapBeforeNextFrame t = true := Function.update_self _ _ _
      rw [hp, hb]
      exact (h.exact t).lose hn
    · have hp : (g.lose s n atSource).produced t = g.produced t := Function.update_of_ne ht _ _
      have hb : (c.lose s n).gapBeforeNextFrame t = c.gapBeforeNextFrame t :=
        Function.update_of_ne ht _ _
      rw [hp, hb]
      exact h.exact t
  bits := h.bits
  lost := fun t hl => by
    show (c.lose s n).gapBeforeNextFrame t = true
    by_cases ht : t = s
    · subst ht
      exact Function.update_self _ _ _
    · have hb : (c.lose s n).gapBeforeNextFrame t = c.gapBeforeNextFrame t :=
        Function.update_of_ne ht _ _
      have hl' : (g.lose s n atSource).lost t = g.lost t := Function.update_of_ne ht _ _
      rw [hb]
      exact h.lost t (hl'.symm.trans hl)
  afterLoss := h.afterLoss
  near := h.near
  started := h.started
  log := h.log

/-- The bits of a page that took both gap bits. -/
theorem gapMask_or (v : UInt16) : (v ||| gapMask) &&& gapMask = gapMask := by
  rw [uint16_or_and, UInt16.and_self]
  refine UInt16.toNat.inj ?_
  rw [UInt16.toNat_or, UInt16.toNat_and]
  refine Nat.eq_of_testBit_eq fun k => ?_
  rw [Nat.testBit_or, Nat.testBit_and]
  cases v.toNat.testBit k <;> simp

theorem gapMask_ne : gapMask ≠ 0 := by decide

/-- A completed page seals the mark of its record. -/
theorem Gapped.complete (h : Gapped ⟨c, g⟩) (hsingle : c.Single) {f : PacketFrame} {size : ℕ}
    {l : UInt32} {o : Origin} {requested : UInt16} (hi : i < 200)
    (hstate : (c.records i).state = .filling) (hopen : (c.records i).frameSize = 0)
    (hns : (c.records i).transmissionStarted = false) (hsize : size ≠ 0)
    (hflags : flagsOf f = if (c.records i).gapBeforeRequired then
      requested ||| flagGapBefore ||| flagOverrunBefore else requested)
    (hhonest : requested &&& (flagGapBefore ||| flagOverrunBefore) ≠ 0 → g.afterLoss i = true)
    (hmem : ∀ s, i ∈ c.line s → s = (c.records i).stream) :
    Gapped ⟨c.complete i f size l, g.complete i o⟩ := by
  have hself := c.complete_record i f size l
  have hpage := c.complete_frame i f size l
  have hbits : flagsOf f &&& gapMask =
      if (c.records i).gapBeforeRequired then gapMask else 0 := by
    rw [hflags]
    cases hg : (c.records i).gapBeforeRequired with
    | true =>
      simp only [if_true]
      rw [UInt16.or_assoc]
      exact gapMask_or requested
    | false =>
      simp only [Bool.false_eq_true, if_false]
      by_contra hne
      -- a producer that asks for the bits lost frames, so the record was marked
      have := h.afterLoss _ i (Core.isOpen_iff.mpr ⟨hstate, hopen, rfl⟩) (hhonest hne)
      exact absurd (this.symm.trans hg) (by decide)
  refine h.touch (i := i) (fun t => Core.line_complete hsingle hi hstate hopen hsize) rfl rfl rfl rfl
    rfl rfl rfl (fun j hj => Function.update_of_ne hj _ _) (fun j hj => Function.update_of_ne hj _ _)
    (fun _ => ?_) hmem (fun _ => ?_) (fun t ht => ?_) (fun hs => ?_)
  · unfold Core.sealed
    rw [hself, hpage, hbits]
    cases hg : (c.records i).gapBeforeRequired <;> simp [hsize, hopen, gapMask_ne]
  · rw [hpage, hbits]
    cases (c.records i).gapBeforeRequired
    · exact Or.inl rfl
    · exact Or.inr rfl
  · rw [Core.isOpen_iff, hself] at ht
    exact absurd ht.2.1 hsize
  · rw [hself] at hs
    exact absurd (hns.symm.trans hs) (by decide)

theorem Gapped.publish (h : Gapped ⟨c, g⟩) (hinv : Inv ⟨c, g⟩) {f : PacketFrame} {n : ℕ}
    (hstate : (c.records i).state = .filling) (hdone : (c.records i).frameSize ≠ 0)
    (hsize : n ≠ 0) (hflags : flagsOf f = flagsOf (c.frames i)) :
    Gapped ⟨(c.rework i f n).publish i, g⟩ := by
  have hself : ((c.rework i f n).publish i).records i =
      { c.records i with state := .ready, frameSize := n } := by
    simp [Core.publish, Core.rework, Core.setRecord, Core.setCounters, Core.setFrame]
  have hpage : ((c.rework i f n).publish i).frames i = f := Function.update_self _ _ _
  refine h.touch (i := i) (Core.line_publish hinv hstate hdone) rfl rfl rfl rfl rfl rfl rfl
    (fun j hj => ?_) (fun j hj => Function.update_of_ne hj _ _) (fun _ => ?_)
    (fun t ht => (hinv.mem_line.mp ht).2.symm) (fun _ => ?_) (fun t ht => ?_) fun hs => ?_
  · simp [Core.publish, Core.rework, Core.setRecord, Core.setCounters, Core.setFrame,
      Function.update_of_ne hj]
  · unfold Core.sealed
    rw [hself, hpage, hflags]
    simp [hsize, hdone]
  · rw [hpage, hflags]
    exact h.bits i hdone
  · rw [Core.isOpen_iff, hself] at ht
    exact absurd ht.1 (by simp)
  · rw [hself] at hs ⊢
    exact h.started i hs

theorem Gapped.flush (h : Gapped ⟨c, g⟩) (hinv : Inv ⟨c, g⟩) {f : PacketFrame}
    (hstate : (c.records i).state = .ready ∨ (c.records i).state = .transmitting)
    (hgap : (c.records i).gapBeforeRequired = true)
    (hflags : flagsOf f = flagsOf (c.frames i) ||| (flagGapBefore ||| flagOverrunBefore)) :
    Gapped ⟨c.flush i f, g⟩ := by
  have hself : (c.flush i f).records i = { c.records i with gapBeforeRequired := false } :=
    Function.update_self _ _ _
  have hpage : (c.flush i f).frames i = f := Function.update_self _ _ _
  have hbits : flagsOf f &&& gapMask = gapMask := by
    rw [hflags]
    exact gapMask_or _
  have hne := (hinv.slot i).sized hstate
  refine h.touch (i := i) (fun t => ?_) rfl rfl rfl rfl rfl rfl rfl
    (fun j hj => Function.update_of_ne hj _ _) (fun j hj => Function.update_of_ne hj _ _)
    (fun _ => ?_) (fun t ht => (hinv.mem_line.mp ht).2.symm) (fun _ => ?_) (fun t ht => ?_)
    fun _ => by rw [hself]
  · refine Core.line_congr rfl rfl (fun j _ => ?_) fun j => ?_ <;> by_cases hj : j = i
    · rw [hj, hself]
    · exact congrArg BufferRecord.stream (Function.update_of_ne hj _ _)
    · unfold Core.isOpen
      rw [hj, hself]
    · unfold Core.isOpen
      rw [show (c.flush i f).records j = c.records j from Function.update_of_ne hj _ _]
  · have hsz : (c.records i).frameSize ≠ 0 := hne
    unfold Core.sealed
    rw [hself, hpage, hbits]
    simp [hsz, hgap, gapMask_ne]
  · rw [hpage, hbits]
    exact Or.inr rfl
  · rw [Core.isOpen_iff, hself] at ht
    have hfill : (c.records i).state = .filling := ht.1
    rw [hfill] at hstate
    rcases hstate with hs | hs <;> cases hs

theorem Gapped.promote (h : Gapped ⟨c, g⟩) (hinv : Inv ⟨c, g⟩) {rest : List ℕ}
    (hqueue : c.readyQueues s = i :: rest) (hstate : (c.records i).state = .ready) :
    Gapped ⟨c.promote s i rest, g⟩ := by
  have hself : (c.promote s i rest).records i = { c.records i with state := .transmitting } :=
    Function.update_self _ _ _
  refine h.touch (i := i) (fun t => Core.line_promote hinv hqueue hstate) rfl rfl rfl rfl rfl rfl rfl
    (fun j hj => Function.update_of_ne hj _ _) (fun _ _ => rfl) (fun _ => ?_)
    (fun t ht => (hinv.mem_line.mp ht).2.symm) (fun hs => ?_) (fun t ht => ?_) fun hs => ?_
  · unfold Core.sealed
    rw [hself]
    rfl
  · rw [hself] at hs
    exact h.bits i hs
  · rw [Core.isOpen_iff, hself] at ht
    exact absurd ht.1 (by simp)
  · rw [hself] at hs ⊢
    exact h.started i hs

theorem Gapped.start (h : Gapped ⟨c, g⟩) (hinv : Inv ⟨c, g⟩)
    (hstate : (c.records i).state = .transmitting)
    (hgap : (c.records i).gapBeforeRequired = false) : Gapped ⟨c.start i, g⟩ := by
  have hself : (c.start i).records i = { c.records i with transmissionStarted := true } :=
    Function.update_self _ _ _
  refine h.touch (i := i) (fun t => ?_) rfl rfl rfl rfl rfl rfl rfl
    (fun j hj => Function.update_of_ne hj _ _) (fun _ _ => rfl) (fun _ => ?_)
    (fun t ht => (hinv.mem_line.mp ht).2.symm) (fun hs => ?_) (fun t ht => ?_) fun _ => ?_
  · refine Core.line_congr rfl rfl (fun j _ => ?_) fun j => ?_ <;> by_cases hj : j = i
    · rw [hj, hself]
    · exact congrArg BufferRecord.stream (Function.update_of_ne hj _ _)
    · unfold Core.isOpen
      rw [hj, hself]
    · unfold Core.isOpen
      rw [show (c.start i).records j = c.records j from Function.update_of_ne hj _ _]
  · unfold Core.sealed
    rw [hself]
    rfl
  · rw [hself] at hs
    exact h.bits i hs
  · rw [Core.isOpen_iff, hself] at ht
    exact absurd (hstate.symm.trans ht.1) (by decide)
  · rw [hself]
    exact hgap

/-- The scan only reads the stream and the sequence of the dropped record. -/
theorem Core.findSuccessor_congr {c₁ : Core} (hrec : ∀ j, j ≠ i → c₁.records j = c.records j)
    (hstream : (c₁.records i).stream = (c.records i).stream)
    (hsequence : (c₁.records i).sequence = (c.records i).sequence) :
    c₁.findSuccessor (c₁.records i) = c.findSuccessor (c.records i) := by
  have hkey : c₁.successorDistance (c₁.records i) = c.successorDistance (c.records i) := by
    funext j
    unfold Core.successorDistance
    by_cases hj : j = i
    · rw [hj]
      simp
    · simp only [hrec j hj, hstream, hsequence]
  unfold Core.findSuccessor
  rw [hkey]

theorem Core.drop_gapNext (c : Core) (i : ℕ) (evict : Bool) : (c.drop i evict).gapBeforeNextFrame =
    if (c.findSuccessor (c.records i)).isNone then
      Function.update c.gapBeforeNextFrame (c.records i).stream true
    else c.gapBeforeNextFrame := by
  obtain ⟨counted, hcounted⟩ : ∃ counted, counted = c.setCounters (c.records i).stream
      (Core.droppedCounters (c.sourceCounters (c.records i).stream) (c.records i) evict) := ⟨_, rfl⟩
  have hdrop : (c.drop i evict).gapBeforeNextFrame =
      (counted.propagate (c.records i)).gapBeforeNextFrame := by
    rw [hcounted]
    rfl
  have hfind : counted.findSuccessor (c.records i) = c.findSuccessor (c.records i) := by
    rw [hcounted]
    rfl
  rw [hdrop]
  cases hf : c.findSuccessor (c.records i) with
  | none =>
    rw [Core.propagate_none (hfind.trans hf), hcounted]
    simp [Core.setGapNext, Core.setCounters]
  | some q =>
    rw [Core.propagate_some (hfind.trans hf), hcounted]
    simp [Core.setRecord, Core.setCounters]

/-- A dropped frame leaves its mark to the frame behind it. -/
theorem Gapped.drop (h : Gapped ⟨c, g⟩) (hinv : Inv ⟨c, g⟩) (hord : Ordered ⟨c, g⟩) {c₁ : Core}
    {evict : Bool} (hlive : (c.records i).state ≠ .free)
    (hrec : ∀ j, j ≠ i → c₁.records j = c.records j)
    (hstream : (c₁.records i).stream = (c.records i).stream)
    (hsequence : (c₁.records i).sequence = (c.records i).sequence)
    (hframe : ∀ j, j ≠ i → c₁.frames j = c.frames j)
    (htransmit : c₁.transmitQueue = c.transmitQueue.erase i)
    (hready : ∀ t, c₁.readyQueues t = (c.readyQueues t).erase i)
    (hgapNext : c₁.gapBeforeNextFrame = c.gapBeforeNextFrame) : Gapped ⟨c₁.drop i evict, g⟩ := by
  obtain ⟨hframes, hr, ht, -⟩ := c₁.drop_other i evict
  have hoff : OffBy i c (c₁.drop i evict) := fun j hj =>
    ⟨_, by rw [c₁.drop_record_ne evict hj, hrec j hj]⟩
  have hself := c₁.drop_record_self i evict
  have hline := fun t => Core.line_erase (t := t) hinv hoff hself (by rw [ht, htransmit])
    fun t => by rw [hr, hready]
  have hfind := Core.findSuccessor_congr hrec hstream hsequence
  have hgap : ∀ j, j ≠ i → ((c₁.drop i evict).records j).gapBeforeRequired =
      ((c.records j).gapBeforeRequired || c.marked (c.records i) j) := by
    intro j hj
    rw [c₁.drop_record_ne evict hj, hrec j hj]
    unfold Core.marked
    rw [hfind]
  have hslot : ∀ j, j ≠ i → World.slot ⟨c₁.drop i evict, g⟩ j = ⟨g.number j,
      ((c.records j).gapBeforeRequired || c.sealed j) || c.marked (c.records i) j⟩ := by
    intro j hj
    have hsealed : (c₁.drop i evict).sealed j = c.sealed j := by
      unfold Core.sealed
      rw [hoff.frameSize hj, hframes, hframe j hj]
    simp only [World.slot, hgap j hj, hsealed]
    rw [Bool.or_right_comm]
  have hsame : ∀ j, j ≠ i → c.marked (c.records i) j = false →
      World.slot ⟨c₁.drop i evict, g⟩ j = World.slot ⟨c, g⟩ j := by
    intro j hj hm
    rw [hslot j hj, hm, Bool.or_false]
    rfl
  have hnext : (c₁.drop i evict).gapBeforeNextFrame =
      if (c.findSuccessor (c.records i)).isNone then
        Function.update c.gapBeforeNextFrame (c.records i).stream true
      else c.gapBeforeNextFrame := by
    rw [Core.drop_gapNext, hfind, hgapNext, hstream]
  have hnear : ∀ a ∈ c.line (c.records i).stream, ∀ b ∈ c.line (c.records i).stream,
      g.number a < g.number b + 2 ^ 31 := by
    intro a ha b hb
    have h1 := h.near _ a ha
    have h2 := ((h.exact (c.records i).stream).num_mem _ (List.mem_map_of_mem hb)).1
    have h2' : g.expected (c.records i).stream ≤ g.number b := h2
    have h1' : g.number a < g.expected (c.records i).stream + 2 ^ 31 := h1
    omega
  refine ⟨fun t => ?_, fun j hj => ?_, fun t hl => ?_, fun t j hj ha => ?_, fun t j hj => ?_,
    fun j hj => ?_, h.log⟩
  · show Exact (g.expected t) (((c₁.drop i evict).line t).map (World.slot ⟨c₁.drop i evict, g⟩))
      (g.produced t) ((c₁.drop i evict).gapBeforeNextFrame t)
    rw [hline]
    by_cases hts : t = (c.records i).stream
    · subst hts
      have hmem : i ∈ c.line (c.records i).stream := hinv.mem_line.mpr ⟨hlive, rfl⟩
      obtain ⟨l, r, hsplit⟩ := List.append_of_mem hmem
      have hnd := hinv.nodup_line (c.records i).stream
      have hexact := h.exact (c.records i).stream
      have hsucc := Core.findSuccessor_line hinv hord hnear hsplit
      change Exact (g.expected _) ((c.line (c.records i).stream).map (World.slot ⟨c, g⟩))
        (g.produced _) (c.gapBeforeNextFrame _) at hexact
      rw [hsplit] at hnd hexact ⊢
      have hil : i ∉ l := fun hm => (List.disjoint_of_nodup_append hnd) hm List.mem_cons_self
      have hir : i ∉ r := (List.nodup_cons.mp (List.nodup_append.mp hnd).2.1).1
      rw [List.erase_append_right _ hil, List.erase_cons_head, hnext]
      rw [List.map_append, List.map_cons] at hexact
      cases r with
      | nil =>
        have hnone : c.findSuccessor (c.records i) = none := by simpa using hsucc
        rw [hnone, List.append_nil]
        simp only [Option.isNone_none, if_true, Function.update_self]
        have hslots : l.map (World.slot ⟨c₁.drop i evict, g⟩) = l.map (World.slot ⟨c, g⟩) := by
          refine List.map_congr_left fun j hj => hsame j (fun e => hil (by rwa [e] at hj)) ?_
          simp [Core.marked, hnone]
        rw [hslots]
        exact hexact.drop_last
      | cons j r =>
        have hji : j ≠ i := fun e => hir (by rw [e]; exact List.mem_cons_self)
        have hsome : (c.findSuccessor (c.records i)).map Prod.fst = some j := hsucc
        have hisSome : (c.findSuccessor (c.records i)).isNone = false := by
          cases hf : c.findSuccessor (c.records i) with
          | none => rw [hf] at hsome; cases hsome
          | some q => rfl
        rw [hisSome]
        simp only [Bool.false_eq_true, if_false]
        have hmarked : ∀ k, c.marked (c.records i) k = decide (j = k) := by
          intro k
          simp [Core.marked, hsome]
        have hkeep : ∀ k, k ∈ l ∨ k ∈ r → World.slot ⟨c₁.drop i evict, g⟩ k = World.slot ⟨c, g⟩ k := by
          intro k hk
          refine hsame k ?_ ?_
          · rintro rfl
            rcases hk with hk | hk
            · exact hil hk
            · exact hir (List.mem_cons_of_mem _ hk)
          · rw [hmarked, decide_eq_false_iff_not]
            rintro rfl
            rcases hk with hk | hk
            · exact (List.disjoint_of_nodup_append hnd) hk
                (List.mem_cons_of_mem _ List.mem_cons_self)
            · exact (List.nodup_cons.mp (List.nodup_cons.mp (List.nodup_append.mp hnd).2.1).2).1 hk
        have hl : l.map (World.slot ⟨c₁.drop i evict, g⟩) = l.map (World.slot ⟨c, g⟩) :=
          List.map_congr_left fun k hk => hkeep k (Or.inl hk)
        have hr' : r.map (World.slot ⟨c₁.drop i evict, g⟩) = r.map (World.slot ⟨c, g⟩) :=
          List.map_congr_left fun k hk => hkeep k (Or.inr hk)
        have hj : World.slot ⟨c₁.drop i evict, g⟩ j = ⟨(World.slot ⟨c, g⟩ j).num, true⟩ := by
          rw [hslot j hji, hmarked]
          simp [World.slot]
        rw [List.map_append, List.map_cons, hl, hr', hj]
        rw [List.map_cons] at hexact
        exact hexact.drop_mid
    · -- another stream: the frame is not in its line and the marked one neither
      have hnot : i ∉ c.line t := fun hm => hts (hinv.mem_line.mp hm).2.symm
      rw [List.erase_of_not_mem hnot]
      have hslots : (c.line t).map (World.slot ⟨c₁.drop i evict, g⟩) =
          (c.line t).map (World.slot ⟨c, g⟩) := by
        refine List.map_congr_left fun j hj => hsame j (fun e => hnot (by rwa [e] at hj)) ?_
        rw [← Bool.not_eq_true]
        intro hm
        exact hts ((hinv.mem_line.mp hj).2.symm.trans (c.marked_live hm).2.2.1)
      have hkeep : (c₁.drop i evict).gapBeforeNextFrame t = c.gapBeforeNextFrame t := by
        rw [hnext]
        split
        · exact Function.update_of_ne hts _ _
        · rfl
      rw [hslots, hkeep]
      exact h.exact t
  · have hj' : ((c₁.drop i evict).records j).frameSize ≠ 0 := hj
    by_cases hji : j = i
    · rw [hji, hself] at hj'
      exact absurd rfl hj'
    · show flagsOf ((c₁.drop i evict).frames j) &&& gapMask = 0 ∨
        flagsOf ((c₁.drop i evict).frames j) &&& gapMask = gapMask
      rw [hoff.frameSize hji] at hj'
      rw [hframes, hframe j hji]
      exact h.bits j hj'
  · show (c₁.drop i evict).gapBeforeNextFrame t = true
    have hold := h.lost t hl
    rw [hnext]
    split
    · by_cases hts : t = (c.records i).stream
      · rw [hts, Function.update_self]
      · rw [Function.update_of_ne hts]
        exact hold
    · exact hold
  · have hj' : (c₁.drop i evict).isOpen t j = true := hj
    show ((c₁.drop i evict).records j).gapBeforeRequired = true
    by_cases hji : j = i
    · rw [Core.isOpen_iff, hji, hself] at hj'
      cases hj'.1
    · rw [Core.isOpen_iff, hoff.state hji, hoff.frameSize hji, hoff.stream hji] at hj'
      have hold : (c.records j).gapBeforeRequired = true :=
        h.afterLoss t j (Core.isOpen_iff.mpr hj') ha
      rw [hgap j hji, hold, Bool.true_or]
  · have hj' : j ∈ (c₁.drop i evict).line t := hj
    rw [hline] at hj'
    exact h.near t j (List.mem_of_mem_erase hj')
  · have hj' : ((c₁.drop i evict).records j).transmissionStarted = true := hj
    show ((c₁.drop i evict).records j).gapBeforeRequired = false
    by_cases hji : j = i
    · rw [hji, hself]
    · rw [hoff.started hji] at hj'
      have hold : (c.records j).gapBeforeRequired = false := h.started j hj'
      rw [hgap j hji, hold, Bool.false_or, ← Bool.not_eq_true]
      intro hm
      exact absurd (hj'.symm.trans (c.marked_live hm).2.2.2.1) (by decide)

/-- The head of the line is released: its flags say what was lost before it. -/
theorem Gapped.release (h : Gapped ⟨c, g⟩) (hinv : Inv ⟨c, g⟩) (hord : Ordered ⟨c, g⟩)
    {rest : List ℕ} (hqueue : c.transmitQueue = i :: rest)
    (hstarted : (c.records i).transmissionStarted = true) :
    Gapped ⟨c.release i, g.release (c.records i).stream i (c.records i).sequence
      (flagsOf (c.frames i))⟩ := by
  set s := (c.records i).stream with hs
  set g' := g.release s i (c.records i).sequence (flagsOf (c.frames i)) with hg'
  have hst : (c.records i).state = .transmitting :=
    (hinv.queues.transmit_mem i).mp (by rw [hqueue]; exact List.mem_cons_self)
  have hlive : (c.records i).state ≠ .free := by rw [hst]; decide
  have hself : (c.release i).records i = {} := Function.update_self _ _ _
  have hrec : ∀ j, j ≠ i → (c.release i).records j = c.records j := fun j hj =>
    Function.update_of_ne hj _ _
  have hoff : OffBy i c (c.release i) := fun j hj => ⟨(c.records j).gapBeforeRequired, hrec j hj⟩
  have hline := fun t => Core.line_erase (t := t) hinv hoff hself rfl fun t =>
    (hinv.erase_ready (BufferRecord.not_queued_of_transmitting hst) t).symm
  obtain ⟨tail, htail⟩ := hinv.started_head hstarted hs.symm
  have hne : ∀ t, ∀ j ∈ (c.line t).erase i, j ≠ i := fun t j hj e =>
    (hinv.nodup_line t).not_mem_erase (by rwa [e] at hj)
  have hslots : ∀ t, ((c.line t).erase i).map (World.slot ⟨c.release i, g'⟩) =
      ((c.line t).erase i).map (World.slot ⟨c, g⟩) := fun t => List.map_congr_left fun j hj =>
    World.slot_congr rfl (hrec j (hne t j hj)) rfl
  have hgap := h.started i hstarted
  have hgap' : (c.records i).gapBeforeRequired = false := hgap
  have hsize : (c.records i).frameSize ≠ 0 := (hinv.slot i).sized (Or.inr hst)
  have hexact := h.exact s
  change Exact (g.expected s) ((c.line s).map (World.slot ⟨c, g⟩)) (g.produced s)
    (c.gapBeforeNextFrame s) at hexact
  rw [htail, List.map_cons] at hexact
  obtain ⟨hle, hmark, hafter⟩ := hexact.head
  have hexp : g'.expected s = g.number i + 1 := Function.update_self _ _ _
  have hexpo : ∀ t, t ≠ s → g'.expected t = g.expected t := fun t ht => Function.update_of_ne ht _ _
  refine ⟨fun t => ?_, fun j hj => ?_, h.lost, fun t j hj ha => ?_, fun t j hj => ?_, fun j hj => ?_,
    fun t => ?_⟩
  · show Exact (g'.expected t) (((c.release i).line t).map (World.slot ⟨c.release i, g'⟩))
      (g.produced t) (c.gapBeforeNextFrame t)
    rw [hline, hslots]
    by_cases ht : t = s
    · subst ht
      rw [htail, List.erase_cons_head, hexp]
      exact hafter
    · have hnot : i ∉ c.line t := fun hm => ht ((hinv.mem_line.mp hm).2.symm.trans hs.symm)
      rw [List.erase_of_not_mem hnot, hexpo t ht]
      exact h.exact t
  · have hj' : ((c.release i).records j).frameSize ≠ 0 := hj
    by_cases hji : j = i
    · rw [hji, hself] at hj'
      exact absurd rfl hj'
    · rw [hrec j hji] at hj'
      exact h.bits j hj'
  · have hj' : (c.release i).isOpen t j = true := hj
    show ((c.release i).records j).gapBeforeRequired = true
    by_cases hji : j = i
    · rw [Core.isOpen_iff, hji, hself] at hj'
      cases hj'.1
    · rw [Core.isOpen_iff, hrec j hji] at hj'
      rw [hrec j hji]
      exact h.afterLoss t j (Core.isOpen_iff.mpr hj') ha
  · have hj' : j ∈ (c.release i).line t := hj
    show g.number j < g'.expected t + 2 ^ 31
    rw [hline] at hj'
    have hold : g.number j < g.expected t + 2 ^ 31 := h.near t j (List.mem_of_mem_erase hj')
    by_cases ht : t = s
    · subst ht
      have hle' : g.expected s ≤ g.number i := hle
      rw [hexp]
      omega
    · rw [hexpo t ht]
      exact hold
  · have hj' : ((c.release i).records j).transmissionStarted = true := hj
    show ((c.release i).records j).gapBeforeRequired = false
    by_cases hji : j = i
    · rw [hji, hself]
    · rw [hrec j hji] at hj' ⊢
      exact h.started j hj'
  · show LogExact (g'.expected t) (g'.released t)
    by_cases ht : t = s
    · subst ht
      have hreleased : g'.released s = ⟨g.number i, (c.records i).sequence, flagsOf (c.frames i)⟩ ::
          g.released s := Function.update_self _ _ _
      rw [hexp, hreleased]
      refine ⟨rfl, hord.sequence i hlive, g.expected s, h.log s, hle,
        h.near s i (by rw [htail]; exact List.mem_cons_self), ?_⟩
      have hbits := h.bits i hsize
      change flagsOf (c.frames i) &&& gapMask = 0 ∨ flagsOf (c.frames i) &&& gapMask = gapMask at hbits
      have hmark' : c.sealed i = true ↔ g.number i ≠ g.expected s := by
        have : (World.slot ⟨c, g⟩ i).mark = c.sealed i := by
          show ((c.records i).gapBeforeRequired || c.sealed i) = c.sealed i
          rw [hgap', Bool.false_or]
        rw [← this]
        exact hmark
      have hsealed : c.sealed i = true ↔ flagsOf (c.frames i) &&& gapMask ≠ 0 := by
        simp [Core.sealed, hsize]
      show flagsOf (c.frames i) &&& gapMask = if g.number i = g.expected s then 0 else gapMask
      split
      · next heq =>
        by_contra hnz
        exact (hmark'.mp (hsealed.mpr hnz)) heq
      · next hneq =>
        exact hbits.resolve_left (hsealed.mp (hmark'.mpr hneq))
    · have hreleased : g'.released t = g.released t := Function.update_of_ne ht _ _
      rw [hexpo t ht, hreleased]
      exact h.log t

end Moves

/-- What the marks and the order need of each other. -/
structure Marked (w : World) : Prop where
  ordered : Ordered w
  gapped : Gapped w

theorem Gapped.move {R : Rules} {w w' : World} (htransport : R.transport = true)
    (hone : R.oneOpen = true) (hinv : Inv w) (hord : Ordered w) (h : Gapped w)
    (hmove : Move R w w') : Gapped w' := by
  cases hmove with
  | openFill hi hfree hnone hnear =>
    exact h.openFill hinv hi hfree (hnone hone) (hnear htransport)
  | lose hn => exact h.lose hn
  | @scribble c g i f hsize =>
    refine h.touch (i := i) (fun _ => rfl) rfl rfl rfl rfl rfl rfl rfl (fun _ _ => rfl)
      (fun j hj => Function.update_of_ne hj _ _) (fun _ => ?_)
      (fun t ht => (hinv.mem_line.mp ht).2.symm) (fun hs => absurd hsize hs)
      (fun t ht => ⟨ht, rfl⟩) (h.started i)
    have hsize' : ((c.setFrame i f).records i).frameSize = 0 := hsize
    unfold Core.sealed
    rw [hsize, hsize']
    rfl
  | @complete c g i f size lease o requested hi hstate hopen hsize _ hflags hhonest =>
    exact h.complete hord.single hi hstate hopen (hinv.not_started hstate (by decide)) hsize hflags
      (hhonest htransport) fun t ht => (hinv.mem_line.mp ht).2.symm
  | @finish c g i f size lease o requested hi hstate hopen hsize hframed hflags hhonest =>
    have hcomplete := h.complete (l := lease) (o := o) hord.single hi hstate hopen
      (hinv.not_started hstate (by decide)) hsize hflags (hhonest htransport)
      fun t ht => (hinv.mem_line.mp ht).2.symm
    have hdone := hcomplete.publish (hinv.complete hstate hopen hsize hframed) (i := i)
      (f := (c.complete i f size lease).frames i)
      (n := ((c.complete i f size lease).records i).frameSize)
      (by rw [Core.complete_record]; exact hstate) (by rw [Core.complete_record]; exact hsize)
      (by rw [Core.complete_record]; exact hsize) rfl
    rwa [Core.rework_self] at hdone
  | publish _ hstate hdone hsize _ hflags => exact h.publish hinv hstate hdone hsize hflags
  | flush _ hstate _ hgap _ hflags => exact h.flush hinv hstate hgap hflags
  | promote hqueue hstate => exact h.promote hinv hqueue hstate
  | @dropOpen c g i _ hstate hsize =>
    have hlive : (c.records i).state ≠ .free := by rw [hstate]; decide
    refine h.drop hinv hord hlive (fun _ _ => rfl) rfl rfl (fun _ _ => rfl)
      (hinv.erase_transmit ?_).symm
      (fun t => (hinv.erase_ready (BufferRecord.not_queued hstate hsize) t).symm) rfl
    show (c.records i).state ≠ .transmitting
    rw [hstate]
    decide
  | @dropQueued c g s i f size evict hqueue =>
    have hq := ((hinv.queues.ready_mem s i).mp hqueue).2
    have hlive : (c.records i).state ≠ .free := by
      rcases hq with h | ⟨h, -⟩ <;> rw [h] <;> decide
    refine h.drop hinv hord hlive (fun j hj => Function.update_of_ne hj _ _) ?_ ?_
      (fun j hj => Function.update_of_ne hj _ _) (hinv.erase_transmit hq.not_transmitting).symm
      (hinv.update_erase hqueue) rfl <;> simp [Core.rework, Core.setReady, Core.setRecord]
  | @evictPromoted c g i hqueue =>
    have hst := (hinv.queues.transmit_mem i).mp hqueue
    have hlive : (c.records i).state ≠ .free := by rw [hst]; decide
    exact h.drop hinv hord hlive (fun _ _ => rfl) rfl rfl (fun _ _ => rfl) rfl
      (fun t => (hinv.erase_ready (BufferRecord.not_queued_of_transmitting hst) t).symm) rfl
  | @start c g i rest hqueue hgap =>
    have hst := (hinv.queues.transmit_mem i).mp (by rw [hqueue]; exact List.mem_cons_self)
    exact h.start hinv hst (hgap htransport)
  | @abort c g i rest hqueue =>
    have hst := (hinv.queues.transmit_mem i).mp (by rw [hqueue]; exact List.mem_cons_self)
    have hlive : (c.records i).state ≠ .free := by rw [hst]; decide
    exact h.drop hinv hord hlive (fun _ _ => rfl) rfl rfl (fun _ _ => rfl) rfl
      (fun t => (hinv.erase_ready (BufferRecord.not_queued_of_transmitting hst) t).symm) rfl
  | release hqueue hstarted => exact h.release hinv hord hqueue (hstarted htransport)

theorem Fresh.gapped {w : World} (h : Fresh w) : Gapped w where
  exact := fun s => by
    have hline : w.core.line s = [] := by
      simp [Core.line, Core.opens, h.transmitQueue, h.readyQueues, Core.isOpen, h.records]
    rw [hline, h.history, h.gapNext]
    exact exact_init
  bits := fun i hi => by simp [h.records] at hi
  lost := fun s hs => by simp [h.history] at hs
  afterLoss := fun s i hi => by simp [Core.isOpen, h.records] at hi
  near := fun s i hi => by
    simp [Core.line, Core.opens, h.transmitQueue, h.readyQueues, Core.isOpen, h.records] at hi
  started := fun i hi => by simp [h.records] at hi
  log := fun s => by rw [h.history]; rfl

/-! ### What a released frame tells -/

theorem LogExact.lt {log : List Released} : ∀ {e : ℕ}, LogExact e log → ∀ p ∈ log, p.number < e := by
  induction log with
  | nil => intro e _ p hp; cases hp
  | cons r log ih =>
    rintro e ⟨he, -, e', hlog, hle, -⟩ p hp
    rcases List.mem_cons.mp hp with rfl | hp
    · omega
    · have := ih hlog p hp
      omega

end ThingDaq
