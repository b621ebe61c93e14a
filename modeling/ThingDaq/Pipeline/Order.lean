import ThingDaq.Pipeline.Run

/-!
# The line of a stream

With at most one open fill, the frames a stream owns stand in one line: those
queued for the transport, those in the source FIFO, the one being filled.  Moves
append to the line, take frames out of it, or leave it alone.

## Main results

* `Core.line_openFill`, `Core.line_erase` — how moves change a line.
* `Ordered.move` — production numbers increase along every line.
-/

namespace ThingDaq

open Wire Table

namespace Core

variable (c : Core)

/-- Buffer `i` is open for a producer of the stream. -/
def isOpen (s : Stream) (i : ℕ) : Bool :=
  (c.records i).state = .filling && (c.records i).frameSize = 0 && (c.records i).stream = s

def opens (s : Stream) : List ℕ := (List.range kPacketBufferCount).filter (c.isOpen s)

/-- The buffers of a stream, oldest frame first. -/
def line (s : Stream) : List ℕ :=
  c.transmitQueue.filter (fun i => (c.records i).stream = s) ++ c.readyQueues s ++ c.opens s

/-- At most one fill per stream is open. -/
def Single : Prop := ∀ s i j, c.isOpen s i = true → c.isOpen s j = true → i = j

end Core

theorem Core.isOpen_iff {c : Core} {s : Stream} {i : ℕ} : c.isOpen s i = true ↔
    (c.records i).state = .filling ∧ (c.records i).frameSize = 0 ∧ (c.records i).stream = s := by
  simp [Core.isOpen, and_assoc]

section Line

variable {c c' : Core} {g : History} {s t : Stream} {i : ℕ}

theorem Core.opens_single (h : c.Single) (hi : i < 200) (hopen : c.isOpen s i = true) :
    c.opens s = [i] := by
  refine List.perm_singleton.mp ((List.perm_ext_iff_of_nodup (List.nodup_range.filter _)
    (List.nodup_singleton i)).mpr fun j => ?_)
  rw [List.mem_filter, List.mem_range, List.mem_singleton]
  constructor
  · rintro ⟨-, hj⟩
    exact h s j i hj hopen
  · rintro rfl
    exact ⟨hi, hopen⟩

theorem Core.opens_nil (h : ∀ i, c.isOpen s i = false) : c.opens s = [] := by
  unfold Core.opens
  rw [List.filter_eq_nil_iff]
  intro j _
  simp [h j]

theorem Core.noOpen_iff : c.NoOpen s ↔ ∀ i, c.isOpen s i = false := by
  unfold Core.NoOpen
  refine forall_congr' fun i => ?_
  rw [← Bool.not_eq_true, Core.isOpen_iff]

/-- In a reachable state the open fills are below the pool size. -/
theorem Reach.noOpen {R : Rules} {t : Tracked} (h : Reach R t) (hall : t.pipe.opens s = []) :
    t.pipe.NoOpen s := by
  rw [Core.noOpen_iff]
  intro i
  rw [← Bool.not_eq_true]
  intro hi
  have hlive : (t.pipe.records i).state ≠ .free := by
    rw [(Core.isOpen_iff.mp hi).1]
    decide
  have hmem : i ∈ t.pipe.opens s :=
    List.mem_filter.mpr ⟨List.mem_range.mpr ((h.good.inv.slot i).bound hlive), hi⟩
  rw [hall] at hmem
  cases hmem

theorem Inv.mem_opens (h : Inv ⟨c, g⟩) : i ∈ c.opens s ↔ c.isOpen s i = true := by
  unfold Core.opens
  rw [List.mem_filter, List.mem_range]
  refine ⟨fun hi => hi.2, fun hi => ⟨(h.slot i).bound ?_, hi⟩⟩
  rw [(Core.isOpen_iff.mp hi).1]
  decide

theorem BufferRecord.not_queued {r : BufferRecord} (hstate : r.state = .filling)
    (hsize : r.frameSize = 0) : ¬r.Queued := by
  rintro (hr | ⟨-, hr⟩)
  · rw [hstate] at hr; cases hr
  · exact hr hsize

/-- The line holds exactly the live buffers of its stream. -/
theorem Inv.mem_line (h : Inv ⟨c, g⟩) :
    i ∈ c.line s ↔ (c.records i).state ≠ .free ∧ (c.records i).stream = s := by
  have hready := h.queues.ready_mem s i
  have hsent := h.queues.transmit_mem i
  have hsized := (h.slot i).sized
  unfold Core.line
  rw [List.mem_append, List.mem_append, List.mem_filter, h.mem_opens, Core.isOpen_iff, hready, hsent]
  unfold BufferRecord.Queued
  cases hst : (c.records i).state <;> simp [hst] at hsized ⊢
  by_cases hz : (c.records i).frameSize = 0 <;> simp [hz]

theorem Inv.nodup_line (h : Inv ⟨c, g⟩) (s : Stream) : (c.line s).Nodup := by
  have hopen : (c.opens s).Nodup := List.nodup_range.filter _
  have hready := h.queues.ready_nodup s
  have hsent : (c.transmitQueue.filter fun i => (c.records i).stream = s).Nodup :=
    h.queues.transmit_nodup.filter _
  refine (hsent.append hready ?_).append hopen ?_
  · intro i hi hr
    rw [List.mem_filter, h.queues.transmit_mem] at hi
    rcases ((h.queues.ready_mem s i).mp hr).2 with hq | ⟨hq, -⟩ <;>
      exact absurd (hi.1.symm.trans hq) (by decide)
  · intro i hi ho
    obtain ⟨hst, hz, -⟩ := Core.isOpen_iff.mp (h.mem_opens.mp ho)
    rcases List.mem_append.mp hi with hm | hm
    · rw [List.mem_filter, h.queues.transmit_mem] at hm
      exact absurd (hm.1.symm.trans hst) (by decide)
    · exact BufferRecord.not_queued hst hz ((h.queues.ready_mem s i).mp hm).2

/-- The line only sees the queues, the streams of queued records and the open fills. -/
theorem Core.line_congr (hready : c'.readyQueues = c.readyQueues)
    (htransmit : c'.transmitQueue = c.transmitQueue)
    (hstream : ∀ j ∈ c.transmitQueue, (c'.records j).stream = (c.records j).stream)
    (hopen : ∀ j, c'.isOpen s j = c.isOpen s j) : c'.line s = c.line s := by
  unfold Core.line Core.opens
  rw [hready, htransmit]
  congr 1
  · congr 1
    exact List.filter_congr fun j hj => by rw [hstream j hj]
  · exact List.filter_congr fun j _ => hopen j

theorem Core.line_openFill (h : Inv ⟨c, g⟩) {l : UInt32} (hi : i < 200)
    (hfree : (c.records i).state = .free) (hopen : c.NoOpen s) :
    (c.openFill s i l).line t = if t = s then c.line t ++ [i] else c.line t := by
  have hrec : ∀ j, j ≠ i → (c.openFill s i l).records j = c.records j := fun j hj =>
    Function.update_of_ne hj _ _
  have hself : (c.openFill s i l).isOpen t i = decide (t = s) := by
    simp [Core.isOpen, Core.openFill, Core.setRecord, Core.setGapNext, eq_comm]
  have hsent : ∀ j ∈ c.transmitQueue,
      ((c.openFill s i l).records j).stream = (c.records j).stream := by
    intro j hj
    rw [hrec j]
    rintro rfl
    exact absurd (((h.queues.transmit_mem j).mp hj).symm.trans hfree) (by decide)
  have hothers : ∀ j, j ≠ i → (c.openFill s i l).isOpen t j = c.isOpen t j := fun j hj => by
    unfold Core.isOpen
    rw [hrec j hj]
  split
  · next hts =>
    subst hts
    have hnone := Core.noOpen_iff.mp hopen
    have hbefore : c.opens t = [] := Core.opens_nil hnone
    have hafter : (c.openFill t i l).opens t = [i] := by
      refine List.perm_singleton.mp ((List.perm_ext_iff_of_nodup (List.nodup_range.filter _)
        (List.nodup_singleton i)).mpr fun j => ?_)
      rw [List.mem_filter, List.mem_range, List.mem_singleton]
      by_cases hj : j = i
      · subst hj
        simp [hself, hi]
      · simp [hothers j hj, hnone j, hj]
    unfold Core.line
    rw [hbefore, hafter, List.append_nil]
    congr 2
    exact List.filter_congr fun j hj => by rw [hsent j hj]
  · next hts =>
    refine Core.line_congr rfl rfl hsent fun j => ?_
    by_cases hj : j = i
    · subst hj
      rw [hself]
      simp [Core.isOpen, hfree, hts]
    · exact hothers j hj

/-- A page that is complete keeps its place. -/
theorem Core.line_complete (h : c.Single) (hi : i < 200) (hstate : (c.records i).state = .filling)
    (hsize : (c.records i).frameSize = 0) {f : PacketFrame} {size : ℕ} {lease : UInt32}
    (hne : size ≠ 0) : (c.complete i f size lease).line t = c.line t := by
  have hself := c.complete_record i f size lease
  have hrec : ∀ j, j ≠ i → (c.complete i f size lease).records j = c.records j := fun j hj =>
    Function.update_of_ne hj _ _
  have hsent : ∀ j, ((c.complete i f size lease).records j).stream = (c.records j).stream := by
    intro j
    by_cases hj : j = i
    · rw [hj, hself]
    · rw [hrec j hj]
  have hclosed : (c.complete i f size lease).isOpen t i = false := by
    unfold Core.isOpen
    rw [hself]
    simp [hne]
  have hothers : ∀ j, j ≠ i → (c.complete i f size lease).isOpen t j = c.isOpen t j := by
    intro j hj
    unfold Core.isOpen
    rw [hrec j hj]
  by_cases ht : t = (c.records i).stream
  · have hopen : c.isOpen t i = true := Core.isOpen_iff.mpr ⟨hstate, hsize, ht.symm⟩
    have hbefore := Core.opens_single h hi hopen
    have hafter : (c.complete i f size lease).opens t = [] := by
      refine Core.opens_nil fun j => ?_
      by_cases hj : j = i
      · rw [hj]; exact hclosed
      · rw [hothers j hj, ← Bool.not_eq_true]
        exact fun ho => hj (h t j i ho hopen)
    unfold Core.line
    rw [hbefore, hafter, List.append_nil]
    have hready : (c.complete i f size lease).readyQueues t = c.readyQueues t ++ [i] := by
      rw [ht]
      exact Function.update_self _ _ _
    rw [hready, ← List.append_assoc]
    congr 2
    exact List.filter_congr fun j _ => by rw [hsent]
  · have hready : (c.complete i f size lease).readyQueues t = c.readyQueues t :=
      Function.update_of_ne ht _ _
    unfold Core.line Core.opens
    rw [hready]
    congr 1
    · congr 1
      exact List.filter_congr fun j _ => by rw [hsent]
    · refine List.filter_congr fun j _ => ?_
      by_cases hj : j = i
      · rw [hj, hclosed]
        have hts : ¬(c.records i).stream = t := fun e => ht e.symm
        simp [Core.isOpen, hts]
      · exact hothers j hj

/-- A promoted frame keeps its place. -/
theorem Core.line_promote (h : Inv ⟨c, g⟩) {rest : List ℕ} (hqueue : c.readyQueues s = i :: rest)
    (hstate : (c.records i).state = .ready) : (c.promote s i rest).line t = c.line t := by
  have hs : (c.records i).stream = s :=
    ((h.queues.ready_mem s i).mp (by rw [hqueue]; exact List.mem_cons_self)).1
  have hself : (c.promote s i rest).records i = { c.records i with state := .transmitting } :=
    Function.update_self _ _ _
  have hrec : ∀ j, j ≠ i → (c.promote s i rest).records j = c.records j := fun j hj =>
    Function.update_of_ne hj _ _
  have hsent : ∀ j, ((c.promote s i rest).records j).stream = (c.records j).stream := by
    intro j
    by_cases hj : j = i
    · rw [hj, hself]
    · rw [hrec j hj]
  have hopen : (c.promote s i rest).opens t = c.opens t := by
    refine List.filter_congr fun j _ => ?_
    unfold Core.isOpen
    by_cases hj : j = i
    · rw [hj, hself, hstate]
      simp
    · rw [hrec j hj]
  have htransmit : (c.promote s i rest).transmitQueue = c.transmitQueue ++ [i] := rfl
  unfold Core.line
  rw [hopen, htransmit]
  simp only [hsent]
  rw [List.filter_append]
  congr 1
  by_cases ht : t = s
  · subst ht
    have hready : (c.promote t i rest).readyQueues t = rest := Function.update_self _ _ _
    rw [hready, hqueue]
    simp [hs]
  · have hready : (c.promote s i rest).readyQueues t = c.readyQueues t := Function.update_of_ne ht _ _
    have hts : ¬s = t := fun e => ht e.symm
    rw [hready]
    simp [hs, hts]

/-- A buffer that becomes free leaves its line. -/
theorem Core.line_erase (h : Inv ⟨c, g⟩) (hoff : OffBy i c c') (hfree : c'.records i = {})
    (htransmit : c'.transmitQueue = c.transmitQueue.erase i)
    (hready : ∀ t, c'.readyQueues t = (c.readyQueues t).erase i) :
    c'.line t = (c.line t).erase i := by
  have hnd := h.nodup_line t
  rw [hnd.erase_eq_filter]
  unfold Core.line Core.opens
  rw [htransmit, hready, h.queues.transmit_nodup.erase_eq_filter,
    (h.queues.ready_nodup t).erase_eq_filter, List.filter_append, List.filter_append,
    List.filter_filter, List.filter_filter, List.filter_filter]
  congr 1
  · congr 1
    refine List.filter_congr fun j _ => ?_
    by_cases hj : j = i
    · simp [hj]
    · simp [hoff.stream hj, Bool.and_comm]
  · refine List.filter_congr fun j _ => ?_
    unfold Core.isOpen
    by_cases hj : j = i
    · simp [hj, hfree]
    · simp [hj, hoff.stream hj, hoff.state hj, hoff.frameSize hj]

end Line

/-! ### Numbers increase along a line -/

structure Ordered (w : World) : Prop where
  single : w.core.Single
  sequence : ∀ i, (w.core.records i).state ≠ .free →
    (w.core.records i).sequence = UInt32.ofNat (w.history.number i)
  next : ∀ s, (w.core.sourceCounters s).nextSequence = UInt32.ofNat (w.history.produced s)
  sorted : ∀ s, (w.core.line s).Pairwise fun i j => w.history.number i < w.history.number j
  below : ∀ s, ∀ i ∈ w.core.line s, w.history.number i < w.history.produced s

theorem Fresh.ordered {w : World} (h : Fresh w) : Ordered w where
  single := fun s i j hi => by simp [Core.isOpen, h.records] at hi
  sequence := fun i hi => by simp [h.records] at hi
  next := fun s => by rw [h.sourceCounters, h.history]; rfl
  sorted := fun s => by
    have : w.core.line s = [] := by
      simp [Core.line, Core.opens, h.transmitQueue, h.readyQueues, Core.isOpen, h.records]
    rw [this]
    exact List.Pairwise.nil
  below := fun s i hi => by
    simp [Core.line, Core.opens, h.transmitQueue, h.readyQueues, Core.isOpen, h.records] at hi

/-- A move that opens nothing. -/
theorem Ordered.sub {c c' : Core} {g g' : History} (h : Ordered ⟨c, g⟩)
    (hopen : ∀ s i, c'.isOpen s i = true → c.isOpen s i = true)
    (hlive : ∀ i, (c'.records i).state ≠ .free →
      (c.records i).state ≠ .free ∧ (c'.records i).sequence = (c.records i).sequence)
    (hline : ∀ s, (c'.line s).Sublist (c.line s)) (hnumber : g'.number = g.number)
    (hproduced : ∀ s, g.produced s ≤ g'.produced s)
    (hnext : ∀ s, (c'.sourceCounters s).nextSequence = UInt32.ofNat (g'.produced s)) :
    Ordered ⟨c', g'⟩ where
  single := fun s i j hi hj => h.single s i j (hopen s i hi) (hopen s j hj)
  sequence := fun i hi => by
    obtain ⟨hl, hs⟩ := hlive i hi
    show (c'.records i).sequence = UInt32.ofNat (g'.number i)
    rw [hs, hnumber]
    exact h.sequence i hl
  next := hnext
  sorted := fun s => by
    show (c'.line s).Pairwise fun i j => g'.number i < g'.number j
    rw [hnumber]
    exact (h.sorted s).sublist (hline s)
  below := fun s i hi => by
    show g'.number i < g'.produced s
    rw [hnumber]
    exact Nat.lt_of_lt_of_le (h.below s i ((hline s).subset hi)) (hproduced s)

section Moves

variable {c c' : Core} {g : History} {s : Stream} {i : ℕ}

/-- A move after which every record still says where its frame stands. -/
theorem Ordered.same (h : Ordered ⟨c, g⟩) {g' : History}
    (hrec : ∀ j, (c'.records j).state = .free ∧ (c.records j).state = .free ∨
      (c'.records j).state ≠ .free ∧ (c.records j).state ≠ .free ∧
        (c'.records j).sequence = (c.records j).sequence)
    (hopen : ∀ s j, c'.isOpen s j = true → c.isOpen s j = true)
    (hline : ∀ s, c'.line s = c.line s) (hnumber : g'.number = g.number)
    (hproduced : g'.produced = g.produced)
    (hnext : ∀ s, (c'.sourceCounters s).nextSequence = (c.sourceCounters s).nextSequence) :
    Ordered ⟨c', g'⟩ := by
  refine h.sub hopen (fun j hj => ?_) (fun s => by rw [hline]) hnumber (fun s => by rw [hproduced])
    fun s => by rw [hnext, hproduced]; exact h.next s
  rcases hrec j with ⟨hf, -⟩ | ⟨-, hl, hs⟩
  · exact absurd hf hj
  · exact ⟨hl, hs⟩

/-- A buffer that becomes free. -/
theorem Ordered.erase (h : Ordered ⟨c, g⟩) (hinv : Inv ⟨c, g⟩) {g' : History} (hoff : OffBy i c c')
    (hfree : c'.records i = {}) (htransmit : c'.transmitQueue = c.transmitQueue.erase i)
    (hready : ∀ t, c'.readyQueues t = (c.readyQueues t).erase i) (hnumber : g'.number = g.number)
    (hproduced : g'.produced = g.produced)
    (hnext : ∀ s, (c'.sourceCounters s).nextSequence = (c.sourceCounters s).nextSequence) :
    Ordered ⟨c', g'⟩ := by
  refine h.sub (fun s j hj => ?_) (fun j hj => ?_) (fun s => ?_) hnumber
    (fun s => by rw [hproduced]) fun s => by rw [hnext, hproduced]; exact h.next s
  · by_cases hji : j = i
    · subst hji
      simp [Core.isOpen, hfree] at hj
    · rw [Core.isOpen_iff, hoff.state hji, hoff.frameSize hji, hoff.stream hji] at hj
      exact Core.isOpen_iff.mpr hj
  · by_cases hji : j = i
    · subst hji
      rw [hfree] at hj
      exact absurd rfl hj
    · refine ⟨by rw [← hoff.state hji]; exact hj, ?_⟩
      obtain ⟨b, hb⟩ := hoff j hji
      rw [hb]
  · rw [Core.line_erase hinv hoff hfree htransmit hready]
    exact List.erase_sublist

theorem Ordered.openFill (h : Ordered ⟨c, g⟩) (hinv : Inv ⟨c, g⟩) {lease : UInt32} (hi : i < 200)
    (hfree : (c.records i).state = .free) (hnone : c.NoOpen s) :
    Ordered ⟨c.openFill s i lease, g.openFill s i⟩ := by
  have hrec : ∀ j, j ≠ i → (c.openFill s i lease).records j = c.records j := fun j hj =>
    Function.update_of_ne hj _ _
  have hself : ∀ t, (c.openFill s i lease).isOpen t i = decide (t = s) := fun t => by
    simp [Core.isOpen, Core.openFill, Core.setRecord, Core.setGapNext, eq_comm]
  have hother : ∀ t j, j ≠ i → (c.openFill s i lease).isOpen t j = c.isOpen t j := fun t j hj => by
    unfold Core.isOpen
    rw [hrec j hj]
  have hline := fun t => Core.line_openFill (t := t) (l := lease) hinv hi hfree hnone
  have hnot : ∀ t, i ∉ c.line t := fun t hm => (hinv.mem_line.mp hm).1 hfree
  have hnumber : ∀ t, ∀ j ∈ c.line t, (g.openFill s i).number j = g.number j := fun t j hj =>
    Function.update_of_ne (fun e => hnot t (by rwa [e] at hj)) _ _
  have hnew : (g.openFill s i).number i = g.produced s := Function.update_self _ _ _
  have hold : ∀ t, g.produced t ≤ (g.openFill s i).produced t := by
    intro t
    by_cases ht : t = s
    · subst ht
      simp [History.openFill]
    · simp [History.openFill, Function.update_of_ne ht]
  refine ⟨?_, ?_, ?_, ?_, ?_⟩
  · intro t j k hj hk
    have hnotOpen := Core.noOpen_iff.mp hnone
    by_cases hji : j = i
    · by_cases hki : k = i
      · rw [hji, hki]
      · rw [hji, hself, decide_eq_true_eq] at hj
        rw [hother t k hki, hj, hnotOpen k] at hk
        cases hk
    · rw [hother t j hji] at hj
      by_cases hki : k = i
      · rw [hki, hself, decide_eq_true_eq] at hk
        rw [hk, hnotOpen j] at hj
        cases hj
      · rw [hother t k hki] at hk
        exact h.single t j k hj hk
  · intro j hj
    by_cases hji : j = i
    · subst hji
      show ((c.openFill s j lease).records j).sequence = UInt32.ofNat ((g.openFill s j).number j)
      rw [hnew, ← h.next s]
      simp [Core.openFill, Core.setRecord, Core.setGapNext]
    · show ((c.openFill s i lease).records j).sequence = UInt32.ofNat ((g.openFill s i).number j)
      have hn : (g.openFill s i).number j = g.number j := Function.update_of_ne hji _ _
      rw [hn, hrec j hji]
      refine h.sequence j ?_
      have hj' : ((c.openFill s i lease).records j).state ≠ .free := hj
      rwa [hrec j hji] at hj'
  · intro t
    by_cases ht : t = s
    · subst ht
      have hnext := h.next t
      simp only [Core.openFill, Core.setRecord, Core.setGapNext, Core.setCounters,
        History.openFill, Function.update_self] at hnext ⊢
      rw [hnext, UInt32.ofNat_add]
      rfl
    · simp only [Core.openFill, Core.setRecord, Core.setGapNext, Core.setCounters,
        History.openFill, Function.update_of_ne ht]
      exact h.next t
  · intro t
    show ((c.openFill s i lease).line t).Pairwise fun j k =>
      (g.openFill s i).number j < (g.openFill s i).number k
    have hkeep : (c.line t).Pairwise fun j k =>
        (g.openFill s i).number j < (g.openFill s i).number k :=
      (h.sorted t).imp_of_mem fun hj hk hlt => by rwa [hnumber t _ hj, hnumber t _ hk]
    rw [hline]
    split
    · next ht =>
      rw [List.pairwise_append]
      refine ⟨hkeep, List.pairwise_singleton _ _, fun j hj k hk => ?_⟩
      rw [List.mem_singleton.mp hk, hnew, hnumber t j hj, ← ht]
      exact h.below t j hj
    · exact hkeep
  · intro t j hj
    show (g.openFill s i).number j < (g.openFill s i).produced t
    have hj' : j ∈ (c.openFill s i lease).line t := hj
    rw [hline] at hj'
    split at hj'
    · next ht =>
      rcases List.mem_append.mp hj' with hm | hm
      · rw [hnumber t j hm]
        exact Nat.lt_of_lt_of_le (h.below t j hm) (hold t)
      · rw [List.mem_singleton.mp hm, hnew, ht]
        simp [History.openFill]
    · rw [hnumber t j hj']
      exact Nat.lt_of_lt_of_le (h.below t j hj') (hold t)

theorem Ordered.lose (h : Ordered ⟨c, g⟩) {n : ℕ} {atSource : Bool} :
    Ordered ⟨c.lose s n, g.lose s n atSource⟩ := by
  refine h.sub (fun _ _ hj => hj) (fun j hj => ⟨hj, rfl⟩) (fun _ => List.Sublist.refl _) rfl
    (fun t => ?_) fun t => ?_ <;> by_cases ht : t = s
  · subst ht
    simp [History.lose]
  · simp [History.lose, Function.update_of_ne ht]
  · subst ht
    have hnext := h.next t
    simp only [Core.lose, Core.setGapNext, Core.setCounters, History.lose,
      Function.update_self] at hnext ⊢
    rw [hnext, UInt32.ofNat_add]
  · simp only [Core.lose, Core.setGapNext, Core.setCounters, History.lose,
      Function.update_of_ne ht]
    exact h.next t

theorem Ordered.complete (h : Ordered ⟨c, g⟩) {f : PacketFrame} {size : ℕ} {l : UInt32}
    {o : Origin} (hi : i < 200) (hstate : (c.records i).state = .filling)
    (hsize : (c.records i).frameSize = 0) (hne : size ≠ 0) :
    Ordered ⟨c.complete i f size l, g.complete i o⟩ := by
  have hself := c.complete_record i f size l
  have hrec : ∀ j, j ≠ i → (c.complete i f size l).records j = c.records j := fun j hj =>
    Function.update_of_ne hj _ _
  refine h.same (fun j => ?_) (fun t j hj => ?_)
    (fun t => Core.line_complete h.single hi hstate hsize hne) rfl rfl fun _ => rfl
  · by_cases hj : j = i
    · rw [hj, hself, hstate]
      exact Or.inr ⟨by decide, by decide, rfl⟩
    · rw [hrec j hj]
      by_cases hf : (c.records j).state = .free
      · exact Or.inl ⟨hf, hf⟩
      · exact Or.inr ⟨hf, hf, rfl⟩
  · by_cases hji : j = i
    · rw [Core.isOpen_iff, hji, hself] at hj
      exact absurd hj.2.1 hne
    · rw [Core.isOpen_iff, hrec j hji] at hj
      exact Core.isOpen_iff.mpr hj

/-- A move that only changes the state of one complete record. -/
theorem Ordered.advance (h : Ordered ⟨c, g⟩) (hother : ∀ j, j ≠ i → c'.records j = c.records j)
    (hbefore : (c.records i).state ≠ .free) (hafter : (c'.records i).state ≠ .free)
    (hsequence : (c'.records i).sequence = (c.records i).sequence)
    (hclosed : ∀ t, c'.isOpen t i = true → c.isOpen t i = true)
    (hline : ∀ t, c'.line t = c.line t)
    (hnext : ∀ s, (c'.sourceCounters s).nextSequence = (c.sourceCounters s).nextSequence) :
    Ordered ⟨c', g⟩ := by
  refine h.same (fun j => ?_) (fun t j hj => ?_) hline rfl rfl hnext
  · by_cases hj : j = i
    · rw [hj]
      exact Or.inr ⟨hafter, hbefore, hsequence⟩
    · rw [hother j hj]
      by_cases hf : (c.records j).state = .free
      · exact Or.inl ⟨hf, hf⟩
      · exact Or.inr ⟨hf, hf, rfl⟩
  · by_cases hji : j = i
    · rw [hji] at hj ⊢
      exact hclosed t hj
    · rw [Core.isOpen_iff, hother j hji] at hj
      exact Core.isOpen_iff.mpr hj

theorem Core.line_publish (hinv : Inv ⟨c, g⟩) (hstate : (c.records i).state = .filling)
    (hdone : (c.records i).frameSize ≠ 0) {f : PacketFrame} {size : ℕ} (t : Stream) :
    ((c.rework i f size).publish i).line t = c.line t := by
  have hother : ∀ j, j ≠ i → ((c.rework i f size).publish i).records j = c.records j := by
    intro j hj
    simp [Core.publish, Core.rework, Core.setRecord, Core.setCounters, Core.setFrame,
      Function.update_of_ne hj]
  refine Core.line_congr rfl rfl (fun j hj => ?_) fun j => ?_
  · rw [hother j]
    rintro rfl
    exact absurd (((hinv.queues.transmit_mem j).mp hj).symm.trans hstate) (by decide)
  · unfold Core.isOpen
    by_cases hj : j = i
    · subst hj
      simp [Core.publish, Core.setRecord, Core.setCounters, hdone]
    · rw [hother j hj]

theorem Core.publish_nextSequence (i : ℕ) (t : Stream) :
    ((c.publish i).sourceCounters t).nextSequence = (c.sourceCounters t).nextSequence := by
  by_cases ht : t = (c.records i).stream
  · subst ht
    simp [Core.publish, Core.setCounters, Core.setRecord]
  · simp [Core.publish, Core.setCounters, Core.setRecord, Function.update_of_ne ht]

theorem Ordered.publish (h : Ordered ⟨c, g⟩) (hinv : Inv ⟨c, g⟩) {f : PacketFrame} {n : ℕ}
    (hstate : (c.records i).state = .filling) (hdone : (c.records i).frameSize ≠ 0) :
    Ordered ⟨(c.rework i f n).publish i, g⟩ := by
  refine h.advance (i := i) (fun j hj => ?_) (by rw [hstate]; decide) ?_ ?_ (fun t ht => ?_)
    (Core.line_publish hinv hstate hdone) fun t => Core.publish_nextSequence i t
  · simp [Core.publish, Core.rework, Core.setRecord, Core.setCounters, Core.setFrame,
      Function.update_of_ne hj]
  · simp [Core.publish, Core.setRecord, Core.setCounters]
  · simp [Core.publish, Core.rework, Core.setRecord, Core.setCounters, Core.setFrame]
  · simp [Core.isOpen, Core.publish, Core.setRecord, Core.setCounters] at ht

theorem Ordered.promote (h : Ordered ⟨c, g⟩) (hinv : Inv ⟨c, g⟩) {rest : List ℕ}
    (hqueue : c.readyQueues s = i :: rest) (hstate : (c.records i).state = .ready) :
    Ordered ⟨c.promote s i rest, g⟩ := by
  refine h.advance (i := i) (fun j hj => Function.update_of_ne hj _ _) (by rw [hstate]; decide) ?_ ?_
    (fun t ht => ?_) (fun t => Core.line_promote hinv hqueue hstate) fun t => ?_
  · simp [Core.promote, Core.setRecord, Core.setDepth, Core.setCounters]
  · simp [Core.promote, Core.setRecord, Core.setDepth, Core.setCounters]
  · simp [Core.isOpen, Core.promote, Core.setRecord, Core.setDepth, Core.setCounters] at ht
  · by_cases ht : t = s
    · subst ht
      simp [Core.promote, Core.setCounters]
    · exact congrArg SourceCounters.nextSequence (Function.update_of_ne ht _ _)

/-- A record that changes neither its place nor its number. -/
theorem Ordered.touch (h : Ordered ⟨c, g⟩) {r : BufferRecord} (hrec : c'.records = Function.update
      c.records i r) (hstate : r.state = (c.records i).state)
    (hstream : r.stream = (c.records i).stream) (hsize : r.frameSize = (c.records i).frameSize)
    (hsequence : r.sequence = (c.records i).sequence) (hready : c'.readyQueues = c.readyQueues)
    (htransmit : c'.transmitQueue = c.transmitQueue)
    (hcounters : c'.sourceCounters = c.sourceCounters) : Ordered ⟨c', g⟩ := by
  have hopen : ∀ t j, c'.isOpen t j = c.isOpen t j := by
    intro t j
    unfold Core.isOpen
    rw [hrec]
    by_cases hj : j = i
    · subst hj
      rw [Function.update_self, hstate, hstream, hsize]
    · rw [Function.update_of_ne hj]
  refine h.same (fun j => ?_) (fun t j hj => by rwa [hopen] at hj) (fun t => ?_) rfl rfl
    fun t => by rw [hcounters]
  · rw [hrec]
    by_cases hj : j = i
    · subst hj
      rw [Function.update_self, hstate, hsequence]
      by_cases hf : (c.records j).state = .free
      · exact Or.inl ⟨hf, hf⟩
      · exact Or.inr ⟨hf, hf, rfl⟩
    · rw [Function.update_of_ne hj]
      by_cases hf : (c.records j).state = .free
      · exact Or.inl ⟨hf, hf⟩
      · exact Or.inr ⟨hf, hf, rfl⟩
  · refine Core.line_congr hready htransmit (fun j _ => ?_) (hopen t)
    rw [hrec]
    by_cases hj : j = i
    · subst hj
      rw [Function.update_self, hstream]
    · rw [Function.update_of_ne hj]

/-- Every drop, from wherever the buffer was. -/
theorem Ordered.drop (h : Ordered ⟨c, g⟩) (hinv : Inv ⟨c, g⟩) {c₁ : Core} {evict : Bool}
    (hrec : ∀ j, j ≠ i → c₁.records j = c.records j)
    (htransmit : c₁.transmitQueue = c.transmitQueue.erase i)
    (hready : ∀ t, c₁.readyQueues t = (c.readyQueues t).erase i)
    (hnext : ∀ s, (c₁.sourceCounters s).nextSequence = (c.sourceCounters s).nextSequence) :
    Ordered ⟨c₁.drop i evict, g⟩ := by
  obtain ⟨-, hr, ht, -⟩ := c₁.drop_other i evict
  refine h.erase hinv (i := i) (fun j hj => ?_) (c₁.drop_record_self i evict) (by rw [ht, htransmit])
    (fun t => by rw [hr, hready]) rfl rfl fun t => ?_
  · exact ⟨_, by rw [c₁.drop_record_ne evict hj, hrec j hj]⟩
  · rw [Core.drop_nextSequence, hnext]

end Moves

/-! ### Who is not in a queue -/

theorem Inv.erase_ready {c : Core} {g : History} {i : ℕ} (h : Inv ⟨c, g⟩)
    (hi : ¬(c.records i).Queued) (t : Stream) : (c.readyQueues t).erase i = c.readyQueues t :=
  List.erase_of_not_mem fun hm => hi ((h.queues.ready_mem t i).mp hm).2

theorem Inv.erase_transmit {c : Core} {g : History} {i : ℕ} (h : Inv ⟨c, g⟩)
    (hi : (c.records i).state ≠ .transmitting) : c.transmitQueue.erase i = c.transmitQueue :=
  List.erase_of_not_mem fun hm => hi ((h.queues.transmit_mem i).mp hm)

/-- Taking a buffer out of its source FIFO is erasing it from all of them. -/
theorem Inv.update_erase {c : Core} {g : History} {s : Stream} {i : ℕ} (h : Inv ⟨c, g⟩)
    (hqueue : i ∈ c.readyQueues s) (t : Stream) :
    Function.update c.readyQueues s ((c.readyQueues s).erase i) t = (c.readyQueues t).erase i := by
  by_cases ht : t = s
  · subst ht
    rw [Function.update_self]
  · rw [Function.update_of_ne ht, List.erase_of_not_mem]
    intro hm
    exact ht (((h.queues.ready_mem t i).mp hm).1.symm.trans ((h.queues.ready_mem s i).mp hqueue).1)

theorem BufferRecord.Queued.not_transmitting {r : BufferRecord} (h : r.Queued) :
    r.state ≠ .transmitting := by
  rcases h with h | ⟨h, -⟩ <;> rw [h] <;> decide

theorem BufferRecord.not_queued_of_transmitting {r : BufferRecord} (h : r.state = .transmitting) :
    ¬r.Queued := fun hq => hq.not_transmitting h

theorem Ordered.move {R : Rules} {w w' : World} (hone : R.oneOpen = true) (hinv : Inv w)
    (h : Ordered w) (hmove : Move R w w') : Ordered w' := by
  cases hmove with
  | openFill hi hfree hnone => exact h.openFill hinv hi hfree (hnone hone)
  | lose => exact h.lose
  | scribble => exact h.touch (Function.update_eq_self 0 _).symm rfl rfl rfl rfl rfl rfl rfl
  | complete hi hstate hsize hne => exact h.complete hi hstate hsize hne
  | @finish c g i f size lease o requested hi hstate hsize hne hframed =>
    have hdone := Ordered.publish (h.complete (f := f) (l := lease) (o := o) hi hstate hsize hne)
      (hinv.complete hstate hsize hne hframed) (i := i)
      (f := (c.complete i f size lease).frames i)
      (n := ((c.complete i f size lease).records i).frameSize)
      (by rw [Core.complete_record]; exact hstate) (by rw [Core.complete_record]; exact hne)
    rwa [Core.rework_self] at hdone
  | publish _ hstate hdone => exact h.publish hinv hstate hdone
  | flush => exact h.touch rfl rfl rfl rfl rfl rfl rfl rfl
  | promote hqueue hstate => exact h.promote hinv hqueue hstate
  | @dropOpen c g i _ hstate hsize =>
    refine h.drop hinv (fun _ _ => rfl) (hinv.erase_transmit ?_).symm
      (fun t => (hinv.erase_ready (BufferRecord.not_queued hstate hsize) t).symm) fun _ => rfl
    show (c.records i).state ≠ .transmitting
    rw [hstate]
    decide
  | @dropQueued c g s i f size evict hqueue =>
    refine h.drop hinv (fun j hj => Function.update_of_ne hj _ _) ?_ (hinv.update_erase hqueue)
      fun _ => rfl
    exact (hinv.erase_transmit ((hinv.queues.ready_mem s i).mp hqueue).2.not_transmitting).symm
  | @evictPromoted c g i hqueue =>
    have hst := (hinv.queues.transmit_mem i).mp hqueue
    refine h.drop hinv (fun _ _ => rfl) rfl
      (fun t => (hinv.erase_ready (BufferRecord.not_queued_of_transmitting hst) t).symm) fun t => ?_
    by_cases ht : t = (c.records i).stream
    · subst ht
      simp [Core.countEvictedAfterPromotion, Core.setCounters, Core.unqueue, Core.setDepth,
        Core.setTransmit]
    · exact congrArg SourceCounters.nextSequence (Function.update_of_ne ht _ _)
  | start => exact h.touch rfl rfl rfl rfl rfl rfl rfl rfl
  | @abort c g i rest hqueue =>
    have hst := (hinv.queues.transmit_mem i).mp (by rw [hqueue]; exact List.mem_cons_self)
    exact h.drop hinv (fun _ _ => rfl) rfl
      (fun t => (hinv.erase_ready (BufferRecord.not_queued_of_transmitting hst) t).symm) fun _ => rfl
  | @release c g i rest hqueue =>
    have hst := (hinv.queues.transmit_mem i).mp (by rw [hqueue]; exact List.mem_cons_self)
    refine h.erase hinv (i := i) (fun j hj => ⟨_, Function.update_of_ne hj _ _⟩)
      (Function.update_self _ _ _) rfl
      (fun t => (hinv.erase_ready (BufferRecord.not_queued_of_transmitting hst) t).symm) rfl rfl
      fun t => ?_
    by_cases ht : t = (c.records i).stream
    · subst ht
      simp [Core.release, Core.setCounters, Core.setRecord]
    · exact congrArg SourceCounters.nextSequence (Function.update_of_ne ht _ _)

end ThingDaq
