import ThingDaq.Pipeline.Run

/-!
# Conservation of frames

Every produced frame of a stream is dropped, transmitted or still in a buffer,
and the later stages balance in the same way.  A move changes one record and adds
to the counters of one stream; `Books.update` checks that the two agree.

## Main results

* `Books.move` — every move keeps the books.
* `conservation` — so does every run.
-/

namespace ThingDaq

open Wire Table

/-- None of the frame and item counters reached its maximum. -/
structure SourceCounters.Unsaturated (k : SourceCounters) : Prop where
  framesProduced : k.framesProduced < u64Max
  itemsProduced : k.itemsProduced < u64Max
  framesFramed : k.framesFramed < u64Max
  itemsFramed : k.itemsFramed < u64Max
  framesEmitted : k.framesEmitted < u64Max
  itemsEmitted : k.itemsEmitted < u64Max
  framesTransmitted : k.framesTransmitted < u64Max
  itemsTransmitted : k.itemsTransmitted < u64Max
  framesDropped : k.framesDropped < u64Max
  itemsDropped : k.itemsDropped < u64Max
  framesEvicted : k.framesEvicted < u64Max
  itemsEvicted : k.itemsEvicted < u64Max
  framesDroppedAfterFraming : k.framesDroppedAfterFraming < u64Max
  framesDroppedAfterPromotion : k.framesDroppedAfterPromotion < u64Max

/-- The buffers of a stream in one of the given states. -/
def Core.holding (c : Core) (s : Stream) (states : BufferState → Bool) : ℕ :=
  countTo kPacketBufferCount fun i => (c.records i).stream = s && states (c.records i).state

def Core.owned (c : Core) (s : Stream) : ℕ := c.holding s (· ≠ .free)

def Core.ready (c : Core) (s : Stream) : ℕ := c.holding s (· = .ready)

def Core.transmitting (c : Core) (s : Stream) : ℕ := c.holding s (· = .transmitting)

/-- The balance of one stream. -/
structure Conserved (c : Core) (s : Stream) : Prop where
  produced : (c.sourceCounters s).framesProduced =
    (c.sourceCounters s).framesDropped + (c.sourceCounters s).framesTransmitted + c.owned s
  framed : (c.sourceCounters s).framesFramed =
    (c.sourceCounters s).framesDroppedAfterFraming + (c.sourceCounters s).framesTransmitted +
      c.ready s + c.transmitting s
  emitted : (c.sourceCounters s).framesEmitted =
    (c.sourceCounters s).framesDroppedAfterPromotion + (c.sourceCounters s).framesTransmitted +
      c.transmitting s
  itemsProduced : (c.sourceCounters s).itemsProduced =
    (c.sourceCounters s).framesProduced * (c.setup.stream s).itemCount
  itemsFramed : (c.sourceCounters s).itemsFramed =
    (c.sourceCounters s).framesFramed * (c.setup.stream s).itemCount
  itemsEmitted : (c.sourceCounters s).itemsEmitted =
    (c.sourceCounters s).framesEmitted * (c.setup.stream s).itemCount
  itemsTransmitted : (c.sourceCounters s).itemsTransmitted =
    (c.sourceCounters s).framesTransmitted * (c.setup.stream s).itemCount
  itemsDropped : (c.sourceCounters s).itemsDropped =
    (c.sourceCounters s).framesDropped * (c.setup.stream s).itemCount
  itemsEvicted : (c.sourceCounters s).itemsEvicted =
    (c.sourceCounters s).framesEvicted * (c.setup.stream s).itemCount

/-! ### What a move adds to the counters -/

/-- A counter that ends below its maximum grew by `a`. -/
def Grows (v v' a : ℕ) : Prop := v' < u64Max → v < u64Max ∧ v' = v + a

theorem Grows.same (v : ℕ) : Grows v v 0 := fun h => ⟨h, rfl⟩

theorem Grows.sat64 (v a : ℕ) : Grows v (sat64 v a) a := by
  intro h
  have heq := satAdd_eq h
  unfold ThingDaq.sat64 at h ⊢
  omega

theorem Grows.satMul (v a b : ℕ) : Grows v (ThingDaq.sat64 v (Table.satMul u64Max a b)) (a * b) := by
  intro h
  have heq := satAdd_eq h
  unfold ThingDaq.sat64 at h ⊢
  have hmul : Table.satMul u64Max a b = a * b := satMul_eq (by omega)
  omega

/-- Frames added to each counter; items follow. -/
structure Delta where
  produced : ℕ := 0
  framed : ℕ := 0
  emitted : ℕ := 0
  transmitted : ℕ := 0
  dropped : ℕ := 0
  evicted : ℕ := 0
  afterFraming : ℕ := 0
  afterPromotion : ℕ := 0

structure Adds (items : ℕ) (k k' : SourceCounters) (d : Delta) : Prop where
  framesProduced : Grows k.framesProduced k'.framesProduced d.produced
  itemsProduced : Grows k.itemsProduced k'.itemsProduced (d.produced * items)
  framesFramed : Grows k.framesFramed k'.framesFramed d.framed
  itemsFramed : Grows k.itemsFramed k'.itemsFramed (d.framed * items)
  framesEmitted : Grows k.framesEmitted k'.framesEmitted d.emitted
  itemsEmitted : Grows k.itemsEmitted k'.itemsEmitted (d.emitted * items)
  framesTransmitted : Grows k.framesTransmitted k'.framesTransmitted d.transmitted
  itemsTransmitted : Grows k.itemsTransmitted k'.itemsTransmitted (d.transmitted * items)
  framesDropped : Grows k.framesDropped k'.framesDropped d.dropped
  itemsDropped : Grows k.itemsDropped k'.itemsDropped (d.dropped * items)
  framesEvicted : Grows k.framesEvicted k'.framesEvicted d.evicted
  itemsEvicted : Grows k.itemsEvicted k'.itemsEvicted (d.evicted * items)
  afterFraming : Grows k.framesDroppedAfterFraming k'.framesDroppedAfterFraming d.afterFraming
  afterPromotion :
    Grows k.framesDroppedAfterPromotion k'.framesDroppedAfterPromotion d.afterPromotion

section Adds

variable {items : ℕ} {k k' : SourceCounters} {d : Delta}

theorem Adds.unsaturated (h : Adds items k k' d) (hk : k'.Unsaturated) : k.Unsaturated where
  framesProduced := (h.framesProduced hk.framesProduced).1
  itemsProduced := (h.itemsProduced hk.itemsProduced).1
  framesFramed := (h.framesFramed hk.framesFramed).1
  itemsFramed := (h.itemsFramed hk.itemsFramed).1
  framesEmitted := (h.framesEmitted hk.framesEmitted).1
  itemsEmitted := (h.itemsEmitted hk.itemsEmitted).1
  framesTransmitted := (h.framesTransmitted hk.framesTransmitted).1
  itemsTransmitted := (h.itemsTransmitted hk.itemsTransmitted).1
  framesDropped := (h.framesDropped hk.framesDropped).1
  itemsDropped := (h.itemsDropped hk.itemsDropped).1
  framesEvicted := (h.framesEvicted hk.framesEvicted).1
  itemsEvicted := (h.itemsEvicted hk.itemsEvicted).1
  framesDroppedAfterFraming := (h.afterFraming hk.framesDroppedAfterFraming).1
  framesDroppedAfterPromotion := (h.afterPromotion hk.framesDroppedAfterPromotion).1

theorem Adds.refl (items : ℕ) (k : SourceCounters) : Adds items k k {} := by
  constructor <;> simpa using Grows.same _

end Adds

/-! ### The books -/

/-- Every stream whose counters are below their maxima balances. -/
def Books (c : Core) : Prop := ∀ s, (c.sourceCounters s).Unsaturated → Conserved c s

/-- One for a record of the stream in one of the states. -/
def BufferRecord.holds (r : BufferRecord) (s : Stream) (states : BufferState → Bool) : ℕ :=
  if r.stream = s && states r.state then 1 else 0

theorem OffBy.holding {c c' : Core} {i : ℕ} (h : OffBy i c c') (hi : i < 200) (s : Stream)
    (states : BufferState → Bool) : c'.holding s states + (c.records i).holds s states =
      c.holding s states + (c'.records i).holds s states := by
  refine countTo_update (P := fun j => (c'.records j).stream = s && states (c'.records j).state)
    (Q := fun j => (c.records j).stream = s && states (c.records j).state) hi fun j _ hj => ?_
  simp only [h.stream hj, h.state hj]

/-- What the counters gained agrees with where the record went. -/
structure Balanced (r r' : BufferRecord) (s : Stream) (d : Delta) : Prop where
  owned : d.produced + r.holds s (· ≠ .free) =
    d.dropped + d.transmitted + r'.holds s (· ≠ .free)
  framed : d.framed + r.holds s (· = .ready) + r.holds s (· = .transmitting) =
    d.afterFraming + d.transmitted + r'.holds s (· = .ready) + r'.holds s (· = .transmitting)
  emitted : d.emitted + r.holds s (· = .transmitting) =
    d.afterPromotion + d.transmitted + r'.holds s (· = .transmitting)

theorem Books.update {c c' : Core} {i : ℕ} (h : Books c) (hsetup : c'.setup = c.setup) (hi : i < 200)
    (hoff : OffBy i c c') (d : Stream → Delta)
    (hadds : ∀ s, Adds (c.setup.stream s).itemCount (c.sourceCounters s) (c'.sourceCounters s) (d s))
    (hbalanced : ∀ s, Balanced (c.records i) (c'.records i) s (d s)) : Books c' := by
  intro s hsat
  have ha := hadds s
  have hb := hbalanced s
  have hc := h s (ha.unsaturated hsat)
  have howned := hoff.holding hi s (· ≠ .free)
  have hready := hoff.holding hi s (· = .ready)
  have hsent := hoff.holding hi s (· = .transmitting)
  have h1 := (ha.framesProduced hsat.framesProduced).2
  have h2 := (ha.framesFramed hsat.framesFramed).2
  have h3 := (ha.framesEmitted hsat.framesEmitted).2
  have h4 := (ha.framesTransmitted hsat.framesTransmitted).2
  have h5 := (ha.framesDropped hsat.framesDropped).2
  have h6 := (ha.framesEvicted hsat.framesEvicted).2
  have h7 := (ha.afterFraming hsat.framesDroppedAfterFraming).2
  have h8 := (ha.afterPromotion hsat.framesDroppedAfterPromotion).2
  have b1 := hb.owned
  have b2 := hb.framed
  have b3 := hb.emitted
  have c1 := hc.produced
  have c2 := hc.framed
  have c3 := hc.emitted
  unfold Core.owned at c1
  unfold Core.ready Core.transmitting at c2
  unfold Core.transmitting at c3
  exact
    { produced := by unfold Core.owned; omega
      framed := by unfold Core.ready Core.transmitting; omega
      emitted := by unfold Core.transmitting; omega
      itemsProduced := by
        rw [hsetup, (ha.itemsProduced hsat.itemsProduced).2, h1, hc.itemsProduced, Nat.add_mul]
      itemsFramed := by
        rw [hsetup, (ha.itemsFramed hsat.itemsFramed).2, h2, hc.itemsFramed, Nat.add_mul]
      itemsEmitted := by
        rw [hsetup, (ha.itemsEmitted hsat.itemsEmitted).2, h3, hc.itemsEmitted, Nat.add_mul]
      itemsTransmitted := by
        rw [hsetup, (ha.itemsTransmitted hsat.itemsTransmitted).2, h4, hc.itemsTransmitted,
          Nat.add_mul]
      itemsDropped := by
        rw [hsetup, (ha.itemsDropped hsat.itemsDropped).2, h5, hc.itemsDropped, Nat.add_mul]
      itemsEvicted := by
        rw [hsetup, (ha.itemsEvicted hsat.itemsEvicted).2, h6, hc.itemsEvicted, Nat.add_mul] }

/-- A move that concerns one stream. -/
theorem Books.change {c c' : Core} {i : ℕ} {s : Stream} {k : SourceCounters} (h : Books c)
    (hsetup : c'.setup = c.setup) (hi : i < 200) (hoff : OffBy i c c') (d : Delta)
    (hcounters : c'.sourceCounters = Function.update c.sourceCounters s k)
    (hadds : Adds (c.setup.stream s).itemCount (c.sourceCounters s) k d)
    (hbefore : (c.records i).state = .free ∨ (c.records i).stream = s)
    (hafter : (c'.records i).state = .free ∨ (c'.records i).stream = s)
    (hbalanced : Balanced (c.records i) (c'.records i) s d) : Books c' := by
  refine h.update hsetup hi hoff (Function.update (fun _ => {}) s d) (fun t => ?_) fun t => ?_
  · rw [hcounters]
    by_cases ht : t = s
    · subst ht
      rw [Function.update_self, Function.update_self]
      exact hadds
    · rw [Function.update_of_ne ht, Function.update_of_ne ht]
      exact Adds.refl _ _
  · by_cases ht : t = s
    · subst ht
      rw [Function.update_self]
      exact hbalanced
    · rw [Function.update_of_ne ht]
      have hst : ¬s = t := fun e => ht e.symm
      -- a free record and a record of another stream are held by no one here
      have hnone : ∀ r : BufferRecord, r.state = .free ∨ r.stream = s →
          r.holds t (· ≠ .free) = 0 ∧ r.holds t (· = .ready) = 0 ∧
            r.holds t (· = .transmitting) = 0 := by
        rintro r (hr | hr) <;> simp [BufferRecord.holds, hr, hst]
      obtain ⟨b1, b2, b3⟩ := hnone _ hbefore
      obtain ⟨a1, a2, a3⟩ := hnone _ hafter
      exact ⟨by rw [a1, b1]; rfl, by rw [a2, b2, a3, b3]; rfl, by rw [a3, b3]; rfl⟩

/-- A move that no counter and no state shows. -/
theorem Books.quiet {c c' : Core} (h : Books c) (hsetup : c'.setup = c.setup)
    (hstream : ∀ j, (c'.records j).stream = (c.records j).stream)
    (hstate : ∀ j, (c'.records j).state = (c.records j).state)
    (hcounters : c'.sourceCounters = c.sourceCounters) : Books c' := by
  intro s hsat
  rw [hcounters] at hsat
  have hheld : ∀ states, c'.holding s states = c.holding s states := fun states =>
    countTo_congr fun j _ => by rw [hstream, hstate]
  obtain ⟨h1, h2, h3, h4, h5, h6, h7, h8, h9⟩ := h s hsat
  unfold Core.owned at h1
  unfold Core.ready Core.transmitting at h2
  unfold Core.transmitting at h3
  constructor <;> rw [hcounters]
  · unfold Core.owned
    rw [hheld]
    exact h1
  · unfold Core.ready Core.transmitting
    rw [hheld, hheld]
    exact h2
  · unfold Core.transmitting
    rw [hheld]
    exact h3
  all_goals rw [hsetup]; assumption

/-! ### The moves -/

section Moves

variable {c : Core} {s : Stream} {i : ℕ}

theorem Books.openFill (h : Books c) {lease : UInt32} (hi : i < 200)
    (hfree : (c.records i).state = .free) : Books (c.openFill s i lease) := by
  refine h.change (i := i) rfl hi ?_ { produced := 1 } rfl ?_ (Or.inl hfree) (Or.inr ?_) ?_
  · intro j hj
    exact ⟨(c.records j).gapBeforeRequired, Function.update_of_ne hj _ _⟩
  · constructor <;> simp only [Nat.one_mul, Nat.zero_mul] <;>
      first | exact Grows.same _ | exact Grows.sat64 _ _
  · simp [Core.openFill, Core.setRecord, Core.setGapNext]
  · constructor <;>
      simp [BufferRecord.holds, Core.openFill, Core.setRecord, Core.setGapNext, hfree]

theorem Books.lose (h : Books c) {n : ℕ} : Books (c.lose s n) := by
  have hzero : ∀ r : BufferRecord, ∀ t, Balanced r r t { produced := n, dropped := n } :=
    fun r t => ⟨rfl, rfl, rfl⟩
  refine h.update (i := 0) rfl (by decide) (fun j _ => ⟨(c.records j).gapBeforeRequired, rfl⟩)
    (Function.update (fun _ => {}) s { produced := n, dropped := n }) (fun t => ?_) fun t => ?_
  · by_cases ht : t = s
    · subst ht
      rw [Function.update_self]
      show Adds _ _ (Function.update c.sourceCounters t _ t) _
      rw [Function.update_self]
      constructor <;> simp only [Nat.zero_mul] <;>
        first | exact Grows.same _ | exact Grows.satMul _ _ _ | exact Grows.sat64 _ _
    · rw [Function.update_of_ne ht]
      show Adds _ _ (Function.update c.sourceCounters s _ t) _
      rw [Function.update_of_ne ht]
      exact Adds.refl _ _
  · by_cases ht : t = s
    · subst ht
      rw [Function.update_self]
      exact hzero _ _
    · rw [Function.update_of_ne ht]
      exact ⟨rfl, rfl, rfl⟩

theorem Books.complete (h : Books c) (i : ℕ) (f : PacketFrame) (size : ℕ) (lease : UInt32) :
    Books (c.complete i f size lease) := by
  refine h.quiet rfl ?_ ?_ rfl <;> intro j <;> by_cases hj : j = i
  · rw [hj, Core.complete_record]
  · exact congrArg BufferRecord.stream (Function.update_of_ne hj _ _)
  · rw [hj, Core.complete_record]
  · exact congrArg BufferRecord.state (Function.update_of_ne hj _ _)

theorem Books.rework (h : Books c) (i : ℕ) (f : PacketFrame) (size : ℕ) :
    Books (c.rework i f size) := by
  refine h.quiet rfl ?_ ?_ rfl <;> intro j <;> by_cases hj : j = i
  · simp [hj, Core.rework, Core.setRecord, Core.setFrame]
  · exact congrArg BufferRecord.stream (Function.update_of_ne hj _ _)
  · simp [hj, Core.rework, Core.setRecord, Core.setFrame]
  · exact congrArg BufferRecord.state (Function.update_of_ne hj _ _)

theorem Books.publish (h : Books c) (hi : i < 200) (hstate : (c.records i).state = .filling)
    (hcount : (c.records i).itemCount = (c.setup.stream (c.records i).stream).itemCount) :
    Books (c.publish i) := by
  have hself : (c.publish i).records i = { c.records i with state := .ready } :=
    Function.update_self _ _ _
  refine h.change (i := i) (s := (c.records i).stream) rfl hi ?_ { framed := 1 } rfl ?_ (Or.inr rfl)
    (Or.inr (by rw [hself])) ?_
  · exact fun j hj => ⟨(c.records j).gapBeforeRequired, Function.update_of_ne hj _ _⟩
  · rw [hcount]
    constructor <;> simp only [Nat.one_mul, Nat.zero_mul] <;>
      first | exact Grows.same _ | exact Grows.sat64 _ _
  · rw [hself]
    constructor <;> simp [BufferRecord.holds, hstate]

theorem Books.promote (h : Books c) {rest : List ℕ} (hi : i < 200)
    (hstate : (c.records i).state = .ready) (hs : (c.records i).stream = s)
    (hcount : (c.records i).itemCount = (c.setup.stream s).itemCount) :
    Books (c.promote s i rest) := by
  have hself : (c.promote s i rest).records i = { c.records i with state := .transmitting } :=
    Function.update_self _ _ _
  refine h.change (i := i) (s := s) rfl hi ?_ { emitted := 1 } rfl ?_ (Or.inr hs)
    (Or.inr (by rw [hself]; exact hs)) ?_
  · exact fun j hj => ⟨(c.records j).gapBeforeRequired, Function.update_of_ne hj _ _⟩
  · rw [hcount]
    constructor <;> simp only [Nat.one_mul, Nat.zero_mul] <;>
      first | exact Grows.same _ | exact Grows.sat64 _ _
  · rw [hself]
    constructor <;> simp [BufferRecord.holds, hstate, hs]

theorem Books.release (h : Books c) (hi : i < 200) (hstate : (c.records i).state = .transmitting)
    (hcount : (c.records i).itemCount = (c.setup.stream (c.records i).stream).itemCount) :
    Books (c.release i) := by
  have hself : (c.release i).records i = {} := Function.update_self _ _ _
  refine h.change (i := i) (s := (c.records i).stream) rfl hi ?_ { transmitted := 1 } rfl ?_
    (Or.inr rfl) (Or.inl (by rw [hself])) ?_
  · exact fun j hj => ⟨(c.records j).gapBeforeRequired, Function.update_of_ne hj _ _⟩
  · rw [hcount]
    constructor <;> simp only [Nat.one_mul, Nat.zero_mul] <;>
      first | exact Grows.same _ | exact Grows.sat64 _ _
  · rw [hself]
    constructor <;> simp [BufferRecord.holds, hstate]

/-- Every drop, whichever state the buffer was in. -/
theorem Books.drop (h : Books c) {evict : Bool} (hi : i < 200) (hlive : (c.records i).state ≠ .free)
    (hcount : (c.records i).itemCount = (c.setup.stream (c.records i).stream).itemCount) :
    Books (c.drop i evict) := by
  have hself := c.drop_record_self i evict
  refine h.change (i := i) (s := (c.records i).stream) (c.drop_other i evict).2.2.2.2.2 hi ?_
    { dropped := 1
      evicted := if evict then 1 else 0
      afterFraming := if (c.records i).state = .ready ∨ (c.records i).state = .transmitting then 1
        else 0
      afterPromotion := if (c.records i).state = .transmitting then 1 else 0 }
    (c.drop_counters i evict) ?_ (Or.inr rfl) (Or.inl (by rw [hself])) ?_
  · exact fun j hj => ⟨_, c.drop_record_ne evict hj⟩
  · rw [← hcount]
    unfold Core.lossOf Core.droppedCounters
    cases evict <;> cases hst : (c.records i).state <;>
      constructor <;> simp <;> first | exact Grows.same _ | exact Grows.sat64 _ _
  · rw [hself]
    cases hst : (c.records i).state <;> first | exact absurd hst hlive | skip
    all_goals constructor <;> simp [BufferRecord.holds, hst]

end Moves

theorem Books.move {R : Rules} {w w' : World} (hinv : Inv w) (h : Books w.core)
    (hmove : Move R w w') : Books w'.core := by
  cases hmove with
  | openFill hi hfree => exact h.openFill hi hfree
  | lose => exact h.lose
  | scribble => exact h.quiet rfl (fun _ => rfl) (fun _ => rfl) rfl
  | complete => exact h.complete _ _ _ _
  | @finish c g i f size lease o _ hi hstate =>
    refine (h.complete i f size lease).publish hi ?_ ?_
    · rw [Core.complete_record]
      exact hstate
    · rw [Core.complete_record]
      exact (hinv.slot i).count (by rw [hstate]; decide)
  | @publish c g i f size hi hstate =>
    have hself : (c.rework i f size).records i = { c.records i with frameSize := size } :=
      Function.update_self _ _ _
    refine (h.rework i f size).publish hi ?_ ?_
    · rw [hself]
      exact hstate
    · rw [hself]
      exact (hinv.slot i).count (by rw [hstate]; decide)
  | @flush c g i f =>
    refine h.quiet rfl ?_ ?_ rfl <;> intro j <;> by_cases hj : j = i
    · simp [hj, Core.flush, Core.setRecord, Core.setFrame]
    · exact congrArg BufferRecord.stream (Function.update_of_ne hj _ _)
    · simp [hj, Core.flush, Core.setRecord, Core.setFrame]
    · exact congrArg BufferRecord.state (Function.update_of_ne hj _ _)
  | @promote c g s i rest hqueue hstate =>
    have hlive : (c.records i).state ≠ .free := by rw [hstate]; decide
    have hs := ((hinv.queues.ready_mem s i).mp (by rw [hqueue]; exact List.mem_cons_self)).1
    refine h.promote ((hinv.slot i).bound hlive) hstate hs ?_
    rw [← hs]
    exact (hinv.slot i).count hlive
  | @dropOpen c g i hi hstate =>
    have hlive : (c.records i).state ≠ .free := by rw [hstate]; decide
    exact h.drop hi hlive ((hinv.slot i).count hlive)
  | @dropQueued c g s i f size evict hqueue =>
    have hlive : (c.records i).state ≠ .free := by
      rcases ((hinv.queues.ready_mem s i).mp hqueue).2 with h | ⟨h, -⟩ <;> rw [h] <;> decide
    have hself : ((c.rework i f size).setReady s ((c.readyQueues s).erase i)).records i =
        { c.records i with frameSize := size } := Function.update_self _ _ _
    refine Books.drop ?_ ((hinv.slot i).bound hlive) (by rw [hself]; exact hlive) ?_
    · exact (h.rework i f size).quiet rfl (fun _ => rfl) (fun _ => rfl) rfl
    · rw [hself]
      exact (hinv.slot i).count hlive
  | @evictPromoted c g i hqueue =>
    have hlive : (c.records i).state ≠ .free := by
      rw [(hinv.queues.transmit_mem i).mp hqueue]
      decide
    refine Books.drop ?_ ((hinv.slot i).bound hlive) hlive ((hinv.slot i).count hlive)
    refine h.change (i := i) (s := (c.records i).stream) rfl ((hinv.slot i).bound hlive)
      (fun j _ => ⟨_, rfl⟩) {} rfl ?_ (Or.inr rfl) (Or.inr rfl) ⟨rfl, rfl, rfl⟩
    constructor <;> simp only [Nat.zero_mul] <;> exact Grows.same _
  | @start c g i =>
    refine h.quiet rfl ?_ ?_ rfl <;> intro j <;> by_cases hj : j = i
    · simp [hj, Core.start, Core.setRecord]
    · exact congrArg BufferRecord.stream (Function.update_of_ne hj _ _)
    · simp [hj, Core.start, Core.setRecord]
    · exact congrArg BufferRecord.state (Function.update_of_ne hj _ _)
  | @abort c g i rest hqueue =>
    have hlive : (c.records i).state ≠ .free := by
      rw [(hinv.queues.transmit_mem i).mp (by rw [hqueue]; exact List.mem_cons_self)]
      decide
    refine Books.drop ?_ ((hinv.slot i).bound hlive) hlive ((hinv.slot i).count hlive)
    exact h.quiet rfl (fun _ => rfl) (fun _ => rfl) rfl
  | @release c g i rest hqueue =>
    have hstate := (hinv.queues.transmit_mem i).mp (by rw [hqueue]; exact List.mem_cons_self)
    have hlive : (c.records i).state ≠ .free := by rw [hstate]; decide
    exact h.release ((hinv.slot i).bound hlive) hstate ((hinv.slot i).count hlive)

theorem Fresh.books {w : World} (h : Fresh w) : Books w.core := by
  intro s _
  have hnone : ∀ states, states BufferState.free = false → w.core.holding s states = 0 := by
    intro states hfree
    unfold Core.holding
    rw [h.records]
    exact countTo_eq_zero.mpr fun i _ => by simp [hfree]
  have h1 : w.core.owned s = 0 := hnone _ (by decide)
  have h2 : w.core.ready s = 0 := hnone _ (by decide)
  have h3 : w.core.transmitting s = 0 := hnone _ (by decide)
  constructor <;> simp [h.sourceCounters, h1, h2, h3]

/-- In every state of every run the books of a stream balance, as long as its
counters are below their maxima. -/
theorem conservation {R : Rules} {t : Tracked} (h : Reach R t) (s : Stream)
    (hsat : (t.pipe.sourceCounters s).Unsaturated) : Conserved t.pipe.toCore s :=
  h.rule (P := fun w => Books w.core) (fun _ hf => hf.books)
    (fun _ _ hinv hb hm => hb.move hinv hm) s hsat

/-- A run that opens one GPIO frame and loses five. -/
def lossyStart : List Op :=
  [.startRun 7 ChecksumAlgorithm.adler32 3 (publicV3 .disabled .raw .raw), .beginFill .gpio,
    .recordSourceFrameDrops .gpio 5]

theorem conservation_lossyStart :
    ((Tracked.initial.run lossyStart).pipe.sourceCounters .gpio).framesProduced = 6 ∧
      Conserved (Tracked.initial.run lossyStart).pipe.toCore .gpio := by
  refine ⟨by decide +kernel, conservation (R := ⟨false, false, false⟩) (Reach.initial.run ?_) .gpio ?_⟩
  · exact ⟨trivial, ⟨fun h => (by cases h), fun h => by cases h⟩, trivial, trivial⟩
  · constructor <;> decide +kernel

end ThingDaq
