import ThingDaq.Pipeline.Conservation

/-!
# The ledger of a stream

`conservation` balances the counters of a stream while none of them is at its maximum.  Its
producer knows more: as long as the items of the numbers it took fit in 64 bits, no counter of
its stream can have reached the maximum, and the balance is that of the numbers themselves.

## Main results

* `Move.effect` — what a move does to the frames of one stream.
* `Reach.ledger` — every number is dropped, transmitted or held, in every state of every run.
-/

namespace ThingDaq

open Wire Table

variable {R : Rules}

/-- A counter that has room for `a` grows by `a`. -/
def Takes (v v' a : ℕ) : Prop := v + a ≤ u64Max → v' = v + a

theorem Takes.same (v : ℕ) : Takes v v 0 := fun _ => rfl

theorem sat64_eq {v a : ℕ} (h : v + a ≤ u64Max) : sat64 v a = v + a := by
  unfold sat64 satAdd
  rw [if_neg (by omega)]

theorem sat64_zero (v : ℕ) : sat64 v 0 = v := by
  unfold sat64 satAdd
  rw [if_neg (by omega), Nat.add_zero]

theorem sat64_min {v a : ℕ} (h : v ≤ u64Max) : sat64 v a = min u64Max (v + a) := by
  unfold sat64 satAdd
  split <;> omega

theorem Takes.sat64 (v a : ℕ) : Takes v (sat64 v a) a := sat64_eq

theorem Takes.satMul (v a b : ℕ) :
    Takes v (ThingDaq.sat64 v (Table.satMul u64Max a b)) (a * b) := by
  intro h
  have hmul : Table.satMul u64Max a b = a * b := by
    unfold Table.satMul
    split
    · next hzero => rcases hzero with rfl | rfl <;> simp
    · next hpos =>
      have hb : 0 < b := by omega
      rw [if_neg (by rw [Nat.not_lt, Nat.le_div_iff_mul_le hb]; omega)]
  rw [hmul]
  exact sat64_eq h

/-- `p` numbers of a stream taken, `d` of its frames dropped and `t` of them transmitted. -/
structure Posting (items : ℕ) (k k' : SourceCounters) (p d t : ℕ) : Prop where
  framesProduced : Takes k.framesProduced k'.framesProduced p
  framesDropped : Takes k.framesDropped k'.framesDropped d
  itemsDropped : Takes k.itemsDropped k'.itemsDropped (d * items)
  framesTransmitted : Takes k.framesTransmitted k'.framesTransmitted t
  itemsTransmitted : Takes k.itemsTransmitted k'.itemsTransmitted (t * items)

theorem Posting.same {items : ℕ} {k k' : SourceCounters}
    (hproduced : k'.framesProduced = k.framesProduced)
    (hdropped : k'.framesDropped = k.framesDropped) (hitems : k'.itemsDropped = k.itemsDropped)
    (hsent : k'.framesTransmitted = k.framesTransmitted)
    (hsentItems : k'.itemsTransmitted = k.itemsTransmitted) : Posting items k k' 0 0 0 where
  framesProduced := hproduced ▸ Takes.same _
  framesDropped := hdropped ▸ Takes.same _
  itemsDropped := by rw [hitems, Nat.zero_mul]; exact Takes.same _
  framesTransmitted := hsent ▸ Takes.same _
  itemsTransmitted := by rw [hsentItems, Nat.zero_mul]; exact Takes.same _

theorem Posting.refl (items : ℕ) (k : SourceCounters) : Posting items k k 0 0 0 :=
  Posting.same rfl rfl rfl rfl rfl

/-- What a move does to the frames of the stream `s`. -/
structure Effect (w w' : World) (s : Stream) (p d t : ℕ) : Prop where
  setup : w'.core.setup = w.core.setup
  produced : w'.history.produced s = w.history.produced s + p
  posting : Posting (w.core.setup.stream s).itemCount (w.core.sourceCounters s)
    (w'.core.sourceCounters s) p d t
  owned : p + w.core.owned s = d + t + w'.core.owned s

section Effect

variable {c c' : Core} {g g' : History} {s : Stream} {i : ℕ}

/-- A move that takes no number and leaves every buffer in use. -/
theorem Effect.quiet (hsetup : c'.setup = c.setup) (hproduced : g'.produced = g.produced)
    (hstream : ∀ j, (c'.records j).stream = (c.records j).stream)
    (hfree : ∀ j, (c'.records j).state = .free ↔ (c.records j).state = .free)
    (hposting : ∀ u, Posting (c.setup.stream u).itemCount (c.sourceCounters u)
      (c'.sourceCounters u) 0 0 0) (u : Stream) : Effect ⟨c, g⟩ ⟨c', g'⟩ u 0 0 0 where
  setup := hsetup
  produced := congrFun hproduced u
  posting := hposting u
  owned := by
    have hheld : c'.owned u = c.owned u := by
      unfold Core.owned Core.holding
      refine countTo_congr fun j _ => ?_
      rw [hstream]
      by_cases hj : (c.records j).state = .free
      · simp [hj, (hfree j).mpr hj]
      · simp [hj, mt (hfree j).mp hj]
    show 0 + c.owned u = 0 + 0 + c'.owned u
    omega

/-- A move that concerns one buffer of one stream. -/
theorem Effect.change {k : SourceCounters} {p d t : ℕ} (hsetup : c'.setup = c.setup) (hi : i < 200)
    (hoff : OffBy i c c') (hproduced : g'.produced = Function.update g.produced s (g.produced s + p))
    (hcounters : c'.sourceCounters = Function.update c.sourceCounters s k)
    (hposting : Posting (c.setup.stream s).itemCount (c.sourceCounters s) k p d t)
    (hbefore : (c.records i).state = .free ∨ (c.records i).stream = s)
    (hafter : (c'.records i).state = .free ∨ (c'.records i).stream = s)
    (howned : p + (c.records i).holds s (· ≠ .free) = d + t + (c'.records i).holds s (· ≠ .free))
    (u : Stream) : ∃ p d t, Effect ⟨c, g⟩ ⟨c', g'⟩ u p d t := by
  have hheld := hoff.holding hi u (· ≠ .free)
  by_cases hu : u = s
  · subst hu
    refine ⟨p, d, t, hsetup, ?_, ?_, ?_⟩
    · rw [hproduced]
      exact Function.update_self ..
    · rw [hcounters]
      simpa using hposting
    · show p + c.holding u _ = d + t + c'.holding u _
      omega
  · refine ⟨0, 0, 0, hsetup, ?_, ?_, ?_⟩
    · rw [hproduced]
      exact Function.update_of_ne hu ..
    · rw [hcounters]
      simp only [Function.update_of_ne hu]
      exact Posting.refl _ _
    · -- a free record and a record of the other stream are not held here
      have hnone : ∀ r : BufferRecord, r.state = .free ∨ r.stream = s →
          r.holds u (· ≠ .free) = 0 := by
        have hsu : ¬s = u := fun e => hu e.symm
        rintro r (hr | hr) <;> simp [BufferRecord.holds, hr, hsu]
      rw [hnone _ hbefore, hnone _ hafter] at hheld
      show 0 + c.holding u _ = 0 + 0 + c'.holding u _
      omega

/-- Every drop, whichever state the buffer was in. -/
theorem Effect.drop (evict : Bool) (hi : i < 200) (hlive : (c.records i).state ≠ .free)
    (hcount : (c.records i).itemCount = (c.setup.stream (c.records i).stream).itemCount)
    (u : Stream) : ∃ p d t, Effect ⟨c, g⟩ ⟨c.drop i evict, g⟩ u p d t := by
  have hself := c.drop_record_self i evict
  refine Effect.change (p := 0) (d := 1) (t := 0) (c.drop_other i evict).2.2.2.2.2 hi
    (fun j hj => ⟨_, c.drop_record_ne evict hj⟩) (Function.update_eq_self _ _).symm
    (c.drop_counters i evict) ?_ (Or.inr rfl) (Or.inl (by rw [hself])) ?_ u
  · rw [← hcount]
    unfold Core.lossOf Core.droppedCounters
    cases evict <;> cases hst : (c.records i).state <;>
      constructor <;> simp <;> first | exact Takes.same _ | exact Takes.sat64 _ _
  · rw [hself]
    simp [BufferRecord.holds, hlive]

/-- What follows a move that no frame of the stream notices. -/
theorem Effect.after {w w' w'' : World} {p d t : ℕ} (hquiet : Effect w w' s 0 0 0)
    (h : Effect w' w'' s p d t) : Effect w w'' s p d t where
  setup := h.setup.trans hquiet.setup
  produced := by rw [h.produced, hquiet.produced, Nat.add_zero]
  owned := by
    have h1 := hquiet.owned
    have h2 := h.owned
    omega
  posting := by
    obtain ⟨h1, h2, h3, h4, h5⟩ := hquiet.posting
    have ht := h.posting
    rw [hquiet.setup] at ht
    obtain ⟨h1', h2', h3', h4', h5'⟩ := ht
    rw [Nat.zero_mul] at h3 h5
    unfold Takes at *
    constructor <;> unfold Takes <;> intro hroom
    · rw [h1' (by rw [h1 (by omega)]; exact hroom), h1 (by omega), Nat.add_zero]
    · rw [h2' (by rw [h2 (by omega)]; exact hroom), h2 (by omega), Nat.add_zero]
    · rw [h3' (by rw [h3 (by omega)]; exact hroom), h3 (by omega), Nat.add_zero]
    · rw [h4' (by rw [h4 (by omega)]; exact hroom), h4 (by omega), Nat.add_zero]
    · rw [h5' (by rw [h5 (by omega)]; exact hroom), h5 (by omega), Nat.add_zero]

end Effect

/-- Numbers lost before a buffer was taken. -/
theorem Effect.lose {c : Core} {g : History} {s : Stream} {n : ℕ} {atSource : Bool} (u : Stream) :
    ∃ p d t, Effect ⟨c, g⟩ ⟨c.lose s n, g.lose s n atSource⟩ u p d t := by
  by_cases hu : u = s
  · subst hu
    refine ⟨n, n, 0, rfl, Function.update_self .., ?_, rfl⟩
    show Posting _ _ (Function.update c.sourceCounters u _ u) _ _ _
    rw [Function.update_self]
    constructor <;> simp only [Nat.zero_mul] <;>
      first | exact Takes.same _ | exact Takes.satMul _ _ _ | exact Takes.sat64 _ _
  · refine ⟨0, 0, 0, rfl, Function.update_of_ne hu .., ?_, rfl⟩
    show Posting _ _ (Function.update c.sourceCounters s _ u) _ _ _
    rw [Function.update_of_ne hu]
    exact Posting.refl _ _

/-- A buffer that goes on waiting, READY or not. -/
theorem Effect.advance {c : Core} {g g' : History} {i : ℕ} {r : BufferRecord}
    {s : Stream} {k : SourceCounters} {c' : Core} (hsetup : c'.setup = c.setup)
    (hproduced : g'.produced = g.produced) (hrecords : c'.records = Function.update c.records i r)
    (hstream : r.stream = (c.records i).stream)
    (hfree : r.state = .free ↔ (c.records i).state = .free)
    (hcounters : c'.sourceCounters = Function.update c.sourceCounters s k)
    (hposting : ∀ items, Posting items (c.sourceCounters s) k 0 0 0) (u : Stream) :
    ∃ p d t, Effect ⟨c, g⟩ ⟨c', g'⟩ u p d t := by
  refine ⟨0, 0, 0, Effect.quiet hsetup hproduced (fun j => ?_) (fun j => ?_) (fun v => ?_) u⟩
  · rw [hrecords]
    by_cases hj : j = i
    · rw [hj, Function.update_self, hstream]
    · rw [Function.update_of_ne hj]
  · rw [hrecords]
    by_cases hj : j = i
    · rw [hj, Function.update_self, hfree]
    · rw [Function.update_of_ne hj]
  · rw [hcounters]
    by_cases hv : v = s
    · subst hv
      rw [Function.update_self]
      exact hposting _
    · rw [Function.update_of_ne hv]
      exact Posting.refl _ _

theorem Move.effect {w w' : World} (hinv : Inv w) (hmove : Move R w w') (u : Stream) :
    ∃ p d t, Effect w w' u p d t := by
  have hsame : ∀ {k k' : SourceCounters}, k'.framesProduced = k.framesProduced →
      k'.framesDropped = k.framesDropped → k'.itemsDropped = k.itemsDropped →
      k'.framesTransmitted = k.framesTransmitted → k'.itemsTransmitted = k.itemsTransmitted →
      ∀ items, Posting items k k' 0 0 0 := fun h1 h2 h3 h4 h5 _ => Posting.same h1 h2 h3 h4 h5
  cases hmove with
  | @openFill c g s i l hi hfree =>
    refine Effect.change (i := i) (s := s) (p := 1) (d := 0) (t := 0) (by rfl) hi ?_ (by rfl)
      (by rfl) ?_
      (Or.inl hfree) (Or.inr ?_) ?_ u
    · exact fun j hj => ⟨(c.records j).gapBeforeRequired, Function.update_of_ne hj _ _⟩
    · constructor <;> simp only [Nat.zero_mul] <;>
        first | exact Takes.same _ | exact Takes.sat64 _ _
    · simp [Core.openFill, Core.setRecord, Core.setGapNext]
    · simp [BufferRecord.holds, Core.openFill, Core.setRecord, Core.setGapNext, hfree]
  | lose => exact Effect.lose u
  | scribble =>
    exact ⟨0, 0, 0, Effect.quiet (by rfl) (by rfl) (fun _ => by rfl) (fun _ => by rfl)
      (fun _ => by exact Posting.refl _ _) u⟩
  | @complete c g i f n l o requested hi hstate =>
    exact Effect.advance (i := i) (s := .gpio) (by rfl) (by rfl) (by rfl) (by rfl) (by rfl)
      (by exact (Function.update_eq_self _ _).symm) (fun _ => by exact Posting.refl _ _) u
  | @finish c g i f n l o requested hi hstate =>
    refine Effect.advance (i := i) (by rfl) (by rfl) (Function.update_idem _ _ _) ?_ ?_ (by rfl)
      (hsame (by rfl) (by rfl) (by rfl) (by rfl) (by rfl)) u
    · rw [Core.complete_record]
    · rw [hstate]
      simp
  | @publish c g i f n hi hstate =>
    refine Effect.advance (i := i) (by rfl) (by rfl) (Function.update_idem _ _ _) ?_ ?_ (by rfl)
      (hsame (by rfl) (by rfl) (by rfl) (by rfl) (by rfl)) u
    · simp [Core.rework, Core.setRecord, Core.setFrame]
    · rw [hstate]
      simp
  | @flush c g i f =>
    exact Effect.advance (i := i) (s := .gpio) (by rfl) (by rfl) (by rfl) (by rfl) (by rfl)
      (by exact (Function.update_eq_self _ _).symm) (fun _ => by exact Posting.refl _ _) u
  | @promote c g s i q hqueue hstate =>
    refine Effect.advance (i := i) (by rfl) (by rfl) (by rfl) (by rfl) ?_ (by rfl)
      (hsame (by rfl) (by rfl) (by rfl) (by rfl) (by rfl)) u
    rw [hstate]
    simp
  | @dropOpen c g i hi hstate =>
    have hlive : (c.records i).state ≠ .free := by rw [hstate]; decide
    exact Effect.drop _ hi hlive ((hinv.slot i).count hlive) u
  | @dropQueued c g s i f n e hqueue =>
    have hlive : (c.records i).state ≠ .free := by
      rcases ((hinv.queues.ready_mem s i).mp hqueue).2 with h | ⟨h, -⟩ <;> rw [h] <;> decide
    have hself : ((c.rework i f n).setReady s ((c.readyQueues s).erase i)).records i =
        { c.records i with frameSize := n } := Function.update_self _ _ _
    obtain ⟨p, d, t, heffect⟩ := Effect.drop (g := g) e ((hinv.slot i).bound hlive)
      (by rw [hself]; exact hlive) (by rw [hself]; exact (hinv.slot i).count hlive) u
    refine ⟨p, d, t, Effect.after (Effect.quiet (by rfl) (by rfl) (fun j => ?_) (fun j => ?_)
      (fun _ => by exact Posting.refl _ _) u) heffect⟩
    · by_cases hj : j = i
      · rw [hj, hself]
      · exact congrArg BufferRecord.stream (Function.update_of_ne hj _ _)
    · by_cases hj : j = i
      · rw [hj, hself]
      · exact iff_of_eq (congrArg (fun r => BufferRecord.state r = .free)
          (Function.update_of_ne hj _ _))
  | @evictPromoted c g i hqueue =>
    have hlive : (c.records i).state ≠ .free := by
      rw [(hinv.queues.transmit_mem i).mp hqueue]
      decide
    obtain ⟨p, d, t, heffect⟩ := Effect.drop (g := g)
      (c := (c.unqueue i).countEvictedAfterPromotion (c.records i).stream) true
      ((hinv.slot i).bound hlive) hlive ((hinv.slot i).count hlive) u
    refine ⟨p, d, t, Effect.after (Effect.quiet (by rfl) (by rfl) (fun _ => by rfl) (fun _ => by rfl)
      (fun v => ?_) u) heffect⟩
    show Posting _ _ (Function.update c.sourceCounters _ _ v) 0 0 0
    by_cases hv : v = (c.records i).stream
    · subst hv
      rw [Function.update_self]
      exact Posting.same rfl rfl rfl rfl rfl
    · rw [Function.update_of_ne hv]
      exact Posting.refl _ _
  | @start c g i =>
    exact Effect.advance (i := i) (s := .gpio) (by rfl) (by rfl) (by rfl) (by rfl) (by rfl)
      (by exact (Function.update_eq_self _ _).symm) (fun _ => by exact Posting.refl _ _) u
  | @abort c g i rest hqueue =>
    have hlive : (c.records i).state ≠ .free := by
      rw [(hinv.queues.transmit_mem i).mp (by rw [hqueue]; exact List.mem_cons_self)]
      decide
    obtain ⟨p, d, t, heffect⟩ := Effect.drop (g := g) (c := c.unqueue i) false
      ((hinv.slot i).bound hlive) hlive ((hinv.slot i).count hlive) u
    exact ⟨p, d, t, Effect.after (Effect.quiet (by rfl) (by rfl) (fun _ => by rfl) (fun _ => by rfl)
      (fun _ => by exact Posting.refl _ _) u) heffect⟩
  | @release c g i rest hqueue =>
    have hstate := (hinv.queues.transmit_mem i).mp (by rw [hqueue]; exact List.mem_cons_self)
    have hlive : (c.records i).state ≠ .free := by rw [hstate]; decide
    have hself : (c.release i).records i = {} := Function.update_self _ _ _
    have hcount := (hinv.slot i).count hlive
    refine Effect.change (i := i) (s := (c.records i).stream) (p := 0) (d := 0) (t := 1) (by rfl)
      ((hinv.slot i).bound hlive) ?_ (by exact (Function.update_eq_self _ _).symm) (by rfl) ?_
      (Or.inr rfl)
      (Or.inl (by rw [hself])) ?_ u
    · exact fun j hj => ⟨(c.records j).gapBeforeRequired, Function.update_of_ne hj _ _⟩
    · rw [← hcount]
      constructor <;> simp only [Nat.one_mul, Nat.zero_mul] <;>
        first | exact Takes.same _ | exact Takes.sat64 _ _
    · rw [hself]
      simp [BufferRecord.holds, hlive]

/-! ### The balance -/

/-- Every number of the stream is dropped, transmitted or held. -/
structure Numbered (w : World) (s : Stream) : Prop where
  framesProduced : (w.core.sourceCounters s).framesProduced = w.history.produced s
  balance : (w.core.sourceCounters s).framesDropped + (w.core.sourceCounters s).framesTransmitted +
    w.core.owned s = w.history.produced s
  itemsDropped : (w.core.sourceCounters s).itemsDropped =
    (w.core.sourceCounters s).framesDropped * (w.core.setup.stream s).itemCount
  itemsTransmitted : (w.core.sourceCounters s).itemsTransmitted =
    (w.core.sourceCounters s).framesTransmitted * (w.core.setup.stream s).itemCount

/-- The items of the numbers taken fit in 64 bits. -/
def NumbersFit (w : World) (s : Stream) : Prop :=
  w.history.produced s * (w.core.setup.stream s).itemCount ≤ u64Max

section Numbered

variable {w w' : World} {s : Stream} {p d t : ℕ}

theorem Effect.fits (h : Effect w w' s p d t) (hfit : NumbersFit w' s) : NumbersFit w s := by
  unfold NumbersFit at hfit ⊢
  rw [h.setup, h.produced, Nat.add_mul] at hfit
  omega

/-- The counters follow the numbers. -/
theorem Effect.numbered (h : Effect w w' s p d t) (hn : Numbered w s) (hfit : NumbersFit w' s) :
    Numbered w' s := by
  obtain ⟨hsetup, hproduced, hposting, howned⟩ := h
  obtain ⟨n1, n2, n3, n4⟩ := hn
  obtain ⟨h1, h2, h3, h4, h5⟩ := hposting
  have hvalid := FrameLayout.valid_iff.mp (w.core.setup.stream_valid s)
  have hitems : 0 < (w.core.setup.stream s).itemCount := hvalid.1.1
  unfold NumbersFit at hfit
  rw [hsetup, hproduced] at hfit
  generalize hm : (w.core.setup.stream s).itemCount = m at *
  -- what is dropped or transmitted was numbered
  have hspent : (w.core.sourceCounters s).framesDropped + d +
      ((w.core.sourceCounters s).framesTransmitted + t) ≤ w.history.produced s + p := by omega
  have hspentItems := Nat.mul_le_mul_right m hspent
  rw [Nat.add_mul, Nat.add_mul, Nat.add_mul] at hspentItems
  have hframes : w.history.produced s + p ≤ (w.history.produced s + p) * m :=
    Nat.le_mul_of_pos_right _ hitems
  have e1 := h1 (by omega)
  have e2 := h2 (by omega)
  have e3 := h3 (by omega)
  have e4 := h4 (by omega)
  have e5 := h5 (by omega)
  refine ⟨by omega, by omega, ?_, ?_⟩
  · rw [e3, e2, n3, hsetup, hm, Nat.add_mul]
  · rw [e5, e4, n4, hsetup, hm, Nat.add_mul]

theorem Fresh.numbered (h : Fresh w) (s : Stream) : Numbered w s := by
  have hnone : w.core.owned s = 0 := by
    unfold Core.owned Core.holding
    rw [h.records]
    exact countTo_eq_zero.mpr fun i _ => by simp
  constructor <;> simp [h.sourceCounters, h.history, hnone]

end Numbered

/-- As long as their items fit in 64 bits, the counters of a stream balance its numbers. -/
theorem Reach.ledger {t : Tracked} (h : Reach R t) (s : Stream) (hfit : NumbersFit t.world s) :
    Numbered t.world s := by
  refine Reach.rule (P := fun w => NumbersFit w s → Numbered w s) (fun w hw _ => hw.numbered s) ?_
    h hfit
  intro w w' hinv hp hmove hfit'
  obtain ⟨p, d, t, heffect⟩ := hmove.effect hinv s
  exact heffect.numbered (hp (heffect.fits hfit')) hfit'

end ThingDaq
