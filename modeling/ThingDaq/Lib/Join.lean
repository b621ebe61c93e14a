import ThingDaq.Lib.Ring
import Mathlib.Logic.Function.Basic
import Mathlib.Data.Nat.Bitwise
import Mathlib.Order.Interval.Finset.Nat
import Mathlib.Tactic.IntervalCases

/-!
# A join barrier for two producers

Two DMA channels fill the same buffers.  The work is cut into generations; a
generation has a slot in a bounded table and, when one was free, a buffer.  A
channel reports its generations in order; once both reported a generation, its
buffer becomes ready, or is discarded when anything spoke against its data.

The generation numbers are 32 bits and wrap.  `Ghost` keeps what the numbers
forget: the ordinal of every slot and buffer, and what each channel reported and
failed at, in order.

`Move strict` is one elementary change.  With `strict` no channel may run past
the table: a report without a slot (`skip`) is excluded and an error comes while
the channel's generation has its slot.

## Main results

* `Inv.move` — ownership: a buffer is a target of the DMA exactly when a slot
  names it.
* `Tight.move` — for strict moves the slots are the generations between the
  slower channel and the schedule, deliveries are in order, and a ready buffer
  was reported by both channels and never failed.
-/

set_option linter.unusedSectionVars false

namespace Join

open Table Ring

inductive BufferState
  | free
  | dmaOwned
  | ready
  | reading
  | discardPending
  | releasing
  deriving DecidableEq, Repr

structure BufferRecord where
  state : BufferState := .free
  epoch : UInt32 := 0
  generation : UInt32 := 0
  first : ℕ := 0
  lease : UInt32 := 0
  deriving DecidableEq, Repr

/-- A generation in flight; `extra` is what a particular barrier adds. -/
structure GenerationSlot (ε : Type) where
  first : ℕ := 0
  generation : UInt32 := 0
  destination : ℕ := 255
  completionMask : ℕ := 0
  valid : Bool := false
  invalidData : Bool := false
  extra : ε

/-- What ownership and order depend on. -/
@[ext]
structure Core (ε : Type) where
  records : ℕ → BufferRecord := fun _ => {}
  slots : ℕ → GenerationSlot ε
  nextCompletion : ℕ → UInt32 := fun _ => 0
  nextFirst : ℕ := 0
  nextSchedule : UInt32 := 0
  epoch : UInt32 := 0
  running : Bool := false

/-- What happened since the barrier was primed.  `expects d p` is the report
that agrees with a generation sent to buffer `d` at position `p`. -/
structure Ghost (δ : Type) where
  origin : UInt32
  first : ℕ
  width : ℕ
  expects : ℕ → ℕ → δ
  scheduled : ℕ := 0
  ordinal : ℕ → ℕ := fun _ => 0
  tag : ℕ → ℕ := fun _ => 0
  done : ℕ → List δ := fun _ => []
  failed : ℕ → List ℕ := fun _ => []
  delivered : List ℕ := []
  held : List ℕ := []

/-- How many generations a channel reported. -/
def Ghost.count {δ : Type} (g : Ghost δ) (ch : ℕ) : ℕ := (g.done ch).length

structure World (ε δ : Type) where
  core : Core ε
  ghost : Ghost δ

variable {ε δ : Type} [Inhabited ε]

/-- An empty slot. -/
def GenerationSlot.empty : GenerationSlot ε := { extra := default }

/-- The number of the `k`-th generation from `origin`. -/
def number (origin : UInt32) (k : ℕ) : UInt32 := origin + UInt32.ofNat k

theorem number_succ (origin : UInt32) (k : ℕ) : number origin k + 1 = number origin (k + 1) := by
  unfold number
  rw [UInt32.add_assoc]
  congr 1
  apply UInt32.toNat_inj.mp
  simp [UInt32.toNat_add]

/-- Generations less than a wrap apart have different numbers. -/
theorem number_inj {origin : UInt32} {a b : ℕ} (hab : a ≤ b) (hlt : b < a + 2 ^ 32)
    (h : number origin a = number origin b) : a = b := by
  unfold number at h
  have hcancel : UInt32.ofNat a = UInt32.ofNat b := UInt32.add_right_inj origin |>.mp h
  have hmod := congrArg UInt32.toNat hcancel
  simp only [UInt32.toNat_ofNat'] at hmod
  omega

namespace Core

def setState (c : Core ε) (i : ℕ) (s : BufferState) : ℕ → BufferRecord :=
  Function.update c.records i { c.records i with state := s }

/-- The slots with some of them marked and their extras replaced. -/
def marked (c : Core ε) (P : ℕ → Bool) (E : ℕ → ε) : ℕ → GenerationSlot ε := fun j =>
  { c.slots j with invalidData := (c.slots j).invalidData || P j, extra := E j }

/-- Give the next generation to slot `j` with destination `d`. -/
def schedule (c : Core ε) (n j d : ℕ) (e : ε) (nextFirst : ℕ) : Core ε :=
  { c with
    records := if d < n then
        Function.update c.records d ⟨.dmaOwned, c.epoch, c.nextSchedule, c.nextFirst, 0⟩
      else c.records
    slots := Function.update c.slots j ⟨c.nextFirst, c.nextSchedule, d, 0, true, false, e⟩
    nextSchedule := c.nextSchedule + 1
    nextFirst := nextFirst }

/-- Channel `ch` reports the generation of slot `j`. -/
def report (c : Core ε) (ch j : ℕ) : Core ε :=
  { c with
    slots := Function.update c.slots j { c.slots j with
      completionMask := (c.slots j).completionMask ||| 2 ^ ch }
    nextCompletion := Function.update c.nextCompletion ch (c.nextCompletion ch + 1) }

/-- Channel `ch` reports a generation that has no slot. -/
def skip (c : Core ε) (ch : ℕ) : Core ε :=
  { c with nextCompletion := Function.update c.nextCompletion ch (c.nextCompletion ch + 1) }

/-- The consumer leases buffer `i`. -/
def acquire (c : Core ε) (i : ℕ) (lease : UInt32) : Core ε :=
  { c with
    records := Function.update c.records i
      { c.records i with state := .reading, lease := lease } }

/-- Slot `j` is done with; its buffer, if it has one, goes to `s`. -/
def settle (c : Core ε) (n j : ℕ) (s : BufferState) : Core ε :=
  { c with
    records := if (c.slots j).destination < n then c.setState (c.slots j).destination s
      else c.records
    slots := Function.update c.slots j GenerationSlot.empty }

/-- Every slot is dropped and the buffers of the DMA await their discard. -/
def halt (c : Core ε) (n m : ℕ) : Core ε :=
  { c with
    records := fun i => if i < n ∧ (c.records i).state = .dmaOwned then
        { c.records i with state := .discardPending } else c.records i
    slots := fun j => if j < m ∧ (c.slots j).valid = true then GenerationSlot.empty else c.slots j
    running := false }

/-- A barrier about to schedule its first generation. -/
def primed (c : Core ε) (epoch generation : UInt32) (first : ℕ) : Core ε :=
  { c with
    slots := fun _ => GenerationSlot.empty
    nextCompletion := fun _ => generation
    nextFirst := first
    nextSchedule := generation
    epoch := epoch
    running := true }

/-- Both channels reported no generation that is still in the table. -/
def Settled (c : Core ε) (m : ℕ) : Prop :=
  ∀ j < m, (c.slots j).valid = true → (c.slots j).completionMask ≠ 3

end Core

namespace Ghost

def start (origin : UInt32) (first width : ℕ) (expects : ℕ → ℕ → δ) : Ghost δ :=
  { origin := origin, first := first, width := width, expects := expects }

def schedule (g : Ghost δ) (n j d : ℕ) : Ghost δ :=
  { g with
    scheduled := g.scheduled + 1
    ordinal := Function.update g.ordinal j g.scheduled
    tag := if d < n then Function.update g.tag d g.scheduled else g.tag }

def report (g : Ghost δ) (ch : ℕ) (x : δ) : Ghost δ :=
  { g with done := Function.update g.done ch (g.done ch ++ [x]) }

def fail (g : Ghost δ) (ch : ℕ) : Ghost δ :=
  { g with failed := Function.update g.failed ch (g.failed ch ++ [g.count ch]) }

/-- The consumer has buffer `i`. -/
def lend (g : Ghost δ) (i : ℕ) : Ghost δ :=
  { g with delivered := g.delivered ++ [g.tag i], held := g.held ++ [i] }

/-- The consumer gave buffer `i` back. -/
def takeBack (g : Ghost δ) (i : ℕ) : Ghost δ := { g with held := g.held.filter (· ≠ i) }

/-- The position of generation `k`. -/
def position (g : Ghost δ) (max k : ℕ) : ℕ := stamp max g.first g.width k

end Ghost

section Moves

variable (n m max : ℕ)

/-- One elementary change of a barrier with `n` buffers, `m` slots and positions
up to `max`. -/
inductive Move (strict : Bool) : World ε δ → World ε δ → Prop
  | mark {c : Core ε} {g : Ghost δ} (P : ℕ → Bool) (E : ℕ → ε) :
      Move strict ⟨c, g⟩ ⟨{ c with slots := c.marked P E }, g⟩
  | schedule {c : Core ε} {g : Ghost δ} {j d : ℕ} (e : ε) (hrun : c.running = true) (hj : j < m)
      (hslot : (c.slots j).valid = false)
      (hnew : ∀ k < m, (c.slots k).valid = true → (c.slots k).generation ≠ c.nextSchedule)
      (hdest : d = n ∨ d < n ∧ (c.records d).state = .free) :
      Move strict ⟨c, g⟩
        ⟨c.schedule n j d e (g.position max (g.scheduled + 1)), g.schedule n j d⟩
  | report {c : Core ε} {g : Ghost δ} {ch j : ℕ} (x : δ) (hrun : c.running = true) (hch : ch < 2)
      (hset : c.Settled m) (hj : j < m) (hvalid : (c.slots j).valid = true)
      (hgen : (c.slots j).generation = c.nextCompletion ch)
      (hbit : (c.slots j).completionMask.testBit ch = false)
      (hagree : (c.slots j).invalidData = true ∨
        x = g.expects (c.slots j).destination (c.slots j).first) :
      Move strict ⟨c, g⟩ ⟨c.report ch j, g.report ch x⟩
  | skip {c : Core ε} {g : Ghost δ} {ch : ℕ} (x : δ) (hstrict : strict = false) :
      Move strict ⟨c, g⟩ ⟨c.skip ch, g.report ch x⟩
  | fail {c : Core ε} {g : Ghost δ} {ch : ℕ} (hrun : c.running = true) (hch : ch < 2)
      (hset : c.Settled m)
      (hhit : ∀ j < m, (c.slots j).valid = true → (c.slots j).generation = c.nextCompletion ch →
        (c.slots j).invalidData = true)
      (hstrict : strict = true → ∃ j < m, (c.slots j).valid = true ∧
        (c.slots j).generation = c.nextCompletion ch) :
      Move strict ⟨c, g⟩ ⟨c, g.fail ch⟩
  | publish {c : Core ε} {g : Ghost δ} {j : ℕ} (hj : j < m) (hvalid : (c.slots j).valid = true)
      (hmask : (c.slots j).completionMask = 3) (hclean : (c.slots j).invalidData = false)
      (hdest : (c.slots j).destination < n) :
      Move strict ⟨c, g⟩ ⟨c.settle n j .ready, g⟩
  | lose {c : Core ε} {g : Ghost δ} {j : ℕ} (hj : j < m) (hvalid : (c.slots j).valid = true)
      (hmask : (c.slots j).completionMask = 3) :
      Move strict ⟨c, g⟩ ⟨c.settle n j .discardPending, g⟩
  | halt {c : Core ε} {g : Ghost δ} : Move strict ⟨c, g⟩ ⟨c.halt n m, g⟩
  | acquire {c : Core ε} {g : Ghost δ} {i : ℕ} (lease : UInt32) (hi : i < n)
      (hready : (c.records i).state = .ready) (hmax : (c.records i).first < max)
      (hmin : ∀ k < n, (c.records k).state = .ready → (c.records i).first ≤ (c.records k).first) :
      Move strict ⟨c, g⟩ ⟨c.acquire i lease, g.lend i⟩
  | release {c : Core ε} {g : Ghost δ} {i : ℕ} (r : BufferRecord)
      (hold : (c.records i).state = .reading) (hnew : r.state = .releasing ∨ r.state = .free) :
      Move strict ⟨c, g⟩ ⟨{ c with records := Function.update c.records i r }, g.takeBack i⟩
  | giveBack {c : Core ε} {g : Ghost δ} {i : ℕ} (r : BufferRecord)
      (hold : (c.records i).state = .discardPending ∨ (c.records i).state = .releasing)
      (hnew : r.state = .releasing ∨ r.state = .free) :
      Move strict ⟨c, g⟩ ⟨{ c with records := Function.update c.records i r }, g⟩
  | prime {c : Core ε} {g : Ghost δ} (epoch origin : UInt32) (first width : ℕ)
      (expects : ℕ → ℕ → δ) (hrun : c.running = false) (hfree : ∀ i < n, (c.records i).state = .free)
      (hfirst : first ≤ max) (hwidth : 0 < width) :
      Move strict ⟨c, g⟩
        ⟨c.primed epoch origin first, Ghost.start origin first width expects⟩

/-- A sequence of moves. -/
inductive Moves (strict : Bool) : World ε δ → World ε δ → Prop
  | refl (w : World ε δ) : Moves strict w w
  | tail {u v w : World ε δ} (h : Moves strict u v) (hm : Move n m max strict v w) : Moves strict u w

variable {n m max} in
theorem Moves.trans {b : Bool} {u v w : World ε δ} (h : Moves n m max b u v)
    (h' : Moves n m max b v w) : Moves n m max b u w := by
  induction h' with
  | refl => exact h
  | tail _ hlast ih => exact ih.tail hlast

/-! ### Ownership -/

/-- What holds however far a channel runs ahead. -/
structure Inv (w : World ε δ) : Prop where
  distinct : ∀ j < m, ∀ k < m, (w.core.slots j).valid = true → (w.core.slots k).valid = true →
    (w.core.slots j).generation = (w.core.slots k).generation → j = k
  target : ∀ j < m, (w.core.slots j).valid = true → (w.core.slots j).destination ≤ n
  owned : ∀ j < m, (w.core.slots j).valid = true → (w.core.slots j).destination < n →
    w.core.records (w.core.slots j).destination =
      ⟨.dmaOwned, w.core.epoch, (w.core.slots j).generation, (w.core.slots j).first, 0⟩
  backed : ∀ i < n, (w.core.records i).state = .dmaOwned →
    ∃ j < m, (w.core.slots j).valid = true ∧ (w.core.slots j).destination = i
  idle : w.core.running = false → ∀ j < m, (w.core.slots j).valid = false
  numbered : ∀ j < m, (w.core.slots j).valid = true →
    (w.core.slots j).generation = number w.ghost.origin (w.ghost.ordinal j) ∧
      w.ghost.ordinal j < w.ghost.scheduled ∧
      (w.core.slots j).first = w.ghost.position max (w.ghost.ordinal j)
  tagged : ∀ j < m, (w.core.slots j).valid = true → (w.core.slots j).destination < n →
    w.ghost.tag (w.core.slots j).destination = w.ghost.ordinal j
  clock : w.core.running = true → w.core.nextSchedule = number w.ghost.origin w.ghost.scheduled ∧
    w.core.nextFirst = w.ghost.position max w.ghost.scheduled ∧
    ∀ ch < 2, w.core.nextCompletion ch = number w.ghost.origin (w.ghost.count ch)
  placed : ∀ i < n, (w.core.records i).state = .ready ∨ (w.core.records i).state = .reading →
    (w.core.records i).first = w.ghost.position max (w.ghost.tag i)

variable {n m max}

namespace Inv

/-- Two slots never share a buffer. -/
theorem apart {w : World ε δ} (h : Inv n m max w) {j k : ℕ} (hj : j < m) (hk : k < m)
    (hvj : (w.core.slots j).valid = true) (hvk : (w.core.slots k).valid = true)
    (hd : (w.core.slots j).destination < n)
    (heq : (w.core.slots j).destination = (w.core.slots k).destination) : j = k := by
  apply h.distinct j hj k hk hvj hvk
  have hrj := h.owned j hj hvj hd
  have hrk := h.owned k hk hvk (heq ▸ hd)
  rw [heq, hrk] at hrj
  exact (congrArg BufferRecord.generation hrj).symm

theorem mark {c : Core ε} {g : Ghost δ} (h : Inv n m max ⟨c, g⟩) (P : ℕ → Bool) (E : ℕ → ε) :
    Inv n m max ⟨{ c with slots := c.marked P E }, g⟩ :=
  ⟨h.distinct, h.target, h.owned, h.backed, h.idle, h.numbered, h.tagged, h.clock, h.placed⟩

theorem schedule {c : Core ε} {g : Ghost δ} {j d : ℕ} (h : Inv n m max ⟨c, g⟩) (e : ε)
    (hrun : c.running = true) (hj : j < m) (hslot : (c.slots j).valid = false)
    (hnew : ∀ k < m, (c.slots k).valid = true → (c.slots k).generation ≠ c.nextSchedule)
    (hdest : d = n ∨ d < n ∧ (c.records d).state = .free) :
    Inv n m max ⟨c.schedule n j d e (g.position max (g.scheduled + 1)), g.schedule n j d⟩ := by
  obtain ⟨hsched, hfirst, hcomp⟩ := h.clock hrun
  -- The new slot, and the others as they were.
  have hcases : ∀ k, (k = j ∧ Function.update c.slots j
        ⟨c.nextFirst, c.nextSchedule, d, 0, true, false, e⟩ k =
        ⟨c.nextFirst, c.nextSchedule, d, 0, true, false, e⟩ ∧
        Function.update g.ordinal j g.scheduled k = g.scheduled) ∨
      (k ≠ j ∧ Function.update c.slots j ⟨c.nextFirst, c.nextSchedule, d, 0, true, false, e⟩ k =
        c.slots k ∧ Function.update g.ordinal j g.scheduled k = g.ordinal k) := by
    intro k
    by_cases hk : k = j
    · exact Or.inl ⟨hk, by rw [hk, Function.update_self], by rw [hk, Function.update_self]⟩
    · exact Or.inr ⟨hk, Function.update_of_ne hk _ _, Function.update_of_ne hk _ _⟩
  -- A buffer of another slot is not the one just taken.
  have hother : ∀ k < m, (c.slots k).valid = true → (c.slots k).destination < n →
      (c.slots k).destination ≠ d := by
    intro k hk hv hlt heq
    rcases hdest with rfl | ⟨-, hs⟩
    · omega
    · rw [← heq, h.owned k hk hv hlt] at hs
      cases hs
  have hrec : ∀ i, i ≠ d → (if d < n then Function.update c.records d
      ⟨.dmaOwned, c.epoch, c.nextSchedule, c.nextFirst, 0⟩ else c.records) i = c.records i := by
    intro i hi
    split
    · exact Function.update_of_ne hi _ _
    · rfl
  have htag : ∀ i, i ≠ d →
      (if d < n then Function.update g.tag d g.scheduled else g.tag) i = g.tag i := by
    intro i hi
    split
    · exact Function.update_of_ne hi _ _
    · rfl
  refine ⟨?_, ?_, ?_, ?_, ?_, ?_, ?_, ?_, ?_⟩
  · intro a ha b hb hva hvb heq
    simp only [Core.schedule] at hva hvb heq
    rcases hcases a with ⟨rfl, hsa, -⟩ | ⟨-, hsa, -⟩ <;>
      rcases hcases b with ⟨rfl, hsb, -⟩ | ⟨-, hsb, -⟩
    · rfl
    · rw [hsb] at hvb
      rw [hsa, hsb] at heq
      exact absurd heq.symm (hnew b hb hvb)
    · rw [hsa] at hva
      rw [hsa, hsb] at heq
      exact absurd heq (hnew a ha hva)
    · rw [hsa] at hva
      rw [hsb] at hvb
      rw [hsa, hsb] at heq
      exact h.distinct a ha b hb hva hvb heq
  · intro k hk hv
    simp only [Core.schedule] at hv ⊢
    rcases hcases k with ⟨rfl, hs, -⟩ | ⟨-, hs, -⟩
    · rw [hs]
      rcases hdest with heq | ⟨hlt, -⟩ <;> simp only <;> omega
    · rw [hs] at hv ⊢
      exact h.target k hk hv
  · intro k hk hv hlt
    simp only [Core.schedule] at hv hlt ⊢
    rcases hcases k with ⟨rfl, hs, -⟩ | ⟨-, hs, -⟩
    · rw [hs] at hlt ⊢
      simp only at hlt
      rw [if_pos hlt]
      exact Function.update_self _ _ _
    · rw [hs] at hv hlt ⊢
      rw [hrec _ (hother k hk hv hlt)]
      exact h.owned k hk hv hlt
  · intro i hi hs
    simp only [Core.schedule] at hs ⊢
    by_cases hid : i = d
    · subst hid
      refine ⟨j, hj, ?_⟩
      rw [Function.update_self]
      exact ⟨rfl, rfl⟩
    · rw [hrec i hid] at hs
      obtain ⟨k, hk, hv, hkd⟩ := h.backed i hi hs
      refine ⟨k, hk, ?_⟩
      rcases hcases k with ⟨rfl, -, -⟩ | ⟨-, hsk, -⟩
      · simp only at hv
        rw [hslot] at hv
        cases hv
      · rw [hsk]
        exact ⟨hv, hkd⟩
  · intro hr
    simp only [Core.schedule] at hr
    rw [hrun] at hr
    cases hr
  · intro k hk hv
    simp only [Core.schedule, Ghost.schedule] at hv ⊢
    rcases hcases k with ⟨rfl, hs, ho⟩ | ⟨-, hs, ho⟩
    · rw [hs, ho]
      exact ⟨hsched, Nat.lt_succ_self _, hfirst⟩
    · rw [hs] at hv
      obtain ⟨h1, h2, h3⟩ := h.numbered k hk hv
      rw [hs, ho]
      exact ⟨h1, Nat.lt_succ_of_lt h2, h3⟩
  · intro k hk hv hlt
    simp only [Core.schedule, Ghost.schedule] at hv hlt ⊢
    rcases hcases k with ⟨rfl, hs, ho⟩ | ⟨-, hs, ho⟩
    · rw [hs] at hlt
      simp only at hlt
      rw [hs, ho, if_pos hlt, Function.update_self]
    · rw [hs] at hv hlt
      rw [hs, ho, htag _ (hother k hk hv hlt)]
      exact h.tagged k hk hv hlt
  · intro _
    simp only [Core.schedule, Ghost.schedule]
    refine ⟨by rw [hsched, number_succ], rfl, hcomp⟩
  · intro i hi hs
    simp only [Core.schedule, Ghost.schedule] at hs ⊢
    by_cases hid : i = d
    · subst hid
      rw [if_pos hi, Function.update_self] at hs
      rcases hs with hs | hs <;> cases hs
    · rw [hrec i hid] at hs ⊢
      rw [htag i hid]
      exact h.placed i hi hs

theorem count_report (g : Ghost δ) (ch a : ℕ) (x : δ) :
    (g.report ch x).count a = g.count a + if a = ch then 1 else 0 := by
  unfold Ghost.count Ghost.report
  by_cases ha : a = ch
  · simp [ha]
  · simp [ha]

/-- The numbers of the next reports after channel `ch` reported. -/
theorem next_report {c : Core ε} {g : Ghost δ} (ch : ℕ) (x : δ)
    (h : ∀ a < 2, c.nextCompletion a = number g.origin (g.count a)) :
    ∀ a < 2, Function.update c.nextCompletion ch (c.nextCompletion ch + 1) a =
      number g.origin ((g.report ch x).count a) := by
  intro a ha
  rw [count_report]
  by_cases hch : a = ch
  · subst hch
    rw [Function.update_self, if_pos rfl, h a ha, number_succ]
  · rw [Function.update_of_ne hch, if_neg hch, h a ha, Nat.add_zero]

theorem report {c : Core ε} {g : Ghost δ} (h : Inv n m max ⟨c, g⟩) (ch j : ℕ) (x : δ) :
    Inv n m max ⟨c.report ch j, g.report ch x⟩ := by
  -- Only the mask of one slot changes.
  have hkeep : ∀ k, ((c.report ch j).slots k).valid = (c.slots k).valid ∧
      ((c.report ch j).slots k).generation = (c.slots k).generation ∧
      ((c.report ch j).slots k).destination = (c.slots k).destination ∧
      ((c.report ch j).slots k).first = (c.slots k).first := by
    intro k
    by_cases hk : k = j
    · simp [Core.report, hk]
    · simp [Core.report, hk]
  refine ⟨?_, ?_, ?_, ?_, ?_, ?_, ?_, ?_, h.placed⟩
  · intro a ha b hb hva hvb heq
    simp only [(hkeep a).1, (hkeep b).1, (hkeep a).2.1, (hkeep b).2.1] at hva hvb heq
    exact h.distinct a ha b hb hva hvb heq
  · intro k hk hv
    simp only [(hkeep k).1, (hkeep k).2.2.1] at hv ⊢
    exact h.target k hk hv
  · intro k hk hv hlt
    simp only [(hkeep k).1, (hkeep k).2.1, (hkeep k).2.2.1, (hkeep k).2.2.2] at hv hlt ⊢
    exact h.owned k hk hv hlt
  · intro i hi hs
    obtain ⟨k, hk, hv, hd⟩ := h.backed i hi hs
    refine ⟨k, hk, ?_⟩
    simp only [(hkeep k).1, (hkeep k).2.2.1]
    exact ⟨hv, hd⟩
  · intro hr k hk
    simp only [(hkeep k).1]
    exact h.idle hr k hk
  · intro k hk hv
    simp only [(hkeep k).1, (hkeep k).2.1, (hkeep k).2.2.2] at hv ⊢
    exact h.numbered k hk hv
  · intro k hk hv hlt
    simp only [(hkeep k).1, (hkeep k).2.2.1] at hv hlt ⊢
    exact h.tagged k hk hv hlt
  · intro hr
    obtain ⟨h1, h2, h3⟩ := h.clock hr
    exact ⟨h1, h2, next_report ch x h3⟩

theorem skip {c : Core ε} {g : Ghost δ} (h : Inv n m max ⟨c, g⟩) (ch : ℕ) (x : δ) :
    Inv n m max ⟨c.skip ch, g.report ch x⟩ := by
  refine ⟨h.distinct, h.target, h.owned, h.backed, h.idle, h.numbered, h.tagged, ?_, h.placed⟩
  intro hr
  obtain ⟨h1, h2, h3⟩ := h.clock hr
  exact ⟨h1, h2, next_report ch x h3⟩

/-- What a slot leaves behind when it is settled. -/
theorem settle_slots (c : Core ε) (j k : ℕ) (s : BufferState) :
    (k = j ∧ ((c.settle n j s).slots k).valid = false) ∨
      (k ≠ j ∧ (c.settle n j s).slots k = c.slots k) := by
  by_cases hk : k = j
  · exact Or.inl ⟨hk, by simp [Core.settle, hk, GenerationSlot.empty]⟩
  · exact Or.inr ⟨hk, Function.update_of_ne hk _ _⟩

theorem settle_records (c : Core ε) (j i : ℕ) (s : BufferState) :
    (i < n ∧ i = (c.slots j).destination ∧
      (c.settle n j s).records i = { c.records i with state := s }) ∨
      (i ≠ (c.slots j).destination ∨ ¬i < n) ∧ (c.settle n j s).records i = c.records i := by
  unfold Core.settle Core.setState
  dsimp only
  by_cases hd : (c.slots j).destination < n
  · rw [if_pos hd]
    by_cases hi : i = (c.slots j).destination
    · exact Or.inl ⟨hi ▸ hd, hi, by rw [hi, Function.update_self]⟩
    · exact Or.inr ⟨Or.inl hi, Function.update_of_ne hi _ _⟩
  · rw [if_neg hd]
    refine Or.inr ⟨?_, rfl⟩
    by_cases hi : i = (c.slots j).destination
    · exact Or.inr (hi ▸ hd)
    · exact Or.inl hi

theorem settle {c : Core ε} {g : Ghost δ} {j : ℕ} (h : Inv n m max ⟨c, g⟩) (hj : j < m)
    (hvalid : (c.slots j).valid = true) {s : BufferState} (hs : s = .ready ∨ s = .discardPending) :
    Inv n m max ⟨c.settle n j s, g⟩ := by
  have hne : ∀ k < m, ((c.settle n j s).slots k).valid = true →
      k ≠ j ∧ (c.settle n j s).slots k = c.slots k ∧ (c.slots k).valid = true := by
    intro k _ hv
    rcases settle_slots (n := n) c j k s with ⟨-, hoff⟩ | ⟨hk, hsame⟩
    · rw [hoff] at hv
      cases hv
    · exact ⟨hk, hsame, hsame ▸ hv⟩
  refine ⟨?_, ?_, ?_, ?_, ?_, ?_, ?_, h.clock, ?_⟩
  · intro a ha b hb hva hvb heq
    obtain ⟨-, hsa, hva⟩ := hne a ha hva
    obtain ⟨-, hsb, hvb⟩ := hne b hb hvb
    simp only [hsa, hsb] at heq
    exact h.distinct a ha b hb hva hvb heq
  · intro k hk hv
    obtain ⟨-, hsk, hv⟩ := hne k hk hv
    simp only [hsk]
    exact h.target k hk hv
  · intro k hk hv hlt
    obtain ⟨hkj, hsk, hv⟩ := hne k hk hv
    simp only [hsk] at hlt ⊢
    rcases settle_records (n := n) c j (c.slots k).destination s with ⟨-, heq, -⟩ | ⟨-, hsame⟩
    · exact absurd (h.apart hk hj hv hvalid hlt heq) hkj
    · rw [hsame]
      exact h.owned k hk hv hlt
  · intro i hi hst
    rcases settle_records (n := n) c j i s with ⟨-, -, hrec⟩ | ⟨hout, hrec⟩
    · simp only [hrec] at hst
      rcases hs with rfl | rfl <;> cases hst
    · simp only [hrec] at hst
      obtain ⟨k, hk, hv, hd⟩ := h.backed i hi hst
      refine ⟨k, hk, ?_⟩
      rcases settle_slots (n := n) c j k s with ⟨rfl, -⟩ | ⟨-, hsk⟩
      · rcases hout with hne' | hge
        · exact absurd hd.symm hne'
        · exact absurd hi hge
      · simp only [hsk]
        exact ⟨hv, hd⟩
  · intro hr k hk
    rcases settle_slots (n := n) c j k s with ⟨-, hoff⟩ | ⟨-, hsk⟩
    · exact hoff
    · simp only [hsk]
      exact h.idle hr k hk
  · intro k hk hv
    obtain ⟨-, hsk, hv⟩ := hne k hk hv
    simp only [hsk]
    exact h.numbered k hk hv
  · intro k hk hv hlt
    obtain ⟨-, hsk, hv⟩ := hne k hk hv
    simp only [hsk] at hlt ⊢
    exact h.tagged k hk hv hlt
  · intro i hi hst
    rcases settle_records (n := n) c j i s with ⟨-, hd, hrec⟩ | ⟨-, hrec⟩
    · subst hd
      simp only [hrec]
      have hown := h.owned j hj hvalid hi
      have htag := h.tagged j hj hvalid hi
      simp only at hown htag
      rw [hown, htag]
      exact (h.numbered j hj hvalid).2.2
    · simp only [hrec] at hst ⊢
      exact h.placed i hi hst

theorem halt_slots (c : Core ε) {j : ℕ} (hj : j < m) : ((c.halt n m).slots j).valid = false := by
  simp only [Core.halt]
  by_cases hv : (c.slots j).valid = true
  · rw [if_pos ⟨hj, hv⟩]
    rfl
  · rw [if_neg fun hand => hv hand.2]
    simpa using hv

theorem halt {c : Core ε} {g : Ghost δ} (h : Inv n m max ⟨c, g⟩) :
    Inv n m max ⟨c.halt n m, g⟩ := by
  have hoff : ∀ {j : ℕ}, j < m → ((c.halt n m).slots j).valid = true → False := by
    intro j hj hv
    rw [halt_slots c hj] at hv
    cases hv
  refine ⟨?_, ?_, ?_, ?_, fun _ _ hj => halt_slots c hj, ?_, ?_, ?_, ?_⟩
  · intro a ha b _ hva
    exact (hoff ha hva).elim
  · intro k hk hv
    exact (hoff hk hv).elim
  · intro k hk hv
    exact (hoff hk hv).elim
  · intro i hi hs
    simp only [Core.halt] at hs
    split at hs
    · cases hs
    · next hne => exact absurd ⟨hi, hs⟩ hne
  · intro k hk hv
    exact (hoff hk hv).elim
  · intro k hk hv
    exact (hoff hk hv).elim
  · intro hr
    cases hr
  · intro i hi hs
    simp only [Core.halt] at hs ⊢
    split at hs
    · rcases hs with hs | hs <;> cases hs
    · next hne =>
      rw [if_neg hne]
      exact h.placed i hi hs

theorem acquire {c : Core ε} {g : Ghost δ} {i : ℕ} (h : Inv n m max ⟨c, g⟩) (lease : UInt32)
    (hready : (c.records i).state = .ready) : Inv n m max ⟨c.acquire i lease, g.lend i⟩ := by
  have hcases : ∀ k, (k = i ∧ (c.acquire i lease).records k =
        { c.records i with state := .reading, lease := lease }) ∨
      (k ≠ i ∧ (c.acquire i lease).records k = c.records k) := by
    intro k
    by_cases hk : k = i
    · exact Or.inl ⟨hk, by simp [Core.acquire, hk]⟩
    · exact Or.inr ⟨hk, Function.update_of_ne hk _ _⟩
  refine ⟨h.distinct, h.target, ?_, ?_, h.idle, h.numbered, h.tagged, h.clock, ?_⟩
  · intro k hk hv hlt
    have hown := h.owned k hk hv hlt
    rcases hcases (c.slots k).destination with ⟨heq, -⟩ | ⟨-, hsame⟩
    · simp only [heq] at hown
      rw [hown] at hready
      cases hready
    · exact hsame.trans hown
  · intro k hk hs
    rcases hcases k with ⟨-, hrec⟩ | ⟨-, hrec⟩
    · simp only [hrec] at hs
      cases hs
    · simp only [hrec] at hs
      exact h.backed k hk hs
  · intro k hk hs
    rcases hcases k with ⟨rfl, hrec⟩ | ⟨-, hrec⟩
    · simp only [hrec]
      exact h.placed k hk (Or.inl hready)
    · simp only [hrec] at hs ⊢
      exact h.placed k hk hs

theorem giveBack {c : Core ε} {g : Ghost δ} {i : ℕ} (h : Inv n m max ⟨c, g⟩) (r : BufferRecord)
    (hold : (c.records i).state = .reading ∨ (c.records i).state = .discardPending ∨
      (c.records i).state = .releasing) (hnew : r.state = .releasing ∨ r.state = .free)
    (held : List ℕ) :
    Inv n m max ⟨{ c with records := Function.update c.records i r }, { g with held := held }⟩ := by
  have hcases : ∀ k, (k = i ∧ Function.update c.records i r k = r) ∨
      (k ≠ i ∧ Function.update c.records i r k = c.records k) := by
    intro k
    by_cases hk : k = i
    · exact Or.inl ⟨hk, by rw [hk, Function.update_self]⟩
    · exact Or.inr ⟨hk, Function.update_of_ne hk _ _⟩
  refine ⟨h.distinct, h.target, ?_, ?_, h.idle, h.numbered, h.tagged, h.clock, ?_⟩
  · intro k hk hv hlt
    have hown := h.owned k hk hv hlt
    rcases hcases (c.slots k).destination with ⟨heq, -⟩ | ⟨-, hsame⟩
    · simp only [heq] at hown
      rw [hown] at hold
      rcases hold with hs | hs | hs <;> cases hs
    · exact hsame.trans hown
  · intro k hk hs
    rcases hcases k with ⟨-, hrec⟩ | ⟨-, hrec⟩
    · simp only [hrec] at hs
      rw [hs] at hnew
      rcases hnew with hs | hs <;> cases hs
    · simp only [hrec] at hs
      exact h.backed k hk hs
  · intro k hk hs
    rcases hcases k with ⟨-, hrec⟩ | ⟨-, hrec⟩
    · simp only [hrec] at hs
      rcases hs with hs | hs <;> rw [hs] at hnew <;> rcases hnew with hs | hs <;> cases hs
    · simp only [hrec] at hs ⊢
      exact h.placed k hk hs

theorem prime {c : Core ε} (epoch origin : UInt32) {first : ℕ} (width : ℕ) (expects : ℕ → ℕ → δ)
    (hfree : ∀ i < n, (c.records i).state = .free) (hfirst : first ≤ max) :
    Inv n m max ⟨c.primed epoch origin first, Ghost.start origin first width expects⟩ := by
  refine ⟨?_, ?_, ?_, ?_, ?_, ?_, ?_, ?_, ?_⟩
  · intro a _ b _ hva
    cases hva
  · intro k _ hv
    cases hv
  · intro k _ hv
    cases hv
  · intro i hi hs
    simp only [Core.primed] at hs
    rw [hfree i hi] at hs
    cases hs
  · intro hr
    cases hr
  · intro k _ hv
    cases hv
  · intro k _ hv
    cases hv
  · intro _
    refine ⟨?_, ?_, ?_⟩
    · simp [Core.primed, Ghost.start, number]
    · simp only [Core.primed, Ghost.start, Ghost.position, stamp]
      omega
    · intro ch _
      simp [Core.primed, Ghost.start, number, Ghost.count]
  · intro i hi hs
    simp only [Core.primed] at hs
    rw [hfree i hi] at hs
    rcases hs with hs | hs <;> cases hs

/-- Ownership survives every move. -/
theorem move {b : Bool} {v w : World ε δ} (h : Inv n m max v) (hm : Move n m max b v w) :
    Inv n m max w := by
  cases hm with
  | mark P E => exact h.mark P E
  | schedule e hrun hj hslot hnew hdest => exact h.schedule e hrun hj hslot hnew hdest
  | report x => exact h.report _ _ x
  | skip x => exact h.skip _ x
  | fail =>
    exact ⟨h.distinct, h.target, h.owned, h.backed, h.idle, h.numbered, h.tagged, h.clock, h.placed⟩
  | publish hj hvalid => exact h.settle hj hvalid (Or.inl rfl)
  | lose hj hvalid => exact h.settle hj hvalid (Or.inr rfl)
  | halt => exact h.halt
  | acquire lease _ hready => exact h.acquire lease hready
  | release r hold hnew => exact h.giveBack r (Or.inl hold) hnew _
  | giveBack r hold hnew => exact h.giveBack r (Or.inr hold) hnew _
  | prime epoch origin first width expects _ hfree hfirst =>
    exact Inv.prime epoch origin width expects hfree hfirst

theorem moves {b : Bool} {v w : World ε δ} (h : Inv n m max v) (hm : Moves n m max b v w) :
    Inv n m max w := by
  induction hm with
  | refl => exact h
  | tail _ hlast ih => exact ih.move hlast

end Inv

/-! ### Leases -/

/-- The buffers the consumer has are the ones it reads. -/
def Held (n : ℕ) (w : World ε δ) : Prop :=
  ∀ i ∈ w.ghost.held, i < n ∧ (w.core.records i).state = .reading

/-- The buffer of a slot is not being read. -/
theorem Held.settled {c : Core ε} {g : Ghost δ} {j i : ℕ} (h : Inv n m max ⟨c, g⟩) (hj : j < m)
    (hvalid : (c.slots j).valid = true) (hread : (c.records i).state = .reading) (s : BufferState) :
    ((c.settle n j s).records i).state = .reading := by
  rcases Inv.settle_records (n := n) c j i s with ⟨hlt, heq, -⟩ | ⟨-, hrec⟩
  · subst heq
    have hown := h.owned j hj hvalid hlt
    simp only at hown
    rw [hown] at hread
    cases hread
  · rw [hrec]
    exact hread

/-- Only the consumer ends its leases. -/
theorem Held.move {b : Bool} {v w : World ε δ} (h : Held n v) (hinv : Inv n m max v)
    (hm : Move n m max b v w) : Held n w := by
  cases hm with
  | mark => exact h
  | schedule e _ _ _ _ hdest =>
    intro i hi
    obtain ⟨hlt, hs⟩ := h i hi
    refine ⟨hlt, ?_⟩
    simp only [Core.schedule] at hs ⊢
    split
    · rw [Function.update_of_ne ?_]
      · exact hs
      · -- The scheduled buffer was free.
        rintro rfl
        rcases hdest with rfl | ⟨-, hfree⟩
        · omega
        · rw [hfree] at hs
          cases hs
    · exact hs
  | report => exact h
  | skip => exact h
  | fail => exact h
  | publish hj hvalid _ _ hdest =>
    intro i hi
    obtain ⟨hlt, hs⟩ := h i hi
    exact ⟨hlt, Held.settled hinv hj hvalid hs _⟩
  | lose hj hvalid _ =>
    intro i hi
    obtain ⟨hlt, hs⟩ := h i hi
    exact ⟨hlt, Held.settled hinv hj hvalid hs _⟩
  | halt =>
    intro i hi
    obtain ⟨hlt, hs⟩ := h i hi
    refine ⟨hlt, ?_⟩
    simp only [Core.halt] at hs ⊢
    rw [if_neg (by rw [hs]; simp)]
    exact hs
  | @acquire c g i lease hi hready =>
    intro k hk
    rcases List.mem_append.mp hk with hk | hk
    · obtain ⟨hlt, hs⟩ := h k hk
      refine ⟨hlt, ?_⟩
      simp only [Core.acquire]
      by_cases heq : k = i
      · rw [heq, Function.update_self]
      · rw [Function.update_of_ne heq]
        exact hs
    · rw [List.mem_singleton.mp hk]
      exact ⟨hi, by simp [Core.acquire]⟩
  | release r hold hnew =>
    intro k hk
    obtain ⟨hk, hne⟩ := List.mem_filter.mp hk
    obtain ⟨hlt, hs⟩ := h k hk
    refine ⟨hlt, ?_⟩
    simp only
    rw [Function.update_of_ne (of_decide_eq_true hne)]
    exact hs
  | giveBack r hold hnew =>
    intro k hk
    obtain ⟨hlt, hs⟩ := h k hk
    refine ⟨hlt, ?_⟩
    simp only
    rw [Function.update_of_ne ?_]
    · exact hs
    · rintro rfl
      simp only at hs
      rw [hs] at hold
      rcases hold with hs | hs <;> cases hs
  | prime =>
    intro k hk
    cases hk

theorem Held.moves {b : Bool} {v w : World ε δ} (h : Held n v) (hinv : Inv n m max v)
    (hm : Moves n m max b v w) : Held n w := by
  induction hm with
  | refl => exact h
  | tail hinit hlast ih => exact ih.move (hinv.moves hinit) hlast

/-! ### Dropping every slot -/

/-- Drop slot `j`, if it is in use. -/
def Core.drop (c : Core ε) (n j : ℕ) : Core ε :=
  if (c.slots j).valid then c.settle n j .discardPending else c

/-- The slots agree with the buffers they name. -/
structure Owned (n m : ℕ) (c : Core ε) : Prop where
  owned : ∀ j < m, (c.slots j).valid = true → (c.slots j).destination < n →
    c.records (c.slots j).destination =
      ⟨.dmaOwned, c.epoch, (c.slots j).generation, (c.slots j).first, 0⟩
  apart : ∀ j < m, ∀ k < m, (c.slots j).valid = true → (c.slots k).valid = true →
    (c.slots j).destination < n → (c.slots j).destination = (c.slots k).destination → j = k

theorem Inv.toOwned {w : World ε δ} (h : Inv n m max w) : Owned n m w.core :=
  ⟨h.owned, fun _ hj _ hk hvj hvk hd heq => h.apart hj hk hvj hvk hd heq⟩

theorem Owned.drop {c : Core ε} (h : Owned n m c) {j : ℕ} (hj : j < m) : Owned n m (c.drop n j) := by
  unfold Core.drop
  by_cases hvalid : (c.slots j).valid = true
  swap
  · rw [if_neg hvalid]
    exact h
  rw [if_pos hvalid]
  have hne : ∀ k, ((c.settle n j .discardPending).slots k).valid = true →
      k ≠ j ∧ (c.settle n j .discardPending).slots k = c.slots k := by
    intro k hv
    rcases Inv.settle_slots (n := n) c j k .discardPending with ⟨-, hoff⟩ | hkeep
    · rw [hoff] at hv
      cases hv
    · exact hkeep
  constructor
  · intro k hk hv hlt
    obtain ⟨hkj, hsame⟩ := hne k hv
    rw [hsame] at hv hlt ⊢
    rcases Inv.settle_records (n := n) c j (c.slots k).destination .discardPending with
      ⟨-, heq, -⟩ | ⟨-, hrec⟩
    · exact absurd (h.apart k hk j hj hv hvalid hlt heq) hkj
    · rw [hrec]
      exact h.owned k hk hv hlt
  · intro a ha b hb hva hvb hlt heq
    obtain ⟨-, hsa⟩ := hne a hva
    obtain ⟨-, hsb⟩ := hne b hvb
    rw [hsa] at hva hlt heq
    rw [hsb] at hvb heq
    exact h.apart a ha b hb hva hvb hlt heq

/-- `d` is `c` without its first `k` slots. -/
structure Dropped (n k : ℕ) (c d : Core ε) : Prop where
  slots : ∀ j, d.slots j = if j < k ∧ (c.slots j).valid = true then GenerationSlot.empty else c.slots j
  hit : ∀ i < n, (∃ j < k, (c.slots j).valid = true ∧ (c.slots j).destination = i) →
    d.records i = { c.records i with state := .discardPending }
  miss : ∀ i, ¬(i < n ∧ ∃ j < k, (c.slots j).valid = true ∧ (c.slots j).destination = i) →
    d.records i = c.records i
  rest : d.nextCompletion = c.nextCompletion ∧ d.nextFirst = c.nextFirst ∧
    d.nextSchedule = c.nextSchedule ∧ d.epoch = c.epoch ∧ d.running = c.running

theorem Dropped.succ {k : ℕ} {c d : Core ε} (h : Dropped n k c d) :
    Dropped n (k + 1) c (d.drop n k) := by
  have hk : d.slots k = c.slots k := by
    rw [h.slots, if_neg (by omega)]
  unfold Core.drop
  by_cases hvalid : (c.slots k).valid = true
  · rw [hk, if_pos hvalid]
    refine ⟨?_, ?_, ?_, h.rest⟩
    · intro j
      simp only [Core.settle]
      by_cases hjk : j = k
      · subst hjk
        rw [Function.update_self, if_pos ⟨by omega, hvalid⟩]
      · rw [Function.update_of_ne hjk, h.slots]
        congr 1
        exact propext ⟨fun ⟨hlt, hv⟩ => ⟨by omega, hv⟩, fun ⟨hlt, hv⟩ => ⟨by omega, hv⟩⟩
    · rintro i hi ⟨j, hj, hv, hd⟩
      rcases Inv.settle_records (n := n) d k i .discardPending with ⟨-, -, hrec⟩ | ⟨hout, hrec⟩
      · rw [hrec]
        by_cases hbefore : ∃ j < k, (c.slots j).valid = true ∧ (c.slots j).destination = i
        · rw [h.hit i hi hbefore]
        · rw [h.miss i fun hh => hbefore hh.2]
      · rw [hrec]
        have hjk : j ≠ k := by
          rintro rfl
          rw [hk] at hout
          rcases hout with hne | hge
          · exact hne hd.symm
          · exact hge hi
        exact h.hit i hi ⟨j, by omega, hv, hd⟩
    · intro i hnone
      rcases Inv.settle_records (n := n) d k i .discardPending with ⟨hi, heq, -⟩ | ⟨-, hrec⟩
      · rw [hk] at heq
        exact absurd ⟨hi, k, by omega, hvalid, heq.symm⟩ hnone
      · rw [hrec]
        apply h.miss
        rintro ⟨hi, j, hj, hv, hd⟩
        exact hnone ⟨hi, j, by omega, hv, hd⟩
  · rw [hk, if_neg hvalid]
    -- An empty slot changes nothing.
    have hiff : ∀ i, (∃ j < k + 1, (c.slots j).valid = true ∧ (c.slots j).destination = i) ↔
        ∃ j < k, (c.slots j).valid = true ∧ (c.slots j).destination = i := by
      intro i
      constructor
      · rintro ⟨j, hj, hv, hd⟩
        have hjk : j ≠ k := by
          rintro rfl
          exact hvalid hv
        exact ⟨j, by omega, hv, hd⟩
      · rintro ⟨j, hj, hv, hd⟩
        exact ⟨j, by omega, hv, hd⟩
    refine ⟨?_, ?_, ?_, h.rest⟩
    · intro j
      rw [h.slots]
      congr 1
      refine propext ⟨fun ⟨hlt, hv⟩ => ⟨by omega, hv⟩, fun ⟨hlt, hv⟩ => ⟨?_, hv⟩⟩
      have hjk : j ≠ k := by
        rintro rfl
        exact hvalid hv
      omega
    · intro i hi hex
      exact h.hit i hi ((hiff i).mp hex)
    · intro i hnone
      apply h.miss
      rwa [hiff] at hnone

theorem dropped (n k : ℕ) (c : Core ε) :
    Dropped n k c ((List.range k).foldl (fun c j => c.drop n j) c) := by
  induction k with
  | zero => exact ⟨fun _ => by simp, fun i _ ⟨j, hj, _⟩ => by omega, fun _ _ => rfl, rfl, rfl, rfl, rfl, rfl⟩
  | succ k ih =>
    rw [List.range_succ, List.foldl_append]
    exact ih.succ

/-- Dropping the slots one by one halts the barrier. -/
theorem Inv.drop_all {c : Core ε} {g : Ghost δ} (h : Inv n m max ⟨c, g⟩) :
    (List.range m).foldl (fun c j => c.drop n j) { c with running := false } = c.halt n m := by
  have hd := dropped n m { c with running := false }
  obtain ⟨hcomp, hfirst, hsched, hepoch, hrun⟩ := hd.rest
  ext1
  · funext i
    simp only [Core.halt]
    by_cases hhit : i < n ∧ (c.records i).state = .dmaOwned
    · rw [if_pos hhit]
      exact hd.hit i hhit.1 (h.backed i hhit.1 hhit.2)
    · rw [if_neg hhit]
      apply hd.miss
      rintro ⟨hi, j, hj, hv, rfl⟩
      have hown := h.owned j hj hv hi
      simp only at hown
      exact hhit ⟨hi, by rw [hown]⟩
  · funext j
    exact hd.slots j
  · exact hcomp
  · exact hfirst
  · exact hsched
  · exact hepoch
  · exact hrun

/-! ### Order -/

section Order

variable (n m)

/-- What holds as long as no channel runs past the table. -/
structure Tight (w : World ε δ) : Prop where
  wide : 0 < w.ghost.width
  small : ∀ j < m, (w.core.slots j).valid = true → (w.core.slots j).completionMask < 4
  bits : ∀ j < m, (w.core.slots j).valid = true → ∀ ch < 2,
    (w.core.slots j).completionMask.testBit ch = true ↔ w.ghost.ordinal j < w.ghost.count ch
  cover : w.core.running = true → ∀ k < w.ghost.scheduled,
    w.ghost.count 0 ≤ k ∨ w.ghost.count 1 ≤ k →
      ∃ j < m, (w.core.slots j).valid = true ∧ w.ghost.ordinal j = k
  reach : w.core.running = true → ∀ ch < 2, w.ghost.count ch ≤ w.ghost.scheduled
  finished : ∀ j < m, (w.core.slots j).valid = true → (w.core.slots j).completionMask = 3 →
    w.ghost.count 0 ≤ w.ghost.ordinal j + 1 ∨ w.ghost.count 1 ≤ w.ghost.ordinal j + 1
  above : ∀ j < m, (w.core.slots j).valid = true → ∀ i < n, (w.core.records i).state = .ready →
    w.ghost.tag i < w.ghost.ordinal j
  beyond : ∀ j < m, (w.core.slots j).valid = true → ∀ d ∈ w.ghost.delivered, d < w.ghost.ordinal j
  after : ∀ i < n, (w.core.records i).state = .ready → ∀ d ∈ w.ghost.delivered, d < w.ghost.tag i
  unlike : ∀ i < n, ∀ k < n, (w.core.records i).state = .ready → (w.core.records k).state = .ready →
    w.ghost.tag i = w.ghost.tag k → i = k
  sorted : w.ghost.delivered.Pairwise (· < ·)
  past : ∀ i < n, (w.core.records i).state = .ready ∨ (w.core.records i).state = .reading →
    ∀ ch < 2, w.ghost.tag i < w.ghost.count ch
  pastDelivered : ∀ d ∈ w.ghost.delivered, ∀ ch < 2, d < w.ghost.count ch
  reported : ∀ j < m, (w.core.slots j).valid = true → ∀ ch < 2,
    (w.core.slots j).completionMask.testBit ch = true →
      ∃ x, (w.ghost.done ch)[w.ghost.ordinal j]? = some x ∧ ((w.core.slots j).invalidData = true ∨
        x = w.ghost.expects (w.core.slots j).destination (w.core.slots j).first)
  blamed : ∀ j < m, (w.core.slots j).valid = true → ∀ ch < 2,
    w.ghost.ordinal j ∈ w.ghost.failed ch → (w.core.slots j).invalidData = true
  failedLt : w.core.running = true → ∀ ch < 2, ∀ k ∈ w.ghost.failed ch, k < w.ghost.scheduled
  clean : ∀ i < n, (w.core.records i).state = .ready ∨ (w.core.records i).state = .reading →
    ∀ ch < 2, (w.ghost.done ch)[w.ghost.tag i]? =
      some (w.ghost.expects i (w.core.records i).first) ∧ w.ghost.tag i ∉ w.ghost.failed ch

variable {n m}

/-- Different slots have different ordinals. -/
theorem Inv.ordinal_inj {w : World ε δ} (h : Inv n m max w) {j k : ℕ} (hj : j < m) (hk : k < m)
    (hvj : (w.core.slots j).valid = true) (hvk : (w.core.slots k).valid = true)
    (heq : w.ghost.ordinal j = w.ghost.ordinal k) : j = k := by
  apply h.distinct j hj k hk hvj hvk
  rw [(h.numbered j hj hvj).1, (h.numbered k hk hvk).1, heq]

namespace Tight

/-- A mask that is not full has a clear bit. -/
theorem clear_of_ne {mask : ℕ} (hlt : mask < 4) (hne : mask ≠ 3) :
    ∃ ch < 2, mask.testBit ch = false := by
  interval_cases mask
  · exact ⟨0, by decide, by decide⟩
  · exact ⟨1, by decide, by decide⟩
  · exact ⟨0, by decide, by decide⟩
  · exact absurd rfl hne

/-- The table spans what is scheduled beyond the slower channel. -/
theorem span {w : World ε δ} (h : Tight n m w) (hrun : w.core.running = true) {lo : ℕ}
    (hlo : w.ghost.count 0 ≤ lo ∨ w.ghost.count 1 ≤ lo) : w.ghost.scheduled ≤ lo + m := by
  have hsub : Finset.Ico lo w.ghost.scheduled ⊆ (Finset.range m).image w.ghost.ordinal := by
    intro k hk
    obtain ⟨hlk, hks⟩ := Finset.mem_Ico.mp hk
    obtain ⟨j, hj, -, hord⟩ := h.cover hrun k hks (hlo.imp (fun h => by omega) fun h => by omega)
    exact Finset.mem_image.mpr ⟨j, Finset.mem_range.mpr hj, hord⟩
  have hcard := (Finset.card_le_card hsub).trans Finset.card_image_le
  rw [Nat.card_Ico, Finset.card_range] at hcard
  omega

/-- The slot with the number a channel is at is the slot of the generation it is
at. -/
theorem pin {w : World ε δ} (h : Tight n m w) (hinv : Inv n m max w) (hm : m < 2 ^ 31)
    (hrun : w.core.running = true) {ch j : ℕ} (hch : ch < 2) (hj : j < m)
    (hvalid : (w.core.slots j).valid = true)
    (hgen : (w.core.slots j).generation = w.core.nextCompletion ch)
    (hmask : (w.core.slots j).completionMask ≠ 3) : w.ghost.ordinal j = w.ghost.count ch := by
  obtain ⟨hnum, hlt, -⟩ := hinv.numbered j hj hvalid
  rw [hnum, (hinv.clock hrun).2.2 ch hch] at hgen
  obtain ⟨a, ha, hclear⟩ := clear_of_ne (h.small j hj hvalid) hmask
  have hle : w.ghost.count a ≤ w.ghost.ordinal j := by
    by_contra hcon
    have := (h.bits j hj hvalid a ha).mpr (by omega)
    rw [hclear] at this
    cases this
  have hreach := h.reach hrun ch hch
  have hmin : ∃ lo, (w.ghost.count 0 ≤ lo ∨ w.ghost.count 1 ≤ lo) ∧ lo ≤ w.ghost.ordinal j ∧
      lo ≤ w.ghost.count ch := by
    refine ⟨min (w.ghost.count 0) (w.ghost.count 1), by omega, ?_, ?_⟩
    · interval_cases a <;> omega
    · interval_cases ch <;> omega
  obtain ⟨lo, hlo, h1, h2⟩ := hmin
  have hspan := h.span hrun hlo
  rcases Nat.le_total (w.ghost.ordinal j) (w.ghost.count ch) with hle' | hle'
  · exact number_inj hle' (by omega) hgen
  · exact (number_inj hle' (by omega) hgen.symm).symm

theorem mark {c : Core ε} {g : Ghost δ} (h : Tight n m ⟨c, g⟩) (P : ℕ → Bool) (E : ℕ → ε) :
    Tight n m ⟨{ c with slots := c.marked P E }, g⟩ := by
  refine ⟨h.wide, h.small, h.bits, h.cover, h.reach, h.finished, h.above, h.beyond, h.after,
    h.unlike, h.sorted, h.past, h.pastDelivered, ?_, ?_, h.failedLt, h.clean⟩
  · intro j hj hv ch hch hbit
    obtain ⟨x, hx, hagree⟩ := h.reported j hj hv ch hch hbit
    refine ⟨x, hx, hagree.imp (fun hi => ?_) id⟩
    simp only at hi
    simp [Core.marked, hi]
  · intro j hj hv ch hch hmem
    have hi := h.blamed j hj hv ch hch hmem
    simp only at hi
    simp [Core.marked, hi]

theorem schedule {c : Core ε} {g : Ghost δ} {j d : ℕ} (h : Tight n m ⟨c, g⟩) (e : ε)
    (hrun : c.running = true) (hj : j < m) (hslot : (c.slots j).valid = false)
    (hdest : d = n ∨ d < n ∧ (c.records d).state = .free) (nf : ℕ) :
    Tight n m ⟨c.schedule n j d e nf, g.schedule n j d⟩ := by
  have hreach := h.reach hrun
  simp only at hreach
  have hcases : ∀ k, (k = j ∧ (c.schedule n j d e nf).slots k =
        ⟨c.nextFirst, c.nextSchedule, d, 0, true, false, e⟩ ∧
        (g.schedule n j d).ordinal k = g.scheduled) ∨
      (k ≠ j ∧ (c.schedule n j d e nf).slots k = c.slots k ∧
        (g.schedule n j d).ordinal k = g.ordinal k) := by
    intro k
    by_cases hk : k = j
    · exact Or.inl ⟨hk, by simp [Core.schedule, hk], by simp [Ghost.schedule, hk]⟩
    · exact Or.inr ⟨hk, Function.update_of_ne hk _ _, Function.update_of_ne hk _ _⟩
  -- A buffer that is filled was not touched.
  have hfilled : ∀ i < n, ((c.schedule n j d e nf).records i).state = .ready ∨
      ((c.schedule n j d e nf).records i).state = .reading →
        (c.schedule n j d e nf).records i = c.records i ∧ (g.schedule n j d).tag i = g.tag i := by
    intro i hi hs
    by_cases hid : i = d
    · subst hid
      simp only [Core.schedule, hi, if_true, Function.update_self] at hs
      rcases hs with hs | hs <;> cases hs
    · simp only [Core.schedule, Ghost.schedule]
      constructor
      · split
        · exact Function.update_of_ne hid _ _
        · rfl
      · split
        · exact Function.update_of_ne hid _ _
        · rfl
  refine ⟨h.wide, ?_, ?_, ?_, ?_, ?_, ?_, ?_, ?_, ?_, h.sorted, ?_, h.pastDelivered, ?_, ?_, ?_, ?_⟩
  · intro k hk hv
    rcases hcases k with ⟨rfl, hs, -⟩ | ⟨-, hs, -⟩
    · simp [hs]
    · simp only [hs] at hv ⊢
      exact h.small k hk hv
  · intro k hk hv ch hch
    rcases hcases k with ⟨rfl, hs, ho⟩ | ⟨-, hs, ho⟩
    · simp only [hs, ho, Nat.zero_testBit, Bool.false_eq_true, false_iff]
      exact Nat.not_lt.mpr (hreach ch hch)
    · simp only [hs, ho] at hv ⊢
      exact h.bits k hk hv ch hch
  · intro _ k hk hlow
    rcases Nat.lt_succ_iff_lt_or_eq.mp hk with hlt | rfl
    · obtain ⟨a, ha, hv, hord⟩ := h.cover hrun k hlt hlow
      refine ⟨a, ha, ?_⟩
      rcases hcases a with ⟨rfl, -, -⟩ | ⟨-, hs, ho⟩
      · simp only at hv
        rw [hslot] at hv
        cases hv
      · simp only [hs, ho]
        exact ⟨hv, hord⟩
    · refine ⟨j, hj, ?_⟩
      rcases hcases j with ⟨-, hs, ho⟩ | ⟨hne, -⟩
      · simp only [hs, ho, and_self]
      · exact absurd rfl hne
  · intro _ ch hch
    exact Nat.le_succ_of_le (hreach ch hch)
  · intro k hk hv hmask
    rcases hcases k with ⟨-, hs, -⟩ | ⟨-, hs, ho⟩
    · simp only [hs] at hmask
      cases hmask
    · simp only [hs, ho] at hv hmask ⊢
      exact h.finished k hk hv hmask
  · intro k hk hv i hi hs
    obtain ⟨hrec, htag⟩ := hfilled i hi (Or.inl hs)
    simp only [hrec, htag] at hs ⊢
    rcases hcases k with ⟨-, -, ho⟩ | ⟨-, hsk, ho⟩
    · simp only [ho]
      exact lt_of_lt_of_le (h.past i hi (Or.inl hs) 0 (by decide)) (hreach 0 (by decide))
    · simp only [hsk, ho] at hv ⊢
      exact h.above k hk hv i hi hs
  · intro k hk hv x hx
    rcases hcases k with ⟨-, -, ho⟩ | ⟨-, hsk, ho⟩
    · simp only [ho]
      exact lt_of_lt_of_le (h.pastDelivered x hx 0 (by decide)) (hreach 0 (by decide))
    · simp only [hsk, ho] at hv ⊢
      exact h.beyond k hk hv x hx
  · intro i hi hs
    obtain ⟨hrec, htag⟩ := hfilled i hi (Or.inl hs)
    simp only [hrec, htag] at hs ⊢
    exact h.after i hi hs
  · intro i hi k hk hsi hsk heq
    obtain ⟨hri, hti⟩ := hfilled i hi (Or.inl hsi)
    obtain ⟨hrk, htk⟩ := hfilled k hk (Or.inl hsk)
    simp only [hri, hrk, hti, htk] at hsi hsk heq
    exact h.unlike i hi k hk hsi hsk heq
  · intro i hi hs
    obtain ⟨hrec, htag⟩ := hfilled i hi hs
    simp only [hrec, htag] at hs ⊢
    exact h.past i hi hs
  · intro k hk hv ch hch hbit
    rcases hcases k with ⟨-, hs, -⟩ | ⟨-, hs, ho⟩
    · simp [hs] at hbit
    · simp only [hs, ho] at hv hbit ⊢
      exact h.reported k hk hv ch hch hbit
  · intro k hk hv ch hch hmem
    rcases hcases k with ⟨-, hs, ho⟩ | ⟨-, hs, ho⟩
    · simp only [ho] at hmem
      have := h.failedLt hrun ch hch _ hmem
      simp only at this
      omega
    · simp only [hs, ho] at hv hmem ⊢
      exact h.blamed k hk hv ch hch hmem
  · intro _ ch hch k hk
    exact Nat.lt_succ_of_lt (h.failedLt hrun ch hch k hk)
  · intro i hi hs
    obtain ⟨hrec, htag⟩ := hfilled i hi hs
    simp only [hrec, htag] at hs ⊢
    exact h.clean i hi hs

theorem testBit_report (mask ch a : ℕ) :
    (mask ||| 2 ^ ch).testBit a = true ↔ mask.testBit a = true ∨ a = ch := by
  rw [Nat.testBit_or, Nat.testBit_two_pow, Bool.or_eq_true, decide_eq_true_eq]
  exact or_congr Iff.rfl eq_comm

theorem report {c : Core ε} {g : Ghost δ} {ch j : ℕ} (h : Tight n m ⟨c, g⟩)
    (hinv : Inv n m max ⟨c, g⟩) (hm : m < 2 ^ 31) (x : δ) (hrun : c.running = true) (hch : ch < 2)
    (hset : c.Settled m) (hj : j < m) (hvalid : (c.slots j).valid = true)
    (hgen : (c.slots j).generation = c.nextCompletion ch)
    (hagree : (c.slots j).invalidData = true ∨
      x = g.expects (c.slots j).destination (c.slots j).first) :
    Tight n m ⟨c.report ch j, g.report ch x⟩ := by
  have hpin : g.ordinal j = g.count ch := h.pin hinv hm hrun hch hj hvalid hgen (hset j hj hvalid)
  have hcount := Inv.count_report g ch (x := x)
  have hgrow : ∀ a, g.count a ≤ (g.report ch x).count a := by
    intro a
    rw [hcount]
    omega
  have hcases : ∀ k, ((c.report ch j).slots k).valid = (c.slots k).valid ∧
      ((c.report ch j).slots k).destination = (c.slots k).destination ∧
      ((c.report ch j).slots k).first = (c.slots k).first ∧
      ((c.report ch j).slots k).invalidData = (c.slots k).invalidData ∧
      ((k = j ∧ ((c.report ch j).slots k).completionMask =
          (c.slots k).completionMask ||| 2 ^ ch) ∨
        (k ≠ j ∧ ((c.report ch j).slots k).completionMask = (c.slots k).completionMask)) := by
    intro k
    by_cases hk : k = j
    · simp [Core.report, hk]
    · simp [Core.report, hk]
  -- Earlier reports keep their place.
  have hkeep : ∀ (a k : ℕ), k < g.count a → ((g.report ch x).done a)[k]? = (g.done a)[k]? := by
    intro a k hk
    by_cases ha : a = ch
    · subst ha
      simp only [Ghost.report, Function.update_self]
      exact List.getElem?_append_left hk
    · simp only [Ghost.report, Function.update_of_ne ha]
  refine ⟨h.wide, ?_, ?_, ?_, ?_, ?_, ?_, ?_, h.after, h.unlike, h.sorted, ?_, ?_, ?_, ?_, h.failedLt,
    ?_⟩
  · intro k hk hv
    obtain ⟨hvk, -, -, -, hmask⟩ := hcases k
    simp only [hvk] at hv ⊢
    have hold := h.small k hk hv
    simp only at hold
    rcases hmask with ⟨-, hmask⟩ | ⟨-, hmask⟩
    · rw [hmask]
      exact Nat.or_lt_two_pow (n := 2) hold (by interval_cases ch <;> decide)
    · rw [hmask]
      exact hold
  · intro k hk hv a ha
    obtain ⟨hvk, -, -, -, hmask⟩ := hcases k
    simp only [hvk] at hv ⊢
    have hold := h.bits k hk hv a ha
    simp only at hold
    have hord : (g.report ch x).ordinal k = g.ordinal k := rfl
    rw [hcount a, hord]
    rcases hmask with ⟨rfl, hmask⟩ | ⟨hne, hmask⟩
    · rw [hmask, testBit_report, hold]
      by_cases hac : a = ch
      · subst hac
        simp only [if_true, or_true, true_iff]
        omega
      · simp only [hac, or_false, if_false, Nat.add_zero]
    · rw [hmask, hold]
      by_cases hac : a = ch
      · subst hac
        -- Another slot is not at the generation just reported.
        have hother : g.ordinal k ≠ g.count a := fun heq =>
          hne (hinv.ordinal_inj hk hj hv hvalid (heq.trans hpin.symm))
        simp only [if_true]
        omega
      · simp only [hac, if_false, Nat.add_zero]
  · intro _ k hk hlow
    obtain ⟨a, ha, hv, hord⟩ := h.cover hrun k hk
      (hlow.imp (fun hl => le_trans (hgrow 0) hl) fun hl => le_trans (hgrow 1) hl)
    refine ⟨a, ha, ?_, hord⟩
    simp only [(hcases a).1]
    exact hv
  · intro _ a ha
    have hold := h.reach hrun a ha
    have hlt := (hinv.numbered j hj hvalid).2.1
    simp only at hold hlt
    rw [hcount a]
    have hsame : (g.report ch x).scheduled = g.scheduled := rfl
    rw [hsame]
    split
    · next hac => subst hac; omega
    · omega
  · intro k hk hv hmask
    obtain ⟨hvk, -, -, -, hm'⟩ := hcases k
    simp only [hvk] at hv
    rcases hm' with ⟨rfl, -⟩ | ⟨-, hm'⟩
    · have hbound : (g.report ch x).count ch = g.ordinal k + 1 := by
        rw [hcount, if_pos rfl, hpin]
      interval_cases ch
      · exact Or.inl (le_of_eq hbound)
      · exact Or.inr (le_of_eq hbound)
    · simp only [hm'] at hmask
      exact absurd hmask (hset k hk hv)
  · intro k hk hv
    simp only [(hcases k).1] at hv
    exact h.above k hk hv
  · intro k hk hv
    simp only [(hcases k).1] at hv
    exact h.beyond k hk hv
  · intro i hi hs a ha
    exact lt_of_lt_of_le (h.past i hi hs a ha) (hgrow a)
  · intro d hd a ha
    exact lt_of_lt_of_le (h.pastDelivered d hd a ha) (hgrow a)
  · intro k hk hv a ha hbit
    obtain ⟨hvk, hdk, hfk, hik, hmask⟩ := hcases k
    simp only [hvk] at hv
    simp only [hdk, hfk, hik]
    by_cases hnew : k = j ∧ a = ch
    · obtain ⟨rfl, rfl⟩ := hnew
      refine ⟨x, ?_, hagree⟩
      simp only [Ghost.report, Function.update_self, hpin]
      exact List.getElem?_concat_length
    · have hold : (c.slots k).completionMask.testBit a = true := by
        rcases hmask with ⟨rfl, hmask⟩ | ⟨-, hmask⟩
        · simp only [hmask] at hbit
          exact ((testBit_report _ _ _).mp hbit).resolve_right fun heq => hnew ⟨rfl, heq⟩
        · simp only [hmask] at hbit
          exact hbit
      obtain ⟨y, hy, hagree'⟩ := h.reported k hk hv a ha hold
      refine ⟨y, ?_, hagree'⟩
      exact (hkeep a _ ((h.bits k hk hv a ha).mp hold)).trans hy
  · intro k hk hv a ha hmem
    simp only [(hcases k).1] at hv
    simp only [(hcases k).2.2.2.1]
    exact h.blamed k hk hv a ha hmem
  · intro i hi hs a ha
    obtain ⟨hdone, hfail⟩ := h.clean i hi hs a ha
    exact ⟨(hkeep a _ (h.past i hi hs a ha)).trans hdone, hfail⟩

theorem mem_failed_fail (g : Ghost δ) (ch a k : ℕ) :
    k ∈ (g.fail ch).failed a ↔ k ∈ g.failed a ∨ a = ch ∧ k = g.count ch := by
  by_cases ha : a = ch
  · subst ha
    simp [Ghost.fail]
  · simp [Ghost.fail, ha]

theorem fail {c : Core ε} {g : Ghost δ} {ch : ℕ} (h : Tight n m ⟨c, g⟩)
    (hinv : Inv n m max ⟨c, g⟩) (hm : m < 2 ^ 31) (hrun : c.running = true) (hch : ch < 2)
    (hset : c.Settled m)
    (hhit : ∀ j < m, (c.slots j).valid = true → (c.slots j).generation = c.nextCompletion ch →
      (c.slots j).invalidData = true)
    (hslot : ∃ j < m, (c.slots j).valid = true ∧ (c.slots j).generation = c.nextCompletion ch) :
    Tight n m ⟨c, g.fail ch⟩ := by
  obtain ⟨j, hj, hv, hgen⟩ := hslot
  have hpin : g.ordinal j = g.count ch := h.pin hinv hm hrun hch hj hv hgen (hset j hj hv)
  have hlt := (hinv.numbered j hj hv).2.1
  simp only at hlt
  refine ⟨h.wide, h.small, h.bits, h.cover, h.reach, h.finished, h.above, h.beyond, h.after, h.unlike,
    h.sorted, h.past, h.pastDelivered, h.reported, ?_, ?_, ?_⟩
  · intro k hk hvk a ha hmem
    rcases (mem_failed_fail g ch a _).mp hmem with hold | ⟨-, heq⟩
    · exact h.blamed k hk hvk a ha hold
    · apply hhit k hk hvk
      rw [(hinv.numbered k hk hvk).1, (hinv.clock hrun).2.2 ch hch]
      exact congrArg _ heq
  · intro _ a ha k hk
    rcases (mem_failed_fail g ch a _).mp hk with hold | ⟨-, rfl⟩
    · exact h.failedLt hrun a ha k hold
    · exact hpin ▸ hlt
  · intro i hi hs a ha
    obtain ⟨hdone, hclean⟩ := h.clean i hi hs a ha
    refine ⟨hdone, fun hmem => ?_⟩
    rcases (mem_failed_fail g ch a _).mp hmem with hold | ⟨-, heq⟩
    · exact hclean hold
    · have := h.past i hi hs ch hch
      simp only at this heq
      have hsame : (g.fail ch).tag i = g.tag i := rfl
      rw [hsame] at heq
      omega

theorem settle {c : Core ε} {g : Ghost δ} {j : ℕ} (h : Tight n m ⟨c, g⟩)
    (hinv : Inv n m max ⟨c, g⟩) (hj : j < m) (hvalid : (c.slots j).valid = true)
    (hmask : (c.slots j).completionMask = 3) {s : BufferState}
    (hs : s = .discardPending ∨ s = .ready ∧ (c.slots j).invalidData = false) :
    Tight n m ⟨c.settle n j s, g⟩ := by
  have hboth : ∀ ch < 2, g.ordinal j < g.count ch := by
    intro ch hch
    apply (h.bits j hj hvalid ch hch).mp
    simp only [hmask]
    interval_cases ch <;> decide
  have hne : ∀ k < m, ((c.settle n j s).slots k).valid = true →
      k ≠ j ∧ (c.settle n j s).slots k = c.slots k ∧ (c.slots k).valid = true := by
    intro k _ hv
    rcases Inv.settle_slots (n := n) c j k s with ⟨-, hoff⟩ | ⟨hk, hsame⟩
    · rw [hoff] at hv
      cases hv
    · exact ⟨hk, hsame, hsame ▸ hv⟩
  -- Every other slot is of a later generation.
  have hlater : ∀ k < m, (c.slots k).valid = true → k ≠ j → g.ordinal j < g.ordinal k := by
    intro k hk hv hkj
    have hdiff : g.ordinal k ≠ g.ordinal j := fun heq => hkj (hinv.ordinal_inj hk hj hv hvalid heq)
    have h0 := hboth 0 (by decide)
    have h1 := hboth 1 (by decide)
    by_cases hfull : (c.slots k).completionMask = 3
    · have hfin := h.finished k hk hv hfull
      simp only at hfin
      omega
    · obtain ⟨a, ha, hclear⟩ := clear_of_ne (h.small k hk hv) hfull
      have hge : g.count a ≤ g.ordinal k := by
        by_contra hcon
        have := (h.bits k hk hv a ha).mpr (by simp only; omega)
        simp only [hclear] at this
        cases this
      have := hboth a ha
      omega
  -- A filled buffer is the slot's, just published, or was filled before.
  have hfilled : ∀ i < n, ((c.settle n j s).records i).state = .ready ∨
      ((c.settle n j s).records i).state = .reading →
        ((c.settle n j s).records i).first = (c.records i).first ∧
        ((s = .ready ∧ i = (c.slots j).destination ∧ (c.slots j).invalidData = false ∧
            g.tag i = g.ordinal j ∧ (c.records i).first = (c.slots j).first) ∨
          (c.settle n j s).records i = c.records i) := by
    intro i hi hst
    rcases Inv.settle_records (n := n) c j i s with ⟨-, rfl, hrec⟩ | ⟨-, hrec⟩
    · refine ⟨by rw [hrec], Or.inl ?_⟩
      rw [hrec] at hst
      rcases hs with rfl | ⟨rfl, hclean⟩
      · rcases hst with hst | hst <;> cases hst
      · have hown := hinv.owned j hj hvalid hi
        simp only at hown
        exact ⟨rfl, rfl, hclean, hinv.tagged j hj hvalid hi, by rw [hown]⟩
    · exact ⟨by rw [hrec], Or.inr hrec⟩
  refine ⟨h.wide, ?_, ?_, ?_, h.reach, ?_, ?_, ?_, ?_, ?_, h.sorted, ?_, h.pastDelivered, ?_, ?_,
    h.failedLt, ?_⟩
  · intro k hk hv
    obtain ⟨-, hsk, hv⟩ := hne k hk hv
    simp only [hsk]
    exact h.small k hk hv
  · intro k hk hv
    obtain ⟨-, hsk, hv⟩ := hne k hk hv
    simp only [hsk]
    exact h.bits k hk hv
  · intro hrun k hk hlow
    obtain ⟨a, ha, hv, hord⟩ := h.cover hrun k hk hlow
    refine ⟨a, ha, ?_, hord⟩
    rcases Inv.settle_slots (n := n) c j a s with ⟨rfl, -⟩ | ⟨-, hsa⟩
    · have h0 := hboth 0 (by decide)
      have h1 := hboth 1 (by decide)
      simp only at hlow hord
      omega
    · simp only [hsa]
      exact hv
  · intro k hk hv hfull
    obtain ⟨-, hsk, hv⟩ := hne k hk hv
    simp only [hsk] at hfull
    exact h.finished k hk hv hfull
  · intro k hk hv i hi hst
    obtain ⟨hkj, -, hv⟩ := hne k hk hv
    rcases (hfilled i hi (Or.inl hst)).2 with ⟨-, -, -, htag, -⟩ | hrec
    · simp only [htag]
      exact hlater k hk hv hkj
    · simp only [hrec] at hst
      exact h.above k hk hv i hi hst
  · intro k hk hv
    obtain ⟨-, -, hv⟩ := hne k hk hv
    exact h.beyond k hk hv
  · intro i hi hst d hd
    rcases (hfilled i hi (Or.inl hst)).2 with ⟨-, -, -, htag, -⟩ | hrec
    · simp only [htag]
      exact h.beyond j hj hvalid d hd
    · simp only [hrec] at hst
      exact h.after i hi hst d hd
  · intro i hi k hk hsi hsk heq
    rcases (hfilled i hi (Or.inl hsi)).2 with ⟨-, hid, -, hti, -⟩ | hri <;>
      rcases (hfilled k hk (Or.inl hsk)).2 with ⟨-, hkd, -, htk, -⟩ | hrk
    · rw [hid, hkd]
    · simp only [hrk] at hsk
      have := h.above j hj hvalid k hk hsk
      simp only [hti] at heq
      simp only at this
      omega
    · simp only [hri] at hsi
      have := h.above j hj hvalid i hi hsi
      simp only [htk] at heq
      simp only at this
      omega
    · simp only [hri, hrk] at hsi hsk
      exact h.unlike i hi k hk hsi hsk heq
  · intro i hi hst ch hch
    rcases (hfilled i hi hst).2 with ⟨-, -, -, htag, -⟩ | hrec
    · simp only [htag]
      exact hboth ch hch
    · simp only [hrec] at hst
      exact h.past i hi hst ch hch
  · intro k hk hv ch hch hbit
    obtain ⟨-, hsk, hv⟩ := hne k hk hv
    simp only [hsk] at hbit ⊢
    exact h.reported k hk hv ch hch hbit
  · intro k hk hv ch hch hmem
    obtain ⟨-, hsk, hv⟩ := hne k hk hv
    simp only [hsk]
    exact h.blamed k hk hv ch hch hmem
  · intro i hi hst ch hch
    obtain ⟨hfirst, hor⟩ := hfilled i hi hst
    simp only [hfirst]
    rcases hor with ⟨-, hid, hclean, htag, hpos⟩ | hrec
    · have hbit : (c.slots j).completionMask.testBit ch = true := by
        rw [hmask]
        interval_cases ch <;> decide
      obtain ⟨x, hx, hagree⟩ := h.reported j hj hvalid ch hch hbit
      have hexp := hagree.resolve_left (by simp only [hclean]; decide)
      refine ⟨?_, fun hmem => ?_⟩
      · rw [htag, hpos, hid, ← hexp]
        exact hx
      · rw [htag] at hmem
        have := h.blamed j hj hvalid ch hch hmem
        simp only [hclean] at this
        cases this
    · simp only [hrec] at hst
      exact h.clean i hi hst ch hch

theorem halt {c : Core ε} {g : Ghost δ} (h : Tight n m ⟨c, g⟩) : Tight n m ⟨c.halt n m, g⟩ := by
  have hoff : ∀ {j : ℕ}, j < m → ((c.halt n m).slots j).valid = true → False := by
    intro j hj hv
    rw [Inv.halt_slots c hj] at hv
    cases hv
  have hfilled : ∀ i, ((c.halt n m).records i).state = .ready ∨
      ((c.halt n m).records i).state = .reading → (c.halt n m).records i = c.records i := by
    intro i hs
    simp only [Core.halt] at hs ⊢
    split at hs
    · rcases hs with hs | hs <;> cases hs
    · next hne => rw [if_neg hne]
  refine ⟨h.wide, ?_, ?_, ?_, ?_, ?_, ?_, ?_, ?_, ?_, h.sorted, ?_, h.pastDelivered, ?_, ?_, ?_, ?_⟩
  · intro k hk hv
    exact (hoff hk hv).elim
  · intro k hk hv
    exact (hoff hk hv).elim
  · intro hr
    cases hr
  · intro hr
    cases hr
  · intro k hk hv
    exact (hoff hk hv).elim
  · intro k hk hv
    exact (hoff hk hv).elim
  · intro k hk hv
    exact (hoff hk hv).elim
  · intro i hi hs
    simp only [hfilled i (Or.inl hs)] at hs
    exact h.after i hi hs
  · intro i hi k hk hsi hsk
    simp only [hfilled i (Or.inl hsi), hfilled k (Or.inl hsk)] at hsi hsk
    exact h.unlike i hi k hk hsi hsk
  · intro i hi hs
    simp only [hfilled i hs] at hs
    exact h.past i hi hs
  · intro k hk hv
    exact (hoff hk hv).elim
  · intro k hk hv
    exact (hoff hk hv).elim
  · intro hr
    cases hr
  · intro i hi hs
    simp only [hfilled i hs] at hs ⊢
    exact h.clean i hi hs

theorem acquire {c : Core ε} {g : Ghost δ} {i : ℕ} (h : Tight n m ⟨c, g⟩)
    (hinv : Inv n m max ⟨c, g⟩) (lease : UInt32) (hi : i < n)
    (hready : (c.records i).state = .ready) (hmax : (c.records i).first < max)
    (hmin : ∀ k < n, (c.records k).state = .ready → (c.records i).first ≤ (c.records k).first) :
    Tight n m ⟨c.acquire i lease, g.lend i⟩ := by
  have hcases : ∀ k, (k = i ∧ (c.acquire i lease).records k =
        { c.records i with state := .reading, lease := lease }) ∨
      (k ≠ i ∧ (c.acquire i lease).records k = c.records k) := by
    intro k
    by_cases hk : k = i
    · exact Or.inl ⟨hk, by simp [Core.acquire, hk]⟩
    · exact Or.inr ⟨hk, Function.update_of_ne hk _ _⟩
  have hother : ∀ k, ((c.acquire i lease).records k).state = .ready →
      k ≠ i ∧ (c.records k).state = .ready := by
    intro k hs
    rcases hcases k with ⟨-, hrec⟩ | ⟨hk, hrec⟩
    · rw [hrec] at hs
      cases hs
    · exact ⟨hk, hrec ▸ hs⟩
  have hfilled : ∀ k, ((c.acquire i lease).records k).state = .ready ∨
      ((c.acquire i lease).records k).state = .reading →
        ((c.records k).state = .ready ∨ (c.records k).state = .reading) ∧
          ((c.acquire i lease).records k).first = (c.records k).first := by
    intro k hs
    rcases hcases k with ⟨rfl, hrec⟩ | ⟨-, hrec⟩
    · exact ⟨Or.inl hready, by rw [hrec]⟩
    · rw [hrec] at hs
      exact ⟨hs, by rw [hrec]⟩
  -- The oldest position is the oldest generation.
  have hfirst : ∀ k < n, k ≠ i → (c.records k).state = .ready → g.tag i < g.tag k := by
    intro k hk hne hs
    have hpi := hinv.placed i hi (Or.inl hready)
    have hpk := hinv.placed k hk (Or.inl hs)
    have hle := hmin k hk hs
    simp only at hpi hpk
    rw [hpi] at hmax hle
    rw [hpk] at hle
    by_contra hcon
    rcases Nat.lt_or_ge (g.tag k) (g.tag i) with hlt | hge
    · have hmono := stamp_mono max g.first g.width (Nat.le_of_lt hlt)
      have hbelow : stamp max g.first g.width (g.tag k) < max := lt_of_le_of_lt hmono hmax
      have := stamp_lt h.wide hbelow hlt
      unfold Ghost.position at hle
      simp only at this
      omega
    · exact hne (h.unlike k hk i hi hs hready (by simp only; omega))
  refine ⟨h.wide, h.small, h.bits, h.cover, h.reach, h.finished, ?_, ?_, ?_, ?_, ?_, ?_, ?_, h.reported,
    h.blamed, h.failedLt, ?_⟩
  · intro j hj hv k hk hs
    exact h.above j hj hv k hk (hother k hs).2
  · intro j hj hv d hd
    rcases List.mem_append.mp hd with hd | hd
    · exact h.beyond j hj hv d hd
    · rw [List.mem_singleton.mp hd]
      exact h.above j hj hv i hi hready
  · intro k hk hs d hd
    obtain ⟨hne, hs⟩ := hother k hs
    rcases List.mem_append.mp hd with hd | hd
    · exact h.after k hk hs d hd
    · rw [List.mem_singleton.mp hd]
      exact hfirst k hk hne hs
  · intro k hk l hl hsk hsl heq
    exact h.unlike k hk l hl (hother k hsk).2 (hother l hsl).2 heq
  · refine List.pairwise_append.mpr ⟨h.sorted, List.pairwise_singleton _ _, ?_⟩
    intro d hd e he
    rw [List.mem_singleton.mp he]
    exact h.after i hi hready d hd
  · intro k hk hs
    exact h.past k hk (hfilled k hs).1
  · intro d hd ch hch
    rcases List.mem_append.mp hd with hd | hd
    · exact h.pastDelivered d hd ch hch
    · rw [List.mem_singleton.mp hd]
      exact h.past i hi (Or.inl hready) ch hch
  · intro k hk hs
    obtain ⟨hold, hpos⟩ := hfilled k hs
    simp only [hpos]
    exact h.clean k hk hold

theorem giveBack {c : Core ε} {g : Ghost δ} {i : ℕ} (h : Tight n m ⟨c, g⟩) (r : BufferRecord)
    (hnew : r.state = .releasing ∨ r.state = .free) (held : List ℕ) :
    Tight n m ⟨{ c with records := Function.update c.records i r }, { g with held := held }⟩ := by
  have hfilled : ∀ k, (Function.update c.records i r k).state = .ready ∨
      (Function.update c.records i r k).state = .reading →
        Function.update c.records i r k = c.records k := by
    intro k hs
    by_cases hk : k = i
    · subst hk
      rw [Function.update_self] at hs
      rcases hs with hs | hs <;> rw [hs] at hnew <;> rcases hnew with hs | hs <;> cases hs
    · exact Function.update_of_ne hk _ _
  refine ⟨h.wide, h.small, h.bits, h.cover, h.reach, h.finished, ?_, h.beyond, ?_, ?_, h.sorted, ?_,
    h.pastDelivered, h.reported, h.blamed, h.failedLt, ?_⟩
  · intro j hj hv k hk hs
    simp only [hfilled k (Or.inl hs)] at hs
    exact h.above j hj hv k hk hs
  · intro k hk hs
    simp only [hfilled k (Or.inl hs)] at hs
    exact h.after k hk hs
  · intro k hk l hl hsk hsl
    simp only [hfilled k (Or.inl hsk), hfilled l (Or.inl hsl)] at hsk hsl
    exact h.unlike k hk l hl hsk hsl
  · intro k hk hs
    simp only [hfilled k hs] at hs
    exact h.past k hk hs
  · intro k hk hs
    simp only [hfilled k hs] at hs ⊢
    exact h.clean k hk hs

theorem prime {c : Core ε} (epoch origin : UInt32) (first : ℕ) {width : ℕ} (expects : ℕ → ℕ → δ)
    (hfree : ∀ i < n, (c.records i).state = .free) (hwidth : 0 < width) :
    Tight n m ⟨c.primed epoch origin first, Ghost.start origin first width expects⟩ := by
  have hnone : ∀ i < n, ¬((c.records i).state = .ready ∨ (c.records i).state = .reading) := by
    intro i hi hs
    rw [hfree i hi] at hs
    rcases hs with hs | hs <;> cases hs
  refine ⟨hwidth, ?_, ?_, ?_, ?_, ?_, ?_, ?_, ?_, ?_, List.Pairwise.nil, ?_, ?_, ?_, ?_, ?_, ?_⟩
  · intro k _ hv
    cases hv
  · intro k _ hv
    cases hv
  · intro _ k hk
    cases hk
  · intro _ ch _
    exact Nat.le_refl _
  · intro k _ hv
    cases hv
  · intro k _ hv
    cases hv
  · intro k _ hv
    cases hv
  · intro i hi hs
    exact absurd (Or.inl hs) (hnone i hi)
  · intro i hi k _ hs
    exact absurd (Or.inl hs) (hnone i hi)
  · intro i hi hs
    exact absurd hs (hnone i hi)
  · intro d hd
    cases hd
  · intro k _ hv
    cases hv
  · intro k _ hv
    cases hv
  · intro _ ch _ k hk
    cases hk
  · intro i hi hs
    exact absurd hs (hnone i hi)

/-- Order survives every strict move. -/
theorem move {v w : World ε δ} (h : Tight n m v) (hinv : Inv n m max v) (hm : m < 2 ^ 31)
    (hstep : Move n m max true v w) : Tight n m w := by
  cases hstep with
  | mark P E => exact h.mark P E
  | schedule e hrun hj hslot _ hdest => exact h.schedule e hrun hj hslot hdest _
  | report x hrun hch hset hj hvalid hgen _ hagree =>
    exact h.report hinv hm x hrun hch hset hj hvalid hgen hagree
  | skip x hstrict => cases hstrict
  | fail hrun hch hset hhit hstrict => exact h.fail hinv hm hrun hch hset hhit (hstrict rfl)
  | publish hj hvalid hmask hclean =>
    exact h.settle hinv hj hvalid hmask (Or.inr ⟨rfl, hclean⟩)
  | lose hj hvalid hmask => exact h.settle hinv hj hvalid hmask (Or.inl rfl)
  | halt => exact h.halt
  | acquire lease hi hready hmax hmin => exact h.acquire hinv lease hi hready hmax hmin
  | release r _ hnew => exact h.giveBack r hnew _
  | giveBack r _ hnew => exact h.giveBack r hnew _
  | prime epoch origin first width expects _ hfree _ hwidth =>
    exact Tight.prime epoch origin first expects hfree hwidth

theorem moves {v w : World ε δ} (h : Tight n m v) (hinv : Inv n m max v) (hm : m < 2 ^ 31)
    (hsteps : Moves n m max true v w) : Tight n m w := by
  induction hsteps with
  | refl => exact h
  | tail hinit hlast ih => exact ih.move (hinv.moves hinit) hm hlast

end Tight

end Order

end Moves

end Join
