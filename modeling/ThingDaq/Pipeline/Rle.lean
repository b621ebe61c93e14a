import ThingDaq.Lib.Bytes
import ThingDaq.Lib.Runs
import Mathlib.Tactic.Linarith

/-!
# The GPIO run-length encoder

`firmware/src/rle_encoder.cpp`.  A payload is a row of fixed-width items; a
record is a 16-bit run length followed by one item.  Sizing is a read-only first
pass that gives up as soon as the runs seen cannot fit under the selection
ceiling; `encode` and `encodeHybrid16` then write exactly the planned records.
The input and output pages are disjoint pages of the pool, so the encoder's
overlap test never fires and has no counterpart here.

## Main results

* `sizeForAdaptiveSelection_select` — a selected plan counts the maximal runs.
* `encode_select`, `encodeHybrid16_select` — under a selected plan the encoder
  succeeds and writes the records of the maximal runs.
-/

namespace ThingDaq

open Wire

namespace Rle

structure CodecShape where
  itemBytes : ℕ
  maxItems : ℕ
  deriving DecidableEq, Repr

inductive Status
  | ok
  | invalidView
  | invalidShape
  | invalidLength
  | itemCountOverflow
  | sizeOverflow
  | outputTooSmall
  | planMismatch
  deriving DecidableEq, Repr

structure SizingPlan where
  status : Status := .invalidView
  shape : CodecShape
  decodedBytes : ℕ
  itemCount : ℕ := 0
  runCount : ℕ := 0
  encodedPayloadBytes : ℕ := 0
  encodedFrameBytes : ℕ := 0
  deriving DecidableEq, Repr

structure AdaptiveSizingResult where
  status : Status := .invalidView
  plan : SizingPlan
  itemsExamined : ℕ := 0
  runsObserved : ℕ := 0
  selectRle : Bool := false
  deriving DecidableEq, Repr

structure EncodeResult where
  status : Status := .invalidView
  runCount : ℕ := 0
  bytesWritten : ℕ := 0
  deriving DecidableEq, Repr

def kEnvelopeBytes : ℕ := 48

/-- The largest `std::size_t` of the target. -/
def sizeMax : ℕ := 2 ^ 32 - 1

def checkedAdd (left right : ℕ) : Option ℕ :=
  if sizeMax - left < right then none else some (left + right)

def checkedMultiply (left right : ℕ) : Option ℕ :=
  if left ≠ 0 ∧ sizeMax / left < right then none else some (left * right)

/-- The `n` items of width `w` of a payload. -/
def itemsOf (b : Bytes) (w n : ℕ) : List Bytes := (List.range n).map fun i => slice b (i * w) w

/-- The wire form of one record: the run length, then the item. -/
def recordBytes (p : ℕ × Bytes) : Bytes := leBytes 2 p.1 ++ p.2

/-- The records of the maximal runs, the canonical RLE form of a payload. -/
def rleBytes (b : Bytes) (w n : ℕ) : Bytes := (RunLength.runs (itemsOf b w n)).flatMap recordBytes

/-! ### Sizing -/

/-- The sizing loop, one definition for the firmware's four item widths: the
runs so far, the items examined, and whether the ceiling was passed. -/
def countRuns (maximumRuns : ℕ) : Bytes → ℕ → ℕ → List Bytes → ℕ × ℕ × Bool
  | _, runs, examined, [] => (runs, examined, false)
  | previous, runs, examined, current :: rest =>
    if current = previous then countRuns maximumRuns previous runs (examined + 1) rest
    else if maximumRuns < runs + 1 then (runs + 1, examined + 1, true)
    else countRuns maximumRuns current (runs + 1) (examined + 1) rest

def sizeForAdaptiveSelection (decoded : Bytes) (shape : CodecShape)
    (maximumSelectedFrameBytes : ℕ) : AdaptiveSizingResult :=
  let plan : SizingPlan := { shape := shape, decodedBytes := decoded.length }
  let itemCount := decoded.length / shape.itemBytes
  if shape.itemBytes = 0 ∨ shape.maxItems = 0 then { status := .invalidShape, plan := plan }
  else if decoded.length = 0 ∨ decoded.length % shape.itemBytes ≠ 0 then
    { status := .invalidLength, plan := plan }
  else if shape.maxItems < itemCount ∨ 65535 < itemCount then
    { status := .itemCountOverflow, plan := { plan with itemCount := itemCount } }
  else
    let plan := { plan with itemCount := itemCount }
    match checkedAdd shape.itemBytes 2 with
    | none => { status := .invalidLength, plan := plan }
    | some recordBytes =>
      match checkedAdd kEnvelopeBytes recordBytes with
      | none => { status := .invalidLength, plan := plan }
      | some minimumFrameBytes =>
        if maximumSelectedFrameBytes < minimumFrameBytes then
          { status := .invalidLength, plan := plan }
        else
          let maximumSelectedRuns := (maximumSelectedFrameBytes - kEnvelopeBytes) / recordBytes
          let items := itemsOf decoded shape.itemBytes itemCount
          let counted := countRuns maximumSelectedRuns (items.headD []) 1 1 items.tail
          if counted.2.2 then
            { status := .ok, plan := plan, itemsExamined := counted.2.1, runsObserved := counted.1 }
          else
            match checkedMultiply counted.1 recordBytes with
            | none =>
              { status := .sizeOverflow, plan := { plan with runCount := counted.1 }
                itemsExamined := counted.2.1, runsObserved := counted.1 }
            | some payloadBytes =>
              match checkedAdd payloadBytes kEnvelopeBytes with
              | none =>
                { status := .sizeOverflow
                  plan := { plan with runCount := counted.1, encodedPayloadBytes := payloadBytes }
                  itemsExamined := counted.2.1, runsObserved := counted.1 }
              | some frameBytes =>
                { status := .ok
                  plan := { plan with status := .ok, runCount := counted.1
                                      encodedPayloadBytes := payloadBytes
                                      encodedFrameBytes := frameBytes }
                  itemsExamined := counted.2.1, runsObserved := counted.1
                  selectRle := frameBytes ≤ maximumSelectedFrameBytes }

/-! ### Encoding -/

/-- Append one record at an offset of the output, unless it does not fit. -/
def writeRecord (out : Bytes) (offset runLength : ℕ) (item : Bytes) : Option (Bytes × ℕ) :=
  if out.length < offset + (item.length + 2) then none
  else some (store out offset (recordBytes (runLength, item)), offset + (item.length + 2))

/-- The encoder loop: output, write offset, current item, its run length so far
and the runs written. -/
def encodeLoop : Bytes → ℕ → Bytes → ℕ → ℕ → List Bytes → Option (Bytes × ℕ × ℕ)
  | out, offset, current, runLength, runs, [] =>
    (writeRecord out offset runLength current).map fun r => (r.1, r.2, runs + 1)
  | out, offset, current, runLength, runs, item :: rest =>
    if item = current then encodeLoop out offset current (runLength + 1) runs rest
    else
      match writeRecord out offset runLength current with
      | none => none
      | some r => encodeLoop r.1 r.2 item 1 (runs + 1) rest

/-- The consistency test of a plan against its input. -/
def planConsistent (decoded : Bytes) (plan : SizingPlan) : Bool :=
  plan.status = .ok && plan.shape.itemBytes ≠ 0 && plan.shape.maxItems ≠ 0 &&
    plan.decodedBytes = decoded.length && plan.itemCount ≠ 0 &&
    plan.itemCount ≤ plan.shape.maxItems && plan.itemCount ≤ 65535 &&
    plan.runCount ≠ 0 && plan.runCount ≤ plan.itemCount &&
    checkedMultiply plan.itemCount plan.shape.itemBytes = some decoded.length &&
    ((checkedAdd plan.shape.itemBytes 2).bind fun recordBytes =>
      checkedMultiply plan.runCount recordBytes) = some plan.encodedPayloadBytes &&
    checkedAdd plan.encodedPayloadBytes kEnvelopeBytes = some plan.encodedFrameBytes

def encode (decoded : Bytes) (plan : SizingPlan) (output : Bytes) : EncodeResult × Bytes :=
  let items := itemsOf decoded plan.shape.itemBytes plan.itemCount
  let first := items.headD []
  if !planConsistent decoded plan then ({ status := .planMismatch }, output)
  else if output.length < plan.encodedPayloadBytes then ({ status := .outputTooSmall }, output)
  else
    -- the bounded view covers the planned bytes only; the rest of the output is untouched
    let bounded := output.take plan.encodedPayloadBytes
    let rest := output.drop plan.encodedPayloadBytes
    if plan.runCount = 1 then
      if items.all (· = first) then
        match writeRecord bounded 0 plan.itemCount first with
        | none => ({ status := .planMismatch }, output)
        | some r => ({ status := .ok, runCount := 1, bytesWritten := r.2 }, r.1 ++ rest)
      else ({ status := .planMismatch }, output)
    else
      match encodeLoop bounded 0 first 1 0 items.tail with
      | none => ({ status := .planMismatch }, output)
      | some r =>
        if r.2.2 ≠ plan.runCount ∨ r.2.1 ≠ plan.encodedPayloadBytes then
          ({ status := .planMismatch, runCount := r.2.2, bytesWritten := r.2.1 }, r.1 ++ rest)
        else ({ status := .ok, runCount := r.2.2, bytesWritten := r.2.1 }, r.1 ++ rest)

/-- The two-byte encoder writes into the whole output view and checks the plan
only at the end. -/
def encodeHybrid16 (input : Bytes) (plan : SizingPlan) (output : Bytes) : EncodeResult × Bytes :=
  let items := itemsOf input 2 plan.itemCount
  let first := items.headD []
  if plan.status ≠ .ok ∨ plan.shape.itemBytes ≠ 2 ∨ input.length ≠ plan.itemCount * 2 ∨
      output.length < plan.encodedPayloadBytes then
    ({ status := .planMismatch }, output)
  else if plan.runCount = 1 then
    ({ status := .ok, runCount := 1, bytesWritten := 4 },
      store output 0 (recordBytes (plan.itemCount, first)))
  else
    match encodeLoop output 0 first 1 0 items.tail with
    | none => ({ status := .outputTooSmall }, output)
    | some r =>
      ({ status := if r.2.2 = plan.runCount ∧ r.2.1 = plan.encodedPayloadBytes then .ok
          else .planMismatch
         runCount := r.2.2, bytesWritten := r.2.1 }, r.1)

/-! ### The records of a payload -/

@[simp] theorem length_itemsOf (b : Bytes) (w n : ℕ) : (itemsOf b w n).length = n := by
  simp [itemsOf]

theorem length_of_mem_itemsOf {b : Bytes} {w n : ℕ} (h : b.length = n * w) :
    ∀ x ∈ itemsOf b w n, x.length = w := by
  intro x hx
  obtain ⟨i, hi, rfl⟩ := List.mem_map.mp hx
  rw [List.mem_range] at hi
  have : (i + 1) * w ≤ n * w := Nat.mul_le_mul_right w hi
  rw [Nat.succ_mul] at this
  rw [length_slice]
  omega

/-- The items put together again are the payload. -/
theorem flatten_itemsOf {b : Bytes} {w : ℕ} : ∀ {n : ℕ}, b.length = n * w →
    (itemsOf b w n).flatten = b := by
  have key : ∀ n, n * w ≤ b.length → (itemsOf b w n).flatten = b.take (n * w) := by
    intro n
    induction n with
    | zero => intro _; simp [itemsOf]
    | succ n ih =>
      intro h
      rw [Nat.succ_mul] at h
      have hsnoc : itemsOf b w (n + 1) = itemsOf b w n ++ [slice b (n * w) w] := by
        simp [itemsOf, List.range_succ]
      rw [hsnoc, List.flatten_append, ih (by omega), Nat.succ_mul]
      simp [take_append_slice]
  intro n h
  rw [key n (by omega), ← h, List.take_length]

theorem mem_runs_mem {α : Type*} [DecidableEq α] {l : List α} {p : ℕ × α}
    (h : p ∈ RunLength.runs l) : p.2 ∈ l := by
  have hpos := RunLength.runs_pos l p h
  rw [← RunLength.expand_runs l]
  exact List.mem_flatMap.mpr ⟨p, h, List.mem_replicate.mpr ⟨by omega, rfl⟩⟩

theorem length_flatMap_recordBytes {r : List (ℕ × Bytes)} {w : ℕ} (h : ∀ p ∈ r, p.2.length = w) :
    (r.flatMap recordBytes).length = r.length * (w + 2) := by
  induction r with
  | nil => simp
  | cons p r ih =>
    rw [List.flatMap_cons, List.length_append, ih fun q hq => h q (List.mem_cons_of_mem _ hq),
      List.length_cons, Nat.succ_mul, recordBytes, List.length_append, length_leBytes,
      h p List.mem_cons_self]
    omega

theorem length_rleBytes {b : Bytes} {w n : ℕ} (h : b.length = n * w) :
    (rleBytes b w n).length = (RunLength.runs (itemsOf b w n)).length * (w + 2) :=
  length_flatMap_recordBytes fun _ hp => length_of_mem_itemsOf h _ (mem_runs_mem hp)

/-! ### What sizing computes -/

theorem countRuns_eq (maximumRuns : ℕ) (rest : List Bytes) : ∀ (previous : Bytes) (runs examined : ℕ),
    (countRuns maximumRuns previous runs examined rest).2.2 = false →
      (countRuns maximumRuns previous runs examined rest).1 + 1 =
        runs + (RunLength.runs (previous :: rest)).length := by
  induction rest with
  | nil => intro previous runs examined _; rfl
  | cons current rest ih =>
    intro previous runs examined h
    rw [countRuns] at h ⊢
    rw [RunLength.length_runs_cons_cons]
    split at h
    · next hc =>
      subst hc
      rw [if_pos rfl, ih _ _ _ h]
      simp
    · next hc =>
      rw [if_neg hc]
      have hne : ¬previous = current := fun he => hc he.symm
      split at h
      · exact absurd h (by simp)
      · next hm =>
        rw [if_neg hm, ih _ _ _ h, if_neg hne]
        omega

/-- What a selected plan says. -/
structure Selected (decoded : Bytes) (w n maximum : ℕ) (plan : SizingPlan) : Prop where
  status : plan.status = .ok
  itemBytes : plan.shape.itemBytes = w
  maxItems : plan.shape.maxItems = n
  decodedBytes : plan.decodedBytes = decoded.length
  itemCount : plan.itemCount = n
  runCount : plan.runCount = (RunLength.runs (itemsOf decoded w n)).length
  payload : plan.encodedPayloadBytes = plan.runCount * (w + 2)
  frame : plan.encodedFrameBytes = plan.encodedPayloadBytes + 48
  profitable : plan.encodedFrameBytes ≤ maximum

section

variable {decoded : Bytes} {w n maximum : ℕ}

theorem itemsOf_eq_cons (hn : 0 < n) :
    itemsOf decoded w n = (itemsOf decoded w n).headD [] :: (itemsOf decoded w n).tail := by
  cases h : itemsOf decoded w n with
  | nil =>
    have := congrArg List.length h
    simp at this
    omega
  | cons x l => rfl

/-- A selected plan counts the maximal runs, and its frame is under the ceiling. -/
theorem sizeForAdaptiveSelection_select (hw : 0 < w) (hlen : decoded.length = n * w)
    (hsel : (sizeForAdaptiveSelection decoded ⟨w, n⟩ maximum).selectRle = true) :
    Selected decoded w n maximum (sizeForAdaptiveSelection decoded ⟨w, n⟩ maximum).plan := by
  have hdiv : decoded.length / w = n := by rw [hlen, Nat.mul_div_cancel _ hw]
  unfold sizeForAdaptiveSelection at hsel ⊢
  simp only [hdiv] at hsel ⊢
  split at hsel
  · exact absurd hsel (by simp)
  next h1 =>
  split at hsel
  · exact absurd hsel (by simp)
  next h2 =>
  split at hsel
  · exact absurd hsel (by simp)
  next h3 =>
  rw [if_neg h1, if_neg h2, if_neg h3]
  have hn : 0 < n := by omega
  have hrec : checkedAdd w 2 = some (w + 2) ∨ checkedAdd w 2 = none := by
    unfold checkedAdd; split <;> simp
  rcases hrec with hrec | hrec
  swap
  · rw [hrec] at hsel; exact absurd hsel (by simp)
  rw [hrec] at hsel ⊢
  simp only at hsel ⊢
  cases hmin : checkedAdd kEnvelopeBytes (w + 2) with
  | none => rw [hmin] at hsel; exact absurd hsel (by simp)
  | some minimumFrameBytes =>
    rw [hmin] at hsel
    simp only at hsel ⊢
    split at hsel
    · exact absurd hsel (by simp)
    next h4 =>
    rw [if_neg h4]
    split at hsel
    · exact absurd hsel (by simp)
    next h5 =>
    rw [if_neg h5]
    have hcount := countRuns_eq _ _ _ _ _ (Bool.eq_false_iff.mpr h5)
    rw [← itemsOf_eq_cons hn, Nat.add_comm] at hcount
    have hcount' := Nat.add_left_cancel hcount
    rw [hcount'] at hsel ⊢
    cases hmul : checkedMultiply (RunLength.runs (itemsOf decoded w n)).length (w + 2) with
    | none => rw [hmul] at hsel; exact absurd hsel (by simp)
    | some payloadBytes =>
      rw [hmul] at hsel
      simp only at hsel ⊢
      cases hframe : checkedAdd payloadBytes kEnvelopeBytes with
      | none => rw [hframe] at hsel; exact absurd hsel (by simp)
      | some frameBytes =>
        rw [hframe] at hsel
        simp only [decide_eq_true_eq] at hsel ⊢
        have hpay : payloadBytes = (RunLength.runs (itemsOf decoded w n)).length * (w + 2) := by
          unfold checkedMultiply at hmul
          split at hmul
          · exact absurd hmul (by simp)
          · exact (Option.some.inj hmul).symm
        have hfr : frameBytes = payloadBytes + 48 := by
          unfold checkedAdd at hframe
          split at hframe
          · exact absurd hframe (by simp)
          · exact (Option.some.inj hframe).symm
        exact ⟨rfl, rfl, rfl, rfl, rfl, rfl, hpay, hfr, hsel⟩

end

/-! ### What the encoders write -/

/-- The loop writes the records of the runs it emits. -/
theorem encodeLoop_eq {w : ℕ} (rest : List Bytes) : ∀ (out : Bytes) (offset : ℕ) (current : Bytes)
    (runLength runs : ℕ), (∀ x ∈ current :: rest, x.length = w) →
      offset + (RunLength.emit current runLength rest).length * (w + 2) ≤ out.length →
        encodeLoop out offset current runLength runs rest =
          some (store out offset ((RunLength.emit current runLength rest).flatMap recordBytes),
            offset + (RunLength.emit current runLength rest).length * (w + 2),
            runs + (RunLength.emit current runLength rest).length) := by
  have hwrite : ∀ (out : Bytes) (offset runLength : ℕ) (item : Bytes), item.length = w →
      offset + (w + 2) ≤ out.length → writeRecord out offset runLength item =
        some (store out offset (recordBytes (runLength, item)), offset + (w + 2)) := by
    intro out offset runLength item hitem hfit
    unfold writeRecord
    rw [hitem, if_neg (by omega)]
  induction rest with
  | nil =>
    intro out offset current runLength runs hlen hfit
    simp only [RunLength.emit, List.length_singleton, Nat.one_mul] at hfit ⊢
    rw [encodeLoop, hwrite _ _ _ _ (hlen current List.mem_cons_self) hfit]
    simp
  | cons item rest ih =>
    intro out offset current runLength runs hlen hfit
    have hcur : current.length = w := hlen current List.mem_cons_self
    have hitem : item.length = w := hlen item (List.mem_cons_of_mem _ List.mem_cons_self)
    have hrest : ∀ x ∈ rest, x.length = w := fun x hx =>
      hlen x (List.mem_cons_of_mem _ (List.mem_cons_of_mem _ hx))
    rw [encodeLoop]
    rw [RunLength.emit] at hfit ⊢
    split
    · next h =>
      rw [if_pos h] at hfit
      refine ih _ _ _ _ _ ?_ hfit
      intro x hx
      rcases List.mem_cons.mp hx with rfl | hx
      · exact hcur
      · exact hrest x hx
    · next h =>
      rw [if_neg h, List.length_cons, Nat.succ_mul] at hfit
      have hfit' : offset + (w + 2) ≤ out.length := by omega
      rw [hwrite _ _ _ _ hcur hfit']
      simp only
      rw [ih _ _ _ _ _ (by simpa [hitem] using hrest) (by rw [length_store]; omega)]
      have hreclen : (recordBytes (runLength, current)).length = w + 2 := by
        simp [recordBytes, hcur, Nat.add_comm]
      have hemit : ∀ p ∈ RunLength.emit item 1 rest, p.2.length = w := by
        intro p hp
        rw [RunLength.emit_eq_runs rest item 1 Nat.one_pos] at hp
        have := mem_runs_mem hp
        rcases List.mem_cons.mp this with h | h
        · rw [h]; exact hitem
        · exact hrest _ h
      have hst := store_store (b := out) (o := offset) (x := recordBytes (runLength, current))
        (y := (RunLength.emit item 1 rest).flatMap recordBytes)
        (by rw [List.length_append, hreclen, length_flatMap_recordBytes hemit]; omega)
      rw [hreclen] at hst
      rw [hst, List.flatMap_cons, List.length_cons, Nat.succ_mul]
      simp only [Option.some.injEq, Prod.mk.injEq, true_and]
      omega

section

variable {decoded : Bytes} {w n maximum : ℕ} {plan : SizingPlan}

theorem emit_headD (hn : 0 < n) : RunLength.emit ((itemsOf decoded w n).headD []) 1
    (itemsOf decoded w n).tail = RunLength.runs (itemsOf decoded w n) := by
  rw [RunLength.emit_eq_runs _ _ 1 Nat.one_pos]
  simp only [List.replicate_one, List.singleton_append, ← itemsOf_eq_cons hn]

/-- A single run is the first item, as often as there are items. -/
theorem runs_eq_singleton (h : (RunLength.runs (itemsOf decoded w n)).length = 1) :
    RunLength.runs (itemsOf decoded w n) = [(n, (itemsOf decoded w n).headD [])] ∧
      ∀ x ∈ itemsOf decoded w n, x = (itemsOf decoded w n).headD [] := by
  obtain ⟨p, hp⟩ := List.length_eq_one_iff.mp h
  have hexp := RunLength.expand_runs (itemsOf decoded w n)
  rw [hp] at hexp
  simp only [RunLength.expand_cons, RunLength.expand_nil, List.append_nil] at hexp
  have hlen := congrArg List.length hexp
  rw [List.length_replicate, length_itemsOf] at hlen
  have hpos := RunLength.runs_pos (itemsOf decoded w n) p (by rw [hp]; exact List.mem_singleton_self p)
  have hhead : (itemsOf decoded w n).headD [] = p.2 := by
    rw [← hexp, hlen]
    cases n with
    | zero => omega
    | succ k => rfl
  refine ⟨by rw [hp, hhead, ← hlen], fun x hx => ?_⟩
  rw [← hexp] at hx
  rw [hhead]
  exact List.eq_of_mem_replicate hx

theorem checkedMultiply_eq {a b : ℕ} (h : a * b ≤ sizeMax) : checkedMultiply a b = some (a * b) := by
  unfold checkedMultiply
  refine if_neg ?_
  rintro ⟨ha, hlt⟩
  have : b ≤ sizeMax / a := (Nat.le_div_iff_mul_le (by omega)).mpr (by rwa [Nat.mul_comm])
  omega

theorem checkedAdd_eq {a b : ℕ} (h : a + b ≤ sizeMax) : checkedAdd a b = some (a + b) := by
  unfold checkedAdd
  exact if_neg (by omega)

/-- The consistency test accepts a selected plan. -/
theorem Selected.consistent (h : Selected decoded w n maximum plan) (hw : 0 < w) (hn : 0 < n)
    (hn' : n ≤ 65535) (hlen : decoded.length = n * w) (hsmall : decoded.length ≤ 4096)
    (hmax : maximum ≤ 4096) : planConsistent decoded plan = true := by
  have hne : itemsOf decoded w n ≠ [] := by
    intro h0
    have := congrArg List.length h0
    simp at this
    omega
  have hruns : 0 < plan.runCount := by
    rw [h.runCount]
    exact List.length_pos_iff.mpr (RunLength.runs_ne_nil hne)
  have hrunsLe : plan.runCount ≤ n := by
    rw [h.runCount]
    simpa using RunLength.length_runs_le (itemsOf decoded w n)
  have hpay := h.payload
  have hfr := h.frame
  have hprof := h.profitable
  have hnw : w ≤ n * w := Nat.le_mul_of_pos_left w hn
  have hadd : checkedAdd w 2 = some (w + 2) := checkedAdd_eq (by unfold sizeMax; omega)
  have hmul : checkedMultiply plan.runCount (w + 2) = some plan.encodedPayloadBytes := by
    rw [hpay]; exact checkedMultiply_eq (by rw [← hpay]; unfold sizeMax; omega)
  have hmulD : checkedMultiply n w = some decoded.length := by
    rw [hlen]; exact checkedMultiply_eq (by rw [← hlen]; unfold sizeMax; omega)
  have haddF : checkedAdd plan.encodedPayloadBytes kEnvelopeBytes = some plan.encodedFrameBytes := by
    rw [hfr]; exact checkedAdd_eq (by unfold sizeMax kEnvelopeBytes; omega)
  unfold planConsistent
  simp only [h.status, h.itemBytes, h.maxItems, h.decodedBytes, h.itemCount, hmulD, hadd,
    Option.bind_some, hmul, haddF, Bool.and_eq_true, decide_eq_true_eq]
  refine ⟨⟨⟨⟨⟨⟨⟨⟨⟨⟨⟨?_, ?_⟩, ?_⟩, ?_⟩, ?_⟩, ?_⟩, ?_⟩, ?_⟩, ?_⟩, ?_⟩, ?_⟩, ?_⟩ <;>
    first | trivial | omega

/-- **Under a selected plan the generic encoder writes the canonical records.** -/
theorem encode_select (h : Selected decoded w n maximum plan) (hw : 0 < w) (hn : 0 < n)
    (hn' : n ≤ 65535) (hlen : decoded.length = n * w) (hsmall : decoded.length ≤ 4096)
    (hmax : maximum ≤ 4096) {output : Bytes} (hout : plan.encodedPayloadBytes ≤ output.length) :
    encode decoded plan output =
      ({ status := .ok, runCount := plan.runCount, bytesWritten := plan.encodedPayloadBytes },
        store output 0 (rleBytes decoded w n)) := by
  have hitems := length_of_mem_itemsOf (w := w) (n := n) hlen
  have hcons : itemsOf decoded w n = (itemsOf decoded w n).headD [] :: (itemsOf decoded w n).tail :=
    itemsOf_eq_cons hn
  have hfirst : ((itemsOf decoded w n).headD []).length = w :=
    hitems _ (by rw [hcons]; exact List.mem_cons_self)
  have hrle : (rleBytes decoded w n).length = plan.encodedPayloadBytes := by
    rw [length_rleBytes hlen, ← h.runCount, ← h.payload]
  have hbounded : (output.take plan.encodedPayloadBytes).length = plan.encodedPayloadBytes := by
    rw [List.length_take]; omega
  -- what a complete store into the bounded view leaves of the whole output
  have hwhole : store (output.take plan.encodedPayloadBytes) 0 (rleBytes decoded w n) ++
      output.drop plan.encodedPayloadBytes = store output 0 (rleBytes decoded w n) := by
    rw [store_zero (by omega), store_zero (by omega), hrle,
      List.drop_eq_nil_of_le (by omega), List.append_nil]
  unfold encode
  simp only [h.itemBytes, h.itemCount, h.consistent hw hn hn' hlen hsmall hmax, Bool.not_true,
    Bool.false_eq_true, if_false]
  rw [if_neg (by omega)]
  split
  · next hone =>
    have hone' : (RunLength.runs (itemsOf decoded w n)).length = 1 := by rw [← h.runCount]; exact hone
    obtain ⟨hruns, hall⟩ := runs_eq_singleton hone'
    have hbytes : rleBytes decoded w n = recordBytes (n, (itemsOf decoded w n).headD []) := by
      rw [rleBytes, hruns]; simp
    have hpay : plan.encodedPayloadBytes = w + 2 := by rw [h.payload, hone, Nat.one_mul]
    rw [if_pos (List.all_eq_true.mpr fun x hx => by simpa using hall x hx)]
    unfold writeRecord
    rw [hfirst, if_neg (by omega)]
    rw [hpay] at hwhole
    simp only [hone, Nat.zero_add, ← hbytes, hpay, hwhole]
  · have hemit : RunLength.emit ((itemsOf decoded w n).headD []) 1 (itemsOf decoded w n).tail =
        RunLength.runs (itemsOf decoded w n) := emit_headD hn
    have hloop := encodeLoop_eq (w := w) (itemsOf decoded w n).tail
      (output.take plan.encodedPayloadBytes) 0 ((itemsOf decoded w n).headD []) 1 0
      (by rw [← hcons]; exact hitems)
      (by rw [hemit, ← h.runCount, ← h.payload]; omega)
    rw [hemit, ← h.runCount, ← h.payload] at hloop
    rw [hloop]
    simp only [Nat.zero_add, ne_eq, not_true_eq_false, or_self, if_false]
    exact congrArg _ hwhole

/-- **Under a selected plan the two-byte encoder writes the canonical records.** -/
theorem encodeHybrid16_select (h : Selected decoded 2 n maximum plan) (hn : 0 < n)
    (hlen : decoded.length = n * 2) {output : Bytes}
    (hout : plan.encodedPayloadBytes ≤ output.length) :
    encodeHybrid16 decoded plan output =
      ({ status := .ok, runCount := plan.runCount, bytesWritten := plan.encodedPayloadBytes },
        store output 0 (rleBytes decoded 2 n)) := by
  have hitems := length_of_mem_itemsOf (w := 2) (n := n) hlen
  have hcons : itemsOf decoded 2 n = (itemsOf decoded 2 n).headD [] :: (itemsOf decoded 2 n).tail :=
    itemsOf_eq_cons hn
  unfold encodeHybrid16
  simp only [h.status, h.itemBytes, h.itemCount, hlen, ne_eq, not_true_eq_false, false_or]
  rw [if_neg (by omega)]
  split
  · next hone =>
    have hone' : (RunLength.runs (itemsOf decoded 2 n)).length = 1 := by rw [← h.runCount]; exact hone
    obtain ⟨hruns, -⟩ := runs_eq_singleton hone'
    have hbytes : rleBytes decoded 2 n = recordBytes (n, (itemsOf decoded 2 n).headD []) := by
      rw [rleBytes, hruns]; simp
    have hpay : plan.encodedPayloadBytes = 4 := by rw [h.payload, hone]
    rw [hbytes, hone, hpay]
  · have hemit : RunLength.emit ((itemsOf decoded 2 n).headD []) 1 (itemsOf decoded 2 n).tail =
        RunLength.runs (itemsOf decoded 2 n) := emit_headD hn
    have hloop := encodeLoop_eq (w := 2) (itemsOf decoded 2 n).tail output 0
      ((itemsOf decoded 2 n).headD []) 1 0 (by rw [← hcons]; exact hitems)
      (by rw [hemit, ← h.runCount, ← h.payload]; omega)
    rw [hemit, ← h.runCount, ← h.payload] at hloop
    rw [hloop]
    simp [rleBytes]

end

end Rle

end ThingDaq
