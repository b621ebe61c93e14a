import ThingDaq.Host.SampleCodecs
import ThingDaq.Pipeline.Rle

/-!
# The run-length encoder, byte by byte

`Rle` treats a payload as a list of items.  `firmware/src/rle_encoder.cpp` walks the bytes:
four sizing loops, one for each way to compare items, a word-wise test for a constant
payload, and an encoder of its own for two-byte items.  Here they are as the source has
them, with the proof that each agrees with the list of items.

Comparisons load little-endian numbers, as on the target.

## Main results

* `adaptiveRuns_eq`, `allItemsEqual_eq` — the loops see the items.
* `encode_planned`, `encodeHybrid16_planned` — both encoders write the records of the maximal runs.
* `rle_agreement` — sizing, selection, the two encoders and the host's encoder agree.
-/

namespace ThingDaq.Rle.Scan

open Wire

def loadUnalignedU16 (b : Bytes) (offset : ℕ) : ℕ := leValue (slice b offset 2)

def loadUnalignedU32 (b : Bytes) (offset : ℕ) : ℕ := leValue (slice b offset 4)

def equalItem (decoded : Bytes) (left right itemBytes : ℕ) : Bool :=
  if itemBytes = 1 then byteAt decoded left = byteAt decoded right
  else if itemBytes = 4 then loadUnalignedU32 decoded left = loadUnalignedU32 decoded right
  else (List.range itemBytes).all fun offset =>
    byteAt decoded (left + offset) = byteAt decoded (right + offset)

/-! ### Sizing -/

/-- The loops for one, two and four bytes: the items left, the next one, the item before,
the runs and the items examined so far. -/
def countLoads {α : Type} [DecidableEq α] (load : ℕ → α) (maximumRuns : ℕ) :
    ℕ → ℕ → α → ℕ → ℕ → ℕ × ℕ × Bool
  | 0, _, _, runs, examined => (runs, examined, false)
  | left + 1, item, previous, runs, examined =>
    let current := load item
    if current ≠ previous then
      if maximumRuns < runs + 1 then (runs + 1, examined + 1, true)
      else countLoads load maximumRuns left (item + 1) current (runs + 1) (examined + 1)
    else countLoads load maximumRuns left (item + 1) previous runs (examined + 1)

/-- The loop for any other width, which looks at the item before in the payload. -/
def countItems (decoded : Bytes) (itemBytes maximumRuns : ℕ) :
    ℕ → ℕ → ℕ → ℕ → ℕ × ℕ × Bool
  | 0, _, runs, examined => (runs, examined, false)
  | left + 1, item, runs, examined =>
    let current := item * itemBytes
    if !equalItem decoded (current - itemBytes) current itemBytes then
      if maximumRuns < runs + 1 then (runs + 1, examined + 1, true)
      else countItems decoded itemBytes maximumRuns left (item + 1) (runs + 1) (examined + 1)
    else countItems decoded itemBytes maximumRuns left (item + 1) runs (examined + 1)

def adaptiveRuns (decoded : Bytes) (itemBytes itemCount maximumRuns : ℕ) : ℕ × ℕ × Bool :=
  let left := itemCount - 1
  if itemBytes = 1 then
    countLoads (byteAt decoded) maximumRuns left 1 (byteAt decoded 0) 1 1
  else if itemBytes = 2 then
    countLoads (fun item => loadUnalignedU16 decoded (item * 2)) maximumRuns left 1
      (loadUnalignedU16 decoded 0) 1 1
  else if itemBytes = 4 then
    countLoads (fun item => loadUnalignedU32 decoded (item * 4)) maximumRuns left 1
      (loadUnalignedU32 decoded 0) 1 1
  else countItems decoded itemBytes maximumRuns left 1 1 1

def sizeForAdaptiveSelection (decoded : Bytes) (shape : CodecShape)
    (maximumSelectedFrameBytes : ℕ) : AdaptiveSizingResult :=
  let plan : SizingPlan := { shape := shape, decodedBytes := decoded.length }
  let itemCount := decoded.length / shape.itemBytes
  if shape.itemBytes = 0 ∨ shape.maxItems = 0 then { status := .invalidShape, plan := plan }
  else if decoded.length = 0 ∨ decoded.length % shape.itemBytes ≠ 0 then
    { status := .invalidLength, plan := plan }
  else if shape.maxItems < itemCount ∨ 65535 < itemCount then
    { status := .itemCountOverflow, plan := { plan with itemCount := itemCount } }
  else
    let plan := { plan with itemCount := itemCount }
    match checkedAdd shape.itemBytes 2 with
    | none => { status := .invalidLength, plan := plan }
    | some recordBytes =>
      match checkedAdd kEnvelopeBytes recordBytes with
      | none => { status := .invalidLength, plan := plan }
      | some minimumFrameBytes =>
        if maximumSelectedFrameBytes < minimumFrameBytes then
          { status := .invalidLength, plan := plan }
        else
          let maximumSelectedRuns := (maximumSelectedFrameBytes - kEnvelopeBytes) / recordBytes
          let counted := adaptiveRuns decoded shape.itemBytes itemCount maximumSelectedRuns
          if counted.2.2 then
            { status := .ok, plan := plan, itemsExamined := counted.2.1, runsObserved := counted.1 }
          else
            match checkedMultiply counted.1 recordBytes with
            | none =>
              { status := .sizeOverflow, plan := { plan with runCount := counted.1 }
                itemsExamined := counted.2.1, runsObserved := counted.1 }
            | some payloadBytes =>
              match checkedAdd payloadBytes kEnvelopeBytes with
              | none =>
                { status := .sizeOverflow
                  plan := { plan with runCount := counted.1, encodedPayloadBytes := payloadBytes }
                  itemsExamined := counted.2.1, runsObserved := counted.1 }
              | some frameBytes =>
                { status := .ok
                  plan := { plan with status := .ok, runCount := counted.1
                                      encodedPayloadBytes := payloadBytes
                                      encodedFrameBytes := frameBytes }
                  itemsExamined := counted.2.1, runsObserved := counted.1
                  selectRle := frameBytes ≤ maximumSelectedFrameBytes }

/-- The loop of `size`: the items left, the next one and the runs so far. -/
def sizeRuns (decoded : Bytes) (itemBytes : ℕ) : ℕ → ℕ → ℕ → ℕ
  | 0, _, runs => runs
  | left + 1, item, runs =>
    let current := item * itemBytes
    let previous := current - itemBytes
    sizeRuns decoded itemBytes left (item + 1)
      (if !equalItem decoded previous current itemBytes then runs + 1 else runs)

def size (decoded : Bytes) (shape : CodecShape) : SizingPlan :=
  let plan : SizingPlan := { shape := shape, decodedBytes := decoded.length }
  let itemCount := decoded.length / shape.itemBytes
  if shape.itemBytes = 0 ∨ shape.maxItems = 0 then { plan with status := .invalidShape }
  else if decoded.length = 0 ∨ decoded.length % shape.itemBytes ≠ 0 then
    { plan with status := .invalidLength }
  else if shape.maxItems < itemCount ∨ 65535 < itemCount then
    { plan with status := .itemCountOverflow, itemCount := itemCount }
  else
    let runCount := sizeRuns decoded shape.itemBytes (itemCount - 1) 1 1
    let plan := { plan with itemCount := itemCount, runCount := runCount }
    match checkedAdd shape.itemBytes 2 with
    | none => { plan with status := .sizeOverflow }
    | some recordBytes =>
      match checkedMultiply runCount recordBytes with
      | none => { plan with status := .sizeOverflow }
      | some payloadBytes =>
        let plan := { plan with encodedPayloadBytes := payloadBytes }
        match checkedAdd payloadBytes kEnvelopeBytes with
        | none => { plan with status := .sizeOverflow }
        | some frameBytes => { plan with status := .ok, encodedFrameBytes := frameBytes }

/-! ### Encoding -/

/-- The two loops of the one-byte test, from the second byte on: whole words, then the rest. -/
def wordsEqual (first : UInt8) : Bytes → Bool
  | a :: b :: c :: d :: rest =>
    leValue [a, b, c, d] = first.toNat * 0x01010101 && wordsEqual first rest
  | rest => rest.all (· = first)

def allItemsEqual (decoded : Bytes) (shape : CodecShape) : Bool :=
  let others := List.range' 1 (decoded.length / shape.itemBytes - 1)
  if shape.itemBytes = 1 then wordsEqual (byteAt decoded 0) (decoded.drop 1)
  else if shape.itemBytes = 2 then
    others.all fun item => loadUnalignedU16 decoded (item * 2) = loadUnalignedU16 decoded 0
  else if shape.itemBytes = 4 then
    others.all fun item => loadUnalignedU32 decoded (item * 4) = loadUnalignedU32 decoded 0
  else others.all fun item => equalItem decoded 0 (item * shape.itemBytes) shape.itemBytes

def writeRecord (out : Bytes) (offset runLength : ℕ) (decoded : Bytes) (itemOffset itemBytes : ℕ) :
    Option (Bytes × ℕ) :=
  match checkedAdd itemBytes 2 with
  | none => none
  | some recordBytes =>
    if out.length < offset || out.length - offset < recordBytes then none
    else
      let out := store out offset (leBytes 2 runLength)
      some (store out (offset + 2) (slice decoded itemOffset itemBytes), offset + 2 + itemBytes)

/-- The loop of `encode`: the items left, the next one, the output with its write offset,
where the run starts, its length, and the runs written.  A record that does not fit ends it. -/
def encodeItems (decoded : Bytes) (itemBytes : ℕ) : ℕ → ℕ → Bytes → ℕ → ℕ → ℕ → ℕ →
    Except (Bytes × ℕ) (Bytes × ℕ × ℕ)
  | 0, _, out, offset, runStart, runLength, runs =>
    match writeRecord out offset runLength decoded runStart itemBytes with
    | none => .error (out, runs)
    | some r => .ok (r.1, r.2, runs + 1)
  | left + 1, item, out, offset, runStart, runLength, runs =>
    let current := item * itemBytes
    let previous := current - itemBytes
    if equalItem decoded previous current itemBytes then
      encodeItems decoded itemBytes left (item + 1) out offset runStart (runLength + 1) runs
    else
      match writeRecord out offset runLength decoded runStart itemBytes with
      | none => .error (out, runs)
      | some r => encodeItems decoded itemBytes left (item + 1) r.1 r.2 current 1 (runs + 1)

def encode (decoded : Bytes) (plan : SizingPlan) (output : Bytes) : EncodeResult × Bytes :=
  let itemBytes := plan.shape.itemBytes
  if !planConsistent decoded plan then ({ status := .planMismatch }, output)
  else if output.length < plan.encodedPayloadBytes then ({ status := .outputTooSmall }, output)
  else
    let bounded := output.take plan.encodedPayloadBytes
    let rest := output.drop plan.encodedPayloadBytes
    if plan.runCount = 1 then
      if !allItemsEqual decoded plan.shape then ({ status := .planMismatch }, output)
      else
        match writeRecord bounded 0 plan.itemCount decoded 0 itemBytes with
        | none => ({ status := .planMismatch }, output)
        | some r => ({ status := .ok, runCount := 1, bytesWritten := r.2 }, r.1 ++ rest)
    else
      match encodeItems decoded itemBytes (plan.itemCount - 1) 1 bounded 0 0 1 0 with
      | .error r => ({ status := .planMismatch, runCount := r.2 }, r.1 ++ rest)
      | .ok r =>
        if r.2.2 ≠ plan.runCount ∨ r.2.1 ≠ plan.encodedPayloadBytes then
          ({ status := .planMismatch, runCount := r.2.2, bytesWritten := r.2.1 }, r.1 ++ rest)
        else ({ status := .ok, runCount := r.2.2, bytesWritten := r.2.1 }, r.1 ++ rest)

/-- The four stores of a two-byte record. -/
def hybridRecord (count previous : ℕ) : Bytes :=
  [UInt8.ofNat count, UInt8.ofNat (count >>> 8), UInt8.ofNat previous, UInt8.ofNat (previous >>> 8)]

/-- The loop of `encodeHybrid16`: the items left, the next one, the output with what is used of
it, where the run starts, the runs written and the value of the run. -/
def hybridItems (input : Bytes) : ℕ → ℕ → Bytes → ℕ → ℕ → ℕ → ℕ → Except Bytes (Bytes × ℕ × ℕ)
  | 0, item, out, used, start, runs, previous =>
    if out.length < used + 4 then .error out
    else .ok (store out used (hybridRecord (item - start) previous), used + 4, runs + 1)
  | left + 1, item, out, used, start, runs, previous =>
    let current := loadUnalignedU16 input (2 * item)
    if current = previous then hybridItems input left (item + 1) out used start runs previous
    else if out.length < used + 4 then .error out
    else
      hybridItems input left (item + 1) (store out used (hybridRecord (item - start) previous))
        (used + 4) item (runs + 1) current

def encodeHybrid16 (input : Bytes) (plan : SizingPlan) (output : Bytes) : EncodeResult × Bytes :=
  if plan.status ≠ .ok ∨ plan.shape.itemBytes ≠ 2 ∨ input.length ≠ plan.itemCount * 2 ∨
      output.length < plan.encodedPayloadBytes then
    ({ status := .planMismatch }, output)
  else if plan.runCount = 1 then
    ({ status := .ok, runCount := 1, bytesWritten := 4 },
      store output 0 [UInt8.ofNat plan.itemCount, UInt8.ofNat (plan.itemCount >>> 8),
        byteAt input 0, byteAt input 1])
  else
    match hybridItems input (plan.itemCount - 1) 1 output 0 0 0 (loadUnalignedU16 input 0) with
    | .error out => ({ status := .outputTooSmall }, out)
    | .ok r =>
      ({ status := if r.2.2 = plan.runCount ∧ r.2.1 = plan.encodedPayloadBytes then .ok
          else .planMismatch
         runCount := r.2.2, bytesWritten := r.2.1 }, r.1)

/-! ### Items -/

/-- Item `i` of a payload. -/
def itemAt (decoded : Bytes) (w i : ℕ) : Bytes := slice decoded (i * w) w

section Items

variable {decoded : Bytes} {w n : ℕ} (hlen : decoded.length = n * w)

include hlen

theorem itemAt_end {i : ℕ} (hi : i < n) : i * w + w ≤ decoded.length := by
  rw [hlen, ← Nat.succ_mul]
  exact Nat.mul_le_mul_right w hi

theorem length_itemAt {i : ℕ} (hi : i < n) : (itemAt decoded w i).length = w := by
  have := itemAt_end hlen hi
  rw [itemAt, length_slice]
  omega

omit hlen in
theorem itemsOf_cons (hn : 0 < n) : itemsOf decoded w n =
    itemAt decoded w 0 :: (List.range' 1 (n - 1)).map (itemAt decoded w) := by
  obtain ⟨m, rfl⟩ : ∃ m, n = m + 1 := ⟨n - 1, by omega⟩
  unfold itemsOf
  rw [List.range_eq_range', List.range'_succ]
  rfl

omit hlen in
theorem getElem?_slice (b : Bytes) (off k o : ℕ) :
    (slice b off k)[o]? = if o < k then b[off + o]? else none := by
  unfold slice
  rw [List.getElem?_take]
  split
  · rw [List.getElem?_drop]
  · rfl

omit hlen in
theorem byteAt_of_lt {b : Bytes} {off : ℕ} (h : off < b.length) : b[off]? = some (byteAt b off) := by
  unfold byteAt
  rw [List.getD_eq_getElem?_getD, List.getElem?_eq_getElem h]
  rfl

omit hlen in
/-- Two ranges are equal when their bytes are. -/
theorem slice_eq_iff {b : Bytes} {x y k : ℕ} (hx : x + k ≤ b.length) (hy : y + k ≤ b.length) :
    slice b x k = slice b y k ↔ ∀ o < k, byteAt b (x + o) = byteAt b (y + o) := by
  constructor
  · intro h o ho
    have hget := congrArg (fun l : Bytes => l[o]?) h
    simp only [getElem?_slice, if_pos ho] at hget
    rw [byteAt_of_lt (by omega), byteAt_of_lt (by omega)] at hget
    exact Option.some.inj hget
  · intro h
    apply List.ext_getElem?
    intro o
    rw [getElem?_slice, getElem?_slice]
    split
    · rename_i ho
      rw [byteAt_of_lt (by omega), byteAt_of_lt (by omega), h o ho]
    · rfl

omit hlen in
/-- A number determines the bytes it was loaded from. -/
theorem leValue_slice_eq_iff {b : Bytes} {x y k : ℕ} (hx : x + k ≤ b.length)
    (hy : y + k ≤ b.length) :
    leValue (slice b x k) = leValue (slice b y k) ↔ slice b x k = slice b y k := by
  refine ⟨fun h => ?_, fun h => by rw [h]⟩
  have hlx : (slice b x k).length = k := by rw [length_slice]; omega
  have hly : (slice b y k).length = k := by rw [length_slice]; omega
  rw [← leBytes_leValue (slice b x k), ← leBytes_leValue (slice b y k), hlx, hly, h]

/-- `equalItem` compares items, whatever their width. -/
theorem equalItem_eq {i j : ℕ} (hi : i < n) (hj : j < n) :
    equalItem decoded (i * w) (j * w) w = decide (itemAt decoded w i = itemAt decoded w j) := by
  have hiEnd := itemAt_end hlen hi
  have hjEnd := itemAt_end hlen hj
  unfold equalItem itemAt
  split
  · rename_i hw
    subst hw
    rw [decide_eq_decide, slice_eq_iff hiEnd hjEnd]
    constructor
    · intro h o ho
      obtain rfl : o = 0 := by omega
      exact h
    · intro h
      exact h 0 (by omega)
  split
  · rename_i hw
    subst hw
    rw [decide_eq_decide]
    exact leValue_slice_eq_iff hiEnd hjEnd
  · rw [Bool.eq_iff_iff, List.all_eq_true, decide_eq_true_eq, slice_eq_iff hiEnd hjEnd]
    simp only [List.mem_range, decide_eq_true_eq]

/-! ### The loops see the items -/

omit hlen in
/-- Loads that tell items apart count as the items do. -/
theorem countLoads_eq {α : Type} [DecidableEq α] {load : ℕ → α} {item : ℕ → Bytes}
    (hload : ∀ i < n, ∀ j < n, load i = load j ↔ item i = item j) (maximumRuns left : ℕ) :
    ∀ (i k runs examined : ℕ), i + left ≤ n → k < n →
      countLoads load maximumRuns left i (load k) runs examined =
        countRuns maximumRuns (item k) runs examined ((List.range' i left).map item) := by
  induction left with
  | zero => intro i k runs examined _ _; rfl
  | succ left ih =>
    intro i k runs examined hi hk
    have hin : i < n := by omega
    rw [List.range'_succ, List.map_cons, countLoads, countRuns]
    by_cases heq : item i = item k
    · rw [if_neg (by rw [not_not]; exact (hload i hin k hk).mpr heq), if_pos heq]
      exact ih (i + 1) k runs (examined + 1) (by omega) hk
    · rw [if_pos (fun h => heq ((hload i hin k hk).mp h)), if_neg heq]
      split
      · rfl
      · exact ih (i + 1) i (runs + 1) (examined + 1) (by omega) hin

theorem countItems_eq (maximumRuns left : ℕ) : ∀ (i runs examined : ℕ), 0 < i → i + left ≤ n →
    countItems decoded w maximumRuns left i runs examined =
      countRuns maximumRuns (itemAt decoded w (i - 1)) runs examined
        ((List.range' i left).map (itemAt decoded w)) := by
  induction left with
  | zero => intro i runs examined _ _; rfl
  | succ left ih =>
    intro i runs examined hpos hi
    have hprev : i * w - w = (i - 1) * w := by rw [Nat.sub_mul, Nat.one_mul]
    rw [List.range'_succ, List.map_cons, countItems, countRuns]
    rw [hprev, equalItem_eq hlen (by omega) (by omega)]
    by_cases heq : itemAt decoded w i = itemAt decoded w (i - 1)
    · rw [if_neg (by simp [heq]), if_pos heq, ih (i + 1) runs (examined + 1) (by omega) (by omega),
        Nat.add_sub_cancel, heq]
    · rw [if_pos (by simpa using fun h => heq h.symm), if_neg heq]
      split
      · rfl
      · rw [ih (i + 1) (runs + 1) (examined + 1) (by omega) (by omega), Nat.add_sub_cancel]

/-- The four sizing loops are one. -/
theorem adaptiveRuns_eq (hn : 0 < n) (maximumRuns : ℕ) : adaptiveRuns decoded w n maximumRuns =
    countRuns maximumRuns ((itemsOf decoded w n).headD []) 1 1 (itemsOf decoded w n).tail := by
  have hloads : ∀ k, w = k → ∀ i < n, ∀ j < n,
      leValue (slice decoded (i * k) k) = leValue (slice decoded (j * k) k) ↔
        itemAt decoded w i = itemAt decoded w j := by
    intro k hk i hi j hj
    subst hk
    exact leValue_slice_eq_iff (itemAt_end hlen hi) (itemAt_end hlen hj)
  rw [itemsOf_cons hn]
  dsimp only [List.headD_cons, List.tail_cons]
  unfold adaptiveRuns
  dsimp only
  split
  · rename_i hw
    subst hw
    refine countLoads_eq (n := n) (fun i hi j hj => ?_) maximumRuns (n - 1) 1 0 1 1 (by omega) hn
    have heq := equalItem_eq hlen hi hj
    unfold equalItem at heq
    rw [if_pos rfl, decide_eq_decide, Nat.mul_one, Nat.mul_one] at heq
    exact heq
  split
  · rename_i hw
    have h0 := countLoads_eq (n := n) (hloads 2 hw) maximumRuns (n - 1) 1 0 1 1 (by omega) hn
    rw [Nat.zero_mul] at h0
    exact h0
  split
  · rename_i hw
    have h0 := countLoads_eq (n := n) (hloads 4 hw) maximumRuns (n - 1) 1 0 1 1 (by omega) hn
    rw [Nat.zero_mul] at h0
    exact h0
  · exact countItems_eq hlen maximumRuns (n - 1) 1 1 1 Nat.one_pos (by omega)

theorem sizeRuns_eq (left : ℕ) : ∀ (i runs : ℕ), 0 < i → i + left ≤ n →
    sizeRuns decoded w left i runs + 1 = runs + (RunLength.runs (itemAt decoded w (i - 1) ::
      (List.range' i left).map (itemAt decoded w))).length := by
  induction left with
  | zero => intro i runs _ _; rfl
  | succ left ih =>
    intro i runs hpos hi
    have hprev : i * w - w = (i - 1) * w := by rw [Nat.sub_mul, Nat.one_mul]
    rw [List.range'_succ, List.map_cons, RunLength.length_runs_cons_cons, sizeRuns]
    rw [hprev, equalItem_eq hlen (by omega) (by omega), ih (i + 1) _ (by omega) (by omega),
      Nat.add_sub_cancel]
    by_cases heq : itemAt decoded w (i - 1) = itemAt decoded w i
    · rw [if_neg (by simp [heq]), if_pos heq]
      omega
    · rw [if_pos (by simp [heq]), if_neg heq]
      omega

/-- The loop of `size` counts the maximal runs. -/
theorem sizeRuns_items (hn : 0 < n) :
    sizeRuns decoded w (n - 1) 1 1 = (RunLength.runs (itemsOf decoded w n)).length := by
  have h := sizeRuns_eq hlen (n - 1) 1 1 Nat.one_pos (by omega)
  rw [itemsOf_cons hn]
  simp only [Nat.sub_self] at h
  omega

/-! ### A constant payload -/

omit hlen in
/-- A word of four equal bytes. -/
theorem leValue_repeated (a b c d f : UInt8) :
    leValue [a, b, c, d] = f.toNat * 0x01010101 ↔ a = f ∧ b = f ∧ c = f ∧ d = f := by
  have hvalue : leValue [f, f, f, f] = f.toNat * 0x01010101 := by
    simp only [leValue_cons, leValue_nil]
    omega
  rw [← hvalue]
  constructor
  · intro h
    have hbytes := leBytes_leValue [a, b, c, d]
    rw [h] at hbytes
    have hback := hbytes.symm.trans (leBytes_leValue [f, f, f, f])
    simpa using hback
  · rintro ⟨rfl, rfl, rfl, rfl⟩
    rfl

omit hlen in
theorem wordsEqual_eq (first : UInt8) : ∀ b : Bytes, wordsEqual first b = b.all (· = first)
  | a :: b :: c :: d :: rest => by
    rw [wordsEqual, wordsEqual_eq first rest, Bool.eq_iff_iff, Bool.and_eq_true, decide_eq_true_eq,
      leValue_repeated]
    simp [and_assoc]
  | [] => rfl
  | [_] => rfl
  | [_, _] => rfl
  | [_, _, _] => rfl

/-- The test for a constant payload compares every item with the first. -/
theorem allItemsEqual_eq (hn : 0 < n) (hw : 0 < w) (maxItems : ℕ) :
    allItemsEqual decoded ⟨w, maxItems⟩ =
      (itemsOf decoded w n).all (· = (itemsOf decoded w n).headD []) := by
  have hcount : decoded.length / w = n := by rw [hlen, Nat.mul_div_cancel n hw]
  have hothers : ∀ test : ℕ → Bool,
      (∀ i < n, test i = decide (itemAt decoded w i = itemAt decoded w 0)) →
      (List.range' 1 (n - 1)).all test =
        (itemsOf decoded w n).all (· = (itemsOf decoded w n).headD []) := by
    intro test htest
    rw [itemsOf_cons hn, List.all_cons, List.headD_cons, decide_eq_true rfl, Bool.true_and,
      List.all_map]
    rw [Bool.eq_iff_iff, List.all_eq_true, List.all_eq_true]
    refine forall₂_congr fun i hi => ?_
    rw [List.mem_range'_1] at hi
    rw [htest i (by omega)]
    rfl
  have hloads : ∀ k, w = k → ∀ i < n,
      decide (leValue (slice decoded (i * k) k) = leValue (slice decoded 0 k)) =
        decide (itemAt decoded w i = itemAt decoded w 0) := by
    intro k hk i hi
    subst hk
    have h0 := itemAt_end hlen hn
    rw [Nat.zero_mul] at h0
    rw [decide_eq_decide, leValue_slice_eq_iff (itemAt_end hlen hi) h0, itemAt, itemAt, Nat.zero_mul]
  unfold allItemsEqual
  dsimp only
  rw [hcount]
  split
  · -- the words cover the bytes behind the first
    rename_i hw1
    subst hw1
    rw [wordsEqual_eq]
    have hitems : ∀ i < n, itemAt decoded 1 i = [byteAt decoded i] := by
      intro i hi
      have hi' : i < decoded.length := by omega
      apply List.ext_getElem?
      intro o
      rw [itemAt, getElem?_slice, Nat.mul_one]
      by_cases ho : o = 0
      · subst ho
        rw [if_pos Nat.one_pos, Nat.add_zero, byteAt_of_lt hi']
        rfl
      · rw [if_neg (by omega), List.getElem?_eq_none (by simp; omega)]
    have hbytes : decoded.drop 1 = (List.range' 1 (n - 1)).map (byteAt decoded) := by
      apply List.ext_getElem?
      intro o
      rw [List.getElem?_drop, List.getElem?_map]
      by_cases ho : o < n - 1
      · rw [byteAt_of_lt (by omega), List.getElem?_range' ho]
        simp [Nat.add_comm]
      · rw [List.getElem?_eq_none (by omega), List.getElem?_eq_none (by simp; omega)]
        rfl
    rw [hbytes, List.all_map]
    refine hothers _ fun i hi => ?_
    rw [hitems i hi, hitems 0 hn]
    simp
  split
  · rename_i hw2
    exact hothers _ (hloads 2 hw2)
  split
  · rename_i hw4
    exact hothers _ (hloads 4 hw4)
  · refine hothers _ fun i hi => ?_
    have heq := equalItem_eq hlen hn hi
    rw [Nat.zero_mul] at heq
    rw [heq, decide_eq_decide]
    exact eq_comm

end Items

/-! ### Sizing and selection -/

/-- The sizing that walks the bytes is the sizing of the items. -/
theorem sizeForAdaptiveSelection_eq (decoded : Bytes) (shape : CodecShape) (maximum : ℕ) :
    sizeForAdaptiveSelection decoded shape maximum =
      Rle.sizeForAdaptiveSelection decoded shape maximum := by
  unfold sizeForAdaptiveSelection Rle.sizeForAdaptiveSelection
  dsimp only
  split
  · rfl
  split
  · rfl
  rename_i hshape hlength
  split
  · rfl
  have hw : 0 < shape.itemBytes := by omega
  have hlen : decoded.length = decoded.length / shape.itemBytes * shape.itemBytes := by
    rw [Nat.div_mul_cancel (Nat.dvd_of_mod_eq_zero (by omega))]
  have hn : 0 < decoded.length / shape.itemBytes := by
    rcases Nat.eq_zero_or_pos (decoded.length / shape.itemBytes) with h0 | hpos
    · rw [h0, Nat.zero_mul] at hlen
      omega
    · exact hpos
  simp only [adaptiveRuns_eq hlen hn] <;> rfl

theorem checkedAdd_ite {a b : ℕ} (hb : 0 < b) :
    checkedAdd a b = if a + b ≤ sizeMax then some (a + b) else none := by
  unfold checkedAdd
  by_cases h : a + b ≤ sizeMax
  · rw [if_neg (by omega), if_pos h]
  · rw [if_pos (by omega), if_neg h]

theorem checkedMultiply_ite {a b : ℕ} (ha : 0 < a) :
    checkedMultiply a b = if a * b ≤ sizeMax then some (a * b) else none := by
  have hiff : sizeMax / a < b ↔ ¬a * b ≤ sizeMax := by
    rw [Nat.div_lt_iff_lt_mul ha, Nat.mul_comm b a, not_le]
  unfold checkedMultiply
  by_cases h : a * b ≤ sizeMax
  · rw [if_neg (fun hc => hiff.mp hc.2 h), if_pos h]
  · rw [if_pos ⟨by omega, hiff.mpr h⟩, if_neg h]

/-- The sizing loop gives up exactly when there are too many runs. -/
theorem countRuns_exit (maximumRuns : ℕ) (rest : List Bytes) :
    ∀ (previous : Bytes) (runs examined : ℕ), runs ≤ maximumRuns →
      ((countRuns maximumRuns previous runs examined rest).2.2 = true ↔
        maximumRuns + 1 < runs + (RunLength.runs (previous :: rest)).length) := by
  induction rest with
  | nil =>
    intro previous runs examined hle
    have hone : (RunLength.runs [previous]).length = 1 := rfl
    rw [hone, countRuns]
    simp
    omega
  | cons current rest ih =>
    intro previous runs examined hle
    have hpos : 0 < (RunLength.runs (current :: rest)).length :=
      List.length_pos_iff.mpr (RunLength.runs_ne_nil (by simp))
    rw [countRuns, RunLength.length_runs_cons_cons]
    by_cases heq : current = previous
    · subst heq
      rw [if_pos rfl, if_pos rfl, Nat.add_zero]
      exact ih current runs (examined + 1) hle
    · rw [if_neg heq, if_neg (Ne.symm heq)]
      by_cases hmax : maximumRuns < runs + 1
      · rw [if_pos hmax]
        simp
        omega
      · rw [if_neg hmax, ih current (runs + 1) (examined + 1) (by omega)]
        omega

section Sizing

variable {decoded : Bytes} {shape : CodecShape} {maximum : ℕ}

/-- The shapes and payloads that sizing looks into. -/
structure Shaped (decoded : Bytes) (shape : CodecShape) (n : ℕ) : Prop where
  itemBytes : 0 < shape.itemBytes
  maxItems : shape.maxItems ≠ 0
  length : decoded.length = n * shape.itemBytes
  nonempty : 0 < n
  itemCount : n ≤ shape.maxItems ∧ n ≤ 65535

/-- The plan of a payload with the given runs. -/
def planOf (decoded : Bytes) (shape : CodecShape) (n runs : ℕ) : SizingPlan where
  status := .ok
  shape := shape
  decodedBytes := decoded.length
  itemCount := n
  runCount := runs
  encodedPayloadBytes := runs * (shape.itemBytes + 2)
  encodedFrameBytes := runs * (shape.itemBytes + 2) + 48

/-- A payload is rejected by both sizings, or looked into by both. -/
theorem shaped_or (decoded : Bytes) (shape : CodecShape) (maximum : ℕ) :
    (∃ n, Shaped decoded shape n) ∨ ((size decoded shape).status ≠ .ok ∧
      (Rle.sizeForAdaptiveSelection decoded shape maximum).selectRle = false) := by
  unfold size Rle.sizeForAdaptiveSelection
  dsimp only
  by_cases hshape : shape.itemBytes = 0 ∨ shape.maxItems = 0
  · rw [if_pos hshape, if_pos hshape]
    exact Or.inr ⟨by simp, rfl⟩
  by_cases hlength : decoded.length = 0 ∨ decoded.length % shape.itemBytes ≠ 0
  · rw [if_neg hshape, if_neg hshape, if_pos hlength, if_pos hlength]
    exact Or.inr ⟨by simp, rfl⟩
  by_cases hcount : shape.maxItems < decoded.length / shape.itemBytes ∨
      65535 < decoded.length / shape.itemBytes
  · rw [if_neg hshape, if_neg hshape, if_neg hlength, if_neg hlength, if_pos hcount, if_pos hcount]
    exact Or.inr ⟨by simp, rfl⟩
  have hlen : decoded.length = decoded.length / shape.itemBytes * shape.itemBytes := by
    rw [Nat.div_mul_cancel (Nat.dvd_of_mod_eq_zero (by omega))]
  refine Or.inl ⟨decoded.length / shape.itemBytes, by omega, by omega, hlen, ?_, by omega⟩
  rcases Nat.eq_zero_or_pos (decoded.length / shape.itemBytes) with h0 | hpos
  · rw [h0, Nat.zero_mul] at hlen
    omega
  · exact hpos

variable {n : ℕ} (h : Shaped decoded shape n)

include h

theorem Shaped.count : decoded.length / shape.itemBytes = n := by
  rw [h.length, Nat.mul_div_cancel n h.itemBytes]

theorem Shaped.runs_pos : 0 < (RunLength.runs (itemsOf decoded shape.itemBytes n)).length := by
  rw [itemsOf_cons h.nonempty]
  exact List.length_pos_iff.mpr (RunLength.runs_ne_nil (by simp))

theorem Shaped.guards :
    ¬(shape.itemBytes = 0 ∨ shape.maxItems = 0) ∧
      ¬(decoded.length = 0 ∨ decoded.length % shape.itemBytes ≠ 0) ∧
      ¬(shape.maxItems < n ∨ 65535 < n) := by
  have hpos := h.itemBytes
  have hmax := h.maxItems
  have hcount := h.itemCount
  have hmod : decoded.length % shape.itemBytes = 0 := by rw [h.length, Nat.mul_mod_left]
  have hlen : 0 < decoded.length := by
    rw [h.length]
    exact Nat.mul_pos h.nonempty hpos
  omega

/-- `size` succeeds exactly when the frame has a size. -/
theorem Shaped.size_eq (runs : ℕ)
    (hruns : runs = (RunLength.runs (itemsOf decoded shape.itemBytes n)).length) :
    (runs * (shape.itemBytes + 2) + 48 ≤ sizeMax →
      size decoded shape = planOf decoded shape n runs) ∧
    (¬runs * (shape.itemBytes + 2) + 48 ≤ sizeMax → (size decoded shape).status ≠ .ok) := by
  obtain ⟨h1, h2, h3⟩ := h.guards
  have hpos : 0 < runs := hruns ▸ h.runs_pos
  have hle : shape.itemBytes + 2 ≤ runs * (shape.itemBytes + 2) := Nat.le_mul_of_pos_left _ hpos
  have hloop : sizeRuns decoded shape.itemBytes (n - 1) 1 1 = runs := by
    rw [hruns]
    exact sizeRuns_items h.length h.nonempty
  unfold size
  dsimp only
  rw [h.count, if_neg h1, if_neg h2, if_neg h3, hloop, checkedAdd_ite (by omega)]
  constructor
  · intro hfit
    rw [if_pos (by omega)]
    dsimp only
    rw [checkedMultiply_ite hpos, if_pos (by omega)]
    dsimp only
    rw [checkedAdd_ite (by decide),
      if_pos (show runs * (shape.itemBytes + 2) + kEnvelopeBytes ≤ sizeMax from hfit)]
    rfl
  · intro hfit
    by_cases hadd : shape.itemBytes + 2 ≤ sizeMax
    · rw [if_pos hadd]
      dsimp only
      rw [checkedMultiply_ite hpos]
      by_cases hmul : runs * (shape.itemBytes + 2) ≤ sizeMax
      · rw [if_pos hmul]
        dsimp only
        rw [checkedAdd_ite (by decide),
          if_neg (show ¬runs * (shape.itemBytes + 2) + kEnvelopeBytes ≤ sizeMax from hfit)]
        simp
      · rw [if_neg hmul]
        simp
    · rw [if_neg hadd]
      simp

/-- Selection looks at the same number. -/
theorem Shaped.select_eq (maximum runs : ℕ)
    (hruns : runs = (RunLength.runs (itemsOf decoded shape.itemBytes n)).length) :
    (runs * (shape.itemBytes + 2) + 48 ≤ sizeMax ∧ runs * (shape.itemBytes + 2) + 48 ≤ maximum →
      (Rle.sizeForAdaptiveSelection decoded shape maximum).selectRle = true ∧
        (Rle.sizeForAdaptiveSelection decoded shape maximum).plan = planOf decoded shape n runs) ∧
    (¬(runs * (shape.itemBytes + 2) + 48 ≤ sizeMax ∧ runs * (shape.itemBytes + 2) + 48 ≤ maximum) →
      (Rle.sizeForAdaptiveSelection decoded shape maximum).selectRle = false) := by
  obtain ⟨h1, h2, h3⟩ := h.guards
  have hpos : 0 < runs := hruns ▸ h.runs_pos
  have hle : shape.itemBytes + 2 ≤ runs * (shape.itemBytes + 2) := Nat.le_mul_of_pos_left _ hpos
  have hitems := @itemsOf_eq_cons decoded shape.itemBytes n h.nonempty
  unfold Rle.sizeForAdaptiveSelection
  dsimp only
  rw [h.count, if_neg h1, if_neg h2, if_neg h3, checkedAdd_ite (by omega)]
  by_cases hadd : shape.itemBytes + 2 ≤ sizeMax
  swap
  · rw [if_neg hadd]
    exact ⟨fun hfit => absurd hfit.1 (by omega), fun _ => rfl⟩
  rw [if_pos hadd]
  dsimp only
  rw [checkedAdd_ite (by omega)]
  by_cases hmin : kEnvelopeBytes + (shape.itemBytes + 2) ≤ sizeMax
  swap
  · rw [if_neg hmin]
    unfold kEnvelopeBytes at hmin
    exact ⟨fun hfit => absurd hfit.1 (by omega), fun _ => rfl⟩
  rw [if_pos hmin]
  dsimp only
  by_cases hceil : maximum < kEnvelopeBytes + (shape.itemBytes + 2)
  · rw [if_pos hceil]
    unfold kEnvelopeBytes at hceil
    exact ⟨fun hfit => absurd hfit.2 (by omega), fun _ => rfl⟩
  rw [if_neg hceil]
  unfold kEnvelopeBytes at hceil
  -- the ceiling leaves room for one run at least, so the loop starts below it
  have hroom : 1 ≤ (maximum - kEnvelopeBytes) / (shape.itemBytes + 2) := by
    rw [Nat.le_div_iff_mul_le (by omega)]
    unfold kEnvelopeBytes
    omega
  have hexit := countRuns_exit ((maximum - kEnvelopeBytes) / (shape.itemBytes + 2))
    (itemsOf decoded shape.itemBytes n).tail ((itemsOf decoded shape.itemBytes n).headD []) 1 1 hroom
  rw [← hitems, ← hruns] at hexit
  have hover : (maximum - kEnvelopeBytes) / (shape.itemBytes + 2) + 1 < 1 + runs ↔
      ¬runs * (shape.itemBytes + 2) + 48 ≤ maximum := by
    have hdiv := Nat.le_div_iff_mul_le (x := runs) (y := maximum - kEnvelopeBytes)
      (show 0 < shape.itemBytes + 2 by omega)
    unfold kEnvelopeBytes at hdiv ⊢
    omega
  by_cases hgave : (countRuns ((maximum - kEnvelopeBytes) / (shape.itemBytes + 2))
      ((itemsOf decoded shape.itemBytes n).headD []) 1 1
      (itemsOf decoded shape.itemBytes n).tail).2.2 = true
  · rw [if_pos hgave]
    exact ⟨fun hfit => absurd hfit.2 (hover.mp (hexit.mp hgave)), fun _ => rfl⟩
  have hcount := countRuns_eq _ _ _ _ _ (Bool.eq_false_iff.mpr hgave)
  rw [← hitems, ← hruns, Nat.add_comm 1 runs] at hcount
  have hunder : runs * (shape.itemBytes + 2) + 48 ≤ maximum := by
    by_contra hno
    exact hgave (hexit.mpr (hover.mpr hno))
  rw [if_neg hgave, Nat.add_right_cancel hcount, checkedMultiply_ite hpos]
  by_cases hmul : runs * (shape.itemBytes + 2) ≤ sizeMax
  swap
  · rw [if_neg hmul]
    exact ⟨fun hfit => absurd hfit.1 (by omega), fun _ => rfl⟩
  rw [if_pos hmul]
  dsimp only
  rw [checkedAdd_ite (by decide)]
  by_cases hfits : runs * (shape.itemBytes + 2) + kEnvelopeBytes ≤ sizeMax
  swap
  · rw [if_neg hfits]
    exact ⟨fun hfit => absurd hfit.1 hfits, fun _ => rfl⟩
  rw [if_pos hfits]
  exact ⟨fun _ => ⟨decide_eq_true hunder, rfl⟩, fun hno => absurd ⟨hfits, hunder⟩ hno⟩

end Sizing

/-! ### The encoders -/

section Encoding

variable {decoded : Bytes} {w n : ℕ} (hlen : decoded.length = n * w)

/-- A record that fits is written in one piece. -/
theorem writeRecord_eq {out : Bytes} {offset runLength start : ℕ} (hw : w + 2 ≤ sizeMax)
    (hitem : (slice decoded start w).length = w) (hfit : offset + (w + 2) ≤ out.length) :
    writeRecord out offset runLength decoded start w =
      some (store out offset (recordBytes (runLength, slice decoded start w)), offset + (w + 2)) := by
  have hstore := store_store (b := out) (x := leBytes 2 runLength) (y := slice decoded start w)
    (o := offset) (by rw [List.length_append, length_leBytes, hitem]; omega)
  rw [length_leBytes] at hstore
  unfold writeRecord
  rw [checkedAdd_ite (by omega), if_pos hw]
  dsimp only
  rw [if_neg (by simp; omega), hstore]
  refine congrArg some (Prod.ext rfl ?_)
  show offset + 2 + w = offset + (w + 2)
  omega

include hlen

/-- The loop of `encode` writes what the loop over the items writes. -/
theorem encodeItems_of_loop (hw : w + 2 ≤ sizeMax) (left : ℕ) :
    ∀ (i : ℕ) (out : Bytes) (offset start runLength runs : ℕ) (r : Bytes × ℕ × ℕ),
      0 < i → i + left ≤ n → slice decoded start w = itemAt decoded w (i - 1) →
      encodeLoop out offset (itemAt decoded w (i - 1)) runLength runs
        ((List.range' i left).map (itemAt decoded w)) = some r →
      encodeItems decoded w left i out offset start runLength runs = .ok r := by
  have hwrite : ∀ (i : ℕ) (out : Bytes) (offset start runLength : ℕ) (q : Bytes × ℕ), i < n →
      slice decoded start w = itemAt decoded w i →
      Rle.writeRecord out offset runLength (itemAt decoded w i) = some q →
      writeRecord out offset runLength decoded start w = some q := by
    intro i out offset start runLength q hi hstart hq
    have hitem := length_itemAt hlen hi
    unfold Rle.writeRecord at hq
    rw [hitem] at hq
    split at hq
    · cases hq
    rename_i hfit
    rw [writeRecord_eq hw (by rw [hstart]; exact hitem) (by omega), hstart]
    exact hq
  induction left with
  | zero =>
    intro i out offset start runLength runs r hpos hi hstart hr
    rw [List.range'_zero, List.map_nil, encodeLoop, Option.map_eq_some_iff] at hr
    obtain ⟨q, hq, rfl⟩ := hr
    rw [encodeItems, hwrite (i - 1) out offset start runLength q (by omega) hstart hq]
  | succ left ih =>
    intro i out offset start runLength runs r hpos hi hstart hr
    have hprev : i * w - w = (i - 1) * w := by rw [Nat.sub_mul, Nat.one_mul]
    rw [List.range'_succ, List.map_cons, encodeLoop] at hr
    rw [encodeItems, hprev, equalItem_eq hlen (by omega) (by omega)]
    by_cases heq : itemAt decoded w i = itemAt decoded w (i - 1)
    · rw [if_pos heq] at hr
      rw [if_pos (by simp [heq])]
      apply ih (i + 1) out offset start (runLength + 1) runs r (by omega) (by omega)
      · rw [Nat.add_sub_cancel, heq]
        exact hstart
      · rw [Nat.add_sub_cancel, heq]
        exact hr
    · rw [if_neg heq] at hr
      rw [if_neg (by simpa using fun h => heq h.symm)]
      split at hr
      · cases hr
      rename_i q hq
      rw [hwrite (i - 1) out offset start runLength q (by omega) hstart hq]
      apply ih (i + 1) q.1 q.2 (i * w) 1 (runs + 1) r (by omega) (by omega)
      · rfl
      · rw [Nat.add_sub_cancel]
        exact hr

end Encoding

section Plans

variable {decoded output : Bytes} {shape : CodecShape} {n runs : ℕ}

theorem planOf_fields (decoded : Bytes) (shape : CodecShape) (n runs : ℕ) :
    (planOf decoded shape n runs).status = .ok ∧ (planOf decoded shape n runs).shape = shape ∧
      (planOf decoded shape n runs).itemCount = n ∧ (planOf decoded shape n runs).runCount = runs ∧
      (planOf decoded shape n runs).encodedPayloadBytes = runs * (shape.itemBytes + 2) :=
  ⟨rfl, rfl, rfl, rfl, rfl⟩

/-- The consistency test accepts the plan of a payload. -/
theorem planConsistent_planOf (h : Shaped decoded shape n)
    (hruns : runs = (RunLength.runs (itemsOf decoded shape.itemBytes n)).length)
    (hsize : decoded.length ≤ sizeMax) (hfit : runs * (shape.itemBytes + 2) + 48 ≤ sizeMax) :
    planConsistent decoded (planOf decoded shape n runs) = true := by
  have hpos : 0 < runs := hruns ▸ h.runs_pos
  have hle : runs ≤ n := by
    rw [hruns]
    simpa using RunLength.length_runs_le (itemsOf decoded shape.itemBytes n)
  have hrecord : shape.itemBytes + 2 ≤ runs * (shape.itemBytes + 2) := Nat.le_mul_of_pos_left _ hpos
  have hadd : checkedAdd shape.itemBytes 2 = some (shape.itemBytes + 2) := checkedAdd_eq (by omega)
  have hmul : checkedMultiply runs (shape.itemBytes + 2) = some (runs * (shape.itemBytes + 2)) :=
    checkedMultiply_eq (by omega)
  have hitems : checkedMultiply n shape.itemBytes = some decoded.length := by
    rw [checkedMultiply_eq (by rw [← h.length]; exact hsize), h.length]
  have hframe : checkedAdd (runs * (shape.itemBytes + 2)) kEnvelopeBytes =
      some (runs * (shape.itemBytes + 2) + 48) := checkedAdd_eq hfit
  have hbytes := h.itemBytes
  have hmax := h.maxItems
  have hcount := h.itemCount
  have hn := h.nonempty
  unfold planConsistent planOf
  simp only [hitems, hadd, Option.bind_some, hmul, hframe, Bool.and_eq_true, decide_eq_true_eq]
  refine ⟨⟨⟨⟨⟨⟨⟨⟨⟨⟨⟨?_, ?_⟩, ?_⟩, ?_⟩, ?_⟩, ?_⟩, ?_⟩, ?_⟩, ?_⟩, ?_⟩, ?_⟩, ?_⟩ <;>
    first | trivial | omega

theorem length_rleBytes_planOf (h : Shaped decoded shape n)
    (hruns : runs = (RunLength.runs (itemsOf decoded shape.itemBytes n)).length) :
    (rleBytes decoded shape.itemBytes n).length = runs * (shape.itemBytes + 2) := by
  rw [length_rleBytes h.length, hruns]

/-- The loop over the items, from the start, writes all records. -/
theorem encodeLoop_items (h : Shaped decoded shape n)
    (hruns : runs = (RunLength.runs (itemsOf decoded shape.itemBytes n)).length) {out : Bytes}
    (hout : runs * (shape.itemBytes + 2) ≤ out.length) :
    encodeLoop out 0 (itemAt decoded shape.itemBytes 0) 1 0
        ((List.range' 1 (n - 1)).map (itemAt decoded shape.itemBytes)) =
      some (store out 0 (rleBytes decoded shape.itemBytes n), runs * (shape.itemBytes + 2), runs) := by
  have hcons := @itemsOf_cons decoded shape.itemBytes n h.nonempty
  have hemit : RunLength.emit (itemAt decoded shape.itemBytes 0) 1
      ((List.range' 1 (n - 1)).map (itemAt decoded shape.itemBytes)) =
        RunLength.runs (itemsOf decoded shape.itemBytes n) := by
    rw [RunLength.emit_eq_runs _ _ 1 Nat.one_pos, hcons]
    rfl
  have hloop := encodeLoop_eq (w := shape.itemBytes)
    ((List.range' 1 (n - 1)).map (itemAt decoded shape.itemBytes)) out 0
    (itemAt decoded shape.itemBytes 0) 1 0
    (by rw [← hcons]; exact length_of_mem_itemsOf h.length)
    (by rw [hemit, ← hruns, Nat.zero_add]; exact hout)
  rw [hemit, ← hruns, Nat.zero_add, Nat.zero_add] at hloop
  exact hloop

/-- Under its plan the encoder writes the records of the maximal runs. -/
theorem encode_planned (h : Shaped decoded shape n)
    (hruns : runs = (RunLength.runs (itemsOf decoded shape.itemBytes n)).length)
    (hsize : decoded.length ≤ sizeMax) (hfit : runs * (shape.itemBytes + 2) + 48 ≤ sizeMax)
    (hout : runs * (shape.itemBytes + 2) ≤ output.length) :
    encode decoded (planOf decoded shape n runs) output =
      ({ status := .ok, runCount := runs, bytesWritten := runs * (shape.itemBytes + 2) },
        store output 0 (rleBytes decoded shape.itemBytes n)) := by
  have hpos : 0 < runs := hruns ▸ h.runs_pos
  have hrecord : shape.itemBytes + 2 ≤ runs * (shape.itemBytes + 2) := Nat.le_mul_of_pos_left _ hpos
  have hrle := length_rleBytes_planOf h hruns
  have hbounded : (output.take (runs * (shape.itemBytes + 2))).length =
      runs * (shape.itemBytes + 2) := by
    rw [List.length_take]
    omega
  -- what a complete store into the bounded view leaves of the whole output
  have hwhole : store (output.take (runs * (shape.itemBytes + 2))) 0
      (rleBytes decoded shape.itemBytes n) ++ output.drop (runs * (shape.itemBytes + 2)) =
        store output 0 (rleBytes decoded shape.itemBytes n) := by
    rw [store_zero (by omega), store_zero (by omega), hrle, List.drop_eq_nil_of_le (by omega),
      List.append_nil]
  have hconsistent := planConsistent_planOf h hruns hsize hfit
  obtain ⟨-, hshape, hcount, hruncount, hpayload⟩ := planOf_fields decoded shape n runs
  revert hconsistent hshape hcount hruncount hpayload
  generalize planOf decoded shape n runs = plan
  intro hconsistent hshape hcount hruncount hpayload
  unfold encode
  rw [hconsistent, hshape, hcount, hruncount, hpayload, if_neg (by simp),
    if_neg (not_lt.mpr hout)]
  split
  · rename_i hone
    obtain ⟨hsingle, hall⟩ := runs_eq_singleton (hruns ▸ hone)
    have hfirst : (itemsOf decoded shape.itemBytes n).headD [] = slice decoded 0 shape.itemBytes := by
      rw [itemsOf_cons h.nonempty, List.headD_cons, itemAt, Nat.zero_mul]
    have hitem : (slice decoded 0 shape.itemBytes).length = shape.itemBytes := by
      have := length_itemAt h.length h.nonempty
      rwa [itemAt, Nat.zero_mul] at this
    have hbytes : rleBytes decoded shape.itemBytes n =
        recordBytes (n, slice decoded 0 shape.itemBytes) := by
      rw [rleBytes, hsingle, hfirst, List.flatMap_singleton]
    have hequal : allItemsEqual decoded shape = true := by
      have heq := allItemsEqual_eq h.length h.nonempty h.itemBytes shape.maxItems
      rw [show (⟨shape.itemBytes, shape.maxItems⟩ : CodecShape) = shape from rfl] at heq
      rw [heq, List.all_eq_true]
      intro x hx
      exact decide_eq_true (hall x hx)
    subst hone
    rw [hequal, if_neg (by simp), writeRecord_eq (by omega) hitem (by omega), ← hbytes]
    dsimp only
    rw [hwhole, Nat.zero_add, Nat.one_mul]
  · have hloop := encodeItems_of_loop h.length (by omega) (n - 1) 1
      (output.take (runs * (shape.itemBytes + 2))) 0 0 1 0 _ Nat.one_pos
      (by have := h.nonempty; omega) (by rw [itemAt, Nat.sub_self, Nat.zero_mul])
      (encodeLoop_items h hruns (by omega))
    dsimp only
    rw [hloop]
    dsimp only
    rw [if_neg (by simp), hwhole]

/-- The four stores are a record. -/
theorem hybridRecord_eq (count : ℕ) {item : Bytes} (h : item.length = 2) :
    hybridRecord count (leValue item) = recordBytes (count, item) := by
  have hback := leBytes_leValue item
  rw [h] at hback
  have hshift : ∀ v : ℕ, v >>> 8 = v / 256 := fun v => Nat.shiftRight_eq_div_pow v 8
  have hrecord : recordBytes (count, item) = leBytes 2 count ++ leBytes 2 (leValue item) := by
    rw [hback]
    rfl
  rw [hrecord, hybridRecord, hshift, hshift]
  rfl

/-- The loop of `encodeHybrid16` writes what the loop over the items writes. -/
theorem hybridItems_of_loop {input : Bytes} (hlen : input.length = n * 2) (left : ℕ) :
    ∀ (i : ℕ) (out : Bytes) (used start runs : ℕ) (r : Bytes × ℕ × ℕ), 0 < i → i + left = n →
      start < i → encodeLoop out used (itemAt input 2 (i - 1)) (i - start) runs
        ((List.range' i left).map (itemAt input 2)) = some r →
      hybridItems input left i out used start runs (leValue (itemAt input 2 (i - 1))) = .ok r := by
  have hwrite : ∀ (i : ℕ) (out : Bytes) (used count : ℕ) (q : Bytes × ℕ), i < n →
      Rle.writeRecord out used count (itemAt input 2 i) = some q →
      ¬out.length < used + 4 ∧
        q = (store out used (hybridRecord count (leValue (itemAt input 2 i))), used + 4) := by
    intro i out used count q hi hq
    have hitem := length_itemAt hlen hi
    unfold Rle.writeRecord at hq
    rw [hitem] at hq
    split at hq
    · cases hq
    rename_i hfit
    rw [hybridRecord_eq count hitem]
    injection hq with hq
    exact ⟨by omega, hq.symm⟩
  induction left with
  | zero =>
    intro i out used start runs r hpos hi hstart hr
    rw [List.range'_zero, List.map_nil, encodeLoop, Option.map_eq_some_iff] at hr
    obtain ⟨q, hq, rfl⟩ := hr
    obtain ⟨hfit, rfl⟩ := hwrite (i - 1) out used (i - start) q (by omega) hq
    rw [hybridItems, if_neg hfit]
  | succ left ih =>
    intro i out used start runs r hpos hi hstart hr
    have hi' : i < n := by omega
    have hload : loadUnalignedU16 input (2 * i) = leValue (itemAt input 2 i) := by
      rw [loadUnalignedU16, itemAt, Nat.mul_comm]
    have hsame : leValue (itemAt input 2 i) = leValue (itemAt input 2 (i - 1)) ↔
        itemAt input 2 i = itemAt input 2 (i - 1) :=
      leValue_slice_eq_iff (itemAt_end hlen hi') (itemAt_end hlen (by omega))
    rw [List.range'_succ, List.map_cons, encodeLoop] at hr
    rw [hybridItems, hload]
    by_cases heq : itemAt input 2 i = itemAt input 2 (i - 1)
    · rw [if_pos heq] at hr
      rw [if_pos (hsame.mpr heq), ← heq]
      have hnext := ih (i + 1) out used start runs r (by omega) (by omega) (by omega)
      rw [Nat.add_sub_cancel, show i + 1 - start = i - start + 1 by omega] at hnext
      apply hnext
      rw [heq]
      exact hr
    · rw [if_neg heq] at hr
      rw [if_neg (fun h => heq (hsame.mp h))]
      split at hr
      · cases hr
      rename_i q hq
      obtain ⟨hfit, rfl⟩ := hwrite (i - 1) out used (i - start) q (by omega) hq
      rw [if_neg hfit]
      have hnext := ih (i + 1) (store out used
        (hybridRecord (i - start) (leValue (itemAt input 2 (i - 1))))) (used + 4) i (runs + 1) r
        (by omega) (by omega) (by omega)
      rw [Nat.add_sub_cancel, show i + 1 - i = 1 by omega] at hnext
      exact hnext hr

/-- Under its plan the two-byte encoder writes the same. -/
theorem encodeHybrid16_planned (h : Shaped decoded shape n) (hw : shape.itemBytes = 2)
    (hruns : runs = (RunLength.runs (itemsOf decoded shape.itemBytes n)).length)
    (hout : runs * (shape.itemBytes + 2) ≤ output.length) :
    encodeHybrid16 decoded (planOf decoded shape n runs) output =
      ({ status := .ok, runCount := runs, bytesWritten := runs * (shape.itemBytes + 2) },
        store output 0 (rleBytes decoded shape.itemBytes n)) := by
  have hlen := h.length
  rw [hw] at hlen
  have hpos : 0 < runs := hruns ▸ h.runs_pos
  obtain ⟨hstatus, hshape, hcount, hruncount, hpayload⟩ := planOf_fields decoded shape n runs
  revert hstatus hshape hcount hruncount hpayload
  generalize planOf decoded shape n runs = plan
  intro hstatus hshape hcount hruncount hpayload
  have hguard : ¬(Status.ok ≠ Status.ok ∨ shape.itemBytes ≠ 2 ∨ decoded.length ≠ n * 2 ∨
      output.length < runs * (shape.itemBytes + 2)) := by
    simp only [ne_eq, not_true_eq_false, false_or]
    omega
  unfold encodeHybrid16
  rw [hstatus, hshape, hcount, hruncount, hpayload, if_neg hguard]
  split
  · rename_i hone
    obtain ⟨hsingle, -⟩ := runs_eq_singleton (hruns ▸ hone)
    have hitem : itemAt decoded 2 0 = [byteAt decoded 0, byteAt decoded 1] := by
      have hpair : 2 ≤ decoded.length := by have := h.nonempty; omega
      match decoded, hpair with
      | a :: b :: rest, _ => rfl
    have hbytes : rleBytes decoded 2 n = recordBytes (n, itemAt decoded 2 0) := by
      rw [hw] at hsingle
      rw [rleBytes, hsingle, itemsOf_cons h.nonempty, List.headD_cons, List.flatMap_singleton]
    subst hone
    rw [hw, hbytes, hitem]
    rw [Nat.shiftRight_eq_div_pow]
    rfl
  · have hloop := encodeLoop_items h hruns hout
    rw [hw] at hloop
    have hitems := hybridItems_of_loop hlen (n - 1) 1 output 0 0 0 _ Nat.one_pos
      (by have := h.nonempty; omega) Nat.one_pos hloop
    have hfirst : leValue (itemAt decoded 2 (1 - 1)) = loadUnalignedU16 decoded 0 := rfl
    rw [hfirst] at hitems
    rw [hitems, hw]
    simp

end Plans

/-! ### Agreement -/

/-- The records a plan asks for: the maximal runs of the items. -/
structure PlannedRuns (decoded : Bytes) (plan : SizingPlan) (r : List (ℕ × Bytes)) : Prop where
  positive : ∀ p ∈ r, 0 < p.1 ∧ p.1 ≤ 65535
  adjacent : r.IsChain fun p q => p.2 ≠ q.2
  widths : ∀ p ∈ r, p.2.length = plan.shape.itemBytes
  runCount : r.length = plan.runCount
  total : (r.map Prod.fst).sum = plan.itemCount
  expands : (RunLength.expand r).flatten = decoded
  bytes : (r.flatMap recordBytes).length = plan.encodedPayloadBytes

/-- The samples of a payload, as the host takes them. -/
def samples (decoded : Bytes) (plan : SizingPlan) : List ℕ :=
  (itemsOf decoded plan.shape.itemBytes plan.itemCount).map leValue

section Agreement

variable {decoded : Bytes} {shape : CodecShape} {n : ℕ}

theorem plannedRuns_planOf (h : Shaped decoded shape n) :
    PlannedRuns decoded (planOf decoded shape n
      (RunLength.runs (itemsOf decoded shape.itemBytes n)).length)
      (RunLength.runs (itemsOf decoded shape.itemBytes n)) where
  positive := by
    intro p hp
    have hsum : p.1 ≤ ((RunLength.runs (itemsOf decoded shape.itemBytes n)).map Prod.fst).sum :=
      List.le_sum_of_mem (List.mem_map_of_mem hp)
    rw [RunLength.sum_runs, length_itemsOf] at hsum
    exact ⟨RunLength.runs_pos _ p hp, hsum.trans h.itemCount.2⟩
  adjacent := RunLength.runs_ne _
  widths := fun p hp => length_of_mem_itemsOf h.length _ (mem_runs_mem hp)
  runCount := rfl
  total := by
    rw [RunLength.sum_runs, length_itemsOf]
    rfl
  expands := by
    rw [RunLength.expand_runs, flatten_itemsOf h.length]
  bytes := length_rleBytes h.length

/-- Items of one width are the bytes of their numbers. -/
theorem leBytes_item (h : Shaped decoded shape n) {x : Bytes}
    (hx : x ∈ itemsOf decoded shape.itemBytes n) : leBytes shape.itemBytes (leValue x) = x := by
  have hback := leBytes_leValue x
  rwa [length_of_mem_itemsOf h.length x hx] at hback

/-- The runs of the samples are the runs of the items. -/
theorem runs_samples (h : Shaped decoded shape n) (runs : ℕ) :
    RunLength.runs (samples decoded (planOf decoded shape n runs)) =
      (RunLength.runs (itemsOf decoded shape.itemBytes n)).map fun p => (p.1, leValue p.2) := by
  apply RunLength.runs_map
  intro x hx y hy hxy
  rw [← leBytes_item h hx, hxy, leBytes_item h hy]

/-- The host's records of the samples are the firmware's records of the items. -/
theorem gpioRle_samples (h : Shaped decoded shape n) (runs : ℕ) :
    Host.gpioRle shape.itemBytes (samples decoded (planOf decoded shape n runs)) =
      rleBytes decoded shape.itemBytes n := by
  unfold Host.gpioRle rleBytes
  rw [runs_samples h, List.flatMap_map]
  apply List.flatMap_congr
  intro p hp
  unfold Host.gpioRecord recordBytes
  rw [leBytes_item h (mem_runs_mem hp)]

/-- The samples are in the range the host asks for. -/
theorem samples_range (h : Shaped decoded shape n) (runs : ℕ) :
    ∀ v ∈ samples decoded (planOf decoded shape n runs), v < 256 ^ shape.itemBytes := by
  intro v hv
  obtain ⟨x, hx, rfl⟩ := List.mem_map.mp hv
  have hlt := leValue_lt x
  rwa [length_of_mem_itemsOf h.length x hx] at hlt

/-- A plan that sizing succeeded with is the plan of the maximal runs. -/
theorem size_ok (hok : (size decoded shape).status = .ok) :
    ∃ n, Shaped decoded shape n ∧
      (RunLength.runs (itemsOf decoded shape.itemBytes n)).length * (shape.itemBytes + 2) + 48 ≤
        sizeMax ∧
      size decoded shape = planOf decoded shape n
        (RunLength.runs (itemsOf decoded shape.itemBytes n)).length := by
  rcases shaped_or decoded shape 0 with ⟨n, h⟩ | ⟨hno, -⟩
  · obtain ⟨hsize, hno⟩ := h.size_eq _ rfl
    have hfit := of_not_not fun hfit => hno hfit hok
    exact ⟨n, h, hfit, hsize hfit⟩
  · exact absurd hok hno

/-- Selection is sizing against the ceiling. -/
theorem selectRle_iff (decoded : Bytes) (shape : CodecShape) (maximum : ℕ) :
    ((sizeForAdaptiveSelection decoded shape maximum).selectRle = true ↔
      (size decoded shape).status = .ok ∧ (size decoded shape).encodedFrameBytes ≤ maximum) ∧
    ((sizeForAdaptiveSelection decoded shape maximum).selectRle = true →
      (sizeForAdaptiveSelection decoded shape maximum).plan = size decoded shape) := by
  rw [sizeForAdaptiveSelection_eq]
  rcases shaped_or decoded shape maximum with ⟨n, h⟩ | ⟨hstatus, hselect⟩
  · obtain ⟨hsize, hno⟩ := h.size_eq _ rfl
    obtain ⟨hselect, hreject⟩ := h.select_eq maximum _ rfl
    by_cases hfit : (RunLength.runs (itemsOf decoded shape.itemBytes n)).length *
        (shape.itemBytes + 2) + 48 ≤ sizeMax
    · rw [hsize hfit]
      by_cases hmax : (RunLength.runs (itemsOf decoded shape.itemBytes n)).length *
          (shape.itemBytes + 2) + 48 ≤ maximum
      · obtain ⟨hsel, hplan⟩ := hselect ⟨hfit, hmax⟩
        exact ⟨⟨fun _ => ⟨rfl, hmax⟩, fun _ => hsel⟩, fun _ => hplan⟩
      · have hsel := hreject fun hboth => hmax hboth.2
        rw [hsel]
        exact ⟨⟨fun hf => absurd hf (by simp), fun hb => absurd hb.2 hmax⟩,
          fun hf => absurd hf (by simp)⟩
    · have hsel := hreject fun hboth => hfit hboth.1
      rw [hsel]
      exact ⟨⟨fun hf => absurd hf (by simp), fun hb => absurd hb.1 (hno hfit)⟩,
        fun hf => absurd hf (by simp)⟩
  · rw [hselect]
    exact ⟨⟨fun hf => absurd hf (by simp), fun hb => absurd hb.1 hstatus⟩,
      fun hf => absurd hf (by simp)⟩

/-- The host's pass over the samples writes the records of the plan. -/
theorem host_records (h : Shaped decoded shape n) (runs : ℕ) :
    ∃ s, (samples decoded (planOf decoded shape n runs)).foldlM
        (Host.gpioStep (8 * shape.itemBytes)) {} = .ok s ∧
      s.rle ++ Host.gpioRecord shape.itemBytes (s.length, s.previous.getD 0) =
        rleBytes decoded shape.itemBytes n := by
  have hne : samples decoded (planOf decoded shape n runs) ≠ [] := by
    have hlen : (samples decoded (planOf decoded shape n runs)).length = n := by
      simp [samples, planOf]
    rw [← List.length_pos_iff, hlen]
    exact h.nonempty
  obtain ⟨s, hs, -, hrle, -⟩ := Host.foldlM_gpioStep_all hne (samples_range h runs)
  exact ⟨s, hs, hrle.trans (gpioRle_samples h runs)⟩

end Agreement

/-- Sizing, selection, the two encoders and the host's encoder agree.  The length of a payload
is a `size_t`. -/
theorem rle_agreement (decoded : Bytes) (shape : CodecShape) (hsize : decoded.length ≤ sizeMax) :
    (∀ maximum, ((sizeForAdaptiveSelection decoded shape maximum).selectRle = true ↔
        (size decoded shape).status = .ok ∧ (size decoded shape).encodedFrameBytes ≤ maximum) ∧
      ((sizeForAdaptiveSelection decoded shape maximum).selectRle = true →
        (sizeForAdaptiveSelection decoded shape maximum).plan = size decoded shape)) ∧
    ((size decoded shape).status = .ok →
      ∃ r, PlannedRuns decoded (size decoded shape) r ∧
        (∀ output : Bytes, (size decoded shape).encodedPayloadBytes ≤ output.length →
          encode decoded (size decoded shape) output =
            ({ status := .ok, runCount := r.length, bytesWritten := (r.flatMap recordBytes).length },
              r.flatMap recordBytes ++ output.drop (r.flatMap recordBytes).length) ∧
          (shape.itemBytes = 2 → encodeHybrid16 decoded (size decoded shape) output =
            encode decoded (size decoded shape) output)) ∧
        (shape.itemBytes = 1 ∨ shape.itemBytes = 2 →
          (∃ s, (samples decoded (size decoded shape)).foldlM
              (Host.gpioStep (8 * shape.itemBytes)) {} = .ok s ∧
            s.rle ++ Host.gpioRecord shape.itemBytes (s.length, s.previous.getD 0) =
              r.flatMap recordBytes) ∧
          (decoded.length ≤ Host.maxLogicalPayloadBytes →
            (r.flatMap recordBytes).length < decoded.length →
            Host.encodeGpioPayload (samples decoded (size decoded shape)) (8 * shape.itemBytes)
                .rleAuto =
              .ok (dataPrefix 1 shape.itemBytes decoded.length r.length ++
                r.flatMap recordBytes)))) := by
  refine ⟨selectRle_iff decoded shape, ?_⟩
  intro hok
  obtain ⟨n, h, hfit, hplan⟩ := size_ok hok
  rw [hplan]
  have hbytes := length_rleBytes (w := shape.itemBytes) h.length
  refine ⟨RunLength.runs (itemsOf decoded shape.itemBytes n), plannedRuns_planOf h, ?_, ?_⟩
  · intro output hout
    have hstore : store output 0 (rleBytes decoded shape.itemBytes n) =
        rleBytes decoded shape.itemBytes n ++
          output.drop (rleBytes decoded shape.itemBytes n).length :=
      store_zero (by rw [hbytes]; exact hout)
    have hencode := encode_planned h rfl hsize hfit hout
    rw [hstore, ← hbytes] at hencode
    refine ⟨hencode, ?_⟩
    intro hw
    have hhybrid := encodeHybrid16_planned h hw rfl hout
    rw [hstore, ← hbytes] at hhybrid
    rw [hhybrid, hencode]
  · intro hw
    refine ⟨host_records h _, ?_⟩
    intro hlogical hsmaller
    have hraw : (Host.gpioRaw shape.itemBytes (samples decoded (planOf decoded shape n
        (RunLength.runs (itemsOf decoded shape.itemBytes n)).length))).length = decoded.length := by
      rw [Host.length_gpioRaw, h.length]
      simp [samples, planOf]
    have hvalues : Host.GpioSamples shape.itemBytes (samples decoded (planOf decoded shape n
        (RunLength.runs (itemsOf decoded shape.itemBytes n)).length)) := by
      refine ⟨hw, ?_, ?_, samples_range h _⟩
      · simpa [samples, planOf] using h.nonempty
      · rw [Nat.le_div_iff_mul_le h.itemBytes]
        rw [h.length] at hlogical
        simpa [samples, planOf] using hlogical
    have hruns : (RunLength.runs (samples decoded (planOf decoded shape n
        (RunLength.runs (itemsOf decoded shape.itemBytes n)).length))).length =
          (RunLength.runs (itemsOf decoded shape.itemBytes n)).length := by
      rw [runs_samples h, List.length_map]
    have hless : (rleBytes decoded shape.itemBytes n).length < decoded.length := hsmaller
    rw [Host.encodeGpioPayload_eq hvalues, Host.gpioPayload, gpioRle_samples h, hraw, hruns,
      if_pos (by simpa using hless)]
    rfl

/-- Five equal two-byte items and another one: two records in a frame of 56 bytes. -/
theorem six_items_two_records :
    let decoded : Bytes := [1, 2, 1, 2, 1, 2, 1, 2, 1, 2, 3, 4]
    (sizeForAdaptiveSelection decoded ⟨2, 2024⟩ 56).selectRle = true ∧
      (sizeForAdaptiveSelection decoded ⟨2, 2024⟩ 55).selectRle = false ∧
      ∃ r, PlannedRuns decoded (size decoded ⟨2, 2024⟩) r ∧
        Host.encodeGpioPayload (samples decoded (size decoded ⟨2, 2024⟩)) 16 .rleAuto =
          .ok (dataPrefix 1 2 12 r.length ++ r.flatMap recordBytes) := by
  intro decoded
  obtain ⟨hselect, hencode⟩ := rle_agreement decoded ⟨2, 2024⟩ (by decide)
  refine ⟨((hselect 56).1).mpr (by decide), ?_, ?_⟩
  · rw [Bool.eq_false_iff, ne_eq, (hselect 55).1]
    decide
  · obtain ⟨r, hr, -, hhost⟩ := hencode (by decide)
    have hbytes : (r.flatMap recordBytes).length < decoded.length := by
      rw [hr.bytes]
      decide
    exact ⟨r, hr, (hhost (Or.inr rfl)).2 (by decide) hbytes⟩

end ThingDaq.Rle.Scan
