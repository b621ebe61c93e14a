import ThingDaq.Pipeline.BatchPacker

/-!
# The accounts of the GPIO batch packer

Where the samples went that a raw buffer brought or missed.  The packer keeps sums in three
places: its own totals, the losses that wait for the next packed frame, and the losses it has
handed to the pipeline.  `Sound p d` is its invariant while `p` positions are counted ahead and
`d` of them are known to be missing.

## Main results

* `Going.accountRawGap` — a gap of any size, from anywhere in a frame.
* `Going.takeBuffer` — a raw buffer, whatever it holds.
-/

namespace ThingDaq.GpioPacker

open Wire Table Ring
open GpioCapture (BufferHandle)

/-! ### Fates -/

namespace Fate

def raw : Fate → ℕ
  | invalid raw _ => raw
  | _ => 0

def packer : Fate → ℕ
  | invalid _ packer => packer
  | _ => 0

def isInvalid : Fate → Bool
  | invalid _ _ => true
  | _ => false

end Fate

/-- Samples of finished frames that are missing from the source. -/
def lostRaw (fates : List Fate) : ℕ := (fates.map Fate.raw).sum

/-- Samples of finished frames that were dropped in front of the pipeline. -/
def lostPacker (fates : List Fate) : ℕ := (fates.map Fate.packer).sum

def invalidFrames (fates : List Fate) : ℕ := fates.countP Fate.isInvalid

def waitingFrames (fates : List Fate) : ℕ := fates.countP (· = .waiting)

def framedFrames (fates : List Fate) : ℕ := fates.countP (· = .framed)

def unframedFrames (fates : List Fate) : ℕ := fates.countP (· = .unframed)

section Sums

variable (fates extra : List Fate)

@[simp] theorem lostRaw_append : lostRaw (fates ++ extra) = lostRaw fates + lostRaw extra := by
  simp [lostRaw]

@[simp] theorem lostPacker_append :
    lostPacker (fates ++ extra) = lostPacker fates + lostPacker extra := by
  simp [lostPacker]

@[simp] theorem invalidFrames_append :
    invalidFrames (fates ++ extra) = invalidFrames fates + invalidFrames extra :=
  List.countP_append

@[simp] theorem waitingFrames_append :
    waitingFrames (fates ++ extra) = waitingFrames fates + waitingFrames extra :=
  List.countP_append

@[simp] theorem framedFrames_append :
    framedFrames (fates ++ extra) = framedFrames fates + framedFrames extra :=
  List.countP_append

@[simp] theorem unframedFrames_append :
    unframedFrames (fates ++ extra) = unframedFrames fates + unframedFrames extra :=
  List.countP_append

/-- Every frame has one fate. -/
theorem length_fates : fates.length = invalidFrames fates + waitingFrames fates +
    framedFrames fates + unframedFrames fates := by
  induction fates with
  | nil => rfl
  | cons fate fates ih =>
    unfold invalidFrames waitingFrames framedFrames unframedFrames at *
    simp only [List.length_cons, List.countP_cons, ih]
    cases fate <;> simp [Fate.isInvalid] <;> omega

variable (raw packer : ℕ)

@[simp] theorem lostRaw_invalid : lostRaw [Fate.invalid raw packer] = raw := rfl

@[simp] theorem lostPacker_invalid : lostPacker [Fate.invalid raw packer] = packer := rfl

@[simp] theorem invalidFrames_invalid : invalidFrames [Fate.invalid raw packer] = 1 := rfl

@[simp] theorem lostRaw_waiting : lostRaw [Fate.waiting] = 0 := rfl

@[simp] theorem lostPacker_waiting : lostPacker [Fate.waiting] = 0 := rfl

@[simp] theorem invalidFrames_waiting : invalidFrames [Fate.waiting] = 0 := rfl

@[simp] theorem waitingFrames_waiting : waitingFrames [Fate.waiting] = 1 := rfl

@[simp] theorem framedFrames_waiting : framedFrames [Fate.waiting] = 0 := rfl

@[simp] theorem unframedFrames_waiting : unframedFrames [Fate.waiting] = 0 := rfl

variable {fates} {n : ℕ}

theorem lost_eq (h : ∀ raw packer, Fate.invalid raw packer ∈ fates → raw + packer = n) :
    lostRaw fates + lostPacker fates = invalidFrames fates * n := by
  induction fates with
  | nil => simp [lostRaw, lostPacker, invalidFrames]
  | cons fate fates ih =>
    have hrest := ih fun raw packer hmem => h raw packer (List.mem_cons_of_mem _ hmem)
    unfold lostRaw lostPacker invalidFrames at *
    simp only [List.map_cons, List.sum_cons, List.countP_cons]
    cases fate with
    | invalid raw packer =>
      have hfate := h raw packer List.mem_cons_self
      simp only [Fate.raw, Fate.packer, Fate.isInvalid, if_true, Nat.add_mul, Nat.one_mul]
      omega
    | _ => simpa [Fate.raw, Fate.packer, Fate.isInvalid] using hrest

end Sums

/-- Replacing a waiting frame by a frame that leaves the queue. -/
theorem fates_set {fates : List Fate} {j : ℕ} (hj : fates[j]? = some .waiting) (framed : Bool) :
    let fate := if framed then Fate.framed else Fate.unframed
    lostRaw (fates.set j fate) = lostRaw fates ∧ lostPacker (fates.set j fate) = lostPacker fates ∧
      invalidFrames (fates.set j fate) = invalidFrames fates ∧
      waitingFrames (fates.set j fate) + 1 = waitingFrames fates ∧
      framedFrames (fates.set j fate) = framedFrames fates + framed.toNat ∧
      unframedFrames (fates.set j fate) = unframedFrames fates + (!framed).toNat := by
  intro fate
  have hlt := (List.getElem?_eq_some_iff.mp hj).1
  -- the list in front of the frame, the frame, and the list behind it
  have hsplit : fates = fates.take j ++ .waiting :: fates.drop (j + 1) := by
    conv_lhs => rw [← List.take_append_drop j fates, List.drop_eq_getElem_cons hlt]
    rw [(List.getElem?_eq_some_iff.mp hj).2]
  have hset : fates.set j fate = fates.take j ++ fate :: fates.drop (j + 1) :=
    List.set_eq_take_append_cons_drop.trans (if_pos hlt)
  generalize fates.take j = before at hsplit hset
  generalize fates.drop (j + 1) = after at hsplit hset
  rw [hset, hsplit]
  cases framed <;>
    simp [fate, lostRaw, lostPacker, invalidFrames, waitingFrames, framedFrames, unframedFrames,
      Fate.raw, Fate.packer, Fate.isInvalid, Bool.toNat] <;> omega

namespace GpioBatchPacker

variable {x y : GpioBatchPacker} {p d : ℕ}

/-! ### The invariant -/

/-- What the records of the waiting frames add up to. -/
def queued (x : GpioBatchPacker) (g : BufferRecord → ℕ) : ℕ :=
  (x.readyQueue.map fun i => g (x.records i)).sum

/-- The ready queue: its buffers, and the frames of the stream that they hold. -/
structure Queue (x : GpioBatchPacker) : Prop where
  nodup : x.readyQueue.Nodup
  ready : ∀ i ∈ x.readyQueue, i < kGpioPackedRingDepth ∧ (x.records i).state = .ready
  slots : ∀ i ∈ x.readyQueue, ∃ j, (x.records i).firstSample = j * x.itemCount ∧
    x.fates[j]? = some .waiting
  distinct : (x.readyQueue.map fun i => (x.records i).firstSample).Nodup
  waiting : waitingFrames x.fates = x.readyQueue.length
  whole : ∀ i ∈ x.readyQueue,
    (x.records i).rawDropSamplesBefore + (x.records i).packerDropSamplesBefore =
      (x.records i).droppedFramesBefore * x.itemCount

/-- The frame that is being filled. -/
structure Current (x : GpioBatchPacker) : Prop where
  itemCount : 0 < x.itemCount ∧ x.itemCount ≤ kDataPayloadBytes
  filling : ∀ b, x.fillingBuffer = some b → b < kGpioPackedRingDepth ∧
    (x.records b).state = .filling ∧ x.currentFrameInvalid = false
  held : 0 < x.currentFrameSamples → x.currentFrameInvalid = false → x.fillingBuffer.isSome
  samples : x.currentFrameSamples ≤ x.itemCount
  lost : x.currentRawDropSamples + x.currentPackerDropSamples =
    if x.currentFrameInvalid then x.currentFrameSamples else 0

/-- The positions of the stream; `p` more are counted as produced already. -/
structure Positions (p : ℕ) (x : GpioBatchPacker) : Prop where
  produced : x.progress.samplesProduced = x.nextSourceSample + p
  bound : x.nextSourceSample + p ≤ u64Max
  frames : x.progress.framesProduced = x.fates.length
  packed : x.progress.framesPacked =
    waitingFrames x.fates + framedFrames x.fates + unframedFrames x.fates
  tiled : x.fates.length * x.itemCount ≤ x.nextSourceSample
  unfinished : x.nextSourceSample ≤ x.fates.length * x.itemCount + x.itemCount
  running : x.running = true →
    x.fates.length * x.itemCount + x.currentFrameSamples = x.nextSourceSample
  stopped : x.running = false → x.currentFrameSamples = 0

/-- The samples of the unfinished frame that are lost with it. -/
def lostUnfinished (x : GpioBatchPacker) : ℕ :=
  if x.running && !x.currentFrameInvalid then 0
  else x.nextSourceSample - x.fates.length * x.itemCount

theorem lostUnfinished_valid (hrun : x.running = true) (hvalid : x.currentFrameInvalid = false) :
    x.lostUnfinished = 0 := by
  unfold lostUnfinished
  rw [hrun, hvalid]
  rfl

theorem lostUnfinished_invalid (hinvalid : x.currentFrameInvalid = true) :
    x.lostUnfinished = x.nextSourceSample - x.fates.length * x.itemCount := by
  unfold lostUnfinished
  rw [hinvalid, Bool.not_true, Bool.and_false]
  rfl

theorem lostUnfinished_stopped (hstop : x.running = false) :
    x.lostUnfinished = x.nextSourceSample - x.fates.length * x.itemCount := by
  unfold lostUnfinished
  rw [hstop, Bool.false_and]
  rfl

/-- The losses; `d` more samples are counted as missing from the source already. -/
structure Losses (d : ℕ) (x : GpioBatchPacker) : Prop where
  invalid : ∀ raw packer, Fate.invalid raw packer ∈ x.fates → raw + packer = x.itemCount
  prepacket : x.prepacketFramesDropped = invalidFrames x.fates
  pending : x.pendingRawDropSamples + x.pendingPackerDropSamples =
    x.pendingDroppedFrames * x.itemCount
  projected : x.progress.rawDropSamplesProjected + x.progress.packerDropSamplesProjected =
    x.prepacketFramesProjected * x.itemCount
  frames : x.pendingDroppedFrames + x.queued BufferRecord.droppedFramesBefore +
    x.prepacketFramesProjected = invalidFrames x.fates
  raw : x.pendingRawDropSamples + x.queued BufferRecord.rawDropSamplesBefore +
    x.progress.rawDropSamplesProjected = lostRaw x.fates
  packer : x.pendingPackerDropSamples + x.queued BufferRecord.packerDropSamplesBefore +
    x.progress.packerDropSamplesProjected = lostPacker x.fates
  total : x.progress.rawGapSamples + x.progress.packerDropSamples =
    lostRaw x.fates + lostPacker x.fates + x.lostUnfinished + d
  rawTotal : lostRaw x.fates + x.currentRawDropSamples + d ≤ x.progress.rawGapSamples
  packerTotal : lostPacker x.fates + x.currentPackerDropSamples ≤ x.progress.packerDropSamples

structure Sound (p d : ℕ) (x : GpioBatchPacker) : Prop where
  queue : Queue x
  current : Current x
  positions : Positions p x
  losses : Losses d x

/-- All counters are bounded by the position. -/
structure Bounds (p : ℕ) (x : GpioBatchPacker) (d : ℕ) : Prop where
  lost : lostRaw x.fates + lostPacker x.fates = invalidFrames x.fates * x.itemCount
  frames : invalidFrames x.fates + waitingFrames x.fates ≤ x.fates.length
  spread : x.fates.length ≤ x.fates.length * x.itemCount
  invalid : invalidFrames x.fates * x.itemCount ≤ x.fates.length * x.itemCount
  total : x.progress.rawGapSamples + x.progress.packerDropSamples ≤ x.nextSourceSample + d

theorem Sound.bounds (h : Sound p d x) : Bounds p x d := by
  have hlost := lost_eq h.losses.invalid
  have hfates := length_fates x.fates
  have hle : invalidFrames x.fates ≤ x.fates.length := by omega
  have hinvalid := Nat.mul_le_mul_right x.itemCount hle
  have htiled := h.positions.tiled
  have htotal := h.losses.total
  refine ⟨hlost, by omega, Nat.le_mul_of_pos_right _ h.current.itemCount.1, hinvalid, ?_⟩
  unfold lostUnfinished at htotal
  split at htotal <;> omega

/-! ### Records that stay -/

theorem queued_congr (hqueue : y.readyQueue = x.readyQueue)
    (hrecords : ∀ i ∈ x.readyQueue, y.records i = x.records i) (g : BufferRecord → ℕ) :
    y.queued g = x.queued g := by
  unfold queued
  rw [hqueue]
  exact congrArg List.sum (List.map_congr_left fun i hi => by rw [hrecords i hi])

/-- The queue stays, and only frames that are not waiting are added. -/
theorem Queue.keep (h : Queue x) (hqueue : y.readyQueue = x.readyQueue)
    (hlayout : y.layout = x.layout)
    (hrecords : ∀ i ∈ x.readyQueue, y.records i = x.records i) {e : List Fate}
    (hfates : y.fates = x.fates ++ e) (hnone : waitingFrames e = 0) : Queue y := by
  have hitems : y.itemCount = x.itemCount :=
    congrArg (fun l => (RunLayout.streams l .gpio).itemCount) hlayout
  constructor
  · rw [hqueue]
    exact h.nodup
  · intro i hi
    rw [hqueue] at hi
    rw [hrecords i hi]
    exact h.ready i hi
  · intro i hi
    rw [hqueue] at hi
    obtain ⟨j, hfirst, hj⟩ := h.slots i hi
    rw [hrecords i hi, hitems, hfates]
    exact ⟨j, hfirst, by rw [List.getElem?_append_left (List.getElem?_eq_some_iff.mp hj).1, hj]⟩
  · have hmap : y.readyQueue.map (fun i => (y.records i).firstSample) =
        x.readyQueue.map fun i => (x.records i).firstSample := by
      rw [hqueue]
      exact List.map_congr_left fun i hi => by rw [hrecords i hi]
    rw [hmap]
    exact h.distinct
  · rw [hqueue, hfates, waitingFrames_append, hnone]
    exact h.waiting
  · intro i hi
    rw [hqueue] at hi
    rw [hrecords i hi, hitems]
    exact h.whole i hi

/-- A buffer that is not READY is not in the queue. -/
theorem Queue.apart (h : Queue x) {b : ℕ} (hb : (x.records b).state ≠ .ready) :
    ∀ i ∈ x.readyQueue, i ≠ b := by
  rintro i hi rfl
  exact hb (h.ready i hi).2

theorem Queue.update (h : Queue x) {b : ℕ} (hb : (x.records b).state ≠ .ready) (r : BufferRecord) :
    ∀ i ∈ x.readyQueue, Function.update x.records b r i = x.records i :=
  fun i hi => Function.update_of_ne (h.apart hb i hi) _ _

/-! ### The current frame -/

/-- Notes that the accounts do not read. -/
theorem Sound.annotate (h : Sound p d x) (sourceErrors pipelineErrors chronologyErrors serviceCalls
    rawBuffersAcquired rawBuffersReleased duplicateSamplesIgnored : ℕ)
    (inputGapPending packetGapPending : Bool) : Sound p d { x with
      sourceErrors := sourceErrors
      pipelineErrors := pipelineErrors
      chronologyErrors := chronologyErrors
      serviceCalls := serviceCalls
      rawBuffersAcquired := rawBuffersAcquired
      rawBuffersReleased := rawBuffersReleased
      duplicateSamplesIgnored := duplicateSamplesIgnored
      inputGapPending := inputGapPending
      packetGapPending := packetGapPending } :=
  ⟨{ h.queue with }, { h.current with }, { h.positions with }, { h.losses with }⟩

/-- `y` is `x` at the same place of the same frame. -/
structure SamePlace (x y : GpioBatchPacker) : Prop where
  running : y.running = x.running
  layout : y.layout = x.layout
  currentFrameSamples : y.currentFrameSamples = x.currentFrameSamples
  nextSourceSample : y.nextSourceSample = x.nextSourceSample
  fates : y.fates = x.fates
  projected : y.prepacketFramesProjected = x.prepacketFramesProjected

theorem SamePlace.itemCount (h : SamePlace x y) : y.itemCount = x.itemCount :=
  congrArg (fun l => (RunLayout.streams l .gpio).itemCount) h.layout

theorem SamePlace.refl (x : GpioBatchPacker) : SamePlace x x := ⟨rfl, rfl, rfl, rfl, rfl, rfl⟩

theorem invalidate_samePlace (x : GpioBatchPacker) : SamePlace x x.invalidateCurrentFrame := by
  unfold invalidateCurrentFrame recycle
  dsimp only
  split
  · exact ⟨rfl, rfl, rfl, rfl, rfl, rfl⟩
  · split
    · exact ⟨rfl, rfl, rfl, rfl, rfl, rfl⟩
    · split <;> exact ⟨rfl, rfl, rfl, rfl, rfl, rfl⟩

theorem invalidate_invalid (x : GpioBatchPacker) :
    x.invalidateCurrentFrame.currentFrameInvalid = true := by
  unfold invalidateCurrentFrame recycle
  dsimp only
  split
  · assumption
  · split
    · rfl
    · split <;> rfl

theorem invalidate_again (hinvalid : x.currentFrameInvalid = true) :
    x.invalidateCurrentFrame = { x with inputGapPending := true } := by
  unfold invalidateCurrentFrame
  exact if_pos hinvalid

theorem invalidate_empty (hvalid : x.currentFrameInvalid = false)
    (hfilling : x.fillingBuffer = none) :
    x.invalidateCurrentFrame = { x with inputGapPending := true, currentFrameInvalid := true } := by
  unfold invalidateCurrentFrame
  dsimp only
  rw [if_neg (by rw [hvalid]; exact Bool.false_ne_true), hfilling]

/-- The packer with a frame that lost what was packed of it. -/
def spoiled (x : GpioBatchPacker) (b : ℕ) : GpioBatchPacker :=
  { x with
    inputGapPending := true
    currentFrameInvalid := true
    fillingBuffer := none
    records := Function.update x.records b {}
    currentPackerDropSamples := sat64 x.currentPackerDropSamples x.currentFrameSamples
    progress := { x.progress with
      packerDropSamples := sat64 x.progress.packerDropSamples x.currentFrameSamples } }

theorem invalidate_filling {b : ℕ} (hvalid : x.currentFrameInvalid = false)
    (hfilling : x.fillingBuffer = some b) (hb : b < kGpioPackedRingDepth) :
    x.invalidateCurrentFrame = x.spoiled b := by
  unfold invalidateCurrentFrame
  dsimp only
  rw [if_neg (by rw [hvalid]; exact Bool.false_ne_true), hfilling]
  dsimp only
  unfold recycle
  rw [if_neg (by omega)]
  rfl

theorem Current.empty (h : Current x) (hvalid : x.currentFrameInvalid = false)
    (hfilling : x.fillingBuffer = none) : x.currentFrameSamples = 0 := by
  by_contra hne
  have hheld := h.held (Nat.pos_of_ne_zero hne) hvalid
  rw [hfilling] at hheld
  cases hheld

/-- What was packed of the frame is dropped with it. -/
theorem Sound.invalidate (h : Sound p d x) (hrun : x.running = true) :
    Sound p d x.invalidateCurrentFrame := by
  cases hvalid : x.currentFrameInvalid with
  | true =>
    rw [invalidate_again hvalid]
    exact h.annotate ..
  | false =>
    have hlost := h.current.lost
    rw [hvalid, if_neg Bool.false_ne_true] at hlost
    have hplace := h.positions.running hrun
    have htotal := h.losses.total
    rw [lostUnfinished_valid hrun hvalid] at htotal
    have hrawTotal := h.losses.rawTotal
    have hpackerTotal := h.losses.packerTotal
    obtain ⟨hsum, -, -, hinvalid, -⟩ := h.bounds
    have hbound := h.positions.bound
    cases hfilling : x.fillingBuffer with
    | none =>
      rw [invalidate_empty hvalid hfilling]
      have hempty := h.current.empty hvalid hfilling
      refine ⟨{ h.queue with }, { h.current with filling := ?_, held := ?_, lost := ?_ },
        { h.positions with stopped := ?_ }, { h.losses with total := ?_ }⟩
      · intro b hb
        rw [show x.fillingBuffer = some b from hb] at hfilling
        cases hfilling
      · exact fun _ hinvalid => by cases hinvalid
      · show x.currentRawDropSamples + x.currentPackerDropSamples = x.currentFrameSamples
        omega
      · exact fun hstop => absurd (hrun.symm.trans hstop) (by decide)
      · rw [lostUnfinished_invalid rfl]
        show x.progress.rawGapSamples + x.progress.packerDropSamples = lostRaw x.fates +
          lostPacker x.fates + (x.nextSourceSample - x.fates.length * x.itemCount) + d
        omega
    | some b =>
      obtain ⟨hb, hstate, -⟩ := h.current.filling b hfilling
      rw [invalidate_filling hvalid hfilling hb]
      have hrecords := h.queue.update (b := b) (by rw [hstate]; decide) {}
      have hcurrent : sat64 x.currentPackerDropSamples x.currentFrameSamples =
          x.currentPackerDropSamples + x.currentFrameSamples := sat64_eq (by omega)
      have hdropped : sat64 x.progress.packerDropSamples x.currentFrameSamples =
          x.progress.packerDropSamples + x.currentFrameSamples := sat64_eq (by omega)
      have hqueued : ∀ g, (x.spoiled b).queued g = x.queued g := queued_congr rfl hrecords
      refine ⟨h.queue.keep rfl rfl hrecords (List.append_nil _).symm rfl,
        { h.current with filling := ?_, held := ?_, lost := ?_ },
        { h.positions with stopped := ?_ },
        { h.losses with frames := ?_, raw := ?_, packer := ?_, total := ?_, packerTotal := ?_ }⟩
      · exact fun _ hnone => by cases hnone
      · exact fun _ hinvalid => by cases hinvalid
      · show x.currentRawDropSamples + sat64 _ _ = x.currentFrameSamples
        omega
      · exact fun hstop => absurd (hrun.symm.trans hstop) (by decide)
      · rw [hqueued]
        exact h.losses.frames
      · rw [hqueued]
        exact h.losses.raw
      · rw [hqueued]
        exact h.losses.packer
      · rw [lostUnfinished_invalid rfl]
        show x.progress.rawGapSamples + sat64 _ _ = lostRaw x.fates +
          lostPacker x.fates + (x.nextSourceSample - x.fates.length * x.itemCount) + d
        omega
      · show lostPacker x.fates + sat64 _ _ ≤ sat64 _ _
        omega

/-- The frames behind the finished ones. -/
theorem Positions.room (h : Positions p x) (hpos : 0 < x.itemCount) :
    x.fates.length ≤ x.fates.length * x.itemCount ∧ x.fates.length ≤ u64Max := by
  have hspread := Nat.le_mul_of_pos_right x.fates.length hpos
  have htiled := h.tiled
  have hbound := h.bound
  omega

theorem Sound.finishInvalid (h : Sound p d x) (hrun : x.running = true)
    (hinvalid : x.currentFrameInvalid = true) (hfull : x.currentFrameSamples = x.itemCount)
    (report : ServiceReport) : Sound p d (x.finishInvalidFrame report).1 := by
  obtain ⟨hsum, hframes, hspread, hspent, -⟩ := h.bounds
  have hplace := h.positions.running hrun
  have hbound := h.positions.bound
  have hpos := h.current.itemCount.1
  have hlost := h.current.lost
  rw [hinvalid, if_pos rfl] at hlost
  have htotal := h.losses.total
  rw [lostUnfinished_invalid hinvalid] at htotal
  obtain ⟨hparts, hprepacket, hpending, hprojected, hcount, hraw, hpacker, -, hrawTotal,
    hpackerTotal⟩ := h.losses
  have hlen : (x.fates ++
      [Fate.invalid x.currentRawDropSamples x.currentPackerDropSamples]).length * x.itemCount = x.fates.length * x.itemCount + x.itemCount := by
    rw [List.length_append, List.length_singleton, Nat.add_mul, Nat.one_mul]
  have e1 : sat64 x.progress.framesProduced 1 = x.progress.framesProduced + 1 :=
    sat64_eq (by have := h.positions.frames; omega)
  have e2 : sat64 x.prepacketFramesDropped 1 = x.prepacketFramesDropped + 1 :=
    sat64_eq (by omega)
  have e3 : sat64 x.pendingDroppedFrames 1 = x.pendingDroppedFrames + 1 := sat64_eq (by omega)
  have e4 : sat64 x.pendingRawDropSamples x.currentRawDropSamples =
      x.pendingRawDropSamples + x.currentRawDropSamples := sat64_eq (by omega)
  have e5 : sat64 x.pendingPackerDropSamples x.currentPackerDropSamples =
      x.pendingPackerDropSamples + x.currentPackerDropSamples := sat64_eq (by omega)
  refine ⟨h.queue.keep (e := [Fate.invalid _ _]) rfl rfl (fun _ _ => rfl) rfl rfl,
    ⟨h.current.itemCount, fun _ hnone => (by cases hnone), fun hlt => absurd hlt (Nat.lt_irrefl 0),
      Nat.zero_le _, rfl⟩, ?_, ?_⟩
  · refine { h.positions with
      frames := ?_, packed := ?_, tiled := ?_, unfinished := ?_, running := ?_, stopped := ?_ }
    · show sat64 _ _ = (x.fates ++ [_]).length
      rw [e1, h.positions.frames, List.length_append, List.length_singleton]
    · show _ = waitingFrames (x.fates ++ [_]) + framedFrames (x.fates ++ [_]) +
        unframedFrames (x.fates ++ [_])
      rw [waitingFrames_append, framedFrames_append, unframedFrames_append]
      exact h.positions.packed
    · show (x.fates ++ [_]).length * x.itemCount ≤ x.nextSourceSample
      omega
    · show x.nextSourceSample ≤ (x.fates ++ [_]).length * x.itemCount + x.itemCount
      omega
    · intro _
      show (x.fates ++ [_]).length * x.itemCount + 0 = x.nextSourceSample
      omega
    · exact fun _ => rfl
  · constructor
    · intro raw packer hmem
      rcases List.mem_append.mp hmem with hold | hnew
      · exact hparts raw packer hold
      · cases List.mem_singleton.mp hnew
        show x.currentRawDropSamples + x.currentPackerDropSamples = x.itemCount
        omega
    · show sat64 _ _ = invalidFrames (x.fates ++ [_])
      rw [e2, hprepacket, invalidFrames_append]
      rfl
    · show sat64 _ _ + sat64 _ _ = sat64 _ _ * x.itemCount
      rw [e3, e4, e5, Nat.add_mul, Nat.one_mul]
      omega
    · exact hprojected
    · show sat64 _ _ + x.queued _ + x.prepacketFramesProjected = invalidFrames (x.fates ++ [_])
      rw [e3, invalidFrames_append, invalidFrames_invalid]
      omega
    · show sat64 _ _ + x.queued _ + x.progress.rawDropSamplesProjected = lostRaw (x.fates ++ [_])
      rw [e4, lostRaw_append, lostRaw_invalid]
      omega
    · show sat64 _ _ + x.queued _ + x.progress.packerDropSamplesProjected =
        lostPacker (x.fates ++ [_])
      rw [e5, lostPacker_append, lostPacker_invalid]
      omega
    · rw [lostUnfinished_valid (x := (x.finishInvalidFrame report).1) hrun rfl]
      show x.progress.rawGapSamples + x.progress.packerDropSamples =
        lostRaw (x.fates ++ [_]) + lostPacker (x.fates ++ [_]) + 0 + d
      rw [lostRaw_append, lostPacker_append, lostRaw_invalid, lostPacker_invalid]
      omega
    · show lostRaw (x.fates ++ [_]) + 0 + d ≤ x.progress.rawGapSamples
      rw [lostRaw_append, lostRaw_invalid]
      omega
    · show lostPacker (x.fates ++ [_]) + 0 ≤ x.progress.packerDropSamples
      rw [lostPacker_append, lostPacker_invalid]
      omega

/-! ### A gap -/

theorem replicate_lost (k n : ℕ) : lostRaw (List.replicate k (Fate.invalid n 0)) = k * n ∧
    lostPacker (List.replicate k (Fate.invalid n 0)) = 0 ∧
    invalidFrames (List.replicate k (Fate.invalid n 0)) = k ∧
    waitingFrames (List.replicate k (Fate.invalid n 0)) = 0 ∧
    framedFrames (List.replicate k (Fate.invalid n 0)) = 0 ∧
    unframedFrames (List.replicate k (Fate.invalid n 0)) = 0 := by
  simp [lostRaw, lostPacker, invalidFrames, waitingFrames, framedFrames, unframedFrames, Fate.raw,
    Fate.packer, Fate.isInvalid, List.countP_replicate]

/-- Whole frames of a gap. -/
theorem Sound.skipFrames (h : Sound d d x) (hrun : x.running = true)
    (hempty : x.currentFrameSamples = 0) {k : ℕ} (hk : k * x.itemCount ≤ d)
    (report : ServiceReport) :
    Sound (d - k * x.itemCount) (d - k * x.itemCount) (x.skipFrames k report).1 := by
  obtain ⟨hsum, hframes, hspread, hspent, -⟩ := h.bounds
  have hplace := h.positions.running hrun
  have hbound := h.positions.bound
  have hproduced := h.positions.produced
  have htail : x.lostUnfinished = 0 := by
    unfold lostUnfinished
    split <;> omega
  have htotal := h.losses.total
  rw [htail] at htotal
  obtain ⟨hparts, hprepacket, hpending, hprojected, hcount, hraw, hpacker, -, hrawTotal,
    hpackerTotal⟩ := h.losses
  obtain ⟨r1, r2, r3, r4, r5, r6⟩ := replicate_lost k x.itemCount
  have hkn : k ≤ k * x.itemCount := Nat.le_mul_of_pos_right _ h.current.itemCount.1
  have hlen : (x.fates ++ List.replicate k (Fate.invalid x.itemCount 0)).length * x.itemCount =
      x.fates.length * x.itemCount + k * x.itemCount := by
    rw [List.length_append, List.length_replicate, Nat.add_mul]
  have e1 : sat64 x.progress.framesProduced k = x.progress.framesProduced + k :=
    sat64_eq (by have := h.positions.frames; omega)
  have e2 : sat64 x.prepacketFramesDropped k = x.prepacketFramesDropped + k :=
    sat64_eq (by omega)
  have e3 : sat64 x.pendingDroppedFrames k = x.pendingDroppedFrames + k := sat64_eq (by omega)
  have e4 : sat64 x.pendingRawDropSamples (k * x.itemCount) =
      x.pendingRawDropSamples + k * x.itemCount := sat64_eq (by omega)
  have e5 : sat64 x.nextSourceSample (k * x.itemCount) = x.nextSourceSample + k * x.itemCount :=
    sat64_eq (by omega)
  refine ⟨h.queue.keep (y := (x.skipFrames k report).1) rfl rfl (fun _ _ => rfl) rfl r4,
    { h.current with }, ?_, ?_⟩
  · refine { h.positions with
      produced := ?_, bound := ?_, frames := ?_, packed := ?_, tiled := ?_, unfinished := ?_
      running := ?_ }
    · show x.progress.samplesProduced = sat64 _ _ + _
      omega
    · show sat64 _ _ + _ ≤ u64Max
      omega
    · show sat64 _ _ = (x.fates ++ _).length
      rw [e1, h.positions.frames, List.length_append, List.length_replicate]
    · show _ = waitingFrames (x.fates ++ _) + framedFrames (x.fates ++ _) +
        unframedFrames (x.fates ++ _)
      rw [waitingFrames_append, framedFrames_append, unframedFrames_append, r4, r5, r6]
      exact h.positions.packed
    · show (x.fates ++ _).length * x.itemCount ≤ sat64 _ _
      omega
    · show sat64 _ _ ≤ (x.fates ++ _).length * x.itemCount + x.itemCount
      omega
    · intro _
      show (x.fates ++ _).length * x.itemCount + x.currentFrameSamples = sat64 _ _
      omega
  · have htail' : (x.skipFrames k report).1.lostUnfinished = 0 := by
      unfold lostUnfinished
      split
      · rfl
      · show sat64 _ _ - (x.fates ++ _).length * x.itemCount = 0
        omega
    constructor
    · intro raw packer hmem
      rcases List.mem_append.mp hmem with hold | hnew
      · exact hparts raw packer hold
      · cases List.eq_of_mem_replicate hnew
        rfl
    · show sat64 _ _ = invalidFrames (x.fates ++ _)
      rw [e2, hprepacket, invalidFrames_append, r3]
    · show sat64 _ _ + x.pendingPackerDropSamples = sat64 _ _ * x.itemCount
      rw [e3, e4, Nat.add_mul]
      omega
    · exact hprojected
    · show sat64 _ _ + x.queued _ + x.prepacketFramesProjected = invalidFrames (x.fates ++ _)
      rw [e3, invalidFrames_append, r3]
      omega
    · show sat64 _ _ + x.queued _ + x.progress.rawDropSamplesProjected = lostRaw (x.fates ++ _)
      rw [e4, lostRaw_append, r1]
      omega
    · show x.pendingPackerDropSamples + x.queued _ + x.progress.packerDropSamplesProjected =
        lostPacker (x.fates ++ _)
      rw [lostPacker_append, r2]
      exact hpacker
    · rw [htail']
      show x.progress.rawGapSamples + x.progress.packerDropSamples =
        lostRaw (x.fates ++ _) + lostPacker (x.fates ++ _) + 0 + _
      rw [lostRaw_append, lostPacker_append, r1, r2]
      omega
    · show lostRaw (x.fates ++ _) + x.currentRawDropSamples + _ ≤ x.progress.rawGapSamples
      rw [lostRaw_append, r1]
      omega
    · show lostPacker (x.fates ++ _) + x.currentPackerDropSamples ≤ x.progress.packerDropSamples
      rw [lostPacker_append, r2]
      exact hpackerTotal

/-- Samples of a gap in a frame that is invalid already. -/
theorem Sound.skip (h : Sound d d x) (hrun : x.running = true)
    (hinvalid : x.currentFrameInvalid = true) {c : ℕ}
    (hroom : x.currentFrameSamples + c ≤ x.itemCount) (hc : c ≤ d) :
    Sound (d - c) (d - c) { x with
      currentRawDropSamples := sat64 x.currentRawDropSamples c
      currentFrameSamples := x.currentFrameSamples + c
      nextSourceSample := sat64 x.nextSourceSample c } := by
  obtain ⟨hsum, hframes, hspread, hspent, -⟩ := h.bounds
  have hplace := h.positions.running hrun
  have hbound := h.positions.bound
  have hproduced := h.positions.produced
  have hlost := h.current.lost
  rw [hinvalid, if_pos rfl] at hlost
  have htotal := h.losses.total
  rw [lostUnfinished_invalid hinvalid] at htotal
  have hrawTotal := h.losses.rawTotal
  have e1 : sat64 x.currentRawDropSamples c = x.currentRawDropSamples + c := sat64_eq (by omega)
  have e2 : sat64 x.nextSourceSample c = x.nextSourceSample + c := sat64_eq (by omega)
  refine ⟨{ h.queue with }, { h.current with held := ?_, samples := hroom, lost := ?_ },
    { h.positions with
      produced := ?_, bound := ?_, tiled := ?_, unfinished := ?_, running := ?_, stopped := ?_ },
    { h.losses with total := ?_, rawTotal := ?_ }⟩
  · exact fun _ hvalid => absurd (hinvalid.symm.trans hvalid) (by decide)
  · show sat64 _ _ + x.currentPackerDropSamples =
      if x.currentFrameInvalid then x.currentFrameSamples + c else 0
    rw [hinvalid, if_pos rfl]
    omega
  · show x.progress.samplesProduced = sat64 _ _ + _
    omega
  · show sat64 _ _ + _ ≤ u64Max
    omega
  · show x.fates.length * x.itemCount ≤ sat64 _ _
    omega
  · show sat64 _ _ ≤ x.fates.length * x.itemCount + x.itemCount
    omega
  · intro _
    show x.fates.length * x.itemCount + (x.currentFrameSamples + c) = sat64 _ _
    omega
  · exact fun hstop => absurd (hrun.symm.trans hstop) (by decide)
  · rw [lostUnfinished_invalid (by exact hinvalid)]
    show x.progress.rawGapSamples + x.progress.packerDropSamples = lostRaw x.fates +
      lostPacker x.fates + (sat64 _ _ - x.fates.length * x.itemCount) + _
    omega
  · show lostRaw x.fates + sat64 _ _ + _ ≤ x.progress.rawGapSamples
    omega

/-- A running packer between two samples, `d` of which are known to be missing. -/
structure Going (d : ℕ) (x : GpioBatchPacker) : Prop where
  sound : Sound d d x
  running : x.running = true
  open_ : x.currentFrameSamples < x.itemCount

/-- `k` positions further in the same run, with nothing handed to the pipeline. -/
structure Further (k : ℕ) (x y : GpioBatchPacker) : Prop where
  layout : y.layout = x.layout
  nextSourceSample : y.nextSourceSample = x.nextSourceSample + k
  projected : y.prepacketFramesProjected = x.prepacketFramesProjected
  fates : ∃ extra, y.fates = x.fates ++ extra ∧ framedFrames extra = 0 ∧ unframedFrames extra = 0

theorem Further.refl (x : GpioBatchPacker) : Further 0 x x :=
  ⟨rfl, rfl, rfl, [], (List.append_nil _).symm, rfl, rfl⟩

theorem SamePlace.further {k : ℕ} {z : GpioBatchPacker} (h : SamePlace x y)
    (hlayout : z.layout = y.layout) (hnext : z.nextSourceSample = x.nextSourceSample + k)
    (hprojected : z.prepacketFramesProjected = y.prepacketFramesProjected)
    {e : List Fate} (hfates : z.fates = y.fates ++ e) (hframed : framedFrames e = 0)
    (hunframed : unframedFrames e = 0) : Further k x z :=
  ⟨hlayout.trans h.layout, hnext, hprojected.trans h.projected, e, by rw [hfates, h.fates],
    hframed, hunframed⟩

theorem Further.itemCount {k : ℕ} (h : Further k x y) : y.itemCount = x.itemCount :=
  congrArg (fun l => (RunLayout.streams l .gpio).itemCount) h.layout

theorem Further.trans {k l : ℕ} {z : GpioBatchPacker} (h : Further k x y) (h' : Further l y z) :
    Further (k + l) x z where
  layout := h'.layout.trans h.layout
  nextSourceSample := by rw [h'.nextSourceSample, h.nextSourceSample, Nat.add_assoc]
  projected := h'.projected.trans h.projected
  fates := by
    obtain ⟨extra, hfates, hframed, hunframed⟩ := h.fates
    obtain ⟨extra', hfates', hframed', hunframed'⟩ := h'.fates
    refine ⟨extra ++ extra', by rw [hfates', hfates, List.append_assoc], ?_, ?_⟩
    · rw [framedFrames_append, hframed, hframed']
    · rw [unframedFrames_append, hunframed, hunframed']

/-- The chunk of a gap in the current frame, up to the end of the frame. -/
theorem Going.skipChunk (h : Going d x) {c : ℕ}
    (hroom : x.currentFrameSamples + c ≤ x.itemCount) (hc : c ≤ d) (report : ServiceReport) :
    let y := x.skipChunk c
    let z := if y.currentFrameSamples = y.itemCount then y.finishInvalidFrame report
      else (y, report)
    Going (d - c) z.1 ∧ Further c x z.1 := by
  intro y z
  have hplace := invalidate_samePlace x
  have hsound := h.sound.invalidate h.running
  have hrun := hplace.running.trans h.running
  have hitems := hplace.itemCount
  have hskipped : Sound (d - c) (d - c) y :=
    hsound.skip hrun (invalidate_invalid x)
      (by rw [hplace.currentFrameSamples, hitems]; exact hroom) hc
  have hnext : y.nextSourceSample = x.nextSourceSample + c := by
    show sat64 x.invalidateCurrentFrame.nextSourceSample c = _
    have hbound := h.sound.positions.bound
    rw [hplace.nextSourceSample, sat64_eq (by omega)]
  have hsamples : y.currentFrameSamples = x.currentFrameSamples + c :=
    congrArg (· + c) hplace.currentFrameSamples
  by_cases hfull : y.currentFrameSamples = y.itemCount
  · have hz : z = y.finishInvalidFrame report := if_pos hfull
    rw [hz]
    exact ⟨⟨hskipped.finishInvalid hrun (invalidate_invalid x) hfull report, hrun,
      hskipped.current.itemCount.1⟩,
      hplace.further (e := [Fate.invalid _ _]) rfl hnext rfl rfl rfl rfl⟩
  · have hz : z = (y, report) := if_neg hfull
    rw [hz]
    exact ⟨⟨hskipped, hrun, lt_of_le_of_ne hskipped.current.samples hfull⟩,
      hplace.further rfl hnext rfl (List.append_nil _).symm rfl rfl⟩

/-- A gap ends where the next samples begin. -/
theorem Going.gapLoop (fuel : ℕ) : ∀ {x : GpioBatchPacker} {d : ℕ} (report : ServiceReport),
    d ≤ fuel → Going d x → Going 0 (gapLoop fuel x d report).1 ∧
      Further d x (gapLoop fuel x d report).1 := by
  induction fuel with
  | zero =>
    intro x d report hd h
    obtain rfl : d = 0 := Nat.le_zero.mp hd
    exact ⟨h, Further.refl x⟩
  | succ fuel ih =>
    intro x d report hd h
    unfold GpioBatchPacker.gapLoop
    split
    · next hzero =>
      subst hzero
      exact ⟨h, Further.refl x⟩
    · next hne =>
      have hitems := h.sound.current.itemCount.1
      split
      · next hwhole =>
        rw [Bool.and_eq_true, decide_eq_true_eq, decide_eq_true_eq] at hwhole
        have hpart := Nat.div_mul_le_self d x.itemCount
        have hone : 0 < d / x.itemCount := Nat.div_pos hwhole.2 hitems
        have htaken : 0 < d / x.itemCount * x.itemCount := Nat.mul_pos hone hitems
        have hskipped : Going (d - d / x.itemCount * x.itemCount)
            (x.skipFrames (d / x.itemCount) report).1 :=
          ⟨h.sound.skipFrames h.running hwhole.1 hpart report, h.running, h.open_⟩
        have hfurther : Further (d / x.itemCount * x.itemCount) x
            (x.skipFrames (d / x.itemCount) report).1 := by
          obtain ⟨-, -, -, -, hframed, hunframed⟩ := replicate_lost (d / x.itemCount) x.itemCount
          refine ⟨rfl, sat64_eq ?_, rfl, _, rfl, hframed, hunframed⟩
          have hbound := h.sound.positions.bound
          omega
        obtain ⟨hgoing, hrest⟩ := ih (x.skipFrames (d / x.itemCount) report).2
          (by omega) hskipped
        have hall := hfurther.trans hrest
        rw [Nat.add_sub_cancel' hpart] at hall
        exact ⟨hgoing, hall⟩
      · have hopen := h.open_
        have hc : min d (x.itemCount - x.currentFrameSamples) ≤ d := Nat.min_le_left _ _
        obtain ⟨hskipped, hfurther⟩ := h.skipChunk (c := min d (x.itemCount -
          x.currentFrameSamples)) (by omega) hc report
        obtain ⟨hgoing, hrest⟩ := ih _ (by omega) hskipped
        have hall := hfurther.trans hrest
        rw [Nat.add_sub_cancel' hc] at hall
        exact ⟨hgoing, hall⟩

theorem Going.accountRawGap (h : Going 0 x) {gap : ℕ}
    (hbound : x.nextSourceSample + gap ≤ u64Max) (report : ServiceReport) :
    Going 0 (x.accountRawGap gap report).1 ∧ Further gap x (x.accountRawGap gap report).1 := by
  unfold GpioBatchPacker.accountRawGap
  split
  · next hzero =>
    subst hzero
    exact ⟨h, Further.refl x⟩
  · have htotal := h.sound.bounds.total
    have hproduced := h.sound.positions.produced
    have e1 : sat64 x.progress.rawGapSamples gap = x.progress.rawGapSamples + gap :=
      sat64_eq (by omega)
    have e2 : sat64 x.progress.samplesProduced gap = x.progress.samplesProduced + gap :=
      sat64_eq (by omega)
    have hsound := h.sound
    have hcounted : Going gap { x with
        progress := { x.progress with
          rawGapSamples := sat64 x.progress.rawGapSamples gap
          samplesProduced := sat64 x.progress.samplesProduced gap }
        inputGapPending := true } := by
      refine ⟨⟨{ hsound.queue with }, { hsound.current with },
        { hsound.positions with produced := ?_, bound := hbound },
        { hsound.losses with total := ?_, rawTotal := ?_ }⟩, h.running, h.open_⟩
      · show sat64 _ _ = x.nextSourceSample + gap
        omega
      · have := hsound.losses.total
        show sat64 _ _ + x.progress.packerDropSamples =
          lostRaw x.fates + lostPacker x.fates + x.lostUnfinished + gap
        omega
      · have := hsound.losses.rawTotal
        show lostRaw x.fates + x.currentRawDropSamples + gap ≤ sat64 _ _
        omega
    obtain ⟨hgoing, hfurther⟩ := Going.gapLoop gap report le_rfl hcounted
    exact ⟨hgoing, ⟨hfurther.layout, hfurther.nextSourceSample, hfurther.projected, hfurther.fates⟩⟩

/-! ### Samples that came -/

/-- The packer with a free buffer taken for the frame. -/
def opened (x : GpioBatchPacker) (b : ℕ) : GpioBatchPacker :=
  { x with
    records := Function.update x.records b { state := .filling }
    nextFreeSearch := (b + 1) % kGpioPackedRingDepth
    fillingBuffer := some b }

theorem ensure_cases (h : Current x) :
    (x.fillingBuffer.isSome ∧ x.ensureFillingBuffer = (x, true)) ∨
      (x.fillingBuffer = none ∧ x.ensureFillingBuffer = (x, false)) ∨
      ∃ b, b < kGpioPackedRingDepth ∧ (x.records b).state = .free ∧
        x.ensureFillingBuffer = (x.opened b, true) := by
  unfold ensureFillingBuffer
  cases hfilling : x.fillingBuffer with
  | some b =>
    obtain ⟨hb, hstate, -⟩ := h.filling b hfilling
    exact Or.inl ⟨rfl, by simp [hb, hstate]⟩
  | none =>
    unfold takeFreeBuffer
    cases hfound : searchFrom kGpioPackedRingDepth x.nextFreeSearch
        fun i => (x.records i).state = .free with
    | none => exact Or.inr (Or.inl ⟨rfl, rfl⟩)
    | some b =>
      obtain ⟨hb, hstate⟩ := searchFrom_some hfound
      refine Or.inr (Or.inr ⟨b, hb, of_decide_eq_true hstate, ?_⟩)
      dsimp only
      unfold opened setRecord
      simp only [Function.update_self, Function.update_idem]

theorem Sound.opened (h : Sound p d x) {b : ℕ} (hb : b < kGpioPackedRingDepth)
    (hfree : (x.records b).state = .free) (hvalid : x.currentFrameInvalid = false) :
    Sound p d (x.opened b) := by
  have hrecords := h.queue.update (b := b) (by rw [hfree]; decide) { state := .filling }
  have hqueued : ∀ g, (x.opened b).queued g = x.queued g := queued_congr rfl hrecords
  refine ⟨h.queue.keep rfl rfl hrecords (List.append_nil _).symm rfl,
    { h.current with filling := ?_, held := fun _ _ => rfl }, { h.positions with },
    { h.losses with frames := ?_, raw := ?_, packer := ?_ }⟩
  · intro b' hb'
    cases hb'
    refine ⟨hb, ?_, hvalid⟩
    show (Function.update x.records b { state := .filling } b).state = .filling
    rw [Function.update_self]
  · rw [hqueued]
    exact h.losses.frames
  · rw [hqueued]
    exact h.losses.raw
  · rw [hqueued]
    exact h.losses.packer

/-- A buffer for the next samples, or the frame is invalid. -/
theorem Sound.ensure (h : Sound p d x) (hrun : x.running = true) :
    Sound p d x.openFrame ∧ SamePlace x x.openFrame ∧
      (x.openFrame.currentFrameInvalid = false → x.openFrame.fillingBuffer.isSome) := by
  cases hvalid : x.currentFrameInvalid with
  | true =>
    have hy : x.openFrame = x := if_pos hvalid
    rw [hy]
    exact ⟨h, SamePlace.refl x, fun hfalse => absurd (hvalid.symm.trans hfalse) (by decide)⟩
  | false =>
    have hy : x.openFrame = if x.ensureFillingBuffer.2 then x.ensureFillingBuffer.1
        else x.ensureFillingBuffer.1.invalidateCurrentFrame :=
      if_neg (by rw [hvalid]; exact Bool.false_ne_true)
    rw [hy]
    rcases ensure_cases h.current with ⟨hheld, heq⟩ | ⟨-, heq⟩ | ⟨b, hb, hfree, heq⟩
    · rw [heq]
      exact ⟨h, SamePlace.refl x, fun _ => hheld⟩
    · rw [heq]
      exact ⟨h.invalidate hrun, invalidate_samePlace x,
        fun hfalse => absurd ((invalidate_invalid x).symm.trans hfalse) (by decide)⟩
    · rw [heq]
      exact ⟨h.opened hb hfree hvalid, ⟨rfl, rfl, rfl, rfl, rfl, rfl⟩, fun _ => rfl⟩

/-- Samples of an invalid frame. -/
theorem Sound.drop {c : ℕ} (h : Sound c 0 x) (hrun : x.running = true)
    (hinvalid : x.currentFrameInvalid = true) (hroom : x.currentFrameSamples + c ≤ x.itemCount) :
    Sound 0 0 ((x.dropChunk c).advance c) := by
  obtain ⟨hsum, hframes, hspread, hspent, hall⟩ := h.bounds
  have hplace := h.positions.running hrun
  have hbound := h.positions.bound
  have hproduced := h.positions.produced
  have hlost := h.current.lost
  rw [hinvalid, if_pos rfl] at hlost
  have htotal := h.losses.total
  rw [lostUnfinished_invalid hinvalid] at htotal
  have hpackerTotal := h.losses.packerTotal
  have e1 : sat64 x.currentPackerDropSamples c = x.currentPackerDropSamples + c :=
    sat64_eq (by omega)
  have e2 : sat64 x.nextSourceSample c = x.nextSourceSample + c := sat64_eq (by omega)
  have e3 : sat64 x.progress.packerDropSamples c = x.progress.packerDropSamples + c :=
    sat64_eq (by omega)
  refine ⟨{ h.queue with }, { h.current with held := ?_, samples := hroom, lost := ?_ },
    { h.positions with
      produced := ?_, bound := ?_, tiled := ?_, unfinished := ?_, running := ?_, stopped := ?_ },
    { h.losses with total := ?_, packerTotal := ?_ }⟩
  · exact fun _ hvalid => absurd (hinvalid.symm.trans hvalid) (by decide)
  · show x.currentRawDropSamples + sat64 _ _ =
      if x.currentFrameInvalid then x.currentFrameSamples + c else 0
    rw [hinvalid, if_pos rfl]
    omega
  · show x.progress.samplesProduced = sat64 x.nextSourceSample c + 0
    omega
  · show sat64 x.nextSourceSample c + 0 ≤ u64Max
    omega
  · show x.fates.length * x.itemCount ≤ sat64 x.nextSourceSample c
    omega
  · show sat64 x.nextSourceSample c ≤ x.fates.length * x.itemCount + x.itemCount
    omega
  · intro _
    show x.fates.length * x.itemCount + (x.currentFrameSamples + c) =
      sat64 x.nextSourceSample c
    omega
  · exact fun hstop => absurd (hrun.symm.trans hstop) (by decide)
  · rw [lostUnfinished_invalid (by exact hinvalid)]
    show x.progress.rawGapSamples + sat64 _ _ = lostRaw x.fates +
      lostPacker x.fates + (sat64 x.nextSourceSample c - x.fates.length * x.itemCount) + 0
    omega
  · show lostPacker x.fates + sat64 _ _ ≤ sat64 _ _
    omega

/-- Samples that go into the buffer of the frame. -/
theorem Sound.pack {c : ℕ} (h : Sound c 0 x) (hrun : x.running = true)
    (hvalid : x.currentFrameInvalid = false) (hheld : x.fillingBuffer.isSome)
    (hroom : x.currentFrameSamples + c ≤ x.itemCount) (buffers : ℕ → PackedBuffer)
    (samplesPacked : ℕ) :
    Sound 0 0 ({ x with
      buffers := buffers
      progress := { x.progress with samplesPacked := samplesPacked } }.advance c) := by
  have hplace := h.positions.running hrun
  have hbound := h.positions.bound
  have hproduced := h.positions.produced
  have hlost := h.current.lost
  rw [hvalid, if_neg Bool.false_ne_true] at hlost
  have htotal := h.losses.total
  rw [lostUnfinished_valid hrun hvalid] at htotal
  have e1 : sat64 x.nextSourceSample c = x.nextSourceSample + c := sat64_eq (by omega)
  refine ⟨{ h.queue with },
    { h.current with held := fun _ _ => hheld, samples := hroom, lost := ?_ },
    { h.positions with
      produced := ?_, bound := ?_, tiled := ?_, unfinished := ?_, running := ?_, stopped := ?_ },
    { h.losses with total := ?_ }⟩
  · show x.currentRawDropSamples + x.currentPackerDropSamples =
      if x.currentFrameInvalid then x.currentFrameSamples + c else 0
    rw [hvalid, if_neg Bool.false_ne_true]
    exact hlost
  · show x.progress.samplesProduced = sat64 x.nextSourceSample c + 0
    omega
  · show sat64 x.nextSourceSample c + 0 ≤ u64Max
    omega
  · show x.fates.length * x.itemCount ≤ sat64 x.nextSourceSample c
    omega
  · show sat64 x.nextSourceSample c ≤ x.fates.length * x.itemCount + x.itemCount
    omega
  · intro _
    show x.fates.length * x.itemCount + (x.currentFrameSamples + c) =
      sat64 x.nextSourceSample c
    omega
  · exact fun hstop => absurd (hrun.symm.trans hstop) (by decide)
  · rw [lostUnfinished_valid (by exact hrun) (by exact hvalid)]
    exact htotal

/-- The chunk of the samples in the current frame. -/
theorem Going.takeChunk (h : Going 0 x) (source : List UInt32)
    (hroom : x.currentFrameSamples + source.length ≤ x.itemCount)
    (hbound : x.nextSourceSample + source.length ≤ u64Max) (report : ServiceReport) :
    Sound 0 0 (x.takeChunk source report).1 ∧ (x.takeChunk source report).1.running = true ∧
      Further source.length x (x.takeChunk source report).1 := by
  have hsound := h.sound
  have hproduced := hsound.positions.produced
  have e1 : sat64 x.progress.samplesProduced source.length =
      x.progress.samplesProduced + source.length := sat64_eq (by omega)
  have hfirst : Sound source.length 0 (x.countProduced source.length) := by
    refine ⟨{ hsound.queue with }, { hsound.current with },
      { hsound.positions with produced := ?_, bound := hbound }, { hsound.losses with }⟩
    show sat64 _ _ = x.nextSourceSample + source.length
    omega
  obtain ⟨hready, hplace, hheld⟩ := hfirst.ensure h.running
  unfold GpioBatchPacker.takeChunk
  dsimp only
  generalize (x.countProduced source.length).openFrame = ready at *
  have hrun : ready.running = true := hplace.running.trans h.running
  have hsamples : ready.currentFrameSamples = x.currentFrameSamples := hplace.currentFrameSamples
  have hitems : ready.itemCount = x.itemCount := hplace.itemCount
  have hnext : sat64 ready.nextSourceSample source.length =
      x.nextSourceSample + source.length := by
    rw [hplace.nextSourceSample]
    exact sat64_eq hbound
  have hroom' : ready.currentFrameSamples + source.length ≤ ready.itemCount := by
    rw [hsamples, hitems]
    exact hroom
  unfold putChunk
  cases hvalid : ready.currentFrameInvalid with
  | true =>
    rw [if_pos rfl]
    exact ⟨hready.drop hrun hvalid hroom', hrun,
      SamePlace.further (y := ready) ⟨hplace.running, hplace.layout, hplace.currentFrameSamples,
        hplace.nextSourceSample, hplace.fates, hplace.projected⟩ rfl hnext rfl
        (List.append_nil _).symm rfl rfl⟩
  | false =>
    obtain ⟨b, hb⟩ := Option.isSome_iff_exists.mp (hheld hvalid)
    rw [if_neg Bool.false_ne_true, hb]
    dsimp only
    have hfits : source.length ≤ kDataPayloadBytes - ready.currentFrameSamples := by
      have := hready.current.itemCount.2
      omega
    unfold packChunk
    dsimp only
    rw [if_neg (by rw [length_packGpio2Batch hfits]; exact not_not.mpr rfl)]
    exact ⟨hready.pack hrun hvalid (hheld hvalid) hroom' _ _, hrun,
      SamePlace.further (y := ready) ⟨hplace.running, hplace.layout, hplace.currentFrameSamples,
        hplace.nextSourceSample, hplace.fates, hplace.projected⟩ rfl hnext rfl
        (List.append_nil _).symm rfl rfl⟩

/-- The packer with its full buffer in the queue. -/
def packed (x : GpioBatchPacker) (b : ℕ) : GpioBatchPacker :=
  (((x.setRecord b x.packedRecord).queuePackedFrame (x.readyQueue ++ [b]) {}).1).resetCurrentFrame

theorem finishPacked_eq (h : Sound p d x) (hvalid : x.currentFrameInvalid = false)
    (hfull : x.currentFrameSamples = x.itemCount) (report : ServiceReport) :
    ∃ b, b < kGpioPackedRingDepth ∧ (x.records b).state = .filling ∧
      (x.finishPackedFrame report).1 = x.packed b := by
  have hheld := h.current.held (by rw [hfull]; exact h.current.itemCount.1) hvalid
  obtain ⟨b, hfilling⟩ := Option.isSome_iff_exists.mp hheld
  obtain ⟨hb, hstate, -⟩ := h.current.filling b hfilling
  refine ⟨b, hb, hstate, ?_⟩
  have hout : b ∉ x.readyQueue := fun hmem =>
    h.queue.apart (b := b) (by rw [hstate]; decide) b hmem rfl
  have hroom : x.readyQueue.length < kGpioPackedRingDepth :=
    length_lt_of_nodup h.queue.nodup (fun i hi => (h.queue.ready i hi).1) hb hout
  unfold finishPackedFrame
  rw [hfilling]
  dsimp only
  rw [if_neg (by omega)]
  have hpush : push kGpioPackedRingDepth (x.setRecord b x.packedRecord).readyQueue b =
      some (x.readyQueue ++ [b]) := push_eq_some hroom
  rw [hpush]
  rfl

theorem packed_queued (h : Queue x) {b : ℕ} (hstate : (x.records b).state = .filling)
    (g : BufferRecord → ℕ) : (x.packed b).queued g = x.queued g + g x.packedRecord := by
  have hrecords := h.update (b := b) (by rw [hstate]; decide) x.packedRecord
  unfold queued
  show ((x.readyQueue ++ [b]).map fun i => g (Function.update x.records b x.packedRecord i)).sum = _
  rw [List.map_append, List.sum_append, List.map_singleton, List.sum_singleton,
    Function.update_self]
  congr 2
  exact List.map_congr_left fun i hi => by rw [hrecords i hi]

theorem Queue.packed (h : Queue x) {b : ℕ} (hb : b < kGpioPackedRingDepth)
    (hstate : (x.records b).state = .filling) (hpos : 0 < x.itemCount)
    (hplace : x.fates.length * x.itemCount + x.itemCount = x.nextSourceSample)
    (hpending : x.pendingRawDropSamples + x.pendingPackerDropSamples =
      x.pendingDroppedFrames * x.itemCount) : Queue (x.packed b) := by
  have hrecords := h.update (b := b) (by rw [hstate]; decide) x.packedRecord
  have hself : (x.packed b).records b = x.packedRecord := Function.update_self ..
  have hold : ∀ i ∈ x.readyQueue, (x.packed b).records i = x.records i := hrecords
  have hfirst : x.packedRecord.firstSample = x.fates.length * x.itemCount := by
    show x.nextSourceSample - x.itemCount = _
    omega
  have hmem : ∀ i, i ∈ (x.packed b).readyQueue → i ∈ x.readyQueue ∨ i = b := fun i hi =>
    (List.mem_append.mp hi).imp id List.mem_singleton.mp
  constructor
  · refine List.nodup_append.mpr ⟨h.nodup, List.nodup_singleton b, ?_⟩
    rintro i hi j hj
    rw [List.mem_singleton.mp hj]
    exact h.apart (b := b) (by rw [hstate]; decide) i hi
  · intro i hi
    rcases hmem i hi with hi | rfl
    · rw [hold i hi]
      exact h.ready i hi
    · rw [hself]
      exact ⟨hb, rfl⟩
  · intro i hi
    rcases hmem i hi with hi | rfl
    · rw [hold i hi]
      obtain ⟨j, hj, hfate⟩ := h.slots i hi
      exact ⟨j, hj, (List.getElem?_append_left (List.getElem?_eq_some_iff.mp hfate).1).trans hfate⟩
    · rw [hself]
      exact ⟨x.fates.length, hfirst, List.getElem?_concat_length⟩
  · show ((x.readyQueue ++ [b]).map fun i => ((x.packed b).records i).firstSample).Nodup
    rw [List.map_append, List.map_singleton, hself, hfirst]
    have hmap : (x.readyQueue.map fun i => ((x.packed b).records i).firstSample) =
        x.readyQueue.map fun i => (x.records i).firstSample :=
      List.map_congr_left fun i hi => by rw [hold i hi]
    rw [hmap]
    refine List.nodup_append.mpr ⟨h.distinct, List.nodup_singleton _, ?_⟩
    intro first hfirst' last hlast
    rw [List.mem_singleton.mp hlast]
    obtain ⟨i, hi, rfl⟩ := List.mem_map.mp hfirst'
    -- an earlier frame starts earlier
    obtain ⟨j, hj, hfate⟩ := h.slots i hi
    have hlt := Nat.mul_lt_mul_of_pos_right (List.getElem?_eq_some_iff.mp hfate).1 hpos
    rw [hj]
    omega
  · show waitingFrames (x.fates ++ [_]) = (x.readyQueue ++ [b]).length
    rw [waitingFrames_append, h.waiting, List.length_append]
    rfl
  · intro i hi
    rcases hmem i hi with hi | rfl
    · rw [hold i hi]
      exact h.whole i hi
    · rw [hself]
      exact hpending

theorem Sound.finishPacked (h : Sound 0 0 x) (hrun : x.running = true)
    (hvalid : x.currentFrameInvalid = false) (hfull : x.currentFrameSamples = x.itemCount)
    {b : ℕ} (hb : b < kGpioPackedRingDepth) (hstate : (x.records b).state = .filling) :
    Sound 0 0 (x.packed b) := by
  have hplace := h.positions.running hrun
  have hpos := h.current.itemCount.1
  have hframes := h.positions.frames
  have hpacked := h.positions.packed
  have hcounts := length_fates x.fates
  have hroom := h.positions.room hpos
  have hbound := h.positions.bound
  have hlost := h.current.lost
  rw [hvalid, if_neg Bool.false_ne_true] at hlost
  have htotal := h.losses.total
  rw [lostUnfinished_valid hrun hvalid] at htotal
  obtain ⟨hparts, hprepacket, hpending, hprojected, hcount, hraw, hpacker, -, hrawTotal,
    hpackerTotal⟩ := h.losses
  have hlen : (x.fates ++ [Fate.waiting]).length * x.itemCount =
      x.fates.length * x.itemCount + x.itemCount := by
    rw [List.length_append, List.length_singleton, Nat.add_mul, Nat.one_mul]
  have hqueued := packed_queued h.queue hstate
  have e1 : sat64 x.progress.framesProduced 1 = x.progress.framesProduced + 1 :=
    sat64_eq (by omega)
  have e2 : sat64 x.progress.framesPacked 1 = x.progress.framesPacked + 1 := sat64_eq (by omega)
  refine ⟨h.queue.packed hb hstate hpos (by omega) hpending,
    ⟨h.current.itemCount, fun _ hnone => (by cases hnone), fun hlt => absurd hlt (Nat.lt_irrefl 0),
      Nat.zero_le _, rfl⟩, ?_, ?_⟩
  · refine { h.positions with
      frames := ?_, packed := ?_, tiled := ?_, unfinished := ?_, running := ?_, stopped := ?_ }
    · show sat64 x.progress.framesProduced 1 = (x.fates ++ [_]).length
      rw [e1, hframes, List.length_append, List.length_singleton]
    · show sat64 x.progress.framesPacked 1 = waitingFrames (x.fates ++ [_]) +
        framedFrames (x.fates ++ [_]) + unframedFrames (x.fates ++ [_])
      rw [e2, waitingFrames_append, framedFrames_append, unframedFrames_append,
        waitingFrames_waiting,
        framedFrames_waiting, unframedFrames_waiting]
      omega
    · show (x.fates ++ [_]).length * x.itemCount ≤ x.nextSourceSample
      omega
    · show x.nextSourceSample ≤ (x.fates ++ [_]).length * x.itemCount + x.itemCount
      omega
    · intro _
      show (x.fates ++ [_]).length * x.itemCount + 0 = x.nextSourceSample
      omega
    · exact fun _ => rfl
  · constructor
    · intro raw packer hmem
      rcases List.mem_append.mp hmem with hold | hnew
      · exact hparts raw packer hold
      · cases List.mem_singleton.mp hnew
    · show _ = invalidFrames (x.fates ++ [_])
      rw [invalidFrames_append]
      exact hprepacket
    · exact (Nat.zero_mul _).symm
    · exact hprojected
    · rw [hqueued]
      show 0 + (x.queued _ + x.pendingDroppedFrames) + x.prepacketFramesProjected =
        invalidFrames (x.fates ++ [_])
      rw [invalidFrames_append, invalidFrames_waiting]
      omega
    · rw [hqueued]
      show 0 + (x.queued _ + x.pendingRawDropSamples) + x.progress.rawDropSamplesProjected =
        lostRaw (x.fates ++ [_])
      rw [lostRaw_append, lostRaw_waiting]
      omega
    · rw [hqueued]
      show 0 + (x.queued _ + x.pendingPackerDropSamples) + x.progress.packerDropSamplesProjected =
        lostPacker (x.fates ++ [_])
      rw [lostPacker_append, lostPacker_waiting]
      omega
    · rw [lostUnfinished_valid (x := x.packed b) hrun rfl]
      show x.progress.rawGapSamples + x.progress.packerDropSamples =
        lostRaw (x.fates ++ [_]) + lostPacker (x.fates ++ [_]) + 0 + 0
      rw [lostRaw_append, lostPacker_append, lostRaw_waiting,
        lostPacker_waiting]
      omega
    · show lostRaw (x.fates ++ [_]) + 0 + 0 ≤ x.progress.rawGapSamples
      rw [lostRaw_append, lostRaw_waiting]
      omega
    · show lostPacker (x.fates ++ [_]) + 0 ≤ x.progress.packerDropSamples
      rw [lostPacker_append, lostPacker_waiting]
      omega

theorem Sound.finishFrame (h : Sound 0 0 x) (hrun : x.running = true) (report : ServiceReport) :
    Going 0 (x.finishFrame report).1 ∧ Further 0 x (x.finishFrame report).1 := by
  unfold GpioBatchPacker.finishFrame
  split
  · next hpartial =>
    exact ⟨⟨h, hrun, lt_of_le_of_ne h.current.samples hpartial⟩, Further.refl x⟩
  · next hfull =>
    have hfull := not_not.mp hfull
    cases hvalid : x.currentFrameInvalid with
    | true =>
      rw [if_pos rfl]
      exact ⟨⟨h.finishInvalid hrun hvalid hfull report, hrun, h.current.itemCount.1⟩,
        (SamePlace.refl x).further (e := [Fate.invalid _ _]) rfl rfl rfl rfl rfl rfl⟩
    | false =>
      rw [if_neg Bool.false_ne_true]
      obtain ⟨b, hb, hstate, heq⟩ := finishPacked_eq h hvalid hfull report
      rw [heq]
      exact ⟨⟨h.finishPacked hrun hvalid hfull hb hstate, hrun, h.current.itemCount.1⟩,
        (SamePlace.refl x).further (e := [Fate.waiting]) rfl rfl rfl rfl rfl rfl⟩

theorem Going.availableLoop (fuel : ℕ) : ∀ {x : GpioBatchPacker} (source : List UInt32)
    (report : ServiceReport), source.length ≤ fuel → Going 0 x →
    x.nextSourceSample + source.length ≤ u64Max →
    Going 0 (availableLoop fuel x source report).1 ∧
      Further source.length x (availableLoop fuel x source report).1 := by
  induction fuel with
  | zero =>
    intro x source report hlen h _
    obtain rfl : source = [] := List.eq_nil_of_length_eq_zero (Nat.le_zero.mp hlen)
    exact ⟨h, Further.refl x⟩
  | succ fuel ih =>
    intro x source report hlen h hbound
    unfold GpioBatchPacker.availableLoop
    split
    · next hnil =>
      subst hnil
      exact ⟨h, Further.refl x⟩
    · next hne =>
      dsimp only
      have hopen := h.open_
      have hsome := List.length_pos_iff.mpr hne
      generalize hchunk : min source.length (x.itemCount - x.currentFrameSamples) = chunk
      have htake : (source.take chunk).length = chunk := by
        rw [List.length_take]
        omega
      obtain ⟨htaken, hrun, hfurther⟩ := h.takeChunk (source.take chunk)
        (by omega) (by omega) report
      obtain ⟨hgoing, hsame⟩ := htaken.finishFrame hrun (x.takeChunk (source.take chunk) report).2
      have hplace := hfurther.trans hsame
      have hnext := hplace.nextSourceSample
      obtain ⟨hend, hrest⟩ := ih (source.drop chunk)
        (((x.takeChunk (source.take chunk) report).1.finishFrame
          (x.takeChunk (source.take chunk) report).2).2)
        (by rw [List.length_drop]; omega) hgoing (by rw [List.length_drop]; omega)
      have hall := hplace.trans hrest
      rw [htake, List.length_drop] at hall
      rw [show chunk + 0 + (source.length - chunk) = source.length by omega] at hall
      exact ⟨hend, hall⟩

/-- Samples from a position on: what is missing before them is a gap. -/
theorem Going.consumeFrom (h : Going 0 x) {firstSample : ℕ} {source : List UInt32}
    (hfirst : x.nextSourceSample ≤ firstSample) (hbound : firstSample + source.length ≤ u64Max)
    (report : ServiceReport) : Going 0 (x.consumeFrom firstSample source report).1 ∧
      ∃ k, Further k x (x.consumeFrom firstSample source report).1 := by
  unfold GpioBatchPacker.consumeFrom
  dsimp only
  generalize hcrossed : (if x.nextSourceSample < firstSample then
    x.accountRawGap (firstSample - x.nextSourceSample) report else (x, report)) = crossed
  have hgap : Going 0 crossed.1 ∧ Further (firstSample - x.nextSourceSample) x crossed.1 := by
    rw [← hcrossed]
    split
    · exact h.accountRawGap (by omega) report
    · next hnone =>
      rw [show firstSample - x.nextSourceSample = 0 by omega]
      exact ⟨h, Further.refl x⟩
  obtain ⟨hgoing, hfurther⟩ := hgap
  have hnext := hfurther.nextSourceSample
  obtain ⟨hend, hrest⟩ :=
    Going.availableLoop source.length source crossed.2 le_rfl hgoing (by omega)
  exact ⟨hend, _, hfurther.trans hrest⟩

theorem Going.annotate (h : Going 0 x) (sourceErrors pipelineErrors chronologyErrors serviceCalls
    rawBuffersAcquired rawBuffersReleased duplicateSamplesIgnored : ℕ)
    (inputGapPending packetGapPending : Bool) : Going 0 { x with
      sourceErrors := sourceErrors
      pipelineErrors := pipelineErrors
      chronologyErrors := chronologyErrors
      serviceCalls := serviceCalls
      rawBuffersAcquired := rawBuffersAcquired
      rawBuffersReleased := rawBuffersReleased
      duplicateSamplesIgnored := duplicateSamplesIgnored
      inputGapPending := inputGapPending
      packetGapPending := packetGapPending } := ⟨h.sound.annotate .., h.running, h.open_⟩

/-- Whatever the buffer holds, it is counted. -/
theorem Going.consume (h : Going 0 x) (handle : BufferHandle) (words : ℕ → UInt32)
    (report : ServiceReport) : Going 0 (x.consume handle words report).1 ∧
      ∃ k, Further k x (x.consume handle words report).1 := by
  have hstay : ∀ {y : GpioBatchPacker}, y.layout = x.layout →
      y.nextSourceSample = x.nextSourceSample →
      y.prepacketFramesProjected = x.prepacketFramesProjected → y.fates = x.fates →
      ∃ k, Further k x y := fun hlayout hnext hprojected hfates =>
    ⟨0, hlayout, hnext, hprojected, [], hfates.trans (List.append_nil _).symm, rfl, rfl⟩
  unfold GpioBatchPacker.consume
  split
  · exact ⟨h.annotate .., hstay rfl rfl rfl rfl⟩
  · next hgood =>
    rw [Bool.or_eq_true, not_or, decide_eq_true_eq] at hgood
    have hvalid : handle.valid = true := by simpa using hgood.1
    have hsize : handle.sampleCount ≤ GpioCapture.kGpioSamplesPerFrame := by
      unfold BufferHandle.valid at hvalid
      rw [Bool.and_eq_true] at hvalid
      exact of_decide_eq_true hvalid.2
    have hfits : handle.firstSample + handle.sampleCount ≤ u64Max := by
      have hsmall : handle.sampleCount ≤ u64Max := hsize.trans (by decide)
      omega
    split
    · next hbefore =>
      dsimp only
      split
      · exact ⟨h.annotate .., hstay rfl rfl rfl rfl⟩
      · next hpart =>
        have hpart : ¬handle.sampleCount ≤ x.nextSourceSample - handle.firstSample := hpart
        have hnoted : Going 0 (x.noteChronologyError.noteDuplicates
            (x.noteChronologyError.nextSourceSample - handle.firstSample)) := h.annotate ..
        have hroom : x.nextSourceSample + (wordsFrom words handle.sampleCount
            (x.nextSourceSample - handle.firstSample)).length ≤ u64Max := by
          rw [length_wordsFrom]
          omega
        obtain ⟨hgoing, k, hfurther⟩ := hnoted.consumeFrom le_rfl hroom report
        exact ⟨hgoing, k, hfurther.layout, hfurther.nextSourceSample, hfurther.projected,
          hfurther.fates⟩
    · next hbehind =>
      exact h.consumeFrom (Nat.not_lt.mp hbehind) (by rw [length_wordsFrom]; exact hfits) report

theorem Going.takeBuffer (h : Going 0 x) (a : Acquired) (report : ServiceReport) :
    Going 0 (x.takeBuffer a report).1 ∧ ∃ k, Further k x (x.takeBuffer a report).1 := by
  have hcounted : Going 0 { x with rawBuffersAcquired := sat64 x.rawBuffersAcquired 1 } :=
    h.annotate ..
  obtain ⟨hgoing, k, hfurther⟩ := hcounted.consume a.handle a.words report
  unfold GpioBatchPacker.takeBuffer
  dsimp only
  split
  · exact ⟨hgoing.annotate .., k, hfurther.layout, hfurther.nextSourceSample, hfurther.projected,
      hfurther.fates⟩
  · exact ⟨hgoing.annotate .., k, hfurther.layout, hfurther.nextSourceSample, hfurther.projected,
      hfurther.fates⟩

end GpioBatchPacker

end ThingDaq.GpioPacker
