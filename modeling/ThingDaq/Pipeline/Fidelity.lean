import ThingDaq.Host.ProtocolV3
import ThingDaq.Pipeline.Run

/-!
# What the host reads

A version 3 page at the head of the transmit queue is the wire form of what its
producer finished, so the host's decoder, which was written independently, gets
exactly that back.

## Main results

* `payload_fidelity` — every frame offered for transmission decodes to its
  origin, and a frame with an ADC code of more than twelve bits is dropped.
-/

namespace ThingDaq

open Wire Table

/-- The host accepts `wire` and reads `o` from it. -/
structure Delivers (validateControl : Host.V3Frame → Except Host.V3Error Unit) (layout : FrameLayout)
    (o : Origin) (wire : Bytes) (frame : Host.V3Frame) (decoded : Host.V3DecodedData) : Prop where
  accepted : Host.decodeV3Frame validateControl wire = .ok frame
  checksum : frame.checksum = Host.computeV3Checksum (wire.take (wire.length - kTrailerSize))
  kind : frame.header.kind = o.stream.frameKind
  sequence : frame.header.sequence = o.sequence
  runId : frame.header.runId = o.runId
  ticks : frame.header.firstSampleTicks = o.firstSampleTicks
  itemCount : frame.header.itemCount.toNat = layout.itemCount
  payload_ok : Host.decodeDataPayload frame.header.kind frame.payload
    frame.header.itemCount.toNat = .ok decoded
  itemBytes : decoded.itemBytes = layout.itemBytes
  payload : decoded.payload = o.payload

/-- The frame a handle stands for is lost: it is counted and its buffer is free. -/
structure Discarded (p q : Pipeline) (h : FillHandle) (r : FinishFillResult) : Prop where
  refused : r.status ≠ .ok
  recycled : q.records h.bufferIndex = {}
  unqueued : h.bufferIndex ∉ q.transmitQueue ∧ ∀ s, h.bufferIndex ∉ q.readyQueues s
  counted : (q.sourceCounters h.stream).framesDropped =
    sat64 (p.sourceCounters h.stream).framesDropped 1

/-! ### Complete pages -/

/-- The host reads the origin of a page back, if no timestamp wraps. -/
theorem Content.delivers {setup : RunSetup} {s : Stream} {sequence runId : UInt32} {size : ℕ}
    {f : PacketFrame} {o : Origin} {d : V3Data} (h : Content setup s sequence runId size f o d)
    (hfit : o.TicksFit (setup.stream s).itemCount)
    (validateControl : Host.V3Frame → Except Host.V3Error Unit) :
    ∃ frame decoded, Delivers validateControl (setup.stream o.stream) o (f.bytes.take size) frame
      decoded := by
  have hticks : d.TicksFit := by
    unfold V3Data.TicksFit
    rw [h.ticks, h.count]
    exact hfit
  have hitems : d.header.itemCount.toNat = d.itemCount := h.wellFormed.toNat_itemCount
  have hstop : d.wire.length - kTrailerSize = d.body.length := by
    rw [V3Data.length_wire, V3Data.length_body]
    unfold kTrailerSize
    omega
  have htake : d.wire.take d.body.length = d.body := List.take_left
  rw [h.bytes, h.origin_stream]
  refine ⟨Host.decodedFrame d, Host.decodedData d,
    { accepted := Host.decodeV3Frame_wire h.wellFormed validateControl hticks
      checksum := by rw [hstop, htake]; rfl
      kind := h.kind.trans (congrArg _ h.origin_stream.symm)
      sequence := h.sequence_eq.trans h.origin_sequence.symm
      runId := h.runId_eq.trans h.origin_runId.symm
      ticks := h.ticks
      itemCount := hitems.trans h.count
      payload_ok := Host.decodeDataPayload_wire h.wellFormed
      itemBytes := h.width
      payload := h.payload }⟩

theorem frontFrame_eq {p : Pipeline} {g : History} {i : ℕ} {rest : List ℕ} (hinv : Inv ⟨p.toCore, g⟩)
    (hqueue : p.transmitQueue = i :: rest) :
    p.frontFrame = (p.frames i).bytes.take (p.records i).frameSize := by
  obtain ⟨hi, hstate, hvalid⟩ := hinv.front hqueue
  unfold Pipeline.frontFrame
  rw [hqueue]
  simp only
  rw [if_neg (by unfold kPacketBufferCount; omega), if_neg (by simp [hstate, hvalid])]

/-! ### Codes of more than twelve bits -/

theorem adcSamplesFit_eq : ∀ b : Bytes, b.length % 2 = 0 → adcSamplesFit b = highNibblesClear b
  | [], _ => rfl
  | [_], h => by simp at h
  | lo :: hi :: b, h => by
    have hlo := lo.toNat_lt
    have ih := adcSamplesFit_eq b (by simp only [List.length_cons] at h; omega)
    have hfit : decide (lo.toNat + 256 * hi.toNat < 4096) = decide (hi &&& 0xF0 = 0) := by
      simp only [Host.and_240_eq_zero, decide_eq_decide]
      omega
    rw [adcSamplesFit, highNibblesClear, ih, hfit]

/-- An accepted version 3 page of the ADC stream has twelve-bit codes. -/
theorem encodePage_codes {p : Pipeline} {r : BufferRecord} {completion : FrameCompletion}
    {f : PacketFrame} (hv3 : p.setup.layout.isV3 = true) (hadc : r.stream = .adc)
    (hok : (p.encodePage r completion f).1.isOk = true) :
    adcSamplesFit (samplesOf p.setup .adc f) = true := by
  have hframed := (encodePage_framed hok).1
  unfold Framed at hframed
  rw [if_pos hv3] at hframed
  obtain ⟨d, hd, -⟩ := hframed
  have hpay : d.payload = samplesOf p.setup .adc f := by rw [← hadc]; exact hd.payload
  have haligned := hd.wellFormed.aligned
  rcases hd.wellFormed.kind with ⟨-, hw, -, hclear⟩ | ⟨hk, -⟩
  · rw [hw] at haligned
    rw [← hpay, adcSamplesFit_eq _ (by omega)]
    exact hclear
  · have hkind := hd.kind.symm.trans hk
    simp only [hadc] at hkind
    exact absurd hkind (by decide)

theorem dropBuffer_discards {p q : Pipeline} {h : FillHandle} (hi : h.bufferIndex < 200)
    (hstate : (q.records h.bufferIndex).state = .filling)
    (hstream : (q.records h.bufferIndex).stream = h.stream)
    (hcounters : q.sourceCounters = p.sourceCounters) :
    (q.dropBuffer h.bufferIndex false).records h.bufferIndex = {} ∧
      ((q.dropBuffer h.bufferIndex false).sourceCounters h.stream).framesDropped =
        sat64 (p.sourceCounters h.stream).framesDropped 1 := by
  have hlive : (q.records h.bufferIndex).state ≠ .free := by rw [hstate]; decide
  rw [dropBuffer_core hi hlive]
  refine ⟨q.toCore.drop_record_self _ _, ?_⟩
  rw [Core.drop_counters, hstream, hcounters, Function.update_self]
  unfold Core.lossOf Core.droppedCounters
  rw [hstate]
  rfl

/-- Every way `finishFill` treats a frame with a wide code drops it. -/
theorem finishFill_wideCodes {p : Pipeline} {h : FillHandle} {completion : FrameCompletion}
    (hv3 : p.setup.layout.isV3 = true) (hmatch : p.handleMatches h = true) (hadc : h.stream = .adc)
    (hwide : adcSamplesFit (originOf p h completion).payload = false) :
    (p.finishFill h completion).2.status ≠ .ok ∧
      (p.finishFill h completion).1.records h.bufferIndex = {} ∧
      ((p.finishFill h completion).1.sourceCounters h.stream).framesDropped =
        sat64 (p.sourceCounters h.stream).framesDropped 1 := by
  obtain ⟨hi, hstate, -, hstream, -⟩ := Core.handleMatches_iff hmatch
  have hdrop : ∀ q : Pipeline, q.records = p.records → q.sourceCounters = p.sourceCounters →
      (q.dropBuffer h.bufferIndex false).records h.bufferIndex = {} ∧
        ((q.dropBuffer h.bufferIndex false).sourceCounters h.stream).framesDropped =
          sat64 (p.sourceCounters h.stream).framesDropped 1 := fun q hr hc =>
    dropBuffer_discards hi (by rw [hr]; exact hstate) (by rw [hr]; exact hstream) hc
  unfold Pipeline.finishFill
  rw [if_neg (by simp [hmatch])]
  simp only
  split
  · exact ⟨OperationStatus.noConfusion, hdrop _ rfl rfl⟩
  split
  · exact ⟨OperationStatus.noConfusion, hdrop _ rfl rfl⟩
  split
  · exact ⟨OperationStatus.noConfusion, hdrop _ rfl rfl⟩
  split
  · exact ⟨OperationStatus.noConfusion, hdrop _ rfl rfl⟩
  next hok =>
  have hcodes := encodePage_codes hv3 (hstream.trans hadc) (by simpa using hok)
  unfold originOf at hwide
  rw [hadc] at hwide
  exact absurd (hcodes.symm.trans hwide) (by decide)

/-! ### Every reachable state -/

/-- Every frame offered for transmission decodes on the host to what its producer
finished; a frame with a code of more than twelve bits is never offered. -/
theorem payload_fidelity {R : Rules} {t : Tracked}
    (validateControl : Host.V3Frame → Except Host.V3Error Unit) (h : Reach R t)
    (hv3 : t.pipe.setup.layout.isV3 = true) :
    (∀ i rest, t.pipe.transmitQueue = i :: rest → ∃ frame decoded,
      Delivers validateControl (t.pipe.setup.stream (t.history.origin i).stream) (t.history.origin i)
        t.pipe.frontFrame frame decoded) ∧
      ∀ (handle : FillHandle) (completion : FrameCompletion), t.pipe.handleMatches handle = true →
        handle.stream = .adc → adcSamplesFit (originOf t.pipe handle completion).payload = false →
          Discarded t.pipe (t.pipe.finishFill handle completion).1 handle
            (t.pipe.finishFill handle completion).2 := by
  have hinv := h.good.inv
  constructor
  · intro i rest hqueue
    obtain ⟨-, hstate, -⟩ := hinv.front hqueue
    have hslot := hinv.slot i
    have hframed := hslot.framed (hslot.sized (Or.inr hstate))
    unfold Framed at hframed
    rw [if_pos (show t.world.core.setup.layout.isV3 = true from hv3)] at hframed
    obtain ⟨d, hd, -⟩ := hframed
    rw [frontFrame_eq hinv hqueue]
    exact hd.delivers (hslot.fit hstate hv3) validateControl
  · intro handle completion hmatch hadc hwide
    obtain ⟨hstatus, hrecord, hcount⟩ := finishFill_wideCodes hv3 hmatch hadc hwide
    have hmoves := finishFill_moves (R := ⟨false, false, false⟩) hinv handle completion
      (fun h => by cases h) (fun h => by cases h)
    have hqueues := (hinv.moves hmoves).queues
    refine ⟨hstatus, hrecord, ⟨fun hmem => ?_, fun s hmem => ?_⟩, hcount⟩
    · have hstate := (hqueues.transmit_mem _).mp hmem
      rw [show (t.pipe.finishFill handle completion).1.toCore.records _ = _ from hrecord] at hstate
      cases hstate
    · have hqueued := ((hqueues.ready_mem s _).mp hmem).2
      rw [show (t.pipe.finishFill handle completion).1.toCore.records _ = _ from hrecord] at hqueued
      simp [BufferRecord.Queued] at hqueued

/-- A short layout: four ADC pairs or sixteen GPIO samples to a frame. -/
def shortBlocks : RunLayout :=
  { publicV3 .disabled .raw .pack12 with
    streams := fun
      | .adc => makeFrameLayout 4 4 8
      | .gpio => makeFrameLayout 16 1 8 }

/-- A packed ADC frame that is promoted, then an open one with a wide code. -/
def packedThenWide : List Op :=
  [.startRun 7 ChecksumAlgorithm.adler32 3 shortBlocks, .beginFill .adc,
    .writePayload { bufferIndex := 0, lease := 1 } 0 [0x34, 0x02, 0xff, 0x0f],
    .finishFill { bufferIndex := 0, lease := 1 } { firstSampleTicks := 80, payloadBytesWritten := 16 },
    .serviceDeferred 80 1 none, .serviceReadyFrames 4, .beginFill .adc,
    .writePayload { bufferIndex := 1, sequence := 1, lease := 2 } 0 [0x00, 0x10]]

theorem payload_fidelity_packedThenWide :
    (Tracked.initial.run packedThenWide).pipe.frontFrame.length = 72 ∧
      (∃ frame decoded, Delivers (fun _ => .ok ())
        ((Tracked.initial.run packedThenWide).pipe.setup.stream
          ((Tracked.initial.run packedThenWide).history.origin 0).stream)
        ((Tracked.initial.run packedThenWide).history.origin 0)
        (Tracked.initial.run packedThenWide).pipe.frontFrame frame decoded) ∧
      Discarded (Tracked.initial.run packedThenWide).pipe
        ((Tracked.initial.run packedThenWide).pipe.finishFill
          { bufferIndex := 1, sequence := 1, lease := 2 } {}).1
        { bufferIndex := 1, sequence := 1, lease := 2 }
        ((Tracked.initial.run packedThenWide).pipe.finishFill
          { bufferIndex := 1, sequence := 1, lease := 2 } {}).2 := by
  have hopen : ∀ t s, Tracked.Guard ⟨false, false, false⟩ t (.beginFill s) := fun _ _ =>
    ⟨fun h => (by cases h), fun h => by cases h⟩
  have hreach : Reach ⟨false, false, false⟩ (Tracked.initial.run packedThenWide) :=
    Reach.initial.run ⟨trivial, hopen _ _, trivial, ⟨fun h => (by cases h), fun h => by cases h⟩,
      trivial, trivial, hopen _ _, trivial, trivial⟩
  have h := payload_fidelity (fun _ => .ok ()) hreach (by decide +kernel)
  exact ⟨by decide +kernel, h.1 0 [] (by decide +kernel),
    h.2 _ {} (by decide +kernel) rfl (by decide +kernel)⟩

end ThingDaq
