import ThingDaq.Host.Station
import ThingDaq.Host.Parsers

/-!
# Data frames at the reader

What `_reader_loop` makes of a data frame: `decode_message` and `decode_v3_block`
(`models.py`, `protocol_v3.py`), and the block that `_dispatch_block` gets.  A version 1
frame carries its layout; one of version 2 needs the configuration of its run, one of
version 3 the settings.

The reader keeps both after a run has ended, and decodes before it looks whether a run is
active.

## Main results

* `fromFrame_valid`, `fromV2Frame_valid`, `decodeV3Block_valid` — when a valid frame becomes
  a block.
* `idle_frames_discarded` — in every run, the data frames that arrive while no run is
  active are discarded exactly when each of them fits what the reader remembers.
-/

namespace ThingDaq.Host

open Wire
open Reader (ReaderState ProtocolError)
open Reader.ReaderState (supportedChecksum)

/-! ### Blocks of frames -/

def flagSynthetic : UInt16 := 1

def blockKind (k : FrameKind) : Alignment.FrameKind :=
  if k = FrameKind.adcData then .adcData else .gpioData

def wireKind : Alignment.FrameKind → FrameKind
  | .adcData => FrameKind.adcData
  | .gpioData => FrameKind.gpioData

/-- `adc_items_per_frame` and `items_per_frame` of `GPIOLayout.from_mode`. -/
def itemsPerFrame : Alignment.AuxBankMode → Alignment.FrameKind → ℕ
  | .disabled, .adcData => 1012
  | .input, .adcData => 506
  | .disabled, .gpioData => 4048
  | .input, .gpioData => 2024

/-- `adc_payload_bytes` and `payload_bytes` -/
def framePayloadBytes : Alignment.AuxBankMode → Alignment.FrameKind → ℕ
  | .input, .adcData => 2024
  | _, _ => 4048

def itemPeriodTicks (p : Alignment.RateProfile) : Alignment.FrameKind → ℕ
  | .adcData => p.adcPairPeriodTicks
  | .gpioData => p.gpioSamplePeriodTicks

namespace DataBlock

/-- `_validate_v3_block_payload` -/
def checkV3Payload (b : DataBlock) (encodedPayload : Bytes) : Bool :=
  b.checksumAlgorithm = ChecksumAlgorithm.adler32 && b.rateProfile = .adc1MhzGpio1Mhz &&
    (0 < b.payload.length && b.payload.length ≤ maxLogicalPayloadBytes &&
      b.payload.length % b.itemBytes = 0) &&
    (b.firstSampleTicks % 8 = 0 && b.firstSampleTicks + b.itemCount * 8 ≤ 2 ^ 64 - 1) &&
    match decodeDataPayload (wireKind b.kind) encodedPayload b.itemCount with
    | .error _ => false
    | .ok d => d.itemBytes = b.itemBytes && d.payload = b.payload

/-- `__post_init__` of `ADCBlock` and `GPIOBlock`, for a block without a gap. -/
def check (b : DataBlock) (encodedPayload : Option Bytes) : Bool :=
  (b.runId < 2 ^ 32 && b.sequence < 2 ^ 32 && b.firstSampleTicks < 2 ^ 64) && b.runId ≠ 0 &&
    (!b.overrunBefore || b.gapBefore) && supportedChecksum b.checksumAlgorithm &&
    (b.protocolVersion ≠ 1 || (b.auxBankMode = .disabled && b.rateProfile = .adc1MhzGpio4Mhz)) &&
    (match encodedPayload with
      | some encoded => b.protocolVersion = 3 && b.checkV3Payload encoded
      | none => b.protocolVersion ≠ 3 &&
          b.payload.length = framePayloadBytes b.auxBankMode b.kind) &&
    (b.kind = .gpioData || adcPayloadCodesValid b.payload)

/-- A constructor raises when the check fails. -/
def checked (b : DataBlock) (encodedPayload : Option Bytes) : Option DataBlock :=
  if b.check encodedPayload then some b else none

end DataBlock

/-- The block that the fields of a frame make. -/
def Frame.block (f : Frame) (mode : Alignment.AuxBankMode) (profile : Alignment.RateProfile)
    (version : ℕ) : DataBlock where
  kind := blockKind f.header.kind
  runId := f.header.runId.toNat
  sequence := f.header.sequence.toNat
  firstSampleTicks := f.header.firstSampleTicks.toNat
  payload := f.payload
  gapBefore := f.header.hasFlag flagGapBefore
  overrunBefore := f.header.hasFlag flagOverrunBefore
  synthetic := f.header.hasFlag flagSynthetic
  auxBankMode := mode
  rateProfile := profile
  protocolVersion := version
  gap := none
  checksumAlgorithm := f.header.checksumAlgorithm

/-- `from_frame` -/
def fromFrame (f : Frame) : Option DataBlock :=
  (f.block .disabled .adc1MhzGpio4Mhz 1).checked none

/-- `from_v2_frame` -/
def fromV2Frame (f : Frame) (configuration : DAQConfiguration) : Option DataBlock :=
  let kind := blockKind f.header.kind
  if f.header.itemCount ≠ itemsPerFrame configuration.auxBankMode kind then none
  else if f.header.firstSampleTicks % itemPeriodTicks configuration.rateProfile kind ≠ 0 then none
  else (f.block configuration.auxBankMode configuration.rateProfile 2).checked none

/-- `V3Frame.to_bytes` -/
def V3Frame.toBytes (f : V3Frame) : Bytes :=
  headerBytes f.header ++ f.payload ++ leBytes 4 f.checksum

/-- The block of a version 3 frame and its decoded samples. -/
def V3Frame.block (f : V3Frame) (settings : V3Settings) (payload : Bytes) : DataBlock where
  kind := blockKind f.header.kind
  runId := f.header.runId.toNat
  sequence := f.header.sequence.toNat
  firstSampleTicks := f.header.firstSampleTicks.toNat
  payload := payload
  gapBefore := f.header.flags &&& flagGapBefore ≠ 0
  overrunBefore := f.header.flags &&& flagOverrunBefore ≠ 0
  synthetic := f.header.flags &&& flagSynthetic ≠ 0
  auxBankMode := settings.auxBankMode
  rateProfile := .adc1MhzGpio1Mhz
  protocolVersion := 3
  gap := none
  checksumAlgorithm := ChecksumAlgorithm.adler32

def AdcPolicy.encoding : AdcPolicy → Encoding
  | .raw => .raw
  | .pack12 => .adcPack12

/-- `decode_v3_block` -/
def decodeV3Block (validateControl : V3Frame → Except V3Error Unit) (frame : V3Frame)
    (settings : V3Settings) : Option DataBlock :=
  match decodeV3Frame validateControl frame.toBytes with
  | .error _ => none
  | .ok f =>
    match decodeDataPayload frame.header.kind f.payload frame.header.itemCount.toNat with
    | .error _ => none
    | .ok data =>
      let isAdc : Bool := frame.header.kind = FrameKind.adcData
      if (if isAdc then settings.adc else settings.gpio) = false then none
      else if decide (frame.header.flags &&& flagSynthetic ≠ 0) ≠
          decide (settings.source = .synthetic) then none
      else if isAdc then
        if data.encoding ≠ settings.adcPolicy.encoding then none
        else (frame.block settings data.payload).checked (some f.payload)
      else if data.itemBytes * 8 ≠ settings.gpioWidthBits then none
      else if settings.gpioPolicy ≠ .rleAuto ∧ data.encoding ≠ .raw then none
      else (frame.block settings data.payload).checked (some f.payload)

/-! ### Decoded samples -/

theorem length_interleave4 {n : ℕ} {a b c d : Bytes} (ha : a.length = n) (hb : b.length = n)
    (hc : c.length = n) (hd : d.length = n) : (interleave4 a b c d).length = n * 4 := by
  induction n generalizing a b c d with
  | zero =>
    rw [List.length_eq_zero_iff.mp ha]
    rfl
  | succ n ih =>
    obtain ⟨x, as, rfl⟩ := List.exists_cons_of_length_eq_add_one ha
    obtain ⟨y, bs, rfl⟩ := List.exists_cons_of_length_eq_add_one hb
    obtain ⟨z, cs, rfl⟩ := List.exists_cons_of_length_eq_add_one hc
    obtain ⟨w, ds, rfl⟩ := List.exists_cons_of_length_eq_add_one hd
    simp only [List.length_cons, Nat.add_right_cancel_iff] at ha hb hc hd
    have hrest := ih ha hb hc hd
    simp only [interleave4, List.length_cons, hrest]
    omega

/-- The second and the fourth lane hold the high bytes. -/
theorem adcPayloadCodesValid_interleave4 {a b c d : Bytes} (hb : ∀ x ∈ b, x.toNat ≤ 15)
    (hd : ∀ x ∈ d, x.toNat ≤ 15) : adcPayloadCodesValid (interleave4 a b c d) = true := by
  fun_induction interleave4 a b c d with
  | case1 x as y bs z cs w ds ih =>
    have hrest := ih (fun v hv => hb v (List.mem_cons_of_mem y hv))
      (fun v hv => hd v (List.mem_cons_of_mem w hv))
    unfold adcPayloadCodesValid at hrest ⊢
    rw [stride_cons_two, stride_cons_two, List.all_cons, List.all_cons, hrest,
      decide_eq_true (hb y (List.mem_cons_self ..)), decide_eq_true (hd w (List.mem_cons_self ..))]
    rfl
  | case2 => rfl

theorem length_stride (start step : ℕ) (b : Bytes) :
    (stride start step b).length = (b.length - start + (step - 1)) / step := by
  unfold stride
  rw [List.length_map, List.length_range]

theorem unpack12_spec {samples : Bytes} {n : ℕ} (h : samples.length = 3 * n) :
    (unpack12 samples n).length = n * 4 ∧ adcPayloadCodesValid (unpack12 samples n) = true := by
  have hlane : ∀ start, start < 3 → (stride start 3 samples).length = n := by
    intro start hs
    rw [length_stride, h]
    omega
  constructor
  · apply length_interleave4
    · exact hlane 0 (by omega)
    · rw [List.length_map]
      exact hlane 1 (by omega)
    · exact length_leBytes _ _
    · rw [List.length_map]
      exact hlane 2 (by omega)
  · apply adcPayloadCodesValid_interleave4
    · intro x hx
      obtain ⟨y, -, rfl⟩ := List.mem_map.mp hx
      unfold lowNibble
      rw [UInt8.toNat_and]
      exact Nat.and_le_right
    · intro x hx
      obtain ⟨y, -, rfl⟩ := List.mem_map.mp hx
      unfold highNibble
      rw [UInt8.toNat_shiftRight]
      have hy := y.toNat_lt
      change y.toNat >>> 4 ≤ 15
      rw [Nat.shiftRight_eq_div_pow]
      omega

theorem checkRuns_total {itemCount : ℕ} {records : List (ℕ × ℕ)} {total result : ℕ}
    {previous : Option ℕ} (h : checkRuns itemCount records total previous = .ok result) :
    result = total + (records.map Prod.fst).sum := by
  induction records generalizing total previous with
  | nil =>
    cases h
    rfl
  | cons r rest ih =>
    obtain ⟨length, value⟩ := r
    unfold checkRuns reject at h
    simp only [Framing.ite_error_eq_ok] at h
    rw [ih h.2.2, List.map_cons, List.sum_cons, Nat.add_assoc]

theorem length_expandRuns (width : ℕ) (records : List (ℕ × ℕ)) :
    (expandRuns width records).length = (records.map Prod.fst).sum * width := by
  induction records with
  | nil => exact (Nat.zero_mul width).symm
  | cons r rest ih =>
    have hrun : (List.replicate r.1 (leBytes width r.2)).flatten.length = r.1 * width := by
      rw [List.length_flatten, List.map_replicate, List.sum_replicate, length_leBytes]
      rfl
    unfold expandRuns at ih ⊢
    rw [List.flatMap_cons, List.length_append, hrun, ih, List.map_cons, List.sum_cons, Nat.add_mul]

/-- What `decode_data_payload` returns has the width and the encoding of the prefix, and
as many items as asked for. -/
structure DecodesTo (kind : FrameKind) (payload : Bytes) (itemCount : ℕ) (d : V3DecodedData) :
    Prop where
  itemBytes : d.itemBytes = (byteAt payload 1).toNat
  width : if kind = FrameKind.adcData then d.itemBytes = 4 else d.itemBytes = 1 ∨ d.itemBytes = 2
  encoding : d.encoding.byte = byteAt payload 0
  length : d.payload.length = itemCount * d.itemBytes
  codes : kind = FrameKind.adcData → adcPayloadCodesValid d.payload = true
  count : 1 ≤ itemCount ∧ itemCount ≤ maxLogicalPayloadBytes / d.itemBytes

theorem decodeSamples_ok {kind : FrameKind} {encoding : UInt8} {width runs itemCount : ℕ}
    {samples : Bytes} {d : V3DecodedData}
    (h : decodeSamples kind encoding width runs itemCount samples = .ok d)
    (hwidth : kind = FrameKind.adcData → width = 4) :
    d.itemBytes = width ∧ d.encoding.byte = encoding ∧ d.payload.length = itemCount * width ∧
      (kind = FrameKind.adcData → adcPayloadCodesValid d.payload = true) := by
  unfold decodeSamples reject at h
  dsimp only at h
  split at h
  · rename_i henc
    simp only [Framing.ite_error_eq_ok] at h
    obtain ⟨hlen, hcodes, hd⟩ := h
    cases hd
    simp only [Bool.or_eq_true, decide_eq_true_eq, not_or, ne_eq, not_not] at hlen
    refine ⟨rfl, henc.symm, hlen.2, ?_⟩
    intro hkind
    simp only [hkind, decide_true, Bool.true_and, Bool.not_eq_true', Bool.not_eq_false] at hcodes
    exact hcodes
  · split at h
    · rename_i henc
      simp only [Framing.ite_error_eq_ok] at h
      obtain ⟨hkind, hlen, hd⟩ := h
      cases hd
      simp only [Bool.or_eq_true, decide_eq_true_eq, not_or, ne_eq, not_not] at hkind hlen
      obtain ⟨hlength, hvalid⟩ := unpack12_spec hlen
      refine ⟨rfl, henc.symm, ?_, fun _ => hvalid⟩
      rw [hwidth hkind.1]
      exact hlength
    · split at h
      · rename_i henc
        simp only [Framing.ite_error_eq_ok] at h
        obtain ⟨hkind, -, -, h⟩ := h
        split at h
        · cases h
        · rename_i total htotal
          rw [Framing.ite_error_eq_ok] at h
          obtain ⟨hcount, hd⟩ := h
          cases hd
          have hsum := checkRuns_total htotal
          rw [not_not.mp hcount, Nat.zero_add] at hsum
          refine ⟨rfl, henc.symm, ?_, ?_⟩
          · rw [length_expandRuns, ← hsum]
          · intro hadc
            rw [hadc] at hkind
            exact absurd (by decide) hkind
      · cases h

theorem decodeDataPayload_ok {kind : FrameKind} {payload : Bytes} {itemCount : ℕ}
    {d : V3DecodedData} (h : decodeDataPayload kind payload itemCount = .ok d) :
    DecodesTo kind payload itemCount d := by
  unfold decodeDataPayload reject at h
  dsimp only at h
  simp only [Framing.ite_error_eq_ok] at h
  obtain ⟨-, -, -, hwidth, hcount, -, hsamples⟩ := h
  have hadc : kind = FrameKind.adcData → (byteAt payload 1).toNat = 4 := by
    intro hkind
    rw [if_pos hkind, decide_eq_true_eq, not_not] at hwidth
    exact hwidth
  obtain ⟨hitem, henc, hlen, hcodes⟩ := decodeSamples_ok hsamples hadc
  simp only [Bool.or_eq_true, decide_eq_true_eq, not_or, Nat.not_lt] at hcount
  refine ⟨hitem, ?_, henc, by rw [hitem]; exact hlen, hcodes, by rw [hitem]; exact hcount⟩
  split
  · rename_i hkind
    exact hitem.trans (hadc hkind)
  · rename_i hkind
    rw [if_neg hkind, decide_eq_true_eq] at hwidth
    rw [hitem]
    omega

/-! ### Versions 1 and 2 -/

section Frames

variable {r : Rules} {validateControl : Header → Bytes → Except FrameError Unit} {f : Frame} {w : Bytes}

/-- What the header checks promise about a data frame. -/
theorem Rules.Accepts.data {h : Header} (hacc : r.Accepts h) (hdata : isDataKind h.kind = true) :
    (h.hasFlag flagOverrunBefore = true → h.hasFlag flagGapBefore = true) ∧
      isSupportedChecksum h.checksumAlgorithm = true ∧ r.checkData h = .ok () := by
  have hvalid := hacc.valid
  unfold Rules.validateHeader at hvalid
  simp only [Framing.ite_error_eq_ok, not_and, Bool.not_eq_false] at hvalid
  obtain ⟨-, -, hsum, -, -, hoverrun, -, hrest⟩ := hvalid
  rw [if_pos hdata] at hrest
  refine ⟨hoverrun, hsum, ?_⟩
  split at hrest
  · cases hrest
  · assumption

theorem Framed.codes (hf : Framed r validateControl f w) :
    blockKind f.header.kind = .gpioData ∨ adcPayloadCodesValid f.payload = true := by
  by_cases hkind : f.header.kind = FrameKind.adcData
  · right
    have hpayload := hf.payload
    unfold validateFramePayload at hpayload
    rw [Framing.ite_error_eq_ok, if_pos hkind] at hpayload
    obtain ⟨-, hcodes⟩ := hpayload
    by_contra hno
    rw [if_neg hno] at hcodes
    cases hcodes
  · left
    exact if_neg hkind

theorem toNat_lt_of_fits {v : ℤ} {n : ℕ} (h : 0 ≤ v ∧ v < 2 ^ n) : v.toNat < 2 ^ n := by
  have hv : ((v.toNat : ℕ) : ℤ) < ((2 ^ n : ℕ) : ℤ) := by
    rw [Int.toNat_of_nonneg h.1]
    push_cast
    exact h.2
  exact_mod_cast hv

/-- The checks of a block that are about its layout are the ones that remain. -/
theorem Framed.block_check (hf : Framed r validateControl f w)
    (hdata : isDataKind f.header.kind = true) (mode : Alignment.AuxBankMode)
    (profile : Alignment.RateProfile) (version : ℕ) (hrun : f.header.runId ≠ 0)
    (hlegacy : version ≠ 1 ∨ mode = .disabled ∧ profile = .adc1MhzGpio4Mhz) (hversion : version ≠ 3)
    (hlength : f.payload.length = framePayloadBytes mode (blockKind f.header.kind)) :
    (f.block mode profile version).check none = true := by
  obtain ⟨hoverrun, hsum, -⟩ := hf.header.data hdata
  obtain ⟨-, -, -, -, hrunFits, hseqFits, -, hticksFit, -⟩ := hf.header.fits
  have hrunNe : f.header.runId.toNat ≠ 0 := by omega
  have hflags : (!f.header.hasFlag flagOverrunBefore || f.header.hasFlag flagGapBefore) = true := by
    cases hflag : f.header.hasFlag flagOverrunBefore with
    | false => rfl
    | true => rw [hoverrun hflag]; rfl
  have hsupported : supportedChecksum f.header.checksumAlgorithm = true := hsum
  unfold DataBlock.check Frame.block
  dsimp only
  rw [hflags, hsupported, hlength]
  simp only [Bool.and_eq_true, Bool.or_eq_true, decide_eq_true_eq, ne_eq, and_true]
  exact ⟨⟨⟨⟨⟨⟨toNat_lt_of_fits hrunFits, toNat_lt_of_fits hseqFits⟩, toNat_lt_of_fits hticksFit⟩,
    hrunNe⟩, hlegacy⟩, hversion⟩, hf.codes⟩

/-- Every valid version 1 data frame is a block. -/
theorem fromFrame_valid (hf : Framed v1Rules validateControl f w)
    (hdata : isDataKind f.header.kind = true) : (fromFrame f).isSome = true := by
  obtain ⟨-, -, hcheck⟩ := hf.header.data hdata
  change checkV1Data f.header = .ok () at hcheck
  unfold checkV1Data at hcheck
  simp only [Framing.ite_error_eq_ok, not_or, not_not] at hcheck
  obtain ⟨⟨-, hlen⟩, -, ⟨hrun, -⟩, -⟩ := hcheck
  have hpayload : f.payload.length =
      framePayloadBytes .disabled (blockKind f.header.kind) := by
    rw [payload_length hf.payload, hlen]
    cases blockKind f.header.kind <;> rfl
  have hcheck := hf.block_check hdata .disabled .adc1MhzGpio4Mhz 1 hrun (.inr ⟨rfl, rfl⟩) (by decide) hpayload
  unfold fromFrame DataBlock.checked
  rw [if_pos hcheck]
  rfl

/-- A valid version 2 data frame is a block when its layout and its timestamp are those
of the configuration. -/
theorem fromV2Frame_valid (hf : Framed v2Rules validateControl f w)
    (hdata : isDataKind f.header.kind = true) (c : DAQConfiguration) :
    (fromV2Frame f c).isSome = true ↔
      f.header.itemCount = itemsPerFrame c.auxBankMode (blockKind f.header.kind) ∧
        f.header.firstSampleTicks % itemPeriodTicks c.rateProfile (blockKind f.header.kind) = 0 := by
  unfold fromV2Frame
  dsimp only
  constructor
  · intro hsome
    split at hsome
    · cases hsome
    · rename_i hitems
      split at hsome
      · cases hsome
      · rename_i hticks
        exact ⟨not_not.mp hitems, not_not.mp hticks⟩
  · rintro ⟨hitems, hticks⟩
    rw [if_neg (not_not.mpr hitems), if_neg (not_not.mpr hticks)]
    obtain ⟨-, -, hcheck⟩ := hf.header.data hdata
    change checkV2Data f.header = .ok () at hcheck
    unfold checkV2Data at hcheck
    simp only [Framing.ite_error_eq_ok, not_or, not_not] at hcheck
    obtain ⟨hshape, ⟨hrun, -⟩, -⟩ := hcheck
    have hpayload : f.payload.length =
        framePayloadBytes c.auxBankMode (blockKind f.header.kind) := by
      rw [payload_length hf.payload]
      unfold v2DataShapes at hshape
      unfold blockKind at hitems ⊢
      by_cases hkind : f.header.kind = FrameKind.adcData
      · rw [if_pos hkind] at hshape hitems ⊢
        rw [hitems] at hshape
        cases hmode : c.auxBankMode <;> simp [hmode, itemsPerFrame] at hshape <;>
          simp [framePayloadBytes, hshape]
      · rw [if_neg hkind] at hshape hitems ⊢
        rw [hitems] at hshape
        cases hmode : c.auxBankMode <;> simp [hmode, itemsPerFrame] at hshape <;>
          simp [framePayloadBytes, hshape]
    have hcheck := hf.block_check hdata c.auxBankMode c.rateProfile 2 hrun (.inl (by decide))
      (by decide) hpayload
    unfold DataBlock.checked
    rw [if_pos hcheck]
    rfl

end Frames

/-! ### Version 3 -/

/-- The frame is one that a run with these settings sends: of an enabled stream, from the
settings' source, in an encoding its policy has, and of the settings' width. -/
def FitsSettings (f : V3Frame) (settings : V3Settings) : Prop :=
  (if f.header.kind = FrameKind.adcData then settings.adc else settings.gpio) = true ∧
    (f.header.flags &&& flagSynthetic ≠ 0 ↔ settings.source = .synthetic) ∧
    if f.header.kind = FrameKind.adcData then
      byteAt f.payload 0 = settings.adcPolicy.encoding.byte
    else
      (byteAt f.payload 1).toNat * 8 = settings.gpioWidthBits ∧
        (settings.gpioPolicy = .rleAuto ∨ byteAt f.payload 0 = 0)

section V3

variable {control : FrameHeader → Bytes → Except V3Error Unit} {f : V3Frame} {w : Bytes}

theorem Encoding.byte_injective {a b : Encoding} (h : a.byte = b.byte) : a = b := by
  cases a <;> cases b <;> first | rfl | exact absurd h (by decide)

theorem wireKind_blockKind {k : FrameKind} (h : isDataKind k = true) : wireKind (blockKind k) = k := by
  unfold isDataKind at h
  simp only [Bool.or_eq_true, decide_eq_true_eq] at h
  rcases h with rfl | rfl
  · rfl
  · rfl

/-- The samples of a valid data frame decode. -/
theorem V3Framed.decodes (hf : V3Framed control f w) (hdata : isDataKind f.header.kind = true) :
    ∃ d, decodeDataPayload f.header.kind f.payload f.header.itemCount.toNat = .ok d := by
  have hpayload := hf.payload
  unfold validatePayload at hpayload
  rw [if_pos hdata] at hpayload
  split at hpayload
  · cases hpayload
  · rename_i d hd
    exact ⟨d, hd⟩

/-- The checks of a version 3 block that are about its width are the ones that remain. -/
theorem V3Framed.block_check (hf : V3Framed control f w) (hdata : isDataKind f.header.kind = true)
    {d : V3DecodedData}
    (hd : decodeDataPayload f.header.kind f.payload f.header.itemCount.toNat = .ok d)
    (settings : V3Settings)
    (hwidth : (f.block settings d.payload).itemBytes = d.itemBytes) :
    (f.block settings d.payload).check (some f.payload) = true := by
  have hdec := decodeDataPayload_ok hd
  have hvalid := hf.header.valid
  rw [if_pos hdata] at hvalid
  unfold checkDataHeader reject at hvalid
  dsimp only at hvalid
  simp only [Framing.ite_error_eq_ok] at hvalid
  obtain ⟨-, -, hoverrun, hrun, hcount, hticks, hwrap, -⟩ := hvalid
  have hpos : 0 < d.itemBytes := by
    have hw := hdec.width
    split at hw <;> omega
  have hitems : (f.block settings d.payload).itemCount = f.header.itemCount.toNat := by
    unfold Alignment.Block.itemCount
    rw [hwidth]
    change d.payload.length / d.itemBytes = _
    rw [hdec.length, Nat.mul_div_cancel _ hpos]
  have hlength : d.payload.length ≤ maxLogicalPayloadBytes := by
    rw [hdec.length]
    exact (Nat.le_div_iff_mul_le hpos).mp hdec.count.2
  have hnonempty : 0 < d.payload.length := by
    rw [hdec.length]
    exact Nat.mul_pos hdec.count.1 hpos
  have hpayload : (f.block settings d.payload).checkV3Payload f.payload = true := by
    unfold DataBlock.checkV3Payload
    rw [hitems, hwidth]
    change (decide _ && _ && _ && _ && match decodeDataPayload (wireKind (blockKind f.header.kind))
      f.payload f.header.itemCount.toNat with
      | .error _ => false
      | .ok d' => _) = true
    rw [wireKind_blockKind hdata, hd]
    simp only [Bool.and_eq_true, decide_eq_true_eq]
    refine ⟨⟨⟨⟨rfl, rfl⟩, ⟨hnonempty, hlength⟩, ?_⟩, not_not.mp hticks, Nat.not_lt.mp hwrap⟩, trivial, rfl⟩
    change d.payload.length % d.itemBytes = 0
    rw [hdec.length]
    exact Nat.mul_mod_left _ _
  have hcodes : blockKind f.header.kind = .gpioData ∨ adcPayloadCodesValid d.payload = true := by
    by_cases hkind : f.header.kind = FrameKind.adcData
    · exact .inr (hdec.codes hkind)
    · exact .inl (if_neg hkind)
  have hrunNe : f.header.runId.toNat ≠ 0 := by
    simp only [Bool.or_eq_true, decide_eq_true_eq, not_or] at hrun
    intro hzero
    exact hrun.1 (UInt32.toNat_inj.mp hzero)
  have hflags : (!(f.block settings d.payload).overrunBefore ||
      (f.block settings d.payload).gapBefore) = true := by
    change (!decide (f.header.flags &&& flagOverrunBefore ≠ 0) ||
      decide (f.header.flags &&& flagGapBefore ≠ 0)) = true
    simp only [Bool.and_eq_true, decide_eq_true_eq, not_and] at hoverrun
    by_cases hflag : f.header.flags &&& flagOverrunBefore = 0
    · simp [hflag]
    · simp [hoverrun hflag]
  unfold DataBlock.check
  dsimp only
  rw [hpayload, hflags]
  simp only [Bool.and_eq_true, Bool.or_eq_true, decide_eq_true_eq, and_true]
  have hv : (f.block settings d.payload).protocolVersion = 3 := rfl
  rw [hv]
  refine ⟨⟨⟨⟨⟨⟨⟨f.header.runId.toNat_lt, f.header.sequence.toNat_lt⟩,
    f.header.firstSampleTicks.toNat_lt⟩, hrunNe⟩, ?_⟩, .inl (by decide)⟩, rfl⟩, hcodes⟩
  rfl

theorem isSome_ite_none {α : Type} {c : Prop} [Decidable c] {x : Option α} :
    (if c then none else x).isSome = true ↔ ¬ c ∧ x.isSome = true := by
  by_cases h : c
  · rw [if_pos h]
    exact ⟨fun hx => (by cases hx), fun hx => absurd h hx.1⟩
  · rw [if_neg h]
    exact ⟨fun hx => ⟨h, hx⟩, And.right⟩

/-- A valid version 3 data frame is a block when it fits the settings. -/
theorem decodeV3Block_valid (hf : V3Framed control f w) (hdata : isDataKind f.header.kind = true)
    (settings : V3Settings) :
    (decodeV3Block (controlOf control) f settings).isSome = true ↔ FitsSettings f settings := by
  obtain ⟨d, hd⟩ := hf.decodes hdata
  have hdec := decodeDataPayload_ok hd
  have hframe : decodeV3Frame (controlOf control) f.toBytes = .ok f :=
    decodeV3Frame_ok.mpr ⟨hf.header, hf.payload, hf.length, hf.checksum, rfl⟩
  have hchecked : (f.block settings d.payload).itemBytes = d.itemBytes →
      (f.block settings d.payload).checked (some f.payload) = some (f.block settings d.payload) :=
    fun hwidth => if_pos (hf.block_check hdata hd settings hwidth)
  unfold decodeV3Block FitsSettings
  rw [hframe]
  dsimp only
  rw [hd]
  dsimp only
  by_cases hkind : f.header.kind = FrameKind.adcData
  · have hwidth : (f.block settings d.payload).itemBytes = d.itemBytes := by
      have hw := hdec.width
      rw [if_pos hkind] at hw
      rw [hw]
      unfold Alignment.Block.itemBytes V3Frame.block blockKind
      rw [if_pos hkind]
    have hencoding : d.encoding = settings.adcPolicy.encoding ↔
        byteAt f.payload 0 = settings.adcPolicy.encoding.byte := by
      rw [← hdec.encoding]
      exact ⟨fun h => h ▸ rfl, Encoding.byte_injective⟩
    rw [hchecked hwidth, if_pos hkind, if_pos hkind, ← hencoding]
    simp only [hkind, decide_true, if_true, isSome_ite_none, Bool.not_eq_false, not_not,
      Option.isSome_some, and_true, decide_eq_decide]
  · have hencoding : d.encoding = .raw ↔ byteAt f.payload 0 = 0 := by
      rw [← hdec.encoding]
      exact ⟨fun h => h ▸ rfl, fun h => Encoding.byte_injective (h.trans rfl)⟩
    have hwidth : d.itemBytes * 8 = settings.gpioWidthBits →
        (f.block settings d.payload).itemBytes = d.itemBytes := by
      intro h
      unfold Alignment.Block.itemBytes V3Frame.block blockKind
      rw [if_neg hkind]
      unfold V3Settings.gpioWidthBits at h
      cases hmode : settings.auxBankMode <;> rw [hmode] at h <;> dsimp only at h ⊢ <;> omega
    rw [if_neg hkind, if_neg hkind, ← hencoding, ← hdec.itemBytes]
    simp only [hkind, decide_false, Bool.false_eq_true, if_false, isSome_ite_none,
      Bool.not_eq_false, not_not, decide_eq_decide, ne_eq, not_and, ← or_iff_not_imp_left]
    constructor
    · rintro ⟨hstream, hsource, hbits, hpolicy, -⟩
      exact ⟨hstream, hsource, hbits, hpolicy⟩
    · rintro ⟨hstream, hsource, hbits, hpolicy⟩
      refine ⟨hstream, hsource, hbits, hpolicy, ?_⟩
      rw [hchecked (hwidth hbits)]
      rfl

end V3

/-! ### Arrivals -/

def CompatibleFrame.kind : CompatibleFrame → FrameKind
  | .v1 f => f.header.kind
  | .v2 f => f.header.kind
  | .v3 f => f.header.kind

def CompatibleFrame.version : CompatibleFrame → ℕ
  | .v1 _ => 1
  | .v2 _ => 2
  | .v3 _ => 3

/-- The versions' checks of control payloads. -/
structure Controls where
  v1 : ControlCheck
  v2 : ControlCheck
  v3 : FrameHeader → Bytes → Except V3Error Unit

/-- A data frame, with the bytes it was decoded from. -/
structure ValidDataFrame (c : Controls) where
  frame : CompatibleFrame
  bytes : Bytes
  valid : decodeOfVersion c.v1 c.v2 c.v3 true bytes = .ok frame
  data : isDataKind frame.kind = true

namespace Station

variable (c : Controls)

/-- `decode_message` with the configuration, or `decode_v3_block` with the settings. -/
def decodeBlock (s : Station) : CompatibleFrame → Option DataBlock
  | .v1 f => fromFrame f
  | .v2 f => s.activeConfiguration.bind (fromV2Frame f)
  | .v3 f => s.activeV3Settings.bind (decodeV3Block (controlOf c.v3) f)

/-- The body of the loop in `_reader_loop`, for a data frame. -/
def receiveDataFrame (s : Station) (frame : CompatibleFrame) : Station :=
  if s.reader.selectedWireVersion ≠ none ∧ s.reader.selectedWireVersion ≠ some frame.version then
    s.raise .unnegotiatedDataVersion
  else if frame.version = 3 ∧ s.activeV3Settings = none then s.skipV3Frame
  else
    match s.decodeBlock c frame with
    | none => s.raise .frameViolatedProtocol
    | some block => s.dispatchBlock block

/-- A data frame reaches the reader thread, or anything else happens. -/
inductive Arrival
  | data (f : ValidDataFrame c)
  | other (e : Event)

def arrive (s : Station) : Arrival c → Station
  | .data f => if s.ending then s else s.receiveDataFrame c f.frame
  | .other e => s.step e

/-- The reader is at work and no run is active. -/
def Idle (s : Station) : Prop :=
  s.reader.requireLive = true ∧ s.reader.raised = none ∧ s.reader.streamActive = false

/-- The frame has the selected version, or none is selected. -/
def Selects (s : Station) (frame : CompatibleFrame) : Prop :=
  s.reader.selectedWireVersion = none ∨ s.reader.selectedWireVersion = some frame.version

/-- The frame is discarded and counted as stale; the reader and its requests, the queue
and the consumer see nothing of it. -/
def Discards (s : Station) (frame : CompatibleFrame) : Prop :=
  let s' := s.receiveDataFrame c frame
  s'.reader = s.reader ∧
    s'.stream.staleBlocksDiscarded = s.stream.staleBlocksDiscarded + 1 ∧
    s'.stream.blocks = s.stream.blocks ∧ s'.stream.streamReports = s.stream.streamReports ∧
    s'.stream.delivered = s.stream.delivered

/-- The frame fits what the reader remembers of the last run: nothing is needed for
version 1, the layout and the period of a configuration for version 2, and for version 3
no settings or the ones it was sent under. -/
def Fits (s : Station) : CompatibleFrame → Prop
  | .v1 _ => True
  | .v2 f => ∃ configuration, s.activeConfiguration = some configuration ∧
      f.header.itemCount =
        itemsPerFrame configuration.auxBankMode (blockKind f.header.kind) ∧
      f.header.firstSampleTicks %
        itemPeriodTicks configuration.rateProfile (blockKind f.header.kind) = 0
  | .v3 f => ∀ settings, s.activeV3Settings = some settings → FitsSettings f settings

/-- `P` of every data frame of a selected version that arrives while the reader is
idle. -/
def EveryIdleFrame (P : Station → CompatibleFrame → Prop) (s : Station) : List (Arrival c) → Prop
  | [] => True
  | a :: as =>
    (match a with
      | .data f => s.Idle → s.Selects f.frame → P s f.frame
      | .other _ => True) ∧ EveryIdleFrame P (s.arrive c a) as

variable {c} {s : Station}

theorem Selects.not_refused {frame : CompatibleFrame} (h : s.Selects frame) :
    ¬ (s.reader.selectedWireVersion ≠ none ∧
      s.reader.selectedWireVersion ≠ some frame.version) := by
  rintro ⟨hne, hne'⟩
  exact h.elim hne hne'

theorem dispatchBlock_idle (h : s.reader.streamActive = false) (b : DataBlock) :
    s.dispatchBlock b = { s with stream := (s.stream.receive b).discardStale b } := by
  unfold dispatchBlock
  dsimp only
  rw [if_pos (.inl h), h]
  rfl

theorem discards_of_block {frame : CompatibleFrame} {b : DataBlock} (hidle : s.Idle)
    (hselects : s.Selects frame) (hskip : ¬ (frame.version = 3 ∧ s.activeV3Settings = none))
    (hb : s.decodeBlock c frame = some b) : s.Discards c frame := by
  unfold Discards receiveDataFrame
  rw [if_neg hselects.not_refused, if_neg hskip, hb]
  dsimp only
  rw [dispatchBlock_idle hidle.2.2]
  exact ⟨rfl, rfl, rfl, rfl, rfl⟩

theorem not_discards_of_none {frame : CompatibleFrame} (hidle : s.Idle)
    (hselects : s.Selects frame) (hskip : ¬ (frame.version = 3 ∧ s.activeV3Settings = none))
    (hb : s.decodeBlock c frame = none) : ¬ s.Discards c frame := by
  unfold Discards receiveDataFrame
  rw [if_neg hselects.not_refused, if_neg hskip, hb]
  rintro ⟨hreader, -⟩
  have hraised : (s.raise .frameViolatedProtocol).reader.raised = none := hreader ▸ hidle.2.1
  cases hraised

/-- Idle, a frame that has to be decoded is discarded exactly when it becomes a block. -/
theorem discards_iff_isSome {frame : CompatibleFrame} (hidle : s.Idle) (hselects : s.Selects frame)
    (hskip : ¬ (frame.version = 3 ∧ s.activeV3Settings = none)) :
    s.Discards c frame ↔ (s.decodeBlock c frame).isSome = true := by
  cases hb : s.decodeBlock c frame with
  | none => exact iff_of_false (not_discards_of_none hidle hselects hskip hb) (by simp)
  | some b => exact iff_of_true (discards_of_block hidle hselects hskip hb) rfl

theorem discards_iff_fits (f : ValidDataFrame c) (hidle : s.Idle) (hselects : s.Selects f.frame) :
    s.Discards c f.frame ↔ s.Fits f.frame := by
  obtain ⟨frame, bytes, hvalid, hdata⟩ := f
  dsimp only at hselects ⊢
  rw [decodeOfVersion_ok] at hvalid
  cases frame with
  | v1 f =>
    have hsome := fromFrame_valid (decodeFrame_ok.mp hvalid) hdata
    rw [discards_iff_isSome hidle hselects (fun h => by cases h.1)]
    exact iff_of_true hsome trivial
  | v2 f =>
    have hiff := fromV2Frame_valid (decodeV2Frame_ok.mp hvalid) hdata
    rw [discards_iff_isSome hidle hselects (fun h => by cases h.1)]
    unfold decodeBlock Fits
    dsimp only
    cases s.activeConfiguration with
    | none => exact iff_of_false (by simp) (fun ⟨_, h, _⟩ => by cases h)
    | some configuration =>
      rw [Option.bind_some, hiff]
      exact ⟨fun h => ⟨configuration, rfl, h⟩, fun ⟨_, h, h'⟩ => Option.some.inj h ▸ h'⟩
  | v3 f =>
    have hiff := decodeV3Block_valid (decodeV3Frame_ok.mp hvalid.2) hdata
    cases hsettings : s.activeV3Settings with
    | none =>
      refine iff_of_true ?_ (fun settings h => by rw [hsettings] at h; cases h)
      unfold Discards receiveDataFrame
      rw [if_neg hselects.not_refused, if_pos ⟨rfl, hsettings⟩]
      exact ⟨rfl, rfl, rfl, rfl, rfl⟩
    | some settings =>
      rw [discards_iff_isSome hidle hselects (fun h => by rw [hsettings] at h; cases h.2)]
      unfold decodeBlock Fits
      dsimp only
      rw [hsettings, Option.bind_some, hiff]
      exact ⟨fun h _ heq => Option.some.inj heq ▸ h, fun h => h settings rfl⟩

theorem everyIdleFrame_congr (as : List (Arrival c)) (s : Station) :
    EveryIdleFrame c (Discards c) s as ↔ EveryIdleFrame c Fits s as := by
  induction as generalizing s with
  | nil => exact Iff.rfl
  | cons a as ih =>
    refine and_congr ?_ (ih _)
    cases a with
    | data f =>
      refine forall_congr' fun hidle => forall_congr' fun hselects => ?_
      exact discards_iff_fits f hidle hselects
    | other e => exact Iff.rfl

/-- In every run of a reader, the data frames that arrive while no run is active are all
discarded exactly when each of them fits what the reader remembers. -/
theorem idle_frames_discarded (c : Controls)
    (maxPendingRequests seed maxQueuedBlocks maxQueuedEvents : ℕ) (as : List (Arrival c)) :
    EveryIdleFrame c (Discards c)
        (booted maxPendingRequests seed maxQueuedBlocks maxQueuedEvents) as ↔
      EveryIdleFrame c Fits
        (booted maxPendingRequests seed maxQueuedBlocks maxQueuedEvents) as :=
  everyIdleFrame_congr as _

/-- Control payloads are not looked at. -/
def anyControl : Controls where
  v1 := ⟨fun _ _ => .ok (), fun h => by cases h⟩
  v2 := ⟨fun _ _ => .ok (), fun h => by cases h⟩
  v3 := fun _ _ => .ok ()

/-- The header of the first GPIO frame of a run with the legacy layout. -/
def strayHeader : Header where
  kind := FrameKind.gpioData
  flags := 4
  checksumAlgorithm := ChecksumAlgorithm.adler32
  totalLength := 4096
  payloadLength := 4048
  runId := 7
  sequence := 0
  requestId := 0
  firstSampleTicks := 0
  itemCount := 4048
  version := V2.kProtocolVersion

def strayPayload : Bytes := List.replicate 4048 0

def strayFrame : Frame :=
  ⟨strayHeader, strayPayload, HostChecksum.pureAdler32 (headerBytes strayHeader.wire ++ strayPayload)⟩

theorem strayFrame_framed : Framed v2Rules (fun _ _ => .ok ()) strayFrame
    (headerBytes strayHeader.wire ++ strayPayload ++ leBytes 4 strayFrame.checksum) where
  header := ⟨by decide, rfl, by decide, by decide, by decide⟩
  payload := by
    have hlen : strayPayload.length = strayHeader.payloadLength := List.length_replicate
    change validateFramePayload _ strayHeader strayPayload = .ok ()
    unfold validateFramePayload
    rw [if_neg (not_not.mpr hlen), if_neg (by decide), if_pos (by decide)]
  checksum := by
    change computeChecksum ChecksumAlgorithm.adler32 (headerBytes strayHeader.wire ++ strayPayload) = _
    unfold computeChecksum computeChecksumValue
    rw [if_pos rfl]
    rfl
  bytes := by
    unfold strayFrame
    dsimp only

/-- The frame as it comes off the wire. -/
def strayArrival : ValidDataFrame anyControl where
  frame := .v2 strayFrame
  bytes := headerBytes strayHeader.wire ++ strayPayload ++ leBytes 4 strayFrame.checksum
  valid := (decodeOfVersion_ok ..).mpr (decodeV2Frame_ok.mpr strayFrame_framed)
  data := by decide

/-- A reader that is just started, with an INFO under way, and then a version 2 frame of a
run the device still has: the reader ends and the request fails. -/
theorem idle_v2_frame_terminates :
    let s := [Arrival.other (.start true), .other (.request .infoRequest 1 false true)].foldl
      (arrive anyControl) (booted 32 0 4 32)
    let s' := [Arrival.data strayArrival, .other (.readerEnds .raised)].foldl (arrive anyControl) s
    s.Idle ∧ s.Selects strayArrival.frame ∧ ¬ s.Discards anyControl strayArrival.frame ∧
      s.reader.terminalError = none ∧ s.reader.pending = [(1, 0)] ∧
      s'.reader.terminalError = some (.protocol .frameViolatedProtocol) ∧
      (s'.reader.request 0).error = some (.protocol .frameViolatedProtocol) := by
  intro s s'
  have hidle : s.Idle := ⟨rfl, rfl, rfl⟩
  refine ⟨hidle, .inl rfl, ?_, rfl, rfl, rfl, rfl⟩
  exact not_discards_of_none hidle (.inl rfl) (fun h => by cases h.1) rfl

end Station

end ThingDaq.Host
