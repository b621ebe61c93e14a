import ThingDaq.Protocol.DataFrame
import ThingDaq.Pipeline.Rle

/-!
# Version 3 data frames

`V3Data` is what a version 3 data frame says: its header fields, its item width,
its decoded payload and how the payload travels.  Everything else on the wire is
a function of it, and `V3Data.wire` is that function.

`validV3DataView` is the O(1) guard the pipeline and the transport run on a
checksummed page; it reads the header and the prefix only.

## Main results

* `encodeDataFrameInPlace_v3` — the encoder produces the wire form of a
  well-formed raw frame.
* `validV3DataView_wire` — on well-formed frames the guard is exactly the test
  that the timestamps of the frame do not wrap.
-/

namespace ThingDaq

open Wire

/-! ### Twelve-bit packing -/

/-- Two 16-bit codes, four bytes, packed into three. -/
def packPair (d : Bytes) : Bytes :=
  let a := (byteAt d 0).toNat ||| ((byteAt d 1).toNat <<< 8)
  let b := (byteAt d 2).toNat ||| ((byteAt d 3).toNat <<< 8)
  [UInt8.ofNat a, UInt8.ofNat ((a >>> 8) ||| (b <<< 4)), UInt8.ofNat (b >>> 4)]

@[simp] theorem length_packPair (d : Bytes) : (packPair d).length = 3 := rfl

/-- Every pair of a payload packed. -/
def pack12 : Bytes → Bytes
  | a₀ :: a₁ :: b₀ :: b₁ :: rest => packPair [a₀, a₁, b₀, b₁] ++ pack12 rest
  | _ => []

theorem length_pack12 : ∀ (n : ℕ) (b : Bytes), b.length = n * 4 → (pack12 b).length = n * 3 := by
  intro n
  induction n with
  | zero =>
    intro b h
    have : b = [] := List.length_eq_zero_iff.mp (by omega)
    subst this
    rfl
  | succ n ih =>
    intro b h
    match b, h with
    | a₀ :: a₁ :: b₀ :: b₁ :: rest, h =>
      simp only [List.length_cons] at h
      rw [pack12, List.length_append, length_packPair, ih rest (by omega)]
      omega
    | [], h => simp at h
    | [_], h => simp at h; omega
    | [_, _], h => simp at h; omega
    | [_, _, _], h => simp at h; omega

/-! ### Content and wire form -/

inductive Encoding
  | raw
  | gpioRle
  | adcPack12
  deriving DecidableEq, Repr

def Encoding.byte : Encoding → UInt8
  | raw => 0
  | gpioRle => 1
  | adcPack12 => 2

/-- The content of a version 3 data frame; `payload` is the decoded samples. -/
structure V3Data where
  kind : FrameKind
  flags : UInt16
  runId : UInt32
  sequence : UInt32
  firstSampleTicks : UInt64
  itemBytes : ℕ
  encoding : Encoding
  payload : Bytes
  deriving DecidableEq, Repr

namespace V3Data

variable (d : V3Data)

def itemCount : ℕ := d.payload.length / d.itemBytes

def samples : Bytes :=
  match d.encoding with
  | .raw => d.payload
  | .gpioRle => Rle.rleBytes d.payload d.itemBytes d.itemCount
  | .adcPack12 => pack12 d.payload

def runCount : ℕ :=
  match d.encoding with
  | .gpioRle => (RunLength.runs (Rle.itemsOf d.payload d.itemBytes d.itemCount)).length
  | _ => 0

def header : FrameHeader where
  kind := d.kind
  flags := d.flags
  totalLength := UInt32.ofNat (60 + d.samples.length)
  payloadLength := UInt32.ofNat (12 + d.samples.length)
  runId := d.runId
  sequence := d.sequence
  firstSampleTicks := d.firstSampleTicks
  itemCount := UInt32.ofNat d.itemCount
  version := V3.kProtocolVersion

/-- Everything the checksum covers. -/
def body : Bytes :=
  headerBytes d.header ++
    (dataPrefix d.encoding.byte d.itemBytes (d.itemCount * d.itemBytes) d.runCount ++ d.samples)

def wire : Bytes := d.body ++ leBytes 4 (Checksum.adler32 d.body).toNat

@[simp] theorem length_body : d.body.length = 56 + d.samples.length := by
  simp [body]; omega

@[simp] theorem length_wire : d.wire.length = 60 + d.samples.length := by
  simp [wire]; omega

/-- The frames a producer can hand in: the codecs match the stream, the payload
is a whole number of items that fits a page, ADC codes have twelve bits, and the
flags are data flags. -/
structure WellFormed : Prop where
  kind : (d.kind = FrameKind.adcData ∧ d.itemBytes = 4 ∧ d.encoding ≠ .gpioRle ∧
      highNibblesClear d.payload = true) ∨
    (d.kind = FrameKind.gpioData ∧ (d.itemBytes = 1 ∨ d.itemBytes = 2) ∧ d.encoding ≠ .adcPack12)
  flags : d.flags &&& ~~~15 = 0
  overrun : ¬(d.flags &&& 8 ≠ 0 ∧ d.flags &&& 2 = 0)
  runId : d.runId ≠ 0
  aligned : d.payload.length = d.itemCount * d.itemBytes
  nonempty : 0 < d.itemCount
  ticks : d.firstSampleTicks.toNat % 8 = 0
  size : d.payload.length ≤ 4036
  smaller : d.encoding = .gpioRle → d.samples.length < d.payload.length

/-- No timestamp of the frame wraps. -/
def TicksFit : Prop := d.firstSampleTicks.toNat ≤ 2 ^ 64 - 1 - d.itemCount * 8

instance : Decidable d.TicksFit := inferInstanceAs (Decidable (_ ≤ _))

variable {d}

theorem WellFormed.itemBytes_pos (h : d.WellFormed) : 0 < d.itemBytes ∧ d.itemBytes ≤ 4 := by
  rcases h.kind with ⟨-, h, -⟩ | ⟨-, h | h, -⟩ <;> omega

theorem WellFormed.itemCount_le (h : d.WellFormed) : d.itemCount ≤ d.payload.length := by
  have := h.itemBytes_pos.1
  rw [h.aligned]
  exact Nat.le_mul_of_pos_right _ this

/-- The encoded samples never grow past the payload. -/
theorem WellFormed.samples_le (h : d.WellFormed) : d.samples.length ≤ d.payload.length := by
  cases he : d.encoding with
  | raw => unfold samples; rw [he]
  | gpioRle => exact le_of_lt (h.smaller he)
  | adcPack12 =>
    rcases h.kind with ⟨-, hw, -⟩ | ⟨-, -, hne⟩
    · have hlen := h.aligned
      rw [hw] at hlen
      unfold samples
      rw [he]
      simp only
      rw [length_pack12 d.itemCount d.payload hlen]
      omega
    · exact absurd he hne

theorem WellFormed.samples_pos (h : d.WellFormed) : 0 < d.samples.length := by
  have hpos := h.nonempty
  have hw := h.itemBytes_pos.1
  have hlen := h.aligned
  cases he : d.encoding with
  | raw =>
    unfold samples
    rw [he]
    simp only
    rw [hlen]
    exact Nat.mul_pos hpos hw
  | gpioRle =>
    have hne : Rle.itemsOf d.payload d.itemBytes d.itemCount ≠ [] := by
      intro h0
      have := congrArg List.length h0
      simp at this
      omega
    unfold samples
    rw [he]
    simp only
    rw [Rle.length_rleBytes hlen]
    exact Nat.mul_pos (List.length_pos_iff.mpr (RunLength.runs_ne_nil hne)) (by omega)
  | adcPack12 =>
    rcases h.kind with ⟨-, hw4, -⟩ | ⟨-, -, hne⟩
    · rw [hw4] at hlen
      unfold samples
      rw [he]
      simp only
      rw [length_pack12 d.itemCount d.payload hlen]
      omega
    · exact absurd he hne

theorem wire_eq : d.wire = headerBytes d.header ++
    (dataPrefix d.encoding.byte d.itemBytes (d.itemCount * d.itemBytes) d.runCount ++
      (d.samples ++ leBytes 4 (Checksum.adler32 d.body).toNat)) := by
  simp [wire, body, List.append_assoc]

end V3Data

/-! ### The envelope guard -/

def validV3DataView (b : Bytes) : Bool :=
  let h := loadHeader b
  let adc : Bool := h.kind = FrameKind.adcData
  let gpio : Bool := h.kind = FrameKind.gpioData
  let items := h.itemCount.toNat
  let payload := h.payloadLength.toNat
  let width := (byteAt b 45).toNat
  let decoded := leValue (slice b 48 4)
  let records := leValue (slice b 52 4)
  if b.length < kMinFrameBytes + kDataPrefixBytes || kDataFrameBytes < b.length then false
  else if leValue (slice b 0 4) ≠ kMagic || h.version ≠ V3.kProtocolVersion ||
      h.headerLength.toNat ≠ kHeaderSize || byteAt b 11 ≠ 0 || h.checksumAlgorithm ≠ 1 ||
      (!adc && !gpio) || h.flags &&& ~~~15 ≠ 0 || (h.flags &&& 8 ≠ 0 && h.flags &&& 2 = 0) ||
      h.totalLength.toNat ≠ b.length || payload ≠ h.totalLength.toNat - kMinFrameBytes ||
      h.runId = 0 || h.requestId ≠ 0 || items = 0 || h.firstSampleTicks.toNat % 8 ≠ 0 ||
      (adc && width ≠ 4) || (!adc && width ≠ 1 && width ≠ 2) ||
      byteAt b 46 ≠ 0 || byteAt b 47 ≠ 0 || items * width ≠ decoded ||
      kDataFrameBytes - kMinFrameBytes - kDataPrefixBytes < decoded ||
      2 ^ 64 - 1 - items * 8 < h.firstSampleTicks.toNat then false
  else
    let encoded := payload - kDataPrefixBytes
    if byteAt b 44 = 0 then records = 0 && encoded = decoded
    else if byteAt b 44 = 2 then adc && records = 0 && encoded = items * 3
    else byteAt b 44 = 1 && gpio && 0 < records && records ≤ items &&
      encoded = records * (width + 2) && encoded < decoded

theorem validV3DataView_iff (b : Bytes) : validV3DataView b = true ↔
    (60 ≤ b.length ∧ b.length ≤ 4096) ∧
    (leValue (slice b 0 4) = kMagic ∧ (loadHeader b).version = 3 ∧
      (loadHeader b).headerLength.toNat = 44 ∧ byteAt b 11 = 0 ∧
      (loadHeader b).checksumAlgorithm = 1) ∧
    ((loadHeader b).kind = FrameKind.adcData ∨ (loadHeader b).kind = FrameKind.gpioData) ∧
    ((loadHeader b).flags &&& ~~~15 = 0 ∧
      ¬((loadHeader b).flags &&& 8 ≠ 0 ∧ (loadHeader b).flags &&& 2 = 0)) ∧
    ((loadHeader b).totalLength.toNat = b.length ∧
      (loadHeader b).payloadLength.toNat = (loadHeader b).totalLength.toNat - 48) ∧
    ((loadHeader b).runId ≠ 0 ∧ (loadHeader b).requestId = 0 ∧
      (loadHeader b).itemCount.toNat ≠ 0 ∧ (loadHeader b).firstSampleTicks.toNat % 8 = 0) ∧
    (((loadHeader b).kind = FrameKind.adcData → (byteAt b 45).toNat = 4) ∧
      ((loadHeader b).kind ≠ FrameKind.adcData →
        (byteAt b 45).toNat = 1 ∨ (byteAt b 45).toNat = 2)) ∧
    (byteAt b 46 = 0 ∧ byteAt b 47 = 0) ∧
    ((loadHeader b).itemCount.toNat * (byteAt b 45).toNat = leValue (slice b 48 4) ∧
      leValue (slice b 48 4) ≤ 4036) ∧
    (loadHeader b).firstSampleTicks.toNat ≤ 2 ^ 64 - 1 - (loadHeader b).itemCount.toNat * 8 ∧
    (if byteAt b 44 = 0 then leValue (slice b 52 4) = 0 ∧
        (loadHeader b).payloadLength.toNat - 12 = leValue (slice b 48 4)
      else if byteAt b 44 = 2 then (loadHeader b).kind = FrameKind.adcData ∧
        leValue (slice b 52 4) = 0 ∧
        (loadHeader b).payloadLength.toNat - 12 = (loadHeader b).itemCount.toNat * 3
      else byteAt b 44 = 1 ∧ (loadHeader b).kind = FrameKind.gpioData ∧
        0 < leValue (slice b 52 4) ∧ leValue (slice b 52 4) ≤ (loadHeader b).itemCount.toNat ∧
        (loadHeader b).payloadLength.toNat - 12 =
          leValue (slice b 52 4) * ((byteAt b 45).toNat + 2) ∧
        (loadHeader b).payloadLength.toNat - 12 < leValue (slice b 48 4)) := by
  unfold validV3DataView
  simp only [kMinFrameBytes, kDataPrefixBytes, kDataFrameBytes, kHeaderSize, Bool.if_false_left,
    Bool.and_eq_true, Bool.or_eq_true, Bool.not_eq_true', decide_eq_true_eq,
    decide_eq_false_iff_not, Bool.ite_eq_true_distrib, not_or, not_and, ne_eq, not_not, not_lt,
    and_assoc]
  simp only [or_iff_not_imp_left, Nat.reduceAdd, Nat.reduceSub]

section WireFields

variable (d : V3Data)

theorem loadHeader_wire : loadHeader d.wire = d.header := by
  rw [d.wire_eq, loadHeader_headerBytes]

theorem slice_wire_magic : leValue (slice d.wire 0 4) = kMagic := by
  rw [d.wire_eq, slice_magic]
  exact leValue_leBytes_of_lt (by decide)

theorem byteAt_wire_reserved :
    byteAt d.wire 11 = 0 ∧ byteAt d.wire 46 = 0 ∧ byteAt d.wire 47 = 0 := by
  rw [d.wire_eq]
  exact ⟨rfl, rfl, rfl⟩

theorem byteAt_wire_encoding : byteAt d.wire 44 = d.encoding.byte := by
  rw [d.wire_eq]
  rfl

theorem byteAt_wire_itemBytes : byteAt d.wire 45 = UInt8.ofNat d.itemBytes := by
  rw [d.wire_eq]
  rfl

theorem slice_wire_decoded : slice d.wire 48 4 = leBytes 4 (d.itemCount * d.itemBytes) := by
  rw [d.wire_eq]
  rfl

theorem slice_wire_runCount : slice d.wire 52 4 = leBytes 4 d.runCount := by
  rw [d.wire_eq]
  rfl

theorem slice_wire_samples : slice d.wire 56 d.samples.length = d.samples := by
  rw [d.wire_eq, slice_append_right (by simp), slice_append_right (by simp)]
  simp [slice]

end WireFields

theorem V3Data.runCount_le (d : V3Data) : d.runCount ≤ d.itemCount := by
  unfold V3Data.runCount
  split
  · simpa using RunLength.length_runs_le (Rle.itemsOf d.payload d.itemBytes d.itemCount)
  · omega

namespace V3Data.WellFormed

variable {d : V3Data} (h : d.WellFormed)

include h

theorem toNat_itemCount : (UInt32.ofNat d.itemCount).toNat = d.itemCount := by
  have := h.size
  have := h.itemCount_le
  rw [UInt32.toNat_ofNat']
  omega

theorem toNat_totalLength : d.header.totalLength.toNat = 60 + d.samples.length := by
  have := h.size
  have := h.samples_le
  simp only [V3Data.header, UInt32.toNat_ofNat']
  omega

theorem toNat_payloadLength : d.header.payloadLength.toNat = 12 + d.samples.length := by
  have := h.size
  have := h.samples_le
  simp only [V3Data.header, UInt32.toNat_ofNat']
  omega

theorem toNat_itemBytes : (UInt8.ofNat d.itemBytes).toNat = d.itemBytes := by
  have := h.itemBytes_pos
  rw [UInt8.toNat_ofNat']
  omega

theorem leValue_decoded :
    leValue (leBytes 4 (d.itemCount * d.itemBytes)) = d.itemCount * d.itemBytes := by
  have := h.size
  exact leValue_leBytes_of_lt (by rw [← h.aligned]; omega)

theorem leValue_runCount : leValue (leBytes 4 d.runCount) = d.runCount := by
  have := h.size
  have := h.itemCount_le
  have := d.runCount_le
  exact leValue_leBytes_of_lt (by omega)

/-- The samples have the length their encoding announces. -/
theorem samples_length : d.samples.length =
    match d.encoding with
    | .raw => d.itemCount * d.itemBytes
    | .adcPack12 => d.itemCount * 3
    | .gpioRle => d.runCount * (d.itemBytes + 2) := by
  cases he : d.encoding with
  | raw =>
    unfold V3Data.samples
    rw [he]
    exact h.aligned
  | gpioRle =>
    unfold V3Data.samples V3Data.runCount
    rw [he]
    exact Rle.length_rleBytes h.aligned
  | adcPack12 =>
    rcases h.kind with ⟨-, hw4, -⟩ | ⟨-, -, hne⟩
    · unfold V3Data.samples
      rw [he]
      exact length_pack12 d.itemCount d.payload (by rw [h.aligned, hw4])
    · exact absurd he hne

theorem runCount_pos (he : d.encoding = .gpioRle) : 0 < d.runCount := by
  have hs := h.samples_length
  have := h.samples_pos
  rw [he] at hs
  simp only at hs
  rw [hs] at this
  exact Nat.pos_of_mul_pos_right this

theorem isData : d.kind = FrameKind.adcData ∨ d.kind = FrameKind.gpioData := by
  rcases h.kind with ⟨hk, -⟩ | ⟨hk, -⟩ <;> simp [hk]

theorem width_legal : (d.kind = FrameKind.adcData → d.itemBytes = 4) ∧
    (d.kind ≠ FrameKind.adcData → d.itemBytes = 1 ∨ d.itemBytes = 2) := by
  rcases h.kind with ⟨hk, hw4, -⟩ | ⟨hk, hw12, -⟩
  · exact ⟨fun _ => hw4, fun hne => absurd hk hne⟩
  · exact ⟨fun hadc => absurd (hk.symm.trans hadc) (by decide), fun _ => hw12⟩

end V3Data.WellFormed

/-- On a well-formed frame the guard tests the timestamps. -/
theorem validV3DataView_wire {d : V3Data} (h : d.WellFormed) :
    validV3DataView d.wire = decide d.TicksFit := by
  have hsize := h.size
  have hsamples := h.samples_le
  have hpos := h.nonempty
  have hspos := h.samples_pos
  have hlen := h.aligned
  obtain ⟨hr11, hr46, hr47⟩ := byteAt_wire_reserved d
  have hitems : d.header.itemCount.toNat = d.itemCount := h.toNat_itemCount
  have hs := h.samples_length
  rw [Bool.eq_iff_iff, validV3DataView_iff, decide_eq_true_iff]
  simp only [loadHeader_wire, slice_wire_magic, byteAt_wire_encoding, byteAt_wire_itemBytes,
    slice_wire_decoded, slice_wire_runCount, hr11, hr46, hr47, h.leValue_decoded,
    h.leValue_runCount, h.toNat_itemBytes, V3Data.length_wire, h.toNat_totalLength,
    h.toNat_payloadLength, hitems, Nat.add_sub_cancel_left]
  constructor
  · rintro ⟨-, -, -, -, -, -, -, -, -, hfit, -⟩
    exact hfit
  · intro hfit
    refine ⟨by omega, ⟨trivial, rfl, rfl, trivial, rfl⟩, h.isData, ⟨h.flags, h.overrun⟩,
      ⟨trivial, by omega⟩, ⟨h.runId, rfl, by omega, h.ticks⟩, h.width_legal, ⟨trivial, trivial⟩,
      ⟨trivial, by omega⟩, hfit, ?_⟩
    cases he : d.encoding with
    | raw =>
      rw [he] at hs
      have hr : d.runCount = 0 := by unfold V3Data.runCount; rw [he]
      rw [if_pos (by decide)]
      exact ⟨hr, hs⟩
    | adcPack12 =>
      rw [he] at hs
      rcases h.kind with ⟨hk, -⟩ | ⟨-, -, hne⟩
      · have hr : d.runCount = 0 := by unfold V3Data.runCount; rw [he]
        rw [if_neg (by decide), if_pos (by decide)]
        exact ⟨hk, hr, hs⟩
      · exact absurd he hne
    | gpioRle =>
      rw [he] at hs
      rcases h.kind with ⟨-, -, hne, -⟩ | ⟨hk, -⟩
      · exact absurd he hne
      · have hlt := h.smaller he
        rw [if_neg (by decide), if_neg (by decide)]
        exact ⟨rfl, hk, h.runCount_pos he, d.runCount_le, hs, by omega⟩

/-! ### The encoder -/

/-- The raw frame a filled page becomes. -/
def rawV3Data (f : FrameFields) (itemBytes : ℕ) (payload : Bytes) : V3Data where
  kind := f.kind
  flags := f.flags
  runId := f.runId
  sequence := f.sequence
  firstSampleTicks := f.firstSampleTicks
  itemBytes := itemBytes
  encoding := .raw
  payload := payload

theorem dataFrameShape_v3 {kind : FrameKind} {shape : DataFrameShape}
    (hv3 : shape.protocolVersion = V3.kProtocolVersion)
    (h : dataFrameShapeMatchesContract kind shape = true) :
    0 < shape.itemCount ∧ shape.itemPeriodTicks = 8 ∧
      shape.payloadBytes = 12 + shape.itemCount * shape.itemBytes ∧
      shape.frameBytes = 60 + shape.itemCount * shape.itemBytes ∧ shape.frameBytes ≤ 4096 ∧
      ((kind = FrameKind.adcData ∧ shape.itemBytes = 4) ∨
        (kind = FrameKind.gpioData ∧ (shape.itemBytes = 1 ∨ shape.itemBytes = 2))) := by
  unfold dataFrameShapeMatchesContract at h
  simp only at h
  split at h
  · exact absurd h (by simp)
  next h1 =>
  simp only [isDataKind, Bool.or_eq_true, decide_eq_true_eq, not_or, Bool.not_eq_true',
    Bool.or_eq_false_iff, decide_eq_false_iff_not, not_and, not_not] at h1
  simp only [kHeaderSize, kTrailerSize, kDataPrefixBytes, kDataFrameBytes, Bool.and_eq_true,
    decide_eq_true_eq] at h
  obtain ⟨⟨⟨⟨hp, hf⟩, hle⟩, hperiod⟩, hwidth⟩ := h
  refine ⟨by omega, hperiod, by omega, by omega, hle, ?_⟩
  by_cases hadc : kind = FrameKind.adcData
  · simp only [hadc, if_true, decide_eq_true_eq] at hwidth
    exact Or.inl ⟨hadc, hwidth⟩
  · simp only [hadc, if_false, Bool.or_eq_true, decide_eq_true_eq] at hwidth
    exact Or.inr ⟨h1.1.1.1.1.1 hadc, hwidth⟩

theorem slice_prefix_store {frame pre : Bytes} {m : ℕ} (hpre : pre.length = 12)
    (hlen : 56 + m ≤ frame.length) :
    slice (store frame 44 pre) 44 (12 + m) = pre ++ slice frame 56 m ∧
      slice (store frame 44 pre) 56 m = slice frame 56 m := by
  have hst : store frame 44 pre = frame.take 44 ++ (pre ++ frame.drop 56) := by
    rw [store_of_le (by omega), hpre, List.append_assoc]
  have htake : (frame.take 44).length = 44 := by rw [List.length_take]; omega
  constructor
  · rw [hst, slice_append_right (by omega), htake, Nat.sub_self]
    unfold slice
    rw [List.drop_zero, List.take_append, List.take_of_length_le (by omega), hpre,
      Nat.add_sub_cancel_left]
  · rw [slice_store_after (by omega)]

/-- An accepted version 3 encode leaves the wire form of a well-formed raw frame. -/
theorem encodeDataFrameInPlace_v3 {f : FrameFields} {frame : Bytes} {n : ℕ} {shape : DataFrameShape}
    (hv3 : shape.protocolVersion = V3.kProtocolVersion)
    (hok : (encodeDataFrameInPlace f frame n shape).1.isOk = true) :
    let d := rawV3Data f shape.itemBytes (slice frame 56 (shape.itemCount * shape.itemBytes))
    d.WellFormed ∧ d.itemCount = shape.itemCount ∧
      (encodeDataFrameInPlace f frame n shape).2 = d.wire := by
  intro d
  obtain ⟨hlen, -, hshape, -, hflags, hover, hrun, hreq, hcount, hticks, -, hcheck, framed, hfl,
    hframed, heq⟩ := encodeDataFrameInPlace_ok hok
  obtain ⟨halg, hnib⟩ := hcheck hv3
  obtain ⟨hpos, hperiod, hpay, hbytes, hle, hkind⟩ := dataFrameShape_v3 hv3 hshape
  rw [if_pos hv3] at hframed
  set m := shape.itemCount * shape.itemBytes with hm
  obtain ⟨hbody, hsamples⟩ := slice_prefix_store
    (length_dataPrefix 0 shape.itemBytes m 0) (show 56 + m ≤ frame.length by omega)
  have hwpos : 0 < shape.itemBytes := by rcases hkind with h | h <;> omega
  have hplen : d.payload.length = m := by
    show (slice frame 56 m).length = m
    rw [length_slice]
    omega
  have hcnt : d.itemCount = shape.itemCount := by
    unfold V3Data.itemCount
    rw [hplen, hm]
    exact Nat.mul_div_cancel _ hwpos
  have hdata : allowedFlags f.kind = 15 := by
    rcases hkind with ⟨hk, -⟩ | ⟨hk, -⟩ <;> rw [hk] <;> rfl
  rw [hdata] at hflags
  refine ⟨⟨?_, hflags, hover, hrun, ?_, by omega, ?_, by omega, ?_⟩, hcnt, ?_⟩
  · rcases hkind with ⟨hk, hw⟩ | ⟨hk, hw⟩
    · have h12 := hnib hk
      rw [show shape.payloadBytes - 12 = m by omega, hsamples] at h12
      exact Or.inl ⟨hk, hw, Encoding.noConfusion, h12⟩
    · exact Or.inr ⟨hk, hw, Encoding.noConfusion⟩
  · rw [hplen, hcnt]
    rfl
  · rw [hperiod] at hticks
    exact hticks
  · exact fun h => Encoding.noConfusion h
  · have hheader : f.header shape.protocolVersion shape.frameBytes shape.payloadBytes = d.header := by
      have hsz : d.samples.length = m := hplen
      unfold V3Data.header FrameFields.header
      rw [hsz, hcnt, hv3, hbytes, hpay, hreq, halg, ← hcount, UInt32.ofNat_toNat]
      rfl
    rw [heq] at hok ⊢
    obtain ⟨c, hc, hview⟩ := sealFrame_ok (by rw [hfl, hlen]; omega) hok
    have hb : headerBytes d.header ++ slice framed 44 shape.payloadBytes = d.body := by
      unfold V3Data.body
      rw [hframed, hpay, hbody, hcnt]
      rfl
    rw [hview, hheader, hb]
    rw [hheader, hb] at hc
    have hsum : c = Checksum.adler32 d.body :=
      Option.some.inj (hc.symm.trans (computeChecksum_adler32 d.body))
    rw [hsum]
    rfl

end ThingDaq
