import Mathlib.Algebra.Order.BigOperators.Group.List
import ThingDaq.Protocol.V3Data

/-!
# The host's version 3 frame decoder

`daq_api/src/thingdone_daq/protocol_v3.py`: the strict header checks, the sample
codecs and `decode_v3_frame`.  The decoder reads the generated constants only; it
shares no code with the firmware.

The typed records of control payloads are decoded elsewhere (`models_v3.py`), so
`decodeV3Frame` takes that validator as a parameter.

## Main results

* `decodeDataPayload_wire` — the payload of a well-formed data frame decodes to
  its samples, whatever the encoding.
* `decodeV3Frame_wire` — the decoder accepts every well-formed data frame whose
  timestamps do not wrap.
-/

namespace ThingDaq.Host

open Wire

/-- `V3FrameValidationError` with its message, or a checksum mismatch. -/
inductive V3Error
  | validation (message : String)
  | unsupported (message : String)
  | checksumMismatch (expected observed : ℕ)
  deriving DecidableEq, Repr

def V3Error.errorCode : V3Error → ErrorCode
  | .validation _ => .invalidPayload
  | .unsupported _ => .unsupportedConfiguration
  | .checksumMismatch _ _ => .checksumMismatch

def reject {α : Type} (message : String) : Except V3Error α := .error (.validation message)

abbrev maxEncodedSampleBytes : ℕ := 4048
abbrev maxLogicalPayloadBytes : ℕ := 4048
abbrev maxDataFrameBytes : ℕ := 4108
abbrev maxControlFrameBytes : ℕ := 2048
abbrev maxAdcPairs : ℕ := 1012
abbrev maxGpio8Samples : ℕ := 4048

/-! ### The header -/

/-- The members of `FrameKind`. -/
def frameKinds : List FrameKind :=
  [1, 2, 16, 144, 17, 145, 18, 146, 19, 147, 20, 148, 28, 156, 29, 157, 159]

/-- The members of `CommandKind`. -/
def requestKinds : List FrameKind := [16, 17, 18, 19, 20, 28, 29]

def responseSize (k : FrameKind) : ℕ :=
  if k = FrameKind.infoResponse then 132
  else if k = FrameKind.configureResponse then 48
  else if k = FrameKind.startResponse then 48
  else if k = FrameKind.getStatusResponse then 384
  else if k = FrameKind.stopResponse then 16
  else if k = FrameKind.getCapabilitiesResponse then 1404
  else if k = FrameKind.getSettingsResponse then 48
  else 8

/-- The data branch of `_decode_v3_header`. -/
def checkDataHeader (h : FrameHeader) : Except V3Error FrameHeader :=
  let payload := h.payloadLength.toNat
  let count := h.itemCount.toNat
  let maximum := if h.kind = FrameKind.adcData then maxAdcPairs else maxGpio8Samples
  if payload ≤ kDataPrefixBytes || kDataPrefixBytes + maxEncodedSampleBytes < payload then
    reject "data payload outside bounds"
  else if h.flags &&& ~~~15 ≠ 0 then reject "invalid data flags"
  else if h.flags &&& flagOverrunBefore ≠ 0 && h.flags &&& flagGapBefore = 0 then
    reject "OVERRUN_BEFORE requires GAP_BEFORE"
  else if h.runId = 0 || h.requestId ≠ 0 then reject "invalid data run/request ID"
  else if count < 1 || maximum < count then reject "logical item count outside bounds"
  else if h.firstSampleTicks.toNat % 8 ≠ 0 then reject "unaligned timestamp"
  else if 2 ^ 64 - 1 < h.firstSampleTicks.toNat + count * 8 then
    reject "timestamp range would wrap within run"
  else .ok h

/-- The control branch of `_decode_v3_header`. -/
def checkControlHeader (h : FrameHeader) : Except V3Error FrameHeader :=
  let payload := h.payloadLength.toNat
  let isError : Bool := h.flags &&& flagResponseError ≠ 0
  if maxControlFrameBytes < h.totalLength.toNat then reject "control frame outside bounds"
  else if h.sequence ≠ 0 || h.firstSampleTicks ≠ 0 || h.itemCount ≠ 0 then
    reject "nonzero data-only control fields"
  else if requestKinds.contains h.kind then
    if h.flags ≠ 0 || h.runId ≠ 0 || h.requestId = 0 then reject "invalid request fields"
    else if payload ≠ (if h.kind = FrameKind.configureRequest then 20 else 0) then
      reject "incorrect control payload size"
    else .ok h
  else if h.flags &&& ~~~flagResponseError ≠ 0 then reject "invalid response flags"
  else if h.requestId = 0 && !isError then reject "zero request ID requires an error"
  else if h.kind = FrameKind.errorResponse && !isError then
    reject "generic response requires an error"
  else if h.kind = FrameKind.startResponse && !isError && h.runId = 0 then
    reject "START requires a nonzero run ID"
  else if payload ≠ (if h.kind = FrameKind.errorResponse then 8 else if isError then 4
      else responseSize h.kind) then
    reject "incorrect control payload size"
  else .ok h

def decodeV3Header (b : Bytes) : Except V3Error FrameHeader :=
  let h := loadHeader b
  if b.length < kHeaderSize then reject "truncated header"
  else if leValue (slice b 0 4) ≠ kMagic || h.version ≠ V3.kProtocolVersion then
    reject "invalid magic/version"
  else if h.headerLength.toNat ≠ kHeaderSize || byteAt b 11 ≠ 0 then
    reject "invalid header size/reserved"
  else if h.checksumAlgorithm ≠ 1 then reject "unsupported checksum"
  else if !frameKinds.contains h.kind then reject "unknown frame kind"
  else if h.totalLength.toNat ≠ kMinFrameBytes + h.payloadLength.toNat then
    reject "inconsistent frame length"
  else if isDataKind h.kind then checkDataHeader h
  else checkControlHeader h

/-! ### Sample codecs -/

/-- The slice `b[start::step]`. -/
def stride (start step : ℕ) (b : Bytes) : Bytes :=
  (List.range ((b.length - start + (step - 1)) / step)).map fun i => byteAt b (start + step * i)

def adcPayloadCodesValid (payload : Bytes) : Bool :=
  (stride 1 2 payload).all fun hi => hi.toNat ≤ 15

/-- The four lane assignments `expanded[k::4] = …`. -/
def interleave4 : Bytes → Bytes → Bytes → Bytes → Bytes
  | a :: as, b :: bs, c :: cs, d :: ds => a :: b :: c :: d :: interleave4 as bs cs ds
  | _, _, _, _ => []

def lowNibble (b : UInt8) : UInt8 := b &&& 15

def highNibble (b : UInt8) : UInt8 := b >>> 4

def lowNibbleShift (b : UInt8) : UInt8 := (b &&& 15) <<< 4

/-- The PACK12 branch: byte lanes, the third one through two little-endian
integers. -/
def unpack12 (samples : Bytes) (itemCount : ℕ) : Bytes :=
  let middle := stride 1 3 samples
  let high := stride 2 3 samples
  interleave4 (stride 0 3 samples) (middle.map lowNibble)
    (leBytes itemCount (leValue (middle.map highNibble) ||| leValue (high.map lowNibbleShift)))
    (high.map highNibble)

/-- `struct.iter_unpack` of a run length and a value of the given width. -/
def rleRecords (samples : Bytes) (width : ℕ) : List (ℕ × ℕ) :=
  (Rle.itemsOf samples (2 + width) (samples.length / (2 + width))).map fun r =>
    (leValue (r.take 2), leValue (r.drop 2))

/-- The validating pass over the records. -/
def checkRuns (itemCount : ℕ) : List (ℕ × ℕ) → ℕ → Option ℕ → Except V3Error ℕ
  | [], total, _ => .ok total
  | (length, value) :: rest, total, previous =>
    if length = 0 || itemCount < total + length then reject "zero/overflow RLE run"
    else if previous = some value then reject "adjacent RLE runs must differ"
    else checkRuns itemCount rest (total + length) (some value)

def expandRuns (width : ℕ) (records : List (ℕ × ℕ)) : Bytes :=
  records.flatMap fun r => (List.replicate r.1 (leBytes width r.2)).flatten

structure V3DecodedData where
  encoding : Encoding
  itemBytes : ℕ
  itemCount : ℕ
  payload : Bytes
  encodedSampleBytes : ℕ
  deriving DecidableEq, Repr

/-- The encoding branches of `decode_data_payload`, behind the prefix checks. -/
def decodeSamples (kind : FrameKind) (encoding : UInt8) (width runs itemCount : ℕ)
    (samples : Bytes) : Except V3Error V3DecodedData :=
  let decoded := itemCount * width
  if encoding = 0 then
    if runs ≠ 0 || samples.length ≠ decoded then reject "invalid RAW length/run count"
    else if kind = FrameKind.adcData && !adcPayloadCodesValid samples then
      reject "ADC code outside 0..4095"
    else .ok ⟨.raw, width, itemCount, samples, samples.length⟩
  else if encoding = 2 then
    if kind ≠ FrameKind.adcData || runs ≠ 0 then reject "illegal PACK12 kind/run count"
    else if samples.length ≠ 3 * itemCount then reject "truncated or excess PACK12 samples"
    else .ok ⟨.adcPack12, width, itemCount, unpack12 samples itemCount, samples.length⟩
  else if encoding = 1 then
    if kind ≠ FrameKind.gpioData then reject "RLE requires GPIO"
    else if runs < 1 || itemCount < runs || samples.length ≠ runs * (2 + width) then
      reject "invalid RLE record count/length"
    else if decoded ≤ samples.length then reject "RLE must be strictly smaller than RAW"
    else
      match checkRuns itemCount (rleRecords samples width) 0 none with
      | .error e => .error e
      | .ok total =>
        if total ≠ itemCount then reject "RLE runs do not cover exact logical count"
        else .ok ⟨.gpioRle, width, itemCount, expandRuns width (rleRecords samples width),
          samples.length⟩
  else reject "unknown data encoding"

def decodeDataPayload (kind : FrameKind) (payload : Bytes) (itemCount : ℕ) :
    Except V3Error V3DecodedData :=
  let width := (byteAt payload 1).toNat
  if payload.length < kDataPrefixBytes ||
      kDataPrefixBytes + maxEncodedSampleBytes < payload.length then
    reject "payload length outside bounds"
  else if !isDataKind kind then reject "encoding requires a data kind"
  else if leValue (slice payload 2 2) ≠ 0 then reject "nonzero data prefix reserved field"
  else if (if kind = FrameKind.adcData then decide (width ≠ 4)
      else decide (width ≠ 1 ∧ width ≠ 2)) then
    reject "illegal item width for data kind"
  else if itemCount < 1 || maxLogicalPayloadBytes / width < itemCount then
    reject "logical item count outside bounds"
  else if leValue (slice payload 4 4) ≠ itemCount * width then reject "decoded byte count mismatch"
  else decodeSamples kind (byteAt payload 0) width (leValue (slice payload 8 4)) itemCount
    (payload.drop kDataPrefixBytes)

/-! ### Frames -/

structure V3Frame where
  header : FrameHeader
  payload : Bytes
  checksum : ℕ
  deriving DecidableEq, Repr

def computeV3Checksum (data : Bytes) : ℕ := Adler.adler32 data

section Frames

-- the decoder of control payloads
variable (validateControl : V3Frame → Except V3Error Unit)

def validatePayload (frame : V3Frame) : Except V3Error Unit :=
  if isDataKind frame.header.kind then
    match decodeDataPayload frame.header.kind frame.payload frame.header.itemCount.toNat with
    | .error e => .error e
    | .ok _ => .ok ()
  else validateControl frame

/-- The frame that starts `b`, whose header was decoded before. -/
def decodeBufferedV3Frame (b : Bytes) (header : FrameHeader) : Except V3Error V3Frame :=
  let stop := header.totalLength.toNat - kTrailerSize
  let expected := computeV3Checksum (b.take stop)
  let observed := leValue (slice b stop 4)
  if expected ≠ observed then .error (.checksumMismatch expected observed)
  else
    let frame : V3Frame := ⟨header, slice b kHeaderSize (stop - kHeaderSize), observed⟩
    match validatePayload validateControl frame with
    | .error e => .error e
    | .ok () => .ok frame

def decodeV3Frame (wire : Bytes) : Except V3Error V3Frame :=
  if wire.length < kMinFrameBytes || maxDataFrameBytes < wire.length then
    reject "payload length outside bounds"
  else
    match decodeV3Header wire with
    | .error e => .error e
    | .ok header =>
      if wire.length ≠ header.totalLength.toNat then reject "truncated or trailing frame bytes"
      else decodeBufferedV3Frame validateControl wire header

end Frames

/-! ### Twelve-bit round trip -/

theorem stride_cons_two (x y : UInt8) (b : Bytes) : stride 1 2 (x :: y :: b) = y :: stride 1 2 b := by
  have hcount : ((x :: y :: b).length - 1 + (2 - 1)) / 2 = (b.length - 1 + (2 - 1)) / 2 + 1 := by
    simp only [List.length_cons]
    omega
  unfold stride
  rw [hcount, List.range_succ_eq_map, List.map_cons, List.map_map]
  refine congrArg (y :: ·) (List.map_congr_left fun i _ => ?_)
  show byteAt (x :: y :: b) (1 + 2 * (i + 1)) = byteAt b (1 + 2 * i)
  rw [show 1 + 2 * (i + 1) = 1 + 2 * i + 1 + 1 by omega]
  rfl

theorem stride_cons_three {start : ℕ} (hs : start < 3) (x y z : UInt8) (b : Bytes) :
    stride start 3 (x :: y :: z :: b) = byteAt [x, y, z] start :: stride start 3 b := by
  have hcount : ((x :: y :: z :: b).length - start + (3 - 1)) / 3 =
      (b.length - start + (3 - 1)) / 3 + 1 := by
    simp only [List.length_cons]
    omega
  have hhead : byteAt (x :: y :: z :: b) (start + 3 * 0) = byteAt [x, y, z] start := by
    have : start = 0 ∨ start = 1 ∨ start = 2 := by omega
    rcases this with rfl | rfl | rfl <;> rfl
  unfold stride
  rw [hcount, List.range_succ_eq_map, List.map_cons, List.map_map, hhead]
  refine congrArg (byteAt [x, y, z] start :: ·) (List.map_congr_left fun i _ => ?_)
  show byteAt (x :: y :: z :: b) (start + 3 * (i + 1)) = byteAt b (start + 3 * i)
  rw [show start + 3 * (i + 1) = start + 3 * i + 1 + 1 + 1 by omega]
  rfl

theorem and_240_eq_zero (y : UInt8) : y &&& 0xF0 = 0 ↔ y.toNat ≤ 15 := by
  have hall : ∀ n < 256, n &&& 240 = 0 ↔ n ≤ 15 := by decide +kernel
  rw [← UInt8.toNat_inj, UInt8.toNat_and]
  exact hall y.toNat y.toNat_lt

/-- The host's code check is the firmware's. -/
theorem adcPayloadCodesValid_eq : ∀ b : Bytes, adcPayloadCodesValid b = highNibblesClear b
  | [] => rfl
  | [_] => by simp [adcPayloadCodesValid, stride, highNibblesClear]
  | x :: y :: b => by
    have ih := adcPayloadCodesValid_eq b
    unfold adcPayloadCodesValid at ih ⊢
    rw [stride_cons_two, List.all_cons, ih, highNibblesClear]
    simp only [and_240_eq_zero]

/-- Two little-endian numbers or-ed are the bytes or-ed. -/
theorem leBytes_or (a b : UInt8) (as bs : Bytes) (n : ℕ) :
    leBytes (n + 1) (leValue (a :: as) ||| leValue (b :: bs)) =
      (a ||| b) :: leBytes n (leValue as ||| leValue bs) := by
  have ha := a.toNat_lt
  have hb := b.toNat_lt
  have hsplit : ∀ x y : ℕ, x < 2 ^ 8 → x + 256 * y = y <<< 8 ||| x := fun x y hx => by
    rw [← Nat.shiftLeft_add_eq_or_of_lt hx, Nat.shiftLeft_eq]
    omega
  have hor : leValue (a :: as) ||| leValue (b :: bs) =
      (a.toNat ||| b.toNat) + 256 * (leValue as ||| leValue bs) := by
    rw [leValue_cons, leValue_cons, hsplit _ _ ha, hsplit _ _ hb, hsplit _ _ (Nat.or_lt_two_pow ha hb),
      Nat.shiftLeft_or_distrib]
    ac_rfl
  have hlt : (a.toNat ||| b.toNat) < 256 := Nat.or_lt_two_pow (n := 8) ha hb
  have hhead : UInt8.ofNat ((a.toNat ||| b.toNat) + 256 * (leValue as ||| leValue bs)) = a ||| b := by
    apply UInt8.toNat_inj.mp
    rw [UInt8.toNat_ofNat', UInt8.toNat_or]
    omega
  rw [hor, leBytes, hhead]
  congr 2
  omega

/-- One packed pair, lane by lane. -/
theorem unpackPair (a₀ b₀ : UInt8) {a₁ b₁ : UInt8} (ha : a₁.toNat ≤ 15) (hb : b₁.toNat ≤ 15) :
    ∃ p₀ p₁ p₂, packPair [a₀, a₁, b₀, b₁] = [p₀, p₁, p₂] ∧ p₀ = a₀ ∧ lowNibble p₁ = a₁ ∧
      highNibble p₁ ||| lowNibbleShift p₂ = b₀ ∧ highNibble p₂ = b₁ := by
  have ha₀ := a₀.toNat_lt
  have hb₀ := b₀.toNat_lt
  have hword : ∀ x y : ℕ, x < 2 ^ 8 → x ||| y <<< 8 = x + 256 * y := fun x y hx => by
    rw [Nat.or_comm, ← Nat.shiftLeft_add_eq_or_of_lt hx, Nat.shiftLeft_eq]
    omega
  have hmid : ∀ x y : ℕ, x < 2 ^ 4 → x ||| y <<< 4 = x + 16 * y := fun x y hx => by
    rw [Nat.or_comm, ← Nat.shiftLeft_add_eq_or_of_lt hx, Nat.shiftLeft_eq]
    omega
  have hlow : ∀ p : UInt8, (lowNibble p).toNat = p.toNat % 16 := fun p => by
    unfold lowNibble
    rw [UInt8.toNat_and]
    exact Nat.and_two_pow_sub_one_eq_mod p.toNat 4
  have hhigh : ∀ p : UInt8, (highNibble p).toNat = p.toNat / 16 := fun p => by
    unfold highNibble
    rw [UInt8.toNat_shiftRight]
    exact Nat.shiftRight_eq_div_pow p.toNat 4
  have hshift : ∀ p : UInt8, (lowNibbleShift p).toNat = (p.toNat % 16) <<< 4 := fun p => by
    have hp := hlow p
    unfold lowNibble at hp
    unfold lowNibbleShift
    rw [UInt8.toNat_shiftLeft, hp, show (4 : UInt8).toNat % 8 = 4 by decide, Nat.shiftLeft_eq]
    omega
  have hpair : packPair [a₀, a₁, b₀, b₁] =
      [UInt8.ofNat (a₀.toNat + 256 * a₁.toNat),
        UInt8.ofNat (a₁.toNat + 16 * (b₀.toNat + 256 * b₁.toNat)),
        UInt8.ofNat ((b₀.toNat + 256 * b₁.toNat) / 16)] := by
    have hdiv : (a₀.toNat + 256 * a₁.toNat) / 2 ^ 8 = a₁.toNat := by omega
    show [UInt8.ofNat (a₀.toNat ||| a₁.toNat <<< 8),
      UInt8.ofNat ((a₀.toNat ||| a₁.toNat <<< 8) >>> 8 ||| (b₀.toNat ||| b₁.toNat <<< 8) <<< 4),
      UInt8.ofNat ((b₀.toNat ||| b₁.toNat <<< 8) >>> 4)] = _
    rw [hword _ _ ha₀, hword _ _ hb₀, Nat.shiftRight_eq_div_pow, hdiv, hmid _ _ (by omega),
      Nat.shiftRight_eq_div_pow]
  refine ⟨_, _, _, hpair, ?_, ?_, ?_, ?_⟩ <;> apply UInt8.toNat_inj.mp
  · rw [UInt8.toNat_ofNat']
    omega
  · rw [hlow, UInt8.toNat_ofNat']
    omega
  · rw [UInt8.toNat_or, hhigh, hshift, UInt8.toNat_ofNat', UInt8.toNat_ofNat', hmid _ _ (by omega)]
    omega
  · rw [hhigh, UInt8.toNat_ofNat']
    omega

theorem unpack12_pack12 : ∀ (n : ℕ) (b : Bytes), b.length = n * 4 → highNibblesClear b = true →
    unpack12 (pack12 b) n = b := by
  intro n
  induction n with
  | zero =>
    intro b h _
    have : b = [] := List.length_eq_zero_iff.mp (by omega)
    subst this
    rfl
  | succ n ih =>
    intro b h hclear
    match b, h, hclear with
    | a₀ :: a₁ :: b₀ :: b₁ :: rest, h, hclear =>
      simp only [highNibblesClear, Bool.and_eq_true, decide_eq_true_eq, and_240_eq_zero] at hclear
      obtain ⟨ha, hb, hrest⟩ := hclear
      obtain ⟨p₀, p₁, p₂, hpair, h₀, h₁, h₂, h₃⟩ := unpackPair a₀ b₀ ha hb
      have hlen : rest.length = n * 4 := by
        simp only [List.length_cons] at h
        omega
      have hlanes : ∀ start < 3, stride start 3 (pack12 (a₀ :: a₁ :: b₀ :: b₁ :: rest)) =
          byteAt [p₀, p₁, p₂] start :: stride start 3 (pack12 rest) := fun start hs => by
        rw [pack12, hpair]
        exact stride_cons_three hs p₀ p₁ p₂ _
      have hrec := ih rest hlen hrest
      unfold unpack12 at hrec ⊢
      rw [hlanes 0 (by omega), hlanes 1 (by omega), hlanes 2 (by omega)]
      simp only [List.map_cons]
      rw [leBytes_or, interleave4, hrec]
      exact congrArg₂ (· :: ·) h₀ (congrArg₂ (· :: ·) h₁ (congrArg₂ (· :: ·) h₂
        (congrArg (· :: rest) h₃)))
    | [], h, _ => simp at h
    | [_], h, _ => simp at h; omega
    | [_, _], h, _ => simp at h; omega
    | [_, _, _], h, _ => simp at h; omega

/-! ### Run-length round trip -/

/-- Cutting a row of equally long blocks gives the blocks. -/
theorem itemsOf_flatten {w : ℕ} (l : List Bytes) (h : ∀ r ∈ l, r.length = w) :
    Rle.itemsOf l.flatten w l.length = l := by
  induction l with
  | nil => rfl
  | cons r l ih =>
    have hr : r.length = w := h r List.mem_cons_self
    have hrest := ih fun x hx => h x (List.mem_cons_of_mem r hx)
    unfold Rle.itemsOf at hrest ⊢
    rw [List.length_cons, List.range_succ_eq_map, List.map_cons, List.map_map, List.flatten_cons]
    refine congrArg₂ (· :: ·) ?_ ?_
    · rw [Nat.zero_mul, slice_append_left (by omega), slice_self hr]
    · refine Eq.trans (List.map_congr_left fun i _ => ?_) hrest
      show slice (r ++ l.flatten) ((i + 1) * w) w = slice l.flatten (i * w) w
      rw [slice_append_right (by rw [hr]; exact Nat.le_mul_of_pos_left w (by omega)), hr,
        Nat.succ_mul, Nat.add_sub_cancel]

/-- The records read back from the canonical form are the maximal runs. -/
theorem rleRecords_flatMap {w : ℕ} {r : List (ℕ × Bytes)} (hw : ∀ p ∈ r, p.2.length = w)
    (hlen : ∀ p ∈ r, p.1 < 65536) :
    rleRecords (r.flatMap Rle.recordBytes) w = r.map fun p => (p.1, leValue p.2) := by
  have hblock : ∀ x ∈ r.map Rle.recordBytes, x.length = 2 + w := by
    intro x hx
    obtain ⟨p, hp, rfl⟩ := List.mem_map.mp hx
    rw [Rle.recordBytes, List.length_append, length_leBytes, hw p hp]
  have hcount : (r.flatMap Rle.recordBytes).length / (2 + w) = (r.map Rle.recordBytes).length := by
    rw [Rle.length_flatMap_recordBytes hw, List.length_map, Nat.add_comm w 2]
    exact Nat.mul_div_cancel _ (by omega)
  unfold rleRecords
  rw [hcount, List.flatMap_def, itemsOf_flatten _ hblock, List.map_map]
  refine List.map_congr_left fun p hp => ?_
  have h2 : (leBytes 2 p.1).length = 2 := length_leBytes 2 p.1
  show (leValue ((leBytes 2 p.1 ++ p.2).take 2), leValue ((leBytes 2 p.1 ++ p.2).drop 2)) = _
  rw [List.take_left' h2, List.drop_left' h2, leValue_leBytes_of_lt (hlen p hp)]

/-- The validating pass accepts positive runs whose neighbours differ, up to the
announced count. -/
theorem checkRuns_ok {itemCount : ℕ} (r : List (ℕ × ℕ)) : ∀ (total : ℕ) (previous : Option ℕ),
    (∀ p ∈ r, 0 < p.1) → r.IsChain (fun p q => p.2 ≠ q.2) →
    (∀ p ∈ r.head?, previous ≠ some p.2) → total + (r.map Prod.fst).sum ≤ itemCount →
    checkRuns itemCount r total previous = .ok (total + (r.map Prod.fst).sum) := by
  induction r with
  | nil => intro total previous _ _ _ _; simp [checkRuns]
  | cons p r ih =>
    obtain ⟨n, v⟩ := p
    intro total previous hpos hne hprev hle
    rw [List.map_cons, List.sum_cons] at hle ⊢
    have hn : 0 < n := hpos (n, v) List.mem_cons_self
    have hv : previous ≠ some v := hprev (n, v) rfl
    rw [checkRuns, if_neg (by simp; omega), if_neg hv,
      ih (total + n) (some v) (fun q hq => hpos q (List.mem_cons_of_mem _ hq)) hne.tail ?_ (by omega),
      Nat.add_assoc]
    intro q hq hvq
    cases r with
    | nil => simp at hq
    | cons q' r =>
      obtain rfl : q' = q := by simpa using hq
      exact (List.isChain_cons_cons.mp hne).1 (Option.some.inj hvq)

theorem expandRuns_map {w : ℕ} {r : List (ℕ × Bytes)} (hw : ∀ p ∈ r, p.2.length = w) :
    expandRuns w (r.map fun p => (p.1, leValue p.2)) = (RunLength.expand r).flatten := by
  induction r with
  | nil => rfl
  | cons p r ih =>
    have hp : leBytes w (leValue p.2) = p.2 := by
      rw [← hw p List.mem_cons_self]
      exact leBytes_leValue p.2
    unfold expandRuns at ih ⊢
    rw [List.map_cons, List.flatMap_cons, ih fun q hq => hw q (List.mem_cons_of_mem _ hq),
      RunLength.expand_cons, List.flatten_append, hp]

/-! ### Well-formed frames are accepted -/

/-- What the host makes of a data frame's payload. -/
def decodedData (d : V3Data) : V3DecodedData :=
  ⟨d.encoding, d.itemBytes, d.itemCount, d.payload, d.samples.length⟩

/-- What the host makes of a data frame. -/
def decodedFrame (d : V3Data) : V3Frame where
  header := d.header
  payload := dataPrefix d.encoding.byte d.itemBytes (d.itemCount * d.itemBytes) d.runCount ++ d.samples
  checksum := computeV3Checksum d.body

theorem checkDataHeader_ok {h : FrameHeader}
    (hlen : 12 < h.payloadLength.toNat ∧ h.payloadLength.toNat ≤ 4060)
    (hflags : h.flags &&& ~~~15 = 0) (hover : ¬(h.flags &&& 8 ≠ 0 ∧ h.flags &&& 2 = 0))
    (hrun : h.runId ≠ 0) (hreq : h.requestId = 0) (hpos : 0 < h.itemCount.toNat)
    (hmax : h.itemCount.toNat ≤ if h.kind = FrameKind.adcData then maxAdcPairs else maxGpio8Samples)
    (halign : h.firstSampleTicks.toNat % 8 = 0)
    (hticks : h.firstSampleTicks.toNat + h.itemCount.toNat * 8 ≤ 2 ^ 64 - 1) :
    checkDataHeader h = .ok h := by
  unfold checkDataHeader
  simp only [kDataPrefixBytes, maxEncodedSampleBytes]
  rw [if_neg (by simp; omega), if_neg (not_not_intro hflags),
    if_neg (by simp only [Bool.and_eq_true, decide_eq_true_eq]; exact hover),
    if_neg (by simpa [hrun] using hreq), if_neg (by simp; exact ⟨by omega, hmax⟩),
    if_neg (not_not_intro halign), if_neg (not_lt.mpr hticks)]

theorem validatePayload_data {validateControl : V3Frame → Except V3Error Unit} {frame : V3Frame}
    {decoded : V3DecodedData} (hk : isDataKind frame.header.kind = true)
    (h : decodeDataPayload frame.header.kind frame.payload frame.header.itemCount.toNat =
      .ok decoded) : validatePayload validateControl frame = .ok () := by
  unfold validatePayload
  rw [if_pos hk, h]

section WellFormedFrames

variable {d : V3Data} (h : d.WellFormed)

include h

theorem decodeSamples_raw (he : d.encoding = .raw) :
    decodeSamples d.kind 0 d.itemBytes d.runCount d.itemCount d.samples = .ok (decodedData d) := by
  have hs : d.samples = d.payload := by unfold V3Data.samples; rw [he]
  have hr : d.runCount = 0 := by unfold V3Data.runCount; rw [he]
  have hlen : d.samples.length = d.itemCount * d.itemBytes := by rw [hs]; exact h.aligned
  have hcodes : ¬(d.kind = FrameKind.adcData ∧ adcPayloadCodesValid d.samples = false) := by
    rintro ⟨hk, hbad⟩
    rw [hs, adcPayloadCodesValid_eq] at hbad
    rcases h.kind with ⟨-, -, -, hclear⟩ | ⟨hg, -⟩
    · rw [hclear] at hbad
      exact Bool.noConfusion hbad
    · exact absurd (hg.symm.trans hk) (by decide)
  unfold decodeSamples
  rw [if_pos rfl, if_neg (by simp [hr, hlen]), if_neg (by simpa using hcodes)]
  unfold decodedData
  rw [he, hs]

theorem decodeSamples_pack12 (he : d.encoding = .adcPack12) :
    decodeSamples d.kind 2 d.itemBytes d.runCount d.itemCount d.samples = .ok (decodedData d) := by
  have hs : d.samples = pack12 d.payload := by unfold V3Data.samples; rw [he]
  have hr : d.runCount = 0 := by unfold V3Data.runCount; rw [he]
  have hlen := h.samples_length
  rw [he] at hlen
  rcases h.kind with ⟨hk, hw, -, hclear⟩ | ⟨-, -, hne⟩
  · have hpay : d.payload.length = d.itemCount * 4 := by rw [h.aligned, hw]
    have hback : unpack12 d.samples d.itemCount = d.payload := by
      rw [hs]
      exact unpack12_pack12 _ _ hpay hclear
    unfold decodeSamples
    rw [if_neg (by decide), if_pos rfl, if_neg (by simp [hk, hr]), if_neg (by simp [hlen]; omega), hback]
    unfold decodedData
    rw [he]
  · exact absurd he hne

theorem decodeSamples_rle (he : d.encoding = .gpioRle) :
    decodeSamples d.kind 1 d.itemBytes d.runCount d.itemCount d.samples = .ok (decodedData d) := by
  set r := RunLength.runs (Rle.itemsOf d.payload d.itemBytes d.itemCount) with hrdef
  have hs : d.samples = r.flatMap Rle.recordBytes := by unfold V3Data.samples; rw [he]; rfl
  have hw : ∀ p ∈ r, p.2.length = d.itemBytes := fun p hp =>
    Rle.length_of_mem_itemsOf h.aligned _ (Rle.mem_runs_mem hp)
  have hsum : (r.map Prod.fst).sum = d.itemCount := by
    rw [hrdef, RunLength.sum_runs]
    simp [Rle.itemsOf]
  have hcount : d.itemCount < 65536 := by
    have := h.itemCount_le
    have := h.size
    omega
  have hshort : ∀ p ∈ r, p.1 < 65536 := fun p hp => by
    have := List.le_sum_of_mem (List.mem_map_of_mem (f := Prod.fst) hp)
    omega
  have hrec : rleRecords d.samples d.itemBytes = r.map fun p => (p.1, leValue p.2) := by
    rw [hs]
    exact rleRecords_flatMap hw hshort
  have hback : expandRuns d.itemBytes (rleRecords d.samples d.itemBytes) = d.payload := by
    rw [hrec, expandRuns_map hw, hrdef, RunLength.expand_runs, Rle.flatten_itemsOf h.aligned]
  have hmap : (r.map fun p => (p.1, leValue p.2)).map Prod.fst = r.map Prod.fst := by
    rw [List.map_map]
    rfl
  have hchecked : checkRuns d.itemCount (rleRecords d.samples d.itemBytes) 0 none =
      .ok d.itemCount := by
    rw [hrec, checkRuns_ok _ 0 none ?_ ?_ (fun _ _ => Option.some_ne_none _ |>.symm) (by rw [hmap]; omega), hmap,
      hsum, Nat.zero_add]
    · intro q hq
      obtain ⟨p, hp, rfl⟩ := List.mem_map.mp hq
      exact RunLength.runs_pos _ p hp
    · rw [List.isChain_map]
      refine (RunLength.runs_ne _).imp_of_mem_imp fun p q hp hq hne heq => hne ?_
      -- equal values of equal width are equal items
      have hlens : p.2.length = q.2.length := (hw p hp).trans (hw q hq).symm
      rw [← leBytes_leValue p.2, ← leBytes_leValue q.2, hlens]
      exact congrArg _ heq
  have hlen := h.samples_length
  rw [he] at hlen
  have hlt := h.smaller he
  rw [h.aligned] at hlt
  rcases h.kind with ⟨-, -, hne, -⟩ | ⟨hk, -⟩
  · exact absurd he hne
  · have hpos := h.runCount_pos he
    have hle := d.runCount_le
    unfold decodeSamples
    rw [if_neg (by decide), if_neg (by decide), if_pos rfl, if_neg (by simp [hk]),
      if_neg (by simp [hlen, Nat.add_comm]; omega), if_neg (by omega), hchecked]
    simp only [ne_eq, not_true_eq_false, if_false, hback]
    unfold decodedData
    rw [he]

theorem decodeSamples_wire : decodeSamples d.kind d.encoding.byte d.itemBytes d.runCount d.itemCount
    d.samples = .ok (decodedData d) := by
  cases he : d.encoding with
  | raw => exact decodeSamples_raw h he
  | gpioRle => exact decodeSamples_rle h he
  | adcPack12 => exact decodeSamples_pack12 h he

theorem isDataKind_kind : isDataKind d.kind = true := by
  rcases h.isData with hk | hk <;> rw [hk] <;> rfl

/-- The payload of a well-formed frame decodes to its samples. -/
theorem decodeDataPayload_wire : decodeDataPayload (decodedFrame d).header.kind
    (decodedFrame d).payload (decodedFrame d).header.itemCount.toNat = .ok (decodedData d) := by
  rw [show (decodedFrame d).header.itemCount.toNat = d.itemCount from h.toNat_itemCount]
  show decodeDataPayload d.kind (dataPrefix _ _ _ _ ++ d.samples) _ = _
  have hsize := h.size
  have hsamples := h.samples_le
  have hpos := h.nonempty
  have hlen := h.aligned
  obtain ⟨hwpos, hwle⟩ := h.itemBytes_pos
  set pre := dataPrefix d.encoding.byte d.itemBytes (d.itemCount * d.itemBytes) d.runCount with hpre
  have hprelen : pre.length = 12 := length_dataPrefix _ _ _ _
  have hwidth : (byteAt (pre ++ d.samples) 1).toNat = d.itemBytes := h.toNat_itemBytes
  have hreserved : leValue (slice (pre ++ d.samples) 2 2) = 0 := by rw [hpre]; rfl
  have hdecoded : leValue (slice (pre ++ d.samples) 4 4) = d.itemCount * d.itemBytes := by
    rw [show slice (pre ++ d.samples) 4 4 = leBytes 4 (d.itemCount * d.itemBytes) from rfl,
      h.leValue_decoded]
  have hruns : leValue (slice (pre ++ d.samples) 8 4) = d.runCount := by
    rw [show slice (pre ++ d.samples) 8 4 = leBytes 4 d.runCount from rfl, h.leValue_runCount]
  have hdrop : (pre ++ d.samples).drop 12 = d.samples := List.drop_left' hprelen
  have hlegal : ¬((if d.kind = FrameKind.adcData then decide (d.itemBytes ≠ 4)
      else decide (d.itemBytes ≠ 1 ∧ d.itemBytes ≠ 2)) = true) := by
    obtain ⟨hadc, hgpio⟩ := h.width_legal
    by_cases hk : d.kind = FrameKind.adcData
    · simp [hk, hadc hk]
    · rcases hgpio hk with hw | hw <;> simp [hk, hw]
  have hmax : d.itemCount ≤ 4048 / d.itemBytes := by
    rw [Nat.le_div_iff_mul_le hwpos]
    omega
  unfold decodeDataPayload
  simp only [hwidth, hreserved, hdecoded, hruns, kDataPrefixBytes, maxEncodedSampleBytes,
    maxLogicalPayloadBytes, hdrop, List.length_append, hprelen]
  rw [if_neg (by simp; omega), if_neg (by simp [isDataKind_kind h]), if_neg (by simp), if_neg hlegal,
    if_neg (by simp; omega), if_neg (by simp)]
  exact decodeSamples_wire h

theorem checkDataHeader_wire (hfit : d.TicksFit) : checkDataHeader d.header = .ok d.header := by
  have hsize := h.size
  have hsamples := h.samples_le
  have hpos := h.nonempty
  have hspos := h.samples_pos
  have hlen := h.aligned
  have hitems : d.header.itemCount.toNat = d.itemCount := h.toNat_itemCount
  have hmax : d.itemCount ≤ if d.kind = FrameKind.adcData then 1012 else 4048 := by
    split
    · next hk =>
      rw [h.width_legal.1 hk] at hlen
      omega
    · have := h.itemCount_le
      omega
  have hticks : d.firstSampleTicks.toNat + d.itemCount * 8 ≤ 2 ^ 64 - 1 := by
    have : d.firstSampleTicks.toNat ≤ 2 ^ 64 - 1 - d.itemCount * 8 := hfit
    have := h.itemCount_le
    omega
  exact checkDataHeader_ok (by rw [h.toNat_payloadLength]; omega) h.flags h.overrun h.runId rfl
    (by rw [hitems]; omega) (by rw [hitems]; exact hmax) h.ticks (by rw [hitems]; exact hticks)

theorem decodeV3Header_wire (hfit : d.TicksFit) : decodeV3Header d.wire = .ok d.header := by
  have hkind : frameKinds.contains d.header.kind = true := by
    rcases h.isData with hk | hk <;> rw [show d.header.kind = d.kind from rfl, hk] <;> rfl
  have hdata : isDataKind d.header.kind = true := isDataKind_kind h
  unfold decodeV3Header
  simp only [loadHeader_wire, slice_wire_magic, (byteAt_wire_reserved d).1, V3Data.length_wire,
    h.toNat_totalLength, h.toNat_payloadLength, hkind, hdata, kHeaderSize, kMinFrameBytes]
  rw [if_neg (by omega), if_neg (by simp [V3Data.header]), if_neg (by simp [V3Data.header]),
    if_neg (by simp [V3Data.header, ChecksumAlgorithm.adler32]), if_neg (by simp), if_neg (by omega),
    if_pos trivial]
  exact checkDataHeader_wire h hfit

/-- A well-formed data frame whose timestamps do not wrap is accepted, whatever
the control payloads are checked for. -/
theorem decodeV3Frame_wire (validateControl : V3Frame → Except V3Error Unit) (hfit : d.TicksFit) :
    decodeV3Frame validateControl d.wire = .ok (decodedFrame d) := by
  have hsize := h.size
  have hsamples := h.samples_le
  have hprelen : (decodedFrame d).payload.length = 12 + d.samples.length := by
    show (dataPrefix _ _ _ _ ++ d.samples).length = _
    rw [List.length_append, length_dataPrefix]
  have hbody : d.body.length = 56 + d.samples.length := d.length_body
  have hstop : d.header.totalLength.toNat - 4 = d.body.length := by
    rw [h.toNat_totalLength, hbody]
    omega
  have htake : d.wire.take d.body.length = d.body := List.take_left
  have hsum : leValue (slice d.wire d.body.length 4) = computeV3Checksum d.body := by
    unfold V3Data.wire
    rw [slice_append_right le_rfl, Nat.sub_self, slice_self (length_leBytes _ _),
      leValue_leBytes_of_lt (Checksum.adler32 d.body).toNat_lt]
    exact Checksum.adler32_eq d.body
  have hpay : slice d.wire 44 (d.body.length - 44) = (decodedFrame d).payload := by
    rw [V3Data.wire_eq, slice_append_right (by simp), ← List.append_assoc,
      slice_append_left (by simp; omega), length_headerBytes, Nat.sub_self]
    exact slice_self (a := (decodedFrame d).payload) (by omega)
  have hvalid : validatePayload validateControl (decodedFrame d) = .ok () :=
    validatePayload_data (isDataKind_kind h) (decodeDataPayload_wire h)
  have hframe : (⟨d.header, (decodedFrame d).payload, computeV3Checksum d.body⟩ : V3Frame) =
      decodedFrame d := rfl
  unfold decodeV3Frame
  rw [if_neg (by simp [kMinFrameBytes, maxDataFrameBytes]; omega), decodeV3Header_wire h hfit]
  simp only
  rw [if_neg (by rw [h.toNat_totalLength, V3Data.length_wire]; simp)]
  unfold decodeBufferedV3Frame
  simp only [kTrailerSize, kHeaderSize, hstop, htake, hsum, hpay]
  rw [if_neg (by simp), hframe, hvalid]

end WellFormedFrames

end ThingDaq.Host
