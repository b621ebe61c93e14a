import ThingDaq.Firmware.Settings
import ThingDaq.Host.DataFrames
import ThingDaq.Host.Synthetic
import ThingDaq.Pipeline.Feed

/-!
# The synthetic source

`SyntheticSource` (`firmware/src/synthetic_source.cpp`): a producer that makes frames of a
known pattern as their time comes, or as fast as buffers are free.  The host computes the same
pattern from the timestamp of a block.

Indices are 64-bit and wrap; the host's are unbounded.  Every period of the patterns divides
`2 ^ 11`, and every sample period divides `2 ^ 6`, so the phases agree in every run.

## Main results

* `Follows.frames` — every frame the source hands over is that of its number.
* `synthetic_agreement` — the host accepts exactly that payload, except for the samples of 16
  bits of version 2.
-/

namespace ThingDaq.SyntheticSource

open Wire Window
open Host.Synthetic (adcItem v3AdcItem gpioItem packPair edges)

/-! ### Sample formulas -/

/-- `kAdcCodeMask` -/
def kAdcCodeMask : UInt64 := 0xFFF

def adc0Code (pairIndex : UInt64) : UInt16 := ((pairIndex * 2) &&& kAdcCodeMask).toUInt16

def adc1Code (pairIndex : UInt64) : UInt16 := ((pairIndex * 2 + 1) &&& kAdcCodeMask).toUInt16

def gpioByte (sampleIndex : UInt64) : UInt8 := (sampleIndex &&& 0xFF).toUInt8

/-- The two bytes of a code, the low one first. -/
def codeBytes (code : UInt16) : Bytes := [(code &&& 0xFF).toUInt8, ((code >>> 8) &&& 0xFF).toUInt8]

/-- One turn of the loop in `fillAdc`. -/
def adcPair (version : UInt8) (index : UInt64) : Bytes :=
  let edge : Option (UInt16 × UInt16) :=
    if version = V3.kProtocolVersion then
      ([(0, 0), (4095, 4095), (0xABC, 0x123), (0x555, 0xAAA)] : List (UInt16 × UInt16))[
        (index % 2048).toNat]?
    else none
  match edge with
  | some edge => codeBytes edge.1 ++ codeBytes edge.2
  | none => codeBytes (adc0Code index) ++ codeBytes (adc1Code index)

def fillAdc (version : UInt8) (size : ℕ) (firstPairIndex : UInt64) : Bytes :=
  (List.range (size / 4)).flatMap fun pair => adcPair version (firstPairIndex + UInt64.ofNat pair)

/-- One turn of the loop in `fillGpio`. -/
def gpioSample (version : UInt8) (itemBytes : ℕ) (logicalFrame value : UInt64) : Bytes :=
  if version = V3.kProtocolVersion then
    let held : Bool := logicalFrame &&& 1 = 0
    let even : Bool := value &&& 1 = 0
    (if held then 0 else if even then 0xAA else 0x55) ::
      if itemBytes = 2 then [if held then 0 else if even then 0x0F else 0xF0] else []
  else gpioByte value :: if itemBytes = 2 then [gpioByte (value >>> 8)] else []

def fillGpio (version : UInt8) (size : ℕ) (firstSampleIndex : UInt64) (itemBytes : ℕ)
    (logicalFrame : UInt64) : Bytes :=
  (List.range (size / itemBytes)).flatMap fun sample =>
    gpioSample version itemBytes logicalFrame (firstSampleIndex + UInt64.ofNat sample)

/-! ### The source -/

inductive Mode
  | realtime
  | unpacedDiagnostic
  deriving DecidableEq, Repr

inductive StartStatus
  | ok
  | invalidRunId
  | invalidConfiguration
  | pipelineNotReady
  deriving DecidableEq, Repr

structure StreamState where
  itemCount : ℕ := 0
  coverageTicks : ℕ := 0
  logicalFrames : UInt64 := 0
  framesGenerated : ℕ := 0
  itemsGenerated : ℕ := 0
  epochFramePending : Bool := true
  gapBeforePending : Bool := false
  deriving DecidableEq, Repr

structure ServiceReport where
  framesGenerated : ℕ := 0
  framesFramed : ℕ := 0
  framesDropped : ℕ := 0
  workLimitReached : Bool := false
  waitingForDeadline : Bool := false
  waitingForBuffer : Bool := false
  invariantError : Bool := false
  deriving DecidableEq, Repr

end SyntheticSource

/-- `SyntheticSource` -/
structure SyntheticSource where
  mode : SyntheticSource.Mode
  streams : Stream → SyntheticSource.StreamState := fun _ => {}
  configuration : Configuration := {}
  runId : UInt32 := 0
  startClockTicks : UInt64 := 0
  lastElapsedTicks : UInt64 := 0
  serviceCalls : ℕ := 0
  framesFramed : ℕ := 0
  framesDropped : ℕ := 0
  nextStream : Stream := .adc
  running : Bool := false

namespace SyntheticSource

open Wire Window
open Host.Synthetic (adcItem v3AdcItem gpioItem packPair edges)

def kSyntheticFramesPerLoop : ℕ := 2

/-- `settings::kRawFrameBytes` -/
def kRawFrameBytes : ℕ := kDecodedPayloadBytes + kHeaderSize + kDataPrefixBytes + kTrailerSize

variable (x : SyntheticSource)

def startRun (runId : UInt32) (configuration : Configuration) (startClockTicks : UInt64)
    (p : Pipeline) : SyntheticSource × StartStatus :=
  if runId = 0 || runId = x.runId then (x, .invalidRunId)
  else if !validStreamMask configuration.streamMask || configuration.source ≠ Source.synthetic ||
      !isSupportedChecksum configuration.dataChecksumAlgorithm ||
      configuration.dataFrameBytes ≠ (if configuration.protocolVersion = V3.kProtocolVersion then
        kRawFrameBytes else kDataFrameBytes) then (x, .invalidConfiguration)
  else if !p.acceptingFrames || p.runId ≠ runId ||
      p.enabledStreamMask ≠ configuration.streamMask ||
      p.setup.checksumAlgorithm ≠ configuration.dataChecksumAlgorithm then (x, .pipelineNotReady)
  else
    ({ mode := x.mode
       streams := fun s => { itemCount := (p.setup.stream s).itemCount
                             coverageTicks := (p.setup.stream s).coverageTicks }
       configuration := configuration
       runId := runId
       startClockTicks := startClockTicks
       running := true }, .ok)

def stop : SyntheticSource := { x with running := false }

def setStream (s : Stream) (k : StreamState) : SyntheticSource :=
  { x with streams := Function.update x.streams s k }

def frameDue (s : Stream) (elapsedTicks : UInt64) : Bool :=
  if !streamEnabled x.configuration.streamMask s then false
  else if x.mode = .unpacedDiagnostic then true
  else (x.streams s).logicalFrames < elapsedTicks / UInt64.ofNat (x.streams s).coverageTicks

def selectDueStream (elapsedTicks : UInt64) : Option Stream :=
  [x.nextStream, x.nextStream.peer].find? fun s => x.frameDue s elapsedTicks

/-- What `generateFrame` writes into its page. -/
def payload (s : Stream) (layout : FrameLayout) (logicalFrame : UInt64) : Bytes :=
  let firstItemIndex := logicalFrame * UInt64.ofNat (x.streams s).itemCount
  let version := x.configuration.protocolVersion
  match s with
  | .adc => fillAdc version layout.payloadBytes firstItemIndex
  | .gpio => fillGpio version layout.payloadBytes firstItemIndex layout.itemBytes logicalFrame

/-- What it asks `finishFill` for. -/
def completion (s : Stream) (payloadBytes : ℕ) : FrameCompletion where
  firstSampleTicks :=
    (x.streams s).logicalFrames * UInt64.ofNat (x.streams s).coverageTicks
  flags := requestFlags true (x.streams s).epochFramePending (x.streams s).gapBeforePending
  checksumAlgorithm := x.configuration.dataChecksumAlgorithm
  payloadBytesWritten := payloadBytes

/-- The frame is counted before it is made. -/
def StreamState.count (k : StreamState) : StreamState :=
  { k with logicalFrames := k.logicalFrames + 1
           framesGenerated := sat64 k.framesGenerated 1
           itemsGenerated := sat64 k.itemsGenerated k.itemCount }

def generateFrame (s : Stream) (f : Feed) (report : ServiceReport) :
    SyntheticSource × Feed × ServiceReport :=
  let layout := f.pipe.setup.stream s
  let k := x.streams s
  let counted := k.count
  let report := { report with framesGenerated := report.framesGenerated + 1 }
  let filled := f.fill s layout.payloadBytes true (x.payload s layout k.logicalFrames) fun _ =>
    x.completion s layout.payloadBytes
  if filled.2.2 then
    ({ x.setStream s { counted with epochFramePending := false, gapBeforePending := false } with
        framesFramed := sat64 x.framesFramed 1 }, filled.1,
      { report with framesFramed := report.framesFramed + 1 })
  else
    ({ x.setStream s { counted with gapBeforePending := true } with
        framesDropped := sat64 x.framesDropped 1 }, filled.1,
      { report with framesDropped := report.framesDropped + 1
                    invariantError := filled.2.1 = .ok || filled.2.1 ≠ .poolExhausted })

/-- The loop of `service`; every turn but the last generates a frame. -/
def serviceLoop : ℕ → SyntheticSource → Feed → ServiceReport →
    SyntheticSource × Feed × ServiceReport
  | 0, x, f, report => (x, f, report)
  | fuel + 1, x, f, report =>
    match x.selectDueStream x.lastElapsedTicks with
    | none => (x, f, { report with waitingForDeadline := x.mode = .realtime })
    | some s =>
      if x.mode = .unpacedDiagnostic && f.pipe.freeBuffers = 0 then
        (x, f, { report with waitingForBuffer := true })
      else
        let made := x.generateFrame s f report
        serviceLoop fuel { made.1 with nextStream := s.peer } made.2.1 made.2.2

def service (nowTicks : UInt64) (f : Feed) : SyntheticSource × Feed × ServiceReport :=
  if !x.running then (x, f, {})
  else
    let woken := { x with serviceCalls := sat64 x.serviceCalls 1
                          lastElapsedTicks := nowTicks - x.startClockTicks }
    let served := woken.serviceLoop kSyntheticFramesPerLoop f {}
    if served.2.2.framesGenerated = kSyntheticFramesPerLoop then
      (served.1, served.2.1, { served.2.2 with
        workLimitReached := (served.1.selectDueStream served.1.lastElapsedTicks).isSome })
    else served

/-- The calls of the runtime: `service` in every loop, `stop` when the run ends. -/
inductive Event
  | service (nowTicks : UInt64)
  | stop

def producer : Producer SyntheticSource Event where
  feeds _ := true
  act x f
    | .service nowTicks => ((x.service nowTicks f).1, (x.service nowTicks f).2.1)
    | .stop => (x.stop, f)

/-! ### The two implementations of the patterns -/

theorem codeBytes_eq (c : UInt16) : codeBytes c = leBytes 2 c.toNat := by
  have hlow : (c &&& 0xFF).toUInt8 = UInt8.ofNat c.toNat := by
    apply UInt8.toNat_inj.mp
    simp only [UInt16.toNat_toUInt8, UInt16.toNat_and, UInt8.toNat_ofNat']
    exact (congrArg (· % 256) (Nat.and_two_pow_sub_one_eq_mod c.toNat 8)).trans (Nat.mod_mod _ _)
  have hhigh : ((c >>> 8) &&& 0xFF).toUInt8 = UInt8.ofNat (c.toNat / 256) := by
    apply UInt8.toNat_inj.mp
    simp only [UInt16.toNat_toUInt8, UInt16.toNat_and, UInt16.toNat_shiftRight, UInt8.toNat_ofNat']
    refine (congrArg (· % 256) (Nat.and_two_pow_sub_one_eq_mod _ 8)).trans ?_
    rw [Nat.shiftRight_eq_div_pow]
    exact Nat.mod_mod _ _
  rw [codeBytes, hlow, hhigh]
  rfl

theorem toNat_adc0Code (k : ℕ) : (adc0Code (UInt64.ofNat k)).toNat = 2 * k % 4096 := by
  unfold adc0Code kAdcCodeMask
  simp only [UInt64.toNat_toUInt16, UInt64.toNat_and, UInt64.toNat_mul, UInt64.toNat_ofNat']
  rw [show (0xFFF : UInt64).toNat = 2 ^ 12 - 1 from rfl, Nat.and_two_pow_sub_one_eq_mod]
  have htwo : (2 : UInt64).toNat = 2 := rfl
  rw [htwo]
  omega

theorem toNat_adc1Code (k : ℕ) : (adc1Code (UInt64.ofNat k)).toNat = (2 * k + 1) % 4096 := by
  unfold adc1Code kAdcCodeMask
  simp only [UInt64.toNat_toUInt16, UInt64.toNat_and, UInt64.toNat_add, UInt64.toNat_mul,
    UInt64.toNat_ofNat']
  rw [show (0xFFF : UInt64).toNat = 2 ^ 12 - 1 from rfl, Nat.and_two_pow_sub_one_eq_mod]
  have htwo : (2 : UInt64).toNat = 2 := rfl
  have hone : (1 : UInt64).toNat = 1 := rfl
  rw [htwo, hone]
  omega

theorem adcPair_eq (version : UInt8) (k : ℕ) : adcPair version (UInt64.ofNat k) =
    if version = V3.kProtocolVersion then v3AdcItem k else adcItem k := by
  have hramp : codeBytes (adc0Code (UInt64.ofNat k)) ++ codeBytes (adc1Code (UInt64.ofNat k)) =
      adcItem k := by
    rw [codeBytes_eq, codeBytes_eq, toNat_adc0Code, toNat_adc1Code]
    rfl
  unfold adcPair
  by_cases hv3 : version = V3.kProtocolVersion
  · have hphase : (UInt64.ofNat k % 2048).toNat = k % 2048 := by
      rw [UInt64.toNat_mod, UInt64.toNat_ofNat', show (2048 : UInt64).toNat = 2048 from rfl]
      omega
    simp only [hv3, if_true, hphase, v3AdcItem, edges, hramp]
    generalize k % 2048 = phase
    -- the four edge pairs, and the ramp behind them
    match phase with
    | 0 => rfl
    | 1 => rfl
    | 2 => rfl
    | 3 => rfl
    | _ + 4 => simp
  · simp only [hv3, if_false, hramp]

theorem toNat_gpioByte (k : UInt64) : (gpioByte k).toNat = k.toNat % 256 := by
  unfold gpioByte
  simp only [UInt64.toNat_toUInt8, UInt64.toNat_and]
  rw [show (0xFF : UInt64).toNat = 2 ^ 8 - 1 from rfl, Nat.and_two_pow_sub_one_eq_mod]
  omega

theorem gpioSample_narrow {version : UInt8} (hv3 : version ≠ V3.kProtocolVersion)
    (logicalFrame : UInt64) (k : ℕ) : gpioSample version 1 logicalFrame (UInt64.ofNat k) =
      gpioItem .disabled .counter k := by
  have hbyte : gpioByte (UInt64.ofNat k) = UInt8.ofNat (k % 256) := by
    apply UInt8.toNat_inj.mp
    rw [toNat_gpioByte, UInt64.toNat_ofNat', UInt8.toNat_ofNat']
    omega
  unfold gpioSample
  rw [if_neg hv3, if_neg (by decide), hbyte]
  rfl

/-- The GPIO samples of version 3 are held in even frames. -/
theorem gpioSample_v3 (mode : Alignment.AuxBankMode) {n sequence : ℕ} (hparity : sequence % 2 = n % 2)
    (k : ℕ) : gpioSample V3.kProtocolVersion (Host.Synthetic.itemBytes mode) (UInt64.ofNat n)
      (UInt64.ofNat k) = gpioItem mode (Host.Synthetic.v3GpioPattern sequence) k := by
  have hbit : ∀ j : ℕ, (UInt64.ofNat j &&& 1 = 0) ↔ j % 2 = 0 := by
    intro j
    rw [← UInt64.toNat_inj, UInt64.toNat_and, UInt64.toNat_ofNat',
      show (1 : UInt64).toNat = 2 ^ 1 - 1 from rfl, Nat.and_two_pow_sub_one_eq_mod]
    show j % 2 ^ 64 % 2 ^ 1 = 0 ↔ _
    omega
  unfold gpioSample Host.Synthetic.v3GpioPattern gpioItem Host.Synthetic.syntheticGpioValue
  simp only [if_true, hbit, hparity]
  by_cases hn : n % 2 = 0
  · simp only [hn, decide_true, if_true, Host.Synthetic.syntheticGpioBankBytes]
    cases mode <;> rfl
  · by_cases hk : k % 2 = 0
    · simp only [hn, hk, decide_true, decide_false, if_true, if_false, Bool.false_eq_true,
        Host.Synthetic.syntheticGpioBankBytes]
      cases mode <;> rfl
    · simp only [hn, hk, decide_false, if_false, Bool.false_eq_true,
        Host.Synthetic.syntheticGpioBankBytes]
      cases mode <;> rfl

/-- The high byte of a sample of 16 bits is that of the index, and stays the same from an even
index to the next one; the host's changes with every sample. -/
theorem gpioSample_wide {version : UInt8} (hv3 : version ≠ V3.kProtocolVersion)
    (logicalFrame : UInt64) {j k : ℕ} (heven : k % 2 = 0)
    (hfirst : gpioSample version 2 logicalFrame (UInt64.ofNat k) = gpioItem .input .counter j)
    (hsecond : gpioSample version 2 logicalFrame (UInt64.ofNat (k + 1)) =
      gpioItem .input .counter (j + 1)) : False := by
  have hhigh : ∀ i m : ℕ, gpioSample version 2 logicalFrame (UInt64.ofNat i) =
      gpioItem .input .counter m → i % 2 ^ 64 / 256 % 256 = (3 * m + 0x55) % 256 := by
    intro i m h
    unfold gpioSample at h
    rw [if_neg hv3, if_pos rfl] at h
    have hitem : gpioItem .input .counter m =
        [UInt8.ofNat (m % 256 ||| ((3 * m + 0x55) % 256) <<< 8),
        UInt8.ofNat ((m % 256 ||| ((3 * m + 0x55) % 256) <<< 8) / 256)] := by
      simp only [gpioItem, Host.Synthetic.itemBytes, Host.Synthetic.syntheticGpioValue,
        Host.Synthetic.syntheticGpioBankBytes, leBytes]
    have hword : m % 256 ||| ((3 * m + 0x55) % 256) <<< 8 =
        (3 * m + 0x55) % 256 * 256 + m % 256 := by
      rw [Nat.or_comm, ← Nat.shiftLeft_add_eq_or_of_lt (show m % 256 < 2 ^ 8 by omega),
        Nat.shiftLeft_eq]
    rw [hitem, hword, List.cons.injEq, List.cons.injEq] at h
    have hbyte := congrArg UInt8.toNat h.2.1
    rw [toNat_gpioByte, UInt64.toNat_shiftRight, UInt64.toNat_ofNat', UInt8.toNat_ofNat',
      show (8 : UInt64).toNat % 64 = 8 from rfl, Nat.shiftRight_eq_div_pow] at hbyte
    have hlt := Nat.mod_lt (3 * m + 0x55) (show 0 < 256 by decide)
    generalize (3 * m + 0x55) % 256 = high at hbyte hlt ⊢
    norm_num at hbyte ⊢
    omega
  have h0 := hhigh k j hfirst
  have h1 := hhigh (k + 1) (j + 1) hsecond
  omega

/-! ### The frames of a run -/

/-- The payload of frame `n` of a stream. -/
def framePayload (version : UInt8) (layout : FrameLayout) (s : Stream) (n : ℕ) : Bytes :=
  items (fun k => match s with
    | .adc => adcPair version (UInt64.ofNat k)
    | .gpio => gpioSample version layout.itemBytes (UInt64.ofNat n) (UInt64.ofNat k))
    (n * layout.itemCount) layout.itemCount

theorem length_adcPair (version : UInt8) (index : UInt64) : (adcPair version index).length = 4 := by
  unfold adcPair
  dsimp only
  split <;> rfl

theorem length_gpioSample (version : UInt8) {itemBytes : ℕ} (h : itemBytes = 1 ∨ itemBytes = 2)
    (logicalFrame value : UInt64) :
    (gpioSample version itemBytes logicalFrame value).length = itemBytes := by
  unfold gpioSample
  rcases h with rfl | rfl
  · split <;> rfl
  · split <;> rfl

/-- The source writes the payload of its next frame. -/
theorem payload_eq {x : SyntheticSource} {s : Stream} {l : RunLayout} (h : l.valid = true) (n : ℕ)
    (hitems : (x.streams s).itemCount = (l.streams s).itemCount) :
    x.payload s (l.streams s) (UInt64.ofNat n) =
      framePayload x.configuration.protocolVersion (l.streams s) s n := by
  obtain ⟨⟨-, hwidth, -⟩, hbytes, -⟩ := FrameLayout.valid_iff.mp (RunLayout.frameLayout_valid h s)
  have hcount : (l.streams s).payloadBytes / (l.streams s).itemBytes = (l.streams s).itemCount := by
    rw [hbytes, Nat.mul_div_cancel _ hwidth]
  cases s with
  | adc =>
    rw [(RunLayout.sampling_of_valid h).adcBytes] at hcount
    unfold payload fillAdc framePayload items
    simp only [hitems, hcount, UInt64.ofNat_add, UInt64.ofNat_mul]
  | gpio =>
    unfold payload fillGpio framePayload items
    simp only [hitems, hcount, UInt64.ofNat_add, UInt64.ofNat_mul]

theorem length_framePayload (version : UInt8) {l : RunLayout} (h : l.valid = true) (s : Stream)
    (n : ℕ) : (framePayload version (l.streams s) s n).length = (l.streams s).payloadBytes := by
  obtain ⟨-, hbytes, -⟩ := FrameLayout.valid_iff.mp (RunLayout.frameLayout_valid h s)
  have hsampling := RunLayout.sampling_of_valid h
  rw [hbytes]
  apply length_items
  intro k
  cases s with
  | adc => rw [hsampling.adcBytes, length_adcPair]
  | gpio =>
    apply length_gpioSample
    rw [hsampling.gpioBytes]
    split
    · exact Or.inr rfl
    · exact Or.inl rfl

/-- A frame of the source is that of its number. -/
structure Made (version : UInt8) (l : RunLayout) (h : Handed) : Prop where
  grid : h.OnGrid l.coverage
  synthetic : h.completion.flags &&& flagSynthetic ≠ 0
  payload : h.payload = framePayload version (l.streams h.stream) h.stream h.number

/-- The run the source was started for: the pipeline as it was then. -/
structure Started (c : Configuration) (p : Pipeline) : Prop where
  accepting : p.acceptingFrames = true
  runId : p.runId ≠ 0
  mask : p.enabledStreamMask = c.streamMask
  checksum : p.setup.checksumAlgorithm = c.dataChecksumAlgorithm

/-- As long as the pipeline is open the source counts the frames it numbers. -/
structure InStep (c : Configuration) (p : Pipeline) (x : SyntheticSource) (f : Feed) : Prop where
  reach : Reach anyCaller f.tracked
  later : Pipeline.Later p f.pipe
  configuration : x.configuration = c
  itemCount : ∀ s, (x.streams s).itemCount = (p.setup.stream s).itemCount
  coverage : ∀ s, (x.streams s).coverageTicks = p.setup.layout.coverage s
  logical : f.pipe.acceptingFrames = true →
    ∀ s, (x.streams s).logicalFrames = UInt64.ofNat (f.produced s)
  frames : ∀ h ∈ f.handed, Made c.protocolVersion p.setup.layout h

theorem requestFlags_synthetic (epoch gap : Bool) :
    requestFlags true epoch gap &&& flagSynthetic ≠ 0 := by
  cases epoch <;> cases gap <;> decide

section Run

variable {c : Configuration} {p : Pipeline} {x : SyntheticSource} {f : Feed}

theorem Started.accepts (h : Started c p) {s : Stream} (hs : streamEnabled c.streamMask s = true) :
    p.accepts s p.runId c.dataChecksumAlgorithm = true := by
  unfold Pipeline.accepts
  rw [h.accepting, h.checksum, h.mask, hs]
  simp

/-- What a turn does to the state of its stream: the frame is counted, and flags change. -/
structure Counts (s : Stream) (x x' : SyntheticSource) : Prop where
  configuration : x'.configuration = x.configuration
  itemCount : ∀ t, (x'.streams t).itemCount = (x.streams t).itemCount
  coverage : ∀ t, (x'.streams t).coverageTicks = (x.streams t).coverageTicks
  own : (x'.streams s).logicalFrames = (x.streams s).logicalFrames + 1
  other : ∀ t, t ≠ s → (x'.streams t).logicalFrames = (x.streams t).logicalFrames

theorem setStream_counts (x : SyntheticSource) (s : Stream) {k : StreamState}
    (hitems : k.itemCount = (x.streams s).itemCount)
    (hcoverage : k.coverageTicks = (x.streams s).coverageTicks)
    (hlogical : k.logicalFrames = (x.streams s).logicalFrames + 1) :
    Counts s x (x.setStream s k) := by
  unfold setStream
  refine ⟨rfl, ?_, ?_, ?_, ?_⟩
  · intro t
    dsimp only
    by_cases ht : t = s
    · subst ht
      rw [Function.update_self, hitems]
    · rw [Function.update_of_ne ht]
  · intro t
    dsimp only
    by_cases ht : t = s
    · subst ht
      rw [Function.update_self, hcoverage]
    · rw [Function.update_of_ne ht]
  · dsimp only
    rw [Function.update_self, hlogical]
  · intro t ht
    dsimp only
    rw [Function.update_of_ne ht]

theorem generateFrame_counts (x : SyntheticSource) (s : Stream) (f : Feed) (report : ServiceReport) :
    Counts s x (x.generateFrame s f report).1 := by
  unfold generateFrame
  dsimp only
  split
  · obtain ⟨h1, h2, h3, h4, h5⟩ := setStream_counts x s
      (k := { (x.streams s).count with epochFramePending := false, gapBeforePending := false })
      rfl rfl rfl
    exact ⟨h1, h2, h3, h4, h5⟩
  · obtain ⟨h1, h2, h3, h4, h5⟩ := setStream_counts x s
      (k := { (x.streams s).count with gapBeforePending := true }) rfl rfl rfl
    exact ⟨h1, h2, h3, h4, h5⟩

theorem generateFrame_feed (x : SyntheticSource) (s : Stream) (f : Feed) (report : ServiceReport) :
    (x.generateFrame s f report).2.1 = (f.fill s (f.pipe.setup.stream s).payloadBytes true
      (x.payload s (f.pipe.setup.stream s) (x.streams s).logicalFrames)
      fun _ => x.completion s (f.pipe.setup.stream s).payloadBytes).1 := by
  unfold generateFrame
  dsimp only
  split <;> rfl

/-- The frame goes into the pipeline under the number the source gave it. -/
theorem generateFrame_keeps (hstart : Started c p) (h : InStep c p x f) {s : Stream}
    (hs : streamEnabled c.streamMask s = true) (report : ServiceReport) :
    InStep c p (x.generateFrame s f report).1 (x.generateFrame s f report).2.1 := by
  have hvalid := p.setup.layout_valid
  have hsetup := h.later.setup
  have hcounts := generateFrame_counts x s f report
  have hpay : ∀ n, x.payload s (f.pipe.setup.stream s) (UInt64.ofNat n) =
      framePayload c.protocolVersion (p.setup.stream s) s n := by
    intro n
    rw [hsetup, ← h.configuration]
    exact payload_eq hvalid n (h.itemCount s)
  have hlen : (x.payload s (f.pipe.setup.stream s) (x.streams s).logicalFrames).length =
      (f.pipe.setup.stream s).payloadBytes := by
    have hn := hpay (x.streams s).logicalFrames.toNat
    rw [UInt64.ofNat_toNat] at hn
    rw [hn, hsetup]
    exact length_framePayload c.protocolVersion hvalid s _
  obtain ⟨hreach, hstays, hclosed⟩ := Feed.fill_keeps h.reach s true hlen
    fun _ => x.completion s (f.pipe.setup.stream s).payloadBytes
  have hkept : Pipeline.Later p (x.generateFrame s f report).2.1.pipe := by
    rw [generateFrame_feed]
    exact h.later.trans hstays.later
  -- what is left depends on whether the pipeline still takes frames
  have hrest : ((x.generateFrame s f report).2.1.pipe.acceptingFrames = true →
      ∀ t, ((x.generateFrame s f report).1.streams t).logicalFrames =
        UInt64.ofNat ((x.generateFrame s f report).2.1.produced t)) ∧
      ∀ y ∈ (x.generateFrame s f report).2.1.handed, Made c.protocolVersion p.setup.layout y := by
    rw [generateFrame_feed]
    cases haccept : f.pipe.acceptingFrames with
    | false =>
      rw [hclosed haccept, hstays.acceptingFrames, haccept]
      exact ⟨fun hfalse => (by cases hfalse), h.frames⟩
    | true =>
      have hopen : f.Open s p.runId c.dataChecksumAlgorithm :=
        ⟨h.reach, h.later.accepts (hstart.accepts hs) haccept, hstart.runId⟩
      obtain ⟨-, hfilled⟩ := Feed.fill_spec hopen true hlen
        fun _ => x.completion s (f.pipe.setup.stream s).payloadBytes
      have hlogical := h.logical haccept
      refine ⟨fun _ t => ?_, hfilled.all h.frames fun _ => ?_⟩
      · rw [hfilled.produced]
        by_cases ht : t = s
        · subst ht
          rw [hcounts.own, Function.update_self, UInt64.ofNat_add, hlogical]
          rfl
        · rw [hcounts.other t ht, Function.update_of_ne ht, hlogical]
      · refine ⟨⟨rfl, ?_⟩, requestFlags_synthetic _ _, ?_⟩
        · simp only [completion, hlogical, h.coverage, UInt64.ofNat_mul]
        · dsimp only
          rw [hlogical]
          exact hpay _
  exact
    { reach := by
        rw [generateFrame_feed]
        exact hreach
      later := hkept
      configuration := hcounts.configuration.trans h.configuration
      itemCount := fun t => (hcounts.itemCount t).trans (h.itemCount t)
      coverage := fun t => (hcounts.coverage t).trans (h.coverage t)
      logical := hrest.1
      frames := hrest.2 }

theorem serviceLoop_keeps (hstart : Started c p) (fuel : ℕ) (h : InStep c p x f)
    (report : ServiceReport) :
    InStep c p (serviceLoop fuel x f report).1 (serviceLoop fuel x f report).2.1 := by
  induction fuel generalizing x f report with
  | zero => exact h
  | succ fuel ih =>
    unfold serviceLoop
    split
    · exact h
    · next s hselected =>
      split
      · exact h
      · -- a stream that is due is enabled
        have hdue := List.find?_some hselected
        have henabled : streamEnabled c.streamMask s = true := by
          unfold frameDue at hdue
          rw [h.configuration] at hdue
          by_contra hdisabled
          rw [if_pos (by simpa using hdisabled)] at hdue
          cases hdue
        have hmade := generateFrame_keeps hstart h henabled report
        have hturned : InStep c p { (x.generateFrame s f report).1 with nextStream := s.peer }
            (x.generateFrame s f report).2.1 :=
          ⟨hmade.reach, hmade.later, hmade.configuration, hmade.itemCount, hmade.coverage,
            hmade.logical, hmade.frames⟩
        exact ih hturned _

theorem service_keeps (hstart : Started c p) (h : InStep c p x f) (nowTicks : UInt64) :
    InStep c p (x.service nowTicks f).1 (x.service nowTicks f).2.1 := by
  unfold service
  split
  · exact h
  · have hwoken : InStep c p { x with
        serviceCalls := sat64 x.serviceCalls 1
        lastElapsedTicks := nowTicks - x.startClockTicks } f :=
      ⟨h.reach, h.later, h.configuration, h.itemCount, h.coverage, h.logical, h.frames⟩
    have hserved := serviceLoop_keeps hstart kSyntheticFramesPerLoop hwoken {}
    dsimp only
    split <;> exact hserved

/-- The calls of the others neither number a frame nor begin a run. -/
theorem call_keeps (h : InStep c p x f) {op : Op} (hforeign : op.foreign (fun _ => true) = true)
    (hguard : f.tracked.Guard anyCaller op) : InStep c p x (f.call op) := by
  have hlater : Pipeline.Later f.pipe (f.call op).pipe := by
    apply Tracked.step_later
    rintro runId checksum mask layout rfl
    cases hforeign
  exact
    { reach := h.reach.step hguard
      later := h.later.trans hlater
      configuration := h.configuration
      itemCount := h.itemCount
      coverage := h.coverage
      logical := fun haccept s => by
        rw [f.call_foreign hforeign rfl]
        exact h.logical (hlater.acceptingFrames haccept) s
      frames := h.frames }

end Run

end SyntheticSource

/-! ### What the host decodes -/

def AuxBankMode.host : AuxBankMode → Alignment.AuxBankMode
  | .disabled => .disabled
  | .input => .input

def RateProfile.host : RateProfile → Alignment.RateProfile
  | .adc1mhzGpio4mhz => .adc1MhzGpio4Mhz
  | .adc500khzGpio2mhz => .adc500KhzGpio2Mhz
  | .adc250khzGpio1mhz => .adc250KhzGpio1Mhz
  | .adc125khzGpio500khz => .adc125KhzGpio500Khz
  | .adc1mhzGpio1mhz => .adc1MhzGpio1Mhz

namespace SyntheticSource

open Window
open Host (blockKind)
open Host.Synthetic (validateSyntheticBlock)

/-- The header of a frame on the wire; the pipeline may have added flags. -/
structure Carries (h : Handed) (w : FrameHeader) : Prop where
  kind : w.kind = h.stream.frameKind
  sequence : w.sequence = h.sequence
  ticks : w.firstSampleTicks = h.completion.firstSampleTicks
  synthetic : w.flags &&& flagSynthetic = h.completion.flags &&& flagSynthetic

/-- The host decodes a block from the frame, knowing the configuration of the run. -/
inductive Decodes (validateControl : Host.V3Frame → Except Host.V3Error Unit) (l : RunLayout)
    (h : Handed) : Host.DataBlock → Prop
  | v1 {w : FrameHeader} {f : Host.Frame} {b : Host.DataBlock}
      (version : l.protocolVersion = V1.kProtocolVersion) (carries : Carries h w)
      (header : f.header = Host.Header.ofWire w) (payload : f.payload = h.payload)
      (decoded : Host.fromFrame f = some b) : Decodes validateControl l h b
  | v2 {w : FrameHeader} {f : Host.Frame} {configuration : Host.DAQConfiguration}
      {b : Host.DataBlock} (version : l.protocolVersion = V2.kProtocolVersion)
      (mode : configuration.auxBankMode = l.auxBankMode.host)
      (profile : configuration.rateProfile = l.rateProfile.host) (carries : Carries h w)
      (header : f.header = Host.Header.ofWire w) (payload : f.payload = h.payload)
      (decoded : Host.fromV2Frame f configuration = some b) : Decodes validateControl l h b
  | v3 {f : Host.V3Frame} {settings : Host.V3Settings} {b : Host.DataBlock}
      (version : l.protocolVersion = V3.kProtocolVersion)
      (mode : settings.auxBankMode = l.auxBankMode.host) (carries : Carries h f.header)
      (decoded : Host.decodeV3Block validateControl f settings = some b)
      (payload : b.payload = h.payload) : Decodes validateControl l h b

/-- What a decoded block has from the frame. -/
structure BlockOf (l : RunLayout) (h : Handed) (b : Alignment.Block) : Prop where
  kind : b.kind = blockKind h.stream.frameKind
  sequence : b.sequence = h.sequence.toNat
  ticks : b.firstSampleTicks = h.completion.firstSampleTicks.toNat
  payload : b.payload = h.payload
  synthetic : b.synthetic = decide (h.completion.flags &&& flagSynthetic ≠ 0)
  auxBankMode : b.auxBankMode = l.auxBankMode.host
  rateProfile : b.rateProfile = l.rateProfile.host
  version : b.protocolVersion = l.protocolVersion.toNat

theorem checked_eq {b b' : Host.DataBlock} {encoded : Option Wire.Bytes}
    (h : b.checked encoded = some b') : b' = b := by
  unfold Host.DataBlock.checked at h
  split at h
  · exact (Option.some.inj h).symm
  · cases h

theorem decodeV3Block_eq {validateControl : Host.V3Frame → Except Host.V3Error Unit}
    {f : Host.V3Frame} {settings : Host.V3Settings} {b : Host.DataBlock}
    (h : Host.decodeV3Block validateControl f settings = some b) :
    ∃ data, b = f.block settings data := by
  unfold Host.decodeV3Block at h
  split at h
  · cases h
  split at h
  · cases h
  rename_i data _
  refine ⟨data.payload, ?_⟩
  dsimp only at h
  cases hadc : decide (f.header.kind = FrameKind.adcData) with
  | true =>
    simp only [hadc, if_true] at h
    split at h
    · cases h
    split at h
    · cases h
    split at h
    · cases h
    · exact checked_eq h
  | false =>
    simp only [hadc, Bool.false_eq_true, if_false] at h
    split at h
    · cases h
    split at h
    · cases h
    split at h
    · cases h
    split at h
    · cases h
    · exact checked_eq h

/-- The fields of a frame of version 1 or 2. -/
theorem Carries.block {l : RunLayout} {h : Handed} {w : FrameHeader} {f : Host.Frame}
    (hcarries : Carries h w) (hheader : f.header = Host.Header.ofWire w)
    (hpayload : f.payload = h.payload) {version : ℕ} (hversion : version = l.protocolVersion.toNat)
    {mode : Alignment.AuxBankMode} (hmode : mode = l.auxBankMode.host)
    {profile : Alignment.RateProfile} (hprofile : profile = l.rateProfile.host) :
    BlockOf l h (f.block mode profile version).toBlock := by
  have hflags : Host.Header.hasFlag (Host.Header.ofWire w) Host.flagSynthetic =
      decide (w.flags &&& flagSynthetic ≠ 0) := by
    have hbits : (Host.Header.ofWire w).flagBits = w.flags.toNat := by
      have hlt := w.flags.toNat_lt
      unfold Host.Header.flagBits Host.Header.ofWire
      dsimp only
      omega
    unfold Host.Header.hasFlag
    rw [hbits, decide_eq_decide, ne_eq, ne_eq, not_iff_not, ← UInt16.toNat_inj, UInt16.toNat_and]
    rfl
  unfold Host.Frame.block
  rw [hheader]
  exact
    { kind := congrArg blockKind hcarries.kind
      sequence := (Int.toNat_natCast _).trans (congrArg UInt32.toNat hcarries.sequence)
      ticks := (Int.toNat_natCast _).trans (congrArg UInt64.toNat hcarries.ticks)
      payload := hpayload
      synthetic := by
        rw [← hcarries.synthetic]
        exact hflags
      auxBankMode := hmode
      rateProfile := hprofile
      version := hversion }

theorem Decodes.blockOf {validateControl : Host.V3Frame → Except Host.V3Error Unit} {l : RunLayout}
    (hvalid : l.valid = true) {h : Handed} {b : Host.DataBlock}
    (hdecodes : Decodes validateControl l h b) : BlockOf l h b.toBlock := by
  have hsampling := RunLayout.sampling_of_valid hvalid
  cases hdecodes with
  | v1 version carries header payload decoded =>
    rw [checked_eq decoded]
    rcases hsampling.version with ⟨-, hmode, hprofile⟩ | ⟨hother, -⟩ | ⟨hother, -⟩
    · exact carries.block header payload (by rw [version]; rfl) (by rw [hmode]; rfl)
        (by rw [hprofile]; rfl)
    · exact absurd (version.symm.trans hother) (by decide)
    · exact absurd (version.symm.trans hother) (by decide)
  | v2 version mode profile carries header payload decoded =>
    unfold Host.fromV2Frame at decoded
    dsimp only at decoded
    split at decoded
    · cases decoded
    split at decoded
    · cases decoded
    rw [checked_eq decoded]
    exact carries.block header payload (by rw [version]; rfl) mode profile
  | @v3 f settings b version mode carries decoded payload =>
    obtain ⟨data, rfl⟩ := decodeV3Block_eq decoded
    rcases hsampling.version with ⟨hother, -⟩ | ⟨hother, -⟩ | ⟨-, hprofile⟩
    · exact absurd (version.symm.trans hother) (by decide)
    · exact absurd (version.symm.trans hother) (by decide)
    · exact
        { kind := congrArg blockKind carries.kind
          sequence := congrArg UInt32.toNat carries.sequence
          ticks := congrArg UInt64.toNat carries.ticks
          payload := payload
          synthetic := by
            rw [← carries.synthetic]
            rfl
          auxBankMode := mode
          rateProfile := by
            rw [hprofile]
            rfl
          version := by
            rw [version]
            rfl }

/-! ### Agreement -/

section Agreement

open Host.Synthetic (expected firstIndex validateSyntheticBlock validateSyntheticBlock_ok
  periodic_adcItem periodic_v3AdcItem periodic_gpioItem)

variable {c : Configuration} {l : RunLayout} {h : Handed} {b : Alignment.Block}

theorem period_dvd (profile : RateProfile) : (timingFor profile).adcPairPeriodTicks ∣ 64 ∧
    (timingFor profile).gpioSamplePeriodTicks ∣ 64 := by
  cases profile <;> decide

theorem itemPeriod_dvd (hvalid : l.valid = true) (s : Stream) :
    (l.streams s).itemPeriodTicks ∣ 64 := by
  have hsampling := RunLayout.sampling_of_valid hvalid
  cases s with
  | adc => exact hsampling.adcPeriod ▸ (period_dvd l.rateProfile).1
  | gpio => exact hsampling.gpioPeriod ▸ (period_dvd l.rateProfile).2

/-- The block counts and times its samples as the layout does. -/
theorem BlockOf.sampling (hvalid : l.valid = true) (hb : BlockOf l h b) :
    b.itemBytes = (l.streams h.stream).itemBytes ∧
      b.periodTicks = (l.streams h.stream).itemPeriodTicks := by
  have hsampling := RunLayout.sampling_of_valid hvalid
  unfold Alignment.Block.itemBytes Alignment.Block.periodTicks
  rw [hb.kind, hb.auxBankMode, hb.rateProfile]
  cases h.stream with
  | adc =>
    refine ⟨hsampling.adcBytes.symm, ?_⟩
    rw [hsampling.adcPeriod]
    cases l.rateProfile <;> rfl
  | gpio =>
    rw [hsampling.gpioBytes, hsampling.gpioPeriod]
    refine ⟨?_, ?_⟩
    · cases l.auxBankMode <;> rfl
    · cases l.rateProfile <;> rfl

theorem BlockOf.itemCount (hvalid : l.valid = true) (hb : BlockOf l h b) {version : UInt8}
    (hmade : Made version l h) : b.itemCount = (l.streams h.stream).itemCount := by
  obtain ⟨⟨-, hwidth, -⟩, hbytes, -⟩ :=
    FrameLayout.valid_iff.mp (RunLayout.frameLayout_valid hvalid h.stream)
  unfold Alignment.Block.itemCount
  rw [hb.payload, hmade.payload, length_framePayload version hvalid, (hb.sampling hvalid).1, hbytes,
    Nat.mul_div_cancel _ hwidth]

/-- The timestamp is that of a whole sample, whose index the host knows modulo every period. -/
theorem BlockOf.index (hvalid : l.valid = true) (hb : BlockOf l h b) {version : UInt8}
    (hmade : Made version l h) : b.firstSampleTicks % b.periodTicks = 0 ∧
      firstIndex b % 2048 = h.number * (l.streams h.stream).itemCount % 2048 := by
  have hticks : b.firstSampleTicks = h.number * (l.streams h.stream).itemCount *
      (l.streams h.stream).itemPeriodTicks % 2 ^ 64 := by
    rw [hb.ticks, hmade.grid.ticks, UInt64.toNat_ofNat', RunLayout.coverage_eq hvalid, Nat.mul_assoc]
  have hpos := RunLayout.period_pos hvalid h.stream
  obtain ⟨r, hr⟩ := itemPeriod_dvd hvalid h.stream
  unfold firstIndex
  rw [hticks, (hb.sampling hvalid).2]
  generalize (l.streams h.stream).itemPeriodTicks = period at hr hpos ⊢
  generalize h.number * (l.streams h.stream).itemCount = index
  -- 2 ^ 64 is so many times 2048 sample periods
  have hwrap : (2 : ℕ) ^ 64 = 2048 * (r * 2 ^ 47) * period := by
    have hpow : (2 : ℕ) ^ 64 = 64 * 2 ^ 58 := by norm_num
    rw [hpow, hr]
    ring
  rw [hwrap, Nat.mul_mod_mul_right]
  refine ⟨Nat.mul_mod_left _ _, ?_⟩
  rw [Nat.mul_div_cancel _ hpos, Nat.mod_mul_right_mod]

theorem periodic_expected (b : Alignment.Block) (pattern : Host.Synthetic.SyntheticGPIOPattern) :
    Function.Periodic (expected b pattern) 2048 := by
  unfold expected
  split
  · split
    · exact periodic_v3AdcItem
    · exact periodic_adcItem
  · exact (periodic_gpioItem _ _).nat_mul 8

/-- What the host expects of the block, from the index the firmware counts with. -/
theorem BlockOf.window (hvalid : l.valid = true) (hb : BlockOf l h b) {version : UInt8}
    (hmade : Made version l h) (pattern : Host.Synthetic.SyntheticGPIOPattern) (n : ℕ) :
    items (expected b pattern) (firstIndex b) n =
      items (expected b pattern) (h.number * (l.streams h.stream).itemCount) n := by
  rw [← items_mod (periodic_expected b pattern), (hb.index hvalid hmade).2,
    items_mod (periodic_expected b pattern)]

/-- The block is accepted, and it would be with no other samples. -/
def Agrees (b : Alignment.Block) (pattern : Host.Synthetic.SyntheticGPIOPattern) : Prop :=
  validateSyntheticBlock b pattern = .ok () ∧
    ∀ samples, ({ b with payload := samples } : Alignment.Block).itemCount = b.itemCount →
      validateSyntheticBlock { b with payload := samples } pattern = .ok () → samples = b.payload

/-- Acceptance leaves no choice, so agreement is that the firmware's samples are the host's. -/
theorem BlockOf.agrees_iff (hvalid : l.valid = true) (hb : BlockOf l h b) {version : UInt8}
    (hmade : Made version l h) (pattern : Host.Synthetic.SyntheticGPIOPattern) :
    Agrees b pattern ↔ framePayload version (l.streams h.stream) h.stream h.number =
      items (expected b pattern) (h.number * (l.streams h.stream).itemCount)
        (l.streams h.stream).itemCount := by
  have hsynthetic : b.synthetic = true := by
    rw [hb.synthetic]
    exact decide_eq_true hmade.synthetic
  have hcount := hb.itemCount hvalid hmade
  have hok : validateSyntheticBlock b pattern = .ok () ↔ b.payload =
      items (expected b pattern) (firstIndex b) b.itemCount := by
    rw [validateSyntheticBlock_ok]
    exact ⟨fun h => h.2.2, fun h => ⟨hsynthetic, Or.inr (hb.index hvalid hmade).1, h⟩⟩
  rw [← hb.window hvalid hmade, ← hmade.payload, ← hb.payload, ← hcount, ← hok]
  refine ⟨fun h => h.1, fun haccepted => ⟨haccepted, ?_⟩⟩
  intro samples hsame hother
  have hsamples := (validateSyntheticBlock_ok.mp hother).2.2
  rw [hsame] at hsamples
  exact hsamples.trans (hok.mp haccepted).symm

/-- Sample by sample, the two implementations agree where the samples of 16 bits of version 2
are left out. -/
theorem BlockOf.samples (hvalid : l.valid = true) (hb : BlockOf l h b) {version : UInt8}
    (hversion : version = V3.kProtocolVersion ↔ l.protocolVersion = V3.kProtocolVersion)
    (hmade : Made version l h)
    (hgood : ¬(l.protocolVersion = V2.kProtocolVersion ∧ h.stream = .gpio ∧
      l.auxBankMode = .input)) :
    framePayload version (l.streams h.stream) h.stream h.number =
      items (expected b .counter) (h.number * (l.streams h.stream).itemCount)
        (l.streams h.stream).itemCount := by
  have hsampling := RunLayout.sampling_of_valid hvalid
  have hthree : b.protocolVersion = 3 ↔ version = V3.kProtocolVersion := by
    rw [hb.version, hversion, ← UInt8.toNat_inj]
    rfl
  have hparity : b.sequence % 2 = h.number % 2 := by
    rw [hb.sequence, hmade.grid.sequence, UInt32.toNat_ofNat']
    omega
  unfold framePayload
  apply items_congr
  intro i _
  generalize h.number * (l.streams h.stream).itemCount + i = k
  unfold expected
  rw [hb.kind, hb.auxBankMode]
  cases hs : h.stream with
  | adc =>
    dsimp only [Stream.frameKind]
    have hkind : blockKind FrameKind.adcData = .adcData := rfl
    rw [adcPair_eq, hkind]
    simp only [hthree]
    split <;> rfl
  | gpio =>
    dsimp only [Stream.frameKind]
    have hkind : blockKind FrameKind.gpioData = .gpioData := rfl
    rw [hkind]
    dsimp only
    by_cases hv3 : version = V3.kProtocolVersion
    · have hwidth : (l.streams .gpio).itemBytes = Host.Synthetic.itemBytes l.auxBankMode.host := by
        rw [hsampling.gpioBytes]
        cases l.auxBankMode <;> rfl
      rw [if_pos (hthree.mpr hv3), hv3, hwidth]
      exact gpioSample_v3 _ hparity k
    · have hmode : l.auxBankMode = .disabled := by
        rcases hsampling.version with ⟨-, hmode, -⟩ | ⟨hv2, -⟩ | ⟨hother, -⟩
        · exact hmode
        · cases hmode : l.auxBankMode with
          | disabled => rfl
          | input => exact absurd ⟨hv2, hs, hmode⟩ hgood
        · exact absurd (hversion.mpr hother) hv3
      rw [if_neg (fun h => hv3 (hthree.mp h)), hsampling.gpioBytes, hmode]
      exact gpioSample_narrow hv3 _ k

/-- No payload of samples of 16 bits is right in version 2. -/
theorem BlockOf.wide (hvalid : l.valid = true) (hb : BlockOf l h b) {version : UInt8}
    (hversion : version = V3.kProtocolVersion ↔ l.protocolVersion = V3.kProtocolVersion)
    (hv2 : l.protocolVersion = V2.kProtocolVersion) (hs : h.stream = .gpio)
    (hmode : l.auxBankMode = .input) :
    framePayload version (l.streams h.stream) h.stream h.number ≠
      items (expected b .counter) (h.number * (l.streams h.stream).itemCount)
        (l.streams h.stream).itemCount := by
  have hsampling := RunLayout.sampling_of_valid hvalid
  have hv3 : version ≠ V3.kProtocolVersion := by
    rw [ne_eq, hversion, hv2]
    decide
  have hwidth : (l.streams .gpio).itemBytes = 2 := by
    rw [hsampling.gpioBytes, hmode]
    rfl
  have hitems : (l.streams .gpio).itemCount = 2024 := by
    rcases hsampling.version with ⟨hother, -⟩ | ⟨-, hitems⟩ | ⟨hother, -⟩
    · exact absurd (hv2.symm.trans hother) (by decide)
    · rw [hitems, hmode]
      rfl
    · exact absurd (hv2.symm.trans hother) (by decide)
  have hexpected : expected b .counter = Host.Synthetic.gpioItem .input .counter := by
    unfold expected
    rw [hb.kind, hb.auxBankMode, hb.version, hs, hmode, hv2]
    rfl
  rw [hs, hexpected, hitems]
  unfold framePayload
  rw [hitems, hwidth]
  intro heq
  have hall := (items_eq_iff (fun k => length_gpioSample version (Or.inr rfl) _ _)
    (Host.Synthetic.length_gpioItem .input .counter) _ _).mp heq
  have hfirst := hall 0 (by decide)
  have hsecond := hall 1 (by decide)
  generalize hindex : h.number * 2024 = k at hfirst hsecond
  rw [Nat.add_zero] at hfirst
  exact gpioSample_wide hv3 _ (by omega) hfirst hsecond

/-- A GPIO frame of version 2 does decode. -/
theorem decodes_v2 (validateControl : Host.V3Frame → Except Host.V3Error Unit)
    (hvalid : l.valid = true) (hv2 : l.protocolVersion = V2.kProtocolVersion) {version : UInt8}
    (hmade : Made version l h) (hs : h.stream = .gpio) (configuration : Host.DAQConfiguration)
    (hmode : configuration.auxBankMode = l.auxBankMode.host)
    (hprofile : configuration.rateProfile = l.rateProfile.host) :
    ∃ b, Decodes validateControl l h b := by
  have hsampling := RunLayout.sampling_of_valid hvalid
  have hsynthetic : h.completion.flags &&& flagSynthetic = 1 := by
    have hne := hmade.synthetic
    rw [ne_eq, ← UInt16.toNat_inj, UInt16.toNat_and] at hne
    rw [← UInt16.toNat_inj, UInt16.toNat_and]
    have hbit := Nat.and_two_pow_sub_one_eq_mod h.completion.flags.toNat 1
    have hone : flagSynthetic.toNat = 2 ^ 1 - 1 := rfl
    rw [hone, hbit] at hne ⊢
    have hzero : (0 : UInt16).toNat = 0 := rfl
    have hlit : (1 : UInt16).toNat = 1 := rfl
    omega
  let w : FrameHeader :=
    { kind := FrameKind.gpioData
      flags := 1
      runId := 1
      sequence := h.sequence
      firstSampleTicks := h.completion.firstSampleTicks
      itemCount := UInt32.ofNat (l.streams .gpio).itemCount
      version := V2.kProtocolVersion }
  let f : Host.Frame := { header := Host.Header.ofWire w, payload := h.payload, checksum := 0 }
  have hcarries : Carries h w := by
    refine ⟨?_, rfl, rfl, ?_⟩
    · rw [hs]
      rfl
    · rw [hsynthetic]
      exact (show (1 : UInt16) &&& flagSynthetic = 1 by decide)
  let b := f.block configuration.auxBankMode configuration.rateProfile 2
  have hb : BlockOf l h b.toBlock :=
    hcarries.block rfl rfl (by rw [hv2]; rfl) hmode hprofile
  have hkind : blockKind f.header.kind = .gpioData := rfl
  have hcount : (l.streams .gpio).itemCount =
      Host.itemsPerFrame configuration.auxBankMode .gpioData := by
    rcases hsampling.version with ⟨hother, -⟩ | ⟨-, hitems⟩ | ⟨hother, -⟩
    · exact absurd (hv2.symm.trans hother) (by decide)
    · rw [hitems, hmode]
      cases l.auxBankMode <;> rfl
    · exact absurd (hv2.symm.trans hother) (by decide)
  have hitems : f.header.itemCount = Host.itemsPerFrame configuration.auxBankMode .gpioData := by
    show ((UInt32.ofNat (l.streams .gpio).itemCount).toNat : ℤ) = _
    rw [hcount]
    cases configuration.auxBankMode <;> rfl
  have hticks : f.header.firstSampleTicks %
      (Host.itemPeriodTicks configuration.rateProfile .gpioData : ℕ) = 0 := by
    have haligned := (hb.index hvalid hmade).1
    have hperiod : b.periodTicks =
        Host.itemPeriodTicks configuration.rateProfile .gpioData := rfl
    rw [hperiod, hb.ticks] at haligned
    show ((h.completion.firstSampleTicks.toNat : ℕ) : ℤ) % _ = 0
    exact_mod_cast haligned
  have hlength : h.payload.length = Host.framePayloadBytes configuration.auxBankMode .gpioData := by
    obtain ⟨-, hbytes, -⟩ := FrameLayout.valid_iff.mp (RunLayout.frameLayout_valid hvalid .gpio)
    rw [hmade.payload, length_framePayload version hvalid, hs, hbytes, hcount, hsampling.gpioBytes,
      hmode]
    cases l.auxBankMode <;> rfl
  refine ⟨b, .v2 hv2 hmode hprofile hcarries rfl rfl (?_ : Host.fromV2Frame f configuration = some b)⟩
  unfold Host.fromV2Frame
  rw [hkind]
  dsimp only
  rw [if_neg (not_not.mpr hitems), if_neg (not_not.mpr hticks)]
  unfold Host.DataBlock.checked
  apply if_pos
  have hsequence : b.sequence < 2 ^ 32 := hb.sequence ▸ h.sequence.toNat_lt
  have hfits : b.firstSampleTicks < 2 ^ 64 := hb.ticks ▸ h.completion.firstSampleTicks.toNat_lt
  unfold Host.DataBlock.check
  rw [decide_eq_true hsequence, decide_eq_true hfits]
  have hoverrun : b.overrunBefore = false := by
    have hflags : (Host.Header.ofWire w).flagBits = 1 := rfl
    show (Host.Header.ofWire w).hasFlag flagOverrunBefore = false
    unfold Host.Header.hasFlag
    rw [hflags]
    decide
  have hrun : b.runId = 1 := rfl
  have hsum : Reader.ReaderState.supportedChecksum b.checksumAlgorithm = true := rfl
  have hdata : b.kind = .gpioData := rfl
  have hnumber : b.protocolVersion = 2 := rfl
  have hsamples : b.payload.length = Host.framePayloadBytes b.auxBankMode .gpioData := hlength
  rw [hoverrun, hrun, hsum, hdata, hnumber, hsamples]
  simp only [Bool.and_eq_true, Bool.or_eq_true, decide_eq_true_eq, Bool.not_false, true_or, ne_eq,
    and_true]
  exact ⟨⟨⟨by decide, by decide⟩, Or.inl (by decide)⟩, by decide, rfl⟩

end Agreement

/-! ### Runs -/

theorem admitted_version {l l' : RunLayout} (h : l.admitted = some l') :
    l'.protocolVersion = l.protocolVersion := by
  unfold RunLayout.admitted at h
  split at h
  · rw [Option.some.inj h]
  · cases h

/-- The layout of a configuration has version 3 when the configuration has. -/
theorem runLayout_v3 {c : Configuration} {l : RunLayout} (h : c.runLayout = some l) :
    c.protocolVersion = V3.kProtocolVersion ↔ l.protocolVersion = V3.kProtocolVersion := by
  unfold Configuration.runLayout at h
  split at h
  · next hv3 =>
    unfold publicV3Layout at h
    split at h
    · exact ⟨fun _ => (admitted_version h).trans rfl, fun _ => hv3⟩
    · cases h
  split at h
  · next hv3 _ =>
    rw [← Option.some.inj h]
    exact ⟨fun h => absurd h hv3, fun h => absurd h (by decide)⟩
  · next hv3 _ =>
    unfold experimental at h
    split at h
    · rw [admitted_version h]
      exact ⟨fun h => absurd h hv3,
        fun h => absurd (show V2.kProtocolVersion = V3.kProtocolVersion from h) (by decide)⟩
    · cases h

/-- START: the pipeline begins a run, and the source after it. -/
def start (x : SyntheticSource) (f : Feed) (runId : UInt32) (c : Configuration) (l : RunLayout)
    (nowTicks : UInt64) : SyntheticSource × Feed :=
  let started := f.call (.startRun runId c.dataChecksumAlgorithm c.streamMask l)
  ((x.startRun runId c nowTicks started.pipe).1, started)

/-- Both accept the run, and nothing was handed over before. -/
structure Starts (x : SyntheticSource) (f : Feed) (runId : UInt32) (c : Configuration)
    (l : RunLayout) (nowTicks : UInt64) : Prop where
  reach : Reach anyCaller f.tracked
  handed : f.handed = []
  layout : c.runLayout = some l
  packet : (f.pipe.startRun runId c.dataChecksumAlgorithm c.streamMask l).2 = .ok
  source : (x.startRun runId c nowTicks (x.start f runId c l nowTicks).2.pipe).2 = .ok

section Start

variable {x : SyntheticSource} {f : Feed} {runId : UInt32} {c : Configuration} {l : RunLayout}
  {nowTicks : UInt64}

theorem startRun_started {p : Pipeline}
    (hok : (p.startRun runId c.dataChecksumAlgorithm c.streamMask l).2 = .ok) :
    Started c (p.startRun runId c.dataChecksumAlgorithm c.streamMask l).1 ∧
      (p.startRun runId c.dataChecksumAlgorithm c.streamMask l).1.setup.layout = l := by
  unfold Pipeline.startRun at hok ⊢
  split at hok
  · cases hok
  next hrun =>
  split at hok
  · cases hok
  next hquiet =>
  split at hok
  · cases hok
  next hidle =>
  split at hok
  · next hsum =>
    split at hok
    · cases hok
    next hmask =>
    split at hok
    · next hlayout =>
      rw [if_neg hrun, if_neg hquiet, if_neg hidle, dif_pos hsum, if_neg hmask, dif_pos hlayout]
      refine ⟨⟨rfl, ?_, rfl, rfl⟩, rfl⟩
      simp only [Bool.or_eq_true, decide_eq_true_eq, not_or] at hrun
      exact hrun.1
    · cases hok
  · cases hok

theorem startRun_source {p : Pipeline} (hok : (x.startRun runId c nowTicks p).2 = .ok) :
    (x.startRun runId c nowTicks p).1.configuration = c ∧
      ∀ s, ((x.startRun runId c nowTicks p).1.streams s) =
        { itemCount := (p.setup.stream s).itemCount
          coverageTicks := (p.setup.stream s).coverageTicks } := by
  unfold startRun at hok ⊢
  generalize (if c.protocolVersion = V3.kProtocolVersion then kRawFrameBytes else kDataFrameBytes) =
    frameBytes at hok ⊢
  split at hok
  · cases hok
  next hrun =>
  split at hok
  · cases hok
  next hconfiguration =>
  split at hok
  · cases hok
  next hready =>
  rw [if_neg hrun, if_neg hconfiguration, if_neg hready]
  exact ⟨rfl, fun _ => rfl⟩

theorem Starts.inStep (h : Starts x f runId c l nowTicks) :
    Started c (x.start f runId c l nowTicks).2.pipe ∧
      (x.start f runId c l nowTicks).2.pipe.setup.layout = l ∧
      InStep c (x.start f runId c l nowTicks).2.pipe (x.start f runId c l nowTicks).1
        (x.start f runId c l nowTicks).2 := by
  obtain ⟨hstarted, hlayout⟩ := startRun_started h.packet
  obtain ⟨hconfiguration, hstreams⟩ := startRun_source h.source
  refine ⟨hstarted, hlayout, ?_⟩
  exact
    { reach := Feed.reach_call (.startRun runId c.dataChecksumAlgorithm c.streamMask l) h.reach trivial
      later := Pipeline.Later.refl _
      configuration := hconfiguration
      itemCount := fun s => congrArg StreamState.itemCount (hstreams s)
      coverage := fun s => congrArg StreamState.coverageTicks (hstreams s)
      logical := fun _ s => by
        have hproduced : (x.start f runId c l nowTicks).2.produced s = 0 := by
          have hhistory : (x.start f runId c l nowTicks).2.tracked.history = {} := if_pos h.packet
          unfold Feed.produced
          rw [hhistory]
        rw [hproduced]
        exact congrArg StreamState.logicalFrames (hstreams s)
      frames := fun y hy => absurd (h.handed ▸ hy) List.not_mem_nil }

/-- Every frame of a run is that of its number. -/
theorem run_made (h : Starts x f runId c l nowTicks) {turns : List (Turn Event)}
    (hfair : producer.Fair (fun _ _ => True) (x.start f runId c l nowTicks) turns) :
    ∀ y ∈ (producer.run (x.start f runId c l nowTicks) turns).2.handed,
      Made c.protocolVersion l y := by
  obtain ⟨hstarted, hlayout, hstep⟩ := h.inStep
  have hown : ∀ y g e, InStep c (x.start f runId c l nowTicks).2.pipe y g →
      (fun _ _ => True : SyntheticSource → Event → Prop) y e →
      InStep c (x.start f runId c l nowTicks).2.pipe (producer.act y g e).1 (producer.act y g e).2 := by
    intro y g e hy _
    cases e with
    | service nowTicks => exact service_keeps hstarted hy nowTicks
    | stop => exact ⟨hy.reach, hy.later, hy.configuration, hy.itemCount, hy.coverage, hy.logical,
        hy.frames⟩
  have hrun := producer.run_rule hown (fun _ _ _ hy hforeign hguard => call_keeps hy hforeign hguard)
    hstep hfair
  intro y hy
  have hmade := hrun.frames y hy
  rw [hlayout] at hmade
  exact hmade

/-- In every run, whatever the version, the layout and the sequence number: the host accepts the
samples of a frame, and no others in their place, except for GPIO samples of 16 bits in
version 2. -/
theorem synthetic_agreement (h : Starts x f runId c l nowTicks) {turns : List (Turn Event)}
    (hfair : producer.Fair (fun _ _ => True) (x.start f runId c l nowTicks) turns)
    (validateControl : Host.V3Frame → Except Host.V3Error Unit) :
    ∀ y ∈ (producer.run (x.start f runId c l nowTicks) turns).2.handed,
      ∀ b, Decodes validateControl l y b →
        (Agrees b.toBlock .counter ↔ ¬(l.protocolVersion = V2.kProtocolVersion ∧
          y.stream = .gpio ∧ l.auxBankMode = .input)) := by
  intro y hy b hdecodes
  have hvalid := c.runLayout_valid h.layout
  have hversion := runLayout_v3 h.layout
  have hmade := run_made h hfair y hy
  have hb := hdecodes.blockOf hvalid
  rw [hb.agrees_iff hvalid hmade]
  refine ⟨?_, hb.samples hvalid hversion hmade⟩
  rintro hsame ⟨hv2, hs, hmode⟩
  exact hb.wide hvalid hversion hv2 hs hmode hsame

end Start

/-! ### One run for each width -/

/-- GPIO alone in version 2 at the highest rate. -/
def gpioRun (mode : AuxBankMode) : Configuration where
  streamMask := 2
  source := Source.synthetic
  auxBankMode := if mode = .input then 1 else 0
  protocolVersion := V2.kProtocolVersion

def gpioLayout (mode : AuxBankMode) : RunLayout :=
  experimentalLayout mode .adc1mhzGpio4mhz false

/-- What the client configured for it. -/
def gpioConfiguration (mode : AuxBankMode) : Host.DAQConfiguration where
  adc := false
  gpio := true
  source := .synthetic
  dataChecksumAlgorithm := ChecksumAlgorithm.adler32
  auxBankMode := mode.host
  rateProfile := .adc1MhzGpio4Mhz
  controlOnly _ h := by cases h
  auxiliary _ := rfl
  checksum := rfl

def gpioSource : SyntheticSource := { mode := .realtime }

abbrev gpioStart (mode : AuxBankMode) : SyntheticSource × Feed :=
  gpioSource.start { tracked := Tracked.initial } 1 (gpioRun mode) (gpioLayout mode) 0

/-- One visit, when the time of the first frame is over. -/
def gpioTurns (mode : AuxBankMode) : List (Turn Event) :=
  [.own (.service (UInt64.ofNat ((gpioLayout mode).coverage .gpio)))]

theorem gpioRun_starts (mode : AuxBankMode) :
    Starts gpioSource { tracked := Tracked.initial } 1 (gpioRun mode) (gpioLayout mode) 0 where
  reach := .initial
  handed := rfl
  layout := by cases mode <;> rfl
  packet := by cases mode <;> decide +kernel
  source := by cases mode <;> decide +kernel

theorem gpioRun_fair (mode : AuxBankMode) :
    producer.Fair (fun _ _ => True) (gpioStart mode) (gpioTurns mode) := ⟨trivial, trivial⟩

theorem gpioRun_frame (mode : AuxBankMode) :
    ∃ y ∈ (producer.run (gpioStart mode) (gpioTurns mode)).2.handed,
      y.stream = .gpio ∧ y.number = 0 := by
  have hlog : (producer.run (gpioStart mode) (gpioTurns mode)).2.handed.map
      (fun y => (y.stream, y.number)) = [(.gpio, 0)] := by
    cases mode <;> decide +kernel
  have hmem : (.gpio, 0) ∈ (producer.run (gpioStart mode) (gpioTurns mode)).2.handed.map
      (fun y => (y.stream, y.number)) := by
    rw [hlog]
    exact List.mem_singleton_self _
  obtain ⟨y, hy, heq⟩ := List.mem_map.mp hmem
  exact ⟨y, hy, congrArg Prod.fst heq, congrArg Prod.snd heq⟩

theorem gpioRun_made (mode : AuxBankMode) :
    ∀ y ∈ (producer.run (gpioStart mode) (gpioTurns mode)).2.handed,
      Made (gpioRun mode).protocolVersion (gpioLayout mode) y :=
  run_made (gpioRun_starts mode) (gpioRun_fair mode)

/-- Samples of 8 bits agree. -/
theorem synthetic_agreement_narrow :
    ∃ y ∈ (producer.run (gpioStart .disabled) (gpioTurns .disabled)).2.handed,
      ∃ b, Decodes (fun _ => .ok ()) (gpioLayout .disabled) y b ∧ Agrees b.toBlock .counter := by
  obtain ⟨y, hy, hs, -⟩ := gpioRun_frame .disabled
  obtain ⟨b, hdecodes⟩ := decodes_v2 (fun _ => .ok ()) ((gpioRun .disabled).runLayout_valid
    (gpioRun_starts .disabled).layout) rfl (gpioRun_made .disabled y hy) hs
    (gpioConfiguration .disabled) rfl rfl
  have hagree : ∀ mode, ∀ y ∈ (producer.run (gpioStart mode) (gpioTurns mode)).2.handed,
      ∀ b, Decodes (fun _ => .ok ()) (gpioLayout mode) y b →
        (Agrees b.toBlock .counter ↔ ¬((gpioLayout mode).protocolVersion = V2.kProtocolVersion ∧
          y.stream = .gpio ∧ (gpioLayout mode).auxBankMode = .input)) :=
    fun mode => synthetic_agreement (gpioRun_starts mode) (gpioRun_fair mode) (fun _ => .ok ())
  refine ⟨y, hy, b, hdecodes, (hagree .disabled y hy b hdecodes).mpr ?_⟩
  rintro ⟨-, -, hmode⟩
  cases hmode

/-- Already the first frame of samples of 16 bits is refused: its first high byte is 0, and the
host expects 0x55. -/
theorem synthetic_refused : ∃ y ∈ (producer.run (gpioStart .input) (gpioTurns .input)).2.handed,
    y.stream = .gpio ∧ y.number = 0 ∧
      ∃ b, Decodes (fun _ => .ok ()) (gpioLayout .input) y b ∧
        validateSyntheticBlock b.toBlock .counter ≠ .ok () := by
  obtain ⟨y, hy, hs, hn⟩ := gpioRun_frame .input
  have hvalid := (gpioRun .input).runLayout_valid (gpioRun_starts .input).layout
  have hmade := gpioRun_made .input y hy
  obtain ⟨b, hdecodes⟩ := decodes_v2 (fun _ => .ok ()) hvalid rfl hmade hs
    (gpioConfiguration .input) rfl rfl
  refine ⟨y, hy, hs, hn, b, hdecodes, fun haccepted => ?_⟩
  have hb := hdecodes.blockOf hvalid
  have hsamples := (Host.Synthetic.validateSyntheticBlock_ok.mp haccepted).2.2
  rw [hb.itemCount hvalid hmade, hb.window hvalid hmade, hb.payload, hmade.payload] at hsamples
  exact hb.wide hvalid (runLayout_v3 (gpioRun_starts .input).layout) rfl hs rfl hsamples

end SyntheticSource

end ThingDaq
