import ThingDaq.Host.ModelsV3

/-!
# The responses of version 3

The rest of `models_v3.py`: the tables of a device's capabilities, its state with the counters
and diagnostics of a status, and the response that carries a record, `V3Response`, with
`decode_v3_response`.  The frame codec decodes every response it meets, so the check of control
payloads that `decodeV3Frame` takes is here the repository's own.

## Main results

* `records_inverse` — reading is the inverse of writing, for every record and for responses.
-/

namespace ThingDaq.Host.ModelsV3

open Wire

/-! ### Capabilities -/

/-- `_LIMITS` -/
def canonicalLimits : List ℤ := [4108, 2048, 4048, 4048, 1012, 4048, 2024]

/-- `_validate_limits` -/
def validateLimits (limits : List ℤ) : Except V3Error Unit := do
  require (∀ p ∈ limits.zip canonicalLimits, 0 < p.1 ∧ p.1 ≤ p.2)
    "advertised limit outside canonical bounds"
  match limits with
  | [frame, control, logical, encoded, adc, gpio8, gpio16] =>
    require (48 + 1404 ≤ control ∧ 48 + 12 + encoded ≤ frame ∧ adc * 4 ≤ logical ∧ gpio8 ≤ logical ∧
      gpio16 * 2 ≤ logical) "inconsistent device limits"
  | _ => reject "limit count"

/-- `bytes.ljust` with zeros. -/
def ljust (b : Bytes) (size : ℕ) : Bytes := b ++ List.replicate (size - b.length) 0

/-- `_table` -/
def table (data : Bytes) (count : ℤ) (capacity size : ℕ) : Except V3Error (List Bytes) := do
  require (1 ≤ count ∧ count ≤ capacity) "table count outside capacity"
  require ((data.drop (count.toNat * size)).all (· = 0)) "unused table records must be zero"
  let records := rows data size count.toNat
  require records.Nodup "duplicate table records"
  return records

structure V3Capabilities where
  defaults : V3Settings
  cpuProfiles : List V3Clocks
  rateProfiles : List V3Rate
  configurations : List V3Settings
  maxDataFrameBytes : ℤ := 4108
  maxControlFrameBytes : ℤ := 2048
  maxLogicalPayloadBytes : ℤ := 4048
  maxEncodedSampleBytes : ℤ := 4048
  maxAdcPairs : ℤ := 1012
  maxGpio8Samples : ℤ := 4048
  maxGpio16Samples : ℤ := 2024
  deriving DecidableEq

namespace V3Capabilities

/-- The integers of `CAPABILITIES_RESPONSE_STRUCT_FORMAT`; the defaults and the tables follow. -/
def widths : List ℕ := [1, 1, 2, 1, 1, 1, 1, 4, 4, 4, 4, 4, 4, 4]

def limits (x : V3Capabilities) : List ℤ :=
  [x.maxDataFrameBytes, x.maxControlFrameBytes, x.maxLogicalPayloadBytes, x.maxEncodedSampleBytes,
    x.maxAdcPairs, x.maxGpio8Samples, x.maxGpio16Samples]

def values (x : V3Capabilities) : List ℤ :=
  [0, 0, 0, (x.cpuProfiles.length : ℤ), x.rateProfiles.length, x.configurations.length, 0] ++ x.limits

def toPayload (x : V3Capabilities) : Except V3Error Bytes := do
  validateLimits x.limits
  require ((1 ≤ x.cpuProfiles.length ∧ x.cpuProfiles.length ≤ 2) ∧
    (1 ≤ x.rateProfiles.length ∧ x.rateProfiles.length ≤ 1) ∧
    (1 ≤ x.configurations.length ∧ x.configurations.length ≤ 64)) "table count outside capacity"
  let cpus ← x.cpuProfiles.mapM V3Clocks.toBytes
  let rates ← x.rateProfiles.mapM V3Rate.toBytes
  let settings ← x.configurations.mapM V3Settings.toBytes
  require (cpus.Nodup ∧ rates.Nodup ∧ settings.Nodup) "duplicate table records"
  let defaults ← x.defaults.toBytes
  require (x.defaults ∈ x.configurations) "defaults absent from configurations"
  require (∀ r ∈ x.configurations, r.cpuProfile ∈ x.cpuProfiles.map V3Clocks.cpuProfile ∧
    r.rateProfile ∈ x.rateProfiles.map V3Rate.rateProfile) "tuple references absent profile"
  let front ← packRecord widths x.values
  return front ++ defaults ++ ljust cpus.flatten 48 ++ ljust rates.flatten 20 ++
    ljust settings.flatten 1280

def fromPayload (payload : Bytes) : Except V3Error V3Capabilities := do
  let data ← success payload 1404
  match unpack widths data with
  | [_, _, _, nc, nr, ns, reserved, frame, control, logical, encoded, adc, gpio8, gpio16] =>
    require (reserved = 0) "nonzero capability reserved field"
    validateLimits [frame, control, logical, encoded, adc, gpio8, gpio16]
    let cpuRecords ← table (slice data 56 48) nc 2 24
    let rateRecords ← table (slice data 104 20) nr 1 20
    let settingsRecords ← table (slice data 124 1280) ns 64 20
    let defaults ← V3Settings.fromBytes (slice data 36 20)
    let cpuProfiles ← cpuRecords.mapM V3Clocks.fromBytes
    let rateProfiles ← rateRecords.mapM V3Rate.fromBytes
    let configurations ← settingsRecords.mapM V3Settings.fromBytes
    let result : V3Capabilities :=
      { defaults, cpuProfiles, rateProfiles, configurations, maxDataFrameBytes := frame,
        maxControlFrameBytes := control, maxLogicalPayloadBytes := logical,
        maxEncodedSampleBytes := encoded, maxAdcPairs := adc, maxGpio8Samples := gpio8,
        maxGpio16Samples := gpio16 }
    let _ ← result.toPayload
    return result
  | _ => reject "record size"

end V3Capabilities

/-! ### Device states -/

/-- The members of `DeviceState`. -/
def deviceStates : List ℤ := [1, 3, 4]

def stopped : ℤ := 1

def running : ℤ := 3

def draining : ℤ := 4

structure V3Stop where
  state : ℤ
  runId : ℤ
  pendingFrames : ℤ
  deriving DecidableEq

namespace V3Stop

/-- `STOP_RESPONSE_STRUCT_FORMAT` -/
def widths : List ℕ := [1, 1, 2, 1, 1, 2, 4, 4]

def values (x : V3Stop) : List ℤ := [0, 0, 0, x.state, 0, 0, x.runId, x.pendingFrames]

def toPayload (x : V3Stop) : Except V3Error Bytes := do
  require (x.state ∈ deviceStates) "unknown device state"
  require (x.state ≠ stopped ∨ x.pendingFrames = 0) "STOPPED requires an empty queue"
  require (x.state ≠ draining ∨ 0 < x.pendingFrames) "DRAINING requires pending frames"
  require (x.state = stopped ∨ x.runId ≠ 0) "active state requires a run"
  packRecord widths x.values

def fromPayload (payload : Bytes) : Except V3Error V3Stop := do
  let data ← success payload 16
  match unpack widths data with
  | [_, _, _, state, reserved, reserved2, run, pending] =>
    require (reserved = reserved2 ∧ reserved2 = 0) "nonzero state reserved field"
    require (state ∈ deviceStates) "unknown device state"
    let result : V3Stop := ⟨state, run, pending⟩
    let _ ← result.toPayload
    return result
  | _ => reject "record size"

end V3Stop

/-- The diagnostics are a tuple in the order of the class; an absent one is `None`. -/
structure V3Status extends V3Stop where
  adcFramesProduced : ℤ := 0
  adcFramesDropped : ℤ := 0
  adcItemsProduced : ℤ := 0
  adcItemsDropped : ℤ := 0
  gpioFramesProduced : ℤ := 0
  gpioFramesDropped : ℤ := 0
  gpioItemsProduced : ℤ := 0
  gpioItemsDropped : ℤ := 0
  diagnostics : Fin 37 → Option ℤ := fun _ => none

namespace V3Status

def widths : List ℕ := List.replicate (8 + 37 + 1) 8

def counts (x : V3Status) : List ℤ :=
  [x.adcFramesProduced, x.adcFramesDropped, x.adcItemsProduced, x.adcItemsDropped,
    x.gpioFramesProduced, x.gpioFramesDropped, x.gpioItemsProduced, x.gpioItemsDropped]

/-- `0 <= dropped <= produced` for the pairs of counts. -/
def CountsOrdered (x : V3Status) : Prop :=
  (0 ≤ x.adcFramesDropped ∧ x.adcFramesDropped ≤ x.adcFramesProduced) ∧
    (0 ≤ x.adcItemsDropped ∧ x.adcItemsDropped ≤ x.adcItemsProduced) ∧
    (0 ≤ x.gpioFramesDropped ∧ x.gpioFramesDropped ≤ x.gpioFramesProduced) ∧
    (0 ≤ x.gpioItemsDropped ∧ x.gpioItemsDropped ≤ x.gpioItemsProduced)

instance (x : V3Status) : Decidable x.CountsOrdered := inferInstanceAs (Decidable (_ ∧ _))

/-- The set of the diagnostics that are present. -/
def validity (x : V3Status) : ℕ := bitmap fun i => (x.diagnostics i).isSome

def values (x : V3Status) : List ℤ :=
  x.counts ++ (List.ofFn fun i => (x.diagnostics i).getD 0) ++ [(x.validity : ℤ)]

def toPayload (x : V3Status) : Except V3Error Bytes := do
  let front ← x.toV3Stop.toPayload
  require x.CountsOrdered "dropped count exceeds produced"
  let rest ← packRecord widths x.values
  return front ++ rest

def fromPayload (payload : Bytes) : Except V3Error V3Status := do
  let data ← success payload 384
  let stop ← V3Stop.fromPayload (data.take 16)
  let values := unpack widths (data.drop 16)
  let validity := (values.getD 45 0).toNat
  require (validity < 1 <<< 37) "unknown diagnostic validity bits"
  let diagnostics (i : Fin 37) : Option ℤ :=
    if validity.testBit i then some (values.getD (8 + i) 0) else none
  require (∀ i : Fin 37, values.getD (8 + i) 0 = 0 ∨ validity.testBit i = true)
    "unavailable diagnostic must have zero wire value"
  match values.take 8 with
  | [adcFramesProduced, adcFramesDropped, adcItemsProduced, adcItemsDropped, gpioFramesProduced,
      gpioFramesDropped, gpioItemsProduced, gpioItemsDropped] =>
    let result : V3Status :=
      { stop with
        adcFramesProduced, adcFramesDropped, adcItemsProduced, adcItemsDropped, gpioFramesProduced,
        gpioFramesDropped, gpioItemsProduced, gpioItemsDropped, diagnostics }
    let _ ← result.toPayload
    return result
  | _ => reject "record size"

end V3Status

/-! ### Responses -/

inductive V3ResponseValue where
  | info (value : V3Info)
  | capabilities (value : V3Capabilities)
  | applied (value : V3AppliedSettings)
  | stop (value : V3Stop)
  | status (value : V3Status)

namespace V3ResponseValue

def toPayload : V3ResponseValue → Except V3Error Bytes
  | info value => value.toPayload
  | capabilities value => value.toPayload
  | applied value => value.toPayload
  | stop value => value.toPayload
  | status value => value.toPayload

/-- The run of a device state. -/
def runId : V3ResponseValue → Option ℤ
  | stop value => some value.runId
  | status value => some value.runId
  | _ => none

/-- The value of a successful response of this kind. -/
def fromPayload (kind : FrameKind) (data : Bytes) : Except V3Error V3ResponseValue :=
  if kind = FrameKind.infoResponse then info <$> V3Info.fromPayload data
  else if kind = FrameKind.getCapabilitiesResponse then
    capabilities <$> V3Capabilities.fromPayload data
  else if kind = FrameKind.configureResponse ∨ kind = FrameKind.startResponse ∨
      kind = FrameKind.getSettingsResponse then
    applied <$> V3AppliedSettings.fromPayload data
  else if kind = FrameKind.getStatusResponse then status <$> V3Status.fromPayload data
  else if kind = FrameKind.stopResponse then do
    let value ← V3Stop.fromPayload data
    require (value.state ≠ running) "STOP cannot report RUNNING"
    return stop value
  else reject "generic response requires error status"

end V3ResponseValue

structure V3Response where
  kind : FrameKind
  requestId : ℤ
  runId : ℤ
  status : ℤ
  errorCode : ℤ
  value : Option V3ResponseValue := none
  rejectedKind : Option ℤ := none

/-- The members of `ResponseStatus`. -/
def responseStatuses : List ℤ := [0, 1]

/-- The members of `ErrorCode`. -/
def errorCodes : List ℤ := [0, 1, 2, 3, 4, 5, 6, 7, 8, 9, 10, 11, 12]

def invalidRequestId : ℤ := 9

/-- The kinds of typed responses, `COMMAND_RESPONSE_KINDS`. -/
def responseKinds : List FrameKind := [144, 145, 146, 147, 148, 156, 157]

/-- `RESPONSE_PREFIX_STRUCT_FORMAT`, and the rest of a generic error. -/
def prefixWidths : List ℕ := [1, 1, 2]

namespace V3Response

/-- The payload and the flags of `to_bytes`. -/
def payload (r : V3Response) : Except V3Error (Bytes × ℤ) := do
  require (r.status ∈ responseStatuses ∧ r.errorCode ∈ errorCodes) "unknown response status/error"
  if r.status = 0 then
    match r.value with
    | none => reject "invalid success response"
    | some value =>
      require (r.errorCode = 0 ∧ r.rejectedKind = none) "invalid success response"
      let payload ← value.toPayload
      return (payload, 0)
  else
    require (r.errorCode ≠ 0 ∧ r.value.isNone) "invalid error response"
    let payload ← packRecord prefixWidths [r.status, 0, r.errorCode]
    if r.kind = FrameKind.errorResponse then
      match r.rejectedKind with
      | none => reject "generic error requires rejected kind"
      | some kind =>
        let rest ← packRecord prefixWidths [kind, 0, 0]
        return (payload ++ rest, flagResponseError.toNat)
    else
      require (r.rejectedKind = none) "typed error cannot carry rejected kind"
      return (payload, flagResponseError.toNat)

end V3Response

/-- `decode_v3_response`; it does not look at the trailer. -/
def decodeV3Response (header : FrameHeader) (data : Bytes) : Except V3Error V3Response := do
  require (header.kind ∈ responseKinds ∨ header.kind = FrameKind.errorResponse)
    "frame is not a response"
  require (4 ≤ data.length ∧ data.length ≤ maxControlFrameBytes - kMinFrameBytes)
    "payload length outside bounds"
  match unpack prefixWidths data with
  | [status, reserved, errorCode] =>
    require (status ∈ responseStatuses ∧ errorCode ∈ errorCodes ∧ reserved = 0)
      "invalid response prefix"
    require ((header.flags &&& flagResponseError ≠ 0 ↔ status = 1) ∧ (status = 0 ↔ errorCode = 0))
      "response flag/status/error disagree"
    require (header.requestId ≠ 0 ∨ errorCode = invalidRequestId)
      "zero request ID only allowed for INVALID_REQUEST_ID"
    let result : V3Response :=
      { kind := header.kind, requestId := header.requestId.toNat, runId := header.runId.toNat, status,
        errorCode }
    if status = 1 then
      if header.kind = FrameKind.errorResponse then
        require (data.length = 8 ∧ (data.drop 5).all (· = 0)) "invalid generic error size/reserved"
        return { result with rejectedKind := some (byteAt data 4).toNat }
      else
        require (data.length = 4) "error must contain only prefix"
        return result
    else
      let value ← V3ResponseValue.fromPayload header.kind data
      require (∀ run ∈ value.runId, run = header.runId.toNat) "state/header run ID mismatch"
      return { result with value := some value }
  | _ => reject "record size"

/-- The control branches of `_validate_payload`. -/
def validateControl (header : FrameHeader) (payload : Bytes) : Except V3Error Unit :=
  if header.kind = FrameKind.configureRequest then (fun _ => ()) <$> V3Settings.fromBytes payload
  else if requestKinds.contains header.kind then .ok ()
  else (fun _ => ()) <$> decodeV3Response header payload

def V3Response.toBytes (frameFlag : IntFlag) (r : V3Response) : Except V3Error Bytes := do
  let (payload, flags) ← r.payload
  encodeV3Frame (controlOf validateControl) frameFlag
    { kind := r.kind.toNat, payload, flags, runId := r.runId, requestId := r.requestId }

/-! ### Tables -/

theorem mapM_ok {α β : Type} {f : α → Except V3Error β} {l : List α} {bs : List β} :
    l.mapM f = .ok bs ↔ List.Forall₂ (fun a b => f a = .ok b) l bs := by
  induction l generalizing bs with
  | nil => rw [List.mapM_nil, pure_ok, List.forall₂_nil_left_iff, eq_comm]
  | cons a l ih =>
    simp only [List.mapM_cons, bind_ok, pure_ok, ih]
    constructor
    · rintro ⟨b, hb, bs', hbs, rfl⟩
      exact List.Forall₂.cons hb hbs
    · intro h
      cases h with
      | cons hb hbs => exact ⟨_, hb, _, hbs, rfl⟩

/-- Records are read from the bytes they are written as. -/
theorem mapM_inverse {α : Type} {read : Bytes → Except V3Error α} {write : α → Except V3Error Bytes}
    (h : ∀ {x b}, read b = .ok x ↔ write x = .ok b) {xs : List α} {bs : List Bytes} :
    bs.mapM read = .ok xs ↔ xs.mapM write = .ok bs := by
  rw [mapM_ok, mapM_ok]
  constructor
  · intro hall
    exact (hall.imp fun b x hbx => h.mp hbx).flip
  · intro hall
    exact (hall.imp fun x b hbx => h.mpr hbx).flip

theorem length_mapM {α β : Type} {f : α → Except V3Error β} {l : List α} {bs : List β}
    (h : l.mapM f = .ok bs) : bs.length = l.length :=
  (mapM_ok.mp h).length_eq.symm

theorem length_of_mem_mapM {α : Type} {write : α → Except V3Error Bytes} {size : ℕ}
    (hwrite : ∀ {x b}, write x = .ok b → b.length = size) {xs : List α} {bs : List Bytes}
    (h : xs.mapM write = .ok bs) : ∀ b ∈ bs, b.length = size := by
  have hall := mapM_ok.mp h
  clear h
  induction hall with
  | nil => simp
  | cons hb _ ih =>
    intro b hmem
    rcases List.mem_cons.mp hmem with rfl | hmem
    · exact hwrite hb
    · exact ih b hmem

/-- A table is read as the records that it consists of. -/
theorem table_ok {data : Bytes} {count : ℤ} {capacity size : ℕ} {records : List Bytes}
    (hlen : data.length = capacity * size) :
    table data count capacity size = .ok records ↔
      (count = records.length ∧ 1 ≤ records.length ∧ records.length ≤ capacity) ∧
      (∀ r ∈ records, r.length = size) ∧ records.Nodup ∧
      data = ljust records.flatten (capacity * size) := by
  simp only [table, bind_ok, require_ok, pure_ok, ljust]
  constructor
  · rintro ⟨-, ⟨hpos, hcap⟩, -, hzeros, -, hnodup, rfl⟩
    obtain ⟨n, rfl⟩ := Int.eq_ofNat_of_zero_le (by omega : 0 ≤ count)
    have hn : n ≤ capacity := by exact_mod_cast hcap
    have hfits : n * size ≤ data.length := hlen ▸ Nat.mul_le_mul_right size hn
    simp only [Int.toNat_natCast] at hzeros hnodup ⊢
    have hrows : (rows data size n).length = n := by simp [rows]
    refine ⟨⟨by rw [hrows], by rw [hrows]; omega, by rw [hrows]; exact hn⟩,
      fun r hr => length_of_mem_rows hfits hr, hnodup, ?_⟩
    have hrest : data.drop (n * size) = List.replicate (capacity * size - n * size) 0 := by
      rw [List.eq_replicate_iff, List.length_drop, hlen]
      exact ⟨rfl, fun b hb => of_decide_eq_true (List.all_eq_true.mp hzeros b hb)⟩
    rw [flatten_rows hfits, List.length_take, Nat.min_eq_left hfits, ← hrest, List.take_append_drop]
  · rintro ⟨⟨rfl, hpos, hcap⟩, hrows, hnodup, hdata⟩
    have hflat : records.flatten.length = records.length * size := length_flatten_rows hrows
    have hback : rows data size records.length = records := by
      rw [hdata]
      exact rows_flatten hrows _
    simp only [Int.toNat_natCast, hback]
    refine ⟨(), ⟨by exact_mod_cast hpos, by exact_mod_cast hcap⟩, (), ?_, (), hnodup, trivial⟩
    rw [hdata, List.drop_left' hflat]
    simp

theorem length_ljust {b : Bytes} {size : ℕ} (h : b.length ≤ size) : (ljust b size).length = size := by
  rw [ljust, List.length_append, List.length_replicate]
  omega

namespace V3Capabilities

/-- What `to_payload` asks of the fields themselves. -/
structure Consistent (x : V3Capabilities) : Prop where
  limits : validateLimits x.limits = .ok ()
  counts : (1 ≤ x.cpuProfiles.length ∧ x.cpuProfiles.length ≤ 2) ∧
    (1 ≤ x.rateProfiles.length ∧ x.rateProfiles.length ≤ 1) ∧
    (1 ≤ x.configurations.length ∧ x.configurations.length ≤ 64)
  defaults : x.defaults ∈ x.configurations
  profiles : ∀ r ∈ x.configurations, r.cpuProfile ∈ x.cpuProfiles.map V3Clocks.cpuProfile ∧
    r.rateProfile ∈ x.rateProfiles.map V3Rate.rateProfile

/-- The bytes of the parts of a record. -/
structure Parts (x : V3Capabilities) (front defaults : Bytes) (cpus rates settings : List Bytes) :
    Prop where
  nodup : cpus.Nodup ∧ rates.Nodup ∧ settings.Nodup
  front : pack widths x.values = some front
  defaults : x.defaults.toBytes = .ok defaults
  cpus : x.cpuProfiles.mapM V3Clocks.toBytes = .ok cpus
  rates : x.rateProfiles.mapM V3Rate.toBytes = .ok rates
  settings : x.configurations.mapM V3Settings.toBytes = .ok settings

theorem toPayload_ok {x : V3Capabilities} {b : Bytes} :
    x.toPayload = .ok b ↔ x.Consistent ∧
      ∃ front defaults cpus rates settings, x.Parts front defaults cpus rates settings ∧
        b = front ++ (defaults ++ (ljust cpus.flatten 48 ++ (ljust rates.flatten 20 ++
          ljust settings.flatten 1280))) := by
  simp only [toPayload, bind_ok, require_ok, packRecord_ok, pure_ok, List.append_assoc]
  constructor
  · rintro ⟨⟨⟩, hlimits, -, hcounts, cpus, hcpus, rates, hrates, settings, hsettings, -, hnodup, defaults,
      hdefaults, -, hmem, -, hprofiles, front, hfront, rfl⟩
    exact ⟨⟨hlimits, hcounts, hmem, hprofiles⟩, front, defaults, cpus, rates, settings,
      ⟨hnodup, hfront, hdefaults, hcpus, hrates, hsettings⟩, rfl⟩
  · rintro ⟨hx, front, defaults, cpus, rates, settings, hp, rfl⟩
    exact ⟨(), hx.limits, (), hx.counts, cpus, hp.cpus, rates, hp.rates, settings, hp.settings, (),
      hp.nodup, defaults, hp.defaults, (), hx.defaults, (), hx.profiles, front, hp.front, rfl⟩

theorem Parts.lengths {x : V3Capabilities} {front defaults : Bytes} {cpus rates settings : List Bytes}
    (hp : x.Parts front defaults cpus rates settings) (hx : x.Consistent) :
    front.length = 36 ∧ defaults.length = 20 ∧ (ljust cpus.flatten 48).length = 48 ∧
      (ljust rates.flatten 20).length = 20 ∧ (ljust settings.flatten 1280).length = 1280 := by
  obtain ⟨⟨-, hcpu⟩, ⟨-, hrate⟩, -, hset⟩ := hx.counts
  refine ⟨length_pack hp.front, V3Settings.length_toBytes hp.defaults, length_ljust ?_, length_ljust ?_,
    length_ljust ?_⟩
  · rw [length_flatten_rows (length_of_mem_mapM V3Clocks.length_toBytes hp.cpus), length_mapM hp.cpus]
    omega
  · rw [length_flatten_rows (length_of_mem_mapM V3Rate.length_toBytes hp.rates), length_mapM hp.rates]
    omega
  · rw [length_flatten_rows (length_of_mem_mapM V3Settings.length_toBytes hp.settings),
      length_mapM hp.settings]
    omega

theorem fromPayload_iff {x : V3Capabilities} {b : Bytes} :
    fromPayload b = .ok x ↔ x.toPayload = .ok b := by
  constructor
  · intro h
    simp only [fromPayload, bind_ok, success_ok] at h
    obtain ⟨_, ⟨hlen, hprefix, rfl⟩, h⟩ := h
    have hzeros : unpack widths b = 0 :: 0 :: 0 :: _ := unpack_okPrefix _ hprefix
    split at h
    · next heq =>
      simp only [bind_ok, require_ok, pure_ok] at h
      obtain ⟨-, hreserved, -, -, cpuRecords, hcpu, rateRecords, hrate, settingsRecords, hset, defaults,
        hdefaults, cpus, hcpus, rates, hrates, settings, hsettings, c, hwritten, rfl⟩ := h
      rw [table_ok (by rw [length_slice, hlen]; rfl)] at hcpu hrate hset
      obtain ⟨⟨hnc, -⟩, -, hcpuNodup, hcpuData⟩ := hcpu
      obtain ⟨⟨hnr, -⟩, -, hrateNodup, hrateData⟩ := hrate
      obtain ⟨⟨hns, -⟩, -, hsetNodup, hsetData⟩ := hset
      rw [V3Settings.fromBytes_iff] at hdefaults
      rw [mapM_inverse V3Clocks.fromBytes_iff] at hcpus
      rw [mapM_inverse V3Rate.fromBytes_iff] at hrates
      rw [mapM_inverse V3Settings.fromBytes_iff] at hsettings
      obtain ⟨hx, -⟩ := toPayload_ok.mp hwritten
      refine toPayload_ok.mpr ⟨hx, b.take 36, _, _, _, _,
        ⟨⟨hcpuNodup, hrateNodup, hsetNodup⟩, ?_, hdefaults, hcpus, hrates, hsettings⟩, ?_⟩
      · refine pack_iff.mpr ⟨by rw [List.length_take, hlen]; rfl, ?_⟩
        have htake : unpack widths (b.take 36) = unpack widths b := unpack_take rfl (by omega)
        rw [htake, heq]
        rw [heq] at hzeros
        simp only [List.cons.injEq] at hzeros
        obtain ⟨rfl, rfl, rfl, -⟩ := hzeros
        subst hreserved hnc hnr hns
        simp only [values, limits, length_mapM hcpus, length_mapM hrates, length_mapM hsettings,
          List.cons_append, List.nil_append]
      · rw [← hcpuData, ← hrateData, ← hsetData]
        simp only [← List.append_assoc, take_append_slice]
        exact (List.take_of_length_le (by omega)).symm
    · simp at h
  · intro h
    obtain ⟨hx, front, defaults, cpus, rates, settings, hp, hbytes⟩ := toPayload_ok.mp h
    obtain ⟨hfront, hdefaults, hcpus, hrates, hsettings⟩ := hp.lengths hx
    have hlen : b.length = 1404 := by
      rw [hbytes]
      simp only [List.length_append]
      omega
    have hslice36 : slice b 36 20 = defaults := by
      rw [hbytes]
      exact slice_field hfront hdefaults
    have hslice56 : slice b 56 48 = ljust cpus.flatten 48 := by
      rw [hbytes, ← List.append_assoc]
      exact slice_field (by rw [List.length_append]; omega) hcpus
    have hslice104 : slice b 104 20 = ljust rates.flatten 20 := by
      rw [hbytes, ← List.append_assoc, ← List.append_assoc]
      exact slice_field (by simp only [List.length_append]; omega) hrates
    have hslice124 : slice b 124 1280 = ljust settings.flatten 1280 := by
      have hsplit : b = (front ++ defaults ++ ljust cpus.flatten 48 ++ ljust rates.flatten 20) ++
          (ljust settings.flatten 1280 ++ []) := by
        rw [hbytes, List.append_nil]
        simp only [List.append_assoc]
      rw [hsplit]
      exact slice_field (by simp only [List.length_append]; omega) hsettings
    have hunpack : unpack widths b = x.values := by
      rw [hbytes, unpack_append (pack_iff.mp hp.front).1.ge, unpack_pack hp.front]
    have hprefix : b.take 4 = okPrefix := by
      rw [hbytes, List.take_append_of_le_length (by omega)]
      exact take_okPrefix hp.front
    simp only [fromPayload, bind_ok, success_ok]
    refine ⟨b, ⟨hlen, hprefix, rfl⟩, ?_⟩
    rw [hunpack, hslice36, hslice56, hslice104, hslice124]
    simp only [values, limits, List.cons_append, List.nil_append, bind_ok, require_ok, pure_ok,
      V3Settings.fromBytes_iff, mapM_inverse V3Clocks.fromBytes_iff, mapM_inverse V3Rate.fromBytes_iff,
      mapM_inverse V3Settings.fromBytes_iff]
    obtain ⟨hcpuCount, hrateCount, hsetCount⟩ := hx.counts
    refine ⟨(), trivial, (), hx.limits, cpus, ?_, rates, ?_, settings, ?_, _, hp.defaults, _, hp.cpus,
      _, hp.rates, _, hp.settings, b, h, rfl⟩
    · rw [table_ok hcpus, length_mapM hp.cpus]
      exact ⟨⟨rfl, hcpuCount⟩, length_of_mem_mapM V3Clocks.length_toBytes hp.cpus, hp.nodup.1, rfl⟩
    · rw [table_ok hrates, length_mapM hp.rates]
      exact ⟨⟨rfl, hrateCount⟩, length_of_mem_mapM V3Rate.length_toBytes hp.rates, hp.nodup.2.1, rfl⟩
    · rw [table_ok hsettings, length_mapM hp.settings]
      exact ⟨⟨rfl, hsetCount⟩, length_of_mem_mapM V3Settings.length_toBytes hp.settings, hp.nodup.2.2, rfl⟩

end V3Capabilities

/-! ### States and counters -/

namespace V3Stop

/-- What `to_payload` asks of a state. -/
structure Valid (x : V3Stop) : Prop where
  state : x.state ∈ deviceStates
  stopped : x.state ≠ stopped ∨ x.pendingFrames = 0
  draining : x.state ≠ draining ∨ 0 < x.pendingFrames
  run : x.state = ModelsV3.stopped ∨ x.runId ≠ 0

theorem toPayload_ok {x : V3Stop} {b : Bytes} :
    x.toPayload = .ok b ↔ x.Valid ∧ pack widths x.values = some b := by
  simp only [toPayload, bind_ok, require_ok, packRecord_ok]
  constructor
  · rintro ⟨-, hstate, -, hstopped, -, hdraining, -, hrun, hpack⟩
    exact ⟨⟨hstate, hstopped, hdraining, hrun⟩, hpack⟩
  · rintro ⟨hx, hpack⟩
    exact ⟨(), hx.state, (), hx.stopped, (), hx.draining, (), hx.run, hpack⟩

theorem length_toPayload {x : V3Stop} {b : Bytes} (h : x.toPayload = .ok b) : b.length = 16 :=
  length_pack (toPayload_ok.mp h).2

theorem fromPayload_iff {x : V3Stop} {b : Bytes} : fromPayload b = .ok x ↔ x.toPayload = .ok b := by
  constructor
  · intro h
    simp only [fromPayload, bind_ok, success_ok] at h
    obtain ⟨_, ⟨hlen, hprefix, rfl⟩, h⟩ := h
    have hzeros : unpack widths b = 0 :: 0 :: 0 :: _ := unpack_okPrefix _ hprefix
    split at h
    · next heq =>
      simp only [bind_ok, require_ok, pure_ok] at h
      obtain ⟨-, ⟨rfl, rfl⟩, -, -, c, hwritten, rfl⟩ := h
      refine toPayload_ok.mpr ⟨(toPayload_ok.mp hwritten).1, pack_iff.mpr ⟨hlen, ?_⟩⟩
      rw [heq] at hzeros ⊢
      simp only [List.cons.injEq] at hzeros
      obtain ⟨rfl, rfl, rfl, -⟩ := hzeros
      rfl
    · simp at h
  · intro h
    obtain ⟨hx, hpack⟩ := toPayload_ok.mp h
    simp only [fromPayload, bind_ok, success_ok]
    refine ⟨b, ⟨length_toPayload h, take_okPrefix hpack, rfl⟩, ?_⟩
    rw [unpack_pack hpack]
    simp only [values, bind_ok, require_ok, pure_ok]
    exact ⟨(), ⟨trivial, trivial⟩, (), hx.state, b, h, trivial⟩

end V3Stop

namespace V3Status

theorem toPayload_ok {x : V3Status} {b : Bytes} :
    x.toPayload = .ok b ↔ x.CountsOrdered ∧
      ∃ front rest, x.toV3Stop.toPayload = .ok front ∧ pack widths x.values = some rest ∧
        b = front ++ rest := by
  simp only [toPayload, bind_ok, require_ok, packRecord_ok, pure_ok]
  constructor
  · rintro ⟨front, hfront, -, hcounts, rest, hrest, rfl⟩
    exact ⟨hcounts, front, rest, hfront, hrest, rfl⟩
  · rintro ⟨hcounts, front, rest, hfront, hrest, rfl⟩
    exact ⟨front, hfront, (), hcounts, rest, hrest, rfl⟩

/-- The diagnostics that are read from wire values and their bitmap are written as those. -/
theorem values_of_read {x : V3Status} {values : List ℤ} {validity : ℕ} (hlen : values.length = 46)
    (hvalidity : values.getD 45 0 = (validity : ℤ)) (hbound : validity < 2 ^ 37)
    (hcounts : x.counts = values.take 8)
    (hdiagnostics : x.diagnostics = fun i : Fin 37 =>
      if validity.testBit i then some (values.getD (8 + i) 0) else none)
    (hzero : ∀ i : Fin 37, values.getD (8 + i) 0 = 0 ∨ validity.testBit i = true) :
    x.values = values := by
  have hgetD : ∀ i, (x.diagnostics i).getD 0 = values.getD (8 + i) 0 := by
    intro i
    rw [hdiagnostics]
    rcases hzero i with h | h
    · simp only [h]
      split <;> rfl
    · simp only [h, if_true, Option.getD_some]
  have hsome : x.validity = validity := by
    have hbits : (fun i => (x.diagnostics i).isSome) = fun i : Fin 37 => validity.testBit i := by
      funext i
      rw [hdiagnostics]
      cases h : validity.testBit i <;> simp [h]
    rw [V3Status.validity, hbits, bitmap_testBit hbound]
  unfold V3Status.values
  rw [hcounts, hsome, ← hvalidity]
  simp only [hgetD]
  exact row_split hlen

theorem fromPayload_iff {x : V3Status} {b : Bytes} : fromPayload b = .ok x ↔ x.toPayload = .ok b := by
  constructor
  · intro h
    simp only [fromPayload, bind_ok, success_ok, require_ok, V3Stop.fromPayload_iff] at h
    obtain ⟨_, ⟨hlen, hprefix, rfl⟩, stop, hstop, -, hbound, -, hzero, h⟩ := h
    have hvalues : (unpack widths (b.drop 16)).length = 46 := length_unpack _ _
    split at h
    · next heq =>
      simp only [bind_ok, pure_ok] at h
      obtain ⟨c, hwritten, rfl⟩ := h
      obtain ⟨hcounts, -⟩ := toPayload_ok.mp hwritten
      refine toPayload_ok.mpr ⟨hcounts, _, b.drop 16, hstop, ?_, (List.take_append_drop 16 b).symm⟩
      refine pack_iff.mpr ⟨by rw [List.length_drop, hlen]; rfl, Eq.symm ?_⟩
      obtain ⟨validity, hvalidity⟩ : ∃ v : ℕ, (unpack widths (b.drop 16)).getD 45 0 = (v : ℤ) := by
        rw [List.getD_eq_getElem _ _ (by omega)]
        exact Int.eq_ofNat_of_zero_le (unpack_nonneg (List.getElem_mem _))
      rw [hvalidity, Int.toNat_natCast] at hbound hzero
      refine values_of_read hvalues hvalidity hbound heq.symm ?_ hzero
      rw [hvalidity, Int.toNat_natCast]
    · simp at h
  · intro h
    obtain ⟨hcounts, front, rest, hfront, hrest, hbytes⟩ := toPayload_ok.mp h
    have hlen := V3Stop.length_toPayload hfront
    have hrestLen : rest.length = 368 := length_pack hrest
    have htake : b.take 16 = front := by rw [hbytes, List.take_left' hlen]
    have hdrop : b.drop 16 = rest := by rw [hbytes, List.drop_left' hlen]
    have hprefix : b.take 4 = okPrefix := by
      rw [hbytes, List.take_append_of_le_length (by omega)]
      exact take_okPrefix (V3Stop.toPayload_ok.mp hfront).2
    have hunpack : unpack widths rest = x.values := unpack_pack hrest
    have hlast : x.values.getD 45 0 = (x.validity : ℤ) := getD_row_last rfl
    have hnth : ∀ i : Fin 37, x.values.getD (8 + i) 0 = (x.diagnostics i).getD 0 :=
      fun i => getD_row rfl i
    have hbit : ∀ i : Fin 37, x.validity.testBit i = (x.diagnostics i).isSome :=
      fun i => testBit_bitmap (fun i => (x.diagnostics i).isSome) i
    have hcount : x.values.take 8 = x.counts := take_row rfl
    simp only [fromPayload, bind_ok, success_ok, V3Stop.fromPayload_iff]
    refine ⟨b, ⟨?_, hprefix, rfl⟩, x.toV3Stop, ?_, ?_⟩
    · rw [hbytes, List.length_append]
      omega
    · rw [htake]
      exact hfront
    · rw [hdrop, hunpack, hlast, Int.toNat_natCast, hcount]
      simp only [hnth, hbit, counts, bind_ok, require_ok, pure_ok]
      have hback : (fun i : Fin 37 => if (x.diagnostics i).isSome = true then
          some ((x.diagnostics i).getD 0) else none) = x.diagnostics := by
        funext i
        cases x.diagnostics i <;> rfl
      refine ⟨(), bitmap_lt _, (), ?_, b, ?_, ?_⟩
      · intro i
        cases x.diagnostics i
        · exact Or.inl rfl
        · exact Or.inr rfl
      · rw [hback]
        exact h
      · rw [hback]

end V3Status

/-! ### Values of responses -/

namespace V3ResponseValue

/-- The size of the payload tells what it is. -/
def size : V3ResponseValue → ℕ
  | info _ => 132
  | capabilities _ => 1404
  | applied _ => 48
  | stop _ => 16
  | status _ => 384

variable {v v' : V3ResponseValue} {b : Bytes}

theorem length_toPayload (h : v.toPayload = .ok b) : b.length = v.size := by
  cases v with
  | info x =>
    have hread := V3Info.fromPayload_iff.mpr h
    simp only [V3Info.fromPayload, bind_ok, success_ok] at hread
    obtain ⟨_, ⟨hlen, -, rfl⟩, -⟩ := hread
    exact hlen
  | capabilities x =>
    have hread := V3Capabilities.fromPayload_iff.mpr h
    simp only [V3Capabilities.fromPayload, bind_ok, success_ok] at hread
    obtain ⟨_, ⟨hlen, -, rfl⟩, -⟩ := hread
    exact hlen
  | applied x =>
    have hread := V3AppliedSettings.fromPayload_iff.mpr h
    simp only [V3AppliedSettings.fromPayload, bind_ok, success_ok] at hread
    obtain ⟨_, ⟨hlen, -, rfl⟩, -⟩ := hread
    exact hlen
  | stop x => exact V3Stop.length_toPayload h
  | status x =>
    have hread := V3Status.fromPayload_iff.mpr h
    simp only [V3Status.fromPayload, bind_ok, success_ok] at hread
    obtain ⟨_, ⟨hlen, -, rfl⟩, -⟩ := hread
    exact hlen

theorem toPayload_inj (h : v.toPayload = .ok b) (h' : v'.toPayload = .ok b) : v = v' := by
  have hsize : v.size = v'.size := (length_toPayload h).symm.trans (length_toPayload h')
  -- one kind of value has one size
  cases v <;> cases v' <;> simp only [size, Nat.reduceEqDiff] at hsize
  · exact congrArg info (Except.ok.inj
      ((V3Info.fromPayload_iff.mpr h).symm.trans (V3Info.fromPayload_iff.mpr h')))
  · exact congrArg capabilities (Except.ok.inj
      ((V3Capabilities.fromPayload_iff.mpr h).symm.trans (V3Capabilities.fromPayload_iff.mpr h')))
  · exact congrArg applied (Except.ok.inj
      ((V3AppliedSettings.fromPayload_iff.mpr h).symm.trans (V3AppliedSettings.fromPayload_iff.mpr h')))
  · exact congrArg stop (Except.ok.inj
      ((V3Stop.fromPayload_iff.mpr h).symm.trans (V3Stop.fromPayload_iff.mpr h')))
  · exact congrArg status (Except.ok.inj
      ((V3Status.fromPayload_iff.mpr h).symm.trans (V3Status.fromPayload_iff.mpr h')))

/-- What is read is written as the same bytes, whatever kind it is read under. -/
theorem toPayload_of_read {kind : FrameKind} (h : fromPayload kind b = .ok v) : v.toPayload = .ok b := by
  unfold fromPayload at h
  split at h
  · obtain ⟨x, hx, rfl⟩ := map_ok.mp h
    exact V3Info.fromPayload_iff.mp hx
  split at h
  · obtain ⟨x, hx, rfl⟩ := map_ok.mp h
    exact V3Capabilities.fromPayload_iff.mp hx
  split at h
  · obtain ⟨x, hx, rfl⟩ := map_ok.mp h
    exact V3AppliedSettings.fromPayload_iff.mp hx
  split at h
  · obtain ⟨x, hx, rfl⟩ := map_ok.mp h
    exact V3Status.fromPayload_iff.mp hx
  split at h
  · simp only [bind_ok, require_ok, pure_ok] at h
    obtain ⟨x, hx, -, -, rfl⟩ := h
    exact V3Stop.fromPayload_iff.mp hx
  · simp at h

end V3ResponseValue

/-! ### Responses -/

namespace V3Response

/-- A response that says yes: its payload is its value's. -/
structure Succeeds (r : V3Response) (payload : Bytes) : Prop where
  status : r.status = 0
  errorCode : r.errorCode = 0
  rejectedKind : r.rejectedKind = none
  value : ∃ v, r.value = some v ∧ v.toPayload = .ok payload

/-- A response that says no: the prefix, and in a generic error what was rejected. -/
structure Fails (r : V3Response) (payload : Bytes) : Prop where
  status : r.status = 1
  errorCode : r.errorCode ∈ errorCodes ∧ r.errorCode ≠ 0
  value : r.value = none
  payload : ∃ head, pack prefixWidths [r.status, 0, r.errorCode] = some head ∧
    ((r.kind = FrameKind.errorResponse ∧ ∃ kind rest, r.rejectedKind = some kind ∧
        pack prefixWidths [kind, 0, 0] = some rest ∧ payload = head ++ rest) ∨
      (r.kind ≠ FrameKind.errorResponse ∧ r.rejectedKind = none ∧ payload = head))

theorem payload_ok {r : V3Response} {data : Bytes} {flags : ℤ} :
    r.payload = .ok (data, flags) ↔
      (r.Succeeds data ∧ flags = 0) ∨ (r.Fails data ∧ flags = flagResponseError.toNat) := by
  unfold payload
  simp only [bind_ok, require_ok]
  constructor
  · rintro ⟨-, ⟨hstatus, herror⟩, h⟩
    split at h
    · next hzero =>
      split at h
      · simp at h
      · next v hv =>
        simp only [bind_ok, require_ok, pure_ok, Prod.mk.injEq] at h
        obtain ⟨-, ⟨hcode, hrejected⟩, payload, hpayload, rfl, rfl⟩ := h
        exact Or.inl ⟨⟨hzero, hcode, hrejected, v, hv, hpayload⟩, rfl⟩
    · next hzero =>
      have hone : r.status = 1 := by
        simp only [responseStatuses, List.mem_cons, List.not_mem_nil, or_false] at hstatus
        omega
      simp only [bind_ok, require_ok, packRecord_ok] at h
      obtain ⟨-, ⟨hcode, hvalue⟩, head, hhead, h⟩ := h
      have hnone : r.value = none := Option.isNone_iff_eq_none.mp hvalue
      split at h
      · next hkind =>
        split at h
        · simp at h
        · next kind hrejected =>
          simp only [bind_ok, packRecord_ok, pure_ok, Prod.mk.injEq] at h
          obtain ⟨rest, hrest, rfl, rfl⟩ := h
          exact Or.inr ⟨⟨hone, ⟨herror, hcode⟩, hnone, head, hhead,
            Or.inl ⟨hkind, kind, rest, hrejected, hrest, rfl⟩⟩, rfl⟩
      · next hkind =>
        simp only [bind_ok, require_ok, pure_ok, Prod.mk.injEq] at h
        obtain ⟨-, hrejected, rfl, rfl⟩ := h
        exact Or.inr ⟨⟨hone, ⟨herror, hcode⟩, hnone, head, hhead, Or.inr ⟨hkind, hrejected, rfl⟩⟩, rfl⟩
  · rintro (⟨hs, rfl⟩ | ⟨hf, rfl⟩)
    · obtain ⟨v, hv, hpayload⟩ := hs.value
      refine ⟨(), by rw [hs.status, hs.errorCode]; decide, ?_⟩
      rw [if_pos hs.status, hv]
      simp only [bind_ok, require_ok, pure_ok]
      exact ⟨(), ⟨hs.errorCode, hs.rejectedKind⟩, data, hpayload, rfl⟩
    · obtain ⟨head, hhead, hrest⟩ := hf.payload
      refine ⟨(), ⟨by rw [hf.status]; decide, hf.errorCode.1⟩, ?_⟩
      rw [if_neg (by rw [hf.status]; decide)]
      simp only [bind_ok, require_ok, packRecord_ok]
      refine ⟨(), ⟨hf.errorCode.2, by rw [hf.value]; rfl⟩, head, hhead, ?_⟩
      rcases hrest with ⟨hkind, kind, rest, hrejected, hpack, rfl⟩ | ⟨hkind, hrejected, rfl⟩
      · rw [if_pos hkind, hrejected]
        simp only [bind_ok, packRecord_ok, pure_ok]
        exact ⟨rest, hpack, rfl⟩
      · rw [if_neg hkind]
        simp only [bind_ok, require_ok, pure_ok]
        exact ⟨(), hrejected, trivial⟩

/-- A payload, its flags and the fields of the header determine a response. -/
theorem payload_inj {r r' : V3Response} {data : Bytes} {flags : ℤ} (hkind : r.kind = r'.kind)
    (hrequest : r.requestId = r'.requestId) (hrun : r.runId = r'.runId)
    (h : r.payload = .ok (data, flags)) (h' : r'.payload = .ok (data, flags)) : r = r' := by
  obtain ⟨kind, requestId, runId, status, errorCode, value, rejectedKind⟩ := r
  obtain ⟨kind', requestId', runId', status', errorCode', value', rejectedKind'⟩ := r'
  dsimp only at hkind hrequest hrun
  subst hkind hrequest hrun
  rcases payload_ok.mp h with ⟨hs, hflags⟩ | ⟨hf, hflags⟩ <;>
    rcases payload_ok.mp h' with ⟨hs', hflags'⟩ | ⟨hf', hflags'⟩
  · obtain ⟨hstatus, hcode, hrejected, v, hv, hpayload⟩ := hs
    obtain ⟨hstatus', hcode', hrejected', v', hv', hpayload'⟩ := hs'
    dsimp only at hstatus hcode hrejected hv hstatus' hcode' hrejected' hv'
    rw [hstatus, hstatus', hcode, hcode', hrejected, hrejected', hv, hv',
      V3ResponseValue.toPayload_inj hpayload hpayload']
  · exact absurd (hflags.symm.trans hflags') (by decide)
  · exact absurd (hflags'.symm.trans hflags) (by decide)
  · obtain ⟨hstatus, -, hvalue, head, hhead, hrest⟩ := hf
    obtain ⟨hstatus', -, hvalue', head', hhead', hrest'⟩ := hf'
    dsimp only at hstatus hvalue hhead hrest hstatus' hvalue' hhead' hrest'
    have hlen : head.length = head'.length := (length_pack hhead).trans (length_pack hhead').symm
    -- the two payloads are cut at the same place
    have hparts : head = head' ∧ rejectedKind = rejectedKind' := by
      rcases hrest with ⟨hk, k, rest, hr, hpack, hdata⟩ | ⟨hk, hr, hdata⟩ <;>
        rcases hrest' with ⟨hk', k', rest', hr', hpack', hdata'⟩ | ⟨hk', hr', hdata'⟩
      · obtain ⟨hhd, htl⟩ := List.append_inj (hdata.symm.trans hdata') hlen
        subst htl
        have hkinds := (unpack_pack hpack).symm.trans (unpack_pack hpack')
        simp only [List.cons.injEq, and_true] at hkinds
        exact ⟨hhd, by rw [hr, hr', hkinds]⟩
      · exact absurd hk hk'
      · exact absurd hk' hk
      · exact ⟨hdata.symm.trans hdata', hr.trans hr'.symm⟩
    obtain ⟨rfl, rfl⟩ := hparts
    have hcodes := (unpack_pack hhead).symm.trans (unpack_pack hhead')
    simp only [List.cons.injEq, true_and, and_true] at hcodes
    rw [hcodes.1, hcodes.2, hvalue, hvalue']

end V3Response

/-- What a decoded response says is what its frame holds. -/
theorem decodeV3Response_ok {header : FrameHeader} {data : Bytes} {r : V3Response}
    (h : decodeV3Response header data = .ok r) :
    (r.kind ∈ responseKinds ∨ r.kind = FrameKind.errorResponse) ∧ r.kind = header.kind ∧
      r.requestId = header.requestId.toNat ∧ r.runId = header.runId.toNat ∧
      r.payload = .ok (data, if header.flags &&& flagResponseError = 0 then 0
        else flagResponseError.toNat) := by
  simp only [decodeV3Response, bind_ok, require_ok] at h
  obtain ⟨-, hkind, -, ⟨hlen, -⟩, h⟩ := h
  have htake : unpack prefixWidths (data.take 4) = unpack prefixWidths data := unpack_take rfl hlen
  have htakeLen : (data.take 4).length = 4 := by
    rw [List.length_take]
    omega
  split at h
  · next status reserved errorCode heq =>
    simp only [bind_ok, require_ok] at h
    obtain ⟨-, ⟨hstatus, herror, hreserved⟩, -, ⟨hflag, hzero⟩, -, -, h⟩ := h
    subst hreserved
    have hhead : pack prefixWidths [status, 0, errorCode] = some (data.take 4) :=
      pack_iff.mpr ⟨htakeLen, htake.trans heq⟩
    split at h
    · next hone =>
      subst hone
      have hne : errorCode ≠ 0 := fun h0 => absurd (hzero.mpr h0) (by decide)
      rw [if_neg (hflag.mpr rfl)]
      split at h
      · next hgeneric =>
        simp only [bind_ok, require_ok, pure_ok] at h
        obtain ⟨-, ⟨hlen8, hrest⟩, rfl⟩ := h
        refine ⟨hkind, rfl, rfl, rfl, V3Response.payload_ok.mpr (Or.inr ⟨⟨rfl, ⟨herror, hne⟩, rfl, _,
          hhead, Or.inl ⟨hgeneric, _, data.drop 4, rfl, ?_, (List.take_append_drop 4 data).symm⟩⟩,
          rfl⟩)⟩
        -- a byte and three zeros follow the prefix
        have hzeros : data.drop 5 = [0, 0, 0] := by
          refine (List.eq_replicate_iff (n := 3)).mpr ⟨by rw [List.length_drop, hlen8], fun b hb => ?_⟩
          exact of_decide_eq_true (List.all_eq_true.mp hrest b hb)
        have hdrop : data.drop 4 = byteAt data 4 :: data.drop 5 := by
          rw [List.drop_eq_getElem_cons (by omega), byteAt, List.getD_eq_getElem]
        rw [pack_iff, hdrop, hzeros]
        exact ⟨rfl, by simp [unpack, prefixWidths, leValue]⟩
      · next hgeneric =>
        simp only [bind_ok, require_ok, pure_ok] at h
        obtain ⟨-, hlen4, rfl⟩ := h
        exact ⟨hkind, rfl, rfl, rfl, V3Response.payload_ok.mpr (Or.inr ⟨⟨rfl, ⟨herror, hne⟩, rfl, _,
          hhead, Or.inr ⟨hgeneric, rfl, (List.take_of_length_le hlen4.le).symm⟩⟩, rfl⟩)⟩
    · next hone =>
      simp only [bind_ok, require_ok, pure_ok] at h
      obtain ⟨v, hv, -, -, rfl⟩ := h
      have hstatus0 : status = 0 := by
        simp only [responseStatuses, List.mem_cons, List.not_mem_nil, or_false] at hstatus
        exact hstatus.resolve_right hone
      have hclear : header.flags &&& flagResponseError = 0 := by
        by_contra hset
        exact hone (hflag.mp hset)
      rw [if_pos hclear]
      exact ⟨hkind, rfl, rfl, rfl, V3Response.payload_ok.mpr (Or.inl ⟨⟨hstatus0, hzero.mp hstatus0, rfl,
        v, rfl, V3ResponseValue.toPayload_of_read hv⟩, rfl⟩)⟩
  · simp at h

/-! ### Frames of responses -/

theorem not_data_of_response {kind : FrameKind}
    (h : kind ∈ responseKinds ∨ kind = FrameKind.errorResponse) : isDataKind kind = false := by
  rcases h with h | rfl
  · simp only [responseKinds, List.mem_cons, List.not_mem_nil, or_false] at h
    rcases h with rfl | rfl | rfl | rfl | rfl | rfl | rfl <;> decide
  · decide

theorem not_request_of_response {kind : FrameKind}
    (h : kind ∈ responseKinds ∨ kind = FrameKind.errorResponse) : requestKinds.contains kind = false := by
  rcases h with h | rfl
  · simp only [responseKinds, List.mem_cons, List.not_mem_nil, or_false] at h
    rcases h with rfl | rfl | rfl | rfl | rfl | rfl | rfl <;> decide
  · decide

/-- Flags with at most the error bit. -/
theorem flags_of_masked {flags : UInt16} (h : flags &&& ~~~flagResponseError = 0) :
    flags.toNat = if flags &&& flagResponseError = 0 then 0 else flagResponseError.toNat := by
  have hlow : flags.toNat % 2 ^ 15 = 0 := by
    have hnat := congrArg UInt16.toNat h
    rw [UInt16.toNat_and] at hnat
    rw [← Nat.and_two_pow_sub_one_eq_mod]
    exact hnat
  have hlt := flags.toNat_lt
  have hcases : flags = 0 ∨ flags = flagResponseError := by
    rcases (by omega : flags.toNat = 0 ∨ flags.toNat = 32768) with hzero | hbit
    · exact Or.inl (UInt16.toNat_inj.mp hzero)
    · exact Or.inr (UInt16.toNat_inj.mp hbit)
  rcases hcases with rfl | rfl <;> rfl

variable {frameFlag : IntFlag}

/-- The header of a framed response has no data fields and no flag but the error bit. -/
theorem response_header {f : V3Frame} {w : Bytes} (hf : V3Framed validateControl f w)
    (hkind : f.header.kind ∈ responseKinds ∨ f.header.kind = FrameKind.errorResponse) :
    f.header.sequence = 0 ∧ f.header.firstSampleTicks = 0 ∧ f.header.itemCount = 0 ∧
      f.header.flags &&& ~~~flagResponseError = 0 := by
  have hvalid := hf.header.valid
  rw [not_data_of_response hkind, if_neg Bool.false_ne_true] at hvalid
  unfold checkControlHeader reject at hvalid
  dsimp only at hvalid
  simp only [Framing.ite_error_eq_ok] at hvalid
  obtain ⟨-, hfields, hvalid⟩ := hvalid
  rw [not_request_of_response hkind, if_neg Bool.false_ne_true] at hvalid
  simp only [Framing.ite_error_eq_ok] at hvalid
  obtain ⟨hflags, -⟩ := hvalid
  simp only [ne_eq, Bool.or_eq_true, decide_eq_true_eq, not_or, not_not] at hfields hflags
  exact ⟨hfields.1.1, hfields.1.2, hfields.2, hflags⟩

/-- The frames that carry a payload with no flag or the error flag are responses. -/
theorem kind_of_framed {f : V3Frame} {w : Bytes} (hf : V3Framed validateControl f w)
    (hcount : f.header.itemCount = 0) (hpayload : f.header.flags = 0 → f.payload.length ≠ 20 ∧
      f.payload.length ≠ 0) :
    isDataKind f.header.kind = false ∧ requestKinds.contains f.header.kind = false := by
  have hvalid := hf.header.valid
  cases hdata : isDataKind f.header.kind with
  | true =>
    rw [hdata, if_pos rfl] at hvalid
    unfold checkDataHeader reject at hvalid
    dsimp only at hvalid
    simp only [Framing.ite_error_eq_ok] at hvalid
    -- a data frame has items
    obtain ⟨-, -, -, -, hitems, -⟩ := hvalid
    rw [hcount] at hitems
    simp at hitems
  | false =>
    rw [hdata, if_neg Bool.false_ne_true] at hvalid
    unfold checkControlHeader reject at hvalid
    dsimp only at hvalid
    simp only [Framing.ite_error_eq_ok] at hvalid
    obtain ⟨-, -, hvalid⟩ := hvalid
    refine ⟨rfl, ?_⟩
    cases hrequest : requestKinds.contains f.header.kind with
    | false => rfl
    | true =>
      rw [hrequest, if_pos rfl] at hvalid
      simp only [Framing.ite_error_eq_ok, not_not] at hvalid
      obtain ⟨hfields, hsize, -⟩ := hvalid
      simp only [ne_eq, Bool.or_eq_true, decide_eq_true_eq, not_or, not_not] at hfields
      obtain ⟨h20, h0⟩ := hpayload hfields.1.1
      rw [← hf.length] at hsize
      split at hsize
      · exact absurd hsize h20
      · exact absurd hsize h0

namespace V3Response

theorem payload_length {r : V3Response} {data : Bytes} (h : r.payload = .ok (data, 0)) :
    data.length ≠ 20 ∧ data.length ≠ 0 := by
  rcases payload_ok.mp h with ⟨hs, -⟩ | ⟨-, hflags⟩
  · obtain ⟨v, -, hv⟩ := hs.value
    rw [V3ResponseValue.length_toPayload hv]
    cases v <;> simp only [V3ResponseValue.size] <;> omega
  · exact absurd hflags (by decide)

/-- A response is decoded from exactly the bytes that it is encoded as. -/
theorem toBytes_iff {r : V3Response} {w : Bytes} :
    r.toBytes frameFlag = .ok w ↔ ∃ f, decodeV3Frame (controlOf validateControl) w = .ok f ∧
      decodeV3Response f.header f.payload = .ok r := by
  constructor
  · intro h
    simp only [toBytes, bind_ok] at h
    obtain ⟨⟨data, flags⟩, hpayload, h⟩ := h
    obtain ⟨f, hframed, hdescribes⟩ := encodeV3Frame_framed h
    obtain ⟨hkind, hflags, hrun, hsequence, hrequest, hticks, hcount, hdata⟩ := hdescribes
    dsimp only [Header.ofWire] at hkind hflags hrun hrequest hcount hdata
    have hkeeps : (f.header.flags.toNat : ℤ) = flags := by
      rw [hflags]
      refine frameFlag.keeps flags ?_
      rcases V3Response.payload_ok.mp hpayload with ⟨-, rfl⟩ | ⟨-, rfl⟩ <;> decide
    have hcount0 : f.header.itemCount = 0 := UInt32.toNat_inj.mp (Int.ofNat_inj.mp hcount)
    obtain ⟨hnotData, hnotRequest⟩ := kind_of_framed hframed hcount0 fun hclear => by
      rw [hdata]
      rw [hclear] at hkeeps
      rw [← hkeeps] at hpayload
      exact payload_length hpayload
    -- the encoder has decoded the response it wrote
    have hvalid := hframed.payload
    unfold validatePayload controlOf validateControl at hvalid
    rw [hnotData, if_neg Bool.false_ne_true, if_neg, hnotRequest, if_neg Bool.false_ne_true,
      map_ok] at hvalid
    · obtain ⟨r', hr', -⟩ := hvalid
      refine ⟨f, decodeV3Frame_ok.mpr hframed, ?_⟩
      obtain ⟨hkind', hkindEq, hrequestEq, hrunEq, hpayload'⟩ := decodeV3Response_ok hr'
      rw [hkindEq] at hkind'
      obtain ⟨-, -, -, hmasked⟩ := response_header hframed hkind'
      have hsame : (if f.header.flags &&& flagResponseError = 0 then (0 : ℤ)
          else flagResponseError.toNat) = flags := by
        rw [← hkeeps, flags_of_masked hmasked]
        split <;> rfl
      rw [hsame, hdata] at hpayload'
      have hwritten : r.kind = r'.kind := by
        rw [hkindEq]
        exact (UInt8.toNat_inj.mp (Int.ofNat_inj.mp hkind)).symm
      rw [payload_inj hwritten (hrequest.symm.trans hrequestEq.symm) (hrun.symm.trans hrunEq.symm)
        hpayload hpayload']
      exact hr'
    · intro hconfigure
      rw [hconfigure] at hnotRequest
      exact absurd hnotRequest (by decide)
  · rintro ⟨f, hf, hr⟩
    have hframed := decodeV3Frame_ok.mp hf
    obtain ⟨hkind, hkindEq, hrequest, hrun, hpayload⟩ := decodeV3Response_ok hr
    rw [hkindEq] at hkind
    obtain ⟨hsequence, hticks, hcount, hmasked⟩ := response_header hframed hkind
    have hencoded : encodeV3Frame _ frameFlag f.args = .ok _ := hframed.encodeV3Frame
    simp only [toBytes, bind_ok]
    refine ⟨_, hpayload, ?_⟩
    have hargs : f.args =
        { kind := r.kind.toNat, payload := f.payload,
          flags := if f.header.flags &&& flagResponseError = 0 then 0 else flagResponseError.toNat,
          runId := r.runId, requestId := r.requestId } := by
      unfold V3Frame.args
      rw [hkindEq, hrequest, hrun, hsequence, hticks, hcount, flags_of_masked hmasked]
      split <;> rfl
    rw [hargs] at hencoded
    exact hencoded

end V3Response

/-- Every record is read from exactly the bytes it is written as, and the bytes that are read are
written again.  A settings record always has bytes; a response is read from the frame. -/
theorem records_inverse (frameFlag : IntFlag) :
    (∀ x : V3Settings, ∃ b, x.toBytes = .ok b) ∧
      (∀ x b, V3Settings.fromBytes b = .ok x ↔ x.toBytes = .ok b) ∧
      (∀ x b, V3AppliedSettings.fromPayload b = .ok x ↔ x.toPayload = .ok b) ∧
      (∀ x b, V3Info.fromPayload b = .ok x ↔ x.toPayload = .ok b) ∧
      (∀ x b, V3Capabilities.fromPayload b = .ok x ↔ x.toPayload = .ok b) ∧
      (∀ x b, V3Stop.fromPayload b = .ok x ↔ x.toPayload = .ok b) ∧
      (∀ x b, V3Status.fromPayload b = .ok x ↔ x.toPayload = .ok b) ∧
      (∀ (r : V3Response) w, r.toBytes frameFlag = .ok w ↔
        ∃ f, decodeV3Frame (controlOf validateControl) w = .ok f ∧
          decodeV3Response f.header f.payload = .ok r) :=
  ⟨V3Settings.toBytes_isOk, fun _ _ => V3Settings.fromBytes_iff,
    fun _ _ => V3AppliedSettings.fromPayload_iff, fun _ _ => V3Info.fromPayload_iff,
    fun _ _ => V3Capabilities.fromPayload_iff, fun _ _ => V3Stop.fromPayload_iff,
    fun _ _ => V3Status.fromPayload_iff, fun _ _ => V3Response.toBytes_iff⟩

end ThingDaq.Host.ModelsV3
