import ThingDaq.Firmware.Requests
import ThingDaq.Lib.Seek

/-!
# The command parser

`IncrementalCommandParser` of `firmware/src/protocol.cpp`.  It takes its input one byte at a
time, keeps what may still become a command in a buffer of fixed size, and hands out one
command or one rejection for each call: `feed` stops behind it and says how much it took.

A candidate that fails costs one byte, so that a command hidden behind a false magic word
is still found; a request of version 3 that is whole and refused costs its own length.
All of that is the scan of `verdict`.

## Main definitions

* `drain`, `feed` — the loops of the parser, `decode` standing for `decodeRequest`.
* `verdict`, `Emission` — the scanner, and what it takes off the buffer.

## Main results

* `verdict_stable` — no decision depends on later input.
* `drain_drained` — draining is scanning, up to the first command or rejection.
-/

namespace ThingDaq.Commands

open Wire Control Scanner

def magicBytes : Bytes := leBytes 4 kMagic

abbrev kCommandParserStorageBytes : ℕ := V3.kMaxCommandFrameBytes + 3

/-! ### State -/

/-- The 32-bit counters saturate with `bump`, the byte counters with this. -/
def bump64 (n : ℕ) : ℕ := min (n + 1) (2 ^ 64 - 1)

structure ParserCounters where
  bytesReceived : ℕ := 0
  bytesDiscarded : ℕ := 0
  commandsAccepted : ℕ := 0
  candidatesRejected : ℕ := 0
  badVersions : ℕ := 0
  badKinds : ℕ := 0
  badFlags : ℕ := 0
  badLengths : ℕ := 0
  badChecksums : ℕ := 0
  badPayloads : ℕ := 0
  badRequestIds : ℕ := 0
  unsupportedChecksums : ℕ := 0
  resynchronizations : ℕ := 0
  bufferedBytes : ℕ := 0
  highWaterMark : ℕ := 0
  deriving DecidableEq, Repr

/-- A command or a rejection; without a request, the request has its initial value. -/
structure ParsedCommand (ρ : Type) where
  frame : Bytes := []
  request : Option ρ := none
  rejectionError : ErrorCode := .ok
  rejectedRequestId : ℕ := 0
  rejectedKind : UInt8 := 0
  rejectedVersion : UInt8 := 0
  deriving DecidableEq, Repr

def ParsedCommand.rejected {ρ : Type} (c : ParsedCommand ρ) : Bool := c.rejectionError ≠ .ok

structure FeedResult where
  consumed : ℕ := 0
  commandReady : Bool := false
  rejectionReady : Bool := false
  deriving DecidableEq, Repr

inductive DrainResult
  | none
  | command
  | rejection
  deriving DecidableEq, Repr

/-- The buffer has the bytes in use only. -/
structure IncrementalCommandParser where
  buffer : Bytes := []
  resynchronizing : Bool := false
  tally : ParserCounters := {}
  deriving DecidableEq, Repr

/-- `recordFailure`, on the counters. -/
def ParserCounters.recordFailure (c : ParserCounters) (failure : Result) : ParserCounters :=
  let c := { c with candidatesRejected := bump c.candidatesRejected }
  match failure.issue with
  | .badVersion => { c with badVersions := bump c.badVersions }
  | .badKind => { c with badKinds := bump c.badKinds }
  | .badFlags => { c with badFlags := bump c.badFlags }
  | .badLength | .badMagic => { c with badLengths := bump c.badLengths }
  | .badChecksum => { c with badChecksums := bump c.badChecksums }
  | .badPayload => { c with badPayloads := bump c.badPayloads }
  | .badRequestId => { c with badRequestIds := bump c.badRequestIds }
  | .unsupportedChecksum => { c with unsupportedChecksums := bump c.unsupportedChecksums }
  | .none => c

/-- `describeRejection`: a request that can be answered. -/
def describeRejection {ρ : Type} (b : Bytes) (failure : Result) : Option (ParsedCommand ρ) :=
  let requestId := leValue (slice b 28 4)
  let v3 : Bool := byteAt b 4 = V3.kProtocolVersion
  if failure.isOk || b.length < kHeaderSize then none
  else if requestId = 0 && !v3 then none
  else
    some
      { rejectionError := if requestId = 0 && v3 then .invalidRequestId else failure.error
        rejectedRequestId := requestId
        rejectedKind := byteAt b 5
        rejectedVersion := byteAt b 4 }

/-- The length a candidate of version 3 declares. -/
def v3Total (b : Bytes) : ℕ := leValue (slice b 12 4)

/-- A candidate of version 3 has the lengths of a request. -/
def v3Shaped (b : Bytes) : Bool :=
  leValue (slice b 8 2) = kHeaderSize && kMinFrameBytes ≤ v3Total b &&
    v3Total b ≤ V3.kMaxCommandFrameBytes && leValue (slice b 16 4) = v3Total b - kMinFrameBytes

/-- It ends with the checksum of what comes before. -/
def v3Sealed (b : Bytes) : Bool :=
  (Checksum.adler32 (b.take (v3Total b - kTrailerSize))).toNat =
    leValue (slice b (v3Total b - kTrailerSize) 4)

namespace IncrementalCommandParser

def counters (p : IncrementalCommandParser) : ParserCounters :=
  { p.tally with bufferedBytes := p.buffer.length }

def recordFailure (p : IncrementalCommandParser) (failure : Result) : IncrementalCommandParser :=
  { p with tally := p.tally.recordFailure failure }

def discard (p : IncrementalCommandParser) (count : ℕ) : IncrementalCommandParser :=
  if count = 0 then p
  else
    let count := min count p.buffer.length
    { buffer := p.buffer.drop count
      resynchronizing := true
      tally :=
        { p.tally with
          resynchronizations :=
            if p.resynchronizing then p.tally.resynchronizations else bump p.tally.resynchronizations
          bytesDiscarded := bump64^[count] p.tally.bytesDiscarded } }

def findMagic (p : IncrementalCommandParser) : Option ℕ := firstAt magicBytes p.buffer

def partialMagicSuffix (p : IncrementalCommandParser) : ℕ :=
  longestPart magicBytes p.buffer (min p.buffer.length 3)

/-- Take a command off the buffer. -/
def accept (p : IncrementalCommandParser) (total : ℕ) : IncrementalCommandParser :=
  { buffer := p.buffer.drop total
    resynchronizing := false
    tally := { p.tally with commandsAccepted := bump p.tally.commandsAccepted } }

section Drain

variable {ρ : Type}

/-- How a turn of the loop in `drain` ends. -/
inductive Turn (ρ : Type)
  | stop (result : DrainResult) (p : IncrementalCommandParser) (command : ParsedCommand ρ)
  | again (p : IncrementalCommandParser)

/-- Count a failure and take off `count` bytes, behind a rejection if there is one. -/
def refuse (p : IncrementalCommandParser) (failure : Result) (count : ℕ) : Turn ρ :=
  let p' := p.recordFailure failure
  match describeRejection p'.buffer failure with
  | some rejected => .stop .rejection (p'.discard count) rejected
  | none => .again (p'.discard count)

variable (decode : Bytes → Except Result ρ)

/-- A turn on a candidate of version 3. -/
def drainV3 (p : IncrementalCommandParser) (command : ParsedCommand ρ) : Turn ρ :=
  let total := v3Total p.buffer
  if !v3Shaped p.buffer then .again ((p.recordFailure Result.badLength).discard 1)
  else if p.buffer.length < total then .stop .none p command
  else if !v3Sealed p.buffer then .again ((p.recordFailure Result.badChecksum).discard 1)
  else
    match decode (p.buffer.take total) with
    | .error failure => p.refuse failure total
    | .ok request => .stop .command (p.accept total) { frame := p.buffer.take total, request := request }

/-- A turn on a candidate of another version; what `command` said of a rejection stays. -/
def drainLegacy (p : IncrementalCommandParser) (command : ParsedCommand ρ) : Turn ρ :=
  match decodeHeader p.buffer true with
  | .error failure => p.refuse failure 1
  | .ok header =>
    let total := header.totalLength.toNat
    if p.buffer.length < total then .stop .none p command
    else
      match decode (p.buffer.take total) with
      | .error failure => p.refuse failure 1
      | .ok request =>
        if V3.kMaxCommandFrameBytes < total then
          .again ((p.recordFailure Result.badLength).discard 1)
        else
          .stop .command (p.accept total)
            { command with frame := p.buffer.take total, request := request }

/-- One turn of the loop in `drain`. -/
def turn (p : IncrementalCommandParser) (command : ParsedCommand ρ) : Turn ρ :=
  match p.findMagic with
  | none => .stop .none (p.discard (p.buffer.length - p.partialMagicSuffix)) command
  | some magicAt =>
    let p := p.discard magicAt
    if p.buffer.length < kHeaderSize then .stop .none p command
    else if byteAt p.buffer 4 = V3.kProtocolVersion then p.drainV3 decode command
    else p.drainLegacy decode command

/-- The loop of `drain`: each turn that goes on takes a byte off the buffer. -/
def drainLoop : ℕ → IncrementalCommandParser → ParsedCommand ρ →
    DrainResult × IncrementalCommandParser × ParsedCommand ρ
  | 0, p, command => (.none, p, command)
  | fuel + 1, p, command =>
    match p.turn decode command with
    | .stop result p command => (result, p, command)
    | .again p => drainLoop fuel p command

def drain (p : IncrementalCommandParser) (command : ParsedCommand ρ) :
    DrainResult × IncrementalCommandParser × ParsedCommand ρ :=
  drainLoop decode (p.buffer.length + 1) p command

/-- Put a byte into the buffer; a full one gives up its first byte. -/
def push (p : IncrementalCommandParser) (x : UInt8) : IncrementalCommandParser :=
  let p := if p.buffer.length = kCommandParserStorageBytes then
      (p.recordFailure Result.badLength).discard 1
    else p
  { p with
    buffer := p.buffer ++ [x]
    tally :=
      { p.tally with
        bytesReceived := bump64 p.tally.bytesReceived
        highWaterMark := max p.tally.highWaterMark (p.buffer.length + 1) } }

def feed (p : IncrementalCommandParser) :
    Bytes → ParsedCommand ρ → FeedResult × IncrementalCommandParser × ParsedCommand ρ
  | [], command => ({}, p, command)
  | x :: input, command =>
    match (p.push x).drain decode command with
    | (.none, p, command) =>
      let (result, p, command) := p.feed input command
      ({ result with consumed := result.consumed + 1 }, p, command)
    | (drained, p, command) =>
      ({ consumed := 1, commandReady := drained = .command, rejectionReady := drained = .rejection },
        p, command)

end Drain

/-- A session boundary drops what is buffered and keeps the counters. -/
def resetSession (p : IncrementalCommandParser) : IncrementalCommandParser :=
  { p.discard p.buffer.length with resynchronizing := false }

end IncrementalCommandParser

/-! ### The scanner -/

/-- What one step takes off the buffer. -/
inductive Emission (ρ : Type)
  | skipped
  | refused (failure : Result) (size : ℕ) (rejection : Option (ParsedCommand ρ))
  | command (frame : Bytes) (request : ρ)

namespace Emission

variable {ρ : Type}

def size : Emission ρ → ℕ
  | .skipped => 1
  | .refused _ size _ => size
  | .command frame _ => frame.length

/-- What the caller sees of it. -/
def event? : Emission ρ → Option (ParsedCommand ρ)
  | .skipped => none
  | .refused _ _ rejection => rejection
  | .command frame request => some { frame := frame, request := request }

end Emission

section Verdict

variable {ρ : Type} (decode : Bytes → Except Result ρ)

def v3Candidate (b : Bytes) : Verdict (Emission ρ) :=
  if !v3Shaped b then .step 1 (.refused Result.badLength 1 none)
  else if b.length < v3Total b then .wait
  else if !v3Sealed b then .step 1 (.refused Result.badChecksum 1 none)
  else
    match decode (b.take (v3Total b)) with
    | .error failure => .step (v3Total b) (.refused failure (v3Total b) (describeRejection b failure))
    | .ok request => .step (v3Total b) (.command (b.take (v3Total b)) request)

def legacyCandidate (b : Bytes) : Verdict (Emission ρ) :=
  match decodeHeader b true with
  | .error failure => .step 1 (.refused failure 1 (describeRejection b failure))
  | .ok header =>
    if b.length < header.totalLength.toNat then .wait
    else
      match decode (b.take header.totalLength.toNat) with
      | .error failure => .step 1 (.refused failure 1 (describeRejection b failure))
      | .ok request =>
        .step header.totalLength.toNat (.command (b.take header.totalLength.toNat) request)

def candidate (b : Bytes) : Verdict (Emission ρ) :=
  if b.length < kHeaderSize then .wait
  else if byteAt b 4 = V3.kProtocolVersion then v3Candidate decode b
  else legacyCandidate decode b

/-- The front of a buffer: a candidate, the beginning of a magic word, or noise. -/
def verdict (b : Bytes) : Verdict (Emission ρ) :=
  if magicBytes <+: b then candidate decode b
  else if b <+: magicBytes then .wait
  else .step 1 .skipped

end Verdict

/-! ### Verdicts are stable -/

section Append

variable {b c : Bytes}

theorem byteAt_append {i : ℕ} (h : i < b.length) : byteAt (b ++ c) i = byteAt b i := by
  unfold byteAt
  rw [List.getD_eq_getElem?_getD, List.getD_eq_getElem?_getD, List.getElem?_append_left h]

theorem loadHeader_append (h : 44 ≤ b.length) : loadHeader (b ++ c) = loadHeader b := by
  unfold loadHeader
  iterate 9 rw [slice_append_left (by omega)]
  iterate 3 rw [byteAt_append (by omega)]

theorem decodeHeader_append (h : 44 ≤ b.length) (commandsOnly : Bool) :
    decodeHeader (b ++ c) commandsOnly = decodeHeader b commandsOnly := by
  have hlong : ¬ (b ++ c).length < 44 := by
    rw [List.length_append]
    omega
  unfold decodeHeader
  rw [loadHeader_append h, slice_append_left (by omega), byteAt_append (by omega)]
  dsimp only
  rw [if_neg hlong, if_neg (Nat.not_lt.mpr h)]

theorem describeRejection_append {ρ : Type} (h : 44 ≤ b.length) (failure : Result) :
    (describeRejection (b ++ c) failure : Option (ParsedCommand ρ)) = describeRejection b failure := by
  have hlong : decide ((b ++ c).length < 44) = false := by
    rw [List.length_append]
    exact decide_eq_false (by omega)
  have hshort : decide (b.length < 44) = false := decide_eq_false (Nat.not_lt.mpr h)
  unfold describeRejection
  rw [slice_append_left (by omega), byteAt_append (by omega), byteAt_append (by omega), hlong, hshort]

theorem v3Total_append (h : 44 ≤ b.length) : v3Total (b ++ c) = v3Total b := by
  unfold v3Total
  rw [slice_append_left (by omega)]

theorem v3Shaped_append (h : 44 ≤ b.length) : v3Shaped (b ++ c) = v3Shaped b := by
  unfold v3Shaped
  rw [v3Total_append h]
  iterate 2 rw [slice_append_left (by omega)]

theorem v3Shaped_total (h : v3Shaped b = true) : 48 ≤ v3Total b ∧ v3Total b ≤ 68 := by
  unfold v3Shaped at h
  simp only [Bool.and_eq_true, decide_eq_true_eq] at h
  exact ⟨h.1.1.2, h.1.2⟩

theorem v3Sealed_append (h : 44 ≤ b.length) (hshape : v3Shaped b = true) (hlen : v3Total b ≤ b.length) :
    v3Sealed (b ++ c) = v3Sealed b := by
  obtain ⟨hmin, -⟩ := v3Shaped_total hshape
  have htrailer : v3Total b - kTrailerSize + 4 ≤ b.length := by
    change v3Total b - 4 + 4 ≤ b.length
    omega
  unfold v3Sealed
  rw [v3Total_append h, slice_append_left htrailer, List.take_append_of_le_length (by omega)]

end Append

/-- Everything a candidate can do but wait, one constructor for each exit of the loop. -/
inductive Decided {ρ : Type} (decode : Bytes → Except Result ρ) (b : Bytes) : ℕ → Emission ρ → Prop
  | badShape (hv : byteAt b 4 = V3.kProtocolVersion) (hshape : v3Shaped b = false) :
    Decided decode b 1 (.refused Result.badLength 1 none)
  | badChecksum (hv : byteAt b 4 = V3.kProtocolVersion) (hshape : v3Shaped b = true)
      (hlen : v3Total b ≤ b.length) (hsum : v3Sealed b = false) :
    Decided decode b 1 (.refused Result.badChecksum 1 none)
  | v3Refused (hv : byteAt b 4 = V3.kProtocolVersion) (hshape : v3Shaped b = true)
      (hlen : v3Total b ≤ b.length) (hsum : v3Sealed b = true) {failure : Result}
      (hd : decode (b.take (v3Total b)) = .error failure) :
    Decided decode b (v3Total b) (.refused failure (v3Total b) (describeRejection b failure))
  | v3Command (hv : byteAt b 4 = V3.kProtocolVersion) (hshape : v3Shaped b = true)
      (hlen : v3Total b ≤ b.length) (hsum : v3Sealed b = true) {request : ρ}
      (hd : decode (b.take (v3Total b)) = .ok request) :
    Decided decode b (v3Total b) (.command (b.take (v3Total b)) request)
  | badHeader (hv : byteAt b 4 ≠ V3.kProtocolVersion) {failure : Result}
      (hh : decodeHeader b true = .error failure) :
    Decided decode b 1 (.refused failure 1 (describeRejection b failure))
  | badBody (hv : byteAt b 4 ≠ V3.kProtocolVersion) {h : FrameHeader}
      (hh : decodeHeader b true = .ok h) (hlen : h.totalLength.toNat ≤ b.length) {failure : Result}
      (hd : decode (b.take h.totalLength.toNat) = .error failure) :
    Decided decode b 1 (.refused failure 1 (describeRejection b failure))
  | legacyCommand (hv : byteAt b 4 ≠ V3.kProtocolVersion) {h : FrameHeader}
      (hh : decodeHeader b true = .ok h) (hlen : h.totalLength.toNat ≤ b.length) {request : ρ}
      (hd : decode (b.take h.totalLength.toNat) = .ok request) :
    Decided decode b h.totalLength.toNat (.command (b.take h.totalLength.toNat) request)

section Stable

variable {ρ : Type} {decode : Bytes → Except Result ρ} {b : Bytes} {n : ℕ} {e : Emission ρ}

theorem v3Candidate_step (hv : byteAt b 4 = V3.kProtocolVersion) :
    v3Candidate decode b = .step n e ↔ Decided decode b n e := by
  unfold v3Candidate
  constructor
  · intro h
    split at h
    · rename_i hshape
      cases h
      exact .badShape hv (by rwa [Bool.not_eq_true'] at hshape)
    · rename_i hshape
      rw [Bool.not_eq_true', Bool.not_eq_false] at hshape
      split at h
      · cases h
      · rename_i hlen
        rw [Nat.not_lt] at hlen
        split at h
        · rename_i hsum
          cases h
          exact .badChecksum hv hshape hlen (by rwa [Bool.not_eq_true'] at hsum)
        · rename_i hsum
          rw [Bool.not_eq_true', Bool.not_eq_false] at hsum
          split at h
          · rename_i failure hd
            cases h
            exact .v3Refused hv hshape hlen hsum hd
          · rename_i request hd
            cases h
            exact .v3Command hv hshape hlen hsum hd
  · intro h
    cases h with
    | badShape _ hshape => simp only [hshape, Bool.not_false, if_true]
    | badChecksum _ hshape hlen hsum =>
      simp only [hshape, hsum, Nat.not_lt.mpr hlen, Bool.not_true, Bool.not_false, Bool.false_eq_true,
        if_true, if_false]
    | v3Refused _ hshape hlen hsum hd | v3Command _ hshape hlen hsum hd =>
      simp only [hshape, hsum, hd, Nat.not_lt.mpr hlen, Bool.not_true, Bool.false_eq_true, if_false]
    | badHeader hv' | badBody hv' | legacyCommand hv' => exact absurd hv hv'

theorem legacyCandidate_step (hv : byteAt b 4 ≠ V3.kProtocolVersion) :
    legacyCandidate decode b = .step n e ↔ Decided decode b n e := by
  unfold legacyCandidate
  constructor
  · intro h
    split at h
    · rename_i failure hh
      cases h
      exact .badHeader hv hh
    · rename_i header hh
      split at h
      · cases h
      · rename_i hlen
        split at h
        · rename_i failure hd
          cases h
          exact .badBody hv hh (Nat.not_lt.mp hlen) hd
        · rename_i request hd
          cases h
          exact .legacyCommand hv hh (Nat.not_lt.mp hlen) hd
  · intro h
    cases h with
    | badShape hv' | badChecksum hv' | v3Refused hv' | v3Command hv' => exact absurd hv' hv
    | badHeader _ hh => rw [hh]
    | badBody _ hh hlen hd | legacyCommand _ hh hlen hd =>
      rw [hh]
      dsimp only
      rw [if_neg (Nat.not_lt.mpr hlen), hd]

theorem candidate_step :
    candidate decode b = .step n e ↔ 44 ≤ b.length ∧ Decided decode b n e := by
  unfold candidate
  split
  · rename_i hlen
    exact ⟨fun h => (by cases h), fun h => absurd h.1 (Nat.not_le.mpr hlen)⟩
  · rename_i hlen
    have hlen' : 44 ≤ b.length := Nat.not_lt.mp hlen
    split
    · rename_i hv
      rw [v3Candidate_step hv]
      exact ⟨fun h => ⟨hlen', h⟩, fun h => h.2⟩
    · rename_i hv
      rw [legacyCandidate_step hv]
      exact ⟨fun h => ⟨hlen', h⟩, fun h => h.2⟩

/-- The length of an older command. -/
theorem legacy_total {h : FrameHeader} (hv : byteAt b 4 ≠ V3.kProtocolVersion)
    (hh : decodeHeader b true = .ok h) : LegacyCommand b h ∧ 48 ≤ h.totalLength.toNat ∧
      h.totalLength.toNat ≤ 64 := by
  have hheader : h.version ≠ V3.kProtocolVersion := by
    intro hv'
    have hcmd := hh
    unfold decodeHeader at hcmd
    dsimp only at hcmd
    simp only [Framing.ite_error_eq_ok] at hcmd
    obtain ⟨-, -, -, -, -, -, -, -, hcmd⟩ := hcmd
    cases hcmd
    exact hv hv'
  have hcommand := legacyCommand_of_decodeHeader hh hheader
  refine ⟨hcommand, ?_, hcommand.control.total_le⟩
  rw [hcommand.sizes]
  exact Nat.le_add_right _ _

theorem Decided.size (h : Decided decode b n e) : 0 < n ∧ e.size = n := by
  cases h with
  | badShape | badChecksum | badHeader | badBody => exact ⟨Nat.one_pos, rfl⟩
  | v3Refused _ hshape =>
    obtain ⟨hmin, -⟩ := v3Shaped_total hshape
    exact ⟨by omega, rfl⟩
  | v3Command _ hshape hlen =>
    obtain ⟨hmin, -⟩ := v3Shaped_total hshape
    exact ⟨by omega, List.length_take_of_le hlen⟩
  | legacyCommand hv hh hlen =>
    obtain ⟨-, hmin, -⟩ := legacy_total hv hh
    exact ⟨by omega, List.length_take_of_le hlen⟩

theorem Decided.le (hlen : 44 ≤ b.length) (h : Decided decode b n e) : n ≤ b.length := by
  cases h with
  | badShape | badChecksum | badHeader | badBody => omega
  | v3Refused _ _ hlen' | v3Command _ _ hlen' | legacyCommand _ _ hlen' => exact hlen'

theorem Decided.append (hlen : 44 ≤ b.length) (h : Decided decode b n e) (c : Bytes) :
    Decided decode (b ++ c) n e := by
  have hbyte : byteAt (b ++ c) 4 = byteAt b 4 := byteAt_append (by omega)
  have hheader := decodeHeader_append (c := c) hlen true
  have hlonger : b.length ≤ (b ++ c).length := by rw [List.length_append]; omega
  cases h with
  | badShape hv hshape => exact .badShape (hbyte.trans hv) ((v3Shaped_append hlen).trans hshape)
  | badChecksum hv hshape hlen' hsum =>
    refine .badChecksum (hbyte.trans hv) ((v3Shaped_append hlen).trans hshape) ?_
      ((v3Sealed_append hlen hshape hlen').trans hsum)
    rw [v3Total_append hlen]
    exact hlen'.trans hlonger
  | v3Refused hv hshape hlen' hsum hd =>
    rw [← describeRejection_append (c := c) hlen, ← v3Total_append (c := c) hlen]
    refine .v3Refused (hbyte.trans hv) ((v3Shaped_append hlen).trans hshape) ?_
      ((v3Sealed_append hlen hshape hlen').trans hsum) ?_
    · rw [v3Total_append hlen]
      exact hlen'.trans hlonger
    · rw [v3Total_append hlen, List.take_append_of_le_length hlen', hd]
  | v3Command hv hshape hlen' hsum hd =>
    have htake : (b ++ c).take (v3Total b) = b.take (v3Total b) := List.take_append_of_le_length hlen'
    rw [← htake, ← v3Total_append (c := c) hlen]
    refine .v3Command (hbyte.trans hv) ((v3Shaped_append hlen).trans hshape) ?_
      ((v3Sealed_append hlen hshape hlen').trans hsum) ?_
    · rw [v3Total_append hlen]
      exact hlen'.trans hlonger
    · rw [v3Total_append hlen, htake, hd]
  | badHeader hv hh =>
    rw [← describeRejection_append (c := c) hlen]
    exact .badHeader (hbyte ▸ hv) (hheader.trans hh)
  | badBody hv hh hlen' hd =>
    rw [← describeRejection_append (c := c) hlen]
    refine .badBody (hbyte ▸ hv) (hheader.trans hh) (hlen'.trans hlonger) ?_
    rw [List.take_append_of_le_length hlen', hd]
  | legacyCommand hv hh hlen' hd =>
    have htake : (b ++ c).take _ = b.take _ := List.take_append_of_le_length hlen'
    rw [← htake]
    refine .legacyCommand (hbyte ▸ hv) (hheader.trans hh) (hlen'.trans hlonger) ?_
    rw [htake, hd]

/-- What a verdict other than waiting says. -/
theorem verdict_step :
    verdict decode b = .step n e ↔
      (magicBytes <+: b ∧ 44 ≤ b.length ∧ Decided decode b n e) ∨
        (¬ magicBytes <+: b ∧ ¬ b <+: magicBytes ∧ n = 1 ∧ e = .skipped) := by
  unfold verdict
  split
  · rename_i hmagic
    rw [candidate_step]
    exact ⟨fun h => .inl ⟨hmagic, h⟩, fun h => h.elim And.right fun h => absurd hmagic h.1⟩
  · rename_i hmagic
    split
    · rename_i hpart
      exact ⟨fun h => (by cases h),
        fun h => h.elim (fun h => absurd h.1 hmagic) fun h => absurd hpart h.2.1⟩
    · rename_i hpart
      constructor
      · intro h
        cases h
        exact .inr ⟨hmagic, hpart, rfl, rfl⟩
      · rintro (h | ⟨-, -, rfl, rfl⟩)
        · exact absurd h.1 hmagic
        · rfl

/-- An emission takes off what it says. -/
theorem verdict_size (h : verdict decode b = .step n e) : e.size = n := by
  rcases verdict_step.mp h with ⟨-, -, hdec⟩ | ⟨-, -, rfl, rfl⟩
  · exact hdec.size.2
  · rfl

theorem verdict_stable : Stable (verdict decode) where
  pos := by
    intro b n e h
    rcases verdict_step.mp h with ⟨-, -, hdec⟩ | ⟨-, -, rfl, -⟩
    · exact hdec.size.1
    · exact Nat.one_pos
  le := by
    intro b n e h
    rcases verdict_step.mp h with ⟨-, hlen, hdec⟩ | ⟨-, hpart, rfl, -⟩
    · exact hdec.le hlen
    · by_contra hnil
      obtain rfl : b = [] := List.length_eq_zero_iff.mp (by omega)
      exact hpart List.nil_prefix
  append := by
    intro b n e h c
    refine verdict_step.mpr ?_
    rcases verdict_step.mp h with ⟨hmagic, hlen, hdec⟩ | ⟨hmagic, hpart, hn, he⟩
    · refine .inl ⟨hmagic.trans (List.prefix_append b c), ?_, hdec.append hlen c⟩
      rw [List.length_append]
      omega
    · refine .inr ⟨fun hp => ?_, fun hp => hpart ((List.prefix_append b c).trans hp), hn, he⟩
      -- the word and `b` begin the same list, so one of them begins the other
      rcases List.prefix_or_prefix_of_prefix hp (List.prefix_append b c) with hp' | hp'
      · exact hmagic hp'
      · exact hpart hp'

theorem verdict_seeks (decode : Bytes → Except Result ρ) :
    Seeks magicBytes (.skipped : Emission ρ) (verdict decode) where
  ne_nil := by decide
  skips := fun hmagic hpart => verdict_step.mpr (.inr ⟨hmagic, hpart, rfl, rfl⟩)
  waits := by
    intro b hmagic hpart
    unfold verdict
    rw [if_neg hmagic, if_pos hpart]

end Stable

/-! ### Draining is scanning -/

section Draining

variable {ρ : Type} {decode : Bytes → Except Result ρ} {p q r : IncrementalCommandParser}

/-- What an emission does to the parser. -/
def Emission.apply (p : IncrementalCommandParser) : Emission ρ → IncrementalCommandParser
  | .skipped => p.discard 1
  | .refused failure size _ => (p.recordFailure failure).discard size
  | .command frame _ => p.accept frame.length

/-- The caller sees nothing of these. -/
def Quiet (es : List (Emission ρ)) : Prop := ∀ e ∈ es, e.event? = none

theorem quiet_nil : Quiet ([] : List (Emission ρ)) := fun _ he => absurd he List.not_mem_nil

theorem quiet_append {es fs : List (Emission ρ)} (h : Quiet es) (h' : Quiet fs) : Quiet (es ++ fs) :=
  fun e he => (List.mem_append.mp he).elim (h e) (h' e)

/-- `p` has taken the emissions `es` off its buffer and become `q`. -/
structure Moves (decode : Bytes → Except Result ρ) (p : IncrementalCommandParser)
    (es : List (Emission ρ)) (q : IncrementalCommandParser) : Prop where
  scans : Scans (verdict decode) p.buffer es q.buffer
  state : q = es.foldl Emission.apply p

theorem moves_refl (p : IncrementalCommandParser) : Moves decode p [] p := ⟨.refl _, rfl⟩

theorem Moves.trans {es fs : List (Emission ρ)} (h : Moves decode p es q) (h' : Moves decode q fs r) :
    Moves decode p (es ++ fs) r :=
  ⟨h.scans.trans h'.scans, by rw [List.foldl_append, ← h.state, h'.state]⟩

theorem discard_buffer (p : IncrementalCommandParser) {n : ℕ} (h : n ≤ p.buffer.length) :
    (p.discard n).buffer = p.buffer.drop n := by
  unfold IncrementalCommandParser.discard
  split
  · rename_i hzero
    rw [hzero, List.drop_zero]
  · dsimp only
    rw [Nat.min_eq_left h]

theorem discard_succ (p : IncrementalCommandParser) {n : ℕ} (h : n + 1 ≤ p.buffer.length) :
    (p.discard n).discard 1 = p.discard (n + 1) := by
  have hlen : ((p.discard n).buffer).length = p.buffer.length - n := by
    rw [discard_buffer p (by omega), List.length_drop]
  cases n with
  | zero => rfl
  | succ n =>
    have hone : min 1 (p.buffer.drop (n + 1)).length = 1 := by
      rw [List.length_drop]
      omega
    unfold IncrementalCommandParser.discard
    simp only [Nat.succ_ne_zero, one_ne_zero, if_false, if_true, Nat.min_eq_left (Nat.le_of_succ_le h),
      Nat.min_eq_left h, hone, List.drop_drop, Function.iterate_succ_apply', Function.iterate_zero,
      id_eq]

/-- One byte at a time or all at once. -/
theorem skip_eq_discard (p : IncrementalCommandParser) {n : ℕ} (h : n ≤ p.buffer.length) :
    (List.replicate n (.skipped : Emission ρ)).foldl Emission.apply p = p.discard n := by
  induction n with
  | zero => rfl
  | succ n ih =>
    rw [List.replicate_succ', List.foldl_append, ih (by omega)]
    exact discard_succ p h

theorem skips_moves {n : ℕ} (hn : n ≤ p.buffer.length)
    (h : Scans (verdict decode) p.buffer (List.replicate n .skipped) (p.buffer.drop n)) :
    Moves decode p (List.replicate n .skipped) (p.discard n) :=
  ⟨(discard_buffer p hn).symm ▸ h, (skip_eq_discard p hn).symm⟩

theorem quiet_skips (n : ℕ) : Quiet (List.replicate n (.skipped : Emission ρ)) := by
  intro e he
  rw [List.eq_of_mem_replicate he]
  rfl

/-- A step that takes off `n` bytes, whatever else it does to the counters. -/
theorem moves_single {n : ℕ} {e : Emission ρ} (hv : verdict decode p.buffer = .step n e)
    (hq : q = e.apply p) (hbuffer : q.buffer = p.buffer.drop n) : Moves decode p [e] q :=
  ⟨hbuffer ▸ Scans.single hv, hq⟩

/-- How a run of the loop ends, for a command that says nothing yet. -/
inductive Drained (decode : Bytes → Except Result ρ) (p : IncrementalCommandParser) :
    DrainResult → IncrementalCommandParser → ParsedCommand ρ → Prop
  | none {es : List (Emission ρ)} {q : IncrementalCommandParser} (moves : Moves decode p es q)
      (quiet : Quiet es) (waits : verdict decode q.buffer = .wait) : Drained decode p .none q {}
  | command {es : List (Emission ρ)} {q : IncrementalCommandParser} {frame : Bytes} {request : ρ}
      (moves : Moves decode p (es ++ [.command frame request]) q) (quiet : Quiet es) :
    Drained decode p .command q { frame := frame, request := request }
  | rejection {es : List (Emission ρ)} {q : IncrementalCommandParser} {failure : Result} {size : ℕ}
      {rejected : ParsedCommand ρ}
      (moves : Moves decode p (es ++ [.refused failure size (some rejected)]) q) (quiet : Quiet es) :
    Drained decode p .rejection q rejected

/-- How a turn of the loop ends. -/
inductive Turned (decode : Bytes → Except Result ρ) (p : IncrementalCommandParser) :
    IncrementalCommandParser.Turn ρ → Prop
  | stop {result : DrainResult} {q : IncrementalCommandParser} {command : ParsedCommand ρ}
      (drained : Drained decode p result q command) : Turned decode p (.stop result q command)
  | again {es : List (Emission ρ)} {q : IncrementalCommandParser} (moves : Moves decode p es q)
      (quiet : Quiet es) (less : q.buffer.length < p.buffer.length) : Turned decode p (.again q)

theorem Drained.after {es : List (Emission ρ)} {result : DrainResult} {command : ParsedCommand ρ}
    (h : Drained decode q result r command) (moves : Moves decode p es q) (quiet : Quiet es) :
    Drained decode p result r command := by
  cases h with
  | none moves' quiet' waits => exact .none (moves.trans moves') (quiet_append quiet quiet') waits
  | command moves' quiet' =>
    have hmoves := moves.trans moves'
    rw [← List.append_assoc] at hmoves
    exact .command hmoves (quiet_append quiet quiet')
  | rejection moves' quiet' =>
    have hmoves := moves.trans moves'
    rw [← List.append_assoc] at hmoves
    exact .rejection hmoves (quiet_append quiet quiet')

theorem Turned.after {n : ℕ} {t : IncrementalCommandParser.Turn ρ}
    (h : Turned decode (p.discard n) t)
    (moves : Moves decode p (List.replicate n .skipped) (p.discard n)) (hn : n ≤ p.buffer.length) :
    Turned decode p t := by
  cases h with
  | stop drained => exact .stop (drained.after moves (quiet_skips n))
  | again moves' quiet less =>
    refine .again (moves.trans moves') (quiet_append (quiet_skips n) quiet) ?_
    rw [discard_buffer p hn, List.length_drop] at less
    omega

theorem refuse_turned {failure : Result} {n : ℕ}
    (hv : verdict decode p.buffer = .step n (.refused failure n (describeRejection p.buffer failure))) :
    Turned decode p (p.refuse failure n) := by
  have hpos := verdict_stable.pos hv
  have hle := verdict_stable.le hv
  have hbuffer : ((p.recordFailure failure).discard n).buffer = p.buffer.drop n := discard_buffer _ hle
  have hmoves := moves_single hv (rfl : (p.recordFailure failure).discard n = _) hbuffer
  have hsame : (p.recordFailure failure).buffer = p.buffer := rfl
  unfold IncrementalCommandParser.refuse
  dsimp only
  rw [hsame]
  cases hrej : (describeRejection p.buffer failure : Option (ParsedCommand ρ)) with
  | some rejected =>
    rw [hrej, ← List.nil_append [_]] at hmoves
    exact .stop (.rejection hmoves quiet_nil)
  | none =>
    rw [hrej] at hmoves
    refine .again hmoves (fun e he => ?_) ?_
    · rw [List.mem_singleton.mp he]
      rfl
    · rw [hbuffer, List.length_drop]
      omega

/-- A failure that is not described. -/
theorem pass_turned {failure : Result} (hv : verdict decode p.buffer = .step 1 (.refused failure 1 none)) :
    Turned decode p (.again ((p.recordFailure failure).discard 1)) := by
  have hle := verdict_stable.le hv
  have hbuffer : ((p.recordFailure failure).discard 1).buffer = p.buffer.drop 1 := discard_buffer _ hle
  refine .again (moves_single hv rfl hbuffer) (fun e he => ?_) ?_
  · rw [List.mem_singleton.mp he]
    rfl
  · rw [hbuffer, List.length_drop]
    omega

theorem accept_turned {n : ℕ} {request : ρ} (hle : n ≤ p.buffer.length)
    (hv : verdict decode p.buffer = .step n (.command (p.buffer.take n) request)) :
    Turned decode p
      (.stop .command (p.accept n) { frame := p.buffer.take n, request := request }) := by
  have hmoves : Moves decode p [.command (p.buffer.take n) request] (p.accept n) := by
    refine moves_single hv ?_ rfl
    rw [Emission.apply, List.length_take_of_le hle]
  rw [← List.nil_append [_]] at hmoves
  exact .stop (.command hmoves quiet_nil)

theorem wait_turned (hv : verdict decode p.buffer = .wait) : Turned decode p (.stop .none p {}) :=
  .stop (.none (moves_refl p) quiet_nil hv)

section Candidate

variable (hmagic : magicBytes <+: p.buffer) (hlen : 44 ≤ p.buffer.length)

include hmagic hlen

theorem verdict_of_decided {n : ℕ} {e : Emission ρ} (h : Decided decode p.buffer n e) :
    verdict decode p.buffer = .step n e := verdict_step.mpr (.inl ⟨hmagic, hlen, h⟩)

theorem drainV3_turned (hv : byteAt p.buffer 4 = V3.kProtocolVersion) :
    Turned decode p (p.drainV3 decode {}) := by
  unfold IncrementalCommandParser.drainV3
  dsimp only
  split
  · rename_i hshape
    rw [Bool.not_eq_true'] at hshape
    exact pass_turned (verdict_of_decided hmagic hlen (.badShape hv hshape))
  · rename_i hshape
    rw [Bool.not_eq_true', Bool.not_eq_false] at hshape
    split
    · rename_i hshort
      refine wait_turned ?_
      unfold verdict candidate v3Candidate
      rw [if_pos hmagic, if_neg (Nat.not_lt.mpr hlen), if_pos hv, hshape, Bool.not_true,
        if_neg Bool.false_ne_true, if_pos hshort]
    · rename_i hlong
      rw [Nat.not_lt] at hlong
      split
      · rename_i hsum
        rw [Bool.not_eq_true'] at hsum
        exact pass_turned (verdict_of_decided hmagic hlen (.badChecksum hv hshape hlong hsum))
      · rename_i hsum
        rw [Bool.not_eq_true', Bool.not_eq_false] at hsum
        split
        · rename_i failure hd
          exact refuse_turned (verdict_of_decided hmagic hlen (.v3Refused hv hshape hlong hsum hd))
        · rename_i request hd
          exact accept_turned hlong
            (verdict_of_decided hmagic hlen (.v3Command hv hshape hlong hsum hd))

theorem drainLegacy_turned (hv : byteAt p.buffer 4 ≠ V3.kProtocolVersion) :
    Turned decode p (p.drainLegacy decode {}) := by
  unfold IncrementalCommandParser.drainLegacy
  split
  · rename_i failure hh
    exact refuse_turned (verdict_of_decided hmagic hlen (.badHeader hv hh))
  · rename_i header hh
    dsimp only
    split
    · rename_i hshort
      refine wait_turned ?_
      unfold verdict candidate legacyCandidate
      rw [if_pos hmagic, if_neg (Nat.not_lt.mpr hlen), if_neg hv, hh]
      dsimp only
      rw [if_pos hshort]
    · rename_i hlong
      rw [Nat.not_lt] at hlong
      split
      · rename_i failure hd
        exact refuse_turned (verdict_of_decided hmagic hlen (.badBody hv hh hlong hd))
      · rename_i request hd
        -- an older command always fits into the frame of a command
        have hfits : ¬ V3.kMaxCommandFrameBytes < header.totalLength.toNat := by
          obtain ⟨-, -, hmax⟩ := legacy_total hv hh
          change ¬ 68 < header.totalLength.toNat
          omega
        rw [if_neg hfits]
        exact accept_turned hlong (verdict_of_decided hmagic hlen (.legacyCommand hv hh hlong hd))

end Candidate

theorem turn_turned (decode : Bytes → Except Result ρ) (p : IncrementalCommandParser) : Turned decode p (p.turn decode {}) := by
  unfold IncrementalCommandParser.turn
  cases hfind : p.findMagic with
  | none =>
    obtain ⟨hscans, hwait⟩ := (verdict_seeks decode).scans_longestPart hfind rfl
    have hmoves := skips_moves (Nat.sub_le _ _) hscans
    refine .stop (.none hmoves (quiet_skips _) ?_)
    rw [discard_buffer p (Nat.sub_le _ _)]
    exact hwait
  | some magicAt =>
    have hscans := (verdict_seeks decode).scans_firstAt hfind
    obtain ⟨hmagic, -⟩ := firstAt_some hfind
    have hle : magicAt ≤ p.buffer.length := by
      have := hmagic.length_le
      by_contra hlt
      rw [List.drop_eq_nil_of_le (by omega)] at this
      exact absurd this (by decide)
    have hmoves := skips_moves hle hscans
    rw [← discard_buffer p hle] at hmagic
    refine Turned.after ?_ hmoves hle
    dsimp only
    split
    · rename_i hshort
      refine wait_turned ?_
      unfold verdict candidate
      rw [if_pos hmagic, if_pos hshort]
    · rename_i hlong
      rw [Nat.not_lt] at hlong
      split
      · rename_i hv
        exact drainV3_turned hmagic hlong hv
      · rename_i hv
        exact drainLegacy_turned hmagic hlong hv

theorem drainLoop_drained (fuel : ℕ) (p : IncrementalCommandParser) (hfuel : p.buffer.length < fuel) :
    Drained decode p (p.drainLoop decode fuel {}).1 (p.drainLoop decode fuel {}).2.1
      (p.drainLoop decode fuel {}).2.2 := by
  induction fuel generalizing p with
  | zero => exact absurd hfuel (Nat.not_lt_zero _)
  | succ fuel ih =>
    unfold IncrementalCommandParser.drainLoop
    have hturn := turn_turned decode p
    cases hcase : p.turn decode {} with
    | stop result q command =>
      rw [hcase] at hturn
      cases hturn with
      | stop drained => exact drained
    | again q =>
      rw [hcase] at hturn
      cases hturn with
      | again moves quiet less => exact (ih q (by omega)).after moves quiet

/-- Draining scans up to the first command or rejection. -/
theorem drain_drained (p : IncrementalCommandParser) :
    Drained decode p (p.drain decode {}).1 (p.drain decode {}).2.1 (p.drain decode {}).2.2 :=
  drainLoop_drained _ p (Nat.lt_succ_self _)

end Draining

end ThingDaq.Commands
