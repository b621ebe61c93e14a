import ThingDaq.Firmware.CommandStream
import ThingDaq.Firmware.UsbTransport

/-!
# Sessions of the transport

What the transport keeps through a session, whatever the stream answers: the bytes it read
are the bytes it gave the parser and those still in its scratch, and the bytes it wrote are
whole frames, one after the other, and the beginning of at most one more.

A source of data frames is not trusted with more than it promises.  `Contract` says what
that is, and what the source may rely on in turn.

## Main definitions

* `Session` — what went over the stream and between the transport and the runtime.
* `Contract` — the protocol between the transport and a source.
* `Sends`, `Receives` — the invariants of the two directions.

## Main results

* `Sound.observeSession`, `Sound.takeCommand`, `Sound.queueResponse` — the operations that
  make no calls keep them.
-/

namespace ThingDaq.Usb

open Wire Control Commands Calls Scanner
open Prog (Turn)

/-! ### The session -/

/-- The bytes of a session, the commands and responses that the runtime took and queued, and
how many responses it gave up. -/
structure Session (ρ : Type) where
  observed : Option Bool := none
  read : Bytes := []
  sent : Bytes := []
  taken : List (ParsedCommand ρ) := []
  queued : List Bytes := []
  abandoned : ℕ := 0

namespace Session

variable {σ ρ : Type} (w : Session ρ)

/-- The stream says whether it is open.  The first answer begins no other session. -/
def observe (open? : Bool) : Session ρ :=
  match w.observed with
  | none => { w with observed := some open? }
  | some b => if open? = b then w else { observed := some open? }

def after (c : Call cdcByteStream (Link σ ρ)) : Session ρ :=
  match c.op, c.reply with
  | .sessionOpen, (open? : Bool) => w.observe open?
  | .read _, (reply : ReadReply _) =>
    { w with read := w.read ++ reply.destination.take reply.count.toInt.toNat }
  | .write source, (count : IoCount) => { w with sent := w.sent ++ source.take count.toInt.toNat }
  | .available, _ => w
  | .availableForWrite, _ => w

def through (calls : List (Call cdcByteStream (Link σ ρ))) : Session ρ := calls.foldl after w

theorem through_append (calls calls' : List (Call cdcByteStream (Link σ ρ))) :
    w.through (calls ++ calls') = (w.through calls).through calls' :=
  List.foldl_append

end Session

/-! ### Sources -/

/-- What a source promises in which state: `idle` if no frame is on its way, `ready` if the
front frame may go, `sending f` while `f` is on its way.  The list holds the frames of the
session that went whole.  Between two visits the firmware moves the source by `step`. -/
structure Contract {σ : Type} (experiment : InputExperiment) (source : LowerPriorityFrameSource σ)
    where
  idle : List Bytes → σ → Prop
  ready : List Bytes → σ → Prop
  sending : List Bytes → Bytes → σ → Prop
  step : σ → σ → Prop
  idle_step : ∀ {fs s s'}, idle fs s → step s s' → idle fs s'
  sending_step : ∀ {fs f s s'}, sending fs f s → step s s' → sending fs f s'
  restart : ∀ {fs s}, idle fs s → idle [] s
  refuse : ∀ {fs s}, idle fs s → source.frontFrame s ≠ [] →
    validDataView experiment (source.frontFrame s) = false → idle fs (source.releaseFrontFrame s)
  prepare : ∀ {fs s}, idle fs s → idle fs (source.prepareFrontFrame s).1
  prepared : ∀ {fs s}, idle fs s → (source.prepareFrontFrame s).2 = true →
    ready fs (source.prepareFrontFrame s).1 ∧
      (source.frontFrame (source.prepareFrontFrame s).1).length = (source.frontFrame s).length
  mark : ∀ {fs s}, ready fs s → validDataView experiment (source.frontFrame s) = true →
    sending fs (source.frontFrame s) (source.markFrontFrameStarted s)
  release : ∀ {fs f s}, sending fs f s → idle (fs ++ [f]) (source.releaseFrontFrame s)
  abort : ∀ {fs f s}, sending fs f s → idle [] (source.abortFrontFrame s).1

/-- A source whose frames keep their length when they are prepared may do anything else. -/
def Contract.trivial {σ : Type} (experiment : InputExperiment) (source : LowerPriorityFrameSource σ)
    (hlength : ∀ s, (source.prepareFrontFrame s).2 = true →
      (source.frontFrame (source.prepareFrontFrame s).1).length = (source.frontFrame s).length) :
    Contract experiment source where
  idle := fun _ _ => True
  ready := fun _ _ => True
  sending := fun _ _ _ => True
  step := fun _ _ => True
  idle_step := fun _ _ => True.intro
  sending_step := fun _ _ => True.intro
  restart := fun _ => True.intro
  refuse := fun _ _ _ => True.intro
  prepare := fun _ => True.intro
  prepared := fun _ h => ⟨True.intro, hlength _ h⟩
  mark := fun _ _ => True.intro
  release := fun _ => True.intro
  abort := fun _ => True.intro

/-! ### Sending -/

/-- A frame that the stream took whole. -/
inductive Sent
  | response (bytes : Bytes)
  | data (bytes : Bytes)
  deriving DecidableEq, Repr

namespace Sent

def bytes : Sent → Bytes
  | response b => b
  | data b => b

def response? : Sent → Option Bytes
  | response b => some b
  | data _ => none

def data? : Sent → Option Bytes
  | response _ => none
  | data b => some b

/-- Frames as they follow each other on the stream. -/
def wire (done : List Sent) : Bytes := (done.map bytes).flatten

def responses (done : List Sent) : List Bytes := done.filterMap response?

def datas (done : List Sent) : List Bytes := done.filterMap data?

theorem wire_snoc (done : List Sent) (x : Sent) : wire (done ++ [x]) = wire done ++ x.bytes := by
  unfold wire
  rw [List.map_append, List.flatten_append]
  exact congrArg _ (List.append_nil _)

theorem responses_snoc (done : List Sent) (x : Sent) :
    responses (done ++ [x]) = responses done ++ x.response?.toList := by
  unfold responses
  rw [List.filterMap_append]
  cases x <;> rfl

theorem datas_snoc (done : List Sent) (x : Sent) :
    datas (done ++ [x]) = datas done ++ x.data?.toList := by
  unfold datas
  rw [List.filterMap_append]
  cases x <;> rfl

end Sent

/-- The members that sending depends on. -/
structure Sender (σ : Type) where
  responseQueue : List Bytes
  activeFrame : ActiveFrame
  activeLowerPriorityFrame : Bytes
  txOffset : ℕ
  lowerPriority : σ

def Link.sender {σ ρ : Type} (l : Link σ ρ) : Sender σ where
  responseQueue := l.transport.responseQueue
  activeFrame := l.transport.activeFrame
  activeLowerPriorityFrame := l.transport.activeLowerPriorityFrame
  txOffset := l.transport.txOffset
  lowerPriority := l.lowerPriority

section Sends

variable {σ : Type} {experiment : InputExperiment} {source : LowerPriorityFrameSource σ}

/-- The stream took a part of the frame that is on its way, behind the data frames `fs`. -/
inductive Underway (contract : Contract experiment source) (t : Sender σ) (fs : List Bytes) :
    Bytes → Prop
  | none (hkind : t.activeFrame = .none) (hoffset : t.txOffset = 0)
      (hidle : contract.idle fs t.lowerPriority) : Underway contract t fs []
  | response {r : Bytes} {rest : List Bytes} (hkind : t.activeFrame = .response)
      (hqueue : t.responseQueue = r :: rest) (hpos : 0 < t.txOffset) (hlt : t.txOffset < r.length)
      (hidle : contract.idle fs t.lowerPriority) : Underway contract t fs (r.take t.txOffset)
  | data {f : Bytes} (hkind : t.activeFrame = .lowerPriority)
      (hframe : t.activeLowerPriorityFrame = f) (hpos : 0 < t.txOffset) (hlt : t.txOffset < f.length)
      (hvalid : validDataView experiment f = true)
      (hsending : contract.sending fs f t.lowerPriority) : Underway contract t fs (f.take t.txOffset)

/-- The bytes in `sent` are the frames in `done` and a part of one more; the responses
among them are the first ones in `queued`. -/
structure SendsOf (contract : Contract experiment source) (t : Sender σ) (sent : Bytes)
    (queued : List Bytes) (done : List Sent) (part : Bytes) : Prop where
  sent_eq : sent = Sent.wire done ++ part
  queued_eq : queued = Sent.responses done ++ t.responseQueue
  depth : t.responseQueue.length ≤ kResponseQueueDepth
  responses : ∀ r ∈ t.responseQueue, r ≠ []
  data : ∀ f, .data f ∈ done → validDataView experiment f = true
  underway : Underway contract t (Sent.datas done) part

def Sends (contract : Contract experiment source) (t : Sender σ) (sent : Bytes)
    (queued : List Bytes) : Prop :=
  ∃ done part, SendsOf contract t sent queued done part

end Sends

/-! ### Receiving -/

/-- The members that receiving depends on. -/
structure Receiver (ρ : Type) where
  parser : IncrementalCommandParser
  commandQueue : List (ParsedCommand ρ)
  rxScratch : Bytes
  rxPendingOffset : ℕ
  rxPendingSize : ℕ

def Link.receiver {σ ρ : Type} (l : Link σ ρ) : Receiver ρ where
  parser := l.transport.parser
  commandQueue := l.transport.commandQueue
  rxScratch := l.transport.rxScratch
  rxPendingOffset := l.transport.rxPendingOffset
  rxPendingSize := l.transport.rxPendingSize

/-- The bytes that were read and not given to the parser yet. -/
def Receiver.pending {ρ : Type} (t : Receiver ρ) : Bytes :=
  slice t.rxScratch t.rxPendingOffset (t.rxPendingSize - t.rxPendingOffset)

/-- The parser got the bytes in `read` but those that are pending, and its deliveries are
the commands in `taken` and in the queue. -/
structure Receives {ρ : Type} (decode : Bytes → Except Result ρ) (t : Receiver ρ) (read : Bytes)
    (taken : List (ParsedCommand ρ)) : Prop where
  scratch : t.rxScratch.length = kUsbRxScratchBytes
  size : t.rxPendingSize ≤ kUsbRxScratchBytes
  offset : t.rxPendingOffset ≤ t.rxPendingSize
  depth : t.commandQueue.length ≤ kCommandQueueDepth
  settled : Settled decode t.parser.buffer
  scans : ∃ fed es, read = fed ++ t.pending ∧ Scans (verdict decode) fed es t.parser.buffer ∧
    events es = taken ++ t.commandQueue

/-! ### Both -/

section Sound

variable {σ ρ : Type} {experiment : InputExperiment} {source : LowerPriorityFrameSource σ}

/-- What holds between any two calls. -/
structure Sound (contract : Contract experiment source) (decode : Bytes → Except Result ρ)
    (l : Link σ ρ) (w : Session ρ) : Prop where
  sends : Sends contract l.sender w.sent w.queued
  receives : Receives decode l.receiver w.read w.taken
  /-- A command that was taken has a place for its response. -/
  reserved : l.transport.commandAwaitingResponse = true →
    l.transport.responseQueue.length < kResponseQueueDepth
  /-- One command is answered before the next is taken. -/
  paired : w.taken.length ≤
    w.queued.length + w.abandoned + if l.transport.commandAwaitingResponse then 1 else 0
  initialized : l.transport.sessionStateInitialized = w.observed.isSome
  observed : ∀ b, w.observed = some b → l.transport.sessionOpen = b

variable {contract : Contract experiment source} {decode : Bytes → Except Result ρ}
  {l : Link σ ρ} {w : Session ρ}

theorem sends_start {t : Sender σ} (hqueue : t.responseQueue = []) (hkind : t.activeFrame = .none)
    (hoffset : t.txOffset = 0) (hidle : contract.idle [] t.lowerPriority) : Sends contract t [] [] := by
  refine ⟨[], [], rfl, ?_, ?_, ?_, fun f hf => absurd hf List.not_mem_nil, .none hkind hoffset hidle⟩
  · rw [hqueue]
    rfl
  · rw [hqueue]
    exact Nat.zero_le _
  · rw [hqueue]
    exact fun r hr => absurd hr List.not_mem_nil

theorem receives_start {t : Receiver ρ} (hscratch : t.rxScratch.length = kUsbRxScratchBytes)
    (hsize : t.rxPendingSize = 0) (hoffset : t.rxPendingOffset = 0) (hqueue : t.commandQueue = [])
    (hbuffer : t.parser.buffer = []) : Receives decode t [] [] where
  scratch := hscratch
  size := by
    rw [hsize]
    exact Nat.zero_le _
  offset := by rw [hsize, hoffset]
  depth := by
    rw [hqueue]
    exact Nat.zero_le _
  settled := by
    rw [hbuffer]
    exact settled_nil
  scans := by
    refine ⟨[], [], ?_, ?_, ?_⟩
    · unfold Receiver.pending slice
      rw [hsize, Nat.zero_sub, List.take_zero, List.append_nil]
    · rw [hbuffer]
      exact .refl _
    · rw [hqueue]
      rfl

/-! ### Session boundaries -/

/-- A frame of the source that is on its way is given up. -/
theorem abort_idle {fs : List Bytes} {part : Bytes} (h : Underway contract l.sender fs part) :
    contract.idle [] (l.abortLowerPriority source).lowerPriority := by
  unfold Link.abortLowerPriority
  cases h with
  | none hkind _ hidle =>
    rw [if_neg (by rw [show l.transport.activeFrame = _ from hkind]; decide)]
    exact contract.restart hidle
  | response hkind _ _ _ hidle =>
    rw [if_neg (by rw [show l.transport.activeFrame = _ from hkind]; decide)]
    exact contract.restart hidle
  | data hkind _ _ _ _ hsending =>
    rw [if_pos (show l.transport.activeFrame = _ from hkind)]
    dsimp only
    split
    · exact contract.abort hsending
    · exact contract.abort hsending

/-- Giving it up changes the source and the error counters only. -/
theorem abort_receiver : (l.abortLowerPriority source).receiver = l.receiver ∧
    (l.abortLowerPriority source).transport.sessionStateInitialized =
      l.transport.sessionStateInitialized ∧
    (l.abortLowerPriority source).transport.sessionOpen = l.transport.sessionOpen := by
  unfold Link.abortLowerPriority
  dsimp only
  split
  · split
    · exact ⟨rfl, rfl, rfl⟩
    · exact ⟨rfl, rfl, rfl⟩
  · exact ⟨rfl, rfl, rfl⟩

/-- Behind a boundary nothing was read or written yet. -/
theorem Sound.resetSessionQueues (h : Sound contract decode l w) {b : Bool}
    (hinit : l.transport.sessionStateInitialized = true) (hopen : l.transport.sessionOpen = b) :
    Sound contract decode (l.resetSessionQueues source) { observed := some b } := by
  obtain ⟨done, part, hsends⟩ := h.sends
  unfold Link.resetSessionQueues
  dsimp only
  generalize hcounted : l.count _ = counted
  have hsender : counted.sender = l.sender := by rw [← hcounted]; rfl
  have hidle : contract.idle [] (counted.abortLowerPriority source).lowerPriority :=
    abort_idle (hsender ▸ hsends.underway)
  obtain ⟨hreceiver, hinit', hopen'⟩ :
    (counted.abortLowerPriority source).receiver = counted.receiver ∧ _ := abort_receiver
  refine ⟨sends_start rfl rfl rfl hidle, receives_start ?_ rfl rfl rfl (resetSession_buffer _), ?_,
    Nat.zero_le _, ?_, ?_⟩
  · have hscratch : (counted.abortLowerPriority source).transport.rxScratch = l.transport.rxScratch := by
      rw [← hcounted] at hreceiver ⊢
      exact congrArg Receiver.rxScratch hreceiver
    exact (congrArg List.length hscratch).trans h.receives.scratch
  · intro hawaiting
    cases hawaiting
  · refine Eq.trans hinit' ?_
    rw [← hcounted]
    exact hinit
  · rintro _ ⟨⟩
    refine Eq.trans hopen' ?_
    rw [← hcounted]
    exact hopen

/-- Only the members of the receiver may differ, besides counters, statistics and the edge
of `takeSessionStarted`. -/
structure OnlyReceiver (l l' : Link σ ρ) : Prop where
  sender : l'.sender = l.sender
  awaiting : l'.transport.commandAwaitingResponse = l.transport.commandAwaitingResponse
  initialized : l'.transport.sessionStateInitialized = l.transport.sessionStateInitialized
  open_eq : l'.transport.sessionOpen = l.transport.sessionOpen

/-- Not even those. -/
structure Alike (l l' : Link σ ρ) : Prop extends OnlyReceiver l l' where
  receiver : l'.receiver = l.receiver

theorem OnlyReceiver.trans {l' l'' : Link σ ρ} (h : OnlyReceiver l l') (h' : OnlyReceiver l' l'') :
    OnlyReceiver l l'' :=
  ⟨h'.sender.trans h.sender, h'.awaiting.trans h.awaiting, h'.initialized.trans h.initialized,
    h'.open_eq.trans h.open_eq⟩

theorem Alike.trans {l' l'' : Link σ ρ} (h : Alike l l') (h' : Alike l' l'') : Alike l l'' :=
  ⟨h.toOnlyReceiver.trans h'.toOnlyReceiver, h'.receiver.trans h.receiver⟩

theorem Sound.received {l' : Link σ ρ} {read : Bytes} (h : Sound contract decode l w)
    (ho : OnlyReceiver l l') (hr : Receives decode l'.receiver read w.taken) :
    Sound contract decode l' { w with read := read } where
  sends := ho.sender ▸ h.sends
  receives := hr
  reserved := by
    have hqueue : l'.transport.responseQueue = l.transport.responseQueue :=
      congrArg Sender.responseQueue ho.sender
    rw [ho.awaiting, hqueue]
    exact h.reserved
  paired := by
    rw [ho.awaiting]
    exact h.paired
  initialized := ho.initialized.trans h.initialized
  observed := by
    rw [ho.open_eq]
    exact h.observed

theorem Sound.alike {l' : Link σ ρ} (h : Sound contract decode l w) (ha : Alike l l') :
    Sound contract decode l' w :=
  h.received ha.toOnlyReceiver (ha.receiver ▸ h.receives)

theorem count_alike (l : Link σ ρ) (f : TransportSnapshot → TransportSnapshot) : Alike l (l.count f) :=
  ⟨⟨rfl, rfl, rfl, rfl⟩, rfl⟩

theorem statistics_alike (l : Link σ ρ) (s : TransportStatistics) :
    Alike l { l with statistics := s } := ⟨⟨rfl, rfl, rfl, rfl⟩, rfl⟩

theorem recordIoError_alike (l : Link σ ρ) : Alike l l.recordIoError := ⟨⟨rfl, rfl, rfl, rfl⟩, rfl⟩

theorem Alike.refl (l : Link σ ρ) : Alike l l := ⟨⟨rfl, rfl, rfl, rfl⟩, rfl⟩

theorem Alike.ite {c : Prop} [Decidable c] {a b : Link σ ρ} (ha : Alike l a) (hb : Alike l b) :
    Alike l (if c then a else b) := by
  split
  · exact ha
  · exact hb

theorem recordRxStall_alike (l : Link σ ρ) : Alike l l.recordRxStall := ⟨⟨rfl, rfl, rfl, rfl⟩, rfl⟩

theorem recordTxStall_alike (l : Link σ ρ) : Alike l l.recordTxStall := ⟨⟨rfl, rfl, rfl, rfl⟩, rfl⟩

theorem publishParserDelta_alike (l : Link σ ρ) : Alike l l.publishParserDelta :=
  ⟨⟨rfl, rfl, rfl, rfl⟩, rfl⟩

theorem countOpened_alike (l : Link σ ρ) : Alike l l.countOpened := ⟨⟨rfl, rfl, rfl, rfl⟩, rfl⟩

theorem countClosed_alike (l : Link σ ρ) : Alike l l.countClosed := ⟨⟨rfl, rfl, rfl, rfl⟩, rfl⟩

/-- The first answer. -/
theorem observeSession_first (hinit : l.transport.sessionStateInitialized = false) (b : Bool) :
    Alike (l.onTransport fun t => { t with sessionOpen := b, sessionStateInitialized := true })
      (l.observeSession source b) := by
  unfold Link.observeSession Link.handleSessionTransition
  rw [hinit, Bool.false_and, if_neg Bool.false_ne_true]
  dsimp only
  rw [if_pos (show (!false) = true from rfl)]
  split
  · exact countOpened_alike _
  · exact ⟨⟨rfl, rfl, rfl, rfl⟩, rfl⟩

/-- Another answer than the one before. -/
theorem observeSession_edge (hinit : l.transport.sessionStateInitialized = true) {b : Bool}
    (hb : b ≠ l.transport.sessionOpen) :
    Alike ((l.onTransport fun t => { t with sessionOpen := b }).resetSessionQueues source)
      (l.observeSession source b) := by
  unfold Link.observeSession Link.handleSessionTransition
  rw [hinit, Bool.true_and, decide_eq_false hb, if_neg Bool.false_ne_true]
  dsimp only
  rw [if_neg (show ¬ (!true) = true by decide)]
  split
  · exact countOpened_alike _
  · exact countClosed_alike _

/-- The stream says that it is open or not; only another answer than the one before ends a
session. -/
theorem Sound.observeSession (h : Sound contract decode l w) (b : Bool) :
    Sound contract decode (l.observeSession source b) (w.observe b) := by
  have hinit := h.initialized
  unfold Session.observe
  cases hobserved : w.observed with
  | none =>
    rw [hobserved] at hinit
    have hfirst : Sound contract decode
        (l.onTransport fun t => { t with sessionOpen := b, sessionStateInitialized := true })
        { w with observed := some b } := by
      refine ⟨h.sends, h.receives, h.reserved, h.paired, rfl, ?_⟩
      rintro _ ⟨⟩
      rfl
    exact hfirst.alike (observeSession_first hinit b)
  | some b' =>
    rw [hobserved] at hinit
    have hopen := h.observed b' hobserved
    dsimp only
    by_cases hb : b = b'
    · rw [if_pos hb]
      unfold Link.observeSession
      rw [show l.transport.sessionStateInitialized = true from hinit, hopen, Bool.true_and,
        if_pos (decide_eq_true hb)]
      exact h
    · rw [if_neg hb]
      have hsame : Sound contract decode (l.onTransport fun t => { t with sessionOpen := b })
          { w with observed := some b } := by
        refine ⟨h.sends, h.receives, h.reserved, h.paired, hinit, ?_⟩
        rintro _ ⟨⟩
        rfl
      have hreset := hsame.resetSessionQueues hinit rfl
      exact hreset.alike (observeSession_edge hinit (hopen.symm ▸ hb))

/-! ### The receiver -/

/-- A call of `feed` takes something. -/
theorem feed_consumed_pos (decode : Bytes → Except Result ρ) (p : IncrementalCommandParser)
    {input : Bytes} (h : input ≠ []) : 0 < (p.feed decode input {}).1.consumed := by
  cases input with
  | nil => exact absurd rfl h
  | cons x input =>
    unfold IncrementalCommandParser.feed
    split
    · exact Nat.succ_pos _
    · exact Nat.one_pos

/-- `consumed` pending bytes go from the front. -/
theorem advanceReceive_receiver {consumed : ℕ}
    (hle : l.transport.rxPendingOffset + consumed ≤ l.transport.rxPendingSize) :
    (l.advanceReceive consumed).receiver.pending = l.receiver.pending.drop consumed ∧
      (l.advanceReceive consumed).receiver.rxPendingOffset ≤
        (l.advanceReceive consumed).receiver.rxPendingSize ∧
      (l.advanceReceive consumed).receiver.rxPendingSize ≤ l.transport.rxPendingSize := by
  have hpending : l.receiver.pending.drop consumed =
      slice l.transport.rxScratch (l.transport.rxPendingOffset + consumed)
        (l.transport.rxPendingSize - (l.transport.rxPendingOffset + consumed)) := by
    unfold Receiver.pending Link.receiver slice
    dsimp only
    rw [List.drop_take, List.drop_drop, Nat.sub_sub]
  rw [hpending]
  unfold Link.advanceReceive Link.onTransport Link.count Link.receiver Receiver.pending
  dsimp only [Link.onTransport]
  split
  · rename_i hall
    refine ⟨?_, Nat.le_refl _, Nat.zero_le _⟩
    unfold slice
    rw [hall, Nat.sub_self, Nat.sub_self, List.take_zero, List.take_zero]
  · exact ⟨rfl, hle, Nat.le_refl _⟩

/-- The members behind a call of `feed` with the first `offered` pending bytes: its delivery
is not in the queue yet. -/
theorem fed_receives {read : Bytes} {taken : List (ParsedCommand ρ)}
    (h : Receives decode l.receiver read taken) {offered : ℕ}
    (hoffered : l.transport.rxPendingOffset + offered ≤ l.transport.rxPendingSize)
    {result : FeedResult} {q : IncrementalCommandParser} {command : ParsedCommand ρ}
    (hfed : Fed decode l.transport.parser
      (slice l.transport.rxScratch l.transport.rxPendingOffset offered) result q command)
    {l' : Link σ ρ}
    (hl' : l' = (l.onTransport fun t => { t with parser := q }).advanceReceive result.consumed)
    (queue : List (ParsedCommand ρ)) (hqueue : queue = l.transport.commandQueue ++
      if result.commandReady || result.rejectionReady then [command] else [])
    (hdepth : queue.length ≤ kCommandQueueDepth) :
    Receives decode { l'.receiver with commandQueue := queue } read taken := by
  obtain ⟨fed, es, hread, hscans, hevents⟩ := h.scans
  obtain ⟨gs, hgs, hnew⟩ := hfed.scans
  have hscratch : l.transport.rxScratch.length = kUsbRxScratchBytes := h.scratch
  have hsize : l.transport.rxPendingSize ≤ kUsbRxScratchBytes := h.size
  have hinput : slice l.transport.rxScratch l.transport.rxPendingOffset offered =
      l.receiver.pending.take offered := by
    unfold Receiver.pending Link.receiver slice
    dsimp only
    rw [List.take_take, Nat.min_eq_left (by omega)]
  have hconsumed := hfed.consumed_le
  rw [length_slice, hscratch] at hconsumed
  obtain ⟨hpending, hoffset', hsize'⟩ : l'.receiver.pending = l.receiver.pending.drop result.consumed ∧
      l'.receiver.rxPendingOffset ≤ l'.receiver.rxPendingSize ∧
      l'.receiver.rxPendingSize ≤ l.transport.rxPendingSize := by
    rw [hl']
    exact advanceReceive_receiver (l := l.onTransport fun t => { t with parser := q })
      (by dsimp only [Link.onTransport]; omega)
  have hparser : l'.receiver.parser = q := by
    rw [hl']
    unfold Link.advanceReceive Link.receiver
    dsimp only [Link.onTransport, Link.count]
    split
    · rfl
    · rfl
  have hscratch' : l'.receiver.rxScratch = l.transport.rxScratch := by
    rw [hl']
    unfold Link.advanceReceive Link.receiver
    dsimp only [Link.onTransport, Link.count]
    split
    · rfl
    · rfl
  refine ⟨(congrArg List.length hscratch').trans hscratch, hsize'.trans hsize, hoffset', hdepth,
    hparser ▸ hfed.settled, fed ++ l.receiver.pending.take result.consumed, es ++ gs, ?_, ?_, ?_⟩
  · change read = _ ++ l'.receiver.pending
    rw [hpending, List.append_assoc, List.take_append_drop]
    exact hread
  · rw [hinput, List.take_take, Nat.min_eq_left (by omega)] at hgs
    change Scans _ _ _ l'.receiver.parser.buffer
    rw [hparser]
    exact (hscans.append verdict_stable _).trans hgs
  · change _ = taken ++ queue
    rw [events_append, hevents, hnew, hqueue, List.append_assoc]
    rfl

/-- What a turn of the loop that feeds the parser does. -/
structure Processed (decode : Bytes → Except Result ρ) (l : Link σ ρ) (report : ServiceReport)
    (read : Bytes) (taken : List (ParsedCommand ρ)) (report' : ServiceReport) (l' : Link σ ρ) :
    Prop extends OnlyReceiver l l' where
  receives : Receives decode l'.receiver read taken
  processed : report.bytesProcessed < report'.bytesProcessed
  budget : report'.bytesProcessed ≤ kUsbRxBudgetBytesPerLoop
  same : report'.ioCalls = report.ioCalls ∧ report'.bytesRead = report.bytesRead

theorem advanceReceive_only (l : Link σ ρ) (q : IncrementalCommandParser) (consumed : ℕ) :
    OnlyReceiver l ((l.onTransport fun t => { t with parser := q }).advanceReceive consumed) ∧
      ((l.onTransport fun t => { t with parser := q }).advanceReceive consumed).transport.commandQueue =
        l.transport.commandQueue := by
  unfold Link.advanceReceive
  dsimp only [Link.onTransport, Link.count]
  split
  · exact ⟨⟨rfl, rfl, rfl, rfl⟩, rfl⟩
  · exact ⟨⟨rfl, rfl, rfl, rfl⟩, rfl⟩

theorem processPendingReceive_processed {report : ServiceReport} {read : Bytes}
    {taken : List (ParsedCommand ρ)} (h : Receives decode l.receiver read taken)
    (hpending : l.transport.rxPendingOffset < l.transport.rxPendingSize)
    (hroom : l.transport.commandQueue.length < kCommandQueueDepth)
    (hbudget : report.bytesProcessed < kUsbRxBudgetBytesPerLoop) :
    (l.processPendingReceive decode report).1.1 = true ∧
      Processed decode l report read taken (l.processPendingReceive decode report).1.2
        (l.processPendingReceive decode report).2 := by
  have hoffered : min (l.transport.rxPendingSize - l.transport.rxPendingOffset)
      (kUsbRxBudgetBytesPerLoop - report.bytesProcessed) ≠ 0 := by omega
  have hscratch : l.transport.rxScratch.length = kUsbRxScratchBytes := h.scratch
  have hsize : l.transport.rxPendingSize ≤ kUsbRxScratchBytes := h.size
  unfold Link.processPendingReceive
  dsimp only
  rw [if_neg (Nat.not_le.mpr hpending), if_neg (Nat.not_le.mpr hroom), if_neg hoffered]
  obtain ⟨offered, hoff⟩ : ∃ offered, offered = min
    (l.transport.rxPendingSize - l.transport.rxPendingOffset)
    (kUsbRxBudgetBytesPerLoop - report.bytesProcessed) := ⟨_, rfl⟩
  rw [← hoff] at hoffered ⊢
  have hlength : (slice l.transport.rxScratch l.transport.rxPendingOffset offered).length = offered := by
    rw [length_slice]
    omega
  have hnonempty : slice l.transport.rxScratch l.transport.rxPendingOffset offered ≠ [] := by
    intro hnil
    rw [hnil] at hlength
    exact hoffered hlength.symm
  have hpos := feed_consumed_pos decode l.transport.parser hnonempty
  have hfed : Fed decode l.transport.parser
    (slice l.transport.rxScratch l.transport.rxPendingOffset offered) _ _ _ := feed_fed h.settled
  generalize l.transport.parser.feed decode
    (slice l.transport.rxScratch l.transport.rxPendingOffset offered) {} = fed at hpos hfed ⊢
  obtain ⟨result, q, command⟩ := fed
  dsimp only at hpos hfed ⊢
  have hle := hfed.consumed_le
  rw [hlength] at hle
  obtain ⟨honly, hqueue⟩ := advanceReceive_only l q result.consumed
  have hinside : l.transport.rxPendingOffset + offered ≤ l.transport.rxPendingSize := by omega
  have hreceives := fed_receives h hinside hfed rfl
  rw [if_neg (by omega)]
  generalize (l.onTransport fun t => { t with parser := q }).advanceReceive result.consumed = l'
    at honly hqueue hreceives ⊢
  by_cases hready : (result.commandReady || result.rejectionReady) = true
  · rw [if_pos hready, if_neg (by rw [hqueue]; omega)]
    refine ⟨rfl, ⟨⟨honly.sender, honly.awaiting, honly.initialized, honly.open_eq⟩, ?_, by
      dsimp only; omega, by dsimp only; omega, rfl, rfl⟩⟩
    refine hreceives _ ?_ ?_
    · rw [if_pos hready]
      exact congrArg (· ++ [command]) hqueue
    · change (l'.transport.commandQueue ++ [command]).length ≤ _
      rw [hqueue, List.length_append, List.length_singleton]
      omega
  · rw [if_neg hready]
    refine ⟨rfl, ⟨honly, ?_, by dsimp only; omega, by dsimp only; omega, rfl, rfl⟩⟩
    refine hreceives _ ?_ ?_
    · rw [if_neg hready, List.append_nil]
      exact hqueue
    · change l'.transport.commandQueue.length ≤ _
      rw [hqueue]
      omega

/-- What is behind the pending bytes does not matter. -/
theorem storeReceived_receives {read : Bytes} {taken : List (ParsedCommand ρ)}
    (h : Receives decode l.receiver read taken)
    (hempty : l.transport.rxPendingSize ≤ l.transport.rxPendingOffset) (destination : Bytes) :
    Receives decode (l.storeReceived destination).receiver read taken := by
  obtain ⟨fed, es, hread, hscans, hevents⟩ := h.scans
  have hpending : (l.storeReceived destination).receiver.pending = l.receiver.pending := by
    unfold Receiver.pending slice
    change List.take (l.transport.rxPendingSize - l.transport.rxPendingOffset) _ =
      List.take (l.transport.rxPendingSize - l.transport.rxPendingOffset) _
    rw [Nat.sub_eq_zero_of_le hempty, List.take_zero, List.take_zero]
  refine ⟨?_, h.size, h.offset, h.depth, h.settled, fed, es, hpending ▸ hread, hscans, hevents⟩
  exact (length_store _ _ _).trans h.scratch

/-- New bytes come when all the old ones are with the parser. -/
theorem acceptReceived_receives {read : Bytes} {taken : List (ParsedCommand ρ)}
    (h : Receives decode l.receiver read taken)
    (hempty : l.transport.rxPendingSize ≤ l.transport.rxPendingOffset) {destination : Bytes}
    (hlength : destination.length ≤ kUsbRxScratchBytes) {accepted : ℕ}
    (haccepted : accepted ≤ destination.length) {l' : Link σ ρ}
    (hl' : Alike (l.storeReceived destination) l') :
    Receives decode (l'.acceptReceived accepted).receiver (read ++ destination.take accepted) taken := by
  obtain ⟨fed, es, hread, hscans, hevents⟩ := h.scans
  have hscratch : l.transport.rxScratch.length = kUsbRxScratchBytes := h.scratch
  have hnone : l.receiver.pending = [] := by
    unfold Receiver.pending slice Link.receiver
    dsimp only
    rw [Nat.sub_eq_zero_of_le hempty, List.take_zero]
  have hstored : l'.transport.rxScratch = Wire.store l.transport.rxScratch 0 destination :=
    congrArg Receiver.rxScratch hl'.receiver
  have hparser : l'.transport.parser = l.transport.parser := congrArg Receiver.parser hl'.receiver
  have hqueue : l'.transport.commandQueue = l.transport.commandQueue :=
    congrArg Receiver.commandQueue hl'.receiver
  have hpending : (l'.acceptReceived accepted).receiver.pending = destination.take accepted := by
    change slice l'.transport.rxScratch 0 (accepted - 0) = _
    unfold slice
    rw [hstored, store_zero (by rw [hscratch]; exact hlength), Nat.sub_zero, List.drop_zero,
      List.take_append_of_le_length haccepted]
  refine ⟨?_, haccepted.trans hlength, Nat.zero_le _, ?_, ?_, fed, es, ?_, ?_, ?_⟩
  · change l'.transport.rxScratch.length = _
    rw [hstored, length_store, hscratch]
  · change l'.transport.commandQueue.length ≤ _
    rw [hqueue]
    exact h.depth
  · change Settled decode l'.transport.parser.buffer
    rw [hparser]
    exact h.settled
  · rw [hpending, hread, hnone, List.append_nil]
  · change Scans _ _ _ l'.transport.parser.buffer
    rw [hparser]
    exact hscans
  · change _ = taken ++ l'.transport.commandQueue
    rw [hqueue]
    exact hevents

/-! ### The runtime -/

theorem Sound.takeCommand (h : Sound contract decode l w) :
    Sound contract decode l.takeCommand.2
      { w with taken := w.taken ++ l.takeCommand.1.toList } := by
  obtain ⟨fed, es, hread, hscans, hevents⟩ := h.receives.scans
  unfold Link.takeCommand
  dsimp only
  split
  · rw [Option.toList_none, List.append_nil]
    exact h
  · rename_i hfree
    rw [Bool.or_eq_true, decide_eq_true_eq, not_or] at hfree
    split
    · rw [Option.toList_none, List.append_nil]
      exact h
    · rename_i command rest hqueue
      have hdepth := h.receives.depth
      rw [show l.receiver.commandQueue = command :: rest from hqueue, List.length_cons] at hdepth
      refine ⟨h.sends, ⟨h.receives.scratch, h.receives.size, h.receives.offset,
        (Nat.le_succ _).trans hdepth, h.receives.settled, fed, es, hread, hscans, ?_⟩,
        fun _ => Nat.not_le.mp hfree.2, ?_, h.initialized, h.observed⟩
      swap
      · have hpaired := h.paired
        rw [if_neg hfree.1] at hpaired
        change (w.taken ++ [command]).length ≤ w.queued.length + w.abandoned + 1
        rw [List.length_append, List.length_singleton]
        omega
      rw [hevents, show l.receiver.commandQueue = command :: rest from hqueue, List.append_assoc]
      rfl

theorem Underway.queue {t : Sender σ} {fs : List Bytes} {part : Bytes}
    (h : Underway contract t fs part) (response : Bytes) :
    Underway contract { t with responseQueue := t.responseQueue ++ [response] } fs part := by
  cases h with
  | none hkind hoffset hidle => exact .none hkind hoffset hidle
  | @response r rest hkind hqueue hpos hlt hidle =>
    have hqueue' : t.responseQueue ++ [response] = r :: (rest ++ [response]) := by
      rw [hqueue, List.cons_append]
    exact .response (t := { t with responseQueue := t.responseQueue ++ [response] }) hkind hqueue' hpos
      hlt hidle
  | data hkind hframe hpos hlt hvalid hsending =>
    exact .data (t := { t with responseQueue := t.responseQueue ++ [response] }) hkind hframe hpos hlt
      hvalid hsending

theorem Sound.queueResponse (h : Sound contract decode l w) (cpuHz : ℕ)
    (responses : FrameHeader → Bytes → Result) (response : Bytes) :
    Sound contract decode (l.queueResponse cpuHz responses response).2
      { w with queued := w.queued ++
          if (l.queueResponse cpuHz responses response).1 then [response] else [] } := by
  unfold Link.queueResponse
  split
  · rw [if_neg Bool.false_ne_true, List.append_nil]
    exact h.alike ((count_alike l _).trans (recordIoError_alike _))
  · rename_i hadmits
    rw [Bool.or_eq_true, Bool.not_eq_true', decide_eq_true_eq, not_or, Bool.not_eq_false] at hadmits
    obtain ⟨hadmits, hroom⟩ := hadmits
    have hne : response ≠ [] := by
      rintro rfl
      exact absurd hadmits (by simp [Link.admitsResponse])
    obtain ⟨done, part, hsends⟩ := h.sends
    refine ⟨⟨done, part, hsends.sent_eq, ?_, ?_, ?_, hsends.data, hsends.underway.queue response⟩,
      h.receives, fun hawaiting => (by cases hawaiting), ?_, h.initialized, h.observed⟩
    · rw [if_pos rfl, hsends.queued_eq, List.append_assoc]
      rfl
    · change (l.transport.responseQueue ++ [response]).length ≤ _
      rw [List.length_append, List.length_singleton]
      omega
    · intro r hr
      rcases List.mem_append.mp hr with hr | hr
      · exact hsends.responses r hr
      · rw [List.mem_singleton.mp hr]
        exact hne
    · have hpaired := h.paired
      change w.taken.length ≤ (w.queued ++ [response]).length + w.abandoned + 0
      rw [List.length_append, List.length_singleton]
      split at hpaired
      · omega
      · omega

/-- The place of a response that will not come is free again. -/
theorem Sound.abandonResponseReservation (h : Sound contract decode l w) :
    Sound contract decode l.abandonResponseReservation.2
      { w with abandoned := w.abandoned + if l.abandonResponseReservation.1 then 1 else 0 } := by
  have hpaired := h.paired
  unfold Link.abandonResponseReservation
  split
  · exact h
  · rename_i hawaiting
    rw [Bool.not_eq_true', Bool.not_eq_false] at hawaiting
    refine ⟨h.sends, h.receives, fun hno => (by cases hno), ?_, h.initialized, h.observed⟩
    rw [if_pos hawaiting] at hpaired
    exact hpaired

theorem Sound.takeSessionStarted (h : Sound contract decode l w) :
    Sound contract decode l.takeSessionStarted.2 w :=
  h.alike ⟨⟨rfl, rfl, rfl, rfl⟩, rfl⟩

end Sound

end ThingDaq.Usb
