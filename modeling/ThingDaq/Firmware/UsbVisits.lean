import ThingDaq.Firmware.UsbSession

/-!
# Visits of the transport

The two loops of the transport keep the invariants of a session, whatever the stream
answers in between, and they end within their budgets.  From that, what holds of every
state the transport can reach with its source and the runtime doing what they may.

## Main definitions

* `Reaches` — the states that visits, the runtime and the source lead to.

## Main results

* `serviceReceive_keeps`, `serviceTransmit_keeps` — a visit.
* `stream_is_whole_frames` — what a session sends.
* `commands_are_taken_in_order`, `taken_command_has_room` — what it receives, and the room for
  the answers.
* `visits_end_within_budget` — the loops end.
-/

namespace ThingDaq.Usb

open Wire Control Commands Calls Scanner
open Prog (Turn)

section Sender

variable {σ ρ : Type} {experiment : InputExperiment} {source : LowerPriorityFrameSource σ}
  {contract : Contract experiment source} {decode : Bytes → Except Result ρ}
  {l : Link σ ρ} {w : Session ρ}

/-- Only the members of the sender may differ, besides counters and statistics. -/
structure OnlySender (l l' : Link σ ρ) : Prop where
  receiver : l'.receiver = l.receiver
  awaiting : l'.transport.commandAwaitingResponse = l.transport.commandAwaitingResponse
  initialized : l'.transport.sessionStateInitialized = l.transport.sessionStateInitialized
  open_eq : l'.transport.sessionOpen = l.transport.sessionOpen
  queue_le : l'.transport.responseQueue.length ≤ l.transport.responseQueue.length

theorem Alike.onlySender {l' : Link σ ρ} (h : Alike l l') : OnlySender l l' :=
  ⟨h.receiver, h.awaiting, h.initialized, h.open_eq,
    (congrArg (List.length ∘ Sender.responseQueue) h.sender).le⟩

theorem OnlySender.trans {l' l'' : Link σ ρ} (h : OnlySender l l') (h' : OnlySender l' l'') :
    OnlySender l l'' :=
  ⟨h'.receiver.trans h.receiver, h'.awaiting.trans h.awaiting, h'.initialized.trans h.initialized,
    h'.open_eq.trans h.open_eq, h'.queue_le.trans h.queue_le⟩

theorem Sound.sent {l' : Link σ ρ} {sent : Bytes} (h : Sound contract decode l w)
    (ho : OnlySender l l') (hs : Sends contract l'.sender sent w.queued) :
    Sound contract decode l' { w with sent := sent } where
  sends := hs
  receives := ho.receiver ▸ h.receives
  reserved := by
    rw [ho.awaiting]
    exact fun hawaiting => ho.queue_le.trans_lt (h.reserved hawaiting)
  paired := by
    rw [ho.awaiting]
    exact h.paired
  initialized := ho.initialized.trans h.initialized
  observed := by
    rw [ho.open_eq]
    exact h.observed

/-! ### The choice of a frame -/

/-- The frame that goes next, with the part of it that went. -/
inductive Chosen (contract : Contract experiment source) (t : Sender σ) (fs : List Bytes) :
    FrameSelection → Bytes → Prop
  | response {r : Bytes} {rest : List Bytes} (hqueue : t.responseQueue = r :: rest)
      (hlt : t.txOffset < r.length) (hkind : t.activeFrame = .response ∨
        t.activeFrame = .none ∧ t.txOffset = 0) (hidle : contract.idle fs t.lowerPriority) :
      Chosen contract t fs ⟨.response, r⟩ (r.take t.txOffset)
  | first (hne : source.frontFrame t.lowerPriority ≠ []) (hoffset : t.txOffset = 0)
      (hkind : t.activeFrame = .none) (hidle : contract.idle fs t.lowerPriority) :
      Chosen contract t fs ⟨.lowerPriority, source.frontFrame t.lowerPriority⟩ []
  | rest {f : Bytes} (hkind : t.activeFrame = .lowerPriority)
      (hframe : t.activeLowerPriorityFrame = f) (hpos : 0 < t.txOffset) (hlt : t.txOffset < f.length)
      (hvalid : validDataView experiment f = true)
      (hsending : contract.sending fs f t.lowerPriority) :
      Chosen contract t fs ⟨.lowerPriority, f⟩ (f.take t.txOffset)

theorem selectTransmitFrame_chosen {sent : Bytes} {queued : List Bytes} {done : List Sent}
    {part : Bytes} (h : SendsOf contract l.sender sent queued done part) :
    (l.selectTransmitFrame experiment source).1.kind = .none ∧
        OnlySender l (l.selectTransmitFrame experiment source).2 ∧
        SendsOf contract (l.selectTransmitFrame experiment source).2.sender sent queued done part ∨
      (l.selectTransmitFrame experiment source).1.kind ≠ .none ∧
        (l.selectTransmitFrame experiment source).2 = l ∧
        Chosen contract l.sender (Sent.datas done) (l.selectTransmitFrame experiment source).1 part := by
  unfold Link.selectTransmitFrame
  dsimp only
  have hunderway := h.underway
  cases hunderway with
  | none hkind hoffset hidle =>
    rw [show l.transport.activeFrame = .none from hkind]
    dsimp only
    split
    · rename_i response rest hqueue
      refine .inr ⟨ActiveFrame.noConfusion, rfl, ?_⟩
      have hlt : l.sender.txOffset < response.length := by
        rw [hoffset]
        refine List.length_pos_iff.mpr (h.responses response ?_)
        rw [show l.sender.responseQueue = response :: rest from hqueue]
        exact List.mem_cons_self
      have hchosen := Chosen.response (t := l.sender) hqueue hlt (.inr ⟨hkind, hoffset⟩) hidle
      rwa [hoffset, List.take_zero] at hchosen
    · rename_i hqueue
      split
      · exact .inl ⟨rfl, (Alike.onlySender ⟨⟨rfl, rfl, rfl, rfl⟩, rfl⟩), h⟩
      · rename_i hempty
        have hne : source.frontFrame l.lowerPriority ≠ [] := by
          intro hnil
          rw [hnil] at hempty
          exact hempty rfl
        split
        · rename_i hinvalid
          rw [Bool.not_eq_true'] at hinvalid
          refine .inl ⟨rfl, ⟨rfl, rfl, rfl, rfl, Nat.le_refl _⟩, ?_⟩
          exact ⟨h.sent_eq, h.queued_eq, h.depth, h.responses, h.data,
            .none hkind hoffset (contract.refuse hidle hne hinvalid)⟩
        · exact .inr ⟨ActiveFrame.noConfusion, rfl, .first hne hoffset hkind hidle⟩
  | @response r rest hkind hqueue hpos hlt hidle =>
    rw [show l.transport.activeFrame = .response from hkind,
      show l.transport.responseQueue = r :: rest from hqueue]
    exact .inr ⟨ActiveFrame.noConfusion, rfl, .response hqueue hlt (.inl hkind) hidle⟩
  | @data f hkind hframe hpos hlt hvalid hsending =>
    rw [show l.transport.activeFrame = .lowerPriority from hkind,
      show l.transport.activeLowerPriorityFrame = f from hframe]
    exact .inr ⟨ActiveFrame.noConfusion, rfl, .rest hkind hframe hpos hlt hvalid hsending⟩

/-- A chosen frame has bytes that did not go yet. -/
theorem Chosen.lt {t : Sender σ} {fs : List Bytes} {selection : FrameSelection} {part : Bytes}
    (h : Chosen contract t fs selection part) : t.txOffset < selection.bytes.length := by
  cases h with
  | response _ hlt => exact hlt
  | first hne hoffset =>
    rw [hoffset]
    exact List.length_pos_iff.mpr hne
  | rest _ _ _ hlt => exact hlt

/-! ### The stream takes some of it -/

/-- What `acceptWritten` is called with: the frame of the source is prepared. -/
inductive Offered (contract : Contract experiment source) (t : Sender σ) (fs : List Bytes) :
    FrameSelection → Bytes → Prop
  | response {r : Bytes} {rest : List Bytes} (hqueue : t.responseQueue = r :: rest)
      (hlt : t.txOffset < r.length) (hkind : t.activeFrame = .response ∨
        t.activeFrame = .none ∧ t.txOffset = 0) (hidle : contract.idle fs t.lowerPriority) :
      Offered contract t fs ⟨.response, r⟩ (r.take t.txOffset)
  | first {f : Bytes} (hoffset : t.txOffset = 0) (hkind : t.activeFrame = .none)
      (hframe : source.frontFrame t.lowerPriority = f) (hready : contract.ready fs t.lowerPriority)
      (hvalid : validDataView experiment f = true) : Offered contract t fs ⟨.lowerPriority, f⟩ []
  | rest {f : Bytes} (hkind : t.activeFrame = .lowerPriority)
      (hframe : t.activeLowerPriorityFrame = f) (hpos : 0 < t.txOffset) (hlt : t.txOffset < f.length)
      (hvalid : validDataView experiment f = true)
      (hsending : contract.sending fs f t.lowerPriority) :
      Offered contract t fs ⟨.lowerPriority, f⟩ (f.take t.txOffset)

theorem Offered.part_eq {t : Sender σ} {fs : List Bytes} {selection : FrameSelection} {part : Bytes}
    (h : Offered contract t fs selection part) : part = selection.bytes.take t.txOffset := by
  cases h with
  | response => rfl
  | first hoffset =>
    rw [hoffset]
    exact List.take_zero.symm
  | rest => rfl

theorem take_append_slice_eq {b : Bytes} {offset accepted : ℕ} :
    b.take offset ++ slice b offset accepted = b.take (offset + accepted) := by
  unfold slice
  rw [List.take_add]

/-- The frame of the source is marked with its first byte. -/
def markStarted (source : LowerPriorityFrameSource σ) (kind : ActiveFrame) (t : Sender σ) : σ :=
  if t.txOffset = 0 ∧ kind = .lowerPriority then source.markFrontFrameStarted t.lowerPriority
  else t.lowerPriority

/-- Some of the frame is still to go. -/
def Sender.advance (source : LowerPriorityFrameSource σ) (t : Sender σ) (selection : FrameSelection)
    (accepted : ℕ) : Sender σ where
  responseQueue := t.responseQueue
  activeFrame := if t.txOffset = 0 then selection.kind else t.activeFrame
  activeLowerPriorityFrame :=
    if t.txOffset = 0 ∧ selection.kind = .lowerPriority then selection.bytes
    else t.activeLowerPriorityFrame
  txOffset := t.txOffset + accepted
  lowerPriority := markStarted source selection.kind t

/-- The whole frame went. -/
def Sender.complete (source : LowerPriorityFrameSource σ) (t : Sender σ) (kind : ActiveFrame) :
    Sender σ where
  responseQueue := if kind = .response then t.responseQueue.tail else t.responseQueue
  activeFrame := .none
  activeLowerPriorityFrame := []
  txOffset := 0
  lowerPriority :=
    if kind = .lowerPriority then source.releaseFrontFrame (markStarted source kind t)
    else t.lowerPriority

theorem acceptWritten_part {selection : FrameSelection} {accepted : ℕ} (hpos : 0 < accepted)
    (hlt : l.sender.txOffset + accepted < selection.bytes.length) :
    OnlySender l (l.acceptWritten source selection accepted) ∧
      (l.acceptWritten source selection accepted).sender =
        l.sender.advance source selection accepted := by
  change l.transport.txOffset + accepted < _ at hlt
  have hne : ¬ l.transport.txOffset + accepted = selection.bytes.length := by omega
  have hpos' : accepted ≠ 0 := by omega
  unfold Link.acceptWritten Sender.advance markStarted
  by_cases hoffset : l.transport.txOffset = 0
  · have hlt' : accepted < selection.bytes.length := by omega
    rw [hoffset, Nat.zero_add] at hne
    by_cases hkind : selection.kind = .lowerPriority
    · simp only [hoffset, hlt', hkind, hpos', hne, Link.onTransport, Link.count, Link.sender,
        and_self, ne_eq, not_false_eq_true, if_true, if_false, Nat.zero_add]
      exact ⟨⟨rfl, rfl, rfl, rfl, Nat.le_refl _⟩, trivial⟩
    · simp only [hoffset, hlt', hkind, hpos', hne, Link.onTransport, Link.count, Link.sender,
        and_self, and_false, ne_eq, not_false_eq_true, if_true, if_false, Nat.zero_add]
      exact ⟨⟨rfl, rfl, rfl, rfl, Nat.le_refl _⟩, trivial⟩
  · simp only [hoffset, hne, Link.onTransport, Link.count, Link.sender, false_and, if_false]
    exact ⟨⟨rfl, rfl, rfl, rfl, Nat.le_refl _⟩, trivial⟩

theorem acceptWritten_whole {selection : FrameSelection} {accepted : ℕ} (hpos : 0 < accepted)
    (heq : l.sender.txOffset + accepted = selection.bytes.length)
    (hkind : selection.kind = .response ∧ l.sender.responseQueue ≠ [] ∨
      selection.kind = .lowerPriority) :
    OnlySender l (l.acceptWritten source selection accepted) ∧
      (l.acceptWritten source selection accepted).sender =
        l.sender.complete source selection.kind := by
  change l.transport.txOffset + accepted = _ at heq
  have hpos' : accepted ≠ 0 := by omega
  unfold Link.acceptWritten Link.completeTransmitFrame Sender.complete markStarted
  -- a frame that goes at once is never the active one
  have hpinned : (if l.transport.txOffset = 0 ∧ accepted < selection.bytes.length then
      l.onTransport fun t =>
        { t with
          activeFrame := selection.kind
          activeLowerPriorityFrame :=
            if selection.kind = .lowerPriority then selection.bytes else t.activeLowerPriorityFrame }
    else l) = l := if_neg (by omega)
  dsimp only
  rw [hpinned]
  rcases hkind with ⟨hkind, hqueue⟩ | hkind
  · obtain ⟨r, rest, hcons⟩ := List.exists_cons_of_ne_nil hqueue
    change l.transport.responseQueue = r :: rest at hcons
    simp only [heq, hkind, hcons, Link.onTransport, Link.count, Link.sender, and_false, if_true,
      if_false, List.tail_cons, reduceCtorEq]
    exact ⟨⟨rfl, rfl, rfl, rfl, by rw [hcons]; exact Nat.le_succ _⟩, trivial⟩
  · by_cases hoffset : l.transport.txOffset = 0
    · rw [hoffset] at heq
      simp only [heq, hkind, hoffset, hpos', Link.onTransport, Link.count, Link.sender, and_self,
        ne_eq, not_false_eq_true, if_true, if_false, reduceCtorEq]
      exact ⟨⟨rfl, rfl, rfl, rfl, Nat.le_refl _⟩, trivial⟩
    · simp only [heq, hkind, hoffset, Link.onTransport, Link.count, Link.sender, false_and, if_true,
        if_false, reduceCtorEq]
      exact ⟨⟨rfl, rfl, rfl, rfl, Nat.le_refl _⟩, trivial⟩

/-- The stream took `accepted` bytes of the frame: they follow those it had. -/
theorem acceptWritten_sends {sent : Bytes} {queued : List Bytes} {done : List Sent} {part : Bytes}
    (h : SendsOf contract l.sender sent queued done part) {selection : FrameSelection}
    (ho : Offered contract l.sender (Sent.datas done) selection part) {accepted : ℕ} (hpos : 0 < accepted)
    (hle : l.sender.txOffset + accepted ≤ selection.bytes.length) :
    OnlySender l (l.acceptWritten source selection accepted) ∧
      Sends contract (l.acceptWritten source selection accepted).sender
        (sent ++ slice selection.bytes l.sender.txOffset accepted) queued := by
  have hbytes : sent ++ slice selection.bytes l.sender.txOffset accepted =
      Sent.wire done ++ selection.bytes.take (l.sender.txOffset + accepted) := by
    rw [h.sent_eq, List.append_assoc, ho.part_eq]
    exact congrArg _ take_append_slice_eq
  by_cases hwhole : l.sender.txOffset + accepted = selection.bytes.length
  · rw [hwhole, List.take_length] at hbytes
    rw [hbytes]
    -- the frame is one of those that went
    have hdone : ∀ x : Sent, x.bytes = selection.bytes → ∀ {t : Sender σ},
        queued = Sent.responses (done ++ [x]) ++ t.responseQueue →
        t.responseQueue.length ≤ l.sender.responseQueue.length →
        (∀ r ∈ t.responseQueue, r ∈ l.sender.responseQueue) →
        (∀ f, x = .data f → validDataView experiment f = true) →
        t.activeFrame = .none → t.txOffset = 0 →
        contract.idle (Sent.datas done ++ x.data?.toList) t.lowerPriority →
        Sends contract t (Sent.wire done ++ selection.bytes) queued := by
      intro x hx t hqueued hshort hmem hdata hkind hoffset hidle
      refine ⟨done ++ [x], [], ?_, hqueued, hshort.trans h.depth, fun r hr => h.responses r (hmem r hr),
        ?_, .none hkind hoffset (Sent.datas_snoc done x ▸ hidle)⟩
      · rw [Sent.wire_snoc, hx, List.append_nil]
      · intro f hf
        rcases List.mem_append.mp hf with hf | hf
        · exact h.data f hf
        · exact hdata f (List.mem_singleton.mp hf).symm
    cases ho with
    | @response r rest hqueue hlt hkind hidle =>
      have hne : l.sender.responseQueue ≠ [] := by
        rw [hqueue]
        exact List.cons_ne_nil _ _
      obtain ⟨honly, hsender⟩ : OnlySender l (l.acceptWritten source ⟨.response, r⟩ accepted) ∧ _ :=
        acceptWritten_whole hpos hwhole (.inl ⟨rfl, hne⟩)
      refine ⟨honly, ?_⟩
      rw [hsender]
      unfold Sender.complete
      rw [if_pos rfl, if_neg ActiveFrame.noConfusion, hqueue, List.tail_cons]
      refine hdone (.response r) rfl ?_ ?_ ?_ (fun f hf => by cases hf) rfl rfl
        ((List.append_nil (Sent.datas done)).symm ▸ hidle)
      · rw [h.queued_eq, hqueue, Sent.responses_snoc, List.append_assoc]
        rfl
      · rw [hqueue]
        exact Nat.le_succ _
      · intro b hb
        rw [hqueue]
        exact List.mem_cons_of_mem _ hb
    | @first f hoffset hkind hframe hready hvalid =>
      obtain ⟨honly, hsender⟩ : OnlySender l (l.acceptWritten source ⟨.lowerPriority, f⟩ accepted) ∧ _ :=
        acceptWritten_whole hpos hwhole (.inr rfl)
      have hsending := contract.mark hready (hframe.symm ▸ hvalid)
      rw [hframe] at hsending
      refine ⟨honly, ?_⟩
      rw [hsender]
      unfold Sender.complete markStarted
      rw [if_neg ActiveFrame.noConfusion, if_pos rfl, if_pos ⟨hoffset, rfl⟩]
      refine hdone (.data f) rfl ?_ (Nat.le_refl _) (fun r hr => hr) ?_ rfl rfl (contract.release hsending)
      · rw [h.queued_eq, Sent.responses_snoc]
        exact congrArg (· ++ _) (List.append_nil _).symm
      · rintro _ ⟨⟩
        exact hvalid
    | @rest f hkind hframe hpos' _ hvalid hsending =>
      obtain ⟨honly, hsender⟩ : OnlySender l (l.acceptWritten source ⟨.lowerPriority, f⟩ accepted) ∧ _ :=
        acceptWritten_whole hpos hwhole (.inr rfl)
      refine ⟨honly, ?_⟩
      rw [hsender]
      unfold Sender.complete markStarted
      rw [if_neg ActiveFrame.noConfusion, if_pos rfl, if_neg fun hc => Nat.ne_of_gt hpos' hc.1]
      refine hdone (.data f) rfl ?_ (Nat.le_refl _) (fun r hr => hr) ?_ rfl rfl (contract.release hsending)
      · rw [h.queued_eq, Sent.responses_snoc]
        exact congrArg (· ++ _) (List.append_nil _).symm
      · rintro _ ⟨⟩
        exact hvalid
  · have hlt : l.sender.txOffset + accepted < selection.bytes.length := by omega
    obtain ⟨honly, hsender⟩ : OnlySender l (l.acceptWritten source selection accepted) ∧ _ :=
      acceptWritten_part hpos hlt
    refine ⟨honly, done, selection.bytes.take (l.sender.txOffset + accepted), ?_⟩
    rw [hsender]
    refine ⟨hbytes, h.queued_eq, h.depth, h.responses, h.data, ?_⟩
    unfold Sender.advance markStarted
    cases ho with
    | @response r rest hqueue _ hkind hidle =>
      have hactive : (if l.sender.txOffset = 0 then ActiveFrame.response
          else l.sender.activeFrame) = .response := by
        split
        · rfl
        · rename_i hoffset
          exact hkind.resolve_right fun hc => hoffset hc.2
      rw [hactive, if_neg (fun hc => ActiveFrame.noConfusion hc.2),
        if_neg (fun hc => ActiveFrame.noConfusion hc.2)]
      exact .response rfl hqueue (Nat.add_pos_right _ hpos) hlt hidle
    | @first f hoffset hkind hframe hready hvalid =>
      rw [if_pos hoffset, if_pos ⟨hoffset, rfl⟩, if_pos ⟨hoffset, rfl⟩]
      have hsending := contract.mark hready (hframe.symm ▸ hvalid)
      rw [hframe] at hsending
      exact .data rfl rfl (Nat.add_pos_right _ hpos) hlt hvalid hsending
    | @rest f hkind hframe hpos' _ hvalid hsending =>
      have hoffset : ¬ l.sender.txOffset = 0 := Nat.ne_of_gt hpos'
      rw [if_neg hoffset, if_neg (fun hc => hoffset hc.1), if_neg (fun hc => hoffset hc.1)]
      exact .data hkind hframe (Nat.add_pos_right _ hpos) hlt hvalid hsending

end Sender

/-! ### Receiving -/

section Receive

variable {σ ρ : Type} {experiment : InputExperiment} {source : LowerPriorityFrameSource σ}
  {contract : Contract experiment source} {decode : Bytes → Except Result ρ}
  {l : Link σ ρ} {w : Session ρ} {report : ServiceReport} {past : List (Call cdcByteStream (Link σ ρ))}

theorem through_snoc (w : Session ρ) (past : List (Call cdcByteStream (Link σ ρ)))
    (c : Call cdcByteStream (Link σ ρ)) : w.through (past ++ [c]) = (w.through past).after c :=
  w.through_append past [c]

/-- Before and behind a turn of the receive loop, after the calls in `past`. -/
structure Receiving (contract : Contract experiment source) (decode : Bytes → Except Result ρ)
    (w : Session ρ) (report : ServiceReport) (l : Link σ ρ)
    (past : List (Call cdcByteStream (Link σ ρ))) : Prop where
  sound : Sound contract decode l (w.through past)
  processed : report.bytesProcessed ≤ kUsbRxBudgetBytesPerLoop
  calls : report.ioCalls ≤ kUsbRxCallsPerLoop

/-- What is left of both budgets. -/
def receiveMeasure (report : ServiceReport) : ℕ :=
  (kUsbRxBudgetBytesPerLoop - report.bytesProcessed) + (kUsbRxCallsPerLoop - report.ioCalls)

/-- What a turn leads to, with its calls. -/
abbrev Received (contract : Contract experiment source) (decode : Bytes → Except Result ρ)
    (w : Session ρ) (report : ServiceReport) (l : Link σ ρ)
    (past : List (Call cdcByteStream (Link σ ρ))) :
    Turn ServiceReport Left → Link σ ρ → List (Call cdcByteStream (Link σ ρ)) → Prop :=
  Prog.Turned (Receiving contract decode w) (fun report _ => receiveMeasure report)
    (fun left => Receiving contract decode w left.1) report l past

/-- A call that moves no bytes, between changes of the counters. -/
theorem Receiving.quiet {l' : Link σ ρ} {c : Call cdcByteStream (Link σ ρ)}
    (h : Receiving contract decode w report l past) (ha : Alike l l')
    (hc : (w.through past).after c = w.through past) :
    Receiving contract decode w report l' (past ++ [c]) where
  sound := by
    rw [through_snoc, hc]
    exact h.sound.alike ha
  processed := h.processed
  calls := h.calls

theorem Receiving.alike {l' : Link σ ρ} (h : Receiving contract decode w report l past)
    (ha : Alike l l') : Receiving contract decode w report l' past :=
  ⟨h.sound.alike ha, h.processed, h.calls⟩

theorem toNat_of_neg {c : IoCount} (h : c < 0) : c.toInt.toNat = 0 := by
  have hlt := Int32.lt_iff_toInt_lt.mp h
  rw [Int32.toInt_zero] at hlt
  omega

theorem toNat_pos {c : IoCount} (h : ¬ c < 0) (h' : ¬ c = 0) : 0 < c.toInt.toNat := by
  have hle := mt Int32.lt_iff_toInt_lt.mpr h
  have hne := mt Int32.toInt_inj.mp h'
  rw [Int32.toInt_zero] at hle hne
  omega

/-- A call of `read` that brought nothing. -/
theorem Receiving.readNothing {requested : ℕ} {reply : ReadReply requested} {s : Link σ ρ}
    (h : Receiving contract decode w report l past)
    (hempty : l.transport.rxPendingSize ≤ l.transport.rxPendingOffset)
    (hcount : reply.count.toInt.toNat = 0) (hcalls : report.ioCalls < kUsbRxCallsPerLoop)
    {l' : Link σ ρ} (ha : Alike (l.storeReceived reply.destination) l') :
    Receiving contract decode w { report with ioCalls := report.ioCalls + 1 } l'
      (past ++ [⟨s, StreamOp.read requested, reply⟩]) := by
  refine ⟨?_, h.processed, hcalls⟩
  rw [through_snoc]
  have hreceives := storeReceived_receives h.sound.receives hempty reply.destination
  rw [← ha.receiver, ← List.append_nil (w.through past).read, ← List.take_zero, ← hcount] at hreceives
  exact h.sound.received ⟨ha.sender, ha.awaiting, ha.initialized, ha.open_eq⟩ hreceives

/-- A call of `read` that brought something. -/
theorem Receiving.read {requested : ℕ} {reply : ReadReply requested} {s : Link σ ρ}
    (h : Receiving contract decode w report l past)
    (hempty : l.transport.rxPendingSize ≤ l.transport.rxPendingOffset)
    (hrequested : requested ≤ kUsbRxScratchBytes) (hcalls : report.ioCalls < kUsbRxCallsPerLoop)
    {l' : Link σ ρ} (ha : Alike (l.storeReceived reply.destination) l') :
    Receiving contract decode w
      { report with
        ioCalls := report.ioCalls + 1
        bytesRead := report.bytesRead + min reply.count.toInt.toNat requested }
      (l'.acceptReceived (min reply.count.toInt.toNat requested))
      (past ++ [⟨s, StreamOp.read requested, reply⟩]) := by
  have hsize := reply.size_eq
  refine ⟨?_, h.processed, hcalls⟩
  rw [through_snoc]
  have haccepted : min reply.count.toInt.toNat requested ≤ reply.destination.length := by
    rw [hsize]
    exact Nat.min_le_right _ _
  have hreceives := acceptReceived_receives h.sound.receives hempty (hsize.trans_le hrequested)
    haccepted ha
  have honly : OnlyReceiver l (l'.acceptReceived (min reply.count.toInt.toNat requested)) :=
    ⟨ha.sender, ha.awaiting, ha.initialized, ha.open_eq⟩
  have htake : reply.destination.take (min reply.count.toInt.toNat requested) =
      reply.destination.take reply.count.toInt.toNat := by
    rw [List.take_eq_take_iff, hsize]
    omega
  rw [htake] at hreceives
  exact h.sound.received honly hreceives

theorem receiveTurn_keeps (h : Receiving contract decode w report l past)
    (hempty : l.transport.rxPendingSize ≤ l.transport.rxPendingOffset)
    (hcalls : report.ioCalls < kUsbRxCallsPerLoop) :
    (receiveTurn report : Service σ ρ _).wp l (Received contract decode w report l past) := by
  unfold receiveTurn
  refine Prog.wp_modify_bind.mpr ?_
  refine Prog.wp_invoke_bind.mpr fun (available : IoCount) => ?_
  have hasked : ∀ {s l' : Link σ ρ}, Alike (l.count fun c =>
      { c with rxAvailableCalls := bump c.rxAvailableCalls }) l' →
      Receiving contract decode w report l' (past ++ [⟨s, StreamOp.available, available⟩]) :=
    fun ha => h.quiet ((count_alike l _).trans ha) rfl
  refine Prog.wp_ite (fun _ => ?_) fun _ => ?_
  · exact hasked (recordIoError_alike _)
  refine Prog.wp_ite (fun _ => ?_) fun _ => ?_
  · exact hasked ⟨⟨rfl, rfl, rfl, rfl⟩, rfl⟩
  refine Prog.wp_ite (fun _ => ?_) fun hrequested => ?_
  · exact hasked ⟨⟨rfl, rfl, rfl, rfl⟩, rfl⟩
  obtain ⟨requested, hreq⟩ : ∃ requested, requested =
      min (min available.toInt.toNat kUsbRxScratchBytes)
        (kUsbRxBudgetBytesPerLoop - report.bytesProcessed) := ⟨_, rfl⟩
  rw [← hreq] at hrequested ⊢
  refine Prog.wp_modify_bind.mpr ?_
  obtain ⟨asked, hasked'⟩ : ∃ asked, asked = (l.count fun c =>
      { c with rxAvailableCalls := bump c.rxAvailableCalls }).count fun c =>
      { c with rxReadCalls := bump c.rxReadCalls } := ⟨_, rfl⟩
  rw [← hasked']
  refine Prog.wp_invoke_bind.mpr fun (received : ReadReply requested) => ?_
  have hbefore : ∀ s : Link σ ρ, Receiving contract decode w report asked
      (past ++ [⟨s, StreamOp.available, available⟩]) := by
    intro s
    rw [hasked']
    exact hasked (count_alike _ _)
  have hempty' : asked.transport.rxPendingSize ≤ asked.transport.rxPendingOffset := by
    rw [hasked']
    exact hempty
  have happend : ∀ (x y : Call cdcByteStream (Link σ ρ)), past ++ [x, y] = past ++ [x] ++ [y] := by
    intro x y
    rw [List.append_assoc]
    rfl
  refine Prog.wp_modify_bind.mpr ?_
  dsimp only
  refine Prog.wp_ite (fun hneg => ?_) fun hneg => ?_
  · refine Prog.wp_modify_bind.mpr (Prog.wp_pure (Prog.turned_leave ?_))
    dsimp only
    rw [happend]
    exact (hbefore _).readNothing hempty' (toNat_of_neg hneg) hcalls (recordIoError_alike _)
  refine Prog.wp_ite (fun hzero => ?_) fun hzero => ?_
  · refine Prog.wp_modify_bind.mpr (Prog.wp_pure (Prog.turned_leave ?_))
    dsimp only
    rw [happend]
    exact (hbefore _).readNothing hempty' (congrArg (Int.toNat ∘ Int32.toInt) hzero) hcalls
      ((count_alike _ _).trans (recordIoError_alike _))
  have hpos := toNat_pos hneg hzero
  have hrequested' : requested ≤ kUsbRxScratchBytes := by omega
  have hnote : Alike (asked.storeReceived received.destination)
      ((asked.storeReceived received.destination).noteReceived received.count requested) := by
    unfold Link.noteReceived
    split
    · exact recordIoError_alike _
    · exact ⟨⟨rfl, rfl, rfl, rfl⟩, rfl⟩
  refine Prog.wp_modify_bind.mpr (Prog.wp_pure (Prog.turned_again ?_ ?_))
  · rw [happend]
    exact (hbefore _).read hempty' hrequested' hcalls hnote
  · unfold receiveMeasure
    dsimp only
    omega

theorem receiveBody_keeps (h : Receiving contract decode w report l past) :
    (receiveBody decode report : Service σ ρ _).wp l (Received contract decode w report l past) := by
  have hend : ∀ {l' : Link σ ρ}, Alike l l' → ∀ {report' : ServiceReport} {stalled : Bool},
      report'.bytesProcessed = report.bytesProcessed → report'.ioCalls = report.ioCalls →
      Received contract decode w report l past (.leave (report', stalled)) l' [] := by
    intro l' ha report' stalled hprocessed hcalls
    have hkept := h.alike ha
    refine Prog.turned_leave ⟨?_, hprocessed.trans_le hkept.processed, hcalls.trans_le hkept.calls⟩
    rw [List.append_nil]
    exact hkept.sound
  have hsame : Alike l l := ⟨⟨rfl, rfl, rfl, rfl⟩, rfl⟩
  unfold receiveBody
  refine Prog.wp_ite (fun hbudget => ?_) fun _ => Prog.wp_pure (hend hsame rfl rfl)
  refine Prog.wp_get_bind.mpr ?_
  refine Prog.wp_ite (fun _ => Prog.wp_pure (hend hsame rfl rfl)) fun hroom => ?_
  refine Prog.wp_ite (fun hpending => ?_) fun hpending => ?_
  · -- the parser takes some of the pending bytes
    refine Prog.wp_state_bind.mpr ?_
    obtain ⟨hok, hprocessed⟩ := processPendingReceive_processed h.sound.receives hpending
      (Nat.not_le.mp hroom) hbudget
    generalize l.processPendingReceive decode report = out at hok hprocessed ⊢
    obtain ⟨⟨ok, report'⟩, l'⟩ := out
    dsimp only at hok hprocessed ⊢
    rw [hok]
    obtain ⟨hcalls, -⟩ := hprocessed.same
    refine Prog.wp_pure (Prog.turned_again ?_ ?_)
    · rw [List.append_nil]
      exact ⟨h.sound.received hprocessed.toOnlyReceiver hprocessed.receives, hprocessed.budget,
        hcalls.trans_le h.calls⟩
    · have hmore := hprocessed.processed
      unfold receiveMeasure
      omega
  · refine Prog.wp_ite (fun _ => ?_) fun hcalls => ?_
    · refine Prog.wp_modify_bind.mpr (Prog.wp_pure ?_)
      exact hend (count_alike _ _) rfl rfl
    · exact receiveTurn_keeps h (Nat.not_lt.mp hpending) (Nat.not_le.mp hcalls)

theorem finishReceive_alike (l : Link σ ρ) (left : Left) :
    Alike l (l.finishReceive left).2 ∧
      (l.finishReceive left).1.bytesProcessed = left.1.bytesProcessed ∧
      (l.finishReceive left).1.ioCalls = left.1.ioCalls := by
  unfold Link.finishReceive
  dsimp only
  refine ⟨?_, rfl, rfl⟩
  have hexhausted : Alike l (if decide (left.1.bytesProcessed = kUsbRxBudgetBytesPerLoop) = true then
      l.count fun c => { c with rxByteBudgetExhaustions := bump c.rxByteBudgetExhaustions }
    else l) := (count_alike _ _).ite (Alike.refl l)
  refine hexhausted.trans (Alike.trans ?_ (publishParserDelta_alike _))
  exact (recordRxStall_alike _).ite ((count_alike _ _).ite (Alike.refl _))

/-- A visit of the receiver ends, within its budgets. -/
theorem serviceReceive_keeps (h : Sound contract decode l w) :
    (serviceReceive decode source).wp l fun result l' calls =>
      ∃ report, result = some report ∧ Sound contract decode l' (w.through calls) ∧
        report.bytesProcessed ≤ kUsbRxBudgetBytesPerLoop ∧ report.ioCalls ≤ kUsbRxCallsPerLoop := by
  unfold serviceReceive updateSessionState
  refine Prog.wp_invoke_bind.mpr fun (observedOpen : Bool) => ?_
  refine Prog.wp_modify_bind.mpr ?_
  refine Prog.wp_get_bind.mpr ?_
  have hobserved := h.observeSession observedOpen
  generalize l.observeSession source observedOpen = l₀ at hobserved ⊢
  refine Prog.wp_ite (fun _ => ?_) fun _ => ?_
  · refine Prog.wp_modify_bind.mpr (Prog.wp_pure ?_)
    exact ⟨{}, rfl, hobserved.alike ⟨⟨rfl, rfl, rfl, rfl⟩, rfl⟩, Nat.zero_le _, Nat.zero_le _⟩
  · have hstart : Receiving contract decode (w.observe observedOpen) {} l₀ [] :=
      ⟨hobserved, Nat.zero_le _, Nat.zero_le _⟩
    apply Prog.wp_bind
    have hloop : (Prog.loop (receiveBody decode) receiveFuel {}).wp l₀ fun result l' calls =>
        ∃ left, result = some left ∧
          Receiving contract decode (w.observe observedOpen) left.1 l' ([] ++ calls) :=
      Prog.wp_loop (Receiving contract decode (w.observe observedOpen))
        (fun report _ => receiveMeasure report) (fun _ _ _ hinv => receiveBody_keeps hinv) hstart
        (show receiveMeasure {} < receiveFuel by decide)
    refine Prog.wp_mono hloop ?_
    rintro result l' calls ⟨left, rfl, hleft⟩
    refine Prog.wp_state_bind.mpr (Prog.wp_pure ?_)
    obtain ⟨ha, hprocessed, hcalls⟩ := finishReceive_alike l' left
    rw [List.append_nil]
    exact ⟨_, rfl, hleft.sound.alike ha, hprocessed.trans_le hleft.processed,
      hcalls.trans_le hleft.calls⟩

end Receive

/-! ### Sending -/

section Transmit

variable {σ ρ : Type} {experiment : InputExperiment} {source : LowerPriorityFrameSource σ}
  {contract : Contract experiment source} {decode : Bytes → Except Result ρ}
  {l : Link σ ρ} {w : Session ρ} {report : ServiceReport} {past : List (Call cdcByteStream (Link σ ρ))}

/-- A write that is offered to the stream. -/
def Bounded (c : Call cdcByteStream (Link σ ρ)) : Prop :=
  ∀ bytes, c.op = StreamOp.write bytes → bytes ≠ [] ∧ bytes.length ≤ kUsbTxMaxWriteBytes

/-- Before and behind a turn of the transmit loop, after the calls in `past`. -/
structure Transmitting (contract : Contract experiment source) (decode : Bytes → Except Result ρ)
    (w : Session ρ) (report : ServiceReport) (l : Link σ ρ)
    (past : List (Call cdcByteStream (Link σ ρ))) : Prop where
  sound : Sound contract decode l (w.through past)
  written : report.bytesWritten ≤ kUsbTxBudgetBytesPerVisit
  calls : report.ioCalls ≤ kUsbTxCallsPerVisit
  bounded : ∀ c ∈ past, Bounded c

def transmitMeasure (report : ServiceReport) : ℕ := kUsbTxCallsPerVisit - report.ioCalls

abbrev Transmitted (contract : Contract experiment source) (decode : Bytes → Except Result ρ)
    (w : Session ρ) (report : ServiceReport) (l : Link σ ρ)
    (past : List (Call cdcByteStream (Link σ ρ))) :
    Turn ServiceReport Left → Link σ ρ → List (Call cdcByteStream (Link σ ρ)) → Prop :=
  Prog.Turned (Transmitting contract decode w) (fun report _ => transmitMeasure report)
    (fun left => Transmitting contract decode w left.1) report l past

theorem Transmitting.alike {l' : Link σ ρ} (h : Transmitting contract decode w report l past)
    (ha : Alike l l') : Transmitting contract decode w report l' past :=
  ⟨h.sound.alike ha, h.written, h.calls, h.bounded⟩

/-- Another report, of a visit that is given up. -/
theorem Transmitting.leave {report' : ServiceReport} {stalled : Bool}
    (h : Transmitting contract decode w report l past)
    (hwritten : report'.bytesWritten = report.bytesWritten) (hcalls : report'.ioCalls = report.ioCalls) :
    Transmitted contract decode w report l past (.leave (report', stalled)) l [] := by
  refine Prog.turned_leave ?_
  rw [List.append_nil]
  exact ⟨h.sound, hwritten.trans_le h.written, hcalls.trans_le h.calls, h.bounded⟩

theorem Transmitting.quiet {c : Call cdcByteStream (Link σ ρ)}
    (h : Transmitting contract decode w report l past) (hc : (w.through past).after c = w.through past)
    (hop : ∀ bytes, c.op ≠ StreamOp.write bytes) :
    Transmitting contract decode w report l (past ++ [c]) where
  sound := by
    rw [through_snoc, hc]
    exact h.sound
  written := h.written
  calls := h.calls
  bounded := by
    intro d hd
    rcases List.mem_append.mp hd with hd | hd
    · exact h.bounded d hd
    · rw [List.mem_singleton.mp hd]
      exact fun bytes hbytes => absurd hbytes (hop bytes)

/-- A call of `write` that took some bytes or none: what it left of the sender has to fit. -/
theorem Transmitting.write {bytes : Bytes} {count : IoCount} {s l' : Link σ ρ} {accepted : ℕ}
    (h : Transmitting contract decode w report l past) (hne : bytes ≠ [])
    (hmax : bytes.length ≤ kUsbTxMaxWriteBytes)
    (haccepted : accepted = min count.toInt.toNat bytes.length)
    (hbudget : report.bytesWritten + bytes.length ≤ kUsbTxBudgetBytesPerVisit)
    (hcalls : report.ioCalls < kUsbTxCallsPerVisit) (honly : OnlySender l l')
    (hsends : Sends contract l'.sender ((w.through past).sent ++ bytes.take accepted)
      (w.through past).queued) {report' : ServiceReport}
    (hreport : report'.ioCalls = report.ioCalls + 1 ∧
      report'.bytesWritten = report.bytesWritten + accepted) :
    Transmitting contract decode w report' l' (past ++ [⟨s, StreamOp.write bytes, count⟩]) := by
  obtain ⟨hio, hwritten⟩ := hreport
  have htake : bytes.take accepted = bytes.take count.toInt.toNat := by
    rw [haccepted, List.take_eq_take_iff]
    omega
  have hafter : w.through (past ++ [⟨s, StreamOp.write bytes, count⟩]) =
      { w.through past with sent := (w.through past).sent ++ bytes.take accepted } := by
    rw [through_snoc, htake]
    rfl
  refine ⟨?_, by omega, by omega, ?_⟩
  · rw [hafter]
    exact h.sound.sent honly hsends
  · intro c hc
    rcases List.mem_append.mp hc with hc | hc
    · exact h.bounded c hc
    · rw [List.mem_singleton.mp hc]
      rintro b hb
      cases hb
      exact ⟨hne, hmax⟩

theorem writeFrame_keeps {part : Bytes} {done : List Sent} {selection : FrameSelection}
    {requested : ℕ} (h : Transmitting contract decode w report l past)
    (hsends : SendsOf contract l.sender (w.through past).sent (w.through past).queued done part)
    (ho : Offered contract l.sender (Sent.datas done) selection part) (hpos : 0 < requested)
    (hmax : requested ≤ kUsbTxMaxWriteBytes)
    (hinside : l.sender.txOffset + requested ≤ selection.bytes.length)
    (hbudget : report.bytesWritten + requested ≤ kUsbTxBudgetBytesPerVisit)
    (hcalls : report.ioCalls < kUsbTxCallsPerVisit) :
    (writeFrame source selection requested report : Service σ ρ _).wp l
      (Transmitted contract decode w report l past) := by
  unfold writeFrame
  refine Prog.wp_modify_bind.mpr ?_
  refine Prog.wp_get_bind.mpr ?_
  generalize hcounted : l.count _ = counted
  have ha : Alike l counted := by
    rw [← hcounted]
    exact count_alike _ _
  have hoffset : counted.transport.txOffset = l.sender.txOffset := congrArg Sender.txOffset ha.sender
  rw [hoffset]
  have hlength : (slice selection.bytes l.sender.txOffset requested).length = requested := by
    rw [length_slice]
    omega
  have hnonempty : slice selection.bytes l.sender.txOffset requested ≠ [] := by
    intro hnil
    rw [hnil] at hlength
    exact absurd hlength.symm (Nat.ne_of_gt hpos)
  refine Prog.wp_invoke_bind.mpr fun (written : IoCount) => ?_
  have hcall : ∀ {accepted : ℕ}, accepted = min written.toInt.toNat requested →
      ∀ {l' : Link σ ρ}, OnlySender l l' →
      Sends contract l'.sender ((w.through past).sent ++
        (slice selection.bytes l.sender.txOffset requested).take accepted) (w.through past).queued →
      ∀ {report' : ServiceReport}, report'.ioCalls = report.ioCalls + 1 →
      report'.bytesWritten = report.bytesWritten + accepted →
      Transmitting contract decode w report' l' (past ++
        [⟨counted, StreamOp.write (slice selection.bytes l.sender.txOffset requested), written⟩]) := by
    intro accepted haccepted l' honly hs report' hio hwritten
    exact h.write hnonempty (hlength.trans_le hmax) (hlength.symm ▸ haccepted)
      (hlength.symm ▸ hbudget) hcalls honly hs ⟨hio, hwritten⟩
  -- nothing was taken
  have hnothing : written.toInt.toNat = 0 → ∀ {l' : Link σ ρ}, Alike counted l' →
      Transmitting contract decode w { report with ioCalls := report.ioCalls + 1 } l' (past ++
        [⟨counted, StreamOp.write (slice selection.bytes l.sender.txOffset requested), written⟩]) := by
    intro hzero l' ha'
    have hs : Sends contract l'.sender ((w.through past).sent ++
        (slice selection.bytes l.sender.txOffset requested).take 0) (w.through past).queued := by
      rw [List.take_zero, List.append_nil, (ha.trans ha').sender]
      exact ⟨done, part, hsends⟩
    exact hcall (by rw [hzero, Nat.zero_min]) (ha.trans ha').onlySender hs rfl rfl
  refine Prog.wp_ite (fun hblock => ?_) fun _ => ?_
  · refine Prog.wp_modify_bind.mpr (Prog.wp_pure (Prog.turned_leave (hnothing ?_ (count_alike _ _))))
    rw [hblock]
    rfl
  refine Prog.wp_ite (fun hneg => ?_) fun hneg => ?_
  · exact Prog.wp_modify_bind.mpr (Prog.wp_pure (Prog.turned_leave
      (hnothing (toNat_of_neg hneg) (recordIoError_alike _))))
  refine Prog.wp_ite (fun hzero => ?_) fun hzero => ?_
  · refine Prog.wp_modify_bind.mpr (Prog.wp_pure (Prog.turned_leave (hnothing ?_ ?_)))
    · rw [hzero]
      rfl
    · exact (count_alike _ _).trans (statistics_alike _ _)
  have hsome := toNat_pos hneg hzero
  refine Prog.wp_modify_bind.mpr (Prog.wp_pure (Prog.turned_again ?_ ?_))
  · obtain ⟨noted, hnoted⟩ : ∃ noted, noted = counted.noteWritten written requested := ⟨_, rfl⟩
    have hnote : Alike l noted := by
      rw [hnoted]
      unfold Link.noteWritten
      exact ha.trans (Alike.trans ((recordIoError_alike _).ite (Alike.refl _))
        (((count_alike _ _).trans (statistics_alike _ _)).ite (Alike.refl _)))
    rw [← hnoted]
    obtain ⟨accepted, haccepted⟩ : ∃ accepted, accepted = min written.toInt.toNat requested := ⟨_, rfl⟩
    rw [← haccepted]
    have htake : (slice selection.bytes l.sender.txOffset requested).take accepted =
        slice selection.bytes noted.sender.txOffset accepted := by
      unfold slice
      rw [List.take_take, hnote.sender, Nat.min_eq_left (by omega)]
    obtain ⟨honly, hs⟩ : OnlySender noted (noted.acceptWritten source selection accepted) ∧ _ :=
      acceptWritten_sends (hnote.sender.symm ▸ hsends) (hnote.sender.symm ▸ ho) (by omega)
        (by rw [hnote.sender]; omega)
    rw [← htake] at hs
    exact hcall haccepted (hnote.onlySender.trans honly) hs rfl rfl
  · unfold transmitMeasure
    dsimp only
    omega

/-- A frame is prepared before its first byte. -/
theorem Chosen.offered {t : Sender σ} {fs : List Bytes} {selection : FrameSelection} {part : Bytes}
    (h : Chosen contract t fs selection part)
    (hfirst : ¬ (t.txOffset = 0 ∧ selection.kind = .lowerPriority)) :
    Offered contract t fs selection part := by
  cases h with
  | response hqueue hlt hkind hidle => exact .response hqueue hlt hkind hidle
  | first _ hoffset => exact absurd ⟨hoffset, rfl⟩ hfirst
  | rest hkind hframe hpos hlt hvalid hsending =>
    exact .rest hkind hframe hpos hlt hvalid hsending

theorem transmitTurn_keeps {part : Bytes} {done : List Sent} {selection : FrameSelection}
    (h : Transmitting contract decode w report l past)
    (hsends : SendsOf contract l.sender (w.through past).sent (w.through past).queued done part)
    (hchosen : Chosen contract l.sender (Sent.datas done) selection part)
    (hbudget : report.bytesWritten < kUsbTxBudgetBytesPerVisit)
    (hcalls : report.ioCalls < kUsbTxCallsPerVisit) :
    (transmitTurn experiment source selection report : Service σ ρ _).wp l
      (Transmitted contract decode w report l past) := by
  have hlt := hchosen.lt
  unfold transmitTurn
  refine Prog.wp_get_bind.mpr ?_
  refine Prog.wp_modify_bind.mpr ?_
  generalize hcounted : l.count _ = counted
  have ha : Alike l counted := by
    rw [← hcounted]
    exact count_alike _ _
  refine Prog.wp_invoke_bind.mpr fun (writable : IoCount) => ?_
  refine Prog.wp_mono ?_ fun turn l' calls => Prog.turned_cons
  have hasked : Transmitting contract decode w report counted
      (past ++ [⟨counted, StreamOp.availableForWrite, writable⟩]) :=
    (h.alike ha).quiet rfl fun bytes hop => by cases hop
  have hsame : w.through (past ++ [⟨counted, StreamOp.availableForWrite, writable⟩]) =
      w.through past := by
    rw [through_snoc]
    rfl
  rw [← hsame, ← ha.sender] at hsends
  rw [← ha.sender] at hchosen hlt
  have hoffset : l.transport.txOffset = counted.sender.txOffset := (congrArg Sender.txOffset ha.sender).symm
  rw [hoffset]
  clear hsame
  generalize past ++ [⟨counted, StreamOp.availableForWrite, writable⟩] = past' at hasked hsends ⊢
  refine Prog.wp_ite (fun _ => ?_) fun _ => ?_
  · exact Prog.wp_modify_bind.mpr (Prog.wp_pure ((hasked.alike (recordIoError_alike _)).leave rfl rfl))
  refine Prog.wp_ite (fun _ => ?_) fun _ => ?_
  · exact Prog.wp_pure (hasked.leave rfl rfl)
  refine Prog.wp_ite (fun _ => ?_) fun hroom => ?_
  · exact Prog.wp_modify_bind.mpr (Prog.wp_pure ((hasked.alike (count_alike _ _)).leave rfl rfl))
  refine Prog.wp_ite (fun _ => ?_) fun hwritable => ?_
  · exact Prog.wp_modify_bind.mpr (Prog.wp_pure ((hasked.alike (count_alike _ _)).leave rfl rfl))
  obtain ⟨requested, hrequested⟩ : ∃ requested, requested =
      min (min (min (selection.bytes.length - counted.sender.txOffset)
        (kUsbTxBudgetBytesPerVisit - report.bytesWritten)) writable.toInt.toNat) kUsbTxMaxWriteBytes :=
    ⟨_, rfl⟩
  rw [← hrequested]
  refine Prog.wp_ite (fun hfirst => ?_) fun hfirst => ?_
  · refine Prog.wp_state_bind.mpr ?_
    refine Prog.wp_get_bind.mpr ?_
    dsimp only
    cases hchosen with
    | response => exact ActiveFrame.noConfusion hfirst.2
    | rest _ _ hpos => exact absurd hfirst.1 (Nat.ne_of_gt hpos)
    | first hne hoffset' hkind hidle =>
      change contract.idle (Sent.datas done) counted.lowerPriority at hidle
      obtain ⟨readied, hreadied⟩ : ∃ readied : Link σ ρ, readied =
          { counted with lowerPriority := (source.prepareFrontFrame counted.lowerPriority).1 } :=
        ⟨_, rfl⟩
      have hprepared : SendsOf contract readied.sender (w.through past').sent
          (w.through past').queued done [] := by
        rw [hreadied]
        exact ⟨hsends.sent_eq, hsends.queued_eq, hsends.depth, hsends.responses, hsends.data,
          .none hkind hoffset' (contract.prepare hidle)⟩
      have honly : OnlySender counted readied := by
        rw [hreadied]
        exact ⟨rfl, rfl, rfl, rfl, Nat.le_refl _⟩
      have hready : Transmitting contract decode w report readied past' :=
        ⟨hasked.sound.sent honly ⟨done, [], hprepared⟩, hasked.written, hasked.calls,
          hasked.bounded⟩
      rw [← hreadied]
      refine Prog.wp_ite (fun _ => ?_) fun hgood => ?_
      · exact Prog.wp_modify_bind.mpr (Prog.wp_pure
          ((hready.alike (recordIoError_alike _)).leave rfl rfl))
      rw [Bool.or_eq_true, Bool.not_eq_true', Bool.not_eq_true', not_or, Bool.not_eq_false,
        Bool.not_eq_false] at hgood
      obtain ⟨hok, hvalid⟩ := hgood
      refine Prog.wp_ite (fun _ => ?_) fun hpos => ?_
      · exact Prog.wp_pure (hready.leave rfl rfl)
      obtain ⟨hsource, hlength⟩ := contract.prepared hidle hok
      have hfront : source.frontFrame readied.sender.lowerPriority =
          source.frontFrame (source.prepareFrontFrame counted.lowerPriority).1 := by
        rw [hreadied]
        rfl
      have hsource' : contract.ready (Sent.datas done) readied.sender.lowerPriority := by
        rw [hreadied]
        exact hsource
      have hoffset'' : readied.sender.txOffset = 0 := by
        rw [hreadied]
        exact hoffset'
      have hkind' : readied.sender.activeFrame = .none := by
        rw [hreadied]
        exact hkind
      change requested = min (min (min ((source.frontFrame counted.lowerPriority).length -
        counted.sender.txOffset) _) _) _ at hrequested
      refine writeFrame_keeps hready hprepared (.first hoffset'' hkind' hfront hsource' hvalid)
        (Nat.pos_of_ne_zero hpos) (by omega) ?_ (by omega) hcalls
      change readied.sender.txOffset + requested ≤
        (source.frontFrame (source.prepareFrontFrame counted.lowerPriority).1).length
      omega
  · refine Prog.wp_ite (fun _ => ?_) fun hpos => ?_
    · exact Prog.wp_pure (hasked.leave rfl rfl)
    · exact writeFrame_keeps hasked hsends (hchosen.offered hfirst) (Nat.pos_of_ne_zero hpos)
        (by omega) (by omega) (by omega) hcalls

theorem transmitBody_keeps (h : Transmitting contract decode w report l past) :
    (transmitBody experiment source report : Service σ ρ _).wp l
      (Transmitted contract decode w report l past) := by
  unfold transmitBody
  refine Prog.wp_ite (fun hbudget => ?_) fun _ => Prog.wp_pure (h.leave rfl rfl)
  refine Prog.wp_ite (fun _ => ?_) fun hcalls => ?_
  · exact Prog.wp_modify_bind.mpr (Prog.wp_pure ((h.alike (count_alike _ _)).leave rfl rfl))
  refine Prog.wp_state_bind.mpr ?_
  refine Prog.wp_get_bind.mpr ?_
  obtain ⟨done, part, hsends⟩ := h.sound.sends
  rcases selectTransmitFrame_chosen hsends with ⟨hkind, honly, hkept⟩ | ⟨hkind, hlink, hchosen⟩
  · rw [if_pos hkind]
    have hleft : Transmitting contract decode w report (l.selectTransmitFrame experiment source).2 past :=
      ⟨h.sound.sent honly ⟨done, part, hkept⟩, h.written, h.calls, h.bounded⟩
    exact Prog.wp_pure (hleft.leave rfl rfl)
  · have hlt : l.transport.txOffset < _ := hchosen.lt
    rw [if_neg hkind, hlink, if_neg (Nat.not_le.mpr hlt)]
    exact transmitTurn_keeps h hsends hchosen hbudget (Nat.not_le.mp hcalls)

theorem finishTransmit_alike (l : Link σ ρ) (left : Left) :
    Alike l (l.finishTransmit source left).2 ∧
      (l.finishTransmit source left).1.bytesWritten = left.1.bytesWritten ∧
      (l.finishTransmit source left).1.ioCalls = left.1.ioCalls := by
  unfold Link.finishTransmit
  dsimp only
  refine ⟨?_, rfl, rfl⟩
  exact Alike.trans ((count_alike _ _).ite (Alike.refl l))
    ((recordTxStall_alike _).ite ((count_alike _ _).ite (Alike.refl _)))

/-- A visit of the sender ends, within its budgets, and reports what it wrote. -/
theorem serviceTransmit_keeps (h : Sound contract decode l w) :
    (serviceTransmit experiment source).wp l fun result l' calls =>
      ∃ report, result = some report ∧ Sound contract decode l' (w.through calls) ∧
        report.bytesWritten ≤ kUsbTxBudgetBytesPerVisit ∧ report.ioCalls ≤ kUsbTxCallsPerVisit ∧
        (∀ c ∈ calls, Bounded c) := by
  unfold serviceTransmit updateSessionState
  refine Prog.wp_invoke_bind.mpr fun (observedOpen : Bool) => ?_
  refine Prog.wp_modify_bind.mpr ?_
  refine Prog.wp_get_bind.mpr ?_
  have hobserved := h.observeSession observedOpen
  generalize l.observeSession source observedOpen = l₀ at hobserved ⊢
  have hopened : Bounded (⟨l, StreamOp.sessionOpen, observedOpen⟩ : Call cdcByteStream (Link σ ρ)) :=
    fun bytes hbytes => by cases hbytes
  refine Prog.wp_ite (fun _ => ?_) fun _ => ?_
  · refine Prog.wp_pure ⟨{}, rfl, hobserved, Nat.zero_le _, Nat.zero_le _, ?_⟩
    intro c hc
    rw [List.mem_singleton.mp hc]
    exact hopened
  · have hstart : Transmitting contract decode (w.observe observedOpen) {} l₀ [] :=
      ⟨hobserved, Nat.zero_le _, Nat.zero_le _, fun c hc => absurd hc List.not_mem_nil⟩
    apply Prog.wp_bind
    have hloop : (Prog.loop (transmitBody experiment source) transmitFuel {}).wp l₀
        fun result l' calls => ∃ left, result = some left ∧
          Transmitting contract decode (w.observe observedOpen) left.1 l' ([] ++ calls) :=
      Prog.wp_loop (Transmitting contract decode (w.observe observedOpen))
        (fun report _ => transmitMeasure report) (fun _ _ _ hinv => transmitBody_keeps hinv) hstart
        (show transmitMeasure {} < transmitFuel by decide)
    refine Prog.wp_mono hloop ?_
    rintro result l' calls ⟨left, rfl, hleft⟩
    refine Prog.wp_state_bind.mpr (Prog.wp_pure ?_)
    obtain ⟨ha, hwritten, hcalls⟩ : Alike l' (l'.finishTransmit source left).2 ∧ _ :=
      finishTransmit_alike l' left
    rw [List.append_nil]
    refine ⟨_, rfl, hleft.sound.alike ha, hwritten.trans_le hleft.written, hcalls.trans_le hleft.calls,
      fun c hc => ?_⟩
    rcases List.mem_cons.mp hc with rfl | hc
    · exact hopened
    · exact hleft.bounded c hc

end Transmit

/-! ### Runs -/

/-- A transport with its session. -/
structure Connection (σ ρ : Type) where
  link : Link σ ρ
  session : Session ρ := {}

/-- A visit in a world that answers as it likes. -/
def Connection.visit {σ ρ α : Type} (c : Connection σ ρ) (env : Env cdcByteStream (Link σ ρ))
    (p : Service σ ρ α) : Connection σ ρ :=
  let outcome := p.run env c.link []
  ⟨outcome.state, c.session.through outcome.calls⟩

section Runs

variable {σ ρ : Type} {experiment : InputExperiment} {source : LowerPriorityFrameSource σ}

/-- Visits, calls of the runtime and moves of the source, in any order. -/
inductive Reaches (contract : Contract experiment source) (decode : Bytes → Except Result ρ)
    (cpuHz : ℕ) (responses : FrameHeader → Bytes → Result) : Connection σ ρ → Prop
  | start {s : σ} (hidle : contract.idle [] s) :
      Reaches contract decode cpuHz responses { link := { lowerPriority := s } }
  | receive {c : Connection σ ρ} (env : Env cdcByteStream (Link σ ρ))
      (h : Reaches contract decode cpuHz responses c) :
      Reaches contract decode cpuHz responses (c.visit env (serviceReceive decode source))
  | transmit {c : Connection σ ρ} (env : Env cdcByteStream (Link σ ρ))
      (h : Reaches contract decode cpuHz responses c) :
      Reaches contract decode cpuHz responses (c.visit env (serviceTransmit experiment source))
  | take {c : Connection σ ρ} (h : Reaches contract decode cpuHz responses c) :
      Reaches contract decode cpuHz responses
        ⟨c.link.takeCommand.2,
          { c.session with taken := c.session.taken ++ c.link.takeCommand.1.toList }⟩
  | queue {c : Connection σ ρ} (response : Bytes) (h : Reaches contract decode cpuHz responses c) :
      Reaches contract decode cpuHz responses
        ⟨(c.link.queueResponse cpuHz responses response).2,
          { c.session with queued := c.session.queued ++
              if (c.link.queueResponse cpuHz responses response).1 then [response] else [] }⟩
  | abandon {c : Connection σ ρ} (h : Reaches contract decode cpuHz responses c) :
      Reaches contract decode cpuHz responses
        ⟨c.link.abandonResponseReservation.2,
          { c.session with abandoned := c.session.abandoned +
              if c.link.abandonResponseReservation.1 then 1 else 0 }⟩
  | sessionStarted {c : Connection σ ρ} (h : Reaches contract decode cpuHz responses c) :
      Reaches contract decode cpuHz responses ⟨c.link.takeSessionStarted.2, c.session⟩
  | source {c : Connection σ ρ} {s : σ} (h : Reaches contract decode cpuHz responses c)
      (hstep : contract.step c.link.lowerPriority s) :
      Reaches contract decode cpuHz responses ⟨{ c.link with lowerPriority := s }, c.session⟩

variable {contract : Contract experiment source} {decode : Bytes → Except Result ρ}
  {cpuHz : ℕ} {responses : FrameHeader → Bytes → Result} {c : Connection σ ρ} {l : Link σ ρ}
  {w : Session ρ}

theorem sound_start {s : σ} (hidle : contract.idle [] s) :
    Sound contract decode ({ lowerPriority := s } : Link σ ρ) {} where
  sends := sends_start rfl rfl rfl hidle
  receives := receives_start List.length_replicate rfl rfl rfl rfl
  reserved := fun hno => by cases hno
  paired := Nat.zero_le _
  initialized := rfl
  observed := fun b hno => by cases hno

/-- The source keeps its promise about the frame that is on its way. -/
theorem Sound.moveSource {s : σ} (h : Sound contract decode l w)
    (hstep : contract.step l.lowerPriority s) :
    Sound contract decode { l with lowerPriority := s } w := by
  obtain ⟨done, part, hsends⟩ := h.sends
  refine ⟨⟨done, part, hsends.sent_eq, hsends.queued_eq, hsends.depth, hsends.responses, hsends.data, ?_⟩,
    h.receives, h.reserved, h.paired, h.initialized, h.observed⟩
  cases hsends.underway with
  | none hkind hoffset hidle => exact .none hkind hoffset (contract.idle_step hidle hstep)
  | response hkind hqueue hpos hlt hidle =>
    exact Underway.response (t := ({ l with lowerPriority := s } : Link σ ρ).sender) hkind hqueue hpos hlt
      (contract.idle_step hidle hstep)
  | data hkind hframe hpos hlt hvalid hsending =>
    exact Underway.data (t := ({ l with lowerPriority := s } : Link σ ρ).sender) hkind hframe hpos hlt
      hvalid (contract.sending_step hsending hstep)

theorem Reaches.sound (h : Reaches contract decode cpuHz responses c) :
    Sound contract decode c.link c.session := by
  induction h with
  | start hidle => exact sound_start hidle
  | receive env _ ih =>
    obtain ⟨_, _, hsound, _⟩ := Prog.run_of_wp env [] (serviceReceive_keeps ih)
    exact hsound
  | transmit env _ ih =>
    obtain ⟨_, _, hsound, _⟩ := Prog.run_of_wp env [] (serviceTransmit_keeps ih)
    exact hsound
  | take _ ih => exact ih.takeCommand
  | queue response _ ih => exact ih.queueResponse cpuHz responses response
  | abandon _ ih => exact ih.abandonResponseReservation
  | sessionStarted _ ih => exact ih.takeSessionStarted
  | source _ hstep ih => exact ih.moveSource hstep

/-- What a session sent is whole frames, one after the other, and the beginning of at most
one more: the responses in the order in which they were queued, and between them the frames
that the source let go as sent. -/
theorem stream_is_whole_frames (h : Reaches contract decode cpuHz responses c) :
    ∃ done part, c.session.sent = Sent.wire done ++ part ∧
      c.session.queued = Sent.responses done ++ c.link.transport.responseQueue ∧
      (∀ f, .data f ∈ done → validDataView experiment f = true) ∧
      (contract.idle (Sent.datas done) c.link.lowerPriority ∧
          (part = [] ∨ ∃ r, part <+: r ∧ part ≠ r ∧ c.link.transport.responseQueue.head? = some r) ∨
        ∃ f, part <+: f ∧ part ≠ f ∧ validDataView experiment f = true ∧
          contract.sending (Sent.datas done) f c.link.lowerPriority) := by
  obtain ⟨done, part, hsends⟩ := h.sound.sends
  refine ⟨done, part, hsends.sent_eq, hsends.queued_eq, hsends.data, ?_⟩
  have hproper : ∀ {f : Bytes}, c.link.sender.txOffset < f.length →
      f.take c.link.sender.txOffset ≠ f := by
    intro f hlt heq
    have hlength := congrArg List.length heq
    rw [List.length_take] at hlength
    omega
  cases hsends.underway with
  | none _ _ hidle => exact .inl ⟨hidle, .inl rfl⟩
  | @response r rest _ hqueue _ hlt hidle =>
    refine .inl ⟨hidle, .inr ⟨r, List.take_prefix _ _, hproper hlt, ?_⟩⟩
    rw [show c.link.transport.responseQueue = r :: rest from hqueue]
    rfl
  | @data f _ _ _ hlt hvalid hsending =>
    exact .inr ⟨f, List.take_prefix _ _, hproper hlt, hvalid, hsending⟩

/-- A source that is a list of frames. -/
def frameList : LowerPriorityFrameSource (List Bytes) where
  frontFrame := fun s => s.headD []
  prepareFrontFrame := fun s => (s, true)
  markFrontFrameStarted := fun s => s
  abortFrontFrame := fun s => (s.tail, true)
  releaseFrontFrame := fun s => s.tail
  queuedFrames := List.length

def frameListContract : Contract {} frameList := Contract.trivial {} frameList fun _ _ => rfl

/-- A stream that reads `b` again and again and takes forty bytes with every write. -/
def slowStream {σ ρ : Type} (b : Bytes) : Env cdcByteStream (Link σ ρ)
  | _, .sessionOpen => true
  | _, .available => (Int32.ofNat b.length : IoCount)
  | _, .read capacity =>
    (⟨Int32.ofNat (min b.length capacity), b.take capacity ++ List.replicate (capacity - b.length) 0,
      by rw [List.length_append, List.length_take, List.length_replicate]; omega⟩ : ReadReply capacity)
  | _, .availableForWrite => (600 : IoCount)
  | _, .write _ => (40 : IoCount)

/-- A GET_STATUS command of version 3. -/
def getStatusFrame : Bytes :=
  [0xEF, 0xBE, 0xAD, 0xDE, 3, 19, 0, 0, 44, 0, 1, 0, 48, 0, 0, 0, 0, 0, 0, 0, 0, 0, 0, 0,
    0, 0, 0, 0, 5, 0, 0, 0, 0, 0, 0, 0, 0, 0, 0, 0, 0, 0, 0, 0, 177, 3, 25, 153]

/-- A data frame waits while commands come in and the first of them is taken. -/
def servedOnce : Connection (List Bytes) WireRequest :=
  let decode := decodeRequest 600000000 (fun _ _ => Result.success) ⟨false, 1⟩
  let start : Connection (List Bytes) WireRequest :=
    { link := { lowerPriority := [List.replicate 2072 1] } }
  let c := start.visit (slowStream getStatusFrame) (serviceReceive decode frameList)
  let c : Connection (List Bytes) WireRequest :=
    ⟨c.link.takeCommand.2, { c.session with taken := c.session.taken ++ c.link.takeCommand.1.toList }⟩
  c.visit (slowStream []) (serviceTransmit {} frameList)

theorem reaches_servedOnce : Reaches frameListContract
    (decodeRequest 600000000 (fun _ _ => Result.success) ⟨false, 1⟩) 600000000
    (fun _ _ => Result.success) servedOnce :=
  .transmit _ (.take (.receive _ (.start True.intro)))

theorem slow_stream_is_whole_frames :
    servedOnce.session.sent.length = 320 ∧ ∃ done part,
      servedOnce.session.sent = Sent.wire done ++ part ∧
      servedOnce.session.queued = Sent.responses done ++ servedOnce.link.transport.responseQueue ∧
      (∀ f, .data f ∈ done → validDataView {} f = true) ∧
      (frameListContract.idle (Sent.datas done) servedOnce.link.lowerPriority ∧
          (part = [] ∨ ∃ r, part <+: r ∧ part ≠ r ∧
            servedOnce.link.transport.responseQueue.head? = some r) ∨
        ∃ f, part <+: f ∧ part ≠ f ∧ validDataView {} f = true ∧
          frameListContract.sending (Sent.datas done) f servedOnce.link.lowerPriority) :=
  ⟨by decide +kernel, stream_is_whole_frames reaches_servedOnce⟩

/-- The runtime gets the commands that are in the bytes of the session, in their order, and
none twice; what it did not take is in the queue, in the scratch or in the parser. -/
theorem commands_are_taken_in_order (h : Reaches contract decode cpuHz responses c) :
    ∃ fed pending, c.session.read = fed ++ slice c.link.transport.rxScratch
        c.link.transport.rxPendingOffset
        (c.link.transport.rxPendingSize - c.link.transport.rxPendingOffset) ∧
      events (scan (verdict decode) fed).1 =
        c.session.taken ++ c.link.transport.commandQueue ++ pending ∧
      pending.length ≤ 1 ∧ ∀ p ∈ pending, p.rejected = true := by
  obtain ⟨fed, es, hread, hscans, hevents⟩ := h.sound.receives.scans
  obtain ⟨hrest, -⟩ := scan_scans verdict_stable c.link.receiver.parser.buffer
  refine ⟨fed, _, hread, ?_, h.sound.receives.settled.events hrest⟩
  rw [hscans.scan_eq verdict_stable, events_append, hevents]
  rfl

theorem status_commands_are_taken_in_order :
    servedOnce.session.taken.length = 1 ∧ servedOnce.link.transport.commandQueue.length = 3 ∧
      ∃ fed pending, servedOnce.session.read = fed ++ slice servedOnce.link.transport.rxScratch
          servedOnce.link.transport.rxPendingOffset
          (servedOnce.link.transport.rxPendingSize - servedOnce.link.transport.rxPendingOffset) ∧
        events (scan (verdict (decodeRequest 600000000 (fun _ _ => Result.success) ⟨false, 1⟩)) fed).1 =
          servedOnce.session.taken ++ servedOnce.link.transport.commandQueue ++ pending ∧
        pending.length ≤ 1 ∧ ∀ p ∈ pending, p.rejected = true :=
  ⟨by decide +kernel, by decide +kernel, commands_are_taken_in_order reaches_servedOnce⟩

/-- A command that was taken has a place for its response until the session ends or the
response is there, and is answered before the next one is taken. -/
theorem taken_command_has_room (h : Reaches contract decode cpuHz responses c) :
    (c.link.transport.commandAwaitingResponse = true → ∀ response,
      (c.link.queueResponse cpuHz responses response).1 =
        Link.admitsResponse cpuHz responses response) ∧
      c.session.taken.length ≤ c.session.queued.length + c.session.abandoned +
        (if c.link.transport.commandAwaitingResponse then 1 else 0) ∧
      c.link.transport.commandQueue.length ≤ kCommandQueueDepth ∧
      c.link.transport.responseQueue.length ≤ kResponseQueueDepth := by
  have hsound := h.sound
  obtain ⟨done, part, hsends⟩ := hsound.sends
  refine ⟨fun hawaiting response => ?_, hsound.paired, hsound.receives.depth, hsends.depth⟩
  have hroom := hsound.reserved hawaiting
  unfold Link.queueResponse
  rw [decide_eq_false (Nat.not_le.mpr hroom), Bool.or_false]
  cases Link.admitsResponse cpuHz responses response with
  | false => rfl
  | true => rfl

theorem taken_status_has_room : servedOnce.link.transport.commandAwaitingResponse = true ∧
    (∀ response, (servedOnce.link.queueResponse 600000000 (fun _ _ => Result.success) response).1 =
      Link.admitsResponse 600000000 (fun _ _ => Result.success) response) ∧
    servedOnce.session.taken.length ≤ servedOnce.session.queued.length + servedOnce.session.abandoned + 1 :=
  have hawaiting : servedOnce.link.transport.commandAwaitingResponse = true := by decide +kernel
  have hroom := taken_command_has_room reaches_servedOnce
  ⟨hawaiting, hroom.1 hawaiting, by
    have hpaired := hroom.2.1
    rw [if_pos hawaiting] at hpaired
    exact hpaired⟩

/-- Whatever the stream answers, a visit ends, with no more calls and bytes than it may use. -/
theorem visits_end_within_budget (h : Reaches contract decode cpuHz responses c)
    (env : Env cdcByteStream (Link σ ρ)) :
    (∃ report, ((serviceReceive decode source).run env c.link []).value = some report ∧
      report.bytesProcessed ≤ kUsbRxBudgetBytesPerLoop ∧ report.ioCalls ≤ kUsbRxCallsPerLoop) ∧
    (∃ report, ((serviceTransmit experiment source).run env c.link []).value = some report ∧
      report.bytesWritten ≤ kUsbTxBudgetBytesPerVisit ∧ report.ioCalls ≤ kUsbTxCallsPerVisit) ∧
    ∀ call ∈ ((serviceTransmit experiment source).run env c.link []).calls, ∀ bytes,
      call.op = StreamOp.write bytes → bytes ≠ [] ∧ bytes.length ≤ kUsbTxMaxWriteBytes := by
  obtain ⟨received, hreceived, -, hprocessed, hreads⟩ :=
    Prog.run_of_wp env [] (serviceReceive_keeps h.sound)
  obtain ⟨sent, hsent, -, hwritten, hwrites, hbounded⟩ :=
    Prog.run_of_wp env [] (serviceTransmit_keeps h.sound)
  exact ⟨⟨received, hreceived, hprocessed, hreads⟩, ⟨sent, hsent, hwritten, hwrites⟩, hbounded⟩

theorem slow_visit_ends :
    ∃ report, ((serviceTransmit {} frameList).run (slowStream []) servedOnce.link []).value =
      some report ∧ report.bytesWritten ≤ kUsbTxBudgetBytesPerVisit ∧
        report.ioCalls ≤ kUsbTxCallsPerVisit :=
  (visits_end_within_budget reaches_servedOnce (slowStream [])).2.1

end Runs

end ThingDaq.Usb
