import Mathlib.Algebra.Order.Field.Rat
import Wiremap.Client.Socket

/-! The reconnecting socket of the browser by itself: every call of it, and every
event of the browser for any `WebSocket` it has created. -/
namespace Wiremap.Client.WireSocket

open Wiremap.Library
open Wiremap.Client.Socket (ReadyState)

structure Message (α : Type) where
  call : Nat
  frame : α
  deriving DecidableEq

structure WebSocket (α : Type) where
  readyState : ReadyState := .connecting
  inflight : List (Message α) := []

/-- The fields of the socket, the messages that wait in retry timers in the order of
their calls, every `WebSocket` created, and what was emitted and received so far. -/
structure State (α : Type) where
  ws : Option Nat := none
  reconnectTimer : Bool := false
  reconnectDelay : ℚ := 3000
  intentionalClose : Bool := false
  retries : List (Message α) := []
  sockets : List (WebSocket α) := []
  emitted : List (Message α) := []
  received : List (Message α) := []

variable {α : Type}

namespace State

def states (s : State α) : List ReadyState := s.sockets.map WebSocket.readyState

def readyState (s : State α) : Option ReadyState := s.ws.bind fun i => s.states[i]?

/-- The `WebSocket` is kept: it is open, or about to be. -/
def Kept (s : State α) : Prop := s.readyState = some .open ∨ s.readyState = some .connecting

instance (s : State α) : Decidable s.Kept := inferInstanceAs (Decidable (_ ∨ _))

def scheduleReconnect (s : State α) : State α := { s with reconnectTimer := true }

/-- The constructor of `WebSocket` may throw. -/
def connect (s : State α) (created : Bool) : State α :=
  if s.Kept then s
  else
    let s := { s with intentionalClose := false }
    if created then { s with ws := some s.sockets.length, sockets := s.sockets ++ [⟨.connecting, []⟩] }
    else s.scheduleReconnect

def send (s : State α) (m : Message α) : State α :=
  match s.ws with
  | some i => { s with
      sockets := s.sockets.modify i fun w => { w with inflight := w.inflight ++ [m] } }
  | none => s

def next (s : State α) (frame : α) : Message α := ⟨s.emitted.length, frame⟩

def note (s : State α) (m : Message α) : State α := { s with emitted := s.emitted ++ [m] }

def emit (s : State α) (frame : α) (created : Bool) : State α :=
  let m := s.next frame
  let s := s.note m
  if s.readyState ≠ some .open then
    let s := s.connect created
    { s with retries := s.retries ++ [m] }
  else s.send m

/-- A retry timer sends its message, or is set again: any of them may be the next. -/
def retry (s : State α) (timer : Nat) (m : Message α) : State α :=
  if s.readyState = some .open then { s with retries := s.retries.eraseIdx timer }.send m else s

def reconnect (s : State α) (created : Bool) : State α :=
  { s with
    reconnectTimer := false
    reconnectDelay := min (s.reconnectDelay * (3 / 2)) 30000 }.connect created

def setReady (s : State α) (i : Nat) (r : ReadyState) : State α :=
  { s with sockets := s.sockets.modify i fun w => { w with readyState := r } }

def onopen (s : State α) : State α := { s with reconnectDelay := 3000 }

/-- The handler does not look whose close it is. -/
def onclose (s : State α) : State α :=
  let s := { s with ws := none }
  if s.intentionalClose then s else s.scheduleReconnect

def close (s : State α) (i : Nat) : State α :=
  match s.states[i]? with
  | some .connecting | some .open => s.setReady i .closing
  | _ => s

def disconnect (s : State α) : State α :=
  let s := { s with intentionalClose := true, reconnectTimer := false }
  { s.ws.elim s s.close with ws := none }

end State

inductive Event (α : Type) where
  | connect (created : Bool)
  | emit (frame : α) (created : Bool)
  | disconnect
  | retry (timer : Nat)
  | reconnect (created : Bool)
  | opened (socket : Nat)
  | error (socket : Nat)
  | closing (socket : Nat)
  | closed (socket : Nat)
  | receive (socket : Nat)

def step (s : State α) : Event α → Option (State α)
  | .connect created => some (s.connect created)
  | .emit frame created => some (s.emit frame created)
  | .disconnect => some s.disconnect
  | .retry timer => (s.retries[timer]?).map fun m => s.retry timer m
  | .reconnect created => if s.reconnectTimer then some (s.reconnect created) else none
  | .opened i => if s.states[i]? = some .connecting then some (s.setReady i .open).onopen else none
  | .error i => do
      let r ← s.states[i]?
      if r = .closed then none else some s
  | .closing i => if s.states[i]? = some .open then some (s.setReady i .closing) else none
  | .closed i => do
      let r ← s.states[i]?
      if r = .closed then none else some (s.setReady i .closed).onclose
  | .receive i => do
      let w ← s.sockets[i]?
      match w.inflight with
      | [] => none
      | m :: rest => some { s with
          sockets := s.sockets.modify i fun w => { w with inflight := rest }
          received := s.received ++ [m] }

def machine : Machine (State α) (Event α) where
  init := {}
  step := step

/-! ### What the socket is for -/

def State.inflight (s : State α) : List (Message α) := s.sockets.flatMap WebSocket.inflight

def State.delivered (s : State α) : List (Message α) := s.received ++ s.inflight

/-- The server gets what was emitted from the beginning, each message once, and all of
it once no timer waits. -/
structure Fifo (s : State α) : Prop where
  inOrder : s.delivered <+: s.emitted
  all : s.retries = [] → s.delivered = s.emitted

def State.Unclosed (s : State α) (i : Nat) : Prop := ∃ r, s.states[i]? = some r ∧ r ≠ .closed

/-- At most one `WebSocket` is not closed yet, and an open one is that of the
socket, which is not about to connect again. -/
structure OneConnection (s : State α) : Prop where
  unclosed : ∀ i j, s.Unclosed i → s.Unclosed j → i = j
  owned : ∀ i, s.states[i]? = some .open → s.ws = some i ∧ s.reconnectTimer = false

def StaysOpen (s : State α) : Event α → Prop
  | .disconnect => False
  | .closing i | .closed i => s.states[i]? ≠ some .open
  | _ => True

instance (s : State α) : ∀ e, Decidable (StaysOpen s e)
  | .disconnect => isFalse id
  | .closing i | .closed i => inferInstanceAs (Decidable (s.states[i]? ≠ some .open))
  | .connect _ | .emit _ _ | .retry _ | .reconnect _ | .opened _ | .error _ | .receive _ =>
      isTrue trivial

/-- Nothing is sent before a message that has waited longer. -/
def OldestFirst (s : State α) : Event α → Prop
  | .emit _ _ => s.readyState = some .open → s.retries = []
  | .retry timer => s.readyState = some .open → timer = 0
  | _ => True

/-- A `WebSocket` is created only once all others are closed, and opens only while
no timer is about to connect again. -/
def Alone (s : State α) : Event α → Prop
  | .connect created | .emit _ created | .reconnect created =>
      created = true → ¬s.Kept → ∀ r ∈ s.states, r = .closed
  | .opened _ => s.reconnectTimer = false
  | _ => True

end Wiremap.Client.WireSocket
