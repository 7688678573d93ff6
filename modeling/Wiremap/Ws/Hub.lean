import Wiremap.Library.CancelRegistry
import Wiremap.Library.Machine

/-! One client of the Docker `/ws` endpoint.  The reader goroutine handles one
message at a time; `streamLogs` and `streamStats` run in goroutines of their
own, and it is these that create a context and register its cancel function.
Each step below is one the Go scheduler may take between any two others. -/
namespace Wiremap.Ws.Hub

open Wiremap.Library

inductive StreamKind where
  | logs
  | stats
  deriving DecidableEq, Repr

def StreamKind.key : StreamKind → String → String
  | .logs, containerID => "logs:" ++ containerID
  | .stats, containerID => "stats:" ++ containerID

structure SubscribePayload where
  containerID : String
  hostID : String
  deriving DecidableEq, Repr

/-- `data` is `none` when `msg.Data` does not unmarshal into a payload. -/
structure WsMessage where
  event : String
  data : Option SubscribePayload
  deriving DecidableEq, Repr

inductive Frame where
  | malformed
  | message (msg : WsMessage)
  deriving DecidableEq, Repr

inductive Action where
  | subscribe (kind : StreamKind) (payload : SubscribePayload)
  | unsubscribe (kind : StreamKind) (payload : SubscribePayload)
  deriving DecidableEq, Repr

def WsMessage.action (msg : WsMessage) : Option Action :=
  match msg.data with
  | none => none
  | some payload =>
      match msg.event with
      | "logs:subscribe" => some (.subscribe .logs payload)
      | "logs:unsubscribe" => some (.unsubscribe .logs payload)
      | "stats:subscribe" => some (.subscribe .stats payload)
      | "stats:unsubscribe" => some (.unsubscribe .stats payload)
      | _ => none

def Frame.action : Frame → Option Action
  | .malformed => none
  | .message msg => msg.action

def Action.key : Action → String
  | .subscribe kind payload => kind.key payload.containerID
  | .unsubscribe kind payload => kind.key payload.containerID

/-- How far a stream goroutine has run: between `go` and its first statement,
between `context.WithCancel` and the assignment to `cancels`, after that
assignment, or returned.  No phase but the first lacks a context, and returning
does not cancel it. -/
inductive Phase where
  | spawned
  | created (ctx : Nat)
  | registered (ctx : Nat)
  | returned (ctx : Nat)
  deriving DecidableEq, Repr

def Phase.ctx : Phase → Option Nat
  | .spawned => none
  | .created ctx => some ctx
  | .registered ctx => some ctx
  | .returned ctx => some ctx

def Phase.settled : Phase → Bool
  | .spawned => false
  | .created _ => false
  | .registered _ => true
  | .returned _ => true

structure Stream where
  kind : StreamKind
  payload : SubscribePayload
  phase : Phase
  deriving DecidableEq, Repr

def Stream.key (s : Stream) : String := s.kind.key s.payload.containerID

/-- The reader goroutine: blocked in `ReadMessage`, between the two halves of a
subscribe (`cancelStream` done, `go` not yet), or past its deferred `cleanup`. -/
inductive Reader where
  | reading
  | spawning (kind : StreamKind) (payload : SubscribePayload)
  | closed
  deriving DecidableEq, Repr

structure Client where
  registry : CancelRegistry String
  streams : List Stream
  reader : Reader

def Client.cancelStream (c : Client) (key : String) : Client :=
  { c with registry := c.registry.cancelKey key }

def Client.cleanup (c : Client) : Client :=
  { c with registry := c.registry.cancelAll }

def Client.handleMessage (c : Client) (msg : WsMessage) : Client :=
  match msg.action with
  | none => c
  | some (.subscribe kind payload) =>
      { c.cancelStream (kind.key payload.containerID) with reader := .spawning kind payload }
  | some (.unsubscribe kind payload) => c.cancelStream (kind.key payload.containerID)

def Client.receive (c : Client) : Frame → Client
  | .malformed => c
  | .message msg => c.handleMessage msg

def Client.setPhase (c : Client) (i : Nat) (s : Stream) (phase : Phase) : Client :=
  { c with streams := c.streams.set i { s with phase := phase } }

inductive Event where
  | receive (frame : Frame)
  | spawn
  | create (i : Nat)
  | register (i : Nat)
  | finish (i : Nat)
  | disconnect
  deriving DecidableEq, Repr

def step (c : Client) : Event → Option Client
  | .receive frame =>
      match c.reader with
      | .reading => some (c.receive frame)
      | _ => none
  | .spawn =>
      match c.reader with
      | .spawning kind payload =>
          some { c with streams := c.streams ++ [⟨kind, payload, .spawned⟩], reader := .reading }
      | _ => none
  | .create i =>
      match c.streams[i]? with
      | some ⟨kind, payload, .spawned⟩ =>
          some { c.setPhase i ⟨kind, payload, .spawned⟩ (.created c.registry.next) with
            registry := c.registry.withCancel }
      | _ => none
  | .register i =>
      match c.streams[i]? with
      | some ⟨kind, payload, .created ctx⟩ =>
          some { c.setPhase i ⟨kind, payload, .created ctx⟩ (.registered ctx) with
            registry := c.registry.register (kind.key payload.containerID) ctx }
      | _ => none
  | .finish i =>
      match c.streams[i]? with
      | some ⟨kind, payload, .registered ctx⟩ =>
          some (c.setPhase i ⟨kind, payload, .registered ctx⟩ (.returned ctx))
      | _ => none
  | .disconnect =>
      match c.reader with
      | .reading => some { c.cleanup with reader := .closed }
      | _ => none

def machine : Machine Client Event where
  init := ⟨.empty, [], .reading⟩
  step := step

/-- What each event can do to a client, guards included. -/
theorem step_cases {c c' : Client} {e : Event} (h : step c e = some c') :
    (∃ frame, e = .receive frame ∧ c.reader = .reading ∧ c' = c.receive frame) ∨
    (∃ kind payload, e = .spawn ∧ c.reader = .spawning kind payload ∧
      c' = { c with streams := c.streams ++ [⟨kind, payload, .spawned⟩], reader := .reading }) ∨
    (∃ i s, e = .create i ∧ c.streams[i]? = some s ∧ s.phase = .spawned ∧
      c' = { c.setPhase i s (.created c.registry.next) with
        registry := c.registry.withCancel }) ∨
    (∃ i s ctx, e = .register i ∧ c.streams[i]? = some s ∧ s.phase = .created ctx ∧
      c' = { c.setPhase i s (.registered ctx) with
        registry := c.registry.register s.key ctx }) ∨
    (∃ i s ctx, e = .finish i ∧ c.streams[i]? = some s ∧ s.phase = .registered ctx ∧
      c' = c.setPhase i s (.returned ctx)) ∨
    (e = .disconnect ∧ c.reader = .reading ∧ c' = { c.cleanup with reader := .closed }) := by
  cases e with
  | receive frame =>
      simp only [step] at h
      split at h
      · exact .inl ⟨frame, rfl, ‹_›, (Option.some.inj h).symm⟩
      · cases h
  | spawn =>
      simp only [step] at h
      split at h
      · exact .inr (.inl ⟨_, _, rfl, ‹_›, (Option.some.inj h).symm⟩)
      · cases h
  | create i =>
      simp only [step] at h
      split at h
      · exact .inr (.inr (.inl ⟨i, _, rfl, ‹_›, rfl, (Option.some.inj h).symm⟩))
      · cases h
  | register i =>
      simp only [step] at h
      split at h
      · rename_i kind payload ctx hget
        exact .inr (.inr (.inr (.inl
          ⟨i, ⟨kind, payload, .created ctx⟩, ctx, rfl, hget, rfl, (Option.some.inj h).symm⟩)))
      · cases h
  | finish i =>
      simp only [step] at h
      split at h
      · exact .inr (.inr (.inr (.inr (.inl ⟨i, _, _, rfl, ‹_›, rfl, (Option.some.inj h).symm⟩))))
      · cases h
  | disconnect =>
      simp only [step] at h
      split at h
      · exact .inr (.inr (.inr (.inr (.inr ⟨rfl, ‹_›, (Option.some.inj h).symm⟩))))
      · cases h

theorem receive_cases (c : Client) (frame : Frame) :
    (frame.action = none ∧ c.receive frame = c) ∨
    (∃ kind payload, frame.action = some (.subscribe kind payload) ∧
      c.receive frame = { c.cancelStream (kind.key payload.containerID) with
        reader := .spawning kind payload }) ∨
    (∃ kind payload, frame.action = some (.unsubscribe kind payload) ∧
      c.receive frame = c.cancelStream (kind.key payload.containerID)) := by
  cases frame with
  | malformed => exact .inl ⟨rfl, rfl⟩
  | message msg =>
      simp only [Frame.action, Client.receive, Client.handleMessage]
      cases msg.action with
      | none => exact .inl ⟨rfl, rfl⟩
      | some action =>
          cases action with
          | subscribe kind payload => exact .inr (.inl ⟨kind, payload, rfl, rfl⟩)
          | unsubscribe kind payload => exact .inr (.inr ⟨kind, payload, rfl, rfl⟩)

theorem step_receive {c c' : Client} {frame : Frame}
    (h : machine.step c (.receive frame) = some c') : c' = c.receive frame := by
  simp only [machine, step] at h
  split at h
  · exact (Option.some.inj h).symm
  · cases h

theorem step_disconnect {c c' : Client} (h : machine.step c .disconnect = some c') :
    c' = { c.cleanup with reader := .closed } := by
  simp only [machine, step] at h
  split at h
  · exact (Option.some.inj h).symm
  · cases h

@[simp] theorem receive_streams (c : Client) (frame : Frame) :
    (c.receive frame).streams = c.streams := by
  rcases receive_cases c frame with ⟨-, heq⟩ | ⟨_, _, -, heq⟩ | ⟨_, _, -, heq⟩ <;>
    rw [heq] <;> rfl

theorem StreamKind.key_inj {kind kind' : StreamKind} {id id' : String}
    (h : kind.key id = kind'.key id') : kind = kind' ∧ id = id' := by
  cases kind <;> cases kind' <;>
    simp_all [StreamKind.key, ← String.toList_inj]

end Wiremap.Ws.Hub
