import Wiremap.Library.LastWord
import Wiremap.Ws.KubeHubRuns

/-! The reconnecting socket of the browser, the hooks that subscribe over it, and
the hub at the other end of each of its connections. -/
namespace Wiremap.Client.Socket

open Wiremap.Library Wiremap.Ws.KubeHub

/-- What a hook subscribes to while it is mounted: `usePodLogs` and `usePodStats` a
container, `useKubeTopology` the scope it watches. -/
def payload : Subscription → PodPayload
  | .podLogs cluster ns pod container => ⟨cluster, ns, pod, container⟩
  | .podStats cluster ns pod container => ⟨cluster, ns, pod, container⟩
  | .topology cluster ns => ⟨cluster, ns, "", ""⟩

def kind : Subscription → StreamKind
  | .podLogs .. => .podLogs
  | .podStats .. => .podStats
  | .topology .. => .topology

/-- Kubernetes names hold no separator. -/
abbrev Topic := {sub : Subscription // (payload sub).Plain}

instance : LawfulBEq Topic := Subtype.instLawfulBEq

structure Message where
  topic : Topic
  subscribe : Bool
  deriving DecidableEq

def Message.event (m : Message) : String :=
  match kind m.topic, m.subscribe with
  | .podLogs, true => "pod-logs:subscribe"
  | .podLogs, false => "pod-logs:unsubscribe"
  | .podStats, true => "pod-stats:subscribe"
  | .podStats, false => "pod-stats:unsubscribe"
  | .topology, true => "topology:watch"
  | .topology, false => "topology:unwatch"

def Message.frame (m : Message) : Frame := .message ⟨m.event, some (payload m.topic)⟩

inductive ReadyState where
  | connecting
  | open
  | closing
  | closed
  deriving DecidableEq

/-- A `WebSocket`, the messages on their way through it, and the client the hub
keeps for it; `events` are those the hub has had. -/
structure Connection where
  readyState : ReadyState
  inflight : List Message
  events : List Ws.KubeHub.Event
  client : KubeClient
  served : Ws.KubeHub.machine.Run PlainNames events client

theorem plainNames_frame (client : KubeClient) (m : Message) :
    PlainNames client (.receive m.frame) := by
  obtain ⟨⟨sub, hplain⟩, subscribe⟩ := m
  cases sub <;> cases subscribe <;> rintro _ ⟨⟩ <;> exact hplain

namespace Connection

def new : Connection := ⟨.connecting, [], [], Ws.KubeHub.machine.init, .init⟩

def send (c : Connection) (m : Message) : Connection := { c with inflight := c.inflight ++ [m] }

def receive (c : Connection) : Option Connection :=
  match c.inflight with
  | [] => none
  | m :: rest =>
      match hstep : Ws.KubeHub.machine.step c.client (.receive m.frame) with
      | none => none
      | some client => some {
          readyState := c.readyState
          inflight := rest
          events := c.events ++ [.receive m.frame]
          client := client
          served := c.served.snoc (plainNames_frame _ m) hstep }

def drop (c : Connection) : Option Connection :=
  match hstep : Ws.KubeHub.machine.step c.client .disconnect with
  | none => none
  | some client => some {
      readyState := c.readyState
      inflight := c.inflight
      events := c.events ++ [.disconnect]
      client := client
      served := c.served.snoc (show PlainNames c.client .disconnect from trivial) hstep }

end Connection

/-- The socket, with the timers that retry its messages in the order they were set,
and the hooks mounted over it. -/
structure WireSocket where
  hooks : List Topic := []
  ws : Option Nat := none
  reconnectTimer : Bool := false
  retries : List Message := []
  connections : List Connection := []

namespace WireSocket

def current (s : WireSocket) : Option Connection := s.ws.bind fun i => s.connections[i]?

def readyState (s : WireSocket) : Option ReadyState := s.current.map Connection.readyState

def connect (s : WireSocket) : WireSocket :=
  if s.readyState = some .open ∨ s.readyState = some .connecting then s
  else { s with ws := some s.connections.length, connections := s.connections ++ [.new] }

def scheduleReconnect (s : WireSocket) : WireSocket := { s with reconnectTimer := true }

def send (s : WireSocket) (m : Message) : WireSocket :=
  match s.ws with
  | some i => { s with connections := s.connections.modify i (·.send m) }
  | none => s

def emit (s : WireSocket) (m : Message) : WireSocket :=
  if s.readyState = some .open then s.send m
  else { s.connect with retries := s.retries ++ [m] }

def retry (s : WireSocket) (i : Nat) (m : Message) : WireSocket :=
  if s.readyState = some .open then { s with retries := s.retries.eraseIdx i }.send m else s

def onclose (s : WireSocket) : WireSocket := { s with ws := none }.scheduleReconnect

def setConnection (s : WireSocket) (i : Nat) (c : Connection) : WireSocket :=
  { s with connections := s.connections.set i c }

end WireSocket

inductive Event where
  | mount (topic : Topic)
  | unmount (topic : Topic)
  | retry (timer : Nat)
  | reconnect
  | opened (connection : Nat)
  | closing (connection : Nat)
  | closed (connection : Nat)
  | receive (connection : Nat)
  | drop (connection : Nat)

def step (s : WireSocket) : Event → Option WireSocket
  | .mount topic => some ({ s with hooks := s.hooks ++ [topic] }.emit ⟨topic, true⟩)
  | .unmount topic =>
      if topic ∈ s.hooks then
        some ({ s with hooks := s.hooks.erase topic }.emit ⟨topic, false⟩)
      else none
  | .retry timer => (s.retries[timer]?).map fun m => s.retry timer m
  | .reconnect => if s.reconnectTimer then some { s with reconnectTimer := false }.connect else none
  | .opened i => do
      let c ← s.connections[i]?
      if c.readyState = .connecting then some (s.setConnection i { c with readyState := .open })
      else none
  | .closing i => do
      let c ← s.connections[i]?
      if c.readyState = .open then some (s.setConnection i { c with readyState := .closing })
      else none
  | .closed i => do
      let c ← s.connections[i]?
      if c.readyState = .closed then none
      else some (s.setConnection i { c with readyState := .closed }).onclose
  | .receive i => do
      let c ← s.connections[i]?
      let c ← c.receive
      some (s.setConnection i c)
  | .drop i => do
      let c ← s.connections[i]?
      let c ← c.drop
      some (s.setConnection i c)

def machine : Machine WireSocket Event where
  init := {}
  step := step

structure Quiet (s : WireSocket) (c : Connection) : Prop where
  current : s.current = some c
  isOpen : c.readyState = .open
  served : c.client.closed = false
  inflight : c.inflight = []
  retries : s.retries = []

structure Agreed (s : WireSocket) (c : Connection) : Prop where
  onlyMounted : ∀ ctx, c.client.registry.Live ctx →
    ∃ topic ∈ s.hooks, c.client.handed[ctx]? = some topic.val
  oneEach : ∀ topic ∈ s.hooks,
    ∃! ctx, c.client.registry.Live ctx ∧ c.client.handed[ctx]? = some topic.val

/-- A connection opens while the subscribe of every hook waits in a timer; no two
hooks have one subscription when one of them goes; and no message is sent while an
earlier one that says the opposite of the same subscription waits. -/
def InOrder (s : WireSocket) : Event → Prop
  | .mount topic => s.readyState = some .open → ∀ m ∈ s.retries, m.topic = topic → m.subscribe = true
  | .unmount topic => topic ∉ s.hooks.erase topic ∧
      (s.readyState = some .open → ∀ m ∈ s.retries, m.topic = topic → m.subscribe = false)
  | .retry timer => s.readyState = some .open → ∀ m ∈ s.retries[timer]?,
      ∀ earlier ∈ s.retries.take timer, earlier.topic = m.topic → earlier = m
  | .opened i => s.ws = some i → ∀ topic ∈ s.hooks, ∃ m ∈ s.retries, m.topic = topic
  | _ => True

instance (s : WireSocket) : ∀ e, Decidable (InOrder s e)
  | .mount topic => inferInstanceAs (Decidable (_ → ∀ m ∈ s.retries, m.topic = topic → _))
  | .unmount topic => inferInstanceAs (Decidable (topic ∉ s.hooks.erase topic ∧ _))
  | .retry timer => inferInstanceAs (Decidable (_ → ∀ m ∈ s.retries[timer]?, _))
  | .opened _ => inferInstanceAs (Decidable (_ → ∀ topic ∈ s.hooks, _))
  | .reconnect | .closing _ | .closed _ | .receive _ | .drop _ => isTrue trivial

end Wiremap.Client.Socket
