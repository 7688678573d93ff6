import Mathlib.Data.List.InsertIdx
import Wiremap.Client.SocketRuns
import Wiremap.Client.WireSocketRuns

/-! The socket under the hooks is the socket by itself: what the hooks do to it are
calls of `emit`, and no `WebSocket` fails to be created. -/
namespace Wiremap.Client.WireSocket

open Wiremap.Library
open Wiremap.Client (Socket.WireSocket Socket.Connection)

abbrev View : Type := Socket.ReadyState × List Socket.Message

def WebSocket.view (w : WebSocket Socket.Message) : View := (w.readyState, w.inflight.map Message.frame)

def viewOf (c : Socket.Connection) : View := (c.readyState, c.inflight)

/-- The two are in the same state, and the socket has never been told to disconnect. -/
structure Follows (s : Socket.WireSocket) (t : State Socket.Message) : Prop where
  ws : t.ws = s.ws
  reconnectTimer : t.reconnectTimer = s.reconnectTimer
  intentionalClose : t.intentionalClose = false
  retries : t.retries.map Message.frame = s.retries
  sockets : t.sockets.map WebSocket.view = s.connections.map viewOf

section

variable {s : Socket.WireSocket} {t : State Socket.Message}

namespace Follows

theorem states_eq (h : Follows s t) : t.states = s.connections.map Socket.Connection.readyState := by
  have hfirst := congrArg (List.map Prod.fst) h.sockets
  rwa [List.map_map, List.map_map] at hfirst

theorem readyState_eq (h : Follows s t) : t.readyState = s.readyState := by
  rw [State.readyState, h.ws, h.states_eq, Socket.WireSocket.readyState,
    Socket.WireSocket.current, Option.map_bind]
  congr 1
  funext i
  rw [List.getElem?_map, Function.comp_apply]

theorem kept_iff (h : Follows s t) :
    t.Kept ↔ s.readyState = some .open ∨ s.readyState = some .connecting := by
  rw [State.Kept, h.readyState_eq]

theorem connect (h : Follows s t) : Follows s.connect (t.connect true) := by
  unfold Socket.WireSocket.connect State.connect
  by_cases hkept : t.Kept
  · rw [if_pos hkept, if_pos (h.kept_iff.mp hkept)]
    exact h
  · have hlength := congrArg List.length h.sockets
    rw [List.length_map, List.length_map] at hlength
    rw [if_neg hkept, if_neg (mt h.kept_iff.mpr hkept)]
    constructor
    · exact congrArg some hlength
    · exact h.reconnectTimer
    · rfl
    · exact h.retries
    · simp [h.sockets, WebSocket.view, viewOf, Socket.Connection.new]

theorem send (h : Follows s t) (m : Message Socket.Message) :
    Follows (s.send m.frame) (t.send m) := by
  have hws := h.ws
  unfold Socket.WireSocket.send State.send
  cases hs : s.ws with
  | none =>
      rw [hs] at hws
      simp only [hws]
      exact h
  | some i =>
      rw [hs] at hws
      simp only [hws]
      have hsockets : (t.sockets.modify i fun w => { w with inflight := w.inflight ++ [m] }).map
          WebSocket.view = (t.sockets.map WebSocket.view).modify i
            fun v => (v.1, v.2 ++ [m.frame]) := by
        refine Lists.map_modify (fun w => ?_) t.sockets i
        simp [WebSocket.view]
      have hconnections : (s.connections.modify i (·.send m.frame)).map viewOf =
          (s.connections.map viewOf).modify i fun v => (v.1, v.2 ++ [m.frame]) := by
        refine Lists.map_modify (fun c => ?_) s.connections i
        rfl
      exact ⟨rfl, h.reconnectTimer, h.intentionalClose, h.retries, by
        rw [hsockets, hconnections, h.sockets]⟩

theorem emit (h : Follows s t) (m : Socket.Message) : Follows (s.emit m) (t.emit m true) := by
  have hnoted : Follows s (t.note (t.next m)) :=
    ⟨h.ws, h.reconnectTimer, h.intentionalClose, h.retries, h.sockets⟩
  unfold Socket.WireSocket.emit State.emit
  simp only
  by_cases hopen : s.readyState = some .open
  · rw [if_pos hopen, if_neg (by rw [hnoted.readyState_eq, not_not]; exact hopen)]
    exact hnoted.send (t.next m)
  · rw [if_neg hopen, if_pos (by rwa [hnoted.readyState_eq])]
    have hconnect := hnoted.connect
    refine ⟨hconnect.ws, hconnect.reconnectTimer, hconnect.intentionalClose, ?_, hconnect.sockets⟩
    rw [List.map_append, hconnect.retries, Socket.connect_retries]
    rfl

theorem retry (h : Follows s t) (i : Nat) (m : Message Socket.Message) :
    Follows (s.retry i m.frame) (t.retry i m) := by
  unfold Socket.WireSocket.retry State.retry
  rw [h.readyState_eq]
  split
  · have hrest : Follows { s with retries := s.retries.eraseIdx i }
        { t with retries := t.retries.eraseIdx i } :=
      ⟨h.ws, h.reconnectTimer, h.intentionalClose, by rw [← List.eraseIdx_map, h.retries],
        h.sockets⟩
    exact hrest.send m
  · exact h

theorem exists_socket (h : Follows s t) {i : Nat} {c : Socket.Connection}
    (hc : s.connections[i]? = some c) : ∃ w, t.sockets[i]? = some w ∧ w.view = viewOf c := by
  have hview := congrArg (·[i]?) h.sockets
  simp only [List.getElem?_map, hc, Option.map_some] at hview
  exact Option.map_eq_some_iff.mp hview

theorem change (h : Follows s t) {i : Nat} {c c' : Socket.Connection}
    (hc : s.connections[i]? = some c) {f : WebSocket Socket.Message → WebSocket Socket.Message}
    (hf : ∀ w, w.view = viewOf c → (f w).view = viewOf c') :
    Follows (s.setConnection i c') { t with sockets := t.sockets.modify i f } := by
  obtain ⟨w, hw, hview⟩ := h.exists_socket hc
  refine ⟨h.ws, h.reconnectTimer, h.intentionalClose, h.retries, ?_⟩
  have hmodify : t.sockets.modify i f = t.sockets.set i (f w) := by
    rw [List.modify_eq_set_getElem?, hw]
    rfl
  rw [hmodify, List.map_set, hf w hview, h.sockets, Socket.WireSocket.setConnection, List.map_set]

theorem setReady (h : Follows s t) {i : Nat} {c : Socket.Connection}
    (hc : s.connections[i]? = some c) (r : Socket.ReadyState) :
    Follows (s.setConnection i { c with readyState := r }) (t.setReady i r) :=
  h.change hc fun _ hview => congrArg (fun v : View => (r, v.2)) hview

end Follows

theorem follows_step {e : Socket.Event} {s' : Socket.WireSocket} (h : Follows s t)
    (hstep : Socket.step s e = some s') :
    Follows s' t ∨ ∃ e' t', step t e' = some t' ∧ Follows s' t' := by
  have hooked : ∀ hooks, Follows { s with hooks := hooks } t := fun hooks =>
    ⟨h.ws, h.reconnectTimer, h.intentionalClose, h.retries, h.sockets⟩
  have hstate : ∀ {i : Nat} {c : Socket.Connection}, s.connections[i]? = some c →
      t.states[i]? = some c.readyState := by
    intro i c hc
    rw [h.states_eq, List.getElem?_map, hc, Option.map_some]
  cases e with
  | mount topic =>
      cases hstep
      exact Or.inr ⟨.emit ⟨topic, true⟩ true, _, rfl, (hooked _).emit _⟩
  | unmount topic =>
      obtain ⟨-, rfl⟩ := Machine.guarded_eq_some.mp hstep
      exact Or.inr ⟨.emit ⟨topic, false⟩ true, _, rfl, (hooked _).emit _⟩
  | retry timer =>
      obtain ⟨m, hm, rfl⟩ := Option.map_eq_some_iff.mp hstep
      rw [← h.retries, List.getElem?_map] at hm
      obtain ⟨waiting, hwaiting, rfl⟩ := Option.map_eq_some_iff.mp hm
      exact Or.inr ⟨.retry timer, t.retry timer waiting, by simp [step, hwaiting], h.retry _ _⟩
  | reconnect =>
      obtain ⟨htimer, rfl⟩ := Machine.guarded_eq_some.mp hstep
      refine Or.inr ⟨.reconnect true, t.reconnect true, ?_, ?_⟩
      · simp [step, h.reconnectTimer, htimer]
      · exact Follows.connect ⟨h.ws, rfl, h.intentionalClose, h.retries, h.sockets⟩
  | opened i =>
      simp only [Socket.step, Option.bind_eq_bind, Option.bind_eq_some_iff,
        Option.ite_none_right_eq_some, Option.some.injEq] at hstep
      obtain ⟨c, hc, hconnecting, rfl⟩ := hstep
      have hopen := h.setReady hc .open
      refine Or.inr ⟨.opened i, (t.setReady i .open).onopen, ?_, ?_⟩
      · simp [step, hstate hc, hconnecting]
      · exact ⟨hopen.ws, hopen.reconnectTimer, hopen.intentionalClose, hopen.retries, hopen.sockets⟩
  | closing i =>
      simp only [Socket.step, Option.bind_eq_bind, Option.bind_eq_some_iff,
        Option.ite_none_right_eq_some, Option.some.injEq] at hstep
      obtain ⟨c, hc, hopen, rfl⟩ := hstep
      exact Or.inr ⟨.closing i, t.setReady i .closing, by simp [step, hstate hc, hopen],
        h.setReady hc .closing⟩
  | closed i =>
      simp only [Socket.step, Option.bind_eq_bind, Option.bind_eq_some_iff,
        Option.ite_none_left_eq_some, Option.some.injEq] at hstep
      obtain ⟨c, hc, hclosed, rfl⟩ := hstep
      have hready := h.setReady hc .closed
      refine Or.inr ⟨.closed i, (t.setReady i .closed).onclose, ?_, ?_⟩
      · simp [step, hstate hc, hclosed]
      · rw [State.onclose, if_neg (by rw [hready.intentionalClose]; decide)]
        exact ⟨rfl, rfl, hready.intentionalClose, hready.retries, hready.sockets⟩
  | receive i =>
      simp only [Socket.step, Option.bind_eq_bind, Option.bind_eq_some_iff,
        Option.some.injEq] at hstep
      obtain ⟨c, hc, c', hreceive, rfl⟩ := hstep
      obtain ⟨m, rest, hinflight, hrest, hready, -⟩ := Socket.receive_spec hreceive
      obtain ⟨w, hw, hview⟩ := h.exists_socket hc
      obtain ⟨-, hframes⟩ := Prod.mk.inj hview
      rw [hinflight] at hframes
      obtain ⟨first, waiting, hwaiting, -, hframes⟩ := List.map_eq_cons_iff.mp hframes
      have hkept : ∀ w' : WebSocket Socket.Message, w'.view = viewOf c →
          WebSocket.view { w' with inflight := waiting } = viewOf c' := by
        intro w' hview'
        rw [WebSocket.view, viewOf, hframes, hrest, hready, (Prod.mk.inj hview').1]
      have hchange := h.change hc hkept
      refine Or.inr ⟨.receive i, { t with
        sockets := t.sockets.modify i fun w => { w with inflight := waiting }
        received := t.received ++ [first] }, by simp [step, hw, hwaiting], ?_⟩
      exact ⟨hchange.ws, hchange.reconnectTimer, hchange.intentionalClose, hchange.retries,
        hchange.sockets⟩
  | drop i =>
      simp only [Socket.step, Option.bind_eq_bind, Option.bind_eq_some_iff,
        Option.some.injEq] at hstep
      obtain ⟨c, hc, c', hdrop, rfl⟩ := hstep
      obtain ⟨hinflight, hready, -⟩ := Socket.drop_spec hdrop
      have hsame : viewOf c' = viewOf c := by rw [viewOf, viewOf, hinflight, hready]
      have hchange := h.change hc (f := id) fun _ hview => hview.trans hsame.symm
      rw [List.modify_id] at hchange
      exact Or.inl hchange

end

/-- Whatever the hooks do and their connections go through, the socket can do by itself. -/
theorem hooks_simulated {guard : Socket.WireSocket → Socket.Event → Prop}
    {events : List Socket.Event} {s : Socket.WireSocket} (hrun : Socket.machine.Run guard events s) :
    ∃ calls t, machine.Run Machine.unguarded calls t ∧ Follows s t :=
  hrun.simulated (R := Follows) (n := machine) ⟨rfl, rfl, rfl, rfl, rfl⟩
    fun _ _ _ _ h hstep => follows_step h hstep

end Wiremap.Client.WireSocket
