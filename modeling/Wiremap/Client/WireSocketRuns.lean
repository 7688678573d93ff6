import Wiremap.Client.WireSocket
import Wiremap.Library.Lists

/-! When the socket has one connection only. -/
namespace Wiremap.Client.WireSocket

open Wiremap.Library
open Wiremap.Client.Socket (ReadyState)

variable {α : Type} {s s' : State α} {e : Event α}

namespace State

@[simp] theorem states_send (s : State α) (m : Message α) : (s.send m).states = s.states := by
  unfold send
  split
  · refine Lists.map_modify_eq ?_ s.sockets _
    exact fun _ => rfl
  · rfl

@[simp] theorem ws_send (s : State α) (m : Message α) : (s.send m).ws = s.ws := by
  unfold send
  split <;> rfl

@[simp] theorem reconnectTimer_send (s : State α) (m : Message α) :
    (s.send m).reconnectTimer = s.reconnectTimer := by
  unfold send
  split <;> rfl

@[simp] theorem retries_send (s : State α) (m : Message α) : (s.send m).retries = s.retries := by
  unfold send
  split <;> rfl

@[simp] theorem emitted_send (s : State α) (m : Message α) : (s.send m).emitted = s.emitted := by
  unfold send
  split <;> rfl

@[simp] theorem received_send (s : State α) (m : Message α) :
    (s.send m).received = s.received := by
  unfold send
  split <;> rfl

theorem getElem?_states_setReady (s : State α) (i j : Nat) (r : ReadyState) :
    (s.setReady i r).states[j]? = if i = j then s.states[j]?.map fun _ => r else s.states[j]? := by
  simp only [states, setReady, List.getElem?_map, List.getElem?_modify]
  split
  · subst_vars
    simp [Function.comp_def]
  · simp

theorem kept_iff : s.Kept ↔
    ∃ i, s.ws = some i ∧ (s.states[i]? = some .open ∨ s.states[i]? = some .connecting) := by
  unfold Kept readyState
  cases s.ws with
  | none => simp
  | some i => simp

/-- All that `connect` can do. -/
theorem connect_cases (s : State α) (created : Bool) :
    s.Kept ∧ s.connect created = s ∨
    (¬s.Kept ∧ created = true ∧ s.connect created = { s with
      intentionalClose := false
      ws := some s.sockets.length
      sockets := s.sockets ++ [⟨.connecting, []⟩] }) ∨
    (¬s.Kept ∧ created = false ∧
      s.connect created = { s with intentionalClose := false, reconnectTimer := true }) := by
  unfold connect
  split
  · exact Or.inl ⟨‹_›, rfl⟩
  · cases created with
    | true => exact Or.inr (Or.inl ⟨‹_›, rfl, rfl⟩)
    | false => exact Or.inr (Or.inr ⟨‹_›, rfl, rfl⟩)

theorem emit_cases (s : State α) (frame : α) (created : Bool) :
    s.readyState = some .open ∧ s.emit frame created = (s.note (s.next frame)).send (s.next frame) ∨
    s.readyState ≠ some .open ∧ s.emit frame created =
      { (s.note (s.next frame)).connect created with
        retries := ((s.note (s.next frame)).connect created).retries ++ [s.next frame] } := by
  by_cases hopen : s.readyState = some .open
  · exact Or.inl ⟨hopen, if_neg (not_not.mpr hopen)⟩
  · exact Or.inr ⟨hopen, if_pos hopen⟩

theorem states_disconnect {i : Nat} (hws : s.ws = some i) :
    s.disconnect.states = (s.close i).states := by
  obtain ⟨ws, timer, delay, intentional, retries, sockets, emitted, received⟩ := s
  obtain rfl := hws
  simp only [disconnect, close, states, Option.elim_some]
  split <;> rfl

end State

/-! ### One connection -/

structure Sole (s : State α) : Prop extends OneConnection s where
  pending : ∀ i, s.states[i]? = some .connecting → s.ws = some i

theorem OneConnection.congr (h : OneConnection s) (hstates : s'.states = s.states)
    (hws : s'.ws = s.ws) (htimer : s'.reconnectTimer = s.reconnectTimer) : OneConnection s' := by
  refine ⟨fun i j hi hj => h.unclosed i j ?_ ?_, fun i hi => ?_⟩
  · rwa [State.Unclosed, ← hstates]
  · rwa [State.Unclosed, ← hstates]
  · rw [hws, htimer]
    exact h.owned i (hstates ▸ hi)

theorem Sole.congr (h : Sole s) (hstates : s'.states = s.states) (hws : s'.ws = s.ws)
    (htimer : s'.reconnectTimer = s.reconnectTimer) : Sole s' :=
  ⟨h.toOneConnection.congr hstates hws htimer, fun i hi => hws ▸ h.pending i (hstates ▸ hi)⟩

theorem Sole.kept (h : Sole s) {i : Nat} (hi : s.states[i]? = some .open ∨
    s.states[i]? = some .connecting) : s.ws = some i ∧ s.Kept := by
  have hws : s.ws = some i := hi.elim (fun hopen => (h.owned i hopen).1) (h.pending i)
  exact ⟨hws, State.kept_iff.mpr ⟨i, hws, hi⟩⟩

theorem sole_connect (h : Sole s) (created : Bool)
    (halone : created = true → ¬s.Kept → ∀ r ∈ s.states, r = .closed) :
    Sole (s.connect created) := by
  rcases s.connect_cases created with ⟨-, hs⟩ | ⟨hkept, hcreated, hs⟩ | ⟨hkept, -, hs⟩
  · rwa [hs]
  · have hclosed := halone hcreated hkept
    have hnew : ∀ i r, (s.connect created).states[i]? = some r → r ≠ .closed →
        i = s.sockets.length ∧ r = .connecting := by
      intro i r hi hr
      rw [hs, State.states, List.map_append, List.getElem?_append] at hi
      split at hi
      · exact absurd (hclosed r (List.mem_of_getElem? hi)) hr
      · rename_i hge
        rw [List.length_map] at hi hge
        obtain ⟨hlt, rfl⟩ := List.getElem?_eq_some_iff.mp hi
        simp at hlt
        exact ⟨by omega, by simp⟩
    refine ⟨⟨?_, ?_⟩, ?_⟩
    · rintro i j ⟨r, hi, hr⟩ ⟨r', hj, hr'⟩
      rw [(hnew i r hi hr).1, (hnew j r' hj hr').1]
    · intro i hi
      exact absurd (hnew i .open hi (by decide)).2 (by decide)
    · intro i hi
      rw [hs, (hnew i .connecting hi (by decide)).1]
  · refine ⟨⟨fun i j hi hj => h.unclosed i j ?_ ?_, fun i hi => ?_⟩, fun i hi => ?_⟩
    · rwa [hs] at hi
    · rwa [hs] at hj
    · rw [hs] at hi
      exact absurd (h.kept (Or.inl hi)).2 hkept
    · rw [hs] at hi
      exact absurd (h.kept (Or.inr hi)).2 hkept

theorem alone_of_connect {created : Bool} (h : OneConnection (s.connect created)) :
    created = true → ¬s.Kept → ∀ r ∈ s.states, r = .closed := by
  intro hcreated hkept r hr
  rcases s.connect_cases created with ⟨hkept', -⟩ | ⟨-, -, hs⟩ | ⟨-, hnot, -⟩
  · exact absurd hkept' hkept
  · by_contra hopen
    obtain ⟨i, hlt, rfl⟩ := List.mem_iff_getElem.mp hr
    have hi : (s.connect created).states[i]? = some s.states[i] := by
      rw [hs, State.states, List.map_append, List.getElem?_append_left (by exact hlt)]
      exact List.getElem?_eq_getElem hlt
    have hnew : (s.connect created).states[s.sockets.length]? = some .connecting := by
      rw [hs]
      simp [State.states]
    have heq := h.unclosed i s.sockets.length ⟨_, hi, hopen⟩ ⟨_, hnew, by decide⟩
    simp [State.states] at hlt
    omega
  · rw [hcreated] at hnot
    cases hnot

theorem step_error {i : Nat} (hs : step s (.error i) = some s') : s' = s := by
  obtain ⟨_, -, hs⟩ := Option.bind_eq_some_iff.mp hs
  exact (Machine.refused_eq_some.mp hs).2.symm

theorem step_closed {i : Nat} (hs : step s (.closed i) = some s') :
    s.Unclosed i ∧ s' = (s.setReady i .closed).onclose := by
  obtain ⟨r, hi, hs⟩ := Option.bind_eq_some_iff.mp hs
  obtain ⟨hr, rfl⟩ := Machine.refused_eq_some.mp hs
  exact ⟨⟨r, hi, hr⟩, rfl⟩

theorem step_receive {i : Nat} (hs : step s (.receive i) = some s') :
    ∃ w m rest, s.sockets[i]? = some w ∧ w.inflight = m :: rest ∧
      s' = { s with
        sockets := s.sockets.modify i fun w => { w with inflight := rest }
        received := s.received ++ [m] } := by
  obtain ⟨w, hw, hs⟩ := Option.bind_eq_some_iff.mp hs
  split at hs
  · cases hs
  · rename_i m rest hinflight
    exact ⟨w, m, rest, hw, hinflight, (Option.some.inj hs).symm⟩

section Steps

variable (h : Sole s)

include h

theorem sole_of_unkept (hunclosed : ∀ j, s'.Unclosed j → s.Unclosed j)
    (hgone : ∀ (j : Nat) (r : ReadyState), s'.states[j]? = some r → r = .closing ∨ r = .closed) :
    Sole s' := by
  refine ⟨⟨fun i j hi hj => h.unclosed i j (hunclosed i hi) (hunclosed j hj), fun i hi => ?_⟩,
    fun i hi => ?_⟩
  · exact absurd (hgone i _ hi) (by decide)
  · exact absurd (hgone i _ hi) (by decide)

theorem sole_setReady {i : Nat} {r : ReadyState} (hi : s.Unclosed i)
    (hr : r = .closing ∨ r = .closed) (hstates : s'.states = (s.setReady i r).states) : Sole s' := by
  have hat : ∀ (j : Nat) (r' : ReadyState), s'.states[j]? = some r' →
      (i = j ∧ r' = r) ∨ i ≠ j ∧ s.states[j]? = some r' := by
    intro j r' hj
    rw [hstates, State.getElem?_states_setReady] at hj
    split at hj
    · obtain ⟨_, -, rfl⟩ := Option.map_eq_some_iff.mp hj
      exact Or.inl ⟨‹_›, rfl⟩
    · exact Or.inr ⟨‹_›, hj⟩
  refine sole_of_unkept h ?_ fun j r' hj => ?_
  · rintro j ⟨r', hj, hr'⟩
    rcases hat j r' hj with ⟨rfl, -⟩ | ⟨-, hold⟩
    · exact hi
    · exact ⟨r', hold, hr'⟩
  · rcases hat j r' hj with ⟨-, rfl⟩ | ⟨hne, hold⟩
    · exact hr
    · by_contra hopen
      exact hne (h.unclosed i j hi ⟨r', hold, fun hclosed => hopen (Or.inr hclosed)⟩)

theorem sole_of_not_kept (hkept : ¬s.Kept) (hstates : s'.states = s.states) : Sole s' := by
  refine sole_of_unkept h (fun j hj => ?_) fun j r hj => ?_
  · rwa [State.Unclosed, ← hstates]
  · rw [hstates] at hj
    by_contra hopen
    have hr : r = .open ∨ r = .connecting := by
      cases r <;> simp_all
    exact hkept (h.kept (hr.imp (fun hr => hr ▸ hj) fun hr => hr ▸ hj)).2

theorem sole_disconnect : Sole s.disconnect := by
  by_cases hkept : s.Kept
  · obtain ⟨i, hws, hi⟩ := State.kept_iff.mp hkept
    have hstates : s.disconnect.states = (s.setReady i .closing).states := by
      rw [State.states_disconnect hws]
      unfold State.close
      rcases hi with hi | hi
      · rw [hi]
      · rw [hi]
    refine sole_setReady h ?_ (Or.inl rfl) hstates
    rcases hi with hi | hi
    · exact ⟨_, hi, by decide⟩
    · exact ⟨_, hi, by decide⟩
  · refine sole_of_not_kept h hkept ?_
    cases hws : s.ws with
    | none =>
        unfold State.disconnect
        simp only [hws]
        rfl
    | some i =>
        rw [State.states_disconnect hws]
        unfold State.close
        split
        · rename_i hi
          exact absurd (State.kept_iff.mpr ⟨i, hws, Or.inr hi⟩) hkept
        · rename_i hi
          exact absurd (State.kept_iff.mpr ⟨i, hws, Or.inl hi⟩) hkept
        · rfl

theorem sole_open {i : Nat} (hi : s.states[i]? = some .connecting) :
    (s.reconnectTimer = false → Sole (s.setReady i .open).onopen) ∧
      (OneConnection (s.setReady i .open).onopen → s.reconnectTimer = false) := by
  have hother : ∀ (j : Nat) (r : ReadyState), (s.setReady i .open).onopen.states[j]? = some r →
      r ≠ .closed → j = i := by
    intro j r hj hr
    by_contra hne
    rw [show (s.setReady i .open).onopen.states = (s.setReady i .open).states from rfl,
      State.getElem?_states_setReady, if_neg (Ne.symm hne)] at hj
    exact hne (h.unclosed j i ⟨r, hj, hr⟩ ⟨_, hi, by decide⟩)
  have hself : (s.setReady i .open).onopen.states[i]? = some .open := by
    rw [show (s.setReady i .open).onopen.states = (s.setReady i .open).states from rfl,
      State.getElem?_states_setReady, if_pos rfl, hi]
    rfl
  refine ⟨fun htimer => ⟨⟨?_, fun j hj => ?_⟩, fun j hj => ?_⟩, fun hone => (hone.owned i hself).2⟩
  · rintro j k ⟨r, hj, hr⟩ ⟨r', hk, hr'⟩
    rw [hother j r hj hr, hother k r' hk hr']
  · rw [hother j _ hj (by decide)]
    exact ⟨h.pending i hi, htimer⟩
  · rw [hother j _ hj (by decide)]
    exact h.pending i hi

/-- The guard says when a step leaves one connection. -/
theorem sole_step (hs : step s e = some s') :
    (Alone s e → Sole s') ∧ (OneConnection s' → Alone s e) := by
  cases e with
  | connect created =>
      obtain rfl := Option.some.inj hs
      exact ⟨sole_connect h created, alone_of_connect⟩
  | emit frame created =>
      obtain rfl := Option.some.inj hs
      have hnoted : Sole (s.note (s.next frame)) := h.congr rfl rfl rfl
      rcases s.emit_cases frame created with ⟨hopen, hemit⟩ | ⟨-, hemit⟩
      · rw [hemit]
        refine ⟨fun _ => hnoted.congr (by simp) (by simp) (by simp), fun _ _ hkept => ?_⟩
        exact absurd (Or.inl hopen) hkept
      · rw [hemit]
        exact ⟨fun halone => (sole_connect hnoted created halone).congr rfl rfl rfl,
          fun hone => alone_of_connect (s := s.note (s.next frame)) (hone.congr rfl rfl rfl)⟩
  | disconnect =>
      obtain rfl := Option.some.inj hs
      exact ⟨fun _ => sole_disconnect h, fun _ => trivial⟩
  | retry timer =>
      obtain ⟨m, -, rfl⟩ := Option.map_eq_some_iff.mp hs
      refine ⟨fun _ => ?_, fun _ => trivial⟩
      unfold State.retry
      split
      · exact h.congr (State.states_send _ m) (State.ws_send _ m) (State.reconnectTimer_send _ m)
      · exact h
  | reconnect created =>
      obtain ⟨-, rfl⟩ := Machine.guarded_eq_some.mp hs
      have htimer : Sole { s with
          reconnectTimer := false
          reconnectDelay := min (s.reconnectDelay * (3 / 2)) 30000 } :=
        ⟨⟨h.unclosed, fun i hi => ⟨(h.owned i hi).1, rfl⟩⟩, h.pending⟩
      exact ⟨sole_connect htimer created, alone_of_connect⟩
  | opened i =>
      obtain ⟨hi, rfl⟩ := Machine.guarded_eq_some.mp hs
      exact sole_open h hi
  | error i =>
      obtain rfl := step_error hs
      exact ⟨fun _ => h, fun _ => trivial⟩
  | closing i =>
      obtain ⟨hi, rfl⟩ := Machine.guarded_eq_some.mp hs
      exact ⟨fun _ => sole_setReady h ⟨_, hi, by decide⟩ (Or.inl rfl) rfl, fun _ => trivial⟩
  | closed i =>
      obtain ⟨hi, rfl⟩ := step_closed hs
      refine ⟨fun _ => sole_setReady h hi (Or.inr rfl) ?_, fun _ => trivial⟩
      unfold State.onclose
      simp only
      split <;> rfl
  | receive i =>
      obtain ⟨w, m, rest, -, -, rfl⟩ := step_receive hs
      have hstates : (s.sockets.modify i fun w => { w with inflight := rest }).map
          WebSocket.readyState = s.states := by
        refine Lists.map_modify_eq ?_ s.sockets i
        exact fun _ => rfl
      exact ⟨fun _ => h.congr hstates rfl rfl, fun _ => trivial⟩

end Steps

/-- The socket has one connection in the runs that create none while another is not
closed, and that open none while it is about to connect again. -/
theorem oneConnection_iff (es : List (Event α)) (s : State α)
    (hrun : machine.Run Machine.unguarded es s) :
    (∀ before after t, es = before ++ after → machine.Run Machine.unguarded before t →
      OneConnection t) ↔ machine.Run Alone es s := by
  have hinit : Sole (machine.init : State α) :=
    ⟨⟨fun i j hi => by simp [State.Unclosed, State.states, machine] at hi,
      fun i hi => by simp [State.states, machine] at hi⟩,
      fun i hi => by simp [State.states, machine] at hi⟩
  refine Machine.Run.always_iff hinit.toOneConnection ?_ hrun
  intro es s e s' hguarded hs
  have hsole : Sole s := hguarded.invariant hinit fun s e s' h hguard hs =>
    (sole_step h hs).1 hguard
  exact ⟨fun hguard => ((sole_step hsole hs).1 hguard).toOneConnection, (sole_step hsole hs).2⟩

instance (s : State α) : ∀ e, Decidable (Alone s e)
  | .connect created | .emit _ created | .reconnect created =>
      inferInstanceAs (Decidable (created = true → ¬s.Kept → ∀ r ∈ s.states, r = .closed))
  | .opened _ => inferInstanceAs (Decidable (s.reconnectTimer = false))
  | .disconnect | .retry _ | .error _ | .closing _ | .closed _ | .receive _ => isTrue trivial

def reconnected : List (Event String) :=
  [.connect true, .opened 0, .emit "logs:subscribe" true, .closing 0, .closed 0, .reconnect true,
    .opened 1]

theorem oneConnection_reconnected :
    ∃ s, machine.Run Alone reconnected s ∧
      ∀ before after t, reconnected = before ++ after → machine.Run Machine.unguarded before t →
        OneConnection t := by
  have hrun := Machine.run_of_runGuarded machine Alone reconnected rfl
  exact ⟨_, hrun, (oneConnection_iff reconnected _ hrun.unguard).mpr hrun⟩

/-- A message is emitted while the connection is closing. -/
def overtaken : List (Event String) :=
  [.connect true, .opened 0, .closing 0, .emit "logs:subscribe" true, .opened 1, .closed 0,
    .reconnect true, .opened 2]

/-- The close of the first connection makes the socket forget the second, which stays
open beside a third. -/
theorem overtaken_not_oneConnection :
    ∃ s, machine.Run Machine.unguarded overtaken s ∧
      s.states = [.closed, .open, .open] ∧ ¬OneConnection s := by
  refine ⟨_, Machine.run_of_runGuarded machine _ overtaken rfl, rfl, fun hone => ?_⟩
  have heq := hone.unclosed 1 2 ⟨.open, rfl, by decide⟩ ⟨.open, rfl, by decide⟩
  cases heq

end Wiremap.Client.WireSocket
