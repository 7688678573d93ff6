import Wiremap.Client.Socket

/-! Browser and hub agree on what is subscribed in the runs in order.  The invariant
says of every topic what the hub will have heard of it last, once all that is on its
way or still waits has come. -/
namespace Wiremap.Client.Socket

open Wiremap.Library Wiremap.Ws.KubeHub

/-! ### Messages -/

@[simp] theorem subscription_payload (sub : Subscription) :
    (payload sub).subscription (kind sub) = sub := by
  cases sub <;> rfl

theorem plain_payload {p : PodPayload} (h : p.Plain) (k : StreamKind) :
    (payload (p.subscription k)).Plain := by
  obtain ⟨hns, hpod, hcontainer⟩ := h
  cases k
  · exact ⟨hns, hpod, hcontainer⟩
  · exact ⟨hns, hpod, hcontainer⟩
  · exact ⟨hns, by simp [payload, PodPayload.subscription, Text.Free],
      by simp [payload, PodPayload.subscription, Text.Free]⟩

theorem frame_action (m : Message) :
    m.frame.action = some (if m.subscribe then .start (kind m.topic) (payload m.topic)
      else .cancel (kind m.topic) (payload m.topic)) := by
  obtain ⟨⟨sub, hplain⟩, subscribe⟩ := m
  cases sub <;> cases subscribe <;> rfl

theorem wanted_receive (events : List Ws.KubeHub.Event) (m : Message) (topic : Topic) :
    wanted (events ++ [.receive m.frame]) topic =
      if m.topic = topic then m.subscribe else wanted events topic := by
  rw [wanted_append, Ws.KubeHub.Event.updates, tells_eq, frame_action]
  cases m.subscribe <;> simp [Action.said, Subtype.ext_iff]

def heard (events : List Ws.KubeHub.Event) (log : List Message) (topic : Topic) : Bool :=
  (lastWord Message.topic topic log).elim (wanted events topic) Message.subscribe

theorem heard_receive (events : List Ws.KubeHub.Event) (m : Message) (log : List Message)
    (topic : Topic) :
    heard (events ++ [.receive m.frame]) log topic = heard events (m :: log) topic := by
  unfold heard
  rw [lastWord_cons, wanted_receive]
  cases lastWord Message.topic topic log with
  | none => by_cases hsame : m.topic = topic <;> simp [hsame]
  | some last => rfl

theorem heard_append (events : List Ws.KubeHub.Event) (log log' : List Message) (topic : Topic) :
    heard events (log ++ log') topic =
      (lastWord Message.topic topic log').elim (heard events log topic) Message.subscribe := by
  unfold heard
  rw [lastWord_append]
  cases lastWord Message.topic topic log' <;> rfl

theorem heard_disconnect (events : List Ws.KubeHub.Event) (log : List Message) (topic : Topic) :
    heard (events ++ [.disconnect]) log topic = heard events log topic := by
  unfold heard
  rw [wanted_append]
  rfl

/-! ### The invariant -/

def Waiting (s : WireSocket) : Prop :=
  ∀ topic m, lastWord Message.topic topic s.retries = some m →
    m.subscribe = decide (topic ∈ s.hooks)

def Fresh (c : Connection) : Prop :=
  c.readyState = .connecting → c.inflight = [] ∧ ∀ topic : Topic, wanted c.events topic = false

def Hears (s : WireSocket) (c : Connection) : Prop :=
  c.readyState = .open →
    ∀ topic, heard c.events (c.inflight ++ s.retries) topic = decide (topic ∈ s.hooks)

structure Sound (s : WireSocket) : Prop where
  waiting : Waiting s
  fresh : ∀ c ∈ s.connections, Fresh c
  hears : ∀ c ∈ s.current, Hears s c

variable {s s' : WireSocket}

theorem sound_init : Sound machine.init where
  waiting := by simp [machine, Waiting]
  fresh := by simp [machine]
  hears := by simp [machine, WireSocket.current]

theorem current_of_ws {i : Nat} {c : Connection} (hc : s.connections[i]? = some c)
    (hws : s.ws = some i) : s.current = some c := by
  rw [WireSocket.current, hws]
  exact hc

theorem current_setConnection {i : Nat} {c c' : Connection} (hc : s.connections[i]? = some c) :
    (s.setConnection i c').current = if s.ws = some i then some c' else s.current := by
  have hi := (List.getElem?_eq_some_iff.mp hc).1
  unfold WireSocket.current WireSocket.setConnection
  cases s.ws with
  | none => simp
  | some j =>
      by_cases hsame : i = j
      · subst hsame
        simp [hi]
      · simp [hsame, Ne.symm hsame]

theorem current_of_open (h : s.readyState = some .open) :
    ∃ i c, s.ws = some i ∧ s.connections[i]? = some c ∧ s.current = some c ∧ c.readyState = .open := by
  obtain ⟨c, hcurrent, hopen⟩ := Option.map_eq_some_iff.mp h
  obtain ⟨i, hws, hc⟩ := Option.bind_eq_some_iff.mp hcurrent
  exact ⟨i, c, hws, hc, hcurrent, hopen⟩

theorem open_of_current (h : s.readyState = some .open) {c : Connection} (hc : c ∈ s.current) :
    c.readyState = .open := by
  obtain ⟨_, c', -, -, hcurrent, hopen⟩ := current_of_open h
  cases hcurrent.symm.trans hc
  exact hopen

theorem hears_of_not_open (h : s.readyState ≠ some .open) : ∀ c ∈ s.current, Hears s c := by
  intro c hcurrent hopen
  have hcurrent : s.current = some c := hcurrent
  exact absurd (by rw [WireSocket.readyState, hcurrent, Option.map_some, hopen]) h

theorem fresh_setConnection (h : ∀ c ∈ s.connections, Fresh c) {i : Nat} {c : Connection}
    (hc : Fresh c) : ∀ c' ∈ (s.setConnection i c).connections, Fresh c' := by
  intro c' hc'
  rcases List.mem_or_eq_of_mem_set hc' with hold | rfl
  · exact h c' hold
  · exact hc

theorem sound_setConnection (h : Sound s) {i : Nat} {c c' : Connection}
    (hc : s.connections[i]? = some c) (hfresh : Fresh c') (hhears : s.ws = some i → Hears s c') :
    Sound (s.setConnection i c') where
  waiting := h.waiting
  fresh := fresh_setConnection h.fresh hfresh
  hears := by
    intro other hother
    rw [current_setConnection hc] at hother
    split at hother
    · cases hother
      exact hhears ‹_›
    · exact h.hears other hother

theorem connect_hooks : s.connect.hooks = s.hooks := by
  unfold WireSocket.connect
  split <;> rfl

theorem connect_retries : s.connect.retries = s.retries := by
  unfold WireSocket.connect
  split <;> rfl

theorem connect_not_open (hopen : s.readyState ≠ some .open) :
    s.connect.readyState ≠ some .open := by
  unfold WireSocket.connect
  split
  · exact hopen
  · simp [WireSocket.readyState, WireSocket.current, Connection.new]

theorem fresh_connect (h : ∀ c ∈ s.connections, Fresh c) : ∀ c ∈ s.connect.connections, Fresh c := by
  unfold WireSocket.connect
  split
  · exact h
  · intro c hc
    rcases List.mem_append.mp hc with hold | hnew
    · exact h c hold
    · cases List.mem_singleton.mp hnew
      exact fun _ => ⟨rfl, fun _ => rfl⟩

theorem sound_connect (h : Sound s) : Sound s.connect := by
  by_cases hopen : s.readyState = some .open
  · rwa [WireSocket.connect, if_pos (.inl hopen)]
  · refine ⟨?_, fresh_connect h.fresh, hears_of_not_open (connect_not_open hopen)⟩
    unfold Waiting
    rw [connect_hooks, connect_retries]
    exact h.waiting

theorem send_eq {i : Nat} {c : Connection} (hws : s.ws = some i) (hc : s.connections[i]? = some c)
    (m : Message) : s.send m = s.setConnection i (c.send m) := by
  unfold WireSocket.send WireSocket.setConnection
  rw [hws]
  dsimp only
  rw [List.modify_eq_set_getElem?, hc]
  rfl

theorem sound_send (hopen : s.readyState = some .open) (hwaiting : Waiting s)
    (hfresh : ∀ c ∈ s.connections, Fresh c) (m : Message)
    (hheard : ∀ c ∈ s.current, ∀ topic,
      heard c.events (c.inflight ++ (m :: s.retries)) topic = decide (topic ∈ s.hooks)) :
    Sound (s.send m) := by
  obtain ⟨i, c, hws, hc, hcurrent, hready⟩ := current_of_open hopen
  rw [send_eq hws hc]
  refine ⟨hwaiting, fresh_setConnection hfresh fun hconnecting => ?_, fun c' hc' _ topic => ?_⟩
  · cases hready.symm.trans hconnecting
  · rw [current_setConnection hc, if_pos hws] at hc'
    cases hc'
    have hlog : (c.send m).inflight ++ s.retries = c.inflight ++ (m :: s.retries) := by
      simp [Connection.send]
    have hheard' := hheard c hcurrent topic
    rwa [← hlog] at hheard'

/-! ### Steps -/

/-- A hook is mounted, or goes: the word it sends or leaves waiting is the last on
its topic. -/
theorem sound_emit (h : Sound s) {topic : Topic} {word : Bool} {hooks : List Topic}
    (hword : decide (topic ∈ hooks) = word)
    (hothers : ∀ other, other ≠ topic → (other ∈ hooks ↔ other ∈ s.hooks))
    (horder : s.readyState = some .open → ∀ m ∈ s.retries, m.topic = topic → m.subscribe = word) :
    Sound ({ s with hooks := hooks }.emit ⟨topic, word⟩) := by
  have hother : ∀ other, other ≠ topic → decide (other ∈ hooks) = decide (other ∈ s.hooks) :=
    fun other hne => decide_eq_decide.mpr (hothers other hne)
  by_cases hopen : s.readyState = some .open
  · have hwaiting : Waiting { s with hooks := hooks } := by
      intro other m hm
      by_cases hsame : other = topic
      · subst hsame
        rw [hword]
        exact horder hopen m (mem_of_lastWord hm).1 (mem_of_lastWord hm).2
      · rw [hother other hsame]
        exact h.waiting other m hm
    rw [WireSocket.emit, if_pos (show WireSocket.readyState { s with hooks := hooks } = _ from hopen)]
    refine sound_send (s := { s with hooks := hooks }) hopen hwaiting h.fresh _ fun c hc other => ?_
    rw [heard_append, lastWord_cons]
    by_cases hsame : topic = other
    · subst hsame
      rw [if_pos rfl]
      cases hlast : lastWord Message.topic topic s.retries with
      | none => exact hword.symm
      | some m => exact hwaiting topic m hlast
    · have hears := h.hears c hc (open_of_current hopen hc) other
      rw [if_neg hsame, Option.or_none, ← heard_append, hears]
      exact (hother other (Ne.symm hsame)).symm
  · rw [WireSocket.emit, if_neg (show WireSocket.readyState { s with hooks := hooks } ≠ _ from hopen)]
    have hconnect := connect_not_open (s := { s with hooks := hooks }) hopen
    refine ⟨?_, fresh_connect (s := { s with hooks := hooks }) h.fresh, hears_of_not_open hconnect⟩
    intro other m hm
    dsimp only at hm ⊢
    rw [connect_hooks]
    rw [lastWord_append, lastWord_singleton] at hm
    by_cases hsame : topic = other
    · subst hsame
      rw [if_pos rfl] at hm
      cases hm
      exact hword.symm
    · rw [if_neg hsame] at hm
      rw [hother other (Ne.symm hsame)]
      exact h.waiting other m hm

theorem sound_retry (h : Sound s) {timer : Nat} {m : Message} (hm : s.retries[timer]? = some m)
    (horder : s.readyState = some .open →
      ∀ earlier ∈ s.retries.take timer, earlier.topic = m.topic → earlier = m) :
    Sound (s.retry timer m) := by
  unfold WireSocket.retry
  split
  · rename_i hopen
    obtain ⟨htimer, rfl⟩ := List.getElem?_eq_some_iff.mp hm
    have hsplit : s.retries = s.retries.take timer ++ s.retries[timer] :: s.retries.drop (timer + 1) := by
      rw [← List.drop_eq_getElem_cons htimer, List.take_append_drop]
    have hwaiting : Waiting { s with retries := s.retries.eraseIdx timer } := by
      intro topic last hlast
      refine h.waiting topic last ?_
      rw [hsplit]
      refine lastWord_erase (horder hopen) ?_
      rwa [← List.eraseIdx_eq_take_drop_succ]
    refine sound_send (s := { s with retries := s.retries.eraseIdx timer }) hopen hwaiting h.fresh _
      fun c hc topic => ?_
    have hears := h.hears c hc (open_of_current hopen hc) topic
    dsimp only
    rw [heard_append, List.eraseIdx_eq_take_drop_succ, lastWord_hoist (horder hopen), ← hsplit,
      ← heard_append]
    exact hears
  · exact h

theorem receive_spec {c c' : Connection} (h : c.receive = some c') :
    ∃ m rest, c.inflight = m :: rest ∧ c'.inflight = rest ∧ c'.readyState = c.readyState ∧
      c'.events = c.events ++ [.receive m.frame] := by
  unfold Connection.receive at h
  split at h
  · cases h
  · rename_i m rest hinflight
    split at h
    · cases h
    · cases h
      exact ⟨m, rest, hinflight, rfl, rfl, rfl⟩

theorem drop_spec {c c' : Connection} (h : c.drop = some c') :
    c'.inflight = c.inflight ∧ c'.readyState = c.readyState ∧
      c'.events = c.events ++ [.disconnect] := by
  unfold Connection.drop at h
  split at h
  · cases h
  · cases h
    exact ⟨rfl, rfl, rfl⟩

/-- A connection that opens is told, by the timers that wait, of every hook. -/
theorem hears_opened (h : Sound s) {c : Connection} (hconnecting : c.readyState = .connecting)
    (hfresh : Fresh c) (horder : ∀ topic ∈ s.hooks, ∃ m ∈ s.retries, m.topic = topic) :
    Hears s { c with readyState := .open } := by
  obtain ⟨hinflight, hwanted⟩ := hfresh hconnecting
  intro _ topic
  dsimp only
  rw [hinflight, List.nil_append, heard]
  cases hlast : lastWord Message.topic topic s.retries with
  | some m => exact h.waiting topic m hlast
  | none =>
      have hunmounted : topic ∉ s.hooks := fun hmounted => by
        obtain ⟨m, hm, htopic⟩ := horder topic hmounted
        exact lastWord_eq_none_iff.mp hlast m hm htopic
      rw [decide_eq_false hunmounted]
      exact hwanted topic

theorem sound_step {e : Event} (h : Sound s) (horder : InOrder s e) (hstep : step s e = some s') :
    Sound s' := by
  cases e with
  | mount topic =>
      cases hstep
      refine sound_emit h (by simp) (fun other hne => ?_) horder
      simp [hne]
  | unmount topic =>
      simp only [step] at hstep
      split at hstep
      · cases hstep
        refine sound_emit h (decide_eq_false horder.1) (fun other hne => ?_) horder.2
        exact List.mem_erase_of_ne hne
      · cases hstep
  | retry timer =>
      obtain ⟨m, hm, rfl⟩ := Option.map_eq_some_iff.mp hstep
      exact sound_retry h hm fun hopen => horder hopen m hm
  | reconnect =>
      simp only [step] at hstep
      split at hstep
      · cases hstep
        exact sound_connect ⟨h.waiting, h.fresh, h.hears⟩
      · cases hstep
  | opened i =>
      simp only [step, Option.bind_eq_bind, Option.bind_eq_some_iff] at hstep
      obtain ⟨c, hc, hstep⟩ := hstep
      split at hstep
      · rename_i hconnecting
        cases hstep
        refine sound_setConnection h hc nofun fun hws => ?_
        exact hears_opened h hconnecting (h.fresh c (List.mem_of_getElem? hc)) (horder hws)
      · cases hstep
  | closing i =>
      simp only [step, Option.bind_eq_bind, Option.bind_eq_some_iff] at hstep
      obtain ⟨c, hc, hstep⟩ := hstep
      split at hstep
      · cases hstep
        exact sound_setConnection h hc nofun fun _ => nofun
      · cases hstep
  | closed i =>
      simp only [step, Option.bind_eq_bind, Option.bind_eq_some_iff] at hstep
      obtain ⟨c, hc, hstep⟩ := hstep
      split at hstep
      · cases hstep
      · cases hstep
        exact ⟨h.waiting, fresh_setConnection h.fresh nofun, fun _ hcurrent => by cases hcurrent⟩
  | receive i =>
      simp only [step, Option.bind_eq_bind, Option.bind_eq_some_iff] at hstep
      obtain ⟨c, hc, c', hreceive, hstep⟩ := hstep
      cases hstep
      obtain ⟨m, rest, hinflight, hrest, hready, hevents⟩ := receive_spec hreceive
      refine sound_setConnection h hc (fun hconnecting => ?_) fun hws hopen topic => ?_
      · have hempty := (h.fresh c (List.mem_of_getElem? hc) (hready ▸ hconnecting)).1
        cases hinflight.symm.trans hempty
      · rw [hevents, hrest, heard_receive, ← List.cons_append, ← hinflight]
        exact h.hears c (current_of_ws hc hws) (hready ▸ hopen) topic
  | drop i =>
      simp only [step, Option.bind_eq_bind, Option.bind_eq_some_iff] at hstep
      obtain ⟨c, hc, c', hdrop, hstep⟩ := hstep
      cases hstep
      obtain ⟨hinflight, hready, hevents⟩ := drop_spec hdrop
      refine sound_setConnection h hc (fun hconnecting => ?_) fun hws hopen topic => ?_
      · rw [hinflight, hevents]
        obtain ⟨hempty, hwanted⟩ := h.fresh c (List.mem_of_getElem? hc) (hready ▸ hconnecting)
        refine ⟨hempty, fun topic => ?_⟩
        rw [wanted_append]
        exact hwanted topic
      · rw [hevents, hinflight, heard_disconnect]
        exact h.hears c (current_of_ws hc hws) (hready ▸ hopen) topic

theorem sound_run {events : List Event} (hrun : machine.Run InOrder events s) : Sound s :=
  hrun.invariant (I := Sound) sound_init fun _ _ _ => sound_step

/-- In a run in order, whenever the socket is open and nothing is on its way or
waits to be sent, the live streams are exactly what the mounted hooks subscribe to. -/
theorem agreed_when_quiet (events : List Event) (s : WireSocket) (c : Connection)
    (hrun : machine.Run InOrder events s) (hquiet : Quiet s c) : Agreed s c := by
  have hwanted : ∀ topic : Topic, wanted c.events topic = decide (topic ∈ s.hooks) := by
    intro topic
    have hears := (sound_run hrun).hears c hquiet.current hquiet.isOpen topic
    rwa [hquiet.inflight, hquiet.retries] at hears
  have htracked := tracked_run c.served
  have hconnected : .disconnect ∉ c.events := fun h => by
    have hclosed := (htracked.closed h).1
    simp [hquiet.served] at hclosed
  constructor
  · intro ctx hlive
    obtain ⟨sub, hhanded, hsub⟩ := htracked.oneStreamEach.onlyWanted hconnected ctx hlive
    obtain ⟨p, k, hplain, rfl⟩ := htracked.known sub hsub
    refine ⟨⟨_, plain_payload hplain k⟩, of_decide_eq_true ?_, hhanded⟩
    rw [← hwanted]
    exact hsub
  · intro topic hmounted
    refine htracked.oneStreamEach.exactlyOne hconnected topic ?_
    rw [hwanted]
    exact decide_eq_true hmounted

def webLogs : Topic := ⟨.podLogs "prod" "shop" "web-0" "app", by decide⟩

def shopScope : Topic := ⟨.topology "prod" "shop", by decide⟩

def retriedSession : List Event :=
  [.mount webLogs, .closed 0, .reconnect, .opened 1, .retry 0, .receive 1, .mount shopScope,
    .receive 1, .unmount webLogs, .receive 1]

/-- The connection drops after the hook has subscribed. -/
def droppedSession : List Event :=
  [.mount webLogs, .opened 0, .retry 0, .receive 0, .drop 0, .closed 0, .reconnect, .opened 1]

theorem agreed_when_quiet_retried :
    ∃ s c, machine.Run InOrder retriedSession s ∧ Quiet s c ∧ s.hooks = [shopScope] ∧ Agreed s c := by
  have hrun := Machine.run_of_runGuarded machine InOrder retriedSession rfl
  exact ⟨_, _, hrun, ⟨rfl, rfl, rfl, rfl, rfl⟩, rfl,
    agreed_when_quiet _ _ _ hrun ⟨rfl, rfl, rfl, rfl, rfl⟩⟩

/-- Nobody subscribes again. -/
theorem droppedSession_not_agreed :
    ¬ ∀ events s c, machine.Run Machine.unguarded events s → Quiet s c → Agreed s c := by
  intro hall
  have hrun := Machine.run_of_runGuarded machine Machine.unguarded droppedSession rfl
  have hagreed := hall _ _ { Connection.new with readyState := .open } hrun ⟨rfl, rfl, rfl, rfl, rfl⟩
  obtain ⟨ctx, ⟨-, hhanded⟩, -⟩ := hagreed.oneEach webLogs List.mem_cons_self
  cases hhanded

end Wiremap.Client.Socket
