import Wiremap.Ws.KubeHub

/-! The live streams of a Kubernetes client are exactly its subscriptions.  The
invariant `Tracked` ties the table of cancel functions to the live contexts on
one side and to the messages received so far on the other. -/
namespace Wiremap.Ws.KubeHub

open Wiremap.Library

/-- The events of the protocol: the stream that each is about, and whether it asks for it. -/
def protocol : List (String × StreamKind × Bool) :=
  [("pod-logs:subscribe", .podLogs, true), ("pod-logs:unsubscribe", .podLogs, false),
    ("pod-stats:subscribe", .podStats, true), ("pod-stats:unsubscribe", .podStats, false),
    ("topology:watch", .topology, true), ("topology:unwatch", .topology, false)]

/-- What a frame says by the protocol: which subscription it names, and whether it is wanted. -/
def Frame.tells : Frame → Option (Subscription × Bool)
  | .malformed => none
  | .message msg =>
      msg.data.bind fun payload =>
        (protocol.lookup msg.event).map fun entry => (payload.subscription entry.1, entry.2)

def Action.said : Action → Subscription × Bool
  | .start kind payload => (payload.subscription kind, true)
  | .cancel kind payload => (payload.subscription kind, false)

/-- The dispatcher takes each frame for what it says. -/
theorem tells_eq (frame : Frame) : frame.tells = frame.action.map Action.said := by
  cases frame with
  | malformed => rfl
  | message msg =>
      obtain ⟨event, data⟩ := msg
      cases data with
      | none => rfl
      | some payload =>
          simp only [Frame.tells, Frame.action, WsMessage.action, Option.bind_some]
          split
          · rfl
          · rfl
          · rfl
          · rfl
          · rfl
          · rfl
          · have hnone : protocol.lookup event = none := by simp_all [protocol]
            rw [hnone]
            rfl

def Action.Plain : Action → Prop
  | .start _ payload => payload.Plain
  | .cancel _ payload => payload.Plain

instance : ∀ action : Action, Decidable action.Plain
  | .start _ payload => inferInstanceAs (Decidable payload.Plain)
  | .cancel _ payload => inferInstanceAs (Decidable payload.Plain)

/-- The names in a message hold no separator; cluster names are free. -/
def PlainNames (_ : KubeClient) : Event → Prop
  | .receive frame => ∀ action ∈ frame.action, action.Plain
  | .disconnect => True

instance (c : KubeClient) : ∀ e, Decidable (PlainNames c e)
  | .receive frame => inferInstanceAs (Decidable (∀ action ∈ frame.action, action.Plain))
  | .disconnect => isTrue trivial

def Event.updates (sub : Subscription) (was : Bool) : Event → Bool
  | .disconnect => was
  | .receive frame =>
      match frame.tells with
      | none => was
      | some (named, asks) => if named = sub then asks else was

/-- The most recent message about `sub` was a subscribe. -/
def wanted (events : List Event) (sub : Subscription) : Bool :=
  events.foldl (Event.updates sub) false

structure OneStreamEach (events : List Event) (c : KubeClient) : Prop where
  exactlyOne : .disconnect ∉ events → ∀ sub, wanted events sub = true →
    ∃! ctx, c.registry.Live ctx ∧ c.handed[ctx]? = some sub
  onlyWanted : .disconnect ∉ events → ∀ ctx, c.registry.Live ctx →
    ∃ sub, c.handed[ctx]? = some sub ∧ wanted events sub = true
  cleaned : .disconnect ∈ events → ∀ ctx, ¬ c.registry.Live ctx

structure Isolated (c : KubeClient) (frame : Frame) (c' : KubeClient) : Prop where
  others : ∀ ctx sub, c.handed[ctx]? = some sub →
    (∀ named asks, frame.tells = some (named, asks) → named ≠ sub) →
    (c'.registry.Live ctx ↔ c.registry.Live ctx)
  replaced : ∀ named, frame.tells = some (named, true) → ∀ ctx, c.registry.Live ctx →
    (¬ c'.registry.Live ctx ↔ c.handed[ctx]? = some named)

structure Tracked (events : List Event) (c : KubeClient) : Prop where
  length : c.handed.length = c.registry.next
  live : ∀ ctx, c.registry.Live ctx ↔ ∃ key, c.registry.Holds key ctx
  held : ∀ key ctx, c.registry.Holds key ctx →
    ∃ (payload : PodPayload) (kind : StreamKind), payload.Plain ∧
    key = payload.streamKey kind ∧ c.handed[ctx]? = some (payload.subscription kind)
  closed : .disconnect ∈ events → c.closed = true ∧ ∀ key ctx, ¬ c.registry.Holds key ctx
  wanted : .disconnect ∉ events → ∀ (payload : PodPayload) (kind : StreamKind), payload.Plain →
    (KubeHub.wanted events (payload.subscription kind) = true ↔
      ∃ ctx, c.registry.Holds (payload.streamKey kind) ctx)
  known : ∀ sub, KubeHub.wanted events sub = true →
    ∃ (payload : PodPayload) (kind : StreamKind), payload.Plain ∧ sub = payload.subscription kind

theorem wanted_append (events : List Event) (e : Event) (sub : Subscription) :
    wanted (events ++ [e]) sub = e.updates sub (wanted events sub) := by
  simp [wanted, List.foldl_append]

theorem tracked_init : Tracked [] machine.init where
  length := rfl
  live := by simp [machine]
  held := by simp [machine]
  closed := by simp
  wanted := by simp [KubeHub.wanted, machine]
  known := by simp [KubeHub.wanted]

theorem Tracked.held_lt {events : List Event} {c : KubeClient} (hc : Tracked events c)
    {key : String} {ctx : Nat} (h : c.registry.Holds key ctx) : ctx < c.registry.next :=
  ((hc.live ctx).mpr ⟨key, h⟩).lt

theorem Tracked.handed_iff {events : List Event} {c : KubeClient} (hc : Tracked events c)
    {ctx : Nat} (hlive : c.registry.Live ctx) {payload : PodPayload} (hplain : payload.Plain)
    (kind : StreamKind) :
    c.handed[ctx]? = some (payload.subscription kind) ↔
      c.registry.Holds (payload.streamKey kind) ctx := by
  obtain ⟨key, hkey⟩ := (hc.live ctx).mp hlive
  obtain ⟨payload', kind', hplain', rfl, hhanded⟩ := hc.held key ctx hkey
  constructor
  · intro h
    rw [hhanded, Option.some_inj] at h
    rwa [(streamKey_eq_iff hplain hplain' kind kind').mpr h.symm]
  · intro h
    obtain ⟨payload₂, kind₂, hplain₂, hsame, hhanded₂⟩ := hc.held _ ctx h
    rw [hhanded₂, (streamKey_eq_iff hplain hplain₂ kind kind₂).mp hsame]

private theorem Tracked.connected {events : List Event} {c : KubeClient} (hc : Tracked events c)
    (hopen : c.closed = false) : .disconnect ∉ events := by
  intro h
  simp [(hc.closed h).1] at hopen

/-- One context stands for one subscription, hence under one key. -/
private theorem Tracked.key_unique {events : List Event} {c : KubeClient} (hc : Tracked events c)
    {key : String} {ctx : Nat} {payload : PodPayload} (hplain : payload.Plain) (kind : StreamKind)
    (h : c.registry.Holds key ctx) (h' : c.registry.Holds (payload.streamKey kind) ctx) :
    key = payload.streamKey kind := by
  have hlive := (hc.live ctx).mpr ⟨key, h⟩
  obtain ⟨payload', kind', hplain', rfl, hhanded⟩ := hc.held key ctx h
  rw [streamKey_eq_iff hplain' hplain, ← Option.some_inj, ← hhanded]
  exact (hc.handed_iff hlive hplain kind).mpr h'

theorem receive_cases (c : KubeClient) (frame : Frame) :
    (frame.action = none ∧ c.receive frame = c) ∨
    (∃ kind payload, frame.action = some (.start kind payload) ∧
      c.receive frame = { c with
        registry := startStream c.registry (payload.streamKey kind)
        handed := c.handed ++ [payload.subscription kind] }) ∨
    (∃ kind payload, frame.action = some (.cancel kind payload) ∧
      c.receive frame = { c with registry := c.registry.cancelKey (payload.streamKey kind) }) := by
  cases frame with
  | malformed => exact .inl ⟨rfl, rfl⟩
  | message msg =>
      simp only [Frame.action, KubeClient.receive, KubeClient.handleMessage]
      cases msg.action with
      | none => exact .inl ⟨rfl, rfl⟩
      | some action =>
          cases action with
          | start kind payload => exact .inr (.inl ⟨kind, payload, rfl, rfl⟩)
          | cancel kind payload => exact .inr (.inr ⟨kind, payload, rfl, rfl⟩)

private theorem tracked_ignored {events : List Event} {c : KubeClient} (hc : Tracked events c)
    {frame : Frame} (haction : frame.action = none) :
    Tracked (events ++ [.receive frame]) c := by
  have hwanted : ∀ sub, KubeHub.wanted (events ++ [.receive frame]) sub =
      KubeHub.wanted events sub := by
    intro sub
    simp [wanted_append, Event.updates, tells_eq, haction]
  refine ⟨hc.length, hc.live, hc.held, ?_, ?_, ?_⟩
  · simpa using hc.closed
  · simpa [hwanted] using hc.wanted
  · simpa [hwanted] using hc.known

private theorem tracked_start {events : List Event} {c : KubeClient} (hc : Tracked events c)
    {frame : Frame} {kind : StreamKind} {payload : PodPayload} (hopen : c.closed = false)
    (hplain : payload.Plain) (haction : frame.action = some (.start kind payload)) :
    Tracked (events ++ [.receive frame]) { c with
      registry := startStream c.registry (payload.streamKey kind)
      handed := c.handed ++ [payload.subscription kind] } := by
  have hupdate : ∀ sub, KubeHub.wanted (events ++ [.receive frame]) sub =
      if payload.subscription kind = sub then true else KubeHub.wanted events sub := by
    intro sub
    simp [wanted_append, Event.updates, tells_eq, haction, Action.said]
  have hnot := hc.connected hopen
  have hlength := hc.length
  constructor
  · simp [hlength]
  · intro ctx
    simp only [live_startStream _ _ _ fun _ => hc.held_lt, holds_startStream]
    constructor
    · rintro (⟨hlive, hfree⟩ | hnew)
      · obtain ⟨key, hkey⟩ := (hc.live ctx).mp hlive
        refine ⟨key, .inr ⟨?_, hkey⟩⟩
        rintro rfl
        exact hfree hkey
      · exact ⟨_, .inl ⟨rfl, hnew⟩⟩
    · rintro ⟨key, ⟨-, hnew⟩ | ⟨hne, hkey⟩⟩
      · exact .inr hnew
      · refine .inl ⟨(hc.live ctx).mpr ⟨key, hkey⟩, fun h => hne ?_⟩
        exact hc.key_unique hplain kind hkey h
  · intro key ctx hkey
    rcases (holds_startStream _ _ _ _).mp hkey with ⟨rfl, rfl⟩ | ⟨-, hkey⟩
    · exact ⟨payload, kind, hplain, rfl, by simp [← hlength]⟩
    · obtain ⟨payload', kind', hplain', hsame, hhanded⟩ := hc.held key ctx hkey
      refine ⟨payload', kind', hplain', hsame, ?_⟩
      have hlt := hc.held_lt hkey
      rwa [List.getElem?_append_left (by omega)]
  · simp [hnot]
  · intro _ payload' kind' hplain'
    simp only [hupdate, holds_startStream, ← streamKey_eq_iff hplain hplain' kind kind']
    by_cases hkey : payload.streamKey kind = payload'.streamKey kind'
    · simp [hkey]
    · simpa [hkey, Ne.symm hkey] using hc.wanted hnot payload' kind' hplain'
  · intro sub hsub
    rw [hupdate] at hsub
    by_cases hsame : payload.subscription kind = sub
    · exact ⟨payload, kind, hplain, hsame.symm⟩
    · exact hc.known sub (by simpa [hsame] using hsub)

private theorem tracked_cancel {events : List Event} {c : KubeClient} (hc : Tracked events c)
    {frame : Frame} {kind : StreamKind} {payload : PodPayload} (hopen : c.closed = false)
    (hplain : payload.Plain) (haction : frame.action = some (.cancel kind payload)) :
    Tracked (events ++ [.receive frame])
      { c with registry := c.registry.cancelKey (payload.streamKey kind) } := by
  have hupdate : ∀ sub, KubeHub.wanted (events ++ [.receive frame]) sub =
      if payload.subscription kind = sub then false else KubeHub.wanted events sub := by
    intro sub
    simp [wanted_append, Event.updates, tells_eq, haction, Action.said]
  have hnot := hc.connected hopen
  constructor
  · simp [hc.length]
  · intro ctx
    simp only [CancelRegistry.live_cancelKey, CancelRegistry.holds_cancelKey]
    constructor
    · rintro ⟨hlive, hfree⟩
      obtain ⟨key, hkey⟩ := (hc.live ctx).mp hlive
      refine ⟨key, hkey, ?_⟩
      rintro rfl
      exact hfree hkey
    · rintro ⟨key, hkey, hne⟩
      refine ⟨(hc.live ctx).mpr ⟨key, hkey⟩, fun h => hne ?_⟩
      exact hc.key_unique hplain kind hkey h
  · intro key ctx hkey
    exact hc.held key ctx ((CancelRegistry.holds_cancelKey _ _ _ _).mp hkey).1
  · simp [hnot]
  · intro _ payload' kind' hplain'
    simp only [hupdate, CancelRegistry.holds_cancelKey, ← streamKey_eq_iff hplain hplain' kind kind']
    by_cases hkey : payload.streamKey kind = payload'.streamKey kind'
    · simp [hkey]
    · simpa [hkey, Ne.symm hkey] using hc.wanted hnot payload' kind' hplain'
  · intro sub hsub
    rw [hupdate] at hsub
    by_cases hsame : payload.subscription kind = sub
    · simp [hsame] at hsub
    · exact hc.known sub (by simpa [hsame] using hsub)

private theorem tracked_disconnect {events : List Event} {c : KubeClient}
    (hc : Tracked events c) :
    Tracked (events ++ [.disconnect]) { c.cleanup with closed := true } := by
  constructor
  · simpa [KubeClient.cleanup] using hc.length
  · intro ctx
    simp only [KubeClient.cleanup, CancelRegistry.live_cancelAll,
      CancelRegistry.holds_cancelAll, exists_false, iff_false, not_and, not_forall, not_not]
    exact (hc.live ctx).mp
  · simp [KubeClient.cleanup]
  · simp [KubeClient.cleanup]
  · simp
  · intro sub hsub
    rw [wanted_append] at hsub
    exact hc.known sub hsub

theorem step_receive {c c' : KubeClient} {frame : Frame}
    (h : machine.step c (.receive frame) = some c') :
    c.closed = false ∧ c' = c.receive frame := by
  simp only [machine, step] at h
  split at h
  · cases h
  · rename_i hopen
    exact ⟨by simpa using hopen, (Option.some.inj h).symm⟩

theorem step_disconnect {c c' : KubeClient} (h : machine.step c .disconnect = some c') :
    c' = { c.cleanup with closed := true } := by
  simp only [machine, step] at h
  split at h
  · cases h
  · exact (Option.some.inj h).symm

theorem tracked_run {events : List Event} {c : KubeClient}
    (hrun : machine.Run PlainNames events c) : Tracked events c := by
  induction hrun with
  | init => exact tracked_init
  | snoc hprev hplain hstep ih =>
      rename_i before d e d'
      cases e with
      | disconnect =>
          rw [step_disconnect hstep]
          exact tracked_disconnect ih
      | receive frame =>
          obtain ⟨hopen, rfl⟩ := step_receive hstep
          rcases receive_cases d frame with ⟨haction, heq⟩ | ⟨kind, payload, haction, heq⟩ |
            ⟨kind, payload, haction, heq⟩ <;> rw [heq]
          · exact tracked_ignored ih haction
          · exact tracked_start ih hopen (hplain _ haction) haction
          · exact tracked_cancel ih hopen (hplain _ haction) haction

theorem Tracked.oneStreamEach {events : List Event} {c : KubeClient} (hc : Tracked events c) :
    OneStreamEach events c where
  exactlyOne hnot sub hsub := by
    obtain ⟨payload, kind, hplain, rfl⟩ := hc.known sub hsub
    obtain ⟨ctx, hholds⟩ := (hc.wanted hnot payload kind hplain).mp hsub
    have hlive := (hc.live ctx).mpr ⟨_, hholds⟩
    refine ⟨ctx, ⟨hlive, (hc.handed_iff hlive hplain kind).mpr hholds⟩, ?_⟩
    rintro other ⟨hlive', hhanded'⟩
    exact ((hc.handed_iff hlive' hplain kind).mp hhanded').unique hholds
  onlyWanted hnot ctx hlive := by
    obtain ⟨key, hkey⟩ := (hc.live ctx).mp hlive
    obtain ⟨payload, kind, hplain, rfl, hhanded⟩ := hc.held key ctx hkey
    exact ⟨_, hhanded, (hc.wanted hnot payload kind hplain).mpr ⟨ctx, hkey⟩⟩
  cleaned hdisconnect ctx hlive := by
    obtain ⟨key, hkey⟩ := (hc.live ctx).mp hlive
    exact (hc.closed hdisconnect).2 key ctx hkey

theorem Tracked.isolated {events : List Event} {c : KubeClient} (hc : Tracked events c)
    {frame : Frame} (hplain : ∀ action ∈ frame.action, action.Plain) :
    Isolated c frame (c.receive frame) where
  others ctx sub hhanded hother := by
    have hlt : ctx < c.registry.next := by
      have := (List.getElem?_eq_some_iff.mp hhanded).1
      have hlength := hc.length
      omega
    rcases receive_cases c frame with ⟨-, heq⟩ | ⟨kind, payload, haction, heq⟩ |
      ⟨kind, payload, haction, heq⟩ <;> rw [heq]
    · have hne := hother (payload.subscription kind) true (by rw [tells_eq, haction]; rfl)
      rw [live_startStream _ _ _ fun _ => hc.held_lt]
      constructor
      · rintro (⟨hlive, -⟩ | hnew)
        · exact hlive
        · omega
      · intro hlive
        refine .inl ⟨hlive, fun h => hne ?_⟩
        have := (hc.handed_iff hlive (hplain _ haction) kind).mpr h
        exact Option.some.inj (this.symm.trans hhanded)
    · have hne := hother (payload.subscription kind) false (by rw [tells_eq, haction]; rfl)
      rw [CancelRegistry.live_cancelKey]
      refine and_iff_left_of_imp fun hlive h => hne ?_
      have := (hc.handed_iff hlive (hplain _ haction) kind).mpr h
      exact Option.some.inj (this.symm.trans hhanded)
  replaced named htells ctx hlive := by
    rw [tells_eq] at htells
    obtain ⟨action, haction, hsaid⟩ := Option.map_eq_some_iff.mp htells
    rcases receive_cases c frame with ⟨h, -⟩ | ⟨kind, payload, h, heq⟩ | ⟨kind, payload, h, -⟩
    · cases haction.symm.trans h
    · cases haction.symm.trans h
      obtain rfl := (Prod.mk.inj hsaid).1
      rw [heq, live_startStream _ _ _ fun _ => hc.held_lt,
        hc.handed_iff hlive (hplain _ haction) kind]
      have hne : ctx ≠ c.registry.next := Nat.ne_of_lt hlive.lt
      simp [hlive, hne]
    · cases haction.symm.trans h
      cases (Prod.mk.inj hsaid).2

/-- In every reachable state each current subscription has one live context and
no other context is live; handling a message touches no other subscription, a
re-subscribe ends exactly the stream it replaces, and a disconnect ends all. -/
theorem streams_match_subscriptions (events : List Event) (c : KubeClient)
    (hrun : machine.Run PlainNames events c) :
    OneStreamEach events c ∧
      ∀ frame c', PlainNames c (.receive frame) →
        machine.step c (.receive frame) = some c' → Isolated c frame c' := by
  have hc := tracked_run hrun
  refine ⟨hc.oneStreamEach, fun frame c' hplain hstep => ?_⟩
  obtain ⟨-, rfl⟩ := step_receive hstep
  exact hc.isolated hplain

/-- A cluster named after an EKS ARN, whose name holds the separator. -/
def arnPayload (pod : String) : PodPayload :=
  ⟨"arn:aws:eks:eu-west-1:1:cluster/prod", "shop", pod, "app"⟩

def sampleSession : List Event :=
  [.receive (.message ⟨"pod-logs:subscribe", some (arnPayload "a")⟩), .receive .malformed,
    .receive (.message ⟨"pod-stats:subscribe", some (arnPayload "a")⟩),
    .receive (.message ⟨"topology:watch", some ⟨"prod", "shop", "", ""⟩⟩),
    .receive (.message ⟨"pod-logs:subscribe", some (arnPayload "a")⟩),
    .receive (.message ⟨"pod-stats:unsubscribe", some (arnPayload "a")⟩)]

theorem streams_match_subscriptions_session :
    ∃ c, machine.Run PlainNames sampleSession c ∧ OneStreamEach sampleSession c ∧
      Isolated c (.message ⟨"pod-logs:subscribe", some (arnPayload "b")⟩)
        (c.receive (.message ⟨"pod-logs:subscribe", some (arnPayload "b")⟩)) := by
  have hrun := Machine.run_of_runGuarded machine PlainNames sampleSession rfl
  obtain ⟨hstreams, hisolated⟩ := streams_match_subscriptions _ _ hrun
  exact ⟨_, hrun, hstreams, hisolated _ _ (by decide) rfl⟩

end Wiremap.Ws.KubeHub
