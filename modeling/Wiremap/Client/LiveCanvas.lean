import Wiremap.Client.KubeNavigation
import Wiremap.Client.KubeTopology
import Wiremap.Library.Relay
import Wiremap.Service.WatchRuns

/-! A canvas and the cluster it shows, from end to end: objects change, the watch notices, the
debounced message crosses the socket, the hook asks again, the server reads the cluster, and the
answer comes back.  All of these go on at once. -/
namespace Wiremap.Client.LiveCanvas

open Wiremap.Kube Wiremap.Library Wiremap.Topology
open Wiremap.Client.KubeTopology (Props Hook graphKey)
open Wiremap.Service.Watch (Watcher WatchKind)

structure Read where
  request : Nat
  version : Nat
  result : Except String Graph

/-- `wire` holds the messages on their way to the client.  `sentAt` is history: the version of
the cluster when each request was sent. -/
structure Session where
  watcher : Watcher
  cluster : Cluster
  wire : List String
  hook : Hook
  sentAt : List Nat
  reads : List Read

inductive Event where
  /-- An object of the kind changes, and with it the cluster. -/
  | changed (kind : WatchKind) (cluster : Cluster)
  | watch (e : Service.Watch.Event)
  | deliver
  | render
  | tick
  | read (request : Nat) (order : RangeOrder)
  | lost (request : Nat) (err : String)
  | respond (request : Nat)

def fetched (statusText : Nat → String) : Except AppError Graph → Except String Graph
  | .ok g => .ok g
  | .error err => .error s!"API error: {err.statusCode} {statusText err.statusCode}"

def serveTopology (c : Cluster) (order : RangeOrder) (view : KubeView) : Except AppError Graph :=
  Handler.KubeClusterHandler.topology c order (topologyQuery view)

namespace Session

def version (s : Session) : Nat := s.watcher.log.version

/-- The hook after a step of its own; the requests it has sent are noted. -/
def take (s : Session) (hook : Hook) : Session :=
  { s with
    hook := hook
    sentAt := s.sentAt ++
      List.replicate (hook.requests.sent.length - s.hook.requests.sent.length) s.version }

def readOf (s : Session) (request : Nat) : Option Read :=
  s.reads.find? fun r => r.request = request

def answerWith (s : Session) (request : Nat) (result : Except String Graph) : Session :=
  { s with reads := s.reads ++ [⟨request, s.version, result⟩] }

end Session

/-- A message nobody listens for yet is dropped. -/
def step (statusText : Nat → String) (view : KubeView) (s : Session) : Event → Option Session
  | .changed kind cluster =>
      (Service.Watch.step s.watcher (.changed kind)).map fun w =>
        { s with watcher := w, cluster := cluster }
  | .watch (.changed _) => none
  | .watch e =>
      (Service.Watch.step s.watcher e).map fun w =>
        { s with
          watcher := w
          wire := if e = .fire then s.wire ++ [s.hook.props.watchKey] else s.wire }
  | .deliver =>
      match s.wire with
      | [] => none
      | key :: rest =>
          some ({ s with wire := rest }.take
            ((KubeTopology.step s.hook (.changed key)).getD s.hook))
  | .render => (KubeTopology.step s.hook (.render s.hook.props)).map s.take
  | .tick => (KubeTopology.step s.hook .tick).map s.take
  | .read request order =>
      if request < s.hook.requests.sent.length ∧ s.readOf request = none then
        some (s.answerWith request (fetched statusText (serveTopology s.cluster order view)))
      else none
  | .lost request err =>
      if request < s.hook.requests.sent.length ∧ s.readOf request = none then
        some (s.answerWith request (.error err))
      else none
  | .respond request =>
      (s.readOf request).bind fun r =>
        (KubeTopology.step s.hook (.respond request r.result)).map s.take

def machine (serves : WatchKind → Bool) (statusText : Nat → String) (c : Cluster)
    (cluster : String) (view : KubeView) : Machine Session Event where
  init :=
    { watcher := Service.Watch.watch serves (KubeTopology.watchNamespace (some view))
      cluster := c
      wire := []
      hook := { props := ⟨cluster, some view⟩ }
      sentAt := []
      reads := [] }
  step := step statusText view

/-- Objects change once a loop has listed their kind, the watch goes on and hands over when a
loop resumes, and the answers come in the order of their requests. -/
def Timely (s : Session) : Event → Prop
  | .changed kind _ => ∃ l ∈ s.watcher.loops, l.kind = kind ∧ l.firstList ≠ none
  | .watch e => e ≠ .cancelled ∧ Service.Watch.HandsOver s.watcher e
  | .respond request => ∀ earlier < request, earlier ∈ s.hook.requests.answered
  | _ => True

instance (s : Session) : ∀ e, Decidable (Timely s e)
  | .changed kind _ => inferInstanceAs
      (Decidable (∃ l ∈ s.watcher.loops, l.kind = kind ∧ l.firstList ≠ none))
  | .watch e => inferInstanceAs (Decidable (e ≠ .cancelled ∧ Service.Watch.HandsOver s.watcher e))
  | .respond request => inferInstanceAs
      (Decidable (∀ earlier < request, earlier ∈ s.hook.requests.answered))
  | .deliver | .render | .tick | .read _ _ | .lost _ _ => isTrue trivial

structure Settled (s : Session) : Prop where
  loops : ∀ l ∈ s.watcher.loops, Service.Watch.CaughtUp s.watcher l
  debounced : s.watcher.pending = false ∧ s.watcher.waiting = false
  wire : s.wire = []
  mounted : ¬s.hook.pending
  answered : ∀ request < s.hook.requests.sent.length, request ∈ s.hook.requests.answered

/-! ### The watch -/

/-- What the watch keeps: every change is known to a loop that listed before it. -/
structure Watching (w : Watcher) : Prop where
  tracked : Service.Watch.AllTracked w
  debounced : Service.Watch.Debounced w
  notified : ∀ n ∈ w.notifies, n ≤ w.log.version
  fired : ∀ f ∈ w.fired, f ≤ w.log.version
  listed : ∀ kind v, w.log.At kind v → ∃ l ∈ w.loops, l.kind = kind ∧ ∃ first ∈ l.firstList, first < v

theorem loop_keeps {log : ChangeLog WatchKind} {l l' : Service.Watch.Loop}
    {e : Service.Watch.LoopEvent} (h : l.step log e = some l') :
    l'.kind = l.kind ∧ ∀ first ∈ l.firstList, first ∈ l'.firstList := by
  unfold Service.Watch.Loop.step at h
  split at h
  · obtain rfl := Option.some.inj h
    refine ⟨rfl, fun first hfirst => ?_⟩
    simp [Option.mem_def.mp hfirst]
  · obtain rfl := Option.some.inj h
    exact ⟨rfl, fun _ hfirst => hfirst⟩
  · obtain rfl := Option.some.inj h
    exact ⟨rfl, fun _ hfirst => hfirst⟩
  · obtain rfl := Option.some.inj h
    exact ⟨rfl, fun _ hfirst => hfirst⟩
  · obtain ⟨v, -, hrest⟩ := Option.bind_eq_some_iff.mp h
    obtain rfl := Option.some.inj hrest
    exact ⟨rfl, fun _ hfirst => hfirst⟩
  · obtain rfl := Option.some.inj h
    exact ⟨rfl, fun _ hfirst => hfirst⟩
  · obtain rfl := Option.some.inj h
    exact ⟨rfl, fun _ hfirst => hfirst⟩
  · obtain rfl := Option.some.inj h
    exact ⟨rfl, fun _ hfirst => hfirst⟩
  · obtain rfl := Option.some.inj h
    exact ⟨rfl, fun _ hfirst => hfirst⟩
  · cases h

theorem loops_keep {w w' : Watcher} {e : Service.Watch.Event}
    (h : Service.Watch.step w e = some w') {l : Service.Watch.Loop} (hl : l ∈ w.loops) :
    ∃ l' ∈ w'.loops, l'.kind = l.kind ∧ ∀ first ∈ l.firstList, first ∈ l'.firstList := by
  obtain ⟨-, ⟨hloops, -⟩ | ⟨i, le, before, after, -, hbefore, hstep, hloops, -, -⟩⟩ :=
    Service.Watch.step_cases h
  · exact ⟨l, hloops ▸ hl, rfl, fun _ hfirst => hfirst⟩
  · obtain ⟨j, hj⟩ := List.mem_iff_getElem?.mp hl
    by_cases hij : i = j
    · subst hij
      obtain rfl := Option.some.inj (hbefore.symm.trans hj)
      refine ⟨after, ?_, loop_keeps hstep⟩
      rw [hloops]
      exact List.mem_set (List.getElem?_eq_some_iff.mp hj).1 _
    · refine ⟨l, ?_, rfl, fun _ hfirst => hfirst⟩
      rw [hloops]
      exact List.mem_iff_getElem?.mpr ⟨j, by rw [List.getElem?_set_ne hij, hj]⟩

theorem fired_step {w w' : Watcher} {e : Service.Watch.Event}
    (h : Service.Watch.step w e = some w') :
    w.log.version ≤ w'.log.version ∧
      w'.fired = if e = .fire then w.fired ++ [w.log.version] else w.fired := by
  refine ⟨(Service.Watch.step_cases h).1.version, ?_⟩
  unfold Service.Watch.step at h
  split at h
  · cases e with
    | changed kind | unrelated | cancelled =>
        obtain rfl := Option.some.inj h
        rfl
    | loop i le =>
        simp only [Watcher.stepLoop, Option.bind_eq_bind, Option.bind_eq_some_iff,
          Option.pure_def, Option.some_inj] at h
        obtain ⟨_, -, _, -, rfl⟩ := h
        split <;> rfl
    | debounce | fire =>
        dsimp only at h
        split at h
        · obtain rfl := Option.some.inj h
          rfl
        · cases h
  · cases h

theorem at_keeps {w w' : Watcher} {e : Service.Watch.Event} (h : Service.Watch.step w e = some w')
    {kind : WatchKind} {v : Nat} (hat : w.log.At kind v) : w'.log.At kind v := by
  unfold Service.Watch.step at h
  split at h
  · cases e with
    | changed key =>
        obtain rfl := Option.some.inj h
        exact (ChangeLog.at_write _ _ _ _).mpr (.inl hat)
    | unrelated | cancelled =>
        obtain rfl := Option.some.inj h
        exact hat
    | loop i le =>
        simp only [Watcher.stepLoop, Option.bind_eq_bind, Option.bind_eq_some_iff,
          Option.pure_def, Option.some_inj] at h
        obtain ⟨_, -, _, -, rfl⟩ := h
        split <;> exact hat
    | debounce | fire =>
        dsimp only at h
        split at h
        · obtain rfl := Option.some.inj h
          exact hat
        · cases h
  · cases h

theorem at_changed {w w' : Watcher} {kind : WatchKind}
    (h : Service.Watch.step w (.changed kind) = some w') :
    w'.log.At kind (w.log.version + 1) := by
  unfold Service.Watch.step at h
  split at h
  · obtain rfl := Option.some.inj h
    exact (ChangeLog.at_write _ _ _ _).mpr (.inr ⟨rfl, rfl⟩)
  · cases h

theorem watching_init (serves : WatchKind → Bool) (ns : String) :
    Watching (Service.Watch.watch serves ns) where
  tracked := Service.Watch.allTracked_watch serves ns
  debounced := by simp [Service.Watch.Debounced, Service.Watch.watch]
  notified := by simp [Service.Watch.watch]
  fired := by simp [Service.Watch.watch]
  listed kind v hat := absurd hat (ChangeLog.not_at_empty kind v)

theorem Watching.step {w w' : Watcher} {e : Service.Watch.Event} (h : Watching w)
    (hhands : Service.Watch.HandsOver w e)
    (hknown : ∀ kind, e = .changed kind → ∃ l ∈ w.loops, l.kind = kind ∧ l.firstList ≠ none)
    (hstep : Service.Watch.step w e = some w') : Watching w' := by
  obtain ⟨hdebounced, hnotified⟩ := Service.Watch.debounced_step h.debounced h.notified hstep
  obtain ⟨hversion, hfired⟩ := fired_step hstep
  have hkeep : ∀ l ∈ w.loops, ∀ first ∈ l.firstList, ∀ v, first < v →
      ∃ l' ∈ w'.loops, l'.kind = l.kind ∧ ∃ first ∈ l'.firstList, first < v := by
    intro l hl first hfirst v hlt
    obtain ⟨l', hl', hkind, hsame⟩ := loops_keep hstep hl
    exact ⟨l', hl', hkind, first, hsame first hfirst, hlt⟩
  constructor
  · exact h.tracked.step hhands hstep
  · exact hdebounced
  · exact hnotified
  · intro f hf
    rw [hfired] at hf
    split at hf
    · rcases List.mem_append.mp hf with hold | hnew
      · exact Nat.le_trans (h.fired f hold) hversion
      · rw [List.mem_singleton.mp hnew]
        exact hversion
    · exact Nat.le_trans (h.fired f hf) hversion
  · intro kind v hat
    rcases Service.Watch.at_step hstep hat with hold | ⟨rfl, rfl⟩
    · obtain ⟨l, hl, hkind, first, hfirst, hlt⟩ := h.listed kind v hold
      obtain ⟨l', hl', hkind', hless⟩ := hkeep l hl first hfirst v hlt
      exact ⟨l', hl', hkind'.trans hkind, hless⟩
    · obtain ⟨l, hl, hkind, hlisted⟩ := hknown kind rfl
      obtain ⟨first, hfirst⟩ := Option.ne_none_iff_exists'.mp hlisted
      have hbounds := (h.tracked l hl).bounds first hfirst
      have hle := Nat.le_trans hbounds.1 hbounds.2
      obtain ⟨l', hl', hkind', hless⟩ := hkeep l hl first hfirst _ (Nat.lt_succ_of_le hle)
      exact ⟨l', hl', hkind'.trans hkind, hless⟩

theorem Watching.notified_of_caughtUp {w : Watcher} (h : Watching w)
    (hloops : ∀ l ∈ w.loops, Service.Watch.CaughtUp w l) {kind : WatchKind} {v : Nat}
    (hat : w.log.At kind v) : w.Notified v := by
  obtain ⟨l, hl, rfl, first, hfirst, hlt⟩ := h.listed kind v hat
  exact (h.tracked l hl).noted first hfirst v (hloops l hl v hat) hlt hat

theorem caughtUp_of_reached {w : Watcher} {l : Service.Watch.Loop}
    (h : w.log.version ≤ l.reached) : Service.Watch.CaughtUp w l :=
  fun _ hat => Nat.le_trans hat.le h

/-! ### The hook -/

/-- The hook of one view: before it is mounted it has asked for nothing, afterwards it has. -/
structure Steady (p : Props) (h : Hook) : Prop where
  props : h.props = p
  mounted : h.mounted = none ∧ h.requests.sent = [] ∨ h.mounted = some p ∧ h.requests.sent ≠ []

structure Asked (p : Props) (h h' : Hook) : Prop where
  steady : Steady p h'
  mounted : h'.mounted = some p
  sent : h'.requests.sent.length = h.requests.sent.length + 1
  answered : h'.requests.answered = h.requests.answered

/-- What is shown after an answer: a graph that looks like the one in it, or its error. -/
def Shows (h : Hook) : Except String Graph → Prop
  | .ok data => h.error = none ∧ ∃ i g, h.graph = some (i, g) ∧ graphKey g = graphKey data
  | .error err => h.error = some err

section

variable {p : Props} {h h' : Hook}

theorem not_pending_iff (hsteady : Steady p h) : ¬h.pending ↔ h.mounted = some p := by
  rw [Hook.pending, not_not, hsteady.props]

theorem asked_refresh (hsteady : Steady p h) (hview : p.view.isSome) (hmounted : h.mounted = some p) :
    Asked p h (h.refresh p) := by
  have hrefresh : h.refresh p = { h with requests := h.requests.send p } := if_pos hview
  rw [hrefresh]
  refine ⟨⟨hsteady.props, .inr ⟨hmounted, ?_⟩⟩, hmounted, ?_, rfl⟩
  · simp [Requests.send]
  · simp [Requests.send]

theorem runEffects_steady (hsteady : Steady p h) (hview : p.view.isSome) :
    h.mounted = some p ∧ h.runEffects = h ∨ Asked p h h.runEffects := by
  by_cases hpending : h.pending
  · right
    have hrun : h.runEffects =
        ({ h with mounted := some h.props, graph := none, error := none } : Hook).refresh h.props :=
      if_pos hpending
    have hrefresh : h.runEffects =
        { h with mounted := some p, graph := none, error := none, requests := h.requests.send p } := by
      rw [hrun, hsteady.props, Hook.refresh, if_pos hview]
    rw [hrefresh]
    refine ⟨⟨hsteady.props, .inr ⟨rfl, ?_⟩⟩, rfl, ?_, rfl⟩
    · simp [Requests.send]
    · simp [Requests.send]
  · exact .inl ⟨(not_pending_iff hsteady).mp hpending, Hook.runEffects_of_not_pending hpending⟩

theorem step_render (hsteady : Steady p h) (hview : p.view.isSome)
    (hstep : KubeTopology.step h (.render h.props) = some h') :
    h.mounted = some p ∧ h' = h ∨ Asked p h h' := by
  have hprops : h.runEffects.props = h.props := by
    unfold Hook.runEffects
    split
    · simp
    · rfl
  have hsame : h' = h.runEffects := by
    cases hstep
    exact congrArg (fun props => { h.runEffects with props := props }) hprops.symm
  rw [hsame]
  exact runEffects_steady hsteady hview

theorem step_tick (hsteady : Steady p h) (hview : p.view.isSome)
    (hstep : KubeTopology.step h .tick = some h') : Asked p h h' := by
  obtain ⟨q, hq, rfl⟩ := Option.map_eq_some_iff.mp hstep
  rcases hsteady.mounted with ⟨hnone, -⟩ | ⟨hmounted, -⟩
  · rw [hnone] at hq
    cases hq
  · obtain rfl := Option.some.inj (hq.symm.trans hmounted)
    exact asked_refresh hsteady hview hmounted

theorem step_changed (hsteady : Steady p h) (hview : p.view.isSome) :
    h.mounted = none ∧ (KubeTopology.step h (.changed p.watchKey)).getD h = h ∨
      Asked p h ((KubeTopology.step h (.changed p.watchKey)).getD h) := by
  rcases hsteady.mounted with ⟨hnone, -⟩ | ⟨hmounted, -⟩
  · left
    refine ⟨hnone, ?_⟩
    rw [KubeTopology.step, hnone]
    rfl
  · right
    have hstep : KubeTopology.step h (.changed p.watchKey) = some (h.refresh p) := by
      rw [KubeTopology.step, hmounted, Option.map_some, if_pos ⟨hview, rfl⟩]
    rw [hstep]
    exact asked_refresh hsteady hview hmounted

@[simp] theorem settle_props (request : Nat) (result : Except String Graph) :
    (h.settle request result).props = h.props := by
  cases result <;> rfl

@[simp] theorem settle_mounted (request : Nat) (result : Except String Graph) :
    (h.settle request result).mounted = h.mounted := by
  cases result <;> rfl

@[simp] theorem settle_requests (request : Nat) (result : Except String Graph) :
    (h.settle request result).requests = h.requests := by
  cases result <;> rfl

theorem shows_settle (request : Nat) (result : Except String Graph) :
    Shows (h.settle request result) result := by
  cases result with
  | error err => rfl
  | ok data =>
      refine ⟨rfl, (Hook.newer h.graph request data).1, (Hook.newer h.graph request data).2, rfl, ?_⟩
      unfold Hook.newer
      split
      · split
        · assumption
        · rfl
      · rfl

theorem step_respond (hsteady : Steady p h) {request : Nat} {result : Except String Graph}
    (hstep : KubeTopology.step h (.respond request result) = some h') :
    Steady p h' ∧ h'.mounted = h.mounted ∧ request < h.requests.sent.length ∧
      request ∉ h.requests.answered ∧ h'.requests.sent = h.requests.sent ∧
      h'.requests.answered = request :: h.requests.answered ∧ Shows h' result := by
  obtain ⟨⟨q, requests⟩, hanswer, rfl⟩ := Option.map_eq_some_iff.mp hstep
  obtain ⟨hfound, hopen, hsent, hanswered⟩ := Requests.answer_cases hanswer
  have hmounted : h.mounted = some p ∧ h.requests.sent ≠ [] := by
    refine hsteady.mounted.resolve_left ?_
    rintro ⟨-, hempty⟩
    simp [hempty] at hfound
  dsimp only
  rw [Hook.runEffects_of_not_pending ?_]
  · refine ⟨⟨?_, .inr ?_⟩, ?_, (List.getElem?_eq_some_iff.mp hfound).1, hopen, ?_, ?_, ?_⟩
    · rw [settle_props, hsteady.props]
    · rw [settle_mounted, settle_requests, hsent]
      exact hmounted
    · rw [settle_mounted]
    · rw [settle_requests, hsent]
    · rw [settle_requests, hanswered]
    · exact shows_settle request result
  · rw [Hook.pending, settle_mounted, settle_props, not_not, hsteady.props]
    exact hmounted.1

end

/-! ### The session -/

/-- The answer to a request was read no earlier than it was sent, and is what the server would
answer now if nothing has changed since. -/
structure Honest (statusText : Nat → String) (view : KubeView) (s : Session) (r : Read) : Prop where
  asked : ∃ v, s.sentAt[r.request]? = some v ∧ v ≤ r.version
  past : r.version ≤ s.version
  current : (∀ kind v, s.watcher.log.At kind v → v ≤ r.version) →
    (∃ order, r.result = fetched statusText (serveTopology s.cluster order view)) ∨
      ∃ err, r.result = .error err

structure Sound (statusText : Nat → String) (view : KubeView) (p : Props) (s : Session) : Prop where
  watching : Watching s.watcher
  steady : Steady p s.hook
  wire : ∀ key ∈ s.wire, key = p.watchKey
  sentAt_length : s.sentAt.length = s.hook.requests.sent.length
  sentAt_sorted : s.sentAt.Pairwise (· ≤ ·)
  sentAt_bound : ∀ v ∈ s.sentAt, v ≤ s.version
  reads : ∀ r ∈ s.reads, Honest statusText view s r
  answered : ∀ i ∈ s.hook.requests.answered,
    i < s.hook.requests.sent.length ∧ (∀ j < i, j ∈ s.hook.requests.answered) ∧
      (s.readOf i).isSome
  shown : ∀ i r, i + 1 = s.hook.requests.sent.length → i ∈ s.hook.requests.answered →
    s.readOf i = some r → Shows s.hook r.result

/-- Every call of `onChange` is followed by a request, unless its message is still on its way or
the effects have not run yet. -/
def Told (s : Session) : Prop :=
  Relay.Passed (s.wire ≠ [] ∨ s.hook.mounted = none) s.watcher.fired s.sentAt

section

variable {statusText : Nat → String} {view : KubeView} {p : Props} {s s' : Session}

theorem take_self (s : Session) : s.take s.hook = s := by
  simp [Session.take]

theorem sentAt_take {hook : Hook} (hasked : Asked p s.hook hook) :
    (s.take hook).sentAt = s.sentAt ++ [s.version] := by
  simp [Session.take, hasked.sent]

theorem Honest.take {r : Read} (h : Honest statusText view s r) (hook : Hook) :
    Honest statusText view (s.take hook) r where
  asked := by
    obtain ⟨v, hv, hle⟩ := h.asked
    refine ⟨v, ?_, hle⟩
    rw [Session.take, List.getElem?_append_left (List.getElem?_eq_some_iff.mp hv).1, hv]
  past := h.past
  current := h.current

theorem Sound.asked (h : Sound statusText view p s) {hook : Hook} (hasked : Asked p s.hook hook) :
    Sound statusText view p (s.take hook) ∧ Told (s.take hook) := by
  have hsent := sentAt_take hasked
  refine ⟨⟨h.watching, hasked.steady, h.wire, ?_, ?_, ?_, ?_, ?_, ?_⟩, ?_⟩
  · rw [hsent, List.length_append, h.sentAt_length]
    exact hasked.sent.symm
  · rw [hsent]
    refine List.pairwise_append.mpr ⟨h.sentAt_sorted, List.pairwise_singleton _ _, ?_⟩
    intro v hv now hnow
    rw [List.mem_singleton.mp hnow]
    exact h.sentAt_bound v hv
  · intro v hv
    rw [hsent] at hv
    rcases List.mem_append.mp hv with hold | hnew
    · exact h.sentAt_bound v hold
    · exact Nat.le_of_eq (List.mem_singleton.mp hnew)
  · exact fun r hr => (h.reads r hr).take hook
  · intro i hi
    have hold : i ∈ s.hook.requests.answered := hasked.answered ▸ hi
    obtain ⟨hlt, hbefore, hread⟩ := h.answered i hold
    have hmore : s.hook.requests.sent.length < hook.requests.sent.length := by
      rw [hasked.sent]
      exact Nat.lt_succ_self _
    refine ⟨Nat.lt_trans hlt hmore, fun j hj => ?_, hread⟩
    exact hasked.answered.symm ▸ hbefore j hj
  · intro i r hlast hi
    have hlt := (h.answered i (hasked.answered ▸ hi)).1
    have hnew : i + 1 = s.hook.requests.sent.length + 1 := hlast.trans hasked.sent
    omega
  · refine Relay.Passed.of_bound h.watching.fired ?_
    rw [hsent]
    exact List.mem_concat_self

theorem Sound.watched (h : Sound statusText view p s) {w : Watcher} {c : Cluster}
    {wire : List String} (hwatching : Watching w) (hwire : ∀ key ∈ wire, key = p.watchKey)
    (hversion : s.version ≤ w.log.version)
    (hcurrent : ∀ r ∈ s.reads, r.version ≤ s.version →
      (∀ kind v, w.log.At kind v → v ≤ r.version) →
        (∀ kind v, s.watcher.log.At kind v → v ≤ r.version) ∧ c = s.cluster) :
    Sound statusText view p { s with watcher := w, cluster := c, wire := wire } where
  watching := hwatching
  steady := h.steady
  wire := hwire
  sentAt_length := h.sentAt_length
  sentAt_sorted := h.sentAt_sorted
  sentAt_bound v hv := Nat.le_trans (h.sentAt_bound v hv) hversion
  reads r hr := by
    have hread := h.reads r hr
    refine ⟨hread.asked, Nat.le_trans hread.past hversion, fun hlate => ?_⟩
    obtain ⟨hbefore, rfl⟩ := hcurrent r hr hread.past hlate
    exact hread.current hbefore
  answered := h.answered
  shown := h.shown

theorem readOf_answerWith (s : Session) (request i : Nat) (result : Except String Graph)
    (hfresh : s.readOf request = none) :
    (s.answerWith request result).readOf i =
      if i = request then some ⟨request, s.version, result⟩ else s.readOf i := by
  unfold Session.readOf Session.answerWith
  rw [List.find?_append, List.find?_singleton]
  by_cases hsame : i = request
  · subst hsame
    have hnone : s.reads.find? (fun r => decide (r.request = i)) = none := hfresh
    simp [hnone]
  · simp [hsame, Ne.symm hsame]

theorem Sound.answeredWith (h : Sound statusText view p s) {request : Nat}
    {result : Except String Graph} (hsent : request < s.hook.requests.sent.length)
    (hfresh : s.readOf request = none)
    (hresult : (∃ order, result = fetched statusText (serveTopology s.cluster order view)) ∨
      ∃ err, result = .error err) :
    Sound statusText view p (s.answerWith request result) where
  watching := h.watching
  steady := h.steady
  wire := h.wire
  sentAt_length := h.sentAt_length
  sentAt_sorted := h.sentAt_sorted
  sentAt_bound := h.sentAt_bound
  reads r hr := by
    rcases List.mem_append.mp hr with hold | hnew
    · have hread := h.reads r hold
      exact ⟨hread.asked, hread.past, hread.current⟩
    · obtain rfl := List.mem_singleton.mp hnew
      have hlt : request < s.sentAt.length := h.sentAt_length ▸ hsent
      refine ⟨⟨s.sentAt[request], List.getElem?_eq_getElem hlt, ?_⟩, Nat.le_refl _,
        fun _ => hresult⟩
      exact h.sentAt_bound _ (List.getElem_mem hlt)
  answered i hi := by
    obtain ⟨hlt, hbefore, hread⟩ := h.answered i hi
    refine ⟨hlt, hbefore, ?_⟩
    rw [readOf_answerWith s request i result hfresh]
    split
    · rfl
    · exact hread
  shown i r hlast hi hread := by
    obtain ⟨-, -, hsome⟩ := h.answered i hi
    have hne : i ≠ request := by
      rintro rfl
      rw [hfresh] at hsome
      cases hsome
    rw [readOf_answerWith s request i result hfresh, if_neg hne] at hread
    exact h.shown i r hlast hi hread

/-- The answers arrive in the order of their requests, so the one to the last request is
what is shown. -/
theorem Sound.responded (h : Sound statusText view p s) {request : Nat} {r : Read} {hook : Hook}
    (hread : s.readOf request = some r)
    (hinOrder : ∀ earlier < request, earlier ∈ s.hook.requests.answered)
    (hstep : KubeTopology.step s.hook (.respond request r.result) = some hook) :
    Sound statusText view p (s.take hook) ∧ (s.take hook).sentAt = s.sentAt ∧
      hook.mounted = s.hook.mounted := by
  obtain ⟨hsteady, hmounted, hlt, hopen, hsent, hanswered, hshows⟩ := step_respond h.steady hstep
  have hsentAt : (s.take hook).sentAt = s.sentAt := by
    simp [Session.take, hsent]
  refine ⟨⟨h.watching, hsteady, h.wire, ?_, ?_, ?_, ?_, ?_, ?_⟩, hsentAt, hmounted⟩
  · rw [hsentAt, h.sentAt_length, Session.take, hsent]
  · rw [hsentAt]
    exact h.sentAt_sorted
  · rw [hsentAt]
    exact h.sentAt_bound
  · exact fun other hother => (h.reads other hother).take hook
  · intro i hi
    replace hi : i ∈ request :: s.hook.requests.answered := hanswered ▸ hi
    suffices i < s.hook.requests.sent.length ∧
        (∀ j < i, j ∈ request :: s.hook.requests.answered) ∧ (s.readOf i).isSome by
      rwa [← hsent, ← hanswered] at this
    rcases List.mem_cons.mp hi with rfl | hold
    · exact ⟨hlt, fun j hj => .tail _ (hinOrder j hj), by rw [hread]; rfl⟩
    · obtain ⟨hbound, hbefore, hsome⟩ := h.answered i hold
      exact ⟨hbound, fun j hj => .tail _ (hbefore j hj), hsome⟩
  · intro i other hlast hi hother
    replace hi : i ∈ request :: s.hook.requests.answered := hanswered ▸ hi
    replace hlast : i + 1 = s.hook.requests.sent.length := hsent ▸ hlast
    rcases List.mem_cons.mp hi with rfl | hold
    · obtain rfl := Option.some.inj (hread.symm.trans hother)
      exact hshows
    · -- the last request is answered already, so this one, which is not later, is too
      rcases Nat.lt_or_ge request i with hearlier | hlater
      · exact absurd ((h.answered i hold).2.1 request hearlier) hopen
      · have hsame : request = i := by omega
        exact absurd (hsame ▸ hold) hopen

theorem Told.news (h : Told s) {w : Watcher} {c : Cluster} {wire : List String}
    (hfired : ∀ f ∈ w.fired, f ∈ s.watcher.fired ∨ wire ≠ [])
    (hwire : s.wire ≠ [] → wire ≠ []) :
    Told { s with watcher := w, cluster := c, wire := wire } := by
  intro f hf
  rcases hfired f hf with hold | hnew
  · exact (h f hold).imp_left fun hway => hway.imp_left hwire
  · exact .inl (.inl hnew)

/-- What holds of a session in every timely run. -/
def Live (statusText : Nat → String) (view : KubeView) (p : Props) (s : Session) : Prop :=
  Sound statusText view p s ∧ Told s

theorem Live.hooked (h : Live statusText view p s) {hook : Hook}
    (hmove : hook = s.hook ∨ Asked p s.hook hook) : Live statusText view p (s.take hook) := by
  rcases hmove with rfl | hasked
  · rw [take_self]
    exact h
  · exact h.1.asked hasked

theorem Live.step (hview : p.view = some view) (h : Live statusText view p s) {e : Event}
    (htimely : Timely s e) (hstep : step statusText view s e = some s') :
    Live statusText view p s' := by
  obtain ⟨hsound, htold⟩ := h
  have hsome : p.view.isSome := by simp [hview]
  cases e with
  | changed kind cluster =>
      obtain ⟨w, hw, rfl⟩ := Option.map_eq_some_iff.mp hstep
      obtain ⟨hversion, hfired⟩ := fired_step hw
      have hhands : Service.Watch.HandsOver s.watcher (.changed kind) := trivial
      have hwatching : Watching w := hsound.watching.step hhands
        (fun kind' hkind' => by cases hkind'; exact htimely) hw
      have hat : w.log.At kind (s.version + 1) := at_changed hw
      constructor
      · refine hsound.watched hwatching hsound.wire hversion fun r _ hpast hlate => ?_
        exact absurd (hlate kind _ hat) (Nat.not_le_of_lt (Nat.lt_succ_of_le hpast))
      · refine htold.news (fun f hf => .inl ?_) id
        rwa [hfired, if_neg (by simp)] at hf
  | watch e =>
      have hquiet : ∀ kind, e ≠ .changed kind := by
        rintro kind rfl
        cases hstep
      have hmap : (Service.Watch.step s.watcher e).map (fun w =>
          { s with
            watcher := w
            wire := if e = .fire then s.wire ++ [s.hook.props.watchKey] else s.wire }) =
          some s' := by
        cases e with
        | changed kind => exact absurd rfl (hquiet kind)
        | unrelated | loop i le | debounce | fire | cancelled => exact hstep
      obtain ⟨w, hw, rfl⟩ := Option.map_eq_some_iff.mp hmap
      obtain ⟨hversion, hfired⟩ := fired_step hw
      have hwatching : Watching w := hsound.watching.step htimely.2
        (fun kind hkind => absurd hkind (hquiet kind)) hw
      constructor
      · refine hsound.watched hwatching ?_ hversion fun r _ _ hlate =>
          ⟨fun kind v hat => hlate kind v (at_keeps hw hat), rfl⟩
        intro key hkey
        split at hkey
        · rcases List.mem_append.mp hkey with hold | hnew
          · exact hsound.wire key hold
          · rw [List.mem_singleton.mp hnew, hsound.steady.props]
        · exact hsound.wire key hkey
      · refine htold.news (fun f hf => ?_) ?_
        · rw [hfired] at hf
          split at hf
          · rename_i hfire
            exact .inr (by simp [hfire])
          · exact .inl hf
        · intro hway
          split
          · simp
          · exact hway
  | deliver =>
      cases hwire : s.wire with
      | nil => simp [LiveCanvas.step, hwire] at hstep
      | cons key rest =>
          have hkey : key = p.watchKey := hsound.wire key (hwire ▸ List.mem_cons_self)
          have htake : ({ s with wire := rest } : Session).take
              ((KubeTopology.step s.hook (.changed key)).getD s.hook) = s' := by
            simpa [LiveCanvas.step, hwire] using hstep
          subst hkey
          have hshorter : Sound statusText view p { s with wire := rest } :=
            hsound.watched hsound.watching
              (fun other hother => hsound.wire other (hwire ▸ .tail _ hother)) (Nat.le_refl _)
              fun _ _ _ hlate => ⟨hlate, rfl⟩
          rcases step_changed hsound.steady hsome with ⟨hnone, hsame⟩ | hasked
          · rw [hsame] at htake
            obtain rfl := htake
            refine Live.hooked ⟨hshorter, ?_⟩ (.inl rfl)
            exact fun f hf => (htold f hf).imp_left fun _ => .inr hnone
          · obtain rfl := htake
            exact hshorter.asked hasked
  | render =>
      have hmap : (KubeTopology.step s.hook (.render s.hook.props)).map s.take = some s' := hstep
      obtain ⟨hook, hhook, rfl⟩ := Option.map_eq_some_iff.mp hmap
      exact Live.hooked ⟨hsound, htold⟩
        ((step_render hsound.steady hsome hhook).imp_left And.right)
  | tick =>
      obtain ⟨hook, hhook, rfl⟩ := Option.map_eq_some_iff.mp hstep
      exact Live.hooked ⟨hsound, htold⟩ (.inr (step_tick hsound.steady hsome hhook))
  | read request order =>
      obtain ⟨⟨hsent, hfresh⟩, rfl⟩ := Machine.guarded_eq_some.mp hstep
      exact ⟨hsound.answeredWith hsent hfresh (.inl ⟨order, rfl⟩), htold⟩
  | lost request err =>
      obtain ⟨⟨hsent, hfresh⟩, rfl⟩ := Machine.guarded_eq_some.mp hstep
      exact ⟨hsound.answeredWith hsent hfresh (.inr ⟨err, rfl⟩), htold⟩
  | respond request =>
      obtain ⟨r, hread, hrest⟩ := Option.bind_eq_some_iff.mp hstep
      obtain ⟨hook, hhook, rfl⟩ := Option.map_eq_some_iff.mp hrest
      obtain ⟨hsound', hsentAt, hmounted⟩ := hsound.responded hread htimely hhook
      refine ⟨hsound', ?_⟩
      rw [Told, hsentAt]
      intro f hf
      refine (htold f hf).imp_left fun hway => hway.imp_right fun hnone => ?_
      exact hmounted.trans hnone

end

variable {serves : WatchKind → Bool} {statusText : Nat → String} {c : Cluster} {cluster : String}
  {view : KubeView} {events : List Event} {s : Session}

theorem live_run (hrun : (machine serves statusText c cluster view).Run Timely events s) :
    Live statusText view ⟨cluster, some view⟩ s := by
  refine hrun.invariant ⟨?_, Relay.Passed.nil _ _⟩ fun _ _ _ h htimely hstep =>
    h.step rfl htimely hstep
  exact
    { watching := watching_init serves _
      steady := ⟨rfl, .inl ⟨rfl, rfl⟩⟩
      wire := by simp [machine]
      sentAt_length := rfl
      sentAt_sorted := .nil
      sentAt_bound := by simp [machine]
      reads := by simp [machine]
      answered := by simp [machine, Requests.empty]
      shown := by simp [machine, Requests.empty] }

/-- Each change is followed by a request once nothing is on its way any more. -/
theorem Live.asked_after {p : Props} (h : Live statusText view p s) (hsettled : Settled s)
    {kind : WatchKind} {v : Nat} (hat : s.watcher.log.At kind v) : ∃ m ∈ s.sentAt, v ≤ m := by
  obtain ⟨hsound, htold⟩ := h
  obtain ⟨n, hn, hvn⟩ := hsound.watching.notified_of_caughtUp hsettled.loops hat
  have hmounted := (not_pending_iff hsound.steady).mp hsettled.mounted
  have hquiet : ¬(s.wire ≠ [] ∨ s.hook.mounted = none) := by
    simp [hsettled.wire, hmounted]
  obtain ⟨f, hf, hnf⟩ : ∃ f ∈ s.watcher.fired, n ≤ f := by
    rcases hsound.watching.debounced n hn with hpending | hwaiting | hfired
    · cases hpending.symm.trans hsettled.debounced.1
    · cases hwaiting.symm.trans hsettled.debounced.2
    · exact hfired
  obtain ⟨m, hm, hfm⟩ := htold.arrived hquiet f hf
  exact ⟨m, hm, Nat.le_trans hvn (Nat.le_trans hnf hfm)⟩

/-- When nothing is on its way any more and no error is shown, the canvas looks as the server
would draw the cluster now, in whatever order its maps are gone through. -/
theorem canvas_current (serves : WatchKind → Bool) (statusText : Nat → String) (c : Cluster)
    (cluster : String) (view : KubeView) (events : List Event) (s : Session)
    (hrun : (machine serves statusText c cluster view).Run Timely events s)
    (hsettled : Settled s) (herror : s.hook.error = none) :
    ∃ order i shown data, s.hook.graph = some (i, shown) ∧
      serveTopology s.cluster order view = .ok data ∧ graphKey shown = graphKey data := by
  have hlive := live_run hrun
  have hsound := hlive.1
  have hmounted := (not_pending_iff hsound.steady).mp hsettled.mounted
  have hsent : s.hook.requests.sent ≠ [] := by
    rcases hsound.steady.mounted with ⟨hnone, -⟩ | ⟨-, hsent⟩
    · cases hnone.symm.trans hmounted
    · exact hsent
  obtain ⟨last, hlast⟩ := Nat.exists_eq_add_one.mpr (List.length_pos_of_ne_nil hsent)
  have hanswered := hsettled.answered last (hlast ▸ Nat.lt_succ_self last)
  obtain ⟨r, hread⟩ := Option.isSome_iff_exists.mp (hsound.answered last hanswered).2.2
  have hrequest : r.request = last := by simpa using List.find?_some hread
  have hhonest := hsound.reads r (List.mem_of_find?_eq_some hread)
  have hlate : ∀ kind v, s.watcher.log.At kind v → v ≤ r.version := by
    intro kind v hat
    obtain ⟨m, hm, hvm⟩ := hlive.asked_after hsettled hat
    obtain ⟨asked, hasked, hle⟩ := hhonest.asked
    refine Nat.le_trans hvm (Nat.le_trans ?_ hle)
    -- the last request was sent at the latest version of all
    obtain ⟨j, hj, rfl⟩ := List.mem_iff_getElem.mp hm
    obtain ⟨hi, rfl⟩ := List.getElem?_eq_some_iff.mp hasked
    have hlength : s.sentAt.length = last + 1 := hsound.sentAt_length.trans hlast
    exact hsound.sentAt_sorted.rel_get_of_le (Nat.le_of_lt_succ (by omega : j < r.request + 1))
  have hshows := hsound.shown last r hlast.symm hanswered hread
  rcases hhonest.current hlate with ⟨order, hresult⟩ | ⟨err, hresult⟩
  · cases hserve : serveTopology s.cluster order view with
    | error err =>
        rw [hresult, hserve] at hshows
        cases herror.symm.trans hshows
    | ok data =>
        rw [hresult, hserve] at hshows
        obtain ⟨-, i, shown, hgraph, hkey⟩ := hshows
        exact ⟨order, i, shown, data, hgraph, hserve, hkey⟩
  · rw [hresult] at hshows
    cases herror.symm.trans hshows

def webPod : Pod := { name := "web", ns := "shop" }

def podCreated : List Event :=
  [.render, .watch (.loop 0 .listReturned), .watch (.loop 0 .watchStarted), .read 0 default,
    .changed ⟨"", "Pod"⟩ { pods := KeyedList.empty.add webPod }, .respond 0,
    .watch (.loop 0 (.delivered .changed)), .watch .debounce, .watch .fire, .deliver,
    .read 1 default, .respond 1]

def shopView : KubeView := { level := .namespace, ns := some "shop" }

theorem canvas_current_podCreated :
    ∃ s order i shown data,
      (machine Service.Watch.podsOnly (fun _ => "") {} "prod" shopView).Run Timely podCreated s ∧
      s.cluster.pods.items = [webPod] ∧ s.hook.graph = some (i, shown) ∧
      serveTopology s.cluster order shopView = .ok data ∧ graphKey shown = graphKey data := by
  have hrun := Machine.run_of_runGuarded
    (machine Service.Watch.podsOnly (fun _ => "") {} "prod" shopView) Timely podCreated rfl
  obtain ⟨order, i, shown, data, hcurrent⟩ := canvas_current _ _ _ _ _ _ _ hrun
    ⟨fun l hl => caughtUp_of_reached (by revert l; decide), by decide, rfl, by decide, by decide⟩ rfl
  exact ⟨_, order, i, shown, data, hrun, rfl, hcurrent⟩

end Wiremap.Client.LiveCanvas
