import Wiremap.Kube.Errors
import Wiremap.Library.ChangeLog
import Wiremap.Library.Machine
import Wiremap.Topology.Graph

/-! The watch behind a canvas: one loop a watched kind, all sharing one debounced
trigger.  The API server's side is its change log: a List returns the current
version and a watch hands out the changes after the version it started from. -/
namespace Wiremap.Service.Watch

open Wiremap.Kube Wiremap.Library
open Wiremap.Topology (gatewayGroup)

structure WatchKind where
  group : String
  kind : String
  deriving DecidableEq, Repr

def namespaceWatchKinds : List WatchKind :=
  [⟨"", "Pod"⟩, ⟨"", "Service"⟩, ⟨"", "ConfigMap"⟩, ⟨"", "Secret"⟩,
    ⟨"", "PersistentVolumeClaim"⟩, ⟨"", "ServiceAccount"⟩,
    ⟨"apps", "Deployment"⟩, ⟨"apps", "StatefulSet"⟩, ⟨"apps", "DaemonSet"⟩,
    ⟨"apps", "ReplicaSet"⟩,
    ⟨"batch", "Job"⟩, ⟨"batch", "CronJob"⟩,
    ⟨"networking.k8s.io", "Ingress"⟩, ⟨"networking.k8s.io", "NetworkPolicy"⟩,
    ⟨"autoscaling", "HorizontalPodAutoscaler"⟩, ⟨"policy", "PodDisruptionBudget"⟩,
    ⟨"rbac.authorization.k8s.io", "RoleBinding"⟩,
    ⟨gatewayGroup, "Gateway"⟩, ⟨gatewayGroup, "HTTPRoute"⟩, ⟨gatewayGroup, "GRPCRoute"⟩,
    ⟨gatewayGroup, "TLSRoute"⟩, ⟨gatewayGroup, "TCPRoute"⟩, ⟨gatewayGroup, "UDPRoute"⟩]

def clusterWatchKinds : List WatchKind :=
  [⟨"", "Namespace"⟩, ⟨"", "Node"⟩, ⟨"", "Pod"⟩, ⟨"", "PersistentVolume"⟩,
    ⟨"", "PersistentVolumeClaim"⟩,
    ⟨"rbac.authorization.k8s.io", "ClusterRoleBinding"⟩,
    ⟨"rbac.authorization.k8s.io", "RoleBinding"⟩]

/-- Where `watchResource` stands in its loop; `since` is the version the current
watch was started from. -/
inductive Phase where
  | listing
  | listed (resourceVersion : Nat)
  | watching (since : Nat)
  | sleeping
  | stopped
  deriving DecidableEq, Repr

/-- `firstList` and `reached` are history: the version the first List returned,
and the version up to which the loop's watches have handed out the changes. -/
structure Loop where
  kind : WatchKind
  phase : Phase
  firstList : Option Nat
  reached : Nat
  deriving DecidableEq, Repr

inductive WatchEvent where
  | changed
  | bookmark
  | error
  deriving DecidableEq, Repr

inductive LoopEvent where
  | listReturned
  | listFailed (err : ApiError)
  | watchStarted
  | watchFailed
  | delivered (event : WatchEvent)
  | watchEnded
  | woke
  deriving DecidableEq, Repr

def LoopEvent.notifies (e : LoopEvent) : Bool := e = .delivered .changed

def Loop.step (log : ChangeLog WatchKind) (l : Loop) (e : LoopEvent) : Option Loop :=
  match l.phase, e with
  | .listing, .listReturned => some { l with
      phase := .listed log.version
      firstList := l.firstList.or (some log.version)
      reached := if l.firstList = none then log.version else l.reached }
  | .listing, .listFailed err =>
      some { l with phase := if isOptional err then .stopped else .sleeping }
  | .listed rv, .watchStarted => some { l with phase := .watching rv, reached := rv }
  | .listed _, .watchFailed => some { l with phase := .sleeping }
  | .watching _, .delivered .changed => do
      let v ← log.nextAfter l.kind l.reached
      return { l with reached := v }
  | .watching _, .delivered .bookmark => some l
  | .watching _, .delivered .error => some { l with phase := .listing }
  | .watching _, .watchEnded => some { l with phase := .listing }
  | .sleeping, .woke => some { l with phase := .listing }
  | _, _ => none

/-- `notifies` and `fired` are history: the server's version at each call of
`notify` and of `onChange`.  `waiting` is the debounce goroutine's delay. -/
structure Watcher where
  log : ChangeLog WatchKind
  loops : List Loop
  notifies : List Nat
  pending : Bool
  waiting : Bool
  fired : List Nat
  live : Bool

inductive Event where
  | changed (kind : WatchKind)
  | unrelated
  | loop (i : Nat) (e : LoopEvent)
  | debounce
  | fire
  | cancelled
  deriving DecidableEq, Repr

def Watcher.notify (s : Watcher) : Watcher :=
  { s with notifies := s.notifies ++ [s.log.version], pending := true }

def Watcher.stepLoop (s : Watcher) (i : Nat) (e : LoopEvent) : Option Watcher := do
  let l ← s.loops[i]?
  let l' ← l.step s.log e
  let s' := { s with loops := s.loops.set i l' }
  return if e.notifies then s'.notify else s'

def step (s : Watcher) (e : Event) : Option Watcher :=
  if s.live then
    match e with
    | .changed kind => some { s with log := s.log.write kind }
    | .unrelated => some { s with log := s.log.skip }
    | .loop i e => s.stepLoop i e
    | .debounce =>
        if s.pending && !s.waiting then some { s with pending := false, waiting := true }
        else none
    | .fire =>
        if s.waiting then
          some { s with pending := false, waiting := false, fired := s.fired ++ [s.log.version] }
        else none
    | .cancelled => some { s with live := false }
  else none

/-- The loops `Watch` starts: kinds the cluster does not serve are skipped. -/
def watch (serves : WatchKind → Bool) (ns : String) : Watcher :=
  let kinds := if ns = "" then clusterWatchKinds else namespaceWatchKinds
  { log := .empty
    loops := (kinds.filter serves).map fun kind => ⟨kind, .listing, none, 0⟩
    notifies := []
    pending := false
    waiting := false
    fired := []
    live := true }

def machine (serves : WatchKind → Bool) (ns : String) : Machine Watcher Event where
  init := watch serves ns
  step := step

def Watcher.Notified (s : Watcher) (v : Nat) : Prop := ∃ n ∈ s.notifies, v ≤ n

def Watcher.Covered (s : Watcher) (kind : WatchKind) (lo hi : Nat) : Prop :=
  ∀ v ≤ hi, lo < v → s.log.At kind v → s.Notified v

/-- No loop has resumed past a change in scope that was never notified. -/
def NothingLost (s : Watcher) : Prop :=
  ∀ l ∈ s.loops, ∀ first ∈ l.firstList, ∀ since, l.phase = .watching since →
    s.Covered l.kind first since

def Loop.resumption (l : Loop) : Option Nat :=
  match l.phase with
  | .listed rv => some rv
  | _ => none

/-- A watch is started again only when the changes its loop's earlier watches
did not hand out, up to the version it starts from, have been notified. -/
def HandsOver (s : Watcher) : Event → Prop
  | .loop i .watchStarted => ∀ l ∈ s.loops[i]?, ∀ rv ∈ l.resumption, s.Covered l.kind l.reached rv
  | _ => True

instance (s : Watcher) (v : Nat) : Decidable (s.Notified v) :=
  inferInstanceAs (Decidable (∃ n ∈ s.notifies, v ≤ n))

instance (s : Watcher) (kind : WatchKind) (lo hi : Nat) : Decidable (s.Covered kind lo hi) :=
  inferInstanceAs (Decidable (∀ v ≤ hi, lo < v → s.log.At kind v → s.Notified v))

instance (s : Watcher) : ∀ e, Decidable (HandsOver s e)
  | .loop i .watchStarted => inferInstanceAs (Decidable
      (∀ l ∈ s.loops[i]?, ∀ rv ∈ l.resumption, s.Covered l.kind l.reached rv))
  | .loop _ .listReturned | .loop _ (.listFailed _) | .loop _ .watchFailed
  | .loop _ (.delivered _) | .loop _ .watchEnded | .loop _ .woke => isTrue trivial
  | .changed _ | .unrelated | .debounce | .fire | .cancelled => isTrue trivial

@[simp] theorem notified_notify (s : Watcher) (v : Nat) :
    s.notify.Notified v ↔ s.Notified v ∨ v ≤ s.log.version := by
  simp only [Watcher.Notified, Watcher.notify, List.mem_append, List.mem_singleton]
  constructor
  · rintro ⟨n, hold | rfl, hle⟩
    · exact .inl ⟨n, hold, hle⟩
    · exact .inr hle
  · rintro (⟨n, hold, hle⟩ | hle)
    · exact ⟨n, .inl hold, hle⟩
    · exact ⟨_, .inr rfl, hle⟩

/-- `s'` has seen all `s` has: later changes are newer, and no notify is undone. -/
structure Watcher.Extends (s s' : Watcher) : Prop where
  version : s.log.version ≤ s'.log.version
  older : ∀ kind v, s'.log.At kind v → v ≤ s.log.version → s.log.At kind v
  notified : ∀ v, s.Notified v → s'.Notified v

theorem Watcher.Extends.refl (s : Watcher) : s.Extends s :=
  ⟨Nat.le_refl _, fun _ _ h _ => h, fun _ h => h⟩

theorem Watcher.Covered.extend {s s' : Watcher} {kind : WatchKind} {lo hi : Nat}
    (h : s.Covered kind lo hi) (hext : s.Extends s') (hhi : hi ≤ s.log.version) :
    s'.Covered kind lo hi := by
  intro v hv hlo hat
  exact hext.notified v (h v hv hlo (hext.older kind v hat (Nat.le_trans hv hhi)))

theorem Watcher.Covered.glue {s : Watcher} {kind : WatchKind} {lo mid hi : Nat}
    (h : s.Covered kind lo mid) (h' : s.Covered kind mid hi) : s.Covered kind lo hi := by
  intro v hv hlo hat
  by_cases hmid : v ≤ mid
  · exact h v hmid hlo hat
  · exact h' v hv (Nat.lt_of_not_le hmid) hat

theorem covered_self (s : Watcher) (kind : WatchKind) (v : Nat) : s.Covered kind v v :=
  fun _ hle hlt _ => absurd hlt (Nat.not_lt_of_le hle)

theorem at_step {s s' : Watcher} {e : Event} (h : step s e = some s') {kind : WatchKind} {v : Nat}
    (hat : s'.log.At kind v) : s.log.At kind v ∨ (e = .changed kind ∧ v = s.log.version + 1) := by
  unfold step at h
  split at h
  · cases e with
    | changed key =>
        obtain rfl := Option.some.inj h
        rcases (ChangeLog.at_write _ _ _ _).mp hat with hold | ⟨rfl, hnew⟩
        · exact .inl hold
        · exact .inr ⟨rfl, hnew⟩
    | unrelated =>
        obtain rfl := Option.some.inj h
        exact .inl hat
    | loop i le =>
        simp only [Watcher.stepLoop, Option.bind_eq_bind, Option.bind_eq_some_iff,
          Option.pure_def, Option.some_inj] at h
        obtain ⟨_, -, _, -, rfl⟩ := h
        split at hat <;> exact .inl hat
    | debounce | fire =>
        dsimp only at h
        split at h
        · obtain rfl := Option.some.inj h
          exact .inl hat
        · cases h
    | cancelled =>
        obtain rfl := Option.some.inj h
        exact .inl hat
  · cases h

theorem older_of_step {s s' : Watcher} {e : Event} (h : step s e = some s') {kind : WatchKind}
    {v : Nat} (hat : s'.log.At kind v) (hle : v ≤ s.log.version) : s.log.At kind v := by
  rcases at_step h hat with hold | ⟨-, hnew⟩
  · exact hold
  · omega

/-- What a step does to the loops: at most one of them takes a step of its own. -/
theorem step_cases {s s' : Watcher} {e : Event} (h : step s e = some s') :
    s.Extends s' ∧ (s'.loops = s.loops ∧ (∀ i le, e ≠ .loop i le) ∨
      ∃ i le l l', e = .loop i le ∧ s.loops[i]? = some l ∧ l.step s.log le = some l' ∧
        s'.loops = s.loops.set i l' ∧ s'.log = s.log ∧
        s'.notifies = if le.notifies then s.notifies ++ [s.log.version] else s.notifies) := by
  have holder := fun kind v => @older_of_step s s' e h kind v
  unfold step at h
  split at h
  · cases e with
    | changed kind =>
        obtain rfl := Option.some.inj h
        exact ⟨⟨Nat.le_succ _, holder, fun _ h => h⟩, .inl ⟨rfl, by simp⟩⟩
    | unrelated =>
        obtain rfl := Option.some.inj h
        exact ⟨⟨Nat.le_succ _, holder, fun _ h => h⟩, .inl ⟨rfl, by simp⟩⟩
    | loop i le =>
        simp only [Watcher.stepLoop, Option.bind_eq_bind, Option.bind_eq_some_iff,
          Option.pure_def, Option.some_inj] at h
        obtain ⟨l, hl, l', hl', rfl⟩ := h
        cases hnotifies : le.notifies with
        | true =>
            refine ⟨⟨Nat.le_refl _, fun _ _ hat _ => hat, fun v hv => ?_⟩,
              .inr ⟨i, le, l, l', rfl, hl, hl', rfl, rfl, by simp [Watcher.notify, hnotifies]⟩⟩
            exact (notified_notify _ _).mpr (.inl hv)
        | false =>
            exact ⟨⟨Nat.le_refl _, fun _ _ hat _ => hat, fun _ h => h⟩,
              .inr ⟨i, le, l, l', rfl, hl, hl', rfl, rfl, by simp [hnotifies]⟩⟩
    | debounce | fire =>
        dsimp only at h
        split at h
        · obtain rfl := Option.some.inj h
          exact ⟨⟨Nat.le_refl _, holder, fun _ h => h⟩, .inl ⟨rfl, by simp⟩⟩
        · cases h
    | cancelled =>
        obtain rfl := Option.some.inj h
        exact ⟨⟨Nat.le_refl _, holder, fun _ h => h⟩, .inl ⟨rfl, by simp⟩⟩
  · cases h

end Wiremap.Service.Watch
