import Wiremap.Library.CancelRegistry
import Wiremap.Library.Machine
import Wiremap.Library.Text

/-! One client of the `/ws/k8s` endpoint.  Unlike the Docker client, the message
handler itself creates each context and registers its cancel function before
the stream's goroutine starts, so the reader is the only one to change them. -/
namespace Wiremap.Ws.KubeHub

open Wiremap.Library

structure PodPayload where
  cluster : String
  ns : String
  pod : String
  container : String
  deriving DecidableEq, Repr

def PodPayload.key (p : PodPayload) : String :=
  p.cluster ++ "/" ++ p.ns ++ "/" ++ p.pod ++ "/" ++ p.container

/-- A canvas scope: a namespace, or "" for the cluster lenses. -/
def PodPayload.topologyKey (p : PodPayload) : String := p.cluster ++ "/" ++ p.ns

inductive StreamKind where
  | podLogs
  | podStats
  | topology
  deriving DecidableEq, Repr

def PodPayload.streamKey (p : PodPayload) : StreamKind → String
  | .podLogs => "logs:" ++ p.key
  | .podStats => "stats:" ++ p.key
  | .topology => "topology:" ++ p.topologyKey

/-- What a stream is for, as the client means it. -/
inductive Subscription where
  | podLogs (cluster ns pod container : String)
  | podStats (cluster ns pod container : String)
  | topology (cluster ns : String)
  deriving DecidableEq, Repr

def PodPayload.subscription (p : PodPayload) : StreamKind → Subscription
  | .podLogs => .podLogs p.cluster p.ns p.pod p.container
  | .podStats => .podStats p.cluster p.ns p.pod p.container
  | .topology => .topology p.cluster p.ns

/-- `data` is `none` when `msg.Data` does not unmarshal into a payload. -/
structure WsMessage where
  event : String
  data : Option PodPayload
  deriving DecidableEq, Repr

inductive Frame where
  | malformed
  | message (msg : WsMessage)
  deriving DecidableEq, Repr

inductive Action where
  | start (kind : StreamKind) (payload : PodPayload)
  | cancel (kind : StreamKind) (payload : PodPayload)
  deriving DecidableEq, Repr

def WsMessage.action (msg : WsMessage) : Option Action :=
  match msg.data with
  | none => none
  | some payload =>
      match msg.event with
      | "pod-logs:subscribe" => some (.start .podLogs payload)
      | "pod-logs:unsubscribe" => some (.cancel .podLogs payload)
      | "pod-stats:subscribe" => some (.start .podStats payload)
      | "pod-stats:unsubscribe" => some (.cancel .podStats payload)
      | "topology:watch" => some (.start .topology payload)
      | "topology:unwatch" => some (.cancel .topology payload)
      | _ => none

def Frame.action : Frame → Option Action
  | .malformed => none
  | .message msg => msg.action

/-- `handed` is history: what each context was created for, in order. -/
structure KubeClient where
  registry : CancelRegistry String
  handed : List Subscription
  closed : Bool

def startStream (r : CancelRegistry String) (key : String) : CancelRegistry String :=
  let created := r.withCancel
  let replaced := match created.cancels.lookup key with
    | some previous => created.cancel previous
    | none => created
  replaced.register key r.next

def KubeClient.handleMessage (c : KubeClient) (msg : WsMessage) : KubeClient :=
  match msg.action with
  | none => c
  | some (.start kind payload) =>
      { c with
        registry := startStream c.registry (payload.streamKey kind)
        handed := c.handed ++ [payload.subscription kind] }
  | some (.cancel kind payload) =>
      { c with registry := c.registry.cancelKey (payload.streamKey kind) }

def KubeClient.receive (c : KubeClient) : Frame → KubeClient
  | .malformed => c
  | .message msg => c.handleMessage msg

def KubeClient.cleanup (c : KubeClient) : KubeClient :=
  { c with registry := c.registry.cancelAll }

inductive Event where
  | receive (frame : Frame)
  | disconnect
  deriving DecidableEq, Repr

def step (c : KubeClient) : Event → Option KubeClient
  | .receive frame => if c.closed then none else some (c.receive frame)
  | .disconnect => if c.closed then none else some { c.cleanup with closed := true }

def machine : Machine KubeClient Event where
  init := ⟨.empty, [], false⟩
  step := step

theorem live_startStream (r : CancelRegistry String) (key : String) (ctx : Nat)
    (hheld : ∀ other, r.Holds key other → other < r.next) :
    (startStream r key).Live ctx ↔ (r.Live ctx ∧ ¬ r.Holds key ctx) ∨ ctx = r.next := by
  unfold startStream
  simp only [CancelRegistry.live_register]
  cases hlookup : r.withCancel.cancels.lookup key with
  | none =>
      have hnone : ¬ r.Holds key ctx := by
        intro h
        cases hlookup.symm.trans h
      simp [hnone]
  | some previous =>
      have hprevious : r.Holds key previous := hlookup
      have hlt := hheld previous hprevious
      have hiff : r.Holds key ctx ↔ ctx = previous :=
        ⟨fun h => h.unique hprevious, fun h => h ▸ hprevious⟩
      rw [CancelRegistry.live_cancel, CancelRegistry.live_withCancel, hiff]
      constructor
      · rintro ⟨hlive | hnew, hne⟩
        · exact .inl ⟨hlive, hne⟩
        · exact .inr hnew
      · rintro (⟨hlive, hne⟩ | rfl)
        · exact ⟨.inl hlive, hne⟩
        · exact ⟨.inr rfl, Nat.ne_of_gt hlt⟩

@[simp] theorem next_startStream (r : CancelRegistry String) (key : String) :
    (startStream r key).next = r.next + 1 := by
  unfold startStream
  simp only [CancelRegistry.next_register]
  split <;> simp

theorem holds_startStream (r : CancelRegistry String) (key key' : String) (ctx : Nat) :
    (startStream r key).Holds key' ctx ↔
      (key' = key ∧ ctx = r.next) ∨ (key' ≠ key ∧ r.Holds key' ctx) := by
  unfold startStream
  dsimp only
  by_cases heq : key' = key
  · subst heq
    rw [CancelRegistry.holds_register_self]
    simp
  · rw [CancelRegistry.holds_register_ne _ heq]
    split <;> simp [heq]

def PodPayload.Plain (p : PodPayload) : Prop :=
  Text.Free '/' p.ns ∧ Text.Free '/' p.pod ∧ Text.Free '/' p.container

instance (p : PodPayload) : Decidable p.Plain :=
  inferInstanceAs (Decidable (_ ∧ _ ∧ _))

private theorem key_inj {p q : PodPayload} (hp : p.Plain) (hq : q.Plain)
    (h : p.key = q.key) : p = q := by
  obtain ⟨hns, hpod, hcontainer⟩ := hp
  obtain ⟨hns', hpod', hcontainer'⟩ := hq
  obtain ⟨h, hc⟩ := Text.join_inj_right hcontainer hcontainer' h
  obtain ⟨h, hd⟩ := Text.join_inj_right hpod hpod' h
  obtain ⟨ha, hb⟩ := Text.join_inj_right hns hns' h
  cases p
  cases q
  simp_all

private theorem topologyKey_inj {p q : PodPayload} (hp : p.Plain) (hq : q.Plain)
    (h : p.topologyKey = q.topologyKey) : p.cluster = q.cluster ∧ p.ns = q.ns :=
  Text.join_inj_right hp.1 hq.1 h

/-- Two payloads share a stream key exactly when they name one subscription. -/
theorem streamKey_eq_iff {p q : PodPayload} (hp : p.Plain) (hq : q.Plain)
    (kind kind' : StreamKind) :
    p.streamKey kind = q.streamKey kind' ↔ p.subscription kind = q.subscription kind' := by
  constructor
  · intro h
    cases kind <;> cases kind' <;>
      simp only [PodPayload.streamKey, ← String.toList_inj, String.toList_append] at h <;>
      simp at h
    · rw [key_inj hp hq (String.toList_inj.mp h)]
    · rw [key_inj hp hq (String.toList_inj.mp h)]
    · obtain ⟨hcluster, hns⟩ := topologyKey_inj hp hq (String.toList_inj.mp h)
      simp [PodPayload.subscription, hcluster, hns]
  · intro h
    cases kind <;> cases kind' <;>
      simp_all [PodPayload.subscription, PodPayload.streamKey, PodPayload.key,
        PodPayload.topologyKey]

end Wiremap.Ws.KubeHub
