import Wiremap.Kube.Errors
import Wiremap.Library.Fallible
import Wiremap.Kube.Resources

/-! One cluster as the API server answers for it: the stored objects, the kinds
that are served, and the reads that are refused. -/
namespace Wiremap.Kube

open Wiremap.Library

inductive Request where
  | list (kind ns : String)
  | get (kind ns name : String)
  | discover (group kind : String)
  deriving DecidableEq, Repr

structure ResourceMapping where
  group : String
  kind : String
  namespaced : Bool
  deriving DecidableEq, Repr

structure Cluster where
  pods : Store Pod := .empty
  deployments : Store Deployment := .empty
  statefulSets : Store StatefulSet := .empty
  daemonSets : Store DaemonSet := .empty
  replicaSets : Store ReplicaSet := .empty
  jobs : Store Job := .empty
  cronJobs : Store CronJob := .empty
  replicationControllers : Store ReplicationController := .empty
  services : Store Service := .empty
  endpointSlices : Store EndpointSlice := .empty
  ingresses : Store Ingress := .empty
  persistentVolumeClaims : Store PersistentVolumeClaim := .empty
  persistentVolumes : ClusterStore PersistentVolume := .empty
  storageClasses : ClusterStore StorageClass := .empty
  autoscalers : Store HorizontalPodAutoscaler := .empty
  disruptionBudgets : Store PodDisruptionBudget := .empty
  networkPolicies : Store NetworkPolicy := .empty
  resourceQuotas : Store ResourceQuota := .empty
  limitRanges : Store LimitRange := .empty
  roleBindings : Store RoleBinding := .empty
  clusterRoleBindings : ClusterStore ClusterRoleBinding := .empty
  roles : Store Role := .empty
  clusterRoles : ClusterStore ClusterRole := .empty
  namespaces : ClusterStore Namespace := .empty
  nodes : ClusterStore Node := .empty
  /-- ConfigMaps, Secrets, custom resources and whatever else is served. -/
  objects : KeyedList Unstructured.fullKey := .empty
  served : List ResourceMapping := []
  refused : Request → Option ApiError := fun _ => none

namespace Cluster

def answer (c : Cluster) (request : Request) (value : α) : Except ApiError α :=
  match c.refused request with
  | some err => .error err
  | none => .ok value

/-- The objects of a kind in a namespace, or everywhere for "". -/
def within [HasMeta α] (ns : String) (store : Store α) : List α :=
  store.items.filter fun a => ns = "" || (HasMeta.objectMeta a).ns = ns

theorem within_all [HasMeta α] (store : Store α) : within "" store = store.items := by
  simp [within]

theorem mem_within [HasMeta α] {ns : String} {store : Store α} {a : α} (hns : ns ≠ "") :
    a ∈ within ns store ↔ a ∈ store.items ∧ (HasMeta.objectMeta a).ns = ns := by
  simp [within, hns]

def list [HasMeta α] (c : Cluster) (kind ns : String) (store : Store α) :
    Except ApiError (List α) :=
  c.answer (.list kind ns) (within ns store)

def listAll [HasMeta α] (c : Cluster) (kind : String) (store : ClusterStore α) :
    Except ApiError (List α) :=
  c.answer (.list kind "") store.items

def get [HasMeta α] (c : Cluster) (kind ns name : String) (store : Store α) :
    Except ApiError α := do
  match ← c.answer (.get kind ns name) (store.find (ns, name)) with
  | some a => return a
  | none => .error ⟨.notFound, s!"{kind} \"{name}\" not found"⟩

def getAll [HasMeta α] (c : Cluster) (kind name : String) (store : ClusterStore α) :
    Except ApiError α := do
  match ← c.answer (.get kind "" name) (store.find name) with
  | some a => return a
  | none => .error ⟨.notFound, s!"{kind} \"{name}\" not found"⟩

theorem answer_ok {c : Cluster} {request : Request} {value value' : α} :
    c.answer request value = .ok value' ↔ c.refused request = none ∧ value = value' := by
  unfold answer
  cases c.refused request <;> simp

theorem list_ok [HasMeta α] {c : Cluster} {kind ns : String} {store : Store α} {items : List α} :
    c.list kind ns store = .ok items ↔
      c.refused (.list kind ns) = none ∧ within ns store = items :=
  answer_ok

theorem mem_of_list [HasMeta α] {c : Cluster} {kind ns : String} {store : Store α}
    {items : List α} (h : c.list kind ns store = .ok items) (hns : ns ≠ "") {a : α} :
    a ∈ items ↔ a ∈ store.items ∧ (HasMeta.objectMeta a).ns = ns := by
  obtain ⟨-, rfl⟩ := list_ok.mp h
  simp [within, hns]

def Readable (c : Cluster) : Prop := ∀ request, c.refused request = none

theorem list_readable [HasMeta α] {c : Cluster} (hc : c.Readable) (kind ns : String)
    (store : Store α) : c.list kind ns store = .ok (within ns store) := by
  simp [list, answer, hc _]

theorem listAll_readable [HasMeta α] {c : Cluster} (hc : c.Readable) (kind : String)
    (store : ClusterStore α) : c.listAll kind store = .ok store.items := by
  simp [listAll, answer, hc _]

theorem get_readable [HasMeta α] {c : Cluster} (hc : c.Readable) (kind : String) {store : Store α}
    {a : α} (ha : a ∈ store.items) :
    c.get kind (HasMeta.objectMeta a).ns (HasMeta.objectMeta a).name store = .ok a := by
  have hfind : store.find ((HasMeta.objectMeta a).ns, (HasMeta.objectMeta a).name) = some a :=
    KeyedList.find_eq_some_iff.mpr ⟨ha, rfl⟩
  simp only [get, answer, hc _, hfind]
  rfl

theorem getAll_readable [HasMeta α] {c : Cluster} (hc : c.Readable) (kind name : String)
    (store : ClusterStore α) : (c.getAll kind name store).toOption = store.find name := by
  simp only [getAll, answer, hc _]
  cases store.find name <;> rfl

theorem list_names_nodup [HasMeta α] {c : Cluster} {kind ns : String} {store : Store α}
    {items : List α} (h : c.list kind ns store = .ok items) (hns : ns ≠ "") :
    (items.map fun a => (HasMeta.objectMeta a).name).Nodup := by
  have hmem := fun a => mem_of_list h hns (a := a)
  have hkeys : (items.map fun a => (HasMeta.objectMeta a).key).Nodup := by
    obtain ⟨-, rfl⟩ := list_ok.mp h
    exact store.unique.sublist (List.filter_sublist.map _)
  rw [List.Nodup, List.pairwise_map] at hkeys ⊢
  refine hkeys.imp_of_mem fun ha hb hne heq => hne ?_
  simp only [ObjectMeta.key, ((hmem _).mp ha).2, ((hmem _).mp hb).2, heq]

theorem get_ok [HasMeta α] {c : Cluster} {kind ns name : String} {store : Store α} {a : α}
    (h : c.get kind ns name store = .ok a) : store.find (ns, name) = some a := by
  unfold get at h
  rw [Fallible.bind_eq_ok] at h
  obtain ⟨found, hanswer, hfound⟩ := h
  obtain ⟨-, rfl⟩ := answer_ok.mp hanswer
  split at hfound
  · rw [← Fallible.pure_eq_ok.mp hfound]
    assumption
  · cases hfound

theorem get_key [HasMeta α] {c : Cluster} {kind ns name : String} {store : Store α} {a : α}
    (h : c.get kind ns name store = .ok a) :
    (HasMeta.objectMeta a).ns = ns ∧ (HasMeta.objectMeta a).name = name :=
  Prod.mk.inj (KeyedList.mem_of_find (get_ok h)).2

def groupKind (group kind : String) : String :=
  if group = "" then kind else kind ++ "." ++ group

def resourceFor (c : Cluster) (group kind : String) : Except AppError ResourceMapping :=
  match c.refused (.discover group kind) with
  | some err => .error (.internal s!"failed to resolve kind {groupKind group kind}: {err.text}")
  | none =>
      match c.served.find? fun m => m.group = group && m.kind = kind with
      | some mapping => .ok mapping
      | none => .error (.notFound s!"kind {groupKind group kind} is not served by this cluster")

def serves (c : Cluster) (group kind : String) : Bool := (c.resourceFor group kind).isOk

end Cluster

def orWrap (read : Except ApiError α) (action : String) : Except AppError α :=
  match read with
  | .ok value => .ok value
  | .error err => .error (wrapError err action)

theorem orWrap_ok {read : Except ApiError α} {action : String} {value : α} :
    orWrap read action = .ok value ↔ read = .ok value := by
  unfold orWrap
  cases read <;> simp

def answered (read : Except ε (List α)) : List α := read.toOption.getD []

@[simp] theorem answered_ok (items : List α) : answered (.ok items : Except ε (List α)) = items :=
  rfl

end Wiremap.Kube
