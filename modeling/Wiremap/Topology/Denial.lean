import Wiremap.Topology.Reads

/-! Denied lists, beside the same cluster without the objects of their kinds: what
the namespace level reads alike in both. -/
namespace Wiremap.Topology

open Wiremap.Kube Wiremap.Library

/-- The lists the level can do without. -/
def optionalKinds : List String :=
  ["ReplicationController", "EndpointSlice", "Gateway"] ++ gatewayRouteKinds ++
    ["PersistentVolume", "HorizontalPodAutoscaler", "PodDisruptionBudget", "NetworkPolicy",
      "RoleBinding", "ClusterRoleBinding", "Role", "ClusterRole", "ResourceQuota", "LimitRange"]

/-- The optional lists that fail, each as forbidden or not found. -/
structure Denial where
  error : String → Option ApiError
  optional : ∀ kind err, error kind = some err → kind ∈ optionalKinds ∧ isOptional err = true

namespace Denial

variable (D : Denial)

def denies (kind : String) : Bool := (D.error kind).isSome

/-- The objects, where exactly the denied lists are refused. -/
def deny (c : Cluster) : Cluster :=
  { c with
    refused := fun request =>
      match request with
      | .list kind _ => D.error kind
      | .get _ _ _ => none
      | .discover _ _ => none }

def kept {key : α → κ} (kind : String) (store : KeyedList key) : KeyedList key :=
  if D.denies kind then .empty else store

/-- The objects without those of the denied kinds, where nothing is refused. -/
def remove (c : Cluster) : Cluster :=
  { c with
    replicationControllers := D.kept "ReplicationController" c.replicationControllers
    endpointSlices := D.kept "EndpointSlice" c.endpointSlices
    persistentVolumes := D.kept "PersistentVolume" c.persistentVolumes
    autoscalers := D.kept "HorizontalPodAutoscaler" c.autoscalers
    disruptionBudgets := D.kept "PodDisruptionBudget" c.disruptionBudgets
    networkPolicies := D.kept "NetworkPolicy" c.networkPolicies
    resourceQuotas := D.kept "ResourceQuota" c.resourceQuotas
    limitRanges := D.kept "LimitRange" c.limitRanges
    roleBindings := D.kept "RoleBinding" c.roleBindings
    clusterRoleBindings := D.kept "ClusterRoleBinding" c.clusterRoleBindings
    roles := D.kept "Role" c.roles
    clusterRoles := D.kept "ClusterRole" c.clusterRoles
    objects := c.objects.filter fun u => !(u.group = gatewayGroup && D.denies u.kind)
    refused := fun _ => none }

theorem readable_remove (c : Cluster) : (D.remove c).Readable := fun _ => rfl

end Denial

/-- The denials hide the objects of their kinds and nothing else. -/
def HidesOnly (D : Denial) (c : Cluster) (order : RangeOrder) (ns : String) : Prop :=
  ∃ g, namespaceLevel (D.deny c) order ns = .ok g ∧ namespaceLevel (D.remove c) order ns = .ok g

/-! ### One list -/

inductive DeniedRead : Except ApiError (List α) → Except ApiError (List α) → Prop where
  | readable (items : List α) : DeniedRead (.ok items) (.ok items)
  | denied {err : ApiError} (h : isOptional err = true) : DeniedRead (.error err) (.ok [])

namespace DeniedRead

variable {read read' : Except ApiError (List α)}

theorem answered_eq (h : DeniedRead read read') : answered read = answered read' := by
  cases h with
  | readable items => rfl
  | denied _ => rfl

theorem optionalList_eq (h : DeniedRead read read') (action : String) :
    optionalList read action = optionalList read' action := by
  cases h with
  | readable items => rfl
  | denied hoptional => simp [optionalList, hoptional]

theorem optionalFold_eq (h : DeniedRead read read') (action : String) (step : Graph → α → Graph)
    (g : Graph) :
    optionalStep read action g (fun items => return items.foldl step g) =
      optionalStep read' action g (fun items => return items.foldl step g) := by
  cases h with
  | readable items => rfl
  | denied hoptional =>
      simp only [optionalStep, hoptional, if_true]
      rfl

end DeniedRead

variable {D : Denial} {c : Cluster} {order : RangeOrder} {ns : String}

theorem answer_deny {kind : String} (h : D.denies kind = false) (value : α) :
    (D.deny c).answer (.list kind ns) value = .ok value := by
  have hnone : D.error kind = none := by simpa [Denial.denies] using h
  simp only [Cluster.answer, Denial.deny, hnone]

theorem answer_denied (ns : String) {kind : String} (h : D.denies kind = true) (value : α) :
    ∃ err, (D.deny c).answer (.list kind ns) value = .error err ∧ isOptional err = true := by
  obtain ⟨err, herror⟩ := Option.isSome_iff_exists.mp h
  refine ⟨err, ?_, (D.optional kind err herror).2⟩
  simp only [Cluster.answer, Denial.deny, herror]

theorem answer_remove (request : Request) (value : α) :
    (D.remove c).answer request value = .ok value := rfl

@[simp] theorem kept_of_denied {key : α → κ} {kind : String} (h : D.denies kind = true)
    (store : KeyedList key) : D.kept kind store = .empty := if_pos h

@[simp] theorem kept_of_read {key : α → κ} {kind : String} (h : D.denies kind = false)
    (store : KeyedList key) : D.kept kind store = store := if_neg (by simp [h])

/-- What is read of a store that loses everything when its kind is denied. -/
theorem deniedRead_answer {key : α → κ} {kind : String} (ns : String) (store : KeyedList key)
    {f : KeyedList key → List α} (hf : f .empty = []) :
    DeniedRead ((D.deny c).answer (.list kind ns) (f store))
      ((D.remove c).answer (.list kind ns) (f (D.kept kind store))) := by
  cases hdenied : D.denies kind with
  | false =>
      rw [answer_deny hdenied, answer_remove, kept_of_read hdenied]
      exact .readable _
  | true =>
      obtain ⟨err, herr, hoptional⟩ := answer_denied (c := c) ns hdenied (f store)
      rw [herr, answer_remove, kept_of_denied hdenied, hf]
      exact .denied hoptional

theorem deniedRead_list [HasMeta α] (kind : String) (store : Store α) :
    DeniedRead ((D.deny c).list kind ns store) ((D.remove c).list kind ns (D.kept kind store)) :=
  deniedRead_answer (f := Cluster.within ns) ns store rfl

theorem deniedRead_listAll [HasMeta α] (kind : String) (store : ClusterStore α) :
    DeniedRead ((D.deny c).listAll kind store)
      ((D.remove c).listAll kind (D.kept kind store)) :=
  deniedRead_answer (f := KeyedList.items) "" store rfl

theorem list_required [HasMeta α] {kind : String} (hkind : kind ∉ optionalKinds)
    (store : Store α) : (D.deny c).list kind ns store = (D.remove c).list kind ns store := by
  have hnone : D.error kind = none := by
    cases herror : D.error kind with
    | none => rfl
    | some err => exact absurd (D.optional kind err herror).1 hkind
  simp only [Cluster.list, Cluster.answer, Denial.deny, Denial.remove, hnone]

/-! ### The steps that lose nothing -/

theorem listWorkloads_denied : listWorkloads (D.deny c) ns = listWorkloads (D.remove c) ns := by
  have hdeployments : (D.deny c).list "Deployment" ns (D.deny c).deployments =
      (D.remove c).list "Deployment" ns (D.remove c).deployments := list_required (by decide) _
  have hstatefulSets : (D.deny c).list "StatefulSet" ns (D.deny c).statefulSets =
      (D.remove c).list "StatefulSet" ns (D.remove c).statefulSets := list_required (by decide) _
  have hdaemonSets : (D.deny c).list "DaemonSet" ns (D.deny c).daemonSets =
      (D.remove c).list "DaemonSet" ns (D.remove c).daemonSets := list_required (by decide) _
  have hcronJobs : (D.deny c).list "CronJob" ns (D.deny c).cronJobs =
      (D.remove c).list "CronJob" ns (D.remove c).cronJobs := list_required (by decide) _
  have hjobs : (D.deny c).list "Job" ns (D.deny c).jobs =
      (D.remove c).list "Job" ns (D.remove c).jobs := list_required (by decide) _
  have hreplicaSets : (D.deny c).list "ReplicaSet" ns (D.deny c).replicaSets =
      (D.remove c).list "ReplicaSet" ns (D.remove c).replicaSets := list_required (by decide) _
  have hcontrollers : ∀ action,
      optionalList ((D.deny c).list "ReplicationController" ns (D.deny c).replicationControllers)
          action =
        optionalList ((D.remove c).list "ReplicationController" ns
          (D.remove c).replicationControllers) action :=
    (deniedRead_list _ _).optionalList_eq
  simp only [listWorkloads, hdeployments, hstatefulSets, hdaemonSets, hcronJobs, hjobs,
    hreplicaSets, hcontrollers]

theorem listPodOwners_denied : listPodOwners (D.deny c) ns = listPodOwners (D.remove c) ns := by
  have hpods : (D.deny c).list "Pod" ns (D.deny c).pods =
      (D.remove c).list "Pod" ns (D.remove c).pods := list_required (by decide) _
  simp only [listPodOwners, listWorkloads_denied, hpods]

theorem addServices_denied (owners : NamespaceOwners) :
    addServices (D.deny c) ns owners = addServices (D.remove c) ns owners := by
  have hendpoints : endpointPods (D.deny c) ns = endpointPods (D.remove c) ns := by
    have hslices : DeniedRead ((D.deny c).list "EndpointSlice" ns (D.deny c).endpointSlices)
        ((D.remove c).list "EndpointSlice" ns (D.remove c).endpointSlices) := deniedRead_list _ _
    unfold endpointPods
    generalize (D.deny c).list "EndpointSlice" ns (D.deny c).endpointSlices = read at hslices ⊢
    generalize (D.remove c).list "EndpointSlice" ns (D.remove c).endpointSlices = read' at hslices ⊢
    cases hslices with
    | readable slices => rfl
    | denied _ => rfl
  have hservice : addService (D.deny c) ns owners = addService (D.remove c) ns owners := by
    funext g svc
    simp only [addService, hendpoints]
  have hservices : (D.deny c).list "Service" ns (D.deny c).services =
      (D.remove c).list "Service" ns (D.remove c).services := list_required (by decide) _
  funext g
  simp only [addServices, hservice, hservices]

theorem addIngresses_denied : addIngresses (D.deny c) ns = addIngresses (D.remove c) ns := by
  have hingresses : (D.deny c).list "Ingress" ns (D.deny c).ingresses =
      (D.remove c).list "Ingress" ns (D.remove c).ingresses := list_required (by decide) _
  funext g
  simp only [addIngresses, hingresses]

theorem addConfigRefs_denied (owners : NamespaceOwners) :
    addConfigRefs (D.deny c) order ns owners = addConfigRefs (D.remove c) order ns owners := by
  have hclaims : (D.deny c).list "PersistentVolumeClaim" ns (D.deny c).persistentVolumeClaims =
      (D.remove c).list "PersistentVolumeClaim" ns (D.remove c).persistentVolumeClaims :=
    list_required (by decide) _
  have hvolumes : answered ((D.deny c).listAll "PersistentVolume" (D.deny c).persistentVolumes) =
      answered ((D.remove c).listAll "PersistentVolume" (D.remove c).persistentVolumes) :=
    (deniedRead_listAll _ _).answered_eq
  unfold answered at hvolumes
  funext g
  simp only [addConfigRefs, addVolumes, hclaims, hvolumes]

theorem addAutoscalers_denied : addAutoscalers (D.deny c) ns = addAutoscalers (D.remove c) ns := by
  funext g
  exact (deniedRead_list _ _).optionalFold_eq _ _ g

theorem addDisruptionBudgets_denied (owners : NamespaceOwners) :
    addDisruptionBudgets (D.deny c) ns owners = addDisruptionBudgets (D.remove c) ns owners := by
  funext g
  exact (deniedRead_list _ _).optionalFold_eq _ _ g

theorem addNetworkPolicies_denied (owners : NamespaceOwners) :
    addNetworkPolicies (D.deny c) ns owners = addNetworkPolicies (D.remove c) ns owners := by
  funext g
  exact (deniedRead_list _ _).optionalFold_eq _ _ g

theorem roleRules_denied : roleRules (D.deny c) ns = roleRules (D.remove c) ns := by
  have hroles : answered ((D.deny c).list "Role" ns (D.deny c).roles) =
      answered ((D.remove c).list "Role" ns (D.remove c).roles) :=
    (deniedRead_list _ _).answered_eq
  have hclusterRoles : answered ((D.deny c).listAll "ClusterRole" (D.deny c).clusterRoles) =
      answered ((D.remove c).listAll "ClusterRole" (D.remove c).clusterRoles) :=
    (deniedRead_listAll _ _).answered_eq
  unfold answered at hroles hclusterRoles
  simp only [roleRules, hroles, hclusterRoles]

end Wiremap.Topology
