import Wiremap.Service.WatchService
import Wiremap.Topology.Reads

/-! Which changes the watch of a level can miss.  A watched kind tells of every
change to its objects, so what matters is which kinds a level reads that are not
among those watched. -/
namespace Wiremap.Topology

open Wiremap.Kube Wiremap.Library
open Cluster (within)
open Service.Watch (WatchKind namespaceWatchKinds clusterWatchKinds)

def rbacGroup : String := "rbac.authorization.k8s.io"

/-- Two states hold the same objects of a kind, in a namespace where the kind is
namespaced.  A cluster serves what its resource definitions say. -/
def SameObjects (ns : String) (c c' : Cluster) (k : WatchKind) : Prop :=
  match k.group, k.kind with
  | "", "Pod" => within ns c.pods = within ns c'.pods
  | "", "Service" => within ns c.services = within ns c'.services
  | "", "PersistentVolumeClaim" =>
      within ns c.persistentVolumeClaims = within ns c'.persistentVolumeClaims
  | "", "PersistentVolume" => c.persistentVolumes.items = c'.persistentVolumes.items
  | "", "ReplicationController" =>
      within ns c.replicationControllers = within ns c'.replicationControllers
  | "", "ResourceQuota" => within ns c.resourceQuotas = within ns c'.resourceQuotas
  | "", "LimitRange" => within ns c.limitRanges = within ns c'.limitRanges
  | "", "Namespace" => c.namespaces.items = c'.namespaces.items
  | "", "Node" => c.nodes.items = c'.nodes.items
  | "apps", "Deployment" => within ns c.deployments = within ns c'.deployments
  | "apps", "StatefulSet" => within ns c.statefulSets = within ns c'.statefulSets
  | "apps", "DaemonSet" => within ns c.daemonSets = within ns c'.daemonSets
  | "apps", "ReplicaSet" => within ns c.replicaSets = within ns c'.replicaSets
  | "batch", "Job" => within ns c.jobs = within ns c'.jobs
  | "batch", "CronJob" => within ns c.cronJobs = within ns c'.cronJobs
  | "discovery.k8s.io", "EndpointSlice" =>
      within ns c.endpointSlices = within ns c'.endpointSlices
  | "networking.k8s.io", "Ingress" => within ns c.ingresses = within ns c'.ingresses
  | "networking.k8s.io", "NetworkPolicy" =>
      within ns c.networkPolicies = within ns c'.networkPolicies
  | "autoscaling", "HorizontalPodAutoscaler" =>
      within ns c.autoscalers = within ns c'.autoscalers
  | "policy", "PodDisruptionBudget" =>
      within ns c.disruptionBudgets = within ns c'.disruptionBudgets
  | "storage.k8s.io", "StorageClass" => c.storageClasses.items = c'.storageClasses.items
  | "rbac.authorization.k8s.io", "RoleBinding" =>
      within ns c.roleBindings = within ns c'.roleBindings
  | "rbac.authorization.k8s.io", "ClusterRoleBinding" =>
      c.clusterRoleBindings.items = c'.clusterRoleBindings.items
  | "rbac.authorization.k8s.io", "Role" => within ns c.roles = within ns c'.roles
  | "rbac.authorization.k8s.io", "ClusterRole" => c.clusterRoles.items = c'.clusterRoles.items
  | "apiextensions.k8s.io", "CustomResourceDefinition" => c.served = c'.served
  | group, kind => customObjects c group kind ns = customObjects c' group kind ns


variable {ns : String} {c c' : Cluster}

/-- Watching `kinds` tells of every change that shows in a namespace: two states
with the same objects of these kinds look the same. -/
def NamespaceLaw (kinds : List WatchKind) : Prop :=
  ∀ order ns c c', c.Readable → c'.Readable → (∀ k ∈ kinds, SameObjects ns c c' k) →
    namespaceLevel c order ns = namespaceLevel c' order ns

def ClusterLaw (kinds : List WatchKind) : Prop :=
  ∀ lens c c', c.Readable → c'.Readable → (∀ k ∈ kinds, SameObjects "" c c' k) →
    clusterLevel c lens = clusterLevel c' lens

/-- The kinds a namespace is drawn from that are not watched there. -/
def unwatchedNamespaceKinds : List WatchKind :=
  [⟨"", "ReplicationController"⟩, ⟨"discovery.k8s.io", "EndpointSlice"⟩,
    ⟨"", "PersistentVolume"⟩, ⟨rbacGroup, "ClusterRoleBinding"⟩, ⟨rbacGroup, "Role"⟩,
    ⟨rbacGroup, "ClusterRole"⟩, ⟨"", "ResourceQuota"⟩, ⟨"", "LimitRange"⟩,
    ⟨"apiextensions.k8s.io", "CustomResourceDefinition"⟩]

def unwatchedClusterKinds : List WatchKind :=
  [⟨"apps", "Deployment"⟩, ⟨"apps", "StatefulSet"⟩, ⟨"apps", "DaemonSet"⟩,
    ⟨"batch", "CronJob"⟩, ⟨"storage.k8s.io", "StorageClass"⟩, ⟨rbacGroup, "Role"⟩,
    ⟨rbacGroup, "ClusterRole"⟩]

theorem list_congr [HasMeta α] {store store' : Store α} (hc : c.Readable) (hc' : c'.Readable)
    (kind : String) (h : within ns store = within ns store') :
    c.list kind ns store = c'.list kind ns store' := by
  rw [Cluster.list_readable hc, Cluster.list_readable hc', h]

theorem listAll_congr [HasMeta α] {store store' : ClusterStore α} (hc : c.Readable)
    (hc' : c'.Readable) (kind : String) (h : store.items = store'.items) :
    c.listAll kind store = c'.listAll kind store' := by
  rw [Cluster.listAll_readable hc, Cluster.listAll_readable hc', h]

theorem resourceFor_congr (hc : c.Readable) (hc' : c'.Readable) (h : c.served = c'.served)
    (group kind : String) : c.resourceFor group kind = c'.resourceFor group kind := by
  simp only [Cluster.resourceFor, hc _, hc' _, h]

theorem sameRoutes_of_sameObjects (hc : c.Readable) (hc' : c'.Readable)
    (hserved : c.served = c'.served) {kind : String}
    (h : customObjects c gatewayGroup kind ns = customObjects c' gatewayGroup kind ns) :
    sameRoutes c c' ns kind := by
  have hresource := resourceFor_congr hc hc' hserved gatewayGroup kind
  refine ⟨by simp only [Cluster.serves, hresource], ?_⟩
  simp only [listUnstructured, hresource, Cluster.answer, hc _, hc' _, h]

theorem sameNamespace_of_sameObjects (hc : c.Readable) (hc' : c'.Readable)
    (h : ∀ k ∈ namespaceWatchKinds ++ unwatchedNamespaceKinds, SameObjects ns c c' k) :
    SameNamespace ns c c' where
  pods := list_congr hc hc' _ (h ⟨"", "Pod"⟩ (by decide))
  deployments := list_congr hc hc' _ (h ⟨"apps", "Deployment"⟩ (by decide))
  statefulSets := list_congr hc hc' _ (h ⟨"apps", "StatefulSet"⟩ (by decide))
  daemonSets := list_congr hc hc' _ (h ⟨"apps", "DaemonSet"⟩ (by decide))
  replicaSets := list_congr hc hc' _ (h ⟨"apps", "ReplicaSet"⟩ (by decide))
  jobs := list_congr hc hc' _ (h ⟨"batch", "Job"⟩ (by decide))
  cronJobs := list_congr hc hc' _ (h ⟨"batch", "CronJob"⟩ (by decide))
  controllers := list_congr hc hc' _ (h ⟨"", "ReplicationController"⟩ (by decide))
  services := list_congr hc hc' _ (h ⟨"", "Service"⟩ (by decide))
  endpointSlices := list_congr hc hc' _ (h ⟨"discovery.k8s.io", "EndpointSlice"⟩ (by decide))
  ingresses := list_congr hc hc' _ (h ⟨"networking.k8s.io", "Ingress"⟩ (by decide))
  claims := list_congr hc hc' _ (h ⟨"", "PersistentVolumeClaim"⟩ (by decide))
  volumes := listAll_congr hc hc' _ (h ⟨"", "PersistentVolume"⟩ (by decide))
  autoscalers := list_congr hc hc' _ (h ⟨"autoscaling", "HorizontalPodAutoscaler"⟩ (by decide))
  disruptionBudgets := list_congr hc hc' _ (h ⟨"policy", "PodDisruptionBudget"⟩ (by decide))
  networkPolicies := list_congr hc hc' _ (h ⟨"networking.k8s.io", "NetworkPolicy"⟩ (by decide))
  resourceQuotas := list_congr hc hc' _ (h ⟨"", "ResourceQuota"⟩ (by decide))
  limitRanges := list_congr hc hc' _ (h ⟨"", "LimitRange"⟩ (by decide))
  roleBindings := list_congr hc hc' _ (h ⟨rbacGroup, "RoleBinding"⟩ (by decide))
  clusterRoleBindings := listAll_congr hc hc' _ (h ⟨rbacGroup, "ClusterRoleBinding"⟩ (by decide))
  roles := list_congr hc hc' _ (h ⟨rbacGroup, "Role"⟩ (by decide))
  clusterRoles := listAll_congr hc hc' _ (h ⟨rbacGroup, "ClusterRole"⟩ (by decide))
  gateways := sameRoutes_of_sameObjects hc hc'
    (h ⟨"apiextensions.k8s.io", "CustomResourceDefinition"⟩ (by decide))
    (h ⟨gatewayGroup, "Gateway"⟩ (by decide))
  routes kind hkind := by
    apply sameRoutes_of_sameObjects hc hc'
      (h ⟨"apiextensions.k8s.io", "CustomResourceDefinition"⟩ (by decide))
    simp only [gatewayRouteKinds, List.mem_cons, List.not_mem_nil, or_false] at hkind
    rcases hkind with rfl | rfl | rfl | rfl | rfl
    · exact h ⟨gatewayGroup, "HTTPRoute"⟩ (by decide)
    · exact h ⟨gatewayGroup, "GRPCRoute"⟩ (by decide)
    · exact h ⟨gatewayGroup, "TLSRoute"⟩ (by decide)
    · exact h ⟨gatewayGroup, "TCPRoute"⟩ (by decide)
    · exact h ⟨gatewayGroup, "UDPRoute"⟩ (by decide)

theorem sameLenses_of_sameObjects (hc : c.Readable) (hc' : c'.Readable)
    (h : ∀ k ∈ clusterWatchKinds ++ unwatchedClusterKinds, SameObjects "" c c' k) :
    SameLenses c c' where
  pods := list_congr hc hc' _ (h ⟨"", "Pod"⟩ (by decide))
  namespaces := listAll_congr hc hc' _ (h ⟨"", "Namespace"⟩ (by decide))
  nodes := listAll_congr hc hc' _ (h ⟨"", "Node"⟩ (by decide))
  deployments := list_congr hc hc' _ (h ⟨"apps", "Deployment"⟩ (by decide))
  statefulSets := list_congr hc hc' _ (h ⟨"apps", "StatefulSet"⟩ (by decide))
  daemonSets := list_congr hc hc' _ (h ⟨"apps", "DaemonSet"⟩ (by decide))
  cronJobs := list_congr hc hc' _ (h ⟨"batch", "CronJob"⟩ (by decide))
  storageClasses := listAll_congr hc hc' _ (h ⟨"storage.k8s.io", "StorageClass"⟩ (by decide))
  volumes := listAll_congr hc hc' _ (h ⟨"", "PersistentVolume"⟩ (by decide))
  claims := list_congr hc hc' _ (h ⟨"", "PersistentVolumeClaim"⟩ (by decide))
  roleBindings := list_congr hc hc' _ (h ⟨rbacGroup, "RoleBinding"⟩ (by decide))
  clusterRoleBindings := listAll_congr hc hc' _ (h ⟨rbacGroup, "ClusterRoleBinding"⟩ (by decide))
  roles := list_congr hc hc' _ (h ⟨rbacGroup, "Role"⟩ (by decide))
  clusterRoles := listAll_congr hc hc' _ (h ⟨rbacGroup, "ClusterRole"⟩ (by decide))

/-! ### No kind that is read may go unwatched -/

/-- What a drawing shows of the kinds at issue: its nodes with the lines under
their names, and its edges. -/
def shown (drawing : Except AppError Graph) : Option (List (String × String) × List GraphEdge) :=
  drawing.toOption.map fun g => (g.nodes.items.map fun n => (n.id, n.summary), g.edges.items)

/-- Two states that differ in one kind only, and are drawn differently, show that
the kind must be watched. -/
theorem NamespaceLaw.needs {kinds : List WatchKind} {k : WatchKind} (h : NamespaceLaw kinds)
    (c c' : Cluster) (hc : c.Readable) (hc' : c'.Readable)
    (hsame : ∀ k' ≠ k, SameObjects "shop" c c' k')
    (hdiffer : shown (namespaceLevel c default "shop") ≠ shown (namespaceLevel c' default "shop")) :
    k ∈ kinds := by
  by_contra hnot
  refine hdiffer (congrArg shown (h default "shop" c c' hc hc' fun k' hk' => hsame k' ?_))
  exact ne_of_mem_of_not_mem hk' hnot

theorem ClusterLaw.needs {kinds : List WatchKind} {k : WatchKind} (h : ClusterLaw kinds)
    (lens : Lens) (c c' : Cluster) (hc : c.Readable) (hc' : c'.Readable)
    (hsame : ∀ k' ≠ k, SameObjects "" c c' k')
    (hdiffer : shown (clusterLevel c lens) ≠ shown (clusterLevel c' lens)) : k ∈ kinds := by
  by_contra hnot
  refine hdiffer (congrArg shown (h lens c c' hc hc' fun k' hk' => hsame k' ?_))
  exact ne_of_mem_of_not_mem hk' hnot

def shop : Cluster where
  pods := KeyedList.empty.add
    { name := "web-0", ns := "shop", spec := { volumes := [{ persistentVolumeClaim := some "data" }] } }
  services := KeyedList.empty.add { name := "web", ns := "shop" }
  persistentVolumeClaims := KeyedList.empty.add { name := "data", ns := "shop", volumeName := "disk" }
  roleBindings := (KeyedList.empty.add
    { name := "read", ns := "shop", subjects := [⟨"ServiceAccount", "default", "shop"⟩]
      roleRef := ⟨"Role", "reader"⟩ }).add
    { name := "view", ns := "shop", subjects := [⟨"ServiceAccount", "default", "shop"⟩]
      roleRef := ⟨"ClusterRole", "viewer"⟩ }
  namespaces := KeyedList.empty.add { name := "shop" }
  objects := KeyedList.empty.add
    { name := "public", ns := "shop", group := gatewayGroup, kind := "HTTPRoute" }
  served := [⟨gatewayGroup, "HTTPRoute", true⟩]

/-- The namespace after one change, to an object of the kind named. -/
def changedNamespaces : List (WatchKind × Cluster) :=
  [(⟨"", "ReplicationController"⟩, { shop with
      replicationControllers := KeyedList.empty.add
        { name := "web", ns := "shop", template := some {} } }),
    (⟨"discovery.k8s.io", "EndpointSlice"⟩, { shop with
      endpointSlices := KeyedList.empty.add
        { name := "web-1", ns := "shop", labels := [⟨serviceNameLabel, "web"⟩].toAList
          endpoints := [some ⟨"Pod", "web-0"⟩] } }),
    (⟨"", "PersistentVolume"⟩, { shop with
      persistentVolumes := KeyedList.empty.add { name := "disk" } }),
    (⟨rbacGroup, "ClusterRoleBinding"⟩, { shop with
      clusterRoleBindings := KeyedList.empty.add
        { name := "all", subjects := [⟨"ServiceAccount", "default", "shop"⟩]
          roleRef := ⟨"ClusterRole", "viewer"⟩ } }),
    (⟨rbacGroup, "Role"⟩, { shop with
      roles := KeyedList.empty.add { name := "reader", ns := "shop", rules := 1 } }),
    (⟨rbacGroup, "ClusterRole"⟩, { shop with
      clusterRoles := KeyedList.empty.add { name := "viewer", rules := 1 } }),
    (⟨"", "ResourceQuota"⟩, { shop with
      resourceQuotas := KeyedList.empty.add { name := "limits", ns := "shop" } }),
    (⟨"", "LimitRange"⟩, { shop with
      limitRanges := KeyedList.empty.add { name := "defaults", ns := "shop" } }),
    (⟨"apiextensions.k8s.io", "CustomResourceDefinition"⟩, { shop with
      served := [⟨gatewayGroup, "HTTPRoute", true⟩, ⟨gatewayGroup, "Gateway", true⟩] })]

def changedClusters : List (WatchKind × Lens × Cluster) :=
  [(⟨"apps", "Deployment"⟩, .namespaces, { shop with
      deployments := KeyedList.empty.add { name := "web", ns := "shop" } }),
    (⟨"apps", "StatefulSet"⟩, .namespaces, { shop with
      statefulSets := KeyedList.empty.add { name := "db", ns := "shop" } }),
    (⟨"apps", "DaemonSet"⟩, .namespaces, { shop with
      daemonSets := KeyedList.empty.add { name := "agent", ns := "shop" } }),
    (⟨"batch", "CronJob"⟩, .namespaces, { shop with
      cronJobs := KeyedList.empty.add { name := "backup", ns := "shop" } }),
    (⟨"storage.k8s.io", "StorageClass"⟩, .storage, { shop with
      storageClasses := KeyedList.empty.add { name := "fast" } }),
    (⟨rbacGroup, "Role"⟩, .access, { shop with
      roles := KeyedList.empty.add { name := "reader", ns := "shop", rules := 1 } }),
    (⟨rbacGroup, "ClusterRole"⟩, .access, { shop with
      clusterRoles := KeyedList.empty.add { name := "viewer", rules := 1 } })]

theorem sameObjects_changedNamespaces {change : WatchKind × Cluster}
    (hchange : change ∈ changedNamespaces) (k : WatchKind) (hk : k ≠ change.1) :
    SameObjects "shop" shop change.2 k := by
  obtain ⟨group, kind⟩ := k
  simp only [changedNamespaces, List.mem_cons, List.not_mem_nil, or_false] at hchange
  unfold SameObjects
  split <;> rcases hchange with rfl | rfl | rfl | rfl | rfl | rfl | rfl | rfl | rfl <;>
    first | rfl | simp_all [rbacGroup]

theorem sameObjects_changedClusters {change : WatchKind × Lens × Cluster}
    (hchange : change ∈ changedClusters) (k : WatchKind) (hk : k ≠ change.1) :
    SameObjects "" shop change.2.2 k := by
  obtain ⟨group, kind⟩ := k
  simp only [changedClusters, List.mem_cons, List.not_mem_nil, or_false] at hchange
  unfold SameObjects
  split <;> rcases hchange with rfl | rfl | rfl | rfl | rfl | rfl | rfl <;>
    first | rfl | simp_all [rbacGroup]

theorem readable_changed :
    (∀ change ∈ changedNamespaces, change.2.Readable) ∧
      ∀ change ∈ changedClusters, change.2.2.Readable := by
  constructor
  · intro change hchange request
    simp only [changedNamespaces, List.mem_cons, List.not_mem_nil, or_false] at hchange
    rcases hchange with rfl | rfl | rfl | rfl | rfl | rfl | rfl | rfl | rfl <;> rfl
  · intro change hchange request
    simp only [changedClusters, List.mem_cons, List.not_mem_nil, or_false] at hchange
    rcases hchange with rfl | rfl | rfl | rfl | rfl | rfl | rfl <;> rfl

/-! ### The two tables -/

theorem namespaceLaw_iff (extra : List WatchKind) :
    NamespaceLaw (namespaceWatchKinds ++ extra) ↔ unwatchedNamespaceKinds ⊆ extra := by
  have hunwatched : ∀ k ∈ unwatchedNamespaceKinds, k ∉ namespaceWatchKinds := by decide
  have hdiffer : ∀ change ∈ changedNamespaces, shown (namespaceLevel shop default "shop") ≠
    shown (namespaceLevel change.2 default "shop") := by decide
  constructor
  · intro h k hk
    obtain ⟨change, hchange, rfl⟩ : ∃ change ∈ changedNamespaces, change.1 = k :=
      List.mem_map.mp (show k ∈ changedNamespaces.map Prod.fst from hk)
    have hneeded := h.needs shop change.2 (fun _ => rfl) (readable_changed.1 change hchange)
      (sameObjects_changedNamespaces hchange) (hdiffer change hchange)
    exact (List.mem_append.mp hneeded).resolve_left (hunwatched _ hk)
  · intro hsub order ns c c' hc hc' hsame
    refine namespaceLevel_congr (sameNamespace_of_sameObjects hc hc' fun k hk => hsame k ?_)
    exact List.mem_append.mpr ((List.mem_append.mp hk).imp_right fun h => hsub h)

theorem clusterLaw_iff (extra : List WatchKind) :
    ClusterLaw (clusterWatchKinds ++ extra) ↔ unwatchedClusterKinds ⊆ extra := by
  have hunwatched : ∀ k ∈ unwatchedClusterKinds, k ∉ clusterWatchKinds := by decide
  have hdiffer : ∀ change ∈ changedClusters, shown (clusterLevel shop change.2.1) ≠
    shown (clusterLevel change.2.2 change.2.1) := by decide
  constructor
  · intro h k hk
    obtain ⟨change, hchange, rfl⟩ : ∃ change ∈ changedClusters, change.1 = k :=
      List.mem_map.mp (show k ∈ changedClusters.map Prod.fst from hk)
    have hneeded := h.needs change.2.1 shop change.2.2 (fun _ => rfl)
      (readable_changed.2 change hchange) (sameObjects_changedClusters hchange)
      (hdiffer change hchange)
    exact (List.mem_append.mp hneeded).resolve_left (hunwatched _ hk)
  · intro hsub lens c c' hc hc' hsame
    refine clusterLevel_congr (sameLenses_of_sameObjects hc hc' fun k hk => hsame k ?_) lens
    exact List.mem_append.mpr ((List.mem_append.mp hk).imp_right fun h => hsub h)

/-- What must be the same besides the watched kinds for the canvas to be the same:
exactly the kinds that are drawn and not watched. -/
theorem watch_coverage_iff (extra extra' : List WatchKind) :
    NamespaceLaw (namespaceWatchKinds ++ extra) ∧ ClusterLaw (clusterWatchKinds ++ extra') ↔
      unwatchedNamespaceKinds ⊆ extra ∧ unwatchedClusterKinds ⊆ extra' :=
  and_congr (namespaceLaw_iff extra) (clusterLaw_iff extra')

/-- A quota created in a namespace shows, and no watched kind has changed. -/
theorem quota_unwatched :
    ∃ c c' : Cluster, c.Readable ∧ c'.Readable ∧
      (∀ k ∈ namespaceWatchKinds, SameObjects "shop" c c' k) ∧
      namespaceLevel c default "shop" ≠ namespaceLevel c' default "shop" := by
  refine ⟨shop, { shop with
    resourceQuotas := KeyedList.empty.add { name := "limits", ns := "shop" } },
    fun _ => rfl, fun _ => rfl, ?_, fun heq => absurd (congrArg shown heq) (by decide)⟩
  simp only [namespaceWatchKinds, List.forall_mem_cons]
  exact ⟨rfl, rfl, rfl, rfl, rfl, rfl, rfl, rfl, rfl, rfl, rfl, rfl, rfl, rfl, rfl, rfl, rfl, rfl,
    rfl, rfl, rfl, rfl, rfl, by simp⟩

end Wiremap.Topology
