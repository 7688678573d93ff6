import Wiremap.Topology.TopologyService

/-! What a level depends on: the lists it reads, and for the Gateway API the
kinds that are served. -/
namespace Wiremap.Topology

open Wiremap.Kube Wiremap.Library

def sameRoutes (c c' : Cluster) (ns kind : String) : Prop :=
  c.serves gatewayGroup kind = c'.serves gatewayGroup kind ∧
    listUnstructured c kind ns = listUnstructured c' kind ns

/-- The reads of the namespace level that answer alike in two states. -/
structure SameNamespace (ns : String) (c c' : Cluster) : Prop where
  pods : c.list "Pod" ns c.pods = c'.list "Pod" ns c'.pods
  deployments : c.list "Deployment" ns c.deployments = c'.list "Deployment" ns c'.deployments
  statefulSets : c.list "StatefulSet" ns c.statefulSets = c'.list "StatefulSet" ns c'.statefulSets
  daemonSets : c.list "DaemonSet" ns c.daemonSets = c'.list "DaemonSet" ns c'.daemonSets
  replicaSets : c.list "ReplicaSet" ns c.replicaSets = c'.list "ReplicaSet" ns c'.replicaSets
  jobs : c.list "Job" ns c.jobs = c'.list "Job" ns c'.jobs
  cronJobs : c.list "CronJob" ns c.cronJobs = c'.list "CronJob" ns c'.cronJobs
  controllers : c.list "ReplicationController" ns c.replicationControllers =
    c'.list "ReplicationController" ns c'.replicationControllers
  services : c.list "Service" ns c.services = c'.list "Service" ns c'.services
  endpointSlices : c.list "EndpointSlice" ns c.endpointSlices =
    c'.list "EndpointSlice" ns c'.endpointSlices
  ingresses : c.list "Ingress" ns c.ingresses = c'.list "Ingress" ns c'.ingresses
  claims : c.list "PersistentVolumeClaim" ns c.persistentVolumeClaims =
    c'.list "PersistentVolumeClaim" ns c'.persistentVolumeClaims
  volumes : c.listAll "PersistentVolume" c.persistentVolumes =
    c'.listAll "PersistentVolume" c'.persistentVolumes
  autoscalers : c.list "HorizontalPodAutoscaler" ns c.autoscalers =
    c'.list "HorizontalPodAutoscaler" ns c'.autoscalers
  disruptionBudgets : c.list "PodDisruptionBudget" ns c.disruptionBudgets =
    c'.list "PodDisruptionBudget" ns c'.disruptionBudgets
  networkPolicies : c.list "NetworkPolicy" ns c.networkPolicies =
    c'.list "NetworkPolicy" ns c'.networkPolicies
  resourceQuotas : c.list "ResourceQuota" ns c.resourceQuotas =
    c'.list "ResourceQuota" ns c'.resourceQuotas
  limitRanges : c.list "LimitRange" ns c.limitRanges = c'.list "LimitRange" ns c'.limitRanges
  roleBindings : c.list "RoleBinding" ns c.roleBindings = c'.list "RoleBinding" ns c'.roleBindings
  clusterRoleBindings : c.listAll "ClusterRoleBinding" c.clusterRoleBindings =
    c'.listAll "ClusterRoleBinding" c'.clusterRoleBindings
  roles : c.list "Role" ns c.roles = c'.list "Role" ns c'.roles
  clusterRoles : c.listAll "ClusterRole" c.clusterRoles = c'.listAll "ClusterRole" c'.clusterRoles
  gateways : sameRoutes c c' ns "Gateway"
  routes : ∀ kind ∈ gatewayRouteKinds, sameRoutes c c' ns kind

variable {c c' : Cluster} {order : RangeOrder} {ns : String}

theorem listPodOwners_congr (h : SameNamespace ns c c') :
    listPodOwners c ns = listPodOwners c' ns := by
  simp only [listPodOwners, listWorkloads, h.pods, h.deployments, h.statefulSets, h.daemonSets,
    h.replicaSets, h.jobs, h.cronJobs, h.controllers]

theorem addServices_congr (h : SameNamespace ns c c') (owners : NamespaceOwners) :
    addServices c ns owners = addServices c' ns owners := by
  have hendpoints : endpointPods c ns = endpointPods c' ns := by
    simp only [endpointPods, h.endpointSlices]
  have hservice : addService c ns owners = addService c' ns owners := by
    funext g svc
    simp only [addService, hendpoints]
  funext g
  simp only [addServices, h.services, hservice]

theorem addRoutes_congr {kinds : List String} (h : ∀ kind ∈ kinds, sameRoutes c c' ns kind)
    (g : Graph) : addRoutes c ns g kinds = addRoutes c' ns g kinds := by
  induction kinds generalizing g with
  | nil => rfl
  | cons kind rest ih =>
      obtain ⟨hserves, hlist⟩ := h kind (by simp)
      have hrest := ih fun k hk => h k (by simp [hk])
      simp only [addRoutes, hserves, hlist, hrest]

theorem addGatewayRoutes_congr (h : SameNamespace ns c c') :
    addGatewayRoutes c ns = addGatewayRoutes c' ns := by
  funext g
  simp only [addGatewayRoutes, h.gateways.1, h.gateways.2, addRoutes_congr h.routes]

theorem addConfigRefs_congr (h : SameNamespace ns c c') (owners : NamespaceOwners) :
    addConfigRefs c order ns owners = addConfigRefs c' order ns owners := by
  funext g
  simp only [addConfigRefs, addVolumes, h.claims, h.volumes]

theorem addServiceAccounts_congr (h : SameNamespace ns c c') (owners : NamespaceOwners) :
    addServiceAccounts c order ns owners = addServiceAccounts c' order ns owners := by
  funext g
  simp only [addServiceAccounts, bindingsFor, roleRules, h.roleBindings, h.clusterRoleBindings,
    h.roles, h.clusterRoles]

theorem namespaceSteps_congr (h : SameNamespace ns c c') (owners : NamespaceOwners) :
    namespaceSteps c order ns owners = namespaceSteps c' order ns owners := by
  have hingresses : addIngresses c ns = addIngresses c' ns := by
    funext g
    simp only [addIngresses, h.ingresses]
  have hautoscalers : addAutoscalers c ns = addAutoscalers c' ns := by
    funext g
    simp only [addAutoscalers, h.autoscalers]
  have hbudgets : addDisruptionBudgets c ns owners = addDisruptionBudgets c' ns owners := by
    funext g
    simp only [addDisruptionBudgets, h.disruptionBudgets]
  have hpolicies : addNetworkPolicies c ns owners = addNetworkPolicies c' ns owners := by
    funext g
    simp only [addNetworkPolicies, h.networkPolicies]
  have hquotas : addQuotas c ns = addQuotas c' ns := by
    funext g
    simp only [addQuotas, h.resourceQuotas, h.limitRanges]
  simp only [namespaceSteps, addServices_congr h, hingresses, addGatewayRoutes_congr h,
    addConfigRefs_congr h, hautoscalers, hbudgets, hpolicies, addServiceAccounts_congr h, hquotas]

/-- The namespace level answers alike where its reads do. -/
theorem namespaceLevel_congr (h : SameNamespace ns c c') :
    namespaceLevel c order ns = namespaceLevel c' order ns := by
  simp only [namespaceLevel, listPodOwners_congr h, namespaceSteps_congr h]

structure SameLenses (c c' : Cluster) : Prop where
  pods : c.list "Pod" "" c.pods = c'.list "Pod" "" c'.pods
  namespaces : c.listAll "Namespace" c.namespaces = c'.listAll "Namespace" c'.namespaces
  nodes : c.listAll "Node" c.nodes = c'.listAll "Node" c'.nodes
  deployments : c.list "Deployment" "" c.deployments = c'.list "Deployment" "" c'.deployments
  statefulSets : c.list "StatefulSet" "" c.statefulSets = c'.list "StatefulSet" "" c'.statefulSets
  daemonSets : c.list "DaemonSet" "" c.daemonSets = c'.list "DaemonSet" "" c'.daemonSets
  cronJobs : c.list "CronJob" "" c.cronJobs = c'.list "CronJob" "" c'.cronJobs
  storageClasses : c.listAll "StorageClass" c.storageClasses =
    c'.listAll "StorageClass" c'.storageClasses
  volumes : c.listAll "PersistentVolume" c.persistentVolumes =
    c'.listAll "PersistentVolume" c'.persistentVolumes
  claims : c.list "PersistentVolumeClaim" "" c.persistentVolumeClaims =
    c'.list "PersistentVolumeClaim" "" c'.persistentVolumeClaims
  roleBindings : c.list "RoleBinding" "" c.roleBindings = c'.list "RoleBinding" "" c'.roleBindings
  clusterRoleBindings : c.listAll "ClusterRoleBinding" c.clusterRoleBindings =
    c'.listAll "ClusterRoleBinding" c'.clusterRoleBindings
  roles : c.list "Role" "" c.roles = c'.list "Role" "" c'.roles
  clusterRoles : c.listAll "ClusterRole" c.clusterRoles = c'.listAll "ClusterRole" c'.clusterRoles

theorem clusterLevel_congr (h : SameLenses c c') (lens : Lens) :
    clusterLevel c lens = clusterLevel c' lens := by
  cases lens with
  | namespaces =>
      simp only [clusterLevel, namespacesGraph, countWorkloads, h.pods, h.namespaces,
        h.deployments, h.statefulSets, h.daemonSets, h.cronJobs]
  | nodes => simp only [clusterLevel, nodesGraph, h.pods, h.nodes]
  | storage => simp only [clusterLevel, storageGraph, h.storageClasses, h.volumes, h.claims]
  | access =>
      simp only [clusterLevel, accessGraph, roleRules, h.roleBindings, h.clusterRoleBindings,
        h.roles, h.clusterRoles]

/-! ### Fully readable clusters -/

theorem listUnstructured_readable (hc : c.Readable) {kind : String}
    (hserved : c.serves gatewayGroup kind = true) :
    listUnstructured c kind ns = .ok (customObjects c gatewayGroup kind ns) := by
  unfold Cluster.serves at hserved
  unfold listUnstructured
  cases hmapping : c.resourceFor gatewayGroup kind with
  | error err =>
      rw [hmapping] at hserved
      cases hserved
  | ok mapping => simp only [Cluster.answer, hc _]

theorem addRoutes_readable (hc : c.Readable) (kinds : List String) (g : Graph) :
    ∃ g', addRoutes c ns g kinds = .ok g' := by
  induction kinds generalizing g with
  | nil => exact ⟨g, rfl⟩
  | cons kind rest ih =>
      unfold addRoutes
      split
      · rename_i hserved
        rw [listUnstructured_readable hc hserved]
        exact ih _
      · exact ih g

theorem addGatewayRoutes_readable (hc : c.Readable) (g : Graph) :
    ∃ g', addGatewayRoutes c ns g = .ok g' := by
  unfold addGatewayRoutes
  split
  · rename_i hserved
    rw [listUnstructured_readable hc hserved]
    exact addRoutes_readable hc _ _
  · exact ⟨g, rfl⟩

theorem listPodOwners_readable (hc : c.Readable) (ns : String) :
    ∃ owners, listPodOwners c ns = .ok owners := by
  simp only [listPodOwners, listWorkloads, Cluster.list_readable hc]
  exact ⟨_, rfl⟩

theorem addServiceAccounts_readable (hc : c.Readable) (owners : NamespaceOwners) (g : Graph) :
    ∃ g', addServiceAccounts c order ns owners g = .ok g' := by
  unfold addServiceAccounts
  simp only [bindingsFor, Cluster.list_readable hc, Cluster.listAll_readable hc]
  split
  · exact ⟨_, rfl⟩
  · exact ⟨_, rfl⟩

theorem namespaceSteps_readable (hc : c.Readable) (order : RangeOrder) {owners : NamespaceOwners}
    {step : Graph → Except AppError Graph} (hstep : step ∈ namespaceSteps c order ns owners)
    (g : Graph) : ∃ g', step g = .ok g' := by
  simp only [namespaceSteps, List.mem_cons, List.not_mem_nil, or_false] at hstep
  rcases hstep with rfl | rfl | rfl | rfl | rfl | rfl | rfl | rfl | rfl
  · exact ⟨_, by rw [addServices, Cluster.list_readable hc]; rfl⟩
  · exact ⟨_, by rw [addIngresses, Cluster.list_readable hc]; rfl⟩
  · exact addGatewayRoutes_readable hc g
  · exact ⟨_, by rw [addConfigRefs, Cluster.list_readable hc]; rfl⟩
  · exact ⟨_, by rw [addAutoscalers, Cluster.list_readable hc]; rfl⟩
  · exact ⟨_, by rw [addDisruptionBudgets, Cluster.list_readable hc]; rfl⟩
  · exact ⟨_, by rw [addNetworkPolicies, Cluster.list_readable hc]; rfl⟩
  · exact addServiceAccounts_readable hc owners g
  · exact ⟨_, by rw [addQuotas, Cluster.list_readable hc, Cluster.list_readable hc]; rfl⟩

theorem namespaceLevel_readable (hc : c.Readable) (order : RangeOrder) (ns : String) :
    ∃ g, namespaceLevel c order ns = .ok g := by
  obtain ⟨owners, howners⟩ := listPodOwners_readable hc ns
  obtain ⟨g, hg⟩ := Fallible.foldlM_total
    (fun _ hstep g => namespaceSteps_readable hc order hstep g)
    (owners.owners.foldl (fun g o => g.addNode o.node) (Graph.new .namespace))
  exact ⟨g, by rw [namespaceLevel, howners]; exact hg⟩

theorem nodeLevel_readable (hc : c.Readable) (nodeName : String) :
    ∃ g, nodeLevel c nodeName = .ok g :=
  ⟨_, by rw [nodeLevel, Cluster.answer, hc _]; rfl⟩

theorem clusterLevel_readable (hc : c.Readable) (lens : Lens) :
    ∃ g, clusterLevel c lens = .ok g := by
  cases lens with
  | namespaces =>
      simp only [clusterLevel, namespacesGraph, countWorkloads, Cluster.list_readable hc,
        Cluster.listAll_readable hc]
      exact ⟨_, rfl⟩
  | nodes =>
      simp only [clusterLevel, nodesGraph, Cluster.list_readable hc, Cluster.listAll_readable hc]
      exact ⟨_, rfl⟩
  | storage =>
      simp only [clusterLevel, storageGraph, Cluster.list_readable hc, Cluster.listAll_readable hc]
      exact ⟨_, rfl⟩
  | access =>
      simp only [clusterLevel, accessGraph, Cluster.list_readable hc, Cluster.listAll_readable hc]
      exact ⟨_, rfl⟩

end Wiremap.Topology
