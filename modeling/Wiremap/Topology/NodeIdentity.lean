import Wiremap.Topology.LensNodes
import Wiremap.Topology.Ownership
import Wiremap.Topology.WellFormed

/-! The IDs of a graph as names of API objects: which objects a level draws, and
where two of them are given one ID. -/
namespace Wiremap.Topology

open Wiremap.Kube Wiremap.Library
open Wiremap.Topology.Graph (Adds)

variable {c : Cluster} {order : RangeOrder} {ns : String} {g : Graph} {level : Level}

/-! ### Objects and their IDs -/

/-- The group is that of the kind, as the canvas knows it. -/
def ObjectRef.Known (r : ObjectRef) : Prop := r.group = (kindGroups.lookup r.kind).getD ""

/-- Kubernetes names kinds and namespaces without a slash. -/
structure ObjectRef.WellNamed (r : ObjectRef) : Prop where
  kind : Text.Free '/' r.kind
  ns : Text.Free '/' r.ns

instance (r : ObjectRef) : Decidable r.WellNamed :=
  decidable_of_iff (Text.Free '/' r.kind ∧ Text.Free '/' r.ns)
    ⟨fun h => ⟨h.1, h.2⟩, fun h => ⟨h.kind, h.ns⟩⟩

theorem ObjectRef.eq_of_id {r r' : ObjectRef} (hr : r.WellNamed) (hr' : r'.WellNamed)
    (hid : r.id = r'.id) (hgroup : r.kind = r'.kind → r.ns = r'.ns → r.name = r'.name →
      r.group = r'.group) : r = r' := by
  obtain ⟨hkind, hns, hname⟩ := kubeNodeID_parts hr.kind hr'.kind hr.ns hr'.ns hid
  obtain ⟨group, kind, ns, name⟩ := r
  simp only at hkind hns hname hgroup
  rw [hgroup hkind hns hname, hkind, hns, hname]

/-- Objects of known groups are told apart by their IDs; so all are, unless one
of another group meets a namesake. -/
theorem distinct_iff {known custom : List ObjectRef} (hknown : ∀ r ∈ known, r.Known)
    (hnamed : ∀ r ∈ known ++ custom, r.WellNamed) :
    (∀ r ∈ known ++ custom, ∀ r' ∈ known ++ custom, r.id = r'.id → r = r') ↔
      ∀ r ∈ custom, ∀ r' ∈ known ++ custom,
        r.kind = r'.kind → r.ns = r'.ns → r.name = r'.name → r.group = r'.group := by
  constructor
  · intro h r hr r' hr' hkind hns hname
    have hid : r.id = r'.id := by rw [ObjectRef.id, hkind, hns, hname, ObjectRef.id]
    rw [h r (List.mem_append_right _ hr) r' hr' hid]
  · intro h r hr r' hr' hid
    refine ObjectRef.eq_of_id (hnamed r hr) (hnamed r' hr') hid fun hkind hns hname => ?_
    rcases List.mem_append.mp hr with hbuiltin | hcustom
    · rcases List.mem_append.mp hr' with hbuiltin' | hcustom'
      · rw [hknown r hbuiltin, hknown r' hbuiltin', hkind]
      · exact (h r' hcustom' r hr hkind.symm hns.symm hname.symm).symm
    · exact h r hcustom r' hr' hkind hns hname

/-- The IDs of the graph are those of the objects; containers are none. -/
structure Graph.Shows (g : Graph) (refs : List ObjectRef) : Prop where
  present : ∀ r ∈ refs, r.id ∈ g.ids
  complete : ∀ n ∈ g.nodes.items, n.kind = "Container" ∨ ∃ r ∈ refs, r.id = n.id

/-- The ID is a container's, or stands for one of the objects and no other. -/
def Graph.Names (g : Graph) (refs : List ObjectRef) (id : String) : Prop :=
  (∃ n ∈ g.nodes.items, n.id = id ∧ n.kind = "Container") ∨ ∃! r, r ∈ refs ∧ r.id = id

/-- Each ID of the graph stands for one object and each object has its own, so
whatever refers to an object by its ID refers to no other. -/
structure Graph.Identifies (g : Graph) (refs : List ObjectRef) : Prop extends g.Shows refs where
  distinct : ∀ r ∈ refs, ∀ r' ∈ refs, r.id = r'.id → r = r'
  ends : ∀ e ∈ g.edges.items, g.Names refs e.source ∧ g.Names refs e.target

theorem existsUnique_of_id {refs : List ObjectRef}
    (hdistinct : ∀ r ∈ refs, ∀ r' ∈ refs, r.id = r'.id → r = r') {r : ObjectRef} (hr : r ∈ refs) :
    ∃! r', r' ∈ refs ∧ r'.id = r.id :=
  ⟨r, ⟨hr, rfl⟩, fun r' hr' => hdistinct r' hr'.1 r hr hr'.2⟩

theorem Graph.Shows.identifies {refs : List ObjectRef} (h : g.Shows refs) (hclosed : g.Closed)
    (hdistinct : ∀ r ∈ refs, ∀ r' ∈ refs, r.id = r'.id → r = r') : g.Identifies refs := by
  have hnames : ∀ id ∈ g.ids, g.Names refs id := by
    intro id hid
    obtain ⟨n, hn, rfl⟩ := KeyedList.mem_keys.mp hid
    rcases h.complete n hn with hcontainer | ⟨r, hr, hid⟩
    · exact Or.inl ⟨n, hn, rfl, hcontainer⟩
    · exact Or.inr (hid ▸ existsUnique_of_id hdistinct hr)
  exact ⟨h, hdistinct, fun e he =>
    ⟨hnames _ (hclosed.source e he), hnames _ (hclosed.target e he)⟩⟩

theorem Graph.Adds.shows {nodes : List GraphNode} {refs : List ObjectRef}
    (h : Adds nodes (.new level) g)
    (hrefs : ∀ r ∈ refs, ∃ n ∈ nodes, n.id = r.id)
    (hnodes : ∀ n ∈ nodes, n.kind = "Container" ∨ ∃ r ∈ refs, r.id = n.id) : g.Shows refs where
  present r hr := h.mem_ids.mpr (Or.inr (hrefs r hr))
  complete n hn := by
    obtain ⟨node, hnode, rfl⟩ := h.exists_of_mem hn
    rw [GraphNode.grouped_kind, GraphNode.grouped_id]
    exact hnodes node hnode

/-- A node named after its kind, of a group the canvas knows by it. -/
structure GraphNode.Plain (node : GraphNode) : Prop where
  apiGroup : node.apiGroup = ""
  id : node.id = kubeNodeID node.kind node.ns node.name

namespace GraphNode.Plain

variable {node : GraphNode}

theorem ref_id (h : node.Plain) : node.ref.id = node.id := h.id.symm

theorem known (h : node.Plain) : node.ref.Known := by
  simp only [ref, grouped, h.apiGroup, if_true]
  rfl

end GraphNode.Plain

theorem Graph.Adds.shows_plain {nodes : List GraphNode} (h : Adds nodes (.new level) g)
    (hplain : ∀ n ∈ nodes, n.Plain) : g.Shows (nodes.map GraphNode.ref) := by
  refine h.shows (fun r hr => ?_) fun n hn => ?_
  · obtain ⟨n, hn, rfl⟩ := List.mem_map.mp hr
    exact ⟨n, hn, (hplain n hn).ref_id.symm⟩
  · exact Or.inr ⟨n.ref, List.mem_map_of_mem hn, (hplain n hn).ref_id⟩

/-! ### The cluster and node levels -/

def lensRefs (c : Cluster) : Lens → List ObjectRef
  | .namespaces =>
      (answered (c.listAll "Namespace" c.namespaces)).map fun n => ⟨"", "Namespace", "", n.name⟩
  | .nodes => (answered (c.listAll "Node" c.nodes)).map fun n => ⟨"", "Node", "", n.name⟩
  | .storage => (storageNodes c).map GraphNode.ref
  | .access => (accessNodes c).map GraphNode.ref

theorem StorageNode.plain {n : GraphNode} (h : StorageNode n) : n.Plain := by
  cases h <;> exact ⟨rfl, rfl⟩

theorem plain_storageNodes : ∀ n ∈ storageNodes c, n.Plain := by
  refine List.forall_mem_append.mpr ⟨List.forall_mem_append.mpr ⟨?_, ?_⟩, ?_⟩
  · exact List.forall_mem_map.mpr fun _ _ => ⟨rfl, rfl⟩
  · exact List.forall_mem_flatMap.mpr fun _ _ _ hn => (storageNode_bound hn).plain
  · refine List.forall_mem_flatMap.mpr fun _ _ => List.forall_mem_cons.mpr ⟨⟨rfl, rfl⟩, ?_⟩
    split
    · exact List.forall_mem_nil _
    · exact fun _ hn => (storageNode_classNodes hn).plain

theorem plain_accessBindingNodes {kind ns name : String} {rules : StringMap Nat}
    {subjects : List Subject} {roleRef : RoleRef} :
    ∀ n ∈ accessBindingNodes kind rules ns name subjects roleRef, n.Plain := by
  intro n hn
  rcases accessBindingNodes_cases hn with rfl | ⟨sub, rfl⟩ | rfl <;> exact ⟨rfl, rfl⟩

theorem plain_accessNodes : ∀ n ∈ accessNodes c, n.Plain :=
  List.forall_mem_append.mpr
    ⟨List.forall_mem_flatMap.mpr fun _ _ => plain_accessBindingNodes,
      List.forall_mem_flatMap.mpr fun _ _ => plain_accessBindingNodes⟩

theorem clusterLevel_shows {lens : Lens} (h : clusterLevel c lens = .ok g) :
    g.Shows (lensRefs c lens) := by
  unfold clusterLevel at h
  cases lens with
  | storage => exact (adds_storageGraph h).shows_plain plain_storageNodes
  | access => exact (adds_accessGraph h).shows_plain plain_accessNodes
  | nodes =>
      simp only [Fallible.bind_eq_ok] at h
      obtain ⟨pods, -, hgraph⟩ := h
      obtain ⟨nodes, podCount, hlist, hadds⟩ := adds_nodesGraph hgraph
      have hshows := hadds.shows_plain fun n hn => by
        obtain ⟨node, -, rfl⟩ := List.mem_map.mp hn
        exact ⟨rfl, rfl⟩
      rw [List.map_map] at hshows
      rw [lensRefs, hlist]
      exact hshows
  | namespaces =>
      simp only [Fallible.bind_eq_ok] at h
      obtain ⟨pods, -, hgraph⟩ := h
      obtain ⟨namespaces, workloads, podCount, podHealth, hlist, hadds⟩ := adds_namespacesGraph hgraph
      have hshows := hadds.shows_plain fun n hn => by
        obtain ⟨ns, -, rfl⟩ := List.mem_map.mp hn
        exact ⟨rfl, rfl⟩
      rw [List.map_map] at hshows
      rw [lensRefs, hlist]
      exact hshows

theorem lensRefs_known {lens : Lens} : ∀ r ∈ lensRefs c lens, r.Known := by
  intro r hr
  cases lens with
  | storage =>
      obtain ⟨n, hn, rfl⟩ := List.mem_map.mp hr
      exact (plain_storageNodes n hn).known
  | access =>
      obtain ⟨n, hn, rfl⟩ := List.mem_map.mp hr
      exact (plain_accessNodes n hn).known
  | nodes =>
      obtain ⟨n, -, rfl⟩ := List.mem_map.mp hr
      rfl
  | namespaces =>
      obtain ⟨n, -, rfl⟩ := List.mem_map.mp hr
      rfl

theorem nodeLevel_shows {nodeName : String} (h : nodeLevel c nodeName = .ok g) :
    g.Shows ((podsOn c nodeName).map podObject) := by
  have hshows := (adds_nodeLevel h).shows_plain fun n hn => by
    obtain ⟨pod, -, rfl⟩ := List.mem_map.mp hn
    exact ⟨rfl, rfl⟩
  rw [List.map_map] at hshows
  exact hshows

/-! ### The object level -/

def openedRefs (c : Cluster) (ns group kind name : String) : List ObjectRef :=
  let pods := answered (c.list "Pod" ns c.pods)
  match openedAs group kind with
  | .containers => [podRef ns name]
  | .backends =>
      ⟨"", "Service", ns, name⟩ ::
        match c.get "Service" ns name c.services with
        | .ok svc => (pods.filter (serviceSelects c ns svc)).map podObject
        | .error _ => []
  | .routes =>
      ⟨"networking.k8s.io", "Ingress", ns, name⟩ ::
        match c.get "Ingress" ns name c.ingresses with
        | .ok ing => (ingressBackends ing).map fun backend => ⟨"", "Service", ns, backend⟩
        | .error _ => []
  | .consumers =>
      ⟨"", kind, ns, name⟩ :: (pods.filter (consumes kind name)).map podObject ++
        if kind = "PersistentVolumeClaim" then (claimVolumeNodes c ns name).map GraphNode.ref else []
  | .owned =>
      match treeOf c ns group kind name with
      | .ok t => t.jobs.map (fun j => jobRef ns j.name) ++ (pods.filter t.owns).map podObject
      | .error _ => []

/-- An owner that is opened may be of any group. -/
def openedOwner (ns group kind name : String) : List ObjectRef :=
  match openedAs group kind with
  | .owned => [⟨group, kind, ns, name⟩]
  | _ => []

theorem shows_containers {name : String} (h : addPodContainers c ns name (.new level) = .ok g) :
    g.Shows [podRef ns name] := by
  obtain ⟨pod, hget, hadds⟩ := adds_addPodContainers h
  have hroot : (podRoot pod).id = (podRef ns name).id := by
    have hns : pod.ns = ns := (Cluster.get_key hget).1
    have hname : pod.name = name := (Cluster.get_key hget).2
    rw [← hns, ← hname]
    rfl
  refine hadds.shows (fun r hr => ?_) fun n hn => ?_
  · rw [List.mem_singleton.mp hr]
    exact ⟨podRoot pod, List.mem_append_left _ List.mem_cons_self, hroot⟩
  · simp only [podNodes, List.cons_append, List.mem_cons, List.mem_append, List.mem_map] at hn
    rcases hn with rfl | ⟨_, _, rfl⟩ | ⟨_, _, rfl⟩
    · exact Or.inr ⟨podRef ns name, List.mem_singleton_self _, hroot.symm⟩
    · exact Or.inl rfl
    · exact Or.inl rfl

theorem serviceNode_ref {name : String} {svc : Service}
    (hget : c.get "Service" ns name c.services = .ok svc) :
    (serviceNode svc).ref = ⟨"", "Service", ns, name⟩ := by
  have hns : svc.ns = ns := (Cluster.get_key hget).1
  have hname : svc.name = name := (Cluster.get_key hget).2
  rw [← hns, ← hname]
  rfl

theorem shows_backends {name : String} (h : addServiceBackends c ns name (.new level) = .ok g) :
    ∃ svc pods, c.get "Service" ns name c.services = .ok svc ∧
      c.list "Pod" ns c.pods = .ok pods ∧ g.Shows
        (⟨"", "Service", ns, name⟩ :: (pods.filter (serviceSelects c ns svc)).map podObject) := by
  obtain ⟨svc, pods, hget, hpods, hadds⟩ := adds_addServiceBackends h
  refine ⟨svc, pods, hget, hpods, ?_⟩
  have hshows := hadds.shows_plain fun n hn => by
    rcases List.mem_cons.mp hn with rfl | hpod
    · exact ⟨rfl, rfl⟩
    · obtain ⟨pod, -, rfl⟩ := List.mem_map.mp hpod
      exact ⟨rfl, rfl⟩
  rw [List.map_cons, List.map_map, show (serviceRoot svc).ref = _ from serviceNode_ref hget]
    at hshows
  exact hshows

theorem backendNode_ref (backend : String) :
    (backendNode c ns backend).ref = ⟨"", "Service", ns, backend⟩ := by
  unfold backendNode
  split
  · exact serviceNode_ref ‹_›
  · rfl

theorem plain_backendNode (backend : String) : (backendNode c ns backend).Plain := by
  unfold backendNode
  split <;> exact ⟨rfl, rfl⟩

theorem shows_routes {name : String} (h : addIngressBackends c ns name (.new level) = .ok g) :
    ∃ ing, c.get "Ingress" ns name c.ingresses = .ok ing ∧ g.Shows
      (⟨"networking.k8s.io", "Ingress", ns, name⟩ ::
        (ingressBackends ing).map fun backend => ⟨"", "Service", ns, backend⟩) := by
  obtain ⟨ing, hget, hadds⟩ := adds_addIngressBackends h
  refine ⟨ing, hget, ?_⟩
  have hshows := hadds.shows_plain fun n hn => by
    rcases List.mem_cons.mp hn with rfl | hbackend
    · exact ⟨rfl, rfl⟩
    · obtain ⟨backend, -, rfl⟩ := List.mem_map.mp hbackend
      exact plain_backendNode backend
  rw [List.map_cons, List.map_map] at hshows
  have hrefs : GraphNode.ref ∘ backendNode c ns = fun backend => ⟨"", "Service", ns, backend⟩ :=
    funext backendNode_ref
  rw [hrefs] at hshows
  exact hshows

theorem consumer_known {group kind name : String} (h : openedAs group kind = .consumers) :
    (⟨"", kind, ns, name⟩ : ObjectRef).Known := by
  rcases consumer_kind h with rfl | rfl | rfl <;> rfl

theorem shows_consumers {group kind name : String} (hkind : openedAs group kind = .consumers)
    (h : addConsumers c ns kind name (.new level) = .ok g) :
    ∃ pods, c.list "Pod" ns c.pods = .ok pods ∧ g.Shows
      (⟨"", kind, ns, name⟩ :: (pods.filter (consumes kind name)).map podObject ++
        if kind = "PersistentVolumeClaim" then (claimVolumeNodes c ns name).map GraphNode.ref
        else []) := by
  obtain ⟨obj, pods, -, hpods, hadds⟩ := adds_addConsumers h
  refine ⟨pods, hpods, ?_⟩
  have hshows := hadds.shows_plain fun n hn => by
    rcases List.mem_append.mp hn with hfirst | hvolume
    · rcases List.mem_cons.mp hfirst with rfl | hpod
      · exact ⟨rfl, rfl⟩
      · obtain ⟨pod, -, rfl⟩ := List.mem_map.mp hpod
        exact ⟨rfl, rfl⟩
    · split at hvolume
      · exact (storageNode_claimVolumeNodes hvolume).plain
      · cases hvolume
  have hroot : (workloadRoot kind ns name (objectStatus obj)).ref = ⟨"", kind, ns, name⟩ := by
    rcases consumer_kind hkind with rfl | rfl | rfl <;> rfl
  rw [List.map_append, List.map_cons, List.map_map, hroot, apply_ite (List.map GraphNode.ref),
    List.map_nil] at hshows
  exact hshows

theorem shows_owned {group kind name : String}
    (h : addOwnerTree c ns group kind name (.new level) = .ok g) :
    ∃ t pods, treeOf c ns group kind name = .ok t ∧ c.list "Pod" ns c.pods = .ok pods ∧
      g.Shows (t.jobs.map (fun j => jobRef ns j.name) ++ (pods.filter t.owns).map podObject ++
        [⟨group, kind, ns, name⟩]) := by
  obtain ⟨t, pods, ht, hpods, hadds⟩ := adds_addOwnerTree h
  refine ⟨t, pods, ht, hpods, hadds.shows (fun r hr => ?_) fun n hn => Or.inr ?_⟩
  · simp only [List.mem_append, List.mem_map, List.mem_filter, List.mem_singleton] at hr
    rcases hr with (⟨j, hj, rfl⟩ | ⟨pod, ⟨hpod, howned⟩, rfl⟩) | rfl
    · exact ⟨jobNode ns j, mem_treeNodes.mpr (Or.inr (Or.inl ⟨j, hj, rfl⟩)), rfl⟩
    · exact ⟨scheduledPod pod, mem_treeNodes.mpr (Or.inr (Or.inr ⟨pod, hpod, howned, rfl⟩)), rfl⟩
    · exact ⟨t.root, mem_treeNodes.mpr (Or.inl rfl), root_id ht⟩
  · simp only [List.mem_append, List.mem_map, List.mem_filter, List.mem_singleton]
    rcases mem_treeNodes.mp hn with rfl | ⟨j, hj, rfl⟩ | ⟨pod, hpod, howned, rfl⟩
    · exact ⟨_, Or.inr rfl, (root_id ht).symm⟩
    · exact ⟨_, Or.inl (Or.inl ⟨j, hj, rfl⟩), rfl⟩
    · exact ⟨_, Or.inl (Or.inr ⟨pod, ⟨hpod, howned⟩, rfl⟩), rfl⟩

theorem objectLevel_shows {group kind name : String}
    (h : objectLevel c ns group kind name = .ok g) :
    g.Shows (openedRefs c ns group kind name ++ openedOwner ns group kind name) := by
  rw [objectLevel_eq] at h
  unfold openedRefs openedOwner
  cases hkind : openedAs group kind with
  | containers =>
      rw [hkind] at h
      exact shows_containers h
  | backends =>
      rw [hkind] at h
      obtain ⟨svc, pods, hget, hpods, hshows⟩ := shows_backends h
      simpa only [hget, hpods, answered_ok, List.append_nil] using hshows
  | routes =>
      rw [hkind] at h
      obtain ⟨ing, hget, hshows⟩ := shows_routes h
      simpa only [hget, List.append_nil] using hshows
  | consumers =>
      rw [hkind] at h
      obtain ⟨pods, hpods, hshows⟩ := shows_consumers hkind h
      simpa only [hpods, answered_ok, List.append_nil] using hshows
  | owned =>
      rw [hkind] at h
      obtain ⟨t, pods, ht, hpods, hshows⟩ := shows_owned h
      simpa only [ht, hpods, answered_ok] using hshows

theorem known_map_ref (pods : List Pod) : ∀ r ∈ pods.map podObject, r.Known := by
  intro r hr
  obtain ⟨pod, -, rfl⟩ := List.mem_map.mp hr
  rfl

theorem openedRefs_known {group kind name : String} :
    ∀ r ∈ openedRefs c ns group kind name, r.Known := by
  intro r hr
  unfold openedRefs at hr
  cases hkind : openedAs group kind with
  | containers =>
      rw [hkind] at hr
      rw [List.mem_singleton.mp hr]
      rfl
  | backends =>
      simp only [hkind] at hr
      rcases List.mem_cons.mp hr with rfl | hpod
      · rfl
      · split at hpod
        · exact known_map_ref _ r hpod
        · cases hpod
  | routes =>
      simp only [hkind] at hr
      rcases List.mem_cons.mp hr with rfl | hbackend
      · rfl
      · split at hbackend
        · obtain ⟨backend, -, rfl⟩ := List.mem_map.mp hbackend
          rfl
        · cases hbackend
  | consumers =>
      simp only [hkind] at hr
      rcases List.mem_append.mp hr with hfirst | hvolume
      · rcases List.mem_cons.mp hfirst with rfl | hpod
        · exact consumer_known hkind
        · exact known_map_ref _ r hpod
      · split at hvolume
        · obtain ⟨n, hn, rfl⟩ := List.mem_map.mp hvolume
          exact (storageNode_claimVolumeNodes hn).plain.known
        · cases hvolume
  | owned =>
      simp only [hkind] at hr
      split at hr
      · rcases List.mem_append.mp hr with hjob | hpod
        · obtain ⟨j, -, rfl⟩ := List.mem_map.mp hjob
          rfl
        · exact known_map_ref _ r hpod
      · cases hr

/-! ### The namespace level -/

/-- The object a Gateway parent reference names, of the group it states. -/
def parentRef (ns : String) (raw : Json) : Option ObjectRef :=
  (parentGateway ns raw).map fun gateway =>
    let group := raw.object.nestedString ["group"]
    ⟨if group = "" then gatewayGroup else group, "Gateway", gateway.ns, gateway.name⟩

def parentRefs (c : Cluster) (ns : String) : List ObjectRef :=
  (gatewayObjects c ns).2.flatMap fun route =>
    (route.2.object.nestedSlice ["spec", "parentRefs"]).filterMap (parentRef ns)

def gatewayPlainNodes (c : Cluster) (ns : String) : List GraphNode :=
  (gatewayObjects c ns).1.map (gatewayNode ns) ++
    (gatewayObjects c ns).2.map fun route => routeNode route.1 ns route.2

def sharedPlainNodes (c : Cluster) (order : RangeOrder) (ns : String) (owners : NamespaceOwners) :
    List GraphNode :=
  serviceNodes c ns ++ (ingressNodes c ns ++ (gatewayPlainNodes c ns ++
    (configNodes c order ns owners ++ (autoscalerNodes c ns ++ (disruptionBudgetNodes c ns ++
      (networkPolicyNodes c ns owners ++ (serviceAccountNodes c order ns owners ++
        quotaNodes c ns)))))))

def namespaceRefs (c : Cluster) (order : RangeOrder) (ns : String) : List ObjectRef :=
  (drawnWorkloads c ns).map (·.ref) ++
    (barePods (answered (c.list "Pod" ns c.pods))).map podObject ++
    match listPodOwners c ns with
    | .ok owners => (sharedPlainNodes c order ns owners).map GraphNode.ref
    | .error _ => []

/-- The objects drawn by reference only, of whatever group the reference states. -/
def referredObjects (c : Cluster) (ns : String) : List ObjectRef :=
  (answered (c.list "Pod" ns c.pods)).filterMap (podTop c ns) ++ parentRefs c ns

/-- A pod is attributed to itself, to an object drawn for its pods, or to a workload. -/
theorem podOwnerID_cases {w : Workloads} (hw : listWorkloads c ns = .ok w) (pod : Pod) :
    (pod.ownerReferences.isEmpty ∧ podTop c ns pod = none ∧ podOwnerID ns w pod = (podObject pod).id) ∨
      (∃ r, ¬pod.ownerReferences.isEmpty ∧ podTop c ns pod = some r ∧
        podOwnerID ns w pod = r.id) ∨
      ¬pod.ownerReferences.isEmpty ∧ podTop c ns pod = none ∧
        podOwnerID ns w pod ∈ ownerIDs w.owners := by
  unfold podTop podOwnerID ownerOf
  rw [ownership_listWorkloads hw]
  cases pod.ownerReferences with
  | nil => exact Or.inl ⟨rfl, rfl, rfl⟩
  | cons first rest =>
      simp only
      cases hfound : topOwner w.shown w.intermediate (controllerRef first rest) maxOwnerDepth with
      | mk top id =>
          cases id with
          | none => exact Or.inr (Or.inl ⟨_, by simp, rfl, rfl⟩)
          | some id =>
              refine Or.inr (Or.inr ⟨by simp, rfl, ?_⟩)
              exact (listed_listWorkloads hw).shown _ id (shown_of_topOwner hfound)

theorem ownerIDs_iff {owners : NamespaceOwners} (h : listPodOwners c ns = .ok owners)
    (id : String) :
    id ∈ ownerIDs owners.owners ↔
      (∃ workload ∈ drawnWorkloads c ns, workload.ref.id = id) ∨
        (∃ pod ∈ barePods (answered (c.list "Pod" ns c.pods)), (podObject pod).id = id) ∨
        ∃ pod ∈ answered (c.list "Pod" ns c.pods), ∃ r, podTop c ns pod = some r ∧ r.id = id := by
  obtain ⟨w, pods, hw, hpods, rfl⟩ := listPodOwners_ok h
  have hworkloads : ownerIDs w.owners = (drawnWorkloads c ns).map (·.ref.id) :=
    ownerIDs_listWorkloads hw
  rw [Attribution.mem_ownerIDs_after (listed_listWorkloads hw), hworkloads, List.mem_map, hpods]
  simp only [answered_ok, barePods, List.mem_filter]
  constructor
  · rintro (hworkload | ⟨pod, hpod, rfl⟩)
    · exact Or.inl hworkload
    · rcases podOwnerID_cases hw pod with ⟨hbare, -, hid⟩ | ⟨r, -, htop, hid⟩ | ⟨-, -, hid⟩
      · exact Or.inr (Or.inl ⟨pod, ⟨hpod, hbare⟩, hid.symm⟩)
      · exact Or.inr (Or.inr ⟨pod, hpod, r, htop, hid.symm⟩)
      · rw [hworkloads] at hid
        exact Or.inl (List.mem_map.mp hid)
  · rintro (hworkload | ⟨pod, ⟨hpod, hbare⟩, rfl⟩ | ⟨pod, hpod, r, htop, rfl⟩)
    · exact Or.inl hworkload
    · rcases podOwnerID_cases hw pod with ⟨-, -, hid⟩ | ⟨r, howned, -, -⟩ | ⟨howned, -, -⟩
      · exact Or.inr ⟨pod, hpod, hid⟩
      · exact absurd hbare howned
      · exact absurd hbare howned
    · rcases podOwnerID_cases hw pod with ⟨-, hnone, -⟩ | ⟨r', -, htop', hid⟩ | ⟨-, hnone, -⟩
      · cases hnone.symm.trans htop
      · obtain rfl := Option.some.inj (htop.symm.trans htop')
        exact Or.inr ⟨pod, hpod, hid⟩
      · cases hnone.symm.trans htop

theorem parentGateway_id {raw : Json} {gateway : GraphNode}
    (h : parentGateway ns raw = some gateway) :
    gateway.id = kubeNodeID "Gateway" gateway.ns gateway.name := by
  obtain ⟨name, ns', rfl⟩ := parentGateway_eq h
  rfl

theorem parentRef_id (ns : String) (raw : Json) :
    (parentRef ns raw).map ObjectRef.id = (parentGateway ns raw).map (·.id) := by
  unfold parentRef
  cases hgateway : parentGateway ns raw with
  | none => rfl
  | some gateway => exact congrArg some (parentGateway_id hgateway).symm

theorem parentRefs_iff (id : String) :
    (∃ r ∈ parentRefs c ns, r.id = id) ↔
      ∃ route ∈ (gatewayObjects c ns).2,
        ∃ raw ∈ route.2.object.nestedSlice ["spec", "parentRefs"],
          ∃ n, parentGateway ns raw = some n ∧ n.id = id := by
  simp only [parentRefs, List.mem_flatMap, List.mem_filterMap]
  constructor
  · rintro ⟨r, ⟨route, hroute, raw, hraw, hr⟩, rfl⟩
    have hid := parentRef_id ns raw
    rw [hr] at hid
    obtain ⟨n, hn, hnid⟩ := Option.map_eq_some_iff.mp hid.symm
    exact ⟨route, hroute, raw, hraw, n, hn, hnid⟩
  · rintro ⟨route, hroute, raw, hraw, n, hn, rfl⟩
    have hid := parentRef_id ns raw
    rw [hn] at hid
    obtain ⟨r, hr, hrid⟩ := Option.map_eq_some_iff.mp hid
    exact ⟨r, ⟨route, hroute, raw, hraw, hr⟩, hrid⟩

theorem gatewayNodes_iff (id : String) :
    (∃ n ∈ gatewayNodes c ns, n.id = id) ↔
      (∃ n ∈ gatewayPlainNodes c ns, n.id = id) ∨ ∃ r ∈ parentRefs c ns, r.id = id := by
  rw [parentRefs_iff]
  simp only [gatewayNodes, gatewayPlainNodes, routeAndParents, List.mem_append, List.mem_map,
    List.mem_flatMap, List.mem_cons, List.mem_filterMap]
  constructor
  · rintro ⟨n, hgateway | ⟨route, hroute, rfl | ⟨raw, hraw, hparent⟩⟩, hid⟩
    · exact Or.inl ⟨n, Or.inl hgateway, hid⟩
    · exact Or.inl ⟨_, Or.inr ⟨route, hroute, rfl⟩, hid⟩
    · exact Or.inr ⟨route, hroute, raw, hraw, n, hparent, hid⟩
  · rintro (⟨n, hgateway | ⟨route, hroute, rfl⟩, hid⟩ | ⟨route, hroute, raw, hraw, n, hparent, hid⟩)
    · exact ⟨n, Or.inl hgateway, hid⟩
    · exact ⟨_, Or.inr ⟨route, hroute, Or.inl rfl⟩, hid⟩
    · exact ⟨n, Or.inr ⟨route, hroute, Or.inr ⟨raw, hraw, hparent⟩⟩, hid⟩

theorem sharedNodes_iff {owners : NamespaceOwners} (id : String) :
    (∃ n ∈ sharedNodes c order ns owners, n.id = id) ↔
      (∃ n ∈ sharedPlainNodes c order ns owners, n.id = id) ∨ ∃ r ∈ parentRefs c ns, r.id = id := by
  simp only [sharedNodes, sharedPlainNodes, List.mem_append, or_and_right, exists_or,
    gatewayNodes_iff]
  generalize (∃ r ∈ parentRefs c ns, r.id = id) = parents
  grind

theorem plain_serviceAccountNodes {owners : NamespaceOwners} :
    ∀ n ∈ serviceAccountNodes c order ns owners, n.Plain := by
  intro n hn
  rcases serviceAccountNodes_cases hn with ⟨name, rfl⟩ | ⟨b, -, rfl | rfl⟩ <;> exact ⟨rfl, rfl⟩

theorem plain_quotaNodes : ∀ n ∈ quotaNodes c ns, n.Plain := by
  intro n hn
  rcases quotaNodes_cases hn with ⟨q, rfl⟩ | ⟨lr, rfl⟩ <;> exact ⟨rfl, rfl⟩

theorem plain_networkPolicyNodes {owners : NamespaceOwners} :
    ∀ n ∈ networkPolicyNodes c ns owners, n.Plain := by
  refine List.forall_mem_flatMap.mpr fun policy _ n hn => ?_
  obtain ⟨targets, rfl⟩ := drawnPolicy_cases hn
  exact ⟨rfl, rfl⟩

theorem plain_sharedPlainNodes {owners : NamespaceOwners} :
    ∀ n ∈ sharedPlainNodes c order ns owners, n.Plain := by
  have hmap : ∀ {α : Type} {f : α → GraphNode} (l : List α), (∀ a, (f a).Plain) →
      ∀ n ∈ l.map f, n.Plain := fun l hf => List.forall_mem_map.mpr fun a _ => hf a
  have hservices : ∀ n ∈ serviceNodes c ns, n.Plain := hmap _ fun _ => ⟨rfl, rfl⟩
  have hingresses : ∀ n ∈ ingressNodes c ns, n.Plain := hmap _ fun _ => ⟨rfl, rfl⟩
  have hgateways : ∀ n ∈ gatewayPlainNodes c ns, n.Plain :=
    List.forall_mem_append.mpr ⟨hmap _ fun _ => ⟨rfl, rfl⟩, hmap _ fun _ => ⟨rfl, rfl⟩⟩
  have hconfig : ∀ n ∈ configNodes c order ns owners, n.Plain :=
    List.forall_mem_append.mpr ⟨hmap _ fun _ => ⟨rfl, rfl⟩,
      List.forall_mem_flatMap.mpr fun _ _ _ hn => (storageNode_volumeNodes hn).plain⟩
  have hautoscalers : ∀ n ∈ autoscalerNodes c ns, n.Plain :=
    List.forall_mem_flatMap.mpr fun _ _ => List.forall_mem_singleton.mpr ⟨rfl, rfl⟩
  have hbudgets : ∀ n ∈ disruptionBudgetNodes c ns, n.Plain :=
    List.forall_mem_flatMap.mpr fun _ _ => List.forall_mem_singleton.mpr ⟨rfl, rfl⟩
  simp only [sharedPlainNodes, List.forall_mem_append]
  exact ⟨hservices, hingresses, hgateways, hconfig, hautoscalers, hbudgets,
    plain_networkPolicyNodes, plain_serviceAccountNodes, plain_quotaNodes⟩

theorem namespaceIDs_iff {owners : NamespaceOwners} (howners : listPodOwners c ns = .ok owners)
    (id : String) :
    (∃ n ∈ owners.owners.map (·.node) ++ sharedNodes c order ns owners, n.id = id) ↔
      ∃ r ∈ namespaceRefs c order ns ++ referredObjects c ns, r.id = id := by
  have hplain : (∃ n ∈ sharedPlainNodes c order ns owners, n.id = id) ↔
      ∃ n ∈ sharedPlainNodes c order ns owners, n.ref.id = id :=
    exists_congr fun n => and_congr_right fun hn => by rw [(plain_sharedPlainNodes n hn).ref_id]
  have htops : (∃ r, (∃ pod ∈ answered (c.list "Pod" ns c.pods), podTop c ns pod = some r) ∧
      r.id = id) ↔
        ∃ pod ∈ answered (c.list "Pod" ns c.pods), ∃ r, podTop c ns pod = some r ∧ r.id = id := by
    constructor
    · rintro ⟨r, ⟨pod, hpod, htop⟩, hid⟩
      exact ⟨pod, hpod, r, htop, hid⟩
    · rintro ⟨pod, hpod, r, htop, hid⟩
      exact ⟨r, ⟨pod, hpod, htop⟩, hid⟩
  have howner := ownerIDs_iff howners id
  rw [mem_ownerIDs, ← htops] at howner
  simp only [namespaceRefs, referredObjects, howners, List.mem_append, or_and_right, exists_or,
    sharedNodes_iff, hplain, List.mem_map, List.mem_filterMap, exists_exists_and_eq_and, howner]
  rw [or_assoc, or_assoc, or_assoc, or_assoc]
  exact or_congr_right (or_congr_right or_left_comm)

theorem namespaceLevel_shows (h : namespaceLevel c order ns = .ok g) :
    g.Shows (namespaceRefs c order ns ++ referredObjects c ns) := by
  obtain ⟨owners, howners, hadds⟩ := adds_namespaceLevel h
  refine hadds.shows (fun r hr => ?_) fun n hn => Or.inr ?_
  · exact (namespaceIDs_iff howners r.id).mpr ⟨r, hr, rfl⟩
  · exact (namespaceIDs_iff howners n.id).mp ⟨n, hn, rfl⟩

theorem drawnWorkloads_known : ∀ workload ∈ drawnWorkloads c ns, workload.ref.Known := by
  intro workload hworkload
  simp only [drawnWorkloads, List.mem_append, List.mem_map, List.mem_filterMap] at hworkload
  rcases hworkload with ((((⟨d, -, rfl⟩ | ⟨st, -, rfl⟩) | ⟨d, -, rfl⟩) | ⟨cj, -, rfl⟩) |
    ⟨j, -, hj⟩) | ⟨rc, -, hrc⟩
  · rfl
  · rfl
  · rfl
  · rfl
  · split at hj
    · cases hj
    · cases hj
      rfl
  · obtain ⟨tmpl, -, rfl⟩ := Option.map_eq_some_iff.mp hrc
    rfl

theorem namespaceRefs_known : ∀ r ∈ namespaceRefs c order ns, r.Known := by
  intro r hr
  rcases List.mem_append.mp hr with hfirst | hshared
  · rcases List.mem_append.mp hfirst with hworkload | hpod
    · obtain ⟨workload, hdrawn, rfl⟩ := List.mem_map.mp hworkload
      exact drawnWorkloads_known workload hdrawn
    · exact known_map_ref _ r hpod
  · split at hshared
    · obtain ⟨n, hn, rfl⟩ := List.mem_map.mp hshared
      exact (plain_sharedPlainNodes n hn).known
    · cases hshared

/-! ### Every request -/

def knownRefs (c : Cluster) (order : RangeOrder) : Canvas → List ObjectRef
  | .cluster lens => lensRefs c lens
  | .inNamespace ns => namespaceRefs c order ns
  | .object ns group kind name => openedRefs c ns group kind name
  | .node name => (podsOn c name).map podObject

/-- The objects drawn whose groups are those of the references to them: what owns
pods without being a workload, parents of routes, and an owner that is opened. -/
def customRefs (c : Cluster) : Canvas → List ObjectRef
  | .cluster _ => []
  | .inNamespace ns => referredObjects c ns
  | .object ns group kind name => openedOwner ns group kind name
  | .node _ => []

def drawnRefs (c : Cluster) (order : RangeOrder) (request : Canvas) : List ObjectRef :=
  knownRefs c order request ++ customRefs c request

theorem topology_shows {request : Canvas} (h : topology c order request = .ok g) :
    g.Shows (drawnRefs c order request) := by
  cases request with
  | cluster lens =>
      rw [drawnRefs, customRefs, List.append_nil]
      exact clusterLevel_shows h
  | inNamespace ns => exact namespaceLevel_shows h
  | object ns group kind name => exact objectLevel_shows h
  | node name =>
      rw [drawnRefs, customRefs, List.append_nil]
      exact nodeLevel_shows h

theorem knownRefs_known {request : Canvas} : ∀ r ∈ knownRefs c order request, r.Known := by
  cases request with
  | cluster lens => exact lensRefs_known
  | inNamespace ns => exact namespaceRefs_known
  | object ns group kind name => exact openedRefs_known
  | node name => exact known_map_ref _

def scaledObject (ns : String) (ref : CrossVersionRef) : ObjectRef :=
  ⟨apiGroup ref.apiVersion, ref.kind, ns, ref.name⟩

/-- The level's IDs tell its objects apart: in the graph, where pods are attributed to their
owners, and where autoscalers are linked to what they scale. -/
structure Identified (c : Cluster) (order : RangeOrder) (request : Canvas) (g : Graph) : Prop
    extends g.Identifies (drawnRefs c order request) where
  attributed : ∀ ns owners, request = .inNamespace ns → listPodOwners c ns = .ok owners →
    ∀ pod id, owners.podOwner.lookup pod = some id →
      ∃! r, r ∈ drawnRefs c order request ∧ r.id = id
  scaled : ∀ ns, request = .inNamespace ns →
    ∀ hpa ∈ answered (c.list "HorizontalPodAutoscaler" ns c.autoscalers),
      scaledObject ns hpa.scaleTargetRef ∈ drawnRefs c order request →
        ∀ r ∈ drawnRefs c order request,
          r.id = kubeNodeID hpa.scaleTargetRef.kind ns hpa.scaleTargetRef.name →
            r = scaledObject ns hpa.scaleTargetRef

theorem Graph.Identifies.identified {request : Canvas}
    (h : g.Identifies (drawnRefs c order request)) : Identified c order request g := by
  refine ⟨h, fun ns owners hrequest howners pod id hlookup => ?_, fun ns _ hpa _ hmeant r hr hid =>
    h.distinct r hr _ hmeant hid⟩
  subst hrequest
  have howner := (listed_listPodOwners howners).pod pod id hlookup
  rw [mem_ownerIDs] at howner
  obtain ⟨o, ho, rfl⟩ := howner
  obtain ⟨r, hr, hid⟩ := (namespaceIDs_iff howners o.node.id).mp
    ⟨o.node, List.mem_append_left _ (List.mem_map_of_mem ho), rfl⟩
  exact hid ▸ existsUnique_of_id h.distinct hr

/-- A level's IDs tell its objects apart exactly if no object that is drawn for a
reference to it has a namesake of another group among the objects drawn. -/
theorem topology_identifies_iff (c : Cluster) (order : RangeOrder) (request : Canvas) (g : Graph)
    (h : topology c order request = .ok g)
    (hnamed : ∀ r ∈ drawnRefs c order request, r.WellNamed) :
    Identified c order request g ↔
      ∀ r ∈ customRefs c request, ∀ r' ∈ drawnRefs c order request,
        r.kind = r'.kind → r.ns = r'.ns → r.name = r'.name → r.group = r'.group := by
  have hdistinct := distinct_iff knownRefs_known hnamed
  constructor
  · exact fun hidentified => hdistinct.mp hidentified.distinct
  · intro hgroups
    exact ((topology_shows h).identifies (grown_topology h).closed
      (hdistinct.mpr hgroups)).identified

def jobAndRollout : Cluster where
  jobs := KeyedList.empty.add { name := "train", ns := "shop", uid := "j" }
  pods := KeyedList.empty.add
    { name := "api-0", ns := "shop", uid := "p"
      ownerReferences := [⟨"argoproj.io/v1alpha1", "Rollout", "api", "r", some true⟩] }

theorem topology_identifies_jobAndRollout :
    ∃ g, topology jobAndRollout default (.inNamespace "shop") = .ok g ∧
      ⟨"argoproj.io", "Rollout", "shop", "api"⟩ ∈
        drawnRefs jobAndRollout default (.inNamespace "shop") ∧
      Identified jobAndRollout default (.inNamespace "shop") g := by
  refine ⟨_, rfl, by decide, ?_⟩
  refine (topology_identifies_iff jobAndRollout default (.inNamespace "shop") _ rfl
    (by decide)).mpr ?_
  decide

def twoTrains : Cluster where
  jobs := KeyedList.empty.add { name := "train", ns := "shop", uid := "j" }
  pods := KeyedList.empty.add
    { name := "train-0", ns := "shop", uid := "p"
      ownerReferences := [⟨"batch.volcano.sh/v1alpha1", "Job", "train", "v", some true⟩] }

theorem twoTrains_share_node :
    ∃ g owners, topology twoTrains default (.inNamespace "shop") = .ok g ∧
      listPodOwners twoTrains "shop" = .ok owners ∧
      ⟨"batch", "Job", "shop", "train"⟩ ∈ drawnRefs twoTrains default (.inNamespace "shop") ∧
      ⟨"batch.volcano.sh", "Job", "shop", "train"⟩ ∈
        drawnRefs twoTrains default (.inNamespace "shop") ∧
      g.nodes.items.map GraphNode.ref = [⟨"batch", "Job", "shop", "train"⟩] ∧
      owners.podOwner.lookup "train-0" = some "Job/shop/train" ∧
      ¬Identified twoTrains default (.inNamespace "shop") g := by
  refine ⟨_, _, rfl, rfl, by decide, by decide, by decide, by decide, fun hidentified => ?_⟩
  have hsame := hidentified.distinct ⟨"batch", "Job", "shop", "train"⟩ (by decide)
    ⟨"batch.volcano.sh", "Job", "shop", "train"⟩ (by decide) rfl
  exact absurd hsame (by decide)

end Wiremap.Topology
