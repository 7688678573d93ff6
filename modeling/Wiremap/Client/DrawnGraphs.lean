import Wiremap.Client.CanvasAnchors
import Wiremap.Topology.AccessLens
import Wiremap.Topology.WellFormed

/-! The graphs that reach the canvas, and that it keeps the anchors of all of them apart. -/
namespace Wiremap.Client.GraphCanvas

open Wiremap.Kube Wiremap.Library Wiremap.Topology
open Wiremap.Topology.Graph (Adds)

def KubeLevel.ofServer : Level → KubeLevel
  | .cluster => .cluster
  | .namespace => .namespace
  | .object => .object
  | .node => .node

def KubeGraph.ofServer (g : Graph) : KubeGraph where
  level := KubeLevel.ofServer g.level
  nodes := g.nodes
  edges := g.edges.items
  groups := g.groups

def withoutNodes (graph : KubeGraph) (keep : GraphNode → Bool) : KubeGraph :=
  let visible := (graph.nodes.items.filter keep).map (·.id)
  { graph with
    nodes := graph.nodes.filter fun n => n.id ∈ visible
    edges := graph.edges.filter fun e => e.source ∈ visible && e.target ∈ visible }

def subjectKinds : List String := ["User", "Group", "ServiceAccount"]

def roleKinds : List String := ["Role", "ClusterRole"]

/-- As the API server validates bindings: subjects and roles are of the kinds of RBAC. -/
structure ValidatedBindings (c : Cluster) : Prop where
  subjects : ∀ b ∈ allBindings c, ∀ sub ∈ b.subjects, sub.kind ∈ subjectKinds
  roles : ∀ b ∈ allBindings c, b.roleRef.kind ∈ roleKinds

/-- What the page has to draw before its filter: an answer of the server, or the objects of
one kind and their namespaces. -/
inductive Given : KubeGraph → Prop
  | topology {c : Cluster} {order : RangeOrder} {request : Canvas} {g : Graph}
      (hvalid : ValidatedBindings c) (h : topology c order request = .ok g) : Given (.ofServer g)
  | listed (nodes : KeyedList GraphNode.id) (groups : KeyedList GraphGroup.id) :
      Given { level := .kind, nodes := nodes, edges := [], groups := groups }

variable {c : Cluster} {g : Graph}

/-! ### Kinds -/

def lensKinds : List String :=
  ["Namespace", "Node", "PersistentVolumeClaim", "PersistentVolume", "StorageClass",
    "RoleBinding", "ClusterRoleBinding"] ++ subjectKinds ++ roleKinds

theorem lensKinds_not_inherited {kind : String} (h : kind ∈ lensKinds) :
    kind ∉ PlainObject.inheritedNames := by
  have hall : ∀ kind ∈ lensKinds, kind ∉ PlainObject.inheritedNames := by decide
  exact hall kind h

theorem kind_of_adds {nodes : List GraphNode} {level : Level} (h : Adds nodes (.new level) g)
    (hnodes : ∀ n ∈ nodes, n.kind ∈ lensKinds) {n : GraphNode} (hn : n ∈ g.nodes.items) :
    n.kind ∈ lensKinds := by
  obtain ⟨node, hnode, rfl⟩ := h.exists_of_mem hn
  rw [GraphNode.grouped_kind]
  exact hnodes node hnode

theorem kind_classNodes {className : String} {n : GraphNode} (h : n ∈ classNodes className) :
    n.kind ∈ lensKinds := by
  unfold classNodes at h
  split at h
  · obtain rfl := List.mem_singleton.mp h
    exact (by decide : "StorageClass" ∈ lensKinds)
  · cases h

theorem kind_storageNodes {n : GraphNode} (h : n ∈ storageNodes c) : n.kind ∈ lensKinds := by
  rcases List.mem_append.mp h with hdrawn | hclaim
  · rcases List.mem_append.mp hdrawn with hclass | hvolume
    · obtain ⟨sc, -, rfl⟩ := List.mem_map.mp hclass
      exact (by decide : "StorageClass" ∈ lensKinds)
    · obtain ⟨pv, -, hvolume⟩ := List.mem_flatMap.mp hvolume
      rcases List.mem_cons.mp hvolume with rfl | hclass
      · exact (by decide : "PersistentVolume" ∈ lensKinds)
      · exact kind_classNodes hclass
  · obtain ⟨pvc, -, hclaim⟩ := List.mem_flatMap.mp hclaim
    rcases List.mem_cons.mp hclaim with rfl | hclass
    · exact (by decide : "PersistentVolumeClaim" ∈ lensKinds)
    · split at hclass
      · cases hclass
      · exact kind_classNodes hclass

theorem Binding.kind_mem {b : Binding} (hb : b ∈ allBindings c) : b.kind ∈ lensKinds := by
  rcases List.mem_append.mp hb with hcluster | hrole
  · obtain ⟨crb, -, rfl⟩ := List.mem_map.mp hcluster
    exact (by decide : "ClusterRoleBinding" ∈ lensKinds)
  · obtain ⟨rb, -, rfl⟩ := List.mem_map.mp hrole
    exact (by decide : "RoleBinding" ∈ lensKinds)

theorem kind_accessNodes (hvalid : ValidatedBindings c) (h : accessGraph c = .ok g)
    {n : GraphNode} (hn : n ∈ accessNodes c) : n.kind ∈ lensKinds := by
  rw [accessNodes_eq h] at hn
  obtain ⟨b, hb, hn⟩ := List.mem_flatMap.mp hn
  unfold accessBindingNodes at hn
  split at hn
  · cases hn
  · rcases List.mem_append.mp hn with hbinding | hrole
    · rcases List.mem_cons.mp hbinding with rfl | hsubject
      · exact Binding.kind_mem hb
      · obtain ⟨sub, hsub, rfl⟩ := List.mem_map.mp hsubject
        exact List.mem_append_left _ (List.mem_append_right _ (hvalid.subjects b hb sub hsub))
    · obtain rfl := List.mem_singleton.mp hrole
      exact List.mem_append_right _ (hvalid.roles b hb)

theorem kind_clusterLevel (hvalid : ValidatedBindings c) {lens : Lens}
    (h : clusterLevel c lens = .ok g) {n : GraphNode} (hn : n ∈ g.nodes.items) :
    n.kind ∈ lensKinds := by
  unfold clusterLevel at h
  cases lens with
  | storage => exact kind_of_adds (adds_storageGraph h) (fun n => kind_storageNodes) hn
  | access => exact kind_of_adds (adds_accessGraph h) (fun n => kind_accessNodes hvalid h) hn
  | nodes =>
      obtain ⟨pods, -, hnodes⟩ := Fallible.bind_eq_ok.mp h
      obtain ⟨nodes, podCount, -, hadds⟩ := adds_nodesGraph hnodes
      refine kind_of_adds hadds (fun n hnode => ?_) hn
      obtain ⟨machine, -, rfl⟩ := List.mem_map.mp hnode
      exact (by decide : "Node" ∈ lensKinds)
  | namespaces =>
      obtain ⟨pods, -, hnamespaces⟩ := Fallible.bind_eq_ok.mp h
      obtain ⟨namespaces, workloads, podCount, podHealth, -, hadds⟩ :=
        adds_namespacesGraph hnamespaces
      refine kind_of_adds hadds (fun n hnode => ?_) hn
      obtain ⟨ns, -, rfl⟩ := List.mem_map.mp hnode
      exact (by decide : "Namespace" ∈ lensKinds)

theorem kubeNodeID_ne_empty (kind ns name : String) : kubeNodeID kind ns name ≠ "" := by
  intro h
  have hlength := congrArg String.length h
  simp [kubeNodeID] at hlength

theorem group_nodeLevel {nodeName : String} (h : nodeLevel c nodeName = .ok g) {n : GraphNode}
    (hn : n ∈ g.nodes.items) : n.group ≠ "" := by
  obtain ⟨node, hnode, rfl⟩ := (adds_nodeLevel h).exists_of_mem hn
  obtain ⟨pod, -, rfl⟩ := List.mem_map.mp hnode
  rw [GraphNode.grouped_group]
  exact kubeNodeID_ne_empty _ _ _

/-! ### Graphs -/

/-- The nodes that the storage columns could mistake: ungrouped, of a kind that is inherited. -/
theorem not_skewed_of_given {graph : KubeGraph} (h : Given graph) (keep : GraphNode → Bool) :
    ¬Skewed (withoutNodes graph keep) := by
  rintro ⟨hlevel, n, hn, hgroup, hname, -⟩
  replace hn : n ∈ graph.nodes.items := (List.mem_filter.mp hn).1
  cases h with
  | listed nodes groups =>
      rcases hlevel with hlevel | hlevel
      · cases hlevel
      · cases hlevel
  | @topology c order request g hvalid h =>
      have hserver : (withoutNodes (.ofServer g) keep).level =
          KubeLevel.ofServer request.level := by
        rw [← (grown_topology h).level_eq]
        rfl
      rw [hserver] at hlevel
      cases request with
      | cluster lens => exact lensKinds_not_inherited (kind_clusterLevel hvalid h hn) hname
      | node name => exact group_nodeLevel h hn hgroup
      | inNamespace ns => rcases hlevel with hlevel | hlevel <;> cases hlevel
      | object ns group kind name => rcases hlevel with hlevel | hlevel <;> cases hlevel

/-- Whatever reaches the canvas, however it is filtered, has its anchors apart on every
canvas, and so has every graph but the skewed ones. -/
theorem canvas_spread (K : Type u) [Field K] [LinearOrder K] [IsStrictOrderedRing K]
    (byNumber : ColumnSort) (localeCompare : String → String → Int) :
    (∀ graph, Given graph → ∀ keep, ∀ width height : K, 0 ≤ width → 0 ≤ height →
      (computeLayout byNumber localeCompare (withoutNodes graph keep) width height).Spread
        (withoutNodes graph keep) (nodeColumns byNumber (withoutNodes graph keep))) ∧
    ∀ graph, (∀ width height : K, 0 ≤ width → 0 ≤ height →
      (computeLayout byNumber localeCompare graph width height).Spread graph
        (nodeColumns byNumber graph)) ↔ ¬Skewed graph :=
  ⟨fun _ hgiven keep _ height _ _ => spread_of_not_skewed (not_skewed_of_given hgiven keep) _ height,
    fun graph => anchors_spread_iff K byNumber localeCompare graph⟩

theorem grantedCluster_validated : ValidatedBindings grantedCluster := ⟨by decide, by decide⟩

theorem canvas_spread_granted :
    ∃ g, topology grantedCluster default (.cluster .access) = .ok g ∧
      let shown := withoutNodes (.ofServer g) fun n => n.kind ≠ "Group"
      shown.nodes.items.length = 5 ∧
        (computeLayout mergeByNumber compareNames shown (1200 : Rat) 800).Spread shown
          (nodeColumns mergeByNumber shown) := by
  refine ⟨_, rfl, by decide, ?_⟩
  have hgiven := Given.topology grantedCluster_validated
    (rfl : topology grantedCluster default (.cluster .access) = _)
  exact (canvas_spread Rat mergeByNumber compareNames).1 _ hgiven _ 1200 800 (by norm_num)
    (by norm_num)

end Wiremap.Client.GraphCanvas
