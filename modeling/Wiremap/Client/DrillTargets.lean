import Wiremap.Client.KubeNavigation
import Wiremap.Topology.Opening
import Wiremap.Topology.References

/-! Whether what the canvas offers to open does open. -/
namespace Wiremap.Client

open Wiremap.Kube Wiremap.Library Wiremap.Topology Wiremap.Handler
open Wiremap.Topology.Graph (Adds)

/-- Drilling into the node, wherever the user is, ends in a graph. -/
def Opens (c : Cluster) (node : GraphNode) : Prop :=
  ∀ (order : RangeOrder) (route : KubeRoute), ∃ next view g,
    route.drill node = some next ∧ next.view = some view ∧
      KubeClusterHandler.topology c order (topologyQuery view) = .ok g

/-- Every drillable node opens; containers have no level of their own. -/
def DrillableOpens (c : Cluster) (g : Graph) : Prop :=
  ∀ n ∈ g.nodes.items, n.drillable = true → n.kind ≠ "Container" → Opens c n

def Present (c : Cluster) (r : ObjectRef) : Prop :=
  r.kind = "Node" ∨ r.kind = "Namespace" ∨ found c r = true

variable {c : Cluster} {order : RangeOrder} {ns : String} {g : Graph} {level : Level}

/-! ### One node -/

theorem opens_namespace (hc : c.Readable) {node : GraphNode} (hdrillable : node.drillable = true)
    (hkind : node.kind = "Namespace") : Opens c node := by
  intro order route
  have hdrill : route.drill node = some { route with ns := node.name, root := .overview, drills := [] } := by
    simp [KubeRoute.drill, hdrillable, hkind]
  by_cases hname : node.name = ""
  · obtain ⟨g, hg⟩ := clusterLevel_readable hc .namespaces
    refine ⟨_, { level := .cluster, lens := some .namespaces }, g, hdrill, ?_, hg⟩
    simp [KubeRoute.view, KubeRoute.rootView, hname]
  · obtain ⟨g, hg⟩ := namespaceLevel_readable hc order node.name
    refine ⟨_, { level := .namespace, ns := some node.name }, g, hdrill, ?_, ?_⟩
    · simp [KubeRoute.view, KubeRoute.rootView, hname]
    · rw [KubeClusterHandler.topology, canvasOf_namespace]
      exact hg

theorem opens_node (hc : c.Readable) {node : GraphNode} (hdrillable : node.drillable = true)
    (hkind : node.kind = "Node") : Opens c node := by
  intro order route
  obtain ⟨g, hg⟩ := nodeLevel_readable hc node.name
  have hdrill : route.drill node =
      some { route with drills := route.drills ++ [{ level := .node, name := some node.name }] } := by
    simp [KubeRoute.drill, hdrillable, hkind]
  refine ⟨_, { level := .node, name := some node.name }, g, hdrill, by simp, ?_⟩
  rw [KubeClusterHandler.topology, canvasOf_node]
  exact hg

theorem opens_object_iff (hc : c.Readable) {node : GraphNode} (hdrillable : node.drillable = true)
    (hnode : node.kind ≠ "Node") (hnamespace : node.kind ≠ "Namespace") :
    Opens c node ↔ found c ⟨node.apiGroup, node.kind, node.ns, node.name⟩ = true := by
  have hdrill : ∀ route : KubeRoute, route.drill node =
      some { route with drills := route.drills ++ [
        { level := .object, ns := some node.ns, kind := some node.kind
          group := some node.apiGroup, name := some node.name }] } := by
    intro route
    simp [KubeRoute.drill, hdrillable, hnode, hnamespace]
  rw [← objectLevel_opens hc]
  constructor
  · intro hopens
    obtain ⟨next, view, g, hnext, hview, hg⟩ := hopens default ⟨"", "", .overview, []⟩
    rw [hdrill, Option.some.injEq] at hnext
    rw [← hnext, KubeRoute.view_append, Option.some.injEq] at hview
    rw [← hview, KubeClusterHandler.topology, canvasOf_object] at hg
    exact ⟨g, hg⟩
  · rintro ⟨g, hg⟩ order route
    refine ⟨_, _, g, hdrill route, KubeRoute.view_append _ _, ?_⟩
    rw [KubeClusterHandler.topology, canvasOf_object]
    exact hg

theorem opens_iff (hc : c.Readable) {node : GraphNode} (hdrillable : node.drillable = true) :
    Opens c node.grouped ↔ Present c node.ref := by
  have hgrouped : node.grouped.drillable = true := by simpa using hdrillable
  change _ ↔ node.kind = "Node" ∨ node.kind = "Namespace" ∨ found c node.ref = true
  by_cases hnode : node.kind = "Node"
  · simp only [hnode, true_or, iff_true]
    exact opens_node hc hgrouped (by simpa using hnode)
  · by_cases hnamespace : node.kind = "Namespace"
    · simp only [hnamespace, true_or, or_true, iff_true]
      exact opens_namespace hc hgrouped (by simpa using hnamespace)
    · rw [opens_object_iff hc hgrouped (by simpa using hnode) (by simpa using hnamespace)]
      simp [hnode, hnamespace, GraphNode.ref]

/-! ### All nodes of a level -/

def Closed (node : GraphNode) : Prop := node.drillable = false

/-- Whatever is drawn of the nodes, beside those before them, and can be opened is present. -/
def Offers (c : Cluster) (before nodes : List GraphNode) : Prop :=
  ∀ node ∈ Graph.firstOfEach nodes, (∀ m ∈ before, m.id ≠ node.id) →
    node.drillable = true → node.kind ≠ "Container" → Present c node.ref

theorem drillableOpens_iff (hc : c.Readable) {nodes : List GraphNode}
    (h : Adds nodes (.new level) g) : DrillableOpens c g ↔ Offers c [] nodes := by
  constructor
  · intro hopens node hnode _ hdrillable hkind
    refine (opens_iff hc hdrillable).mp (hopens _ (h.mem_iff.mpr ⟨node, hnode, rfl⟩) ?_ ?_)
    · simpa using hdrillable
    · simpa using hkind
  · intro hoffers n hn hdrillable hkind
    obtain ⟨node, hnode, rfl⟩ := h.mem_iff.mp hn
    rw [GraphNode.grouped_drillable] at hdrillable
    rw [GraphNode.grouped_kind] at hkind
    exact (opens_iff hc hdrillable).mpr (hoffers node hnode (by simp) hdrillable hkind)

namespace Offers

variable {before nodes nodes' : List GraphNode}

theorem append : Offers c before (nodes ++ nodes') ↔
    Offers c before nodes ∧ Offers c (before ++ nodes) nodes' := by
  unfold Offers
  simp only [Graph.firstOfEach_append, List.mem_append]
  constructor
  · intro h
    refine ⟨fun node hnode hbefore => h node (Or.inl hnode) hbefore, fun node hnode hbefore => ?_⟩
    exact h node (Or.inr ⟨hnode, fun m hm => hbefore m (Or.inr hm)⟩) fun m hm => hbefore m (Or.inl hm)
  · rintro ⟨hfirst, hrest⟩ node (hnode | ⟨hnode, hfree⟩) hbefore
    · exact hfirst node hnode hbefore
    · exact hrest node hnode fun m hm => hm.elim (hbefore m) (hfree m)

theorem of_forall (h : ∀ node ∈ nodes, node.drillable = true → node.kind ≠ "Container" →
    Present c node.ref) : Offers c before nodes :=
  fun node hnode _ => h node (Graph.mem_of_firstOfEach hnode)

theorem of_closed (h : ∀ node ∈ nodes, Closed node) : Offers c before nodes :=
  of_forall fun node hnode hdrillable => absurd hdrillable (by rw [h node hnode]; simp)

theorem skip {others : List GraphNode}
    (h : ∀ m ∈ others, ∀ n ∈ nodes, n.drillable = true → m.id ≠ n.id) :
    Offers c (before ++ others) nodes ↔ Offers c before nodes := by
  unfold Offers
  refine forall₂_congr fun node hnode => ?_
  have hothers : node.drillable = true → ∀ m ∈ others, m.id ≠ node.id :=
    fun hdrillable m hm => h m hm node (Graph.mem_of_firstOfEach hnode) hdrillable
  simp only [List.mem_append]
  constructor
  · intro hall hbefore hdrillable
    exact hall (fun m hm => hm.elim (hbefore m) (hothers hdrillable m)) hdrillable
  · exact fun hall hbefore => hall fun m hm => hbefore m (Or.inl hm)

theorem append_iff_right {others : List GraphNode} (hothers : Offers c before others)
    (h : ∀ m ∈ others, ∀ n ∈ nodes, n.drillable = true → m.id ≠ n.id) :
    Offers c before (others ++ nodes) ↔ Offers c before nodes :=
  append.trans ((and_iff_right hothers).trans (skip h))

theorem append_iff_left {others : List GraphNode} (hothers : Offers c (before ++ nodes) others) :
    Offers c before (nodes ++ others) ↔ Offers c before nodes :=
  append.trans (and_iff_left hothers)

theorem cons_iff {root : GraphNode} (hroot : Closed root) :
    Offers c before (root :: nodes) ↔ Offers c (before ++ [root]) nodes := by
  rw [← List.singleton_append, append]
  exact and_iff_right (of_closed (List.forall_mem_singleton.mpr hroot))

/-- Where nodes of one ID stand for one object, it does not matter which is drawn. -/
theorem iff_forall (hopen : ∀ n ∈ nodes, n.drillable = true ∧ n.kind ≠ "Container")
    (hid : ∀ n ∈ nodes, ∀ m ∈ nodes, n.id = m.id → n.ref = m.ref) :
    Offers c before nodes ↔
      ∀ n ∈ nodes, (∀ m ∈ before, m.id ≠ n.id) → Present c n.ref := by
  constructor
  · intro hoffers n hn hbefore
    obtain ⟨first, hfirst, hsame⟩ := Graph.exists_firstOfEach hn
    have hmem := Graph.mem_of_firstOfEach hfirst
    rw [hid n hn first hmem hsame.symm]
    exact hoffers first hfirst (hsame ▸ hbefore) (hopen first hmem).1 (hopen first hmem).2
  · intro h node hnode hbefore _ _
    exact h node (Graph.mem_of_firstOfEach hnode) hbefore

theorem iff_firstRefs (hopen : ∀ n ∈ nodes, n.drillable = true)
    (hid : ∀ n ∈ nodes, n.ref.id = n.id) :
    Offers c [] nodes ↔
      ∀ r ∈ firstRefs (nodes.map GraphNode.ref), r.kind ≠ "Container" → Present c r := by
  constructor
  · intro hoffers r hr hkind
    obtain ⟨n, hn, rfl⟩ := (mem_firstRefs_map hid).mp hr
    exact hoffers n hn (by simp) (hopen n (Graph.mem_of_firstOfEach hn)) hkind
  · intro h n hn _ _ hkind
    exact h n.ref ((mem_firstRefs_map hid).mpr ⟨n, hn, rfl⟩) hkind

end Offers

end Wiremap.Client
