import Wiremap.Topology.Graph

/-! Which objects a graph draws.  A step draws a list of nodes, in order, and
what it links does not matter to them; a node whose ID is taken is not drawn. -/
namespace Wiremap.Topology

open Wiremap.Kube Wiremap.Library

/-- What identifies an API object to its server. -/
structure ObjectRef where
  group : String
  kind : String
  ns : String
  name : String
  deriving DecidableEq, Repr

def ObjectRef.id (r : ObjectRef) : String := kubeNodeID r.kind r.ns r.name

def podRef (ns name : String) : ObjectRef := ⟨"", "Pod", ns, name⟩

def jobRef (ns name : String) : ObjectRef := ⟨"batch", "Job", ns, name⟩

def podObject (pod : Pod) : ObjectRef := podRef pod.ns pod.name

def GraphNode.ref (node : GraphNode) : ObjectRef :=
  ⟨node.grouped.apiGroup, node.kind, node.ns, node.name⟩

namespace GraphNode

@[simp] theorem grouped_kind (node : GraphNode) : node.grouped.kind = node.kind := by
  unfold grouped
  split <;> rfl

@[simp] theorem grouped_ns (node : GraphNode) : node.grouped.ns = node.ns := by
  unfold grouped
  split <;> rfl

@[simp] theorem grouped_name (node : GraphNode) : node.grouped.name = node.name := by
  unfold grouped
  split <;> rfl

@[simp] theorem grouped_drillable (node : GraphNode) : node.grouped.drillable = node.drillable := by
  unfold grouped
  split <;> rfl

@[simp] theorem grouped_weight (node : GraphNode) : node.grouped.weight = node.weight := by
  unfold grouped
  split <;> rfl

@[simp] theorem grouped_summary (node : GraphNode) : node.grouped.summary = node.summary := by
  unfold grouped
  split <;> rfl

theorem grouped_grouped (node : GraphNode) : node.grouped.grouped = node.grouped := by
  by_cases hnone : node.apiGroup = ""
  · by_cases hkind : (kindGroups.lookup node.kind).getD "" = ""
    · simp [grouped, hnone, hkind]
    · simp [grouped, hnone, hkind]
  · simp [grouped, hnone]

@[simp] theorem grouped_ref (node : GraphNode) : node.grouped.ref = node.ref := by
  simp [ref, grouped_grouped]

end GraphNode

/-- A node that can be mistaken for no object of the kind. -/
structure GraphNode.Apart (kind : String) (node : GraphNode) : Prop where
  kind_ne : node.kind ≠ kind
  id_ne : ∀ ns name, node.id ≠ kubeNodeID kind ns name

theorem GraphNode.Apart.of_id {node : GraphNode} {kind : String} (own ns name : String)
    (hown : node.kind = own) (hid : node.id = kubeNodeID own ns name)
    (hkinds : own ≠ kind ∧ Text.Free '/' own ∧ Text.Free '/' kind) : node.Apart kind where
  kind_ne heq := hkinds.1 (hown.symm.trans heq)
  id_ne _ _ heq := hkinds.1 (kubeNodeID_kind hkinds.2.1 hkinds.2.2 (hid.symm.trans heq)).1

namespace Graph

/-- `g'` draws `nodes` over what `g` draws. -/
def Adds (nodes : List GraphNode) (g g' : Graph) : Prop :=
  g'.nodes = g.nodes.addAll (nodes.map GraphNode.grouped)

namespace Adds

variable {nodes nodes' : List GraphNode} {g g' g'' : Graph}

theorem refl (g : Graph) : Adds [] g g := rfl

theorem trans (h : Adds nodes g g') (h' : Adds nodes' g' g'') : Adds (nodes ++ nodes') g g'' := by
  unfold Adds at *
  rw [h', h, List.map_append, KeyedList.addAll_append]

theorem link (h : Adds nodes g g') (h' : Adds [] g' g'') : Adds nodes g g'' := by
  have htrans := h.trans h'
  rwa [List.append_nil] at htrans

theorem addNode (node : GraphNode) : Adds [node] g (g.addNode node) := rfl

theorem addEdge (source target kind : String) : Adds [] g (g.addEdge source target kind) := rfl

theorem addGroup (id name kind : String) : Adds [] g (g.addGroup id name kind) := rfl

theorem of_hasNode {node : GraphNode} (h : g.hasNode node.id) : Adds [node] g g := by
  have htaken := (g.hasNode_iff _).mp h
  unfold Adds
  rw [List.map_singleton, KeyedList.addAll_cons, KeyedList.addAll_nil, KeyedList.add_of_mem_keys]
  simpa [ids] using htaken

theorem mem_ids {id : String} (h : Adds nodes g g') :
    id ∈ g'.ids ↔ id ∈ g.ids ∨ ∃ n ∈ nodes, n.id = id := by
  unfold ids
  rw [h, KeyedList.mem_keys_addAll]
  simp

theorem foldl {step : Graph → α → Graph} {draws : α → List GraphNode} {l : List α}
    (h : ∀ g a, a ∈ l → Adds (draws a) g (step g a)) (g : Graph) :
    Adds (l.flatMap draws) g (l.foldl step g) := by
  induction l generalizing g with
  | nil => exact refl g
  | cons a l ih =>
      rw [List.flatMap_cons, List.foldl_cons]
      exact (h g a (by simp)).trans (ih (fun g b hb => h g b (by simp [hb])) _)

theorem foldl_links {step : Graph → α → Graph} (h : ∀ g a, Adds [] g (step g a)) (l : List α)
    (g : Graph) : Adds [] g (l.foldl step g) := by
  have hnone : l.flatMap (fun _ => ([] : List GraphNode)) = [] :=
    List.flatMap_eq_nil_iff.mpr fun _ _ => rfl
  rw [← hnone]
  exact foldl (fun g a _ => h g a) g

theorem foldl_nodes {step : Graph → α → Graph} {node : α → GraphNode}
    (h : ∀ g a, Adds [node a] g (step g a)) (l : List α) (g : Graph) :
    Adds (l.map node) g (l.foldl step g) := by
  rw [List.map_eq_flatMap]
  exact foldl (fun g a _ => h g a) g

theorem foldl_filter {step : Graph → α → Graph} {p : α → Bool} {node : α → GraphNode}
    (hdraw : ∀ g a, p a = true → Adds [node a] g (step g a))
    (hskip : ∀ g a, p a = false → Adds [] g (step g a)) (l : List α) (g : Graph) :
    Adds ((l.filter p).map node) g (l.foldl step g) := by
  induction l generalizing g with
  | nil => exact refl g
  | cons a l ih =>
      rw [List.foldl_cons]
      cases hp : p a with
      | true =>
          rw [List.filter_cons_of_pos hp]
          exact trans (hdraw g a hp) (ih _)
      | false =>
          rw [List.filter_cons_of_neg (by simp [hp])]
          exact trans (hskip g a hp) (ih _)

end Adds

/-- Of the nodes of one ID the one that comes first, which is the one drawn. -/
def firstOfEach (nodes : List GraphNode) : List GraphNode :=
  ((KeyedList.empty : KeyedList GraphNode.id).addAll nodes).items

theorem mem_firstOfEach {nodes : List GraphNode} {node : GraphNode} :
    node ∈ firstOfEach nodes ↔ (nodes.find? fun n => n.id = node.id) = some node :=
  KeyedList.mem_addAll_empty

theorem mem_of_firstOfEach {nodes : List GraphNode} {node : GraphNode}
    (h : node ∈ firstOfEach nodes) : node ∈ nodes :=
  List.mem_of_find?_eq_some (mem_firstOfEach.mp h)

theorem exists_firstOfEach {nodes : List GraphNode} {node : GraphNode} (h : node ∈ nodes) :
    ∃ first ∈ firstOfEach nodes, first.id = node.id :=
  KeyedList.exists_mem_addAll h

theorem firstOfEach_append {nodes nodes' : List GraphNode} {node : GraphNode} :
    node ∈ firstOfEach (nodes ++ nodes') ↔
      node ∈ firstOfEach nodes ∨ node ∈ firstOfEach nodes' ∧ ∀ n ∈ nodes, n.id ≠ node.id := by
  rw [mem_firstOfEach, mem_firstOfEach, mem_firstOfEach, List.find?_append, Option.or_eq_some_iff,
    List.find?_eq_none]
  simp [and_comm]

theorem Adds.mem_iff {nodes : List GraphNode} {level : Level} {g : Graph} {n : GraphNode}
    (h : Adds nodes (.new level) g) :
    n ∈ g.nodes.items ↔ ∃ node ∈ firstOfEach nodes, node.grouped = n := by
  have hfirst : n ∈ g.nodes.items ↔
      (nodes.find? fun m => m.id = n.id).map GraphNode.grouped = some n := by
    have hid : (fun m : GraphNode => decide (m.id = n.id)) ∘ GraphNode.grouped =
        fun m => decide (m.id = n.id) :=
      funext fun m => by rw [Function.comp_apply, GraphNode.grouped_id]
    rw [h, show (Graph.new level).nodes = .empty from rfl, KeyedList.mem_addAll_empty,
      List.find?_map, hid]
  rw [hfirst, Option.map_eq_some_iff]
  constructor
  · rintro ⟨node, hfind, rfl⟩
    rw [GraphNode.grouped_id] at hfind
    exact ⟨node, mem_firstOfEach.mpr hfind, rfl⟩
  · rintro ⟨node, hnode, rfl⟩
    refine ⟨node, ?_, rfl⟩
    rw [GraphNode.grouped_id]
    exact mem_firstOfEach.mp hnode

def Draws (g : Graph) (r : ObjectRef) : Prop := ∃ n ∈ g.nodes.items, n.ref = r

namespace Adds

variable {nodes : List GraphNode} {level : Level} {g : Graph}

theorem exists_of_mem {n : GraphNode} (h : Adds nodes (.new level) g) (hn : n ∈ g.nodes.items) :
    ∃ node ∈ nodes, node.grouped = n := by
  rw [h] at hn
  rcases KeyedList.mem_of_mem_addAll hn with hold | ⟨hnew, -⟩
  · cases hold
  · exact List.mem_map.mp hnew

theorem eq_head {root n : GraphNode} (h : Adds (root :: nodes) (.new level) g)
    (hn : n ∈ g.nodes.items) (hid : n.id = root.id) : n = root.grouped := by
  have hroot : root.grouped ∈ g.nodes.items := by
    rw [h, List.map_cons, KeyedList.addAll_cons]
    apply KeyedList.mem_addAll_of_mem
    exact KeyedList.mem_add.mpr (Or.inr ⟨rfl, List.not_mem_nil⟩)
  exact KeyedList.eq_of_key_eq hn hroot (hid.trans (GraphNode.grouped_id root).symm)

/-- Where all nodes of an object have the first node's ID, only the first can be drawn. -/
theorem ref_head {root : GraphNode} {r : ObjectRef} (h : Adds (root :: nodes) (.new level) g)
    (hid : ∀ n ∈ root :: nodes, n.ref = r → n.id = root.id) (hdraws : g.Draws r) : root.ref = r := by
  obtain ⟨n, hn, href⟩ := hdraws
  obtain ⟨node, hnode, rfl⟩ := h.exists_of_mem hn
  have hnodeid := hid node hnode ((GraphNode.grouped_ref node).symm.trans href)
  have hroot := h.eq_head hn ((GraphNode.grouped_id node).trans hnodeid)
  rwa [hroot, GraphNode.grouped_ref] at href

/-- An object is drawn if it has a node and no other object's node has its ID. -/
theorem draws_iff {r : ObjectRef} (h : Adds nodes (.new level) g)
    (hid : ∀ n ∈ nodes, n.ref = r → ∀ n' ∈ nodes, n'.id = n.id → n'.ref = r) :
    g.Draws r ↔ ∃ n ∈ nodes, n.ref = r := by
  constructor
  · rintro ⟨n, hn, href⟩
    obtain ⟨node, hnode, rfl⟩ := h.exists_of_mem hn
    exact ⟨node, hnode, (GraphNode.grouped_ref node).symm.trans href⟩
  · rintro ⟨n, hn, href⟩
    have hadded : n.grouped ∈ nodes.map GraphNode.grouped := List.mem_map_of_mem hn
    obtain ⟨n', hn', hsame⟩ := KeyedList.exists_mem_addAll (l := (Graph.new level).nodes) hadded
    rw [← h] at hn'
    obtain ⟨first, hfirst, rfl⟩ := h.exists_of_mem hn'
    rw [GraphNode.grouped_id, GraphNode.grouped_id] at hsame
    exact ⟨first.grouped, hn', (GraphNode.grouped_ref first).trans (hid n hn href first hfirst hsame)⟩

end Adds
end Graph
end Wiremap.Topology
