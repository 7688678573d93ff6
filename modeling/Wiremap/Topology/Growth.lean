import Wiremap.Library.Fallible
import Wiremap.Topology.Graph

/-! What a construction step may do to a graph: keep all there is, and draw new
edges of its own kinds between nodes that are there. -/
namespace Wiremap.Topology

open Wiremap.Library

namespace Graph

/-- Every edge joins two nodes, and every grouped node is in a listed group. -/
structure Closed (g : Graph) : Prop where
  source : ∀ e ∈ g.edges.items, e.source ∈ g.ids
  target : ∀ e ∈ g.edges.items, e.target ∈ g.ids
  group : ∀ n ∈ g.nodes.items, n.group = "" ∨ n.group ∈ g.groups.keys

theorem closed_new (level : Level) : (new level).Closed where
  source e he := by cases he
  target e he := by cases he
  group n hn := by cases hn

theorem mem_ids_foldl_addNode (f : α → GraphNode) (l : List α) (g : Graph) (id : String) :
    id ∈ (l.foldl (fun g a => g.addNode (f a)) g).ids ↔ id ∈ g.ids ∨ ∃ a ∈ l, (f a).id = id := by
  induction l generalizing g with
  | nil => simp
  | cons a l ih =>
      rw [List.foldl_cons, ih, mem_ids_addNode, or_assoc, eq_comm (a := id)]
      simp

theorem edges_foldl_addNode (f : α → GraphNode) (l : List α) (g : Graph) :
    (l.foldl (fun g a => g.addNode (f a)) g).edges = g.edges :=
  List.foldlRecOn (motive := fun g' : Graph => g'.edges = g.edges) l _ rfl fun _ hg' _ _ => hg'

theorem mem_edges_foldl {step : Graph → α → Graph} {E : α → GraphEdge → Prop}
    (hstep : ∀ g a e, e ∈ (step g a).edges.items ↔ e ∈ g.edges.items ∨ E a e) (l : List α)
    (g : Graph) (e : GraphEdge) :
    e ∈ (l.foldl step g).edges.items ↔ e ∈ g.edges.items ∨ ∃ a ∈ l, E a e := by
  induction l generalizing g with
  | nil => simp
  | cons a l ih =>
      rw [List.foldl_cons, ih, hstep, or_assoc]
      simp

structure Grows (kinds : List String) (g g' : Graph) : Prop where
  level : g'.level = g.level
  ids : g.ids ⊆ g'.ids
  edges : g.edges.items ⊆ g'.edges.items
  newEdge : ∀ e ∈ g'.edges.items, e ∈ g.edges.items ∨ e.kind ∈ kinds
  closed : g.Closed → g'.Closed

namespace Grows

variable {kinds : List String} {g g' g'' : Graph}

theorem refl (g : Graph) : Grows kinds g g where
  level := rfl
  ids := List.Subset.refl _
  edges := List.Subset.refl _
  newEdge _ := Or.inl
  closed := id

theorem trans (h : Grows kinds g g') (h' : Grows kinds g' g'') : Grows kinds g g'' where
  level := h'.level.trans h.level
  ids := List.Subset.trans h.ids h'.ids
  edges := List.Subset.trans h.edges h'.edges
  newEdge e he := by
    rcases h'.newEdge e he with hold | hnew
    · exact h.newEdge e hold
    · exact Or.inr hnew
  closed hclosed := h'.closed (h.closed hclosed)

theorem weaken {kinds' : List String} (h : Grows kinds g g') (hsub : kinds ⊆ kinds') :
    Grows kinds' g g' where
  level := h.level
  ids := h.ids
  edges := h.edges
  newEdge e he := (h.newEdge e he).imp_right fun hkind => hsub hkind
  closed := h.closed

theorem addNode {node : GraphNode} (hgroup : node.group = "" ∨ node.group ∈ g.groups.keys) :
    Grows kinds g (g.addNode node) where
  level := rfl
  ids id hid := by simp [hid]
  edges := List.Subset.refl _
  newEdge _ := Or.inl
  closed hclosed := by
    refine ⟨fun e he => ?_, fun e he => ?_, fun n hn => ?_⟩
    · simp [hclosed.source e he]
    · simp [hclosed.target e he]
    · rcases g.mem_nodes_addNode hn with hold | rfl
      · exact hclosed.group n hold
      · rw [GraphNode.grouped_group]
        exact hgroup

theorem addEdge {source target kind : String} (hsource : source ∈ g.ids) (htarget : target ∈ g.ids)
    (hkind : kind ∈ kinds) : Grows kinds g (g.addEdge source target kind) where
  level := rfl
  ids := List.Subset.refl _
  edges e he := by simp [he]
  newEdge e he := by
    rw [mem_edges_addEdge] at he
    rcases he with hold | rfl
    · exact Or.inl hold
    · exact Or.inr hkind
  closed hclosed := by
    refine ⟨fun e he => ?_, fun e he => ?_, hclosed.group⟩
    · rw [mem_edges_addEdge] at he
      rcases he with hold | rfl
      · exact hclosed.source e hold
      · exact hsource
    · rw [mem_edges_addEdge] at he
      rcases he with hold | rfl
      · exact hclosed.target e hold
      · exact htarget

theorem addGroup (id name kind : String) : Grows kinds g (g.addGroup id name kind) where
  level := rfl
  ids := List.Subset.refl _
  edges := List.Subset.refl _
  newEdge _ := Or.inl
  closed hclosed := by
    refine ⟨hclosed.source, hclosed.target, fun n hn => ?_⟩
    rcases hclosed.group n hn with hnone | hlisted
    · exact Or.inl hnone
    · exact Or.inr (KeyedList.mem_keys_add.mpr (Or.inl hlisted))

theorem addNode_link {node : GraphNode} {source kind : String} (hgroup : node.group = "")
    (hsource : source ∈ g.ids) (hkind : kind ∈ kinds) :
    Grows kinds g ((g.addNode node).addEdge source node.id kind) :=
  (addNode (Or.inl hgroup)).trans (addEdge (by simp [hsource]) (by simp) hkind)

theorem foldl {step : Graph → α → Graph} {l : List α}
    (h : ∀ g' a, a ∈ l → Grows kinds g g' → Grows kinds g' (step g' a)) :
    Grows kinds g (l.foldl step g) :=
  List.foldlRecOn l step (refl g) fun g' hg' a ha => hg'.trans (h g' a ha hg')

theorem foldlM {α ε : Type} {step : Graph → α → Except ε Graph} {l : List α}
    (hstep : ∀ g' a g'', a ∈ l → Grows kinds g g' → step g' a = .ok g'' → Grows kinds g' g'')
    (h : l.foldlM step g = .ok g') : Grows kinds g g' :=
  Fallible.foldlM_invariant (refl g)
    (fun b b' a ha hb hab => hb.trans (hstep b a b' ha hb hab)) h

end Grows

def GrownAt (level : Level) (g : Graph) : Prop := ∃ kinds, Grows kinds (new level) g

variable {kinds : List String} {level : Level} {g g' : Graph}

theorem Grows.grownAt (h : Grows kinds (new level) g) : g.GrownAt level := ⟨kinds, h⟩

theorem GrownAt.grow (h : g.GrownAt level) (h' : Grows kinds g g') : g'.GrownAt level := by
  obtain ⟨kinds', hgrown⟩ := h
  exact ⟨kinds' ++ kinds, (hgrown.weaken (List.subset_append_left _ _)).trans
    (h'.weaken (List.subset_append_right _ _))⟩

theorem GrownAt.level_eq (h : g.GrownAt level) : g.level = level := by
  obtain ⟨kinds, hgrown⟩ := h
  exact hgrown.level

theorem GrownAt.closed (h : g.GrownAt level) : g.Closed := by
  obtain ⟨kinds, hgrown⟩ := h
  exact hgrown.closed (closed_new level)

end Graph
end Wiremap.Topology
