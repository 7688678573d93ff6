import Wiremap.Client.GraphCanvas
import Wiremap.Library.Distance

/-! Depth along ownership edges, as the canvas searches for it, is the least number of edges
from a node that nothing leads to. -/
namespace Wiremap.Client.OwnershipDepth

open Wiremap.Library Wiremap.Library.Distance Wiremap.Topology Wiremap.Client.GraphCanvas

def Linked (edges : List GraphEdge) (source target : String) : Prop :=
  ∃ edge ∈ edges, edge.source = source ∧ edge.target = target

/-! ### A round of the search -/

section Round

variable {edges : List GraphEdge} {frontier : List String} {depth : List (String × Nat)}

structure Fresh (edges : List GraphEdge) (frontier : List String) (depth : List (String × Nat))
    (id : String) : Prop where
  unknown : depth.lookup id = none
  linked : ∃ source ∈ frontier, Linked edges source id

/-- What a round has found once it has been through `edges`, the frontier being `k` deep. -/
structure Round (edges : List GraphEdge) (frontier : List String) (depth : List (String × Nat))
    (k : Nat) (found : Search) : Prop where
  lookup : ∀ id d, found.depth.lookup id = some d ↔
    depth.lookup id = some d ∨ Fresh edges frontier depth id ∧ d = k + 1
  next : ∀ id, id ∈ found.next ↔ Fresh edges frontier depth id

theorem linked_concat {edge : GraphEdge} {source target : String} :
    Linked (edges ++ [edge]) source target ↔
      Linked edges source target ∨ edge.source = source ∧ edge.target = target := by
  simp [Linked, or_and_right, exists_or]

theorem fresh_concat {edge : GraphEdge} {id : String} :
    Fresh (edges ++ [edge]) frontier depth id ↔
      Fresh edges frontier depth id ∨
        depth.lookup id = none ∧ edge.source ∈ frontier ∧ edge.target = id := by
  constructor
  · rintro ⟨hunknown, source, hsource, hlinked⟩
    rcases linked_concat.mp hlinked with hlinked | ⟨rfl, htarget⟩
    · exact Or.inl ⟨hunknown, source, hsource, hlinked⟩
    · exact Or.inr ⟨hunknown, hsource, htarget⟩
  · rintro (⟨hunknown, source, hsource, hlinked⟩ | ⟨hunknown, hsource, htarget⟩)
    · exact ⟨hunknown, source, hsource, linked_concat.mpr (Or.inl hlinked)⟩
    · exact ⟨hunknown, edge.source, hsource, linked_concat.mpr (Or.inr ⟨rfl, htarget⟩)⟩

theorem not_fresh_nil {id : String} : ¬Fresh [] frontier depth id := by
  rintro ⟨-, source, -, edge, hedge, -⟩
  simp at hedge

theorem round_nil (k : Nat) : Round [] frontier depth k ⟨depth, []⟩ where
  lookup := by simp [not_fresh_nil]
  next := by simp [not_fresh_nil]

theorem Round.lookup_none {k : Nat} {found : Search} (h : Round edges frontier depth k found)
    {id : String} : found.depth.lookup id = none ↔
      depth.lookup id = none ∧ ¬Fresh edges frontier depth id := by
  simp only [Option.eq_none_iff_forall_ne_some, ne_eq, h.lookup, not_or, not_and, forall_and]
  refine and_congr_right fun _ => ?_
  constructor
  · intro hnone hfresh
    exact hnone (k + 1) hfresh rfl
  · intro hnone d hfresh
    exact absurd hfresh hnone

theorem Round.pass {k : Nat} {found : Search} {edge : GraphEdge}
    (h : Round edges frontier depth k found)
    (hpass : ∀ id, Fresh (edges ++ [edge]) frontier depth id → Fresh edges frontier depth id) :
    Round (edges ++ [edge]) frontier depth k found := by
  have hfresh : ∀ id, Fresh (edges ++ [edge]) frontier depth id ↔ Fresh edges frontier depth id :=
    fun id => ⟨hpass id, fun hfresh => fresh_concat.mpr (Or.inl hfresh)⟩
  constructor
  · intro id d
    rw [h.lookup, hfresh]
  · intro id
    rw [h.next, hfresh]

theorem lookup_concat (entries : List (String × Nat)) (target id : String) (d : Nat) :
    (entries ++ [(target, d)]).lookup id =
      (entries.lookup id).or (if id = target then some d else none) := by
  rw [List.lookup_append]
  by_cases h : id = target
  · simp [h]
  · rw [if_neg h, List.lookup_cons, beq_false_of_ne h]
    rfl

theorem Round.visit {k : Nat} {found : Search} {edge : GraphEdge}
    (h : Round edges frontier depth k found)
    (hfrontier : ∀ id ∈ frontier, depth.lookup id = some k) :
    Round (edges ++ [edge]) frontier depth k (visit frontier found edge) := by
  unfold GraphCanvas.visit
  split
  · rename_i hvisit
    obtain ⟨hsource, htarget⟩ := hvisit
    have hnone := Option.isNone_iff_eq_none.mp htarget
    obtain ⟨hunknown, hunlinked⟩ := h.lookup_none.mp hnone
    have hk : found.depth.lookup edge.source = some k :=
      (h.lookup _ _).mpr (Or.inl (hfrontier _ hsource))
    constructor
    · intro id d
      simp only [hk, Option.getD_some, lookup_concat, fresh_concat]
      by_cases hid : id = edge.target
      · subst hid
        simp [hnone, hunknown, hunlinked, hsource, eq_comm]
      · simp [hid, Ne.symm hid, h.lookup]
    · intro id
      simp only [List.mem_append, List.mem_singleton, h.next, fresh_concat]
      constructor
      · rintro (hfresh | rfl)
        · exact Or.inl hfresh
        · exact Or.inr ⟨hunknown, hsource, rfl⟩
      · rintro (hfresh | ⟨-, -, rfl⟩)
        · exact Or.inl hfresh
        · exact Or.inr rfl
  · rename_i hpass
    refine h.pass fun id hfresh => ?_
    rcases fresh_concat.mp hfresh with hfresh | ⟨hunknown, hsource, rfl⟩
    · exact hfresh
    · have hknown : found.depth.lookup edge.target ≠ none := by simpa [hsource] using hpass
      by_contra hunlinked
      exact hknown (h.lookup_none.mpr ⟨hunknown, hunlinked⟩)

theorem round_visitAll (edges : List GraphEdge) {k : Nat}
    (hfrontier : ∀ id ∈ frontier, depth.lookup id = some k) :
    Round edges frontier depth k (visitAll edges frontier ⟨depth, []⟩) := by
  induction edges using List.reverseRecOn with
  | nil => exact round_nil k
  | append_singleton edges edge ih =>
      rw [visitAll, List.foldl_append]
      exact ih.visit hfrontier

end Round

/-! ### Round by round -/

section Rounds

variable {edges : List GraphEdge} {root : String → Prop} {depth : List (String × Nat)}
variable {frontier : List String}

/-- After `k` rounds, what is at most `k` deep has its depth, and the search goes on from
what is `k` deep. -/
structure Level (edges : List GraphEdge) (root : String → Prop) (k : Nat)
    (depth : List (String × Nat)) (frontier : List String) : Prop where
  lookup : ∀ id d, depth.lookup id = some d ↔ IsDistance (Linked edges) root id d ∧ d ≤ k
  frontier : ∀ id, id ∈ frontier ↔ IsDistance (Linked edges) root id k

theorem Level.lookup_none {k : Nat} (h : Level edges root k depth frontier) {id : String} :
    depth.lookup id = none ↔ ∀ d ≤ k, ¬IsDistance (Linked edges) root id d := by
  simp only [Option.eq_none_iff_forall_ne_some, ne_eq, h.lookup, not_and]
  exact forall_congr' fun d => imp_not_comm

/-- What a round comes upon is one deeper than the frontier. -/
theorem Level.fresh {k : Nat} (h : Level edges root k depth frontier) {id : String} :
    Fresh edges frontier depth id ↔ IsDistance (Linked edges) root id (k + 1) := by
  rw [isDistance_succ, ← h.lookup_none]
  constructor
  · rintro ⟨hunknown, source, hsource, hlinked⟩
    exact ⟨⟨source, (h.frontier source).mp hsource, hlinked⟩, hunknown⟩
  · rintro ⟨⟨source, hsource, hlinked⟩, hunknown⟩
    exact ⟨hunknown, source, (h.frontier source).mpr hsource, hlinked⟩

theorem Level.deeper {k : Nat} (h : Level edges root k depth frontier) :
    Level edges root (k + 1) (visitAll edges frontier ⟨depth, []⟩).depth
      (visitAll edges frontier ⟨depth, []⟩).next := by
  have hfrontier : ∀ id ∈ frontier, depth.lookup id = some k := fun id hid =>
    (h.lookup id k).mpr ⟨(h.frontier id).mp hid, le_rfl⟩
  have hround := round_visitAll edges hfrontier
  constructor
  · intro id d
    rw [hround.lookup, h.lookup, h.fresh]
    constructor
    · rintro (⟨hd, hle⟩ | ⟨hd, rfl⟩)
      · exact ⟨hd, hle.trans (Nat.le_succ k)⟩
      · exact ⟨hd, le_rfl⟩
    · rintro ⟨hd, hle⟩
      rcases hle.lt_or_eq with hlt | rfl
      · exact Or.inl ⟨hd, Nat.lt_succ_iff.mp hlt⟩
      · exact Or.inr ⟨hd, rfl⟩
  · intro id
    rw [hround.next, h.fresh]

theorem Level.done {k : Nat} (h : Level edges root k depth []) (id : String) (d : Nat) :
    depth.lookup id = some d ↔ IsDistance (Linked edges) root id d := by
  have hempty : ∀ id, ¬IsDistance (Linked edges) root id k := fun id hid =>
    absurd ((h.frontier id).mpr hid) List.not_mem_nil
  rw [h.lookup]
  exact and_iff_left_of_imp fun hd => (lt_of_empty hempty hd).le

theorem lookup_deepen {k : Nat} (h : Level edges root k depth frontier) (id : String) (d : Nat) :
    (deepen edges depth frontier).lookup id = some d ↔
      IsDistance (Linked edges) root id d := by
  induction depth, frontier using deepen.induct edges generalizing k with
  | case1 depth =>
      rw [deepen]
      exact h.done id d
  | case2 depth first frontier found =>
      rename_i hnext
      have hlevel := h.deeper
      rw [hnext] at hlevel
      rw [deepen, if_pos hnext]
      exact hlevel.done id d
  | case3 depth first frontier found hnext =>
      rename_i ih
      rw [deepen, if_neg hnext]
      exact ih h.deeper

end Rounds

/-! ### The whole search -/

def IsNode (g : KubeGraph) (id : String) : Prop := ∃ n ∈ g.nodes.items, n.id = id

structure Root (g : KubeGraph) (id : String) : Prop where
  isNode : IsNode g id
  noIncoming : ∀ edge ∈ g.edges, edge.target ≠ id

structure Closed (g : KubeGraph) : Prop where
  source : ∀ edge ∈ g.edges, IsNode g edge.source
  target : ∀ edge ∈ g.edges, IsNode g edge.target

/-- The depths of a breadth-first search from the nodes that no edge leads to. -/
structure BreadthFirst (g : KubeGraph) (depth : List (String × Nat)) : Prop where
  assigned : ∀ id, (depth.lookup id).isSome ↔
    IsNode g id ∧ Reachable (Linked g.edges) (Root g) id
  least : ∀ id d, depth.lookup id = some d →
    IsLeast {n | ∃ root, Root g root ∧ Walk (Linked g.edges) n root id} d

theorem isNode_of_reachable {g : KubeGraph} (hclosed : Closed g) {id : String}
    (h : Reachable (Linked g.edges) (Root g) id) : IsNode g id := by
  obtain ⟨n, root, hroot, walk⟩ := h
  cases walk with
  | refl => exact hroot.isNode
  | concat walk hlinked =>
      obtain ⟨edge, hedge, -, rfl⟩ := hlinked
      exact hclosed.target edge hedge

theorem lookup_map_zero (ids : List String) (id : String) (d : Nat) :
    (ids.map fun id => (id, 0)).lookup id = some d ↔ id ∈ ids ∧ d = 0 := by
  induction ids with
  | nil => simp
  | cons first ids ih =>
      rw [List.map_cons, List.lookup_cons]
      by_cases h : id = first
      · simp [h, eq_comm]
      · rw [beq_false_of_ne h, List.mem_cons, or_iff_right h]
        exact ih

theorem level_roots {g : KubeGraph} {roots : List String}
    (hroots : ∀ id, id ∈ roots ↔ Root g id) :
    Level g.edges (Root g) 0 (roots.map fun id => (id, 0)) roots where
  lookup id d := by
    rw [lookup_map_zero, Nat.le_zero]
    refine and_congr_left ?_
    rintro rfl
    rw [isDistance_zero, hroots]
  frontier id := by rw [isDistance_zero, hroots]

theorem mem_roots {g : KubeGraph} {id : String} :
    id ∈ (g.nodes.items.filter fun n => n.id ∉ g.edges.map (·.target)).map (·.id) ↔
      Root g id := by
  simp only [List.mem_map, List.mem_filter, decide_eq_true_eq, not_exists, not_and]
  constructor
  · rintro ⟨n, ⟨hn, hnone⟩, rfl⟩
    exact ⟨⟨n, hn, rfl⟩, hnone⟩
  · rintro ⟨⟨n, hn, rfl⟩, hnone⟩
    exact ⟨n, ⟨hn, hnone⟩, rfl⟩

theorem ownershipDepth_breadthFirst {g : KubeGraph} (hclosed : Closed g) :
    BreadthFirst g (ownershipDepth g) := by
  have hdepth : ∀ id d, (ownershipDepth g).lookup id = some d ↔
      IsDistance (Linked g.edges) (Root g) id d :=
    lookup_deepen (level_roots fun id => mem_roots)
  constructor
  · intro id
    rw [Option.isSome_iff_exists]
    simp only [hdepth, ← reachable_iff]
    exact (and_iff_right_of_imp (isNode_of_reachable hclosed)).symm
  · intro id d hd
    exact (hdepth id d).mp hd

/-- A Deployment, a ReplicaSet and a Pod, the last two owning each other. -/
def cyclicGraph : KubeGraph where
  level := .object
  nodes := KeyedList.empty.addAll
    [{ id := "Deployment/shop/web", kind := "Deployment", name := "web", status := .healthy, weight := 1 },
      { id := "ReplicaSet/shop/web", kind := "ReplicaSet", name := "web", status := .healthy, weight := 1 },
      { id := "Pod/shop/web", kind := "Pod", name := "web", status := .healthy, weight := 1 }]
  edges := [⟨"Deployment/shop/web", "ReplicaSet/shop/web", "owns"⟩,
    ⟨"Deployment/shop/web", "ReplicaSet/shop/web", "owns"⟩,
    ⟨"ReplicaSet/shop/web", "Pod/shop/web", "owns"⟩,
    ⟨"Pod/shop/web", "ReplicaSet/shop/web", "owns"⟩, ⟨"Pod/shop/web", "Pod/shop/web", "owns"⟩]
  groups := .empty

theorem cyclicGraph_breadthFirst : BreadthFirst cyclicGraph (ownershipDepth cyclicGraph) :=
  ownershipDepth_breadthFirst
    ⟨show ∀ edge ∈ cyclicGraph.edges, ∃ n ∈ cyclicGraph.nodes.items, n.id = edge.source by decide,
      show ∀ edge ∈ cyclicGraph.edges, ∃ n ∈ cyclicGraph.nodes.items, n.id = edge.target by decide⟩

end Wiremap.Client.OwnershipDepth
