import Wiremap.Topology.NamespaceGrowth

/-! Which edges a construction step draws, as `Growth` has it for their kinds and
`Drawing` for the nodes. -/
namespace Wiremap.Topology

open Wiremap.Kube Wiremap.Library
open Wiremap.Topology.Graph (Grows)

namespace Graph

/-- `g'` has the edges of `g` and those of `E`. -/
def Links (E : GraphEdge → Prop) (g g' : Graph) : Prop :=
  ∀ e, e ∈ g'.edges.items ↔ e ∈ g.edges.items ∨ E e

namespace Links

variable {E E' : GraphEdge → Prop} {g g' g'' : Graph}

theorem refl (g : Graph) : Links (fun _ => False) g g := by
  intro e
  simp

theorem addNode (g : Graph) (node : GraphNode) : Links (fun _ => False) g (g.addNode node) := by
  intro e
  simp

theorem addEdge (g : Graph) (source target kind : String) :
    Links (fun e => e = ⟨source, target, kind⟩) g (g.addEdge source target kind) := by
  intro e
  simp

theorem trans (h : Links E g g') (h' : Links E' g' g'') : Links (fun e => E e ∨ E' e) g g'' := by
  intro e
  rw [h' e, h e, or_assoc]

theorem congr (h : Links E g g') (hE : ∀ e, E e ↔ E' e) : Links E' g g' := by
  intro e
  rw [h e, hE e]

theorem after_node {node : GraphNode} (h : Links E (g.addNode node) g') : Links E g g' := by
  intro e
  rw [h e, edges_addNode]

theorem foldl {I : Graph → Prop} {step : Graph → α → Graph} {E : α → GraphEdge → Prop}
    {l : List α} (h : ∀ g a, a ∈ l → I g → Links (E a) g (step g a) ∧ I (step g a)) (hg : I g) :
    Links (fun e => ∃ a ∈ l, E a e) g (l.foldl step g) := by
  induction l generalizing g with
  | nil =>
      intro e
      simp
  | cons a l ih =>
      obtain ⟨hfirst, hkept⟩ := h g a (by simp) hg
      have hrest := ih (fun g b hb => h g b (by simp [hb])) hkept
      exact (hfirst.trans hrest).congr (by simp)

theorem foldl_of {step : Graph → α → Graph} {E : α → GraphEdge → Prop}
    (h : ∀ g a, Links (E a) g (step g a)) (l : List α) (g : Graph) :
    Links (fun e => ∃ a ∈ l, E a e) g (l.foldl step g) :=
  foldl (I := fun _ => True) (fun g a _ _ => ⟨h g a, trivial⟩) trivial

theorem mem_foldl {step : Graph → α → Graph} {e : GraphEdge} {P : α → Prop}
    (h : ∀ g a, e ∈ (step g a).edges.items ↔ e ∈ g.edges.items ∨ P a) (l : List α) (g : Graph) :
    e ∈ (l.foldl step g).edges.items ↔ e ∈ g.edges.items ∨ ∃ a ∈ l, P a := by
  induction l generalizing g with
  | nil => simp
  | cons a l ih => rw [List.foldl_cons, ih, h, or_assoc, List.exists_mem_cons_iff]

theorem mem_new {level : Level} (h : Links E (Graph.new level) g) (e : GraphEdge) :
    e ∈ g.edges.items ↔ E e := by
  rw [h e]
  exact or_iff_right (List.not_mem_nil)

end Links
end Graph

/-! ### The steps of the namespace level -/

variable {c : Cluster} {order : RangeOrder} {ns : String} {owners : NamespaceOwners}
variable {g g' : Graph}

def DrawsOnly (owners : NamespaceOwners) (kinds : List String)
    (step : Graph → Except AppError Graph) : Prop :=
  ∀ g g', Drawn owners g → step g = .ok g' → Grows kinds g g'

theorem drawsOnly_foldlM {kindss : List (List String)}
    {steps : List (Graph → Except AppError Graph)}
    (h : List.Forall₂ (DrawsOnly owners) kindss steps) (hdrawn : Drawn owners g)
    (hrun : steps.foldlM (fun g step => step g) g = .ok g') : Grows kindss.flatten g g' := by
  induction h generalizing g with
  | nil =>
      obtain rfl := Fallible.pure_eq_ok.mp hrun
      exact .refl _
  | @cons kinds step kindss steps hstep hsteps ih =>
      rw [List.foldlM_cons, Fallible.bind_eq_ok] at hrun
      obtain ⟨g₁, hfirst, hrest⟩ := hrun
      have hgrown := hstep g g₁ hdrawn hfirst
      rw [List.flatten_cons]
      exact (hgrown.weaken (List.subset_append_left _ _)).trans
        ((ih (hdrawn.grow hgrown) hrest).weaken (List.subset_append_right _ _))

def namespaceStepKinds : List (List String) :=
  [["selects"], ["routes"], ["routes"], ["bound", "uses"], ["scales"], ["protects"],
    ["allows", "applies"], ["binds", "grants", "runs-as"], []]

theorem drawsOnly_namespaceSteps (c : Cluster) (order : RangeOrder) (ns : String)
    (owners : NamespaceOwners) :
    List.Forall₂ (DrawsOnly owners) namespaceStepKinds (namespaceSteps c order ns owners) := by
  unfold namespaceStepKinds namespaceSteps
  refine .cons ?services (.cons ?ingresses (.cons ?gateways (.cons ?config (.cons ?autoscalers
    (.cons ?budgets (.cons ?policies (.cons ?accounts (.cons ?quotas .nil))))))))
  case services => exact fun _ _ => grows_addServices
  case ingresses => exact fun _ _ _ => grows_addIngresses
  case gateways => exact fun _ _ _ => grows_addGatewayRoutes
  case config => exact fun _ _ => grows_addConfigRefs
  case autoscalers => exact fun _ _ _ => grows_addAutoscalers
  case budgets => exact fun _ _ => grows_addDisruptionBudgets
  case policies => exact fun _ _ => grows_addNetworkPolicies
  case accounts => exact fun _ _ => grows_addServiceAccounts
  case quotas => exact fun _ _ _ => grows_addQuotas

theorem level_at_step (i : Nat) {step : Graph → Except AppError Graph}
    (hi : (namespaceSteps c order ns owners)[i]? = some step)
    (howners : listPodOwners c ns = .ok owners) (h : namespaceLevel c order ns = .ok g) :
    ∃ g₁ g₂, ((namespaceSteps c order ns owners).take i).foldlM (fun g step => step g)
        (owners.owners.foldl (fun g o => g.addNode o.node) (Graph.new .namespace)) = .ok g₁ ∧
      Drawn owners g₁ ∧ (∀ e ∈ g₁.edges.items, e.kind ∈ (namespaceStepKinds.take i).flatten) ∧
      step g₁ = .ok g₂ ∧ Grows (namespaceStepKinds.drop (i + 1)).flatten g₂ g := by
  simp only [namespaceLevel, Fallible.bind_eq_ok] at h
  obtain ⟨owners', howners', hrun⟩ := h
  obtain rfl := Except.ok.inj (howners.symm.trans howners')
  obtain ⟨hlt, hget⟩ := List.getElem?_eq_some_iff.mp hi
  have hsplit : namespaceSteps c order ns owners = (namespaceSteps c order ns owners).take i ++
      step :: (namespaceSteps c order ns owners).drop (i + 1) := by
    rw [← hget, ← List.drop_eq_getElem_cons hlt, List.take_append_drop]
  rw [hsplit, List.foldlM_append, Fallible.bind_eq_ok] at hrun
  obtain ⟨g₁, hfirst, hrest⟩ := hrun
  rw [List.foldlM_cons, Fallible.bind_eq_ok] at hrest
  obtain ⟨g₂, hmiddle, hlast⟩ := hrest
  have hstart := drawn_owners .namespace (listed_listPodOwners howners)
  have hall := drawsOnly_namespaceSteps c order ns owners
  have hbefore := drawsOnly_foldlM (List.forall₂_take i hall) hstart hfirst
  have hdrawn := hstart.grow hbefore
  have hrest := List.forall₂_drop i hall
  rw [List.drop_eq_getElem_cons hlt, hget] at hrest
  obtain ⟨own, _, hown, -, -⟩ := List.forall₂_cons_right_iff.mp hrest
  have hafter := drawsOnly_foldlM (List.forall₂_drop (i + 1) hall)
    (hdrawn.grow (hown g₁ g₂ hdrawn hmiddle)) hlast
  refine ⟨g₁, g₂, hfirst, hdrawn, fun e he => ?_, hmiddle, hafter⟩
  refine (hbefore.newEdge e he).resolve_left fun hold => ?_
  rw [Graph.edges_foldl_addNode] at hold
  cases hold

/-- Edges of a kind that no other step draws are there as the step drew them. -/
theorem edges_of_step (order : RangeOrder) (i : Nat) {step : Graph → Except AppError Graph}
    (hi : (namespaceSteps c order ns owners)[i]? = some step)
    (howners : listPodOwners c ns = .ok owners) (h : namespaceLevel c order ns = .ok g) :
    ∃ g₁ g₂, Drawn owners g₁ ∧ step g₁ = .ok g₂ ∧
      ∀ e : GraphEdge, e.kind ∉ (namespaceStepKinds.take i).flatten →
        e.kind ∉ (namespaceStepKinds.drop (i + 1)).flatten →
        e ∉ g₁.edges.items ∧ (e ∈ g.edges.items ↔ e ∈ g₂.edges.items) := by
  obtain ⟨g₁, g₂, -, hdrawn, hbefore, hmiddle, hafter⟩ := level_at_step i hi howners h
  refine ⟨g₁, g₂, hdrawn, hmiddle, fun e hearly hlate => ⟨fun he => hearly (hbefore e he), ?_⟩⟩
  exact ⟨fun he => (hafter.newEdge e he).resolve_right hlate, fun he => hafter.edges he⟩

theorem edges_of_addConfigRefs (howners : listPodOwners c ns = .ok owners)
    (h : namespaceLevel c order ns = .ok g) :
    ∃ g₁ g₂, Drawn owners g₁ ∧ addConfigRefs c order ns owners g₁ = .ok g₂ ∧
      ∀ e : GraphEdge, e.kind = "bound" ∨ e.kind = "uses" →
        e ∉ g₁.edges.items ∧ (e ∈ g.edges.items ↔ e ∈ g₂.edges.items) := by
  obtain ⟨g₁, g₂, hdrawn, hrun, hedges⟩ :=
    edges_of_step order 3 rfl howners h
  refine ⟨g₁, g₂, hdrawn, hrun, fun e hkind => ?_⟩
  rcases hkind with hkind | hkind
  · exact hedges e (by rw [hkind]; decide) (by rw [hkind]; decide)
  · exact hedges e (by rw [hkind]; decide) (by rw [hkind]; decide)

theorem edges_of_addServiceAccounts (howners : listPodOwners c ns = .ok owners)
    (h : namespaceLevel c order ns = .ok g) :
    ∃ g₁ g₂, Drawn owners g₁ ∧ addServiceAccounts c order ns owners g₁ = .ok g₂ ∧
      ∀ e : GraphEdge, e.kind = "binds" ∨ e.kind = "grants" →
        e ∉ g₁.edges.items ∧ (e ∈ g.edges.items ↔ e ∈ g₂.edges.items) := by
  obtain ⟨g₁, g₂, hdrawn, hrun, hedges⟩ :=
    edges_of_step order 7 rfl howners h
  refine ⟨g₁, g₂, hdrawn, hrun, fun e hkind => ?_⟩
  rcases hkind with hkind | hkind
  · exact hedges e (by rw [hkind]; decide) (by rw [hkind]; decide)
  · exact hedges e (by rw [hkind]; decide) (by rw [hkind]; decide)

end Wiremap.Topology
