import Wiremap.Topology.RangeOrders
import Wiremap.Topology.StorageViews

/-! Graphs that have the same IDs and the same edges, whatever order they were drawn
in.  No step of the namespace level tells two such graphs apart. -/
namespace Wiremap.Topology

open Wiremap.Kube Wiremap.Library
open Wiremap.Topology.Graph (Adds Links)

variable {c : Cluster} {ns : String} {owners : NamespaceOwners} {g g' g₁ g₁' : Graph}

namespace Graph

structure Alike (g g' : Graph) : Prop where
  ids : ∀ id, id ∈ g.ids ↔ id ∈ g'.ids
  edges : ∀ e, e ∈ g.edges.items ↔ e ∈ g'.edges.items

namespace Alike

theorem refl (g : Graph) : Alike g g := ⟨fun _ => .rfl, fun _ => .rfl⟩

theorem symm (h : Alike g g') : Alike g' g :=
  ⟨fun id => (h.ids id).symm, fun e => (h.edges e).symm⟩

theorem trans (h : Alike g g') (h' : Alike g' g₁) : Alike g g₁ :=
  ⟨fun id => (h.ids id).trans (h'.ids id), fun e => (h.edges e).trans (h'.edges e)⟩

theorem hasNode_eq (h : Alike g g') (id : String) : g.hasNode id = g'.hasNode id := by
  rw [Bool.eq_iff_iff, hasNode_iff, hasNode_iff, h.ids]

theorem addNode (h : Alike g g') (node : GraphNode) : Alike (g.addNode node) (g'.addNode node) where
  ids id := by rw [mem_ids_addNode, mem_ids_addNode, h.ids]
  edges := h.edges

theorem addEdge (h : Alike g g') (source target kind : String) :
    Alike (g.addEdge source target kind) (g'.addEdge source target kind) where
  ids := h.ids
  edges e := by rw [mem_edges_addEdge, mem_edges_addEdge, h.edges]

theorem of_links {nodes nodes' : List GraphNode} {E E' : GraphEdge → Prop} (h : Alike g g')
    (hadds : Adds nodes g g₁) (hadds' : Adds nodes' g' g₁') (hlinks : Links E g g₁)
    (hlinks' : Links E' g' g₁') (hnodes : ∀ n, n ∈ nodes ↔ n ∈ nodes') (hE : ∀ e, E e ↔ E' e) :
    Alike g₁ g₁' where
  ids id := by simp only [hadds.mem_ids, hadds'.mem_ids, h.ids, hnodes]
  edges e := by rw [hlinks e, hlinks' e, h.edges, hE]

theorem foldl {α : Type} {step : Graph → α → Graph}
    (hstep : ∀ g g' a, Alike g g' → Alike (step g a) (step g' a)) (h : Alike g g')
    (l : List α) : Alike (l.foldl step g) (l.foldl step g') := by
  induction l generalizing g g' with
  | nil => exact h
  | cons a l ih => exact ih (hstep g g' a h)

theorem foldl_perm {α : Type} {step : Graph → α → Graph}
    (hstep : ∀ g g' a, Alike g g' → Alike (step g a) (step g' a))
    (hswap : ∀ g a b, Alike (step (step g a) b) (step (step g b) a)) (h : Alike g g')
    {l l' : List α} (hperm : l.Perm l') : Alike (l.foldl step g) (l'.foldl step g') := by
  induction hperm generalizing g g' with
  | nil => exact h
  | cons a _ ih => exact ih (hstep g g' a h)
  | swap a b l => exact foldl hstep ((hstep _ _ a (hstep g g' b h)).trans (hswap g' b a)) l
  | trans _ _ ih ih' => exact (ih (refl g)).trans (ih' h)

theorem edges_length (h : Alike g g') : g.edges.items.length = g'.edges.items.length := by
  have hnodup : ∀ g : Graph, g.edges.items.Nodup := fun g => by simpa using g.edges.unique
  exact ((List.perm_ext_iff_of_nodup (hnodup g) (hnodup g')).mpr h.edges).length_eq

end Alike
end Graph

open Wiremap.Topology.Graph (Alike)

def AlikeResults (r r' : Except AppError Graph) : Prop :=
  match r, r' with
  | .ok g, .ok g' => Alike g g'
  | .error err, .error err' => err = err'
  | _, _ => False

namespace AlikeResults

theorem cases {r r' : Except AppError Graph} (h : AlikeResults r r') :
    (∃ err, r = .error err ∧ r' = .error err) ∨
      ∃ g g', r = .ok g ∧ r' = .ok g' ∧ Alike g g' := by
  cases r with
  | error err =>
      cases r' with
      | error err' => exact .inl ⟨err, rfl, congrArg Except.error (Eq.symm h)⟩
      | ok g' => exact h.elim
  | ok g =>
      cases r' with
      | error err' => exact h.elim
      | ok g' => exact .inr ⟨g, g', rfl, rfl, h⟩

theorem bind {r r' : Except AppError Graph} {step step' : Graph → Except AppError Graph}
    (h : AlikeResults r r') (hstep : ∀ g g', Alike g g' → AlikeResults (step g) (step' g')) :
    AlikeResults (r >>= step) (r' >>= step') := by
  obtain ⟨err, rfl, rfl⟩ | ⟨g, g', rfl, rfl, halike⟩ := h.cases
  · exact rfl
  · exact hstep g g' halike

theorem read {α : Type} (x : Except AppError α) {f f' : α → Except AppError Graph}
    (h : ∀ a, x = .ok a → AlikeResults (f a) (f' a)) : AlikeResults (x >>= f) (x >>= f') := by
  cases x with
  | error err => exact rfl
  | ok a => exact h a rfl

theorem optionalStep {α : Type} (x : Except ApiError α) (action : String)
    {f f' : α → Except AppError Graph} (hg : Alike g g')
    (h : ∀ a, AlikeResults (f a) (f' a)) :
    AlikeResults (optionalStep x action g f) (Wiremap.Topology.optionalStep x action g' f') := by
  unfold Wiremap.Topology.optionalStep
  cases x with
  | ok a => exact h a
  | error err =>
      dsimp only
      split
      · exact hg
      · exact rfl

theorem optionalRead {α : Type} (x : Except ReadError α) (action : String)
    {f f' : α → Except AppError Graph} (hg : Alike g g')
    (h : ∀ a, AlikeResults (f a) (f' a)) :
    AlikeResults (optionalRead x action g f) (Wiremap.Topology.optionalRead x action g' f') := by
  unfold Wiremap.Topology.optionalRead
  cases x with
  | ok a => exact h a
  | error err =>
      cases err with
      | app err => exact rfl
      | api err =>
          dsimp only
          split
          · exact hg
          · exact rfl

end AlikeResults

/-! ### Steps that range over lists only -/

theorem alike_addService (svc : Service) (h : Alike g g') :
    Alike (addService c ns owners g svc) (addService c ns owners g' svc) := by
  unfold addService
  dsimp only
  split
  · refine .foldl (fun g g' o h => ?_) (h.addNode _) _
    unfold linkSelected
    split
    · exact h.addEdge _ _ _
    · exact h
  · refine .foldl (fun g g' pod h => ?_) (h.addNode _) _
    unfold linkEndpoint
    split
    · exact h.addEdge _ _ _
    · exact h

theorem alike_addServices (h : Alike g g') :
    AlikeResults (addServices c ns owners g) (addServices c ns owners g') :=
  .read _ fun services _ => Alike.foldl (fun _ _ svc => alike_addService svc) h services

theorem alike_routeTo (id ns backend : String) (h : Alike g g') :
    Alike (routeTo id ns g backend) (routeTo id ns g' backend) := by
  unfold routeTo
  dsimp only
  rw [h.hasNode_eq]
  split
  · exact h.addEdge _ _ _
  · exact h

theorem alike_addIngress (ing : Ingress) (h : Alike g g') :
    Alike (addIngress ns g ing) (addIngress ns g' ing) :=
  .foldl (fun _ _ => alike_routeTo _ _) (h.addNode _) _

theorem alike_addIngresses (h : Alike g g') :
    AlikeResults (addIngresses c ns g) (addIngresses c ns g') :=
  .read _ fun ingresses _ => Alike.foldl (fun _ _ => alike_addIngress) h ingresses

theorem alike_addParent (id ns : String) (raw : Json) (h : Alike g g') :
    Alike (addParent id ns g raw) (addParent id ns g' raw) := by
  unfold addParent
  split
  · exact h
  · dsimp only
    rw [h.hasNode_eq]
    split
    · exact h.addEdge _ _ _
    · exact (h.addNode _).addEdge _ _ _

theorem alike_addBackend (id ns : String) (raw : Json) (h : Alike g g') :
    Alike (addBackend id ns g raw) (addBackend id ns g' raw) := by
  unfold addBackend
  dsimp only
  split
  · exact h
  · exact alike_routeTo _ _ _ h

theorem alike_addRule (id ns : String) (rule : Json) (h : Alike g g') :
    Alike (addRule id ns g rule) (addRule id ns g' rule) :=
  .foldl (fun _ _ => alike_addBackend id ns) h _

theorem alike_addRoute (kind ns : String) (route : Unstructured) (h : Alike g g') :
    Alike (addRoute kind ns g route) (addRoute kind ns g' route) := by
  have hparents := Alike.foldl (fun _ _ => alike_addParent (routeNode kind ns route).id ns)
    (h.addNode (routeNode kind ns route)) (route.object.nestedSlice ["spec", "parentRefs"])
  exact .foldl (fun _ _ => alike_addRule _ _) hparents _

theorem alike_addRoutes (kinds : List String) (h : Alike g g') :
    AlikeResults (addRoutes c ns g kinds) (addRoutes c ns g' kinds) := by
  induction kinds generalizing g g' with
  | nil => exact h
  | cons kind rest ih =>
      unfold addRoutes
      split
      · exact .optionalRead _ _ h fun routes =>
          ih (.foldl (fun _ _ => alike_addRoute kind ns) h routes)
      · exact ih h

theorem alike_addGatewayRoutes (h : Alike g g') :
    AlikeResults (addGatewayRoutes c ns g) (addGatewayRoutes c ns g') := by
  unfold addGatewayRoutes
  split
  · refine .optionalRead _ _ h fun gateways => alike_addRoutes _ ?_
    exact .foldl (fun _ _ gw h => h.addNode (gatewayNode ns gw)) h gateways
  · exact h

theorem alike_addAutoscaler (hpa : HorizontalPodAutoscaler) (h : Alike g g') :
    Alike (addAutoscaler ns g hpa) (addAutoscaler ns g' hpa) := by
  unfold addAutoscaler
  dsimp only
  rw [(h.addNode (autoscalerNode ns hpa)).hasNode_eq]
  split
  · exact (h.addNode _).addEdge _ _ _
  · exact h.addNode _

theorem alike_addAutoscalers (h : Alike g g') :
    AlikeResults (addAutoscalers c ns g) (addAutoscalers c ns g') :=
  .optionalStep _ _ h fun hpas => Alike.foldl (fun _ _ => alike_addAutoscaler) h hpas

theorem alike_addDisruptionBudget (pdb : PodDisruptionBudget) (h : Alike g g') :
    Alike (addDisruptionBudget ns owners g pdb) (addDisruptionBudget ns owners g' pdb) := by
  unfold addDisruptionBudget
  dsimp only
  split
  · exact h.addNode _
  · exact .foldl (fun _ _ o h => h.addEdge _ o.node.id "protects") (h.addNode _) _

theorem alike_addDisruptionBudgets (h : Alike g g') :
    AlikeResults (addDisruptionBudgets c ns owners g) (addDisruptionBudgets c ns owners g') :=
  .optionalStep _ _ h fun pdbs => Alike.foldl (fun _ _ => alike_addDisruptionBudget) h pdbs

theorem alike_linkPolicy (id : String) (sources destinations : List PodTemplateOwner)
    (target : PodTemplateOwner) (h : Alike g g') :
    Alike (linkPolicy id sources destinations g target)
      (linkPolicy id sources destinations g' target) := by
  have hsources := Alike.foldl
    (fun _ _ src h => h.addEdge src.node.id target.node.id "allows")
    (h.addEdge id target.node.id "applies") sources
  exact .foldl (fun _ _ dst h => h.addEdge target.node.id dst.node.id "allows") hsources destinations

theorem alike_addNetworkPolicy (policy : NetworkPolicy) (h : Alike g g') :
    Alike (addNetworkPolicy ns owners g policy) (addNetworkPolicy ns owners g' policy) := by
  unfold addNetworkPolicy
  split
  · exact h
  · exact .foldl (fun _ _ => alike_linkPolicy _ _ _) (h.addNode _) _

theorem alike_addNetworkPolicies (h : Alike g g') :
    AlikeResults (addNetworkPolicies c ns owners g) (addNetworkPolicies c ns owners g') :=
  .optionalStep _ _ h fun policies => Alike.foldl (fun _ _ => alike_addNetworkPolicy) h policies

theorem alike_addQuotas (h : Alike g g') : AlikeResults (addQuotas c ns g) (addQuotas c ns g') := by
  refine .optionalStep _ _ h fun quotas => ?_
  have hquotas := Alike.foldl (fun _ _ q h => h.addNode (quotaNode ns q)) h quotas
  exact .optionalStep _ _ hquotas fun limits =>
    Alike.foldl (fun _ _ lr h => h.addNode (limitRangeNode ns lr)) hquotas limits

/-! ### Steps that range over maps -/

theorem alike_addOwnerRefs (order order' : RangeOrder) (ns : String)
    (pvcs : StringMap PersistentVolumeClaim) (os : List PodTemplateOwner) (h : Alike g g') :
    Alike (os.foldl (addOwnerRefs order ns pvcs) (g, ∅)).1
      (os.foldl (addOwnerRefs order' ns pvcs) (g', ∅)).1 := by
  have hmem : ∀ (o : PodTemplateOwner) (ref : SpecRef),
      ref ∈ ownerRefs order pvcs o ↔ ref ∈ ownerRefs order' pvcs o := fun o ref =>
    (ownerRefs_perm order order' pvcs o).mem_iff
  refine h.of_links (addOwnerRefs_foldl order ns pvcs os (g, ∅)).1
    (addOwnerRefs_foldl order' ns pvcs os (g', ∅)).1 (links_addOwnerRefs order ns pvcs os (g, ∅))
    (links_addOwnerRefs order' ns pvcs os (g', ∅)) (fun n => ?_) fun e => ?_
  · simp only [List.mem_map, List.mem_flatMap, hmem]
  · simp only [hmem]

theorem alike_addVolumes (order order' : RangeOrder) (ns : String)
    (pvcs : StringMap PersistentVolumeClaim) {used used' : StringMap Unit}
    (hused : used.keys.Perm used'.keys) (h : Alike g g') :
    Alike (addVolumes c order ns pvcs used g) (addVolumes c order' ns pvcs used' g') := by
  have hperm : (order.volumes used.keys).Perm (order'.volumes used'.keys) :=
    ((order.volumes_perm _).trans hused).trans (order'.volumes_perm _).symm
  have hadds : ∀ (names : List String) (g : Graph), Adds
      (names.flatMap (volumeNodes (volumesOf c) pvcs)) g
        (names.foldl (addVolume ns (volumesOf c) pvcs) g) := fun names g =>
    .foldl (fun g name _ => adds_addVolume g name) g
  refine h.of_links (hadds _ g) (hadds _ g')
    (Links.foldl_of (links_addVolume ns (volumesOf c) pvcs) _ g)
    (Links.foldl_of (links_addVolume ns (volumesOf c) pvcs) _ g') (fun n => ?_) fun e => ?_
  · exact (hperm.flatMap_right _).mem_iff
  · simp only [hperm.mem_iff]

theorem alike_addConfigRefs (order order' : RangeOrder) (h : Alike g g') :
    AlikeResults (addConfigRefs c order ns owners g) (addConfigRefs c order' ns owners g') := by
  refine .read _ fun pvcs _ => ?_
  have hused : ∀ (order : RangeOrder) (g : Graph),
      (owners.owners.foldl (addOwnerRefs order ns (claimsByName pvcs)) (g, ∅)).2 =
        usedClaims order (claimsByName pvcs) owners := fun order g =>
    (addOwnerRefs_foldl order ns (claimsByName pvcs) owners.owners (g, ∅)).2
  refine alike_addVolumes order order' ns _ ?_
    (alike_addOwnerRefs order order' ns (claimsByName pvcs) owners.owners h)
  rw [hused, hused]
  exact usedClaims_perm order order' _ owners

/-! ### Accounts -/

section Accounts

variable {usedBy : StringMap (List String)}

theorem mem_ids_addAccount (g : Graph) (name id : String) :
    id ∈ (addAccount ns usedBy g name).ids ↔
      id ∈ g.ids ∨ id = kubeNodeID "ServiceAccount" ns name := by
  have hadds : Adds [accountNodeOf ns usedBy name] g (addAccount ns usedBy g name) :=
    adds_addAccount g name
  rw [hadds.mem_ids]
  simp [accountNodeOf, accountNode, eq_comm]

theorem mem_edges_addAccount (g : Graph) (name : String) (e : GraphEdge) :
    e ∈ (addAccount ns usedBy g name).edges.items ↔ e ∈ g.edges.items ∨
      (kubeNodeID "ServiceAccount" ns name ∉ g.ids ∧ ∃ owner ∈ (usedBy.lookup name).getD [],
        e = ⟨owner, kubeNodeID "ServiceAccount" ns name, "runs-as"⟩) := by
  unfold addAccount
  dsimp only
  split
  · rename_i hdrawn
    simp [(g.hasNode_iff _).mp hdrawn]
  · rename_i hfree
    have hfree' : kubeNodeID "ServiceAccount" ns name ∉ g.ids := fun hmem =>
      hfree ((g.hasNode_iff _).mpr hmem)
    rw [Links.foldl_of (fun g owner => Links.addEdge g owner _ "runs-as") _ _ e,
      Graph.edges_addNode]
    simp [hfree']

theorem alike_addAccount (name : String) (h : Alike g g') :
    Alike (addAccount ns usedBy g name) (addAccount ns usedBy g' name) where
  ids id := by rw [mem_ids_addAccount, mem_ids_addAccount, h.ids]
  edges e := by rw [mem_edges_addAccount, mem_edges_addAccount, h.edges, h.ids]

theorem addAccount_swap (g : Graph) (a b : String) :
    Alike (addAccount ns usedBy (addAccount ns usedBy g a) b)
      (addAccount ns usedBy (addAccount ns usedBy g b) a) := by
  by_cases hsame : a = b
  · subst hsame
    exact .refl _
  · have hids : kubeNodeID "ServiceAccount" ns a ≠ kubeNodeID "ServiceAccount" ns b := fun h =>
      hsame (kubeNodeID_inj h)
    constructor
    · intro id
      simp only [mem_ids_addAccount, or_right_comm]
    · intro e
      simp only [mem_edges_addAccount, mem_ids_addAccount, hids, Ne.symm hids, or_false]
      exact or_right_comm

theorem alike_bindAccount (bindingID account : String) (h : Alike g g') :
    Alike (bindAccount ns usedBy bindingID g account) (bindAccount ns usedBy bindingID g' account) :=
  (alike_addAccount account h).addEdge _ _ _

theorem alike_addBinding (rules : StringMap Nat) (b : AccountBinding) (h : Alike g g') :
    Alike (addBinding ns usedBy rules g b) (addBinding ns usedBy rules g' b) := by
  have haccounts : Alike
      (b.accounts.foldl (bindAccount ns usedBy (bindingNode b).id) (g.addNode (bindingNode b)))
      (b.accounts.foldl (bindAccount ns usedBy (bindingNode b).id) (g'.addNode (bindingNode b))) :=
    .foldl (fun _ _ => alike_bindAccount _) (h.addNode _) _
  exact (haccounts.addNode _).addEdge _ _ _

end Accounts

theorem alike_addServiceAccounts (order order' : RangeOrder) (h : Alike g g') :
    AlikeResults (addServiceAccounts c order ns owners g)
      (addServiceAccounts c order' ns owners g') := by
  unfold addServiceAccounts
  dsimp only
  split
  · exact h
  · refine .read _ fun bindings _ => ?_
    have hperm : (order.accounts (accountUsers owners).keys).Perm
        (order'.accounts (accountUsers owners).keys) :=
      (order.accounts_perm _).trans (order'.accounts_perm _).symm
    refine Alike.foldl (fun _ _ => alike_addBinding _) ?_ bindings
    exact .foldl_perm (fun _ _ => alike_addAccount) addAccount_swap h (hperm.filter _)

/-! ### The level -/

/-- Two reads of one namespace fail alike or draw the same IDs and edges. -/
theorem alike_namespaceLevel (c : Cluster) (order order' : RangeOrder) (ns : String) :
    AlikeResults (namespaceLevel c order ns) (namespaceLevel c order' ns) := by
  refine .read _ fun owners _ => ?_
  simp only [namespaceSteps, List.foldlM_cons, List.foldlM_nil]
  refine .bind (alike_addServices (.refl _)) fun _ _ h => ?_
  refine .bind (alike_addIngresses h) fun _ _ h => ?_
  refine .bind (alike_addGatewayRoutes h) fun _ _ h => ?_
  refine .bind (alike_addConfigRefs order order' h) fun _ _ h => ?_
  refine .bind (alike_addAutoscalers h) fun _ _ h => ?_
  refine .bind (alike_addDisruptionBudgets h) fun _ _ h => ?_
  refine .bind (alike_addNetworkPolicies h) fun _ _ h => ?_
  refine .bind (alike_addServiceAccounts order order' h) fun _ _ h => ?_
  exact .bind (alike_addQuotas h) fun _ _ h => h

end Wiremap.Topology
