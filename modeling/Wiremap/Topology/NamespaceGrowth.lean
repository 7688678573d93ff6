import Wiremap.Topology.Attribution
import Wiremap.Topology.GatewayGraph
import Wiremap.Topology.Growth
import Wiremap.Topology.NamespaceRbac
import Wiremap.Topology.TopologyService

/-! What each step of the namespace level adds: edges of its own kinds, between
nodes it draws itself and nodes that are there. -/
namespace Wiremap.Topology

open Wiremap.Kube Wiremap.Library
open Wiremap.Topology.Graph (Grows)

/-- The owners of a namespace are drawn, and with them whatever its pods count to. -/
structure Drawn (owners : NamespaceOwners) (g : Graph) : Prop where
  owner : ∀ o ∈ owners.owners, o.node.id ∈ g.ids
  pod : ∀ name id, owners.podOwner.lookup name = some id → id ∈ g.ids

variable {c : Cluster} {order : RangeOrder} {ns : String} {owners : NamespaceOwners}
variable {kinds : List String} {g g' : Graph}

theorem Drawn.grow (h : Drawn owners g) (hgrow : Grows kinds g g') : Drawn owners g' where
  owner o ho := hgrow.ids (h.owner o ho)
  pod name id hlookup := hgrow.ids (h.pod name id hlookup)

theorem grows_linkSelected {id : String} {selector : Selector} {o : PodTemplateOwner}
    (hid : id ∈ g.ids) (ho : o.node.id ∈ g.ids) :
    Grows ["selects"] g (linkSelected id selector g o) := by
  unfold linkSelected
  split
  · exact .addEdge hid ho (by simp)
  · exact .refl g

theorem grows_linkEndpoint {id pod : String} (hid : id ∈ g.ids) (h : Drawn owners g) :
    Grows ["selects"] g (linkEndpoint id owners g pod) := by
  unfold linkEndpoint
  split
  · exact .addEdge hid (h.pod _ _ ‹_›) (by simp)
  · exact .refl g

theorem grows_addService (svc : Service) (h : Drawn owners g) :
    Grows ["selects"] g (addService c ns owners g svc) := by
  have hnode : Grows ["selects"] g (g.addNode (serviceNode svc)) := .addNode (Or.inl rfl)
  have hself : (serviceNode svc).id ∈ (g.addNode (serviceNode svc)).ids := by simp
  unfold addService
  split
  · refine hnode.trans (.foldl fun g' o ho hg' => ?_)
    exact grows_linkSelected (hg'.ids hself) ((hnode.trans hg').ids (h.owner o ho))
  · refine hnode.trans (.foldl fun g' pod _ hg' => ?_)
    exact grows_linkEndpoint (hg'.ids hself) (h.grow (hnode.trans hg'))

theorem grows_addServices (h : Drawn owners g) (hstep : addServices c ns owners g = .ok g') :
    Grows ["selects"] g g' := by
  simp only [addServices, Fallible.bind_eq_ok, Fallible.pure_eq_ok] at hstep
  obtain ⟨services, -, rfl⟩ := hstep
  exact .foldl fun g' svc _ hg' => grows_addService svc (h.grow hg')

theorem grows_routeTo {id backend : String} (hid : id ∈ g.ids) :
    Grows ["routes"] g (routeTo id ns g backend) := by
  unfold routeTo
  simp only
  split
  · exact .addEdge hid ((g.hasNode_iff _).mp ‹_›) (by simp)
  · exact .refl g

theorem grows_addIngress (ing : Ingress) : Grows ["routes"] g (addIngress ns g ing) := by
  unfold addIngress
  refine Grows.trans (.addNode (Or.inl rfl)) (.foldl fun g' backend _ hg' => ?_)
  exact grows_routeTo (hg'.ids (by simp))

theorem grows_addIngresses (hstep : addIngresses c ns g = .ok g') : Grows ["routes"] g g' := by
  simp only [addIngresses, Fallible.bind_eq_ok, Fallible.pure_eq_ok] at hstep
  obtain ⟨ingresses, -, rfl⟩ := hstep
  exact .foldl fun g' ing _ _ => grows_addIngress ing

/-! ### Configuration and storage -/

theorem grows_useStorageClass {source : String} (name : String) (hsource : source ∈ g.ids) :
    Grows ["bound", "uses"] g (useStorageClass g source name) :=
  .addNode_link rfl hsource (by simp)

theorem grows_addPersistentVolume (pv : PersistentVolume) :
    Grows kinds g (addPersistentVolume g pv) :=
  .addNode (Or.inl rfl)

theorem grows_bindVolume {claimID : String} (pv : PersistentVolume) (hclaim : claimID ∈ g.ids) :
    Grows ["bound", "uses"] g (bindVolume g claimID pv) := by
  have hbound : Grows ["bound", "uses"] g ((addPersistentVolume g pv).addEdge claimID
      (kubeNodeID "PersistentVolume" "" pv.name) "bound") :=
    .addNode_link rfl hclaim (by simp)
  unfold bindVolume
  simp only
  split
  · exact hbound.trans (grows_useStorageClass _ (by simp [addPersistentVolume, persistentVolumeNode]))
  · exact hbound

theorem grows_addVolume {pvs : StringMap PersistentVolume}
    {pvcs : StringMap PersistentVolumeClaim} {name : String}
    (hclaim : kubeNodeID "PersistentVolumeClaim" ns name ∈ g.ids) :
    Grows ["bound", "uses"] g (addVolume ns pvs pvcs g name) := by
  unfold addVolume
  split
  · exact .refl g
  · simp only
    split
    · exact grows_bindVolume _ hclaim
    · split
      · exact grows_useStorageClass _ hclaim
      · exact .refl g

def ClaimsDrawn (ns : String) (used : StringMap Unit) (g : Graph) : Prop :=
  ∀ name ∈ used, kubeNodeID "PersistentVolumeClaim" ns name ∈ g.ids

theorem grows_addVolumes {pvcs : StringMap PersistentVolumeClaim} {used : StringMap Unit}
    (h : ClaimsDrawn ns used g) :
    Grows ["bound", "uses"] g (addVolumes c order ns pvcs used g) := by
  refine .foldl fun g' name hname hg' => grows_addVolume (hg'.ids (h name ?_))
  exact (order.volumes_perm used.keys).mem_iff.mp hname

theorem addConfigRef_spec {pvcs : StringMap PersistentVolumeClaim} {o : PodTemplateOwner}
    {used : StringMap Unit} (ref : SpecRef) (ho : o.node.id ∈ g.ids) (h : ClaimsDrawn ns used g) :
    Grows ["bound", "uses"] g (addConfigRef ns pvcs o (g, used) ref).1 ∧
      ClaimsDrawn ns (addConfigRef ns pvcs o (g, used) ref).2
        (addConfigRef ns pvcs o (g, used) ref).1 := by
  have hgrow : Grows ["bound", "uses"] g (addConfigRef ns pvcs o (g, used) ref).1 :=
    .addNode_link rfl ho (by simp)
  refine ⟨hgrow, fun name hname => ?_⟩
  unfold addConfigRef at hname
  simp only at hname
  split at hname
  · rename_i hkind
    rcases AList.mem_insert _ |>.mp hname with rfl | hold
    · simp [addConfigRef, specRefNode, hkind]
    · exact hgrow.ids (h name hold)
  · exact hgrow.ids (h name hname)

structure ConfigDrawn (ns : String) (g : Graph) (acc : Graph × StringMap Unit) : Prop where
  grows : Grows ["bound", "uses"] g acc.1
  claims : ClaimsDrawn ns acc.2 acc.1

theorem configDrawn_owner {byName : StringMap PersistentVolumeClaim} {o : PodTemplateOwner}
    {acc : Graph × StringMap Unit} (ho : o.node.id ∈ g.ids) (h : ConfigDrawn ns g acc) :
    ConfigDrawn ns g (addOwnerRefs order ns byName acc o) := by
  apply List.foldlRecOn (motive := ConfigDrawn ns g) _ _ h
  intro acc hacc ref _
  obtain ⟨hgrow, hclaims⟩ := addConfigRef_spec ref (hacc.grows.ids ho) hacc.claims
  exact ⟨hacc.grows.trans hgrow, hclaims⟩

theorem grows_addConfigRefs (h : Drawn owners g)
    (hstep : addConfigRefs c order ns owners g = .ok g') : Grows ["bound", "uses"] g g' := by
  simp only [addConfigRefs, Fallible.bind_eq_ok, Fallible.pure_eq_ok] at hstep
  obtain ⟨pvcs, -, rfl⟩ := hstep
  have hrefs : ConfigDrawn ns g
      (owners.owners.foldl (addOwnerRefs order ns (claimsByName pvcs)) (g, ∅)) := by
    apply List.foldlRecOn (motive := ConfigDrawn ns g)
    · exact ⟨.refl g, fun name hname => by simp at hname⟩
    · intro acc hacc o ho
      exact configDrawn_owner (h.owner o ho) hacc
  exact hrefs.grows.trans (grows_addVolumes hrefs.claims)

/-! ### Policies -/

theorem grows_optionalFold {read : Except ApiError (List α)} {action : String}
    {step : Graph → α → Graph}
    (hstep : ∀ items, read = .ok items → ∀ g' a, a ∈ items → Grows kinds g g' →
      Grows kinds g' (step g' a))
    (h : optionalStep read action g (fun items => return items.foldl step g) = .ok g') :
    Grows kinds g g' := by
  rcases optionalStep_cases h with ⟨items, hread, hfold⟩ | ⟨-, -, rfl⟩
  · obtain rfl := Fallible.pure_eq_ok.mp hfold
    exact .foldl (hstep items hread)
  · exact .refl _

theorem grows_addAutoscaler (hpa : HorizontalPodAutoscaler) :
    Grows ["scales"] g (addAutoscaler ns g hpa) := by
  unfold addAutoscaler
  simp only
  split
  · rename_i htarget
    refine Grows.trans (.addNode (Or.inl rfl)) (.addEdge (by simp) ?_ (by simp))
    exact (Graph.hasNode_iff _ _).mp htarget
  · exact .addNode (Or.inl rfl)

theorem grows_addAutoscalers (hstep : addAutoscalers c ns g = .ok g') : Grows ["scales"] g g' :=
  grows_optionalFold (fun _ _ _ hpa _ _ => grows_addAutoscaler hpa) hstep

theorem mem_matchingOwners {selector : Selector} {o : PodTemplateOwner} :
    o ∈ matchingOwners owners selector ↔ o ∈ owners.owners ∧ selector.matches o.labels := by
  simp [matchingOwners]

theorem grows_addDisruptionBudget (pdb : PodDisruptionBudget) (h : Drawn owners g) :
    Grows ["protects"] g (addDisruptionBudget ns owners g pdb) := by
  unfold addDisruptionBudget
  simp only
  split
  · exact .addNode (Or.inl rfl)
  · refine Grows.trans (.addNode (Or.inl rfl)) (.foldl fun g' o ho hg' => ?_)
    refine .addEdge (hg'.ids (by simp)) (hg'.ids ?_) (by simp)
    simp [h.owner o (mem_matchingOwners.mp ho).1]

theorem grows_addDisruptionBudgets (h : Drawn owners g)
    (hstep : addDisruptionBudgets c ns owners g = .ok g') : Grows ["protects"] g g' :=
  grows_optionalFold (fun _ _ _ pdb _ hg' => grows_addDisruptionBudget pdb (h.grow hg')) hstep

theorem mem_owners_of_peerOwners {peers : List NetworkPolicyPeer} {o : PodTemplateOwner}
    (ho : o ∈ peerOwners owners peers) : o ∈ owners.owners := by
  obtain ⟨peer, -, hpeer⟩ := List.mem_flatMap.mp ho
  split at hpeer
  · cases hpeer
  · split at hpeer
    · exact (mem_matchingOwners.mp hpeer).1
    · cases hpeer

theorem grows_linkPolicy {id : String} {sources destinations : List PodTemplateOwner}
    {target : PodTemplateOwner} (hid : id ∈ g.ids) (htarget : target.node.id ∈ g.ids)
    (hsources : ∀ o ∈ sources, o.node.id ∈ g.ids)
    (hdestinations : ∀ o ∈ destinations, o.node.id ∈ g.ids) :
    Grows ["allows", "applies"] g (linkPolicy id sources destinations g target) := by
  have happlies : Grows ["allows", "applies"] g (g.addEdge id target.node.id "applies") :=
    .addEdge hid htarget (by simp)
  have hallows : Grows ["allows", "applies"] g
      (sources.foldl (fun g src => g.addEdge src.node.id target.node.id "allows")
        (g.addEdge id target.node.id "applies")) := by
    refine happlies.trans (.foldl fun g' src hsrc hg' => .addEdge ?_ ?_ (by simp))
    · exact hg'.ids (happlies.ids (hsources src hsrc))
    · exact hg'.ids (happlies.ids htarget)
  refine hallows.trans (.foldl fun g' dst hdst hg' => .addEdge ?_ ?_ (by simp))
  · exact hg'.ids (hallows.ids htarget)
  · exact hg'.ids (hallows.ids (hdestinations dst hdst))

theorem grows_addNetworkPolicy (policy : NetworkPolicy) (h : Drawn owners g) :
    Grows ["allows", "applies"] g (addNetworkPolicy ns owners g policy) := by
  have hpeers : ∀ {rules : List (List NetworkPolicyPeer)} {o : PodTemplateOwner},
      o ∈ rules.flatMap (peerOwners owners) → o.node.id ∈ g.ids := by
    intro rules o ho
    obtain ⟨peers, -, hpeer⟩ := List.mem_flatMap.mp ho
    exact h.owner o (mem_owners_of_peerOwners hpeer)
  unfold addNetworkPolicy
  split
  · exact .refl g
  · refine Grows.trans (.addNode (Or.inl rfl)) (.foldl fun g' target htarget hg' => ?_)
    apply grows_linkPolicy
    · exact hg'.ids (by simp)
    · exact hg'.ids (by simp [h.owner target (mem_matchingOwners.mp htarget).1])
    · exact fun o ho => hg'.ids (by simp [hpeers ho])
    · exact fun o ho => hg'.ids (by simp [hpeers ho])

theorem grows_addNetworkPolicies (h : Drawn owners g)
    (hstep : addNetworkPolicies c ns owners g = .ok g') :
    Grows ["allows", "applies"] g g' :=
  grows_optionalFold (fun _ _ _ policy _ hg' => grows_addNetworkPolicy policy (h.grow hg')) hstep

theorem grows_addQuotas (hstep : addQuotas c ns g = .ok g') : Grows [] g g' := by
  rcases optionalStep_cases hstep with ⟨quotas, -, hlimits⟩ | ⟨-, -, rfl⟩
  · have hquotas : Grows [] g (quotas.foldl (fun g q => g.addNode (quotaNode ns q)) g) :=
      .foldl fun _ _ _ _ => .addNode (Or.inl rfl)
    exact hquotas.trans (grows_optionalFold (fun _ _ _ _ _ _ => .addNode (Or.inl rfl)) hlimits)
  · exact .refl _

/-! ### Accounts and roles -/

def UsersDrawn (usedBy : StringMap (List String)) (g : Graph) : Prop :=
  ∀ account users, usedBy.lookup account = some users → ∀ id ∈ users, id ∈ g.ids

theorem UsersDrawn.grow {usedBy : StringMap (List String)} (h : UsersDrawn usedBy g)
    (hgrow : Grows kinds g g') : UsersDrawn usedBy g' :=
  fun account users hlookup id hid => hgrow.ids (h account users hlookup id hid)

theorem UsersDrawn.getD {usedBy : StringMap (List String)} (h : UsersDrawn usedBy g)
    (account : String) : ∀ id ∈ (usedBy.lookup account).getD [], id ∈ g.ids := by
  intro id hid
  cases hlookup : usedBy.lookup account with
  | none => simp [hlookup] at hid
  | some users => exact h account users hlookup id (by simpa [hlookup] using hid)

theorem usersDrawn_accountUsers (h : Drawn owners g) : UsersDrawn (accountUsers owners) g := by
  apply List.foldlRecOn (motive := fun usedBy => UsersDrawn usedBy g)
  · intro account users hlookup
    simp at hlookup
  · intro usedBy hused o ho account users hlookup id hid
    rw [StringMap.lookup_insert] at hlookup
    split at hlookup
    · cases hlookup
      rcases List.mem_append.mp hid with hold | hself
      · exact hused.getD (accountOf o) id hold
      · rw [List.mem_singleton.mp hself]
        exact h.owner o ho
    · exact hused account users hlookup id hid

theorem addAccount_spec {usedBy : StringMap (List String)} (ns name : String)
    (h : UsersDrawn usedBy g) :
    Grows ["binds", "grants", "runs-as"] g (addAccount ns usedBy g name) ∧
      kubeNodeID "ServiceAccount" ns name ∈ (addAccount ns usedBy g name).ids := by
  unfold addAccount
  simp only
  split
  · exact ⟨.refl g, (g.hasNode_iff _).mp ‹_›⟩
  · generalize hnode : accountNode ns name ((usedBy.lookup name).getD []) = node
    have hid : node.id = kubeNodeID "ServiceAccount" ns name := by rw [← hnode]; rfl
    have hself : kubeNodeID "ServiceAccount" ns name ∈ (g.addNode node).ids := by simp [hid]
    have hdrawn : Grows ["binds", "grants", "runs-as"] g (g.addNode node) :=
      .addNode (Or.inl (by rw [← hnode]; rfl))
    have hlinks : Grows ["binds", "grants", "runs-as"] (g.addNode node)
        (((usedBy.lookup name).getD []).foldl (fun g owner =>
          g.addEdge owner (kubeNodeID "ServiceAccount" ns name) "runs-as") (g.addNode node)) := by
      refine .foldl fun g' owner howner hg' => .addEdge ?_ (hg'.ids hself) (by simp)
      exact hg'.ids (hdrawn.ids (h.getD name owner howner))
    exact ⟨hdrawn.trans hlinks, hlinks.ids hself⟩

theorem grows_bindAccount {usedBy : StringMap (List String)} {bindingID : String} (account : String)
    (hbinding : bindingID ∈ g.ids) (h : UsersDrawn usedBy g) :
    Grows ["binds", "grants", "runs-as"] g (bindAccount ns usedBy bindingID g account) := by
  obtain ⟨hgrow, haccount⟩ := addAccount_spec ns account h
  exact hgrow.trans (.addEdge (hgrow.ids hbinding) haccount (by simp))

theorem grows_addBinding {usedBy : StringMap (List String)} {rules : StringMap Nat}
    (b : AccountBinding) (h : UsersDrawn usedBy g) :
    Grows ["binds", "grants", "runs-as"] g (addBinding ns usedBy rules g b) := by
  have hself : (bindingNode b).id ∈ (g.addNode (bindingNode b)).ids := by simp
  have hdrawn : Grows ["binds", "grants", "runs-as"] g (g.addNode (bindingNode b)) :=
    .addNode (Or.inl rfl)
  have hbound : Grows ["binds", "grants", "runs-as"] (g.addNode (bindingNode b))
      (b.accounts.foldl (bindAccount ns usedBy (bindingNode b).id) (g.addNode (bindingNode b))) :=
    .foldl fun g' account _ hg' =>
      grows_bindAccount account (hg'.ids hself) (h.grow (hdrawn.trans hg'))
  exact hdrawn.trans (hbound.trans (.addNode_link rfl (hbound.ids hself) (by simp)))

theorem grows_addServiceAccounts (h : Drawn owners g)
    (hstep : addServiceAccounts c order ns owners g = .ok g') :
    Grows ["binds", "grants", "runs-as"] g g' := by
  have hused := usersDrawn_accountUsers h
  unfold addServiceAccounts at hstep
  simp only at hstep
  split at hstep
  · obtain rfl := Fallible.pure_eq_ok.mp hstep
    exact .refl _
  · simp only [Fallible.bind_eq_ok, Fallible.pure_eq_ok] at hstep
    obtain ⟨bindings, -, rfl⟩ := hstep
    have hnamed : Grows ["binds", "grants", "runs-as"] g
        (((order.accounts (accountUsers owners).keys).filter fun name =>
          name ≠ defaultServiceAccount).foldl (addAccount ns (accountUsers owners)) g) :=
      .foldl fun g' name _ hg' => (addAccount_spec ns name (hused.grow hg')).1
    exact hnamed.trans (.foldl fun g' b _ hg' => grows_addBinding b (hused.grow (hnamed.trans hg')))

/-! ### Gateways and routes -/

theorem grows_drawParent {id : String} (gateway : GraphNode) (hgroup : gateway.group = "")
    (hid : id ∈ g.ids) :
    Grows ["routes"] g
      ((if g.hasNode gateway.id then g else g.addNode gateway).addEdge gateway.id id "routes") := by
  split
  · exact .addEdge ((g.hasNode_iff _).mp ‹_›) hid (by simp)
  · exact Grows.trans (.addNode (Or.inl hgroup)) (.addEdge (by simp) (by simp [hid]) (by simp))

theorem parentGateway_ungrouped {raw : Json} {gateway : GraphNode}
    (h : parentGateway ns raw = some gateway) : gateway.group = "" := by
  unfold parentGateway at h
  simp only at h
  split at h
  · cases h
  · cases h
    rfl

theorem grows_addParent {id : String} (raw : Json) (hid : id ∈ g.ids) :
    Grows ["routes"] g (addParent id ns g raw) := by
  unfold addParent
  split
  · exact .refl g
  · exact grows_drawParent _ (parentGateway_ungrouped ‹_›) hid

theorem grows_addBackend {id : String} (raw : Json) (hid : id ∈ g.ids) :
    Grows ["routes"] g (addBackend id ns g raw) := by
  unfold addBackend
  simp only
  split
  · exact .refl g
  · exact grows_routeTo hid

theorem grows_addRoute {kind : String} (route : Unstructured) :
    Grows ["routes"] g (addRoute kind ns g route) := by
  have hself : (routeNode kind ns route).id ∈ (g.addNode (routeNode kind ns route)).ids := by simp
  have hparents : Grows ["routes"] (g.addNode (routeNode kind ns route))
      ((route.object.nestedSlice ["spec", "parentRefs"]).foldl
        (addParent (routeNode kind ns route).id ns) (g.addNode (routeNode kind ns route))) :=
    .foldl fun g' raw _ hg' => grows_addParent raw (hg'.ids hself)
  refine Grows.trans (.addNode (Or.inl rfl)) (hparents.trans (.foldl fun g' rule _ hg' => ?_))
  have hroute := hg'.ids (hparents.ids hself)
  exact .foldl fun g'' backend _ hg'' => grows_addBackend backend (hg''.ids hroute)

theorem grows_addRoutes (kinds : List String) (h : addRoutes c ns g kinds = .ok g') :
    Grows ["routes"] g g' := by
  induction kinds generalizing g with
  | nil =>
      cases h
      exact .refl _
  | cons kind rest ih =>
      unfold addRoutes at h
      split at h
      · rcases optionalRead_cases h with ⟨routes, -, hrest⟩ | ⟨-, -, rfl⟩
        · exact Grows.trans (.foldl fun _ route _ _ => grows_addRoute route) (ih hrest)
        · exact .refl _
      · exact ih h

theorem grows_addGatewayRoutes (h : addGatewayRoutes c ns g = .ok g') : Grows ["routes"] g g' := by
  unfold addGatewayRoutes at h
  split at h
  · rcases optionalRead_cases h with ⟨gateways, -, hroutes⟩ | ⟨-, -, rfl⟩
    · exact Grows.trans (.foldl fun _ gw _ _ => .addNode (Or.inl rfl)) (grows_addRoutes _ hroutes)
    · exact .refl _
  · cases h
    exact .refl _

/-! ### The level -/

theorem drawn_owners (level : Level) (h : owners.Listed) :
    Drawn owners (owners.owners.foldl (fun g o => g.addNode o.node) (Graph.new level)) where
  owner o ho := (Graph.mem_ids_foldl_addNode _ _ _ _).mpr (Or.inr ⟨o, ho, rfl⟩)
  pod name id hlookup := by
    obtain ⟨o, ho, hid⟩ := mem_ownerIDs.mp (h.pod name id hlookup)
    exact (Graph.mem_ids_foldl_addNode _ _ _ _).mpr (Or.inr ⟨o, ho, hid⟩)

def otherKinds : List String :=
  ["routes", "bound", "uses", "scales", "protects", "allows", "applies", "binds", "grants",
    "runs-as"]

theorem grows_laterSteps (h : Drawn owners g)
    (hsteps : (namespaceSteps c order ns owners).tail.foldlM (fun g step => step g) g = .ok g') :
    Grows otherKinds g g' := by
  refine Grows.foldlM (fun g₁ step g₂ hstep hg₁ hrun => ?_) hsteps
  have hdrawn := h.grow hg₁
  simp only [namespaceSteps, List.tail_cons, List.mem_cons, List.not_mem_nil, or_false] at hstep
  rcases hstep with rfl | rfl | rfl | rfl | rfl | rfl | rfl | rfl
  · exact (grows_addIngresses hrun).weaken (by decide)
  · exact (grows_addGatewayRoutes hrun).weaken (by decide)
  · exact (grows_addConfigRefs hdrawn hrun).weaken (by decide)
  · exact (grows_addAutoscalers hrun).weaken (by decide)
  · exact (grows_addDisruptionBudgets hdrawn hrun).weaken (by decide)
  · exact (grows_addNetworkPolicies hdrawn hrun).weaken (by decide)
  · exact (grows_addServiceAccounts hdrawn hrun).weaken (by decide)
  · exact (grows_addQuotas hrun).weaken (by decide)

theorem namespaceLevel_ok (h : namespaceLevel c order ns = .ok g') :
    ∃ owners g, listPodOwners c ns = .ok owners ∧
      addServices c ns owners
        (owners.owners.foldl (fun g o => g.addNode o.node) (Graph.new .namespace)) = .ok g ∧
      Drawn owners g ∧ Grows otherKinds g g' := by
  simp only [namespaceLevel, Fallible.bind_eq_ok] at h
  obtain ⟨owners, howners, hsteps⟩ := h
  have hdrawn := drawn_owners .namespace (listed_listPodOwners howners)
  have hsplit : namespaceSteps c order ns owners =
    addServices c ns owners :: (namespaceSteps c order ns owners).tail := rfl
  rw [hsplit, List.foldlM_cons, Fallible.bind_eq_ok] at hsteps
  obtain ⟨g, hservices, hrest⟩ := hsteps
  have hdrawn' := hdrawn.grow (grows_addServices hdrawn hservices)
  exact ⟨owners, g, howners, hservices, hdrawn', grows_laterSteps hdrawn' hrest⟩

theorem grown_namespaceLevel (h : namespaceLevel c order ns = .ok g) : g.GrownAt .namespace := by
  obtain ⟨owners, g₁, howners, hservices, -, hrest⟩ := namespaceLevel_ok h
  have hlisted := listed_listPodOwners howners
  have hnodes : Grows [] (Graph.new .namespace)
      (owners.owners.foldl (fun g o => g.addNode o.node) (Graph.new .namespace)) :=
    .foldl fun g' o ho _ => .addNode (Or.inl (hlisted.ungrouped o ho))
  have hg₁ := grows_addServices (drawn_owners .namespace hlisted) hservices
  exact (hnodes.grownAt.grow hg₁).grow hrest

end Wiremap.Topology
