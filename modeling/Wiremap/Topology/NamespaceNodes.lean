import Wiremap.Library.Fallible
import Wiremap.Topology.Drawing
import Wiremap.Topology.TopologyService

/-! The nodes each step of the namespace level draws, read off the cluster. -/
namespace Wiremap.Topology

open Wiremap.Kube Wiremap.Library
open Wiremap.Topology.Graph (Adds)

variable {c : Cluster} {order : RangeOrder} {ns : String} {owners : NamespaceOwners}
variable {g g' : Graph}

/-! ### Traffic -/

def serviceNodes (c : Cluster) (ns : String) : List GraphNode :=
  (answered (c.list "Service" ns c.services)).map serviceNode

theorem adds_linkSelected {id : String} {selector : Selector} (g : Graph) (o : PodTemplateOwner) :
    Adds [] g (linkSelected id selector g o) := by
  unfold linkSelected
  split
  · exact .addEdge _ _ _
  · exact .refl g

theorem adds_linkEndpoint {id : String} (g : Graph) (pod : String) :
    Adds [] g (linkEndpoint id owners g pod) := by
  unfold linkEndpoint
  split
  · exact .addEdge _ _ _
  · exact .refl g

theorem adds_addService (g : Graph) (svc : Service) :
    Adds [serviceNode svc] g (addService c ns owners g svc) := by
  unfold addService
  simp only
  split
  · exact (Adds.addNode _).link (.foldl_links adds_linkSelected _ _)
  · exact (Adds.addNode _).link (.foldl_links adds_linkEndpoint _ _)

theorem adds_addServices (h : addServices c ns owners g = .ok g') :
    Adds (serviceNodes c ns) g g' := by
  simp only [addServices, Fallible.bind_eq_ok, Fallible.pure_eq_ok, orWrap_ok] at h
  obtain ⟨services, hlist, rfl⟩ := h
  rw [serviceNodes, hlist]
  exact .foldl_nodes adds_addService services g

def ingressNodes (c : Cluster) (ns : String) : List GraphNode :=
  (answered (c.list "Ingress" ns c.ingresses)).map (ingressNode ns)

theorem adds_routeTo {id : String} (g : Graph) (backend : String) :
    Adds [] g (routeTo id ns g backend) := by
  unfold routeTo
  simp only
  split
  · exact .addEdge _ _ _
  · exact .refl g

theorem adds_addIngresses (h : addIngresses c ns g = .ok g') :
    Adds (ingressNodes c ns) g g' := by
  simp only [addIngresses, Fallible.bind_eq_ok, Fallible.pure_eq_ok, orWrap_ok] at h
  obtain ⟨ingresses, hlist, rfl⟩ := h
  rw [ingressNodes, hlist]
  exact .foldl_nodes (fun g ing => (Adds.addNode _).link (.foldl_links adds_routeTo _ _)) _ g

def routeAndParents (kind ns : String) (route : Unstructured) : List GraphNode :=
  routeNode kind ns route ::
    (route.object.nestedSlice ["spec", "parentRefs"]).filterMap (parentGateway ns)

/-- The routes drawn, with their kinds; a kind that cannot be listed ends the search. -/
def drawnRoutes (c : Cluster) (ns : String) : List String → List (String × Unstructured)
  | [] => []
  | kind :: rest =>
      if c.serves gatewayGroup kind then
        match listUnstructured c kind ns with
        | .ok routes => routes.map (fun route => (kind, route)) ++ drawnRoutes c ns rest
        | .error _ => []
      else drawnRoutes c ns rest

def gatewayObjects (c : Cluster) (ns : String) : List Unstructured × List (String × Unstructured) :=
  if c.serves gatewayGroup "Gateway" then
    match listUnstructured c "Gateway" ns with
    | .ok gateways => (gateways, drawnRoutes c ns gatewayRouteKinds)
    | .error _ => ([], [])
  else ([], [])

def gatewayNodes (c : Cluster) (ns : String) : List GraphNode :=
  (gatewayObjects c ns).1.map (gatewayNode ns) ++
    (gatewayObjects c ns).2.flatMap fun route => routeAndParents route.1 ns route.2

theorem kind_of_drawnRoutes {kinds : List String} {route : String × Unstructured}
    (h : route ∈ drawnRoutes c ns kinds) : route.1 ∈ kinds := by
  induction kinds with
  | nil => cases h
  | cons kind rest ih =>
      unfold drawnRoutes at h
      split at h
      · split at h
        · rcases List.mem_append.mp h with hkind | hrest
          · obtain ⟨u, -, rfl⟩ := List.mem_map.mp hkind
            exact List.mem_cons_self
          · exact List.mem_cons_of_mem _ (ih hrest)
        · cases h
      · exact List.mem_cons_of_mem _ (ih h)

theorem kind_of_gatewayObjects {route : String × Unstructured} (h : route ∈ (gatewayObjects c ns).2) :
    route.1 ∈ gatewayRouteKinds := by
  unfold gatewayObjects at h
  split at h
  · split at h
    · exact kind_of_drawnRoutes h
    · cases h
  · cases h

theorem parentGateway_eq {raw : Json} {gateway : GraphNode}
    (h : parentGateway ns raw = some gateway) : ∃ name ns', gateway = parentNode name ns' := by
  unfold parentGateway at h
  simp only at h
  split at h
  · cases h
  · exact ⟨_, _, (Option.some.inj h).symm⟩

theorem gatewayNodes_cases {n : GraphNode} (h : n ∈ gatewayNodes c ns) :
    (∃ gw, n = gatewayNode ns gw) ∨
      (∃ route ∈ (gatewayObjects c ns).2, n = routeNode route.1 ns route.2) ∨
        ∃ name ns', n = parentNode name ns' := by
  rcases List.mem_append.mp h with hgateway | hroute
  · obtain ⟨gw, -, rfl⟩ := List.mem_map.mp hgateway
    exact Or.inl ⟨gw, rfl⟩
  · obtain ⟨route, hmem, hnode⟩ := List.mem_flatMap.mp hroute
    rcases List.mem_cons.mp hnode with rfl | hparent
    · exact Or.inr (Or.inl ⟨route, hmem, rfl⟩)
    · obtain ⟨raw, -, hraw⟩ := List.mem_filterMap.mp hparent
      exact Or.inr (Or.inr (parentGateway_eq hraw))

theorem adds_addParent {id : String} (g : Graph) (raw : Json) :
    Adds (parentGateway ns raw).toList g (addParent id ns g raw) := by
  unfold addParent
  split
  · rename_i hnone
    rw [hnone]
    exact .refl g
  · rename_i gateway hgateway
    rw [hgateway]
    simp only
    split
    · exact (Adds.of_hasNode ‹_›).link (.addEdge _ _ _)
    · exact (Adds.addNode gateway).link (.addEdge _ _ _)

theorem adds_addBackend {id : String} (g : Graph) (raw : Json) :
    Adds [] g (addBackend id ns g raw) := by
  unfold addBackend
  simp only
  split
  · exact .refl g
  · exact adds_routeTo g _

theorem adds_addRoute {kind : String} (g : Graph) (route : Unstructured) :
    Adds (routeAndParents kind ns route) g (addRoute kind ns g route) := by
  have hrules : ∀ {id : String} (rules : List Json) (g : Graph),
      Adds [] g (rules.foldl (addRule id ns) g) := fun rules g =>
    .foldl_links (fun g rule => .foldl_links adds_addBackend _ g) rules g
  have hparents : ∀ {id : String} (parents : List Json) (g : Graph),
      Adds (parents.filterMap (parentGateway ns)) g (parents.foldl (addParent id ns) g) := by
    intro id parents g
    rw [List.filterMap_eq_flatMap_toList]
    exact .foldl (fun g raw _ => adds_addParent g raw) g
  exact (Adds.addNode (routeNode kind ns route)).trans ((hparents _ _).link (hrules _ _))

theorem adds_addRoutes (kinds : List String) (h : addRoutes c ns g kinds = .ok g') :
    Adds ((drawnRoutes c ns kinds).flatMap fun route => routeAndParents route.1 ns route.2) g g' := by
  induction kinds generalizing g with
  | nil =>
      cases h
      exact .refl _
  | cons kind rest ih =>
      unfold addRoutes at h
      unfold drawnRoutes
      split at h
      · rename_i hserved
        rw [if_pos hserved]
        rcases optionalRead_cases h with ⟨routes, hlist, hrest⟩ | ⟨err, hlist, rfl⟩
        · simp only [hlist, List.flatMap_append, List.flatMap_map]
          exact (Adds.foldl (fun g route _ => adds_addRoute g route) g).trans (ih hrest)
        · rw [hlist]
          exact .refl _
      · rename_i hunserved
        rw [if_neg hunserved]
        exact ih h

theorem adds_addGatewayRoutes (h : addGatewayRoutes c ns g = .ok g') :
    Adds (gatewayNodes c ns) g g' := by
  unfold addGatewayRoutes at h
  unfold gatewayNodes gatewayObjects
  split at h
  · rename_i hserved
    rw [if_pos hserved]
    rcases optionalRead_cases h with ⟨gateways, hlist, hrest⟩ | ⟨err, hlist, rfl⟩
    · simp only [hlist]
      exact (Adds.foldl_nodes (fun g gw => .addNode _) gateways g).trans (adds_addRoutes _ hrest)
    · simp only [hlist]
      exact .refl _
  · rename_i hunserved
    rw [if_neg hunserved]
    cases h
    exact .refl _

/-! ### Configuration and storage -/

def specRefKinds : List String := ["ConfigMap", "Secret", "PersistentVolumeClaim"]

def OfSpecKinds (refs : List SpecRef) : Prop := ∀ ref ∈ refs, ref.kind ∈ specRefKinds

theorem ofSpecKinds_addSpecRef {refs : SpecRefs} {kind : String} (hkind : kind ∈ specRefKinds)
    (name : Option String) (h : OfSpecKinds refs.items) :
    OfSpecKinds (addSpecRef kind refs name).items := by
  unfold addSpecRef
  split
  · split
    · intro ref href
      rcases KeyedList.mem_add_id.mp href with hold | rfl
      · exact h ref hold
      · exact hkind
    · exact h
  · exact h

theorem ofSpecKinds_addVolumeRefs {refs : SpecRefs} (v : Volume) (h : OfSpecKinds refs.items) :
    OfSpecKinds (addVolumeRefs refs v).items := by
  unfold addVolumeRefs
  split
  · exact ofSpecKinds_addSpecRef (by decide) _ h
  · exact ofSpecKinds_addSpecRef (by decide) _ h
  · exact ofSpecKinds_addSpecRef (by decide) _ h
  · apply List.foldlRecOn (motive := fun refs : SpecRefs => OfSpecKinds refs.items) _ _ h
    intro refs hrefs src _
    exact ofSpecKinds_addSpecRef (by decide) _ (ofSpecKinds_addSpecRef (by decide) _ hrefs)
  · exact h

theorem ofSpecKinds_addEnvRefs {refs : SpecRefs} (env : EnvRefs) (h : OfSpecKinds refs.items) :
    OfSpecKinds (addEnvRefs refs env).items :=
  ofSpecKinds_addSpecRef (by decide) _ (ofSpecKinds_addSpecRef (by decide) _ h)

theorem ofSpecKinds_addContainerRefs {refs : SpecRefs} (ctr : Container)
    (h : OfSpecKinds refs.items) : OfSpecKinds (addContainerRefs refs ctr).items := by
  apply List.foldlRecOn (motive := fun refs : SpecRefs => OfSpecKinds refs.items)
  · apply List.foldlRecOn (motive := fun refs : SpecRefs => OfSpecKinds refs.items) _ _ h
    exact fun refs hrefs env _ => ofSpecKinds_addEnvRefs env hrefs
  · exact fun refs hrefs env _ => ofSpecKinds_addEnvRefs env hrefs

theorem ofSpecKinds_podSpecRefs (spec : PodSpec) : OfSpecKinds (podSpecRefs spec) := by
  apply List.foldlRecOn (motive := fun refs : SpecRefs => OfSpecKinds refs.items)
  · apply List.foldlRecOn (motive := fun refs : SpecRefs => OfSpecKinds refs.items)
    · apply List.foldlRecOn (motive := fun refs : SpecRefs => OfSpecKinds refs.items)
      · intro ref href
        cases href
      · exact fun refs hrefs v _ => ofSpecKinds_addVolumeRefs v hrefs
    · exact fun refs hrefs name _ => ofSpecKinds_addSpecRef (by decide) _ hrefs
  · exact fun refs hrefs ctr _ => ofSpecKinds_addContainerRefs ctr hrefs

theorem ofSpecKinds_ownerRefs (pvcs : StringMap PersistentVolumeClaim) (o : PodTemplateOwner) :
    OfSpecKinds (ownerRefs order pvcs o) := by
  intro ref href
  rcases List.mem_append.mp href with hspec | hclaim
  · exact ofSpecKinds_podSpecRefs _ ref hspec
  · obtain ⟨pre, -, hpre⟩ := List.mem_flatMap.mp hclaim
    obtain ⟨name, -, rfl⟩ := List.mem_map.mp hpre
    simp [specRefKinds]

def claimsOf (c : Cluster) (ns : String) : StringMap PersistentVolumeClaim :=
  claimsByName (answered (c.list "PersistentVolumeClaim" ns c.persistentVolumeClaims))

def volumesOf (c : Cluster) : StringMap PersistentVolume :=
  volumesByName (answered (c.listAll "PersistentVolume" c.persistentVolumes))

def useClaim (used : StringMap Unit) (ref : SpecRef) : StringMap Unit :=
  if ref.kind = "PersistentVolumeClaim" then used.insert ref.name () else used

def usedClaims (order : RangeOrder) (pvcs : StringMap PersistentVolumeClaim)
    (owners : NamespaceOwners) : StringMap Unit :=
  (owners.owners.flatMap (ownerRefs order pvcs)).foldl useClaim ∅

theorem mem_usedClaims {pvcs : StringMap PersistentVolumeClaim} {name : String} :
    name ∈ usedClaims order pvcs owners ↔
      ∃ o ∈ owners.owners, ⟨"PersistentVolumeClaim", name⟩ ∈ ownerRefs order pvcs o := by
  have hfold : ∀ (refs : List SpecRef) (used : StringMap Unit), name ∈ refs.foldl useClaim used ↔
      name ∈ used ∨ ⟨"PersistentVolumeClaim", name⟩ ∈ refs := by
    intro refs
    induction refs with
    | nil => simp
    | cons ref refs ih =>
        intro used
        rw [List.foldl_cons, ih, List.mem_cons, ← or_assoc]
        refine or_congr_left ?_
        obtain ⟨kind, refName⟩ := ref
        unfold useClaim
        split
        · rename_i hkind
          simp_all [or_comm]
        · rename_i hkind
          simp [Ne.symm hkind]
  rw [usedClaims, hfold, List.mem_flatMap]
  simp

def classNodes (className : String) : List GraphNode :=
  if className ≠ "" then [usedClassNode className] else []

/-- The volume behind a claim and its class, or the class the claim itself names. -/
def volumeNodes (pvs : StringMap PersistentVolume) (pvcs : StringMap PersistentVolumeClaim)
    (name : String) : List GraphNode :=
  match pvcs.lookup name with
  | none => []
  | some pvc =>
      match pvs.lookup pvc.volumeName with
      | some pv => persistentVolumeNode pv :: classNodes pv.storageClassName
      | none => classNodes (pvc.storageClassName.getD "")

inductive StorageNode : GraphNode → Prop
  | volume (pv : PersistentVolume) : StorageNode (persistentVolumeNode pv)
  | storageClass (name : String) : StorageNode (usedClassNode name)

theorem storageNode_classNodes {className : String} {n : GraphNode} (h : n ∈ classNodes className) :
    StorageNode n := by
  unfold classNodes at h
  split at h
  · rw [List.mem_singleton.mp h]
    exact .storageClass className
  · cases h

theorem storageNode_bound {pv : PersistentVolume} {n : GraphNode}
    (h : n ∈ persistentVolumeNode pv :: classNodes pv.storageClassName) : StorageNode n := by
  rcases List.mem_cons.mp h with rfl | hclass
  · exact .volume pv
  · exact storageNode_classNodes hclass

theorem storageNode_volumeNodes {pvs : StringMap PersistentVolume}
    {pvcs : StringMap PersistentVolumeClaim} {name : String} {n : GraphNode}
    (h : n ∈ volumeNodes pvs pvcs name) : StorageNode n := by
  unfold volumeNodes at h
  split at h
  · cases h
  · split at h
    · exact storageNode_bound h
    · exact storageNode_classNodes h

def configNodes (c : Cluster) (order : RangeOrder) (ns : String) (owners : NamespaceOwners) :
    List GraphNode :=
  (owners.owners.flatMap (ownerRefs order (claimsOf c ns))).map (specRefNode ns (claimsOf c ns)) ++
    (order.volumes (usedClaims order (claimsOf c ns) owners).keys).flatMap
      (volumeNodes (volumesOf c) (claimsOf c ns))

theorem adds_useStorageClass (g : Graph) (source name : String) :
    Adds [usedClassNode name] g (useStorageClass g source name) :=
  (Adds.addNode _).link (.addEdge _ _ _)

theorem adds_bindVolume (g : Graph) (claimID : String) (pv : PersistentVolume) :
    Adds (persistentVolumeNode pv :: classNodes pv.storageClassName) g
      (bindVolume g claimID pv) := by
  have hvolume : Adds [persistentVolumeNode pv] g ((addPersistentVolume g pv).addEdge claimID
      (kubeNodeID "PersistentVolume" "" pv.name) "bound") :=
    (Adds.addNode _).link (.addEdge _ _ _)
  unfold bindVolume classNodes
  simp only
  split
  · exact hvolume.trans (adds_useStorageClass _ _ _)
  · exact hvolume

theorem adds_addVolume {pvs : StringMap PersistentVolume}
    {pvcs : StringMap PersistentVolumeClaim} (g : Graph) (name : String) :
    Adds (volumeNodes pvs pvcs name) g (addVolume ns pvs pvcs g name) := by
  unfold addVolume volumeNodes
  cases hpvc : pvcs.lookup name with
  | none => exact .refl g
  | some pvc =>
      simp only
      cases hpv : pvs.lookup pvc.volumeName with
      | some pv => exact adds_bindVolume _ _ _
      | none =>
          simp only [classNodes]
          split
          · exact adds_useStorageClass _ _ _
          · exact .refl g

theorem addConfigRef_foldl (ns : String) (pvcs : StringMap PersistentVolumeClaim)
    (o : PodTemplateOwner) (refs : List SpecRef) (acc : Graph × StringMap Unit) :
    Adds (refs.map (specRefNode ns pvcs)) acc.1 (refs.foldl (addConfigRef ns pvcs o) acc).1 ∧
      (refs.foldl (addConfigRef ns pvcs o) acc).2 = refs.foldl useClaim acc.2 := by
  induction refs generalizing acc with
  | nil => exact ⟨.refl _, rfl⟩
  | cons ref refs ih =>
      obtain ⟨hrest, hused⟩ := ih (addConfigRef ns pvcs o acc ref)
      have hfirst : Adds [specRefNode ns pvcs ref] acc.1 (addConfigRef ns pvcs o acc ref).1 :=
        (Adds.addNode _).link (.addEdge _ _ _)
      exact ⟨hfirst.trans hrest, hused⟩

theorem addOwnerRefs_foldl (order : RangeOrder) (ns : String)
    (pvcs : StringMap PersistentVolumeClaim) (os : List PodTemplateOwner)
    (acc : Graph × StringMap Unit) :
    Adds ((os.flatMap (ownerRefs order pvcs)).map (specRefNode ns pvcs)) acc.1
        (os.foldl (addOwnerRefs order ns pvcs) acc).1 ∧
      (os.foldl (addOwnerRefs order ns pvcs) acc).2 =
        (os.flatMap (ownerRefs order pvcs)).foldl useClaim acc.2 := by
  induction os generalizing acc with
  | nil => exact ⟨.refl _, rfl⟩
  | cons o os ih =>
      obtain ⟨hrest, hused⟩ := ih (addOwnerRefs order ns pvcs acc o)
      obtain ⟨hfirst, hused'⟩ := addConfigRef_foldl ns pvcs o (ownerRefs order pvcs o) acc
      rw [List.flatMap_cons, List.map_append, List.foldl_append, ← hused']
      exact ⟨hfirst.trans hrest, hused⟩

theorem adds_addConfigRefs (h : addConfigRefs c order ns owners g = .ok g') :
    Adds (configNodes c order ns owners) g g' := by
  simp only [addConfigRefs, Fallible.bind_eq_ok, Fallible.pure_eq_ok, orWrap_ok] at h
  obtain ⟨pvcs, hlist, rfl⟩ := h
  have hclaims : claimsByName pvcs = claimsOf c ns := by rw [claimsOf, hlist, answered_ok]
  obtain ⟨hrefs, hused⟩ := addOwnerRefs_foldl order ns (claimsByName pvcs) owners.owners (g, ∅)
  rw [hclaims] at hrefs hused ⊢
  refine hrefs.trans ?_
  rw [hused]
  exact .foldl (fun g name _ => adds_addVolume g name) _

/-! ### Policies -/

/-- A family drawn object by object draws nothing where it cannot be read. -/
theorem adds_optionalFold {read : Except ApiError (List α)} {action : String}
    {step : Graph → α → Graph} {draws : α → List GraphNode}
    (hstep : ∀ g a, Adds (draws a) g (step g a))
    (h : optionalStep read action g (fun items => return items.foldl step g) = .ok g') :
    Adds ((answered read).flatMap draws) g g' := by
  rcases optionalStep_cases h with ⟨items, rfl, hfold⟩ | ⟨err, rfl, rfl⟩
  · obtain rfl := Fallible.pure_eq_ok.mp hfold
    exact .foldl (fun g a _ => hstep g a) g
  · exact .refl _

def autoscalerNodes (c : Cluster) (ns : String) : List GraphNode :=
  (answered (c.list "HorizontalPodAutoscaler" ns c.autoscalers)).flatMap fun hpa =>
    [autoscalerNode ns hpa]

theorem adds_addAutoscalers (h : addAutoscalers c ns g = .ok g') :
    Adds (autoscalerNodes c ns) g g' := by
  refine adds_optionalFold (fun g hpa => ?_) h
  unfold addAutoscaler
  simp only
  split
  · exact (Adds.addNode _).link (.addEdge _ _ _)
  · exact .addNode _

def disruptionBudgetNodes (c : Cluster) (ns : String) : List GraphNode :=
  (answered (c.list "PodDisruptionBudget" ns c.disruptionBudgets)).flatMap fun pdb =>
    [disruptionBudgetNode ns pdb]

theorem adds_addDisruptionBudgets (h : addDisruptionBudgets c ns owners g = .ok g') :
    Adds (disruptionBudgetNodes c ns) g g' := by
  refine adds_optionalFold (fun g pdb => ?_) h
  unfold addDisruptionBudget
  simp only
  split
  · exact .addNode _
  · exact (Adds.addNode _).link (.foldl_links (fun g o => .addEdge _ _ _) _ _)

/-- A policy whose selector is malformed is not drawn. -/
def drawnPolicy (ns : String) (owners : NamespaceOwners) (policy : NetworkPolicy) :
    List GraphNode :=
  match labelSelectorAsSelector (some policy.podSelector) with
  | none => []
  | some selector => [networkPolicyNode ns policy (matchingOwners owners selector)]

def networkPolicyNodes (c : Cluster) (ns : String) (owners : NamespaceOwners) : List GraphNode :=
  (answered (c.list "NetworkPolicy" ns c.networkPolicies)).flatMap (drawnPolicy ns owners)

theorem drawnPolicy_cases {policy : NetworkPolicy} {n : GraphNode}
    (h : n ∈ drawnPolicy ns owners policy) : ∃ targets, n = networkPolicyNode ns policy targets := by
  unfold drawnPolicy at h
  split at h
  · cases h
  · exact ⟨_, List.mem_singleton.mp h⟩

theorem adds_linkPolicy {id : String} {sources destinations : List PodTemplateOwner} (g : Graph)
    (target : PodTemplateOwner) : Adds [] g (linkPolicy id sources destinations g target) := by
  unfold linkPolicy
  exact ((Adds.addEdge _ _ _).link (.foldl_links (fun g src => .addEdge _ _ _) _ _)).link
    (.foldl_links (fun g dst => .addEdge _ _ _) _ _)

theorem adds_addNetworkPolicies (h : addNetworkPolicies c ns owners g = .ok g') :
    Adds (networkPolicyNodes c ns owners) g g' := by
  refine adds_optionalFold (fun g policy => ?_) h
  unfold addNetworkPolicy drawnPolicy
  cases labelSelectorAsSelector (some policy.podSelector) with
  | none => exact .refl g
  | some selector => exact (Adds.addNode _).link (.foldl_links adds_linkPolicy _ _)

/-- Where quotas cannot be read, limits are not looked for. -/
def quotaNodes (c : Cluster) (ns : String) : List GraphNode :=
  match c.list "ResourceQuota" ns c.resourceQuotas with
  | .ok quotas =>
      quotas.map (quotaNode ns) ++
        (answered (c.list "LimitRange" ns c.limitRanges)).flatMap fun lr => [limitRangeNode ns lr]
  | .error _ => []

theorem quotaNodes_cases {n : GraphNode} (h : n ∈ quotaNodes c ns) :
    (∃ q, n = quotaNode ns q) ∨ ∃ lr, n = limitRangeNode ns lr := by
  unfold quotaNodes at h
  split at h
  · rcases List.mem_append.mp h with hquota | hlimit
    · obtain ⟨q, -, rfl⟩ := List.mem_map.mp hquota
      exact Or.inl ⟨q, rfl⟩
    · obtain ⟨lr, -, hlr⟩ := List.mem_flatMap.mp hlimit
      exact Or.inr ⟨lr, List.mem_singleton.mp hlr⟩
  · cases h

theorem adds_addQuotas (h : addQuotas c ns g = .ok g') : Adds (quotaNodes c ns) g g' := by
  unfold quotaNodes
  rcases optionalStep_cases h with ⟨quotas, hread, hlimits⟩ | ⟨err, hread, rfl⟩
  · rw [hread]
    exact (Adds.foldl_nodes (fun g q => .addNode _) quotas g).trans
      (adds_optionalFold (fun g lr => .addNode _) hlimits)
  · rw [hread]
    exact .refl _

/-! ### Accounts and roles -/

def accountNodeOf (ns : String) (usedBy : StringMap (List String)) (name : String) : GraphNode :=
  accountNode ns name ((usedBy.lookup name).getD [])

def bindingNodes (ns : String) (usedBy : StringMap (List String)) (rules : StringMap Nat)
    (b : AccountBinding) : List GraphNode :=
  bindingNode b :: b.accounts.map (accountNodeOf ns usedBy) ++ [roleNode b.roleRef ns rules]

def serviceAccountNodes (c : Cluster) (order : RangeOrder) (ns : String)
    (owners : NamespaceOwners) : List GraphNode :=
  let usedBy := accountUsers owners
  if usedBy.entries.length = 0 then []
  else
    ((order.accounts usedBy.keys).filter fun name => name ≠ defaultServiceAccount).map
        (accountNodeOf ns usedBy) ++
      (answered (bindingsFor c ns usedBy)).flatMap (bindingNodes ns usedBy (roleRules c ns))

theorem serviceAccountNodes_cases {n : GraphNode} (h : n ∈ serviceAccountNodes c order ns owners) :
    (∃ name, n = accountNodeOf ns (accountUsers owners) name) ∨
      ∃ b ∈ answered (bindingsFor c ns (accountUsers owners)),
        n = bindingNode b ∨ n = roleNode b.roleRef ns (roleRules c ns) := by
  unfold serviceAccountNodes at h
  simp only at h
  split at h
  · cases h
  · rcases List.mem_append.mp h with hnamed | hbinding
    · obtain ⟨name, -, rfl⟩ := List.mem_map.mp hnamed
      exact Or.inl ⟨name, rfl⟩
    · obtain ⟨b, hb, hnode⟩ := List.mem_flatMap.mp hbinding
      rcases List.mem_append.mp hnode with hshown | hrole
      · rcases List.mem_cons.mp hshown with rfl | haccounts
        · exact Or.inr ⟨b, hb, Or.inl rfl⟩
        · obtain ⟨name, -, rfl⟩ := List.mem_map.mp haccounts
          exact Or.inl ⟨name, rfl⟩
      · exact Or.inr ⟨b, hb, Or.inr (List.mem_singleton.mp hrole)⟩

theorem adds_addAccount {usedBy : StringMap (List String)} (g : Graph) (name : String) :
    Adds [accountNodeOf ns usedBy name] g (addAccount ns usedBy g name) := by
  unfold addAccount
  simp only
  split
  · exact .of_hasNode ‹_›
  · exact (Adds.addNode _).link (.foldl_links (fun g owner => .addEdge _ _ _) _ _)

theorem adds_addBinding {usedBy : StringMap (List String)} {rules : StringMap Nat} (g : Graph)
    (b : AccountBinding) :
    Adds (bindingNodes ns usedBy rules b) g (addBinding ns usedBy rules g b) := by
  have haccounts : ∀ g, Adds (b.accounts.map (accountNodeOf ns usedBy)) g
      (b.accounts.foldl (bindAccount ns usedBy (bindingNode b).id) g) := fun g =>
    .foldl_nodes (fun g account => (adds_addAccount g account).link (.addEdge _ _ _)) _ g
  exact ((Adds.addNode (bindingNode b)).trans (haccounts _)).trans
    ((Adds.addNode _).link (.addEdge _ _ _))

theorem adds_addServiceAccounts (h : addServiceAccounts c order ns owners g = .ok g') :
    Adds (serviceAccountNodes c order ns owners) g g' := by
  unfold addServiceAccounts at h
  unfold serviceAccountNodes
  simp only at h ⊢
  split at h
  · rename_i hnone
    rw [if_pos hnone]
    obtain rfl := Fallible.pure_eq_ok.mp h
    exact .refl _
  · rename_i hsome
    rw [if_neg hsome]
    simp only [Fallible.bind_eq_ok, Fallible.pure_eq_ok] at h
    obtain ⟨bindings, hbindings, rfl⟩ := h
    rw [hbindings]
    exact (Adds.foldl_nodes adds_addAccount _ _).trans (.foldl (fun g b _ => adds_addBinding g b) _)

/-! ### The level -/

/-- Everything the level draws besides the owners of its pods. -/
def sharedNodes (c : Cluster) (order : RangeOrder) (ns : String) (owners : NamespaceOwners) :
    List GraphNode :=
  serviceNodes c ns ++ (ingressNodes c ns ++ (gatewayNodes c ns ++
    (configNodes c order ns owners ++ (autoscalerNodes c ns ++ (disruptionBudgetNodes c ns ++
      (networkPolicyNodes c ns owners ++ (serviceAccountNodes c order ns owners ++
        quotaNodes c ns)))))))

theorem adds_namespaceLevel (h : namespaceLevel c order ns = .ok g) :
    ∃ owners, listPodOwners c ns = .ok owners ∧
      Adds (owners.owners.map (·.node) ++ sharedNodes c order ns owners) (.new .namespace) g := by
  simp only [namespaceLevel, namespaceSteps, List.foldlM_cons, List.foldlM_nil,
    Fallible.bind_eq_ok, Fallible.pure_eq_ok] at h
  obtain ⟨owners, howners, g₁, h₁, g₂, h₂, g₃, h₃, g₄, h₄, g₅, h₅, g₆, h₆, g₇, h₇, g₈, h₈, _, h₉,
    rfl⟩ := h
  refine ⟨owners, howners, ?_⟩
  refine (Adds.foldl_nodes (fun g o => .addNode _) owners.owners _).trans ?_
  exact (adds_addServices h₁).trans ((adds_addIngresses h₂).trans ((adds_addGatewayRoutes h₃).trans
    ((adds_addConfigRefs h₄).trans ((adds_addAutoscalers h₅).trans
      ((adds_addDisruptionBudgets h₆).trans ((adds_addNetworkPolicies h₇).trans
        ((adds_addServiceAccounts h₈).trans (adds_addQuotas h₉))))))))

end Wiremap.Topology
