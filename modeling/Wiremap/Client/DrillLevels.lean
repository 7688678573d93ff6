import Wiremap.Client.DrillTargets
import Wiremap.Topology.DrillDown
import Wiremap.Topology.LensNodes

/-! Which levels offer only what opens: those whose references lead to objects that
the cluster has. -/
namespace Wiremap.Client

open Wiremap.Kube Wiremap.Library Wiremap.Topology
open Wiremap.Topology.Graph (Adds)

variable {c : Cluster} {order : RangeOrder} {ns : String} {g : Graph} {level : Level}

/-! ### The cluster and node levels -/

theorem present_pod {pod : Pod} (h : pod ∈ c.pods.items) : Present c (podRef pod.ns pod.name) := by
  refine Or.inr (Or.inr ?_)
  have hfind : c.pods.find (pod.ns, pod.name) = some pod :=
    KeyedList.find_eq_some_iff.mpr ⟨h, rfl⟩
  exact Option.isSome_iff_exists.mpr ⟨pod, hfind⟩

theorem present_service {svc : Service} (h : svc ∈ c.services.items) :
    Present c (serviceNode svc).ref := by
  refine Or.inr (Or.inr ?_)
  have hfind : c.services.find (svc.ns, svc.name) = some svc :=
    KeyedList.find_eq_some_iff.mpr ⟨h, rfl⟩
  exact Option.isSome_iff_exists.mpr ⟨svc, hfind⟩

theorem offers_nodeLevel (name : String) : Offers c [] ((podsOn c name).map hostedPod) := by
  refine .of_forall fun n hn _ _ => ?_
  obtain ⟨pod, hpod, rfl⟩ := List.mem_map.mp hn
  exact present_pod (List.mem_filter.mp hpod).1

def claimObjects (c : Cluster) : List ObjectRef :=
  (answered (c.list "PersistentVolumeClaim" "" c.persistentVolumeClaims)).map fun pvc =>
    ⟨"", "PersistentVolumeClaim", pvc.ns, pvc.name⟩

theorem closed_storageNode {n : GraphNode} (h : StorageNode n) : Closed n := by
  cases h <;> rfl

theorem closed_accessBindingNodes {kind ns name : String} {rules : StringMap Nat}
    {subjects : List Subject} {roleRef : RoleRef} :
    ∀ n ∈ accessBindingNodes kind rules ns name subjects roleRef, Closed n := by
  intro n hn
  rcases accessBindingNodes_cases hn with rfl | ⟨sub, rfl⟩ | rfl <;> rfl

theorem closed_accessNodes : ∀ n ∈ accessNodes c, Closed n :=
  List.forall_mem_append.mpr
    ⟨List.forall_mem_flatMap.mpr fun _ _ => closed_accessBindingNodes,
      List.forall_mem_flatMap.mpr fun _ _ => closed_accessBindingNodes⟩

theorem find_lensClaimNodes {volumes : List PersistentVolume} (pvcs : List PersistentVolumeClaim)
    {id ns name : String} (hid : id = kubeNodeID "PersistentVolumeClaim" ns name) :
    (pvcs.flatMap (lensClaimNodes volumes)).find? (fun n => n.id = id) =
      (pvcs.map lensClaimNode).find? fun n => n.id = id := by
  have hclass : ∀ className, (classNodes className).find? (fun n => n.id = id) = none := by
    intro className
    refine List.find?_eq_none.mpr fun n hn heq => ?_
    have hsame := (classNodes_id hn).symm.trans ((of_decide_eq_true heq).trans hid)
    exact absurd (kubeNodeID_kind (by decide) (by decide) hsame).1 (by decide)
  have hfirst : ∀ pvc, (lensClaimNodes volumes pvc).find? (fun n => n.id = id) =
      [lensClaimNode pvc].find? fun n => n.id = id := by
    intro pvc
    unfold lensClaimNodes
    split
    · rfl
    · rw [List.find?_cons, List.find?_cons, hclass]
      rfl
  rw [List.map_eq_flatMap, List.find?_flatMap, List.find?_flatMap]
  simp only [hfirst]

theorem lensClaimNode_of_open {volumes : List PersistentVolume} {pvcs : List PersistentVolumeClaim}
    {n : GraphNode} (hn : n ∈ pvcs.flatMap (lensClaimNodes volumes)) (hdrillable : n.drillable = true) :
    ∃ pvc, lensClaimNode pvc = n := by
  obtain ⟨pvc, -, hpvc⟩ := List.mem_flatMap.mp hn
  rcases List.mem_cons.mp hpvc with rfl | hclass
  · exact ⟨pvc, rfl⟩
  · split at hclass
    · cases hclass
    · have hclosed : n.drillable = false := closed_storageNode (storageNode_classNodes hclass)
      rw [hclosed] at hdrillable
      cases hdrillable

theorem offers_lensClaimNodes {volumes : List PersistentVolume}
    (pvcs : List PersistentVolumeClaim) :
    Offers c [] (pvcs.flatMap (lensClaimNodes volumes)) ↔ Offers c [] (pvcs.map lensClaimNode) := by
  have hfirst : ∀ pvc, lensClaimNode pvc ∈ Graph.firstOfEach (pvcs.flatMap (lensClaimNodes volumes)) ↔
      lensClaimNode pvc ∈ Graph.firstOfEach (pvcs.map lensClaimNode) := by
    intro pvc
    have hfind : (pvcs.flatMap (lensClaimNodes volumes)).find? (fun n => n.id = (lensClaimNode pvc).id) =
        (pvcs.map lensClaimNode).find? fun n => n.id = (lensClaimNode pvc).id :=
      find_lensClaimNodes pvcs rfl
    rw [Graph.mem_firstOfEach, Graph.mem_firstOfEach, hfind]
  constructor
  · intro hoffers n hn
    obtain ⟨pvc, -, rfl⟩ := List.mem_map.mp (Graph.mem_of_firstOfEach hn)
    exact hoffers _ ((hfirst pvc).mpr hn)
  · intro hoffers n hn hbefore hdrillable
    obtain ⟨pvc, rfl⟩ := lensClaimNode_of_open (Graph.mem_of_firstOfEach hn) hdrillable
    exact hoffers _ ((hfirst pvc).mp hn) hbefore hdrillable

theorem offers_storageNodes : Offers c [] (storageNodes c) ↔
    ∀ r ∈ firstRefs (claimObjects c), found c r = true := by
  have hstorage : ∀ n, StorageNode n → n.Apart "PersistentVolumeClaim" := by
    intro n hn
    cases hn with
    | volume pv => exact .of_id "PersistentVolume" "" pv.name rfl rfl (by decide)
    | storageClass name => exact .of_id "StorageClass" "" name rfl rfl (by decide)
  have hothers : ∀ n ∈ (answered (c.listAll "StorageClass" c.storageClasses)).map storageClassNode ++
      (answered (c.listAll "PersistentVolume" c.persistentVolumes)).flatMap
        (fun pv => persistentVolumeNode pv :: classNodes pv.storageClassName),
      Closed n ∧ n.Apart "PersistentVolumeClaim" := by
    refine List.forall_mem_append.mpr ⟨List.forall_mem_map.mpr fun sc _ => ⟨rfl, ?_⟩,
      List.forall_mem_flatMap.mpr fun pv _ n hn => ?_⟩
    · exact .of_id "StorageClass" "" sc.name rfl rfl (by decide)
    · exact ⟨closed_storageNode (storageNode_bound hn), hstorage n (storageNode_bound hn)⟩
  have hclaims : ((answered (c.list "PersistentVolumeClaim" "" c.persistentVolumeClaims)).map
      lensClaimNode).map GraphNode.ref = claimObjects c := List.map_map
  unfold storageNodes
  simp only
  rw [Offers.append_iff_right (.of_closed fun n hn => (hothers n hn).1), offers_lensClaimNodes,
    Offers.iff_firstRefs (List.forall_mem_map.mpr fun _ _ => rfl)
      (List.forall_mem_map.mpr fun _ _ => rfl), hclaims]
  · refine forall₂_congr fun r hr => ?_
    obtain ⟨pvc, -, rfl⟩ := List.mem_map.mp (List.mem_of_find?_eq_some (mem_firstRefs.mp hr))
    simp [Present]
  · intro m hm n hn hdrillable
    obtain ⟨pvc, rfl⟩ := lensClaimNode_of_open hn hdrillable
    exact (hothers m hm).2.id_ne _ _

/-! ### The object level -/

theorem offers_scheduledPods {pods : List Pod} (hpods : c.list "Pod" ns c.pods = .ok pods)
    (p : Pod → Bool) {before : List GraphNode} :
    Offers c before ((pods.filter p).map scheduledPod) := by
  obtain ⟨-, rfl⟩ := Cluster.list_ok.mp hpods
  refine .of_forall fun n hn _ _ => ?_
  obtain ⟨pod, hpod, rfl⟩ := List.mem_map.mp hn
  exact present_pod (List.mem_of_mem_filter (List.mem_of_mem_filter hpod))

theorem offers_containers (pod : Pod) : Offers c [] (podNodes ns pod) := by
  have hcontainer : ∀ n ∈ podNodes ns pod, Closed n ∨ n.kind = "Container" := by
    refine List.forall_mem_append.mpr ⟨List.forall_mem_cons.mpr ⟨Or.inl rfl, ?_⟩, ?_⟩
    · exact List.forall_mem_map.mpr fun _ _ => Or.inr rfl
    · exact List.forall_mem_map.mpr fun _ _ => Or.inr rfl
  refine .of_forall fun n hn hdrillable hkind => ?_
  rcases hcontainer n hn with hclosed | heq
  · rw [hclosed] at hdrillable
    cases hdrillable
  · exact absurd heq hkind

theorem offers_backends {name : String} (hc : c.Readable)
    (h : addServiceBackends c ns name (.new level) = .ok g) : DrillableOpens c g := by
  obtain ⟨svc, pods, -, hpods, hadds⟩ := adds_addServiceBackends h
  have hroot : Closed (serviceRoot svc) := rfl
  exact (drillableOpens_iff hc hadds).mpr ((Offers.cons_iff hroot).mpr (offers_scheduledPods hpods _))

theorem offers_routes (hc : c.Readable) {name : String}
    (h : addIngressBackends c ns name (.new level) = .ok g) : DrillableOpens c g := by
  obtain ⟨ing, -, hadds⟩ := adds_addIngressBackends h
  refine (drillableOpens_iff hc hadds).mpr (.of_forall fun n hn hdrillable _ => ?_)
  rcases List.mem_cons.mp hn with rfl | hbackend
  · cases hdrillable
  · obtain ⟨backend, -, rfl⟩ := List.mem_map.mp hbackend
    unfold backendNode at *
    cases hget : c.get "Service" ns backend c.services with
    | ok svc => exact present_service (KeyedList.mem_of_find (Cluster.get_ok hget)).1
    | error err =>
        rw [hget] at hdrillable
        cases hdrillable

theorem offers_consumers (hc : c.Readable) {kind name : String}
    (h : addConsumers c ns kind name (.new level) = .ok g) : DrillableOpens c g := by
  obtain ⟨obj, pods, -, hpods, hadds⟩ := adds_addConsumers h
  have hroot : Closed (workloadRoot kind ns name (objectStatus obj)) := rfl
  refine (drillableOpens_iff hc hadds).mpr (Offers.append.mpr ⟨?_, ?_⟩)
  · exact (Offers.cons_iff hroot).mpr (offers_scheduledPods hpods _)
  · split
    · exact .of_closed fun n hn => closed_storageNode (storageNode_claimVolumeNodes hn)
    · exact .of_closed (List.forall_mem_nil _)

theorem closed_root {group kind name : String} {t : Tree}
    (h : treeOf c ns group kind name = .ok t) : Closed t.root := by
  obtain ⟨rating, apiGroup, hroot, -⟩ := (rooted_treeOf h).root
  rw [hroot]
  rfl

/-- Of an owner's nodes, only Jobs drawn in no namespace may fail to open. -/
theorem offers_treeNodes {group kind name : String} {t : Tree} {pods : List Pod}
    (ht : treeOf c ns group kind name = .ok t) (hpods : c.list "Pod" ns c.pods = .ok pods) :
    Offers c [] (t.nodes ns pods) ↔ (ns = "" → ∀ j ∈ t.jobs,
      (jobRef ns j.name).id ≠ kubeNodeID kind ns name → found c (jobRef ns j.name) = true) := by
  have hjobs : Offers c [t.root] (t.jobs.map (jobNode ns)) ↔ ∀ j ∈ t.jobs,
      (jobRef ns j.name).id ≠ kubeNodeID kind ns name → found c (jobRef ns j.name) = true := by
    rw [Offers.iff_forall, List.forall_mem_map]
    · refine forall₂_congr fun j _ => ?_
      rw [List.forall_mem_singleton, root_id ht, jobNode_ref, ne_comm]
      exact imp_congr_right fun _ => by simp [Present, jobRef]
    · exact List.forall_mem_map.mpr fun j _ =>
        ⟨rfl, (by decide : "Job" ≠ "Container")⟩
    · rintro n hn m hm hid
      obtain ⟨j, -, rfl⟩ := List.mem_map.mp hn
      obtain ⟨j', -, rfl⟩ := List.mem_map.mp hm
      rw [jobNode_ref, jobNode_ref, kubeNodeID_inj hid]
  rw [Tree.nodes, List.cons_append, Offers.cons_iff (closed_root ht), List.nil_append,
    Offers.append_iff_left, hjobs]
  · refine ⟨fun hfound _ => hfound, fun hfound j hj hfree => ?_⟩
    by_cases hns : ns = ""
    · exact hfound hns j hj hfree
    · exact Option.isSome_iff_exists.mpr ⟨j, jobs_treeOf hns ht j hj⟩
  · exact offers_scheduledPods hpods _

/-! ### The namespace level -/

def NotConfig (node : GraphNode) : Prop := ∀ kind ∈ specRefKinds, node.Apart kind

theorem notConfig_of_id {node : GraphNode} (own ns name : String) (hown : node.kind = own)
    (hid : node.id = kubeNodeID own ns name) (hkind : own ∉ specRefKinds ∧ Text.Free '/' own) :
    NotConfig node := by
  have hfree : ∀ kind ∈ specRefKinds, Text.Free '/' kind := by decide
  intro kind hmem
  refine .of_id own ns name hown hid ⟨?_, hkind.2, hfree kind hmem⟩
  rintro rfl
  exact hkind.1 hmem

theorem gatewayNodes_closed : ∀ n ∈ gatewayNodes c ns, Closed n ∧ NotConfig n := by
  have hkinds : ∀ kind ∈ gatewayRouteKinds, kind ∉ specRefKinds ∧ Text.Free '/' kind := by decide
  intro n hn
  rcases gatewayNodes_cases hn with ⟨gw, rfl⟩ | ⟨route, hroute, rfl⟩ | ⟨name, ns', rfl⟩
  · exact ⟨rfl, notConfig_of_id "Gateway" ns gw.name rfl rfl (by decide)⟩
  · exact ⟨rfl, notConfig_of_id route.1 ns route.2.name rfl rfl
      (hkinds _ (kind_of_gatewayObjects hroute))⟩
  · exact ⟨rfl, notConfig_of_id "Gateway" ns' name rfl rfl (by decide)⟩

theorem closed_networkPolicyNodes {owners : NamespaceOwners} :
    ∀ n ∈ networkPolicyNodes c ns owners, Closed n := by
  refine List.forall_mem_flatMap.mpr fun policy _ n hn => ?_
  obtain ⟨targets, rfl⟩ := drawnPolicy_cases hn
  rfl

theorem closed_serviceAccountNodes {owners : NamespaceOwners} :
    ∀ n ∈ serviceAccountNodes c order ns owners, Closed n := by
  intro n hn
  rcases serviceAccountNodes_cases hn with ⟨name, rfl⟩ | ⟨b, -, rfl | rfl⟩ <;> rfl

theorem closed_quotaNodes : ∀ n ∈ quotaNodes c ns, Closed n := by
  intro n hn
  rcases quotaNodes_cases hn with ⟨q, rfl⟩ | ⟨lr, rfl⟩ <;> rfl

theorem closed_policies {owners : NamespaceOwners} :
    ∀ n ∈ autoscalerNodes c ns ++ (disruptionBudgetNodes c ns ++ (networkPolicyNodes c ns owners ++
      (serviceAccountNodes c order ns owners ++ quotaNodes c ns))), Closed n := by
  have hautoscalers : ∀ n ∈ autoscalerNodes c ns, Closed n :=
    List.forall_mem_flatMap.mpr fun _ _ => List.forall_mem_singleton.mpr rfl
  have hbudgets : ∀ n ∈ disruptionBudgetNodes c ns, Closed n :=
    List.forall_mem_flatMap.mpr fun _ _ => List.forall_mem_singleton.mpr rfl
  simp only [List.forall_mem_append]
  exact ⟨hautoscalers, hbudgets, closed_networkPolicyNodes, closed_serviceAccountNodes,
    closed_quotaNodes⟩

def configObject (ns : String) (ref : SpecRef) : ObjectRef := ⟨"", ref.kind, ns, ref.name⟩

def ingressObject (ns : String) (ing : Ingress) : ObjectRef :=
  ⟨"networking.k8s.io", "Ingress", ns, ing.name⟩

def Unowned (c : Cluster) (ns : String) (r : ObjectRef) : Prop :=
  ∀ owner ∈ ownerObjects c ns, owner.id ≠ r.id

/-- What a namespace refers to is there: the owners of its pods, of each ID the first,
and the configuration its pods use, where no owner is drawn in its place.  What is
listed without a namespace has to be there without one. -/
structure ReferencesResolve (c : Cluster) (order : RangeOrder) (ns : String) : Prop where
  owners : ∀ r ∈ firstRefs (ownerObjects c ns), r.kind ≠ "Container" → Present c r
  config : ∀ ref ∈ configRefs c order ns, Unowned c ns (configObject ns ref) →
    found c (configObject ns ref) = true
  ingresses : ns = "" → ∀ ing ∈ c.ingresses.items, Unowned c ns (ingressObject ns ing) →
    found c (ingressObject ns ing) = true

theorem offered_listPodOwners {owners : NamespaceOwners} (h : listPodOwners c ns = .ok owners) :
    ∀ n ∈ owners.owners.map (·.node), n.drillable = true ∧ n.ref.id = n.id := by
  obtain ⟨w, pods, hw, -, rfl⟩ := listPodOwners_ok h
  exact List.forall_mem_map.mpr fun o ho =>
    ⟨(offered_owners hw pods o ho).drillable, (offered_owners hw pods o ho).id⟩

variable {owners : NamespaceOwners}

theorem offers_owners (h : listPodOwners c ns = .ok owners) :
    Offers c [] (owners.owners.map (·.node)) ↔
      ∀ r ∈ firstRefs (ownerObjects c ns), r.kind ≠ "Container" → Present c r := by
  have hfirst : ∀ r, r ∈ firstRefs ((owners.owners.map (·.node)).map GraphNode.ref) ↔
      r ∈ firstRefs (ownerObjects c ns) := by
    intro r
    rw [mem_firstRefs, mem_firstRefs, ← listPodOwners_find h, List.map_map]
    rfl
  rw [Offers.iff_firstRefs (fun n hn => (offered_listPodOwners h n hn).1)
    (fun n hn => (offered_listPodOwners h n hn).2)]
  simp only [hfirst]

theorem unowned_iff (h : listPodOwners c ns = .ok owners) (r : ObjectRef) :
    (∀ n ∈ owners.owners.map (·.node), n.id ≠ r.id) ↔ Unowned c ns r := by
  have hrefs : (∀ n ∈ owners.owners.map (·.node), n.id ≠ r.id) ↔
      ∀ owner ∈ owners.owners.map (·.node.ref), owner.id ≠ r.id := by
    rw [← Function.comp_def GraphNode.ref, ← List.map_map, List.forall_mem_map (f := GraphNode.ref)]
    exact forall₂_congr fun n hn => by rw [(offered_listPodOwners h n hn).2]
  have hnone : ∀ refs : List ObjectRef, (∀ owner ∈ refs, owner.id ≠ r.id) ↔
      refs.find? (fun owner => owner.id = r.id) = none := by
    intro refs
    simp [List.find?_eq_none]
  rw [hrefs, Unowned, hnone, hnone, listPodOwners_find h]

/-- Of the kinds that are looked for under their own names only, an object opens if it is there. -/
theorem present_iff_found {r : ObjectRef} (hnode : r.kind ≠ "Node") (hns : r.kind ≠ "Namespace") :
    Present c r ↔ found c r = true := by
  simp [Present, hnode, hns]

theorem offers_ingresses (hc : c.Readable) (h : listPodOwners c ns = .ok owners) :
    Offers c (owners.owners.map (·.node)) (ingressNodes c ns) ↔
      (ns = "" → ∀ ing ∈ c.ingresses.items, Unowned c ns (ingressObject ns ing) →
        found c (ingressObject ns ing) = true) := by
  have hall : Offers c (owners.owners.map (·.node)) (ingressNodes c ns) ↔
      ∀ ing ∈ Cluster.within ns c.ingresses, Unowned c ns (ingressObject ns ing) →
        found c (ingressObject ns ing) = true := by
    rw [ingressNodes, Cluster.list_readable hc, answered_ok, Offers.iff_forall, List.forall_mem_map]
    · refine forall₂_congr fun ing _ => ?_
      rw [← unowned_iff h]
      exact imp_congr_right fun _ =>
        present_iff_found (r := ingressObject ns ing) (by decide : "Ingress" ≠ "Node")
          (by decide : "Ingress" ≠ "Namespace")
    · exact List.forall_mem_map.mpr fun ing _ => ⟨rfl, (by decide : "Ingress" ≠ "Container")⟩
    · intro n hn m hm hid
      obtain ⟨ing, -, rfl⟩ := List.mem_map.mp hn
      obtain ⟨ing', -, rfl⟩ := List.mem_map.mp hm
      have hname : ing.name = ing'.name := kubeNodeID_inj hid
      change ingressObject ns ing = ingressObject ns ing'
      rw [ingressObject, hname, ingressObject]
  rw [hall]
  by_cases hns : ns = ""
  · simp [hns, Cluster.within]
  · simp only [hns, false_imp_iff, iff_true]
    intro ing hing _
    obtain ⟨hstored, hingns⟩ :=
      (Cluster.mem_of_list (Cluster.list_readable hc "Ingress" ns c.ingresses) hns).mp hing
    have hfind : c.ingresses.find (ns, ing.name) = some ing :=
      KeyedList.find_eq_some_iff.mpr ⟨hstored, Prod.ext hingns rfl⟩
    exact Option.isSome_iff_exists.mpr ⟨ing, hfind⟩

theorem specRefNode_ref {pvcs : StringMap PersistentVolumeClaim} {ref : SpecRef}
    (hkind : ref.kind ∈ specRefKinds) : (specRefNode ns pvcs ref).ref = configObject ns ref := by
  have hgroup : ∀ kind ∈ specRefKinds, (kindGroups.lookup kind).getD "" = "" := by decide
  simp [GraphNode.ref, GraphNode.grouped, specRefNode, configObject, hgroup _ hkind]

theorem offers_config (h : listPodOwners c ns = .ok owners) :
    Offers c (owners.owners.map (·.node))
        ((owners.owners.flatMap (ownerRefs order (claimsOf c ns))).map
          (specRefNode ns (claimsOf c ns))) ↔
      ∀ ref ∈ configRefs c order ns, Unowned c ns (configObject ns ref) →
        found c (configObject ns ref) = true := by
  have hkinds : ∀ ref ∈ owners.owners.flatMap (ownerRefs order (claimsOf c ns)),
      ref.kind ∈ specRefKinds := by
    intro ref href
    obtain ⟨o, -, ho⟩ := List.mem_flatMap.mp href
    exact ofSpecKinds_ownerRefs _ o ref ho
  have hother : ∀ kind ∈ specRefKinds, kind ≠ "Node" ∧ kind ≠ "Namespace" ∧ kind ≠ "Container" ∧
      Text.Free '/' kind := by decide
  rw [Offers.iff_forall, List.forall_mem_map]
  · simp only [← mem_configRefs h]
    refine forall₂_congr fun ref href => ?_
    obtain ⟨hnode, hnamespace, -, -⟩ := hother _ (hkinds ref href)
    rw [← unowned_iff h, specRefNode_ref (hkinds ref href)]
    exact imp_congr_right fun _ => present_iff_found hnode hnamespace
  · exact List.forall_mem_map.mpr fun ref href => ⟨rfl, (hother _ (hkinds ref href)).2.2.1⟩
  · intro n hn m hm hid
    obtain ⟨ref, href, rfl⟩ := List.mem_map.mp hn
    obtain ⟨ref', href', rfl⟩ := List.mem_map.mp hm
    obtain ⟨hkind, -⟩ := kubeNodeID_kind (hother _ (hkinds ref href)).2.2.2
      (hother _ (hkinds ref' href')).2.2.2 hid
    obtain ⟨kind, name⟩ := ref
    obtain ⟨kind', name'⟩ := ref'
    obtain rfl : kind = kind' := hkind
    obtain rfl : name = name' := kubeNodeID_inj hid
    rfl

theorem offers_services (hc : c.Readable) {before : List GraphNode} :
    Offers c before (serviceNodes c ns) := by
  rw [serviceNodes, Cluster.list_readable hc, answered_ok]
  refine .of_forall (List.forall_mem_map.mpr fun svc hsvc _ _ => ?_)
  exact present_service (List.mem_of_mem_filter hsvc)

theorem notConfig_traffic :
    ∀ n ∈ serviceNodes c ns ++ ingressNodes c ns ++ gatewayNodes c ns, NotConfig n := by
  refine List.forall_mem_append.mpr ⟨List.forall_mem_append.mpr ⟨?_, ?_⟩, ?_⟩
  · exact List.forall_mem_map.mpr fun svc _ =>
      notConfig_of_id "Service" svc.ns svc.name rfl rfl (by decide)
  · exact List.forall_mem_map.mpr fun ing _ =>
      notConfig_of_id "Ingress" ns ing.name rfl rfl (by decide)
  · exact fun n hn => (gatewayNodes_closed n hn).2

theorem offers_namespace (hc : c.Readable) (h : listPodOwners c ns = .ok owners) :
    Offers c [] (owners.owners.map (·.node) ++ sharedNodes c order ns owners) ↔
      ReferencesResolve c order ns := by
  have hgateways : ∀ before, Offers c before (gatewayNodes c ns) :=
    fun _ => .of_closed fun n hn => (gatewayNodes_closed n hn).1
  have hvolumes : ∀ before, Offers c before
      ((order.volumes (usedClaims order (claimsOf c ns) owners).keys).flatMap
        (volumeNodes (volumesOf c) (claimsOf c ns))) :=
    fun _ => .of_closed (List.forall_mem_flatMap.mpr fun _ _ _ hn =>
      closed_storageNode (storageNode_volumeNodes hn))
  have hpolicies : ∀ before, Offers c before (autoscalerNodes c ns ++ (disruptionBudgetNodes c ns ++
      (networkPolicyNodes c ns owners ++ (serviceAccountNodes c order ns owners ++
        quotaNodes c ns)))) := fun _ => .of_closed closed_policies
  have hingresses : Offers c (owners.owners.map (·.node) ++ serviceNodes c ns) (ingressNodes c ns) ↔
      Offers c (owners.owners.map (·.node)) (ingressNodes c ns) := by
    refine Offers.skip fun m hm n hn _ hid => ?_
    obtain ⟨svc, -, rfl⟩ := List.mem_map.mp hm
    obtain ⟨ing, -, rfl⟩ := List.mem_map.mp hn
    exact absurd (kubeNodeID_kind (by decide) (by decide) hid).1 (by decide)
  have hconfig : Offers c (owners.owners.map (·.node) ++
        (serviceNodes c ns ++ ingressNodes c ns ++ gatewayNodes c ns))
      ((owners.owners.flatMap (ownerRefs order (claimsOf c ns))).map
        (specRefNode ns (claimsOf c ns))) ↔ _ := Offers.skip fun m hm n hn _ => by
    obtain ⟨ref, href, rfl⟩ := List.mem_map.mp hn
    obtain ⟨o, -, ho⟩ := List.mem_flatMap.mp href
    exact (notConfig_traffic m hm ref.kind (ofSpecKinds_ownerRefs _ o ref ho)).id_ne _ _
  have hshared : sharedNodes c order ns owners = serviceNodes c ns ++ ingressNodes c ns ++
      gatewayNodes c ns ++ (configNodes c order ns owners ++ (autoscalerNodes c ns ++
        (disruptionBudgetNodes c ns ++ (networkPolicyNodes c ns owners ++
          (serviceAccountNodes c order ns owners ++ quotaNodes c ns))))) := by
    simp only [sharedNodes, List.append_assoc]
  rw [hshared, Offers.append, List.nil_append, offers_owners h, Offers.append,
    Offers.append_iff_left (hpolicies _), configNodes, Offers.append_iff_left (hvolumes _),
    hconfig, offers_config h, Offers.append_iff_left (hgateways _), Offers.append,
    and_iff_right (offers_services hc), hingresses, offers_ingresses hc h]
  constructor
  · rintro ⟨howners, hing, hconf⟩
    exact ⟨howners, hconf, hing⟩
  · rintro ⟨howners, hconf, hing⟩
    exact ⟨howners, hing, hconf⟩

/-! ### Every request -/

def jobsUnder (c : Cluster) (ns group kind name : String) : List Job :=
  match treeOf c ns group kind name with
  | .ok t => t.jobs
  | .error _ => []

/-- What a level refers to is there to be opened. -/
def Resolves (c : Cluster) (order : RangeOrder) : Canvas → Prop
  | .cluster .storage => ∀ r ∈ firstRefs (claimObjects c), found c r = true
  | .cluster _ => True
  | .inNamespace ns => ReferencesResolve c order ns
  | .object ns group kind name =>
      ns = "" → openedAs group kind = .owned → ∀ j ∈ jobsUnder c ns group kind name,
        (jobRef ns j.name).id ≠ kubeNodeID kind ns name → found c (jobRef ns j.name) = true
  | .node _ => True

theorem clusterLevel_opens_iff (hc : c.Readable) {lens : Lens} (h : clusterLevel c lens = .ok g) :
    DrillableOpens c g ↔ Resolves c order (.cluster lens) := by
  cases lens with
  | namespaces =>
      simp only [clusterLevel, Fallible.bind_eq_ok] at h
      obtain ⟨pods, -, hgraph⟩ := h
      obtain ⟨namespaces, workloads, podCount, podHealth, -, hadds⟩ := adds_namespacesGraph hgraph
      refine iff_of_true ((drillableOpens_iff hc hadds).mpr ?_) trivial
      exact .of_forall (List.forall_mem_map.mpr fun _ _ _ _ => Or.inr (Or.inl rfl))
  | nodes =>
      simp only [clusterLevel, Fallible.bind_eq_ok] at h
      obtain ⟨pods, -, hgraph⟩ := h
      obtain ⟨nodes, podCount, -, hadds⟩ := adds_nodesGraph hgraph
      refine iff_of_true ((drillableOpens_iff hc hadds).mpr ?_) trivial
      exact .of_forall (List.forall_mem_map.mpr fun _ _ _ _ => Or.inl rfl)
  | storage => exact (drillableOpens_iff hc (adds_storageGraph h)).trans offers_storageNodes
  | access =>
      refine iff_of_true ((drillableOpens_iff hc (adds_accessGraph h)).mpr ?_) trivial
      exact .of_closed closed_accessNodes

theorem objectLevel_opens_iff (hc : c.Readable) {group kind name : String}
    (h : objectLevel c ns group kind name = .ok g) :
    DrillableOpens c g ↔ Resolves c order (.object ns group kind name) := by
  rw [objectLevel_eq] at h
  simp only [Resolves]
  split at h
  · rename_i hkind
    obtain ⟨pod, -, hadds⟩ := adds_addPodContainers h
    refine iff_of_true ((drillableOpens_iff hc hadds).mpr (offers_containers pod)) ?_
    simp [hkind]
  · rename_i hkind
    exact iff_of_true (offers_backends hc h) (by simp [hkind])
  · rename_i hkind
    exact iff_of_true (offers_routes hc h) (by simp [hkind])
  · rename_i hkind
    exact iff_of_true (offers_consumers hc h) (by simp [hkind])
  · rename_i hkind
    obtain ⟨t, pods, ht, hpods, hadds⟩ := adds_addOwnerTree h
    have hjobs : jobsUnder c ns group kind name = t.jobs := by rw [jobsUnder, ht]
    rw [drillableOpens_iff hc hadds, offers_treeNodes ht hpods, hjobs]
    simp only [hkind, true_imp_iff]

/-- Whatever a level offers opens exactly if what the level refers to is there. -/
theorem topology_opens_iff (c : Cluster) (order : RangeOrder) (request : Canvas) (g : Graph)
    (hc : c.Readable) (h : topology c order request = .ok g) :
    DrillableOpens c g ↔ Resolves c order request := by
  cases request with
  | cluster lens => exact clusterLevel_opens_iff hc h
  | inNamespace ns =>
      obtain ⟨owners, howners, hadds⟩ := adds_namespaceLevel h
      exact (drillableOpens_iff hc hadds).trans (offers_namespace hc howners)
  | object ns group kind name => exact objectLevel_opens_iff hc h
  | node name =>
      refine iff_of_true ((drillableOpens_iff hc (adds_nodeLevel h)).mpr ?_) trivial
      exact offers_nodeLevel name

instance (r : ObjectRef) : Decidable (Present c r) :=
  inferInstanceAs (Decidable (_ ∨ _ ∨ _))

instance (r : ObjectRef) : Decidable (Unowned c ns r) :=
  inferInstanceAs (Decidable (∀ owner ∈ ownerObjects c ns, owner.id ≠ r.id))

/-- A pod with its configuration, and the pod of a custom object that is there. -/
def tunedShop : Cluster where
  served := [⟨"", "ConfigMap", true⟩, ⟨"argoproj.io", "Rollout", true⟩]
  pods := (KeyedList.empty.add
      { name := "web", ns := "shop", uid := "p"
        spec := { volumes := [{ configMap := some "tuning" }] } }).add
    { name := "api-0", ns := "shop", uid := "q"
      ownerReferences := [⟨"argoproj.io/v1alpha1", "Rollout", "api", "r", some true⟩] }
  objects := (KeyedList.empty.add { group := "", kind := "ConfigMap", ns := "shop", name := "tuning" }).add
    { group := "argoproj.io", kind := "Rollout", ns := "shop", name := "api", uid := "r" }

theorem topology_opens_tunedShop :
    ∃ g, topology tunedShop default (.inNamespace "shop") = .ok g ∧
      DrillableOpens tunedShop g ∧ (g.nodes.items.filter (·.drillable)).map GraphNode.ref =
        [podRef "shop" "web", ⟨"argoproj.io", "Rollout", "shop", "api"⟩,
          ⟨"", "ConfigMap", "shop", "tuning"⟩] := by
  refine ⟨_, rfl, ?_, by decide⟩
  refine (topology_opens_iff tunedShop default (.inNamespace "shop") _ (fun _ => rfl) rfl).mpr ?_
  exact ⟨by decide, by decide, fun hns => absurd hns (by decide)⟩

def untunedShop : Cluster where
  served := [⟨"", "ConfigMap", true⟩]
  pods := KeyedList.empty.add
    { name := "web", ns := "shop", uid := "p"
      spec := { volumes := [{ configMap := some "tuning" }] } }

/-- The canvas offers to open the configuration that does not exist. -/
theorem untunedShop_not_opens :
    untunedShop.Readable ∧ ∃ g, topology untunedShop default (.inNamespace "shop") = .ok g ∧
      ¬DrillableOpens untunedShop g := by
  obtain ⟨g, hg, n, hn, hdrillable, hobject⟩ :
      ∃ g, topology untunedShop default (.inNamespace "shop") = .ok g ∧
        ∃ n ∈ g.nodes.items, n.drillable = true ∧ (⟨n.apiGroup, n.kind, n.ns, n.name⟩ : ObjectRef) =
          ⟨"", "ConfigMap", "shop", "tuning"⟩ := ⟨_, rfl, by decide⟩
  refine ⟨fun _ => rfl, g, hg, fun hopens => ?_⟩
  have hkind : n.kind = "ConfigMap" := congrArg ObjectRef.kind hobject
  have hfound := hopens n hn hdrillable (by rw [hkind]; decide)
  rw [opens_object_iff (fun _ => rfl) hdrillable (by rw [hkind]; decide) (by rw [hkind]; decide),
    hobject] at hfound
  exact absurd hfound (by decide)

end Wiremap.Client
