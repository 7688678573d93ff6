import Wiremap.Topology.Ownership
import Wiremap.Topology.WellFormed

/-! A Service at two levels: the owners it is linked to in its namespace, and the
pods drawn behind it when it is opened. -/
namespace Wiremap.Topology

open Wiremap.Kube Wiremap.Library

variable {c : Cluster} {order : RangeOrder} {ns : String} {owners : NamespaceOwners}

def LinksTo (c : Cluster) (ns : String) (owners : NamespaceOwners) (svc : Service) (id : String) :
    Prop :=
  if svc.selector.entries.length > 0 then
    ∃ o ∈ owners.owners, o.node.id = id ∧ (selectorFromSet svc.selector).matches o.labels
  else
    ∃ pod ∈ ((endpointPods c ns).lookup svc.name).getD [], owners.podOwner.lookup pod = some id

theorem mem_edges_linkSelected {id : String} {selector : Selector} (g : Graph)
    (o : PodTemplateOwner) (e : GraphEdge) :
    e ∈ (linkSelected id selector g o).edges.items ↔
      e ∈ g.edges.items ∨ e = ⟨id, o.node.id, "selects"⟩ ∧ selector.matches o.labels := by
  unfold linkSelected
  split <;> simp [*]

theorem mem_edges_linkEndpoint {id : String} (g : Graph) (pod : String) (e : GraphEdge) :
    e ∈ (linkEndpoint id owners g pod).edges.items ↔
      e ∈ g.edges.items ∨ ∃ ownerID, e = ⟨id, ownerID, "selects"⟩ ∧
        owners.podOwner.lookup pod = some ownerID := by
  unfold linkEndpoint
  split <;> simp [*]

theorem mem_edges_addService (g : Graph) (svc : Service) (e : GraphEdge) :
    e ∈ (addService c ns owners g svc).edges.items ↔
      e ∈ g.edges.items ∨ ∃ id, e = ⟨(serviceNode svc).id, id, "selects"⟩ ∧
        LinksTo c ns owners svc id := by
  unfold addService LinksTo
  simp only
  split
  · rw [Graph.mem_edges_foldl mem_edges_linkSelected, Graph.edges_addNode]
    refine or_congr_right ?_
    constructor
    · rintro ⟨o, ho, rfl, hmatch⟩
      exact ⟨_, rfl, o, ho, rfl, hmatch⟩
    · rintro ⟨_, rfl, o, ho, rfl, hmatch⟩
      exact ⟨o, ho, rfl, hmatch⟩
  · rw [Graph.mem_edges_foldl mem_edges_linkEndpoint, Graph.edges_addNode]
    refine or_congr_right ?_
    constructor
    · rintro ⟨pod, hpod, id, rfl, hlookup⟩
      exact ⟨id, rfl, pod, hpod, hlookup⟩
    · rintro ⟨id, rfl, pod, hpod, hlookup⟩
      exact ⟨pod, hpod, id, rfl, hlookup⟩

/-- The whole level links a Service as its own step does: later steps draw edges
of other kinds. -/
theorem service_links {svc : Service} {g : Graph} {id : String} (hns : ns ≠ "")
    (hsvc : c.services.find (ns, svc.name) = some svc) (howners : listPodOwners c ns = .ok owners)
    (h : namespaceLevel c order ns = .ok g) :
    ⟨(serviceNode svc).id, id, "selects"⟩ ∈ g.edges.items ↔ LinksTo c ns owners svc id := by
  obtain ⟨owners', g₁, howners', hservices, -, hrest⟩ := namespaceLevel_ok h
  obtain rfl := Except.ok.inj (howners.symm.trans howners')
  have hlater : ∀ id', (⟨(serviceNode svc).id, id', "selects"⟩ : GraphEdge) ∈ g.edges.items ↔
      ⟨(serviceNode svc).id, id', "selects"⟩ ∈ g₁.edges.items := by
    intro id'
    refine ⟨fun he => ?_, fun he => hrest.edges he⟩
    exact (hrest.newEdge _ he).resolve_right (by simp [otherKinds])
  simp only [addServices, Fallible.bind_eq_ok, Fallible.pure_eq_ok, orWrap_ok] at hservices
  obtain ⟨services, hlist, rfl⟩ := hservices
  rw [hlater, Graph.mem_edges_foldl mem_edges_addService, Graph.edges_foldl_addNode]
  obtain ⟨hstored, hkey⟩ := KeyedList.mem_of_find hsvc
  have hsvcns : svc.ns = ns := congrArg Prod.fst hkey
  constructor
  · rintro (hnone | ⟨svc', hsvc', id', heq, hlinks⟩)
    · cases hnone
    · obtain ⟨hstored', hns'⟩ := (Cluster.mem_of_list hlist hns).mp hsvc'
      obtain ⟨hid, rfl, -⟩ := GraphEdge.mk.inj heq
      have hname : svc.name = svc'.name := by
        simp only [serviceNode, hsvcns, show svc'.ns = ns from hns'] at hid
        exact kubeNodeID_inj hid
      have hsame : svc' = svc := KeyedList.eq_of_key_eq hstored' hstored
        (Prod.ext (hns'.trans hsvcns.symm) hname.symm)
      rwa [hsame] at hlinks
  · intro hlinks
    refine Or.inr ⟨svc, (Cluster.mem_of_list hlist hns).mpr ⟨hstored, hsvcns⟩, id, rfl, hlinks⟩

/-! ### The Service opened -/

theorem mem_edges_addServiceBackend {rootID : String} (g : Graph) (pod : Pod) (e : GraphEdge) :
    e ∈ (addServiceBackend rootID g pod).edges.items ↔
      e ∈ g.edges.items ∨ e = ⟨rootID, (podNode pod "").id, "selects"⟩ := by
  simp [addServiceBackend, addScheduledPod]

theorem backend_iff {svc : Service} {g : Graph} {name : String} (hns : ns ≠ "")
    (hsvc : c.services.find (ns, svc.name) = some svc)
    (h : objectLevel c ns "" "Service" svc.name = .ok g) :
    ⟨(serviceNode svc).id, kubeNodeID "Pod" ns name, "selects"⟩ ∈ g.edges.items ↔
      ∃ pods, c.list "Pod" ns c.pods = .ok pods ∧
        ∃ pod ∈ pods, pod.name = name ∧ serviceSelects c ns svc pod := by
  simp only [objectLevel, addServiceBackends, Fallible.bind_eq_ok, Fallible.pure_eq_ok,
    orWrap_ok] at h
  obtain ⟨svc', hget, pods, hpods, rfl⟩ := h
  obtain rfl := Option.some.inj ((Cluster.get_ok hget).symm.trans hsvc)
  rw [Graph.mem_edges_foldl mem_edges_addServiceBackend, Graph.edges_addNode]
  have hpodns : ∀ pod ∈ pods, pod.ns = ns := fun pod hpod =>
    ((Cluster.mem_of_list hpods hns).mp hpod).2
  constructor
  · rintro (hnone | ⟨pod, hpod, heq⟩)
    · cases hnone
    · obtain ⟨hmem, hselects⟩ := List.mem_filter.mp hpod
      obtain ⟨-, hid, -⟩ := GraphEdge.mk.inj heq
      refine ⟨pods, hpods, pod, hmem, ?_, hselects⟩
      simp only [podNode, hpodns pod hmem] at hid
      exact (kubeNodeID_inj hid).symm
  · rintro ⟨pods', hpods', pod, hpod, rfl, hselects⟩
    obtain rfl := Except.ok.inj (hpods.symm.trans hpods')
    refine Or.inr ⟨pod, List.mem_filter.mpr ⟨hpod, hselects⟩, ?_⟩
    simp [podNode, hpodns pod hpod, serviceNode, serviceRoot]

/-! ### Where the two views agree -/

/-- Whatever pod the selector matches, it matches labels held for the object that
controls the pod. -/
def SelectorCovers (c : Cluster) (ns : String) (selector : StringMap String) : Prop :=
  ∀ pods, c.list "Pod" ns c.pods = .ok pods →
    ∀ pod ∈ pods, (selectorFromSet selector).matches pod.labels →
      ∀ id, Controlled c ns pod id →
        ∃ labels ∈ heldLabels c ns id, (selectorFromSet selector).matches labels

/-- Opening a Service shows the pods of exactly the owners it is linked to. -/
theorem serviceViews_agree_iff (c : Cluster) (order : RangeOrder) (ns : String)
    (owners : NamespaceOwners) (svc : Service) (g opened : Graph) (hns : ns ≠ "")
    (hsvc : c.services.find (ns, svc.name) = some svc)
    (howners : listPodOwners c ns = .ok owners)
    (hg : namespaceLevel c order ns = .ok g)
    (hopened : objectLevel c ns "" "Service" svc.name = .ok opened) :
    (∀ pod id,
        ⟨kubeNodeID "Service" ns svc.name, kubeNodeID "Pod" ns pod, "selects"⟩ ∈
          opened.edges.items →
        owners.podOwner.lookup pod = some id →
        ⟨kubeNodeID "Service" ns svc.name, id, "selects"⟩ ∈ g.edges.items) ↔
      svc.selector.entries.length = 0 ∨ SelectorCovers c ns svc.selector := by
  have hid : kubeNodeID "Service" ns svc.name = (serviceNode svc).id := by
    have hkey := (KeyedList.mem_of_find hsvc).2
    simp only [serviceNode, show svc.ns = ns from congrArg Prod.fst hkey]
  rw [hid]
  simp only [service_links hns hsvc howners hg, backend_iff hns hsvc hopened]
  obtain ⟨w, pods, hw, hpods, rfl⟩ := listPodOwners_ok howners
  have hnames := Cluster.list_names_nodup hpods hns
  by_cases hselector : svc.selector.entries.length = 0
  · refine ⟨fun _ => Or.inl hselector, fun _ pod id hbackend hlookup => ?_⟩
    obtain ⟨pods', -, pod, -, rfl, hselects⟩ := hbackend
    rw [serviceSelects, if_pos hselector, List.contains_iff_mem] at hselects
    rw [LinksTo, if_neg (by omega)]
    exact ⟨pod.name, hselects, hlookup⟩
  · have hlinks : ∀ id, LinksTo c ns
        ⟨(Attribution.after ns w pods).owners, (Attribution.after ns w pods).podOwner⟩ svc id ↔
          ∃ labels ∈ canvasLabels ns w pods id, (selectorFromSet svc.selector).matches labels := by
      intro id
      rw [LinksTo, if_pos (Nat.pos_of_ne_zero hselector)]
      exact Attribution.exists_owner_iff
        (M := fun labels => (selectorFromSet svc.selector).matches labels) id
    simp only [hlinks, hselector, false_or, serviceSelects, if_false,
      Attribution.podOwner_after hnames, podOwnerID_eq_iff hw, ← heldLabels_eq hw hpods]
    constructor
    · intro h pods' hpods' pod hpod hmatch id hcontrolled
      obtain rfl := Except.ok.inj (hpods.symm.trans hpods')
      exact h pod.name id ⟨pods, hpods, pod, hpod, rfl, hmatch⟩ ⟨pod, hpod, rfl, hcontrolled⟩
    · rintro h name id ⟨pods', hpods', pod, hpod, rfl, hmatch⟩ ⟨pod', hpod', hname, hcontrolled⟩
      obtain rfl := Except.ok.inj (hpods.symm.trans hpods')
      obtain rfl := List.inj_on_of_nodup_map hnames hpod' hpod hname
      exact h pods hpods pod' hpod hmatch id hcontrolled

theorem serviceViews_agree_oneBackend :
    ∃ owners g opened, listPodOwners oneBackend "shop" = .ok owners ∧
      namespaceLevel oneBackend default "shop" = .ok g ∧
      objectLevel oneBackend "shop" "" "Service" "web" = .ok opened ∧
      ∀ pod id, ⟨"Service/shop/web", kubeNodeID "Pod" "shop" pod, "selects"⟩ ∈
          opened.edges.items →
        owners.podOwner.lookup pod = some id →
        ⟨"Service/shop/web", id, "selects"⟩ ∈ g.edges.items := by
  refine ⟨_, _, _, rfl, rfl, rfl, ?_⟩
  refine (serviceViews_agree_iff oneBackend default "shop" _
    { name := "web", ns := "shop", selector := [⟨"app", "web"⟩].toAList } _ _
    (by decide) rfl rfl rfl rfl).mpr (Or.inr ?_)
  intro pods hpods
  cases hpods
  intro pod hpod hmatch id hcontrolled
  obtain rfl := List.mem_singleton.mp hpod
  obtain rfl : "Pod/shop/web-0" = id := hcontrolled
  decide

/-- Two pods of a custom object, only the second of which a Service selects. -/
def mixedPods : Cluster where
  pods := (KeyedList.empty.add
    { name := "train-0", ns := "shop", uid := "p0", labels := [⟨"role", "leader"⟩].toAList
      ownerReferences := [⟨"ml.example/v1", "Train", "train", "t", some true⟩] }).add
    { name := "train-1", ns := "shop", uid := "p1", labels := [⟨"role", "worker"⟩].toAList
      ownerReferences := [⟨"ml.example/v1", "Train", "train", "t", some true⟩] }
  services := KeyedList.empty.add
    { name := "workers", ns := "shop", selector := [⟨"role", "worker"⟩].toAList }

theorem mixedPods_views_differ :
    ∃ owners g opened, listPodOwners mixedPods "shop" = .ok owners ∧
      namespaceLevel mixedPods default "shop" = .ok g ∧
      objectLevel mixedPods "shop" "" "Service" "workers" = .ok opened ∧
      ⟨"Service/shop/workers", "Pod/shop/train-1", "selects"⟩ ∈ opened.edges.items ∧
      owners.podOwner.lookup "train-1" = some "Train/shop/train" ∧
      ⟨"Service/shop/workers", "Train/shop/train", "selects"⟩ ∉ g.edges.items :=
  ⟨_, _, _, rfl, rfl, rfl, by decide, by decide, by decide⟩

end Wiremap.Topology
