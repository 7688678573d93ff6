import Wiremap.Topology.Linking
import Wiremap.Topology.NamespaceNodes

/-! The edges of Gateway routes, against what the references of a route designate: a
Gateway or a Service by its name, in a namespace of the reference's own or the route's. -/
namespace Wiremap.Topology

open Wiremap.Kube Wiremap.Library
open Wiremap.Topology.Graph (Adds Links)

variable {c : Cluster} {order : RangeOrder} {ns : String} {owners : NamespaceOwners}
variable {g g' : Graph}

/-! ### References -/

/-- The reference is of the kind, which it need not say. -/
def RefersTo (kind : String) (raw : Json) : Prop :=
  raw.object.nestedString ["kind"] = "" ∨ raw.object.nestedString ["kind"] = kind

def refName (raw : Json) : String := raw.object.nestedString ["name"]

def refNamespace (ns : String) (raw : Json) : String :=
  if raw.object.nestedString ["namespace"] = "" then ns else raw.object.nestedString ["namespace"]

def routeParents (route : Unstructured) : List Json :=
  route.object.nestedSlice ["spec", "parentRefs"]

def routeBackends (route : Unstructured) : List Json :=
  (route.object.nestedSlice ["spec", "rules"]).flatMap fun rule =>
    rule.object.nestedSlice ["backendRefs"]

def routeID (ns : String) (route : String × Unstructured) : String :=
  kubeNodeID route.1 ns route.2.name

/-- The route's edges are those its references ask for: from the Gateways they
designate, and to the Services of the level that they designate. -/
structure RouteLawful (c : Cluster) (ns : String) (g : Graph) (route : String × Unstructured) :
    Prop where
  outgoing : ∀ target, ⟨routeID ns route, target, "routes"⟩ ∈ g.edges.items ↔
    ∃ svc ∈ Cluster.within ns c.services, target = kubeNodeID "Service" svc.ns svc.name ∧
      ∃ raw ∈ routeBackends route.2, RefersTo "Service" raw ∧ refName raw = svc.name ∧
        refNamespace ns raw = svc.ns
  incoming : ∀ source, ⟨source, routeID ns route, "routes"⟩ ∈ g.edges.items ↔
    ∃ raw ∈ routeParents route.2, RefersTo "Gateway" raw ∧
      source = kubeNodeID "Gateway" (refNamespace ns raw) (refName raw)

/-- Something is drawn under the ID of a Service of this name before the routes are:
the Service, or an owner of pods. -/
def ServiceShown (c : Cluster) (ns : String) (owners : NamespaceOwners) (name : String) : Prop :=
  (∃ svc ∈ Cluster.within ns c.services, svc.name = name) ∨
    ∃ o ∈ owners.owners, o.node.id = kubeNodeID "Service" ns name

/-- Where a backend reference goes by the name of what is drawn, the route designates
the Service of that name in its own namespace. -/
def BackendsLocal (c : Cluster) (ns : String) (owners : NamespaceOwners)
    (route : String × Unstructured) : Prop :=
  ∀ raw ∈ routeBackends route.2, RefersTo "Service" raw → ServiceShown c ns owners (refName raw) →
    (∃ svc ∈ Cluster.within ns c.services, svc.name = refName raw) ∧
      ∃ raw' ∈ routeBackends route.2, RefersTo "Service" raw' ∧ refName raw' = refName raw ∧
        refNamespace ns raw' = ns

/-! ### One route -/

theorem parentGateway_iff {raw : Json} {id : String} :
    (∃ gateway, parentGateway ns raw = some gateway ∧ gateway.id = id) ↔
      RefersTo "Gateway" raw ∧ id = kubeNodeID "Gateway" (refNamespace ns raw) (refName raw) := by
  unfold parentGateway RefersTo refNamespace refName
  simp only [Bool.and_eq_true, decide_eq_true_eq]
  split
  · simp only [reduceCtorEq, false_and, exists_false, false_iff]
    tauto
  · simp only [Option.some.injEq, exists_eq_left', parentNode]
    tauto

def Shows (ns : String) (shown : String → Prop) (g : Graph) : Prop :=
  ∀ name, kubeNodeID "Service" ns name ∈ g.ids ↔ shown name

variable {shown : String → Prop}

theorem Shows.adds {nodes : List GraphNode} (h : Shows ns shown g) (hadds : Adds nodes g g')
    (hapart : ∀ n ∈ nodes, n.Apart "Service") : Shows ns shown g' := by
  intro name
  rw [hadds.mem_ids, h name]
  refine or_iff_left ?_
  rintro ⟨n, hn, hid⟩
  exact (hapart n hn).id_ne ns name hid

theorem apart_parentNode (name ns : String) : (parentNode name ns).Apart "Service" :=
  .of_id "Gateway" ns name rfl rfl (by decide)

theorem apart_routeAndParents {kind : String} (hkind : kind ∈ gatewayRouteKinds)
    (route : Unstructured) : ∀ n ∈ routeAndParents kind ns route, n.Apart "Service" := by
  have hkinds : ∀ kind ∈ gatewayRouteKinds, kind ≠ "Service" ∧ Text.Free '/' kind := by decide
  intro n hn
  rcases List.mem_cons.mp hn with rfl | hparent
  · exact .of_id kind ns route.name rfl rfl ⟨(hkinds kind hkind).1, (hkinds kind hkind).2, by decide⟩
  · obtain ⟨raw, -, hraw⟩ := List.mem_filterMap.mp hparent
    obtain ⟨name, ns', rfl⟩ := parentGateway_eq hraw
    exact apart_parentNode name ns'

/-- The edges of one route as they are drawn: the namespace of a backend is not read. -/
def RouteEdge (ns : String) (shown : String → Prop) (route : String × Unstructured)
    (e : GraphEdge) : Prop :=
  (∃ raw ∈ routeParents route.2, RefersTo "Gateway" raw ∧
    e = ⟨kubeNodeID "Gateway" (refNamespace ns raw) (refName raw), routeID ns route, "routes"⟩) ∨
  ∃ raw ∈ routeBackends route.2, RefersTo "Service" raw ∧ shown (refName raw) ∧
    e = ⟨routeID ns route, kubeNodeID "Service" ns (refName raw), "routes"⟩

theorem links_addParent (id : String) (g : Graph) (raw : Json) :
    Links (fun e => RefersTo "Gateway" raw ∧
      e = ⟨kubeNodeID "Gateway" (refNamespace ns raw) (refName raw), id, "routes"⟩) g
      (addParent id ns g raw) := by
  have hedge : ∀ e : GraphEdge, (∃ gateway, parentGateway ns raw = some gateway ∧
      e = ⟨gateway.id, id, "routes"⟩) ↔ RefersTo "Gateway" raw ∧
        e = ⟨kubeNodeID "Gateway" (refNamespace ns raw) (refName raw), id, "routes"⟩ := by
    intro e
    constructor
    · rintro ⟨gateway, hgateway, rfl⟩
      obtain ⟨hkind, hid⟩ := parentGateway_iff.mp ⟨gateway, hgateway, rfl⟩
      exact ⟨hkind, by rw [hid]⟩
    · rintro ⟨hkind, rfl⟩
      obtain ⟨gateway, hgateway, hid⟩ := parentGateway_iff.mpr ⟨hkind, rfl⟩
      exact ⟨gateway, hgateway, by rw [hid]⟩
  refine Links.congr ?_ hedge
  unfold addParent
  cases parentGateway ns raw with
  | none => exact (Links.refl g).congr (by simp)
  | some gateway =>
      refine Links.congr (E := fun e => e = ⟨gateway.id, id, "routes"⟩) ?_ (by simp)
      dsimp only
      split
      · exact .addEdge _ _ _ _
      · exact (Links.addEdge _ _ _ _).after_node

theorem links_addBackend (id : String) (h : Shows ns shown g) (raw : Json) :
    Links (fun e => RefersTo "Service" raw ∧ shown (refName raw) ∧
      e = ⟨id, kubeNodeID "Service" ns (refName raw), "routes"⟩) g (addBackend id ns g raw) := by
  unfold addBackend RefersTo
  simp only [Bool.and_eq_true, decide_eq_true_eq]
  split
  · refine (Links.refl g).congr fun e => ?_
    tauto
  · unfold routeTo
    dsimp only
    have hshown : g.hasNode (kubeNodeID "Service" ns (raw.object.nestedString ["name"])) ↔
        shown (refName raw) := (g.hasNode_iff _).trans (h _)
    split
    · refine (Links.addEdge _ _ _ _).congr fun e => ?_
      simp only [refName] at hshown ⊢
      tauto
    · refine (Links.refl g).congr fun e => ?_
      simp only [refName] at hshown ⊢
      tauto

theorem addRoute_eq (kind ns : String) (g : Graph) (route : Unstructured) :
    addRoute kind ns g route = (routeBackends route).foldl (addBackend (routeID ns (kind, route)) ns)
      ((routeParents route).foldl (addParent (routeID ns (kind, route)) ns)
        (g.addNode (routeNode kind ns route))) := by
  unfold routeBackends
  rw [List.foldl_flatMap]
  rfl

theorem links_addRoute {kind : String} (hkind : kind ∈ gatewayRouteKinds) (h : Shows ns shown g)
    (route : Unstructured) :
    Links (RouteEdge ns shown (kind, route)) g (addRoute kind ns g route) ∧
      Shows ns shown (addRoute kind ns g route) := by
  have hparents : Links _ g ((routeParents route).foldl (addParent (routeID ns (kind, route)) ns)
      (g.addNode (routeNode kind ns route))) :=
    (Links.foldl_of (links_addParent _) (routeParents route) _).after_node
  have hadds : Adds (routeAndParents kind ns route) g
      ((routeParents route).foldl (addParent (routeID ns (kind, route)) ns)
        (g.addNode (routeNode kind ns route))) := by
    refine (Adds.addNode (routeNode kind ns route)).trans ?_
    rw [List.filterMap_eq_flatMap_toList]
    exact .foldl (fun g raw _ => adds_addParent g raw) _
  have hshows := h.adds hadds (apart_routeAndParents hkind route)
  have hbackends : Links _ _ ((routeBackends route).foldl
      (addBackend (routeID ns (kind, route)) ns) _) :=
    Links.foldl (fun g raw _ hg => ⟨links_addBackend (routeID ns (kind, route)) hg raw,
      hg.adds (adds_addBackend g raw) (by simp)⟩) hshows
  refine ⟨?_, h.adds (adds_addRoute g route) (apart_routeAndParents hkind route)⟩
  rw [addRoute_eq]
  exact hparents.trans hbackends

/-! ### The level -/

theorem links_addRoutes {kinds : List String} (hkinds : ∀ kind ∈ kinds, kind ∈ gatewayRouteKinds)
    (h : Shows ns shown g) (hrun : addRoutes c ns g kinds = .ok g') :
    Links (fun e => ∃ route ∈ drawnRoutes c ns kinds, RouteEdge ns shown route e) g g' := by
  induction kinds generalizing g with
  | nil =>
      cases hrun
      exact (Links.refl _).congr (by simp [drawnRoutes])
  | cons kind rest ih =>
      have hrest : ∀ kind ∈ rest, kind ∈ gatewayRouteKinds := fun kind hkind =>
        hkinds kind (by simp [hkind])
      unfold addRoutes at hrun
      unfold drawnRoutes
      split at hrun
      · rw [if_pos ‹_›]
        rcases optionalRead_cases hrun with ⟨routes, hlist, hlater⟩ | ⟨err, hlist, rfl⟩
        · have hroute : ∀ g route, route ∈ routes → Shows ns shown g →
              Links (RouteEdge ns shown (kind, route)) g (addRoute kind ns g route) ∧
                Shows ns shown (addRoute kind ns g route) := fun g route _ hg =>
            links_addRoute (hkinds kind (by simp)) hg route
          have hshows : Shows ns shown (routes.foldl (addRoute kind ns) g) :=
            List.foldlRecOn (motive := Shows ns shown) routes _ h fun g hg route hmem =>
              (hroute g route hmem hg).2
          refine ((Links.foldl hroute h).trans (ih hrest hshows hlater)).congr fun e => ?_
          simp [hlist, or_and_right, exists_or]
        · refine (Links.refl _).congr ?_
          simp [hlist]
      · rw [if_neg ‹_›]
        exact ih hrest h hrun

theorem links_addGatewayRoutes (h : Shows ns shown g) (hrun : addGatewayRoutes c ns g = .ok g') :
    Links (fun e => ∃ route ∈ (gatewayObjects c ns).2, RouteEdge ns shown route e) g g' := by
  unfold addGatewayRoutes at hrun
  unfold gatewayObjects
  split at hrun
  · rw [if_pos ‹_›]
    rcases optionalRead_cases hrun with ⟨gateways, hlist, hroutes⟩ | ⟨err, hlist, rfl⟩
    · have hadds : Adds (gateways.map (gatewayNode ns)) g
          (gateways.foldl (fun g gw => g.addNode (gatewayNode ns gw)) g) :=
        .foldl_nodes (fun g gw => .addNode _) gateways g
      have hshows := h.adds hadds fun n hn => by
        obtain ⟨gw, -, rfl⟩ := List.mem_map.mp hn
        exact .of_id "Gateway" ns gw.name rfl rfl (by decide)
      have hdrawn := links_addRoutes (fun kind hkind => hkind) hshows hroutes
      intro e
      rw [hdrawn e, Graph.edges_foldl_addNode]
      simp only [hlist]
    · exact (Links.refl _).congr (by simp [hlist])
  · rw [if_neg ‹_›]
    cases hrun
    exact (Links.refl _).congr (by simp)

def IngressEdge (ns : String) (e : GraphEdge) : Prop :=
  ∃ name backend, e = ⟨kubeNodeID "Ingress" ns name, kubeNodeID "Service" ns backend, "routes"⟩

theorem ingressEdge_of_addIngresses (hrun : addIngresses c ns g = .ok g') {e : GraphEdge}
    (he : e ∈ g'.edges.items) : e ∈ g.edges.items ∨ IngressEdge ns e := by
  simp only [addIngresses, Fallible.bind_eq_ok, Fallible.pure_eq_ok] at hrun
  obtain ⟨ingresses, -, rfl⟩ := hrun
  revert he
  refine List.foldlRecOn (motive := fun g' : Graph => e ∈ g'.edges.items → _) ingresses _ .inl ?_
  intro g₁ hg₁ ing _ he
  unfold addIngress at he
  revert he
  refine List.foldlRecOn (motive := fun g' : Graph => e ∈ g'.edges.items → _)
    (ingressBackends ing) _ hg₁ ?_
  intro g₂ hg₂ backend _ he
  unfold routeTo at he
  dsimp only at he
  split at he
  · rcases (Graph.mem_edges_addEdge _ _ _ _ _).mp he with hold | hnew
    · exact hg₂ hold
    · exact .inr ⟨ing.name, backend, hnew⟩
  · exact hg₂ he

theorem object_of_drawnRoutes {kinds : List String} {route : String × Unstructured}
    (h : route ∈ drawnRoutes c ns kinds) : route.2 ∈ customObjects c gatewayGroup route.1 ns := by
  induction kinds with
  | nil => cases h
  | cons kind rest ih =>
      unfold drawnRoutes at h
      split at h
      · split at h
        · rename_i routes hlist
          rcases List.mem_append.mp h with hkind | hrest
          · obtain ⟨u, hu, rfl⟩ := List.mem_map.mp hkind
            unfold listUnstructured at hlist
            split at hlist
            · cases hlist
            · split at hlist
              · cases hlist
              · cases hlist
                obtain ⟨-, rfl⟩ := Cluster.answer_ok.mp ‹_›
                exact hu
          · exact ih hrest
        · cases h
      · exact ih h

theorem object_of_gatewayObjects {route : String × Unstructured}
    (h : route ∈ (gatewayObjects c ns).2) : route.2 ∈ customObjects c gatewayGroup route.1 ns := by
  unfold gatewayObjects at h
  split at h
  · split at h
    · exact object_of_drawnRoutes h
    · cases h
  · cases h

theorem free_routeKind {route : String × Unstructured} (h : route ∈ (gatewayObjects c ns).2) :
    Text.Free '/' route.1 ∧ route.1 ≠ "Gateway" ∧ route.1 ≠ "Service" ∧ route.1 ≠ "Ingress" := by
  have hkinds : ∀ kind ∈ gatewayRouteKinds,
      Text.Free '/' kind ∧ kind ≠ "Gateway" ∧ kind ≠ "Service" ∧ kind ≠ "Ingress" := by decide
  exact hkinds _ (kind_of_gatewayObjects h)

theorem eq_of_routeID (hns : ns ≠ "") {route route' : String × Unstructured}
    (h : route ∈ (gatewayObjects c ns).2) (h' : route' ∈ (gatewayObjects c ns).2)
    (hid : routeID ns route = routeID ns route') : route = route' := by
  obtain ⟨kind, u⟩ := route
  obtain ⟨kind', u'⟩ := route'
  obtain ⟨rfl, -⟩ := kubeNodeID_kind (free_routeKind h).1 (free_routeKind h').1 hid
  have hname : u.name = u'.name := kubeNodeID_inj hid
  have hobject := object_of_gatewayObjects h
  have hobject' := object_of_gatewayObjects h'
  simp only [customObjects, List.mem_filter, Bool.and_eq_true, Bool.or_eq_true,
    decide_eq_true_eq, hns, false_or] at hobject hobject'
  obtain ⟨hu, ⟨hgroup, hkind⟩, hwithin⟩ := hobject
  obtain ⟨hu', ⟨hgroup', hkind'⟩, hwithin'⟩ := hobject'
  have hsame : u = u' := by
    refine KeyedList.eq_of_key_eq hu hu' ?_
    simp only [Unstructured.fullKey, hgroup, hgroup', hkind, hkind', hwithin, hwithin', hname]
  rw [hsame]

theorem shows_services (hns : ns ≠ "")
    (hrun : ((namespaceSteps c order ns owners).take 2).foldlM (fun g step => step g)
      (owners.owners.foldl (fun g o => g.addNode o.node) (Graph.new .namespace)) = .ok g) :
    Shows ns (ServiceShown c ns owners) g := by
  simp only [namespaceSteps, List.take_succ_cons, List.take_zero, List.foldlM_cons,
    List.foldlM_nil, Fallible.bind_eq_ok, Fallible.pure_eq_ok] at hrun
  obtain ⟨g₁, hservices, _, hingresses, rfl⟩ := hrun
  refine Shows.adds (fun name => ?_) (adds_addIngresses hingresses) fun n hn => ?_
  · have hlist : answered (c.list "Service" ns c.services) = Cluster.within ns c.services := by
      simp only [addServices, Fallible.bind_eq_ok, orWrap_ok] at hservices
      obtain ⟨services, hlist, -⟩ := hservices
      rw [hlist, answered_ok, (Cluster.list_ok.mp hlist).2]
    have hservice : (∃ n ∈ serviceNodes c ns, n.id = kubeNodeID "Service" ns name) ↔
        ∃ svc ∈ Cluster.within ns c.services, svc.name = name := by
      simp only [serviceNodes, hlist, List.mem_map, exists_exists_and_eq_and]
      refine exists_congr fun svc => and_congr_right fun hsvc => ?_
      have hwithin : svc.ns = ns := ((Cluster.mem_within hns).mp hsvc).2
      rw [serviceNode, hwithin]
      exact ⟨kubeNodeID_inj, fun heq => by rw [heq]⟩
    have howner : (∃ o ∈ owners.owners, o.node.id = kubeNodeID "Service" ns name) ∨
        (∃ n ∈ serviceNodes c ns, n.id = kubeNodeID "Service" ns name) ↔
          ServiceShown c ns owners name := by
      rw [hservice, ServiceShown, or_comm]
    rw [(adds_addServices hservices).mem_ids, Graph.mem_ids_foldl_addNode, ← howner]
    exact or_congr_left (or_iff_right List.not_mem_nil)
  · obtain ⟨ing, -, rfl⟩ := List.mem_map.mp hn
    exact .of_id "Ingress" ns ing.name rfl rfl (by decide)

/-- The "routes" edges of a namespace that no Ingress has. -/
theorem routes_of_level (hns : ns ≠ "") (howners : listPodOwners c ns = .ok owners)
    (h : namespaceLevel c order ns = .ok g) {e : GraphEdge} (hkind : e.kind = "routes")
    (hingress : ¬IngressEdge ns e) :
    e ∈ g.edges.items ↔
      ∃ route ∈ (gatewayObjects c ns).2, RouteEdge ns (ServiceShown c ns owners) route e := by
  obtain ⟨g₁, g₂, hbefore, -, -, hgateways, hafter⟩ := level_at_step 2 rfl howners h
  have hshows := shows_services hns hbefore
  have hfresh : e ∉ g₁.edges.items := by
    simp only [namespaceSteps, List.take_succ_cons, List.take_zero, List.foldlM_cons,
      List.foldlM_nil, Fallible.bind_eq_ok, Fallible.pure_eq_ok] at hbefore
    obtain ⟨g₀, hservices, _, hingresses, rfl⟩ := hbefore
    intro he
    rcases ingressEdge_of_addIngresses hingresses he with hold | hedge
    · rcases (grows_addServices (drawn_owners .namespace (listed_listPodOwners howners))
        hservices).newEdge e hold with hnone | hselects
      · rw [Graph.edges_foldl_addNode] at hnone
        cases hnone
      · rw [hkind] at hselects
        exact absurd hselects (by decide)
    · exact hingress hedge
  have hlater : e ∈ g.edges.items ↔ e ∈ g₂.edges.items :=
    ⟨fun he => (hafter.newEdge e he).resolve_right (by rw [hkind]; decide), fun he => hafter.edges he⟩
  rw [hlater, links_addGatewayRoutes hshows hgateways e]
  exact or_iff_right hfresh

theorem outgoing_iff (hns : ns ≠ "") (howners : listPodOwners c ns = .ok owners)
    (h : namespaceLevel c order ns = .ok g) {route : String × Unstructured}
    (hroute : route ∈ (gatewayObjects c ns).2) (target : String) :
    ⟨routeID ns route, target, "routes"⟩ ∈ g.edges.items ↔
      ∃ raw ∈ routeBackends route.2, RefersTo "Service" raw ∧
        ServiceShown c ns owners (refName raw) ∧ target = kubeNodeID "Service" ns (refName raw) := by
  obtain ⟨hfree, hgateway, -, hkind⟩ := free_routeKind hroute
  rw [routes_of_level hns howners h rfl]
  · constructor
    · rintro ⟨route', hroute', ⟨raw, -, -, heq⟩ | ⟨raw, hraw, href, hshown, heq⟩⟩
      · have hid := (GraphEdge.mk.inj heq).1
        exact absurd (kubeNodeID_kind hfree (by decide) hid).1 hgateway
      · obtain ⟨hid, htarget, -⟩ := GraphEdge.mk.inj heq
        rw [eq_of_routeID hns hroute hroute' hid]
        exact ⟨raw, hraw, href, hshown, htarget⟩
    · rintro ⟨raw, hraw, href, hshown, rfl⟩
      exact ⟨route, hroute, .inr ⟨raw, hraw, href, hshown, rfl⟩⟩
  · rintro ⟨name, backend, heq⟩
    exact hkind (kubeNodeID_kind hfree (by decide) (GraphEdge.mk.inj heq).1).1

theorem incoming_iff (hns : ns ≠ "") (howners : listPodOwners c ns = .ok owners)
    (h : namespaceLevel c order ns = .ok g) {route : String × Unstructured}
    (hroute : route ∈ (gatewayObjects c ns).2) (source : String) :
    ⟨source, routeID ns route, "routes"⟩ ∈ g.edges.items ↔
      ∃ raw ∈ routeParents route.2, RefersTo "Gateway" raw ∧
        source = kubeNodeID "Gateway" (refNamespace ns raw) (refName raw) := by
  obtain ⟨hfree, -, hservice, -⟩ := free_routeKind hroute
  rw [routes_of_level hns howners h rfl]
  · constructor
    · rintro ⟨route', hroute', ⟨raw, hraw, href, heq⟩ | ⟨raw, -, -, -, heq⟩⟩
      · obtain ⟨hsource, hid, -⟩ := GraphEdge.mk.inj heq
        rw [eq_of_routeID hns hroute hroute' hid]
        exact ⟨raw, hraw, href, hsource⟩
      · have hid := (GraphEdge.mk.inj heq).2.1
        exact absurd (kubeNodeID_kind hfree (by decide) hid).1 hservice
    · rintro ⟨raw, hraw, href, rfl⟩
      exact ⟨route, hroute, .inl ⟨raw, hraw, href, rfl⟩⟩
  · rintro ⟨name, backend, heq⟩
    exact hservice (kubeNodeID_kind hfree (by decide) (GraphEdge.mk.inj heq).2.1).1

/-- The routes' edges are those their references ask for exactly where no backend reference
goes by the name of something drawn that the route does not designate. -/
theorem routes_lawful_iff (hns : ns ≠ "") (howners : listPodOwners c ns = .ok owners)
    (h : namespaceLevel c order ns = .ok g) :
    (∀ route ∈ (gatewayObjects c ns).2, RouteLawful c ns g route) ↔
      ∀ route ∈ (gatewayObjects c ns).2, BackendsLocal c ns owners route := by
  refine forall_congr' fun route => forall_congr' fun hroute => ?_
  have hwithin : ∀ svc ∈ Cluster.within ns c.services, svc.ns = ns := fun svc hsvc =>
    ((Cluster.mem_within hns).mp hsvc).2
  constructor
  · intro hlawful raw hraw href hshown
    have hedge := (outgoing_iff hns howners h hroute _).mpr ⟨raw, hraw, href, hshown, rfl⟩
    obtain ⟨svc, hsvc, hid, raw', hraw', href', hname, hresolved⟩ := (hlawful.outgoing _).mp hedge
    rw [hwithin svc hsvc] at hid hresolved
    have hsame : svc.name = refName raw := (kubeNodeID_inj hid).symm
    exact ⟨⟨svc, hsvc, hsame⟩, raw', hraw', href', hname.trans hsame, hresolved⟩
  · refine fun hlocal => ⟨fun target => ?_, fun source => incoming_iff hns howners h hroute source⟩
    rw [outgoing_iff hns howners h hroute]
    constructor
    · rintro ⟨raw, hraw, href, hshown, rfl⟩
      obtain ⟨⟨svc, hsvc, hname⟩, raw', hraw', href', hname', hresolved⟩ :=
        hlocal raw hraw href hshown
      refine ⟨svc, hsvc, by rw [hwithin svc hsvc, hname], raw', hraw', href',
        hname'.trans hname.symm, hresolved.trans (hwithin svc hsvc).symm⟩
    · rintro ⟨svc, hsvc, rfl, raw, hraw, href, hname, hresolved⟩
      refine ⟨raw, hraw, href, .inl ⟨svc, hsvc, hname.symm⟩, ?_⟩
      rw [hwithin svc hsvc, hname]

def webRoute (backends : List Json) : Cluster where
  services := KeyedList.empty.add { name := "web", ns := "shop" }
  objects := KeyedList.empty.add
    { group := gatewayGroup, kind := "HTTPRoute", ns := "shop", name := "front",
      object := [⟨"spec", .obj [
        ("parentRefs", .arr [.obj [("name", .str "shared"), ("namespace", .str "infra")]]),
        ("rules", .arr [.obj [("backendRefs", .arr backends)]])]⟩].toAList }
  served := [⟨gatewayGroup, "Gateway", true⟩, ⟨gatewayGroup, "HTTPRoute", true⟩]

def localBackend : Cluster := webRoute [.obj [("name", .str "web")]]

/-- The Service meant is another namespace's, of the same name. -/
def foreignBackend : Cluster :=
  webRoute [.obj [("name", .str "web"), ("namespace", .str "infra")]]

theorem routes_lawful_localBackend :
    ∃ owners g, listPodOwners localBackend "shop" = .ok owners ∧
      namespaceLevel localBackend default "shop" = .ok g ∧
      (gatewayObjects localBackend "shop").2.length = 1 ∧
      ∀ route ∈ (gatewayObjects localBackend "shop").2, RouteLawful localBackend "shop" g route := by
  refine ⟨_, _, rfl, rfl, rfl, (routes_lawful_iff (by decide) rfl rfl).mpr fun route hroute => ?_⟩
  rw [List.mem_singleton.mp hroute]
  intro raw hraw href hshown
  rw [List.mem_singleton.mp hraw]
  exact ⟨⟨_, List.mem_singleton_self _, rfl⟩, _, List.mem_singleton_self _, .inl rfl, rfl, rfl⟩

theorem foreignBackend_not_lawful :
    ∃ g, namespaceLevel foreignBackend default "shop" = .ok g ∧
      ∃ route ∈ (gatewayObjects foreignBackend "shop").2,
        ¬RouteLawful foreignBackend "shop" g route := by
  refine ⟨_, rfl, _, List.mem_singleton_self _, fun hlawful => ?_⟩
  obtain ⟨svc, hsvc, -, raw, hraw, -, -, hresolved⟩ :=
    (hlawful.outgoing "Service/shop/web").mp (by decide)
  rw [List.mem_singleton.mp hsvc, List.mem_singleton.mp hraw] at hresolved
  exact absurd hresolved (by decide)

end Wiremap.Topology
