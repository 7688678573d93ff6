import Wiremap.Topology.Denial
import Wiremap.Topology.NamespaceNodes

/-! What denials hide besides the objects of their kinds: a list that is denied
ends the step that reads it, and with it the lists read later. -/
namespace Wiremap.Topology

open Wiremap.Kube Wiremap.Library

variable {D : Denial} {c : Cluster} {order : RangeOrder} {ns : String}

/-- Limits are not looked for where quotas are denied. -/
def hiddenLimits (D : Denial) (c : Cluster) (ns : String) : List LimitRange :=
  if D.denies "ResourceQuota" && !D.denies "LimitRange" then Cluster.within ns c.limitRanges else []

/-- Bindings of the whole cluster are not looked for where those of the namespace are denied. -/
def hiddenBindings (D : Denial) (c : Cluster) (ns : String) (usedBy : StringMap (List String)) :
    List AccountBinding :=
  if D.denies "RoleBinding" && !D.denies "ClusterRoleBinding" then
    c.clusterRoleBindings.items.filterMap (clusterRoleBindingFor ns usedBy)
  else []

/-- The kinds among `kinds` that are served and not denied, but come after one that is. -/
def hiddenAfter (D : Denial) (c : Cluster) (kinds : List String) : List String :=
  ((kinds.filter ((D.deny c).serves gatewayGroup)).dropWhile fun kind => !D.denies kind).filter
    fun kind => !D.denies kind

def routesOf (c : Cluster) (ns : String) (kinds : List String) : List (String × Unstructured) :=
  kinds.flatMap fun kind => (customObjects c gatewayGroup kind ns).map fun route => (kind, route)

def hiddenRoutes (D : Denial) (c : Cluster) (ns : String) : List (String × Unstructured) :=
  if (D.deny c).serves gatewayGroup "Gateway" then
    routesOf c ns (hiddenAfter D c ("Gateway" :: gatewayRouteKinds))
  else []

theorem list_kept [HasMeta α] (ns : String) {kind : String} (h : D.denies kind = false) (store : Store α) :
    (D.deny c).list kind ns store = .ok (Cluster.within ns store) ∧
      (D.remove c).list kind ns (D.kept kind store) = .ok (Cluster.within ns store) := by
  rw [kept_of_read h]
  exact ⟨answer_deny h _, rfl⟩

theorem list_denied [HasMeta α] (ns : String) {kind : String} (h : D.denies kind = true) (store : Store α) :
    (∃ err, (D.deny c).list kind ns store = .error err ∧ isOptional err = true) ∧
      (D.remove c).list kind ns (D.kept kind store) = .ok [] := by
  rw [kept_of_denied h]
  exact ⟨answer_denied _ h _, rfl⟩

theorem addQuotas_denied (h : hiddenLimits D c ns = []) :
    addQuotas (D.deny c) ns = addQuotas (D.remove c) ns := by
  have hlimits : ∀ g, optionalStep ((D.deny c).list "LimitRange" ns (D.deny c).limitRanges)
      "list limitranges" g (fun limits =>
        return limits.foldl (fun g lr => g.addNode (limitRangeNode ns lr)) g) =
      optionalStep ((D.remove c).list "LimitRange" ns (D.remove c).limitRanges)
        "list limitranges" g (fun limits =>
          return limits.foldl (fun g lr => g.addNode (limitRangeNode ns lr)) g) :=
    fun g => (deniedRead_list _ _).optionalFold_eq _ _ g
  funext g
  cases hquotas : D.denies "ResourceQuota" with
  | false =>
      obtain ⟨hdeny, hremove⟩ := list_kept (c := c) ns hquotas c.resourceQuotas
      unfold addQuotas
      rw [show (D.deny c).list "ResourceQuota" ns (D.deny c).resourceQuotas = _ from hdeny,
        show (D.remove c).list "ResourceQuota" ns (D.remove c).resourceQuotas = _ from hremove]
      exact hlimits _
  | true =>
      obtain ⟨⟨err, hdeny, hoptional⟩, hremove⟩ :=
        list_denied (c := c) ns hquotas c.resourceQuotas
      have hnone : Cluster.within ns (D.remove c).limitRanges = [] := by
        change Cluster.within ns (D.kept "LimitRange" c.limitRanges) = []
        unfold Denial.kept
        split
        · rfl
        · rename_i hread
          simpa [hiddenLimits, hquotas, hread] using h
      unfold addQuotas
      rw [show (D.deny c).list "ResourceQuota" ns (D.deny c).resourceQuotas = _ from hdeny,
        show (D.remove c).list "ResourceQuota" ns (D.remove c).resourceQuotas = _ from hremove,
        Cluster.list_readable (D.readable_remove c), hnone]
      simp only [optionalStep, hoptional, if_true]
      rfl

theorem bindingsFor_denied (ns : String) (usedBy : StringMap (List String)) :
    ∃ found, bindingsFor (D.deny c) ns usedBy = .ok found ∧
      bindingsFor (D.remove c) ns usedBy = .ok (found ++ hiddenBindings D c ns usedBy) ∧
        (D.denies "RoleBinding" = true → found = []) := by
  have hremoved : bindingsFor (D.remove c) ns usedBy =
      .ok ((Cluster.within ns (D.kept "RoleBinding" c.roleBindings)).filterMap
          (roleBindingFor ns usedBy) ++
        (D.kept "ClusterRoleBinding" c.clusterRoleBindings).items.filterMap
          (clusterRoleBindingFor ns usedBy)) := rfl
  rw [hremoved]
  cases hrole : D.denies "RoleBinding" with
  | true =>
      obtain ⟨err, herr, hoptional⟩ := answer_denied (c := c) ns hrole
        (Cluster.within ns c.roleBindings)
      refine ⟨[], ?_, ?_, fun _ => rfl⟩
      · unfold bindingsFor
        rw [show (D.deny c).list "RoleBinding" ns (D.deny c).roleBindings = _ from herr]
        simp only [hoptional, if_true]
      · rw [kept_of_denied hrole]
        cases hcluster : D.denies "ClusterRoleBinding" with
        | true => simp [hiddenBindings, hcluster, Cluster.within]
        | false => simp [hiddenBindings, hrole, hcluster, Cluster.within]
  | false =>
      have hlist : (D.deny c).list "RoleBinding" ns (D.deny c).roleBindings =
          .ok (Cluster.within ns c.roleBindings) := answer_deny hrole _
      unfold bindingsFor
      rw [hlist, kept_of_read hrole]
      cases hcluster : D.denies "ClusterRoleBinding" with
      | true =>
          obtain ⟨err, herr, hoptional⟩ := answer_denied (c := c) "" hcluster
            c.clusterRoleBindings.items
          rw [show (D.deny c).listAll "ClusterRoleBinding" (D.deny c).clusterRoleBindings = _
            from herr]
          simp only [hoptional, if_true]
          refine ⟨_, rfl, ?_, fun h => by cases h⟩
          simp [hiddenBindings, hrole, hcluster]
      | false =>
          have hclusterList : (D.deny c).listAll "ClusterRoleBinding"
              (D.deny c).clusterRoleBindings = .ok c.clusterRoleBindings.items :=
            answer_deny hcluster _
          rw [hclusterList]
          refine ⟨_, rfl, ?_, fun h => by cases h⟩
          simp [hiddenBindings, hrole, hcluster]

theorem addServiceAccounts_denied {owners : NamespaceOwners}
    (h : hiddenBindings D c ns (accountUsers owners) = []) :
    addServiceAccounts (D.deny c) order ns owners =
      addServiceAccounts (D.remove c) order ns owners := by
  obtain ⟨found, hdeny, hremove, -⟩ := bindingsFor_denied (D := D) (c := c) ns
    (accountUsers owners)
  rw [h, List.append_nil] at hremove
  funext g
  simp only [addServiceAccounts, hdeny, hremove, roleRules_denied]

/-! ### Routes -/

theorem customObjects_remove (ns kind : String) :
    customObjects (D.remove c) gatewayGroup kind ns =
      if D.denies kind then [] else customObjects c gatewayGroup kind ns := by
  unfold customObjects
  simp only [Denial.remove, KeyedList.filter, List.filter_filter]
  split
  · rename_i hdenied
    refine List.filter_eq_nil_iff.mpr fun u _ hu => ?_
    simp at hu
    grind
  · rename_i hread
    refine List.filter_congr fun u _ => ?_
    simp
    grind

theorem resourceFor_deny {kind : String} (h : (D.deny c).serves gatewayGroup kind = true) :
    ∃ mapping, (D.deny c).resourceFor gatewayGroup kind = .ok mapping := by
  unfold Cluster.serves at h
  cases hmapping : (D.deny c).resourceFor gatewayGroup kind with
  | ok mapping => exact ⟨mapping, rfl⟩
  | error err =>
      rw [hmapping] at h
      cases h

theorem listUnstructured_deny {kind : String} (hserved : (D.deny c).serves gatewayGroup kind = true)
    (hread : D.denies kind = false) :
    listUnstructured (D.deny c) kind ns = .ok (customObjects c gatewayGroup kind ns) := by
  obtain ⟨mapping, hmapping⟩ := resourceFor_deny hserved
  unfold listUnstructured
  rw [hmapping, answer_deny hread]
  rfl

theorem listUnstructured_denied (ns : String) {kind : String}
    (hserved : (D.deny c).serves gatewayGroup kind = true) (hdenied : D.denies kind = true) :
    ∃ err, listUnstructured (D.deny c) kind ns = .error (.api err) ∧ isOptional err = true := by
  obtain ⟨mapping, hmapping⟩ := resourceFor_deny hserved
  obtain ⟨err, herr, hoptional⟩ := answer_denied (c := c) ns hdenied
    (customObjects (D.deny c) gatewayGroup kind ns)
  refine ⟨err, ?_, hoptional⟩
  unfold listUnstructured
  rw [hmapping, herr]

theorem listUnstructured_remove {kind : String}
    (hserved : (D.deny c).serves gatewayGroup kind = true) :
    listUnstructured (D.remove c) kind ns = .ok (customObjects (D.remove c) gatewayGroup kind ns) := by
  obtain ⟨mapping, hmapping⟩ := resourceFor_deny hserved
  unfold listUnstructured
  rw [show (D.remove c).resourceFor gatewayGroup kind = .ok mapping from hmapping, answer_remove]

theorem drawnRoutes_remove (kinds : List String) :
    drawnRoutes (D.remove c) ns kinds =
      routesOf c ns ((kinds.filter ((D.deny c).serves gatewayGroup)).filter
        fun kind => !D.denies kind) := by
  induction kinds with
  | nil => rfl
  | cons kind rest ih =>
      unfold drawnRoutes
      cases hserved : (D.deny c).serves gatewayGroup kind with
      | false =>
          rw [show (D.remove c).serves gatewayGroup kind = false from hserved,
            List.filter_cons_of_neg (by simp [hserved])]
          exact ih
      | true =>
          rw [show (D.remove c).serves gatewayGroup kind = true from hserved,
            List.filter_cons_of_pos hserved, listUnstructured_remove hserved, customObjects_remove,
            ih]
          cases hdenied : D.denies kind with
          | true => simp [hdenied]
          | false => simp [routesOf, hdenied]

/-- The routes drawn beside denied kinds are those before the first of them. -/
theorem drawnRoutes_denied (kinds : List String) :
    drawnRoutes (D.remove c) ns kinds =
      drawnRoutes (D.deny c) ns kinds ++ routesOf c ns (hiddenAfter D c kinds) := by
  induction kinds with
  | nil => rfl
  | cons kind rest ih =>
      cases hserved : (D.deny c).serves gatewayGroup kind with
      | false =>
          unfold drawnRoutes hiddenAfter
          rw [show (D.remove c).serves gatewayGroup kind = false from hserved, hserved,
            List.filter_cons_of_neg (by simp [hserved])]
          exact ih
      | true =>
          cases hdenied : D.denies kind with
          | true =>
              obtain ⟨err, hlist, -⟩ := listUnstructured_denied ns hserved hdenied
              rw [drawnRoutes_remove]
              unfold drawnRoutes hiddenAfter
              rw [hserved, hlist, List.filter_cons_of_pos hserved]
              simp [hdenied]
          | false =>
              have hremoved := customObjects_remove (D := D) (c := c) ns kind
              rw [hdenied] at hremoved
              have hhidden : hiddenAfter D c (kind :: rest) = hiddenAfter D c rest := by
                simp [hiddenAfter, hserved, hdenied]
              rw [hhidden]
              unfold drawnRoutes
              rw [show (D.remove c).serves gatewayGroup kind = true from hserved, hserved,
                listUnstructured_remove hserved, listUnstructured_deny hserved hdenied, hremoved, ih]
              simp

theorem gatewayObjects_denied (ns : String) :
    (gatewayObjects (D.remove c) ns).1 = (gatewayObjects (D.deny c) ns).1 ∧
      (gatewayObjects (D.remove c) ns).2 =
        (gatewayObjects (D.deny c) ns).2 ++ hiddenRoutes D c ns := by
  unfold gatewayObjects hiddenRoutes
  cases hserved : (D.deny c).serves gatewayGroup "Gateway" with
  | false =>
      rw [show (D.remove c).serves gatewayGroup "Gateway" = false from hserved]
      exact ⟨rfl, rfl⟩
  | true =>
      rw [show (D.remove c).serves gatewayGroup "Gateway" = true from hserved,
        listUnstructured_remove hserved, customObjects_remove]
      cases hdenied : D.denies "Gateway" with
      | true =>
          obtain ⟨err, hlist, -⟩ := listUnstructured_denied ns hserved hdenied
          rw [hlist]
          refine ⟨rfl, ?_⟩
          rw [drawnRoutes_remove]
          simp [hiddenAfter, hserved, hdenied]
      | false =>
          rw [listUnstructured_deny hserved hdenied]
          have hhidden : hiddenAfter D c ("Gateway" :: gatewayRouteKinds) =
              hiddenAfter D c gatewayRouteKinds := by
            simp [hiddenAfter, hserved, hdenied]
          exact ⟨rfl, by simp [hhidden, drawnRoutes_denied]⟩

def RoutesOptional (c : Cluster) (ns : String) : Prop :=
  ∀ kind, c.serves gatewayGroup kind = true →
    (∃ routes, listUnstructured c kind ns = .ok routes) ∨
      ∃ err, listUnstructured c kind ns = .error (.api err) ∧ isOptional err = true

theorem routesOptional_deny : RoutesOptional (D.deny c) ns := by
  intro kind hserved
  cases hdenied : D.denies kind with
  | false => exact Or.inl ⟨_, listUnstructured_deny hserved hdenied⟩
  | true => exact Or.inr (listUnstructured_denied _ hserved hdenied)

theorem routesOptional_remove : RoutesOptional (D.remove c) ns :=
  fun _ hserved => Or.inl ⟨_, listUnstructured_remove hserved⟩

def drawRoutes (ns : String) (g : Graph) (routes : List (String × Unstructured)) : Graph :=
  routes.foldl (fun g route => addRoute route.1 ns g route.2) g

theorem addRoutes_eq (h : RoutesOptional c ns) (kinds : List String) (g : Graph) :
    addRoutes c ns g kinds = .ok (drawRoutes ns g (drawnRoutes c ns kinds)) := by
  induction kinds generalizing g with
  | nil => rfl
  | cons kind rest ih =>
      unfold addRoutes drawnRoutes
      split
      · rename_i hserved
        rcases h kind hserved with ⟨routes, hlist⟩ | ⟨err, hlist, hoptional⟩
        · simp only [optionalRead, hlist, ih, drawRoutes, List.foldl_append, List.foldl_map]
        · simp only [optionalRead, hlist, hoptional, if_true]
          rfl
      · exact ih g

theorem addGatewayRoutes_eq (h : RoutesOptional c ns) (g : Graph) :
    addGatewayRoutes c ns g =
      .ok (drawRoutes ns ((gatewayObjects c ns).1.foldl (fun g gw => g.addNode (gatewayNode ns gw)) g)
        (gatewayObjects c ns).2) := by
  unfold addGatewayRoutes gatewayObjects
  split
  · rename_i hserved
    rcases h "Gateway" hserved with ⟨gateways, hlist⟩ | ⟨err, hlist, hoptional⟩
    · simp only [optionalRead, hlist, addRoutes_eq h]
    · simp only [optionalRead, hlist, hoptional, if_true]
      rfl
  · rfl

theorem addGatewayRoutes_denied (h : hiddenRoutes D c ns = []) :
    addGatewayRoutes (D.deny c) ns = addGatewayRoutes (D.remove c) ns := by
  obtain ⟨hgateways, hroutes⟩ := gatewayObjects_denied (D := D) (c := c) ns
  rw [h, List.append_nil] at hroutes
  funext g
  rw [addGatewayRoutes_eq routesOptional_deny, addGatewayRoutes_eq routesOptional_remove, hgateways,
    hroutes]

/-! ### Node IDs -/

def hiddenIDs (D : Denial) (c : Cluster) (ns : String) : List String :=
  ((hiddenLimits D c ns).map fun lr => (limitRangeNode ns lr).id) ++
    (match listPodOwners (D.deny c) ns with
      | .ok owners => (hiddenBindings D c ns (accountUsers owners)).map fun b => (bindingNode b).id
      | .error _ => []) ++
    (hiddenRoutes D c ns).map fun route => (routeNode route.1 ns route.2).id

/-- The node IDs of what is drawn because something refers to it: the owners of
pods, and the roles bound to accounts. -/
def referredIDs (D : Denial) (c : Cluster) (ns : String) : List String :=
  match listPodOwners (D.deny c) ns with
  | .ok owners =>
      owners.owners.map (·.node.id) ++
        (answered (bindingsFor (D.deny c) ns (accountUsers owners))).map fun b =>
          (roleNode b.roleRef ns (roleRules (D.deny c) ns)).id
  | .error _ => []

theorem namespaceSteps_denied {owners : NamespaceOwners} (hlimits : hiddenLimits D c ns = [])
    (hbindings : hiddenBindings D c ns (accountUsers owners) = [])
    (hroutes : hiddenRoutes D c ns = []) :
    namespaceSteps (D.deny c) order ns owners = namespaceSteps (D.remove c) order ns owners := by
  simp only [namespaceSteps, addServices_denied, addIngresses_denied,
    addGatewayRoutes_denied hroutes, addConfigRefs_denied, addAutoscalers_denied,
    addDisruptionBudgets_denied, addNetworkPolicies_denied, addServiceAccounts_denied hbindings,
    addQuotas_denied hlimits]

end Wiremap.Topology
