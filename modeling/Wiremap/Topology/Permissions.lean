import Wiremap.Topology.HiddenObjects
import Wiremap.Topology.NodeIdentity

/-! The namespace level of a user who may not read all of its optional lists: when
it is the level of the cluster without the denied kinds. -/
namespace Wiremap.Topology

open Wiremap.Kube Wiremap.Library

variable {D : Denial} {c : Cluster} {order : RangeOrder} {ns : String}

/-! ### What is drawn of the kinds that may be hidden -/

def hideableKinds : List String := "LimitRange" :: "ClusterRoleBinding" :: gatewayRouteKinds

theorem apart_of_kind {node : GraphNode} {kind : String} (hkind : kind ∈ hideableKinds)
    (hown : node.kind ∉ hideableKinds) (hfree : Text.Free '/' node.kind)
    (hid : node.id = kubeNodeID node.kind node.ns node.name) : node.Apart kind := by
  have hslash : ∀ kind ∈ hideableKinds, Text.Free '/' kind := by decide
  refine .of_id node.kind node.ns node.name rfl hid ⟨?_, hfree, hslash kind hkind⟩
  rintro rfl
  exact hown hkind

theorem apart_configNodes {owners : NamespaceOwners} {kind : String} (hkind : kind ∈ hideableKinds) :
    ∀ n ∈ configNodes c order ns owners, n.Apart kind := by
  have hspec : ∀ own ∈ specRefKinds, own ∉ hideableKinds ∧ Text.Free '/' own := by decide
  intro n hn
  rcases List.mem_append.mp hn with href | hvolume
  · obtain ⟨ref, hrefs, rfl⟩ := List.mem_map.mp href
    obtain ⟨o, -, ho⟩ := List.mem_flatMap.mp hrefs
    obtain ⟨hown, hfree⟩ := hspec ref.kind (ofSpecKinds_ownerRefs _ o ref ho)
    exact apart_of_kind hkind hown hfree rfl
  · obtain ⟨name, -, hname⟩ := List.mem_flatMap.mp hvolume
    cases storageNode_volumeNodes hname with
    | volume pv =>
        exact apart_of_kind hkind (by decide : "PersistentVolume" ∉ hideableKinds)
          (by decide : Text.Free '/' "PersistentVolume") rfl
    | storageClass name =>
        exact apart_of_kind hkind (by decide : "StorageClass" ∉ hideableKinds)
          (by decide : Text.Free '/' "StorageClass") rfl

theorem mem_hiddenAfter {kind : String} {kinds : List String} (h : kind ∈ hiddenAfter D c kinds) :
    kind ∈ kinds :=
  List.mem_of_mem_filter (List.dropWhile_subset _ (List.mem_of_mem_filter h))

theorem drawnRoutes_shown {kinds : List String} (hnodup : kinds.Nodup)
    {route : String × Unstructured} (hroute : route ∈ drawnRoutes (D.deny c) ns kinds) :
    route.1 ∉ hiddenAfter D c kinds := by
  induction kinds with
  | nil => cases hroute
  | cons kind rest ih =>
      obtain ⟨hfresh, hrest⟩ := List.nodup_cons.mp hnodup
      unfold drawnRoutes at hroute
      cases hserved : (D.deny c).serves gatewayGroup kind with
      | false =>
          have hhidden : hiddenAfter D c (kind :: rest) = hiddenAfter D c rest := by
            simp [hiddenAfter, hserved]
          rw [hserved] at hroute
          rw [hhidden]
          exact ih hrest hroute
      | true =>
          rw [hserved] at hroute
          cases hdenied : D.denies kind with
          | true =>
              obtain ⟨err, hlist, -⟩ := listUnstructured_denied ns hserved hdenied
              rw [hlist] at hroute
              cases hroute
          | false =>
              have hhidden : hiddenAfter D c (kind :: rest) = hiddenAfter D c rest := by
                simp [hiddenAfter, hserved, hdenied]
              rw [listUnstructured_deny hserved hdenied] at hroute
              rw [hhidden]
              rcases List.mem_append.mp hroute with hown | hlater
              · obtain ⟨u, -, rfl⟩ := List.mem_map.mp hown
                exact fun h => hfresh (mem_hiddenAfter h)
              · exact ih hrest hlater

/-- Gateways come first, so no denial hides them but their own. -/
theorem hiddenAfter_gateway {kind : String}
    (h : kind ∈ hiddenAfter D c ("Gateway" :: gatewayRouteKinds)) :
    kind ∈ gatewayRouteKinds := by
  rcases List.mem_cons.mp (mem_hiddenAfter h) with rfl | hmem
  · exfalso
    unfold hiddenAfter at h
    rw [List.filter_cons] at h
    split at h
    · cases hdenied : D.denies "Gateway" with
      | true => simp [hdenied] at h
      | false =>
          rw [List.dropWhile_cons_of_pos (by simp [hdenied])] at h
          have hmem : "Gateway" ∈ gatewayRouteKinds := mem_hiddenAfter (D := D) (c := c) h
          revert hmem
          decide
    · have hmem : "Gateway" ∈ gatewayRouteKinds := mem_hiddenAfter (D := D) (c := c) h
      revert hmem
      decide
  · exact hmem

theorem gatewayObjects_shown {route : String × Unstructured}
    (hroute : route ∈ (gatewayObjects (D.deny c) ns).2) :
    route.1 ∉ hiddenAfter D c ("Gateway" :: gatewayRouteKinds) := by
  unfold gatewayObjects at hroute
  split at hroute
  · rename_i hserved
    cases hdenied : D.denies "Gateway" with
    | true =>
        obtain ⟨err, hlist, -⟩ := listUnstructured_denied ns hserved hdenied
        rw [hlist] at hroute
        cases hroute
    | false =>
        have hhidden : hiddenAfter D c ("Gateway" :: gatewayRouteKinds) =
            hiddenAfter D c gatewayRouteKinds := by
          simp [hiddenAfter, hserved, hdenied]
        rw [listUnstructured_deny hserved hdenied] at hroute
        rw [hhidden]
        exact drawnRoutes_shown (by decide) hroute
  · cases hroute

def Hides (D : Denial) (c : Cluster) (kind : String) : Prop :=
  (kind = "LimitRange" ∧ D.denies "ResourceQuota" = true) ∨
    (kind = "ClusterRoleBinding" ∧ D.denies "RoleBinding" = true) ∨
    kind ∈ hiddenAfter D c ("Gateway" :: gatewayRouteKinds)

theorem Hides.hideable {kind : String} (h : Hides D c kind) : kind ∈ hideableKinds := by
  rcases h with ⟨rfl, -⟩ | ⟨rfl, -⟩ | hroutes
  · decide
  · decide
  · exact List.mem_cons_of_mem _ (List.mem_cons_of_mem _ (hiddenAfter_gateway hroutes))

theorem apart_of_shown {node : GraphNode} {kind : String} (hkind : Hides D c kind)
    (hown : node.kind ∈ hideableKinds) (hshown : ¬Hides D c node.kind)
    (hid : node.id = kubeNodeID node.kind node.ns node.name) : node.Apart kind := by
  have hslash : ∀ kind ∈ hideableKinds, Text.Free '/' kind := by decide
  refine .of_id node.kind node.ns node.name rfl hid
    ⟨?_, hslash _ hown, hslash _ hkind.hideable⟩
  intro heq
  exact hshown (heq ▸ hkind)

theorem apart_gatewayNodes {kind : String} (hkind : Hides D c kind) :
    ∀ n ∈ gatewayNodes (D.deny c) ns, n.Apart kind := by
  intro n hn
  rcases gatewayNodes_cases hn with ⟨gw, rfl⟩ | ⟨route, hmem, rfl⟩ | ⟨name, ns', rfl⟩
  · exact apart_of_kind hkind.hideable (by decide : "Gateway" ∉ hideableKinds)
      (by decide : Text.Free '/' "Gateway") rfl
  · have hroutes := kind_of_gatewayObjects hmem
    refine apart_of_shown hkind
      (List.mem_cons_of_mem _ (List.mem_cons_of_mem _ hroutes)) ?_ rfl
    change ¬Hides D c route.1
    rintro (⟨hlimit, -⟩ | ⟨hbinding, -⟩ | hhidden)
    · rw [hlimit] at hroutes
      revert hroutes
      decide
    · rw [hbinding] at hroutes
      revert hroutes
      decide
    · exact gatewayObjects_shown hmem hhidden
  · exact apart_of_kind hkind.hideable (by decide : "Gateway" ∉ hideableKinds)
      (by decide : Text.Free '/' "Gateway") rfl

theorem bindingsFor_kind {usedBy : StringMap (List String)} {b : AccountBinding}
    (hb : b ∈ answered (bindingsFor c ns usedBy)) :
    b.kind = "RoleBinding" ∨ b.kind = "ClusterRoleBinding" := by
  have hrole : ∀ {rbs : List RoleBinding}, b ∈ rbs.filterMap (roleBindingFor ns usedBy) →
      b.kind = "RoleBinding" := by
    intro rbs hmem
    obtain ⟨rb, -, hrb⟩ := List.mem_filterMap.mp hmem
    unfold roleBindingFor at hrb
    simp only at hrb
    split at hrb
    · cases hrb
      rfl
    · cases hrb
  unfold bindingsFor at hb
  split at hb
  · split at hb
    · cases hb
    · cases hb
  · simp only at hb
    split at hb
    · split at hb
      · exact Or.inl (hrole hb)
      · cases hb
    · rcases List.mem_append.mp hb with hrb | hcluster
      · exact Or.inl (hrole hrb)
      · obtain ⟨crb, -, hcrb⟩ := List.mem_filterMap.mp hcluster
        unfold clusterRoleBindingFor at hcrb
        simp only at hcrb
        split at hcrb
        · cases hcrb
          exact Or.inr rfl
        · cases hcrb

theorem apart_serviceAccountNodes {owners : NamespaceOwners} {kind : String}
    (hkind : Hides D c kind) :
    ∀ n ∈ serviceAccountNodes (D.deny c) order ns owners, n.Apart kind ∨
      ∃ b ∈ answered (bindingsFor (D.deny c) ns (accountUsers owners)),
        n = roleNode b.roleRef ns (roleRules (D.deny c) ns) := by
  have haccount : ∀ name, (accountNodeOf ns (accountUsers owners) name).Apart kind := fun name =>
    apart_of_kind hkind.hideable (by decide : "ServiceAccount" ∉ hideableKinds)
      (by decide : Text.Free '/' "ServiceAccount") rfl
  have hbound : ∀ b ∈ answered (bindingsFor (D.deny c) ns (accountUsers owners)),
      (bindingNode b).Apart kind := by
    intro b hb
    rcases bindingsFor_kind hb with hrole | hcluster
    · refine apart_of_kind hkind.hideable ?_ ?_ rfl
      · rw [show (bindingNode b).kind = "RoleBinding" from hrole]
        decide
      · rw [show (bindingNode b).kind = "RoleBinding" from hrole]
        decide
    · refine apart_of_shown hkind ?_ ?_ rfl
      · rw [show (bindingNode b).kind = "ClusterRoleBinding" from hcluster]
        decide
      · rw [show (bindingNode b).kind = "ClusterRoleBinding" from hcluster]
        rintro (⟨hlimit, -⟩ | ⟨-, hdenied⟩ | hroutes)
        · exact absurd hlimit (by decide)
        · obtain ⟨found, hfound, -, hnone⟩ := bindingsFor_denied (D := D) (c := c) ns
            (accountUsers owners)
          rw [hfound, answered_ok, hnone hdenied] at hb
          cases hb
        · exact absurd (hiddenAfter_gateway hroutes) (by decide)
  intro n hn
  rcases serviceAccountNodes_cases hn with ⟨name, rfl⟩ | ⟨b, hb, rfl | hrole⟩
  · exact Or.inl (haccount name)
  · exact Or.inl (hbound b hb)
  · exact Or.inr ⟨b, hb, hrole⟩

theorem apart_quotaNodes {kind : String} (hkind : Hides D c kind) :
    ∀ n ∈ quotaNodes (D.deny c) ns, n.Apart kind := by
  intro n hn
  cases hdenied : D.denies "ResourceQuota" with
  | true =>
      unfold quotaNodes at hn
      obtain ⟨err, herr, -⟩ := answer_denied (c := c) ns hdenied
        (Cluster.within ns c.resourceQuotas)
      rw [show (D.deny c).list "ResourceQuota" ns (D.deny c).resourceQuotas = _ from herr] at hn
      cases hn
  | false =>
      rcases quotaNodes_cases hn with ⟨q, rfl⟩ | ⟨lr, rfl⟩
      · exact apart_of_kind hkind.hideable (by decide : "ResourceQuota" ∉ hideableKinds)
          (by decide : Text.Free '/' "ResourceQuota") rfl
      · refine apart_of_shown hkind (by decide : "LimitRange" ∈ hideableKinds) ?_ rfl
        change ¬Hides D c "LimitRange"
        rintro (⟨-, htrue⟩ | ⟨hbinding, -⟩ | hroutes)
        · cases hdenied.symm.trans htrue
        · exact absurd hbinding (by decide)
        · exact absurd (hiddenAfter_gateway hroutes) (by decide)

/-- Besides owners, only roles may be drawn under the ID of something hidden. -/
theorem apart_sharedNodes {owners : NamespaceOwners} {kind : String} (hkind : Hides D c kind) :
    ∀ n ∈ sharedNodes (D.deny c) order ns owners, n.Apart kind ∨
      ∃ b ∈ answered (bindingsFor (D.deny c) ns (accountUsers owners)),
        n = roleNode b.roleRef ns (roleRules (D.deny c) ns) := by
  intro n hn
  simp only [sharedNodes, List.mem_append] at hn
  rcases hn with hn | hn | hn | hn | hn | hn | hn | hn | hn
  · obtain ⟨svc, -, rfl⟩ := List.mem_map.mp hn
    exact Or.inl (apart_of_kind hkind.hideable (by decide : "Service" ∉ hideableKinds)
      (by decide : Text.Free '/' "Service") rfl)
  · obtain ⟨ing, -, rfl⟩ := List.mem_map.mp hn
    exact Or.inl (apart_of_kind hkind.hideable (by decide : "Ingress" ∉ hideableKinds)
      (by decide : Text.Free '/' "Ingress") rfl)
  · exact Or.inl (apart_gatewayNodes hkind n hn)
  · exact Or.inl (apart_configNodes hkind.hideable n hn)
  · obtain ⟨hpa, -, hnode⟩ := List.mem_flatMap.mp hn
    obtain rfl := List.mem_singleton.mp hnode
    exact Or.inl (apart_of_kind hkind.hideable
      (by decide : "HorizontalPodAutoscaler" ∉ hideableKinds)
      (by decide : Text.Free '/' "HorizontalPodAutoscaler") rfl)
  · obtain ⟨pdb, -, hnode⟩ := List.mem_flatMap.mp hn
    obtain rfl := List.mem_singleton.mp hnode
    exact Or.inl (apart_of_kind hkind.hideable (by decide : "PodDisruptionBudget" ∉ hideableKinds)
      (by decide : Text.Free '/' "PodDisruptionBudget") rfl)
  · obtain ⟨policy, -, hnode⟩ := List.mem_flatMap.mp hn
    unfold drawnPolicy at hnode
    split at hnode
    · cases hnode
    · obtain rfl := List.mem_singleton.mp hnode
      exact Or.inl (apart_of_kind hkind.hideable (by decide : "NetworkPolicy" ∉ hideableKinds)
        (by decide : Text.Free '/' "NetworkPolicy") rfl)
  · exact apart_serviceAccountNodes hkind n hn
  · exact Or.inl (apart_quotaNodes hkind n hn)

/-! ### What is hidden -/

variable {owners : NamespaceOwners} {id : String}

theorem mem_hiddenIDs (howners : listPodOwners (D.deny c) ns = .ok owners) :
    id ∈ hiddenIDs D c ns ↔
      (∃ lr ∈ hiddenLimits D c ns, (limitRangeNode ns lr).id = id) ∨
        (∃ b ∈ hiddenBindings D c ns (accountUsers owners), (bindingNode b).id = id) ∨
          ∃ route ∈ hiddenRoutes D c ns, (routeNode route.1 ns route.2).id = id := by
  simp only [hiddenIDs, howners, List.mem_append, List.mem_map, or_assoc]

theorem hiddenIDs_eq_nil (howners : listPodOwners (D.deny c) ns = .ok owners) :
    hiddenIDs D c ns = [] ↔ hiddenLimits D c ns = [] ∧
      hiddenBindings D c ns (accountUsers owners) = [] ∧ hiddenRoutes D c ns = [] := by
  simp only [hiddenIDs, howners, List.append_eq_nil_iff, List.map_eq_nil_iff, and_assoc]

theorem hides_of_hidden (howners : listPodOwners (D.deny c) ns = .ok owners)
    (hid : id ∈ hiddenIDs D c ns) :
    ∃ kind scope name, Hides D c kind ∧ id = kubeNodeID kind scope name := by
  rcases (mem_hiddenIDs howners).mp hid with ⟨lr, hlr, rfl⟩ | ⟨b, hb, rfl⟩ | ⟨route, hroute, rfl⟩
  · unfold hiddenLimits at hlr
    split at hlr
    · rename_i hdenied
      rw [Bool.and_eq_true] at hdenied
      exact ⟨_, _, _, Or.inl ⟨rfl, hdenied.1⟩, rfl⟩
    · cases hlr
  · unfold hiddenBindings at hb
    split at hb
    · rename_i hdenied
      rw [Bool.and_eq_true] at hdenied
      have hkind : b.kind = "ClusterRoleBinding" := by
        obtain ⟨crb, -, hcrb⟩ := List.mem_filterMap.mp hb
        unfold clusterRoleBindingFor at hcrb
        simp only at hcrb
        split at hcrb
        · cases hcrb
          rfl
        · cases hcrb
      exact ⟨b.kind, _, _, Or.inr (Or.inl ⟨hkind, hdenied.1⟩), rfl⟩
    · cases hb
  · unfold hiddenRoutes at hroute
    split at hroute
    · obtain ⟨kind, hkind, hmem⟩ := List.mem_flatMap.mp hroute
      obtain ⟨u, -, rfl⟩ := List.mem_map.mp hmem
      exact ⟨kind, _, _, Or.inr (Or.inr hkind), rfl⟩
    · cases hroute

theorem limit_of_hidden {lr : LimitRange} (hlr : lr ∈ hiddenLimits D c ns) :
    limitRangeNode ns lr ∈ quotaNodes (D.remove c) ns := by
  have hnodes : quotaNodes (D.remove c) ns =
      (Cluster.within ns (D.kept "ResourceQuota" c.resourceQuotas)).map (quotaNode ns) ++
        (Cluster.within ns (D.kept "LimitRange" c.limitRanges)).flatMap fun lr =>
          [limitRangeNode ns lr] := rfl
  unfold hiddenLimits at hlr
  split at hlr
  · rename_i hdenied
    rw [Bool.and_eq_true, Bool.not_eq_true'] at hdenied
    rw [hnodes, kept_of_read hdenied.2]
    exact List.mem_append_right _ (List.mem_flatMap.mpr ⟨lr, hlr, List.mem_cons_self⟩)
  · cases hlr

theorem used_of_hidden {usedBy : StringMap (List String)} {b : AccountBinding}
    (hb : b ∈ hiddenBindings D c ns usedBy) : usedBy.entries.length ≠ 0 := by
  unfold hiddenBindings at hb
  split at hb
  · obtain ⟨crb, -, hcrb⟩ := List.mem_filterMap.mp hb
    unfold clusterRoleBindingFor at hcrb
    simp only at hcrb
    split at hcrb
    · rename_i hmatched
      obtain ⟨name, hname⟩ := List.exists_mem_of_length_pos hmatched
      obtain ⟨sub, hsub, -⟩ := List.mem_map.mp hname
      have hused : (usedBy.lookup sub.name).isSome := by
        have hfilter := List.of_mem_filter hsub
        simp only [Bool.and_eq_true] at hfilter
        exact hfilter.2
      intro hnone
      rw [AList.lookup, List.eq_nil_of_length_eq_zero hnone] at hused
      cases hused
    · cases hcrb
  · cases hb

theorem binding_of_hidden {b : AccountBinding}
    (hb : b ∈ hiddenBindings D c ns (accountUsers owners)) :
    bindingNode b ∈ serviceAccountNodes (D.remove c) order ns owners := by
  obtain ⟨found, -, hremove, -⟩ := bindingsFor_denied (D := D) (c := c) ns
    (accountUsers owners)
  unfold serviceAccountNodes
  simp only
  rw [if_neg (used_of_hidden hb), hremove, answered_ok]
  refine List.mem_append_right _ (List.mem_flatMap.mpr ⟨b, List.mem_append_right _ hb, ?_⟩)
  simp [bindingNodes]

theorem drawn_of_hidden (order : RangeOrder) (howners : listPodOwners (D.deny c) ns = .ok owners)
    (hid : id ∈ hiddenIDs D c ns) :
    ∃ n ∈ sharedNodes (D.remove c) order ns owners, n.id = id := by
  have hmem : (∃ n ∈ quotaNodes (D.remove c) ns, n.id = id) ∨
      (∃ n ∈ serviceAccountNodes (D.remove c) order ns owners, n.id = id) ∨
        ∃ n ∈ gatewayNodes (D.remove c) ns, n.id = id := by
    rcases (mem_hiddenIDs howners).mp hid with ⟨lr, hlr, rfl⟩ | ⟨b, hb, rfl⟩ | ⟨route, hroute, rfl⟩
    · exact Or.inl ⟨_, limit_of_hidden hlr, rfl⟩
    · refine Or.inr (Or.inl ⟨_, binding_of_hidden hb, rfl⟩)
    · refine Or.inr (Or.inr ⟨_, ?_, rfl⟩)
      refine List.mem_append_right _ (List.mem_flatMap.mpr ⟨route, ?_, List.mem_cons_self⟩)
      rw [(gatewayObjects_denied _).2]
      exact List.mem_append_right _ hroute
  simp only [sharedNodes, List.mem_append]
  rcases hmem with ⟨n, hn, hnid⟩ | ⟨n, hn, hnid⟩ | ⟨n, hn, hnid⟩
  · exact ⟨n, by simp [hn], hnid⟩
  · exact ⟨n, by simp [hn], hnid⟩
  · exact ⟨n, by simp [hn], hnid⟩

/-- Where the denials hide nothing besides their kinds, the level is the one drawn
without these kinds, and only there: unless what they hide is drawn all the same
because something refers to it. -/
theorem hidesOnly_iff (D : Denial) (c : Cluster) (order : RangeOrder) (ns : String) :
    (hiddenIDs D c ns = [] → HidesOnly D c order ns) ∧
      ((∀ id ∈ hiddenIDs D c ns, id ∉ referredIDs D c ns) →
        (HidesOnly D c order ns ↔ hiddenIDs D c ns = [])) := by
  obtain ⟨owners, howners⟩ := listPodOwners_readable (D.readable_remove c) ns
  have hdenied : listPodOwners (D.deny c) ns = .ok owners := listPodOwners_denied.trans howners
  have hcovered : hiddenIDs D c ns = [] → HidesOnly D c order ns := by
    intro hnone
    obtain ⟨hlimits, hbindings, hroutes⟩ := (hiddenIDs_eq_nil hdenied).mp hnone
    obtain ⟨g, hg⟩ := namespaceLevel_readable (D.readable_remove c) order ns
    refine ⟨g, ?_, hg⟩
    rw [← hg]
    simp only [namespaceLevel, hdenied, howners]
    exact congrArg (fun steps => List.foldlM (fun g step => step g) _ steps)
      (namespaceSteps_denied hlimits hbindings hroutes)
  refine ⟨hcovered, fun hunreferred => ⟨?_, hcovered⟩⟩
  · rintro ⟨g, hdeny, hremove⟩
    refine List.eq_nil_iff_forall_not_mem.mpr fun id hid => hunreferred id hid ?_
    obtain ⟨owners₁, howners₁, hadds₁⟩ := adds_namespaceLevel hdeny
    obtain ⟨owners₂, howners₂, hadds₂⟩ := adds_namespaceLevel hremove
    obtain rfl := Except.ok.inj (howners₁.symm.trans hdenied)
    obtain rfl := Except.ok.inj (howners₂.symm.trans howners)
    have hdrawn : id ∈ g.ids := by
      obtain ⟨n, hn, hnid⟩ := drawn_of_hidden order hdenied hid
      exact hadds₂.mem_ids.mpr (Or.inr ⟨n, List.mem_append_right _ hn, hnid⟩)
    rcases hadds₁.mem_ids.mp hdrawn with hnew | ⟨n, hn, hnid⟩
    · cases hnew
    · simp only [referredIDs, hdenied, List.mem_append, List.mem_map]
      rcases List.mem_append.mp hn with howner | hshared
      · obtain ⟨o, ho, rfl⟩ := List.mem_map.mp howner
        exact Or.inl ⟨o, ho, hnid⟩
      · obtain ⟨kind, scope, name, hkind, rfl⟩ := hides_of_hidden hdenied hid
        rcases apart_sharedNodes hkind n hshared with hapart | ⟨b, hb, rfl⟩
        · exact absurd hnid (hapart.id_ne scope name)
        · exact Or.inr ⟨b, hb, hnid⟩

def quotasForbidden : Denial where
  error kind :=
    if kind = "ResourceQuota" then some ⟨.forbidden, "resourcequotas is forbidden"⟩ else none
  optional kind err h := by
    split at h
    · rename_i hkind
      cases h
      rw [hkind]
      decide
    · cases h

def limited : Cluster where
  limitRanges := KeyedList.empty.add { name := "defaults", ns := "shop", limits := 2 }
  resourceQuotas := KeyedList.empty.add { name := "compute", ns := "till" }
  pods := KeyedList.empty.add
    { name := "web-0", ns := "till", uid := "p", labels := [⟨"app", "web"⟩].toAList }
  services := KeyedList.empty.add
    { name := "web", ns := "till", selector := [⟨"app", "web"⟩].toAList }

/-- A user who may not list quotas is not shown the LimitRange either. -/
theorem quotasForbidden_not_hidesOnly : ¬HidesOnly quotasForbidden limited default "shop" := by
  rintro ⟨g, hdeny, hremove⟩
  have hids : g.ids = [] := by
    have hlevel : (namespaceLevel (quotasForbidden.deny limited) default "shop").map Graph.ids =
        .ok [] := rfl
    rw [hdeny] at hlevel
    exact Except.ok.inj hlevel
  have hids' : g.ids = ["LimitRange/shop/defaults"] := by
    have hlevel : (namespaceLevel (quotasForbidden.remove limited) default "shop").map Graph.ids =
        .ok ["LimitRange/shop/defaults"] := rfl
    rw [hremove] at hlevel
    exact Except.ok.inj hlevel
  cases hids.symm.trans hids'

/-- In a namespace without LimitRanges the same denial hides the quota only. -/
theorem quotasForbidden_hidesOnly_elsewhere :
    HidesOnly quotasForbidden limited default "till" ∧
      hiddenIDs quotasForbidden limited "till" = [] ∧
      (namespaceLevel limited default "till").map Graph.ids =
        .ok ["Pod/till/web-0", "Service/till/web", "ResourceQuota/till/compute"] ∧
      (namespaceLevel (quotasForbidden.deny limited) default "till").map Graph.ids =
        .ok ["Pod/till/web-0", "Service/till/web"] := by
  have hhidden : HidesOnly quotasForbidden limited default "till" :=
    (hidesOnly_iff quotasForbidden limited default "till").1 rfl
  refine ⟨hhidden, ((hidesOnly_iff quotasForbidden limited default "till").2 ?_).mp hhidden, rfl, rfl⟩
  intro id hid
  cases hid

end Wiremap.Topology
