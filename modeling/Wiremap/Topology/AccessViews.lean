import Wiremap.Topology.LensNodes
import Wiremap.Topology.Linking
import Wiremap.Topology.Reads
import Wiremap.Topology.TopologyService

/-! What is drawn of the bindings of a ServiceAccount: by the namespace whose
workloads run as it, and by the access lens. -/
namespace Wiremap.Topology

open Wiremap.Kube Wiremap.Library
open Wiremap.Topology.Graph (Links)

variable {c : Cluster} {order : RangeOrder} {ns : String} {owners : NamespaceOwners}
variable {g g' : Graph}

/-- A RoleBinding, or a ClusterRoleBinding in no namespace. -/
structure Binding where
  kind : String
  ns : String
  name : String
  subjects : List Subject
  roleRef : RoleRef

namespace Binding

def ofRoleBinding (rb : RoleBinding) : Binding :=
  ⟨"RoleBinding", rb.ns, rb.name, rb.subjects, rb.roleRef⟩

def ofClusterRoleBinding (crb : ClusterRoleBinding) : Binding :=
  ⟨"ClusterRoleBinding", "", crb.name, crb.subjects, crb.roleRef⟩

def id (b : Binding) : String := kubeNodeID b.kind b.ns b.name

/-- A subject without a namespace is in that of the binding. -/
def Binds (b : Binding) (ns account : String) : Prop :=
  ∃ sub ∈ b.subjects, sub.kind = "ServiceAccount" ∧
    (if sub.ns = "" then b.ns else sub.ns) = ns ∧ sub.name = account

def roleID (b : Binding) : String :=
  kubeNodeID b.roleRef.kind (if b.roleRef.kind = "ClusterRole" then "" else b.ns) b.roleRef.name

end Binding

def allBindings (c : Cluster) : List Binding :=
  c.clusterRoleBindings.items.map .ofClusterRoleBinding ++
    c.roleBindings.items.map .ofRoleBinding

def shownBindings (c : Cluster) : List Binding :=
  (allBindings c).filter fun b => !isSystemBinding b.name b.subjects

def RunsAs (owners : NamespaceOwners) (account : String) : Prop :=
  ∃ o ∈ owners.owners, accountOf o = account

/-- Both views have the same bindings of the accounts in use, and the same grants of
these. -/
structure AccessViewsAgree (c : Cluster) (ns : String) (owners : NamespaceOwners)
    (g lens : Graph) : Prop where
  binds : ∀ b ∈ shownBindings c, ∀ account, RunsAs owners account →
    (⟨b.id, kubeNodeID "ServiceAccount" ns account, "binds"⟩ ∈ g.edges.items ↔
      ⟨b.id, kubeNodeID "ServiceAccount" ns account, "binds"⟩ ∈ lens.edges.items)
  grants : ∀ b ∈ shownBindings c, (∃ account, RunsAs owners account ∧ b.Binds ns account) →
    ∀ role, (⟨b.id, role, "grants"⟩ ∈ g.edges.items ↔ ⟨b.id, role, "grants"⟩ ∈ lens.edges.items)

/-- As the API server names the objects: no namespace, kind of a subject or account
of a pod has a slash. -/
structure AccessNames (c : Cluster) (ns : String) (owners : NamespaceOwners) : Prop where
  asked : ns ≠ "" ∧ Text.Free '/' ns
  namespaces : ∀ b ∈ allBindings c, Text.Free '/' b.ns
  subjects : ∀ b ∈ allBindings c, ∀ sub ∈ b.subjects, Text.Free '/' sub.kind
  accounts : ∀ o ∈ owners.owners, Text.Free '/' (accountOf o)

/-! ### Bindings -/

theorem allBindings_kind {b : Binding} (h : b ∈ allBindings c) :
    b.kind = "ClusterRoleBinding" ∨ b.kind = "RoleBinding" := by
  rcases List.mem_append.mp h with h | h
  · obtain ⟨crb, -, rfl⟩ := List.mem_map.mp h
    exact Or.inl rfl
  · obtain ⟨rb, -, rfl⟩ := List.mem_map.mp h
    exact Or.inr rfl

theorem mem_allBindings_cluster {b : Binding} (h : b ∈ allBindings c)
    (hkind : b.kind = "ClusterRoleBinding") :
    ∃ crb ∈ c.clusterRoleBindings.items, b = .ofClusterRoleBinding crb := by
  rcases List.mem_append.mp h with h | h
  · obtain ⟨crb, hcrb, rfl⟩ := List.mem_map.mp h
    exact ⟨crb, hcrb, rfl⟩
  · obtain ⟨rb, -, rfl⟩ := List.mem_map.mp h
    exact absurd hkind (show "RoleBinding" ≠ "ClusterRoleBinding" by decide)

theorem mem_allBindings_role {b : Binding} (h : b ∈ allBindings c) (hkind : b.kind = "RoleBinding") :
    ∃ rb ∈ c.roleBindings.items, b = .ofRoleBinding rb := by
  rcases List.mem_append.mp h with h | h
  · obtain ⟨crb, -, rfl⟩ := List.mem_map.mp h
    exact absurd hkind (show "ClusterRoleBinding" ≠ "RoleBinding" by decide)
  · obtain ⟨rb, hrb, rfl⟩ := List.mem_map.mp h
    exact ⟨rb, hrb, rfl⟩

theorem binding_id_inj (hnames : ∀ b ∈ allBindings c, Text.Free '/' b.ns) {b b' : Binding}
    (hb : b ∈ allBindings c) (hb' : b' ∈ allBindings c) (hid : b.id = b'.id) : b = b' := by
  have hfree : ∀ b ∈ allBindings c, Text.Free '/' b.kind := by
    intro b hb
    rcases allBindings_kind hb with hkind | hkind
    · rw [hkind]
      decide
    · rw [hkind]
      decide
  obtain ⟨hkind, hns, hname⟩ := kubeNodeID_parts (hfree b hb) (hfree b' hb')
    (hnames b hb) (hnames b' hb') hid
  rcases allBindings_kind hb with hcluster | hrole
  · obtain ⟨crb, hcrb, rfl⟩ := mem_allBindings_cluster hb hcluster
    obtain ⟨crb', hcrb', rfl⟩ := mem_allBindings_cluster hb' (hkind ▸ hcluster)
    rw [KeyedList.eq_of_key_eq hcrb hcrb' hname]
  · obtain ⟨rb, hrb, rfl⟩ := mem_allBindings_role hb hrole
    obtain ⟨rb', hrb', rfl⟩ := mem_allBindings_role hb' (hkind ▸ hrole)
    rw [KeyedList.eq_of_key_eq hrb hrb' (Prod.ext hns hname)]

/-! ### The access lens -/

def Binding.LensEdge (b : Binding) (e : GraphEdge) : Prop :=
  (∃ sub ∈ b.subjects, e = ⟨b.id, (subjectNode b.ns sub).id, "binds"⟩) ∨
    e = ⟨b.id, b.roleID, "grants"⟩

theorem links_addAccessBinding (rules : StringMap Nat) (g : Graph) (b : Binding) :
    Links b.LensEdge g (addAccessBinding b.kind rules g b.ns b.name b.subjects b.roleRef) := by
  have hsubject : ∀ (g : Graph) (sub : Subject),
      Links (fun e => e = ⟨b.id, (subjectNode b.ns sub).id, "binds"⟩) g
        (addSubject b.id b.ns g sub) :=
    fun _ _ => (Links.addEdge _ _ _ _).after_node
  exact ((Links.foldl_of hsubject b.subjects _).after_node).trans (Links.addEdge _ _ _ _).after_node

theorem links_shown (rules : StringMap Nat) (g : Graph) (b : Binding) :
    Links (fun e => isSystemBinding b.name b.subjects = false ∧ b.LensEdge e) g
      (if isSystemBinding b.name b.subjects then g
        else addAccessBinding b.kind rules g b.ns b.name b.subjects b.roleRef) := by
  split
  · exact (Links.refl g).congr (by simp [*])
  · exact (links_addAccessBinding rules g b).congr (by simp [*])

theorem mem_accessGraph {lens : Graph} (h : accessGraph c = .ok lens) (e : GraphEdge) :
    e ∈ lens.edges.items ↔ ∃ b ∈ shownBindings c, b.LensEdge e := by
  obtain ⟨-, -, rfl⟩ := accessGraph_ok h
  have hcluster := Links.foldl_of (fun g crb =>
    links_shown (roleRules c "") g (.ofClusterRoleBinding crb)) c.clusterRoleBindings.items
    (Graph.new .cluster)
  have hroles := Links.foldl_of (fun g rb => links_shown (roleRules c "") g (.ofRoleBinding rb))
    c.roleBindings.items (c.clusterRoleBindings.items.foldl
      (addClusterRoleBinding (roleRules c "")) (Graph.new .cluster))
  refine ((hcluster.trans hroles).mem_new e).trans ?_
  simp [shownBindings, allBindings, or_and_right, and_assoc, exists_or]

/-! ### The namespace -/

theorem lookup_accountUsers {account : String} :
    ((accountUsers owners).lookup account).isSome ↔ RunsAs owners account := by
  have hfold : ∀ (l : List PodTemplateOwner) (usedBy : StringMap (List String)),
      ((l.foldl (fun usedBy o => usedBy.insert (accountOf o)
        ((usedBy.lookup (accountOf o)).getD [] ++ [o.node.id])) usedBy).lookup account).isSome ↔
        (usedBy.lookup account).isSome ∨ ∃ o ∈ l, accountOf o = account := by
    intro l
    induction l with
    | nil => simp
    | cons o l ih =>
        intro usedBy
        rw [List.foldl_cons, ih, StringMap.lookup_insert]
        by_cases haccount : account = accountOf o
        · simp [haccount]
        · simp [haccount, Ne.symm haccount]
  rw [accountUsers, hfold]
  simp [RunsAs]

theorem mem_matchAccounts {subjects : List Subject} {bindingNamespace account : String} :
    account ∈ matchAccounts ns (accountUsers owners) subjects bindingNamespace ↔
      RunsAs owners account ∧ ∃ sub ∈ subjects, sub.kind = "ServiceAccount" ∧
        (if sub.ns = "" then bindingNamespace else sub.ns) = ns ∧ sub.name = account := by
  simp only [matchAccounts, List.mem_map, List.mem_filter, Bool.and_eq_true, decide_eq_true_eq,
    lookup_accountUsers]
  constructor
  · rintro ⟨sub, ⟨hsub, ⟨hkind, hns⟩, hused⟩, rfl⟩
    exact ⟨hused, sub, hsub, hkind, hns, rfl⟩
  · rintro ⟨hused, sub, hsub, hkind, hns, rfl⟩
    exact ⟨sub, ⟨hsub, ⟨hkind, hns⟩, hused⟩, rfl⟩

section Steps

variable {usedBy : StringMap (List String)} {e : GraphEdge}

theorem mem_addAccount (g : Graph) (name : String) (he : e.kind ≠ "runs-as") :
    e ∈ (addAccount ns usedBy g name).edges.items ↔ e ∈ g.edges.items := by
  unfold addAccount
  simp only
  split
  · rfl
  · rw [Links.foldl_of (fun g owner => Links.addEdge g owner _ "runs-as") _ _ e,
      Graph.edges_addNode, or_iff_left]
    rintro ⟨owner, -, rfl⟩
    exact he rfl

theorem mem_bindAccount (bindingID : String) (g : Graph) (account : String)
    (he : e.kind ≠ "runs-as") : e ∈ (bindAccount ns usedBy bindingID g account).edges.items ↔
      e ∈ g.edges.items ∨ e = ⟨bindingID, kubeNodeID "ServiceAccount" ns account, "binds"⟩ := by
  rw [bindAccount, Links.addEdge _ _ _ _ e, mem_addAccount g account he]

theorem mem_addBinding (rules : StringMap Nat) (g : Graph) (b : AccountBinding)
    (he : e.kind ≠ "runs-as") : e ∈ (addBinding ns usedBy rules g b).edges.items ↔
      e ∈ g.edges.items ∨
        (∃ account ∈ b.accounts,
          e = ⟨(bindingNode b).id, kubeNodeID "ServiceAccount" ns account, "binds"⟩) ∨
        e = ⟨(bindingNode b).id, (roleNode b.roleRef ns rules).id, "grants"⟩ := by
  unfold addBinding
  simp only
  rw [Links.addEdge _ _ _ _ e, Graph.edges_addNode,
    Links.mem_foldl (fun g account => mem_bindAccount (bindingNode b).id g account he),
    Graph.edges_addNode, or_assoc]

end Steps

/-- What the namespace draws of a binding of accounts in use. -/
def Binding.OwnEdge (b : Binding) (ns : String) (owners : NamespaceOwners) (e : GraphEdge) : Prop :=
  (∃ account, RunsAs owners account ∧ b.Binds ns account ∧
    e = ⟨b.id, kubeNodeID "ServiceAccount" ns account, "binds"⟩) ∨
  (∃ account, RunsAs owners account ∧ b.Binds ns account) ∧ e = ⟨b.id, b.roleID, "grants"⟩

def ownBindings (c : Cluster) (ns : String) : List Binding :=
  (Cluster.within ns c.roleBindings).map .ofRoleBinding ++
    c.clusterRoleBindings.items.map .ofClusterRoleBinding

def foundBinding (ns : String) (owners : NamespaceOwners) (b : Binding) : Option AccountBinding :=
  let names := matchAccounts ns (accountUsers owners) b.subjects b.ns
  if names.length > 0 then some ⟨b.kind, b.name, b.ns, b.roleRef, names⟩ else none

theorem bindingsFor_readable (hc : c.Readable) (hns : ns ≠ "") :
    bindingsFor c ns (accountUsers owners) =
      .ok ((ownBindings c ns).filterMap (foundBinding ns owners)) := by
  have hroles : ∀ rb ∈ Cluster.within ns c.roleBindings,
      roleBindingFor ns (accountUsers owners) rb = foundBinding ns owners (.ofRoleBinding rb) := by
    intro rb hrb
    obtain rfl : rb.ns = ns := ((Cluster.mem_within hns).mp hrb).2
    rfl
  simp only [bindingsFor, Cluster.list_readable hc, Cluster.listAll_readable hc, ownBindings,
    List.filterMap_append, List.filterMap_map]
  congr 2
  exact List.filterMap_congr hroles

theorem mem_foundBinding {rules : StringMap Nat} {e : GraphEdge} {b : Binding}
    (hrole : b.roleRef.kind = "ClusterRole" ∨ b.ns = ns) :
    (∃ found, foundBinding ns owners b = some found ∧
      ((∃ account ∈ found.accounts,
          e = ⟨(bindingNode found).id, kubeNodeID "ServiceAccount" ns account, "binds"⟩) ∨
        e = ⟨(bindingNode found).id, (roleNode found.roleRef ns rules).id, "grants"⟩)) ↔
      b.OwnEdge ns owners e := by
  have hnode : (roleNode b.roleRef ns rules).id = b.roleID := by
    unfold roleNode Binding.roleID
    rcases hrole with hkind | hns
    · simp [hkind]
    · simp [hns]
  have hfound : (matchAccounts ns (accountUsers owners) b.subjects b.ns).length > 0 ↔
      ∃ account, RunsAs owners account ∧ b.Binds ns account := by
    simp only [gt_iff_lt, List.length_pos_iff_exists_mem, mem_matchAccounts, Binding.Binds]
  unfold foundBinding Binding.OwnEdge
  rw [← hfound]
  simp only
  split
  · rename_i hsome
    simp only [Option.some.injEq, exists_eq_left', mem_matchAccounts, and_assoc, hnode, hsome,
      true_and]
    rfl
  · rename_i hnone
    have hempty : ¬∃ account, RunsAs owners account ∧ b.Binds ns account := hfound.not.mp hnone
    simp only [reduceCtorEq, false_and, exists_false, hnone, or_false, false_iff]
    rintro ⟨account, hused, hbinds, -⟩
    exact hempty ⟨account, hused, hbinds⟩

theorem mem_namespace_access (hc : c.Readable)
    (hroles : ∀ crb ∈ c.clusterRoleBindings.items, crb.roleRef.kind = "ClusterRole") (hns : ns ≠ "")
    (howners : listPodOwners c ns = .ok owners) (h : namespaceLevel c order ns = .ok g)
    {e : GraphEdge} (he : e.kind = "binds" ∨ e.kind = "grants") :
    e ∈ g.edges.items ↔ ∃ b ∈ ownBindings c ns, b.OwnEdge ns owners e := by
  obtain ⟨g₁, g₂, -, hrun, hedges⟩ := edges_of_addServiceAccounts howners h
  obtain ⟨hfresh, hlevel⟩ := hedges e he
  have hkind : e.kind ≠ "runs-as" := by
    rcases he with he | he
    · rw [he]
      decide
    · rw [he]
      decide
  have hrole : ∀ b ∈ ownBindings c ns, b.roleRef.kind = "ClusterRole" ∨ b.ns = ns := by
    intro b hb
    rcases List.mem_append.mp hb with hb | hb
    · obtain ⟨rb, hrb, rfl⟩ := List.mem_map.mp hb
      exact Or.inr ((Cluster.mem_within hns).mp hrb).2
    · obtain ⟨crb, hcrb, rfl⟩ := List.mem_map.mp hb
      exact Or.inl (hroles crb hcrb)
  rw [hlevel]
  unfold addServiceAccounts at hrun
  simp only [bindingsFor_readable hc hns] at hrun
  split at hrun
  · rename_i hunused
    obtain rfl := Fallible.pure_eq_ok.mp hrun
    have hnone : ∀ account, ¬RunsAs owners account := by
      intro account hused
      rw [← lookup_accountUsers, AList.lookup_isSome, AList.mem_keys, AList.keys,
        List.length_eq_zero_iff.mp hunused] at hused
      cases hused
    refine iff_of_false hfresh ?_
    rintro ⟨b, -, ⟨account, hused, -⟩ | ⟨⟨account, hused, -⟩, -⟩⟩
    · exact hnone account hused
    · exact hnone account hused
  · obtain rfl := Fallible.pure_eq_ok.mp hrun
    rw [Links.mem_foldl fun g b => mem_addBinding (roleRules c ns) g b hkind,
      Links.mem_foldl (P := fun _ => False) (fun g name => by
        rw [mem_addAccount g name hkind, or_false])]
    simp only [hfresh, and_false, exists_false, false_or, List.mem_filterMap]
    constructor
    · rintro ⟨found, ⟨b, hb, hfound⟩, hedge⟩
      exact ⟨b, hb, (mem_foundBinding (hrole b hb)).mp ⟨found, hfound, hedge⟩⟩
    · rintro ⟨b, hb, hedge⟩
      obtain ⟨found, hfound, hedge⟩ := (mem_foundBinding (hrole b hb)).mpr hedge
      exact ⟨found, ⟨b, hb, hfound⟩, hedge⟩

/-! ### Both views -/

theorem mem_ownBindings (hns : ns ≠ "") {b : Binding} :
    b ∈ ownBindings c ns ↔ b ∈ allBindings c ∧ (b.kind = "RoleBinding" → b.ns = ns) := by
  simp only [ownBindings, allBindings, List.mem_append, List.mem_map, Cluster.mem_within hns]
  constructor
  · rintro (⟨rb, ⟨hrb, hown⟩, rfl⟩ | ⟨crb, hcrb, rfl⟩)
    · exact ⟨Or.inr ⟨rb, hrb, rfl⟩, fun _ => hown⟩
    · exact ⟨Or.inl ⟨crb, hcrb, rfl⟩,
        fun hkind => absurd hkind (show "ClusterRoleBinding" ≠ "RoleBinding" by decide)⟩
  · rintro ⟨⟨crb, hcrb, rfl⟩ | ⟨rb, hrb, rfl⟩, hown⟩
    · exact Or.inr ⟨crb, hcrb, rfl⟩
    · exact Or.inl ⟨rb, ⟨hrb, hown rfl⟩, rfl⟩

theorem subjectNode_id_iff {sub : Subject} {bindingNamespace account : String}
    (hns : Text.Free '/' ns) (haccount : Text.Free '/' account) (hkind : Text.Free '/' sub.kind) :
    kubeNodeID "ServiceAccount" ns account = (subjectNode bindingNamespace sub).id ↔
      sub.kind = "ServiceAccount" ∧ (if sub.ns = "" then bindingNamespace else sub.ns) = ns ∧
        sub.name = account := by
  constructor
  · intro hid
    obtain ⟨hsub, hrest⟩ := kubeNodeID_kind hkind (by decide) hid.symm
    rw [if_pos hsub] at hrest
    exact ⟨hsub, Text.join_inj_of_free hns haccount hrest⟩
  · rintro ⟨hsub, rfl, rfl⟩
    simp [subjectNode, hsub]

section Views

variable {lens : Graph} {b : Binding} {account role : String}

theorem mem_shownBindings :
    b ∈ shownBindings c ↔ b ∈ allBindings c ∧ isSystemBinding b.name b.subjects = false := by
  simp [shownBindings]

theorem lens_binds (hnames : AccessNames c ns owners)
    (h : accessGraph c = .ok lens) (hb : b ∈ shownBindings c) (haccount : RunsAs owners account) :
    ⟨b.id, kubeNodeID "ServiceAccount" ns account, "binds"⟩ ∈ lens.edges.items ↔
      b.Binds ns account := by
  have hall := (mem_shownBindings.mp hb).1
  obtain ⟨o, ho, rfl⟩ := haccount
  have hsubject : ∀ sub ∈ b.subjects, kubeNodeID "ServiceAccount" ns (accountOf o) =
      (subjectNode b.ns sub).id ↔ sub.kind = "ServiceAccount" ∧
        (if sub.ns = "" then b.ns else sub.ns) = ns ∧ sub.name = accountOf o :=
    fun sub hsub => subjectNode_id_iff hnames.asked.2 (hnames.accounts o ho)
      (hnames.subjects b hall sub hsub)
  rw [mem_accessGraph h]
  constructor
  · rintro ⟨b', hb', ⟨sub, hsub, hedge⟩ | hedge⟩
    · obtain ⟨hid, htarget, -⟩ := GraphEdge.mk.inj hedge
      obtain rfl := binding_id_inj hnames.namespaces hall (mem_shownBindings.mp hb').1 hid
      exact ⟨sub, hsub, (hsubject sub hsub).mp htarget⟩
    · exact absurd (GraphEdge.mk.inj hedge).2.2 (by decide)
  · rintro ⟨sub, hsub, hbound⟩
    exact ⟨b, hb, Or.inl ⟨sub, hsub, by rw [(hsubject sub hsub).mpr hbound]⟩⟩

theorem lens_grants (hnames : AccessNames c ns owners)
    (h : accessGraph c = .ok lens) (hb : b ∈ shownBindings c) :
    ⟨b.id, role, "grants"⟩ ∈ lens.edges.items ↔ role = b.roleID := by
  rw [mem_accessGraph h]
  constructor
  · rintro ⟨b', hb', ⟨sub, hsub, hedge⟩ | hedge⟩
    · exact absurd (GraphEdge.mk.inj hedge).2.2 (by decide)
    · obtain ⟨hid, htarget, -⟩ := GraphEdge.mk.inj hedge
      obtain rfl := binding_id_inj hnames.namespaces (mem_shownBindings.mp hb).1
        (mem_shownBindings.mp hb').1 hid
      exact htarget
  · rintro rfl
    exact ⟨b, hb, Or.inr rfl⟩

variable (hc : c.Readable)
  (hroles : ∀ crb ∈ c.clusterRoleBindings.items, crb.roleRef.kind = "ClusterRole")
  (howners : listPodOwners c ns = .ok owners) (hnames : AccessNames c ns owners)
  (h : namespaceLevel c order ns = .ok g)

include hc hroles howners hnames h

theorem namespace_binds (hb : b ∈ allBindings c) (haccount : RunsAs owners account) :
    ⟨b.id, kubeNodeID "ServiceAccount" ns account, "binds"⟩ ∈ g.edges.items ↔
      b ∈ ownBindings c ns ∧ b.Binds ns account := by
  rw [mem_namespace_access hc hroles hnames.asked.1 howners h (Or.inl rfl)]
  constructor
  · rintro ⟨b', hb', ⟨account', -, hbinds, hedge⟩ | ⟨-, hedge⟩⟩
    · obtain ⟨hid, htarget, -⟩ := GraphEdge.mk.inj hedge
      obtain rfl := binding_id_inj hnames.namespaces hb
        ((mem_ownBindings hnames.asked.1).mp hb').1 hid
      obtain rfl := kubeNodeID_inj htarget
      exact ⟨hb', hbinds⟩
    · exact absurd (GraphEdge.mk.inj hedge).2.2 (by decide)
  · rintro ⟨hown, hbinds⟩
    exact ⟨b, hown, Or.inl ⟨account, haccount, hbinds, rfl⟩⟩

theorem namespace_grants (hb : b ∈ allBindings c) :
    ⟨b.id, role, "grants"⟩ ∈ g.edges.items ↔ b ∈ ownBindings c ns ∧
      (∃ account, RunsAs owners account ∧ b.Binds ns account) ∧ role = b.roleID := by
  rw [mem_namespace_access hc hroles hnames.asked.1 howners h (Or.inr rfl)]
  constructor
  · rintro ⟨b', hb', ⟨account', -, -, hedge⟩ | ⟨hused, hedge⟩⟩
    · exact absurd (GraphEdge.mk.inj hedge).2.2 (by decide)
    · obtain ⟨hid, htarget, -⟩ := GraphEdge.mk.inj hedge
      obtain rfl := binding_id_inj hnames.namespaces hb
        ((mem_ownBindings hnames.asked.1).mp hb').1 hid
      exact ⟨hb', hused, htarget⟩
  · rintro ⟨hown, hused, rfl⟩
    exact ⟨b, hown, Or.inr ⟨hused, rfl⟩⟩

end Views

/-- The views agree where no binding of another namespace is about an account in
use: a namespace lists its own RoleBindings only. -/
theorem accessViews_agree_iff (c : Cluster) (order : RangeOrder) (ns : String)
    (owners : NamespaceOwners) (g lens : Graph) (hc : c.Readable)
    (hroles : ∀ crb ∈ c.clusterRoleBindings.items, crb.roleRef.kind = "ClusterRole")
    (howners : listPodOwners c ns = .ok owners) (hnames : AccessNames c ns owners)
    (hg : topology c order (.inNamespace ns) = .ok g)
    (hlens : topology c order (.cluster .access) = .ok lens) :
    AccessViewsAgree c ns owners g lens ↔
      ∀ rb ∈ c.roleBindings.items, isSystemBinding rb.name rb.subjects = false → rb.ns ≠ ns →
        ∀ sub ∈ rb.subjects, sub.kind = "ServiceAccount" → sub.ns = ns →
          ¬RunsAs owners sub.name := by
  constructor
  · intro hagree rb hrb hshown hother sub hsub hkind hsubject hused
    have hall : Binding.ofRoleBinding rb ∈ allBindings c :=
      List.mem_append_right _ (List.mem_map_of_mem hrb)
    have hb : Binding.ofRoleBinding rb ∈ shownBindings c := mem_shownBindings.mpr ⟨hall, hshown⟩
    have hbinds : (Binding.ofRoleBinding rb).Binds ns sub.name :=
      ⟨sub, hsub, hkind, by rw [if_neg (hsubject ▸ hnames.asked.1), hsubject], rfl⟩
    have hdrawn := (hagree.binds _ hb sub.name hused).mpr
      ((lens_binds hnames hlens hb hused).mpr hbinds)
    obtain ⟨hown, -⟩ := (namespace_binds hc hroles howners hnames hg hall hused).mp hdrawn
    exact hother (((mem_ownBindings hnames.asked.1).mp hown).2 rfl)
  · intro hnone
    have hown : ∀ b ∈ shownBindings c, (∃ account, RunsAs owners account ∧ b.Binds ns account) →
        b ∈ ownBindings c ns := by
      rintro b hb ⟨account, hused, sub, hsub, hkind, hsubject, rfl⟩
      obtain ⟨hall, hshown⟩ := mem_shownBindings.mp hb
      refine (mem_ownBindings hnames.asked.1).mpr ⟨hall, fun hrole => ?_⟩
      obtain ⟨rb, hrb, rfl⟩ := mem_allBindings_role hall hrole
      by_contra hother
      refine hnone rb hrb hshown hother sub hsub hkind ?_ hused
      split at hsubject
      · exact absurd hsubject hother
      · exact hsubject
    refine ⟨fun b hb account hused => ?_, fun b hb hbound role => ?_⟩
    · have hall := (mem_shownBindings.mp hb).1
      rw [namespace_binds hc hroles howners hnames hg hall hused,
        lens_binds hnames hlens hb hused]
      exact and_iff_right_of_imp fun hbinds => hown b hb ⟨account, hused, hbinds⟩
    · have hall := (mem_shownBindings.mp hb).1
      rw [namespace_grants hc hroles howners hnames hg hall, lens_grants hnames hlens hb]
      simp [hown b hb hbound, hbound]

def apiPod : Pod := { name := "web", ns := "shop", spec := { serviceAccountName := "api" } }

def boundAccount : Cluster where
  pods := KeyedList.empty.add apiPod
  roleBindings := KeyedList.empty.add
    { name := "read", ns := "shop", subjects := [⟨"ServiceAccount", "api", ""⟩]
      roleRef := ⟨"Role", "reader"⟩ }
  clusterRoleBindings := KeyedList.empty.add
    { name := "list", subjects := [⟨"ServiceAccount", "api", "shop"⟩]
      roleRef := ⟨"ClusterRole", "lister"⟩ }

theorem accessViews_agree_boundAccount :
    ∃ owners g lens, listPodOwners boundAccount "shop" = .ok owners ∧
      topology boundAccount default (.inNamespace "shop") = .ok g ∧
      topology boundAccount default (.cluster .access) = .ok lens ∧
      AccessViewsAgree boundAccount "shop" owners g lens ∧
      ⟨"RoleBinding/shop/read", "Role/shop/reader", "grants"⟩ ∈ g.edges.items := by
  refine ⟨_, _, _, rfl, rfl, rfl, ?_, by decide⟩
  refine (accessViews_agree_iff boundAccount default "shop" _ _ _ (fun _ => rfl) (by decide) rfl
    ⟨by decide, by decide, by decide, by decide⟩ rfl rfl).mpr ?_
  intro rb hrb _ hother
  obtain rfl := List.mem_singleton.mp hrb
  exact absurd rfl hother

def boundElsewhere : Cluster where
  pods := KeyedList.empty.add apiPod
  roleBindings := KeyedList.empty.add
    { name := "read", ns := "ops", subjects := [⟨"ServiceAccount", "api", "shop"⟩]
      roleRef := ⟨"Role", "reader"⟩ }

/-- Only the lens draws that binding. -/
theorem boundElsewhere_views_differ :
    boundElsewhere.Readable ∧ ∃ owners g lens,
      listPodOwners boundElsewhere "shop" = .ok owners ∧ RunsAs owners "api" ∧
      topology boundElsewhere default (.inNamespace "shop") = .ok g ∧
      topology boundElsewhere default (.cluster .access) = .ok lens ∧
      ¬AccessViewsAgree boundElsewhere "shop" owners g lens := by
  refine ⟨fun _ => rfl, _, _, _, rfl, ⟨_, List.mem_cons_self, rfl⟩, rfl, rfl, fun hagree => ?_⟩
  have hbinds := (hagree.binds _ List.mem_cons_self "api" ⟨_, List.mem_cons_self, rfl⟩).mpr
    (by decide)
  exact absurd hbinds (by decide)

end Wiremap.Topology
