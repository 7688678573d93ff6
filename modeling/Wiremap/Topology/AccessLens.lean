import Mathlib.Data.List.Dedup
import Wiremap.Topology.AccessViews

/-! The access lens as a whole: it shows every binding that is not a system one, whom
each binds and what each grants, and nothing else. -/
namespace Wiremap.Topology

open Wiremap.Kube Wiremap.Library

variable {c : Cluster} {g : Graph}

/-! ### Subjects and bindings -/

/-- Whom a subject of a binding in the namespace stands for: only a ServiceAccount is
in a namespace, by default in that of the binding. -/
def resolved (ns : String) (sub : Subject) : Subject where
  kind := sub.kind
  name := sub.name
  ns := if sub.kind = "ServiceAccount" then (if sub.ns = "" then ns else sub.ns) else ""

def subjectID (sub : Subject) : String := kubeNodeID sub.kind sub.ns sub.name

abbrev IsSystemName (name : String) : Prop := Text.hasPrefix name "system:"

def IsSystemSubject (sub : Subject) : Prop :=
  IsSystemName sub.name ∨ Text.hasPrefix sub.ns "kube-"

instance : DecidablePred IsSystemSubject := fun sub =>
  inferInstanceAs (Decidable (IsSystemName sub.name ∨ Text.hasPrefix sub.ns "kube-"))

namespace Binding

/-- A built-in binding: by its own name, or as all of its subjects are built in. -/
def System (b : Binding) : Prop :=
  IsSystemName b.name ∨ b.subjects ≠ [] ∧ ∀ sub ∈ b.subjects, IsSystemSubject sub

def bound (b : Binding) : List Subject := (b.subjects.map (resolved b.ns)).dedup

def Draws (b : Binding) (id : String) : Prop :=
  id = b.id ∨ (∃ sub ∈ b.bound, id = subjectID sub) ∨ id = b.roleID

end Binding

def edgesFrom (g : Graph) (source kind : String) : List GraphEdge :=
  g.edges.items.filter fun e => e.source = source && e.kind = kind

structure AccessLawful (c : Cluster) (g : Graph) : Prop where
  binds : ∀ b ∈ allBindings c, ¬b.System →
    (edgesFrom g b.id "binds").Perm (b.bound.map fun sub => ⟨b.id, subjectID sub, "binds"⟩)
  grants : ∀ b ∈ allBindings c, ¬b.System →
    edgesFrom g b.id "grants" = [⟨b.id, b.roleID, "grants"⟩]
  edges : ∀ e ∈ g.edges.items, ∃ b ∈ allBindings c, ¬b.System ∧ b.LensEdge e
  nodes : ∀ id, id ∈ g.ids ↔ ∃ b ∈ allBindings c, ¬b.System ∧ b.Draws id

/-- As the API server admits bindings: neither a namespace, nor the kind of a subject,
nor the name of an account has a slash. -/
structure AdmittedBindings (c : Cluster) : Prop where
  namespaces : ∀ b ∈ allBindings c, Text.Free '/' b.ns
  kinds : ∀ b ∈ allBindings c, ∀ sub ∈ b.subjects, Text.Free '/' sub.kind
  accounts : ∀ b ∈ allBindings c, ∀ sub ∈ b.subjects, sub.kind = "ServiceAccount" →
    Text.Free '/' sub.name

theorem isSystemBinding_iff {b : Binding} : isSystemBinding b.name b.subjects ↔ b.System := by
  simp [isSystemBinding, Binding.System, IsSystemName, IsSystemSubject, systemPrefix,
    List.length_pos_iff]

theorem mem_shownBindings_iff {b : Binding} :
    b ∈ shownBindings c ↔ b ∈ allBindings c ∧ ¬b.System := by
  rw [mem_shownBindings, ← isSystemBinding_iff, Bool.not_eq_true]

theorem mem_bound {b : Binding} {sub : Subject} :
    sub ∈ b.bound ↔ ∃ sub' ∈ b.subjects, resolved b.ns sub' = sub := by
  simp [Binding.bound]

/-- Distinct subjects are drawn as distinct nodes. -/
theorem subjectID_inj (hnames : AdmittedBindings c) {b : Binding} (hb : b ∈ allBindings c)
    {sub sub' : Subject} (hsub : sub ∈ b.bound) (hsub' : sub' ∈ b.bound)
    (hid : subjectID sub = subjectID sub') : sub = sub' := by
  obtain ⟨s, hs, rfl⟩ := mem_bound.mp hsub
  obtain ⟨s', hs', rfl⟩ := mem_bound.mp hsub'
  obtain ⟨hkind, hrest⟩ := kubeNodeID_kind (hnames.kinds b hb s hs) (hnames.kinds b hb s' hs') hid
  have hparts : (resolved b.ns s).ns = (resolved b.ns s').ns ∧ s.name = s'.name := by
    by_cases haccount : s.kind = "ServiceAccount"
    · exact Text.join_inj_right (hnames.accounts b hb s hs haccount)
        (hnames.accounts b hb s' hs' (hkind ▸ haccount)) hrest
    · have haccount' : s'.kind ≠ "ServiceAccount" := fun heq => haccount (hkind.trans heq)
      have hns : (resolved b.ns s).ns = "" := if_neg haccount
      have hns' : (resolved b.ns s').ns = "" := if_neg haccount'
      rw [hns, hns'] at hrest
      exact ⟨hns.trans hns'.symm, (String.append_right_inj _).mp hrest⟩
  exact Subject.mk.injEq .. ▸ ⟨hkind, hparts.2, hparts.1⟩

/-! ### Edges -/

theorem mem_edgesFrom {source kind : String} {e : GraphEdge} :
    e ∈ edgesFrom g source kind ↔ e ∈ g.edges.items ∧ e.source = source ∧ e.kind = kind := by
  simp [edgesFrom]

theorem nodup_edgesFrom (g : Graph) (source kind : String) : (edgesFrom g source kind).Nodup := by
  have hedges := g.edges.unique
  rw [List.map_id] at hedges
  exact hedges.filter _

section Shown

variable {b : Binding}

theorem mem_edgesFrom_binding (hnames : AdmittedBindings c) (h : accessGraph c = .ok g)
    (hb : b ∈ shownBindings c) {kind : String} {e : GraphEdge} :
    e ∈ edgesFrom g b.id kind ↔ b.LensEdge e ∧ e.kind = kind := by
  rw [mem_edgesFrom, mem_accessGraph h]
  constructor
  · rintro ⟨⟨b', hb', hedge⟩, hsource, hkind⟩
    have hid : b'.id = b.id := by
      rw [← hsource]
      rcases hedge with ⟨sub, -, rfl⟩ | rfl
      · rfl
      · rfl
    obtain rfl := binding_id_inj hnames.namespaces (mem_shownBindings.mp hb').1
      (mem_shownBindings.mp hb).1 hid
    exact ⟨hedge, hkind⟩
  · rintro ⟨hedge, hkind⟩
    refine ⟨⟨b, hb, hedge⟩, ?_, hkind⟩
    rcases hedge with ⟨sub, -, rfl⟩ | rfl
    · rfl
    · rfl

theorem lens_binds_perm (hnames : AdmittedBindings c) (h : accessGraph c = .ok g)
    (hb : b ∈ shownBindings c) :
    (edgesFrom g b.id "binds").Perm (b.bound.map fun sub => ⟨b.id, subjectID sub, "binds"⟩) := by
  have hbound : (b.bound.map fun sub => (⟨b.id, subjectID sub, "binds"⟩ : GraphEdge)).Nodup := by
    refine List.Nodup.map_on (fun sub hsub sub' hsub' hedge => ?_) (List.nodup_dedup _)
    exact subjectID_inj hnames (mem_shownBindings.mp hb).1 hsub hsub' (GraphEdge.mk.inj hedge).2.1
  refine (List.perm_ext_iff_of_nodup (nodup_edgesFrom g b.id "binds") hbound).mpr fun e => ?_
  rw [mem_edgesFrom_binding hnames h hb, List.mem_map]
  constructor
  · rintro ⟨⟨sub, hsub, rfl⟩ | rfl, hkind⟩
    · exact ⟨resolved b.ns sub, mem_bound.mpr ⟨sub, hsub, rfl⟩, rfl⟩
    · exact absurd hkind (show "grants" ≠ "binds" by decide)
  · rintro ⟨target, hbound, rfl⟩
    obtain ⟨sub, hsub, rfl⟩ := mem_bound.mp hbound
    exact ⟨Or.inl ⟨sub, hsub, rfl⟩, rfl⟩

theorem lens_grants_eq (hnames : AdmittedBindings c) (h : accessGraph c = .ok g)
    (hb : b ∈ shownBindings c) :
    edgesFrom g b.id "grants" = [⟨b.id, b.roleID, "grants"⟩] := by
  refine List.perm_singleton.mp ((List.perm_ext_iff_of_nodup (nodup_edgesFrom g b.id "grants")
    (List.nodup_singleton _)).mpr fun e => ?_)
  rw [mem_edgesFrom_binding hnames h hb, List.mem_singleton]
  constructor
  · rintro ⟨⟨sub, -, rfl⟩ | rfl, hkind⟩
    · exact absurd hkind (show "binds" ≠ "grants" by decide)
    · rfl
  · rintro rfl
    exact ⟨Or.inr rfl, rfl⟩

end Shown

/-! ### Nodes -/

theorem mem_accessBindingNodes {b : Binding} {rules : StringMap Nat} {id : String} :
    (∃ n ∈ accessBindingNodes b.kind rules b.ns b.name b.subjects b.roleRef, n.id = id) ↔
      ¬b.System ∧ b.Draws id := by
  unfold accessBindingNodes
  rw [← isSystemBinding_iff]
  split
  · rename_i hsystem
    simp [hsystem]
  · rename_i hshown
    rw [and_iff_right hshown]
    constructor
    · rintro ⟨n, hn, rfl⟩
      rcases List.mem_append.mp hn with hbinding | hrole
      · rcases List.mem_cons.mp hbinding with rfl | hsubject
        · exact Or.inl rfl
        · obtain ⟨sub, hsub, rfl⟩ := List.mem_map.mp hsubject
          exact Or.inr (Or.inl ⟨_, mem_bound.mpr ⟨sub, hsub, rfl⟩, rfl⟩)
      · obtain rfl := List.mem_singleton.mp hrole
        exact Or.inr (Or.inr rfl)
    · rintro (rfl | ⟨target, hbound, rfl⟩ | rfl)
      · exact ⟨_, List.mem_cons_self, rfl⟩
      · obtain ⟨sub, hsub, rfl⟩ := mem_bound.mp hbound
        have hnode : subjectNode b.ns sub ∈ b.subjects.map (subjectNode b.ns) :=
          List.mem_map_of_mem hsub
        exact ⟨_, List.mem_append_left _ (List.mem_cons_of_mem _ hnode), rfl⟩
      · exact ⟨roleNode b.roleRef b.ns rules, by simp, rfl⟩

theorem accessNodes_eq (h : accessGraph c = .ok g) :
    accessNodes c = (allBindings c).flatMap fun b =>
      accessBindingNodes b.kind (roleRules c "") b.ns b.name b.subjects b.roleRef := by
  obtain ⟨hcluster, hroles, -⟩ := accessGraph_ok h
  rw [accessNodes, hcluster, hroles, allBindings, List.flatMap_append, List.flatMap_map,
    List.flatMap_map]
  rfl

theorem mem_ids_accessGraph (h : accessGraph c = .ok g) (id : String) :
    id ∈ g.ids ↔ ∃ b ∈ allBindings c, ¬b.System ∧ b.Draws id := by
  rw [(adds_accessGraph h).mem_ids, accessNodes_eq h]
  simp only [Graph.ids_new, List.not_mem_nil, false_or, List.mem_flatMap]
  constructor
  · rintro ⟨n, ⟨b, hb, hn⟩, hid⟩
    exact ⟨b, hb, mem_accessBindingNodes.mp ⟨n, hn, hid⟩⟩
  · rintro ⟨b, hb, hdrawn⟩
    obtain ⟨n, hn, hid⟩ := mem_accessBindingNodes.mpr hdrawn
    exact ⟨n, ⟨b, hb, hn⟩, hid⟩

/-- The lens shows every binding that is not a system one, and nothing else. -/
theorem accessGraph_lawful (c : Cluster) (g : Graph) (hnames : AdmittedBindings c)
    (h : accessGraph c = .ok g) : AccessLawful c g where
  binds _ hb hshown := lens_binds_perm hnames h (mem_shownBindings_iff.mpr ⟨hb, hshown⟩)
  grants _ hb hshown := lens_grants_eq hnames h (mem_shownBindings_iff.mpr ⟨hb, hshown⟩)
  edges e he := by
    obtain ⟨b, hb, hedge⟩ := (mem_accessGraph h e).mp he
    obtain ⟨hall, hshown⟩ := mem_shownBindings_iff.mp hb
    exact ⟨b, hall, hshown, hedge⟩
  nodes := mem_ids_accessGraph h

/-! ### Bindings named as the cluster's own -/

/-- What the lens is there to show: every binding that is not named as one of
Kubernetes' own, whoever its subjects are. -/
structure AccessComplete (c : Cluster) (g : Graph) : Prop where
  binds : ∀ b ∈ allBindings c, ¬IsSystemName b.name →
    (edgesFrom g b.id "binds").Perm (b.bound.map fun sub => ⟨b.id, subjectID sub, "binds"⟩)
  grants : ∀ b ∈ allBindings c, ¬IsSystemName b.name →
    edgesFrom g b.id "grants" = [⟨b.id, b.roleID, "grants"⟩]
  edges : ∀ e ∈ g.edges.items, ∃ b ∈ allBindings c, ¬IsSystemName b.name ∧ b.LensEdge e
  nodes : ∀ id, id ∈ g.ids ↔ ∃ b ∈ allBindings c, ¬IsSystemName b.name ∧ b.Draws id

theorem Binding.not_system_iff {b : Binding} : ¬b.System ↔
    ¬IsSystemName b.name ∧ (b.subjects = [] ∨ ∃ sub ∈ b.subjects, ¬IsSystemSubject sub) := by
  rw [Binding.System, not_or, not_and_or, not_ne_iff]
  simp only [not_forall, exists_prop]

theorem shown_of_grants (hnames : AdmittedBindings c) (h : accessGraph c = .ok g) {b : Binding}
    (hb : b ∈ allBindings c) (hgrants : ⟨b.id, b.roleID, "grants"⟩ ∈ g.edges.items) :
    ¬b.System := by
  obtain ⟨b', hshown, hedge⟩ := (mem_accessGraph h _).mp hgrants
  obtain ⟨hb', hsystem⟩ := mem_shownBindings_iff.mp hshown
  have hid : b.id = b'.id := by
    rcases hedge with ⟨sub, -, heq⟩ | heq
    · exact (GraphEdge.mk.inj heq).1
    · exact (GraphEdge.mk.inj heq).1
  obtain rfl := binding_id_inj hnames.namespaces hb hb' hid
  exact hsystem

/-- The lens shows every binding that is not named as a system one, and nothing else,
exactly if each of them has no subject at all or one that is not built in. -/
theorem accessGraph_complete_iff (c : Cluster) (g : Graph) (hnames : AdmittedBindings c)
    (h : accessGraph c = .ok g) :
    AccessComplete c g ↔ ∀ b ∈ allBindings c, ¬IsSystemName b.name →
      b.subjects = [] ∨ ∃ sub ∈ b.subjects, ¬IsSystemSubject sub := by
  constructor
  · intro hcomplete b hb hname
    have hgrants : ⟨b.id, b.roleID, "grants"⟩ ∈ edgesFrom g b.id "grants" := by
      rw [hcomplete.grants b hb hname]
      exact List.mem_singleton_self _
    exact (Binding.not_system_iff.mp
      (shown_of_grants hnames h hb (mem_edgesFrom.mp hgrants).1)).2
  · intro hsubjects
    have hsystem : ∀ b ∈ allBindings c, (¬b.System ↔ ¬IsSystemName b.name) := fun b hb =>
      ⟨fun hshown => (Binding.not_system_iff.mp hshown).1,
        fun hname => Binding.not_system_iff.mpr ⟨hname, hsubjects b hb hname⟩⟩
    have hlawful := accessGraph_lawful c g hnames h
    refine ⟨fun b hb hname => hlawful.binds b hb ((hsystem b hb).mpr hname),
      fun b hb hname => hlawful.grants b hb ((hsystem b hb).mpr hname), fun e he => ?_,
      fun id => (hlawful.nodes id).trans (exists_congr fun b => and_congr_right fun hb =>
        and_congr_left' (hsystem b hb))⟩
    obtain ⟨b, hb, hshown, hedge⟩ := hlawful.edges e he
    exact ⟨b, hb, (hsystem b hb).mp hshown, hedge⟩

def grantedCluster : Cluster where
  clusterRoleBindings := (KeyedList.empty.add
    { name := "devs-view", subjects := [⟨"Group", "devs", ""⟩, ⟨"Group", "devs", ""⟩]
      roleRef := ⟨"ClusterRole", "view"⟩ }).add
    { name := "system:basic-user", subjects := [⟨"Group", "system:authenticated", ""⟩]
      roleRef := ⟨"ClusterRole", "system:basic-user"⟩ }
  roleBindings := KeyedList.empty.add
    { name := "deploy", ns := "shop", subjects := [⟨"ServiceAccount", "ci", ""⟩]
      roleRef := ⟨"Role", "deployer"⟩ }

theorem accessGraph_complete_granted :
    ∃ g, accessGraph grantedCluster = .ok g ∧ AccessComplete grantedCluster g ∧
      ⟨"ClusterRoleBinding//devs-view", "Group//devs", "binds"⟩ ∈ g.edges.items ∧
      "ClusterRoleBinding//system:basic-user" ∉ g.ids :=
  ⟨_, rfl, (accessGraph_complete_iff grantedCluster _ ⟨by decide, by decide, by decide⟩ rfl).mpr
    (by decide), by decide, by decide⟩

def openCluster : Cluster where
  clusterRoleBindings := KeyedList.empty.add
    { name := "open", subjects := [⟨"Group", "system:authenticated", ""⟩]
      roleRef := ⟨"ClusterRole", "cluster-admin"⟩ }

/-- The binding is hidden for its only subject: all who are logged in. -/
theorem openBinding_hidden :
    ∃ g, accessGraph openCluster = .ok g ∧ ∃ b ∈ allBindings openCluster,
      ¬IsSystemName b.name ∧ b.id ∉ g.ids :=
  ⟨_, rfl, _, List.mem_singleton_self _, by decide, by decide⟩

end Wiremap.Topology
