import Wiremap.Topology.Attribution

/-! What `listPodOwners` says of an object drawn for its pods: it weighs as many
pods as are attributed to it and is rated as the worst of them, in whatever order
the pods are listed. -/
namespace Wiremap.Topology

open Wiremap.Kube Wiremap.Library

structure Tally (pods : List Pod) (weight : Nat) (status : Status) : Prop where
  weight : weight = pods.length
  attained : pods = [] ∧ status = .idle ∨ ∃ pod ∈ pods, (podStatus pod).1 = status
  severest : ∀ pod ∈ pods, (podStatus pod).1.severity ≤ status.severity

theorem Status.severity_inj {a b : Status} (h : a.severity = b.severity) : a = b := by
  cases a <;> cases b <;> first | rfl | cases h

theorem worstStatus_cases (a b : Status) :
    worstStatus a b = b ∧ a.severity ≤ b.severity ∨
      worstStatus a b = a ∧ b.severity ≤ a.severity := by
  unfold worstStatus
  split
  · exact .inl ⟨rfl, by omega⟩
  · exact .inr ⟨rfl, by omega⟩

namespace Tally

variable {pods pods' : List Pod} {weight weight' : Nat} {status status' : Status}

theorem none : Tally [] 0 .idle := ⟨rfl, .inl ⟨rfl, rfl⟩, by simp⟩

theorem count (pod : Pod) (h : Tally pods weight status) :
    Tally (pods ++ [pod]) (weight + 1) (worstStatus status (podStatus pod).1) where
  weight := by simp [h.weight]
  attained := by
    right
    rcases worstStatus_cases status (podStatus pod).1 with ⟨heq, -⟩ | ⟨heq, hle⟩
    · exact ⟨pod, by simp, heq.symm⟩
    · rw [heq]
      rcases h.attained with ⟨-, hidle⟩ | ⟨p, hp, hstatus⟩
      · refine ⟨pod, by simp, Status.severity_inj ?_⟩
        rw [hidle] at hle ⊢
        exact Nat.le_zero.mp hle
      · exact ⟨p, by simp [hp], hstatus⟩
  severest p hp := by
    have hboth : status.severity ≤ (worstStatus status (podStatus pod).1).severity ∧
        (podStatus pod).1.severity ≤ (worstStatus status (podStatus pod).1).severity := by
      rcases worstStatus_cases status (podStatus pod).1 with ⟨heq, hle⟩ | ⟨heq, hle⟩
      · rw [heq]
        exact ⟨hle, Nat.le_refl _⟩
      · rw [heq]
        exact ⟨Nat.le_refl _, hle⟩
    rcases List.mem_append.mp hp with hold | hself
    · exact (h.severest p hold).trans hboth.1
    · rw [List.mem_singleton.mp hself]
      exact hboth.2

theorem perm (hperm : pods.Perm pods') (h : Tally pods weight status) :
    Tally pods' weight status where
  weight := h.weight.trans hperm.length_eq
  attained := by
    rcases h.attained with ⟨rfl, hidle⟩ | ⟨pod, hpod, hstatus⟩
    · exact .inl ⟨hperm.nil_eq.symm, hidle⟩
    · exact .inr ⟨pod, hperm.mem_iff.mp hpod, hstatus⟩
  severest pod hpod := h.severest pod (hperm.mem_iff.mpr hpod)

theorem unique (h : Tally pods weight status) (h' : Tally pods weight' status') :
    weight = weight' ∧ status = status' := by
  refine ⟨h.weight.trans h'.weight.symm, Status.severity_inj (Nat.le_antisymm ?_ ?_)⟩
  · rcases h.attained with ⟨-, rfl⟩ | ⟨pod, hpod, rfl⟩
    · exact Nat.zero_le _
    · exact h'.severest pod hpod
  · rcases h'.attained with ⟨-, rfl⟩ | ⟨pod, hpod, rfl⟩
    · exact Nat.zero_le _
    · exact h.severest pod hpod

end Tally

def bareOwner (pod : Pod) : PodTemplateOwner := ⟨podNode pod "", pod.labels, pod.spec, []⟩

theorem ownerOf_bare {w : Workloads} {pod : Pod} :
    ownerOf w pod = .bare ↔ pod.ownerReferences = [] := by
  unfold ownerOf
  split
  · simp [*]
  · split <;> simp [*]

def fixedOwners (w : Workloads) (pods : List Pod) : List PodTemplateOwner :=
  w.owners ++ (pods.filter fun pod => ownerOf w pod = .bare).map bareOwner

def members (ns : String) (w : Workloads) (pods : List Pod) (id : String) : List Pod :=
  pods.filter fun pod => genericID ns w pod = some id

namespace Attribution

variable {a : Attribution} {ns : String} {w : Workloads} {pod : Pod} {pods : List Pod}

/-- The position of an owner that no pod counts to. -/
def Plain (a : Attribution) (position : Nat) : Prop := ∀ id, a.generic.lookup id ≠ some position

/-- Each object drawn for its pods is where the map says, and rated by the pods so
far; the other owners are the workloads and the bare pods. -/
structure Tallied (ns : String) (w : Workloads) (pods : List Pod) (a : Attribution) : Prop where
  rated : ∀ id position, a.generic.lookup id = some position →
    ∃ o, a.owners[position]? = some o ∧ o.node.id = id ∧
      Tally (members ns w pods id) o.node.weight o.node.status
  plain : ∀ o, (∃ position, a.owners[position]? = some o ∧ a.Plain position) ↔
    o ∈ fixedOwners w pods

theorem lt_of_rated (h : a.Tallied ns w pods) {id : String} {position : Nat}
    (hknown : a.generic.lookup id = some position) : position < a.owners.length := by
  obtain ⟨o, ho, -⟩ := h.rated id position hknown
  exact (List.getElem?_eq_some_iff.mp ho).1

theorem id_unique (h : a.Tallied ns w pods) {id id' : String} {position : Nat}
    (hid : a.generic.lookup id = some position) (hid' : a.generic.lookup id' = some position) :
    id = id' := by
  obtain ⟨o, ho, rfl, -⟩ := h.rated id position hid
  obtain ⟨o', ho', rfl, -⟩ := h.rated id' position hid'
  rw [Option.some.inj (ho.symm.trans ho')]

theorem members_append (id : String) :
    members ns w (pods ++ [pod]) id =
      members ns w pods id ++ if genericID ns w pod = some id then [pod] else [] := by
  unfold members
  rw [List.filter_append]
  split <;> simp [*]

theorem fixedOwners_append :
    fixedOwners w (pods ++ [pod]) =
      fixedOwners w pods ++ if ownerOf w pod = .bare then [bareOwner pod] else [] := by
  unfold fixedOwners
  rw [List.filter_append, List.map_append, List.append_assoc]
  split <;> simp [*]

theorem fixedOwners_owned (h : ownerOf w pod ≠ .bare) :
    fixedOwners w (pods ++ [pod]) = fixedOwners w pods := by
  rw [fixedOwners_append, if_neg h, List.append_nil]

theorem members_other {id : String} (h : genericID ns w pod ≠ some id) :
    members ns w (pods ++ [pod]) id = members ns w pods id := by
  rw [members_append, if_neg h, List.append_nil]

theorem tallied_bare (h : a.Tallied ns w pods) (hbare : ownerOf w pod = .bare) :
    (a.addPod ns w pod).Tallied ns w (pods ++ [pod]) := by
  have hgeneric : ∀ id, genericID ns w pod ≠ some id := by simp [genericID, hbare]
  rw [addPod_bare hbare]
  refine ⟨fun id position hknown => ?_, fun o => ?_⟩
  · obtain ⟨o, ho, hid, htally⟩ := h.rated id position hknown
    refine ⟨o, Lists.getElem?_append_singleton.mpr (.inl ho), hid, ?_⟩
    rwa [members_other (hgeneric id)]
  · rw [fixedOwners_append, if_pos hbare, List.mem_append, ← h.plain, List.mem_singleton]
    constructor
    · rintro ⟨position, ho, hplain⟩
      rcases Lists.getElem?_append_singleton.mp ho with hold | ⟨-, hnew⟩
      · exact .inl ⟨position, hold, hplain⟩
      · exact .inr hnew.symm
    · rintro (⟨position, ho, hplain⟩ | rfl)
      · exact ⟨position, Lists.getElem?_append_singleton.mpr (.inl ho), hplain⟩
      · refine ⟨a.owners.length, Lists.getElem?_append_singleton.mpr (.inr ⟨rfl, rfl⟩), ?_⟩
        intro id hknown
        exact Nat.lt_irrefl _ (lt_of_rated h hknown)

theorem tallied_workload (h : a.Tallied ns w pods) {id : String}
    (hshown : ownerOf w pod = .workload id) :
    (a.addPod ns w pod).Tallied ns w (pods ++ [pod]) := by
  have hgeneric : ∀ id, genericID ns w pod ≠ some id := by simp [genericID, hshown]
  rw [addPod_workload hshown]
  refine ⟨fun id position hknown => ?_, fun o => ?_⟩
  · rw [members_other (hgeneric id)]
    exact h.rated id position hknown
  · rw [fixedOwners_owned (by simp [hshown])]
    exact h.plain o

/-- An object that is new is listed before its first pod is counted. -/
theorem tallied_list (h : a.Tallied ns w pods) {id : String} (hnew : a.generic.lookup id = none)
    (hnone : members ns w pods id = []) {o : PodTemplateOwner} (hid : o.node.id = id)
    (hweight : o.node.weight = 0) (hidle : o.node.status = .idle) :
    Tallied ns w pods { a with
      owners := a.owners ++ [o], generic := a.generic.insert id a.owners.length } := by
  refine ⟨fun id' position hknown => ?_, fun o' => ?_⟩
  · simp only [StringMap.lookup_insert] at hknown
    split at hknown
    · rename_i heq
      cases hknown
      refine ⟨o, Lists.getElem?_append_singleton.mpr (.inr ⟨rfl, rfl⟩), hid.trans heq.symm, ?_⟩
      rw [heq, hnone, hweight, hidle]
      exact Tally.none
    · obtain ⟨o', ho', hrest⟩ := h.rated id' position hknown
      exact ⟨o', Lists.getElem?_append_singleton.mpr (.inl ho'), hrest⟩
  · rw [← h.plain]
    constructor
    · rintro ⟨position, ho', hplain⟩
      rcases Lists.getElem?_append_singleton.mp ho' with hold | ⟨rfl, -⟩
      · refine ⟨position, hold, fun id' hknown => hplain id' ?_⟩
        have hne : id' ≠ id := by
          rintro rfl
          rw [hnew] at hknown
          cases hknown
        simpa [StringMap.lookup_insert, hne] using hknown
      · exact absurd (by simp) (hplain id)
    · rintro ⟨position, ho', hplain⟩
      refine ⟨position, Lists.getElem?_append_singleton.mpr (.inl ho'), fun id' hknown => ?_⟩
      simp only [StringMap.lookup_insert] at hknown
      split at hknown
      · cases hknown
        exact Nat.lt_irrefl _ (List.getElem?_eq_some_iff.mp ho').1
      · exact hplain id' hknown

theorem tallied_count (h : a.Tallied ns w pods) {id : String} {position : Nat}
    (hpod : genericID ns w pod = some id) (hknown : a.generic.lookup id = some position)
    (podOwner : StringMap String) :
    Tallied ns w (pods ++ [pod])
      ⟨a.owners.modify position fun o => o.countPod pod, podOwner, a.generic⟩ := by
  have hother : ∀ i, i ≠ position →
      (a.owners.modify position fun o => o.countPod pod)[i]? = a.owners[i]? := by
    intro i hne
    simp [hne.symm]
  refine ⟨fun id' position' hknown' => ?_, fun o => ?_⟩
  · obtain ⟨o, ho, rfl, htally⟩ := h.rated id' position' hknown'
    by_cases heq : o.node.id = id
    · subst heq
      obtain rfl := Option.some.inj (hknown.symm.trans hknown')
      refine ⟨o.countPod pod, by simp [ho], rfl, ?_⟩
      rw [members_append, if_pos hpod]
      exact htally.count pod
    · refine ⟨o, (hother position' ?_).trans ho, rfl, ?_⟩
      · rintro rfl
        exact heq (id_unique h hknown' hknown)
      · rwa [members_other fun hself => heq (Option.some.inj (hself.symm.trans hpod))]
  · have howned : ownerOf w pod ≠ .bare := by
      intro hbare
      simp [genericID, hbare] at hpod
    rw [fixedOwners_owned howned, ← h.plain]
    refine exists_congr fun i => and_congr_left fun hplain => ?_
    rw [hother i fun heq => hplain id (heq ▸ hknown)]

theorem tallied_addPod (h : a.Tallied ns w pods)
    (hgeneric : ∀ id, (a.generic.lookup id).isSome ↔ ∃ p ∈ pods, genericID ns w p = some id) :
    (a.addPod ns w pod).Tallied ns w (pods ++ [pod]) := by
  cases howner : ownerOf w pod with
  | bare => exact tallied_bare h howner
  | workload id => exact tallied_workload h howner
  | generic top =>
      have hpod : genericID ns w pod = some (kubeNodeID top.kind ns top.name) := by
        simp [genericID, howner]
      rw [addPod_generic howner]
      cases hknown : a.generic.lookup (kubeNodeID top.kind ns top.name) with
      | some position =>
          rw [addGeneric_known hknown]
          exact tallied_count h hpod hknown _
      | none =>
          rw [addGeneric_first hknown]
          have hnone : members ns w pods (kubeNodeID top.kind ns top.name) = [] := by
            refine List.filter_eq_nil_iff.mpr fun p hp heq => ?_
            have hsome := (hgeneric _).mpr ⟨p, hp, of_decide_eq_true heq⟩
            rw [hknown] at hsome
            cases hsome
          have hlisted := tallied_list h hknown hnone
            (o := genericOwner ns (kubeNodeID top.kind ns top.name) top pod) rfl rfl rfl
          exact tallied_count hlisted hpod (by simp) _

theorem tallied_after : (after ns w pods).Tallied ns w pods := by
  induction pods using List.reverseRecOn with
  | nil =>
      refine ⟨fun id position hknown => by simp [after] at hknown, fun o => ?_⟩
      simp [after, fixedOwners, Plain, List.mem_iff_getElem?]
  | append_singleton pods pod ih =>
      rw [after_append_singleton]
      exact tallied_addPod ih generic_after

/-- The owners listed are the workloads, the bare pods, and one for each object
that pods are drawn under. -/
theorem lists_after {id : String} {weight : Nat} {status : Status} :
    (∃ o ∈ (after ns w pods).owners,
        o.node.id = id ∧ o.node.weight = weight ∧ o.node.status = status) ↔
      (∃ o ∈ fixedOwners w pods,
        o.node.id = id ∧ o.node.weight = weight ∧ o.node.status = status) ∨
      members ns w pods id ≠ [] ∧ Tally (members ns w pods id) weight status := by
  have htallied : (after ns w pods).Tallied ns w pods := tallied_after
  have hgeneric : members ns w pods id ≠ [] ↔ ((after ns w pods).generic.lookup id).isSome := by
    simp [generic_after, members]
  constructor
  · rintro ⟨o, ho, rfl, rfl, rfl⟩
    obtain ⟨position, hposition⟩ := List.mem_iff_getElem?.mp ho
    by_cases hplain : (after ns w pods).Plain position
    · exact .inl ⟨o, (htallied.plain o).mp ⟨position, hposition, hplain⟩, rfl, rfl, rfl⟩
    · obtain ⟨id, hknown⟩ := not_forall_not.mp hplain
      obtain ⟨o', ho', rfl, htally⟩ := htallied.rated id position hknown
      obtain rfl := Option.some.inj (hposition.symm.trans ho')
      exact .inr ⟨hgeneric.mpr (by simp [hknown]), htally⟩
  · rintro (⟨o, ho, hrest⟩ | ⟨hsome, htally⟩)
    · obtain ⟨position, hposition, -⟩ := (htallied.plain o).mpr ho
      exact ⟨o, List.mem_of_getElem? hposition, hrest⟩
    · obtain ⟨position, hknown⟩ := Option.isSome_iff_exists.mp (hgeneric.mp hsome)
      obtain ⟨o, ho, hid, htally'⟩ := htallied.rated id position hknown
      obtain ⟨hweight, hstatus⟩ := htally'.unique htally
      exact ⟨o, List.mem_of_getElem? ho, hid, hweight, hstatus⟩

end Attribution

/-! ### The law of attribution -/

namespace NamespaceOwners

def assigned (owners : NamespaceOwners) (pods : List Pod) (id : String) : List Pod :=
  pods.filter fun pod => owners.podOwner.lookup pod.name = some id

/-- The ID is that of no workload and of no bare pod. -/
structure Custom (w : Workloads) (pods : List Pod) (id : String) : Prop where
  workload : id ∉ ownerIDs w.owners
  bare : ∀ pod ∈ pods, pod.ownerReferences = [] → (podNode pod "").id ≠ id

/-- Every pod belongs to an owner that is listed, and the owners that owner references
lead to are weighed and rated by their pods. -/
structure Attributes (owners : NamespaceOwners) (w : Workloads) (pods : List Pod) : Prop where
  total : ∀ pod ∈ pods, ∃ id, owners.podOwner.lookup pod.name = some id ∧
    id ∈ ownerIDs owners.owners
  weight : ∀ o ∈ owners.owners, Custom w pods o.node.id →
    o.node.weight = (owners.assigned pods o.node.id).length
  status : ∀ o ∈ owners.owners, Custom w pods o.node.id →
    (∃ pod ∈ owners.assigned pods o.node.id, (podStatus pod).1 = o.node.status) ∧
      ∀ pod ∈ owners.assigned pods o.node.id, (podStatus pod).1.severity ≤ o.node.status.severity

structure Alike (owners owners' : NamespaceOwners) : Prop where
  podOwner : ∀ name, owners.podOwner.lookup name = owners'.podOwner.lookup name
  rating : ∀ id weight status,
    (∃ o ∈ owners.owners, o.node.id = id ∧ o.node.weight = weight ∧ o.node.status = status) ↔
      ∃ o ∈ owners'.owners, o.node.id = id ∧ o.node.weight = weight ∧ o.node.status = status

end NamespaceOwners

open NamespaceOwners

variable {c : Cluster} {ns : String} {w : Workloads} {pods pods' : List Pod}

theorem podOwnerID_custom {id : String} {pod : Pod} (hw : w.Listed) (hid : Custom w pods id)
    (hpod : pod ∈ pods) : podOwnerID ns w pod = id ↔ genericID ns w pod = some id := by
  refine ⟨fun heq => ?_, podOwnerID_of_genericID⟩
  unfold podOwnerID at heq
  cases howner : ownerOf w pod with
  | bare =>
      rw [howner] at heq
      exact absurd heq (hid.bare pod hpod (ownerOf_bare.mp howner))
  | workload shown =>
      obtain ⟨uid, hshown⟩ := shown_of_workload howner
      rw [howner] at heq
      exact absurd (heq ▸ hw.shown uid shown hshown) hid.workload
  | generic top =>
      rw [howner] at heq
      rw [genericID, howner]
      exact congrArg some heq

theorem lookup_after (hnames : (pods.map fun pod => pod.name).Nodup) {pod : Pod}
    (hpod : pod ∈ pods) :
    (Attribution.after ns w pods).podOwner.lookup pod.name = some (podOwnerID ns w pod) :=
  (Attribution.podOwner_after hnames _ _).mpr ⟨pod, hpod, rfl, rfl⟩

theorem assigned_after (hnames : (pods.map fun pod => pod.name).Nodup) (hw : w.Listed)
    {id : String} (hid : Custom w pods id) :
    assigned ⟨(Attribution.after ns w pods).owners, (Attribution.after ns w pods).podOwner⟩ pods id
      = members ns w pods id := by
  refine List.filter_congr fun pod hpod => decide_eq_decide.mpr ?_
  rw [lookup_after hnames hpod, Option.some.injEq]
  exact podOwnerID_custom hw hid hpod

theorem not_fixed {id : String} (hid : Custom w pods id) :
    ∀ o ∈ fixedOwners w pods, o.node.id ≠ id := by
  intro o ho
  rcases List.mem_append.mp ho with hold | hnew
  · rintro rfl
    exact hid.workload (mem_ownerIDs.mpr ⟨o, hold, rfl⟩)
  · obtain ⟨pod, hpod, rfl⟩ := List.mem_map.mp hnew
    obtain ⟨hmem, hbare⟩ := List.mem_filter.mp hpod
    exact hid.bare pod hmem (ownerOf_bare.mp (of_decide_eq_true hbare))

/-- An owner that owner references lead to is rated by the pods attributed to it. -/
theorem tally_after (hnames : (pods.map fun pod => pod.name).Nodup) (hw : w.Listed)
    {o : PodTemplateOwner} (ho : o ∈ (Attribution.after ns w pods).owners)
    (hid : Custom w pods o.node.id) :
    let assigned := assigned
      ⟨(Attribution.after ns w pods).owners, (Attribution.after ns w pods).podOwner⟩ pods o.node.id
    assigned ≠ [] ∧ Tally assigned o.node.weight o.node.status := by
  rw [assigned_after hnames hw hid]
  rcases Attribution.lists_after.mp ⟨o, ho, rfl, rfl, rfl⟩ with ⟨o', ho', heq, -⟩ | hmembers
  · exact absurd heq (not_fixed hid o' ho')
  · exact hmembers

theorem attributes_after (hnames : (pods.map fun pod => pod.name).Nodup) (hw : w.Listed) :
    Attributes
      ⟨(Attribution.after ns w pods).owners, (Attribution.after ns w pods).podOwner⟩ w pods where
  total pod hpod :=
    ⟨_, lookup_after hnames hpod,
      (Attribution.mem_ownerIDs_after hw _).mpr (.inr ⟨pod, hpod, rfl⟩)⟩
  weight o ho hid := (tally_after hnames hw ho hid).2.weight
  status o ho hid := by
    obtain ⟨hsome, htally⟩ := tally_after hnames hw ho hid
    exact ⟨htally.attained.resolve_left fun hnone => hsome hnone.1, htally.severest⟩

theorem alike_after (hnames : (pods.map fun pod => pod.name).Nodup) (hperm : pods.Perm pods') :
    Alike ⟨(Attribution.after ns w pods).owners, (Attribution.after ns w pods).podOwner⟩
      ⟨(Attribution.after ns w pods').owners, (Attribution.after ns w pods').podOwner⟩ where
  podOwner name := by
    refine Option.ext fun id => ?_
    rw [Attribution.podOwner_after hnames,
      Attribution.podOwner_after ((hperm.map _).nodup_iff.mp hnames)]
    simp only [hperm.mem_iff]
  rating id weight status := by
    have hmembers : (members ns w pods id).Perm (members ns w pods' id) := hperm.filter _
    have hfixed : (fixedOwners w pods).Perm (fixedOwners w pods') :=
      ((hperm.filter _).map _).append_left _
    rw [Attribution.lists_after, Attribution.lists_after]
    refine or_congr ?_ (and_congr (not_congr ?_) ⟨.perm hmembers, .perm hmembers.symm⟩)
    · simp only [hfixed.mem_iff]
    · exact ⟨fun h => (h ▸ hmembers).nil_eq.symm, fun h => (h ▸ hmembers).eq_nil⟩

theorem listPodOwners_lawful {owners : NamespaceOwners} (hns : ns ≠ "")
    (h : listPodOwners c ns = .ok owners) :
    (∃ w, listWorkloads c ns = .ok w ∧ owners.Attributes w (Cluster.within ns c.pods)) ∧
      ∀ pods : Store Pod, pods.items.Perm c.pods.items →
        ∃ owners', listPodOwners { c with pods := pods } ns = .ok owners' ∧
          owners.Alike owners' := by
  obtain ⟨w, listed, hw, hlist, rfl⟩ := listPodOwners_ok h
  have hnames := Cluster.list_names_nodup hlist hns
  obtain ⟨hserved, rfl⟩ := Cluster.list_ok.mp hlist
  refine ⟨⟨w, hw, attributes_after hnames (listed_listWorkloads hw)⟩, fun pods hperm => ?_⟩
  refine ⟨_, ?_, alike_after hnames (hperm.symm.filter _)⟩
  have hlist' : Cluster.list { c with pods := pods } "Pod" ns pods = .ok (Cluster.within ns pods) :=
    Cluster.list_ok.mpr ⟨hserved, rfl⟩
  have hw' : listWorkloads { c with pods := pods } ns = .ok w := hw
  simp only [listPodOwners, hw', hlist', orWrap_ok.mpr rfl]
  rfl

def apiRollout : OwnerReference where
  apiVersion := "argoproj.io/v1alpha1"
  kind := "Rollout"
  name := "api"
  uid := "ro-1"
  controller := some true

def rolloutPod (name phase : String) : Pod where
  name := name
  ns := "shop"
  phase := phase
  ownerReferences := [{ kind := "ReplicaSet", name := "api-5d9", uid := "rs-1" }]

def rolloutShop : Cluster where
  replicaSets := KeyedList.empty.add
    { name := "api-5d9", ns := "shop", uid := "rs-1", ownerReferences := [apiRollout] }
  pods := ((KeyedList.empty.add (rolloutPod "api-a" "Running")).add
    { name := "debug", ns := "shop", phase := "Running" }).add (rolloutPod "api-b" "Failed")

theorem listPodOwners_lawful_rollout :
    ∃ owners, listPodOwners rolloutShop "shop" = .ok owners ∧
      (owners.owners.map fun o => (o.node.id, o.node.weight, o.node.status)) =
        [("Rollout/shop/api", 2, .error), ("Pod/shop/debug", 1, .healthy)] ∧
      (∃ w, listWorkloads rolloutShop "shop" = .ok w ∧
        owners.Attributes w (Cluster.within "shop" rolloutShop.pods)) ∧
      ∀ pods : Store Pod, pods.items.Perm rolloutShop.pods.items →
        ∃ owners', listPodOwners { rolloutShop with pods := pods } "shop" = .ok owners' ∧
          owners.Alike owners' :=
  ⟨_, rfl, by decide, listPodOwners_lawful (by decide) rfl⟩

end Wiremap.Topology
