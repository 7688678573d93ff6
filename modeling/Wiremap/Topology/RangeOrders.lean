import Wiremap.Library.Batches
import Wiremap.Topology.NamespaceNodes

/-! What the order of a range over a map can change of the namespace level.  The
nodes are drawn in batches: the claims that carry one prefix, the storage behind the
claims in use and the accounts each come in any order. -/
namespace Wiremap.Topology

open Wiremap.Kube Wiremap.Library
open Wiremap.Library.KeyedList (Reorderable Uniform freshKeys)

variable {c : Cluster} {order : RangeOrder} {ns : String} {owners : NamespaceOwners}
variable {g g' : Graph}

/-! ### The schedule -/

def drawn (nodes : List GraphNode) : List GraphNode := nodes.map GraphNode.grouped

theorem drawn_nil : drawn [] = [] := rfl

theorem drawn_cons (node : GraphNode) (nodes : List GraphNode) :
    drawn (node :: nodes) = node.grouped :: drawn nodes := rfl

@[simp] theorem drawn_append (nodes nodes' : List GraphNode) :
    drawn (nodes ++ nodes') = drawn nodes ++ drawn nodes' := List.map_append

theorem flatten_map_drawn {α : Type} (f : α → List GraphNode) (l : List α) :
    (l.map fun a => drawn (f a)).flatten = drawn (l.flatMap f) := by
  rw [← List.flatMap_def, drawn, List.map_flatMap]
  rfl

/-- The claims that carry a prefix of the owner, each by itself. -/
def claimBatch (order : RangeOrder) (ns : String) (pvcs : StringMap PersistentVolumeClaim)
    (o : PodTemplateOwner) (pre : String) : List (List GraphNode) :=
  ((order.claims o.node.id pre pvcs.keys).filter fun name => Text.hasPrefix name pre).map
    fun name => drawn [specRefNode ns pvcs ⟨"PersistentVolumeClaim", name⟩]

def ownerSchedule (order : RangeOrder) (ns : String) (pvcs : StringMap PersistentVolumeClaim)
    (o : PodTemplateOwner) : List (List (List GraphNode)) :=
  [[drawn ((podSpecRefs o.spec).map (specRefNode ns pvcs))]] ++
    o.claimPrefixes.flatMap fun pre => [claimBatch order ns pvcs o pre]

def volumeBatch (c : Cluster) (order : RangeOrder) (ns : String) (owners : NamespaceOwners) :
    List (List GraphNode) :=
  (order.volumes (usedClaims order (claimsOf c ns) owners).keys).map fun name =>
    drawn (volumeNodes (volumesOf c) (claimsOf c ns) name)

def accountBatch (order : RangeOrder) (ns : String) (owners : NamespaceOwners) :
    List (List GraphNode) :=
  ((order.accounts (accountUsers owners).keys).filter fun name => name ≠ defaultServiceAccount).map
    fun name => drawn [accountNodeOf ns (accountUsers owners) name]

def boundNodes (c : Cluster) (ns : String) (owners : NamespaceOwners) : List GraphNode :=
  if (accountUsers owners).entries.length = 0 then []
  else
    (answered (bindingsFor c ns (accountUsers owners))).flatMap
      (bindingNodes ns (accountUsers owners) (roleRules c ns))

/-- What the level draws, batch by batch. -/
def schedule (c : Cluster) (ns : String) (owners : NamespaceOwners) (order : RangeOrder) :
    List (List (List GraphNode)) :=
  [[drawn (owners.owners.map (·.node) ++ (serviceNodes c ns ++ (ingressNodes c ns ++
      gatewayNodes c ns)))]] ++
    (owners.owners.flatMap (ownerSchedule order ns (claimsOf c ns)) ++
      ([volumeBatch c order ns owners] ++
        ([[drawn (autoscalerNodes c ns ++ (disruptionBudgetNodes c ns ++
            networkPolicyNodes c ns owners))]] ++
          ([accountBatch order ns owners] ++ [[drawn (boundNodes c ns owners ++ quotaNodes c ns)]]))))

theorem ownerSchedule_flatten (pvcs : StringMap PersistentVolumeClaim) (o : PodTemplateOwner) :
    (ownerSchedule order ns pvcs o).flatten.flatten =
      drawn ((ownerRefs order pvcs o).map (specRefNode ns pvcs)) := by
  have hbatch : ∀ pre, (claimBatch order ns pvcs o pre).flatten =
      drawn ((((order.claims o.node.id pre pvcs.keys).filter fun name => Text.hasPrefix name pre).map
        fun name => (⟨"PersistentVolumeClaim", name⟩ : SpecRef)).map (specRefNode ns pvcs)) := by
    intro pre
    rw [claimBatch, flatten_map_drawn, ← List.map_eq_flatMap, List.map_map]
    rfl
  have hprefixes : ∀ prefixes : List String,
      (prefixes.flatMap fun pre => [claimBatch order ns pvcs o pre]).flatten.flatten =
        drawn ((prefixes.flatMap fun pre =>
          ((order.claims o.node.id pre pvcs.keys).filter fun name => Text.hasPrefix name pre).map
            fun name => (⟨"PersistentVolumeClaim", name⟩ : SpecRef)).map (specRefNode ns pvcs)) := by
    intro prefixes
    induction prefixes with
    | nil => rfl
    | cons pre prefixes ih =>
        rw [List.flatMap_cons, List.flatten_append, List.flatten_append, ih, List.flatMap_cons,
          List.map_append, drawn_append, List.flatten_singleton, hbatch]
  rw [ownerSchedule, List.flatten_append, List.flatten_append, hprefixes, ownerRefs,
    List.map_append, drawn_append, List.flatten_singleton, List.flatten_singleton]

theorem schedule_flatten (c : Cluster) (ns : String) (owners : NamespaceOwners)
    (order : RangeOrder) : (schedule c ns owners order).flatten.flatten =
      drawn (owners.owners.map (·.node) ++ sharedNodes c order ns owners) := by
  have howners : ∀ os : List PodTemplateOwner,
      (os.flatMap (ownerSchedule order ns (claimsOf c ns))).flatten.flatten =
        drawn ((os.flatMap (ownerRefs order (claimsOf c ns))).map (specRefNode ns (claimsOf c ns))) := by
    intro os
    induction os with
    | nil => rfl
    | cons o os ih =>
        rw [List.flatMap_cons, List.flatten_append, List.flatten_append, ih, ownerSchedule_flatten,
          List.flatMap_cons, List.map_append, drawn_append]
  have haccounts : drawn (serviceAccountNodes c order ns owners) =
      (accountBatch order ns owners).flatten ++ drawn (boundNodes c ns owners) := by
    rw [accountBatch, flatten_map_drawn, ← drawn_append, ← List.map_eq_flatMap]
    unfold serviceAccountNodes boundNodes
    dsimp only
    split
    · rename_i hnone
      have hkeys : (accountUsers owners).keys = [] := by
        rw [AList.keys, List.keys, List.map_eq_nil_iff]
        exact List.length_eq_zero_iff.mp hnone
      have haccounts : order.accounts [] = [] := (order.accounts_perm []).eq_nil
      rw [hkeys, haccounts]
      rfl
    · rfl
  simp only [schedule, List.flatten_append, List.flatten_singleton, howners, sharedNodes,
    drawn_append, configNodes, haccounts, volumeBatch, flatten_map_drawn, List.append_assoc]

/-! ### Any order -/

def toFront (name : String) (l : List String) : List String :=
  if name ∈ l then name :: l.erase name else l

theorem toFront_perm (name : String) (l : List String) : (toFront name l).Perm l := by
  unfold toFront
  split
  · exact (List.perm_cons_erase ‹_›).symm
  · exact .refl l

/-- The order that begins every range with a name where it can. -/
def RangeOrder.front (name : String) : RangeOrder where
  claims _ _ := toFront name
  volumes := toFront name
  accounts := toFront name
  claims_perm _ _ := toFront_perm name
  volumes_perm := toFront_perm name
  accounts_perm := toFront_perm name

theorem map_filter_toFront {β : Type} (f : String → β) {p : String → Bool} {name : String}
    {l : List String} (hname : name ∈ l) (hp : p name = true) :
    ∃ rest, ((toFront name l).filter p).map f = f name :: rest := by
  rw [toFront, if_pos hname, List.filter_cons_of_pos hp, List.map_cons]
  exact ⟨_, rfl⟩

theorem uniform_nodes {node : String → GraphNode} (hid : ∀ a b, (node a).id = (node b).id → a = b)
    (names : List String) : Uniform GraphNode.id (names.map fun name => drawn [node name]) := by
  have hsingles : (names.map fun name => drawn [node name]) =
      (names.map fun name => (node name).grouped).map fun n => [n] := by
    rw [List.map_map]
    rfl
  rw [hsingles]
  refine .singles fun a ha b hb hsame => ?_
  obtain ⟨name, -, rfl⟩ := List.mem_map.mp ha
  obtain ⟨name', -, rfl⟩ := List.mem_map.mp hb
  rw [GraphNode.grouped_id, GraphNode.grouped_id] at hsame
  rw [hid _ _ hsame]

theorem reorderable_claimBatch (ns : String) (pvcs : StringMap PersistentVolumeClaim)
    (o : PodTemplateOwner) (pre : String) :
    Reorderable GraphNode.id fun order => [claimBatch order ns pvcs o pre] := by
  refine .batch (fun order order' => ?_) (fun order => ?_) fun order x hx => ?_
  · have hperm := (order.claims_perm o.node.id pre pvcs.keys).trans
      (order'.claims_perm o.node.id pre pvcs.keys).symm
    exact (hperm.filter _).map _
  · refine uniform_nodes (fun a b hsame => ?_) _
    exact kubeNodeID_inj hsame
  · obtain ⟨name, hname, rfl⟩ := List.mem_map.mp hx
    obtain ⟨hlisted, hprefix⟩ := List.mem_filter.mp hname
    refine ⟨.front name, map_filter_toFront _ ?_ hprefix⟩
    exact (order.claims_perm o.node.id pre pvcs.keys).mem_iff.mp hlisted

theorem reorderable_ownerSchedule (ns : String) (pvcs : StringMap PersistentVolumeClaim)
    (o : PodTemplateOwner) :
    Reorderable GraphNode.id fun order => ownerSchedule order ns pvcs o := by
  exact .append (.block _) (.flatMap fun pre _ => reorderable_claimBatch ns pvcs o pre)

/-! ### Storage -/

/-- Behind a claim is a volume of the cluster, with its class, or a class alone. -/
theorem volumeNodes_cases (c : Cluster) (ns name : String) :
    (∃ className, volumeNodes (volumesOf c) (claimsOf c ns) name = classNodes className) ∨
      ∃ pv, (volumesOf c).lookup pv.name = some pv ∧
        volumeNodes (volumesOf c) (claimsOf c ns) name =
          persistentVolumeNode pv :: classNodes pv.storageClassName := by
  unfold volumeNodes
  split
  · exact .inl ⟨"", rfl⟩
  · split
    · rename_i pv hpv
      have hname : pv.name = _ :=
        StringMap.key_of_lookup_foldl_insert (fun pv : PersistentVolume => pv.name) _ hpv
      exact .inr ⟨pv, hname ▸ hpv, rfl⟩
    · exact .inl ⟨_, rfl⟩

def volumeKey (pv : PersistentVolume) : String := kubeNodeID "PersistentVolume" "" pv.name

def classKey (className : String) : String := kubeNodeID "StorageClass" "" className

theorem volumeKey_ne_classKey (pv : PersistentVolume) (className : String) :
    volumeKey pv ≠ classKey className := by
  intro h
  exact absurd (kubeNodeID_kind (by decide) (by decide) h).1 (by decide)

theorem freshKeys_classNodes (taken : List String) (className : String) :
    freshKeys GraphNode.id taken (drawn (classNodes className)) = [] ∨
      freshKeys GraphNode.id taken (drawn (classNodes className)) = [classKey className] := by
  unfold classNodes
  split
  · rw [drawn_cons, drawn_nil, KeyedList.freshKeys_cons, KeyedList.freshKeys_nil,
      GraphNode.grouped_id]
    split
    · exact .inl rfl
    · exact .inr rfl
  · exact .inl rfl

theorem freshKeys_volumeNodes (c : Cluster) (ns : String) (taken : List String) (name : String) :
    freshKeys GraphNode.id taken (drawn (volumeNodes (volumesOf c) (claimsOf c ns) name)) = [] ∨
      (∃ className, freshKeys GraphNode.id taken
        (drawn (volumeNodes (volumesOf c) (claimsOf c ns) name)) = [classKey className]) ∨
      ∃ pv, (volumesOf c).lookup pv.name = some pv ∧
        freshKeys GraphNode.id taken (drawn (volumeNodes (volumesOf c) (claimsOf c ns) name)) =
          volumeKey pv :: freshKeys GraphNode.id taken (drawn (classNodes pv.storageClassName)) := by
  obtain ⟨className, hnodes⟩ | ⟨pv, hpv, hnodes⟩ := volumeNodes_cases c ns name
  · rw [hnodes]
    exact (freshKeys_classNodes taken className).imp_right fun h => .inl ⟨className, h⟩
  · rw [hnodes, drawn_cons, KeyedList.freshKeys_cons, GraphNode.grouped_id]
    split
    · exact (freshKeys_classNodes taken pv.storageClassName).imp_right fun h => .inl ⟨_, h⟩
    · exact .inr (.inr ⟨pv, hpv, rfl⟩)

theorem volumeNodes_entry (c : Cluster) (ns name name' : String) :
    ∀ a ∈ drawn (volumeNodes (volumesOf c) (claimsOf c ns) name),
      ∀ b ∈ drawn (volumeNodes (volumesOf c) (claimsOf c ns) name'), a.id = b.id → a = b := by
  have hcases : ∀ name, ∀ a ∈ drawn (volumeNodes (volumesOf c) (claimsOf c ns) name),
      (∃ className, a = (usedClassNode className).grouped) ∨
        ∃ pv, (volumesOf c).lookup pv.name = some pv ∧ a = (persistentVolumeNode pv).grouped := by
    intro name a ha
    obtain ⟨n, hn, rfl⟩ := List.mem_map.mp ha
    have hclass : ∀ className, n ∈ classNodes className →
        ∃ className, n.grouped = (usedClassNode className).grouped := by
      intro className hmem
      unfold classNodes at hmem
      split at hmem
      · exact ⟨className, by rw [List.mem_singleton.mp hmem]⟩
      · cases hmem
    obtain ⟨className, hnodes⟩ | ⟨pv, hpv, hnodes⟩ := volumeNodes_cases c ns name
    · exact .inl (hclass className (hnodes ▸ hn))
    · rcases List.mem_cons.mp (hnodes ▸ hn) with rfl | hmem
      · exact .inr ⟨pv, hpv, rfl⟩
      · exact .inl (hclass _ hmem)
  intro a ha b hb hsame
  obtain ⟨className, rfl⟩ | ⟨pv, hpv, rfl⟩ := hcases name a ha
  · obtain ⟨className', rfl⟩ | ⟨pv', hpv', rfl⟩ := hcases name' b hb
    · rw [GraphNode.grouped_id, GraphNode.grouped_id] at hsame
      rw [kubeNodeID_inj hsame]
    · rw [GraphNode.grouped_id, GraphNode.grouped_id] at hsame
      exact absurd hsame.symm (volumeKey_ne_classKey pv' className)
  · obtain ⟨className', rfl⟩ | ⟨pv', hpv', rfl⟩ := hcases name' b hb
    · rw [GraphNode.grouped_id, GraphNode.grouped_id] at hsame
      exact absurd hsame (volumeKey_ne_classKey pv className')
    · rw [GraphNode.grouped_id, GraphNode.grouped_id] at hsame
      have hname : pv.name = pv'.name := kubeNodeID_inj hsame
      rw [hname, hpv'] at hpv
      rw [Option.some.inj hpv]

theorem uniform_volumes (c : Cluster) (ns : String) (names : List String) :
    Uniform GraphNode.id
      (names.map fun name => drawn (volumeNodes (volumesOf c) (claimsOf c ns) name)) where
  entry x hx y hy := by
    obtain ⟨name, -, rfl⟩ := List.mem_map.mp hx
    obtain ⟨name', -, rfl⟩ := List.mem_map.mp hy
    exact .inr (volumeNodes_entry c ns name name')
  first taken x hx y hy hfresh hhead := by
    obtain ⟨name, -, rfl⟩ := List.mem_map.mp hx
    obtain ⟨name', -, rfl⟩ := List.mem_map.mp hy
    obtain hnone | ⟨className, hclass⟩ | ⟨pv, hpv, hvolume⟩ := freshKeys_volumeNodes c ns taken name
    · exact absurd hnone hfresh
    · rw [hclass] at hhead ⊢
      obtain hnone | ⟨className', hclass'⟩ | ⟨pv', -, hvolume'⟩ :=
        freshKeys_volumeNodes c ns taken name'
      · rw [hnone] at hhead
        cases hhead
      · rw [hclass'] at hhead ⊢
        rw [Option.some.inj hhead]
      · rw [hvolume'] at hhead
        exact absurd (Option.some.inj hhead).symm (volumeKey_ne_classKey pv' className)
    · rw [hvolume] at hhead ⊢
      obtain hnone | ⟨className', hclass'⟩ | ⟨pv', hpv', hvolume'⟩ :=
        freshKeys_volumeNodes c ns taken name'
      · rw [hnone] at hhead
        cases hhead
      · rw [hclass'] at hhead
        exact absurd (Option.some.inj hhead) (volumeKey_ne_classKey pv className')
      · rw [hvolume'] at hhead ⊢
        have hname : pv.name = pv'.name := kubeNodeID_inj (Option.some.inj hhead)
        rw [hname, hpv'] at hpv
        rw [Option.some.inj hpv]

theorem ownerRefs_perm (order order' : RangeOrder) (pvcs : StringMap PersistentVolumeClaim)
    (o : PodTemplateOwner) : (ownerRefs order pvcs o).Perm (ownerRefs order' pvcs o) := by
  refine .append (.refl _) (List.Perm.flatMap_left _ fun pre _ => ?_)
  have hperm := (order.claims_perm o.node.id pre pvcs.keys).trans
    (order'.claims_perm o.node.id pre pvcs.keys).symm
  exact (hperm.filter _).map _

theorem usedClaims_perm (order order' : RangeOrder) (pvcs : StringMap PersistentVolumeClaim)
    (owners : NamespaceOwners) :
    (usedClaims order pvcs owners).keys.Perm (usedClaims order' pvcs owners).keys := by
  refine (List.perm_ext_iff_of_nodup (AList.keys_nodup _) (AList.keys_nodup _)).mpr fun name => ?_
  have hused : ∀ order, name ∈ (usedClaims order pvcs owners).keys ↔
      ∃ o ∈ owners.owners, ⟨"PersistentVolumeClaim", name⟩ ∈ ownerRefs order pvcs o := fun order =>
    mem_usedClaims
  rw [hused, hused]
  exact exists_congr fun o => and_congr_right fun _ => (ownerRefs_perm order order' pvcs o).mem_iff

theorem reorderable_volumeBatch (c : Cluster) (ns : String) (owners : NamespaceOwners) :
    Reorderable GraphNode.id fun order => [volumeBatch c order ns owners] := by
  refine .batch (fun order order' => ?_) (fun order => uniform_volumes c ns _) fun order x hx => ?_
  · exact (((order.volumes_perm _).trans (usedClaims_perm order order' _ owners)).trans
      (order'.volumes_perm _).symm).map _
  · obtain ⟨name, hname, rfl⟩ := List.mem_map.mp hx
    have hused := (order.volumes_perm _).mem_iff.mp hname
    have hfront := (usedClaims_perm order (.front name) (claimsOf c ns) owners).mem_iff.mp hused
    obtain ⟨rest, hrest⟩ := map_filter_toFront
      (fun name => drawn (volumeNodes (volumesOf c) (claimsOf c ns) name)) (p := fun _ => true)
      hfront rfl
    rw [List.filter_true] at hrest
    exact ⟨.front name, rest, hrest⟩

theorem reorderable_accountBatch (ns : String) (owners : NamespaceOwners) :
    Reorderable GraphNode.id fun order => [accountBatch order ns owners] := by
  refine .batch (fun order order' => ?_) (fun order => ?_) fun order x hx => ?_
  · exact (((order.accounts_perm _).trans (order'.accounts_perm _).symm).filter _).map _
  · refine uniform_nodes (fun a b hsame => ?_) _
    exact kubeNodeID_inj hsame
  · obtain ⟨name, hname, rfl⟩ := List.mem_map.mp hx
    obtain ⟨hlisted, hnamed⟩ := List.mem_filter.mp hname
    refine ⟨.front name, map_filter_toFront _ ?_ hnamed⟩
    exact (order.accounts_perm _).mem_iff.mp hlisted

theorem reorderable_schedule (c : Cluster) (ns : String) (owners : NamespaceOwners) :
    Reorderable GraphNode.id (schedule c ns owners) :=
  .append (.block _) (.append (.flatMap fun o _ => reorderable_ownerSchedule ns _ o)
    (.append (reorderable_volumeBatch c ns owners) (.append (.block _)
      (.append (reorderable_accountBatch ns owners) (.block _)))))

end Wiremap.Topology
