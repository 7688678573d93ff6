import Wiremap.Topology.ObjectNodes

/-! The nodes the cluster and node levels draw, read off the cluster. -/
namespace Wiremap.Topology

open Wiremap.Kube Wiremap.Library
open Wiremap.Topology.Graph (Adds)

variable {c : Cluster} {g g' : Graph}

/-! ### Storage -/

/-- A claim, and its class unless it is bound to a volume that is drawn. -/
def lensClaimNodes (volumes : List PersistentVolume) (pvc : PersistentVolumeClaim) :
    List GraphNode :=
  lensClaimNode pvc ::
    if pvc.volumeName ≠ "" ∧ ∃ pv ∈ volumes, pv.name = pvc.volumeName then []
    else classNodes (pvc.storageClassName.getD "")

def storageNodes (c : Cluster) : List GraphNode :=
  let volumes := answered (c.listAll "PersistentVolume" c.persistentVolumes)
  (answered (c.listAll "StorageClass" c.storageClasses)).map storageClassNode ++
    (volumes.flatMap fun pv => persistentVolumeNode pv :: classNodes pv.storageClassName) ++
    (answered (c.list "PersistentVolumeClaim" "" c.persistentVolumeClaims)).flatMap
      (lensClaimNodes volumes)

def DrawsVolumes (volumes : List PersistentVolume) (g : Graph) : Prop :=
  ∀ name, kubeNodeID "PersistentVolume" "" name ∈ g.ids ↔ ∃ pv ∈ volumes, pv.name = name

theorem DrawsVolumes.adds {volumes : List PersistentVolume} {nodes : List GraphNode}
    (h : DrawsVolumes volumes g) (hadds : Adds nodes g g')
    (hother : ∀ n ∈ nodes, ∀ name, n.id ≠ kubeNodeID "PersistentVolume" "" name) :
    DrawsVolumes volumes g' := by
  intro name
  rw [hadds.mem_ids, h name]
  constructor
  · rintro (hdrawn | ⟨n, hn, hid⟩)
    · exact hdrawn
    · exact absurd hid (hother n hn name)
  · exact Or.inl

theorem classNodes_id {className : String} {n : GraphNode} (h : n ∈ classNodes className) :
    n.id = kubeNodeID "StorageClass" "" className := by
  unfold classNodes at h
  split at h
  · rw [List.mem_singleton.mp h]
    rfl
  · cases h

theorem lensClaimNodes_id {volumes : List PersistentVolume} {pvc : PersistentVolumeClaim}
    {n : GraphNode} (h : n ∈ lensClaimNodes volumes pvc) (name : String) :
    n.id ≠ kubeNodeID "PersistentVolume" "" name := by
  intro heq
  rcases List.mem_cons.mp h with rfl | hclass
  · exact absurd (kubeNodeID_kind (by decide) (by decide) heq).1 (by decide)
  · split at hclass
    · cases hclass
    · rw [classNodes_id hclass] at heq
      exact absurd (kubeNodeID_kind (by decide) (by decide) heq).1 (by decide)

theorem adds_addLensVolume (g : Graph) (pv : PersistentVolume) :
    Adds (persistentVolumeNode pv :: classNodes pv.storageClassName) g (addLensVolume g pv) := by
  unfold addLensVolume classNodes
  simp only
  split
  · exact (Adds.addNode (persistentVolumeNode pv)).trans (adds_useStorageClass _ _ _)
  · exact .addNode _

theorem adds_addLensClaim {volumes : List PersistentVolume} (pvc : PersistentVolumeClaim)
    (h : DrawsVolumes volumes g) : Adds (lensClaimNodes volumes pvc) g (addLensClaim g pvc) := by
  have hclaim : Adds [lensClaimNode pvc] g (g.addNode (lensClaimNode pvc)) := .addNode _
  have hdrawn : (g.addNode (lensClaimNode pvc)).hasNode
      (kubeNodeID "PersistentVolume" "" pvc.volumeName) ↔
        ∃ pv ∈ volumes, pv.name = pvc.volumeName := by
    rw [Graph.hasNode_iff]
    refine h.adds hclaim (fun n hn name heq => ?_) pvc.volumeName
    rw [List.mem_singleton.mp hn] at heq
    exact absurd (kubeNodeID_kind (by decide) (by decide) heq).1 (by decide)
  unfold addLensClaim lensClaimNodes
  simp only [Bool.and_eq_true, decide_eq_true_eq, hdrawn]
  split
  · exact hclaim.link (.addEdge _ _ _)
  · exact hclaim.trans (adds_claimClass _ _ _)

theorem adds_addLensClaims {volumes : List PersistentVolume} (claims : List PersistentVolumeClaim)
    (h : DrawsVolumes volumes g) :
    Adds (claims.flatMap (lensClaimNodes volumes)) g (claims.foldl addLensClaim g) := by
  induction claims generalizing g with
  | nil => exact .refl g
  | cons pvc claims ih =>
      have hfirst := adds_addLensClaim pvc h
      exact hfirst.trans (ih (h.adds hfirst fun n hn name => lensClaimNodes_id hn name))

def lensVolumes (classes : List StorageClass) (volumes : List PersistentVolume) : Graph :=
  volumes.foldl addLensVolume
    (classes.foldl (fun g sc => g.addNode (storageClassNode sc)) (Graph.new .cluster))

theorem adds_lensVolumes (classes : List StorageClass) (volumes : List PersistentVolume) :
    Adds (classes.map storageClassNode ++
      volumes.flatMap fun pv => persistentVolumeNode pv :: classNodes pv.storageClassName)
      (.new .cluster) (lensVolumes classes volumes) :=
  (Adds.foldl_nodes (fun _ _ => .addNode _) classes _).trans
    (.foldl (fun g pv _ => adds_addLensVolume g pv) _)

theorem drawsVolumes_lensVolumes (classes : List StorageClass) (volumes : List PersistentVolume) :
    DrawsVolumes volumes (lensVolumes classes volumes) := by
  intro name
  rw [(adds_lensVolumes classes volumes).mem_ids]
  constructor
  · rintro (hnone | ⟨n, hn, hid⟩)
    · cases hnone
    · rcases List.mem_append.mp hn with hclass | hvolume
      · obtain ⟨sc, -, rfl⟩ := List.mem_map.mp hclass
        exact absurd (kubeNodeID_kind (by decide) (by decide) hid).1 (by decide)
      · obtain ⟨pv, hpv, hnode⟩ := List.mem_flatMap.mp hvolume
        rcases List.mem_cons.mp hnode with rfl | hclass
        · exact ⟨pv, hpv, kubeNodeID_inj hid⟩
        · rw [classNodes_id hclass] at hid
          exact absurd (kubeNodeID_kind (by decide) (by decide) hid).1 (by decide)
  · rintro ⟨pv, hpv, rfl⟩
    refine Or.inr ⟨persistentVolumeNode pv, List.mem_append_right _ ?_, rfl⟩
    exact List.mem_flatMap.mpr ⟨pv, hpv, List.mem_cons_self⟩

theorem storageGraph_ok (h : storageGraph c = .ok g) :
    ∃ classes volumes claims,
      c.listAll "StorageClass" c.storageClasses = .ok classes ∧
      c.listAll "PersistentVolume" c.persistentVolumes = .ok volumes ∧
      c.list "PersistentVolumeClaim" "" c.persistentVolumeClaims = .ok claims ∧
      g = claims.foldl addLensClaim (lensVolumes classes volumes) := by
  simp only [storageGraph, Fallible.bind_eq_ok, Fallible.pure_eq_ok, orWrap_ok] at h
  obtain ⟨classes, hclasses, volumes, hvolumes, claims, hclaims, rfl⟩ := h
  exact ⟨classes, volumes, claims, hclasses, hvolumes, hclaims, rfl⟩

theorem adds_storageGraph (h : storageGraph c = .ok g) : Adds (storageNodes c) (.new .cluster) g := by
  obtain ⟨classes, volumes, claims, hclasses, hvolumes, hclaims, rfl⟩ := storageGraph_ok h
  rw [storageNodes, hclasses, hvolumes, hclaims]
  exact (adds_lensVolumes classes volumes).trans
    (adds_addLensClaims claims (drawsVolumes_lensVolumes classes volumes))

/-! ### Access -/

def accessBindingNodes (kind : String) (rules : StringMap Nat) (ns name : String)
    (subjects : List Subject) (roleRef : RoleRef) : List GraphNode :=
  if isSystemBinding name subjects then []
  else
    accessBindingNode kind ns name roleRef :: subjects.map (subjectNode ns) ++
      [roleNode roleRef ns rules]

theorem accessBindingNodes_cases {kind ns name : String} {rules : StringMap Nat}
    {subjects : List Subject} {roleRef : RoleRef} {n : GraphNode}
    (h : n ∈ accessBindingNodes kind rules ns name subjects roleRef) :
    n = accessBindingNode kind ns name roleRef ∨ (∃ sub, n = subjectNode ns sub) ∨
      n = roleNode roleRef ns rules := by
  unfold accessBindingNodes at h
  split at h
  · cases h
  · rcases List.mem_append.mp h with hbinding | hrole
    · rcases List.mem_cons.mp hbinding with rfl | hsubject
      · exact Or.inl rfl
      · obtain ⟨sub, -, rfl⟩ := List.mem_map.mp hsubject
        exact Or.inr (Or.inl ⟨sub, rfl⟩)
    · exact Or.inr (Or.inr (List.mem_singleton.mp hrole))

def accessNodes (c : Cluster) : List GraphNode :=
  let rules := roleRules c ""
  (answered (c.listAll "ClusterRoleBinding" c.clusterRoleBindings)).flatMap
      (fun b => accessBindingNodes "ClusterRoleBinding" rules "" b.name b.subjects b.roleRef) ++
    (answered (c.list "RoleBinding" "" c.roleBindings)).flatMap
      (fun b => accessBindingNodes "RoleBinding" rules b.ns b.name b.subjects b.roleRef)

theorem adds_addAccessBinding {kind ns name : String} {rules : StringMap Nat}
    {subjects : List Subject} {roleRef : RoleRef} (g : Graph) :
    Adds (accessBindingNode kind ns name roleRef :: subjects.map (subjectNode ns) ++
      [roleNode roleRef ns rules]) g (addAccessBinding kind rules g ns name subjects roleRef) := by
  have hsubjects : ∀ {id : String} (g : Graph),
      Adds (subjects.map (subjectNode ns)) g (subjects.foldl (addSubject id ns) g) := fun g =>
    .foldl_nodes (fun g sub => (Adds.addNode _).link (.addEdge _ _ _)) subjects g
  exact ((Adds.addNode _).trans (hsubjects _)).trans ((Adds.addNode _).link (.addEdge _ _ _))

theorem accessGraph_ok (h : accessGraph c = .ok g) :
    c.listAll "ClusterRoleBinding" c.clusterRoleBindings = .ok c.clusterRoleBindings.items ∧
      c.list "RoleBinding" "" c.roleBindings = .ok c.roleBindings.items ∧
      g = c.roleBindings.items.foldl (addRoleBinding (roleRules c ""))
        (c.clusterRoleBindings.items.foldl (addClusterRoleBinding (roleRules c ""))
          (.new .cluster)) := by
  simp only [accessGraph, Fallible.bind_eq_ok, Fallible.pure_eq_ok, orWrap_ok] at h
  obtain ⟨clusterBindings, hcluster, roleBindings, hroles, rfl⟩ := h
  obtain ⟨-, rfl⟩ := Cluster.answer_ok.mp hcluster
  obtain ⟨-, rfl⟩ := Cluster.list_ok.mp hroles
  rw [Cluster.within_all] at hroles ⊢
  exact ⟨hcluster, hroles, rfl⟩

theorem adds_accessGraph (h : accessGraph c = .ok g) : Adds (accessNodes c) (.new .cluster) g := by
  obtain ⟨hcluster, hroles, rfl⟩ := accessGraph_ok h
  rw [accessNodes, hcluster, hroles]
  refine (Adds.foldl (fun g b _ => ?_) _).trans (.foldl (fun g b _ => ?_) _)
  · unfold addClusterRoleBinding accessBindingNodes
    split
    · exact .refl g
    · exact adds_addAccessBinding g
  · unfold addRoleBinding accessBindingNodes
    split
    · exact .refl g
    · exact adds_addAccessBinding g

/-! ### Namespaces, nodes and what runs on one -/

theorem adds_namespacesGraph {pods : List Pod} (h : namespacesGraph c pods = .ok g) :
    ∃ namespaces workloads podCount podHealth,
      c.listAll "Namespace" c.namespaces = .ok namespaces ∧
        Adds (namespaces.map (namespaceNode workloads podCount podHealth)) (.new .cluster) g := by
  simp only [namespacesGraph, Fallible.bind_eq_ok, Fallible.pure_eq_ok, orWrap_ok] at h
  obtain ⟨namespaces, hlist, workloads, -, rfl⟩ := h
  exact ⟨namespaces, workloads, _, _, hlist, .foldl_nodes (fun g ns => .addNode _) namespaces _⟩

theorem adds_nodesGraph {pods : List Pod} (h : nodesGraph c pods = .ok g) :
    ∃ nodes podCount, c.listAll "Node" c.nodes = .ok nodes ∧
      Adds (nodes.map (machineNode podCount)) (.new .cluster) g := by
  simp only [nodesGraph, Fallible.bind_eq_ok, Fallible.pure_eq_ok, orWrap_ok] at h
  obtain ⟨nodes, hlist, rfl⟩ := h
  exact ⟨nodes, _, hlist, .foldl_nodes (fun g n => .addNode _) nodes _⟩

def hostedPod (pod : Pod) : GraphNode := podNode pod (kubeNodeID "Namespace" "" pod.ns)

def podsOn (c : Cluster) (nodeName : String) : List Pod :=
  c.pods.items.filter fun pod => pod.spec.nodeName = nodeName

theorem adds_nodeLevel {nodeName : String} (h : nodeLevel c nodeName = .ok g) :
    Adds ((podsOn c nodeName).map hostedPod) (.new .node) g := by
  simp only [nodeLevel, Fallible.bind_eq_ok, Fallible.pure_eq_ok, orWrap_ok,
    Cluster.answer_ok] at h
  obtain ⟨pods, ⟨-, rfl⟩, rfl⟩ := h
  exact .foldl_nodes (fun g pod => (Adds.addGroup _ _ _).trans (.addNode _)) _ _

end Wiremap.Topology
