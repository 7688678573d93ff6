import Wiremap.Topology.NamespaceGrowth

/-! Every graph the canvas is given is well formed, whatever it was asked for. -/
namespace Wiremap.Topology

open Wiremap.Kube Wiremap.Library
open Wiremap.Topology.Graph (Grows)

variable {c : Cluster} {ns : String} {kinds : List String} {g g' : Graph}

/-! ### The object level -/

theorem grows_addScheduledPod (pod : Pod) : Grows kinds g (addScheduledPod g pod) := by
  refine Grows.trans (.addGroup _ _ _) (.addNode (Or.inr ?_))
  exact KeyedList.mem_keys_add.mpr (Or.inr rfl)

theorem pod_drawn (pod : Pod) : (podNode pod "").id ∈ (addScheduledPod g pod).ids := by
  simp [addScheduledPod, podNode]

structure OwnerTree.Sound (g : Graph) (t : OwnerTree) : Prop where
  grows : Grows ["owns"] g t.graph
  parents : ∀ uid id, t.podParents.lookup uid = some id → id ∈ t.graph.ids

theorem sound_addRoot {root : GraphNode} (uid : String) (hgroup : root.group = "") :
    (addRoot g root uid).Sound g where
  grows := .addNode (Or.inl hgroup)
  parents uid' id hlookup := by
    simp only [addRoot, StringMap.lookup_insert] at hlookup
    split at hlookup
    · cases hlookup
      simp [addRoot]
    · simp at hlookup

theorem sound_collapseReplicaSets {owner ownerID : String} {t t' : OwnerTree} (h : t.Sound g)
    (howner : ownerID ∈ t.graph.ids) (hstep : collapseReplicaSets c ns owner ownerID t = .ok t') :
    t'.Sound g ∧ ownerID ∈ t'.graph.ids := by
  simp only [collapseReplicaSets, Fallible.bind_eq_ok, Fallible.pure_eq_ok] at hstep
  obtain ⟨replicaSets, -, rfl⟩ := hstep
  apply List.foldlRecOn (motive := fun t => OwnerTree.Sound g t ∧ ownerID ∈ t.graph.ids)
  · exact ⟨h, howner⟩
  · intro t ht rs _
    unfold collapseReplicaSet
    split
    · refine ⟨⟨ht.1.grows, fun uid id hlookup => ?_⟩, ht.2⟩
      rw [StringMap.lookup_insert] at hlookup
      split at hlookup
      · cases hlookup
        exact ht.2
      · exact ht.1.parents uid id hlookup
    · exact ht

theorem grows_addOwnedJob {rootID owner : String} (j : Job) (hroot : rootID ∈ g.ids) :
    Grows ["owns"] g (addOwnedJob ns rootID owner g j) := by
  unfold addOwnedJob
  split
  · exact .addNode_link rfl hroot (by simp)
  · exact .refl g

theorem sound_addDeploymentTree {name : String} {t : OwnerTree}
    (h : addDeploymentTree c ns name g = .ok t) : t.Sound g := by
  simp only [addDeploymentTree, Fallible.bind_eq_ok] at h
  obtain ⟨d, -, hcollapse⟩ := h
  refine (sound_collapseReplicaSets ⟨.addNode (Or.inl rfl), fun uid id hlookup => ?_⟩ (by simp)
    hcollapse).1
  simp at hlookup

theorem sound_addCronJobTree {name : String} {t : OwnerTree}
    (h : addCronJobTree c ns name g = .ok t) : t.Sound g := by
  simp only [addCronJobTree, Fallible.bind_eq_ok, Fallible.pure_eq_ok] at h
  obtain ⟨cj, -, jobs, -, rfl⟩ := h
  refine ⟨Grows.trans (.addNode (Or.inl rfl)) (.foldl fun g' j _ hg' => ?_), fun uid id hlookup => ?_⟩
  · exact grows_addOwnedJob j (hg'.ids (by simp))
  · simp at hlookup

theorem sound_addGenericOwner {group kind name : String} {t : OwnerTree}
    (h : addGenericOwner c ns group kind name g = .ok t) : t.Sound g := by
  simp only [addGenericOwner, Fallible.bind_eq_ok, Fallible.pure_eq_ok] at h
  obtain ⟨obj, -, collapsed, hcollapse, jobs, -, rfl⟩ := h
  obtain ⟨hsound, hroot⟩ :=
    sound_collapseReplicaSets (sound_addRoot _ rfl) (by simp [addRoot]) hcollapse
  have hjobs : Grows ["owns"] collapsed.graph (jobs.foldl
      (addOwnedJob ns (kubeNodeID kind ns name) obj.uid) collapsed.graph) :=
    .foldl fun g' j _ hg' => grows_addOwnedJob j (hg'.ids hroot)
  exact ⟨hsound.grows.trans hjobs, fun uid id hlookup => hjobs.ids (hsound.parents uid id hlookup)⟩

theorem grows_addOwnedPod {podParents : StringMap String} (pod : Pod)
    (hparents : ∀ uid id, podParents.lookup uid = some id → id ∈ g.ids) :
    Grows ["owns"] g (addOwnedPod podParents g pod) := by
  unfold addOwnedPod
  split
  · exact .refl g
  · rename_i parentID hparent
    obtain ⟨ref, -, hlookup⟩ := List.exists_of_findSome?_eq_some hparent
    have hgrow : Grows ["owns"] g (addScheduledPod g pod) := grows_addScheduledPod pod
    exact hgrow.trans (.addEdge (hgrow.ids (hparents _ _ hlookup)) (pod_drawn pod) (by simp))

theorem grows_addOwnedPods {t : OwnerTree} (ht : t.Sound g) (h : addOwnedPods c ns t = .ok g') :
    Grows ["owns"] g g' := by
  simp only [addOwnedPods, Fallible.bind_eq_ok, Fallible.pure_eq_ok] at h
  obtain ⟨pods, -, rfl⟩ := h
  refine ht.grows.trans (.foldl fun g' pod _ hg' => grows_addOwnedPod pod fun uid id hlookup => ?_)
  exact hg'.ids (ht.parents uid id hlookup)

theorem grows_addOwnerTree {group kind name : String}
    (h : addOwnerTree c ns group kind name g = .ok g') : Grows ["owns"] g g' := by
  simp only [addOwnerTree, Fallible.bind_eq_ok] at h
  obtain ⟨t, htree, hpods⟩ := h
  refine grows_addOwnedPods ?_ hpods
  unfold ownerTree at htree
  split at htree
  · exact sound_addDeploymentTree htree
  · simp only [addStatefulSetTree, Fallible.bind_eq_ok, Fallible.pure_eq_ok] at htree
    obtain ⟨st, -, rfl⟩ := htree
    exact sound_addRoot _ rfl
  · simp only [addDaemonSetTree, Fallible.bind_eq_ok, Fallible.pure_eq_ok] at htree
    obtain ⟨d, -, rfl⟩ := htree
    exact sound_addRoot _ rfl
  · simp only [addJobTree, Fallible.bind_eq_ok, Fallible.pure_eq_ok] at htree
    obtain ⟨j, -, rfl⟩ := htree
    exact sound_addRoot _ rfl
  · exact sound_addCronJobTree htree
  · exact sound_addGenericOwner htree

theorem grows_addContainer {pod : Pod} {statuses : List ContainerStatus} {init : Bool}
    (spec : Container) (hpod : (podNode pod "").id ∈ g.ids) :
    Grows ["owns"] g (addContainer ns pod statuses init g spec) := by
  unfold addContainer
  exact .addNode_link rfl hpod (by simp)

theorem grows_addPodContainers {name : String} (h : addPodContainers c ns name g = .ok g') :
    Grows ["owns"] g g' := by
  simp only [addPodContainers, Fallible.bind_eq_ok, Fallible.pure_eq_ok] at h
  obtain ⟨pod, -, rfl⟩ := h
  have hpod : (podNode pod "").id ∈ (g.addNode (podRoot pod)).ids := by simp [podRoot]
  have hinit : Grows ["owns"] (g.addNode (podRoot pod)) (pod.spec.initContainers.foldl
      (addContainer ns pod pod.initContainerStatuses true) (g.addNode (podRoot pod))) :=
    .foldl fun g' spec _ hg' => grows_addContainer spec (hg'.ids hpod)
  refine Grows.trans (.addNode (Or.inl rfl)) (hinit.trans (.foldl fun g' spec _ hg' => ?_))
  exact grows_addContainer spec (hg'.ids (hinit.ids hpod))

theorem grows_addServiceBackends {name : String} (h : addServiceBackends c ns name g = .ok g') :
    Grows ["selects"] g g' := by
  simp only [addServiceBackends, Fallible.bind_eq_ok, Fallible.pure_eq_ok] at h
  obtain ⟨svc, -, pods, -, rfl⟩ := h
  refine Grows.trans (.addNode (Or.inl rfl)) (.foldl fun g' pod _ hg' => ?_)
  have hgrow : Grows ["selects"] g' (addScheduledPod g' pod) := grows_addScheduledPod pod
  exact hgrow.trans (.addEdge (hgrow.ids (hg'.ids (by simp))) (pod_drawn pod) (by simp))

theorem grows_addIngressBackend {rootID : String} (backend : String) (hroot : rootID ∈ g.ids) :
    Grows ["routes"] g (addIngressBackend c ns rootID g backend) := by
  refine .addNode_link ?_ hroot (by simp)
  unfold backendNode
  split <;> rfl

theorem grows_addIngressBackends {name : String} (h : addIngressBackends c ns name g = .ok g') :
    Grows ["routes"] g g' := by
  simp only [addIngressBackends, Fallible.bind_eq_ok, Fallible.pure_eq_ok] at h
  obtain ⟨ing, -, rfl⟩ := h
  refine Grows.trans (.addNode (Or.inl rfl)) (.foldl fun g' backend _ hg' => ?_)
  exact grows_addIngressBackend backend (hg'.ids (by simp))

theorem grows_addClaimVolume {name : String}
    (hclaim : kubeNodeID "PersistentVolumeClaim" ns name ∈ g.ids) :
    Grows ["bound", "uses"] g (addClaimVolume c ns name g) := by
  unfold addClaimVolume
  split
  · exact .refl g
  · simp only
    split
    · exact grows_bindVolume _ hclaim
    · split
      · split
        · exact grows_useStorageClass _ hclaim
        · exact .refl g
      · exact .refl g

theorem grows_addConsumer {rootID : String} (pod : Pod) (hroot : rootID ∈ g.ids) :
    Grows ["bound", "uses"] g (addConsumer rootID g pod) := by
  have hgrow : Grows ["bound", "uses"] g (addScheduledPod g pod) := grows_addScheduledPod pod
  exact hgrow.trans (.addEdge (pod_drawn pod) (hgrow.ids hroot) (by simp))

theorem grows_addConsumers {kind name : String} (h : addConsumers c ns kind name g = .ok g') :
    Grows ["bound", "uses"] g g' := by
  simp only [addConsumers, Fallible.bind_eq_ok, Fallible.pure_eq_ok] at h
  obtain ⟨obj, -, pods, -, rfl⟩ := h
  generalize hroot : workloadRoot kind ns name (objectStatus obj) = root
  have hid : root.id = kubeNodeID kind ns name := by rw [← hroot]; rfl
  have hdrawn : Grows ["bound", "uses"] g (g.addNode root) :=
    .addNode (Or.inl (by rw [← hroot]; rfl))
  have hpods : Grows ["bound", "uses"] (g.addNode root) ((pods.filter fun pod =>
      (podSpecRefs pod.spec).contains ⟨kind, name⟩).foldl (addConsumer root.id) (g.addNode root)) :=
    .foldl fun g' pod _ hg' => grows_addConsumer pod (hg'.ids (by simp))
  split
  · rename_i hkind
    refine (hdrawn.trans hpods).trans (grows_addClaimVolume (hpods.ids ?_))
    rw [← hkind, ← hid]
    simp
  · exact hdrawn.trans hpods

theorem grown_objectLevel {group kind name : String}
    (h : objectLevel c ns group kind name = .ok g) : g.GrownAt .object := by
  unfold objectLevel at h
  split at h
  · exact (grows_addPodContainers h).grownAt
  · exact (grows_addServiceBackends h).grownAt
  · exact (grows_addIngressBackends h).grownAt
  · exact (grows_addConsumers h).grownAt
  · exact (grows_addConsumers h).grownAt
  · exact (grows_addConsumers h).grownAt
  · exact (grows_addOwnerTree h).grownAt

/-! ### The cluster and node levels -/

theorem grows_addLensVolume (pv : PersistentVolume) :
    Grows ["bound", "uses"] g (addLensVolume g pv) := by
  unfold addLensVolume
  simp only
  split
  · exact (grows_addPersistentVolume pv).trans
      (grows_useStorageClass _ (by simp [addPersistentVolume, persistentVolumeNode]))
  · exact grows_addPersistentVolume pv

theorem grows_addLensClaim (pvc : PersistentVolumeClaim) :
    Grows ["bound", "uses"] g (addLensClaim g pvc) := by
  have hclaim : (lensClaimNode pvc).id ∈ (g.addNode (lensClaimNode pvc)).ids := by simp
  have hdrawn : Grows ["bound", "uses"] g (g.addNode (lensClaimNode pvc)) := .addNode (Or.inl rfl)
  unfold addLensClaim
  simp only
  split
  · rename_i hvolume
    have hpv := (Graph.hasNode_iff _ _).mp (Bool.and_eq_true_iff.mp hvolume).2
    exact hdrawn.trans (.addEdge hclaim hpv (by simp))
  · split
    · split
      · exact hdrawn.trans (grows_useStorageClass _ hclaim)
      · exact hdrawn
    · exact hdrawn

theorem grown_storageGraph (h : storageGraph c = .ok g) : g.GrownAt .cluster := by
  simp only [storageGraph, Fallible.bind_eq_ok, Fallible.pure_eq_ok] at h
  obtain ⟨classes, -, volumes, -, claims, -, rfl⟩ := h
  have hclasses : Grows ["bound", "uses"] (Graph.new .cluster)
      (classes.foldl (fun g sc => g.addNode (storageClassNode sc)) (Graph.new .cluster)) :=
    .foldl fun _ _ _ _ => .addNode (Or.inl rfl)
  have hgrow := hclasses.trans ((Grows.foldl (l := volumes) fun _ pv _ _ => grows_addLensVolume pv).trans
    (.foldl (l := claims) fun _ pvc _ _ => grows_addLensClaim pvc))
  exact hgrow.grownAt

theorem grows_addSubject {bindingID : String} (sub : Subject) (hbinding : bindingID ∈ g.ids) :
    Grows ["binds", "grants"] g (addSubject bindingID ns g sub) := by
  unfold addSubject
  exact .addNode_link rfl hbinding (by simp)

theorem grows_addAccessBinding {kind name : String} {rules : StringMap Nat}
    {subjects : List Subject} {roleRef : RoleRef} :
    Grows ["binds", "grants"] g (addAccessBinding kind rules g ns name subjects roleRef) := by
  generalize hnode : accessBindingNode kind ns name roleRef = binding
  have hself : binding.id ∈ (g.addNode binding).ids := by simp
  have hdrawn : Grows ["binds", "grants"] g (g.addNode binding) :=
    .addNode (Or.inl (by rw [← hnode]; rfl))
  have hbound : Grows ["binds", "grants"] (g.addNode binding)
      (subjects.foldl (addSubject binding.id ns) (g.addNode binding)) :=
    .foldl fun g' sub _ hg' => grows_addSubject sub (hg'.ids hself)
  unfold addAccessBinding
  rw [hnode]
  exact hdrawn.trans (hbound.trans (.addNode_link rfl (hbound.ids hself) (by simp)))

theorem grown_accessGraph (h : accessGraph c = .ok g) : g.GrownAt .cluster := by
  simp only [accessGraph, Fallible.bind_eq_ok, Fallible.pure_eq_ok] at h
  obtain ⟨clusterBindings, -, roleBindings, -, rfl⟩ := h
  have hcluster : Grows ["binds", "grants"] (Graph.new .cluster)
      (clusterBindings.foldl (addClusterRoleBinding (roleRules c "")) (Graph.new .cluster)) := by
    refine .foldl fun g' b _ _ => ?_
    unfold addClusterRoleBinding
    split
    · exact .refl g'
    · exact grows_addAccessBinding
  refine (hcluster.trans (.foldl fun g' b _ _ => ?_)).grownAt
  unfold addRoleBinding
  split
  · exact .refl g'
  · exact grows_addAccessBinding

theorem grown_foldl_addNode (level : Level) (f : α → GraphNode) (hf : ∀ a, (f a).group = "")
    (l : List α) : (l.foldl (fun g a => g.addNode (f a)) (Graph.new level)).GrownAt level :=
  have hgrows : Grows [] (.new level) (l.foldl (fun g a => g.addNode (f a)) (Graph.new level)) :=
    .foldl fun _ a _ _ => .addNode (Or.inl (hf a))
  hgrows.grownAt

theorem grown_clusterLevel {lens : Lens} (h : clusterLevel c lens = .ok g) : g.GrownAt .cluster := by
  unfold clusterLevel at h
  cases lens with
  | storage => exact grown_storageGraph h
  | access => exact grown_accessGraph h
  | nodes =>
      simp only [nodesGraph, Fallible.bind_eq_ok, Fallible.pure_eq_ok] at h
      obtain ⟨pods, -, nodes, -, rfl⟩ := h
      exact grown_foldl_addNode _ _ (fun _ => rfl) nodes
  | namespaces =>
      simp only [namespacesGraph, Fallible.bind_eq_ok, Fallible.pure_eq_ok] at h
      obtain ⟨pods, -, namespaces, -, workloads, -, rfl⟩ := h
      exact grown_foldl_addNode _ _ (fun _ => rfl) namespaces

theorem grown_nodeLevel {nodeName : String} (h : nodeLevel c nodeName = .ok g) :
    g.GrownAt .node := by
  simp only [nodeLevel, Fallible.bind_eq_ok, Fallible.pure_eq_ok] at h
  obtain ⟨pods, -, rfl⟩ := h
  have hgrow : Grows [] (Graph.new .node) (pods.foldl addNodePod (Graph.new .node)) := by
    refine .foldl fun g' pod _ _ => Grows.trans (.addGroup _ _ _) (.addNode (Or.inr ?_))
    exact KeyedList.mem_keys_add.mpr (Or.inr rfl)
  exact hgrow.grownAt

/-! ### Every request -/

def Canvas.level : Canvas → Level
  | .cluster _ => .cluster
  | .inNamespace _ => .namespace
  | .object .. => .object
  | .node _ => .node

/-- A graph that can be laid out: nothing is repeated, and nothing refers to
what is not there. -/
structure Graph.WellFormed (g : Graph) : Prop where
  nodeIDs : (g.nodes.items.map (·.id)).Nodup
  edges : g.edges.items.Nodup
  groupIDs : (g.groups.items.map (·.id)).Nodup
  source : ∀ e ∈ g.edges.items, ∃ n ∈ g.nodes.items, n.id = e.source
  target : ∀ e ∈ g.edges.items, ∃ n ∈ g.nodes.items, n.id = e.target
  group : ∀ n ∈ g.nodes.items, n.group ≠ "" → ∃ p ∈ g.groups.items, p.id = n.group

theorem Graph.Closed.wellFormed (h : g.Closed) : g.WellFormed where
  nodeIDs := g.nodes.unique
  edges := by simpa using g.edges.unique
  groupIDs := g.groups.unique
  source e he := KeyedList.mem_keys.mp (h.source e he)
  target e he := KeyedList.mem_keys.mp (h.target e he)
  group n hn hgroup := KeyedList.mem_keys.mp ((h.group n hn).resolve_left hgroup)

theorem grown_topology {request : Canvas} (h : topology c order request = .ok g) :
    g.GrownAt request.level := by
  cases request with
  | cluster lens => exact grown_clusterLevel h
  | inNamespace ns => exact grown_namespaceLevel h
  | object ns group kind name => exact grown_objectLevel h
  | node name => exact grown_nodeLevel h

theorem topology_wellFormed (c : Cluster) (order : RangeOrder) (request : Canvas) (g : Graph)
    (h : topology c order request = .ok g) : g.WellFormed :=
  (grown_topology h).closed.wellFormed

def oneBackend : Cluster where
  pods := KeyedList.empty.add
    { name := "web-0", ns := "shop", uid := "p", labels := [⟨"app", "web"⟩].toAList
      spec := { nodeName := "worker" } }
  services := KeyedList.empty.add
    { name := "web", ns := "shop", selector := [⟨"app", "web"⟩].toAList }

theorem topology_wellFormed_oneBackend :
    ∃ g, topology oneBackend default (.object "shop" "" "Service" "web") = .ok g ∧
      g.edges.items.length = 1 ∧ g.WellFormed :=
  ⟨_, rfl, by decide,
    topology_wellFormed oneBackend default (.object "shop" "" "Service" "web") _ rfl⟩

end Wiremap.Topology
