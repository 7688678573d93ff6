import Wiremap.Topology.NamespaceNodes

/-! The nodes the object level draws, read off the cluster. -/
namespace Wiremap.Topology

open Wiremap.Kube Wiremap.Library
open Wiremap.Topology.Graph (Adds)

variable {c : Cluster} {ns : String} {g g' : Graph}

/-! ### Owners -/

/-- An owner opened: its own node, the Jobs drawn under it, and the UIDs that
pods drawn under it refer to. -/
structure Tree where
  root : GraphNode
  jobs : List Job
  parents : String → Bool

def Tree.owns (t : Tree) (pod : Pod) : Bool := pod.ownerReferences.any fun ref => t.parents ref.uid

def throughReplicaSet (replicaSets : List ReplicaSet) (owner uid : String) : Bool :=
  replicaSets.any fun rs => ownedBy rs.ownerReferences owner && rs.uid = uid

def ownedJobs (jobs : List Job) (owner : String) : List Job :=
  jobs.filter fun j => ownedBy j.ownerReferences owner

def deploymentTree (c : Cluster) (ns name : String) : Except AppError Tree := do
  let d ← orWrap (c.get "Deployment" ns name c.deployments) "get deployment"
  let replicaSets ← orWrap (c.list "ReplicaSet" ns c.replicaSets) "list replicasets"
  return ⟨workloadRoot "Deployment" ns name (deploymentStatus d), [],
    throughReplicaSet replicaSets d.uid⟩

def statefulSetTree (c : Cluster) (ns name : String) : Except AppError Tree := do
  let st ← orWrap (c.get "StatefulSet" ns name c.statefulSets) "get statefulset"
  return ⟨workloadRoot "StatefulSet" ns name (statefulSetStatus st), [], fun uid => st.uid = uid⟩

def daemonSetTree (c : Cluster) (ns name : String) : Except AppError Tree := do
  let d ← orWrap (c.get "DaemonSet" ns name c.daemonSets) "get daemonset"
  return ⟨workloadRoot "DaemonSet" ns name (daemonSetStatus d), [], fun uid => d.uid = uid⟩

def jobTree (c : Cluster) (ns name : String) : Except AppError Tree := do
  let j ← orWrap (c.get "Job" ns name c.jobs) "get job"
  return ⟨workloadRoot "Job" ns name (jobStatus j), [], fun uid => j.uid = uid⟩

def cronJobTree (c : Cluster) (ns name : String) : Except AppError Tree := do
  let cj ← orWrap (c.get "CronJob" ns name c.cronJobs) "get cronjob"
  let jobs ← orWrap (c.list "Job" ns c.jobs) "list jobs"
  return ⟨workloadRoot "CronJob" ns name (cronJobStatus cj), ownedJobs jobs cj.uid,
    fun _ => false⟩

def genericTree (c : Cluster) (ns group kind name : String) : Except AppError Tree := do
  let obj ← getObject c group kind ns name
  let replicaSets ← orWrap (c.list "ReplicaSet" ns c.replicaSets) "list replicasets"
  let jobs ← orWrap (c.list "Job" ns c.jobs) "list jobs"
  return ⟨genericRoot ns group kind name obj, ownedJobs jobs obj.uid,
    fun uid => obj.uid = uid || throughReplicaSet replicaSets obj.uid uid⟩

def treeOf (c : Cluster) (ns group kind name : String) : Except AppError Tree :=
  match group, kind with
  | "apps", "Deployment" => deploymentTree c ns name
  | "apps", "StatefulSet" => statefulSetTree c ns name
  | "apps", "DaemonSet" => daemonSetTree c ns name
  | "batch", "Job" => jobTree c ns name
  | "batch", "CronJob" => cronJobTree c ns name
  | _, _ => genericTree c ns group kind name

structure Tree.Built (t : Tree) (ns : String) (g : Graph) (built : OwnerTree) : Prop where
  adds : Adds (t.root :: t.jobs.map (jobNode ns)) g built.graph
  parents : ∀ uid, (built.podParents.lookup uid).isSome = t.parents uid

theorem collapseReplicaSet_foldl (owner ownerID : String) (replicaSets : List ReplicaSet)
    (t : OwnerTree) :
    (replicaSets.foldl (collapseReplicaSet owner ownerID) t).graph = t.graph ∧
      ∀ uid, ((replicaSets.foldl (collapseReplicaSet owner ownerID) t).podParents.lookup uid).isSome =
        ((t.podParents.lookup uid).isSome || throughReplicaSet replicaSets owner uid) := by
  induction replicaSets generalizing t with
  | nil => simp [throughReplicaSet]
  | cons rs rest ih =>
      obtain ⟨hgraph, hparents⟩ := ih (collapseReplicaSet owner ownerID t rs)
      have hthrough : ∀ uid, throughReplicaSet (rs :: rest) owner uid =
          (ownedBy rs.ownerReferences owner && decide (rs.uid = uid) ||
            throughReplicaSet rest owner uid) := fun _ => rfl
      by_cases howned : ownedBy rs.ownerReferences owner = true
      · have hstep : collapseReplicaSet owner ownerID t rs =
            { t with podParents := t.podParents.insert rs.uid ownerID } := if_pos howned
        refine ⟨hgraph.trans (by rw [hstep]), fun uid => (hparents uid).trans ?_⟩
        rw [hstep, hthrough, StringMap.isSome_lookup_insert, howned, Bool.true_and,
          Bool.or_comm (decide _), Bool.or_assoc]
      · have hstep : collapseReplicaSet owner ownerID t rs = t := if_neg howned
        refine ⟨hgraph.trans (by rw [hstep]), fun uid => (hparents uid).trans ?_⟩
        rw [hstep, hthrough, Bool.not_eq_true _ |>.mp howned, Bool.false_and, Bool.false_or]

theorem adds_addOwnedJobs {rootID owner : String} (jobs : List Job) (g : Graph) :
    Adds ((ownedJobs jobs owner).map (jobNode ns)) g
      (jobs.foldl (addOwnedJob ns rootID owner) g) := by
  refine .foldl_filter (fun g j howned => ?_) (fun g j hother => ?_) jobs g
  · rw [addOwnedJob, if_pos howned]
    exact (Adds.addNode _).link (.addEdge _ _ _)
  · rw [addOwnedJob, if_neg (by simp [hother])]
    exact .refl g

theorem built_addRoot (ns : String) (root : GraphNode) (uid : String) (g : Graph) :
    Tree.Built ⟨root, [], fun uid' => uid = uid'⟩ ns g (addRoot g root uid) where
  adds := .addNode root
  parents uid' := by
    simp only [addRoot, StringMap.isSome_lookup_insert]
    simp

theorem built_addDeploymentTree {name : String} {built : OwnerTree}
    (h : addDeploymentTree c ns name g = .ok built) :
    ∃ t, deploymentTree c ns name = .ok t ∧ t.Built ns g built := by
  simp only [addDeploymentTree, collapseReplicaSets, Fallible.bind_eq_ok, Fallible.pure_eq_ok] at h
  obtain ⟨d, hget, replicaSets, hlist, rfl⟩ := h
  refine ⟨_, by simp only [deploymentTree, hget, hlist]; rfl, ?_⟩
  obtain ⟨hgraph, hparents⟩ := collapseReplicaSet_foldl d.uid
    (workloadRoot "Deployment" ns name (deploymentStatus d)).id replicaSets
    ⟨g.addNode (workloadRoot "Deployment" ns name (deploymentStatus d)), ∅⟩
  refine ⟨?_, fun uid => ?_⟩
  · rw [hgraph]
    exact .addNode _
  · rw [hparents]
    rfl

theorem built_addCronJobTree {name : String} {built : OwnerTree}
    (h : addCronJobTree c ns name g = .ok built) :
    ∃ t, cronJobTree c ns name = .ok t ∧ t.Built ns g built := by
  simp only [addCronJobTree, Fallible.bind_eq_ok, Fallible.pure_eq_ok] at h
  obtain ⟨cj, hget, jobs, hlist, rfl⟩ := h
  refine ⟨_, by simp only [cronJobTree, hget, hlist]; rfl, ?_, fun uid => ?_⟩
  · exact (Adds.addNode _).trans (adds_addOwnedJobs jobs _)
  · simp

theorem built_addGenericOwner {group kind name : String} {built : OwnerTree}
    (h : addGenericOwner c ns group kind name g = .ok built) :
    ∃ t, genericTree c ns group kind name = .ok t ∧ t.Built ns g built := by
  simp only [addGenericOwner, collapseReplicaSets, Fallible.bind_eq_ok, Fallible.pure_eq_ok] at h
  obtain ⟨obj, hget, _, ⟨replicaSets, hlist, rfl⟩, jobs, hjobs, rfl⟩ := h
  refine ⟨_, by simp only [genericTree, hget, hlist, hjobs]; rfl, ?_⟩
  obtain ⟨hgraph, hparents⟩ := collapseReplicaSet_foldl obj.uid
    (genericRoot ns group kind name obj).id replicaSets
    (addRoot g (genericRoot ns group kind name obj) obj.uid)
  refine ⟨?_, fun uid => ?_⟩
  · have hroot := Adds.addNode (g := g) (genericRoot ns group kind name obj)
    refine hroot.trans ?_
    rw [hgraph]
    exact adds_addOwnedJobs jobs _
  · rw [hparents, (built_addRoot ns (genericRoot ns group kind name obj) obj.uid g).parents]

theorem built_ownerTree {group kind name : String} {built : OwnerTree}
    (h : ownerTree c ns group kind name g = .ok built) :
    ∃ t, treeOf c ns group kind name = .ok t ∧ t.Built ns g built := by
  unfold ownerTree at h
  split at h
  · exact built_addDeploymentTree h
  · simp only [addStatefulSetTree, Fallible.bind_eq_ok, Fallible.pure_eq_ok] at h
    obtain ⟨st, hget, rfl⟩ := h
    exact ⟨_, by simp only [treeOf, statefulSetTree, hget]; rfl, built_addRoot _ _ _ _⟩
  · simp only [addDaemonSetTree, Fallible.bind_eq_ok, Fallible.pure_eq_ok] at h
    obtain ⟨d, hget, rfl⟩ := h
    exact ⟨_, by simp only [treeOf, daemonSetTree, hget]; rfl, built_addRoot _ _ _ _⟩
  · simp only [addJobTree, Fallible.bind_eq_ok, Fallible.pure_eq_ok] at h
    obtain ⟨j, hget, rfl⟩ := h
    exact ⟨_, by simp only [treeOf, jobTree, hget]; rfl, built_addRoot _ _ _ _⟩
  · exact built_addCronJobTree h
  · have hgeneric : treeOf c ns group kind name = genericTree c ns group kind name := by
      unfold treeOf
      split
      all_goals first | rfl | simp_all
    rw [hgeneric]
    exact built_addGenericOwner h

def scheduledPod (pod : Pod) : GraphNode :=
  podNode pod (kubeNodeID "Node" ""
    (if pod.spec.nodeName = "" then unscheduledGroup else pod.spec.nodeName))

theorem adds_addScheduledPod (g : Graph) (pod : Pod) :
    Adds [scheduledPod pod] g (addScheduledPod g pod) :=
  (Adds.addGroup _ _ _).trans (.addNode _)

def Tree.nodes (t : Tree) (ns : String) (pods : List Pod) : List GraphNode :=
  t.root :: t.jobs.map (jobNode ns) ++ (pods.filter t.owns).map scheduledPod

theorem adds_addOwnerTree {group kind name : String}
    (h : addOwnerTree c ns group kind name g = .ok g') :
    ∃ t pods, treeOf c ns group kind name = .ok t ∧ c.list "Pod" ns c.pods = .ok pods ∧
      Adds (t.nodes ns pods) g g' := by
  simp only [addOwnerTree, addOwnedPods, Fallible.bind_eq_ok, Fallible.pure_eq_ok,
    orWrap_ok] at h
  obtain ⟨built, htree, pods, hpods, rfl⟩ := h
  obtain ⟨t, ht, hbuilt⟩ := built_ownerTree htree
  have howns : ∀ pod, t.owns pod = (podParent built.podParents pod).isSome := by
    intro pod
    rw [podParent, List.isSome_findSome?]
    simp only [Tree.owns, hbuilt.parents]
  refine ⟨t, pods, ht, hpods, hbuilt.adds.trans ?_⟩
  refine .foldl_filter (fun g pod howned => ?_) (fun g pod hother => ?_) pods built.graph
  · obtain ⟨parentID, hparent⟩ := Option.isSome_iff_exists.mp (howns pod ▸ howned)
    simp only [addOwnedPod, hparent]
    exact (adds_addScheduledPod g pod).link (.addEdge _ _ _)
  · have hparent : podParent built.podParents pod = none :=
      Option.not_isSome_iff_eq_none.mp (by rw [← howns, hother]; simp)
    simp only [addOwnedPod, hparent]
    exact .refl g

/-! ### What the nodes stand for -/

@[simp] theorem scheduledPod_ref (pod : Pod) : (scheduledPod pod).ref = podRef pod.ns pod.name := rfl

@[simp] theorem jobNode_ref (ns : String) (j : Job) : (jobNode ns j).ref = jobRef ns j.name := rfl

/-- A kind of no group is not one the canvas knows a group for. -/
def Canonical (group kind : String) : Prop := group = "" → (kindGroups.lookup kind).getD "" = ""

theorem canonical_grouped (node : GraphNode) : Canonical node.grouped.apiGroup node.kind := by
  unfold Canonical GraphNode.grouped
  intro h
  split at h
  · exact h
  · contradiction

structure Tree.Rooted (c : Cluster) (ns group kind name : String) (t : Tree) : Prop where
  root : ∃ rating apiGroup, t.root = { workloadRoot kind ns name rating with apiGroup := apiGroup } ∧
    (apiGroup = group ∨ apiGroup = "" ∧ (kindGroups.lookup kind).getD "" = group)
  jobs : t.jobs = [] ∨ ∃ jobs uid, c.list "Job" ns c.jobs = .ok jobs ∧ t.jobs = ownedJobs jobs uid

theorem rooted_treeOf {group kind name : String} {t : Tree}
    (h : treeOf c ns group kind name = .ok t) : t.Rooted c ns group kind name := by
  unfold treeOf at h
  split at h
  · simp only [deploymentTree, Fallible.bind_eq_ok, Fallible.pure_eq_ok] at h
    obtain ⟨d, -, replicaSets, -, rfl⟩ := h
    exact ⟨⟨_, "", rfl, Or.inr ⟨rfl, rfl⟩⟩, Or.inl rfl⟩
  · simp only [statefulSetTree, Fallible.bind_eq_ok, Fallible.pure_eq_ok] at h
    obtain ⟨st, -, rfl⟩ := h
    exact ⟨⟨_, "", rfl, Or.inr ⟨rfl, rfl⟩⟩, Or.inl rfl⟩
  · simp only [daemonSetTree, Fallible.bind_eq_ok, Fallible.pure_eq_ok] at h
    obtain ⟨d, -, rfl⟩ := h
    exact ⟨⟨_, "", rfl, Or.inr ⟨rfl, rfl⟩⟩, Or.inl rfl⟩
  · simp only [jobTree, Fallible.bind_eq_ok, Fallible.pure_eq_ok] at h
    obtain ⟨j, -, rfl⟩ := h
    exact ⟨⟨_, "", rfl, Or.inr ⟨rfl, rfl⟩⟩, Or.inl rfl⟩
  · simp only [cronJobTree, Fallible.bind_eq_ok, Fallible.pure_eq_ok, orWrap_ok] at h
    obtain ⟨cj, -, jobs, hjobs, rfl⟩ := h
    exact ⟨⟨_, "", rfl, Or.inr ⟨rfl, rfl⟩⟩, Or.inr ⟨jobs, cj.uid, hjobs, rfl⟩⟩
  · simp only [genericTree, Fallible.bind_eq_ok, Fallible.pure_eq_ok, orWrap_ok] at h
    obtain ⟨obj, -, replicaSets, -, jobs, hjobs, rfl⟩ := h
    exact ⟨⟨_, group, rfl, Or.inl rfl⟩, Or.inr ⟨jobs, obj.uid, hjobs, rfl⟩⟩

theorem root_id {group kind name : String} {t : Tree} (h : treeOf c ns group kind name = .ok t) :
    t.root.id = kubeNodeID kind ns name := by
  obtain ⟨rating, apiGroup, hroot, -⟩ := (rooted_treeOf h).root
  rw [hroot]
  rfl

theorem root_ref {group kind name : String} {t : Tree} (hcanonical : Canonical group kind)
    (h : treeOf c ns group kind name = .ok t) : t.root.ref = ⟨group, kind, ns, name⟩ := by
  obtain ⟨rating, apiGroup, hroot, hgroup⟩ := (rooted_treeOf h).root
  rw [hroot]
  rcases hgroup with rfl | ⟨rfl, hknown⟩
  · by_cases hempty : apiGroup = ""
    · simp [workloadRoot, GraphNode.ref, GraphNode.grouped, hempty, hcanonical hempty]
    · simp [workloadRoot, GraphNode.ref, GraphNode.grouped, hempty]
  · simp [workloadRoot, GraphNode.ref, GraphNode.grouped, hknown]

theorem mem_treeNodes {t : Tree} {pods : List Pod} {n : GraphNode} :
    n ∈ t.nodes ns pods ↔ n = t.root ∨ (∃ j ∈ t.jobs, jobNode ns j = n) ∨
      ∃ pod ∈ pods, t.owns pod ∧ scheduledPod pod = n := by
  simp only [Tree.nodes, List.mem_append, List.mem_cons, List.mem_map, List.mem_filter, and_assoc,
    or_assoc]

/-! ### What else can be opened -/

/-- Two containers of one name, and a pod with them, are drawn under their own kinds. -/
def containerNodeOf (ns : String) (pod : Pod) (statuses : List ContainerStatus) (init : Bool)
    (spec : Container) : GraphNode :=
  containerNode (kubeNodeID "Container" ns (pod.name ++ "/" ++ spec.name)) ns
    (containerDto statuses init spec) spec

def podNodes (ns : String) (pod : Pod) : List GraphNode :=
  podRoot pod ::
    pod.spec.initContainers.map (containerNodeOf ns pod pod.initContainerStatuses true) ++
    pod.spec.containers.map (containerNodeOf ns pod pod.containerStatuses false)

theorem adds_addContainer {pod : Pod} {statuses : List ContainerStatus} {init : Bool} (g : Graph)
    (spec : Container) :
    Adds [containerNodeOf ns pod statuses init spec] g
      (addContainer ns pod statuses init g spec) :=
  (Adds.addNode _).link (.addEdge _ _ _)

theorem adds_addPodContainers {name : String} (h : addPodContainers c ns name g = .ok g') :
    ∃ pod, c.get "Pod" ns name c.pods = .ok pod ∧ Adds (podNodes ns pod) g g' := by
  simp only [addPodContainers, Fallible.bind_eq_ok, Fallible.pure_eq_ok, orWrap_ok] at h
  obtain ⟨pod, hget, rfl⟩ := h
  refine ⟨pod, hget, ?_⟩
  exact ((Adds.addNode (podRoot pod)).trans (.foldl_nodes adds_addContainer _ _)).trans
    (.foldl_nodes adds_addContainer _ _)

theorem adds_addServiceBackends {name : String} (h : addServiceBackends c ns name g = .ok g') :
    ∃ svc pods, c.get "Service" ns name c.services = .ok svc ∧
      c.list "Pod" ns c.pods = .ok pods ∧
      Adds (serviceRoot svc :: (pods.filter (serviceSelects c ns svc)).map scheduledPod) g g' := by
  simp only [addServiceBackends, Fallible.bind_eq_ok, Fallible.pure_eq_ok, orWrap_ok] at h
  obtain ⟨svc, hget, pods, hpods, rfl⟩ := h
  refine ⟨svc, pods, hget, hpods, (Adds.addNode (serviceRoot svc)).trans ?_⟩
  exact .foldl_nodes (fun g pod => (adds_addScheduledPod g pod).link (.addEdge _ _ _)) _ _

theorem adds_addIngressBackends {name : String} (h : addIngressBackends c ns name g = .ok g') :
    ∃ ing, c.get "Ingress" ns name c.ingresses = .ok ing ∧
      Adds (ingressRoot ns name ing :: (ingressBackends ing).map (backendNode c ns)) g g' := by
  simp only [addIngressBackends, Fallible.bind_eq_ok, Fallible.pure_eq_ok, orWrap_ok] at h
  obtain ⟨ing, hget, rfl⟩ := h
  refine ⟨ing, hget, (Adds.addNode (ingressRoot ns name ing)).trans ?_⟩
  exact .foldl_nodes (fun g backend => (Adds.addNode _).link (.addEdge _ _ _)) _ _

def claimVolumeNodes (c : Cluster) (ns name : String) : List GraphNode :=
  match c.get "PersistentVolumeClaim" ns name c.persistentVolumeClaims with
  | .error _ => []
  | .ok pvc =>
      match (if pvc.volumeName ≠ "" then
          (c.getAll "PersistentVolume" pvc.volumeName c.persistentVolumes).toOption
        else none) with
      | some pv => persistentVolumeNode pv :: classNodes pv.storageClassName
      | none => classNodes (pvc.storageClassName.getD "")

theorem storageNode_claimVolumeNodes {name : String} {n : GraphNode}
    (h : n ∈ claimVolumeNodes c ns name) : StorageNode n := by
  unfold claimVolumeNodes at h
  split at h
  · cases h
  · split at h
    · exact storageNode_bound h
    · exact storageNode_classNodes h

theorem adds_claimClass (g : Graph) (claimID : String) (className : Option String) :
    Adds (classNodes (className.getD "")) g
      (match className with
      | some name => if name ≠ "" then useStorageClass g claimID name else g
      | none => g) := by
  unfold classNodes
  cases className with
  | none => exact .refl g
  | some name =>
      simp only [Option.getD_some]
      split
      · exact adds_useStorageClass _ _ _
      · exact .refl g

theorem adds_addClaimVolume (name : String) (g : Graph) :
    Adds (claimVolumeNodes c ns name) g (addClaimVolume c ns name g) := by
  unfold addClaimVolume claimVolumeNodes
  cases c.get "PersistentVolumeClaim" ns name c.persistentVolumeClaims with
  | error err => exact .refl g
  | ok pvc =>
      simp only
      generalize (if pvc.volumeName ≠ "" then
        (c.getAll "PersistentVolume" pvc.volumeName c.persistentVolumes).toOption
        else none) = volume
      cases volume with
      | some pv => exact adds_bindVolume _ _ _
      | none => exact adds_claimClass g _ _

def consumes (kind name : String) (pod : Pod) : Bool := (podSpecRefs pod.spec).contains ⟨kind, name⟩

theorem adds_addConsumer (target : String) (g : Graph) (pod : Pod) :
    Adds [scheduledPod pod] g (addConsumer target g pod) :=
  (adds_addScheduledPod g pod).link (.addEdge _ _ _)

theorem adds_addConsumers {kind name : String} (h : addConsumers c ns kind name g = .ok g') :
    ∃ obj pods, getObject c "" kind ns name = .ok obj ∧ c.list "Pod" ns c.pods = .ok pods ∧
      Adds (workloadRoot kind ns name (objectStatus obj) ::
        (pods.filter (consumes kind name)).map scheduledPod ++
        if kind = "PersistentVolumeClaim" then claimVolumeNodes c ns name else []) g g' := by
  simp only [addConsumers, Fallible.bind_eq_ok, Fallible.pure_eq_ok, orWrap_ok] at h
  obtain ⟨obj, hget, pods, hpods, rfl⟩ := h
  refine ⟨obj, pods, hget, hpods, ?_⟩
  have hconsumers := (Adds.addNode (g := g) (workloadRoot kind ns name (objectStatus obj))).trans
    (Adds.foldl_nodes (adds_addConsumer (kubeNodeID kind ns name))
      (pods.filter (consumes kind name)) _)
  split
  · exact hconsumers.trans (adds_addClaimVolume name _)
  · rw [List.append_nil]
    exact hconsumers

/-! ### Any object -/

inductive Opened where
  | containers
  | backends
  | routes
  | consumers
  | owned
  deriving DecidableEq, Repr

def openedAs (group kind : String) : Opened :=
  match group, kind with
  | "", "Pod" => .containers
  | "", "Service" => .backends
  | "networking.k8s.io", "Ingress" => .routes
  | "", "ConfigMap" => .consumers
  | "", "Secret" => .consumers
  | "", "PersistentVolumeClaim" => .consumers
  | _, _ => .owned

theorem consumer_kind {group kind : String} (h : openedAs group kind = .consumers) :
    kind = "ConfigMap" ∨ kind = "Secret" ∨ kind = "PersistentVolumeClaim" := by
  unfold openedAs at h
  split at h <;> simp_all

theorem objectLevel_eq (c : Cluster) (ns group kind name : String) :
    objectLevel c ns group kind name =
      match openedAs group kind with
      | .containers => addPodContainers c ns name (.new .object)
      | .backends => addServiceBackends c ns name (.new .object)
      | .routes => addIngressBackends c ns name (.new .object)
      | .consumers => addConsumers c ns kind name (.new .object)
      | .owned => addOwnerTree c ns group kind name (.new .object) := by
  fun_cases openedAs group kind
  case case7 =>
    unfold objectLevel
    split
    all_goals first | rfl | simp_all
  all_goals rfl

end Wiremap.Topology
