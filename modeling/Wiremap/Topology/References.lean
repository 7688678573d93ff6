import Wiremap.Topology.NamespaceNodes
import Wiremap.Topology.Ownership

/-! What a namespace refers to: the objects that are drawn because pods belong to
them, and the configuration that their pods use. -/
namespace Wiremap.Topology

open Wiremap.Kube Wiremap.Library

variable {c : Cluster} {order : RangeOrder} {ns : String} {w : Workloads}

def firstRefs (refs : List ObjectRef) : List ObjectRef :=
  ((KeyedList.empty : KeyedList ObjectRef.id).addAll refs).items

theorem mem_firstRefs {refs : List ObjectRef} {r : ObjectRef} :
    r ∈ firstRefs refs ↔ (refs.find? fun r' => r'.id = r.id) = some r :=
  KeyedList.mem_addAll_empty

theorem mem_firstRefs_map {nodes : List GraphNode} (hid : ∀ n ∈ nodes, n.ref.id = n.id)
    {r : ObjectRef} :
    r ∈ firstRefs (nodes.map GraphNode.ref) ↔ ∃ n ∈ Graph.firstOfEach nodes, n.ref = r := by
  have hfind : ∀ id, (nodes.map GraphNode.ref).find? (fun r => r.id = id) =
      (nodes.find? fun n => n.id = id).map GraphNode.ref := by
    intro id
    induction nodes with
    | nil => rfl
    | cons n nodes ih =>
        obtain ⟨hn, hnodes⟩ := List.forall_mem_cons.mp hid
        rw [List.map_cons, List.find?_cons, List.find?_cons, ih hnodes, hn]
        split <;> rfl
  rw [mem_firstRefs, hfind, Option.map_eq_some_iff]
  constructor
  · rintro ⟨n, hn, rfl⟩
    rw [hid n (List.mem_of_find?_eq_some hn)] at hn
    exact ⟨n, Graph.mem_firstOfEach.mpr hn, rfl⟩
  · rintro ⟨n, hn, rfl⟩
    rw [hid n (Graph.mem_of_firstOfEach hn)]
    exact ⟨n, Graph.mem_firstOfEach.mp hn, rfl⟩

def ObjectRef.grouped (r : ObjectRef) : ObjectRef :=
  if r.group = "" then { r with group := (kindGroups.lookup r.kind).getD "" } else r

@[simp] theorem ObjectRef.grouped_id (r : ObjectRef) : r.grouped.id = r.id := by
  unfold ObjectRef.grouped
  split <;> rfl

theorem GraphNode.ref_eq (node : GraphNode) :
    node.ref = (⟨node.apiGroup, node.kind, node.ns, node.name⟩ : ObjectRef).grouped := by
  unfold GraphNode.ref GraphNode.grouped ObjectRef.grouped
  by_cases hgroup : node.apiGroup = ""
  · simp [hgroup]
  · simp [hgroup]

/-! ### Owners -/

def workloadOwners (c : Cluster) (ns : String) : List PodTemplateOwner :=
  (answered (c.list "Deployment" ns c.deployments)).map
      (fun d => workloadOwner ns "Deployment" d.name (deploymentStatus d) d.template []) ++
    (answered (c.list "StatefulSet" ns c.statefulSets)).map
      (fun st => workloadOwner ns "StatefulSet" st.name (statefulSetStatus st) st.template
        (st.volumeClaimTemplates.map fun claim => claim ++ "-" ++ st.name ++ "-")) ++
    (answered (c.list "DaemonSet" ns c.daemonSets)).map
      (fun d => workloadOwner ns "DaemonSet" d.name (daemonSetStatus d) d.template []) ++
    (answered (c.list "CronJob" ns c.cronJobs)).map
      (fun cj => workloadOwner ns "CronJob" cj.name (cronJobStatus cj) cj.template []) ++
    (answered (c.list "Job" ns c.jobs)).filterMap
      (fun j => if j.ownerReferences.length > 0 then none
        else some (workloadOwner ns "Job" j.name (jobStatus j) j.template [])) ++
    (answered (c.list "ReplicationController" ns c.replicationControllers)).filterMap
      (fun rc => rc.template.map fun tmpl => workloadOwner ns "ReplicationController" rc.name
        (replicaStatus rc.readyReplicas (derefReplicas rc.replicas)) tmpl [])

theorem owners_foldl {step : Workloads → α → Workloads} {draws : α → Option PodTemplateOwner}
    (h : ∀ w a, (step w a).owners = w.owners ++ (draws a).toList) (l : List α) (w : Workloads) :
    (l.foldl step w).owners = w.owners ++ l.filterMap draws := by
  induction l generalizing w with
  | nil => simp
  | cons a l ih =>
      rw [List.foldl_cons, ih, h, List.append_assoc]
      cases hdraw : draws a with
      | none => simp [hdraw]
      | some o => simp [hdraw]

theorem owners_foldl_map {step : Workloads → α → Workloads} {draws : α → PodTemplateOwner}
    (h : ∀ w a, (step w a).owners = w.owners ++ [draws a]) (l : List α) (w : Workloads) :
    (l.foldl step w).owners = w.owners ++ l.map draws := by
  have hfold : (l.foldl step w).owners = w.owners ++ l.filterMap fun a => some (draws a) :=
    owners_foldl h l w
  rw [hfold, List.filterMap_eq_map']

theorem owners_addJob (w : Workloads) (j : Job) :
    (w.addJob ns j).owners = w.owners ++
      (if j.ownerReferences.length > 0 then none
        else some (workloadOwner ns "Job" j.name (jobStatus j) j.template [])).toList := by
  unfold Workloads.addJob
  split
  · exact (List.append_nil _).symm
  · rfl

theorem owners_addReplicationController (w : Workloads) (rc : ReplicationController) :
    (w.addReplicationController ns rc).owners = w.owners ++
      (rc.template.map fun tmpl => workloadOwner ns "ReplicationController" rc.name
        (replicaStatus rc.readyReplicas (derefReplicas rc.replicas)) tmpl []).toList := by
  unfold Workloads.addReplicationController
  cases rc.template with
  | some tmpl => rfl
  | none => exact (List.append_nil _).symm

theorem owners_foldl_addReplicaSet (l : List ReplicaSet) (w : Workloads) :
    (l.foldl Workloads.addReplicaSet w).owners = w.owners :=
  List.foldlRecOn (motive := fun w' : Workloads => w'.owners = w.owners) l _ rfl
    fun _ h _ _ => h

theorem owners_listWorkloads (h : listWorkloads c ns = .ok w) : w.owners = workloadOwners c ns := by
  obtain ⟨l, hread, rfl⟩ := listWorkloads_ok h
  rw [WorkloadLists.registered, owners_foldl owners_addReplicationController,
    owners_foldl_addReplicaSet, owners_foldl owners_addJob, owners_foldl_map fun _ _ => rfl,
    owners_foldl_map fun _ _ => rfl, owners_foldl_map fun _ _ => rfl,
    owners_foldl_map fun _ _ => rfl]
  simp only [workloadOwners, hread.deployments, hread.statefulSets, hread.daemonSets,
    hread.cronJobs, hread.jobs, optionalList_ok hread.controllers, answered_ok, List.nil_append]

/-- What a pod draws as its owner: itself if it is bare, or what its controller
references lead to, unless that is a workload. -/
def podOwnerRef (c : Cluster) (ns : String) (pod : Pod) : Option ObjectRef :=
  if pod.ownerReferences.isEmpty then some (podObject pod)
  else (podTop c ns pod).map ObjectRef.grouped

/-- The objects drawn as owners of pods, in the order the pods lead to them. -/
def ownerObjects (c : Cluster) (ns : String) : List ObjectRef :=
  (workloadOwners c ns).map (·.node.ref) ++
    (answered (c.list "Pod" ns c.pods)).filterMap (podOwnerRef c ns)

theorem countPod_ref (o : PodTemplateOwner) (pod : Pod) : (o.countPod pod).node.ref = o.node.ref := by
  rw [GraphNode.ref_eq, GraphNode.ref_eq]
  rfl

theorem podOwnerRef_eq (hw : listWorkloads c ns = .ok w) (pod : Pod) :
    podOwnerRef c ns pod =
      match ownerOf w pod with
      | .bare => some (podObject pod)
      | .workload _ => none
      | .generic top =>
          some (⟨apiGroup top.apiVersion, top.kind, ns, top.name⟩ : ObjectRef).grouped := by
  unfold podOwnerRef podTop ownerOf
  rw [ownership_listWorkloads hw]
  cases pod.ownerReferences with
  | nil => rfl
  | cons first rest =>
      simp only [List.isEmpty_cons, Bool.false_eq_true, if_false]
      generalize topOwner w.shown w.intermediate (controllerRef first rest) maxOwnerDepth = found
      obtain ⟨top, _ | shownID⟩ := found <;> rfl

/-- What holds of every owner before its pods are counted, and is not changed by
counting them, holds of all owners listed. -/
theorem forall_owners {p : PodTemplateOwner → Prop} (hcount : ∀ o pod, p (o.countPod pod) ↔ p o)
    (hworkload : ∀ o ∈ w.owners, p o) (hnew : ∀ a pod, ∀ o ∈ Attribution.newOwner ns w a pod, p o)
    (pods : List Pod) : ∀ o ∈ (Attribution.after ns w pods).owners, p o := by
  induction pods using List.reverseRecOn with
  | nil => exact hworkload
  | append_singleton pods pod ih =>
      have hmap : ((Attribution.after ns w pods).addPod ns w pod).owners.map p = _ :=
        Attribution.map_addPod fun o => propext (hcount o pod)
      rw [Attribution.after_append_singleton]
      intro o ho
      have hmem := hmap ▸ List.mem_map_of_mem (f := p) ho
      rcases List.mem_append.mp hmem with hold | hadded
      · obtain ⟨o', ho', heq⟩ := List.mem_map.mp hold
        exact heq ▸ ih o' ho'
      · obtain ⟨o', ho', heq⟩ := List.mem_map.mp hadded
        exact heq ▸ hnew _ pod o' ho'

theorem exists_of_mem_workloadOwners {o : PodTemplateOwner} (h : o ∈ workloadOwners c ns) :
    ∃ kind name rating tmpl claimPrefixes, o = workloadOwner ns kind name rating tmpl claimPrefixes := by
  simp only [workloadOwners, List.mem_append, List.mem_map, List.mem_filterMap] at h
  rcases h with ((((⟨d, -, rfl⟩ | ⟨st, -, rfl⟩) | ⟨d, -, rfl⟩) | ⟨cj, -, rfl⟩) | ⟨j, -, hj⟩) |
    ⟨rc, -, hrc⟩
  · exact ⟨_, _, _, _, _, rfl⟩
  · exact ⟨_, _, _, _, _, rfl⟩
  · exact ⟨_, _, _, _, _, rfl⟩
  · exact ⟨_, _, _, _, _, rfl⟩
  · split at hj
    · cases hj
    · cases hj
      exact ⟨_, _, _, _, _, rfl⟩
  · obtain ⟨tmpl, -, rfl⟩ := Option.map_eq_some_iff.mp hrc
    exact ⟨_, _, _, _, _, rfl⟩

structure PodTemplateOwner.Offered (o : PodTemplateOwner) : Prop where
  id : o.node.ref.id = o.node.id
  drillable : o.node.drillable = true

theorem offered_newOwner (a : Attribution) (pod : Pod) :
    ∀ o ∈ Attribution.newOwner ns w a pod, o.Offered := by
  intro o ho
  unfold Attribution.newOwner at ho
  split at ho
  · rw [List.mem_singleton.mp ho]
    exact ⟨rfl, rfl⟩
  · cases ho
  · split at ho
    · cases ho
    · rw [List.mem_singleton.mp ho]
      exact ⟨rfl, rfl⟩

theorem offered_owners (hw : listWorkloads c ns = .ok w) (pods : List Pod) :
    ∀ o ∈ (Attribution.after ns w pods).owners, o.Offered := by
  refine forall_owners (fun o pod => ?_) (fun o ho => ?_) offered_newOwner pods
  · exact ⟨fun h => ⟨h.id, h.drillable⟩, fun h => ⟨h.id, h.drillable⟩⟩
  · rw [owners_listWorkloads hw] at ho
    obtain ⟨kind, name, rating, tmpl, claimPrefixes, rfl⟩ := exists_of_mem_workloadOwners ho
    exact ⟨rfl, rfl⟩

theorem find_addPod (hw : listWorkloads c ns = .ok w) (pods : List Pod) (pod : Pod) (id : String) :
    (((Attribution.after ns w pods).addPod ns w pod).owners.map (·.node.ref)).find?
        (fun r => r.id = id) =
      (((Attribution.after ns w pods).owners.map (·.node.ref)).find? fun r => r.id = id).or
        ((podOwnerRef c ns pod).toList.find? fun r => r.id = id) := by
  rw [Attribution.map_addPod (f := fun o => o.node.ref) fun o => countPod_ref o pod,
    List.find?_append, podOwnerRef_eq hw]
  unfold Attribution.newOwner
  cases howner : ownerOf w pod with
  | bare => rfl
  | workload id => rfl
  | generic top =>
      simp only
      split
      · rename_i hknown
        have hlisted := (Attribution.listed_after (listed_listWorkloads hw)).generic _ hknown
        obtain ⟨o, ho, hid⟩ := mem_ownerIDs.mp hlisted
        by_cases hsame : kubeNodeID top.kind ns top.name = id
        · have hfirst : (((Attribution.after ns w pods).owners.map (·.node.ref)).find?
              fun r => r.id = id).isSome := by
            refine List.find?_isSome.mpr ⟨o.node.ref, List.mem_map_of_mem ho, ?_⟩
            rw [(offered_owners hw pods o ho).id, hid, hsame]
            simp
          obtain ⟨first, hfirst⟩ := Option.isSome_iff_exists.mp hfirst
          rw [hfirst]
          rfl
        · have hother : (⟨apiGroup top.apiVersion, top.kind, ns, top.name⟩ : ObjectRef).grouped.id ≠ id := by
            rwa [ObjectRef.grouped_id]
          simp only [Option.toList_some, List.find?_singleton, hother, decide_false]
          rfl
      · rw [List.map_singleton, GraphNode.ref_eq]
        rfl

theorem find_owners (hw : listWorkloads c ns = .ok w) (pods : List Pod) (id : String) :
    ((Attribution.after ns w pods).owners.map (·.node.ref)).find? (fun r => r.id = id) =
      ((workloadOwners c ns).map (·.node.ref) ++ pods.filterMap (podOwnerRef c ns)).find?
        fun r => r.id = id := by
  induction pods using List.reverseRecOn with
  | nil => rw [← owners_listWorkloads hw, List.filterMap_nil, List.append_nil]; rfl
  | append_singleton pods pod ih =>
      have hlast : [pod].filterMap (podOwnerRef c ns) = (podOwnerRef c ns pod).toList := by
        cases hpod : podOwnerRef c ns pod <;> simp [hpod]
      rw [Attribution.after_append_singleton, find_addPod hw, ih, List.filterMap_append,
        ← List.append_assoc, hlast, ← List.find?_append]

theorem listPodOwners_find {owners : NamespaceOwners} (h : listPodOwners c ns = .ok owners)
    (id : String) :
    (owners.owners.map (·.node.ref)).find? (fun r => r.id = id) =
      (ownerObjects c ns).find? fun r => r.id = id := by
  obtain ⟨w, pods, hw, hpods, rfl⟩ := listPodOwners_ok h
  rw [ownerObjects, hpods]
  exact find_owners hw pods id

/-! ### Configuration -/

def firstPods (c : Cluster) (ns : String) (pods : List Pod) : List Pod :=
  ((KeyedList.empty : KeyedList fun pod => (podTop c ns pod).map ObjectRef.id).addAll
    (pods.filter fun pod => (podTop c ns pod).isSome)).items

/-- The ConfigMaps, Secrets and claims the level draws: those that the workloads,
the bare pods and the first pods of other owners refer to. -/
def configRefs (c : Cluster) (order : RangeOrder) (ns : String) : List SpecRef :=
  let pods := answered (c.list "Pod" ns c.pods)
  (workloadOwners c ns).flatMap (ownerRefs order (claimsOf c ns)) ++
    (barePods pods ++ firstPods c ns pods).flatMap fun pod => podSpecRefs pod.spec

theorem flatMap_addPod {a : Attribution} {pod : Pod} {f : PodTemplateOwner → List β}
    (hf : ∀ o : PodTemplateOwner, f (o.countPod pod) = f o) :
    (a.addPod ns w pod).owners.flatMap f =
      a.owners.flatMap f ++ (Attribution.newOwner ns w a pod).flatMap f := by
  rw [List.flatMap_def, Attribution.map_addPod hf, List.flatten_append]
  rfl

def LeadsFirst (c : Cluster) (ns : String) (pods : List Pod) (pod : Pod) : Prop :=
  (podTop c ns pod).isSome ∧
    ∀ q ∈ pods, (podTop c ns q).map ObjectRef.id ≠ (podTop c ns pod).map ObjectRef.id

theorem mem_firstPods_append {pods : List Pod} {pod p : Pod} :
    p ∈ firstPods c ns (pods ++ [pod]) ↔
      p ∈ firstPods c ns pods ∨ p = pod ∧ LeadsFirst c ns pods pod := by
  unfold firstPods LeadsFirst
  cases htop : podTop c ns pod with
  | none => simp [List.filter_append, htop]
  | some r =>
      have hpod : [pod].filter (fun pod => (podTop c ns pod).isSome) = [pod] := by simp [htop]
      rw [List.filter_append, hpod, KeyedList.addAll_append, KeyedList.addAll_cons,
        KeyedList.addAll_nil, KeyedList.mem_add, KeyedList.mem_keys_addAll, htop]
      simp only [KeyedList.keys_empty, List.not_mem_nil, false_or, List.mem_filter, not_exists,
        not_and, Option.isSome_some, true_and, ne_eq, and_imp]
      refine or_congr_right (and_congr_right fun _ => ?_)
      constructor
      · intro hfree q hq hsame
        obtain ⟨r', hr', -⟩ := Option.map_eq_some_iff.mp hsame
        exact hfree q hq (by simp [hr']) hsame
      · exact fun hfree q hq _ => hfree q hq

theorem newOwner_refs (hw : listWorkloads c ns = .ok w) (pods : List Pod) (pod : Pod)
    (pvcs : StringMap PersistentVolumeClaim) (ref : SpecRef) :
    ref ∈ (Attribution.newOwner ns w (Attribution.after ns w pods) pod).flatMap
        (ownerRefs order pvcs) ↔
      ref ∈ podSpecRefs pod.spec ∧
        (pod.ownerReferences.isEmpty ∨ LeadsFirst c ns pods pod) := by
  have hbare : ownerOf w pod = .bare ↔ pod.ownerReferences.isEmpty := ownerOf_eq_bare
  have hgeneric : genericID ns w pod = (podTop c ns pod).map ObjectRef.id := genericID_eq hw
  unfold Attribution.newOwner genericID at *
  unfold LeadsFirst
  cases howner : ownerOf w pod with
  | bare =>
      rw [howner] at hbare
      simp [hbare.mp rfl, ownerRefs]
  | workload id =>
      rw [howner] at hbare hgeneric
      have hnone : podTop c ns pod = none := Option.map_eq_none_iff.mp hgeneric.symm
      have howned : pod.ownerReferences.isEmpty = false := by
        simpa using mt hbare.mpr (by simp)
      simp [hnone, howned]
  | generic top =>
      rw [howner] at hbare hgeneric
      obtain ⟨r, hr, -⟩ := Option.map_eq_some_iff.mp hgeneric.symm
      have howned : pod.ownerReferences.isEmpty = false := by
        simpa using mt hbare.mpr (by simp)
      have hknown : ((Attribution.after ns w pods).generic.lookup
          (kubeNodeID top.kind ns top.name)).isSome ↔ _ := Attribution.generic_after _
      rw [← hgeneric]
      simp only [genericID_eq hw] at hknown
      by_cases hfirst : ((Attribution.after ns w pods).generic.lookup
          (kubeNodeID top.kind ns top.name)).isSome
      · obtain ⟨q, hq, hid⟩ := hknown.mp hfirst
        simp only [hfirst, if_true, List.flatMap_nil, List.not_mem_nil, howned, Bool.false_eq_true,
          false_or, false_iff, not_and]
        exact fun _ _ hnone => hnone q hq hid
      · have hnone : ∀ q ∈ pods, (podTop c ns q).map ObjectRef.id ≠
            some (kubeNodeID top.kind ns top.name) :=
          fun q hq hid => hfirst (hknown.mpr ⟨q, hq, hid⟩)
        simp only [hfirst, Bool.false_eq_true, if_false, List.flatMap_cons, List.flatMap_nil,
          List.append_nil, ownerRefs, genericOwner, howned, false_or, hr, Option.isSome_some]
        exact ⟨fun href => ⟨href, trivial, hnone⟩, And.left⟩

theorem mem_configRefs {owners : NamespaceOwners} (h : listPodOwners c ns = .ok owners)
    (ref : SpecRef) :
    ref ∈ owners.owners.flatMap (ownerRefs order (claimsOf c ns)) ↔ ref ∈ configRefs c order ns := by
  obtain ⟨w, pods, hw, hpods, rfl⟩ := listPodOwners_ok h
  rw [configRefs, hpods, answered_ok, ← owners_listWorkloads hw]
  clear h hpods
  simp only
  induction pods using List.reverseRecOn with
  | nil => simp [Attribution.after, barePods, firstPods]
  | append_singleton pods pod ih =>
      rw [Attribution.after_append_singleton, flatMap_addPod fun _ => rfl, List.mem_append, ih,
        newOwner_refs hw]
      simp only [List.mem_append, List.mem_flatMap, mem_firstPods_append, barePods,
        List.filter_append, List.mem_filter, List.mem_singleton]
      grind

end Wiremap.Topology
