import Mathlib.Data.List.Induction
import Wiremap.Library.Fallible
import Wiremap.Library.Lists
import Wiremap.Topology.PodOwners

/-! What `listPodOwners` answers: every pod is attributed to one of the owners
it lists. -/
namespace Wiremap.Topology

open Wiremap.Kube Wiremap.Library

def ownerIDs (owners : List PodTemplateOwner) : List String := owners.map (·.node.id)

@[simp] theorem mem_ownerIDs {owners : List PodTemplateOwner} {id : String} :
    id ∈ ownerIDs owners ↔ ∃ o ∈ owners, o.node.id = id := List.mem_map

@[simp] theorem ownerIDs_append (owners owners' : List PodTemplateOwner) :
    ownerIDs (owners ++ owners') = ownerIDs owners ++ ownerIDs owners' := List.map_append

theorem map_countPod {f : PodTemplateOwner → β} (pod : Pod)
    (hf : ∀ o : PodTemplateOwner, f (o.countPod pod) = f o) (owners : List PodTemplateOwner)
    (position : Nat) :
    (owners.modify position fun o => o.countPod pod).map f = owners.map f :=
  Lists.map_modify_eq hf owners position

namespace Workloads

structure Listed (w : Workloads) : Prop where
  shown : ∀ uid id, w.shown.lookup uid = some id → id ∈ ownerIDs w.owners
  ungrouped : ∀ o ∈ w.owners, o.node.group = ""

variable {w : Workloads} {ns : String}

theorem listed_empty : Listed {} where
  shown uid id h := by simp at h
  ungrouped o ho := by cases ho

theorem listed_add {uid kind name : String} {rating : Status × String} {tmpl : PodTemplateSpec}
    {claimPrefixes : List String} (h : w.Listed) :
    (w.add ns uid kind name rating tmpl claimPrefixes).Listed where
  shown uid' id hlookup := by
    simp only [add, StringMap.lookup_insert] at hlookup
    split at hlookup
    · cases hlookup
      simp [add, workloadOwner]
    · have hold := h.shown uid' id hlookup
      simp only [add, ownerIDs_append, List.mem_append]
      exact Or.inl hold
  ungrouped o ho := by
    rcases List.mem_append.mp ho with hold | hnew
    · exact h.ungrouped o hold
    · rw [List.mem_singleton.mp hnew]
      rfl

theorem listed_foldl {step : Workloads → α → Workloads} (hstep : ∀ w a, w.Listed → (step w a).Listed)
    (l : List α) (h : w.Listed) : (l.foldl step w).Listed :=
  List.foldlRecOn l step h fun w hw a _ => hstep w a hw

theorem listed_addJob (j : Job) (h : w.Listed) : (w.addJob ns j).Listed := by
  unfold addJob
  split
  · exact ⟨h.shown, h.ungrouped⟩
  · exact listed_add h

theorem listed_addReplicaSet (rs : ReplicaSet) (h : w.Listed) : (w.addReplicaSet rs).Listed :=
  ⟨h.shown, h.ungrouped⟩

theorem listed_addReplicationController (rc : ReplicationController) (h : w.Listed) :
    (w.addReplicationController ns rc).Listed := by
  unfold addReplicationController
  split
  · exact listed_add h
  · exact h

end Workloads

structure WorkloadLists where
  deployments : List Deployment
  statefulSets : List StatefulSet
  daemonSets : List DaemonSet
  cronJobs : List CronJob
  jobs : List Job
  replicaSets : List ReplicaSet
  controllers : List ReplicationController

def WorkloadLists.registered (ns : String) (l : WorkloadLists) : Workloads :=
  let w := l.deployments.foldl (Workloads.addDeployment ns) {}
  let w := l.statefulSets.foldl (Workloads.addStatefulSet ns) w
  let w := l.daemonSets.foldl (Workloads.addDaemonSet ns) w
  let w := l.cronJobs.foldl (Workloads.addCronJob ns) w
  let w := l.jobs.foldl (Workloads.addJob ns) w
  let w := l.replicaSets.foldl Workloads.addReplicaSet w
  l.controllers.foldl (Workloads.addReplicationController ns) w

structure WorkloadLists.Read (c : Cluster) (ns : String) (l : WorkloadLists) : Prop where
  deployments : c.list "Deployment" ns c.deployments = .ok l.deployments
  statefulSets : c.list "StatefulSet" ns c.statefulSets = .ok l.statefulSets
  daemonSets : c.list "DaemonSet" ns c.daemonSets = .ok l.daemonSets
  cronJobs : c.list "CronJob" ns c.cronJobs = .ok l.cronJobs
  jobs : c.list "Job" ns c.jobs = .ok l.jobs
  replicaSets : c.list "ReplicaSet" ns c.replicaSets = .ok l.replicaSets
  controllers : optionalList (c.list "ReplicationController" ns c.replicationControllers)
    "list replicationcontrollers" = .ok l.controllers

theorem listWorkloads_ok {c : Cluster} {ns : String} {w : Workloads}
    (h : listWorkloads c ns = .ok w) : ∃ l : WorkloadLists, l.Read c ns ∧ l.registered ns = w := by
  simp only [listWorkloads, Fallible.bind_eq_ok, Fallible.pure_eq_ok, orWrap_ok] at h
  obtain ⟨deployments, hdeployments, statefulSets, hstatefulSets, daemonSets, hdaemonSets,
    cronJobs, hcronJobs, jobs, hjobs, replicaSets, hreplicaSets, controllers, hcontrollers,
    hw⟩ := h
  exact ⟨⟨deployments, statefulSets, daemonSets, cronJobs, jobs, replicaSets, controllers⟩,
    ⟨hdeployments, hstatefulSets, hdaemonSets, hcronJobs, hjobs, hreplicaSets, hcontrollers⟩, hw⟩

theorem listed_listWorkloads {c : Cluster} {ns : String} {w : Workloads}
    (h : listWorkloads c ns = .ok w) : w.Listed := by
  obtain ⟨l, -, rfl⟩ := listWorkloads_ok h
  apply Workloads.listed_foldl fun _ rc => Workloads.listed_addReplicationController rc
  apply Workloads.listed_foldl fun _ rs => Workloads.listed_addReplicaSet rs
  apply Workloads.listed_foldl fun _ j => Workloads.listed_addJob j
  apply Workloads.listed_foldl fun _ _ => Workloads.listed_add
  apply Workloads.listed_foldl fun _ _ => Workloads.listed_add
  apply Workloads.listed_foldl fun _ _ => Workloads.listed_add
  apply Workloads.listed_foldl fun _ _ => Workloads.listed_add
  exact Workloads.listed_empty

theorem shown_of_topOwner {shown : StringMap String}
    {intermediate : StringMap (List OwnerReference)} {ref top : OwnerReference} {id : String}
    {depth : Nat} (h : topOwner shown intermediate ref depth = (top, some id)) :
    shown.lookup top.uid = some id := by
  induction depth generalizing ref with
  | zero => simp [topOwner] at h
  | succ depth ih =>
      unfold topOwner at h
      split at h
      · cases h
        assumption
      · split at h
        · exact ih h
        · simp at h

/-- What a pod counts to: itself, a workload that is drawn, or an object drawn
because it owns pods. -/
inductive PodOwner where
  | bare
  | workload (id : String)
  | generic (top : OwnerReference)
  deriving DecidableEq, Repr

def ownerOf (w : Workloads) (pod : Pod) : PodOwner :=
  match pod.ownerReferences with
  | [] => .bare
  | first :: rest =>
      match topOwner w.shown w.intermediate (controllerRef first rest) maxOwnerDepth with
      | (_, some id) => .workload id
      | (top, none) => .generic top

def PodOwner.id (ns : String) (pod : Pod) : PodOwner → String
  | .bare => kubeNodeID "Pod" pod.ns pod.name
  | .workload id => id
  | .generic top => kubeNodeID top.kind ns top.name

def podOwnerID (ns : String) (w : Workloads) (pod : Pod) : String := (ownerOf w pod).id ns pod

/-- The node ID under which a pod brings an object on the canvas, if it does. -/
def genericID (ns : String) (w : Workloads) (pod : Pod) : Option String :=
  match ownerOf w pod with
  | .generic top => some (kubeNodeID top.kind ns top.name)
  | _ => none

theorem podOwnerID_of_genericID {ns id : String} {w : Workloads} {pod : Pod}
    (h : genericID ns w pod = some id) : podOwnerID ns w pod = id := by
  unfold genericID at h
  unfold podOwnerID
  split at h
  · rename_i heq
    rw [heq]
    exact Option.some.inj h
  · cases h

theorem shown_of_workload {w : Workloads} {pod : Pod} {id : String}
    (h : ownerOf w pod = .workload id) : ∃ uid, w.shown.lookup uid = some id := by
  unfold ownerOf at h
  split at h
  · cases h
  · split at h
    · cases h
      exact ⟨_, shown_of_topOwner ‹_›⟩
    · cases h

namespace Attribution

variable {a : Attribution} {ns : String} {w : Workloads} {pod : Pod} {pods : List Pod}

theorem addPod_bare (h : ownerOf w pod = .bare) :
    a.addPod ns w pod =
      { a with
        owners := a.owners ++ [⟨podNode pod "", pod.labels, pod.spec, []⟩]
        podOwner := a.podOwner.insert pod.name (kubeNodeID "Pod" pod.ns pod.name) } := by
  unfold ownerOf at h
  unfold addPod
  split at h
  · simp only [*]
    rfl
  · split at h <;> cases h

theorem addPod_workload {id : String} (h : ownerOf w pod = .workload id) :
    a.addPod ns w pod = { a with podOwner := a.podOwner.insert pod.name id } := by
  unfold ownerOf at h
  unfold addPod
  split at h
  · cases h
  · split at h
    · cases h
      simp only [*]
    · cases h

theorem addPod_generic {top : OwnerReference} (h : ownerOf w pod = .generic top) :
    a.addPod ns w pod = a.addGeneric ns top pod := by
  unfold ownerOf at h
  unfold addPod
  split at h
  · cases h
  · split at h
    · cases h
    · cases h
      simp only [*]

theorem addGeneric_known {top : OwnerReference} {position : Nat}
    (h : a.generic.lookup (kubeNodeID top.kind ns top.name) = some position) :
    a.addGeneric ns top pod =
      { a with
        owners := a.owners.modify position fun o => o.countPod pod
        podOwner := a.podOwner.insert pod.name (kubeNodeID top.kind ns top.name) } := by
  simp only [addGeneric, h]

theorem addGeneric_first {top : OwnerReference}
    (h : a.generic.lookup (kubeNodeID top.kind ns top.name) = none) :
    a.addGeneric ns top pod =
      { owners := (a.owners ++ [genericOwner ns (kubeNodeID top.kind ns top.name) top pod]).modify
          a.owners.length fun o => o.countPod pod
        podOwner := a.podOwner.insert pod.name (kubeNodeID top.kind ns top.name)
        generic := a.generic.insert (kubeNodeID top.kind ns top.name) a.owners.length } := by
  simp only [addGeneric, h]

theorem podOwner_addPod :
    (a.addPod ns w pod).podOwner = a.podOwner.insert pod.name (podOwnerID ns w pod) := by
  unfold podOwnerID
  cases h : ownerOf w pod with
  | bare => rw [addPod_bare h]; rfl
  | workload id => rw [addPod_workload h]; rfl
  | generic top =>
      rw [addPod_generic h]
      cases hknown : a.generic.lookup (kubeNodeID top.kind ns top.name) with
      | some position => rw [addGeneric_known hknown]; rfl
      | none => rw [addGeneric_first hknown]; rfl

def newOwner (ns : String) (w : Workloads) (a : Attribution) (pod : Pod) : List PodTemplateOwner :=
  match ownerOf w pod with
  | .bare => [⟨podNode pod "", pod.labels, pod.spec, []⟩]
  | .workload _ => []
  | .generic top =>
      if (a.generic.lookup (kubeNodeID top.kind ns top.name)).isSome then []
      else [genericOwner ns (kubeNodeID top.kind ns top.name) top pod]

theorem map_addPod {f : PodTemplateOwner → β}
    (hf : ∀ o : PodTemplateOwner, f (o.countPod pod) = f o) :
    (a.addPod ns w pod).owners.map f = a.owners.map f ++ (newOwner ns w a pod).map f := by
  unfold newOwner
  cases h : ownerOf w pod with
  | bare => simp [addPod_bare h]
  | workload id => simp [addPod_workload h]
  | generic top =>
      rw [addPod_generic h]
      cases hknown : a.generic.lookup (kubeNodeID top.kind ns top.name) with
      | some position => simp [addGeneric_known hknown, map_countPod pod hf, hknown]
      | none => simp [addGeneric_first hknown, map_countPod pod hf, hknown]

theorem generic_addPod (id : String) :
    ((a.addPod ns w pod).generic.lookup id).isSome ↔
      (a.generic.lookup id).isSome ∨ genericID ns w pod = some id := by
  unfold genericID
  cases h : ownerOf w pod with
  | bare => simp [addPod_bare h]
  | workload id => simp [addPod_workload h]
  | generic top =>
      rw [addPod_generic h]
      cases hknown : a.generic.lookup (kubeNodeID top.kind ns top.name) with
      | some position =>
          simp only [addGeneric_known hknown, Option.some.injEq]
          constructor
          · exact Or.inl
          · rintro (hsome | rfl)
            · exact hsome
            · simp [hknown]
      | none =>
          simp only [addGeneric_first hknown, Option.some.injEq, StringMap.lookup_insert]
          split
          · rename_i heq
            simp [heq]
          · rename_i hne
            simp [Ne.symm hne]

structure Listed (a : Attribution) : Prop where
  ungrouped : ∀ o ∈ a.owners, o.node.group = ""
  pod : ∀ name id, a.podOwner.lookup name = some id → id ∈ ownerIDs a.owners
  generic : ∀ id, (a.generic.lookup id).isSome → id ∈ ownerIDs a.owners

theorem ownerIDs_addPod :
    ownerIDs (a.addPod ns w pod).owners = ownerIDs a.owners ++ ownerIDs (newOwner ns w a pod) :=
  map_addPod fun _ => rfl

theorem podOwnerID_listed (hw : w.Listed) (hsub : ownerIDs w.owners ⊆ ownerIDs a.owners)
    (h : a.Listed) : podOwnerID ns w pod ∈ ownerIDs (a.addPod ns w pod).owners := by
  rw [ownerIDs_addPod, List.mem_append]
  unfold podOwnerID newOwner
  cases howner : ownerOf w pod with
  | bare => exact Or.inr (by simp [PodOwner.id, podNode])
  | workload id =>
      obtain ⟨uid, hshown⟩ := shown_of_workload howner
      exact Or.inl (hsub (hw.shown uid id hshown))
  | generic top =>
      by_cases hknown : (a.generic.lookup (kubeNodeID top.kind ns top.name)).isSome
      · exact Or.inl (h.generic _ hknown)
      · exact Or.inr (by simp [hknown, PodOwner.id, genericOwner])

theorem ungrouped_addPod (h : ∀ o ∈ a.owners, o.node.group = "") :
    ∀ o ∈ (a.addPod ns w pod).owners, o.node.group = "" := by
  have hmap : (a.addPod ns w pod).owners.map (fun o => o.node.group) =
      a.owners.map (fun o => o.node.group) ++ (newOwner ns w a pod).map (fun o => o.node.group) :=
    map_addPod fun _ => rfl
  intro o ho
  have hmem := hmap ▸ List.mem_map_of_mem (f := fun o : PodTemplateOwner => o.node.group) ho
  rcases List.mem_append.mp hmem with hold | hnew
  · obtain ⟨o', ho', heq⟩ := List.mem_map.mp hold
    rw [← heq]
    exact h o' ho'
  · unfold newOwner at hnew
    split at hnew
    · simpa [podNode] using hnew
    · simp at hnew
    · split at hnew
      · simp at hnew
      · simpa [genericOwner] using hnew

theorem listed_addPod (hw : w.Listed) (hsub : ownerIDs w.owners ⊆ ownerIDs a.owners)
    (h : a.Listed) : (a.addPod ns w pod).Listed where
  ungrouped := ungrouped_addPod h.ungrouped
  pod name id hlookup := by
    rw [podOwner_addPod, StringMap.lookup_insert] at hlookup
    split at hlookup
    · cases hlookup
      exact podOwnerID_listed hw hsub h
    · rw [ownerIDs_addPod]
      exact List.mem_append_left _ (h.pod name id hlookup)
  generic id hknown := by
    rcases (generic_addPod id).mp hknown with hold | hnew
    · rw [ownerIDs_addPod]
      exact List.mem_append_left _ (h.generic id hold)
    · rw [← podOwnerID_of_genericID hnew]
      exact podOwnerID_listed hw hsub h

def after (ns : String) (w : Workloads) (pods : List Pod) : Attribution :=
  pods.foldl (addPod ns w) { owners := w.owners }

@[simp] theorem after_append_singleton (pod : Pod) :
    after ns w (pods ++ [pod]) = (after ns w pods).addPod ns w pod := by
  simp [after]

theorem generic_after (id : String) :
    ((after ns w pods).generic.lookup id).isSome ↔ ∃ pod ∈ pods, genericID ns w pod = some id := by
  induction pods using List.reverseRecOn with
  | nil => simp [after]
  | append_singleton pods pod ih =>
      rw [after_append_singleton, generic_addPod, ih]
      simp [or_and_right, exists_or]

theorem ownerIDs_subset_after : ownerIDs w.owners ⊆ ownerIDs (after ns w pods).owners := by
  induction pods using List.reverseRecOn with
  | nil => exact List.Subset.refl _
  | append_singleton pods pod ih =>
      rw [after_append_singleton, ownerIDs_addPod]
      exact List.subset_append_of_subset_left _ ih

theorem listed_after (hw : w.Listed) : (after ns w pods).Listed := by
  induction pods using List.reverseRecOn with
  | nil =>
      refine ⟨hw.ungrouped, fun name id hlookup => ?_, fun id hsome => ?_⟩
      · simp [after] at hlookup
      · simp [after] at hsome
  | append_singleton pods pod ih =>
      rw [after_append_singleton]
      exact listed_addPod hw ownerIDs_subset_after ih

theorem podOwner_after (hnames : (pods.map fun pod => pod.name).Nodup) (name id : String) :
    (after ns w pods).podOwner.lookup name = some id ↔
      ∃ pod ∈ pods, pod.name = name ∧ podOwnerID ns w pod = id := by
  induction pods using List.reverseRecOn with
  | nil => simp [after]
  | append_singleton pods pod ih =>
      rw [List.map_append, List.nodup_append] at hnames
      have hfresh : ∀ p ∈ pods, p.name ≠ pod.name := fun p hp =>
        hnames.2.2 p.name (List.mem_map_of_mem hp) pod.name (by simp)
      rw [after_append_singleton, podOwner_addPod, StringMap.lookup_insert]
      split
      · rename_i heq
        subst heq
        constructor
        · intro hid
          exact ⟨pod, by simp, rfl, Option.some.inj hid⟩
        · rintro ⟨p, hp, hname, rfl⟩
          rcases List.mem_append.mp hp with hold | hself
          · exact absurd hname (hfresh p hold)
          · rw [List.mem_singleton.mp hself]
      · rename_i hne
        rw [ih hnames.1]
        constructor
        · rintro ⟨p, hp, h⟩
          exact ⟨p, by simp [hp], h⟩
        · rintro ⟨p, hp, hname, hid⟩
          rcases List.mem_append.mp hp with hold | hself
          · exact ⟨p, hold, hname, hid⟩
          · rw [List.mem_singleton.mp hself] at hname
            exact absurd hname.symm hne

end Attribution

/-! ### The labels an owner is known by -/

/-- The labels the canvas holds for a node ID: those of the templates drawn under
it, of a bare pod, and of the first pod listed under an object drawn for its pods. -/
def canvasLabels (ns : String) (w : Workloads) (pods : List Pod) (id : String) :
    List (StringMap String) :=
  (w.owners.filter fun o => o.node.id = id).map (·.labels) ++
    (pods.filter fun pod => ownerOf w pod = .bare && podOwnerID ns w pod = id).map (·.labels) ++
    ((pods.find? fun pod => genericID ns w pod = some id).map (·.labels)).toList

theorem mem_canvasLabels {ns : String} {w : Workloads} {pods : List Pod} {id : String}
    {labels : StringMap String} :
    labels ∈ canvasLabels ns w pods id ↔
      (∃ o ∈ w.owners, o.node.id = id ∧ o.labels = labels) ∨
        (∃ pod ∈ pods, ownerOf w pod = .bare ∧ podOwnerID ns w pod = id ∧ pod.labels = labels) ∨
        ∃ pod, pods.find? (fun pod => genericID ns w pod = some id) = some pod ∧
          pod.labels = labels := by
  simp [canvasLabels, and_assoc]

theorem find?_append_singleton_eq_some {p : α → Bool} {l : List α} {a b : α} :
    (l ++ [a]).find? p = some b ↔ l.find? p = some b ∨ b = a ∧ p a ∧ ∀ x ∈ l, ¬p x := by
  rw [List.find?_append]
  cases hfind : l.find? p with
  | some first =>
      have hmem := List.mem_of_find?_eq_some hfind
      have hp := List.find?_some hfind
      constructor
      · intro h
        exact Or.inl (by simpa using h)
      · rintro (h | ⟨-, -, hnone⟩)
        · simpa using h
        · exact absurd hp (hnone first hmem)
  | none =>
      have hnone := List.find?_eq_none.mp hfind
      constructor
      · intro h
        obtain ⟨ha, rfl⟩ : p a ∧ a = b := by simpa [List.find?_singleton] using h
        exact Or.inr ⟨rfl, ha, hnone⟩
      · rintro (h | ⟨rfl, ha, -⟩)
        · cases h
        · simp [ha]

theorem mem_canvasLabels_append {ns : String} {w : Workloads} {pods : List Pod} {pod : Pod}
    {id : String} {labels : StringMap String} :
    labels ∈ canvasLabels ns w (pods ++ [pod]) id ↔
      labels ∈ canvasLabels ns w pods id ∨
        pod.labels = labels ∧ (ownerOf w pod = .bare ∧ podOwnerID ns w pod = id ∨
          genericID ns w pod = some id ∧ ∀ p ∈ pods, genericID ns w p ≠ some id) := by
  simp only [mem_canvasLabels, find?_append_singleton_eq_some, List.mem_append,
    List.mem_singleton, or_and_right, exists_or, and_assoc, exists_eq_left, decide_eq_true_eq,
    ne_eq]
  grind

def PodTemplateOwner.entry (o : PodTemplateOwner) : String × StringMap String :=
  (o.node.id, o.labels)

namespace Attribution

theorem newOwner_after (pod : Pod) (id : String) (labels : StringMap String) :
    (id, labels) ∈ (newOwner ns w (after ns w pods) pod).map PodTemplateOwner.entry ↔
      pod.labels = labels ∧ (ownerOf w pod = .bare ∧ podOwnerID ns w pod = id ∨
        genericID ns w pod = some id ∧ ∀ p ∈ pods, genericID ns w p ≠ some id) := by
  unfold newOwner podOwnerID
  cases howner : ownerOf w pod with
  | bare =>
      have hself : genericID ns w pod = none := by simp [genericID, howner]
      simp [hself, PodOwner.id, podNode, PodTemplateOwner.entry, eq_comm, and_comm]
  | workload id => simp [genericID, howner]
  | generic top =>
      have hself : genericID ns w pod = some (kubeNodeID top.kind ns top.name) := by
        simp [genericID, howner]
      by_cases hfirst : ∃ p ∈ pods, genericID ns w p = some (kubeNodeID top.kind ns top.name)
      · have hknown := (generic_after _).mpr hfirst
        obtain ⟨p, hp, heq⟩ := hfirst
        simp only [hself, hknown, if_true, List.map_nil, List.not_mem_nil, false_iff]
        rintro ⟨-, ⟨hbare, -⟩ | ⟨hid, hnone⟩⟩
        · cases hbare
        · exact hnone p hp (heq.trans hid)
      · have hunknown : ¬((after ns w pods).generic.lookup
            (kubeNodeID top.kind ns top.name)).isSome := fun h => hfirst ((generic_after _).mp h)
        simp only [hself, hunknown, Bool.false_eq_true, if_false, List.map_cons, List.map_nil,
          List.mem_singleton, PodTemplateOwner.entry, genericOwner, Prod.mk.injEq, Option.some.injEq]
        constructor
        · rintro ⟨rfl, rfl⟩
          exact ⟨rfl, Or.inr ⟨rfl, fun p hp heq => hfirst ⟨p, hp, heq⟩⟩⟩
        · rintro ⟨rfl, ⟨hbare, -⟩ | ⟨rfl, -⟩⟩
          · cases hbare
          · exact ⟨rfl, rfl⟩

theorem mem_entries_after (id : String) (labels : StringMap String) :
    (id, labels) ∈ (after ns w pods).owners.map PodTemplateOwner.entry ↔
      labels ∈ canvasLabels ns w pods id := by
  induction pods using List.reverseRecOn with
  | nil => simp [after, canvasLabels, PodTemplateOwner.entry, and_assoc]
  | append_singleton pods pod ih =>
      rw [after_append_singleton, map_addPod fun _ => rfl, List.mem_append, ih, newOwner_after,
        mem_canvasLabels_append]

theorem exists_owner_iff {M : StringMap String → Prop} (id : String) :
    (∃ o ∈ (after ns w pods).owners, o.node.id = id ∧ M o.labels) ↔
      ∃ labels ∈ canvasLabels ns w pods id, M labels := by
  simp only [← mem_entries_after, List.mem_map, PodTemplateOwner.entry, Prod.mk.injEq]
  constructor
  · rintro ⟨o, ho, hid, hlabels⟩
    exact ⟨o.labels, ⟨o, ho, hid, rfl⟩, hlabels⟩
  · rintro ⟨_, ⟨o, ho, hid, rfl⟩, hlabels⟩
    exact ⟨o, ho, hid, hlabels⟩

/-- The owners listed are the workloads, and what else a pod is attributed to. -/
theorem mem_ownerIDs_after (hw : w.Listed) (id : String) :
    id ∈ ownerIDs (after ns w pods).owners ↔
      id ∈ ownerIDs w.owners ∨ ∃ pod ∈ pods, podOwnerID ns w pod = id := by
  induction pods using List.reverseRecOn with
  | nil => simp [after]
  | append_singleton pods pod ih =>
      have hnew : ∀ o ∈ newOwner ns w (after ns w pods) pod, o.node.id = podOwnerID ns w pod := by
        unfold newOwner podOwnerID
        intro o ho
        cases howner : ownerOf w pod with
        | bare =>
            rw [howner] at ho
            rw [List.mem_singleton.mp ho]
            rfl
        | workload id =>
            rw [howner] at ho
            cases ho
        | generic top =>
            simp only [howner] at ho
            split at ho
            · cases ho
            · rw [List.mem_singleton.mp ho]
              rfl
      have hlisted : podOwnerID ns w pod ∈ ownerIDs ((after ns w pods).addPod ns w pod).owners :=
        podOwnerID_listed hw ownerIDs_subset_after (listed_after hw)
      rw [ownerIDs_addPod] at hlisted
      rw [after_append_singleton, ownerIDs_addPod, List.mem_append, ih]
      constructor
      · rintro ((hold | ⟨p, hp, rfl⟩) | hself)
        · exact Or.inl hold
        · exact Or.inr ⟨p, by simp [hp], rfl⟩
        · obtain ⟨o, ho, rfl⟩ := mem_ownerIDs.mp hself
          exact Or.inr ⟨pod, by simp, (hnew o ho).symm⟩
      · rintro (hold | ⟨p, hp, rfl⟩)
        · exact Or.inl (Or.inl hold)
        · rcases List.mem_append.mp hp with hp | hself
          · exact Or.inl (Or.inr ⟨p, hp, rfl⟩)
          · obtain rfl := List.mem_singleton.mp hself
            exact (List.mem_append.mp hlisted).imp_left ih.mp

end Attribution

theorem listPodOwners_ok {c : Cluster} {ns : String} {owners : NamespaceOwners}
    (h : listPodOwners c ns = .ok owners) :
    ∃ w pods, listWorkloads c ns = .ok w ∧ c.list "Pod" ns c.pods = .ok pods ∧
      owners = ⟨(Attribution.after ns w pods).owners, (Attribution.after ns w pods).podOwner⟩ := by
  simp only [listPodOwners, Fallible.bind_eq_ok, Fallible.pure_eq_ok] at h
  obtain ⟨w, hw, pods, hpods, rfl⟩ := h
  exact ⟨w, pods, hw, orWrap_ok.mp hpods, rfl⟩

structure NamespaceOwners.Listed (owners : NamespaceOwners) : Prop where
  ungrouped : ∀ o ∈ owners.owners, o.node.group = ""
  pod : ∀ name id, owners.podOwner.lookup name = some id → id ∈ ownerIDs owners.owners

theorem listed_listPodOwners {c : Cluster} {ns : String} {owners : NamespaceOwners}
    (h : listPodOwners c ns = .ok owners) : owners.Listed := by
  obtain ⟨w, pods, hw, -, rfl⟩ := listPodOwners_ok h
  have hlisted : (Attribution.after ns w pods).Listed :=
    Attribution.listed_after (listed_listWorkloads hw)
  exact ⟨hlisted.ungrouped, hlisted.pod⟩

end Wiremap.Topology
