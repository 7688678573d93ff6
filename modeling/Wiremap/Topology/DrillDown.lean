import Wiremap.Topology.ObjectNodes
import Wiremap.Topology.Ownership

/-! Drilling down: the pods an owner is given in its namespace, and those drawn
when it is opened, or when a Job drawn there is. -/
namespace Wiremap.Topology

open Wiremap.Kube Wiremap.Library
open Wiremap.Topology.Graph (Adds)

variable {c : Cluster} {ns : String} {pods : List Pod} {g : Graph} {level : Level}

theorem GraphNode.Apart.ref_ne {node : GraphNode} (h : node.Apart "Pod") (name : String) :
    node.ref ≠ podRef ns name :=
  fun href => h.kind_ne (congrArg ObjectRef.kind href)

theorem apart_jobNode (j : Job) : (jobNode ns j).Apart "Pod" :=
  .of_id "Job" ns j.name rfl rfl (by decide)

theorem apart_scheduledPod (pod : Pod) : (scheduledPod pod).Apart "Job" :=
  .of_id "Pod" pod.ns pod.name rfl rfl (by decide)

theorem list_pods_ns (h : c.list "Pod" ns c.pods = .ok pods) (hns : ns ≠ "") :
    ∀ pod ∈ pods, pod.ns = ns :=
  fun _ hpod => ((Cluster.mem_of_list h hns).mp hpod).2

theorem draws_pod_iff {nodes others : List GraphNode} {p : Pod → Bool} {pod : Pod}
    (h : Adds nodes (.new level) g)
    (hnodes : ∀ n, n ∈ nodes ↔ n ∈ others ∨ ∃ pod ∈ pods, p pod ∧ scheduledPod pod = n)
    (hns : ns ≠ "") (hpods : c.list "Pod" ns c.pods = .ok pods) (hpod : pod ∈ pods)
    (hother : ∀ n ∈ others, n.ref ≠ podRef ns pod.name)
    (hfree : ∀ n ∈ others, n.id ≠ kubeNodeID "Pod" ns pod.name) :
    g.Draws (podRef ns pod.name) ↔ p pod := by
  have hsame : ∀ pod' ∈ pods, pod'.name = pod.name → pod' = pod := fun pod' hpod' hname =>
    List.inj_on_of_nodup_map (Cluster.list_names_nodup hpods hns) hpod' hpod hname
  have hpodns := list_pods_ns hpods hns
  rw [h.draws_iff ?_]
  · constructor
    · rintro ⟨n, hn, href⟩
      rcases (hnodes n).mp hn with hoth | ⟨pod', hpod', hp, rfl⟩
      · exact absurd href (hother n hoth)
      · rwa [← hsame pod' hpod' (congrArg ObjectRef.name href)]
    · intro hp
      refine ⟨scheduledPod pod, (hnodes _).mpr (Or.inr ⟨pod, hpod, hp, rfl⟩), ?_⟩
      rw [scheduledPod_ref, hpodns pod hpod]
  · intro n hn href n' hn' hid
    have hpodID : n'.id = kubeNodeID "Pod" ns pod.name := by
      rcases (hnodes n).mp hn with hoth | ⟨pod', hpod', -, rfl⟩
      · exact absurd href (hother n hoth)
      · rw [hid, ← hsame pod' hpod' (congrArg ObjectRef.name href), ← hpodns pod' hpod']
        rfl
    rcases (hnodes n').mp hn' with hoth | ⟨pod', hpod', -, rfl⟩
    · exact absurd hpodID (hfree n' hoth)
    · have hids : kubeNodeID "Pod" ns pod'.name = kubeNodeID "Pod" ns pod.name := by
        rw [← hpodID, ← hpodns pod' hpod']
        rfl
      rw [scheduledPod_ref, hpodns pod' hpod', kubeNodeID_inj hids]

theorem not_draws_job {nodes : List GraphNode} {name : String} (h : Adds nodes (.new level) g)
    (hnodes : ∀ n ∈ nodes, n.kind ≠ "Job") : ¬g.Draws (jobRef ns name) := by
  rintro ⟨n, hn, href⟩
  obtain ⟨node, hnode, rfl⟩ := h.exists_of_mem hn
  rw [GraphNode.grouped_ref] at href
  exact hnodes node hnode (congrArg ObjectRef.kind href)

/-! ### What opening an object draws -/

theorem draws_containers {name : String} (pod : Pod)
    (h : addPodContainers c ns name (.new level) = .ok g) :
    (g.Draws (podRef ns pod.name) ↔ pod.name = name) ∧ ∀ job, ¬g.Draws (jobRef ns job) := by
  obtain ⟨opened, hget, hadds⟩ := adds_addPodContainers h
  have hopened : (podRoot opened).ref = podRef ns name := by
    have hkey : (opened.ns, opened.name) = (ns, name) :=
      (KeyedList.mem_of_find (Cluster.get_ok hget)).2
    obtain ⟨rfl, rfl⟩ := Prod.mk.inj hkey
    rfl
  have hnodes : ∀ n ∈ podNodes ns opened, n = podRoot opened ∨ n.kind = "Container" ∧
      n.Apart "Pod" := by
    intro n hn
    simp only [podNodes, List.cons_append, List.mem_cons, List.mem_append, List.mem_map] at hn
    rcases hn with rfl | ⟨_, _, rfl⟩ | ⟨_, _, rfl⟩
    · exact Or.inl rfl
    · exact Or.inr ⟨rfl, .of_id "Container" _ _ rfl rfl (by decide)⟩
    · exact Or.inr ⟨rfl, .of_id "Container" _ _ rfl rfl (by decide)⟩
  refine ⟨?_, fun job => not_draws_job hadds fun n hn hjob => ?_⟩
  · rw [hadds.draws_iff ?_]
    · constructor
      · rintro ⟨n, hn, href⟩
        rcases hnodes n hn with rfl | ⟨-, hapart⟩
        · exact (congrArg ObjectRef.name (hopened.symm.trans href)).symm
        · exact absurd href (hapart.ref_ne _)
      · rintro rfl
        exact ⟨podRoot opened, List.mem_append_left _ List.mem_cons_self, hopened⟩
    · intro n hn href n' hn' hid
      rcases hnodes n hn with rfl | ⟨-, hapart⟩
      · rcases hnodes n' hn' with rfl | ⟨-, hapart'⟩
        · exact href
        · exact absurd hid (hapart'.id_ne opened.ns opened.name)
      · exact absurd href (hapart.ref_ne _)
  · rcases hnodes n hn with rfl | ⟨hcontainer, -⟩
    · have hpod : "Pod" = "Job" := hjob
      exact absurd hpod (by decide)
    · rw [hcontainer] at hjob
      exact absurd hjob (by decide)

theorem draws_among {nodes : List GraphNode} {p : Pod → Bool} {pod : Pod}
    (h : Adds nodes (.new level) g) (others : List GraphNode)
    (hnodes : ∀ n, n ∈ nodes ↔ n ∈ others ∨ ∃ pod ∈ pods, p pod ∧ scheduledPod pod = n)
    (hothers : ∀ n ∈ others, n.Apart "Pod" ∧ n.Apart "Job")
    (hns : ns ≠ "") (hpods : c.list "Pod" ns c.pods = .ok pods) (hpod : pod ∈ pods) :
    (g.Draws (podRef ns pod.name) ↔ p pod) ∧ ∀ job, ¬g.Draws (jobRef ns job) := by
  refine ⟨draws_pod_iff h hnodes hns hpods hpod (fun n hn => (hothers n hn).1.ref_ne _)
    (fun n hn => (hothers n hn).1.id_ne _ _), fun job => not_draws_job h fun n hn => ?_⟩
  rcases (hnodes n).mp hn with hoth | ⟨pod', -, -, rfl⟩
  · exact (hothers n hoth).2.kind_ne
  · exact (apart_scheduledPod pod').kind_ne

theorem GraphNode.apart_both {node : GraphNode} (own ns name : String) (hown : node.kind = own)
    (hid : node.id = kubeNodeID own ns name)
    (hkinds : own ≠ "Pod" ∧ own ≠ "Job" ∧ Text.Free '/' own) :
    node.Apart "Pod" ∧ node.Apart "Job" :=
  ⟨.of_id own ns name hown hid ⟨hkinds.1, hkinds.2.2, by decide⟩,
    .of_id own ns name hown hid ⟨hkinds.2.1, hkinds.2.2, by decide⟩⟩

theorem draws_backends {name : String} {svc : Service} {pod : Pod}
    (h : addServiceBackends c ns name (.new level) = .ok g)
    (hsvc : c.get "Service" ns name c.services = .ok svc)
    (hns : ns ≠ "") (hpods : c.list "Pod" ns c.pods = .ok pods) (hpod : pod ∈ pods) :
    (g.Draws (podRef ns pod.name) ↔ serviceSelects c ns svc pod) ∧
      ∀ job, ¬g.Draws (jobRef ns job) := by
  obtain ⟨svc', pods', hsvc', hpods', hadds⟩ := adds_addServiceBackends h
  obtain rfl := Except.ok.inj (hsvc.symm.trans hsvc')
  obtain rfl := Except.ok.inj (hpods.symm.trans hpods')
  refine draws_among hadds [serviceRoot svc] (fun n => ?_) (fun n hn => ?_) hns hpods hpod
  · simp [and_assoc]
  · rw [List.mem_singleton.mp hn]
    exact GraphNode.apart_both "Service" svc.ns svc.name rfl rfl (by decide)

theorem draws_routes {name : String} (pod : Pod)
    (h : addIngressBackends c ns name (.new level) = .ok g) :
    ¬g.Draws (podRef ns pod.name) ∧ ∀ job, ¬g.Draws (jobRef ns job) := by
  obtain ⟨ing, -, hadds⟩ := adds_addIngressBackends h
  have hkind : ∀ n ∈ ingressRoot ns name ing :: (ingressBackends ing).map (backendNode c ns),
      n.kind = "Ingress" ∨ n.kind = "Service" := by
    intro n hn
    rcases List.mem_cons.mp hn with rfl | hbackend
    · exact Or.inl rfl
    · obtain ⟨backend, -, rfl⟩ := List.mem_map.mp hbackend
      unfold backendNode
      split <;> exact Or.inr rfl
  constructor
  · rintro ⟨n, hn, href⟩
    obtain ⟨node, hnode, rfl⟩ := hadds.exists_of_mem hn
    have hpod : node.kind = "Pod" := by
      rw [GraphNode.grouped_ref] at href
      exact congrArg ObjectRef.kind href
    rcases hkind node hnode with heq | heq
    · exact absurd (heq.symm.trans hpod) (by decide)
    · exact absurd (heq.symm.trans hpod) (by decide)
  · refine fun job => not_draws_job hadds fun n hn hjob => ?_
    rcases hkind n hn with heq | heq
    · exact absurd (heq.symm.trans hjob) (by decide)
    · exact absurd (heq.symm.trans hjob) (by decide)

theorem StorageNode.apart {n : GraphNode} (h : StorageNode n) : n.Apart "Pod" ∧ n.Apart "Job" := by
  cases h with
  | volume pv => exact GraphNode.apart_both "PersistentVolume" "" pv.name rfl rfl (by decide)
  | storageClass name => exact GraphNode.apart_both "StorageClass" "" name rfl rfl (by decide)

theorem draws_consumers {group kind name : String} {pod : Pod}
    (hkind : openedAs group kind = .consumers)
    (h : addConsumers c ns kind name (.new level) = .ok g)
    (hns : ns ≠ "") (hpods : c.list "Pod" ns c.pods = .ok pods) (hpod : pod ∈ pods) :
    (g.Draws (podRef ns pod.name) ↔ consumes kind name pod) ∧
      ∀ job, ¬g.Draws (jobRef ns job) := by
  obtain ⟨obj, pods', -, hpods', hadds⟩ := adds_addConsumers h
  obtain rfl := Except.ok.inj (hpods.symm.trans hpods')
  refine draws_among hadds (workloadRoot kind ns name (objectStatus obj) ::
    if kind = "PersistentVolumeClaim" then claimVolumeNodes c ns name else [])
    (fun n => ?_) (fun n hn => ?_) hns hpods hpod
  · simp only [List.cons_append, List.mem_cons, List.mem_append, List.mem_map, List.mem_filter]
    grind
  · rcases List.mem_cons.mp hn with rfl | hvolume
    · refine GraphNode.apart_both kind ns name rfl rfl ?_
      rcases consumer_kind hkind with rfl | rfl | rfl <;> decide
    · split at hvolume
      · exact (storageNode_claimVolumeNodes hvolume).apart
      · cases hvolume

/-! ### Owners -/

theorem jobs_treeOf {group kind name : String} {t : Tree} (hns : ns ≠ "")
    (h : treeOf c ns group kind name = .ok t) :
    ∀ j ∈ t.jobs, c.jobs.find (ns, j.name) = some j := by
  intro j hj
  rcases (rooted_treeOf h).jobs with hnone | ⟨jobs, uid, hjobs, howned⟩
  · rw [hnone] at hj
    cases hj
  · rw [howned] at hj
    obtain ⟨hstored, hjns⟩ := (Cluster.mem_of_list hjobs hns).mp (List.mem_filter.mp hj).1
    exact KeyedList.find_eq_some_iff.mpr ⟨hstored, Prod.ext hjns rfl⟩

section Owner

variable {group kind name : String} {t : Tree}

theorem root_ne_pod (hcanonical : Canonical group kind) (hkind : openedAs group kind = .owned)
    (ht : treeOf c ns group kind name = .ok t) (pod : String) : t.root.ref ≠ podRef ns pod := by
  rw [root_ref hcanonical ht]
  intro heq
  obtain rfl : group = "" := congrArg ObjectRef.group heq
  obtain rfl : kind = "Pod" := congrArg ObjectRef.kind heq
  cases hkind

/-- A pod of an owner is not drawn only where the owner has its node ID. -/
theorem draws_pod_tree {pod : Pod} (hcanonical : Canonical group kind)
    (hkind : openedAs group kind = .owned) (ht : treeOf c ns group kind name = .ok t)
    (hadds : Adds (t.nodes ns pods) (.new level) g)
    (hns : ns ≠ "") (hpods : c.list "Pod" ns c.pods = .ok pods) (hpod : pod ∈ pods) :
    g.Draws (podRef ns pod.name) ↔
      t.owns pod ∧ kubeNodeID "Pod" ns pod.name ≠ kubeNodeID kind ns name := by
  have hrootref := root_ne_pod hcanonical hkind ht pod.name
  have hrootid := root_id ht
  by_cases hblocked : kubeNodeID "Pod" ns pod.name = kubeNodeID kind ns name
  · simp only [hblocked, ne_eq, not_true_eq_false, and_false, iff_false]
    intro hdraws
    refine hrootref (hadds.ref_head (fun n hn href => ?_) hdraws)
    rcases mem_treeNodes.mp hn with rfl | ⟨j, -, rfl⟩ | ⟨pod', hpod', -, rfl⟩
    · rfl
    · exact absurd href ((apart_jobNode j).ref_ne _)
    · have hname : pod'.name = pod.name := congrArg ObjectRef.name href
      rw [hrootid, ← hblocked, ← hname, ← list_pods_ns hpods hns pod' hpod']
      rfl
  · have hother : ∀ n ∈ t.root :: t.jobs.map (jobNode ns),
        n.ref ≠ podRef ns pod.name ∧ n.id ≠ kubeNodeID "Pod" ns pod.name := by
      intro n hn
      rcases List.mem_cons.mp hn with rfl | hjob
      · exact ⟨hrootref, by rw [hrootid]; exact Ne.symm hblocked⟩
      · obtain ⟨j, -, rfl⟩ := List.mem_map.mp hjob
        exact ⟨(apart_jobNode j).ref_ne _, (apart_jobNode j).id_ne _ _⟩
    have hnodes : ∀ n, n ∈ t.nodes ns pods ↔ n ∈ t.root :: t.jobs.map (jobNode ns) ∨
        ∃ pod ∈ pods, t.owns pod ∧ scheduledPod pod = n := by
      intro n
      rw [mem_treeNodes, List.mem_cons, List.mem_map, or_assoc]
    rw [draws_pod_iff hadds hnodes hns hpods hpod (fun n hn => (hother n hn).1)
      (fun n hn => (hother n hn).2)]
    simp [hblocked]

theorem draws_job_tree {j : Job} (hcanonical : Canonical group kind)
    (ht : treeOf c ns group kind name = .ok t) (hadds : Adds (t.nodes ns pods) (.new level) g)
    (hj : j ∈ t.jobs) (hfree : kubeNodeID "Job" ns j.name ≠ kubeNodeID kind ns name) :
    g.Draws (jobRef ns j.name) := by
  refine (hadds.draws_iff fun n hn href n' hn' hid => ?_).mpr
    ⟨jobNode ns j, mem_treeNodes.mpr (Or.inr (Or.inl ⟨j, hj, rfl⟩)), rfl⟩
  have hjobID : n'.id = kubeNodeID "Job" ns j.name := by
    rcases mem_treeNodes.mp hn with rfl | ⟨j', -, rfl⟩ | ⟨pod, -, -, rfl⟩
    · rw [root_ref hcanonical ht] at href
      have hname : name = j.name := congrArg ObjectRef.name href
      have hkind : kind = "Job" := congrArg ObjectRef.kind href
      rw [hkind, hname] at hfree
      exact absurd rfl hfree
    · have hname : j'.name = j.name := congrArg ObjectRef.name href
      rw [hid, ← hname]
      rfl
    · exact absurd (congrArg ObjectRef.kind href) (apart_scheduledPod pod).kind_ne
  rcases mem_treeNodes.mp hn' with rfl | ⟨j', -, rfl⟩ | ⟨pod, -, -, rfl⟩
  · rw [root_id ht] at hjobID
    exact absurd hjobID.symm hfree
  · rw [jobNode_ref, kubeNodeID_inj hjobID]
  · exact absurd hjobID ((apart_scheduledPod pod).id_ne _ _)

theorem job_of_draws {job : String} (hcanonical : Canonical group kind)
    (ht : treeOf c ns group kind name = .ok t) (hadds : Adds (t.nodes ns pods) (.new level) g)
    (h : g.Draws (jobRef ns job)) :
    (group = "batch" ∧ kind = "Job" ∧ name = job) ∨
      ∃ j ∈ t.jobs, j.name = job ∧ kubeNodeID "Job" ns j.name ≠ kubeNodeID kind ns name := by
  have hrootref := root_ref hcanonical ht
  have hrootid := root_id ht
  have hroot : t.root.ref = jobRef ns job → group = "batch" ∧ kind = "Job" ∧ name = job := by
    intro href
    rw [hrootref] at href
    exact ⟨congrArg ObjectRef.group href, congrArg ObjectRef.kind href, congrArg ObjectRef.name href⟩
  by_cases hblocked : kubeNodeID "Job" ns job = kubeNodeID kind ns name
  · refine Or.inl (hroot (hadds.ref_head (fun n hn href => ?_) h))
    rcases mem_treeNodes.mp hn with rfl | ⟨j, -, rfl⟩ | ⟨pod, -, -, rfl⟩
    · rfl
    · have hname : j.name = job := congrArg ObjectRef.name href
      rw [hrootid, ← hblocked, ← hname]
      rfl
    · exact absurd (congrArg ObjectRef.kind href) (apart_scheduledPod pod).kind_ne
  · obtain ⟨n, hn, href⟩ := h
    obtain ⟨node, hnode, rfl⟩ := hadds.exists_of_mem hn
    rw [GraphNode.grouped_ref] at href
    rcases mem_treeNodes.mp hnode with rfl | ⟨j, hj, rfl⟩ | ⟨pod, -, -, rfl⟩
    · exact Or.inl (hroot href)
    · obtain rfl : j.name = job := congrArg ObjectRef.name href
      exact Or.inr ⟨j, hj, rfl, hblocked⟩
    · exact absurd (congrArg ObjectRef.kind href) (apart_scheduledPod pod).kind_ne

end Owner

theorem draws_pod_job {job : String} {j : Job} {pod : Pod}
    (hget : c.get "Job" ns job c.jobs = .ok j)
    (h : objectLevel c ns "batch" "Job" job = .ok g)
    (hns : ns ≠ "") (hpods : c.list "Pod" ns c.pods = .ok pods) (hpod : pod ∈ pods) :
    g.Draws (podRef ns pod.name) ↔ ownedBy pod.ownerReferences j.uid := by
  have htree : addOwnerTree c ns "batch" "Job" job (.new .object) = .ok g := h
  obtain ⟨t, pods', ht, hpods', hadds⟩ := adds_addOwnerTree htree
  obtain rfl := Except.ok.inj (hpods.symm.trans hpods')
  have hcanonical : Canonical "batch" "Job" := fun hnone => absurd hnone (by decide)
  rw [draws_pod_tree hcanonical rfl ht hadds hns hpods hpod]
  have hkinds : kubeNodeID "Pod" ns pod.name ≠ kubeNodeID "Job" ns job := fun heq =>
    absurd (kubeNodeID_kind (by decide) (by decide) heq).1 (by decide)
  simp only [treeOf, jobTree, Fallible.bind_eq_ok, Fallible.pure_eq_ok, orWrap_ok] at ht
  obtain ⟨j', hj, rfl⟩ := ht
  obtain rfl := Except.ok.inj (hget.symm.trans hj)
  simp only [ne_eq, hkinds, not_false_eq_true, and_true, Tree.owns, ownedBy, eq_comm (a := j.uid)]

theorem exists_jobLevel {job : String} {j : Job} (hget : c.get "Job" ns job c.jobs = .ok j)
    (hpods : c.list "Pod" ns c.pods = .ok pods) :
    ∃ g, objectLevel c ns "batch" "Job" job = .ok g := by
  have htree : ∃ g, addOwnerTree c ns "batch" "Job" job (.new .object) = .ok g := by
    simp only [addOwnerTree, ownerTree, addJobTree, addOwnedPods, Fallible.bind_eq_ok,
      Fallible.pure_eq_ok, orWrap_ok]
    exact ⟨_, _, ⟨j, hget, rfl⟩, pods, hpods, rfl⟩
  exact htree

theorem get_jobLevel {job : String} (h : objectLevel c ns "batch" "Job" job = .ok g) :
    ∃ j, c.get "Job" ns job c.jobs = .ok j := by
  have htree : addOwnerTree c ns "batch" "Job" job (.new .object) = .ok g := h
  obtain ⟨t, pods, ht, -, -⟩ := adds_addOwnerTree htree
  simp only [treeOf, jobTree, Fallible.bind_eq_ok, Fallible.pure_eq_ok, orWrap_ok] at ht
  obtain ⟨j, hget, -⟩ := ht
  exact ⟨j, hget⟩

/-! ### Where the levels agree -/

/-- The pod is drawn in the graph, or when a Job drawn there is opened. -/
def DrawnThrough (c : Cluster) (ns : String) (g : Graph) (pod : String) : Prop :=
  g.Draws (podRef ns pod) ∨
    ∃ job g', g.Draws (jobRef ns job) ∧ objectLevel c ns "batch" "Job" job = .ok g' ∧
      g'.Draws (podRef ns pod)

/-- What a pod is drawn for when an owner is opened: a reference, controller or
not, to what its tree takes pods from, or to a Job of its own that can be read. -/
def ReachedFrom (c : Cluster) (ns group kind name : String) (pod : Pod) : Prop :=
  ∃ t, treeOf c ns group kind name = .ok t ∧
    (t.owns pod ∧ kubeNodeID "Pod" ns pod.name ≠ kubeNodeID kind ns name ∨
      ∃ j ∈ t.jobs, kubeNodeID "Job" ns j.name ≠ kubeNodeID kind ns name ∧
        c.get "Job" ns j.name c.jobs = .ok j ∧ ownedBy pod.ownerReferences j.uid)

def ShownFor (c : Cluster) (ns group kind name : String) (pod : Pod) : Prop :=
  match openedAs group kind with
  | .containers => pod.name = name
  | .backends => ∃ svc, c.get "Service" ns name c.services = .ok svc ∧ serviceSelects c ns svc pod
  | .routes => False
  | .consumers => consumes kind name pod
  | .owned => ReachedFrom c ns group kind name pod

theorem drawnThrough_owned {group kind name : String} {pod : Pod}
    (hcanonical : Canonical group kind) (hkind : openedAs group kind = .owned)
    (h : objectLevel c ns group kind name = .ok g)
    (hns : ns ≠ "") (hpods : c.list "Pod" ns c.pods = .ok pods) (hpod : pod ∈ pods) :
    DrawnThrough c ns g pod.name ↔ ReachedFrom c ns group kind name pod := by
  have htree := h
  rw [objectLevel_eq, hkind] at htree
  obtain ⟨t, pods', ht, hpods', hadds⟩ := adds_addOwnerTree htree
  obtain rfl := Except.ok.inj (hpods.symm.trans hpods')
  have hdirect := draws_pod_tree hcanonical hkind ht hadds hns hpods hpod
  have hstored := jobs_treeOf hns ht
  constructor
  · rintro (hdraws | ⟨job, g', hjob, hlevel, hdraws⟩)
    · exact ⟨t, ht, Or.inl (hdirect.mp hdraws)⟩
    · rcases job_of_draws hcanonical ht hadds hjob with ⟨rfl, rfl, rfl⟩ | ⟨j, hj, rfl, hfree⟩
      · obtain rfl := Except.ok.inj (h.symm.trans hlevel)
        exact ⟨t, ht, Or.inl (hdirect.mp hdraws)⟩
      · obtain ⟨j', hget⟩ := get_jobLevel hlevel
        obtain rfl := Option.some.inj ((hstored j hj).symm.trans (Cluster.get_ok hget))
        exact ⟨t, ht, Or.inr ⟨j, hj, hfree, hget,
          (draws_pod_job hget hlevel hns hpods hpod).mp hdraws⟩⟩
  · rintro ⟨t', ht', howned⟩
    obtain rfl := Except.ok.inj (ht.symm.trans ht')
    rcases howned with howned | ⟨j, hj, hfree, hget, howned⟩
    · exact Or.inl (hdirect.mpr howned)
    · obtain ⟨g', hlevel⟩ := exists_jobLevel hget hpods
      exact Or.inr ⟨j.name, g', draws_job_tree hcanonical ht hadds hj hfree, hlevel,
        (draws_pod_job hget hlevel hns hpods hpod).mpr howned⟩

theorem drawnThrough_of_no_job {pod : String} (h : ∀ job, ¬g.Draws (jobRef ns job)) :
    DrawnThrough c ns g pod ↔ g.Draws (podRef ns pod) := by
  constructor
  · rintro (hdraws | ⟨job, -, hjob, -⟩)
    · exact hdraws
    · exact absurd hjob (h job)
  · exact Or.inl

theorem drawnThrough_iff {group kind name : String} {pod : Pod}
    (hcanonical : Canonical group kind) (h : objectLevel c ns group kind name = .ok g)
    (hns : ns ≠ "") (hpods : c.list "Pod" ns c.pods = .ok pods) (hpod : pod ∈ pods) :
    DrawnThrough c ns g pod.name ↔ ShownFor c ns group kind name pod := by
  unfold ShownFor
  have hlevel := h
  rw [objectLevel_eq] at hlevel
  cases hkind : openedAs group kind with
  | containers =>
      rw [hkind] at hlevel
      obtain ⟨hpod, hjob⟩ := draws_containers pod hlevel
      exact (drawnThrough_of_no_job hjob).trans hpod
  | backends =>
      rw [hkind] at hlevel
      obtain ⟨svc, -, hsvc, -⟩ := adds_addServiceBackends hlevel
      obtain ⟨hpod, hjob⟩ := draws_backends hlevel hsvc hns hpods hpod
      rw [drawnThrough_of_no_job hjob, hpod]
      constructor
      · exact fun hselects => ⟨svc, hsvc, hselects⟩
      · rintro ⟨svc', hsvc', hselects⟩
        obtain rfl := Except.ok.inj (hsvc.symm.trans hsvc')
        exact hselects
  | routes =>
      rw [hkind] at hlevel
      obtain ⟨hnone, hjob⟩ := draws_routes pod hlevel
      rw [drawnThrough_of_no_job hjob]
      exact iff_false_intro hnone
  | consumers =>
      rw [hkind] at hlevel
      obtain ⟨hpod, hjob⟩ := draws_consumers hkind hlevel hns hpods hpod
      exact (drawnThrough_of_no_job hjob).trans hpod
  | owned => exact drawnThrough_owned hcanonical hkind h hns hpods hpod

/-- An owner, drawn or not, shows the pods it is given exactly if the pods whose
controller references lead to it are those it is opened for. -/
theorem drillDown_agrees_iff (c : Cluster) (ns : String) (owners : NamespaceOwners)
    (o : PodTemplateOwner) (opened : Graph) (hns : ns ≠ "")
    (howners : listPodOwners c ns = .ok owners)
    (hopened : objectLevel c ns o.node.grouped.apiGroup o.node.kind o.node.name = .ok opened) :
    (∀ pod ∈ Cluster.within ns c.pods,
        owners.podOwner.lookup pod.name = some o.node.id ↔ DrawnThrough c ns opened pod.name) ↔
      ∀ pod ∈ Cluster.within ns c.pods, Controlled c ns pod o.node.id ↔
        ShownFor c ns o.node.grouped.apiGroup o.node.kind o.node.name pod := by
  obtain ⟨w, pods, hw, hpods, rfl⟩ := listPodOwners_ok howners
  obtain ⟨-, hwithin⟩ := Cluster.list_ok.mp hpods
  have hnames := Cluster.list_names_nodup hpods hns
  rw [hwithin]
  refine forall₂_congr fun pod hpod => ?_
  rw [drawnThrough_iff (canonical_grouped o.node) hopened hns hpods hpod,
    Attribution.podOwner_after hnames, ← podOwnerID_eq_iff hw]
  refine iff_congr ?_ Iff.rfl
  constructor
  · rintro ⟨pod', hpod', hname, hid⟩
    rwa [← List.inj_on_of_nodup_map hnames hpod' hpod hname]
  · intro hid
    exact ⟨pod, hpod, rfl, hid⟩

def webDeployment : Deployment := { name := "web", ns := "shop", uid := "d" }

def rolledOutPod : Pod :=
  { name := "web-1-a", ns := "shop", uid := "p"
    ownerReferences := [⟨"apps/v1", "ReplicaSet", "web-1", "r", some true⟩] }

def rolledOut : Cluster where
  deployments := KeyedList.empty.add webDeployment
  replicaSets := KeyedList.empty.add
    { name := "web-1", ns := "shop", uid := "r"
      ownerReferences := [⟨"apps/v1", "Deployment", "web", "d", some true⟩] }
  pods := KeyedList.empty.add rolledOutPod

theorem drillDown_agrees_rolledOut :
    ∃ owners o opened, listPodOwners rolledOut "shop" = .ok owners ∧ o ∈ owners.owners ∧
      objectLevel rolledOut "shop" "apps" "Deployment" "web" = .ok opened ∧
      ∀ pod ∈ Cluster.within "shop" rolledOut.pods,
        owners.podOwner.lookup pod.name = some o.node.id ↔
          DrawnThrough rolledOut "shop" opened pod.name := by
  refine ⟨_, workloadOwner "shop" "Deployment" "web" (deploymentStatus webDeployment)
    webDeployment.template [], _, rfl, List.mem_cons_self, rfl, ?_⟩
  refine (drillDown_agrees_iff rolledOut "shop" _ _ _ (by decide) rfl rfl).mpr fun pod hpod => ?_
  obtain rfl : pod = rolledOutPod := List.mem_singleton.mp hpod
  refine iff_of_true ?_ ?_
  · exact LeadsTo.climb rfl rfl (.workload rfl)
  · exact ⟨_, rfl, Or.inl ⟨by decide, by decide⟩⟩

theorem Graph.kind_of_draws {r : ObjectRef} (h : g.Draws r) :
    r.kind ∈ g.nodes.items.map (·.kind) := by
  obtain ⟨n, hn, rfl⟩ := h
  exact List.mem_map_of_mem hn

def directPod : Cluster where
  deployments := KeyedList.empty.add webDeployment
  pods := KeyedList.empty.add
    { name := "web-debug", ns := "shop", uid := "p"
      ownerReferences := [⟨"apps/v1", "Deployment", "web", "d", some true⟩] }

theorem directPod_not_drawn :
    ∃ owners g o opened, listPodOwners directPod "shop" = .ok owners ∧
      namespaceLevel directPod default "shop" = .ok g ∧ o ∈ owners.owners ∧
      o.node.kind ≠ "Pod" ∧ o.node.id ∈ g.ids ∧
      objectLevel directPod "shop" o.node.grouped.apiGroup o.node.kind o.node.name = .ok opened ∧
      owners.podOwner.lookup "web-debug" = some o.node.id ∧
      ¬DrawnThrough directPod "shop" opened "web-debug" := by
  refine ⟨_, _, workloadOwner "shop" "Deployment" "web" (deploymentStatus webDeployment)
    webDeployment.template [], _, rfl, rfl, List.mem_cons_self, by decide, by decide, rfl,
    by decide, ?_⟩
  rintro (hpod | ⟨job, -, hjob, -⟩)
  · exact absurd (Graph.kind_of_draws hpod) (by decide)
  · exact absurd (Graph.kind_of_draws hjob) (show "Job" ∉ _ by decide)

end Wiremap.Topology
