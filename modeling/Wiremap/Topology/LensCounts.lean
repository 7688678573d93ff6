import Wiremap.Topology.LensNodes
import Wiremap.Topology.References

/-! What the cluster lenses count against what is there when a namespace or a node
of theirs is opened. -/
namespace Wiremap.Topology

open Wiremap.Kube Wiremap.Library

variable {c : Cluster} {ns : String} {w : Workloads} {g : Graph}

/-- The counts of the two lenses are those of the levels they open. -/
structure LensCountsAgree (c : Cluster) (namespaces nodes : Graph) : Prop where
  pods : ∀ node ∈ namespaces.nodes.items,
    node.weight = c.pods.items.countP fun pod => pod.ns = node.name
  workloads : ∀ node ∈ namespaces.nodes.items, ∀ w, listWorkloads c node.name = .ok w →
    node.summary = s!"{node.weight} pods · {w.owners.length} workloads"
  scheduled : ∀ node ∈ nodes.nodes.items, ∀ g, nodeLevel c node.name = .ok g →
    node.weight = g.nodes.items.length

/-- As the API server names the objects: no name of a namespace is empty or has a slash. -/
structure NamespaceNames (c : Cluster) : Prop where
  namespaces : ∀ ns ∈ c.namespaces.items, ns.name ≠ ""
  pods : ∀ pod ∈ c.pods.items, Text.Free '/' pod.ns

def standaloneJobs (c : Cluster) (ns : String) : List Job :=
  (answered (c.list "Job" ns c.jobs)).filter fun j => j.ownerReferences.length = 0

def templatedControllers (c : Cluster) (ns : String) : List ReplicationController :=
  (answered (c.list "ReplicationController" ns c.replicationControllers)).filter
    fun rc => rc.template.isSome

/-! ### Counts -/

theorem countIn_foldl (key : α → String) (items : List α) (counts : StringMap Nat) (k : String) :
    ((items.foldl (fun counts a => countIn counts (key a)) counts).lookup k).getD 0 =
      (counts.lookup k).getD 0 + items.countP fun a => key a = k := by
  induction items generalizing counts with
  | nil => rfl
  | cons a items ih =>
      rw [List.foldl_cons, ih, countIn, StringMap.lookup_insert, List.countP_cons]
      by_cases hkey : key a = k
      · subst hkey
        simp only [if_true, Option.getD_some, decide_true]
        omega
      · simp [hkey, Ne.symm hkey]

theorem length_list [HasMeta α] {kind : String} {store : Store α} {items : List α}
    (h : c.list kind ns store = .ok items) (hns : ns ≠ "") :
    items.length = store.items.countP fun a => (HasMeta.objectMeta a).ns = ns := by
  obtain ⟨-, rfl⟩ := Cluster.list_ok.mp h
  simp [Cluster.within, hns, List.countP_eq_length_filter]

theorem countWorkloads_eq {counts : StringMap Nat} (h : countWorkloads c = .ok counts) (ns : String) :
    (counts.lookup ns).getD 0 =
      (c.deployments.items.countP fun d => d.ns = ns) +
        (c.statefulSets.items.countP fun st => st.ns = ns) +
        (c.daemonSets.items.countP fun d => d.ns = ns) +
        c.cronJobs.items.countP fun cj => cj.ns = ns := by
  simp only [countWorkloads, Fallible.bind_eq_ok, Fallible.pure_eq_ok, orWrap_ok, Cluster.list_ok,
    Cluster.within_all] at h
  obtain ⟨_, ⟨-, rfl⟩, _, ⟨-, rfl⟩, _, ⟨-, rfl⟩, _, ⟨-, rfl⟩, rfl⟩ := h
  rw [countIn_foldl fun cj : CronJob => cj.ns, countIn_foldl fun d : DaemonSet => d.ns,
    countIn_foldl fun st : StatefulSet => st.ns, countIn_foldl fun d : Deployment => d.ns,
    AList.lookup_empty, Option.getD_none, Nat.zero_add]

theorem length_jobOwners (jobs : List Job) :
    (jobs.filterMap fun j => if j.ownerReferences.length > 0 then none
      else some (workloadOwner ns "Job" j.name (jobStatus j) j.template [])).length =
        (jobs.filter fun j => j.ownerReferences.length = 0).length := by
  rw [List.length_filterMap_eq_countP, ← List.countP_eq_length_filter]
  congr 1
  funext j
  by_cases howned : j.ownerReferences = []
  · simp [howned]
  · simp [howned, List.length_pos_iff]

theorem length_controllerOwners (controllers : List ReplicationController) :
    (controllers.filterMap fun rc => rc.template.map fun tmpl =>
      workloadOwner ns "ReplicationController" rc.name
        (replicaStatus rc.readyReplicas (derefReplicas rc.replicas)) tmpl []).length =
        (controllers.filter fun rc => rc.template.isSome).length := by
  rw [List.length_filterMap_eq_countP, ← List.countP_eq_length_filter]
  congr 1
  funext rc
  rw [Option.isSome_map]

/-- What is drawn of a namespace is what was counted, its standalone Jobs and its
ReplicationControllers. -/
theorem length_owners (hns : ns ≠ "") (h : listWorkloads c ns = .ok w) {counts : StringMap Nat}
    (hcounts : countWorkloads c = .ok counts) :
    w.owners.length = (counts.lookup ns).getD 0 + (standaloneJobs c ns).length +
      (templatedControllers c ns).length := by
  rw [owners_listWorkloads h, countWorkloads_eq hcounts]
  obtain ⟨l, hread, -⟩ := listWorkloads_ok h
  simp only [workloadOwners, hread.deployments, hread.statefulSets, hread.daemonSets,
    hread.cronJobs, answered_ok, List.length_append, List.length_map, length_jobOwners,
    length_controllerOwners, length_list hread.deployments hns, length_list hread.statefulSets hns,
    length_list hread.daemonSets hns, length_list hread.cronJobs hns]
  rfl

/-! ### The lenses -/

theorem summary_inj {pods count other : Nat} :
    s!"{pods} pods · {count} workloads" = s!"{pods} pods · {other} workloads" ↔ count = other := by
  constructor
  · intro h
    have hprefix := (String.append_left_inj _).mp h
    exact Text.toString_inj ((String.append_right_inj _).mp hprefix)
  · rintro rfl
    rfl

theorem namespacesLens_spec (h : clusterLevel c .namespaces = .ok g) :
    ∃ counts, countWorkloads c = .ok counts ∧
      (∀ ns ∈ c.namespaces.items, ∃ node ∈ g.nodes.items, node.name = ns.name) ∧
      ∀ node ∈ g.nodes.items, (∃ ns ∈ c.namespaces.items, ns.name = node.name) ∧
        (node.weight = c.pods.items.countP fun pod => pod.ns = node.name) ∧
        node.summary = s!"{node.weight} pods · {(counts.lookup node.name).getD 0} workloads" := by
  simp only [clusterLevel, namespacesGraph, Fallible.bind_eq_ok, Fallible.pure_eq_ok, orWrap_ok,
    Cluster.list_ok, Cluster.within_all] at h
  obtain ⟨_, ⟨-, rfl⟩, namespaces, hlist, counts, hcounts, rfl⟩ := h
  obtain ⟨-, rfl⟩ := Cluster.answer_ok.mp hlist
  have hadds := Graph.Adds.foldl_nodes (fun (g : Graph) ns => .addNode (namespaceNode counts
    (c.pods.items.foldl (fun counts pod => countIn counts pod.ns) ∅) (c.pods.items.foldl healthIn ∅)
    ns)) c.namespaces.items (Graph.new .cluster)
  refine ⟨counts, hcounts, fun ns hns => ?_, fun node hnode => ?_⟩
  · have hid := hadds.mem_ids.mpr (Or.inr ⟨_, List.mem_map_of_mem hns, rfl⟩)
    obtain ⟨node, hnode, hsame⟩ := KeyedList.mem_keys.mp hid
    obtain ⟨added, hadded, rfl⟩ := hadds.exists_of_mem hnode
    obtain ⟨ns', -, rfl⟩ := List.mem_map.mp hadded
    refine ⟨_, hnode, ?_⟩
    rw [GraphNode.grouped_id] at hsame
    rw [GraphNode.grouped_name]
    exact kubeNodeID_inj hsame
  · obtain ⟨added, hadded, rfl⟩ := hadds.exists_of_mem hnode
    obtain ⟨ns, hns, rfl⟩ := List.mem_map.mp hadded
    have hpods := countIn_foldl (fun pod : Pod => pod.ns) c.pods.items ∅ ns.name
    rw [AList.lookup_empty, Option.getD_none, Nat.zero_add] at hpods
    simp only [GraphNode.grouped_name, GraphNode.grouped_weight, GraphNode.grouped_summary]
    exact ⟨⟨ns, hns, rfl⟩, hpods, rfl⟩

theorem nodesLens_spec (h : clusterLevel c .nodes = .ok g) :
    ∀ node ∈ g.nodes.items, node.weight = (podsOn c node.name).length := by
  simp only [clusterLevel, nodesGraph, Fallible.bind_eq_ok, Fallible.pure_eq_ok, orWrap_ok,
    Cluster.list_ok, Cluster.within_all] at h
  obtain ⟨_, ⟨-, rfl⟩, nodes, hlist, rfl⟩ := h
  intro node hnode
  obtain ⟨added, hadded, rfl⟩ := (Graph.Adds.foldl_nodes (fun _ _ => .addNode _) nodes
    (Graph.new .cluster)).exists_of_mem hnode
  obtain ⟨n, -, rfl⟩ := List.mem_map.mp hadded
  have hpods := countIn_foldl (fun pod : Pod => pod.spec.nodeName) c.pods.items ∅ n.name
  rw [AList.lookup_empty, Option.getD_none, Nat.zero_add] at hpods
  rw [GraphNode.grouped_name, GraphNode.grouped_weight, podsOn, ← List.countP_eq_length_filter]
  exact hpods

theorem length_nodeLevel (hnames : NamespaceNames c) {nodeName : String}
    (h : nodeLevel c nodeName = .ok g) : g.nodes.items.length = (podsOn c nodeName).length := by
  have hpods : (podsOn c nodeName).Nodup :=
    (List.Nodup.of_map _ c.pods.unique).filter _
  have hids : (((podsOn c nodeName).map hostedPod).map GraphNode.grouped |>.map GraphNode.id).Nodup := by
    rw [List.map_map, List.map_map]
    refine List.Nodup.map_on (fun pod hpod pod' hpod' heq => ?_) hpods
    simp only [Function.comp_apply, GraphNode.grouped_id] at heq
    have hstored := (List.mem_filter.mp hpod).1
    have hstored' := (List.mem_filter.mp hpod').1
    obtain ⟨-, hns, hname⟩ := kubeNodeID_parts (by decide) (by decide) (hnames.pods pod hstored)
      (hnames.pods pod' hstored') heq
    exact KeyedList.eq_of_key_eq hstored hstored' (Prod.ext hns hname)
  have hitems := KeyedList.items_addAll (l := (Graph.new .node).nodes) hids
  rw [adds_nodeLevel h, hitems]
  simp [Graph.new]

/-- The lenses count what is drawn where no namespace has workloads that they leave
out: standalone Jobs and ReplicationControllers. -/
theorem lensCounts_agree_iff (c : Cluster) (namespaces nodes : Graph) (hnames : NamespaceNames c)
    (hnamespaces : clusterLevel c .namespaces = .ok namespaces)
    (hnodes : clusterLevel c .nodes = .ok nodes) :
    LensCountsAgree c namespaces nodes ↔
      ∀ ns ∈ c.namespaces.items, ∀ w, listWorkloads c ns.name = .ok w →
        standaloneJobs c ns.name = [] ∧ templatedControllers c ns.name = [] := by
  obtain ⟨counts, hcounts, hexists, hspec⟩ := namespacesLens_spec hnamespaces
  have hlength : ∀ ns ∈ c.namespaces.items, ∀ w, listWorkloads c ns.name = .ok w →
      ((counts.lookup ns.name).getD 0 = w.owners.length ↔
        standaloneJobs c ns.name = [] ∧ templatedControllers c ns.name = []) := by
    intro ns hns w hw
    rw [length_owners (hnames.namespaces ns hns) hw hcounts, ← List.length_eq_zero_iff,
      ← List.length_eq_zero_iff]
    omega
  constructor
  · intro hagree ns hns w hw
    obtain ⟨node, hnode, hname⟩ := hexists ns hns
    have hsummary := hagree.workloads node hnode w (hname ▸ hw)
    rw [(hspec node hnode).2.2, summary_inj, hname] at hsummary
    exact (hlength ns hns w hw).mp hsummary
  · intro hcounted
    refine ⟨fun node hnode => (hspec node hnode).2.1, fun node hnode w hw => ?_,
      fun node hnode g hg => ?_⟩
    · obtain ⟨⟨ns, hns, hname⟩, -, hsummary⟩ := hspec node hnode
      rw [← hname] at hw hsummary
      rw [hsummary, summary_inj]
      exact (hlength ns hns w hw).mpr (hcounted ns hns w hw)
    · rw [nodesLens_spec hnodes node hnode, length_nodeLevel hnames hg]

def cronShop : Cluster where
  namespaces := KeyedList.empty.add { name := "shop" }
  nodes := KeyedList.empty.add { name := "node-1" }
  cronJobs := KeyedList.empty.add { name := "backup", ns := "shop", uid := "cj" }
  jobs := KeyedList.empty.add
    { name := "backup-1", ns := "shop"
      ownerReferences := [⟨"batch/v1", "CronJob", "backup", "cj", some true⟩] }
  pods := KeyedList.empty.add { name := "web", ns := "shop", spec := { nodeName := "node-1" } }

theorem lensCounts_agree_cronShop :
    ∃ namespaces nodes, clusterLevel cronShop .namespaces = .ok namespaces ∧
      clusterLevel cronShop .nodes = .ok nodes ∧ LensCountsAgree cronShop namespaces nodes := by
  refine ⟨_, _, rfl, rfl, ?_⟩
  refine (lensCounts_agree_iff cronShop _ _ ⟨by decide, by decide⟩ rfl rfl).mpr ?_
  intro ns hns w _
  obtain rfl := List.mem_singleton.mp hns
  exact ⟨by decide, by decide⟩

def jobShop : Cluster where
  namespaces := KeyedList.empty.add { name := "shop" }
  jobs := KeyedList.empty.add { name := "migrate", ns := "shop" }

/-- The Job is drawn when the namespace is opened, and not counted. -/
theorem jobShop_counts_differ :
    jobShop.Readable ∧ ∃ namespaces nodes w, clusterLevel jobShop .namespaces = .ok namespaces ∧
      clusterLevel jobShop .nodes = .ok nodes ∧ listWorkloads jobShop "shop" = .ok w ∧
      w.owners.length = 1 ∧ namespaces.nodes.items.map (·.summary) = ["0 pods · 0 workloads"] ∧
      ¬LensCountsAgree jobShop namespaces nodes := by
  refine ⟨fun _ => rfl, _, _, _, rfl, rfl, rfl, rfl, by decide, fun hagree => ?_⟩
  have hcount := hagree.workloads _ List.mem_cons_self _ rfl
  exact absurd hcount (by decide)

end Wiremap.Topology
