import Wiremap.Topology.Drawing
import Wiremap.Topology.Reads

/-! Which objects open: those the cluster has. -/
namespace Wiremap.Topology

open Wiremap.Kube Wiremap.Library

def found (c : Cluster) (r : ObjectRef) : Bool :=
  match r.group, r.kind with
  | "", "Pod" => (c.pods.find (r.ns, r.name)).isSome
  | "", "Service" => (c.services.find (r.ns, r.name)).isSome
  | "networking.k8s.io", "Ingress" => (c.ingresses.find (r.ns, r.name)).isSome
  | "apps", "Deployment" => (c.deployments.find (r.ns, r.name)).isSome
  | "apps", "StatefulSet" => (c.statefulSets.find (r.ns, r.name)).isSome
  | "apps", "DaemonSet" => (c.daemonSets.find (r.ns, r.name)).isSome
  | "batch", "Job" => (c.jobs.find (r.ns, r.name)).isSome
  | "batch", "CronJob" => (c.cronJobs.find (r.ns, r.name)).isSome
  | group, kind => (getObject c group kind r.ns r.name).isOk

variable {c : Cluster} {ns name : String}

theorem exists_ok_iff {x : Except ε α} : (∃ a, x = .ok a) ↔ x.isOk = true := by
  cases x with
  | error err => simp [Except.isOk, Except.toBool]
  | ok a => simp [Except.isOk, Except.toBool]

theorem exists_get_iff [HasMeta α] (hc : c.Readable) {kind action : String} (store : Store α) :
    (∃ a, orWrap (c.get kind ns name store) action = .ok a) ↔
      (store.find (ns, name)).isSome = true := by
  simp only [orWrap_ok, Cluster.get, Cluster.answer, hc _]
  cases store.find (ns, name) with
  | none => simp [bind, Except.bind]
  | some a => simp [bind, Except.bind, pure, Except.pure]

theorem collapseReplicaSets_readable (hc : c.Readable) (ns owner ownerID : String) (t : OwnerTree) :
    ∃ t', collapseReplicaSets c ns owner ownerID t = .ok t' :=
  ⟨_, by rw [collapseReplicaSets, Cluster.list_readable hc]; rfl⟩

theorem addOwnedPods_readable (hc : c.Readable) (t : OwnerTree) :
    ∃ g, addOwnedPods c ns t = .ok g :=
  ⟨_, by rw [addOwnedPods, Cluster.list_readable hc]; rfl⟩

theorem exists_pure (a : α) : ∃ b, (pure a : Except ε α) = .ok b := ⟨a, rfl⟩

theorem addGenericOwner_opens (hc : c.Readable) (group kind : String) (g : Graph) :
    (∃ t, addGenericOwner c ns group kind name g = .ok t) ↔
      (getObject c group kind ns name).isOk = true := by
  rw [← exists_ok_iff, addGenericOwner]
  refine Fallible.exists_bind_iff fun obj => ?_
  obtain ⟨t, ht⟩ := collapseReplicaSets_readable hc ns obj.uid
    (genericRoot ns group kind name obj).id (addRoot g (genericRoot ns group kind name obj) obj.uid)
  exact ⟨_, by simp only [ht, Cluster.list_readable hc]; rfl⟩

theorem addConsumers_opens (hc : c.Readable) (kind : String) (g : Graph) :
    (∃ g', addConsumers c ns kind name g = .ok g') ↔
      (getObject c "" kind ns name).isOk = true := by
  rw [← exists_ok_iff, addConsumers]
  refine Fallible.exists_bind_iff fun obj => ?_
  exact ⟨_, by simp only [Cluster.list_readable hc]; rfl⟩

theorem ownerTree_opens (hc : c.Readable) {group kind : String} (hpod : ¬(group = "" ∧ kind = "Pod"))
    (hservice : ¬(group = "" ∧ kind = "Service"))
    (hingress : ¬(group = "networking.k8s.io" ∧ kind = "Ingress")) (g : Graph) :
    (∃ t, ownerTree c ns group kind name g = .ok t) ↔ found c ⟨group, kind, ns, name⟩ = true := by
  unfold ownerTree
  split
  · rw [show found c ⟨"apps", "Deployment", ns, name⟩ = (c.deployments.find (ns, name)).isSome
      from rfl, ← exists_get_iff hc]
    exact Fallible.exists_bind_iff fun d => collapseReplicaSets_readable hc _ _ _ _
  · rw [show found c ⟨"apps", "StatefulSet", ns, name⟩ = (c.statefulSets.find (ns, name)).isSome
      from rfl, ← exists_get_iff hc]
    exact Fallible.exists_bind_iff fun st => exists_pure _
  · rw [show found c ⟨"apps", "DaemonSet", ns, name⟩ = (c.daemonSets.find (ns, name)).isSome
      from rfl, ← exists_get_iff hc]
    exact Fallible.exists_bind_iff fun d => exists_pure _
  · rw [show found c ⟨"batch", "Job", ns, name⟩ = (c.jobs.find (ns, name)).isSome
      from rfl, ← exists_get_iff hc]
    exact Fallible.exists_bind_iff fun j => exists_pure _
  · rw [show found c ⟨"batch", "CronJob", ns, name⟩ = (c.cronJobs.find (ns, name)).isSome
      from rfl, ← exists_get_iff hc]
    refine Fallible.exists_bind_iff fun cj => ?_
    exact ⟨_, by simp only [Cluster.list_readable hc]; rfl⟩
  · have hgeneric : found c ⟨group, kind, ns, name⟩ = (getObject c group kind ns name).isOk := by
      unfold found
      split
      all_goals first | rfl | simp_all
    rw [hgeneric]
    exact addGenericOwner_opens hc group kind g

theorem objectLevel_opens (hc : c.Readable) (r : ObjectRef) :
    (∃ g, objectLevel c r.ns r.group r.kind r.name = .ok g) ↔ found c r = true := by
  obtain ⟨group, kind, ns, name⟩ := r
  unfold objectLevel
  simp only
  split
  · rw [show found c ⟨"", "Pod", ns, name⟩ = (c.pods.find (ns, name)).isSome from rfl,
      ← exists_get_iff hc]
    exact Fallible.exists_bind_iff fun pod => exists_pure _
  · rw [show found c ⟨"", "Service", ns, name⟩ = (c.services.find (ns, name)).isSome from rfl,
      ← exists_get_iff hc]
    refine Fallible.exists_bind_iff fun svc => ?_
    exact ⟨_, by simp only [Cluster.list_readable hc]; rfl⟩
  · rw [show found c ⟨"networking.k8s.io", "Ingress", ns, name⟩ =
      (c.ingresses.find (ns, name)).isSome from rfl, ← exists_get_iff hc]
    exact Fallible.exists_bind_iff fun ing => exists_pure _
  · exact addConsumers_opens hc "ConfigMap" _
  · exact addConsumers_opens hc "Secret" _
  · exact addConsumers_opens hc "PersistentVolumeClaim" _
  · rename_i hpod hservice hingress _ _ _
    rw [← ownerTree_opens hc (by simpa using hpod) (by simpa using hservice)
      (by simpa using hingress) (Graph.new .object)]
    exact Fallible.exists_bind_iff fun t => addOwnedPods_readable hc t

end Wiremap.Topology
