import Wiremap.Topology.Attribution
import Wiremap.Topology.Drawing

/-! Who controls a pod, read off the owner references in its namespace. -/
namespace Wiremap.Topology

open Wiremap.Kube Wiremap.Library

variable {c : Cluster} {ns : String}

/-- The objects of a namespace that owner references may refer to, by UID: the
node IDs of the workloads drawn, and the references of ReplicaSets and owned Jobs. -/
structure Ownership where
  drawn : StringMap String
  owned : StringMap (List OwnerReference)

structure DrawnWorkload where
  uid : String
  ref : ObjectRef
  labels : StringMap String

def drawnWorkloads (c : Cluster) (ns : String) : List DrawnWorkload :=
  (answered (c.list "Deployment" ns c.deployments)).map
      (fun d => ⟨d.uid, ⟨"apps", "Deployment", ns, d.name⟩, d.template.labels⟩) ++
    (answered (c.list "StatefulSet" ns c.statefulSets)).map
      (fun st => ⟨st.uid, ⟨"apps", "StatefulSet", ns, st.name⟩, st.template.labels⟩) ++
    (answered (c.list "DaemonSet" ns c.daemonSets)).map
      (fun d => ⟨d.uid, ⟨"apps", "DaemonSet", ns, d.name⟩, d.template.labels⟩) ++
    (answered (c.list "CronJob" ns c.cronJobs)).map
      (fun cj => ⟨cj.uid, ⟨"batch", "CronJob", ns, cj.name⟩, cj.template.labels⟩) ++
    (answered (c.list "Job" ns c.jobs)).filterMap
      (fun j => if j.ownerReferences.length > 0 then none
        else some ⟨j.uid, ⟨"batch", "Job", ns, j.name⟩, j.template.labels⟩) ++
    (answered (c.list "ReplicationController" ns c.replicationControllers)).filterMap
      (fun rc => rc.template.map fun tmpl =>
        ⟨rc.uid, ⟨"", "ReplicationController", ns, rc.name⟩, tmpl.labels⟩)

def ownedObjects (c : Cluster) (ns : String) : List (String × List OwnerReference) :=
  (answered (c.list "Job" ns c.jobs)).filterMap
      (fun j => if j.ownerReferences.length > 0 then some (j.uid, j.ownerReferences) else none) ++
    (answered (c.list "ReplicaSet" ns c.replicaSets)).map (fun rs => (rs.uid, rs.ownerReferences))

def ownership (c : Cluster) (ns : String) : Ownership where
  drawn := (∅ : StringMap String).insertAll
    ((drawnWorkloads c ns).map fun workload => (workload.uid, workload.ref.id))
  owned := (∅ : StringMap (List OwnerReference)).insertAll (ownedObjects c ns)

/-! ### What is registered -/

structure Workloads.Registers (drawn : List DrawnWorkload)
    (owned : List (String × List OwnerReference)) (w w' : Workloads) : Prop where
  owners : w'.owners.map PodTemplateOwner.entry =
    w.owners.map PodTemplateOwner.entry ++ drawn.map fun workload => (workload.ref.id, workload.labels)
  shown : w'.shown = w.shown.insertAll (drawn.map fun workload => (workload.uid, workload.ref.id))
  intermediate : w'.intermediate = w.intermediate.insertAll owned

namespace Workloads.Registers

variable {drawn drawn' : List DrawnWorkload} {owned owned' : List (String × List OwnerReference)}
variable {w w' w'' : Workloads}

theorem refl (w : Workloads) : Registers [] [] w w := ⟨(List.append_nil _).symm, rfl, rfl⟩

theorem trans (h : Registers drawn owned w w') (h' : Registers drawn' owned' w' w'') :
    Registers (drawn ++ drawn') (owned ++ owned') w w'' where
  owners := by rw [h'.owners, h.owners, List.map_append, List.append_assoc]
  shown := by rw [h'.shown, h.shown, List.map_append, StringMap.insertAll_append]
  intermediate := by rw [h'.intermediate, h.intermediate, StringMap.insertAll_append]

theorem foldl {step : Workloads → α → Workloads} {draws : α → Option DrawnWorkload}
    {owns : α → Option (String × List OwnerReference)}
    (h : ∀ w a, Registers (draws a).toList (owns a).toList w (step w a)) (l : List α)
    (w : Workloads) : Registers (l.filterMap draws) (l.filterMap owns) w (l.foldl step w) := by
  induction l generalizing w with
  | nil => exact refl w
  | cons a l ih =>
      have hrest := (h w a).trans (ih (step w a))
      have hcons : ∀ {β : Type} (f : α → Option β),
          (a :: l).filterMap f = (f a).toList ++ l.filterMap f := by
        intro β f
        cases hf : f a <;> simp [hf]
      rw [hcons, hcons]
      exact hrest

private theorem foldl_drawn {step : Workloads → α → Workloads} {draws : α → DrawnWorkload}
    (h : ∀ w a, Registers [draws a] [] w (step w a)) (l : List α) (w : Workloads) :
    Registers (l.map draws) [] w (l.foldl step w) := by
  have hfold : Registers (l.filterMap fun a => some (draws a)) (l.filterMap fun _ => none) w
      (l.foldl step w) := foldl h l w
  simpa using hfold

theorem add {group uid kind name : String} {rating : Status × String} {tmpl : PodTemplateSpec}
    {claimPrefixes : List String} :
    Registers [⟨uid, ⟨group, kind, ns, name⟩, tmpl.labels⟩] [] w
      (w.add ns uid kind name rating tmpl claimPrefixes) :=
  ⟨List.map_append, rfl, rfl⟩

theorem foldl_addDeployment (ns : String) (l : List Deployment) (w : Workloads) :
    Registers (l.map fun d => ⟨d.uid, ⟨"apps", "Deployment", ns, d.name⟩, d.template.labels⟩) [] w
      (l.foldl (Workloads.addDeployment ns) w) := by
  apply foldl_drawn
  intro w d
  exact add

theorem foldl_addStatefulSet (ns : String) (l : List StatefulSet) (w : Workloads) :
    Registers (l.map fun st => ⟨st.uid, ⟨"apps", "StatefulSet", ns, st.name⟩, st.template.labels⟩) [] w
      (l.foldl (Workloads.addStatefulSet ns) w) := by
  apply foldl_drawn
  intro w st
  exact add

theorem foldl_addDaemonSet (ns : String) (l : List DaemonSet) (w : Workloads) :
    Registers (l.map fun d => ⟨d.uid, ⟨"apps", "DaemonSet", ns, d.name⟩, d.template.labels⟩) [] w
      (l.foldl (Workloads.addDaemonSet ns) w) := by
  apply foldl_drawn
  intro w d
  exact add

theorem foldl_addCronJob (ns : String) (l : List CronJob) (w : Workloads) :
    Registers (l.map fun cj => ⟨cj.uid, ⟨"batch", "CronJob", ns, cj.name⟩, cj.template.labels⟩) [] w
      (l.foldl (Workloads.addCronJob ns) w) := by
  apply foldl_drawn
  intro w cj
  exact add

theorem addJob (ns : String) (w : Workloads) (j : Job) :
    Registers
      (if j.ownerReferences.length > 0 then none
        else some ⟨j.uid, ⟨"batch", "Job", ns, j.name⟩, j.template.labels⟩).toList
      (if j.ownerReferences.length > 0 then some (j.uid, j.ownerReferences) else none).toList
      w (w.addJob ns j) := by
  unfold Workloads.addJob
  split
  · exact ⟨(List.append_nil _).symm, rfl, rfl⟩
  · exact add

theorem addReplicationController (ns : String) (w : Workloads) (rc : ReplicationController) :
    Registers
      (rc.template.map fun tmpl =>
        (⟨rc.uid, ⟨"", "ReplicationController", ns, rc.name⟩, tmpl.labels⟩ : DrawnWorkload)).toList
      (none : Option (String × List OwnerReference)).toList w (w.addReplicationController ns rc) := by
  unfold Workloads.addReplicationController
  cases rc.template with
  | some tmpl => exact add
  | none => exact refl w

theorem foldl_addReplicaSet (l : List ReplicaSet) (w : Workloads) :
    Registers [] (l.map fun rs => (rs.uid, rs.ownerReferences)) w
      (l.foldl Workloads.addReplicaSet w) := by
  have hfold : Registers (l.filterMap fun _ => none)
      (l.filterMap fun rs => some (rs.uid, rs.ownerReferences)) w
      (l.foldl Workloads.addReplicaSet w) := foldl (fun _ _ => ⟨(List.append_nil _).symm, rfl, rfl⟩) l w
  simpa using hfold

end Workloads.Registers

theorem optionalList_ok {read : Except ApiError (List α)} {action : String} {items : List α}
    (h : optionalList read action = .ok items) : answered read = items := by
  unfold optionalList at h
  split at h
  · exact Except.ok.inj h
  · split at h
    · exact Except.ok.inj h
    · cases h

theorem registers_listWorkloads {w : Workloads} (h : listWorkloads c ns = .ok w) :
    Workloads.Registers (drawnWorkloads c ns) (ownedObjects c ns) {} w := by
  obtain ⟨l, hread, rfl⟩ := listWorkloads_ok h
  have hregisters := ((((((Workloads.Registers.foldl_addDeployment ns l.deployments {}).trans
    (.foldl_addStatefulSet ns l.statefulSets _)).trans (.foldl_addDaemonSet ns l.daemonSets _)).trans
    (.foldl_addCronJob ns l.cronJobs _)).trans (.foldl (.addJob ns) l.jobs _)).trans
    (.foldl_addReplicaSet l.replicaSets _)).trans
    (.foldl (.addReplicationController ns) l.controllers _)
  simp only [List.append_nil, List.nil_append, List.filterMap_none] at hregisters
  rw [drawnWorkloads, ownedObjects, hread.deployments, hread.statefulSets, hread.daemonSets,
    hread.cronJobs, hread.jobs, hread.replicaSets, optionalList_ok hread.controllers]
  exact hregisters

theorem ownership_listWorkloads {w : Workloads} (h : listWorkloads c ns = .ok w) :
    ownership c ns = ⟨w.shown, w.intermediate⟩ := by
  rw [(registers_listWorkloads h).shown, (registers_listWorkloads h).intermediate]
  rfl

theorem ownerIDs_listWorkloads {w : Workloads} (h : listWorkloads c ns = .ok w) :
    ownerIDs w.owners = (drawnWorkloads c ns).map (·.ref.id) := by
  have hids := congrArg (List.map Prod.fst) (registers_listWorkloads h).owners
  simpa [ownerIDs, Function.comp_def, PodTemplateOwner.entry] using hids

/-! ### Climbing -/

/-- Climbing controller references from one of them ends, in so many steps at
most, at a node ID: that of the first workload drawn, or of the last object in sight. -/
inductive LeadsTo (ns : String) (o : Ownership) : OwnerReference → Nat → String → Prop
  | workload {ref : OwnerReference} {depth : Nat} {id : String} (h : o.drawn.lookup ref.uid = some id) :
      LeadsTo ns o ref (depth + 1) id
  | climb {ref first : OwnerReference} {rest : List OwnerReference} {depth : Nat} {id : String}
      (h : o.drawn.lookup ref.uid = none) (howners : o.owned.lookup ref.uid = some (first :: rest))
      (hup : LeadsTo ns o (controllerRef first rest) depth id) : LeadsTo ns o ref (depth + 1) id
  | top {ref : OwnerReference} {depth : Nat} (h : o.drawn.lookup ref.uid = none)
      (hnone : ∀ first rest, o.owned.lookup ref.uid ≠ some (first :: rest)) :
      LeadsTo ns o ref (depth + 1) (kubeNodeID ref.kind ns ref.name)
  | spent {ref : OwnerReference} : LeadsTo ns o ref 0 (kubeNodeID ref.kind ns ref.name)

def topID (ns : String) (found : OwnerReference × Option String) : String :=
  found.2.getD (kubeNodeID found.1.kind ns found.1.name)

theorem leadsTo_topOwner (o : Ownership) (ref : OwnerReference) (depth : Nat) :
    LeadsTo ns o ref depth (topID ns (topOwner o.drawn o.owned ref depth)) := by
  induction depth generalizing ref with
  | zero => exact .spent
  | succ depth ih =>
      unfold topOwner
      split
      · rename_i id hdrawn
        exact .workload hdrawn
      · rename_i hdrawn
        split
        · rename_i first rest howners
          exact .climb hdrawn howners (ih _)
        · rename_i hnone
          exact .top hdrawn hnone

theorem LeadsTo.unique {o : Ownership} {ref : OwnerReference} {depth : Nat} {id id' : String}
    (h : LeadsTo ns o ref depth id) (h' : LeadsTo ns o ref depth id') : id = id' := by
  induction h with
  | workload hdrawn =>
      cases h' with
      | workload hdrawn' => exact Option.some.inj (hdrawn.symm.trans hdrawn')
      | climb hnone => simp [hdrawn] at hnone
      | top hnone => simp [hdrawn] at hnone
  | climb hnone howners _ ih =>
      cases h' with
      | workload hdrawn => simp [hnone] at hdrawn
      | climb _ howners' hup =>
          obtain ⟨rfl, rfl⟩ := List.cons.inj (Option.some.inj (howners.symm.trans howners'))
          exact ih hup
      | top _ htop => exact absurd howners (htop _ _)
  | top hnone htop =>
      cases h' with
      | workload hdrawn => simp [hnone] at hdrawn
      | climb _ howners => exact absurd howners (htop _ _)
      | top => rfl
  | spent =>
      cases h'
      rfl

theorem leadsTo_iff {o : Ownership} {ref : OwnerReference} {depth : Nat} {id : String} :
    LeadsTo ns o ref depth id ↔ topID ns (topOwner o.drawn o.owned ref depth) = id := by
  constructor
  · intro h
    exact (leadsTo_topOwner o ref depth).unique h
  · rintro rfl
    exact leadsTo_topOwner o ref depth

/-- The pod's controller references lead to the node ID; a bare pod is its own. -/
def Controlled (c : Cluster) (ns : String) (pod : Pod) (id : String) : Prop :=
  match pod.ownerReferences with
  | [] => kubeNodeID "Pod" pod.ns pod.name = id
  | first :: rest => LeadsTo ns (ownership c ns) (controllerRef first rest) maxOwnerDepth id

def podTop (c : Cluster) (ns : String) (pod : Pod) : Option ObjectRef :=
  match pod.ownerReferences with
  | [] => none
  | first :: rest =>
      match topOwner (ownership c ns).drawn (ownership c ns).owned (controllerRef first rest)
        maxOwnerDepth with
      | (_, some _) => none
      | (top, none) => some ⟨apiGroup top.apiVersion, top.kind, ns, top.name⟩

def barePods (pods : List Pod) : List Pod := pods.filter fun pod => pod.ownerReferences.isEmpty

theorem podOwnerID_eq_iff {w : Workloads} {pod : Pod} {id : String}
    (h : listWorkloads c ns = .ok w) : podOwnerID ns w pod = id ↔ Controlled c ns pod id := by
  unfold podOwnerID ownerOf Controlled
  rw [ownership_listWorkloads h]
  cases pod.ownerReferences with
  | nil => rfl
  | cons first rest =>
      simp only [leadsTo_iff]
      generalize topOwner w.shown w.intermediate (controllerRef first rest) maxOwnerDepth = found
      obtain ⟨top, _ | shownID⟩ := found <;> rfl

/-! ### Labels -/

/-- The labels the canvas holds under a node ID: those of the templates of the
workloads drawn there, of a bare pod, and of the first pod listed under an object
that is drawn because it owns pods. -/
def heldLabels (c : Cluster) (ns id : String) : List (StringMap String) :=
  let pods := answered (c.list "Pod" ns c.pods)
  ((drawnWorkloads c ns).filter fun workload => workload.ref.id = id).map (·.labels) ++
    ((barePods pods).filter fun pod => (podObject pod).id = id).map (·.labels) ++
    ((pods.find? fun pod => (podTop c ns pod).map ObjectRef.id = some id).map (·.labels)).toList

theorem ownerOf_eq_bare {w : Workloads} {pod : Pod} :
    ownerOf w pod = .bare ↔ pod.ownerReferences.isEmpty := by
  unfold ownerOf
  cases pod.ownerReferences with
  | nil => simp
  | cons first rest =>
      simp only [List.isEmpty_cons, Bool.false_eq_true, iff_false]
      split <;> simp

theorem genericID_eq {w : Workloads} {pod : Pod} (h : listWorkloads c ns = .ok w) :
    genericID ns w pod = (podTop c ns pod).map ObjectRef.id := by
  unfold genericID ownerOf podTop
  rw [ownership_listWorkloads h]
  cases pod.ownerReferences with
  | nil => rfl
  | cons first rest =>
      simp only
      generalize topOwner w.shown w.intermediate (controllerRef first rest) maxOwnerDepth = found
      obtain ⟨top, _ | shownID⟩ := found <;> rfl

theorem heldLabels_eq {w : Workloads} {pods : List Pod} (hw : listWorkloads c ns = .ok w)
    (hpods : c.list "Pod" ns c.pods = .ok pods) (id : String) :
    heldLabels c ns id = canvasLabels ns w pods id := by
  have htemplates : ((drawnWorkloads c ns).filter fun workload => workload.ref.id = id).map
      (·.labels) = (w.owners.filter fun o => o.node.id = id).map (·.labels) := by
    have hentries := congrArg
      (fun entries => (entries.filter fun entry : String × StringMap String => entry.1 = id).map
        Prod.snd)
      (registers_listWorkloads hw).owners
    simp only [List.map_nil, List.nil_append, List.filter_map, List.map_map] at hentries
    exact hentries.symm
  have hbare : (barePods pods).filter (fun pod => (podObject pod).id = id) =
      pods.filter fun pod => ownerOf w pod = .bare && podOwnerID ns w pod = id := by
    rw [barePods, List.filter_filter]
    refine List.filter_congr fun pod _ => ?_
    by_cases howner : ownerOf w pod = .bare
    · have hempty : pod.ownerReferences.isEmpty := ownerOf_eq_bare.mp howner
      have hid : podOwnerID ns w pod = (podObject pod).id := by rw [podOwnerID, howner]; rfl
      simp [howner, hempty, hid]
    · have hempty : pod.ownerReferences.isEmpty = false := by
        simpa using mt ownerOf_eq_bare.mpr howner
      simp [howner, hempty]
  simp only [heldLabels, canvasLabels, hpods, answered_ok, htemplates, hbare, genericID_eq hw]

end Wiremap.Topology
