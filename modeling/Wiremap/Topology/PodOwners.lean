import Wiremap.Kube.Cluster
import Wiremap.Topology.Graph

/-! Every pod of a namespace is attributed to the top-level object that controls
it: a workload drawn at this level, another object that owns pods, or itself. -/
namespace Wiremap.Topology

open Wiremap.Kube Wiremap.Library

structure PodTemplateOwner where
  node : GraphNode
  labels : StringMap String
  spec : PodSpec
  /-- PVC name prefixes from a StatefulSet's volumeClaimTemplates. -/
  claimPrefixes : List String := []

structure NamespaceOwners where
  owners : List PodTemplateOwner
  /-- The graph node ID of the owner of each pod, by pod name. -/
  podOwner : StringMap String

/-- The workloads registered so far: `shown` are the node IDs of those drawn, and
`intermediate` the owner references of ReplicaSets and owned Jobs, by UID. -/
structure Workloads where
  owners : List PodTemplateOwner := []
  shown : StringMap String := ∅
  intermediate : StringMap (List OwnerReference) := ∅

def workloadOwner (ns kind name : String) (rating : Status × String) (tmpl : PodTemplateSpec)
    (claimPrefixes : List String) : PodTemplateOwner where
  node :=
    { id := kubeNodeID kind ns name
      kind := kind
      name := name
      ns := ns
      status := rating.1
      summary := rating.2
      drillable := true
      weight := 1
      details := [⟨"Images", containerImages tmpl.spec⟩].toAList }
  labels := tmpl.labels
  spec := tmpl.spec
  claimPrefixes := claimPrefixes

def Workloads.add (w : Workloads) (ns uid kind name : String) (rating : Status × String)
    (tmpl : PodTemplateSpec) (claimPrefixes : List String) : Workloads :=
  { w with
    owners := w.owners ++ [workloadOwner ns kind name rating tmpl claimPrefixes]
    shown := w.shown.insert uid (kubeNodeID kind ns name) }

def Workloads.addDeployment (ns : String) (w : Workloads) (d : Deployment) : Workloads :=
  w.add ns d.uid "Deployment" d.name (deploymentStatus d) d.template []

def Workloads.addStatefulSet (ns : String) (w : Workloads) (st : StatefulSet) : Workloads :=
  w.add ns st.uid "StatefulSet" st.name (statefulSetStatus st) st.template
    (st.volumeClaimTemplates.map fun claim => claim ++ "-" ++ st.name ++ "-")

def Workloads.addDaemonSet (ns : String) (w : Workloads) (d : DaemonSet) : Workloads :=
  w.add ns d.uid "DaemonSet" d.name (daemonSetStatus d) d.template []

def Workloads.addCronJob (ns : String) (w : Workloads) (cj : CronJob) : Workloads :=
  w.add ns cj.uid "CronJob" cj.name (cronJobStatus cj) cj.template []

/-- A Job that something owns, a CronJob for one, is not drawn itself. -/
def Workloads.addJob (ns : String) (w : Workloads) (j : Job) : Workloads :=
  if j.ownerReferences.length > 0 then
    { w with intermediate := w.intermediate.insert j.uid j.ownerReferences }
  else w.add ns j.uid "Job" j.name (jobStatus j) j.template []

def Workloads.addReplicaSet (w : Workloads) (rs : ReplicaSet) : Workloads :=
  { w with intermediate := w.intermediate.insert rs.uid rs.ownerReferences }

def Workloads.addReplicationController (ns : String) (w : Workloads)
    (rc : ReplicationController) : Workloads :=
  match rc.template with
  | some tmpl =>
      w.add ns rc.uid "ReplicationController" rc.name
        (replicaStatus rc.readyReplicas (derefReplicas rc.replicas)) tmpl []
  | none => w

/-- A list that may be refused to the user, or not exist, and then is empty. -/
def optionalList (read : Except ApiError (List α)) (action : String) :
    Except AppError (List α) :=
  match read with
  | .ok items => .ok items
  | .error err => if isOptional err then .ok [] else .error (wrapError err action)

def listWorkloads (c : Cluster) (ns : String) : Except AppError Workloads := do
  let deployments ← orWrap (c.list "Deployment" ns c.deployments) "list deployments"
  let w := deployments.foldl (Workloads.addDeployment ns) {}
  let statefulSets ← orWrap (c.list "StatefulSet" ns c.statefulSets) "list statefulsets"
  let w := statefulSets.foldl (Workloads.addStatefulSet ns) w
  let daemonSets ← orWrap (c.list "DaemonSet" ns c.daemonSets) "list daemonsets"
  let w := daemonSets.foldl (Workloads.addDaemonSet ns) w
  let cronJobs ← orWrap (c.list "CronJob" ns c.cronJobs) "list cronjobs"
  let w := cronJobs.foldl (Workloads.addCronJob ns) w
  let jobs ← orWrap (c.list "Job" ns c.jobs) "list jobs"
  let w := jobs.foldl (Workloads.addJob ns) w
  let replicaSets ← orWrap (c.list "ReplicaSet" ns c.replicaSets) "list replicasets"
  let w := replicaSets.foldl Workloads.addReplicaSet w
  let controllers ← optionalList (c.list "ReplicationController" ns c.replicationControllers)
    "list replicationcontrollers"
  return controllers.foldl (Workloads.addReplicationController ns) w

def maxOwnerDepth : Nat := 5

/-- The controller among the owner references `first :: rest`, or the first. -/
def controllerRef (first : OwnerReference) (rest : List OwnerReference) : OwnerReference :=
  ((first :: rest).find? fun r => r.controller = some true).getD first

/-- Follow controller references up to a drawn workload, with its node ID, or to
the highest reference in sight; `depth` bounds the climb. -/
def topOwner (shown : StringMap String) (intermediate : StringMap (List OwnerReference))
    (ref : OwnerReference) : Nat → OwnerReference × Option String
  | 0 => (ref, none)
  | depth + 1 =>
      match shown.lookup ref.uid with
      | some id => (ref, some id)
      | none =>
          match intermediate.lookup ref.uid with
          | some (first :: rest) => topOwner shown intermediate (controllerRef first rest) depth
          | _ => (ref, none)

def apiGroup (apiVersion : String) : String :=
  match apiVersion.toList.splitOn '/' with
  | [group, _] => .ofList group
  | _ => ""

/-- The pods attributed so far; `generic` are the positions in `owners` of the
objects drawn only because they own pods, by node ID. -/
structure Attribution where
  owners : List PodTemplateOwner
  podOwner : StringMap String := ∅
  generic : StringMap Nat := ∅

def genericOwner (ns id : String) (top : OwnerReference) (pod : Pod) : PodTemplateOwner where
  node :=
    { id := id
      kind := top.kind
      apiGroup := apiGroup top.apiVersion
      name := top.name
      ns := ns
      status := .idle
      drillable := true
      weight := 0 }
  labels := pod.labels
  spec := pod.spec

def PodTemplateOwner.countPod (owner : PodTemplateOwner) (pod : Pod) : PodTemplateOwner :=
  { owner with
    node := { owner.node with
      status := worstStatus owner.node.status (podStatus pod).1
      weight := owner.node.weight + 1
      summary := s!"{owner.node.weight + 1} pods" } }

def Attribution.addGeneric (a : Attribution) (ns : String) (top : OwnerReference) (pod : Pod) :
    Attribution :=
  let id := kubeNodeID top.kind ns top.name
  let (owners, generic, position) :=
    match a.generic.lookup id with
    | some position => (a.owners, a.generic, position)
    | none =>
        (a.owners ++ [genericOwner ns id top pod], a.generic.insert id a.owners.length,
          a.owners.length)
  { owners := owners.modify position fun owner => owner.countPod pod
    podOwner := a.podOwner.insert pod.name id
    generic := generic }

def Attribution.addPod (ns : String) (w : Workloads) (a : Attribution) (pod : Pod) :
    Attribution :=
  match pod.ownerReferences with
  | [] =>
      let owner : PodTemplateOwner := ⟨podNode pod "", pod.labels, pod.spec, []⟩
      { a with
        owners := a.owners ++ [owner]
        podOwner := a.podOwner.insert pod.name owner.node.id }
  | first :: rest =>
      match topOwner w.shown w.intermediate (controllerRef first rest) maxOwnerDepth with
      | (_, some id) => { a with podOwner := a.podOwner.insert pod.name id }
      | (top, none) => a.addGeneric ns top pod

def listPodOwners (c : Cluster) (ns : String) : Except AppError NamespaceOwners := do
  let w ← listWorkloads c ns
  let pods ← orWrap (c.list "Pod" ns c.pods) "list pods"
  let a := pods.foldl (Attribution.addPod ns w) { owners := w.owners }
  return ⟨a.owners, a.podOwner⟩

end Wiremap.Topology
