import Wiremap.Kube.Resources
import Wiremap.Library.Text

/-! How the canvas rates an object: a status, and the line under its name. -/
namespace Wiremap.Topology

open Wiremap.Kube Wiremap.Library

inductive Status where
  | idle
  | healthy
  | warning
  | error
  deriving DecidableEq, Repr

def Status.severity : Status → Nat
  | .idle => 0
  | .healthy => 1
  | .warning => 2
  | .error => 3

def worstStatus (a b : Status) : Status := if b.severity > a.severity then b else a

def benignWaitingReasons : List String := ["ContainerCreating", "PodInitializing"]

structure ContainerTally where
  ready : Int := 0
  restarts : Int := 0
  failing : Option String := none

def ContainerTally.count (t : ContainerTally) (cs : ContainerStatus) : ContainerTally where
  ready := if cs.ready then t.ready + 1 else t.ready
  restarts := t.restarts + cs.restartCount
  failing := match cs.waiting with
    | some reason =>
        if reason ≠ "" && !benignWaitingReasons.contains reason then some reason else t.failing
    | none => t.failing

def podStatus (pod : Pod) : Status × String :=
  let tally := pod.containerStatuses.foldl ContainerTally.count {}
  let total : Int := pod.spec.containers.length
  let (status, reason) : Status × String :=
    match tally.failing with
    | some reason => (.error, reason)
    | none =>
        match pod.phase with
        | "Running" =>
            if tally.ready = total then (.healthy, pod.phase) else (.warning, "NotReady")
        | "Succeeded" => (.idle, "Completed")
        | "Failed" => (.error, pod.phase)
        | _ => (.warning, pod.phase)
  let (status, reason) := if pod.deleted then (.warning, "Terminating") else (status, reason)
  let summary := s!"{reason} · {tally.ready}/{total}"
  let summary := if tally.restarts > 0 then summary ++ s!" · {tally.restarts} restarts" else summary
  (status, summary)

def replicaStatus (ready desired : Int) : Status × String :=
  let summary := s!"{ready}/{desired} ready"
  if desired = 0 then (.idle, "scaled to 0")
  else if ready = desired then (.healthy, summary)
  else if ready = 0 then (.error, summary)
  else (.warning, summary)

def derefReplicas (replicas : Option Int) : Int := replicas.getD 1

def deploymentStatus (d : Deployment) : Status × String :=
  replicaStatus d.readyReplicas (derefReplicas d.replicas)

def statefulSetStatus (s : StatefulSet) : Status × String :=
  replicaStatus s.readyReplicas (derefReplicas s.replicas)

def daemonSetStatus (d : DaemonSet) : Status × String :=
  replicaStatus d.numberReady d.desiredNumberScheduled

def replicaSetStatus (r : ReplicaSet) : Status × String :=
  let (status, summary) := replicaStatus r.readyReplicas (derefReplicas r.replicas)
  match r.annotations.lookup "deployment.kubernetes.io/revision" with
  | some revision =>
      if revision ≠ "" then (status, "rev " ++ revision ++ " · " ++ summary) else (status, summary)
  | none => (status, summary)

def jobStatus (j : Job) : Status × String :=
  let completions := j.completions.getD 1
  let summary := s!"{j.succeeded}/{completions} succeeded"
  if j.failed > 0 && j.active = 0 && j.succeeded < completions then
    (.error, summary ++ s!" · {j.failed} failed")
  else if j.succeeded ≥ completions then (.idle, summary)
  else if j.active > 0 then (.healthy, summary ++ s!" · {j.active} active")
  else (.warning, summary)

def cronJobStatus (c : CronJob) : Status × String :=
  if c.suspend = some true then (.idle, c.schedule ++ " · suspended")
  else if c.active > 0 then (.healthy, s!"{c.schedule} · {c.active} active")
  else (.healthy, c.schedule)

def nodeStatus (n : Node) : Status :=
  if n.unschedulable then .warning
  else
    match n.conditions.find? fun cond => cond.type = "Ready" with
    | some cond => if cond.status = "True" then .healthy else .error
    | none => .warning

def pvcStatus (p : PersistentVolumeClaim) : Status × String :=
  let summary := match p.capacity.lookup "storage" with
    | some size => p.phase ++ " · " ++ size.text
    | none => p.phase
  match p.phase with
  | "Bound" => (.healthy, summary)
  | "Lost" => (.error, summary)
  | _ => (.warning, summary)

def serviceSummary (s : Service) : String :=
  if s.type = "ExternalName" then s.type ++ " → " ++ s.externalName
  else if s.ports.isEmpty then s.type
  else s.type ++ " · " ++ ", ".intercalate (s.ports.map fun p => s!"{p.port}/{p.protocol}")

def containerImages (spec : PodSpec) : String :=
  ", ".intercalate (spec.containers.map (·.image))

def phaseStatuses : List (String × Status) :=
  [("running", .healthy), ("active", .healthy), ("bound", .healthy), ("available", .healthy),
    ("ready", .healthy), ("succeeded", .idle), ("completed", .idle), ("released", .idle),
    ("pending", .warning), ("terminating", .warning), ("progressing", .warning),
    ("failed", .error), ("lost", .error), ("error", .error)]

def phaseStatus (phase : String) : Status × String :=
  ((phaseStatuses.lookup (Text.toLower phase)).getD .idle, phase)

/-- Conditions whose True value means the object is working. -/
def readyConditions : List String :=
  ["Ready", "Available", "Accepted", "Programmed", "Established", "Healthy"]

def conditionStatus (want : String) (cond : StringMap Json) : Status × String :=
  let reason := ((cond.lookup "reason").bind Json.str?).getD ""
  match (cond.lookup "status").bind Json.str? with
  | some "True" => (.healthy, want)
  | some "False" => (.error, Text.trimSpace ("Not" ++ want ++ " " ++ reason))
  | _ => (.warning, Text.trimSpace (want ++ " unknown " ++ reason))

def genericStatus (obj : Object) : Status × String :=
  let phase := obj.nestedString ["status", "phase"]
  if phase ≠ "" then phaseStatus phase
  else
    let conditions := (obj.nestedSlice ["status", "conditions"]).filterMap Json.map?
    let rated := readyConditions.findSome? fun want =>
      (conditions.find? fun cond => (cond.lookup "type").bind Json.str? = some want).map
        (conditionStatus want)
    rated.getD (.idle, "")

/-- A fetched object of any kind; the built-in kinds are rated by their own rules. -/
inductive Fetched where
  | pod (p : Pod)
  | node (n : Node)
  | persistentVolumeClaim (p : PersistentVolumeClaim)
  | service (s : Service)
  | deployment (d : Deployment)
  | statefulSet (s : StatefulSet)
  | daemonSet (d : DaemonSet)
  | replicaSet (r : ReplicaSet)
  | job (j : Job)
  | cronJob (c : CronJob)
  | replicationController (rc : ReplicationController)
  | unstructured (u : Unstructured)

def objectStatus : Fetched → Status × String
  | .pod p => podStatus p
  | .node n => (nodeStatus n, n.kubeletVersion)
  | .persistentVolumeClaim p => pvcStatus p
  | .service s => (.healthy, serviceSummary s)
  | .deployment d => deploymentStatus d
  | .statefulSet s => statefulSetStatus s
  | .daemonSet d => daemonSetStatus d
  | .replicaSet r => replicaSetStatus r
  | .job j => jobStatus j
  | .cronJob c => cronJobStatus c
  | .replicationController rc => genericStatus rc.object
  | .unstructured u => genericStatus u.object

def Fetched.uid : Fetched → String
  | .pod p => p.uid
  | .node n => n.uid
  | .persistentVolumeClaim p => p.uid
  | .service s => s.uid
  | .deployment d => d.uid
  | .statefulSet s => s.uid
  | .daemonSet d => d.uid
  | .replicaSet r => r.uid
  | .job j => j.uid
  | .cronJob c => c.uid
  | .replicationController rc => rc.uid
  | .unstructured u => u.uid

end Wiremap.Topology
