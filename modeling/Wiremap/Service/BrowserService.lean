import Wiremap.Topology.ObjectGraph

/-! Lists of any kind the cluster serves, a page at a time. -/
namespace Wiremap.Service.BrowserService

open Wiremap.Kube Wiremap.Library Wiremap.Topology

/-- An API version that cannot be parsed leaves no kind at all. -/
def groupKindOf (obj : Object) : String :=
  match Text.split '/' obj.apiVersion with
  | [_] => Cluster.groupKind "" obj.kind
  | [group, _] => Cluster.groupKind group obj.kind
  | _ => ""

def typedKinds : List String :=
  ["Pod", "Node", "PersistentVolumeClaim", "Service", "Deployment.apps", "StatefulSet.apps",
    "DaemonSet.apps", "ReplicaSet.apps", "Job.batch", "CronJob.batch"]

structure KubeObject where
  name : String
  ns : String
  kind : String
  group : String
  status : Status
  summary : String
  created : String
  drillable : Bool

structure KubeObjectList where
  items : List KubeObject
  continueToken : String

def drillableKinds : List String :=
  ["/Namespace", "/Node", "/Pod", "/Service", "/ConfigMap", "/Secret", "/PersistentVolumeClaim",
    "apps/Deployment", "apps/StatefulSet", "apps/DaemonSet", "apps/ReplicaSet", "batch/Job",
    "batch/CronJob", "networking.k8s.io/Ingress"]

structure Page where
  items : List Object
  continueToken : String

/-- What is outside: how an object converts to a built-in kind, how its time of
creation is printed, and the pages of a resource. -/
structure Api where
  fromUnstructured : String → Object → Option Fetched
  formatTime : String → String
  list : String → String → String → String → String → Except ApiError Page

def Api.objectStatus (api : Api) (obj : Object) : Status × String :=
  if typedKinds.contains (groupKindOf obj) then
    match api.fromUnstructured (groupKindOf obj) obj with
    | some typed => Topology.objectStatus typed
    | none => genericStatus obj
  else genericStatus obj

def Api.objectDto (api : Api) (group : String) (obj : Object) : KubeObject where
  name := obj.name
  ns := obj.ns
  kind := obj.kind
  group := group
  status := (api.objectStatus obj).1
  summary := (api.objectStatus obj).2
  created := api.formatTime (obj.nestedString ["metadata", "creationTimestamp"])
  drillable := drillableKinds.contains (group ++ "/" ++ obj.kind)

def list (api : Api) (pool : Except AppError Unit)
    (group version resource ns continueToken : String) : Except AppError KubeObjectList := do
  pool
  if version = "" ∨ resource = "" then
    throw (.badRequest "version and resource are required")
  let page ← orWrap (api.list group version resource ns continueToken)
    ("list " ++ Cluster.groupKind group resource)
  return ⟨page.items.map (api.objectDto group), page.continueToken⟩

end Wiremap.Service.BrowserService
