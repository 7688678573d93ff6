import Wiremap.Kube.Redaction
import Wiremap.Topology.NamespaceRbac

/-! One object and what it contains or is used by: an owner and its pods, a pod
and its containers, a Service and its backends, a ConfigMap and its readers. -/
namespace Wiremap.Topology

open Wiremap.Kube Wiremap.Library

def unscheduledGroup : String := "unscheduled"

/-- A Secret is fetched through the dynamic client. -/
def Fetched.redact : Fetched → Fetched
  | .unstructured u => .unstructured { u with object := redactSecret u.object }
  | obj => obj

def fetchStored (c : Cluster) (group kind ns name : String) : Except ApiError Fetched :=
  match group, kind with
  | "", "Pod" => (c.get kind ns name c.pods).map .pod
  | "", "Node" => (c.getAll kind name c.nodes).map .node
  | "", "PersistentVolumeClaim" =>
      (c.get kind ns name c.persistentVolumeClaims).map .persistentVolumeClaim
  | "", "Service" => (c.get kind ns name c.services).map .service
  | "", "ReplicationController" =>
      (c.get kind ns name c.replicationControllers).map .replicationController
  | "apps", "Deployment" => (c.get kind ns name c.deployments).map .deployment
  | "apps", "StatefulSet" => (c.get kind ns name c.statefulSets).map .statefulSet
  | "apps", "DaemonSet" => (c.get kind ns name c.daemonSets).map .daemonSet
  | "apps", "ReplicaSet" => (c.get kind ns name c.replicaSets).map .replicaSet
  | "batch", "Job" => (c.get kind ns name c.jobs).map .job
  | "batch", "CronJob" => (c.get kind ns name c.cronJobs).map .cronJob
  | _, _ => do
      match ← c.answer (.get kind ns name) (c.objects.find ((group, kind), ns, name)) with
      | some u => return .unstructured u
      | none => .error ⟨.notFound, s!"{kind} \"{name}\" not found"⟩

/-- Any object, with the values of a Secret redacted. -/
def getObject (c : Cluster) (group kind ns name : String) : Except AppError Fetched := do
  let mapping ← c.resourceFor group kind
  let scope := if mapping.namespaced then ns else ""
  let obj ← orWrap (fetchStored c group kind scope name) s!"get {kind} {name}"
  return if group = "" ∧ kind = "Secret" then obj.redact else obj

def ownedBy (refs : List OwnerReference) (uid : String) : Bool := refs.any fun r => r.uid = uid

def workloadRoot (kind ns name : String) (rating : Status × String) : GraphNode where
  id := kubeNodeID kind ns name
  kind := kind
  name := name
  ns := ns
  status := rating.1
  summary := rating.2
  weight := 2

/-- An object tree being built; `podParents` are the node IDs of the objects
pods may be owned by directly, by UID. -/
structure OwnerTree where
  graph : Graph
  podParents : StringMap String := ∅

def addScheduledPod (g : Graph) (pod : Pod) : Graph :=
  let nodeName := if pod.spec.nodeName = "" then unscheduledGroup else pod.spec.nodeName
  let groupID := kubeNodeID "Node" "" nodeName
  (g.addGroup groupID nodeName "Node").addNode (podNode pod groupID)

/-- Attribute the pods of an owner's ReplicaSets to the owner itself. -/
def collapseReplicaSet (owner ownerID : String) (t : OwnerTree) (rs : ReplicaSet) : OwnerTree :=
  if ownedBy rs.ownerReferences owner then
    { t with podParents := t.podParents.insert rs.uid ownerID }
  else t

def collapseReplicaSets (c : Cluster) (ns owner ownerID : String) (t : OwnerTree) :
    Except AppError OwnerTree := do
  let replicaSets ← orWrap (c.list "ReplicaSet" ns c.replicaSets) "list replicasets"
  return replicaSets.foldl (collapseReplicaSet owner ownerID) t

def addDeploymentTree (c : Cluster) (ns name : String) (g : Graph) : Except AppError OwnerTree := do
  let d ← orWrap (c.get "Deployment" ns name c.deployments) "get deployment"
  let root := workloadRoot "Deployment" ns name (deploymentStatus d)
  collapseReplicaSets c ns d.uid root.id ⟨g.addNode root, ∅⟩

def addRoot (g : Graph) (root : GraphNode) (uid : String) : OwnerTree :=
  ⟨g.addNode root, (∅ : StringMap String).insert uid root.id⟩

def addStatefulSetTree (c : Cluster) (ns name : String) (g : Graph) : Except AppError OwnerTree := do
  let st ← orWrap (c.get "StatefulSet" ns name c.statefulSets) "get statefulset"
  return addRoot g (workloadRoot "StatefulSet" ns name (statefulSetStatus st)) st.uid

def addDaemonSetTree (c : Cluster) (ns name : String) (g : Graph) : Except AppError OwnerTree := do
  let d ← orWrap (c.get "DaemonSet" ns name c.daemonSets) "get daemonset"
  return addRoot g (workloadRoot "DaemonSet" ns name (daemonSetStatus d)) d.uid

def addJobTree (c : Cluster) (ns name : String) (g : Graph) : Except AppError OwnerTree := do
  let j ← orWrap (c.get "Job" ns name c.jobs) "get job"
  return addRoot g (workloadRoot "Job" ns name (jobStatus j)) j.uid

def jobNode (ns : String) (j : Job) : GraphNode where
  id := kubeNodeID "Job" ns j.name
  kind := "Job"
  name := j.name
  ns := ns
  status := (jobStatus j).1
  summary := (jobStatus j).2
  drillable := true
  weight := 1

def addOwnedJob (ns rootID owner : String) (g : Graph) (j : Job) : Graph :=
  if ownedBy j.ownerReferences owner then
    (g.addNode (jobNode ns j)).addEdge rootID (jobNode ns j).id "owns"
  else g

def addCronJobTree (c : Cluster) (ns name : String) (g : Graph) : Except AppError OwnerTree := do
  let cj ← orWrap (c.get "CronJob" ns name c.cronJobs) "get cronjob"
  let root := workloadRoot "CronJob" ns name (cronJobStatus cj)
  let jobs ← orWrap (c.list "Job" ns c.jobs) "list jobs"
  return ⟨jobs.foldl (addOwnedJob ns root.id cj.uid) (g.addNode root), ∅⟩

def genericRoot (ns group kind name : String) (obj : Fetched) : GraphNode :=
  { workloadRoot kind ns name (objectStatus obj) with apiGroup := group }

/-- Any object that owns pods, directly or through the ReplicaSets it creates,
and the Jobs it creates. -/
def addGenericOwner (c : Cluster) (ns group kind name : String) (g : Graph) :
    Except AppError OwnerTree := do
  let obj ← getObject c group kind ns name
  let root := genericRoot ns group kind name obj
  let t ← collapseReplicaSets c ns obj.uid root.id (addRoot g root obj.uid)
  let jobs ← orWrap (c.list "Job" ns c.jobs) "list jobs"
  return { t with graph := jobs.foldl (addOwnedJob ns root.id obj.uid) t.graph }

/-- The first owner of the pod that the tree knows. -/
def podParent (podParents : StringMap String) (pod : Pod) : Option String :=
  pod.ownerReferences.findSome? fun ref => podParents.lookup ref.uid

def addOwnedPod (podParents : StringMap String) (g : Graph) (pod : Pod) : Graph :=
  match podParent podParents pod with
  | none => g
  | some parentID => (addScheduledPod g pod).addEdge parentID (podNode pod "").id "owns"

def addOwnedPods (c : Cluster) (ns : String) (t : OwnerTree) : Except AppError Graph := do
  let pods ← orWrap (c.list "Pod" ns c.pods) "list pods"
  return pods.foldl (addOwnedPod t.podParents) t.graph

def ownerTree (c : Cluster) (ns group kind name : String) (g : Graph) :
    Except AppError OwnerTree :=
  match group, kind with
  | "apps", "Deployment" => addDeploymentTree c ns name g
  | "apps", "StatefulSet" => addStatefulSetTree c ns name g
  | "apps", "DaemonSet" => addDaemonSetTree c ns name g
  | "batch", "Job" => addJobTree c ns name g
  | "batch", "CronJob" => addCronJobTree c ns name g
  | _, _ => addGenericOwner c ns group kind name g

def addOwnerTree (c : Cluster) (ns group kind name : String) (g : Graph) :
    Except AppError Graph := do
  let t ← ownerTree c ns group kind name g
  addOwnedPods c ns t

structure ContainerState where
  name : String
  image : String
  ready : Bool
  restartCount : Int
  state : String
  reason : String
  init : Bool

/-- The last status reported under a name. -/
def statusByName (statuses : List ContainerStatus) (name : String) : ContainerStatus :=
  ((statuses.filter fun st => st.name = name).getLast?).getD {}

def containerDto (statuses : List ContainerStatus) (init : Bool) (spec : Container) :
    ContainerState :=
  let st := statusByName statuses spec.name
  let (state, reason) : String × String :=
    if st.running then ("running", "")
    else
      match st.terminated, st.waiting with
      | some reason, _ => ("terminated", reason)
      | none, some reason => ("waiting", reason)
      | none, none => ("waiting", "")
  ⟨spec.name, spec.image, st.ready, st.restartCount, state, reason, init⟩

def containerStatus (ctr : ContainerState) : Status :=
  match ctr.state with
  | "running" => if ctr.ready || ctr.init then .healthy else .warning
  | "terminated" => if ctr.reason = "Completed" then .idle else .error
  | _ => if ctr.reason = "" || benignWaitingReasons.contains ctr.reason then .warning else .error

def containerSummary (ctr : ContainerState) : String :=
  let summary := if ctr.reason ≠ "" then ctr.reason else ctr.state
  let summary := if ctr.init then "init · " ++ summary else summary
  if ctr.restartCount > 0 then summary ++ s!" · {ctr.restartCount} restarts" else summary

def containerNode (id ns : String) (ctr : ContainerState) (spec : Container) : GraphNode where
  id := id
  kind := "Container"
  name := ctr.name
  ns := ns
  status := containerStatus ctr
  summary := containerSummary ctr
  drillable := true
  weight := 1
  details := [⟨"Image", ctr.image⟩,
    ⟨"Ports", ", ".intercalate (spec.ports.map fun p => s!"{p.containerPort}/{p.protocol}")⟩,
    ⟨"Ready", if ctr.ready then "true" else "false"⟩,
    ⟨"Command", " ".intercalate (spec.command ++ spec.args)⟩].toAList

def addContainer (ns : String) (pod : Pod) (statuses : List ContainerStatus) (init : Bool)
    (g : Graph) (spec : Container) : Graph :=
  let id := kubeNodeID "Container" ns (pod.name ++ "/" ++ spec.name)
  (g.addNode (containerNode id ns (containerDto statuses init spec) spec)).addEdge
    (podNode pod "").id id "owns"

def podRoot (pod : Pod) : GraphNode := { podNode pod "" with drillable := false, weight := 2 }

def addPodContainers (c : Cluster) (ns name : String) (g : Graph) : Except AppError Graph := do
  let pod ← orWrap (c.get "Pod" ns name c.pods) "get pod"
  let g := pod.spec.initContainers.foldl (addContainer ns pod pod.initContainerStatuses true)
    (g.addNode (podRoot pod))
  return pod.spec.containers.foldl (addContainer ns pod pod.containerStatuses false) g

/-- Whether a pod is behind a Service: named by its EndpointSlices where it has
no selector, else carrying the selected labels. -/
def serviceSelects (c : Cluster) (ns : String) (svc : Service) (pod : Pod) : Bool :=
  if svc.selector.entries.length = 0 then
    (((endpointPods c ns).lookup svc.name).getD []).contains pod.name
  else (selectorFromSet svc.selector).matches pod.labels

def serviceRoot (svc : Service) : GraphNode := { serviceNode svc with drillable := false, weight := 2 }

def addServiceBackend (rootID : String) (g : Graph) (pod : Pod) : Graph :=
  (addScheduledPod g pod).addEdge rootID (podNode pod "").id "selects"

def addServiceBackends (c : Cluster) (ns name : String) (g : Graph) : Except AppError Graph := do
  let svc ← orWrap (c.get "Service" ns name c.services) "get service"
  let pods ← orWrap (c.list "Pod" ns c.pods) "list pods"
  let root := serviceRoot svc
  let backends := pods.filter (serviceSelects c ns svc)
  return backends.foldl (addServiceBackend root.id) (g.addNode root)

def missingService (ns name : String) : GraphNode where
  id := kubeNodeID "Service" ns name
  kind := "Service"
  name := name
  ns := ns
  status := .warning
  summary := "missing"
  weight := 1

/-- A backend that cannot be read is drawn as missing. -/
def backendNode (c : Cluster) (ns backend : String) : GraphNode :=
  match c.get "Service" ns backend c.services with
  | .ok svc => serviceNode svc
  | .error _ => missingService ns backend

def addIngressBackend (c : Cluster) (ns rootID : String) (g : Graph) (backend : String) : Graph :=
  let node := backendNode c ns backend
  (g.addNode node).addEdge rootID node.id "routes"

def ingressRoot (ns name : String) (ing : Ingress) : GraphNode where
  id := kubeNodeID "Ingress" ns name
  kind := "Ingress"
  name := name
  ns := ns
  status := .healthy
  summary := ", ".intercalate (ingressHosts ing)
  weight := 2

def addIngressBackends (c : Cluster) (ns name : String) (g : Graph) : Except AppError Graph := do
  let ing ← orWrap (c.get "Ingress" ns name c.ingresses) "get ingress"
  let root := ingressRoot ns name ing
  return (ingressBackends ing).foldl (addIngressBackend c ns root.id) (g.addNode root)

/-- A claim's volume and class, skipping what cannot be read. -/
def addClaimVolume (c : Cluster) (ns name : String) (g : Graph) : Graph :=
  match c.get "PersistentVolumeClaim" ns name c.persistentVolumeClaims with
  | .error _ => g
  | .ok pvc =>
      let claimID := kubeNodeID "PersistentVolumeClaim" ns name
      let volume :=
        if pvc.volumeName ≠ "" then
          (c.getAll "PersistentVolume" pvc.volumeName c.persistentVolumes).toOption
        else none
      match volume with
      | some pv => bindVolume g claimID pv
      | none =>
          match pvc.storageClassName with
          | some className => if className ≠ "" then useStorageClass g claimID className else g
          | none => g

def addConsumer (rootID : String) (g : Graph) (pod : Pod) : Graph :=
  (addScheduledPod g pod).addEdge (podNode pod "").id rootID "uses"

def addConsumers (c : Cluster) (ns kind name : String) (g : Graph) : Except AppError Graph := do
  let obj ← getObject c "" kind ns name
  let pods ← orWrap (c.list "Pod" ns c.pods) "list pods"
  let root := workloadRoot kind ns name (objectStatus obj)
  let consumers := pods.filter fun pod => (podSpecRefs pod.spec).contains ⟨kind, name⟩
  let g := consumers.foldl (addConsumer root.id) (g.addNode root)
  return if kind = "PersistentVolumeClaim" then addClaimVolume c ns name g else g

end Wiremap.Topology
