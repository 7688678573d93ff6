import Wiremap.Topology.NamespaceRbac

/-! The lenses of the cluster level: its namespaces, its nodes, its storage and
who may access it. -/
namespace Wiremap.Topology

open Wiremap.Kube Wiremap.Library

inductive Lens where
  | namespaces
  | nodes
  | storage
  | access
  deriving DecidableEq, Repr

def storageClassNode (sc : StorageClass) : GraphNode where
  id := kubeNodeID "StorageClass" "" sc.name
  kind := "StorageClass"
  name := sc.name
  status := .healthy
  summary := sc.provisioner
  weight := 1
  details := [⟨"Default",
    if sc.annotations.lookup "storageclass.kubernetes.io/is-default-class" = some "true" then "yes"
    else "no"⟩].toAList

def addLensVolume (g : Graph) (pv : PersistentVolume) : Graph :=
  let g := addPersistentVolume g pv
  if pv.storageClassName ≠ "" then
    useStorageClass g (kubeNodeID "PersistentVolume" "" pv.name) pv.storageClassName
  else g

def lensClaimNode (pvc : PersistentVolumeClaim) : GraphNode where
  id := kubeNodeID "PersistentVolumeClaim" pvc.ns pvc.name
  kind := "PersistentVolumeClaim"
  name := pvc.name
  ns := pvc.ns
  status := (pvcStatus pvc).1
  summary := pvc.ns ++ " · " ++ (pvcStatus pvc).2
  drillable := true
  weight := 1

def addLensClaim (g : Graph) (pvc : PersistentVolumeClaim) : Graph :=
  let claim := lensClaimNode pvc
  let g := g.addNode claim
  let pvID := kubeNodeID "PersistentVolume" "" pvc.volumeName
  if pvc.volumeName ≠ "" && g.hasNode pvID then g.addEdge claim.id pvID "bound"
  else
    match pvc.storageClassName with
    | some className => if className ≠ "" then useStorageClass g claim.id className else g
    | none => g

def storageGraph (c : Cluster) : Except AppError Graph := do
  let classes ← orWrap (c.listAll "StorageClass" c.storageClasses) "list storageclasses"
  let volumes ← orWrap (c.listAll "PersistentVolume" c.persistentVolumes) "list persistentvolumes"
  let claims ← orWrap (c.list "PersistentVolumeClaim" "" c.persistentVolumeClaims)
    "list persistentvolumeclaims"
  let g := classes.foldl (fun g sc => g.addNode (storageClassNode sc)) (Graph.new .cluster)
  let g := volumes.foldl addLensVolume g
  return claims.foldl addLensClaim g

def systemPrefix : String := "system:"

def isSystemBinding (name : String) (subjects : List Subject) : Bool :=
  Text.hasPrefix name systemPrefix ||
    (subjects.length > 0 && subjects.all fun sub =>
      Text.hasPrefix sub.name systemPrefix || Text.hasPrefix sub.ns "kube-")

def subjectNode (ns : String) (sub : Subject) : GraphNode :=
  let subNamespace :=
    if sub.kind = "ServiceAccount" then (if sub.ns = "" then ns else sub.ns) else ""
  { id := kubeNodeID sub.kind subNamespace sub.name
    kind := sub.kind
    name := sub.name
    ns := subNamespace
    status := .healthy
    summary := if subNamespace ≠ "" then subNamespace else Text.toLower sub.kind
    weight := 1 }

def addSubject (bindingID ns : String) (g : Graph) (sub : Subject) : Graph :=
  let node := subjectNode ns sub
  (g.addNode node).addEdge bindingID node.id "binds"

def accessBindingNode (kind ns name : String) (roleRef : RoleRef) : GraphNode :=
  let summary := roleRef.kind ++ " " ++ roleRef.name
  { id := kubeNodeID kind ns name
    kind := kind
    name := name
    ns := ns
    status := .healthy
    summary := if ns ≠ "" then ns ++ " · " ++ summary else summary
    weight := 1 }

def addAccessBinding (kind : String) (rules : StringMap Nat) (g : Graph) (ns name : String)
    (subjects : List Subject) (roleRef : RoleRef) : Graph :=
  let binding := accessBindingNode kind ns name roleRef
  let g := subjects.foldl (addSubject binding.id ns) (g.addNode binding)
  let role := roleNode roleRef ns rules
  (g.addNode role).addEdge binding.id role.id "grants"

def addClusterRoleBinding (rules : StringMap Nat) (g : Graph) (b : ClusterRoleBinding) : Graph :=
  if isSystemBinding b.name b.subjects then g
  else addAccessBinding "ClusterRoleBinding" rules g "" b.name b.subjects b.roleRef

def addRoleBinding (rules : StringMap Nat) (g : Graph) (b : RoleBinding) : Graph :=
  if isSystemBinding b.name b.subjects then g
  else addAccessBinding "RoleBinding" rules g b.ns b.name b.subjects b.roleRef

def accessGraph (c : Cluster) : Except AppError Graph := do
  let clusterBindings ← orWrap (c.listAll "ClusterRoleBinding" c.clusterRoleBindings)
    "list clusterrolebindings"
  let roleBindings ← orWrap (c.list "RoleBinding" "" c.roleBindings) "list rolebindings"
  let rules := roleRules c ""
  let g := clusterBindings.foldl (addClusterRoleBinding rules) (Graph.new .cluster)
  return roleBindings.foldl (addRoleBinding rules) g

def countIn (counts : StringMap Nat) (key : String) : StringMap Nat :=
  counts.insert key ((counts.lookup key).getD 0 + 1)

/-- The number of top-level workloads in each namespace. -/
def countWorkloads (c : Cluster) : Except AppError (StringMap Nat) := do
  let deployments ← orWrap (c.list "Deployment" "" c.deployments) "list deployments"
  let counts := deployments.foldl (fun counts d => countIn counts d.ns) (∅ : StringMap Nat)
  let statefulSets ← orWrap (c.list "StatefulSet" "" c.statefulSets) "list statefulsets"
  let counts := statefulSets.foldl (fun counts s => countIn counts s.ns) counts
  let daemonSets ← orWrap (c.list "DaemonSet" "" c.daemonSets) "list daemonsets"
  let counts := daemonSets.foldl (fun counts d => countIn counts d.ns) counts
  let cronJobs ← orWrap (c.list "CronJob" "" c.cronJobs) "list cronjobs"
  return cronJobs.foldl (fun counts cj => countIn counts cj.ns) counts

/-- A namespace without pods is idle, which is also what no pod rates less than. -/
def healthIn (health : StringMap Status) (pod : Pod) : StringMap Status :=
  health.insert pod.ns (worstStatus ((health.lookup pod.ns).getD .idle) (podStatus pod).1)

def namespaceNode (workloads podCount : StringMap Nat) (podHealth : StringMap Status)
    (ns : Namespace) : GraphNode where
  id := kubeNodeID "Namespace" "" ns.name
  kind := "Namespace"
  name := ns.name
  status := if ns.phase = "Terminating" then .warning else (podHealth.lookup ns.name).getD .idle
  summary := s!"{(podCount.lookup ns.name).getD 0} pods · {(workloads.lookup ns.name).getD 0} workloads"
  drillable := true
  weight := (podCount.lookup ns.name).getD 0
  details := [⟨"Phase", ns.phase⟩].toAList

def namespacesGraph (c : Cluster) (pods : List Pod) : Except AppError Graph := do
  let namespaces ← orWrap (c.listAll "Namespace" c.namespaces) "list namespaces"
  let workloads ← countWorkloads c
  let podCount := pods.foldl (fun counts pod => countIn counts pod.ns) (∅ : StringMap Nat)
  let podHealth := pods.foldl healthIn (∅ : StringMap Status)
  return namespaces.foldl (fun g ns => g.addNode (namespaceNode workloads podCount podHealth ns))
    (Graph.new .cluster)

def nodeRolePrefix : String := "node-role.kubernetes.io/"

def nodeRoles (n : Node) : String :=
  let labelled := n.labels.keys.filter fun label => Text.hasPrefix label nodeRolePrefix
  let roles := (labelled.map fun label => Text.trimPrefix label nodeRolePrefix).mergeSort
    fun a b => decide (a ≤ b)
  if roles.isEmpty then "worker" else ", ".intercalate roles

def machineNode (podCount : StringMap Nat) (n : Node) : GraphNode where
  id := kubeNodeID "Node" "" n.name
  kind := "Node"
  name := n.name
  status := nodeStatus n
  summary := s!"{(podCount.lookup n.name).getD 0} pods · {n.kubeletVersion}"
  drillable := true
  weight := (podCount.lookup n.name).getD 0
  details := [⟨"Roles", nodeRoles n⟩, ⟨"OS", n.osImage⟩, ⟨"CPU", n.cpu⟩,
    ⟨"Memory", n.memory⟩].toAList

def nodesGraph (c : Cluster) (pods : List Pod) : Except AppError Graph := do
  let nodes ← orWrap (c.listAll "Node" c.nodes) "list nodes"
  let podCount := pods.foldl (fun counts pod => countIn counts pod.spec.nodeName) (∅ : StringMap Nat)
  return nodes.foldl (fun g n => g.addNode (machineNode podCount n)) (Graph.new .cluster)

end Wiremap.Topology
