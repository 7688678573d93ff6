import Wiremap.Topology.ClusterLenses
import Wiremap.Topology.GatewayGraph
import Wiremap.Topology.ObjectGraph

/-! The drill-down levels of the canvas, each built from reads of one cluster. -/
namespace Wiremap.Topology

open Wiremap.Kube Wiremap.Library

def clusterLevel (c : Cluster) (lens : Lens) : Except AppError Graph :=
  match lens with
  | .storage => storageGraph c
  | .access => accessGraph c
  | .nodes => do
      let pods ← orWrap (c.list "Pod" "" c.pods) "list pods"
      nodesGraph c pods
  | .namespaces => do
      let pods ← orWrap (c.list "Pod" "" c.pods) "list pods"
      namespacesGraph c pods

/-- The steps are in this order because later ones link to nodes of earlier ones. -/
def namespaceSteps (c : Cluster) (order : RangeOrder) (ns : String) (owners : NamespaceOwners) :
    List (Graph → Except AppError Graph) :=
  [addServices c ns owners,
    addIngresses c ns,
    addGatewayRoutes c ns,
    addConfigRefs c order ns owners,
    addAutoscalers c ns,
    addDisruptionBudgets c ns owners,
    addNetworkPolicies c ns owners,
    addServiceAccounts c order ns owners,
    addQuotas c ns]

def namespaceLevel (c : Cluster) (order : RangeOrder) (ns : String) : Except AppError Graph := do
  let owners ← listPodOwners c ns
  let g := owners.owners.foldl (fun g o => g.addNode o.node) (Graph.new .namespace)
  (namespaceSteps c order ns owners).foldlM (fun g step => step g) g

def objectLevel (c : Cluster) (ns group kind name : String) : Except AppError Graph :=
  let g := Graph.new .object
  match group, kind with
  | "", "Pod" => addPodContainers c ns name g
  | "", "Service" => addServiceBackends c ns name g
  | "networking.k8s.io", "Ingress" => addIngressBackends c ns name g
  | "", "ConfigMap" => addConsumers c ns "ConfigMap" name g
  | "", "Secret" => addConsumers c ns "Secret" name g
  | "", "PersistentVolumeClaim" => addConsumers c ns "PersistentVolumeClaim" name g
  | _, _ => addOwnerTree c ns group kind name g

def addNodePod (g : Graph) (pod : Pod) : Graph :=
  let groupID := kubeNodeID "Namespace" "" pod.ns
  (g.addGroup groupID pod.ns "Namespace").addNode (podNode pod groupID)

def nodeLevel (c : Cluster) (nodeName : String) : Except AppError Graph := do
  let pods ← orWrap (c.answer (.list "Pod" "")
    (c.pods.items.filter fun pod => pod.spec.nodeName = nodeName)) "list pods on node"
  return pods.foldl addNodePod (Graph.new .node)

inductive Canvas where
  | cluster (lens : Lens)
  | inNamespace (ns : String)
  | object (ns group kind name : String)
  | node (name : String)
  deriving DecidableEq, Repr

def topology (c : Cluster) (order : RangeOrder) : Canvas → Except AppError Graph
  | .cluster lens => clusterLevel c lens
  | .inNamespace ns => namespaceLevel c order ns
  | .object ns group kind name => objectLevel c ns group kind name
  | .node name => nodeLevel c name

end Wiremap.Topology
