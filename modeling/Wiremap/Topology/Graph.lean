import Wiremap.Topology.Status

/-! The graph of one drill-down level and its builder.  Adding what is there
already changes nothing, so identifiers stay distinct by construction. -/
namespace Wiremap.Topology

open Wiremap.Kube Wiremap.Library

inductive Level where
  | cluster
  | namespace
  | object
  | node
  deriving DecidableEq, Repr

def gatewayGroup : String := "gateway.networking.k8s.io"

/-- API groups of the kinds the canvas draws; core kinds have none. -/
def kindGroups : List (String × String) :=
  [("Deployment", "apps"), ("StatefulSet", "apps"), ("DaemonSet", "apps"),
    ("ReplicaSet", "apps"), ("Job", "batch"), ("CronJob", "batch"),
    ("Ingress", "networking.k8s.io"), ("NetworkPolicy", "networking.k8s.io"),
    ("HorizontalPodAutoscaler", "autoscaling"), ("PodDisruptionBudget", "policy"),
    ("Role", "rbac.authorization.k8s.io"), ("RoleBinding", "rbac.authorization.k8s.io"),
    ("ClusterRole", "rbac.authorization.k8s.io"),
    ("ClusterRoleBinding", "rbac.authorization.k8s.io"),
    ("StorageClass", "storage.k8s.io"),
    ("Gateway", gatewayGroup), ("HTTPRoute", gatewayGroup), ("GRPCRoute", gatewayGroup),
    ("TLSRoute", gatewayGroup), ("TCPRoute", gatewayGroup), ("UDPRoute", gatewayGroup)]

structure GraphNode where
  id : String
  kind : String
  apiGroup : String := ""
  name : String
  ns : String := ""
  status : Status
  summary : String := ""
  drillable : Bool := false
  group : String := ""
  weight : Nat
  details : StringMap String := ∅

structure GraphEdge where
  source : String
  target : String
  kind : String
  deriving DecidableEq, Repr

structure GraphGroup where
  id : String
  name : String
  kind : String
  deriving DecidableEq, Repr

structure Graph where
  level : Level
  nodes : KeyedList GraphNode.id
  edges : KeyedList (id : GraphEdge → GraphEdge)
  groups : KeyedList GraphGroup.id

def kubeNodeID (kind ns name : String) : String := kind ++ "/" ++ ns ++ "/" ++ name

theorem kubeNodeID_inj {kind ns name name' : String}
    (h : kubeNodeID kind ns name = kubeNodeID kind ns name') : name = name' :=
  (String.append_right_inj _).mp h

theorem kubeNodeID_kind {kind kind' ns ns' name name' : String} (hkind : Text.Free '/' kind)
    (hkind' : Text.Free '/' kind') (h : kubeNodeID kind ns name = kubeNodeID kind' ns' name') :
    kind = kind' ∧ ns ++ "/" ++ name = ns' ++ "/" ++ name' := by
  have hjoin : ∀ kind ns name : String,
      kubeNodeID kind ns name = kind ++ String.singleton '/' ++ (ns ++ "/" ++ name) := by
    intro kind ns name
    simp only [kubeNodeID, String.append_assoc]
    rfl
  rw [hjoin, hjoin] at h
  exact Text.join_inj_left hkind hkind' h

theorem kubeNodeID_parts {kind kind' ns ns' name name' : String} (hkind : Text.Free '/' kind)
    (hkind' : Text.Free '/' kind') (hns : Text.Free '/' ns) (hns' : Text.Free '/' ns')
    (h : kubeNodeID kind ns name = kubeNodeID kind' ns' name') :
    kind = kind' ∧ ns = ns' ∧ name = name' := by
  obtain ⟨hk, hrest⟩ := kubeNodeID_kind hkind hkind' h
  refine ⟨hk, ?_⟩
  change ns ++ String.singleton '/' ++ name = ns' ++ String.singleton '/' ++ name' at hrest
  exact Text.join_inj_left hns hns' hrest

/-- The node with its API group filled in for the kinds the canvas knows. -/
def GraphNode.grouped (node : GraphNode) : GraphNode :=
  if node.apiGroup = "" then { node with apiGroup := (kindGroups.lookup node.kind).getD "" }
  else node

@[simp] theorem GraphNode.grouped_id (node : GraphNode) : node.grouped.id = node.id := by
  unfold GraphNode.grouped
  split <;> rfl

@[simp] theorem GraphNode.grouped_group (node : GraphNode) : node.grouped.group = node.group := by
  unfold GraphNode.grouped
  split <;> rfl

namespace Graph

def new (level : Level) : Graph := ⟨level, .empty, .empty, .empty⟩

def addNode (g : Graph) (node : GraphNode) : Graph :=
  { g with nodes := g.nodes.add node.grouped }

def hasNode (g : Graph) (id : String) : Bool := g.nodes.has id

def addEdge (g : Graph) (source target kind : String) : Graph :=
  { g with edges := g.edges.add ⟨source, target, kind⟩ }

def addGroup (g : Graph) (id name kind : String) : Graph :=
  { g with groups := g.groups.add ⟨id, name, kind⟩ }

def ids (g : Graph) : List String := g.nodes.keys

variable (g : Graph)

theorem hasNode_iff (id : String) : g.hasNode id ↔ id ∈ g.ids := g.nodes.has_iff id

@[simp] theorem ids_new (level : Level) : (new level).ids = [] := rfl

@[simp] theorem mem_ids_addNode (node : GraphNode) (id : String) :
    id ∈ (g.addNode node).ids ↔ id ∈ g.ids ∨ id = node.id := by
  simp [ids, addNode]

@[simp] theorem edges_addNode (node : GraphNode) : (g.addNode node).edges = g.edges := rfl

@[simp] theorem edges_addGroup (id name kind : String) :
    (g.addGroup id name kind).edges = g.edges := rfl

@[simp] theorem ids_addEdge (source target kind : String) :
    (g.addEdge source target kind).ids = g.ids := rfl

@[simp] theorem ids_addGroup (id name kind : String) : (g.addGroup id name kind).ids = g.ids := rfl

theorem mem_nodes_addNode {node n : GraphNode} (h : n ∈ (g.addNode node).nodes.items) :
    n ∈ g.nodes.items ∨ n = node.grouped :=
  (KeyedList.mem_add.mp h).imp_right And.left

@[simp] theorem mem_edges_addEdge (source target kind : String) (e : GraphEdge) :
    e ∈ (g.addEdge source target kind).edges.items ↔
      e ∈ g.edges.items ∨ e = ⟨source, target, kind⟩ :=
  KeyedList.mem_add_id

end Graph

def podNode (pod : Pod) (group : String) : GraphNode where
  id := kubeNodeID "Pod" pod.ns pod.name
  kind := "Pod"
  name := pod.name
  ns := pod.ns
  status := (podStatus pod).1
  summary := (podStatus pod).2
  drillable := true
  group := group
  weight := 1
  details := [⟨"Node", pod.spec.nodeName⟩, ⟨"Pod IP", pod.podIP⟩,
    ⟨"Images", containerImages pod.spec⟩].toAList

end Wiremap.Topology
