import Wiremap.Topology.TopologyService

/-! The handler of topology requests: one level of a cluster, selected by the query. -/
namespace Wiremap.Handler.KubeClusterHandler

open Wiremap.Kube Wiremap.Topology

/-- Query parameters in the order they are sent; the first of a name counts. -/
abbrev Query := List (String × String)

def query (params : Query) (key : String) : String := (params.lookup key).getD ""

def defaultQuery (params : Query) (key other : String) : String := (params.lookup key).getD other

/-- A lens that is not known shows the namespaces. -/
def lensOf : String → Lens
  | "storage" => .storage
  | "access" => .access
  | "nodes" => .nodes
  | _ => .namespaces

def canvasOf (params : Query) : Except AppError Canvas :=
  match defaultQuery params "level" "cluster" with
  | "cluster" => .ok (.cluster (lensOf (defaultQuery params "lens" "namespaces")))
  | "namespace" => .ok (.inNamespace (query params "namespace"))
  | "object" =>
      .ok (.object (query params "namespace") (query params "group") (query params "kind")
        (query params "name"))
  | "node" => .ok (.node (query params "name"))
  | level => .error (.badRequest s!"unknown level \"{level}\"")

def topology (c : Cluster) (order : RangeOrder) (params : Query) : Except AppError Graph := do
  let canvas ← canvasOf params
  Topology.topology c order canvas

end Wiremap.Handler.KubeClusterHandler
