import Wiremap.Topology.NamespacePolicies

/-! Gateway API objects: Gateways, and the routes from them to Services.  They
are read unstructured, as the cluster may not serve them. -/
namespace Wiremap.Topology

open Wiremap.Kube Wiremap.Library

def gatewayRouteKinds : List String :=
  ["HTTPRoute", "GRPCRoute", "TLSRoute", "TCPRoute", "UDPRoute"]

inductive ReadError where
  | app (err : AppError)
  | api (err : ApiError)

/-- Only an API error is ever optional or reworded. -/
def optionalRead (read : Except ReadError α) (action : String) (g : Graph)
    (step : α → Except AppError Graph) : Except AppError Graph :=
  match read with
  | .ok value => step value
  | .error (.api err) => if isOptional err then .ok g else .error (wrapError err action)
  | .error (.app err) => .error (.internal s!"failed to {action}: {err.message}")

theorem optionalRead_cases {read : Except ReadError α} {action : String} {g g' : Graph}
    {step : α → Except AppError Graph} (h : optionalRead read action g step = .ok g') :
    (∃ value, read = .ok value ∧ step value = .ok g') ∨ ∃ err, read = .error err ∧ g = g' := by
  unfold optionalRead at h
  split at h
  · exact Or.inl ⟨_, rfl, h⟩
  · split at h
    · exact Or.inr ⟨_, rfl, Except.ok.inj h⟩
    · cases h
  · cases h

def customObjects (c : Cluster) (group kind ns : String) : List Unstructured :=
  c.objects.items.filter fun u => u.group = group && u.kind = kind && (ns = "" || u.ns = ns)

def listUnstructured (c : Cluster) (kind ns : String) : Except ReadError (List Unstructured) :=
  match c.resourceFor gatewayGroup kind with
  | .error err => .error (.app err)
  | .ok _ =>
      match c.answer (.list kind ns) (customObjects c gatewayGroup kind ns) with
      | .error err => .error (.api err)
      | .ok items => .ok items

def gatewayNode (ns : String) (gw : Unstructured) : GraphNode :=
  let cls := gw.object.nestedString ["spec", "gatewayClassName"]
  let listeners := gw.object.nestedSlice ["spec", "listeners"]
  { id := kubeNodeID "Gateway" ns gw.name
    kind := "Gateway"
    name := gw.name
    ns := ns
    status := (genericStatus gw.object).1
    summary := s!"{cls} · {listeners.length} listeners"
    weight := 1 }

def accepted (parent : Object) : Bool :=
  (parent.nestedSlice ["conditions"]).all fun raw =>
    let cond := raw.object
    !(cond.nestedString ["type"] = "Accepted" && cond.nestedString ["status"] ≠ "True")

/-- The Accepted condition each parent Gateway reports for the route. -/
def routeStatus (route : Object) : Status × String :=
  let parents := route.nestedSlice ["status", "parents"]
  if parents.isEmpty then (.warning, "not attached")
  else if parents.all fun raw => accepted raw.object then (.healthy, "accepted")
  else (.error, "not accepted")

def routeSummary (hostnames : List String) : String :=
  match hostnames with
  | [] => "*"
  | [host] => host
  | host :: rest => s!"{host} +{rest.length}"

def parentNode (name gwNamespace : String) : GraphNode where
  id := kubeNodeID "Gateway" gwNamespace name
  kind := "Gateway"
  name := name
  ns := gwNamespace
  status := .idle
  summary := "in namespace " ++ gwNamespace
  weight := 1

/-- The Gateway a parent reference names, unless it names something else. -/
def parentGateway (ns : String) (raw : Json) : Option GraphNode :=
  let ref := raw.object
  let refKind := ref.nestedString ["kind"]
  if refKind ≠ "" && refKind ≠ "Gateway" then none
  else
    let refNamespace := ref.nestedString ["namespace"]
    some (parentNode (ref.nestedString ["name"]) (if refNamespace = "" then ns else refNamespace))

def addParent (id ns : String) (g : Graph) (raw : Json) : Graph :=
  match parentGateway ns raw with
  | none => g
  | some gateway =>
      let drawn := if g.hasNode gateway.id then g else g.addNode gateway
      drawn.addEdge gateway.id id "routes"

def addBackend (id ns : String) (g : Graph) (raw : Json) : Graph :=
  let backend := raw.object
  let backendKind := backend.nestedString ["kind"]
  if backendKind ≠ "" && backendKind ≠ "Service" then g
  else routeTo id ns g (backend.nestedString ["name"])

def routeNode (kind ns : String) (route : Unstructured) : GraphNode where
  id := kubeNodeID kind ns route.name
  kind := kind
  name := route.name
  ns := ns
  status := (routeStatus route.object).1
  summary := routeSummary (route.object.nestedStringSlice ["spec", "hostnames"])
  weight := 1

def addRule (id ns : String) (g : Graph) (rule : Json) : Graph :=
  (rule.object.nestedSlice ["backendRefs"]).foldl (addBackend id ns) g

/-- Link a route to its parent Gateways, drawing those of other namespaces, and
to its backend Services. -/
def addRoute (kind ns : String) (g : Graph) (route : Unstructured) : Graph :=
  let node := routeNode kind ns route
  let g := (route.object.nestedSlice ["spec", "parentRefs"]).foldl (addParent node.id ns)
    (g.addNode node)
  (route.object.nestedSlice ["spec", "rules"]).foldl (addRule node.id ns) g

def addRoutes (c : Cluster) (ns : String) (g : Graph) : List String → Except AppError Graph
  | [] => .ok g
  | kind :: rest =>
      if c.serves gatewayGroup kind then
        optionalRead (listUnstructured c kind ns) ("list " ++ kind) g fun routes =>
          addRoutes c ns (routes.foldl (addRoute kind ns) g) rest
      else addRoutes c ns g rest

def addGatewayRoutes (c : Cluster) (ns : String) (g : Graph) : Except AppError Graph :=
  if c.serves gatewayGroup "Gateway" then
    optionalRead (listUnstructured c "Gateway" ns) "list gateways" g fun gateways =>
      addRoutes c ns (gateways.foldl (fun g gw => g.addNode (gatewayNode ns gw)) g)
        gatewayRouteKinds
  else .ok g

end Wiremap.Topology
