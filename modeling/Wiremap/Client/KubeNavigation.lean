import Wiremap.Client.KubeRoute
import Wiremap.Handler.KubeClusterHandler

/-! Where the user is in a cluster, and the topology request that opening a node of
the canvas leads to. -/
namespace Wiremap.Client

open Wiremap.Topology Wiremap.Handler.KubeClusterHandler

namespace KubeRoute

/-- The level the root shows; none for a kind, which is listed instead. -/
def rootView (route : KubeRoute) : Option KubeView :=
  match route.root with
  | .overview =>
      some (if route.ns = "" then { level := .cluster, lens := some .namespaces }
        else { level := .namespace, ns := some route.ns })
  | .lens l => some { level := .cluster, lens := some l.val }
  | .kind _ _ => none

def view (route : KubeRoute) : Option KubeView :=
  match route.drills.getLast? with
  | some view => some view
  | none => route.rootView

/-- Open a drillable node: a namespace becomes the scope, anything else goes one
level deeper.  An absent namespace or group of a node is "". -/
def drill (route : KubeRoute) (node : GraphNode) : Option KubeRoute :=
  if !node.drillable then none
  else if node.kind = "Namespace" then
    some { route with ns := node.name, root := .overview, drills := [] }
  else if node.kind = "Node" then
    some { route with drills := route.drills ++ [{ level := .node, name := some node.name }] }
  else
    let view : KubeView :=
      { level := .object, ns := some node.ns, kind := some node.kind
        group := some node.apiGroup, name := some node.name }
    some { route with drills := route.drills ++ [view] }

@[simp] theorem view_append (route : KubeRoute) (view : KubeView) :
    ({ route with drills := route.drills ++ [view] } : KubeRoute).view = some view := by
  simp [KubeRoute.view]

end KubeRoute

/-! ### Requests -/

def KubeLevel.word : KubeLevel → String
  | .cluster => "cluster"
  | .namespace => "namespace"
  | .object => "object"
  | .node => "node"
  | .kind => "kind"

/-- A parameter is sent unless it is empty. -/
def param (key : String) (value : Option String) : Query :=
  match value with
  | some text => if text = "" then [] else [(key, text)]
  | none => []

def topologyQuery (view : KubeView) : Query :=
  ("level", view.level.word) ::
    (param "lens" (view.lens.map KubeLens.word) ++ (param "namespace" view.ns ++
      (param "kind" view.kind ++ (param "group" view.group ++ param "name" view.name))))

theorem lookup_param_append (key other : String) (value : Option String) (rest : Query) :
    (param key value ++ rest).lookup other =
      if other = key ∧ value.getD "" ≠ "" then value else rest.lookup other := by
  unfold param
  cases value with
  | none => simp
  | some text =>
      by_cases htext : text = ""
      · simp [htext]
      · by_cases hkey : other = key
        · simp [htext, hkey]
        · have hother : (other == key) = false := by simpa using hkey
          simp [htext, hkey, List.lookup_cons, hother]

theorem query_param_append (key : String) (value : Option String) {rest : Query}
    (hrest : rest.lookup key = none) : query (param key value ++ rest) key = value.getD "" := by
  rw [query, lookup_param_append]
  split
  · rfl
  · rename_i hempty
    have htext : value.getD "" = "" := by simpa using hempty
    rw [hrest, htext]
    rfl

theorem lookup_skip {key other : String} (hkey : other ≠ key) (value : Option String)
    (rest : Query) : (param key value ++ rest).lookup other = rest.lookup other := by
  rw [lookup_param_append, if_neg fun h => hkey h.1]

theorem query_skip {key other : String} (hkey : other ≠ key) (value : Option String)
    (rest : Query) : query (param key value ++ rest) other = query rest other := by
  rw [query, lookup_skip hkey]
  rfl

theorem query_topologyQuery (view : KubeView) :
    query (topologyQuery view) "namespace" = view.ns.getD "" ∧
      query (topologyQuery view) "kind" = view.kind.getD "" ∧
        query (topologyQuery view) "group" = view.group.getD "" ∧
          query (topologyQuery view) "name" = view.name.getD "" := by
  have hlevel : ∀ key, key ≠ "level" → query (topologyQuery view) key =
      query (param "lens" (view.lens.map KubeLens.word) ++ (param "namespace" view.ns ++
        (param "kind" view.kind ++ (param "group" view.group ++ (param "name" view.name ++ []))))) key := by
    intro key hkey
    have hother : (key == "level") = false := by simpa using hkey
    rw [List.append_nil, topologyQuery, query, List.lookup_cons, hother]
    rfl
  refine ⟨?_, ?_, ?_, ?_⟩
  · rw [hlevel _ (by decide), query_skip (by decide), query_param_append]
    rw [lookup_skip (by decide), lookup_skip (by decide), lookup_skip (by decide)]
    rfl
  · rw [hlevel _ (by decide), query_skip (by decide), query_skip (by decide), query_param_append]
    rw [lookup_skip (by decide), lookup_skip (by decide)]
    rfl
  · rw [hlevel _ (by decide), query_skip (by decide), query_skip (by decide),
      query_skip (by decide), query_param_append]
    rw [lookup_skip (by decide)]
    rfl
  · rw [hlevel _ (by decide), query_skip (by decide), query_skip (by decide),
      query_skip (by decide), query_skip (by decide), query_param_append]
    rfl

/-! ### What a drill asks for -/

theorem canvasOf_object (ns kind group name : String) :
    canvasOf (topologyQuery
        { level := .object, ns := some ns, kind := some kind, group := some group
          name := some name }) = .ok (.object ns group kind name) := by
  obtain ⟨hns, hkind, hgroup, hname⟩ := query_topologyQuery
    { level := .object, ns := some ns, kind := some kind, group := some group, name := some name }
  unfold canvasOf
  rw [hns, hkind, hgroup, hname]
  rfl

theorem canvasOf_node (name : String) :
    canvasOf (topologyQuery { level := .node, name := some name }) = .ok (.node name) := by
  obtain ⟨-, -, -, hname⟩ := query_topologyQuery { level := .node, name := some name }
  unfold canvasOf
  rw [hname]
  rfl

theorem canvasOf_namespace (ns : String) :
    canvasOf (topologyQuery { level := .namespace, ns := some ns }) = .ok (.inNamespace ns) := by
  obtain ⟨hns, -, -, -⟩ := query_topologyQuery { level := .namespace, ns := some ns }
  unfold canvasOf
  rw [hns]
  rfl

end Wiremap.Client
