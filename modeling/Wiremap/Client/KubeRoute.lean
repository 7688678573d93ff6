import Wiremap.Library.Fallible
import Wiremap.Library.PercentEncoding

/-! Hash routes: where the user is in a cluster, as text in the address bar. -/
namespace Wiremap.Client

open Wiremap.Library Wiremap.Library.Text
open Wiremap.Library.PercentEncoding (encode decode)

inductive KubeLevel where
  | cluster
  | namespace
  | object
  | node
  | kind
  deriving DecidableEq

inductive KubeLens where
  | namespaces
  | nodes
  | storage
  | access
  deriving DecidableEq

def KubeLens.word : KubeLens → String
  | .namespaces => "namespaces"
  | .nodes => "nodes"
  | .storage => "storage"
  | .access => "access"

inductive KubeRoot where
  | overview
  | lens (lens : { l : KubeLens // l ≠ .namespaces })
  | kind (group kind : String)
  deriving DecidableEq

/-- A topology level: the overview and lenses, or one drill-down step. -/
structure KubeView where
  level : KubeLevel
  lens : Option KubeLens := none
  ns : Option String := none
  kind : Option String := none
  group : Option String := none
  name : Option String := none
  deriving DecidableEq

/-- `ns` is "" for all namespaces; `drills` are outermost first. -/
structure KubeRoute where
  cluster : String
  ns : String
  root : KubeRoot
  drills : List KubeView
  deriving DecidableEq

def routePrefix : String := "#/k8s/"
def allNamespaces : String := "*"
def noNamespace : String := "-"

def lenses : List { l : KubeLens // l ≠ .namespaces } :=
  [⟨.nodes, by decide⟩, ⟨.storage, by decide⟩, ⟨.access, by decide⟩]

/-- The first string that is not empty, as `||` picks it. -/
def orElse (s other : String) : String := if s = "" then other else s

def kindSegment (kind : String) (group : Option String) : String :=
  match group with
  | none | some "" => kind
  | some group => kind ++ "." ++ group

def splitKind (segment : String) : String × String :=
  match split '.' segment with
  | [] => ("", "")
  | kind :: group => (kind, join '.' group)

structure URIError where
  deriving DecidableEq

def decodeURIComponent (s : String) : Except URIError String :=
  match decode s with
  | some text => .ok text
  | none => .error {}

def parseRoot (segment : String) : KubeRoot :=
  match lenses.find? fun l => l.val.word = segment with
  | some l => .lens l
  | none =>
      if segment = "overview" then .overview
      else .kind (splitKind segment).2 (splitKind segment).1

def parseDrill (kindPart nsPart name : String) : KubeView :=
  let (kind, group) := splitKind kindPart
  let objectNamespace := if nsPart = noNamespace then "" else nsPart
  if kind = "Node" ∧ group = "" then { level := .node, name := some name }
  else
    { level := .object, ns := some objectNamespace, kind := some kind, group := some group
      name := some name }

/-- An incomplete triple at the end is dropped. -/
def parseDrills : List String → List KubeView
  | kindPart :: nsPart :: name :: rest => parseDrill kindPart nsPart name :: parseDrills rest
  | _ => []

def parseSegments (segments : List String) : Option KubeRoute :=
  let cluster := segments.getD 0 ""
  let ns := segments.getD 1 allNamespaces
  let rootSegment := segments.getD 2 "overview"
  if cluster = "" then none
  else some
    { cluster := cluster
      ns := if ns = allNamespaces then "" else ns
      root := parseRoot rootSegment
      drills := parseDrills (segments.drop 3) }

def parseKubeHash (hash : String) : Except URIError (Option KubeRoute) :=
  if hasPrefix hash routePrefix then do
    let segments ← (split '/' (trimPrefix hash routePrefix)).mapM decodeURIComponent
    return parseSegments segments
  else .ok none

def rootSegment : KubeRoot → String
  | .overview => "overview"
  | .lens l => l.val.word
  | .kind group kind => kindSegment kind (some group)

def drillSegments (view : KubeView) : List String :=
  if view.level = .node then ["Node", noNamespace, view.name.getD ""]
  else
    [kindSegment (view.kind.getD "") view.group, orElse (view.ns.getD "") noNamespace,
      view.name.getD ""]

def routeSegments (route : KubeRoute) : List String :=
  [route.cluster, orElse route.ns allNamespaces, rootSegment route.root] ++
    route.drills.flatMap drillSegments

def toKubeHash (route : KubeRoute) : String :=
  routePrefix ++ join '/' ((routeSegments route).map encode)

/-! ### Kinds -/

@[simp] theorem kindSegment_empty (kind : String) : kindSegment kind (some "") = kind := by
  simp [kindSegment]

theorem kindSegment_group {group : String} (h : group ≠ "") (kind : String) :
    kindSegment kind (some group) = kind ++ String.singleton '.' ++ group := by
  unfold kindSegment
  split <;> simp_all

@[simp] theorem splitKind_kindSegment {kind : String} (h : Free '.' kind) (group : String) :
    splitKind (kindSegment kind (some group)) = (kind, group) := by
  unfold splitKind
  by_cases hgroup : group = ""
  · subst hgroup
    simp [split_of_free h, join]
  · rw [kindSegment_group hgroup, split_append h]
    simp

/-! ### Roots -/

def reservedRoots : List String := ["overview", "nodes", "storage", "access"]

/-- The roots whose segment is no other root's. -/
def KubeRoot.Expressible : KubeRoot → Prop
  | .overview => True
  | .lens _ => True
  | .kind group word => Free '.' word ∧ (group = "" → word ∉ reservedRoots)

instance : ∀ root : KubeRoot, Decidable root.Expressible
  | .overview => isTrue trivial
  | .lens _ => isTrue trivial
  | .kind group word =>
      inferInstanceAs (Decidable (Free '.' word ∧ (group = "" → word ∉ reservedRoots)))

theorem reserved_free : ∀ word ∈ reservedRoots, Free '.' word := by decide

theorem kindSegment_not_reserved {group kind : String} (h : (KubeRoot.kind group kind).Expressible) :
    kindSegment kind (some group) ∉ reservedRoots := by
  obtain ⟨-, hword⟩ := h
  by_cases hgroup : group = ""
  · subst hgroup
    simpa using hword rfl
  · intro hmem
    have hfree := reserved_free _ hmem
    rw [kindSegment_group hgroup] at hfree
    simp [Free] at hfree

@[simp] theorem parseRoot_rootSegment {root : KubeRoot} (h : root.Expressible) :
    parseRoot (rootSegment root) = root := by
  cases root with
  | overview => rfl
  | lens l =>
      obtain ⟨l, hl⟩ := l
      cases l with
      | namespaces => exact absurd rfl hl
      | nodes => rfl
      | storage => rfl
      | access => rfl
  | kind group kind =>
      have hword := kindSegment_not_reserved h
      simp only [reservedRoots, List.mem_cons, List.not_mem_nil, or_false, not_or] at hword
      obtain ⟨hoverview, hnodes, hstorage, haccess⟩ := hword
      have hlens : lenses.find? (fun l => l.val.word = kindSegment kind (some group)) = none := by
        simp [lenses, KubeLens.word, Ne.symm hnodes, Ne.symm hstorage, Ne.symm haccess]
      rw [rootSegment, parseRoot, hlens]
      simp only [if_neg hoverview, splitKind_kindSegment h.1]

/-! ### Drills -/

/-- The views a drill opens: a node, or an object that is not one.  An object without a
namespace or a group has an empty one here: one that is left out is read back so. -/
inductive KubeView.Drill : KubeView → Prop
  | node (name : String) : Drill { level := .node, name := some name }
  | object {ns kind group name : String} (hns : ns ≠ noNamespace) (hkind : Free '.' kind)
      (hnode : ¬(kind = "Node" ∧ group = "")) :
      Drill
        { level := .object, ns := some ns, kind := some kind, group := some group
          name := some name }

theorem parseDrills_nil : parseDrills [] = [] := rfl

theorem parseDrills_drillSegments {view : KubeView} (h : view.Drill) (rest : List String) :
    parseDrills (drillSegments view ++ rest) = view :: parseDrills rest := by
  cases h with
  | node name => rfl
  | object hns hkind hnode =>
      rename_i ns kind group name
      have hback : (if orElse ns noNamespace = noNamespace then "" else orElse ns noNamespace) = ns := by
        unfold orElse
        split <;> simp_all
      simp [drillSegments, parseDrills, parseDrill, hkind, hnode, hback]

example :
    parseDrills (drillSegments
        { level := .object, kind := some "StorageClass", name := some "fast" }) =
      [{ level := .object, ns := some "", kind := some "StorageClass", group := some ""
         name := some "fast" }] := by
  decide

theorem parseDrills_flatMap_append {drills : List KubeView} (h : ∀ view ∈ drills, view.Drill)
    (rest : List String) :
    parseDrills (drills.flatMap drillSegments ++ rest) = drills ++ parseDrills rest := by
  induction drills with
  | nil => rfl
  | cons view others ih =>
      rw [List.flatMap_cons, List.append_assoc, parseDrills_drillSegments (h view (by simp)),
        ih fun v hv => h v (by simp [hv])]
      rfl

theorem parseDrills_flatMap {drills : List KubeView} (h : ∀ view ∈ drills, view.Drill) :
    parseDrills (drills.flatMap drillSegments) = drills := by
  have hall := parseDrills_flatMap_append h []
  rwa [List.append_nil, parseDrills_nil, List.append_nil] at hall

/-! ### The whole route -/

/-- The routes that the hash can tell apart. -/
structure KubeRoute.Expressible (route : KubeRoute) : Prop where
  cluster : route.cluster ≠ ""
  ns : route.ns ≠ allNamespaces
  root : route.root.Expressible
  drills : ∀ view ∈ route.drills, view.Drill

theorem encode_free_slash (s : String) : Free '/' (encode s) :=
  PercentEncoding.encode_free (by decide) (by decide) (by decide) s

theorem mapM_decode_encode (parts : List String) :
    (parts.map encode).mapM decodeURIComponent = .ok parts := by
  induction parts with
  | nil => rfl
  | cons part rest ih =>
      rw [List.map_cons, List.mapM_cons, ih]
      simp [decodeURIComponent]
      rfl

theorem parseKubeHash_written (route : KubeRoute) :
    parseKubeHash (toKubeHash route) = .ok (parseSegments (routeSegments route)) := by
  have hsegments : split '/' (trimPrefix (toKubeHash route) routePrefix) =
      (routeSegments route).map encode := by
    rw [toKubeHash, trimPrefix_append, split_join]
    · rintro part hpart
      obtain ⟨segment, -, rfl⟩ := List.mem_map.mp hpart
      exact encode_free_slash segment
    · simp [routeSegments]
  have hhead : hasPrefix (toKubeHash route) routePrefix := by
    simp [toKubeHash, hasPrefix]
  simp only [parseKubeHash, hhead, if_true, hsegments, mapM_decode_encode]
  rfl

theorem parseSegments_routeSegments {route : KubeRoute} (h : route.Expressible) :
    parseSegments (routeSegments route) = some route := by
  have hns : (if orElse route.ns allNamespaces = allNamespaces then ""
      else orElse route.ns allNamespaces) = route.ns := by
    have hstar := h.ns
    unfold orElse
    split <;> simp_all
  simp [parseSegments, routeSegments, h.cluster, hns, parseRoot_rootSegment h.root,
    parseDrills_flatMap h.drills]

/-- A route is read back from the hash it is written to. -/
theorem parseKubeHash_toKubeHash (route : KubeRoute) (h : route.Expressible) :
    parseKubeHash (toKubeHash route) = .ok (some route) := by
  rw [parseKubeHash_written, parseSegments_routeSegments h]

def oddRoute : KubeRoute where
  cluster := "arn:aws:eks/prod cluster"
  ns := "team a"
  root := .kind "argoproj.io" "Rollout"
  drills :=
    [{ level := .object, ns := some "team a", kind := some "Pod", group := some ""
       name := some "web#1?x" },
     { level := .node, name := some "wörker" }]

theorem parseKubeHash_toKubeHash_odd :
    parseKubeHash (toKubeHash oddRoute) = .ok (some oddRoute) := by
  refine parseKubeHash_toKubeHash oddRoute ⟨by decide, by decide, by decide, fun view hview => ?_⟩
  simp only [oddRoute, List.mem_cons, List.not_mem_nil, or_false] at hview
  rcases hview with rfl | rfl
  · exact .object (by decide) (by decide) (by decide)
  · exact .node _

end Wiremap.Client
