import Wiremap.Client.HashRoutes
import Wiremap.Client.KubeNavigation

/-! Moves between the levels of a cluster.  The hash is where a move is kept, so that
each of them is written to it and read from it again. -/
namespace Wiremap.Client

open Wiremap.Library Wiremap.Library.Text Wiremap.Topology

def defaultRoute (cluster : String) : KubeRoute where
  cluster := cluster
  ns := ""
  root := .overview
  drills := []

def routeFromHash (cluster hash : String) : Except URIError KubeRoute := do
  match ← parseKubeHash hash with
  | some route => return if route.cluster = cluster then route else defaultRoute cluster
  | none => return defaultRoute cluster

namespace KubeNavigation

/-! ### Crumbs -/

def hasSuffix (s suffix : String) : Bool := suffix.toList.isSuffixOf s.toList

def endsInConsonantY (s : String) : Bool :=
  match s.toList.reverse with
  | 'y' :: c :: _ => !"aeiou".toList.contains c
  | _ => false

def pluralKind (kind : String) : String :=
  if ["ss", "us", "x", "ch", "sh"].any (hasSuffix kind) then kind ++ "es"
  else if hasSuffix kind "s" then kind
  else if endsInConsonantY kind then .ofList kind.toList.dropLast ++ "ies"
  else kind ++ "s"

structure Crumb where
  id : String
  label : String
  deriving DecidableEq

def rootLabel (route : KubeRoute) : String :=
  match route.root with
  | .overview => orElse route.ns "Cluster"
  | .lens l => l.val.word.capitalize
  | .kind _ kind => pluralKind kind

def drillLabel (view : KubeView) : String :=
  if view.level = .node then "Node " ++ view.name.getD ""
  else view.kind.getD "" ++ " " ++ view.name.getD ""

def crumbs (route : KubeRoute) : List Crumb :=
  (rootLabel route :: route.drills.map drillLabel).zipIdx.map fun (label, i) =>
    { id := toString i, label := label }

/-! ### Moves -/

inductive Move where
  | drill (node : GraphNode)
  | back
  | goTo (index : Nat)
  | setNamespace (next : String)
  | setRoot (next : KubeRoot) (ns : Option String)

def Move.next (route : KubeRoute) : Move → Option KubeRoute
  | .drill node => route.drill node
  | .back => some { route with drills := route.drills.dropLast }
  | .goTo index => some { route with drills := route.drills.take index }
  | .setNamespace next => some { route with ns := next, drills := [] }
  | .setRoot next ns => some { route with ns := ns.getD route.ns, root := next, drills := [] }

def navigate (cluster : String) (next : KubeRoute) : String :=
  toKubeHash { next with cluster := cluster }

def step (cluster : String) (route : KubeRoute) (move : Move) : Except URIError KubeRoute :=
  match move.next route with
  | some next => routeFromHash cluster (navigate cluster next)
  | none => .ok route

def run (cluster : String) (moves : List Move) : Except URIError KubeRoute :=
  moves.foldlM (step cluster) (defaultRoute cluster)

/-! ### What a move leads to -/

def settled (cluster : String) (next : KubeRoute) : KubeRoute :=
  (parseSegments (routeSegments { next with cluster := cluster })).getD (defaultRoute cluster)

theorem parseSegments_cluster {segments : List String} {route : KubeRoute}
    (h : parseSegments segments = some route) : route.cluster = segments.getD 0 "" := by
  unfold parseSegments at h
  dsimp only at h
  split at h
  · cases h
  · cases h
    rfl

theorem routeFromHash_navigate (cluster : String) (next : KubeRoute) :
    routeFromHash cluster (navigate cluster next) = .ok (settled cluster next) := by
  rw [routeFromHash, navigate, parseKubeHash_written, settled]
  cases hread : parseSegments (routeSegments { next with cluster := cluster }) with
  | none => rfl
  | some route =>
      have hcluster : route.cluster = cluster := parseSegments_cluster hread
      show Except.ok (if route.cluster = cluster then route else defaultRoute cluster) = _
      rw [if_pos hcluster]
      rfl

theorem step_eq (cluster : String) (route : KubeRoute) (move : Move) :
    step cluster route move = .ok (((move.next route).map (settled cluster)).getD route) := by
  unfold step
  cases move.next route with
  | none => rfl
  | some next => exact routeFromHash_navigate cluster next

theorem run_total (cluster : String) (moves : List Move) : ∃ route, run cluster moves = .ok route :=
  Fallible.foldlM_total (fun move _ route => ⟨_, step_eq cluster route move⟩) _

/-! ### Routes that are reached -/

/-- The routes that moves lead to: those of the cluster, each read from a hash. -/
structure Settled (cluster : String) (route : KubeRoute) : Prop where
  here : route.cluster = cluster
  read : cluster ≠ "" → route.Read

theorem settled_defaultRoute (cluster : String) : Settled cluster (defaultRoute cluster) where
  here := rfl
  read hcluster := ⟨hcluster, by simp [defaultRoute, allNamespaces], ⟨"overview", rfl⟩,
    by simp [defaultRoute]⟩

theorem settled_settled (cluster : String) (next : KubeRoute) :
    Settled cluster (settled cluster next) := by
  rw [settled]
  cases hread : parseSegments (routeSegments { next with cluster := cluster }) with
  | none => exact settled_defaultRoute cluster
  | some route =>
      exact ⟨parseSegments_cluster hread, fun _ => (parseSegments_read hread).1⟩

theorem step_settled {cluster : String} {route next : KubeRoute} {move : Move}
    (h : Settled cluster route) (hstep : step cluster route move = .ok next) :
    Settled cluster next := by
  rw [step_eq, Except.ok.injEq] at hstep
  subst hstep
  cases move.next route with
  | none => exact h
  | some target => exact settled_settled cluster target

theorem run_settled {cluster : String} {moves : List Move} {route : KubeRoute}
    (hrun : run cluster moves = .ok route) : Settled cluster route :=
  Fallible.foldlM_invariant (settled_defaultRoute cluster)
    (fun _ _ _ _ h hstep => step_settled h hstep) hrun

/-- The root of a sidebar or a command, where kinds hold no dot. -/
def Move.Plain : Move → Prop
  | .setRoot (.kind _ kind) _ => Free '.' kind
  | _ => True

theorem kindSegment_not_dotted {kind : String} (hkind : Free '.' kind) (group : String) :
    kindSegment kind (some group) ∉ dottedRoots := by
  intro hdotted
  obtain ⟨word, hword, hsegment⟩ := List.mem_map.mp hdotted
  have hdot : word ++ "." = word ++ String.singleton '.' ++ "" := by simp
  by_cases hgroup : group = ""
  · subst hgroup
    rw [kindSegment_empty] at hsegment
    rw [← hsegment] at hkind
    simp [Free] at hkind
  · rw [hdot, kindSegment_group hgroup] at hsegment
    exact hgroup (join_inj_left (reserved_free word hword) hkind hsegment).2.symm

theorem word_not_dotted (lens : KubeLens) : lens.word ∉ dottedRoots := by
  cases lens with
  | namespaces => decide
  | nodes => decide
  | storage => decide
  | access => decide

theorem rootSegment_not_dotted {root : KubeRoot}
    (h : root.Expressible ∨ ∀ group kind, root = .kind group kind → Free '.' kind) :
    rootSegment root ∉ dottedRoots := by
  cases root with
  | overview => decide
  | lens l => exact word_not_dotted l.val
  | kind group kind =>
      refine kindSegment_not_dotted ?_ group
      rcases h with hexpressible | hfree
      · exact hexpressible.1
      · exact hfree group kind rfl

theorem settled_root {cluster : String} {next : KubeRoute}
    (h : rootSegment next.root ∉ dottedRoots) : (settled cluster next).root.Expressible := by
  rw [settled]
  cases hread : parseSegments (routeSegments { next with cluster := cluster }) with
  | none => trivial
  | some route =>
      rw [Option.getD_some, (parseSegments_read hread).2, parseRoot_expressible_iff]
      exact h

theorem next_root {route next : KubeRoute} {move : Move} (hnext : move.next route = some next)
    (hplain : move.Plain) (hroot : route.root.Expressible) : rootSegment next.root ∉ dottedRoots := by
  cases move with
  | drill node =>
      rw [Move.next, KubeRoute.drill] at hnext
      split at hnext
      · cases hnext
      · split at hnext
        · cases hnext
          exact rootSegment_not_dotted (.inl trivial)
        · split at hnext
          · cases hnext
            exact rootSegment_not_dotted (.inl hroot)
          · cases hnext
            exact rootSegment_not_dotted (.inl hroot)
  | back | goTo index | setNamespace ns =>
      cases hnext
      exact rootSegment_not_dotted (.inl hroot)
  | setRoot root ns =>
      cases hnext
      refine rootSegment_not_dotted (.inr ?_)
      rintro group kind rfl
      exact hplain

/-- Among plain moves the root is always one that can be told apart. -/
theorem run_root {cluster : String} {moves : List Move} {route : KubeRoute}
    (hrun : run cluster moves = .ok route) (hplain : ∀ move ∈ moves, move.Plain) :
    route.root.Expressible := by
  refine Fallible.foldlM_invariant (P := fun route => route.root.Expressible) trivial ?_ hrun
  intro route next move hmem hroot hstep
  rw [step_eq, Except.ok.injEq] at hstep
  subst hstep
  cases hnext : move.next route with
  | none => exact hroot
  | some target => exact settled_root (next_root hnext (hplain move hmem) hroot)

/-! ### The law -/

/-- The view shows the node's own object: its kind and group, namespace and name.  A
node view has room for a name only, and stands for a Node of the core group. -/
inductive Identifies (node : GraphNode) : KubeView → Prop
  | node (hkind : node.kind = "Node") (hgroup : node.apiGroup = "") (hns : node.ns = "") :
      Identifies node { level := .node, name := some node.name }
  | object :
      Identifies node
        { level := .object, ns := some node.ns, kind := some node.kind
          group := some node.apiGroup, name := some node.name }

/-- Opening a node goes one view deeper and back again, and a crumb leads to where
the path to it ends. -/
structure Lawful (cluster : String) (route : KubeRoute) (node : GraphNode) : Prop where
  drill : ∃ view, Identifies node view ∧
    step cluster route (.drill node) = .ok { route with drills := route.drills ++ [view] } ∧
      step cluster { route with drills := route.drills ++ [view] } .back = .ok route
  goTo : ∀ index, ∃ there, step cluster route (.goTo index) = .ok there ∧
    there = { route with drills := route.drills.take index } ∧
      crumbs there = (crumbs route).take (index + 1)

structure Nameable (node : GraphNode) : Prop where
  scope : node.kind ≠ "Namespace"
  core : node.kind = "Node" → node.apiGroup = "" ∧ node.ns = ""
  kind : Free '.' node.kind
  ns : node.ns ≠ noNamespace

instance (node : GraphNode) : Decidable (Nameable node) :=
  decidable_of_iff (node.kind ≠ "Namespace" ∧ (node.kind = "Node" → node.apiGroup = "" ∧ node.ns = "") ∧
      '.' ∉ node.kind.toList ∧ node.ns ≠ noNamespace)
    ⟨fun ⟨hscope, hcore, hkind, hns⟩ => ⟨hscope, hcore, hkind, hns⟩,
      fun h => ⟨h.scope, h.core, h.kind, h.ns⟩⟩

theorem crumbs_take (route : KubeRoute) (index : Nat) :
    crumbs { route with drills := route.drills.take index } = (crumbs route).take (index + 1) := by
  have hlabel : rootLabel { route with drills := route.drills.take index } = rootLabel route := rfl
  rw [crumbs, crumbs, hlabel]
  apply List.ext_getElem?
  intro i
  cases i with
  | zero => simp
  | succ i =>
      by_cases hi : i < index
      · simp [hi]
      · simp [hi]

def drilled (node : GraphNode) : KubeView :=
  if node.kind = "Node" then { level := .node, name := some node.name }
  else
    { level := .object, ns := some node.ns, kind := some node.kind
      group := some node.apiGroup, name := some node.name }

theorem drill_eq {node : GraphNode} (hdrillable : node.drillable = true)
    (hscope : node.kind ≠ "Namespace") (route : KubeRoute) :
    route.drill node = some { route with drills := route.drills ++ [drilled node] } := by
  unfold drilled
  by_cases hnode : node.kind = "Node"
  · simp [KubeRoute.drill, hdrillable, hnode]
  · simp [KubeRoute.drill, hdrillable, hscope, hnode]

theorem drilled_drill {node : GraphNode} (h : Nameable node) : (drilled node).Drill := by
  unfold drilled
  split
  · exact .node node.name
  · rename_i hnode
    exact .object h.ns h.kind fun hcore => hnode hcore.1

theorem identifies_drilled {node : GraphNode} (h : Nameable node) :
    Identifies node (drilled node) := by
  unfold drilled
  split
  · rename_i hnode
    exact .node hnode (h.core hnode).1 (h.core hnode).2
  · exact .object

theorem settled_of_expressible {cluster : String} {next : KubeRoute} (hcluster : next.cluster = cluster)
    (h : next.Expressible) : settled cluster next = next := by
  subst hcluster
  rw [settled, parseSegments_routeSegments h, Option.getD_some]

theorem settled_unnamed (next : KubeRoute) : settled "" next = defaultRoute "" := rfl

theorem settled_root_eq {cluster : String} (hcluster : cluster ≠ "") (next : KubeRoute) :
    (settled cluster next).root = parseRoot (rootSegment next.root) := by
  simp [settled, parseSegments, routeSegments, hcluster]

theorem settled_drills {cluster : String} (hcluster : cluster ≠ "") (next : KubeRoute) :
    (settled cluster next).drills = parseDrills (next.drills.flatMap drillSegments) := by
  simp [settled, parseSegments, routeSegments, hcluster]

theorem settled_closed (cluster : String) {next : KubeRoute} (hclosed : next.drills = []) :
    (settled cluster next).drills = [] := by
  by_cases hcluster : cluster = ""
  · subst hcluster
    rfl
  · rw [settled_drills hcluster, hclosed]
    rfl

theorem nameable_of_identifies {node : GraphNode} (hscope : node.kind ≠ "Namespace")
    {view : KubeView} (hview : parseDrills (drillSegments (drilled node)) = [view])
    (h : Identifies node view) : Nameable node := by
  unfold drilled at hview
  by_cases hnode : node.kind = "Node"
  · rw [if_pos hnode] at hview
    cases hview
    cases h with
    | node _ hgroup hns =>
        refine ⟨hscope, fun _ => ⟨hgroup, hns⟩, ?_, ?_⟩
        · rw [hnode]
          decide
        · rw [hns]
          decide
  · rw [if_neg hnode] at hview
    have hfree := splitKind_free (kindSegment node.kind (some node.apiGroup))
    cases h with
    | node hkind => exact absurd hkind hnode
    | object =>
        simp only [drillSegments, parseDrills, parseDrill, reduceCtorEq, if_false,
          Option.getD_some, List.cons.injEq, and_true] at hview
        split at hview
        · cases hview
        · simp only [KubeView.mk.injEq, Option.some.injEq, true_and, and_true] at hview
          obtain ⟨hns, hkind, -⟩ := hview
          refine ⟨hscope, fun hcore => absurd hcore hnode, hkind ▸ hfree, ?_⟩
          intro hsentinel
          rw [hsentinel] at hns
          revert hns
          decide

theorem lawful_of_nameable {cluster : String} {route : KubeRoute} (hroute : Settled cluster route)
    (hcluster : cluster ≠ "") (hroot : route.root.Expressible) {node : GraphNode}
    (hdrillable : node.drillable = true) (hnode : Nameable node) : Lawful cluster route node := by
  obtain ⟨hnamed, hns, -, hdrills⟩ := hroute.read hcluster
  refine ⟨⟨drilled node, identifies_drilled hnode, ?_, ?_⟩, fun index => ?_⟩
  · rw [step_eq, Move.next, drill_eq hdrillable hnode.scope, Option.map_some, Option.getD_some,
      settled_of_expressible (by exact hroute.here)]
    refine ⟨hnamed, hns, hroot, fun view hview => ?_⟩
    rcases List.mem_append.mp hview with hold | hnew
    · exact hdrills view hold
    · rw [List.mem_singleton.mp hnew]
      exact drilled_drill hnode
  · rw [step_eq, Move.next, Option.map_some, Option.getD_some]
    dsimp only
    rw [List.dropLast_concat, settled_of_expressible (by exact hroute.here)
      ⟨hnamed, hns, hroot, hdrills⟩]
  · refine ⟨_, ?_, rfl, crumbs_take route index⟩
    rw [step_eq, Move.next, Option.map_some, Option.getD_some,
      settled_of_expressible (by exact hroute.here)]
    exact ⟨hnamed, hns, hroot, fun view hview => hdrills view (List.mem_of_mem_take hview)⟩

theorem nameable_of_lawful {cluster : String} {route : KubeRoute} (hroute : Settled cluster route)
    {node : GraphNode} (hdrillable : node.drillable = true) (h : Lawful cluster route node) :
    cluster ≠ "" ∧ route.root.Expressible ∧ Nameable node := by
  obtain ⟨view, hview, hdrill, -⟩ := h.drill
  rw [step_eq, Except.ok.injEq, Move.next] at hdrill
  by_cases hscope : node.kind = "Namespace"
  · have hnext : route.drill node = some { route with ns := node.name, root := .overview, drills := [] } := by
      simp [KubeRoute.drill, hdrillable, hscope]
    have hdeeper := congrArg KubeRoute.drills hdrill
    rw [hnext, Option.map_some, Option.getD_some, settled_closed cluster (by rfl)] at hdeeper
    simp at hdeeper
  · rw [drill_eq hdrillable hscope, Option.map_some, Option.getD_some] at hdrill
    have hcluster : cluster ≠ "" := by
      rintro rfl
      have hdeeper := congrArg KubeRoute.drills hdrill
      rw [settled_unnamed] at hdeeper
      simp [defaultRoute] at hdeeper
    obtain ⟨-, -, hread, hdrills⟩ := hroute.read hcluster
    have hroot := congrArg KubeRoute.root hdrill
    have hdeeper := congrArg KubeRoute.drills hdrill
    rw [settled_root_eq hcluster] at hroot
    rw [settled_drills hcluster] at hdeeper
    dsimp only at hroot hdeeper
    rw [List.flatMap_append, parseDrills_flatMap_append hdrills, List.flatMap_singleton,
      List.append_cancel_left_eq] at hdeeper
    exact ⟨hcluster, expressible_of_stable hread hroot, nameable_of_identifies hscope hdeeper hview⟩

/-! ### Every run -/

/-- Wherever moves have led, opening a node is lawful exactly where the cluster has a
name, the root can be told apart and the node can be named; and roots of dot-free
kinds can always be told apart. -/
theorem navigation_lawful_iff {cluster : String} {moves : List Move} {route : KubeRoute}
    (hrun : run cluster moves = .ok route) {node : GraphNode}
    (hdrillable : node.drillable = true) :
    (Lawful cluster route node ↔ cluster ≠ "" ∧ route.root.Expressible ∧ Nameable node) ∧
      ((∀ move ∈ moves, move.Plain) → route.root.Expressible) := by
  have hroute := run_settled hrun
  refine ⟨⟨nameable_of_lawful hroute hdrillable, ?_⟩, run_root hrun⟩
  rintro ⟨hcluster, hroot, hnode⟩
  exact lawful_of_nameable hroute hcluster hroot hdrillable hnode

def canaryPod : GraphNode where
  id := "Pod/shop/canary-1"
  kind := "Pod"
  name := "canary-1"
  ns := "shop"
  status := .healthy
  drillable := true
  weight := 1

def canaryMoves : List Move :=
  [.setRoot (.kind "argoproj.io" "Rollout") (some "shop"), .drill canaryPod, .back]

theorem navigation_lawful_canary :
    ∃ route, run "prod" canaryMoves = .ok route ∧ Lawful "prod" route canaryPod := by
  obtain ⟨route, hrun⟩ := run_total "prod" canaryMoves
  have hdrillable : canaryPod.drillable = true := rfl
  obtain ⟨hlawful, hroot⟩ := navigation_lawful_iff hrun hdrillable
  refine ⟨route, hrun, hlawful.mpr ⟨by decide, hroot ?_, by decide⟩⟩
  intro move hmove
  simp only [canaryMoves, List.mem_cons, List.not_mem_nil, or_false] at hmove
  rcases hmove with rfl | rfl | rfl
  · show Free '.' "Rollout"
    decide
  · trivial
  · trivial

/-- A Node that is not the core group's: a storage system keeps one for each machine. -/
def storageNode : GraphNode where
  id := "Node.longhorn.io/longhorn-system/worker-1"
  kind := "Node"
  apiGroup := "longhorn.io"
  name := "worker-1"
  ns := "longhorn-system"
  status := .healthy
  drillable := true
  weight := 1

/-- It is opened as the machine of its name. -/
theorem storageNode_not_lawful :
    run "prod" [] = .ok (defaultRoute "prod") ∧ storageNode.drillable = true ∧
      ¬(storageNode.kind = "Namespace" ∧ storageNode.apiGroup = "") ∧
        ¬Lawful "prod" (defaultRoute "prod") storageNode := by
  refine ⟨rfl, rfl, by decide, fun hlawful => ?_⟩
  obtain ⟨-, -, hnode⟩ := nameable_of_lawful (settled_defaultRoute "prod") rfl hlawful
  exact absurd (hnode.core rfl).1 (by decide)

end KubeNavigation

end Wiremap.Client
