import Mathlib.Algebra.Order.Field.Basic
import Mathlib.Algebra.Order.Floor.Div
import Mathlib.Algebra.Order.Group.Unbundled.Abs
import Mathlib.Data.Nat.Sqrt
import Wiremap.Client.KubeRoute
import Wiremap.Library.PlainObject
import Wiremap.Topology.Graph

/-! Where the canvas anchors what it draws: columns for layered levels, a grid of cells
for groups, nothing for free bubbles. -/
namespace Wiremap.Client.GraphCanvas

open Wiremap.Library Wiremap.Topology

structure KubeGraph where
  level : KubeLevel
  nodes : KeyedList GraphNode.id
  edges : List GraphEdge
  groups : KeyedList GraphGroup.id

/-! ### Columns -/

/-- What a table says the column of a kind is, a number or not. -/
abbrev Column := PlainObject.Value Nat

def Column.number? : Column → Option Nat
  | .own n => some n
  | .inherited _ => none

/-- Traffic enters on the left, flows through Services to workloads, then out to what
workloads depend on. -/
def namespaceColumns : PlainObject Nat :=
  ⟨[("Ingress", 0), ("Gateway", 0), ("HTTPRoute", 1), ("GRPCRoute", 1), ("TLSRoute", 1),
    ("TCPRoute", 1), ("UDPRoute", 1), ("Service", 2), ("HorizontalPodAutoscaler", 3),
    ("PodDisruptionBudget", 3), ("NetworkPolicy", 3), ("ResourceQuota", 3), ("LimitRange", 3),
    ("ConfigMap", 5), ("Secret", 5), ("PersistentVolumeClaim", 5), ("ServiceAccount", 5),
    ("PersistentVolume", 6), ("RoleBinding", 6), ("ClusterRoleBinding", 6), ("StorageClass", 7),
    ("Role", 7), ("ClusterRole", 7)]⟩

def workloadColumn : Nat := 4

def storageColumns : PlainObject Nat :=
  ⟨[("PersistentVolumeClaim", 0), ("PersistentVolume", 1), ("StorageClass", 2)]⟩

def accessColumns : PlainObject Nat :=
  ⟨[("User", 0), ("Group", 0), ("ServiceAccount", 0), ("RoleBinding", 1),
    ("ClusterRoleBinding", 1), ("Role", 2), ("ClusterRole", 2)]⟩

/-- A map from node IDs, with one entry for each. -/
abbrev Columns := List (String × Column)

structure Search where
  depth : List (String × Nat)
  next : List String

def visit (frontier : List String) (found : Search) (edge : GraphEdge) : Search :=
  if edge.source ∈ frontier ∧ (found.depth.lookup edge.target).isNone then
    { depth := found.depth ++ [(edge.target, (found.depth.lookup edge.source).getD 0 + 1)]
      next := found.next ++ [edge.target] }
  else found

def visitAll (edges : List GraphEdge) (frontier : List String) (found : Search) : Search :=
  edges.foldl (visit frontier) found

def undiscovered (edges : List GraphEdge) (depth : List (String × Nat)) : List GraphEdge :=
  edges.filter fun edge => (depth.lookup edge.target).isNone

theorem visit_keeps (frontier : List String) (edge : GraphEdge) {found : Search} {id : String}
    (h : (found.depth.lookup id).isSome) : ((visit frontier found edge).depth.lookup id).isSome := by
  unfold visit
  split
  · rw [List.lookup_append, Option.isSome_or, h, Bool.true_or]
  · exact h

theorem visitAll_keeps (edges : List GraphEdge) (frontier : List String) {found : Search}
    {id : String} (h : (found.depth.lookup id).isSome) :
    ((visitAll edges frontier found).depth.lookup id).isSome := by
  induction edges generalizing found with
  | nil => exact h
  | cons edge edges ih => exact ih (visit_keeps frontier edge h)

/-- Where the search goes on had no depth before the round, and has one after it. -/
theorem visitAll_next {edges : List GraphEdge} {frontier : List String} {found : Search}
    {id : String} (h : id ∈ (visitAll edges frontier found).next) :
    id ∈ found.next ∨ ∃ edge ∈ edges, edge.target = id ∧ found.depth.lookup id = none ∧
      ((visitAll edges frontier found).depth.lookup id).isSome := by
  induction edges generalizing found with
  | nil => exact Or.inl h
  | cons edge edges ih =>
      rcases @ih (visit frontier found edge) h with hmem | ⟨edge', hedge', htarget, hnone, hsome⟩
      · by_cases hfresh : edge.source ∈ frontier ∧ (found.depth.lookup edge.target).isNone
        · simp only [visit, if_pos hfresh, List.mem_append, List.mem_singleton] at hmem
          rcases hmem with hmem | rfl
          · exact Or.inl hmem
          · have hvisited : ((visit frontier found edge).depth.lookup edge.target).isSome := by
              simp [visit, if_pos hfresh, List.lookup_append]
            exact Or.inr ⟨edge, List.mem_cons_self, rfl, Option.isNone_iff_eq_none.mp hfresh.2,
              visitAll_keeps edges frontier hvisited⟩
        · rw [visit, if_neg hfresh] at hmem
          exact Or.inl hmem
      · refine Or.inr ⟨edge', List.mem_cons_of_mem _ hedge', htarget, ?_, hsome⟩
        by_contra hknown
        have hkept := visit_keeps frontier edge (Option.isSome_iff_ne_none.mpr hknown)
        simp [hnone] at hkept

theorem undiscovered_visitAll (edges edges' : List GraphEdge) (frontier : List String)
    (found : Search) :
    undiscovered edges' (visitAll edges frontier found).depth =
      (undiscovered edges' found.depth).filter fun edge =>
        ((visitAll edges frontier found).depth.lookup edge.target).isNone := by
  unfold undiscovered
  rw [List.filter_filter]
  refine List.filter_congr fun edge _ => ?_
  cases hsome : found.depth.lookup edge.target with
  | none => simp
  | some d =>
      have hkept := visitAll_keeps edges frontier (Option.isSome_of_eq_some hsome)
      simp [Option.isNone_eq_false_iff.mpr hkept]

theorem undiscovered_lt {edges : List GraphEdge} {frontier : List String} {depth : List (String × Nat)}
    (h : (visitAll edges frontier ⟨depth, []⟩).next ≠ []) :
    (undiscovered edges (visitAll edges frontier ⟨depth, []⟩).depth).length <
      (undiscovered edges depth).length := by
  obtain ⟨id, hid⟩ := List.exists_mem_of_ne_nil _ h
  obtain ⟨edge, hedge, rfl, hnone, hsome⟩ := (visitAll_next hid).resolve_left (by simp)
  rw [undiscovered_visitAll, List.length_filter_lt_length_iff_exists]
  refine ⟨edge, List.mem_filter.mpr ⟨hedge, by simp [hnone]⟩, ?_⟩
  simpa [Option.isSome_iff_ne_none] using hsome

def deepen (edges : List GraphEdge) (depth : List (String × Nat)) :
    List String → List (String × Nat)
  | [] => depth
  | id :: frontier =>
      let found := visitAll edges (id :: frontier) ⟨depth, []⟩
      if found.next = [] then found.depth else deepen edges found.depth found.next
termination_by (undiscovered edges depth).length
decreasing_by exact undiscovered_lt ‹_›

def ownershipDepth (g : KubeGraph) : List (String × Nat) :=
  let targets := g.edges.map (·.target)
  let roots := (g.nodes.items.filter fun n => n.id ∉ targets).map (·.id)
  deepen g.edges (roots.map fun id => (id, 0)) roots

/-- Sorting by the difference of two columns: on numbers it is what it should be, and else
in an order of the implementation's own. -/
structure ColumnSort where
  sort : List Column → List Column
  perm : ∀ cols, (sort cols).Perm cols
  sorted : ∀ ns : List Nat, sort (ns.map .own) = (ns.mergeSort (· ≤ ·)).map .own

def distinct {α : Type} [DecidableEq α] (as : List α) : List α :=
  ((KeyedList.empty : KeyedList (id : α → α)).addAll as).items

def nodeColumns (byNumber : ColumnSort) (g : KubeGraph) : Columns :=
  let nodes := g.nodes.items
  match g.level with
  | .namespace =>
      -- empty columns are dropped
      let raw := nodes.map fun n => (n.id, (namespaceColumns.get n.kind).getD (.own workloadColumn))
      let used := byNumber.sort (distinct (raw.map Prod.snd))
      raw.map fun entry => (entry.1, .own (used.idxOf entry.2))
  | .object => (ownershipDepth g).map fun entry => (entry.1, .own entry.2)
  | .kind => []
  | .cluster | .node =>
      if nodes.any fun n => storageColumns.has n.kind then
        nodes.map fun n => (n.id, (storageColumns.get n.kind).getD (.own 0))
      else if nodes.any fun n => n.kind = "RoleBinding" ∨ n.kind = "ClusterRoleBinding" then
        nodes.map fun n => (n.id, (accessColumns.get n.kind).getD (.own 0))
      else []

/-! ### Layout -/

/-- `x` is `none` when it is not a number. -/
structure LayoutTarget (K : Type u) where
  x : Option K
  y : K

structure Layout (K : Type u) where
  targets : List (String × LayoutTarget K)
  groupCenters : List (String × LayoutTarget K)

def placed (g : KubeGraph) (columns : Columns) : List (GraphNode × Column) :=
  g.nodes.items.filterMap fun n =>
    if n.group = "" then (columns.lookup n.id).map fun col => (n, col) else none

def ungroupedColumns (g : KubeGraph) (columns : Columns) : List Column :=
  distinct ((placed g columns).map Prod.snd)

def maxColumn (last : Option Int) (col : Column) : Option Int :=
  last.bind fun last => col.number?.map fun n => max last n

def inColumn (g : KubeGraph) (columns : Columns) (col : Column) : List GraphNode :=
  ((placed g columns).filter fun entry => entry.2 = col).map Prod.fst

def lastColumn (cols : List Column) : Option Int := cols.foldl maxColumn (some (-1))

def columnCount (cols : List Column) (groups : Nat) : Option Int :=
  (lastColumn cols).map fun last => last + 1 + if groups > 0 then 1 else 0

/-- The square root, rounded up. -/
def ceilSqrt (n : Nat) : Nat := if n.sqrt * n.sqrt = n then n.sqrt else n.sqrt + 1

theorem ceilSqrt_le_iff {n m : Nat} : ceilSqrt n ≤ m ↔ n ≤ m * m := by
  unfold ceilSqrt
  split
  · rename_i hsquare
    rw [← Nat.mul_self_le_mul_self_iff, hsquare]
  · rename_i hother
    rw [Nat.succ_le_iff, Nat.sqrt_lt]
    have hne : n ≠ m * m := by
      rintro rfl
      exact hother (by rw [Nat.sqrt_eq])
    omega

section

variable {K : Type u} [Field K] [LinearOrder K]

def columnWidth (count : Int) (width : K) : K :=
  min (max 240 ((width - 200) / (count - 1))) 380

def columnX (count : Option Int) (width : K) (col : Option Int) : Option K :=
  match count with
  | some count =>
      if count > 1 then col.map fun (col : Int) => 100 + col * columnWidth count width
      else some (width / 2)
  | none => some (width / 2)

def spacing (height : K) (count : Nat) : K := max 110 (height / (count + 1))

/-- A column apart, or a row of a column. -/
def LayoutTarget.Apart (a b : LayoutTarget K) : Prop :=
  (∃ x ∈ a.x, ∃ x' ∈ b.x, 240 ≤ |x - x'|) ∨ 110 ≤ |a.y - b.y|

/-- A column's nodes, stacked vertically and sorted by name. -/
def stack (localeCompare : String → String → Int) (x : Option K) (height : K)
    (nodes : List GraphNode) : List (String × LayoutTarget K) :=
  let sorted := nodes.mergeSort fun a b => localeCompare a.name b.name ≤ 0
  let top := height / 2 - spacing height nodes.length * (nodes.length - 1) / 2
  sorted.mapIdx fun i n => (n.id, ⟨x, top + i * spacing height nodes.length⟩)

def grid (left : Option K) (areaWidth height : K) (cols : Nat) (groups : List GraphGroup) :
    List (String × LayoutTarget K) :=
  let rows := groups.length ⌈/⌉ cols
  let cellW := max (areaWidth / cols) 280
  let cellH := max (height / rows) 260
  groups.mapIdx fun i grp =>
    (grp.id,
      ⟨left.map fun left => left + cellW * (((i % cols : Nat) : K) + 1 / 2),
        cellH * (((i / cols : Nat) : K) + 1 / 2)⟩)

def computeLayout (byNumber : ColumnSort) (localeCompare : String → String → Int) (g : KubeGraph)
    (width height : K) : Layout K :=
  let columns := nodeColumns byNumber g
  let cols := ungroupedColumns g columns
  let groups := g.groups.items
  let count := columnCount cols groups.length
  { targets := cols.flatMap fun col =>
      stack localeCompare (columnX count width (col.number?.map Nat.cast)) height
        (inColumn g columns col)
    groupCenters :=
      if cols ≠ [] then
        -- next to columns, groups are stacked so that ownership edges stay short
        let left := (columnX count width ((lastColumn cols).map (· + 1))).map (· - 140)
        grid left (280 * (groups.length ⌈/⌉ 3 : Nat)) height (groups.length ⌈/⌉ 3) groups
      else grid (some 0) (max width 300) height (ceilSqrt groups.length) groups }

end

end Wiremap.Client.GraphCanvas
