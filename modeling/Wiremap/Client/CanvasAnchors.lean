import Mathlib.Algebra.Order.Field.Rat
import Mathlib.Algebra.Order.AbsoluteValue.Basic
import Mathlib.Tactic.Linarith
import Mathlib.Tactic.Positivity
import Mathlib.Tactic.Ring
import Wiremap.Client.GraphCanvas

/-! Whether the canvas keeps its anchors apart, for every graph and every size. -/
namespace Wiremap.Client.GraphCanvas

open Wiremap.Library Wiremap.Topology

variable {K : Type u} [Field K] [LinearOrder K]

def LayoutTarget.LeftOf (a b : LayoutTarget K) : Prop := ∃ x ∈ a.x, ∃ x' ∈ b.x, x < x'

theorem LayoutTarget.Apart.symm {a b : LayoutTarget K} (h : a.Apart b) : b.Apart a := by
  rcases h with ⟨x, hx, x', hx', hle⟩ | hle
  · exact Or.inl ⟨x', hx', x, hx, abs_sub_comm x x' ▸ hle⟩
  · exact Or.inr (abs_sub_comm a.y b.y ▸ hle)

structure Layout.Spread (layout : Layout K) (g : KubeGraph) (columns : Columns) : Prop where
  apart : (layout.targets ++ layout.groupCenters).Pairwise fun a b => a.2.Apart b.2
  targeted : ∀ n ∈ g.nodes.items, n.group = "" → (columns.lookup n.id).isSome →
    n.id ∈ layout.targets.map Prod.fst
  centered : ∀ grp ∈ g.groups.items, grp.id ∈ layout.groupCenters.map Prod.fst
  right : ∀ target ∈ layout.targets, ∀ center ∈ layout.groupCenters, target.2.LeftOf center.2

/-- A kind that the storage columns take for theirs although it is none of them has a column
that is no number, and there is something to keep it apart from. -/
def Skewed (g : KubeGraph) : Prop :=
  (g.level = .cluster ∨ g.level = .node) ∧
    ∃ n ∈ g.nodes.items, n.group = "" ∧ n.kind ∈ PlainObject.inheritedNames ∧
      (g.groups.items ≠ [] ∨ ∃ m ∈ g.nodes.items, m.group = "" ∧ m.kind ≠ n.kind)

/-! ### Numbers of columns -/

theorem mem_distinct {α : Type} [DecidableEq α] {as : List α} {a : α} :
    a ∈ distinct as ↔ a ∈ as :=
  KeyedList.mem_addAll_id

theorem nodup_distinct {α : Type} [DecidableEq α] (as : List α) : (distinct as).Nodup :=
  KeyedList.nodup_addAll_id as

theorem foldl_maxColumn_none (cols : List Column) : cols.foldl maxColumn none = none := by
  induction cols with
  | nil => rfl
  | cons col cols ih => exact ih

theorem lastColumn_of_inherited {cols : List Column} {name : String}
    (h : .inherited name ∈ cols) : lastColumn cols = none := by
  obtain ⟨before, after, rfl⟩ := List.append_of_mem h
  have hnone : ∀ last, maxColumn last (.inherited name) = none := fun last => by
    cases last <;> rfl
  rw [lastColumn, List.foldl_append, List.foldl_cons, hnone, foldl_maxColumn_none]

def Numbered (cols : List Column) : Prop := ∀ col ∈ cols, ∃ n : Nat, col = .own n

theorem foldl_maxColumn {cols : List Column} (h : Numbered cols) (last : Int) :
    ∃ last', cols.foldl maxColumn (some last) = some last' ∧ last ≤ last' ∧
      ∀ n : Nat, .own n ∈ cols → (n : Int) ≤ last' := by
  induction cols generalizing last with
  | nil => exact ⟨last, rfl, le_refl last, by simp⟩
  | cons col cols ih =>
      obtain ⟨n, rfl⟩ := h col List.mem_cons_self
      obtain ⟨last', hfold, hle, hmax⟩ :=
        ih (fun col hcol => h col (List.mem_cons_of_mem _ hcol)) (max last n)
      refine ⟨last', hfold, le_trans (le_max_left _ _) hle, fun m hm => ?_⟩
      rcases List.mem_cons.mp hm with heq | hmem
      · obtain rfl := PlainObject.Value.own.inj heq
        exact le_trans (le_max_right _ _) hle
      · exact hmax m hmem

theorem lastColumn_numbered {cols : List Column} (h : Numbered cols) :
    ∃ last, lastColumn cols = some last ∧ ∀ n : Nat, .own n ∈ cols → (n : Int) ≤ last := by
  obtain ⟨last, hfold, -, hmax⟩ := foldl_maxColumn h (-1)
  exact ⟨last, hfold, hmax⟩

/-! ### The nodes of a column -/

theorem mem_placed {g : KubeGraph} {columns : Columns} {n : GraphNode} {col : Column} :
    (n, col) ∈ placed g columns ↔
      n ∈ g.nodes.items ∧ n.group = "" ∧ columns.lookup n.id = some col := by
  rw [placed, List.mem_filterMap]
  constructor
  · rintro ⟨m, hm, h⟩
    obtain ⟨hgroup, h⟩ := Option.ite_none_right_eq_some.mp h
    obtain ⟨col', hlookup, heq⟩ := Option.map_eq_some_iff.mp h
    cases heq
    exact ⟨hm, hgroup, hlookup⟩
  · rintro ⟨hn, hgroup, hlookup⟩
    exact ⟨n, hn, by rw [if_pos hgroup, hlookup, Option.map_some]⟩

theorem mem_ungroupedColumns {g : KubeGraph} {columns : Columns} {col : Column} :
    col ∈ ungroupedColumns g columns ↔
      ∃ n ∈ g.nodes.items, n.group = "" ∧ columns.lookup n.id = some col := by
  rw [ungroupedColumns, mem_distinct, List.mem_map]
  constructor
  · rintro ⟨⟨n, col⟩, hmem, rfl⟩
    obtain ⟨hn, hgroup, hlookup⟩ := mem_placed.mp hmem
    exact ⟨n, hn, hgroup, hlookup⟩
  · rintro ⟨n, hn, hgroup, hlookup⟩
    exact ⟨(n, col), mem_placed.mpr ⟨hn, hgroup, hlookup⟩, rfl⟩

theorem mem_inColumn {g : KubeGraph} {columns : Columns} {col : Column} {n : GraphNode} :
    n ∈ inColumn g columns col ↔
      n ∈ g.nodes.items ∧ n.group = "" ∧ columns.lookup n.id = some col := by
  rw [← mem_placed, inColumn, List.mem_map]
  constructor
  · rintro ⟨⟨n, col'⟩, hmem, rfl⟩
    obtain ⟨hmem, hcol⟩ := List.mem_filter.mp hmem
    exact of_decide_eq_true hcol ▸ hmem
  · intro hmem
    exact ⟨(n, col), List.mem_filter.mpr ⟨hmem, decide_eq_true rfl⟩, rfl⟩

theorem inColumn_sublist (g : KubeGraph) (columns : Columns) (col : Column) :
    (inColumn g columns col).Sublist g.nodes.items := by
  unfold inColumn placed
  induction g.nodes.items with
  | nil => exact .slnil
  | cons n nodes ih =>
      rw [List.filterMap_cons]
      split
      · exact ih.cons n
      · rename_i entry hentry
        obtain ⟨-, hentry⟩ := Option.ite_none_right_eq_some.mp hentry
        obtain ⟨col', -, rfl⟩ := Option.map_eq_some_iff.mp hentry
        rw [List.filter_cons]
        split
        · exact ih.cons_cons n
        · exact ih.cons n

variable {byNumber : ColumnSort} {g : KubeGraph}

abbrev usedColumns (byNumber : ColumnSort) (g : KubeGraph) : List Column :=
  ungroupedColumns g (nodeColumns byNumber g)

abbrev placeOf (byNumber : ColumnSort) (g : KubeGraph) (width : K) (col : Column) : Option K :=
  columnX (columnCount (usedColumns byNumber g) g.groups.items.length) width
    (col.number?.map Nat.cast)

theorem targets_eq (localeCompare : String → String → Int) (width height : K) :
    (computeLayout byNumber localeCompare g width height).targets =
      (usedColumns byNumber g).flatMap fun col =>
        stack localeCompare (placeOf byNumber g width col) height
          (inColumn g (nodeColumns byNumber g) col) := rfl

/-! ### Stacks and cells -/

variable {localeCompare : String → String → Int} {x : Option K} {width height areaWidth : K}
  {nodes : List GraphNode} {cols : Nat} {groups : List GraphGroup}

theorem mem_stack {t : String × LayoutTarget K} (h : t ∈ stack localeCompare x height nodes) :
    t.2.x = x := by
  obtain ⟨i, hi, rfl⟩ := List.mem_mapIdx.mp h
  rfl

theorem map_fst_stack : (stack localeCompare x height nodes).map Prod.fst =
    (nodes.mergeSort fun a b => localeCompare a.name b.name ≤ 0).map GraphNode.id := by
  refine List.ext_getElem (by simp [stack]) fun i hi hi' => ?_
  simp [stack]

theorem id_mem_stack {n : GraphNode} (h : n ∈ nodes) :
    n.id ∈ (stack localeCompare x height nodes).map Prod.fst := by
  rw [map_fst_stack]
  exact List.mem_map_of_mem ((List.mergeSort_perm _ _).mem_iff.mpr h)

theorem targets_nodup (localeCompare : String → String → Int) (width height : K) :
    ((computeLayout byNumber localeCompare g width height).targets.map Prod.fst).Nodup := by
  have hids : ∀ col, ((stack localeCompare (placeOf byNumber g width col) height
      (inColumn g (nodeColumns byNumber g) col)).map Prod.fst).Perm
        ((inColumn g (nodeColumns byNumber g) col).map GraphNode.id) := fun col => by
    rw [map_fst_stack]
    exact (List.mergeSort_perm _ _).map _
  rw [targets_eq, List.map_flatMap, List.nodup_flatMap]
  refine ⟨fun col _ => ?_, (nodup_distinct _).imp fun hne id hid hid' => hne ?_⟩
  · exact (hids col).nodup_iff.mpr (g.nodes.unique.sublist ((inColumn_sublist _ _ _).map _))
  · -- a node is in one column
    obtain ⟨n, hn, hid⟩ := List.mem_map.mp ((hids _).mem_iff.mp hid)
    obtain ⟨m, hm, hid'⟩ := List.mem_map.mp ((hids _).mem_iff.mp hid')
    obtain ⟨-, -, hlookup⟩ := mem_inColumn.mp hn
    obtain ⟨-, -, hlookup'⟩ := mem_inColumn.mp hm
    rw [hid] at hlookup
    rw [hid'] at hlookup'
    exact Option.some.inj (hlookup.symm.trans hlookup')

theorem id_mem_grid {left : Option K} {grp : GraphGroup} (h : grp ∈ groups) :
    grp.id ∈ (grid left areaWidth height cols groups).map Prod.fst := by
  obtain ⟨i, hi, hget⟩ := List.mem_iff_getElem.mp h
  refine List.mem_map.mpr ⟨_, List.mem_mapIdx.mpr ⟨i, hi, rfl⟩, ?_⟩
  rw [hget]

theorem columnX_of_lt {count : Int} (h : 1 < count) (width : K) (col : Int) :
    columnX (some count) width (some col) = some (100 + col * columnWidth count width) := by
  rw [columnX, if_pos h, Option.map_some]

theorem groupCenters_of_columns {start : K} (hcols : usedColumns byNumber g ≠ [])
    (hstart : columnX (columnCount (usedColumns byNumber g) g.groups.items.length) width
      ((lastColumn (usedColumns byNumber g)).map (· + 1)) = some start) :
    (computeLayout byNumber localeCompare g width height).groupCenters =
      grid (some (start - 140)) (280 * (g.groups.items.length ⌈/⌉ 3 : Nat)) height
        (g.groups.items.length ⌈/⌉ 3) g.groups.items := by
  rw [computeLayout]
  simp only [if_pos hcols, hstart, Option.map_some]

/-- A column that is no number makes all of them one. -/
theorem placeOf_of_inherited {name : String} (h : .inherited name ∈ usedColumns byNumber g)
    (width : K) (col : Column) : placeOf byNumber g width col = some (width / 2) := by
  rw [placeOf, columnCount, lastColumn_of_inherited h]
  rfl

variable [IsStrictOrderedRing K]

theorem le_columnWidth (count : Int) (width : K) : 240 ≤ columnWidth count width :=
  le_min (le_max_left _ _) (by norm_num)

theorem one_le_abs_sub {i j : Nat} (h : i ≠ j) : (1 : K) ≤ |(i : K) - j| := by
  have hint : (1 : Int) ≤ |(i : Int) - j| := Int.one_le_abs (sub_ne_zero.mpr (by exact_mod_cast h))
  exact_mod_cast hint

theorem le_abs_steps {i j : Nat} (h : i ≠ j) {step least : K} (hstep : least ≤ step)
    (hleast : 0 ≤ least) : least ≤ |(i : K) * step - j * step| := by
  rw [← sub_mul, abs_mul, abs_of_nonneg (hleast.trans hstep)]
  calc least ≤ step := hstep
    _ = 1 * step := (one_mul step).symm
    _ ≤ |(i : K) - j| * step := mul_le_mul_of_nonneg_right (one_le_abs_sub h) (hleast.trans hstep)

theorem stack_apart (localeCompare : String → String → Int) (x : Option K) (height : K)
    (nodes : List GraphNode) :
    (stack localeCompare x height nodes).Pairwise fun a b => a.2.Apart b.2 := by
  rw [List.pairwise_iff_getElem]
  intro i j hi hj hij
  refine Or.inr ?_
  simp only [stack, List.getElem_mapIdx, add_sub_add_left_eq_sub]
  exact le_abs_steps (Nat.ne_of_lt hij) (le_max_left _ _) (by norm_num)

/-- On a canvas of no height a stack is centred on its edge, to within half a step. -/
theorem stack_middle (localeCompare : String → String → Int) (x : Option K) {n : GraphNode}
    (h : n ∈ nodes) :
    ∃ t ∈ stack localeCompare x 0 nodes, t.2.x = x ∧ -55 ≤ t.2.y ∧ t.2.y ≤ 0 := by
  have hlength : 0 < nodes.length := List.length_pos_of_mem h
  have hi : (nodes.length - 1) / 2 < (nodes.mergeSort
      fun a b => localeCompare a.name b.name ≤ 0).length := by
    rw [List.length_mergeSort]
    omega
  refine ⟨_, List.mem_mapIdx.mpr ⟨_, hi, rfl⟩, rfl, ?_⟩
  have hspacing : spacing (0 : K) nodes.length = 110 := by simp [spacing]
  have hcast : ((nodes.length - 1 : Nat) : K) = nodes.length - 1 := by
    rw [Nat.cast_sub hlength, Nat.cast_one]
  simp only [hspacing, ← hcast]
  -- the index is half of the steps, rounded down
  have hlow : ((nodes.length - 1 : Nat) : K) ≤ 2 * ((nodes.length - 1) / 2 : Nat) + 1 := by
    exact_mod_cast (by omega : nodes.length - 1 ≤ 2 * ((nodes.length - 1) / 2) + 1)
  have hhigh : 2 * (((nodes.length - 1) / 2 : Nat) : K) ≤ (nodes.length - 1 : Nat) := by
    exact_mod_cast (by omega : 2 * ((nodes.length - 1) / 2) ≤ nodes.length - 1)
  constructor <;> linarith

theorem grid_apart (left areaWidth height : K) (cols : Nat) (groups : List GraphGroup) :
    (grid (some left) areaWidth height cols groups).Pairwise fun a b => a.2.Apart b.2 := by
  rw [List.pairwise_iff_getElem]
  intro i j hi hj hij
  simp only [grid, List.getElem_mapIdx, LayoutTarget.Apart]
  have hcells : ∀ (cell : K) (p q : Nat),
      cell * ((p : K) + 1 / 2) - cell * ((q : K) + 1 / 2) = p * cell - q * cell := by
    intro cell p q
    ring
  by_cases hrow : i / cols = j / cols
  · have hcol : i % cols ≠ j % cols := fun heq => by
      have hi' := Nat.div_add_mod i cols
      have hj' := Nat.div_add_mod j cols
      rw [hrow, heq] at hi'
      omega
    refine Or.inl ⟨_, rfl, _, rfl, ?_⟩
    rw [add_sub_add_left_eq_sub, hcells]
    exact le_abs_steps hcol (le_trans (by norm_num) (le_max_right _ _)) (by norm_num)
  · refine Or.inr ?_
    rw [hcells]
    exact le_abs_steps hrow (le_trans (by norm_num) (le_max_right _ _)) (by norm_num)

theorem mem_grid_first {grp : GraphGroup} (h : grp ∈ groups) (hcols : 0 < cols) (left height : K) :
    ∃ t ∈ grid (some left) (280 * (cols : K)) height cols groups, t.2.x = some (left + 140) := by
  have hlength : 0 < groups.length := List.length_pos_of_mem h
  refine ⟨_, List.mem_mapIdx.mpr ⟨0, hlength, rfl⟩, ?_⟩
  have hcast : (cols : K) ≠ 0 := by exact_mod_cast Nat.ne_of_gt hcols
  have hcell : max (280 * (cols : K) / cols) 280 = 280 := by
    rw [mul_div_assoc, div_self hcast, mul_one, max_self]
  simp only [hcell, Option.map_some, Nat.zero_mod, Nat.cast_zero]
  norm_num

theorem le_of_mem_grid {left : K} {t : String × LayoutTarget K}
    (h : t ∈ grid (some left) areaWidth height cols groups) : ∃ x ∈ t.2.x, left + 140 ≤ x := by
  obtain ⟨i, hi, rfl⟩ := List.mem_mapIdx.mp h
  refine ⟨_, rfl, ?_⟩
  have hcell : (280 : K) ≤ max (areaWidth / cols) 280 := le_max_right _ _
  have hhalf : (1 / 2 : K) ≤ ((i % cols : Nat) : K) + 1 / 2 := by
    have hcast : (0 : K) ≤ ((i % cols : Nat) : K) := Nat.cast_nonneg _
    linarith
  have hmul : (280 : K) * (1 / 2) ≤ max (areaWidth / cols) 280 * (((i % cols : Nat) : K) + 1 / 2) :=
    mul_le_mul hcell hhalf (by norm_num) (le_trans (by norm_num) hcell)
  linarith

/-! ### Columns -/

theorem columnX_apart {cols : List Column} (hcols : Numbered cols) {m n : Nat}
    (hm : .own m ∈ cols) (hn : .own n ∈ cols) (hne : m ≠ n) (groups : Nat) (width : K) :
    ∃ x ∈ columnX (columnCount cols groups) width (some m),
      ∃ x' ∈ columnX (columnCount cols groups) width (some n), 240 ≤ |x - x'| := by
  obtain ⟨last, hlast, hmax⟩ := lastColumn_numbered hcols
  have hcount : 1 < last + 1 + if groups > 0 then 1 else 0 := by
    have hm' := hmax m hm
    have hn' := hmax n hn
    split <;> omega
  rw [columnCount, hlast, Option.map_some, columnX_of_lt hcount, columnX_of_lt hcount]
  refine ⟨_, rfl, _, rfl, ?_⟩
  rw [add_sub_add_left_eq_sub]
  exact_mod_cast le_abs_steps hne (le_columnWidth _ width) (by norm_num)

theorem columnX_right {cols : List Column} (hcols : Numbered cols) {groups : Nat}
    (hgroups : 0 < groups) {n₀ : Nat} (hn₀ : .own n₀ ∈ cols) (width : K) :
    ∃ start, columnX (columnCount cols groups) width ((lastColumn cols).map (· + 1)) = some start ∧
      ∀ n : Nat, .own n ∈ cols →
        ∃ x ∈ columnX (columnCount cols groups) width (some n), x + 240 ≤ start := by
  obtain ⟨last, hlast, hmax⟩ := lastColumn_numbered hcols
  have hcount : 1 < last + 1 + if groups > 0 then 1 else 0 := by
    have hn₀' := hmax n₀ hn₀
    rw [if_pos hgroups]
    omega
  rw [columnCount, hlast, Option.map_some, Option.map_some, columnX_of_lt hcount]
  refine ⟨_, rfl, fun n hn => ?_⟩
  rw [columnX_of_lt hcount]
  refine ⟨_, rfl, ?_⟩
  have hwidth := le_columnWidth (last + 1 + if groups > 0 then 1 else 0) width
  have hle : ((n : Int) : K) ≤ last := by exact_mod_cast hmax n hn
  have hmul := mul_le_mul_of_nonneg_right hle (le_trans (by norm_num) hwidth)
  push_cast at hmul ⊢
  linarith

/-- The groups start after every column, at a distance. -/
def GroupsAfter (byNumber : ColumnSort) (g : KubeGraph) (width distance : K) : Prop :=
  g.groups.items ≠ [] → usedColumns byNumber g ≠ [] →
    ∃ start, columnX (columnCount (usedColumns byNumber g) g.groups.items.length) width
        ((lastColumn (usedColumns byNumber g)).map (· + 1)) = some start ∧
      ∀ col ∈ usedColumns byNumber g, ∃ x ∈ placeOf byNumber g width col, x + distance ≤ start

theorem GroupsAfter.groupCenters {distance : K} (h : GroupsAfter byNumber g width distance) :
    ∃ left areaWidth cols, (computeLayout byNumber localeCompare g width height).groupCenters =
      grid (some left) areaWidth height cols g.groups.items := by
  by_cases hnone : g.groups.items = []
  · exact ⟨0, 0, 0, by simp [computeLayout, grid, hnone]⟩
  · by_cases hempty : usedColumns byNumber g = []
    · exact ⟨0, _, _, if_neg (not_not.mpr hempty)⟩
    · obtain ⟨start, hstart, -⟩ := h hnone hempty
      exact ⟨_, _, _, groupCenters_of_columns hempty hstart⟩

theorem GroupsAfter.right {distance : K} (h : GroupsAfter byNumber g width distance)
    {t center : String × LayoutTarget K}
    (ht : t ∈ (computeLayout byNumber localeCompare g width height).targets)
    (hcenter : center ∈ (computeLayout byNumber localeCompare g width height).groupCenters) :
    ∃ x ∈ t.2.x, ∃ x' ∈ center.2.x, x + distance ≤ x' := by
  rw [targets_eq, List.mem_flatMap] at ht
  obtain ⟨col, hcol, ht⟩ := ht
  have hsome : g.groups.items ≠ [] := by
    intro hnone
    obtain ⟨left, areaWidth, cols, heq⟩ :
        ∃ left areaWidth cols, (computeLayout byNumber localeCompare g width height).groupCenters =
          grid (some left) areaWidth height cols g.groups.items := h.groupCenters
    rw [heq, hnone] at hcenter
    cases hcenter
  have hused := List.ne_nil_of_mem hcol
  obtain ⟨start, hstart, hbefore⟩ := h hsome hused
  obtain ⟨x, hx, hle⟩ := hbefore col hcol
  rw [groupCenters_of_columns hused hstart] at hcenter
  obtain ⟨x', hx', hle'⟩ := le_of_mem_grid hcenter
  exact ⟨x, (mem_stack ht).symm ▸ hx, x', hx', by linarith⟩

/-- All a graph needs: its columns are apart, and its groups start after them. -/
theorem spread_of_apart {width : K} (height : K)
    (hcols : ∀ col ∈ usedColumns byNumber g, ∀ col' ∈ usedColumns byNumber g, col ≠ col' →
      ∃ x ∈ placeOf byNumber g width col, ∃ x' ∈ placeOf byNumber g width col', 240 ≤ |x - x'|)
    (hgroups : GroupsAfter byNumber g width 240) :
    (computeLayout byNumber localeCompare g width height).Spread g (nodeColumns byNumber g) := by
  obtain ⟨left, areaWidth, cols, heq⟩ :
      ∃ left areaWidth cols, (computeLayout byNumber localeCompare g width height).groupCenters =
        grid (some left) areaWidth height cols g.groups.items := hgroups.groupCenters
  refine ⟨List.pairwise_append.mpr ⟨?_, ?_, ?_⟩, ?_, ?_, ?_⟩
  · rw [targets_eq, List.pairwise_flatMap]
    refine ⟨fun col _ => stack_apart _ _ _ _, ?_⟩
    refine (nodup_distinct _).imp_of_mem fun hcol hcol' hne t ht t' ht' => ?_
    obtain ⟨x, hx, x', hx', hle⟩ := hcols _ hcol _ hcol' hne
    exact Or.inl ⟨x, (mem_stack ht).symm ▸ hx, x', (mem_stack ht').symm ▸ hx', hle⟩
  · rw [heq]
    exact grid_apart _ _ _ _ _
  · intro t ht center hcenter
    obtain ⟨x, hx, x', hx', hle⟩ := hgroups.right ht hcenter
    refine Or.inl ⟨x, hx, x', hx', ?_⟩
    rw [abs_sub_comm]
    exact le_trans (by linarith) (le_abs_self _)
  · intro n hn hgroup hcol
    obtain ⟨col, hlookup⟩ := Option.isSome_iff_exists.mp hcol
    rw [targets_eq, List.map_flatMap, List.mem_flatMap]
    exact ⟨col, mem_ungroupedColumns.mpr ⟨n, hn, hgroup, hlookup⟩,
      id_mem_stack (mem_inColumn.mpr ⟨hn, hgroup, hlookup⟩)⟩
  · intro grp hgrp
    rw [heq]
    exact id_mem_grid hgrp
  · intro t ht center hcenter
    obtain ⟨x, hx, x', hx', hle⟩ := hgroups.right ht hcenter
    exact ⟨x, hx, x', hx', by linarith⟩

theorem spread_of_numbered (h : Numbered (usedColumns byNumber g)) (width height : K) :
    (computeLayout byNumber localeCompare g width height).Spread g (nodeColumns byNumber g) := by
  refine spread_of_apart height ?_ ?_
  · intro col hcol col' hcol' hne
    obtain ⟨m, rfl⟩ := h col hcol
    obtain ⟨n, rfl⟩ := h col' hcol'
    exact columnX_apart h hcol hcol' (fun heq => hne (heq ▸ rfl)) _ _
  · intro hsome hused
    obtain ⟨col, hcol⟩ := List.exists_mem_of_ne_nil _ hused
    obtain ⟨n, rfl⟩ := h col hcol
    obtain ⟨start, hstart, hbefore⟩ := columnX_right h (List.length_pos_iff.mpr hsome) hcol width
    refine ⟨start, hstart, fun col' hcol' => ?_⟩
    obtain ⟨n', rfl⟩ := h col' hcol'
    exact hbefore n' hcol'

theorem spread_of_single (hgroups : g.groups.items = [])
    (h : ∀ col ∈ usedColumns byNumber g, ∀ col' ∈ usedColumns byNumber g, col = col')
    (width height : K) :
    (computeLayout byNumber localeCompare g width height).Spread g (nodeColumns byNumber g) :=
  spread_of_apart height (fun col hcol col' hcol' hne => absurd (h col hcol col' hcol') hne)
    fun hsome => absurd hgroups hsome

/-! ### Levels -/

theorem mem_of_lookup {columns : Columns} {id : String} {col : Column}
    (h : columns.lookup id = some col) : (id, col) ∈ columns := by
  obtain ⟨before, after, rfl, -⟩ := List.lookup_eq_some_iff.mp h
  exact List.mem_append_right _ List.mem_cons_self

theorem lookup_nodes {n : GraphNode} (hn : n ∈ g.nodes.items) (f : GraphNode → Column) :
    (g.nodes.items.map fun n => (n.id, f n)).lookup n.id = some (f n) := by
  have hsome : ((g.nodes.items.map fun n => (n.id, f n)).lookup n.id).isSome := by
    rw [List.lookup_isSome_iff]
    exact ⟨(n.id, f n), List.mem_map_of_mem hn, beq_self_eq_true _⟩
  obtain ⟨col, hlookup⟩ := Option.isSome_iff_exists.mp hsome
  obtain ⟨m, hm, heq⟩ := List.mem_map.mp (mem_of_lookup hlookup)
  obtain ⟨hid, rfl⟩ := Prod.mk.inj heq
  rw [hlookup, KeyedList.eq_of_key_eq hm hn hid]

theorem numbered_of_mem (h : ∀ entry ∈ nodeColumns byNumber g, ∃ n, entry.2 = .own n) :
    Numbered (usedColumns byNumber g) := by
  intro col hcol
  obtain ⟨n, -, -, hlookup⟩ := mem_ungroupedColumns.mp hcol
  exact h _ (mem_of_lookup hlookup)

def storageColumn (n : GraphNode) : Column := (storageColumns.get n.kind).getD (.own 0)

def TakesStorage (g : KubeGraph) : Prop :=
  (g.level = .cluster ∨ g.level = .node) ∧ ∃ n ∈ g.nodes.items, storageColumns.has n.kind

theorem lookup_of_storage (h : TakesStorage g) {n : GraphNode} (hn : n ∈ g.nodes.items) :
    (nodeColumns byNumber g).lookup n.id = some (storageColumn n) := by
  obtain ⟨hlevel, m, hm, hhas⟩ := h
  have hany : (g.nodes.items.any fun n => storageColumns.has n.kind) = true :=
    List.any_eq_true.mpr ⟨m, hm, hhas⟩
  have hcolumns : nodeColumns byNumber g = g.nodes.items.map fun n => (n.id, storageColumn n) := by
    rcases hlevel with hlevel | hlevel <;>
      simp only [nodeColumns, hlevel, hany, if_true, storageColumn]
  rw [hcolumns, lookup_nodes hn]

theorem mem_usedColumns_of_storage (h : TakesStorage g) {col : Column} :
    col ∈ usedColumns byNumber g ↔
      ∃ n ∈ g.nodes.items, n.group = "" ∧ storageColumn n = col := by
  rw [usedColumns, mem_ungroupedColumns]
  constructor
  · rintro ⟨n, hn, hgroup, hlookup⟩
    rw [lookup_of_storage h hn] at hlookup
    exact ⟨n, hn, hgroup, Option.some.inj hlookup⟩
  · rintro ⟨n, hn, hgroup, rfl⟩
    exact ⟨n, hn, hgroup, lookup_of_storage h hn⟩

theorem numbered_of_not_storage (h : ¬TakesStorage g) : Numbered (usedColumns byNumber g) := by
  refine numbered_of_mem fun entry hentry => ?_
  have haccess : g.level = .cluster ∨ g.level = .node →
      ∃ n : Nat, entry.2 = .own n := by
    intro hlevel
    have hnone : ∀ n ∈ g.nodes.items, ¬storageColumns.has n.kind := fun n hn hhas =>
      h ⟨hlevel, n, hn, hhas⟩
    have hany : (g.nodes.items.any fun n => storageColumns.has n.kind) = false := by
      simpa using hnone
    have hcolumns : entry ∈ g.nodes.items.map fun n =>
        (n.id, (accessColumns.get n.kind).getD (.own 0)) := by
      rcases hlevel with hlevel | hlevel <;>
      · simp only [nodeColumns, hlevel, hany, Bool.false_eq_true, if_false] at hentry
        split at hentry
        · exact hentry
        · cases hentry
    obtain ⟨n, hn, rfl⟩ := List.mem_map.mp hcolumns
    exact PlainObject.getD_get_own (fun hname => hnone n hn (PlainObject.has_iff.mpr (Or.inr hname))) 0
  cases hlevel : g.level with
  | cluster => exact haccess (Or.inl hlevel)
  | node => exact haccess (Or.inr hlevel)
  | «namespace» =>
      simp only [nodeColumns, hlevel] at hentry
      obtain ⟨entry', -, rfl⟩ := List.mem_map.mp hentry
      exact ⟨_, rfl⟩
  | object =>
      simp only [nodeColumns, hlevel] at hentry
      obtain ⟨entry', -, rfl⟩ := List.mem_map.mp hentry
      exact ⟨_, rfl⟩
  | kind =>
      simp only [nodeColumns, hlevel] at hentry
      cases hentry

theorem storageColumn_of_inherited {n : GraphNode} (h : n.kind ∈ PlainObject.inheritedNames) :
    storageColumn n = .inherited n.kind := by
  have hown : ∀ name ∈ PlainObject.inheritedNames, storageColumns.entries.lookup name = none := by
    decide
  rw [storageColumn, PlainObject.get_eq_inherited_iff.mpr ⟨hown _ h, h, rfl⟩, Option.getD_some]

theorem kind_of_storageColumn {n : GraphNode} {name : String}
    (h : storageColumn n = .inherited name) : n.kind = name := by
  unfold storageColumn at h
  cases hget : storageColumns.get n.kind with
  | none => rw [hget] at h; cases h
  | some value =>
      rw [hget, Option.getD_some] at h
      rw [h] at hget
      exact (PlainObject.get_eq_inherited_iff.mp hget).2.2

/-! ### Skewed graphs -/

theorem takesStorage_of_skewed (h : Skewed g) : TakesStorage g := by
  obtain ⟨hlevel, n, hn, -, hname, -⟩ := h
  exact ⟨hlevel, n, hn, PlainObject.has_iff.mpr (Or.inr hname)⟩

theorem spread_of_not_skewed (h : ¬Skewed g) (width height : K) :
    (computeLayout byNumber localeCompare g width height).Spread g (nodeColumns byNumber g) := by
  by_cases hstorage : TakesStorage g
  · by_cases hinherited : ∃ n ∈ g.nodes.items, n.group = "" ∧ n.kind ∈ PlainObject.inheritedNames
    · obtain ⟨n, hn, hgroup, hname⟩ := hinherited
      have halone : ∀ col ∈ usedColumns byNumber g, col = storageColumn n := by
        intro col hcol
        obtain ⟨m, hm, hmgroup, rfl⟩ := (mem_usedColumns_of_storage hstorage).mp hcol
        have hkind : m.kind = n.kind := by
          by_contra hne
          exact h ⟨hstorage.1, n, hn, hgroup, hname, Or.inr ⟨m, hm, hmgroup, hne⟩⟩
        rw [storageColumn, hkind, storageColumn]
      have hgroups : g.groups.items = [] := by
        by_contra hsome
        exact h ⟨hstorage.1, n, hn, hgroup, hname, Or.inl hsome⟩
      exact spread_of_single hgroups (fun col hcol col' hcol' =>
        (halone col hcol).trans (halone col' hcol').symm) width height
    · refine spread_of_numbered (fun col hcol => ?_) width height
      obtain ⟨n, hn, hgroup, rfl⟩ := (mem_usedColumns_of_storage hstorage).mp hcol
      exact PlainObject.getD_get_own (fun hname => hinherited ⟨n, hn, hgroup, hname⟩) 0
  · exact spread_of_numbered (numbered_of_not_storage hstorage) width height

theorem middle_of_storage (K : Type u) [Field K] [LinearOrder K] [IsStrictOrderedRing K]
    (byNumber : ColumnSort) (localeCompare : String → String → Int) (h : TakesStorage g)
    {n : GraphNode} (hn : n ∈ g.nodes.items) (hgroup : n.group = "") :
    ∃ t ∈ stack localeCompare (placeOf byNumber g (0 : K) (storageColumn n)) 0
        (inColumn g (nodeColumns byNumber g) (storageColumn n)),
      t.2.x = placeOf byNumber g 0 (storageColumn n) ∧ -55 ≤ t.2.y ∧ t.2.y ≤ 0 :=
  stack_middle localeCompare _ (mem_inColumn.mpr ⟨hn, hgroup, lookup_of_storage h hn⟩)

theorem not_spread_of_skewed (h : Skewed g) :
    ¬(computeLayout byNumber localeCompare g (0 : K) 0).Spread g (nodeColumns byNumber g) := by
  intro hspread
  have hstorage := takesStorage_of_skewed h
  obtain ⟨-, n, hn, hgroup, hname, hother⟩ := h
  have hcol : storageColumn n ∈ usedColumns byNumber g :=
    (mem_usedColumns_of_storage hstorage).mpr ⟨n, hn, hgroup, rfl⟩
  have hinherited : .inherited n.kind ∈ usedColumns byNumber g :=
    storageColumn_of_inherited hname ▸ hcol
  have hplace := placeOf_of_inherited hinherited (0 : K)
  obtain ⟨t, ht, htx, hlow, hhigh⟩ := middle_of_storage K byNumber localeCompare
    hstorage hn hgroup
  rw [hplace] at htx
  rcases hother with hgroups | ⟨m, hm, hmgroup, hkind⟩
  · -- the first center is where all columns are
    obtain ⟨grp, hgrp⟩ := List.exists_mem_of_ne_nil _ hgroups
    have hlength : 0 < g.groups.items.length := List.length_pos_of_mem hgrp
    have hcells : 0 < g.groups.items.length ⌈/⌉ 3 := by
      rw [Nat.ceilDiv_eq_add_pred_div]
      omega
    have hstart : columnX (columnCount (usedColumns byNumber g) g.groups.items.length) (0 : K)
        ((lastColumn (usedColumns byNumber g)).map (· + 1)) = some (0 / 2) := by
      rw [columnCount, lastColumn_of_inherited hinherited]
      rfl
    obtain ⟨center, hcenter, hx⟩ := mem_grid_first hgrp hcells (0 / 2 - 140 : K) 0
    rw [← groupCenters_of_columns (List.ne_nil_of_mem hcol) hstart] at hcenter
    obtain ⟨x, hx₁, x', hx₂, hlt⟩ :=
      hspread.right t (List.mem_flatMap.mpr ⟨_, hcol, ht⟩) center hcenter
    obtain rfl := Option.some.inj (htx.symm.trans hx₁)
    obtain rfl := Option.some.inj (hx.symm.trans hx₂)
    linarith
  · -- two columns overlap where they are centred
    obtain ⟨t', ht', htx', hlow', hhigh'⟩ := middle_of_storage K byNumber localeCompare
      hstorage hm hmgroup
    rw [hplace] at htx'
    have hcol' : storageColumn m ∈ usedColumns byNumber g :=
      (mem_usedColumns_of_storage hstorage).mpr ⟨m, hm, hmgroup, rfl⟩
    have hne : storageColumn n ≠ storageColumn m := fun heq =>
      hkind (kind_of_storageColumn (heq ▸ storageColumn_of_inherited hname))
    have hcolumns := (List.pairwise_flatMap.mp (List.pairwise_append.mp hspread.apart).1).2
    have hapart : t.2.Apart t'.2 :=
      @List.Pairwise.forall _ _ _ ⟨fun _ _ h t ht t' ht' => (h t' ht' t ht).symm⟩ hcolumns
        _ hcol _ hcol' hne t ht t' ht'
    rcases hapart with ⟨x, hx, x', hx', hle⟩ | hle
    · obtain rfl := Option.some.inj (htx.symm.trans hx)
      obtain rfl := Option.some.inj (htx'.symm.trans hx')
      norm_num at hle
    · have habs : |t.2.y - t'.2.y| ≤ 55 := abs_le.mpr ⟨by linarith, by linarith⟩
      linarith

/-- For every graph: its anchors are apart on every canvas unless it is skewed. -/
theorem anchors_spread_iff (K : Type u) [Field K] [LinearOrder K] [IsStrictOrderedRing K]
    (byNumber : ColumnSort) (localeCompare : String → String → Int) (g : KubeGraph) :
    (∀ width height : K, 0 ≤ width → 0 ≤ height →
      (computeLayout byNumber localeCompare g width height).Spread g (nodeColumns byNumber g)) ↔
    ¬Skewed g := by
  constructor
  · intro hspread hskewed
    exact not_spread_of_skewed hskewed (hspread 0 0 le_rfl le_rfl)
  · intro h width height _ _
    exact spread_of_not_skewed h width height

/-! ### Graphs -/

def compareColumns (a b : Column) : Bool :=
  match a, b with
  | .own m, .own n => m ≤ n
  | _, _ => true

/-- What is no number compares as equal to anything. -/
def mergeByNumber : ColumnSort where
  sort cols := cols.mergeSort compareColumns
  perm cols := List.mergeSort_perm cols _
  sorted _ := (List.map_mergeSort (f := PlainObject.Value.own) (s := compareColumns)
    fun _ _ _ _ => rfl).symm

def compareNames (a b : String) : Int := if a < b then -1 else if b < a then 1 else 0

/-- An object of a kind that is also a property of every object, in a cluster's storage lens. -/
def constructorGraph : KubeGraph where
  level := .cluster
  nodes := KeyedList.empty.addAll
    [{ id := "constructor//site", kind := "constructor", name := "site", status := .healthy, weight := 1 },
      { id := "PersistentVolumeClaim/shop/data", kind := "PersistentVolumeClaim", name := "data",
        status := .healthy, weight := 1 }]
  edges := []
  groups := .empty

theorem constructorGraph_not_spread :
    ¬∀ width height : Rat, 0 ≤ width → 0 ≤ height →
      (computeLayout mergeByNumber compareNames constructorGraph width height).Spread
        constructorGraph (nodeColumns mergeByNumber constructorGraph) := by
  intro hspread
  refine not_spread_of_skewed ⟨Or.inl rfl, ?_⟩ (hspread 0 0 le_rfl le_rfl)
  exact ⟨_, List.mem_cons_self, rfl, by decide, Or.inr ⟨_, List.mem_cons_of_mem _ List.mem_cons_self,
    rfl, by decide⟩⟩

end Wiremap.Client.GraphCanvas
