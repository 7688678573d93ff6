import Mathlib.Data.Fintype.EquivFin
import Wiremap.Client.KubeTopology
import Wiremap.Topology.RangeLinks
import Wiremap.Topology.WellFormed

/-! The key that decides whether a graph is laid out again: when it changes though
nothing has, and when it stays though something has. -/
namespace Wiremap.Client.KubeTopology

open Wiremap.Kube Wiremap.Library Wiremap.Library.Text Wiremap.Topology
open Wiremap.Library.KeyedList (Steady)
open Wiremap.Topology.Graph (Alike)

/-! ### A namespace that has not changed -/

/-- What polling compares, and what it would lay out. -/
def laidOut (g : Graph) : List GraphNode × String := (g.nodes.items, graphKey g)

/-- Reading the namespace again comes to the same, whatever order its maps are
ranged over in. -/
def Unvarying (c : Cluster) (ns : String) : Prop :=
  ∀ order order', (namespaceLevel c order ns).map laidOut = (namespaceLevel c order' ns).map laidOut

theorem graphKey_of_alike {g g' : Graph} (hnodes : g.nodes.items = g'.nodes.items)
    (h : Alike g g') : graphKey g = graphKey g' := by
  rw [graphKey, graphKey, hnodes, h.edges_length]

theorem nodes_of_schedule {c : Cluster} {order : RangeOrder} {ns : String} {g : Graph}
    {owners : NamespaceOwners} (howners : listPodOwners c ns = .ok owners)
    (h : namespaceLevel c order ns = .ok g) :
    g.nodes = (KeyedList.empty : KeyedList GraphNode.id).addAll
      (schedule c ns owners order).flatten.flatten := by
  obtain ⟨owners', howners', hadds⟩ := adds_namespaceLevel h
  obtain rfl := Except.ok.inj (howners.symm.trans howners')
  rw [schedule_flatten]
  exact hadds

/-- A namespace that can be read at all comes to the same on every read exactly where
its schedule is steady: of the claims that carry one prefix of an owner at most one
is not yet drawn, the storage behind the claims in use adds one block of nodes, and
at most one account is not yet drawn. -/
theorem unvarying_iff_steady (c : Cluster) (ns : String) :
    Unvarying c ns ↔ ∀ owners g, listPodOwners c ns = .ok owners →
      namespaceLevel c default ns = .ok g →
        Steady GraphNode.id [] (schedule c ns owners default) := by
  constructor
  · intro hsame owners g howners hg
    refine ((reorderable_schedule c ns owners).steady_iff default).mp fun order order' => ?_
    have hread : ∀ order, ∃ g', namespaceLevel c order ns = .ok g' := by
      intro order
      obtain ⟨err, hfails, -⟩ | ⟨_, g', -, hg', -⟩ := (alike_namespaceLevel c default order ns).cases
      · rw [hg] at hfails
        cases hfails
      · exact ⟨g', hg'⟩
    obtain ⟨g₁, hg₁⟩ := hread order
    obtain ⟨g₂, hg₂⟩ := hread order'
    have hnodes := hsame order order'
    rw [hg₁, hg₂] at hnodes
    rw [← nodes_of_schedule howners hg₁, ← nodes_of_schedule howners hg₂]
    exact congrArg Prod.fst (Except.ok.inj hnodes)
  · intro hsteady order order'
    obtain ⟨err, hg₁, hg₂⟩ | ⟨g₁, g₂, hg₁, hg₂, halike⟩ := (alike_namespaceLevel c order order' ns).cases
    · rw [hg₁, hg₂]
    · obtain ⟨owners, howners, -⟩ := adds_namespaceLevel hg₁
      have hdefault : ∃ g, namespaceLevel c default ns = .ok g := by
        obtain ⟨err, hfails, -⟩ | ⟨_, g, -, hg, -⟩ := (alike_namespaceLevel c order default ns).cases
        · rw [hg₁] at hfails
          cases hfails
        · exact ⟨g, hg⟩
      obtain ⟨g, hg⟩ := hdefault
      have hnodes : g₁.nodes.items = g₂.nodes.items := by
        rw [nodes_of_schedule howners hg₁, nodes_of_schedule howners hg₂]
        exact ((reorderable_schedule c ns owners).steady_iff default).mpr
          (hsteady owners g howners hg) order order'
      have hkey := graphKey_of_alike hnodes halike
      rw [hg₁, hg₂]
      show Except.ok (laidOut g₁) = Except.ok (laidOut g₂)
      rw [laidOut, laidOut, hnodes, hkey]

def twoAccounts : Cluster where
  pods := (KeyedList.empty.add
    { name := "web", ns := "shop", spec := { serviceAccountName := "api" } }).add
    { name := "job", ns := "shop", spec := { serviceAccountName := "batch" } }

/-- Which account is drawn first is left to the map. -/
theorem twoAccounts_varies : ¬Unvarying twoAccounts "shop" := by
  intro hsame
  have hids := congrArg (Except.map fun laid => laid.1.map GraphNode.id)
    (hsame (.front "api") (.front "batch"))
  exact absurd hids (by decide)

/-! ### A change that is seen -/

def Member (g : Graph) (group : GraphGroup) (id : String) : Prop :=
  group ∈ g.groups.items ∧ ∃ n ∈ g.nodes.items, n.id = id ∧ n.group = group.id

/-- What the canvas draws of both graphs is the same. -/
structure SameOnCanvas (g h : Graph) : Prop where
  nodes : (g.nodes.items.map fun n => (n.id, n.status, n.summary)) =
    h.nodes.items.map fun n => (n.id, n.status, n.summary)
  edges : ∀ e, e ∈ g.edges.items ↔ e ∈ h.edges.items
  groups : ∀ group id, Member g group id ↔ Member h group id

def nodeText (n : GraphNode) : String := s!"{n.id}:{statusWord n.status}:{n.summary}"

theorem nodeText_ne_empty (n : GraphNode) : nodeText n ≠ "" := by
  intro h
  have hcolon : ':' ∈ (nodeText n).toList := by
    have hmiddle : nodeText n = n.id ++ ":" ++ statusWord n.status ++ ":" ++ n.summary := rfl
    rw [hmiddle]
    simp
  rw [h] at hcolon
  cases hcolon

/-- Digits hold no bar, so the key tells the text of the nodes and the number of edges. -/
theorem graphKey_eq_iff (g h : Graph) :
    graphKey g = graphKey h ↔
      join ',' (g.nodes.items.map nodeText) = join ',' (h.nodes.items.map nodeText) ∧
        g.edges.items.length = h.edges.items.length := by
  have hkey : ∀ g : Graph, graphKey g = join ',' (g.nodes.items.map nodeText) ++
      String.singleton '|' ++ toString g.edges.items.length := fun _ => rfl
  rw [hkey, hkey]
  constructor
  · intro hsame
    have hfree : ∀ n : Nat, Free '|' (toString n) := fun n hbar =>
      absurd (isDigit_of_mem_toString hbar) (by decide)
    obtain ⟨htext, hcount⟩ := join_inj_right (hfree _) (hfree _) hsame
    exact ⟨htext, toString_inj hcount⟩
  · rintro ⟨htext, hcount⟩
    rw [htext, hcount]

theorem join_map_nodeText_eq_empty {nodes : List GraphNode} :
    join ',' (nodes.map nodeText) = "" ↔ nodes = [] := by
  constructor
  · intro hempty
    cases nodes with
    | nil => rfl
    | cons n nodes =>
        have hchars := congrArg String.toList hempty
        rw [toList_join] at hchars
        cases nodes with
        | nil =>
            have hnode : (nodeText n).toList = [] := by simpa using hchars
            exact absurd (String.toList_inj.mp hnode) (nodeText_ne_empty n)
        | cons n' nodes => simp at hchars
  · rintro rfl
    rfl

def regroup (g : Graph) (n : GraphNode) (rest : List GraphNode) (hitems : g.nodes.items = n :: rest)
    (group : GraphGroup) : Graph where
  level := g.level
  nodes :=
    { items := { n with group := group.id } :: rest
      unique := by
        have hunique := g.nodes.unique
        rw [hitems] at hunique
        exact hunique }
  edges := g.edges
  groups := g.groups.add group

def rekind (g : Graph) (e : GraphEdge) (rest : List GraphEdge) (hitems : g.edges.items = e :: rest)
    (kind : String) (hkind : (⟨e.source, e.target, kind⟩ : GraphEdge) ∉ rest) : Graph where
  level := g.level
  nodes := g.nodes
  edges :=
    { items := ⟨e.source, e.target, kind⟩ :: rest
      unique := by
        have hunique := g.edges.unique
        rw [hitems, List.map_id, List.nodup_cons] at hunique
        rw [List.map_id, List.nodup_cons]
        exact ⟨hkind, hunique.2⟩ }
  groups := g.groups

theorem wellFormed_regroup {g : Graph} (hg : g.WellFormed) {n : GraphNode} {rest : List GraphNode}
    (hitems : g.nodes.items = n :: rest) (group : GraphGroup) :
    (regroup g n rest hitems group).WellFormed := by
  have hids : ∀ id, (∃ n ∈ g.nodes.items, n.id = id) →
      ∃ n' ∈ (regroup g n rest hitems group).nodes.items, n'.id = id := by
    rintro id ⟨m, hm, rfl⟩
    rw [hitems] at hm
    rcases List.mem_cons.mp hm with rfl | hrest
    · exact ⟨_, List.mem_cons_self, rfl⟩
    · exact ⟨m, List.mem_cons_of_mem _ hrest, rfl⟩
  refine ⟨(regroup g n rest hitems group).nodes.unique, hg.edges, (g.groups.add group).unique,
    fun e he => hids _ (hg.source e he), fun e he => hids _ (hg.target e he), fun m hm hgroup => ?_⟩
  rcases List.mem_cons.mp hm with rfl | hrest
  · exact KeyedList.mem_keys.mp (KeyedList.mem_keys_add.mpr (.inr rfl))
  · obtain ⟨p, hp, hid⟩ := hg.group m (hitems ▸ List.mem_cons_of_mem _ hrest) hgroup
    exact ⟨p, KeyedList.mem_add.mpr (.inl hp), hid⟩

theorem wellFormed_rekind {g : Graph} (hg : g.WellFormed) {e : GraphEdge} {rest : List GraphEdge}
    (hitems : g.edges.items = e :: rest) {kind : String}
    (hkind : (⟨e.source, e.target, kind⟩ : GraphEdge) ∉ rest) :
    (rekind g e rest hitems kind hkind).WellFormed := by
  have hold : ∀ e' ∈ (rekind g e rest hitems kind hkind).edges.items,
      ∃ f ∈ g.edges.items, f.source = e'.source ∧ f.target = e'.target := by
    intro e' he'
    rw [hitems]
    rcases List.mem_cons.mp he' with rfl | hrest
    · exact ⟨e, List.mem_cons_self, rfl, rfl⟩
    · exact ⟨e', List.mem_cons_of_mem _ hrest, rfl, rfl⟩
  refine ⟨hg.nodeIDs, ?_, hg.groupIDs, fun e' he' => ?_, fun e' he' => ?_, hg.group⟩
  · simpa using (rekind g e rest hitems kind hkind).edges.unique
  · obtain ⟨f, hf, hsource, -⟩ := hold e' he'
    exact hsource ▸ hg.source f hf
  · obtain ⟨f, hf, -, htarget⟩ := hold e' he'
    exact htarget ▸ hg.target f hf

/-- What a group is called is not part of the key. -/
theorem graphKey_regroup (g : Graph) {n : GraphNode} {rest : List GraphNode}
    (hitems : g.nodes.items = n :: rest) (group : GraphGroup) :
    graphKey g = graphKey (regroup g n rest hitems group) := by
  refine (graphKey_eq_iff _ _).mpr ⟨?_, rfl⟩
  rw [hitems]
  rfl

/-- Of the edges the key has the number only. -/
theorem graphKey_rekind (g : Graph) {e : GraphEdge} {rest : List GraphEdge}
    (hitems : g.edges.items = e :: rest) {kind : String}
    (hkind : (⟨e.source, e.target, kind⟩ : GraphEdge) ∉ rest) :
    graphKey g = graphKey (rekind g e rest hitems kind hkind) := by
  refine (graphKey_eq_iff _ _).mpr ⟨rfl, ?_⟩
  rw [hitems]
  rfl

theorem edges_of_no_nodes {g : Graph} (hg : g.WellFormed) (hnone : g.nodes.items = []) :
    g.edges.items = [] := by
  refine List.eq_nil_iff_forall_not_mem.mpr fun e he => ?_
  obtain ⟨n, hn, -⟩ := hg.source e he
  rw [hnone] at hn
  cases hn

theorem sameOnCanvas_regroup {g : Graph} {n : GraphNode} {rest : List GraphNode}
    (hitems : g.nodes.items = n :: rest) {group : GraphGroup}
    (hsame : SameOnCanvas g (regroup g n rest hitems group)) : n.group = group.id := by
  obtain ⟨listed, hlisted, hid⟩ := KeyedList.mem_keys.mp
    (KeyedList.mem_keys_add.mpr (.inr rfl) : group.id ∈ (g.groups.add group).keys)
  have hmember : Member (regroup g n rest hitems group) listed n.id :=
    ⟨hlisted, { n with group := group.id }, List.mem_cons_self, rfl, hid.symm⟩
  obtain ⟨-, m, hm, hsameid, hgroup⟩ := (hsame.groups listed n.id).mpr hmember
  have hn : n ∈ g.nodes.items := hitems ▸ List.mem_cons_self
  obtain rfl := KeyedList.eq_of_key_eq hm hn hsameid
  exact hgroup.trans hid

/-- A refresh is sure to keep no graph that looks different only while the one shown
has no nodes; and, of graphs with the same nodes and groups, only while it has no edges. -/
theorem graphKey_tells_iff (g : Graph) (hg : g.WellFormed) :
    ((∀ h : Graph, h.WellFormed → h.level = g.level → graphKey g = graphKey h → SameOnCanvas g h) ↔
        g.nodes.items = []) ∧
      ((∀ h : Graph, h.WellFormed → h.level = g.level → h.nodes = g.nodes → h.groups = g.groups →
          graphKey g = graphKey h → SameOnCanvas g h) ↔ g.edges.items = []) := by
  refine ⟨⟨fun htells => ?_, fun hnone h hh _ hkey => ?_⟩,
    ⟨fun htells => ?_, fun hnone h _ _ hnodes hgroups hkey => ?_⟩⟩
  · by_contra hsome
    obtain ⟨n, rest, hitems⟩ := List.exists_cons_of_ne_nil hsome
    -- a group that the first node is not in
    obtain ⟨name, hname⟩ := Infinite.exists_notMem_finset {n.group}
    let group : GraphGroup := ⟨name, name, "Namespace"⟩
    have hsame := htells _ (wellFormed_regroup hg hitems group) rfl (graphKey_regroup g hitems group)
    exact hname (Finset.mem_singleton.mpr (sameOnCanvas_regroup hitems hsame).symm)
  · obtain ⟨htext, -⟩ := (graphKey_eq_iff g h).mp hkey
    rw [join_map_nodeText_eq_empty.mpr hnone, eq_comm, join_map_nodeText_eq_empty] at htext
    refine ⟨by rw [hnone, htext], ?_, fun group id => ?_⟩
    · rw [edges_of_no_nodes hg hnone, edges_of_no_nodes hh htext]
      exact fun _ => .rfl
    · simp [Member, hnone, htext]
  · by_contra hsome
    obtain ⟨e, rest, hitems⟩ := List.exists_cons_of_ne_nil hsome
    -- a kind that no edge is of
    obtain ⟨kind, hkind⟩ := Infinite.exists_notMem_finset (g.edges.items.map (·.kind)).toFinset
    rw [List.mem_toFinset] at hkind
    have hnew : (⟨e.source, e.target, kind⟩ : GraphEdge) ∉ g.edges.items := fun hmem =>
      hkind (List.mem_map_of_mem hmem)
    have hfresh : (⟨e.source, e.target, kind⟩ : GraphEdge) ∉ rest := fun hmem =>
      hnew (hitems ▸ List.mem_cons_of_mem e hmem)
    have hsame := htells _ (wellFormed_rekind hg hitems hfresh) rfl rfl rfl
      (graphKey_rekind g hitems hfresh)
    exact hnew ((hsame.edges _).mpr List.mem_cons_self)
  · obtain ⟨-, hcount⟩ := (graphKey_eq_iff g h).mp hkey
    rw [hnone, List.length_nil, eq_comm, List.length_eq_zero_iff] at hcount
    refine ⟨by rw [hnodes], by rw [hnone, hcount]; exact fun _ => .rfl, fun group id => ?_⟩
    rw [Member, Member, hnodes, hgroups]

/-- An Ingress, and two Services it may lead to. -/
def behindIngress (backend : String) : Cluster where
  services := (KeyedList.empty.add { name := "web", ns := "shop" }).add { name := "next", ns := "shop" }
  ingresses := KeyedList.empty.add
    { name := "front", ns := "shop", defaultBackend := some (some backend) }

/-- Without the Service it names it leads nowhere, and no edge can be missed. -/
theorem graphKey_tells_unrouted :
    ∃ g, namespaceLevel (behindIngress "gone") default "shop" = .ok g ∧ g.nodes.items.length = 3 ∧
      ∀ h : Graph, h.WellFormed → h.level = g.level → h.nodes = g.nodes → h.groups = g.groups →
        graphKey g = graphKey h → SameOnCanvas g h := by
  have hread : ∃ g, namespaceLevel (behindIngress "gone") default "shop" = .ok g ∧
      g.nodes.items.length = 3 ∧ g.edges.items = [] := ⟨_, rfl, rfl, rfl⟩
  obtain ⟨g, hg, hnodes, hedges⟩ := hread
  exact ⟨g, hg, hnodes,
    (graphKey_tells_iff g (grown_namespaceLevel hg).closed.wellFormed).2.mpr hedges⟩

/-- Traffic that is sent to another Service is not seen on the canvas. -/
theorem switchedIngress_not_seen :
    ∃ g h, namespaceLevel (behindIngress "web") default "shop" = .ok g ∧
      namespaceLevel (behindIngress "next") default "shop" = .ok h ∧
      g.WellFormed ∧ h.WellFormed ∧ h.level = g.level ∧ graphKey g = graphKey h ∧
        ¬SameOnCanvas g h := by
  let texts := ["Service/shop/web:healthy:", "Service/shop/next:healthy:",
    "Ingress/shop/front:healthy:*"]
  have hweb : ∃ g, namespaceLevel (behindIngress "web") default "shop" = .ok g ∧
      g.level = .namespace ∧ g.nodes.items.map nodeText = texts ∧
      g.edges.items = [⟨"Ingress/shop/front", "Service/shop/web", "routes"⟩] :=
    ⟨_, rfl, rfl, rfl, rfl⟩
  have hnext : ∃ g, namespaceLevel (behindIngress "next") default "shop" = .ok g ∧
      g.level = .namespace ∧ g.nodes.items.map nodeText = texts ∧
      g.edges.items = [⟨"Ingress/shop/front", "Service/shop/next", "routes"⟩] :=
    ⟨_, rfl, rfl, rfl, rfl⟩
  obtain ⟨g, hg, hlevel, htext, hedges⟩ := hweb
  obtain ⟨h, hh, hlevel', htext', hedges'⟩ := hnext
  have hkey : graphKey g = graphKey h :=
    (graphKey_eq_iff g h).mpr ⟨by rw [htext, htext'], by rw [hedges, hedges']; rfl⟩
  refine ⟨g, h, hg, hh, (grown_namespaceLevel hg).closed.wellFormed,
    (grown_namespaceLevel hh).closed.wellFormed, hlevel'.trans hlevel.symm, hkey, fun hsame => ?_⟩
  have hrouted := (hsame.edges ⟨"Ingress/shop/front", "Service/shop/web", "routes"⟩).mp
    (hedges ▸ List.mem_cons_self)
  rw [hedges'] at hrouted
  exact absurd hrouted (by decide)

end Wiremap.Client.KubeTopology
