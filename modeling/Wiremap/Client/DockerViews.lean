import Wiremap.Client.Commands
import Wiremap.Service.DockerLists

/-! The two ways a Docker host is shown: a canvas of its networks, and a list of its containers
that can be searched. -/
namespace Wiremap.Client.DockerViews

open Wiremap.Client.Commands (LowerCase trim)
open Wiremap.Library Wiremap.Service.DockerLists

def displayName (c : ContainerListItem) : String := Text.trimPrefix (c.names.head?.getD "") "/"

def networkColors : List String :=
  ["#6366f1", "#22c55e", "#f59e0b", "#ef4444", "#3b82f6", "#ec4899", "#14b8a6", "#f97316",
    "#8b5cf6", "#06b6d4"]

def getNetworkColor (index : Nat) : String :=
  networkColors.getD (index % networkColors.length) ""

/-! ### The canvas -/

structure TopologyNode where
  id : String
  name : String
  image : String
  state : String
  networks : List String

structure TopologyLink where
  source : String
  target : String
  network : String

structure TopologyGroup where
  id : String
  name : String
  driver : String
  scope : String
  subnet : String
  gateway : String
  containerCount : Nat
  nodes : List String

structure TopologyCanvas where
  nodes : List TopologyNode
  links : List TopologyLink
  groups : List TopologyGroup

def topologyNode (c : ContainerListItem) : TopologyNode where
  id := c.id
  name := displayName c
  image := c.image
  state := c.state
  networks := c.networks.keys

def containerIds (containers : List ContainerListItem) (net : NetworkDto) : List String :=
  net.containers.keys.filter fun id => id ∈ containers.map ContainerListItem.id

def topologyGroup (containers : List ContainerListItem) (net : NetworkDto) : TopologyGroup where
  id := net.id
  name := net.name
  driver := net.driver
  scope := net.scope
  subnet := net.subnet
  gateway := net.gateway
  containerCount := (containerIds containers net).length
  nodes := containerIds containers net

/-- Each one is linked with those after it. -/
def linksOf (network : String) : List String → List TopologyLink
  | [] => []
  | source :: rest => rest.map (⟨source, ·, network⟩) ++ linksOf network rest

def useTopologyCanvas (containers : List ContainerListItem) (networks : List NetworkDto) :
    TopologyCanvas :=
  let drawn := networks.filter fun net => !net.containers.keys.isEmpty
  { nodes := containers.map topologyNode
    links := drawn.flatMap fun net => linksOf net.name (containerIds containers net)
    groups := drawn.map (topologyGroup containers) }

/-! ### The list -/

structure NetworkGroup where
  id : String
  name : String
  driver : String
  subnet : String
  containerCount : Nat
  color : String
  containers : List ContainerListItem

inductive StateFilter where
  | all
  | running
  | exited
  deriving DecidableEq

def StateFilter.word : StateFilter → String
  | .all => "all"
  | .running => "running"
  | .exited => "exited"

structure ContainerList where
  groups : List NetworkGroup
  ungrouped : List ContainerListItem

def filtered (lower : LowerCase) (search : String) (stateFilter : StateFilter)
    (containers : List ContainerListItem) : List ContainerListItem :=
  let q := trim (lower.run search)
  containers.filter fun c =>
    (stateFilter = .all || c.state = stateFilter.word) &&
      (q = "" || Text.contains (lower.run (c.names.head?.getD "")) q ||
        Text.contains (lower.run c.image) q)

def containerMap (shown : List ContainerListItem) : StringMap ContainerListItem :=
  shown.foldl (fun m c => m.insert c.id c) ∅

def netContainers (shown : List ContainerListItem) (net : NetworkDto) : List ContainerListItem :=
  net.containers.keys.filterMap (containerMap shown).lookup

def assignedIds (shown : List ContainerListItem) (networks : List NetworkDto) : List String :=
  networks.flatMap fun net => net.containers.keys.filter fun id => id ∈ containerMap shown

def networkGroup (shown : List ContainerListItem) (net : NetworkDto) (i : Nat) :
    Option NetworkGroup :=
  if net.containers.keys.isEmpty || (netContainers shown net).isEmpty then none
  else
    some {
      id := net.id
      name := net.name
      driver := net.driver
      subnet := net.subnet
      containerCount := (netContainers shown net).length
      color := getNetworkColor i
      containers := netContainers shown net }

def useContainerList (lower : LowerCase) (search : String) (stateFilter : StateFilter)
    (containers : List ContainerListItem) (networks : List NetworkDto) : ContainerList :=
  let shown := filtered lower search stateFilter containers
  { groups := networks.zipIdx.filterMap fun (net, i) => networkGroup shown net i
    ungrouped := shown.filter fun c => c.id ∉ assignedIds shown networks }

/-! ### Groups -/

structure Grouping where
  id : String
  name : String
  driver : String
  subnet : String
  containerIds : List String

def NetworkGroup.grouping (g : NetworkGroup) : Grouping :=
  ⟨g.id, g.name, g.driver, g.subnet, g.containers.map ContainerListItem.id⟩

/-- A group of the canvas with what was found only, if there is any. -/
def TopologyGroup.grouping (found : List ContainerListItem) (g : TopologyGroup) : Option Grouping :=
  let ids := g.nodes.filter fun id => id ∈ found.map ContainerListItem.id
  if ids.isEmpty then none else some ⟨g.id, g.name, g.driver, g.subnet, ids⟩

variable {containers shown : List ContainerListItem} {net : NetworkDto} {id : String}

theorem mem_containerMap : id ∈ containerMap shown ↔ id ∈ shown.map ContainerListItem.id := by
  rw [containerMap, StringMap.mem_foldl_insert, List.mem_map]
  simp

theorem id_of_lookup {c : ContainerListItem} (h : (containerMap shown).lookup id = some c) :
    c.id = id := StringMap.key_of_lookup_foldl_insert ContainerListItem.id shown h

theorem mem_of_lookup {c : ContainerListItem} (h : (containerMap shown).lookup id = some c) :
    c ∈ shown := by
  have hmem : ∀ id c, (containerMap shown).lookup id = some c → c ∈ shown := by
    unfold containerMap
    apply List.foldlRecOn (motive := fun m : StringMap ContainerListItem =>
      ∀ id c, m.lookup id = some c → c ∈ shown)
    · intro id c hlookup
      simp at hlookup
    · intro m hm c' hc' id c hlookup
      rw [StringMap.lookup_insert] at hlookup
      split at hlookup
      · exact Option.some.inj hlookup ▸ hc'
      · exact hm id c hlookup
  exact hmem id c h

theorem ids_netContainers : (netContainers shown net).map ContainerListItem.id =
    net.containers.keys.filter fun id => id ∈ shown.map ContainerListItem.id := by
  rw [netContainers, List.map_filterMap, ← List.filterMap_eq_filter]
  refine List.filterMap_congr fun id _ => ?_
  cases hlookup : (containerMap shown).lookup id with
  | none =>
      have hid : id ∉ shown.map ContainerListItem.id :=
        mem_containerMap.not.mp (AList.lookup_eq_none.mp hlookup)
      simp only [Option.map_none, Option.guard, hid, decide_false, Bool.false_eq_true, if_false]
  | some c =>
      have hid : id ∈ shown.map ContainerListItem.id :=
        id_of_lookup hlookup ▸ List.mem_map_of_mem (mem_of_lookup hlookup)
      simp only [Option.map_some, Option.guard, hid, decide_true, if_true, id_of_lookup hlookup]

theorem containerIds_found (hsub : shown ⊆ containers) :
    ((containerIds containers net).filter fun id => id ∈ shown.map ContainerListItem.id) =
      net.containers.keys.filter fun id => id ∈ shown.map ContainerListItem.id := by
  rw [containerIds, List.filter_filter]
  refine List.filter_congr fun id _ => ?_
  have hids : id ∈ shown.map ContainerListItem.id → id ∈ containers.map ContainerListItem.id :=
    fun h => List.map_subset _ hsub h
  by_cases hid : id ∈ shown.map ContainerListItem.id
  · simp [hid, hids hid]
  · simp [hid]

theorem grouping_networkGroup (hsub : shown ⊆ containers) (i : Nat) :
    (networkGroup shown net i).map NetworkGroup.grouping =
      if !net.containers.keys.isEmpty then (topologyGroup containers net).grouping shown
      else none := by
  have hids := @ids_netContainers shown net
  have hempty : (netContainers shown net).isEmpty =
      (net.containers.keys.filter fun id => id ∈ shown.map ContainerListItem.id).isEmpty := by
    rw [← hids, List.isEmpty_map]
  simp only [networkGroup, TopologyGroup.grouping, topologyGroup, containerIds_found hsub, hempty]
  cases hkeys : net.containers.keys.isEmpty with
  | true => simp
  | false =>
      cases hfound : (net.containers.keys.filter
          fun id => id ∈ shown.map ContainerListItem.id).isEmpty with
      | true => simp
      | false => simp [NetworkGroup.grouping, hids]

theorem mem_assignedIds {networks : List NetworkDto} : id ∈ assignedIds shown networks ↔
    id ∈ shown.map ContainerListItem.id ∧ ∃ net ∈ networks, id ∈ net.containers := by
  simp only [assignedIds, List.mem_flatMap, List.mem_filter, decide_eq_true_eq, mem_containerMap,
    ← AList.mem_keys]
  tauto

/-! ### Links -/

theorem mem_linksOf_iff {network a b : String} {ids : List String} (h : ids.Nodup) :
    (⟨a, b, network⟩ ∈ linksOf network ids ∨ ⟨b, a, network⟩ ∈ linksOf network ids) ↔
      a ≠ b ∧ a ∈ ids ∧ b ∈ ids := by
  induction ids with
  | nil => simp [linksOf]
  | cons id ids ih =>
      obtain ⟨hid, hrest⟩ := List.nodup_cons.mp h
      simp only [linksOf, List.mem_append, List.mem_map, List.mem_cons, TopologyLink.mk.injEq]
      have hpairs := ih hrest
      constructor
      · rintro ((⟨c, hc, rfl, rfl, -⟩ | hlink) | (⟨c, hc, rfl, rfl, -⟩ | hlink))
        · exact ⟨fun heq => hid (heq ▸ hc), .inl rfl, .inr hc⟩
        · obtain ⟨hne, ha, hb⟩ := hpairs.mp (.inl hlink)
          exact ⟨hne, .inr ha, .inr hb⟩
        · exact ⟨fun heq => hid (heq ▸ hc), .inr hc, .inl rfl⟩
        · obtain ⟨hne, ha, hb⟩ := hpairs.mp (.inr hlink)
          exact ⟨hne, .inr ha, .inr hb⟩
      · rintro ⟨hne, rfl | ha, rfl | hb⟩
        · exact absurd rfl hne
        · exact .inl (.inl ⟨b, hb, rfl, rfl, trivial⟩)
        · exact .inr (.inl ⟨a, ha, rfl, rfl, trivial⟩)
        · exact (hpairs.mpr ⟨hne, ha, hb⟩).imp .inr .inr

/-! ### The views agree -/

variable {lower : LowerCase} {search : String} {stateFilter : StateFilter}
  {networks : List NetworkDto}

theorem groupings_agree : let found := filtered lower search stateFilter containers
    (useContainerList lower search stateFilter containers networks).groups.map
        NetworkGroup.grouping =
      (useTopologyCanvas containers networks).groups.filterMap (TopologyGroup.grouping found) := by
  intro found
  have hsub : found ⊆ containers := List.filter_subset_self _
  calc (networks.zipIdx.filterMap fun (net, i) => networkGroup found net i).map
          NetworkGroup.grouping
      = networks.zipIdx.filterMap fun entry => if !entry.1.containers.keys.isEmpty then
          (topologyGroup containers entry.1).grouping found else none := by
        rw [List.map_filterMap]
        exact List.filterMap_congr fun entry _ => grouping_networkGroup hsub entry.2
    _ = (networks.zipIdx.map Prod.fst).filterMap fun net => if !net.containers.keys.isEmpty then
          (topologyGroup containers net).grouping found else none := by
        rw [List.filterMap_map]
        rfl
    _ = ((networks.filter fun net => !net.containers.keys.isEmpty).map
          (topologyGroup containers)).filterMap (TopologyGroup.grouping found) := by
        rw [List.zipIdx_map_fst, List.filterMap_map, List.filterMap_filter]
        rfl

theorem mem_groups_iff {g : TopologyGroup} : g ∈ (useTopologyCanvas containers networks).groups ↔
    ∃ net ∈ networks, net.containers.keys ≠ [] ∧ topologyGroup containers net = g := by
  simp [useTopologyCanvas, and_assoc]

theorem mem_assignedIds_iff {found : List ContainerListItem} (hsub : found ⊆ containers)
    {c : ContainerListItem} (hc : c ∈ found) : c.id ∈ assignedIds found networks ↔
      ∃ g ∈ (useTopologyCanvas containers networks).groups, c.id ∈ g.nodes := by
  have hfound : c.id ∈ found.map ContainerListItem.id := List.mem_map_of_mem hc
  have hdrawn : c.id ∈ containers.map ContainerListItem.id := List.mem_map_of_mem (hsub hc)
  rw [mem_assignedIds]
  constructor
  · rintro ⟨-, net, hnet, hid⟩
    have hkey : c.id ∈ net.containers.keys := AList.mem_keys.mp hid
    refine ⟨_, mem_groups_iff.mpr ⟨net, hnet, List.ne_nil_of_mem hkey, rfl⟩, ?_⟩
    exact List.mem_filter.mpr ⟨hkey, decide_eq_true hdrawn⟩
  · rintro ⟨g, hg, hid⟩
    obtain ⟨net, hnet, -, rfl⟩ := mem_groups_iff.mp hg
    exact ⟨hfound, net, hnet, AList.mem_keys.mpr (List.mem_filter.mp hid).1⟩

theorem mem_links_iff {a b network : String} :
    (⟨a, b, network⟩ ∈ (useTopologyCanvas containers networks).links ∨
      ⟨b, a, network⟩ ∈ (useTopologyCanvas containers networks).links) ↔
    a ≠ b ∧ ∃ g ∈ (useTopologyCanvas containers networks).groups,
      g.name = network ∧ a ∈ g.nodes ∧ b ∈ g.nodes := by
  have hnodup (net : NetworkDto) : (containerIds containers net).Nodup :=
    net.containers.keys_nodup.filter _
  have hname {net : NetworkDto} {ids : List String} {link : TopologyLink}
      (h : link ∈ linksOf net.name ids) : link.network = net.name := by
    induction ids with
    | nil => simp [linksOf] at h
    | cons id ids ih =>
        rcases List.mem_append.mp h with hfirst | hrest
        · obtain ⟨_, -, rfl⟩ := List.mem_map.mp hfirst
          rfl
        · exact ih hrest
  have hmem (link : TopologyLink) : link ∈ (useTopologyCanvas containers networks).links ↔
      ∃ net ∈ networks, net.containers.keys ≠ [] ∧
        link ∈ linksOf net.name (containerIds containers net) := by
    simp [useTopologyCanvas, and_assoc]
  constructor
  · rintro (hlink | hlink)
    · obtain ⟨net, hnet, hkeys, hlink⟩ := (hmem _).mp hlink
      obtain rfl : network = net.name := hname hlink
      obtain ⟨hne, ha, hb⟩ := (mem_linksOf_iff (hnodup net)).mp (.inl hlink)
      exact ⟨hne, _, mem_groups_iff.mpr ⟨net, hnet, hkeys, rfl⟩, rfl, ha, hb⟩
    · obtain ⟨net, hnet, hkeys, hlink⟩ := (hmem _).mp hlink
      obtain rfl : network = net.name := hname hlink
      obtain ⟨hne, ha, hb⟩ := (mem_linksOf_iff (hnodup net)).mp (.inr hlink)
      exact ⟨hne, _, mem_groups_iff.mpr ⟨net, hnet, hkeys, rfl⟩, rfl, ha, hb⟩
  · rintro ⟨hne, g, hg, hnetwork, ha, hb⟩
    obtain ⟨net, hnet, hkeys, rfl⟩ := mem_groups_iff.mp hg
    obtain rfl : net.name = network := hnetwork
    exact ((mem_linksOf_iff (hnodup net)).mpr ⟨hne, ha, hb⟩).imp
      (fun hlink => (hmem _).mpr ⟨net, hnet, hkeys, hlink⟩)
      (fun hlink => (hmem _).mpr ⟨net, hnet, hkeys, hlink⟩)

/-- The groups of the list are those of the canvas with what was found, and what is in none of
them on the canvas is in none of them in the list; the canvas links any two containers of a
network. -/
theorem views_agree (lower : LowerCase) (search : String) (stateFilter : StateFilter)
    (containers : List ContainerListItem) (networks : List NetworkDto) :
    let found := filtered lower search stateFilter containers
    let list := useContainerList lower search stateFilter containers networks
    let canvas := useTopologyCanvas containers networks
    list.groups.map NetworkGroup.grouping =
        canvas.groups.filterMap (TopologyGroup.grouping found) ∧
      (∀ g ∈ list.groups, ∀ c ∈ g.containers, c ∈ found) ∧
      (∀ c, c ∈ list.ungrouped ↔ c ∈ found ∧ ∀ g ∈ canvas.groups, c.id ∉ g.nodes) ∧
      ∀ a b network, (⟨a, b, network⟩ ∈ canvas.links ∨ ⟨b, a, network⟩ ∈ canvas.links) ↔
        a ≠ b ∧ ∃ g ∈ canvas.groups, g.name = network ∧ a ∈ g.nodes ∧ b ∈ g.nodes := by
  intro found list canvas
  have hsub : found ⊆ containers := List.filter_subset_self _
  refine ⟨groupings_agree, fun g hg c hc => ?_, fun c => ?_, fun a b network => mem_links_iff⟩
  · obtain ⟨⟨net, i⟩, -, hgroup⟩ := List.mem_filterMap.mp hg
    dsimp only [networkGroup] at hgroup
    split at hgroup
    · cases hgroup
    · obtain rfl := Option.some.inj hgroup
      obtain ⟨id, -, hlookup⟩ := List.mem_filterMap.mp hc
      exact mem_of_lookup hlookup
  · refine List.mem_filter.trans (and_congr_right fun hc => ?_)
    rw [decide_eq_true_eq, mem_assignedIds_iff hsub hc]
    exact not_exists.trans (forall_congr' fun g => not_and)

end Wiremap.Client.DockerViews
