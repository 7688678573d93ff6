import Wiremap.Client.KubeRoute

/-! Hashes that are typed or pasted: which of them are read at all, and which of the
routes read from them are written back as they were. -/
namespace Wiremap.Client

open Wiremap.Library Wiremap.Library.Text
open Wiremap.Library.PercentEncoding (encode decode)

/-! ### Segments -/

def hashSegments (hash : String) : List String := split '/' (trimPrefix hash routePrefix)

theorem decodeURIComponent_eq_ok {s text : String} :
    decodeURIComponent s = .ok text ↔ decode s = some text := by
  unfold decodeURIComponent
  cases decode s with
  | none => simp
  | some t => simp

theorem mapM_decode_eq_ok {parts texts : List String} :
    parts.mapM decodeURIComponent = .ok texts ↔ parts.map decode = texts.map some := by
  induction parts generalizing texts with
  | nil =>
      rw [List.mapM_nil, Fallible.pure_eq_ok]
      constructor
      · rintro rfl
        rfl
      · intro h
        exact (List.map_eq_nil_iff.mp h.symm).symm
  | cons part rest ih =>
      rw [List.mapM_cons, Fallible.bind_eq_ok]
      constructor
      · rintro ⟨text, hpart, hrest⟩
        obtain ⟨others, hothers, htexts⟩ := Fallible.bind_eq_ok.mp hrest
        obtain rfl := Fallible.pure_eq_ok.mp htexts
        rw [List.map_cons, List.map_cons, decodeURIComponent_eq_ok.mp hpart, ih.mp hothers]
      · intro h
        cases texts with
        | nil => cases h
        | cons text others =>
            rw [List.map_cons, List.map_cons, List.cons.injEq] at h
            refine ⟨text, decodeURIComponent_eq_ok.mpr h.1, ?_⟩
            rw [ih.mpr h.2]
            rfl

theorem mapM_decode_total (parts : List String) :
    (∃ texts, parts.mapM decodeURIComponent = .ok texts) ↔
      ∀ part ∈ parts, (decode part).isSome := by
  constructor
  · rintro ⟨texts, htexts⟩ part hpart
    have hmem : decode part ∈ texts.map some :=
      mapM_decode_eq_ok.mp htexts ▸ List.mem_map_of_mem hpart
    obtain ⟨text, -, htext⟩ := List.mem_map.mp hmem
    rw [← htext]
    rfl
  · intro hdecodes
    refine ⟨parts.map fun part => (decode part).getD "", mapM_decode_eq_ok.mpr ?_⟩
    rw [List.map_map]
    refine List.map_congr_left fun part hpart => ?_
    obtain ⟨text, htext⟩ := Option.isSome_iff_exists.mp (hdecodes part hpart)
    rw [Function.comp_apply, htext, Option.getD_some]

theorem parseKubeHash_elsewhere {hash : String} (hhead : hasPrefix hash routePrefix = false) :
    parseKubeHash hash = .ok none := by
  simp [parseKubeHash, hhead]

theorem parseKubeHash_eq_ok {hash : String} (hhead : hasPrefix hash routePrefix)
    {read : Option KubeRoute} :
    parseKubeHash hash = .ok read ↔
      ∃ texts, (hashSegments hash).mapM decodeURIComponent = .ok texts ∧
        parseSegments texts = read := by
  rw [parseKubeHash, if_pos hhead, Fallible.bind_eq_ok]
  exact exists_congr fun texts => and_congr_right fun _ => Fallible.pure_eq_ok

/-! ### What can be read -/

theorem splitKind_cases (segment : String) :
    Free '.' segment ∧ splitKind segment = (segment, "") ∨
      ∃ kind group, Free '.' kind ∧ segment = kind ++ String.singleton '.' ++ group ∧
        splitKind segment = (kind, group) := by
  by_cases hdot : Free '.' segment
  · left
    refine ⟨hdot, ?_⟩
    simp [splitKind, split_of_free hdot, join]
  · right
    obtain ⟨kind, group, hsegment, hkind⟩ := List.eq_append_cons_of_mem (not_not.mp hdot)
    have hchars : segment = String.ofList kind ++ String.singleton '.' ++ String.ofList group := by
      apply String.toList_inj.mp
      simpa using hsegment
    have hfree : Free '.' (String.ofList kind) := by simpa [Free] using hkind
    refine ⟨.ofList kind, .ofList group, hfree, hchars, ?_⟩
    rw [splitKind, hchars, split_append hfree]
    simp

theorem splitKind_free (segment : String) : Free '.' (splitKind segment).1 := by
  obtain ⟨hfree, hkind⟩ | ⟨kind, group, hfree, -, hkind⟩ := splitKind_cases segment
  · rw [hkind]
    exact hfree
  · rw [hkind]
    exact hfree

theorem parseDrill_drill (kindPart nsPart name : String) :
    (parseDrill kindPart nsPart name).Drill := by
  have hfree := splitKind_free kindPart
  unfold parseDrill
  generalize splitKind kindPart = parts at hfree ⊢
  obtain ⟨kind, group⟩ := parts
  dsimp only at hfree ⊢
  by_cases hnode : kind = "Node" ∧ group = ""
  · rw [if_pos hnode]
    exact .node name
  · rw [if_neg hnode]
    refine .object ?_ hfree hnode
    split
    · decide
    · assumption

theorem parseDrills_drill (segments : List String) :
    ∀ view ∈ parseDrills segments, view.Drill := by
  induction segments using parseDrills.induct with
  | case1 kindPart nsPart name rest ih =>
      intro view hview
      rw [parseDrills, List.mem_cons] at hview
      rcases hview with rfl | hrest
      · exact parseDrill_drill kindPart nsPart name
      · exact ih view hrest
  | case2 segments hshort =>
      intro view hview
      rw [parseDrills] at hview
      · cases hview
      · exact hshort

structure KubeRoute.Read (route : KubeRoute) : Prop where
  cluster : route.cluster ≠ ""
  ns : route.ns ≠ allNamespaces
  root : ∃ segment, route.root = parseRoot segment
  drills : ∀ view ∈ route.drills, view.Drill

theorem parseSegments_read {segments : List String} {route : KubeRoute}
    (h : parseSegments segments = some route) :
    route.Read ∧ route.root = parseRoot (segments.getD 2 "overview") := by
  unfold parseSegments at h
  dsimp only at h
  split at h
  · cases h
  · rename_i hcluster
    cases h
    refine ⟨⟨hcluster, ?_, ⟨_, rfl⟩, parseDrills_drill _⟩, rfl⟩
    dsimp only
    split
    · decide
    · assumption

theorem parseSegments_eq_none {segments : List String} :
    parseSegments segments = none ↔ segments.getD 0 "" = "" := by
  unfold parseSegments
  dsimp only
  split <;> simp_all

/-! ### What is written back -/

/-- The root segments with a dot after a word that is not a kind. -/
def dottedRoots : List String := reservedRoots.map (· ++ ".")

theorem parseRoot_reserved {word : String} (h : word ∈ reservedRoots) (group kind : String) :
    parseRoot word ≠ .kind group kind := by
  simp only [reservedRoots, List.mem_cons, List.not_mem_nil, or_false] at h
  rcases h with rfl | rfl | rfl | rfl <;> exact KubeRoot.noConfusion

theorem parseRoot_of_not_reserved {segment : String} (h : segment ∉ reservedRoots) :
    parseRoot segment = .kind (splitKind segment).2 (splitKind segment).1 := by
  simp only [reservedRoots, List.mem_cons, List.not_mem_nil, or_false, not_or] at h
  obtain ⟨hoverview, hnodes, hstorage, haccess⟩ := h
  have hlens : lenses.find? (fun l => l.val.word = segment) = none := by
    simp [lenses, KubeLens.word, Ne.symm hnodes, Ne.symm hstorage, Ne.symm haccess]
  rw [parseRoot, hlens]
  simp only [if_neg hoverview]

/-- A root that was read has a segment of its own, unless a dot is all that keeps it
from being a reserved word. -/
theorem parseRoot_expressible_iff (segment : String) :
    (parseRoot segment).Expressible ↔ segment ∉ dottedRoots := by
  by_cases hreserved : segment ∈ reservedRoots
  · have hfree : segment ∉ dottedRoots := by
      revert segment
      decide
    refine iff_of_true ?_ hfree
    cases hroot : parseRoot segment with
    | overview => trivial
    | lens l => trivial
    | kind group kind => exact absurd hroot (parseRoot_reserved hreserved group kind)
  · have hkind := parseRoot_of_not_reserved hreserved
    rw [hkind]
    refine ⟨fun hexpressible hdotted => ?_, fun hplain => ⟨splitKind_free segment, fun hgroup => ?_⟩⟩
    · obtain ⟨word, hword, rfl⟩ := List.mem_map.mp hdotted
      have hsplit : splitKind (word ++ ".") = (word, "") := by
        have hdot : word ++ "." = word ++ String.singleton '.' ++ "" := by simp
        rw [splitKind, hdot, split_append (reserved_free word hword)]
        simp
      refine hexpressible.2 ?_ ?_
      · rw [hsplit]
      · rw [hsplit]
        exact hword
    · intro hword
      obtain ⟨-, hwhole⟩ | ⟨kind, group, -, hparts, hsplit⟩ := splitKind_cases segment
      · rw [hwhole] at hword
        exact hreserved hword
      · rw [hsplit] at hgroup hword
        dsimp only at hgroup hword
        subst hgroup
        refine hplain (List.mem_map.mpr ⟨kind, hword, ?_⟩)
        rw [hparts]
        simp

theorem expressible_of_stable {root : KubeRoot} (hread : ∃ segment, root = parseRoot segment)
    (hstable : parseRoot (rootSegment root) = root) : root.Expressible := by
  obtain ⟨segment, hroot⟩ := hread
  cases root with
  | overview => trivial
  | lens l => trivial
  | kind group kind =>
      have hplain : segment ∉ reservedRoots := fun hreserved =>
        parseRoot_reserved hreserved group kind hroot.symm
      rw [parseRoot_of_not_reserved hplain, KubeRoot.kind.injEq] at hroot
      refine ⟨hroot.2 ▸ splitKind_free segment, ?_⟩
      rintro rfl hword
      rw [rootSegment, kindSegment_empty] at hstable
      exact parseRoot_reserved hword "" kind hstable

theorem KubeRoute.Read.reread_iff {route : KubeRoute} (h : route.Read) :
    parseKubeHash (toKubeHash route) = .ok (some route) ↔ route.root.Expressible := by
  rw [parseKubeHash_written, Except.ok.injEq]
  constructor
  · intro hsame
    refine expressible_of_stable h.root ?_
    exact (parseSegments_read hsame).2.symm
  · intro hroot
    exact parseSegments_routeSegments ⟨h.cluster, h.ns, hroot, h.drills⟩

/-! ### Every hash -/

/-- Reading the hash throws nothing, and a route that is read is read again from the
hash that is written for it. -/
def Canonical (hash : String) : Prop :=
  ∃ read, parseKubeHash hash = .ok read ∧
    ∀ route ∈ read, parseKubeHash (toKubeHash route) = .ok (some route)

/-- Every escape of the hash can be decoded, and its root is not a reserved word with
a dot behind it. -/
structure Legible (hash : String) : Prop where
  decodes : ∀ segment ∈ hashSegments hash, (decode segment).isSome
  root : ∀ root ∈ (hashSegments hash)[2]?.bind decode,
    decode ((hashSegments hash).getD 0 "") ≠ some "" → root ∉ dottedRoots

theorem decoded_segments {parts texts : List String} (h : parts.map decode = texts.map some) :
    decode (parts.getD 0 "") = some (texts.getD 0 "") ∧ parts[2]?.bind decode = texts[2]? := by
  have hat : ∀ i : Nat, parts[i]?.map decode = texts[i]?.map some := by
    intro i
    rw [← List.getElem?_map, ← List.getElem?_map, h]
  constructor
  · have hfirst := hat 0
    rw [List.getD_eq_getElem?_getD, List.getD_eq_getElem?_getD]
    cases hpart : parts[0]? with
    | none =>
        rw [hpart, Option.map_none, eq_comm, Option.map_eq_none_iff] at hfirst
        rw [hfirst]
        exact PercentEncoding.decode_encode ""
    | some part =>
        rw [hpart, Option.map_some, eq_comm, Option.map_eq_some_iff] at hfirst
        obtain ⟨text, htext, hdecode⟩ := hfirst
        rw [htext]
        exact hdecode.symm
  · have hroot := hat 2
    cases hpart : parts[2]? with
    | none =>
        rw [hpart, Option.map_none, eq_comm, Option.map_eq_none_iff] at hroot
        exact hroot.symm
    | some part =>
        rw [hpart, Option.map_some, eq_comm, Option.map_eq_some_iff] at hroot
        obtain ⟨text, htext, hdecode⟩ := hroot
        exact hdecode.symm.trans htext.symm

/-- Hashes of another page aside, the address bar is read in full and as it will be
written exactly when the hash is legible. -/
theorem canonical_iff_legible (hash : String) :
    Canonical hash ↔ (hasPrefix hash routePrefix → Legible hash) := by
  by_cases hhead : hasPrefix hash routePrefix
  · rw [imp_iff_right hhead]
    constructor
    · rintro ⟨read, hread, hagain⟩
      obtain ⟨texts, htexts, hsegments⟩ := (parseKubeHash_eq_ok hhead).mp hread
      obtain ⟨hcluster, hroot⟩ := decoded_segments (mapM_decode_eq_ok.mp htexts)
      refine ⟨(mapM_decode_total _).mp ⟨texts, htexts⟩, fun root hmem hnamed => ?_⟩
      rw [hcluster, ne_eq, Option.some.injEq] at hnamed
      rw [hroot] at hmem
      cases read with
      | none => exact absurd (parseSegments_eq_none.mp hsegments) hnamed
      | some route =>
          obtain ⟨hparsed, hfrom⟩ := parseSegments_read hsegments
          have hexpressible := hparsed.reread_iff.mp (hagain route rfl)
          rw [hfrom, parseRoot_expressible_iff, List.getD_eq_getElem?_getD, hmem] at hexpressible
          exact hexpressible
    · rintro ⟨hdecodes, hplain⟩
      obtain ⟨texts, htexts⟩ := (mapM_decode_total _).mpr hdecodes
      obtain ⟨hcluster, hroot⟩ := decoded_segments (mapM_decode_eq_ok.mp htexts)
      refine ⟨parseSegments texts, (parseKubeHash_eq_ok hhead).mpr ⟨texts, htexts, rfl⟩, ?_⟩
      intro route hroute
      obtain ⟨hparsed, hfrom⟩ := parseSegments_read hroute
      have hnamed : decode ((hashSegments hash).getD 0 "") ≠ some "" := by
        rw [hcluster, ne_eq, Option.some.injEq]
        intro hempty
        rw [parseSegments_eq_none.mpr hempty] at hroute
        cases hroute
      rw [hparsed.reread_iff, hfrom, parseRoot_expressible_iff, List.getD_eq_getElem?_getD]
      cases hmem : texts[2]? with
      | none => decide
      | some root => exact hplain root (hroot.trans hmem) hnamed
  · have hnone := parseKubeHash_elsewhere (by simpa using hhead)
    refine iff_of_true ⟨none, hnone, ?_⟩ fun h => absurd h hhead
    rintro route ⟨⟩

/-- A percent sign that begins no escape is thrown at whoever reads the page. -/
theorem loosePercent_not_canonical : ¬Canonical "#/k8s/prod/100%" := by
  rintro ⟨read, hread, -⟩
  obtain ⟨texts, htexts, -⟩ := (parseKubeHash_eq_ok (by decide)).mp hread
  have hdecodes := (mapM_decode_total _).mp ⟨texts, htexts⟩ "100%" (by decide)
  have hthrown : decode "100%" = none := by decide
  rw [hthrown] at hdecodes
  cases hdecodes

end Wiremap.Client
