import Wiremap.Client.KubeRoute
import Wiremap.Library.PlainObject
import Wiremap.Library.Words
import Wiremap.Service.BrowserKinds

/-! Commands such as "po", "deploy kube-system" or "svc all": what the map should show, and
of which namespace. -/
namespace Wiremap.Client.Commands

open Wiremap.Library
open Wiremap.Service.BrowserKinds (Discovery InOrder KubeKindDto kinds kinds_inOrder less
  less_eq_false_iff)

/-- White space, as `trim` and `\s` know it. -/
def isSpace (c : Char) : Bool :=
  c.toNat ∈ [0x09, 0x0a, 0x0b, 0x0c, 0x0d, 0x20, 0xa0, 0x1680, 0x2028, 0x2029, 0x202f, 0x205f,
    0x3000, 0xfeff] ∨ 0x2000 ≤ c.toNat ∧ c.toNat ≤ 0x200a

def trim (s : String) : String := .ofList (Words.trim isSpace s.toList)

def splitSpace (s : String) : List String := (Words.parts isSpace s.toList).map String.ofList

/-- Lower-casing, which keeps space apart from what is not and leaves no capital. -/
structure LowerCase where
  run : String → String
  run_trim : ∀ s, run (trim s) = trim (run s)
  no_capital : ∀ s, ∀ c ∈ (run s).toList, ¬('A' ≤ c ∧ c ≤ 'Z')

structure KubeKind where
  group : String
  version : String
  resource : String
  kind : String
  namespaced : Bool
  shortNames : Option (List String)
  deriving DecidableEq, Repr

/-- A kind as it is sent; no short names are left out. -/
def KubeKind.ofDto (k : KubeKindDto) : KubeKind :=
  ⟨k.group, k.version, k.resource, k.kind, k.namespaced,
    if k.shortNames = [] then none else some k.shortNames⟩

/-- `ns` is "" for all namespaces and absent to keep the current one. -/
structure KubeCommand where
  root : PlainObject.Value KubeRoot
  ns : Option String
  deriving DecidableEq

theorem nodes_ne_namespaces : KubeLens.nodes ≠ .namespaces := by decide

theorem storage_ne_namespaces : KubeLens.storage ≠ .namespaces := by decide

theorem access_ne_namespaces : KubeLens.access ≠ .namespaces := by decide

def rootWords : PlainObject KubeRoot where
  entries :=
    [("overview", .overview), ("map", .overview), ("nodes", .lens ⟨.nodes, nodes_ne_namespaces⟩),
      ("node", .lens ⟨.nodes, nodes_ne_namespaces⟩), ("no", .lens ⟨.nodes, nodes_ne_namespaces⟩),
      ("storage", .lens ⟨.storage, storage_ne_namespaces⟩),
      ("access", .lens ⟨.access, access_ne_namespaces⟩)]

def kindNames (lower : LowerCase) (k : KubeKind) : List String :=
  lower.run k.kind :: k.resource :: k.shortNames.getD []

/-- What a word stands for: a root word, or else the first kind it names. -/
def rootOf (lower : LowerCase) (kinds : List KubeKind) (word : String) :
    Option (PlainObject.Value KubeRoot) :=
  let kind := kinds.find? fun k => (kindNames lower k).contains word
  (rootWords.get word).or (kind.map fun k => .own (.kind k.group k.kind))

def resolveKubeCommand (lower : LowerCase) (input : String) (kinds : List KubeKind) :
    Option KubeCommand :=
  match splitSpace (lower.run (trim input)) with
  | [] => none
  | word :: rest =>
      if word = "" then none
      else (rootOf lower kinds word).map fun root =>
        ⟨root, rest.head?.map fun ns => if ns = "all" ∨ ns = "*" then "" else ns⟩

/-! ### What a word names -/

def firstWord (lower : LowerCase) (input : String) : Option String :=
  let word := String.ofList (Words.first isSpace (lower.run input).toList)
  if word = "" then none else some word

def Names (lower : LowerCase) (word : String) (k : KubeKind) : Prop := word ∈ kindNames lower k

def KubeKind.key (k : KubeKind) : String × String := (k.group, k.kind)

/-- A command comes of the words that name something and of no others, and of the kinds
that a word names, one of the core group is taken where they are in the order of the server. -/
def Resolves (lower : LowerCase) (input : String) (kinds : List KubeKind) : Prop :=
  ((resolveKubeCommand lower input kinds).isSome ↔
    ∃ word, firstWord lower input = some word ∧
      (word ∈ rootWords.keys ∨ ∃ k ∈ kinds, Names lower word k)) ∧
  (InOrder (kinds.map KubeKind.key) → ∀ word, firstWord lower input = some word →
    word ∉ rootWords.keys → (∃ k ∈ kinds, k.group = "" ∧ Names lower word k) →
    ∃ command k, resolveKubeCommand lower input kinds = some command ∧ k ∈ kinds ∧
      k.group = "" ∧ command.root = .own (.kind "" k.kind))

theorem inOrder_received {sorting : Lists.Sorting KubeKindDto.less}
    {pool : Except AppError Discovery} {ks : List KubeKindDto} (h : kinds sorting pool = .ok ks) :
    InOrder ((ks.map KubeKind.ofDto).map KubeKind.key) := by
  rw [List.map_map]
  exact kinds_inOrder h

variable {lower : LowerCase} {kinds : List KubeKind} {word : String}

/-- Lower-casing and trimming can change places, so the first part is the first word. -/
theorem head?_splitSpace (lower : LowerCase) (input : String) :
    (splitSpace (lower.run (trim input))).head? =
      some (.ofList (Words.first isSpace (lower.run input).toList)) := by
  rw [lower.run_trim, splitSpace, List.head?_map, trim, String.toList_ofList,
    Words.head?_parts_trim]
  rfl

theorem root_resolve (lower : LowerCase) (input : String) (kinds : List KubeKind) :
    (resolveKubeCommand lower input kinds).map KubeCommand.root =
      (firstWord lower input).bind (rootOf lower kinds) := by
  have hhead := head?_splitSpace lower input
  unfold resolveKubeCommand firstWord
  cases hparts : splitSpace (lower.run (trim input)) with
  | nil => rw [hparts] at hhead; cases hhead
  | cons word rest =>
      rw [hparts] at hhead
      obtain rfl := Option.some.inj hhead
      dsimp only
      split
      · rfl
      · rw [Option.map_map]
        simp [Function.comp_def]

theorem rootOf_isSome_iff : (rootOf lower kinds word).isSome ↔
    (word ∈ rootWords.keys ∨ word ∈ PlainObject.inheritedNames) ∨
      ∃ k ∈ kinds, Names lower word k := by
  rw [rootOf, Option.isSome_or, Bool.or_eq_true, ← PlainObject.has_iff, Option.isSome_map,
    List.find?_isSome]
  simp [PlainObject.has, Names]

theorem group_eq_of_inOrder {k k' : KubeKind} (hk' : k'.group = "")
    (h : less k'.key k.key = false) : k.group = "" := by
  rcases Prod.Lex.toLex_le_toLex.mp (less_eq_false_iff.mp h) with hlt | ⟨hgroup, -⟩
  · have hnil : k.group.toList < k'.group.toList := String.lt_iff_toList_lt.mp hlt
    rw [hk'] at hnil
    exact absurd hnil (List.not_lt_nil _)
  · exact hgroup.trans hk'

theorem rootOf_core (h : InOrder (kinds.map KubeKind.key)) (hword : word ∉ rootWords.keys)
    (hown : word ∉ PlainObject.inheritedNames) {core : KubeKind} (hmem : core ∈ kinds)
    (hcore : core.group = "") (hnames : Names lower word core) :
    ∃ k ∈ kinds, k.group = "" ∧ rootOf lower kinds word = some (.own (.kind "" k.kind)) := by
  have hnamed : (kindNames lower core).contains word := List.contains_iff_mem.mpr hnames
  have hfound : (kinds.find? fun k => (kindNames lower k).contains word).isSome :=
    List.find?_isSome.mpr ⟨core, hmem, hnamed⟩
  obtain ⟨k, hk⟩ := Option.isSome_iff_exists.mp hfound
  have hgroup : k.group = "" := by
    rcases Lists.rel_of_find? (List.pairwise_map.mp h) hk hmem hnamed with rfl | hless
    · exact hcore
    · exact group_eq_of_inOrder hcore hless
  have hroot : rootWords.get word = none := by
    rw [← Option.not_isSome_iff_eq_none, ← PlainObject.has, PlainObject.has_iff]
    exact not_or.mpr ⟨hword, hown⟩
  refine ⟨k, List.mem_of_find?_eq_some hk, hgroup, ?_⟩
  simp only [rootOf, hroot, hk, Option.none_or, Option.map_some, hgroup]

theorem not_mem_keys (hword : word ∈ PlainObject.inheritedNames) : word ∉ rootWords.keys := by
  revert word
  decide

theorem rootOf_inherited (hword : word ∈ PlainObject.inheritedNames) :
    rootOf lower kinds word = some (.inherited word) := by
  have hroot : rootWords.get word = some (.inherited word) := by
    refine PlainObject.get_eq_inherited_iff.mpr ⟨?_, hword, rfl⟩
    rw [← Option.not_isSome_iff_eq_none, PlainObject.lookup_isSome_iff]
    exact not_mem_keys hword
  rw [rootOf, hroot, Option.some_or]

theorem resolve_isSome_iff {input : String} : (resolveKubeCommand lower input kinds).isSome ↔
    ∃ word, firstWord lower input = some word ∧ (rootOf lower kinds word).isSome := by
  rw [← Option.isSome_map (f := KubeCommand.root), root_resolve]
  cases firstWord lower input with
  | none => simp
  | some word => simp

theorem root_eq_iff {input : String} (hword : firstWord lower input = some word)
    {root : PlainObject.Value KubeRoot} :
    (∃ command, resolveKubeCommand lower input kinds = some command ∧ command.root = root) ↔
      rootOf lower kinds word = some root := by
  rw [← Option.map_eq_some_iff, root_resolve, hword]
  rfl

def lowerInherited : List String := ["constructor", "__proto__"]

theorem mem_inheritedNames_iff {input : String} (hword : firstWord lower input = some word) :
    word ∈ PlainObject.inheritedNames ↔ word ∈ lowerInherited := by
  have hlower : ∀ name ∈ PlainObject.inheritedNames,
      (∀ c ∈ name.toList, ¬('A' ≤ c ∧ c ≤ 'Z')) → name ∈ lowerInherited := by
    simp [PlainObject.inheritedNames, lowerInherited]
  have hinherited : ∀ name ∈ lowerInherited, name ∈ PlainObject.inheritedNames := by decide
  refine ⟨fun hmem => hlower word hmem fun c hc => lower.no_capital input c ?_, hinherited word⟩
  dsimp only [firstWord] at hword
  split at hword
  · cases hword
  · obtain rfl := Option.some.inj hword
    rw [String.toList_ofList] at hc
    exact (List.dropWhile_suffix _).subset ((List.takeWhile_prefix _).subset hc)

theorem resolves_iff (lower : LowerCase) (input : String) (kinds : List KubeKind) :
    Resolves lower input kinds ↔
      ∀ word, firstWord lower input = some word → word ∈ lowerInherited →
        (∃ k ∈ kinds, Names lower word k) ∧
          ¬(InOrder (kinds.map KubeKind.key) ∧
            ∃ k ∈ kinds, k.group = "" ∧ Names lower word k) := by
  constructor
  · rintro ⟨hsome, hcore⟩ word hword hlower
    have hmem := (mem_inheritedNames_iff hword).mpr hlower
    have hroot : rootOf lower kinds word = some (.inherited word) := rootOf_inherited hmem
    constructor
    · obtain ⟨word', hword', hnamed⟩ :=
        hsome.mp (resolve_isSome_iff.mpr ⟨word, hword, by rw [hroot]; rfl⟩)
      obtain rfl := Option.some.inj (hword.symm.trans hword')
      exact hnamed.resolve_left (not_mem_keys hmem)
    · rintro ⟨horder, hnamed⟩
      obtain ⟨command, k, hcommand, -, -, hkind⟩ :=
        hcore horder word hword (not_mem_keys hmem) hnamed
      have hown := (root_eq_iff hword).mp ⟨command, hcommand, hkind⟩
      rw [hroot] at hown
      cases hown
  · intro h
    constructor
    · rw [resolve_isSome_iff]
      refine exists_congr fun word => and_congr_right fun hword => ?_
      rw [rootOf_isSome_iff, or_assoc]
      refine or_congr_right (or_iff_right_of_imp fun hmem => ?_)
      exact (h word hword ((mem_inheritedNames_iff hword).mp hmem)).1
    · rintro horder word hword hkeys ⟨core, hmem, hgroup, hnames⟩
      have hown : word ∉ PlainObject.inheritedNames := fun hinherited =>
        (h word hword ((mem_inheritedNames_iff hword).mp hinherited)).2
          ⟨horder, core, hmem, hgroup, hnames⟩
      obtain ⟨k, hk, hkgroup, hroot⟩ := rootOf_core horder hkeys hown hmem hgroup hnames
      obtain ⟨command, hcommand, hkind⟩ := (root_eq_iff hword).mpr hroot
      exact ⟨command, k, hcommand, hk, hkgroup, hkind⟩

theorem isSpace_letter {c : Char} (hlow : 65 ≤ c.toNat) (hhigh : c.toNat ≤ 122) :
    isSpace c = false := by
  simp only [isSpace, List.mem_cons, List.not_mem_nil, or_false, decide_eq_false_iff_not]
  omega

theorem isSpace_toLower (c : Char) : isSpace c.toLower = isSpace c := by
  rcases Text.charToLower_cases c with ⟨-, hc⟩ | ⟨⟨hlow, hhigh⟩, hc⟩
  · rw [hc]
  · rw [isSpace_letter hlow (by omega), isSpace_letter (by omega) (by omega)]

def asciiLower : LowerCase where
  run := Text.toLower
  run_trim s := by
    rw [Text.toLower, Text.toLower, trim, trim, String.toList_ofList, String.toList_ofList,
      Words.trim_map isSpace_toLower]
  no_capital _ _ := Text.not_capital_of_mem_toLower

theorem constructor_not_resolves : ¬Resolves asciiLower "constructor" [] := by
  intro h
  have hsome : (resolveKubeCommand asciiLower "constructor" []).isSome := by decide
  obtain ⟨word, hword, hkeys | ⟨k, hk, -⟩⟩ := h.1.mp hsome
  · revert hkeys
    obtain rfl : "constructor" = word := Option.some.inj hword
    decide
  · cases hk

end Wiremap.Client.Commands
