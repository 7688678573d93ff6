import Mathlib.Data.Prod.Lex
import Mathlib.Data.String.Basic
import Wiremap.Errors
import Wiremap.Library.Fallible
import Wiremap.Library.Lists

/-! The kinds a cluster serves, the core group first. -/
namespace Wiremap.Service.BrowserKinds

open Wiremap.Library

structure APIResource where
  name : String
  kind : String
  namespaced : Bool
  verbs : List String
  shortNames : List String

structure APIResourceList where
  groupVersion : String
  apiResources : List APIResource

structure DiscoveryError where
  isGroupDiscoveryFailed : Bool
  message : String

/-- What the cluster tells of itself.  The lists may be there along with the error. -/
structure Discovery where
  lists : List APIResourceList
  err : Option DiscoveryError
  parseGroupVersion : String → Option (String × String)

structure KubeKindDto where
  group : String
  version : String
  resource : String
  kind : String
  namespaced : Bool
  shortNames : List String
  deriving DecidableEq, Repr

def hasVerb (verbs : List String) (verb : String) : Bool := verbs.any (· = verb)

/-- Subresources such as `pods/log` are not listed. -/
def APIResource.Listed (r : APIResource) : Prop :=
  '/' ∉ r.name.toList ∧ hasVerb r.verbs "list"

instance (r : APIResource) : Decidable r.Listed := inferInstanceAs (Decidable (_ ∧ _))

def kindDto (gv : String × String) (r : APIResource) : KubeKindDto :=
  ⟨gv.1, gv.2, r.name, r.kind, r.namespaced, r.shortNames⟩

/-- A list whose version cannot be parsed is left out. -/
def Discovery.kindsOf (d : Discovery) (list : APIResourceList) : List KubeKindDto :=
  match d.parseGroupVersion list.groupVersion with
  | none => []
  | some gv => (list.apiResources.filter fun r => r.Listed).map (kindDto gv)

def less (a b : String × String) : Bool := if a.1 ≠ b.1 then a.1 < b.1 else a.2 < b.2

def KubeKindDto.key (k : KubeKindDto) : String × String := (k.group, k.kind)

def KubeKindDto.less (a b : KubeKindDto) : Bool := BrowserKinds.less a.key b.key

def kinds (sorting : Lists.Sorting KubeKindDto.less) (pool : Except AppError Discovery) :
    Except AppError (List KubeKindDto) := do
  let d ← pool
  match d.err with
  -- a broken aggregated API fails only its own group
  | none | some ⟨true, _⟩ => return sorting.sort (d.lists.flatMap d.kindsOf)
  | some ⟨false, message⟩ => throw (.internal s!"failed to discover resources: {message}")

/-! ### What is listed -/

/-- The order of the groups and kinds listed; it says nothing about equal ones. -/
def InOrder (keys : List (String × String)) : Prop := keys.Pairwise fun a b => less b a = false

theorem less_eq_false_iff {a b : String × String} : less a b = false ↔ toLex b ≤ toLex a := by
  rw [← not_lt, Prod.Lex.toLex_lt_toLex, less, ← Bool.not_eq_true, not_iff_not]
  by_cases hgroup : a.1 = b.1
  · simp [hgroup]
  · simp [hgroup]

def mergeSorting : Lists.Sorting KubeKindDto.less :=
  .byKey (fun k => toLex k.key) fun _ _ => less_eq_false_iff

variable {sorting : Lists.Sorting KubeKindDto.less} {pool : Except AppError Discovery}
  {ks : List KubeKindDto}

theorem kinds_eq_ok (h : kinds sorting pool = .ok ks) :
    ∃ d, pool = .ok d ∧ ks = sorting.sort (d.lists.flatMap d.kindsOf) := by
  rw [kinds, Fallible.bind_eq_ok] at h
  obtain ⟨d, hd, hsorted⟩ := h
  refine ⟨d, hd, ?_⟩
  split at hsorted
  · exact (Except.ok.inj hsorted).symm
  · exact (Except.ok.inj hsorted).symm
  · cases hsorted

theorem kinds_inOrder (h : kinds sorting pool = .ok ks) : InOrder (ks.map KubeKindDto.key) := by
  obtain ⟨d, -, rfl⟩ := kinds_eq_ok h
  exact List.pairwise_map.mpr (sorting.sorted _)

end Wiremap.Service.BrowserKinds
