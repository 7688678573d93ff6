import Wiremap.Kube.Resources

/-! Label selectors: a Service's plain set of labels, and the selectors of
policies, which may be absent, empty or hold expressions. -/
namespace Wiremap.Kube

open Wiremap.Library

inductive Selector where
  | nothing
  | all (requirements : List SelectorRequirement)

def SelectorRequirement.matches (r : SelectorRequirement) (labels : StringMap String) : Bool :=
  match r.operator with
  | .isIn => (labels.lookup r.key).any (r.values.contains ·)
  | .notIn => !(labels.lookup r.key).any (r.values.contains ·)
  | .exist => (labels.lookup r.key).isSome
  | .doesNotExist => (labels.lookup r.key).isNone
  | .unknown _ => false

/-- What `NewRequirement` asks of the values of each operator. -/
def SelectorRequirement.valid (r : SelectorRequirement) : Bool :=
  match r.operator with
  | .isIn | .notIn => !r.values.isEmpty
  | .exist | .doesNotExist => r.values.isEmpty
  | .unknown _ => false

def Selector.matches (selector : Selector) (labels : StringMap String) : Bool :=
  match selector with
  | .nothing => false
  | .all requirements => requirements.all fun r => r.matches labels

def setRequirements (set : StringMap String) : List SelectorRequirement :=
  set.entries.map fun entry => ⟨entry.1, .isIn, [entry.2]⟩

def selectorFromSet (set : StringMap String) : Selector := .all (setRequirements set)

/-- `none` where the selector does not parse. -/
def labelSelectorAsSelector : Option LabelSelector → Option Selector
  | none => some .nothing
  | some selector =>
      if selector.matchExpressions.all SelectorRequirement.valid then
        some (.all (setRequirements selector.matchLabels ++ selector.matchExpressions))
      else none

theorem matches_selectorFromSet (set labels : StringMap String) :
    (selectorFromSet set).matches labels ↔
      ∀ key value, set.lookup key = some value → labels.lookup key = some value := by
  simp only [selectorFromSet, Selector.matches, setRequirements, List.all_eq_true,
    List.mem_map, forall_exists_index, and_imp]
  constructor
  · intro h key value hset
    have hmatch := h _ ⟨key, value⟩ (List.of_mem_dlookup hset) rfl
    simp only [SelectorRequirement.matches, Option.any_eq_true] at hmatch
    obtain ⟨found, hfound, hsame⟩ := hmatch
    obtain rfl : found = value := by simpa using hsame
    exact hfound
  · rintro h _ ⟨key, value⟩ hmem rfl
    have hset := h key value (List.mem_dlookup set.nodupKeys hmem)
    simp [SelectorRequirement.matches, hset]

end Wiremap.Kube
