import Mathlib.Data.Nat.Find
import Wiremap.Topology.PodOwners

/-! Where the climb from a pod to its top owner ends.  Owner references are lists here, as
they are in the source, and the index into an empty one is an outcome of its own. -/
namespace Wiremap.Topology.OwnerChains

open Wiremap.Kube Wiremap.Library

/-- `none` is the index out of range of an empty list. -/
def controllerRef (refs : List OwnerReference) : Option OwnerReference :=
  match refs.find? fun r => r.controller = some true with
  | some r => some r
  | none => refs[0]?

section Climb

variable (shown : StringMap String) (intermediate : StringMap (List OwnerReference))

/-- What is left of the loop of `topOwner` with `depth` turns to go. -/
def climb (ref : OwnerReference) : Nat → Option (OwnerReference × String)
  | 0 => some (ref, "")
  | depth + 1 =>
      match shown.lookup ref.uid with
      | some id => some (ref, id)
      | none =>
          match intermediate.lookup ref.uid with
          | none => some (ref, "")
          | some parents =>
              if parents.length = 0 then some (ref, "")
              else do
                let ref ← controllerRef parents
                climb ref depth

def topOwner (refs : List OwnerReference) : Option (OwnerReference × String) := do
  let ref ← controllerRef refs
  climb shown intermediate ref maxOwnerDepth

end Climb

theorem controllerRef_cons (first : OwnerReference) (rest : List OwnerReference) :
    controllerRef (first :: rest) = some (Topology.controllerRef first rest) := by
  unfold controllerRef Topology.controllerRef
  cases (first :: rest).find? fun r => r.controller = some true <;> rfl

theorem climb_eq (shown : StringMap String) (intermediate : StringMap (List OwnerReference))
    (ref : OwnerReference) (depth : Nat) :
    climb shown intermediate ref depth =
      some ((Topology.topOwner shown intermediate ref depth).map id (·.getD "")) := by
  induction depth generalizing ref with
  | zero => rfl
  | succ depth ih =>
      unfold climb Topology.topOwner
      cases shown.lookup ref.uid with
      | some id => rfl
      | none =>
          cases hparents : intermediate.lookup ref.uid with
          | none => rfl
          | some parents =>
              cases parents with
              | nil => rfl
              | cons first rest =>
                  simp only [controllerRef_cons]
                  exact ih _

theorem topOwner_cons (shown : StringMap String) (intermediate : StringMap (List OwnerReference))
    (first : OwnerReference) (rest : List OwnerReference) :
    topOwner shown intermediate (first :: rest) =
      some ((Topology.topOwner shown intermediate (Topology.controllerRef first rest)
        maxOwnerDepth).map id (·.getD "")) := by
  unfold topOwner
  rw [controllerRef_cons]
  exact climb_eq _ _ _ _

/-! ### The chain of owners -/

section Chain

variable (shown : StringMap String) (intermediate : StringMap (List OwnerReference))
variable (refs : List OwnerReference)

def parentOf (ref : OwnerReference) : Option OwnerReference :=
  (intermediate.lookup ref.uid).bind controllerRef

/-- The references from `refs` on upwards, by distance. -/
def chain : Nat → Option OwnerReference
  | 0 => controllerRef refs
  | k + 1 => (chain k).bind (parentOf intermediate)

def Unshown (k : Nat) : Prop :=
  ∀ j < k, ∀ ref, chain intermediate refs j = some ref → shown.lookup ref.uid = none

/-- What is on top, with its node ID: the nearest drawn reference of those the climb looks
at, or else where the chain ends, or else where the climb stops. -/
inductive Top : OwnerReference × String → Prop
  | drawn {k : Nat} {ref : OwnerReference} {id : String} (hk : k < maxOwnerDepth)
      (href : chain intermediate refs k = some ref) (hid : shown.lookup ref.uid = some id)
      (hleast : Unshown shown intermediate refs k) : Top (ref, id)
  | last {k : Nat} {ref : OwnerReference} (hk : k < maxOwnerDepth)
      (href : chain intermediate refs k = some ref) (hend : chain intermediate refs (k + 1) = none)
      (hnone : Unshown shown intermediate refs maxOwnerDepth) : Top (ref, "")
  | deep {ref : OwnerReference} (href : chain intermediate refs maxOwnerDepth = some ref)
      (hnone : Unshown shown intermediate refs maxOwnerDepth) : Top (ref, "")

end Chain

variable {shown : StringMap String} {intermediate : StringMap (List OwnerReference)}
variable {refs : List OwnerReference}

theorem isSome_chain_zero (intermediate : StringMap (List OwnerReference)) (h : refs ≠ []) :
    (chain intermediate refs 0).isSome := by
  cases refs with
  | nil => contradiction
  | cons first rest => simp [chain, controllerRef_cons]

theorem exists_last (hrefs : refs ≠ []) {n : Nat} (h : chain intermediate refs n = none) :
    ∃ k < n, ∃ ref, chain intermediate refs k = some ref ∧
      chain intermediate refs (k + 1) = none := by
  induction n with
  | zero =>
      have hsome := isSome_chain_zero intermediate hrefs
      simp [h] at hsome
  | succ n ih =>
      cases hprev : chain intermediate refs n with
      | none =>
          obtain ⟨k, hk, hlast⟩ := ih hprev
          exact ⟨k, by omega, hlast⟩
      | some ref => exact ⟨n, by omega, ref, hprev, h⟩

theorem exists_drawn {n : Nat} (h : ¬Unshown shown intermediate refs n) :
    ∃ k < n, ∃ ref id, chain intermediate refs k = some ref ∧ shown.lookup ref.uid = some id ∧
      Unshown shown intermediate refs k := by
  classical
  have hexists : ∃ k, k < n ∧ ∃ ref, chain intermediate refs k = some ref ∧
      shown.lookup ref.uid ≠ none := by
    simpa only [Unshown, not_forall, exists_prop] using h
  obtain ⟨hk, ref, href, hshown⟩ := Nat.find_spec hexists
  obtain ⟨id, hid⟩ := Option.ne_none_iff_exists'.mp hshown
  refine ⟨_, hk, ref, id, href, hid, ?_⟩
  intro j hj ref' href'
  by_contra hdrawn
  exact Nat.find_min hexists hj ⟨hj.trans hk, ref', href', hdrawn⟩

theorem exists_top (shown : StringMap String) (intermediate : StringMap (List OwnerReference))
    (hrefs : refs ≠ []) : ∃ top, Top shown intermediate refs top := by
  by_cases hshown : Unshown shown intermediate refs maxOwnerDepth
  · cases hdeep : chain intermediate refs maxOwnerDepth with
    | some ref => exact ⟨_, .deep hdeep hshown⟩
    | none =>
        obtain ⟨k, hk, ref, href, hend⟩ := exists_last hrefs hdeep
        exact ⟨_, .last hk href hend hshown⟩
  · obtain ⟨k, hk, ref, id, href, hid, hleast⟩ := exists_drawn hshown
    exact ⟨_, .drawn hk href hid hleast⟩

/-! ### The climb -/

theorem climb_drawn {ref : OwnerReference} {id : String} (h : shown.lookup ref.uid = some id)
    (depth : Nat) : climb shown intermediate ref (depth + 1) = some (ref, id) := by
  simp [climb, h]

theorem climb_last {ref : OwnerReference} (h : shown.lookup ref.uid = none)
    (hend : parentOf intermediate ref = none) (depth : Nat) :
    climb shown intermediate ref (depth + 1) = some (ref, "") := by
  unfold climb
  rw [h]
  cases hparents : intermediate.lookup ref.uid with
  | none => rfl
  | some parents =>
      cases parents with
      | nil => rfl
      | cons first rest => simp [parentOf, hparents, controllerRef_cons] at hend

theorem climb_parent {ref parent : OwnerReference} (h : shown.lookup ref.uid = none)
    (hparent : parentOf intermediate ref = some parent) (depth : Nat) :
    climb shown intermediate ref (depth + 1) = climb shown intermediate parent depth := by
  obtain ⟨parents, hparents, hcontroller⟩ := Option.bind_eq_some_iff.mp hparent
  have hlength : parents.length ≠ 0 := by
    intro hempty
    rw [List.eq_nil_of_length_eq_zero hempty] at hcontroller
    cases hcontroller
  conv_lhs => unfold climb
  simp [h, hparents, hlength, hcontroller]

/-- What is not drawn does not stop the climb. -/
theorem topOwner_eq_climb {k depth : Nat} {ref : OwnerReference} (hk : k + depth = maxOwnerDepth)
    (href : chain intermediate refs k = some ref) (hnone : Unshown shown intermediate refs k) :
    topOwner shown intermediate refs = climb shown intermediate ref depth := by
  induction k generalizing ref depth with
  | zero =>
      obtain rfl : depth = maxOwnerDepth := by omega
      unfold topOwner
      rw [show controllerRef refs = some ref from href]
      rfl
  | succ k ih =>
      obtain ⟨child, hchild, hparent⟩ := Option.bind_eq_some_iff.mp href
      have hshown := hnone k (by omega) child hchild
      have hturn : k + (depth + 1) = maxOwnerDepth := by omega
      rw [ih hturn hchild fun j hj => hnone j (by omega)]
      exact climb_parent hshown hparent depth

theorem topOwner_of_top {top : OwnerReference × String} (h : Top shown intermediate refs top) :
    topOwner shown intermediate refs = some top := by
  cases h with
  | @drawn k ref id hk href hid hleast =>
      obtain ⟨depth, hdepth⟩ := Nat.exists_eq_add_of_lt hk
      have hturn : k + (depth + 1) = maxOwnerDepth := by omega
      rw [topOwner_eq_climb hturn href hleast]
      exact climb_drawn hid depth
  | @last k ref hk href hend hnone =>
      obtain ⟨depth, hdepth⟩ := Nat.exists_eq_add_of_lt hk
      have hturn : k + (depth + 1) = maxOwnerDepth := by omega
      have hparent : parentOf intermediate ref = none := by simpa [chain, href] using hend
      rw [topOwner_eq_climb hturn href fun j hj => hnone j (hj.trans hk)]
      exact climb_last (hnone k hk ref href) hparent depth
  | deep href hnone =>
      rw [topOwner_eq_climb (Nat.add_zero _) href hnone]
      rfl

/-- The climb comes to what is on top, and no list it asks for a controller is empty. -/
theorem topOwner_spec (shown : StringMap String)
    (intermediate : StringMap (List OwnerReference)) (hrefs : refs ≠ []) :
    ∃ top, topOwner shown intermediate refs = some top ∧
      ∀ top', Top shown intermediate refs top' ↔ top' = top := by
  obtain ⟨top, htop⟩ := exists_top shown intermediate hrefs
  refine ⟨top, topOwner_of_top htop, ?_⟩
  intro top'
  constructor
  · intro htop'
    exact Option.some.inj ((topOwner_of_top htop').symm.trans (topOwner_of_top htop))
  · rintro rfl
    exact htop

/-- Two owners that own each other. -/
theorem topOwner_spec_cycle :
    let refs : List OwnerReference := [⟨"v1", "A", "a", "a", some true⟩]
    let intermediate : StringMap (List OwnerReference) :=
      [⟨"a", [⟨"v1", "B", "b", "b", none⟩]⟩, ⟨"b", refs⟩].toAList
    ∃ top, topOwner ∅ intermediate refs = some top ∧
      ∀ top', Top ∅ intermediate refs top' ↔ top' = top :=
  topOwner_spec _ _ (List.cons_ne_nil _ _)

end Wiremap.Topology.OwnerChains
