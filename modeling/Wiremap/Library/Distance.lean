import Mathlib.Order.Bounds.Basic
import Mathlib.Data.Nat.Find

/-! The least number of steps from one of several roots, along any relation. -/
namespace Wiremap.Library.Distance

variable {α : Type u} (step : α → α → Prop)

inductive Walk : Nat → α → α → Prop
  | refl (a : α) : Walk 0 a a
  | concat {n : Nat} {a b c : α} (walk : Walk n a b) (hstep : step b c) : Walk (n + 1) a c

variable (root : α → Prop)

def ReachedIn (n : Nat) (a : α) : Prop := ∃ r, root r ∧ Walk step n r a

def Reachable (a : α) : Prop := ∃ n, ReachedIn step root n a

def IsDistance (a : α) (d : Nat) : Prop := IsLeast {n | ReachedIn step root n a} d

variable {step root}

theorem reachedIn_zero {a : α} : ReachedIn step root 0 a ↔ root a := by
  constructor
  · rintro ⟨r, hroot, walk⟩
    cases walk
    exact hroot
  · intro hroot
    exact ⟨a, hroot, .refl a⟩

theorem reachedIn_succ {n : Nat} {b : α} :
    ReachedIn step root (n + 1) b ↔ ∃ a, ReachedIn step root n a ∧ step a b := by
  constructor
  · rintro ⟨r, hroot, walk⟩
    cases walk with
    | concat walk hstep => exact ⟨_, ⟨r, hroot, walk⟩, hstep⟩
  · rintro ⟨a, ⟨r, hroot, walk⟩, hstep⟩
    exact ⟨r, hroot, .concat walk hstep⟩

theorem IsDistance.unique {a : α} {d d' : Nat} (h : IsDistance step root a d)
    (h' : IsDistance step root a d') : d = d' :=
  IsLeast.unique h h'

theorem exists_distance {n : Nat} {a : α} (h : ReachedIn step root n a) :
    ∃ d ≤ n, IsDistance step root a d := by
  classical
  have hexists : ∃ n, ReachedIn step root n a := ⟨n, h⟩
  exact ⟨Nat.find hexists, Nat.find_min' hexists h, Nat.find_spec hexists,
    fun m hm => Nat.find_min' hexists hm⟩

theorem reachable_iff {a : α} : Reachable step root a ↔ ∃ d, IsDistance step root a d := by
  constructor
  · rintro ⟨n, h⟩
    obtain ⟨d, -, hd⟩ := exists_distance h
    exact ⟨d, hd⟩
  · rintro ⟨d, hd⟩
    exact ⟨d, hd.1⟩

theorem isDistance_zero {a : α} : IsDistance step root a 0 ↔ root a := by
  constructor
  · intro h
    exact reachedIn_zero.mp h.1
  · intro hroot
    exact ⟨reachedIn_zero.mpr hroot, fun n _ => Nat.zero_le n⟩

theorem le_succ_of_step {a b : α} {d d' : Nat} (ha : IsDistance step root a d) (hstep : step a b)
    (hb : IsDistance step root b d') : d' ≤ d + 1 :=
  hb.2 (reachedIn_succ.mpr ⟨a, ha.1, hstep⟩)

theorem exists_closer {b : α} {d : Nat} (h : IsDistance step root b (d + 1)) :
    ∃ a, IsDistance step root a d ∧ step a b := by
  obtain ⟨a, hreached, hstep⟩ := reachedIn_succ.mp h.1
  obtain ⟨d', hle, ha⟩ := exists_distance hreached
  have hge := le_succ_of_step ha hstep h
  obtain rfl : d' = d := by omega
  exact ⟨a, ha, hstep⟩

/-- A layer is what the layer before it leads to and no earlier layer holds. -/
theorem isDistance_succ {b : α} {d : Nat} : IsDistance step root b (d + 1) ↔
    (∃ a, IsDistance step root a d ∧ step a b) ∧ ∀ d' ≤ d, ¬IsDistance step root b d' := by
  constructor
  · intro h
    refine ⟨exists_closer h, ?_⟩
    intro d' hle hd'
    have heq := hd'.unique h
    omega
  · rintro ⟨⟨a, ha, hstep⟩, hnone⟩
    obtain ⟨d', hle, hd'⟩ := exists_distance (reachedIn_succ.mpr ⟨a, ha.1, hstep⟩)
    obtain rfl : d' = d + 1 := by
      by_contra hne
      exact hnone d' (by omega) hd'
    exact hd'

theorem lt_of_empty {k : Nat} (h : ∀ a, ¬IsDistance step root a k) {a : α} {d : Nat}
    (ha : IsDistance step root a d) : d < k := by
  induction d generalizing a with
  | zero =>
      by_contra hge
      obtain rfl : k = 0 := by omega
      exact h a ha
  | succ d ih =>
      obtain ⟨b, hb, -⟩ := exists_closer ha
      have hlt := ih hb
      by_contra hge
      obtain rfl : k = d + 1 := by omega
      exact h a ha

end Wiremap.Library.Distance
