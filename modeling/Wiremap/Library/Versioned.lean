import Mathlib.Data.List.Basic

/-! A value that is written over and over, or deleted: every write makes a new
version, and versions are numbered from 1. -/
namespace Wiremap.Library

structure Versioned (α : Type u) where
  history : List (Option α)

namespace Versioned

variable {α : Type u}

def empty : Versioned α := ⟨[]⟩

def revision (v : Versioned α) : Nat := v.history.length

def valueAt (v : Versioned α) : Nat → Option α
  | 0 => none
  | version + 1 => (v.history[version]?).join

def current (v : Versioned α) : Option α := v.valueAt v.revision

def write (v : Versioned α) (value : Option α) : Versioned α := ⟨v.history ++ [value]⟩

@[simp] theorem revision_write (v : Versioned α) (value : Option α) :
    (v.write value).revision = v.revision + 1 := by
  simp [revision, write]

theorem valueAt_write_of_le {v : Versioned α} {version : Nat} (value : Option α)
    (h : version ≤ v.revision) : (v.write value).valueAt version = v.valueAt version := by
  cases version with
  | zero => rfl
  | succ n =>
      unfold revision at h
      simp only [valueAt, write, List.getElem?_append_left (show n < v.history.length by omega)]

@[simp] theorem valueAt_write (v : Versioned α) (value : Option α) :
    (v.write value).valueAt (v.revision + 1) = value := by
  simp [valueAt, write, revision]

@[simp] theorem current_write (v : Versioned α) (value : Option α) :
    (v.write value).current = value := by
  simp [current]

theorem valueAt_write_cases {v : Versioned α} {value : Option α} {version : Nat} {a : α}
    (h : (v.write value).valueAt version = some a) : v.valueAt version = some a ∨ value = some a := by
  rcases Nat.lt_trichotomy version (v.revision + 1) with hlt | rfl | hgt
  · rw [valueAt_write_of_le value (Nat.lt_succ_iff.mp hlt)] at h
    exact .inl h
  · rw [valueAt_write] at h
    exact .inr h
  · obtain ⟨n, rfl⟩ := Nat.exists_eq_succ_of_ne_zero (Nat.ne_of_gt (Nat.zero_lt_of_lt hgt))
    have hnone : (v.history ++ [value])[n]? = none := by
      rw [List.getElem?_eq_none_iff]
      simp only [revision] at hgt
      simp only [List.length_append, List.length_singleton]
      omega
    simp [valueAt, write, hnone] at h

end Versioned
end Wiremap.Library
