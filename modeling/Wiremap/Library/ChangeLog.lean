import Mathlib.Data.List.Pairwise

/-! A store that counts its changes: every write to any key gets the next
version, and a reader at one version asks for the next change of its key. -/
namespace Wiremap.Library

structure ChangeLog (Key : Type u) where
  version : Nat
  changes : List (Key × Nat)
  ordered : changes.Pairwise fun a b => a.2 < b.2
  bounded : ∀ change ∈ changes, change.2 ≤ version

namespace ChangeLog

variable {Key : Type u}

def empty : ChangeLog Key := ⟨0, [], .nil, by simp⟩

/-- A write the readers do not ask for, which still takes a version. -/
def skip (log : ChangeLog Key) : ChangeLog Key where
  version := log.version + 1
  changes := log.changes
  ordered := log.ordered
  bounded change hmem := Nat.le_succ_of_le (log.bounded change hmem)

def write (log : ChangeLog Key) (key : Key) : ChangeLog Key where
  version := log.version + 1
  changes := log.changes ++ [(key, log.version + 1)]
  ordered := by
    refine List.pairwise_append.mpr ⟨log.ordered, by simp, fun a hmem b hlast => ?_⟩
    obtain rfl := List.mem_singleton.mp hlast
    exact Nat.lt_succ_of_le (log.bounded a hmem)
  bounded change hmem := by
    rcases List.mem_append.mp hmem with hold | hlast
    · exact Nat.le_succ_of_le (log.bounded change hold)
    · obtain rfl := List.mem_singleton.mp hlast
      exact Nat.le_refl _

def At (log : ChangeLog Key) (key : Key) (v : Nat) : Prop := (key, v) ∈ log.changes

theorem At.le {log : ChangeLog Key} {key : Key} {v : Nat} (h : log.At key v) :
    v ≤ log.version :=
  log.bounded _ h

@[simp] theorem not_at_empty (key : Key) (v : Nat) : ¬ (empty : ChangeLog Key).At key v := by
  simp [At, empty]

@[simp] theorem version_skip (log : ChangeLog Key) : log.skip.version = log.version + 1 := rfl

@[simp] theorem at_skip (log : ChangeLog Key) (key : Key) (v : Nat) :
    log.skip.At key v ↔ log.At key v :=
  Iff.rfl

@[simp] theorem version_write (log : ChangeLog Key) (key : Key) :
    (log.write key).version = log.version + 1 := rfl

@[simp] theorem at_write (log : ChangeLog Key) (key key' : Key) (v : Nat) :
    (log.write key).At key' v ↔ log.At key' v ∨ (key' = key ∧ v = log.version + 1) := by
  simp [At, write]

variable [DecidableEq Key]

instance (log : ChangeLog Key) (key : Key) (v : Nat) : Decidable (log.At key v) :=
  inferInstanceAs (Decidable (_ ∈ _))

def nextAfter (log : ChangeLog Key) (key : Key) (pos : Nat) : Option Nat :=
  (log.changes.find? fun change => decide (change.1 = key ∧ pos < change.2)).map Prod.snd

theorem at_of_nextAfter {log : ChangeLog Key} {key : Key} {pos v : Nat}
    (h : log.nextAfter key pos = some v) : log.At key v ∧ pos < v := by
  obtain ⟨change, hfind, rfl⟩ := Option.map_eq_some_iff.mp h
  have hmem := List.mem_of_find?_eq_some hfind
  have hmatch := List.find?_some hfind
  simp only [decide_eq_true_eq] at hmatch
  obtain ⟨rfl, hlt⟩ := hmatch
  exact ⟨hmem, hlt⟩

theorem le_or_eq_of_nextAfter {log : ChangeLog Key} {key : Key} {pos v w : Nat}
    (h : log.nextAfter key pos = some v) (hw : log.At key w) (hle : w ≤ v) :
    w ≤ pos ∨ w = v := by
  obtain ⟨change, hfind, rfl⟩ := Option.map_eq_some_iff.mp h
  obtain ⟨hmatch, before, after, hsplit, hbefore⟩ := List.find?_eq_some_iff_append.mp hfind
  have hordered := log.ordered
  unfold At at hw
  rw [hsplit] at hordered hw
  rcases List.mem_append.mp hw with hpast | hrest
  · have hnot := hbefore _ hpast
    simp only [true_and, Bool.not_eq_true', decide_eq_false_iff_not] at hnot
    omega
  · rcases List.mem_cons.mp hrest with hsame | hlater
    · exact .inr (congrArg Prod.snd hsame)
    · have hlt := (List.pairwise_cons.mp (List.pairwise_append.mp hordered).2.1).1 _ hlater
      dsimp only at hlt
      omega

end ChangeLog
end Wiremap.Library
