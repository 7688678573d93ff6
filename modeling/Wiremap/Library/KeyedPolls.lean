import Mathlib.Data.List.Basic

/-! A value that is polled, and taken over only where its key has changed: what is shown has
the key of the last answer, and is otherwise what came first under it. -/
namespace Wiremap.Library.KeyedPolls

variable {α : Type u} {κ : Type v} [DecidableEq κ] {key : α → κ} {shown answer : α}

def adopt (key : α → κ) (shown answer : α) : α := if key shown = key answer then shown else answer

theorem key_adopt (key : α → κ) : key (adopt key shown answer) = key answer := by
  unfold adopt
  split
  · assumption
  · rfl

theorem adopt_of_eq (h : key shown = key answer) : adopt key shown answer = shown := if_pos h

theorem adopt_cases (key : α → κ) (shown answer : α) :
    adopt key shown answer = shown ∨ adopt key shown answer = answer := by
  unfold adopt
  split
  · exact .inl rfl
  · exact .inr rfl

end Wiremap.Library.KeyedPolls
