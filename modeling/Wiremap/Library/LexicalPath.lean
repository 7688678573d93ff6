import Mathlib.Data.List.Induction
import Wiremap.Library.Text

/-! Paths as text: their elements, and the path without any `.` and `..`, which follows from
the text alone. -/
namespace Wiremap.Library.LexicalPath

/-! ### Ways up and down -/

inductive Move (β : Type u) where
  | stay
  | up
  | down (name : β)

variable {β : Type u}

namespace Move

def isUp : Move β → Bool
  | up => true
  | _ => false

def isDown : Move β → Bool
  | down _ => true
  | _ => false

end Move

def walk (names : List β) : Move β → List β
  | .stay => names
  | .up => names.tail
  | .down name => name :: names

/-- No beginning leads above the start. -/
def Level (moves : List (Move β)) : Prop :=
  ∀ pre, pre <+: moves → pre.countP Move.isUp ≤ pre.countP Move.isDown

/-- A name that nothing after it takes back. -/
def Stands (name : β) (moves : List (Move β)) : Prop :=
  ∃ before after, moves = before ++ .down name :: after ∧ Level after

def StandsAt (name : β) (i : Nat) (moves : List (Move β)) : Prop :=
  ∃ before after, moves = before ++ .down name :: after ∧ Level after ∧
    i + after.countP Move.isUp = after.countP Move.isDown

theorem level_nil : Level ([] : List (Move β)) := by
  intro pre hpre
  rw [List.prefix_nil.mp hpre]
  exact Nat.le_refl 0

theorem level_concat {moves : List (Move β)} {m : Move β} : Level (moves ++ [m]) ↔
    Level moves ∧ (moves ++ [m]).countP Move.isUp ≤ (moves ++ [m]).countP Move.isDown := by
  constructor
  · intro h
    exact ⟨fun pre hpre => h pre (List.prefix_append_of_prefix hpre), h _ List.prefix_rfl⟩
  · rintro ⟨h, hall⟩ pre hpre
    rcases List.prefix_concat_iff.mp hpre with rfl | hpre
    · exact hall
    · exact h pre hpre

theorem concat_eq_iff {moves before after : List (Move β)} {m : Move β} {name : β} :
    moves ++ [m] = before ++ .down name :: after ↔
      (after = [] ∧ moves = before ∧ m = .down name) ∨
        ∃ rest, after = rest ++ [m] ∧ moves = before ++ .down name :: rest := by
  constructor
  · intro h
    rcases after.eq_nil_or_concat with rfl | ⟨rest, last, rfl⟩
    · obtain ⟨hmoves, hlast⟩ := List.append_inj' h rfl
      exact Or.inl ⟨rfl, hmoves, List.singleton_inj.mp hlast⟩
    · rw [List.concat_eq_append, ← List.cons_append, ← List.append_assoc] at h
      obtain ⟨hmoves, hlast⟩ := List.append_inj' h rfl
      obtain rfl := List.singleton_inj.mp hlast
      exact Or.inr ⟨rest, List.concat_eq_append, hmoves⟩
  · rintro (⟨rfl, rfl, rfl⟩ | ⟨rest, rfl, rfl⟩)
    · rfl
    · rw [List.append_assoc, List.cons_append]

theorem standsAt_concat {moves : List (Move β)} {m : Move β} {name : β} {i : Nat} :
    StandsAt name i (moves ++ [m]) ↔
      (m = .down name ∧ i = 0) ∨ ∃ before rest, moves = before ++ .down name :: rest ∧
        Level (rest ++ [m]) ∧
          i + (rest ++ [m]).countP Move.isUp = (rest ++ [m]).countP Move.isDown := by
  constructor
  · rintro ⟨before, after, heq, hlevel, hcount⟩
    rcases concat_eq_iff.mp heq with ⟨rfl, rfl, rfl⟩ | ⟨rest, rfl, rfl⟩
    · exact Or.inl ⟨rfl, by simpa using hcount⟩
    · exact Or.inr ⟨before, rest, rfl, hlevel, hcount⟩
  · rintro (⟨rfl, rfl⟩ | ⟨before, rest, rfl, hlevel, hcount⟩)
    · exact ⟨moves, [], rfl, level_nil, rfl⟩
    · exact ⟨before, rest ++ [m], by rw [List.append_assoc, List.cons_append], hlevel, hcount⟩

@[simp] theorem ups_concat (moves : List (Move β)) (m : Move β) :
    (moves ++ [m]).countP Move.isUp = moves.countP Move.isUp + if m.isUp then 1 else 0 := by
  simp [List.countP_append, List.countP_singleton]

@[simp] theorem downs_concat (moves : List (Move β)) (m : Move β) :
    (moves ++ [m]).countP Move.isDown = moves.countP Move.isDown + if m.isDown then 1 else 0 := by
  simp [List.countP_append, List.countP_singleton]

theorem standsAt_of_not_down {moves : List (Move β)} {m : Move β} {name : β} {i : Nat}
    (hm : m.isDown = false) :
    StandsAt name i (moves ++ [m]) ↔ StandsAt name (i + if m.isUp then 1 else 0) moves := by
  rw [standsAt_concat, or_iff_right (by rintro ⟨rfl, -⟩; cases hm)]
  refine exists_congr fun before => exists_congr fun rest => and_congr_right fun _ => ?_
  rw [level_concat, and_assoc, ups_concat, downs_concat, hm]
  refine and_congr_right fun hlevel => ?_
  have hle := hlevel rest List.prefix_rfl
  grind

theorem standsAt_down {moves : List (Move β)} {name name' : β} {i : Nat} :
    StandsAt name i (moves ++ [.down name']) ↔
      (name' = name ∧ i = 0) ∨ ∃ j, i = j + 1 ∧ StandsAt name j moves := by
  rw [standsAt_concat, Move.down.injEq]
  refine or_congr_right ?_
  simp only [level_concat, ups_concat, downs_concat, Move.isUp, Move.isDown]
  constructor
  · rintro ⟨before, rest, heq, ⟨hlevel, -⟩, hcount⟩
    have hle := hlevel rest List.prefix_rfl
    exact ⟨i - 1, by grind, before, rest, heq, hlevel, by grind⟩
  · rintro ⟨j, rfl, before, rest, heq, hlevel, hcount⟩
    exact ⟨before, rest, heq, ⟨hlevel, by grind⟩, by grind⟩

theorem getElem?_walk {moves : List (Move β)} {i : Nat} {name : β} :
    (moves.foldl walk [])[i]? = some name ↔ StandsAt name i moves := by
  induction moves using List.reverseRecOn generalizing i with
  | nil => simp [StandsAt]
  | append_singleton moves m ih =>
      rw [List.foldl_append, List.foldl_cons, List.foldl_nil]
      cases m with
      | stay => rw [walk, ih, standsAt_of_not_down rfl]; rfl
      | up => rw [walk, List.getElem?_tail, ih, standsAt_of_not_down rfl]; rfl
      | down name' =>
          rw [walk, standsAt_down]
          cases i with
          | zero => simp
          | succ i => simp [ih]

theorem mem_walk_iff {moves : List (Move β)} {name : β} :
    name ∈ moves.foldl walk [] ↔ Stands name moves := by
  rw [List.mem_iff_getElem?]
  constructor
  · rintro ⟨i, hi⟩
    obtain ⟨before, after, heq, hlevel, -⟩ := getElem?_walk.mp hi
    exact ⟨before, after, heq, hlevel⟩
  · rintro ⟨before, after, heq, hlevel⟩
    have hle := hlevel after List.prefix_rfl
    exact ⟨after.countP Move.isDown - after.countP Move.isUp,
      getElem?_walk.mpr ⟨before, after, heq, hlevel, by omega⟩⟩

/-! ### Paths -/

open Text

def isAbs (path : String) : Bool := hasPrefix path "/"

def elements (path : String) : List String := split '/' path

def moveOf (element : String) : Move String :=
  if element = "" ∨ element = "." then .stay
  else if element = ".." then .up
  else .down element

def moves (path : String) : List (Move String) := (elements path).map moveOf

/-- From a start that is not the root, the last name first; the first ways up are kept. -/
def climb (names : List String) : Move String → List String
  | .stay => names
  | .up =>
      match names with
      | [] => [".."]
      | name :: rest => if name = ".." then ".." :: name :: rest else rest
  | .down name => name :: names

def clean (path : String) : String :=
  if path = "" then "."
  else if isAbs path then "/" ++ join '/' ((moves path).foldl walk []).reverse
  else
    let out := join '/' ((moves path).foldl climb []).reverse
    if out = "" then "." else out

/-- What is left of a path from the root is what stands in it. -/
theorem contains_clean_iff {path sub : String} (habs : isAbs path) (hsep : Free '/' sub)
    (hsub : sub ≠ "") :
    contains (clean path) sub ↔ ∃ name, Stands name (moves path) ∧ contains name sub := by
  have hne : path ≠ "" := by
    rintro rfl
    revert habs
    decide
  have hroot : ∀ s : String, contains ("/" ++ s) sub ↔ contains s sub := by
    intro s
    have hempty : ¬sub.toList <:+: [] := by simpa using hsub
    have hchars : ("/" ++ s).toList = [] ++ '/' :: s.toList := by simp
    simp only [contains_iff, hchars, infix_append_cons_iff hsep, hempty, false_or]
  rw [clean, if_neg hne, if_pos habs, hroot, contains_join_iff hsep hsub]
  simp only [List.mem_reverse, mem_walk_iff]

end Wiremap.Library.LexicalPath
