import Mathlib.Data.List.DropRight

/-! Text as words with separators around them. -/
namespace Wiremap.Library.Words

variable {α β : Type*}

section
variable (sep : α → Bool)

def trim (s : List α) : List α := (s.dropWhile sep).rdropWhile sep

/-- What stands between runs of separators; empty before a run at the start and after one
at the end. -/
def parts : List α → List (List α)
  | [] => [[]]
  | c :: rest =>
      if sep c then
        -- only the last separator of a run divides
        if rest.head?.any sep then parts rest else [] :: parts rest
      else (parts rest).modifyHead (c :: ·)

def first (s : List α) : List α := (s.dropWhile sep).takeWhile fun c => !sep c

end

variable {sep : α → Bool}

theorem head?_parts (s : List α) :
    (parts sep s).head? = some (s.takeWhile fun c => !sep c) := by
  induction s with
  | nil => rfl
  | cons c rest ih =>
      rw [parts]
      by_cases hc : sep c
      · rw [if_pos hc, List.takeWhile_cons_of_neg (by simp [hc])]
        split
        · rename_i hrun
          cases rest with
          | nil => simp at hrun
          | cons d rest =>
              rw [ih, List.takeWhile_cons_of_neg (by simpa using hrun)]
        · rfl
      · rw [if_neg hc, List.takeWhile_cons_of_pos (by simp [hc]), List.head?_modifyHead, ih]
        rfl

theorem takeWhile_rdropWhile (s : List α) :
    (s.rdropWhile sep).takeWhile (fun c => !sep c) = s.takeWhile fun c => !sep c := by
  induction s using List.reverseRecOn with
  | nil => rfl
  | append_singleton s c ih =>
      by_cases hc : sep c
      · rw [List.rdropWhile_concat_pos _ _ _ hc, ih, List.takeWhile_append,
          List.takeWhile_cons_of_neg (by simp [hc]), List.append_nil]
        split
        · rename_i hlength
          exact (List.takeWhile_prefix _).eq_of_length hlength
        · rfl
      · rw [List.rdropWhile_concat_neg _ _ _ hc]

theorem head?_parts_trim (s : List α) : (parts sep (trim sep s)).head? = some (first sep s) := by
  rw [head?_parts, trim, takeWhile_rdropWhile, first]

theorem trim_map {sep' : β → Bool} {f : α → β} (h : ∀ a, sep' (f a) = sep a) (s : List α) :
    trim sep' (s.map f) = (trim sep s).map f := by
  have hsep : sep' ∘ f = sep := funext h
  simp only [trim, List.rdropWhile, List.dropWhile_map, hsep, ← List.map_reverse]

end Wiremap.Library.Words
