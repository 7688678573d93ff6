import Mathlib.Data.List.Basic

/-! The last entry of a log about each key.  An entry may be moved ahead of others
without changing what any key was last said of, as long as those about its key say
the same. -/
namespace Wiremap.Library

variable {α : Type u} {K : Type v} [DecidableEq K] {key : α → K}

def lastWord (key : α → K) (k : K) (log : List α) : Option α :=
  (log.filter fun a => key a = k).getLast?

@[simp] theorem lastWord_nil (k : K) : lastWord key k [] = none := rfl

theorem lastWord_append (k : K) (log log' : List α) :
    lastWord key k (log ++ log') = (lastWord key k log').or (lastWord key k log) := by
  rw [lastWord, List.filter_append, List.getLast?_append, lastWord, lastWord]

theorem lastWord_singleton (k : K) (a : α) :
    lastWord key k [a] = if key a = k then some a else none := by
  by_cases h : key a = k <;> simp [lastWord, h]

theorem lastWord_cons (k : K) (a : α) (log : List α) :
    lastWord key k (a :: log) = (lastWord key k log).or (if key a = k then some a else none) := by
  have hsplit : a :: log = [a] ++ log := rfl
  rw [hsplit, lastWord_append, lastWord_singleton]

theorem lastWord_eq_none_iff {k : K} {log : List α} :
    lastWord key k log = none ↔ ∀ a ∈ log, key a ≠ k := by
  simp [lastWord]

theorem mem_of_lastWord {k : K} {log : List α} {a : α} (h : lastWord key k log = some a) :
    a ∈ log ∧ key a = k := by
  simpa using List.mem_of_getLast? h

theorem lastWord_of_all {k : K} {log : List α} {a : α} (hmem : a ∈ log) (hkey : key a = k)
    (hall : ∀ b ∈ log, key b = k → b = a) : lastWord key k log = some a := by
  cases hlast : lastWord key k log with
  | none => exact absurd hkey (lastWord_eq_none_iff.mp hlast a hmem)
  | some b => rw [hall b (mem_of_lastWord hlast).1 (mem_of_lastWord hlast).2]

theorem lastWord_hoist {before after : List α} {a : α}
    (hsame : ∀ b ∈ before, key b = key a → b = a) (k : K) :
    lastWord key k (a :: (before ++ after)) = lastWord key k (before ++ a :: after) := by
  have hsplit : before ++ a :: after = (before ++ [a]) ++ after := by simp
  have hsplit' : a :: (before ++ after) = (a :: before) ++ after := by simp
  rw [hsplit, hsplit', lastWord_append, lastWord_append k (before ++ [a])]
  congr 1
  by_cases hkey : key a = k
  · have hall : ∀ b ∈ before ++ [a], key b = k → b = a := by
      intro b hb hbk
      rcases List.mem_append.mp hb with hb | hb
      · exact hsame b hb (hbk.trans hkey.symm)
      · exact List.mem_singleton.mp hb
    rw [lastWord_of_all (List.mem_append_right _ List.mem_cons_self) hkey hall]
    exact lastWord_of_all List.mem_cons_self hkey fun b hb =>
      hall b (List.mem_append.mpr (List.mem_cons.mp hb |>.symm.imp id List.mem_singleton.mpr))
  · rw [lastWord_append, lastWord_cons, lastWord_singleton, if_neg hkey, Option.or_none,
      Option.none_or]

/-- Taking out an entry that has others about its key before it, all the same, or
some after it, leaves the last word on every key that is still spoken of. -/
theorem lastWord_erase {before after : List α} {a b : α} {k : K}
    (hsame : ∀ b ∈ before, key b = key a → b = a)
    (hlast : lastWord key k (before ++ after) = some b) :
    lastWord key k (before ++ a :: after) = some b := by
  rw [← lastWord_hoist hsame, lastWord_cons, hlast]
  rfl

end Wiremap.Library
