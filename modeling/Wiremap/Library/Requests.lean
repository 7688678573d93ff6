import Mathlib.Data.List.Basic

/-! Requests that are answered in any order, each at most once; a request is known
by its place among those sent. -/
namespace Wiremap.Library

structure Requests (R : Type u) where
  sent : List R
  answered : List Nat

namespace Requests

variable {R : Type u} {q q' : Requests R} {r r' : R} {i : Nat}

def empty : Requests R := ⟨[], []⟩

def send (q : Requests R) (r : R) : Requests R := { q with sent := q.sent ++ [r] }

def answer (q : Requests R) (i : Nat) : Option (R × Requests R) :=
  if i ∈ q.answered then none
  else (q.sent[i]?).map fun r => (r, { q with answered := i :: q.answered })

theorem answer_eq_some (h : q.answer i = some (r, q')) :
    q.sent[i]? = some r ∧ q'.sent = q.sent := by
  unfold answer at h
  split at h
  · cases h
  · obtain ⟨found, hfound, heq⟩ := Option.map_eq_some_iff.mp h
    cases heq
    exact ⟨hfound, rfl⟩

theorem answer_cases (h : q.answer i = some (r, q')) :
    q.sent[i]? = some r ∧ i ∉ q.answered ∧ q'.sent = q.sent ∧ q'.answered = i :: q.answered := by
  unfold answer at h
  split at h
  · cases h
  · rename_i hopen
    obtain ⟨found, hfound, heq⟩ := Option.map_eq_some_iff.mp h
    cases heq
    exact ⟨hfound, hopen, rfl, rfl⟩

theorem sent_send_of_some (h : q.sent[i]? = some r) (r' : R) : (q.send r').sent[i]? = some r := by
  rw [send, List.getElem?_append_left (List.getElem?_eq_some_iff.mp h).1, h]

end Requests
end Wiremap.Library
