import Mathlib.Data.List.Basic

/-! Writes to a store that is read place by place.  An overlay says what is written at each
place, if anything; of several in turn, the last one that writes at a place decides. -/
namespace Wiremap.Library

abbrev Overlay (K : Type u) (V : Type v) := K → Option V

namespace Overlay

variable {K : Type u} {V : Type v}

def apply (o : Overlay K V) (f : K → V) : K → V := fun k => (o k).getD (f k)

def inTurn (writes : List (Overlay K V)) : Overlay K V :=
  fun k => (writes.filterMap fun o => o k).getLast?

@[simp] theorem inTurn_nil (k : K) : inTurn ([] : List (Overlay K V)) k = none := rfl

theorem inTurn_append (writes writes' : List (Overlay K V)) (k : K) :
    inTurn (writes ++ writes') k = (inTurn writes' k).or (inTurn writes k) := by
  rw [inTurn, List.filterMap_append, List.getLast?_append, inTurn, inTurn]

@[simp] theorem inTurn_singleton (o : Overlay K V) (k : K) : inTurn [o] k = o k := by
  cases h : o k <;> simp [inTurn, h]

theorem inTurn_cons (o : Overlay K V) (writes : List (Overlay K V)) (k : K) :
    inTurn (o :: writes) k = (inTurn writes k).or (o k) := by
  have hsplit : o :: writes = [o] ++ writes := rfl
  rw [hsplit, inTurn_append, inTurn_singleton]

theorem apply_inTurn_cons (o : Overlay K V) (writes : List (Overlay K V)) (f : K → V) :
    (inTurn (o :: writes)).apply f = (inTurn writes).apply (o.apply f) := by
  funext k
  rw [apply, inTurn_cons, apply, apply]
  cases inTurn writes k <;> rfl

end Overlay
end Wiremap.Library
