import Mathlib.Data.List.Basic

/-! Objects used as tables in a language where a name that is not among an object's own
is looked for in the prototype that all objects share. -/
namespace Wiremap.Library

structure PlainObject (α : Type u) where
  entries : List (String × α)

namespace PlainObject

/-- What a name stands for: one of the object's own values, or something inherited, which
is neither a number nor nothing. -/
inductive Value (α : Type u) where
  | own (a : α)
  | inherited (name : String)
  deriving DecidableEq, Repr

def inheritedNames : List String :=
  ["constructor", "__defineGetter__", "__defineSetter__", "hasOwnProperty", "__lookupGetter__",
    "__lookupSetter__", "isPrototypeOf", "propertyIsEnumerable", "toString", "valueOf",
    "__proto__", "toLocaleString"]

variable {α : Type u}

def get (o : PlainObject α) (name : String) : Option (Value α) :=
  match o.entries.lookup name with
  | some a => some (.own a)
  | none => if name ∈ inheritedNames then some (.inherited name) else none

/-- `name in o`. -/
def has (o : PlainObject α) (name : String) : Bool := (o.get name).isSome

def keys (o : PlainObject α) : List String := o.entries.map Prod.fst

theorem get_eq_inherited_iff {o : PlainObject α} {name name' : String} :
    o.get name = some (.inherited name') ↔
      o.entries.lookup name = none ∧ name ∈ inheritedNames ∧ name = name' := by
  unfold get
  cases o.entries.lookup name with
  | some b => simp
  | none => by_cases hname : name ∈ inheritedNames <;> simp [hname]

theorem lookup_isSome_iff {o : PlainObject α} {name : String} :
    (o.entries.lookup name).isSome ↔ name ∈ o.keys := by
  rw [keys, List.mem_map, List.lookup_isSome_iff]
  simp

theorem has_iff {o : PlainObject α} {name : String} :
    o.has name ↔ name ∈ o.keys ∨ name ∈ inheritedNames := by
  rw [← lookup_isSome_iff, has, get]
  cases o.entries.lookup name with
  | some b => simp
  | none => by_cases hname : name ∈ inheritedNames <;> simp [hname]

theorem getD_get_own {o : PlainObject α} {name : String} (h : name ∉ inheritedNames) (a : α) :
    ∃ b, (o.get name).getD (.own a) = .own b := by
  unfold get
  cases o.entries.lookup name with
  | some b => exact ⟨b, rfl⟩
  | none => exact ⟨a, by rw [if_neg h, Option.getD_none]⟩

end PlainObject
end Wiremap.Library
