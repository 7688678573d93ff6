import Mathlib.Data.Rat.Init
import Wiremap.Library.StringMap

/-! Unstructured objects: decoded JSON, and the typed accessors that read it.  An
accessor fails as a whole on a value of another type; here a failure is `none`,
as no caller looks at the error. -/
namespace Wiremap.Kube

open Wiremap.Library

inductive Json where
  | null
  | bool (b : Bool)
  | num (n : ℚ)
  | str (s : String)
  | arr (items : List Json)
  | obj (fields : List (String × Json))

abbrev Object := StringMap Json

namespace Json

def str? : Json → Option String
  | .str s => some s
  | _ => none

def bool? : Json → Option Bool
  | .bool b => some b
  | _ => none

def int64? : Json → Option Int
  | .num n =>
      if n.den = 1 ∧ -9223372036854775808 ≤ n.num ∧ n.num < 9223372036854775808 then some n.num
      else none
  | _ => none

def map? : Json → Option (StringMap Json)
  | .obj fields => some (fields.map fun field => ⟨field.1, field.2⟩).toAList
  | _ => none

def object (json : Json) : Object := json.map?.getD ∅

def ofStringMap (m : StringMap String) : Json :=
  .obj (m.entries.map fun entry => (entry.1, .str entry.2))

end Json

namespace Object

def nestedField (obj : Object) : List String → Option Json
  | [] => none
  | [field] => obj.lookup field
  | field :: rest => ((obj.lookup field).bind Json.map?).bind fun inner => nestedField inner rest

def nestedString (obj : Object) (path : List String) : String :=
  ((obj.nestedField path).bind Json.str?).getD ""

/-- A whole number that fits is decoded as one, any other number is a float. -/
def nestedInt64 (obj : Object) (path : List String) : Option Int :=
  (obj.nestedField path).bind Json.int64?

def nestedBool (obj : Object) (path : List String) : Bool :=
  ((obj.nestedField path).bind Json.bool?).getD false

def nestedSlice (obj : Object) (path : List String) : List Json :=
  match obj.nestedField path with
  | some (.arr items) => items
  | _ => []

def nestedStringSlice (obj : Object) (path : List String) : List String :=
  ((obj.nestedSlice path).mapM Json.str?).getD []

def nestedMap (obj : Object) (field : String) : Option (StringMap Json) :=
  (obj.lookup field).bind Json.map?

/-- All the values are strings, or there is no map at all. -/
def nestedStringMap (obj : Object) (field : String) : Option (StringMap String) := do
  let m ← obj.nestedMap field
  if m.allValues fun value => value.str?.isSome then
    return m.mapValues fun value => value.str?.getD ""
  else none

def apiVersion (obj : Object) : String := obj.nestedString ["apiVersion"]
def kind (obj : Object) : String := obj.nestedString ["kind"]
def name (obj : Object) : String := obj.nestedString ["metadata", "name"]
def ns (obj : Object) : String := obj.nestedString ["metadata", "namespace"]

theorem nestedMap_of_ofStringMap {obj : Object} {field : String} {m : StringMap String}
    (h : obj.lookup field = some (.ofStringMap m)) :
    ∃ fields, obj.nestedMap field = some fields ∧
      ∀ key, fields.lookup key = (m.lookup key).map Json.str := by
  refine ⟨_, by rw [nestedMap, h]; rfl, fun key => ?_⟩
  rw [AList.lookup_to_alist, List.map_map]
  exact List.dlookup_map₂ (f := fun _ => Json.str) key

theorem nestedStringMap_of_ofStringMap {obj : Object} {field : String} {m : StringMap String}
    (h : obj.lookup field = some (.ofStringMap m)) :
    ∃ strings, obj.nestedStringMap field = some strings ∧
      ∀ key, strings.lookup key = m.lookup key := by
  obtain ⟨fields, hfields, hlookup⟩ := nestedMap_of_ofStringMap h
  have hall : fields.allValues fun value => value.str?.isSome := by
    rw [StringMap.allValues_iff]
    intro key value hvalue
    rw [hlookup] at hvalue
    obtain ⟨s, -, rfl⟩ := Option.map_eq_some_iff.mp hvalue
    rfl
  refine ⟨fields.mapValues fun value => value.str?.getD "", ?_, fun key => ?_⟩
  · simp [nestedStringMap, hfields, hall]
  · rw [StringMap.lookup_mapValues, hlookup, Option.map_map]
    cases m.lookup key <;> rfl

/-- The values under a field, where anything but a map counts as empty. -/
def fields (obj : Object) (field : String) : StringMap Json := (obj.nestedMap field).getD ∅

/-- The strings under a field, where a map of another shape counts as empty. -/
def strings (obj : Object) (field : String) : StringMap String :=
  (obj.nestedStringMap field).getD ∅

theorem lookup_strings_of_ofStringMap {obj : Object} {field : String} {m : StringMap String}
    (h : obj.lookup field = some (.ofStringMap m)) (key : String) :
    (obj.strings field).lookup key = m.lookup key := by
  obtain ⟨read, hread, hlookup⟩ := nestedStringMap_of_ofStringMap h
  rw [strings, hread, Option.getD_some, hlookup]

def AllStrings (obj : Object) (field : String) : Prop :=
  ∀ key value, (obj.fields field).lookup key = some value → value.str?.isSome

theorem lookup_strings_of_allStrings {obj : Object} {field : String} (h : obj.AllStrings field)
    (key : String) :
    (obj.strings field).lookup key = ((obj.fields field).lookup key).bind Json.str? := by
  unfold AllStrings fields at h
  unfold strings fields nestedStringMap
  cases hmap : obj.nestedMap field with
  | none => simp
  | some m =>
      rw [hmap, Option.getD_some] at h
      have hall : m.allValues fun value => value.str?.isSome :=
        (StringMap.allValues_iff _ m).mpr h
      simp only [Option.bind_eq_bind, Option.bind_some, hall, if_true, Option.pure_def,
        Option.getD_some, StringMap.lookup_mapValues]
      cases hvalue : m.lookup key with
      | none => rfl
      | some value =>
          obtain ⟨s, hs⟩ := Option.isSome_iff_exists.mp (h key value hvalue)
          simp [hs]

/-- One value that is no string loses them all. -/
theorem strings_of_not_allStrings {obj : Object} {field : String} (h : ¬ obj.AllStrings field) :
    obj.strings field = ∅ := by
  unfold AllStrings fields at h
  unfold strings nestedStringMap
  cases hmap : obj.nestedMap field with
  | none => simp
  | some m =>
      rw [hmap, Option.getD_some, ← StringMap.allValues_iff] at h
      simp [h]

theorem strings_of_lookup_none {obj : Object} {field : String} (h : obj.lookup field = none) :
    obj.strings field = ∅ := by
  simp [strings, nestedStringMap, nestedMap, h]

end Object
end Wiremap.Kube
