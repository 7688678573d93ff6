import Wiremap.Kube.Json

/-! What an object holds at each path: nothing, a map, or a value.  The typed reads and
the printed manifest depend on no more than that, so not on the order of keys. -/
namespace Wiremap.Kube

open Wiremap.Library

inductive Shape where
  | map
  | value (json : Json)

namespace Json

def shape : Json → Shape
  | .obj _ => .map
  | json => .value json

def ofObject (m : Object) : Json := .obj (m.entries.map fun entry => (entry.1, entry.2))

/-! Maps printed with their keys in order. -/

mutual

def canon : Json → Json
  | .arr items => .arr (canonItems items)
  | .obj fields => .obj (StringMap.sorted (canonFields fields).toAList)
  | json => json

def canonItems : List Json → List Json
  | [] => []
  | item :: rest => canon item :: canonItems rest

def canonFields : List (String × Json) → List (Sigma fun _ : String => Json)
  | [] => []
  | (key, value) :: rest => ⟨key, canon value⟩ :: canonFields rest

end

theorem canonFields_eq (fields : List (String × Json)) :
    canonFields fields = fields.map fun field => ⟨field.1, canon field.2⟩ := by
  induction fields with
  | nil => rfl
  | cons field rest ih => simp [canonFields, ih]

private def entriesOf (fields : List (String × Json)) : List (Sigma fun _ : String => Json) :=
  fields.map fun field => ⟨field.1, field.2⟩

theorem lookup_object_obj (fields : List (String × Json)) (key : String) :
    (object (.obj fields)).lookup key = (entriesOf fields).dlookup key := by
  rw [object, map?, Option.getD_some, AList.lookup_to_alist]
  rfl

@[simp] theorem lookup_object_ofObject (m : Object) (key : String) :
    (object (ofObject m)).lookup key = m.lookup key := by
  rw [ofObject, lookup_object_obj, entriesOf, List.map_map]
  exact congrArg _ (List.map_id _)

theorem canon_obj (fields : List (String × Json)) :
    canon (.obj fields) = .obj ((object (.obj fields)).mapValues canon).sorted := by
  rw [canon]
  refine congrArg Json.obj (StringMap.sorted_congr fun key => ?_)
  rw [AList.lookup_to_alist, StringMap.lookup_mapValues, lookup_object_obj, canonFields_eq]
  have hmap := List.dlookup_map₂ (f := fun _ : String => canon) (l := entriesOf fields) key
  rw [← hmap, entriesOf, List.map_map]
  rfl

theorem sizeOf_lookup {fields : List (String × Json)} {key : String} {json : Json}
    (h : (object (.obj fields)).lookup key = some json) :
    sizeOf json < sizeOf (Json.obj fields) := by
  rw [lookup_object_obj] at h
  obtain ⟨⟨k, value⟩, hmem, heq⟩ := List.mem_map.mp (List.of_mem_dlookup h)
  cases heq
  have hlt := List.sizeOf_lt_of_mem hmem
  simp only [Json.obj.sizeOf_spec, Prod.mk.sizeOf_spec] at hlt ⊢
  omega

def arr? : Json → Option (List Json)
  | .arr items => some items
  | _ => none

end Json

namespace Object

def shapeAt (obj : Object) (path : List String) : Option Shape :=
  (obj.nestedField path).map Json.shape

@[simp] theorem nestedField_empty (path : List String) : nestedField ∅ path = none := by
  cases path with
  | nil => rfl
  | cons field rest => cases rest <;> simp [nestedField]

theorem nestedField_cons_cons (obj : Object) (field next : String) (rest : List String) :
    obj.nestedField (field :: next :: rest) =
      (obj.lookup field).bind fun json => json.object.nestedField (next :: rest) := by
  rw [nestedField]
  · cases obj.lookup field with
    | none => rfl
    | some json => cases json <;> simp [Json.map?, Json.object]
  · simp

theorem shapeAt_single (obj : Object) (field : String) :
    obj.shapeAt [field] = (obj.lookup field).map Json.shape := rfl

theorem shapeAt_cons_cons (obj : Object) (field next : String) (rest : List String) :
    obj.shapeAt (field :: next :: rest) =
      (obj.lookup field).bind fun json => json.object.shapeAt (next :: rest) := by
  rw [shapeAt, nestedField_cons_cons]
  cases obj.lookup field <;> rfl

/-- At every path that is not below an excluded one the objects hold the same. -/
def SameBut (excluded : List (List String)) (obj obj' : Object) : Prop :=
  ∀ path, (∀ p ∈ excluded, ¬ p <+: path) → obj.shapeAt path = obj'.shapeAt path

variable {obj obj' : Object}

theorem SameBut.read {excluded : List (List String)} (h : SameBut excluded obj obj')
    {path : List String} (hpath : ∀ p ∈ excluded, ¬ p <+: path) {f : Json → Option α}
    (hf : ∀ fields, f (.obj fields) = none) :
    (obj.nestedField path).bind f = (obj'.nestedField path).bind f := by
  have hshape := h path hpath
  have hvalue : ∀ json : Json, f json = match json.shape with
      | .map => none
      | .value value => f value := by
    intro json
    cases json with
    | obj fields => exact hf fields
    | _ => rfl
  unfold shapeAt at hshape
  cases hfound : obj.nestedField path <;> cases hfound' : obj'.nestedField path <;>
    rw [hfound, hfound'] at hshape
  · cases hshape
  · cases hshape
  · rename_i json json'
    have hsame : json.shape = json'.shape := Option.some.inj hshape
    rw [Option.bind_some, Option.bind_some, hvalue, hvalue json', hsame]

theorem bind_nestedField (obj : Object) (path : List String) {f : Json → Option α}
    (hf : ∀ fields, f (.obj fields) = none) :
    (obj.nestedField path).bind f = (obj.shapeAt path).bind fun
      | .map => none
      | .value value => f value := by
  unfold shapeAt
  cases obj.nestedField path with
  | none => rfl
  | some json =>
      cases json with
      | obj fields => exact hf fields
      | null | bool b | num n | str s | arr items => rfl

theorem SameBut.nestedString {excluded : List (List String)} (h : SameBut excluded obj obj')
    {path : List String} (hpath : ∀ p ∈ excluded, ¬ p <+: path) :
    obj.nestedString path = obj'.nestedString path := by
  rw [Object.nestedString, h.read hpath fun _ => rfl, ← Object.nestedString]

theorem SameBut.nestedSlice {excluded : List (List String)} (h : SameBut excluded obj obj')
    {path : List String} (hpath : ∀ p ∈ excluded, ¬ p <+: path) :
    obj.nestedSlice path = obj'.nestedSlice path := by
  have hread : ∀ o : Object, o.nestedSlice path = ((o.nestedField path).bind Json.arr?).getD [] := by
    intro o
    unfold Object.nestedSlice
    cases o.nestedField path with
    | none => rfl
    | some json => cases json <;> rfl
  rw [hread, hread, h.read hpath fun _ => rfl]

end Object

theorem Json.eq_of_shape {json value : Json} (h : json.shape = .value value) : json = value := by
  cases json with
  | obj fields => cases h
  | _ =>
      injection h

theorem Json.eq_obj_of_shape {json : Json} (h : json.shape = .map) :
    ∃ fields, json = .obj fields := by
  cases json with
  | obj fields => exact ⟨fields, rfl⟩
  | _ => cases h

/-- What holds the same at all paths is printed the same. -/
theorem Json.canon_congr {json json' : Json} (hshape : json.shape = json'.shape)
    (hpaths : json.object.SameBut [] json'.object) : json.canon = json'.canon := by
  cases hmap : json.shape with
  | value value =>
      rw [eq_of_shape hmap, ← eq_of_shape (hshape.symm.trans hmap)]
  | map =>
      obtain ⟨fields, rfl⟩ := eq_obj_of_shape hmap
      obtain ⟨fields', rfl⟩ := eq_obj_of_shape (hshape.symm.trans hmap)
      rw [canon_obj, canon_obj]
      refine congrArg Json.obj (StringMap.sorted_congr fun key => ?_)
      rw [StringMap.lookup_mapValues, StringMap.lookup_mapValues]
      have hkey := hpaths [key] (by simp)
      rw [Object.shapeAt_single, Object.shapeAt_single] at hkey
      cases hvalue : (object (.obj fields)).lookup key with
      | none =>
          rw [hvalue] at hkey
          rw [Option.map_eq_none_iff.mp hkey.symm]
      | some value =>
          rw [hvalue] at hkey
          obtain ⟨value', hvalue', hsame⟩ := Option.map_eq_some_iff.mp hkey.symm
          have hsmaller := sizeOf_lookup hvalue
          have hbelow : value.object.SameBut [] value'.object := by
            intro path _
            cases path with
            | nil => rfl
            | cons next rest =>
                have hpath := hpaths (key :: next :: rest) (by simp)
                rwa [Object.shapeAt_cons_cons, Object.shapeAt_cons_cons, hvalue, hvalue'] at hpath
          rw [hvalue']
          exact congrArg some (canon_congr hsame.symm hbelow)
termination_by sizeOf json

namespace Object

/-- Delete what the path leads to; nothing where there is no map on the way. -/
def removeNestedField (obj : Object) : List String → Object
  | [] => obj
  | [field] => obj.erase field
  | field :: rest =>
      match (obj.lookup field).bind Json.map? with
      | some inner => obj.insert field (.ofObject (removeNestedField inner rest))
      | none => obj

theorem shapeAt_insert (obj : Object) (field : String) (json : Json) (path : List String) :
    Object.shapeAt (obj.insert field json) path =
      match path with
      | [] => none
      | head :: rest =>
          if head = field then if rest = [] then some json.shape else json.object.shapeAt rest
          else obj.shapeAt path := by
  match path with
  | [] => rfl
  | [head] =>
      rw [shapeAt_single, StringMap.lookup_insert]
      by_cases hhead : head = field
      · simp [hhead]
      · simp [hhead, shapeAt_single]
  | head :: next :: rest =>
      rw [shapeAt_cons_cons, StringMap.lookup_insert]
      by_cases hhead : head = field
      · simp [hhead]
      · simp [hhead, shapeAt_cons_cons]

theorem shapeAt_erase (obj : Object) (field : String) (path : List String) :
    Object.shapeAt (obj.erase field) path =
      if [field] <+: path then none else obj.shapeAt path := by
  match path with
  | [] => rfl
  | [head] =>
      rw [shapeAt_single, StringMap.lookup_erase]
      by_cases hhead : head = field
      · simp [hhead]
      · simp [hhead, Ne.symm hhead, shapeAt_single]
  | head :: next :: rest =>
      rw [shapeAt_cons_cons, StringMap.lookup_erase]
      by_cases hhead : head = field
      · simp [hhead]
      · simp [hhead, Ne.symm hhead, shapeAt_cons_cons]

@[simp] theorem shapeAt_object_ofObject (m : Object) (path : List String) :
    (Json.ofObject m).object.shapeAt path = m.shapeAt path := by
  match path with
  | [] => rfl
  | [field] => rw [shapeAt_single, shapeAt_single, Json.lookup_object_ofObject]
  | field :: next :: rest =>
      rw [shapeAt_cons_cons, shapeAt_cons_cons, Json.lookup_object_ofObject]

@[simp] theorem shapeAt_empty (path : List String) : shapeAt ∅ path = none := by
  simp [shapeAt]

theorem shapeAt_removeNestedField (obj : Object) {removed : List String} (hremoved : removed ≠ [])
    (path : List String) :
    (obj.removeNestedField removed).shapeAt path =
      if removed <+: path then none else obj.shapeAt path := by
  induction removed generalizing obj path with
  | nil => exact absurd rfl hremoved
  | cons field below ih =>
      cases below with
      | nil => exact shapeAt_erase obj field path
      | cons next below =>
          have hunfold : obj.removeNestedField (field :: next :: below) =
              match (obj.lookup field).bind Json.map? with
              | some inner =>
                  obj.insert field (.ofObject (removeNestedField inner (next :: below)))
              | none => obj := by
            rw [removeNestedField]
            simp
          rw [hunfold]
          cases hfound : (obj.lookup field).bind Json.map? with
          | some inner =>
              obtain ⟨json, hjson, hinner⟩ := Option.bind_eq_some_iff.mp hfound
              have hobject : json.object = inner := by rw [Json.object, hinner, Option.getD_some]
              obtain ⟨fields, rfl⟩ : ∃ fields, json = .obj fields := by
                cases json with
                | obj fields => exact ⟨fields, rfl⟩
                | _ => cases hinner
              dsimp only
              rw [shapeAt_insert]
              match path with
              | [] => rfl
              | head :: rest =>
                  by_cases hhead : head = field
                  · subst hhead
                    match rest with
                    | [] => simp [shapeAt_single, hjson, Json.shape, Json.ofObject]
                    | next' :: rest =>
                        simp [shapeAt_cons_cons, hjson, hobject, ih inner (by simp)]
                  · simp [hhead, Ne.symm hhead]
          | none =>
              dsimp only
              split
              · rename_i hbelow
                obtain ⟨rest, rfl⟩ := hbelow
                rw [List.cons_append, List.cons_append, shapeAt_cons_cons]
                cases hjson : obj.lookup field with
                | none => rfl
                | some json =>
                    have hnone : json.map? = none := by simpa [hjson] using hfound
                    simp [Json.object, hnone]
              · rfl

theorem SameBut.symm {excluded : List (List String)} {obj obj' : Object}
    (h : SameBut excluded obj obj') : SameBut excluded obj' obj :=
  fun path hpath => (h path hpath).symm

theorem SameBut.trans {excluded : List (List String)} {obj obj' obj'' : Object}
    (h : SameBut excluded obj obj') (h' : SameBut excluded obj' obj'') :
    SameBut excluded obj obj'' :=
  fun path hpath => (h path hpath).trans (h' path hpath)

theorem sameBut_insert {excluded : List (List String)} (obj : Object) {field : String}
    (hfield : [field] ∈ excluded) (json : Json) :
    SameBut excluded obj (AList.insert field json obj) := by
  intro path hpath
  rw [shapeAt_insert]
  match path with
  | [] => rfl
  | head :: rest =>
      by_cases hhead : head = field
      · subst hhead
        exact absurd ⟨rest, rfl⟩ (hpath _ hfield)
      · simp [hhead]

theorem SameBut.remove {removed : List String} {excluded : List (List String)} {obj obj' : Object}
    (h : SameBut (removed :: excluded) obj obj') (hremoved : removed ≠ []) :
    SameBut excluded (obj.removeNestedField removed) (obj'.removeNestedField removed) := by
  intro path hpath
  rw [shapeAt_removeNestedField obj hremoved, shapeAt_removeNestedField obj' hremoved]
  split
  · rfl
  · rename_i hnot
    refine h path fun p hp => ?_
    rcases List.mem_cons.mp hp with rfl | hp
    · exact hnot
    · exact hpath p hp

theorem SameBut.insert {excluded : List (List String)} {obj obj' : Object}
    (h : SameBut excluded obj obj') (field : String) {m m' : Object}
    (hsame : ∀ key, m.lookup key = m'.lookup key) :
    SameBut excluded (AList.insert field (.ofObject m) obj) (AList.insert field (.ofObject m') obj') := by
  have hshape : ∀ path, m.shapeAt path = m'.shapeAt path := by
    intro path
    match path with
    | [] => rfl
    | [key] => rw [shapeAt_single, shapeAt_single, hsame]
    | key :: next :: rest => rw [shapeAt_cons_cons, shapeAt_cons_cons, hsame]
  intro path hpath
  rw [shapeAt_insert, shapeAt_insert]
  match path with
  | [] => rfl
  | head :: rest =>
      simp only [shapeAt_object_ofObject, hshape, h _ hpath]
      rfl

end Object
end Wiremap.Kube
