import Wiremap.Kube.Paths
import Wiremap.Library.Overlay

/-! JSON merge patches: `null` deletes a field, a map goes into the map that is there, any other
value takes the place of what is there.  A patch does the same at each path whatever it is
applied to: it is an overlay. -/
namespace Wiremap.Kube

open Wiremap.Library

mutual

def Json.mergePatch (target : Json) : Json → Json
  | .obj fields => .ofObject (Object.mergeFields target.object fields)
  | patch => patch

def Object.mergeFields (target : Object) : List (String × Json) → Object
  | [] => target
  | (key, .null) :: rest => Object.mergeFields (target.erase key) rest
  | (key, value) :: rest =>
      Object.mergeFields
        (target.insert key (Json.mergePatch ((target.lookup key).getD .null) value)) rest

end

def Object.mergePatch (target : Object) (patch : Json) : Object :=
  (Json.mergePatch (.ofObject target) patch).object

/-! What a patch writes at the paths from where it is applied. -/

mutual

def Json.overlay : Json → Overlay (List String) (Option Shape)
  | .null, _ => some none
  | .obj _, [] => some (some .map)
  | .obj fields, head :: rest => Json.overlayFields fields (head :: rest)
  | value, [] => some (some (.value value))
  | _, _ :: _ => some none

def Json.overlayFields : List (String × Json) → Overlay (List String) (Option Shape)
  | [], _ => none
  | (key, value) :: more, path =>
      (Json.overlayFields more path).or
        (match path with
        | [] => none
        | head :: rest => if head = key then Json.overlay value rest else none)

end

/-- A map for each field on the way, and the value at the end. -/
def Json.at : List String → Json → Json
  | [], value => value
  | field :: rest, value => .obj [(field, Json.at rest value)]

def Json.Scalar : Json → Prop
  | .bool _ | .num _ | .str _ => True
  | .null | .arr _ | .obj _ => False

/-- What it takes to have a value at a path: maps on the way, and nothing below. -/
def line (path : List String) (value : Json) : Overlay (List String) (Option Shape) := fun other =>
  if other = path then some (some value.shape)
  else if other ≠ [] ∧ other <+: path then some (some .map)
  else if path <+: other then some none
  else none

namespace Json

@[simp] theorem overlayFields_nil_path (fields : List (String × Json)) :
    overlayFields fields [] = none := by
  induction fields with
  | nil => rfl
  | cons field more ih =>
      rw [overlayFields, ih]
      rfl

theorem overlayFields_cons (key : String) (value : Json) (more : List (String × Json))
    (path : List String) :
    overlayFields ((key, value) :: more) path =
      (overlayFields more path).or (match path with
        | [] => none
        | head :: rest => if head = key then overlay value rest else none) := by
  cases path <;> rw [overlayFields]

theorem overlay_scalar {value : Json} (h : value.Scalar) (path : List String) :
    value.overlay path = if path = [] then some (some value.shape) else some none := by
  cases value with
  | null | arr items | obj fields => cases h
  | bool b | num n | str s => cases path <;> rfl

theorem overlay_obj_cons (fields : List (String × Json)) (head : String) (rest : List String) :
    overlay (.obj fields) (head :: rest) = overlayFields fields (head :: rest) := by
  rw [overlay]

end Json

namespace Object

theorem mergeFields_null (target : Object) (key : String) (more : List (String × Json)) :
    mergeFields target ((key, .null) :: more) = mergeFields (target.erase key) more := by
  rw [mergeFields]

theorem mergeFields_cons (target : Object) {key : String} {value : Json} (h : value ≠ .null)
    (more : List (String × Json)) :
    mergeFields target ((key, value) :: more) =
      mergeFields
        (target.insert key (Json.mergePatch ((target.lookup key).getD .null) value)) more := by
  rw [mergeFields]
  exact h

theorem shape_mergePatch (target : Json) {value : Json} (h : value ≠ .null) :
    value.overlay [] = some (some (Json.mergePatch target value).shape) := by
  cases value with
  | null => exact absurd rfl h
  | obj fields =>
      rw [Json.overlay, Json.mergePatch]
      rfl
  | bool b | num n | str s | arr items => rfl

theorem shapeAt_below (target : Object) (key next : String) (rest : List String) :
    target.shapeAt (key :: next :: rest) =
      ((target.lookup key).getD .null).object.shapeAt (next :: rest) := by
  rw [shapeAt_cons_cons]
  cases target.lookup key with
  | some json => rfl
  | none => exact (shapeAt_empty _).symm

/-- Whatever it is applied to, a patch writes the same at each path. -/
theorem shapeAt_mergeFields (target : Object) (fields : List (String × Json)) (path : List String) :
    (mergeFields target fields).shapeAt path =
      (Json.overlayFields fields path).getD (target.shapeAt path) := by
  match fields with
  | [] =>
      rw [mergeFields]
      cases path <;> rfl
  | (key, value) :: more =>
      have hmore := fun target' => shapeAt_mergeFields target' more path
      rw [Json.overlayFields_cons]
      by_cases hnull : value = .null
      · subst hnull
        rw [mergeFields_null, hmore, shapeAt_erase]
        cases Json.overlayFields more path with
        | some written => rfl
        | none =>
            match path with
            | [] => rfl
            | head :: rest =>
                by_cases hhead : head = key
                · simp [hhead, Json.overlay]
                · simp [hhead, Ne.symm hhead]
      · rw [mergeFields_cons target hnull, hmore, shapeAt_insert]
        cases Json.overlayFields more path with
        | some written => rfl
        | none =>
            match path with
            | [] => rfl
            | [head] =>
                by_cases hhead : head = key
                · have hshape := shape_mergePatch ((target.lookup key).getD .null) hnull
                  simp [hhead, hshape]
                · simp [hhead]
            | head :: next :: rest =>
                by_cases hhead : head = key
                · subst hhead
                  have hbelow : (Json.mergePatch ((target.lookup head).getD .null) value).object.shapeAt
                        (next :: rest) =
                      (value.overlay (next :: rest)).getD (target.shapeAt (head :: next :: rest)) := by
                    rw [shapeAt_below]
                    cases value with
                    | null => exact absurd rfl hnull
                    | obj inner =>
                        rw [Json.mergePatch, shapeAt_object_ofObject, Json.overlay_obj_cons]
                        exact shapeAt_mergeFields _ inner (next :: rest)
                    | bool b | num n | str s | arr items => exact shapeAt_empty _
                  simpa using hbelow
                · simp [hhead]
termination_by sizeOf fields

theorem shapeAt_mergePatch (target : Object) (fields : List (String × Json)) :
    (target.mergePatch (.obj fields)).shapeAt = (Json.overlayFields fields).apply target.shapeAt := by
  funext path
  rw [mergePatch, Json.mergePatch, shapeAt_object_ofObject, shapeAt_mergeFields,
    shapeAt_object_ofObject, Overlay.apply]

end Object

theorem Json.overlayFields_at {value : Json} (h : value.Scalar) (field : String)
    (rest path : List String) :
    overlayFields [(field, Json.at rest value)] path = line (field :: rest) value path := by
  match path with
  | [] => simp [line]
  | head :: below =>
      have hone : overlayFields [(field, Json.at rest value)] (head :: below) =
          if head = field then overlay (Json.at rest value) below else none := by
        rw [overlayFields]
        rfl
      rw [hone]
      by_cases hhead : head = field
      · subst hhead
        rw [if_pos rfl]
        match rest with
        | [] =>
            rw [Json.at, overlay_scalar h]
            cases below <;> simp [line]
        | next :: rest =>
            match below with
            | [] => simp [Json.at, overlay, line]
            | next' :: below =>
                rw [Json.at, overlay_obj_cons, overlayFields_at h next rest (next' :: below)]
                simp [line]
      · simp [line, hhead, Ne.symm hhead]

end Wiremap.Kube
