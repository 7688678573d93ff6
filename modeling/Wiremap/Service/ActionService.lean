import Wiremap.Kube.Errors
import Wiremap.Kube.Redaction
import Wiremap.Library.Stateful

/-! Replacing an object with an edited manifest.  A Secret reaches the browser
with its values redacted, so what comes back is merged with what is stored. -/
namespace Wiremap.Service.ActionService

open Wiremap.Kube Wiremap.Library

structure ObjectRef where
  cluster : String
  group : String
  kind : String
  ns : String
  name : String
  deriving DecidableEq, Repr

/-- What the answer to a request depends on besides the stored object: the
YAML decoder, how the API server stores a `stringData` value in `data`, whether
the kind is served, and whether it refuses the Get or the Update. -/
structure Server where
  unmarshal : String → Except String Object
  encode : String → String
  client : Option AppError
  getErr : Option ApiError
  updateErr : Option ApiError

def secretData (secret : Object) : StringMap String := secret.strings "data"

/-- The API server's side of an Update of a Secret: `data` is replaced and
`stringData` is merged over it. -/
def Server.stored (server : Server) (ref : ObjectRef) (obj : Object) : Object :=
  if ref.group = "" ∧ ref.kind = "Secret" then
    let stringData := obj.strings "stringData"
    let data := stringData.mapValues server.encode ∪ secretData obj
    (obj.erase "stringData").insert "data" (.ofStringMap data)
  else obj

def restoreValue (stored : StringMap String) (sections : StringMap String × StringMap String)
    (key value : String) : StringMap String × StringMap String :=
  if value = redactedValue then
    match stored.lookup key with
    | some old => (sections.1.insert key old, sections.2)
    | none => sections
  else (sections.1, sections.2.insert key value)

def restoreValues (stored editedValues : StringMap String) : StringMap String × StringMap String :=
  editedValues.foldl (restoreValue stored) (∅, ∅)

def restoreRedactedSecret (edited current : Object) : Object :=
  let restored := restoreValues (current.strings "data") (edited.strings "stringData")
  let edited := edited.insert "data" (.ofStringMap restored.1)
  if restored.2.keys.length > 0 then edited.insert "stringData" (.ofStringMap restored.2)
  else edited.erase "stringData"

abbrev ActionM := EStateM AppError Object

def orFail (err : Option AppError) : ActionM Unit :=
  match err with
  | some err => throw err
  | none => pure ()

def decode (server : Server) (manifest : String) : ActionM Object :=
  match server.unmarshal manifest with
  | .error err => throw (.badRequest s!"invalid yaml: {err}")
  | .ok edited => pure edited

def sameIdentity (edited : Object) (ref : ObjectRef) : Bool :=
  edited.kind = ref.kind && edited.name = ref.name && edited.ns = ref.ns

def merge (server : Server) (ref : ObjectRef) (edited : Object) : ActionM Object :=
  if ref.group = "" ∧ ref.kind = "Secret" then do
    orFail (server.getErr.map (wrapError · "get secret"))
    return restoreRedactedSecret edited (← get)
  else return edited

def update (server : Server) (ref : ObjectRef) (manifest : String) : ActionM Unit := do
  orFail server.client
  let edited ← decode server manifest
  if sameIdentity edited ref then
    let merged ← merge server ref edited
    orFail (server.updateErr.map (wrapError · s!"update {ref.kind} {ref.name}"))
    set (server.stored ref merged)
  else throw (.badRequest "the manifest's kind, name and namespace can't be changed")

theorem lookup_restoreValue_data (stored : StringMap String)
    (sections : StringMap String × StringMap String) (head value key : String) :
    (restoreValue stored sections head value).1.lookup key =
      if key = head ∧ value = redactedValue then (stored.lookup key).or (sections.1.lookup key)
      else sections.1.lookup key := by
  unfold restoreValue
  by_cases hvalue : value = redactedValue
  · by_cases hkey : key = head
    · subst hkey
      cases stored.lookup key <;> simp [hvalue]
    · cases stored.lookup head <;> simp [hvalue, hkey]
  · simp [hvalue]

theorem lookup_restoreValue_stringData (stored : StringMap String)
    (sections : StringMap String × StringMap String) (head value key : String) :
    (restoreValue stored sections head value).2.lookup key =
      if key = head ∧ value ≠ redactedValue then some value else sections.2.lookup key := by
  unfold restoreValue
  by_cases hvalue : value = redactedValue
  · cases stored.lookup head <;> simp [hvalue]
  · simp [hvalue, StringMap.lookup_insert]

theorem lookup_foldl_restoreValue (stored : StringMap String)
    (entries : List (Sigma fun _ : String => String)) (hnodup : entries.NodupKeys)
    (sections : StringMap String × StringMap String) (key : String) :
    let restored := entries.foldl (fun acc entry => restoreValue stored acc entry.1 entry.2) sections
    restored.1.lookup key =
        (if entries.dlookup key = some redactedValue then
          (stored.lookup key).or (sections.1.lookup key)
        else sections.1.lookup key) ∧
      restored.2.lookup key =
        ((entries.dlookup key).filter (· ≠ redactedValue)).or (sections.2.lookup key) := by
  induction entries generalizing sections with
  | nil => simp
  | cons entry rest ih =>
      obtain ⟨head, value⟩ := entry
      obtain ⟨hnot, hrest⟩ := List.nodupKeys_cons.mp hnodup
      obtain ⟨hdata, hstringData⟩ := ih hrest (restoreValue stored sections head value)
      rw [List.foldl_cons]
      dsimp only at hdata hstringData ⊢
      rw [hdata, hstringData, lookup_restoreValue_data, lookup_restoreValue_stringData]
      by_cases hkey : key = head
      · subst hkey
        rw [List.dlookup_eq_none.mpr hnot, List.dlookup_cons_eq]
        by_cases hvalue : value = redactedValue <;> simp [hvalue, Option.filter]
      · rw [List.dlookup_cons_ne _ _ hkey]
        simp [hkey]

theorem lookup_restoreValues (stored editedValues : StringMap String) (key : String) :
    (restoreValues stored editedValues).1.lookup key =
        (if editedValues.lookup key = some redactedValue then stored.lookup key else none) ∧
      (restoreValues stored editedValues).2.lookup key =
        (editedValues.lookup key).filter (· ≠ redactedValue) := by
  obtain ⟨hdata, hstringData⟩ := lookup_foldl_restoreValue stored editedValues.entries
    editedValues.nodupKeys (∅, ∅) key
  constructor
  · refine hdata.trans ?_
    rw [AList.lookup_empty, Option.or_none]
    rfl
  · refine hstringData.trans ?_
    rw [AList.lookup_empty, Option.or_none]
    rfl

/-- A key keeps its stored value where the placeholder was left, and takes any
other edited value through `stringData`. -/
theorem lookup_restoreRedactedSecret (edited current : Object) (key : String) :
    (secretData (restoreRedactedSecret edited current)).lookup key =
        (if (edited.strings "stringData").lookup key = some redactedValue then
          (secretData current).lookup key
        else none) ∧
      ((restoreRedactedSecret edited current).strings "stringData").lookup key =
        ((edited.strings "stringData").lookup key).filter (· ≠ redactedValue) := by
  obtain ⟨hdata, hstringData⟩ :=
    lookup_restoreValues (current.strings "data") (edited.strings "stringData") key
  unfold restoreRedactedSecret secretData
  rw [← hdata, ← hstringData]
  generalize restoreValues (current.strings "data") (edited.strings "stringData") = restored
  dsimp only
  split
  · constructor
    · apply Object.lookup_strings_of_ofStringMap
      simp [AList.lookup_insert_ne]
    · apply Object.lookup_strings_of_ofStringMap
      simp
  · rename_i hempty
    constructor
    · apply Object.lookup_strings_of_ofStringMap
      simp [AList.lookup_erase_ne]
    · have hnone : restored.2.lookup key = none := by
        rw [AList.lookup_eq_none, AList.mem_keys]
        simp_all
      rw [Object.strings_of_lookup_none (AList.lookup_erase _ _), hnone]
      rfl

theorem lookup_stored_restore (server : Server) {ref : ObjectRef} (edited current : Object)
    (hsecret : ref.group = "" ∧ ref.kind = "Secret") (key : String) :
    (secretData (server.stored ref (restoreRedactedSecret edited current))).lookup key =
      ((edited.strings "stringData").lookup key).bind fun value =>
        if value = redactedValue then (secretData current).lookup key
        else some (server.encode value) := by
  obtain ⟨hdata, hstringData⟩ := lookup_restoreRedactedSecret edited current key
  have hstored : (secretData (server.stored ref (restoreRedactedSecret edited current))).lookup key =
      (((restoreRedactedSecret edited current).strings "stringData").mapValues server.encode ∪
        secretData (restoreRedactedSecret edited current)).lookup key := by
    unfold Server.stored
    rw [if_pos hsecret]
    exact Object.lookup_strings_of_ofStringMap (AList.lookup_insert _) key
  rw [hstored, StringMap.lookup_union, StringMap.lookup_mapValues, hstringData, hdata]
  cases (edited.strings "stringData").lookup key with
  | none => simp
  | some value => by_cases hvalue : value = redactedValue <;> simp [hvalue, Option.filter]

end Wiremap.Service.ActionService
