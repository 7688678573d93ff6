import Wiremap.Service.ResourceService
import Wiremap.Service.SecretConflicts
import Wiremap.Service.SecretRedaction

/-! What a manifest is printed from, and what becomes of the object when the manifest is sent
back: a Secret comes back redacted and is merged with what is stored. -/
namespace Wiremap.Service.Manifests

open Wiremap.Kube Wiremap.Library Wiremap.Library.Stateful
open Wiremap.Service.ActionService (ObjectRef Server restoreRedactedSecret secretData Accepted update)
open Wiremap.Service.SecretConflicts (resourceVersion)
open Wiremap.Topology (Fetched fetchStored getObject)

/-- An object as the API server returns it, with the version it has there. -/
def stamped (revision : Nat) (obj : Object) : Object :=
  obj.insert "metadata" (.ofObject
    (((obj.lookup "metadata").getD .null).object.insert "resourceVersion" (.str (toString revision))))

def shown (ref : ObjectRef) (revision : Nat) (obj : Object) : Object :=
  if ref.group = "" ∧ ref.kind = "Secret" then redactSecret (stamped revision obj)
  else stamped revision obj

def merged (ref : ObjectRef) (edited current : Object) : Object :=
  if ref.group = "" ∧ ref.kind = "Secret" then restoreRedactedSecret edited current else edited

def managedFields : List String := ["metadata", "managedFields"]

def HasMetadata (obj : Object) : Prop := ∃ fields, obj.lookup "metadata" = some (.obj fields)

instance (obj : Object) : Decidable (HasMetadata obj) :=
  match h : obj.lookup "metadata" with
  | some (.obj fields) => isTrue ⟨fields, h⟩
  | none | some .null | some (.bool _) | some (.num _) | some (.str _) | some (.arr _) =>
      isFalse fun ⟨_, hfields⟩ => by cases h.symm.trans hfields

/-- What is not part of the manifest, or is kept by the API server. -/
def excluded (ref : ObjectRef) : List (List String) :=
  ["metadata", "resourceVersion"] :: managedFields ::
    if ref.group = "" ∧ ref.kind = "Secret" then
      [["data"], ["stringData"], ["metadata", "annotations", lastAppliedConfiguration]]
    else []

/-- What was left alone in a manifest is sent back as the object has it: of a Secret all but
its values and the record of what was last applied, and the value of each key that is shown as
before. -/
structure Kept (ref : ObjectRef) (manifest edited obj new : Object) : Prop where
  rest : ∀ changed, edited.SameBut changed (manifest.removeNestedField managedFields) →
    new.SameBut (changed ++ excluded ref) obj
  data : ref.group = "" ∧ ref.kind = "Secret" → edited.AllStrings "stringData" → ∀ key,
    edited.shapeAt ["stringData", key] = manifest.shapeAt ["stringData", key] →
      (secretData new).lookup key = (secretData obj).lookup key

/-! ### Objects that are the same but for some paths -/

variable {ref : ObjectRef} {obj edited : Object}

theorem sameBut_mono {excluded excluded' : List (List String)} {obj obj' : Object}
    (h : obj.SameBut excluded obj') (hsub : ∀ p ∈ excluded, p ∈ excluded') :
    obj.SameBut excluded' obj' :=
  fun path hpath => h path fun p hp => hpath p (hsub p hp)

theorem sameBut_remove {removed : List String} (hremoved : removed ≠ []) (obj : Object) :
    (obj.removeNestedField removed).SameBut [removed] obj := by
  intro path hpath
  rw [Object.shapeAt_removeNestedField obj hremoved, if_neg (hpath _ List.mem_cons_self)]

theorem sameBut_erase (field : String) (obj : Object) :
    Object.SameBut [[field]] (AList.erase field obj) obj := by
  intro path hpath
  rw [Object.shapeAt_erase, if_neg (hpath _ List.mem_cons_self)]

theorem nestedField_pair (obj : Object) (field key : String) :
    obj.nestedField [field, key] = (obj.fields field).lookup key := by
  rw [Object.nestedField_cons_cons, Object.fields, Object.nestedMap]
  cases obj.lookup field with
  | none => rfl
  | some json => cases json <;> rfl

theorem shapeAt_pair (obj : Object) (field key : String) :
    obj.shapeAt [field, key] = ((obj.fields field).lookup key).map Json.shape := by
  rw [Object.shapeAt, nestedField_pair]

/-! ### The version -/

theorem shapeAt_stamped (revision : Nat) (hmetadata : HasMetadata obj) (path : List String) :
    (stamped revision obj).shapeAt path =
      if path = ["metadata", "resourceVersion"] then some (.value (.str (toString revision)))
      else if ["metadata", "resourceVersion"] <+: path then none else obj.shapeAt path := by
  obtain ⟨fields, hfields⟩ := hmetadata
  rw [stamped, Object.shapeAt_insert, hfields]
  match path with
  | [] => rfl
  | [head] =>
      by_cases hhead : head = "metadata"
      · subst hhead
        simp [Object.shapeAt_single, hfields, Json.ofObject, Json.shape]
      · simp [hhead]
  | head :: next :: rest =>
      by_cases hhead : head = "metadata"
      · subst hhead
        simp only [Object.shapeAt_object_ofObject, Object.shapeAt_insert, Option.getD_some,
          Object.shapeAt_cons_cons, hfields, Option.bind_some]
        by_cases hnext : next = "resourceVersion"
        · subst hnext
          cases rest with
          | nil => simp [Json.shape]
          | cons last rest => simp [Json.object, Json.map?]
        · simp [hnext, Ne.symm hnext]
      · simp [hhead, Ne.symm hhead]

theorem sameBut_stamped (revision : Nat) (hmetadata : HasMetadata obj) :
    (stamped revision obj).SameBut [["metadata", "resourceVersion"]] obj := by
  intro path hpath
  have hother := hpath _ List.mem_cons_self
  have hne : path ≠ ["metadata", "resourceVersion"] := by
    rintro rfl
    exact hother List.prefix_rfl
  rw [shapeAt_stamped revision hmetadata, if_neg hne, if_neg hother]

/-! ### Redaction and back -/

theorem sameBut_redactSecret (secret : Object) :
    (redactSecret secret).SameBut
      [["data"], ["stringData"], ["metadata", "annotations", lastAppliedConfiguration]] secret := by
  have hsections : (redactSections secret).2.SameBut [["data"], ["stringData"]] secret :=
    (sameBut_mono (sameBut_erase "stringData" (secret.erase "data")) (by simp)).trans
      (sameBut_mono (sameBut_erase "data" secret) (by simp))
  unfold redactSecret
  refine (sameBut_mono (sameBut_remove (by simp) _) (by simp)).trans ?_
  split
  · exact (Object.SameBut.symm (Object.sameBut_insert (redactSections secret).2 (by simp) _)).trans
      (sameBut_mono hsections (by simp))
  · exact sameBut_mono hsections (by simp)

theorem shapeAt_redactSecret (secret : Object) (key : String) :
    (redactSecret secret).shapeAt ["stringData", key] =
      if HasKey secret key then some (.value (.str redactedValue)) else none := by
  have hkeys := lookup_redactSections secret
  unfold redactSecret
  dsimp only
  rw [Object.shapeAt_removeNestedField _ (by simp), if_neg (by simp)]
  split
  · rw [Object.shapeAt_insert]
    simp only [if_true, List.cons_ne_nil, if_false, Object.shapeAt_single,
      Json.lookup_object_ofObject, hkeys key]
    split <;> rfl
  · rename_i hempty
    have hnone : (redactSections secret).1.lookup key = none := by
      have hnil : (redactSections secret).1.entries = [] := by simpa using hempty
      simp [AList.lookup, hnil]
    rw [hkeys key] at hnone
    have herased : (redactSections secret).2 = (secret.erase "data").erase "stringData" := rfl
    rw [herased, Object.shapeAt_erase, if_pos ⟨[key], rfl⟩]
    split at hnone
    · cases hnone
    · rename_i hno
      rw [if_neg hno]

theorem hasKey_stamped (revision : Nat) (secret : Object) (key : String) :
    HasKey (stamped revision secret) key ↔ HasKey secret key := by
  have hfields : ∀ field, field ≠ "metadata" →
      (stamped revision secret).fields field = secret.fields field := by
    intro field hne
    rw [Object.fields, Object.fields, Object.nestedMap, Object.nestedMap, stamped,
      AList.lookup_insert_ne hne]
  rw [HasKey, HasKey, hfields "data" (by decide), hfields "stringData" (by decide)]

theorem strings_of_same {secret : Object} (hall : edited.AllStrings "stringData") {key : String}
    (h : edited.shapeAt ["stringData", key] = (redactSecret secret).shapeAt ["stringData", key]) :
    (edited.strings "stringData").lookup key =
      if HasKey secret key then some redactedValue else none := by
  rw [shapeAt_redactSecret, shapeAt_pair] at h
  rw [Object.lookup_strings_of_allStrings hall]
  split at h
  · rename_i hkey
    obtain ⟨value, hvalue, hstr⟩ := Option.map_eq_some_iff.mp h
    rw [if_pos hkey, hvalue, Json.eq_of_shape hstr]
    rfl
  · rename_i hkey
    rw [if_neg hkey, Option.map_eq_none_iff.mp h]
    rfl

theorem strings_eq_none {secret : Object} {key : String} (h : ¬HasKey secret key) :
    (secretData secret).lookup key = none := by
  by_cases hall : secret.AllStrings "data"
  · have hmissing : (secret.fields "data").lookup key = none :=
      AList.lookup_eq_none.mpr fun hmem => h (.inl hmem)
    rw [secretData, Object.lookup_strings_of_allStrings hall, hmissing, Option.bind_none]
  · rw [secretData, Object.strings_of_not_allStrings hall, AList.lookup_empty]

theorem sameBut_restoreRedactedSecret (edited current : Object) :
    (restoreRedactedSecret edited current).SameBut [["data"], ["stringData"]] edited := by
  unfold restoreRedactedSecret
  dsimp only
  have hdata : ∀ data : Json, Object.SameBut [["data"], ["stringData"]]
      (AList.insert "data" data edited) edited := fun data =>
    Object.SameBut.symm (Object.sameBut_insert edited (by simp) data)
  split
  · exact (Object.SameBut.symm (Object.sameBut_insert _ (by simp) _)).trans (hdata _)
  · exact (sameBut_mono (sameBut_erase "stringData" _) (by simp)).trans (hdata _)

theorem sameBut_stored (server : Server) (ref : ObjectRef) (obj : Object) :
    (server.stored ref obj).SameBut [["data"], ["stringData"]] obj := by
  unfold Server.stored
  split
  · exact (Object.SameBut.symm (Object.sameBut_insert _ (by simp) _)).trans
      (sameBut_mono (sameBut_erase "stringData" obj) (by simp))
  · exact fun _ _ => rfl

theorem kept_rest (server : Server) (ref : ObjectRef) {revision : Nat} (hmetadata : HasMetadata obj)
    {changed : List (List String)}
    (h : edited.SameBut changed ((shown ref revision obj).removeNestedField managedFields)) :
    (server.stored ref (merged ref edited obj)).SameBut (changed ++ excluded ref) obj := by
  have hshown : edited.SameBut (changed ++ [managedFields]) (shown ref revision obj) :=
    (sameBut_mono h fun _ => List.mem_append_left _).trans
      (sameBut_mono (sameBut_remove (by simp [managedFields]) _) fun _ => List.mem_append_right _)
  have hallowed : ∀ path ∈ changed ++ [managedFields], path ∈ changed ++ excluded ref := by
    intro path hpath
    rcases List.mem_append.mp hpath with hchanged | hmanaged
    · exact List.mem_append_left _ hchanged
    · rw [List.mem_singleton.mp hmanaged]
      exact List.mem_append_right _ (List.mem_cons_of_mem _ List.mem_cons_self)
  have hsame := sameBut_mono hshown hallowed
  have hstamped := sameBut_stamped revision hmetadata
  by_cases hsecret : ref.group = "" ∧ ref.kind = "Secret"
  · have hexcluded : excluded ref = [["metadata", "resourceVersion"], managedFields, ["data"],
        ["stringData"], ["metadata", "annotations", lastAppliedConfiguration]] := by
      rw [excluded, if_pos hsecret]
    rw [shown, if_pos hsecret, hexcluded] at hsame
    rw [hexcluded, merged, if_pos hsecret]
    exact (sameBut_mono (sameBut_stored server ref _) (by simp)).trans
      ((sameBut_mono (sameBut_restoreRedactedSecret edited obj) (by simp)).trans
        (hsame.trans
          ((sameBut_mono (sameBut_redactSecret _) (by simp)).trans
            (sameBut_mono hstamped (by simp)))))
  · rw [shown, if_neg hsecret] at hsame
    rw [merged, if_neg hsecret, Server.stored, if_neg hsecret]
    exact hsame.trans (sameBut_mono hstamped (by simp [excluded]))

theorem kept (server : Server) (ref : ObjectRef) (revision : Nat) (hmetadata : HasMetadata obj)
    (edited : Object) :
    Kept ref (shown ref revision obj) edited obj (server.stored ref (merged ref edited obj)) where
  rest _ h := kept_rest server ref hmetadata h
  data := by
    intro hsecret hall key hsame
    rw [shown, if_pos hsecret] at hsame
    rw [merged, if_pos hsecret, ActionService.lookup_stored_restore server edited obj hsecret,
      strings_of_same hall hsame]
    simp only [hasKey_stamped]
    by_cases hkey : HasKey obj key
    · simp [hkey]
    · simp [hkey, strings_eq_none hkey]

/-! ### The services -/

theorem unstructured_of_secret {c : Cluster} {ns name : String} {fetched : Fetched}
    (h : fetchStored c "" "Secret" ns name = .ok fetched) : ∃ u, fetched = .unstructured u := by
  rw [SecretRedaction.fetchStored_secret] at h
  split at h
  · cases h
  · cases h
    exact ⟨_, rfl⟩
  · cases h

/-- The manifest of a resource is printed from what is shown of the object that is stored. -/
theorem toYAML_of_get {api : ResourceService.Api} {c : Cluster} {resource : ResourceService.KubeResource}
    (h : ResourceService.get api (.ok c) ref.group ref.kind ref.ns ref.name = .ok resource) :
    ∃ scope fetched, fetchStored c ref.group ref.kind scope ref.name = .ok fetched ∧
      ∀ revision obj, api.object fetched = stamped revision obj →
        api.toYAML (shown ref revision obj) = .ok resource.yaml := by
  unfold ResourceService.get at h
  obtain ⟨c', hc, h⟩ := Fallible.bind_eq_ok.mp h
  cases hc
  obtain ⟨sent, hsent, h⟩ := Fallible.bind_eq_ok.mp h
  obtain ⟨manifest, hmanifest, h⟩ := Fallible.bind_eq_ok.mp h
  obtain ⟨events, -, h⟩ := Fallible.bind_eq_ok.mp h
  cases h
  unfold getObject at hsent
  obtain ⟨mapping, -, hsent⟩ := Fallible.bind_eq_ok.mp hsent
  obtain ⟨fetched, hfetched, hsent⟩ := Fallible.bind_eq_ok.mp hsent
  rw [orWrap_ok] at hfetched
  refine ⟨_, fetched, hfetched, fun revision obj hobj => ?_⟩
  by_cases hsecret : ref.group = "" ∧ ref.kind = "Secret"
  · obtain ⟨u, rfl⟩ := unstructured_of_secret (hsecret.1 ▸ hsecret.2 ▸ hfetched)
    simp only [hsecret, and_self, if_true, pure, Except.pure, Except.ok.injEq] at hsent
    rw [shown, if_pos hsecret, ← hobj, ← hmanifest, ← hsent]
    rfl
  · simp only [hsecret, if_false, pure, Except.pure, Except.ok.injEq] at hsent
    rw [shown, if_neg hsecret, ← hobj, hsent, hmanifest]

theorem update_merged {server : Server} {manifest : String} (haccepted : Accepted server ref manifest edited)
    (current : Object) :
    update server ref manifest current = .ok () (server.stored ref (merged ref edited current)) := by
  unfold update
  rw [haccepted.client, bind_ok (rfl : ActionService.orFail none current = .ok () current)]
  unfold ActionService.decode
  rw [haccepted.decoded, bind_ok (rfl : (pure edited : ActionService.ActionM Object) current = _),
    if_pos haccepted.identity]
  have hmerge : ActionService.merge server ref edited current =
      .ok (merged ref edited current) current := by
    unfold merged
    split
    · rename_i hsecret
      exact ActionService.merge_ok edited current hsecret haccepted.getErr
    · rename_i hother
      rw [ActionService.merge, if_neg hother]
      rfl
  rw [bind_ok hmerge, haccepted.updateErr]
  rfl

end Wiremap.Service.Manifests
