import Wiremap.Kube.Paths

/-! Secrets as they are sent to the browser: their keys, and none of their values. -/
namespace Wiremap.Kube

open Wiremap.Library

def redactedValue : String := "<redacted>"

def lastAppliedConfiguration : String := "kubectl.kubernetes.io/last-applied-configuration"

/-- The keys of a section join those redacted so far, and the section goes. -/
def redactSection (state : Object × Object) (field : String) : Object × Object :=
  ((state.2.fields field).keys.foldl (fun redacted key => redacted.insert key (.str redactedValue))
      state.1,
    state.2.removeNestedField [field])

def redactSections (secret : Object) : Object × Object :=
  ["data", "stringData"].foldl redactSection (∅, secret)

def redactSecret (secret : Object) : Object :=
  let sections := redactSections secret
  let secret : Object :=
    if sections.1.entries.length > 0 then
      sections.2.insert "stringData" (.ofObject sections.1)
    else sections.2
  secret.removeNestedField ["metadata", "annotations", lastAppliedConfiguration]

def HasKey (secret : Object) (key : String) : Prop :=
  key ∈ secret.fields "data" ∨ key ∈ secret.fields "stringData"

instance (secret : Object) (key : String) : Decidable (HasKey secret key) :=
  inferInstanceAs (Decidable (_ ∨ _))

/-- Two Secrets with the same keys that are the same but for their values, the manifest
that was last applied and the record of managed fields. -/
structure SameKeys (secret secret' : Object) : Prop where
  keys : ∀ key, HasKey secret key ↔ HasKey secret' key
  others : secret.SameBut [["data"], ["stringData"],
    ["metadata", "annotations", lastAppliedConfiguration], ["metadata", "managedFields"]] secret'

theorem lookup_foldl_redacted (keys : List String) (redacted : Object) (key : String) :
    AList.lookup key (keys.foldl (fun m key => m.insert key (.str redactedValue)) redacted) =
      if key ∈ keys then some (.str redactedValue) else redacted.lookup key := by
  induction keys generalizing redacted with
  | nil => simp
  | cons head rest ih =>
      rw [List.foldl_cons, ih, StringMap.lookup_insert]
      by_cases hrest : key ∈ rest
      · simp [hrest]
      · by_cases hhead : key = head <;> simp [hrest, hhead]

theorem lookup_redactSections (secret : Object) (key : String) :
    (redactSections secret).1.lookup key =
      if HasKey secret key then some (.str redactedValue) else none := by
  have hfields : Object.fields (secret.removeNestedField ["data"]) "stringData" =
      secret.fields "stringData" := by
    simp [Object.fields, Object.nestedMap, Object.removeNestedField]
  simp only [redactSections, List.foldl_cons, List.foldl_nil, redactSection, hfields, lookup_foldl_redacted,
    AList.lookup_empty, ← AList.mem_keys]
  by_cases hdata : key ∈ secret.fields "data" <;>
    by_cases hstringData : key ∈ secret.fields "stringData" <;>
    simp [HasKey, hdata, hstringData]

theorem SameKeys.redactSecret {secret secret' : Object} (h : SameKeys secret secret') :
    (redactSecret secret).SameBut [["metadata", "managedFields"]] (Kube.redactSecret secret') := by
  have hredacted : ∀ key, (redactSections secret).1.lookup key =
      (redactSections secret').1.lookup key := by
    intro key
    simp only [lookup_redactSections, h.keys key]
  have hsections : (redactSections secret).2.SameBut _ (redactSections secret').2 :=
    (h.others.remove (by simp)).remove (by simp)
  unfold Kube.redactSecret
  refine Object.SameBut.remove ?_ (by simp)
  rw [StringMap.length_congr hredacted]
  split
  · exact hsections.insert "stringData" hredacted
  · exact hsections

end Wiremap.Kube
