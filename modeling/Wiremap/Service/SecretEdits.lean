import Wiremap.Service.ActionService

/-! What an edited Secret manifest asks for, and when Update does it.  The merge
reads the edited values through one typed accessor, from one section only. -/
namespace Wiremap.Service.ActionService

open Wiremap.Kube Wiremap.Library Wiremap.Library.Stateful

inductive Section where
  | data
  | stringData
  deriving DecidableEq, Repr

/-- What a value written in a section is stored as; a number, a boolean or a
nested value cannot be stored. -/
def Section.written (encode : String → String) : Section → Json → Option String
  | .data, .str s => some s
  | .stringData, .str s => some (encode s)
  | _, .null => some ""
  | _, _ => none

/-- Where and with what value a manifest lists a key; `stringData` goes over `data`. -/
def listed (edited : Object) (key : String) : Option (Section × Json) :=
  match (edited.fields "stringData").lookup key with
  | some value => some (.stringData, value)
  | none => ((edited.fields "data").lookup key).map fun value => (.data, value)

/-- The stored keys are those the manifest lists: the placeholder keeps what was
stored, any other value is written. -/
def Honours (encode : String → String) (edited : Object) (before after : StringMap String) :
    Prop :=
  ∀ key, match listed edited key with
    | none => after.lookup key = none
    | some (place, value) =>
        if value.str? = some redactedValue then
          before.lookup key = none ∨ after.lookup key = before.lookup key
        else ∃ stored, place.written encode value = some stored ∧ after.lookup key = some stored

/-- All edited values are strings, and `data` lists nothing that `stringData`
does not, but for placeholders of keys that were never stored. -/
def Restorable (edited : Object) (before : StringMap String) : Prop :=
  edited.AllStrings "stringData" ∧
    ∀ key value, (edited.fields "data").lookup key = some value →
      (edited.fields "stringData").lookup key = none →
      value.str? = some redactedValue ∧ before.lookup key = none

structure Accepted (server : Server) (ref : ObjectRef) (manifest : String) (edited : Object) :
    Prop where
  client : server.client = none
  decoded : server.unmarshal manifest = .ok edited
  identity : sameIdentity edited ref
  getErr : server.getErr = none
  updateErr : server.updateErr = none

theorem honours_iff_restorable (server : Server) {ref : ObjectRef} (edited current : Object)
    (hsecret : ref.group = "" ∧ ref.kind = "Secret") :
    Honours server.encode edited (secretData current)
        (secretData (server.stored ref (restoreRedactedSecret edited current))) ↔
      Restorable edited (secretData current) := by
  have hafter := lookup_stored_restore server edited current hsecret
  constructor
  · intro h
    have hall : edited.AllStrings "stringData" := by
      intro key value hvalue
      by_contra hodd
      have hlost := Object.strings_of_not_allStrings fun hall => hodd (hall key value hvalue)
      have hkey := h key
      simp only [listed, hvalue, hafter, hlost, AList.lookup_empty, Option.bind_none] at hkey
      have hnone : value.str? = none := by simpa using hodd
      simp [hnone] at hkey
    refine ⟨hall, fun key value hdata hstringData => ?_⟩
    have hkey := h key
    simp only [listed, hstringData, hdata, hafter, Option.map_some, Option.bind_none,
      Object.lookup_strings_of_allStrings hall] at hkey
    split at hkey
    · rename_i hplaceholder
      exact ⟨hplaceholder, hkey.elim id Eq.symm⟩
    · simp at hkey
  · rintro ⟨hall, hdata⟩ key
    rw [hafter, Object.lookup_strings_of_allStrings hall]
    unfold listed
    cases hstringData : (edited.fields "stringData").lookup key with
    | some value =>
        obtain ⟨s, hs⟩ := Option.isSome_iff_exists.mp (hall key value hstringData)
        obtain rfl : value = .str s := by cases value <;> simp_all [Json.str?]
        by_cases hplaceholder : s = redactedValue
        · simp [Json.str?, hplaceholder]
        · simp [Json.str?, hplaceholder, Section.written]
    | none =>
        cases hvalue : (edited.fields "data").lookup key with
        | none => simp
        | some value =>
            obtain ⟨hplaceholder, hnever⟩ := hdata key value hvalue hstringData
            simp [hplaceholder, hnever]

theorem merge_ok {server : Server} {ref : ObjectRef} (edited current : Object)
    (hsecret : ref.group = "" ∧ ref.kind = "Secret") (hget : server.getErr = none) :
    merge server ref edited current = .ok (restoreRedactedSecret edited current) current := by
  unfold merge
  rw [if_pos hsecret, hget]
  rfl

theorem merge_error {server : Server} {ref : ObjectRef} (edited current : Object)
    (hsecret : ref.group = "" ∧ ref.kind = "Secret") {err : ApiError}
    (hget : server.getErr = some err) :
    merge server ref edited current = .error (wrapError err "get secret") current := by
  unfold merge
  rw [if_pos hsecret, hget]
  rfl

/-- Update either ends in an error and has written nothing, or was accepted. -/
theorem update_cases (server : Server) {ref : ObjectRef} (manifest : String) (current : Object)
    (hsecret : ref.group = "" ∧ ref.kind = "Secret") :
    ((∃ err, update server ref manifest current = .error err current) ∧
        ∀ edited, ¬ Accepted server ref manifest edited) ∨
      ∃ edited, Accepted server ref manifest edited ∧
        update server ref manifest current =
          .ok () (server.stored ref (restoreRedactedSecret edited current)) := by
  unfold update
  cases hclient : server.client with
  | some err =>
      exact .inl ⟨⟨err, bind_error rfl⟩, fun _ h => by cases hclient.symm.trans h.client⟩
  | none =>
  rw [bind_ok (rfl : orFail none current = .ok () current)]
  unfold decode
  cases hdecoded : server.unmarshal manifest with
  | error err =>
      exact .inl ⟨⟨_, bind_error rfl⟩, fun _ h => by cases hdecoded.symm.trans h.decoded⟩
  | ok edited =>
  rw [bind_ok (rfl : (pure edited : ActionM Object) current = .ok edited current)]
  by_cases hidentity : sameIdentity edited ref = true
  · rw [if_pos hidentity]
    cases hget : server.getErr with
    | some err =>
        exact .inl ⟨⟨_, bind_error (merge_error edited current hsecret hget)⟩,
          fun _ h => by cases hget.symm.trans h.getErr⟩
    | none =>
    rw [bind_ok (merge_ok edited current hsecret hget)]
    cases hupdate : server.updateErr with
    | some err =>
        exact .inl ⟨⟨_, bind_error rfl⟩, fun _ h => by cases hupdate.symm.trans h.updateErr⟩
    | none =>
        exact .inr ⟨edited, ⟨hclient, hdecoded, hidentity, hget, hupdate⟩, rfl⟩
  · rw [if_neg hidentity]
    refine .inl ⟨⟨_, rfl⟩, fun other h => hidentity ?_⟩
    cases hdecoded.symm.trans h.decoded
    exact h.identity

/-- An Update that fails leaves the Secret alone; one that is accepted does what
its manifest says exactly when the manifest can be restored. -/
theorem update_honours_iff (server : Server) (cluster ns name manifest : String)
    (current : Object) :
    ((∀ err after, update server ⟨cluster, "", "Secret", ns, name⟩ manifest current =
          .error err after → after = current) ∧
        ∀ edited after, server.unmarshal manifest = .ok edited →
          update server ⟨cluster, "", "Secret", ns, name⟩ manifest current = .ok () after →
          Honours server.encode edited (secretData current) (secretData after)) ↔
      ∀ edited, Accepted server ⟨cluster, "", "Secret", ns, name⟩ manifest edited →
        Restorable edited (secretData current) := by
  have hsecret : (⟨cluster, "", "Secret", ns, name⟩ : ObjectRef).group = "" ∧
      (⟨cluster, "", "Secret", ns, name⟩ : ObjectRef).kind = "Secret" := ⟨rfl, rfl⟩
  rcases update_cases server manifest current hsecret with
    ⟨⟨err, hrun⟩, hrefused⟩ | ⟨edited, haccepted, hrun⟩
  · refine iff_of_true ⟨?_, ?_⟩ fun edited h => absurd h (hrefused edited)
    · exact forall_error (P := fun after => after = current) hrun rfl
    · intro _ _ _ hok
      cases hrun.symm.trans hok
  · have hiff := honours_iff_restorable server edited current hsecret
    constructor
    · rintro ⟨-, hhonours⟩ edited' haccepted'
      cases haccepted.decoded.symm.trans haccepted'.decoded
      exact hiff.mp (hhonours edited _ haccepted.decoded hrun)
    · intro hrestorable
      constructor
      · intro _ _ herror
        cases hrun.symm.trans herror
      · intro edited' after hdecoded hok
        cases haccepted.decoded.symm.trans hdecoded
        cases hrun.symm.trans hok
        exact hiff.mpr (hrestorable edited haccepted)

def numberedManifest : Object :=
  [⟨"kind", .str "Secret"⟩,
    ⟨"metadata", .obj [("name", .str "db"), ("namespace", .str "shop")]⟩,
    ⟨"stringData", .obj [("password", .str redactedValue), ("port", .num 5432)]⟩].toAList

def storedSecret : Object :=
  [⟨"kind", .str "Secret"⟩, ⟨"data", .obj [("password", .str "aHVudGVyMg==")]⟩].toAList

def willingServer (edited : Object) : Server :=
  ⟨fun _ => .ok edited, id, none, none, none⟩

/-- The request succeeds, and the password whose placeholder was left is gone. -/
theorem update_wipes_numbered :
    ∃ after, update (willingServer numberedManifest) ⟨"prod", "", "Secret", "shop", "db"⟩ ""
        storedSecret = .ok () after ∧
      (secretData storedSecret).lookup "password" = some "aHVudGVyMg==" ∧
      (secretData after).lookup "password" = none ∧
      ¬ Honours id numberedManifest (secretData storedSecret) (secretData after) := by
  refine ⟨_, rfl, by decide, by decide, fun h => ?_⟩
  have hport := ((honours_iff_restorable (willingServer numberedManifest) numberedManifest storedSecret
    ⟨rfl, rfl⟩).mp h).1
    "port" (.num 5432) rfl
  cases hport

end Wiremap.Service.ActionService
