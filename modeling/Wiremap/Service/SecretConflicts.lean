import Wiremap.Library.Machine
import Wiremap.Library.Text
import Wiremap.Library.Versioned
import Wiremap.Service.SecretEdits

/-! Updates of one Secret that run at the same time, and other writers between
their steps.  What an Update restores is read later than the manifest it was
given; the API server's check of the version makes both reads one. -/
namespace Wiremap.Service.SecretConflicts

open Wiremap.Kube Wiremap.Library Wiremap.Service.ActionService

def resourceVersion (obj : Object) : String := obj.nestedString ["metadata", "resourceVersion"]

/-- Where an Update is; the version its Get was served from is kept beside the object. -/
inductive Phase where
  | decoded
  | fetched (version : Nat) (current : Object)
  | succeeded
  | failed

def Phase.settled : Phase → Bool
  | .succeeded | .failed => true
  | _ => false

/-- An Update on its way; `known` are the versions read before it was requested. -/
structure Flight where
  edited : Object
  known : List Nat
  phase : Phase

structure Api where
  secret : Versioned Object
  reads : List Nat
  flights : List Flight

inductive Event where
  /-- Anyone reads the Secret. -/
  | read
  /-- Another writer creates, changes or deletes it. -/
  | write (secret : Option Object)
  | request (manifest : String)
  /-- The Get, or the PUT, of the Update at this index. -/
  | get (i : Nat)
  | put (i : Nat)
  /-- A request of the Update at this index does not go through. -/
  | fail (i : Nat)

/-- Whether the API server takes a PUT: a manifest without a version replaces any. -/
def accepts (secret : Versioned Object) (obj : Object) : Bool :=
  secret.current.isSome &&
    (resourceVersion obj = "" || resourceVersion obj = toString secret.revision)

namespace Api

def setPhase (a : Api) (i : Nat) (f : Flight) (phase : Phase) : Api :=
  { a with flights := a.flights.set i { f with phase := phase } }

def read (a : Api) : Api :=
  match a.secret.current with
  | some _ => { a with reads := a.secret.revision :: a.reads }
  | none => a

def request (server : Server) (ref : ObjectRef) (manifest : String) (a : Api) : Api :=
  match server.unmarshal manifest with
  | .error _ => a
  | .ok edited =>
      if sameIdentity edited ref then
        { a with flights := a.flights ++ [⟨edited, a.reads, .decoded⟩] }
      else a

def get (a : Api) (i : Nat) (f : Flight) : Api :=
  match a.secret.current with
  | none => a.setPhase i f .failed
  | some current => a.setPhase i f (.fetched a.secret.revision current)

def put (server : Server) (ref : ObjectRef) (a : Api) (i : Nat) (f : Flight) (current : Object) :
    Api :=
  let merged := restoreRedactedSecret f.edited current
  if accepts a.secret merged then
    { a.setPhase i f .succeeded with
      secret := a.secret.write (some (server.stored ref merged)) }
  else a.setPhase i f .failed

end Api

def step (server : Server) (ref : ObjectRef) (a : Api) : Event → Option Api
  | .read => some a.read
  | .write secret => some { a with secret := a.secret.write secret }
  | .request manifest => some (a.request server ref manifest)
  | .get i =>
      match a.flights[i]? with
      | some ⟨edited, known, .decoded⟩ => some (a.get i ⟨edited, known, .decoded⟩)
      | _ => none
  | .put i =>
      match a.flights[i]? with
      | some ⟨edited, known, .fetched version current⟩ =>
          some (a.put server ref i ⟨edited, known, .fetched version current⟩ current)
      | _ => none
  | .fail i =>
      match a.flights[i]? with
      | some f => if f.phase.settled then none else some (a.setPhase i f .failed)
      | none => none

def machine (server : Server) (cluster ns name : String) : Machine Api Event where
  init := ⟨.empty, [], []⟩
  step := step server ⟨cluster, "", "Secret", ns, name⟩

/-- What a step does: it touches the Secret, the reads, or one Update. -/
theorem step_cases {server : Server} {ref : ObjectRef} {a a' : Api} {e : Event}
    (h : step server ref a e = some a') :
    (e = .read ∧ a' = a.read) ∨
    (∃ secret, e = .write secret ∧ a' = { a with secret := a.secret.write secret }) ∨
    (∃ manifest, e = .request manifest ∧ a' = a.request server ref manifest) ∨
    (∃ i f, e = .get i ∧ a.flights[i]? = some f ∧ a' = a.get i f) ∨
    (∃ i f version current, e = .put i ∧ a.flights[i]? = some f ∧
      f.phase = .fetched version current ∧ a' = a.put server ref i f current) ∨
    (∃ i f, e = .fail i ∧ a.flights[i]? = some f ∧ a' = a.setPhase i f .failed) := by
  cases e with
  | read => exact .inl ⟨rfl, (Option.some.inj h).symm⟩
  | write secret => exact .inr (.inl ⟨secret, rfl, (Option.some.inj h).symm⟩)
  | request manifest => exact .inr (.inr (.inl ⟨manifest, rfl, (Option.some.inj h).symm⟩))
  | get i =>
      unfold step at h
      dsimp only at h
      split at h
      · exact .inr (.inr (.inr (.inl ⟨i, _, rfl, ‹_›, (Option.some.inj h).symm⟩)))
      · cases h
  | put i =>
      unfold step at h
      dsimp only at h
      split at h
      · exact .inr (.inr (.inr (.inr (.inl ⟨i, _, _, _, rfl, ‹_›, rfl, (Option.some.inj h).symm⟩))))
      · cases h
  | fail i =>
      unfold step at h
      dsimp only at h
      split at h
      · split at h
        · cases h
        · exact .inr (.inr (.inr (.inr (.inr ⟨i, _, rfl, ‹_›, (Option.some.inj h).symm⟩))))
      · cases h

/-! ### What is known of an Update on its way -/

/-- Its Get was served after every read known when it was requested, and returned
what the Secret was then. -/
structure Flight.Sound (secret : Versioned Object) (f : Flight) : Prop where
  known : ∀ r ∈ f.known, r ≤ secret.revision
  fetched : ∀ version current, f.phase = .fetched version current →
    version ≤ secret.revision ∧ secret.valueAt version = some current ∧ ∀ r ∈ f.known, r ≤ version

structure Sound (a : Api) : Prop where
  reads : ∀ r ∈ a.reads, r ≤ a.secret.revision
  flights : ∀ f ∈ a.flights, f.Sound a.secret

theorem Flight.Sound.write {secret : Versioned Object} {f : Flight} (h : f.Sound secret)
    (value : Option Object) : f.Sound (secret.write value) where
  known r hr := by
    have hle := h.known r hr
    rw [Versioned.revision_write]
    omega
  fetched version current hphase := by
    obtain ⟨hle, hvalue, hknown⟩ := h.fetched version current hphase
    rw [Versioned.revision_write, Versioned.valueAt_write_of_le value hle]
    exact ⟨by omega, hvalue, hknown⟩

theorem Sound.write {a : Api} (h : Sound a) (value : Option Object) :
    Sound { a with secret := a.secret.write value } where
  reads r hr := by
    have hle := h.reads r hr
    rw [Versioned.revision_write]
    omega
  flights f hf := (h.flights f hf).write value

theorem Sound.setPhase {a : Api} (h : Sound a) {i : Nat} {f : Flight} (hf : a.flights[i]? = some f)
    {phase : Phase} (hphase : ∀ version current, phase = .fetched version current →
      version = a.secret.revision ∧ a.secret.current = some current) :
    Sound (a.setPhase i f phase) where
  reads := h.reads
  flights g hg := by
    have hsound := h.flights f (List.mem_of_getElem? hf)
    rcases List.mem_or_eq_of_mem_set hg with hold | rfl
    · exact h.flights g hold
    · refine ⟨hsound.known, fun version current hnew => ?_⟩
      obtain ⟨rfl, hcurrent⟩ := hphase version current hnew
      exact ⟨le_refl _, hcurrent, hsound.known⟩

theorem sound_step {server : Server} {ref : ObjectRef} {a a' : Api} {e : Event} (h : Sound a)
    (hstep : step server ref a e = some a') : Sound a' := by
  rcases step_cases hstep with ⟨rfl, rfl⟩ | ⟨secret, rfl, rfl⟩ | ⟨manifest, rfl, rfl⟩ |
    ⟨i, f, rfl, hf, rfl⟩ | ⟨i, f, version, current, rfl, hf, hphase, rfl⟩ | ⟨i, f, rfl, hf, rfl⟩
  · unfold Api.read
    split
    · refine ⟨fun r hr => ?_, h.flights⟩
      rcases List.mem_cons.mp hr with rfl | hold
      · exact le_refl _
      · exact h.reads r hold
    · exact h
  · exact h.write secret
  · unfold Api.request
    split
    · exact h
    · split
      · refine ⟨h.reads, fun f hf => ?_⟩
        rcases List.mem_append.mp hf with hold | hnew
        · exact h.flights f hold
        · obtain rfl := List.mem_singleton.mp hnew
          exact ⟨h.reads, fun _ _ hphase => by cases hphase⟩
      · exact h
  · unfold Api.get
    split
    · exact h.setPhase hf fun _ _ hphase => by cases hphase
    · rename_i current hcurrent
      refine h.setPhase hf fun version' current' hphase => ?_
      cases hphase
      exact ⟨rfl, hcurrent⟩
  · unfold Api.put
    dsimp only
    have hsettled : ∀ {phase : Phase}, phase.settled → Sound (a.setPhase i f phase) := by
      intro phase hdone
      refine h.setPhase hf fun _ _ hnew => ?_
      subst hnew
      cases hdone
    split
    · exact (hsettled rfl : Sound (a.setPhase i f .succeeded)).write _
    · exact hsettled rfl
  · exact h.setPhase hf fun _ _ hphase => by cases hphase

theorem sound_run {server : Server} {cluster ns name : String} {events : List Event} {a : Api}
    (hrun : (machine server cluster ns name).Run Machine.unguarded events a) : Sound a :=
  hrun.invariant (I := Sound) ⟨by simp [machine], by simp [machine]⟩
    fun _ _ _ h _ hstep => sound_step h hstep

/-! ### What an accepted Update writes -/

@[simp] theorem resourceVersion_restore (edited current : Object) :
    resourceVersion (restoreRedactedSecret edited current) = resourceVersion edited := by
  have hfield : (restoreRedactedSecret edited current).lookup "metadata" = edited.lookup "metadata" := by
    unfold restoreRedactedSecret
    dsimp only
    split <;> simp [AList.lookup_insert_ne, AList.lookup_erase_ne]
  simp [resourceVersion, Object.nestedString, Object.nestedField, hfield]

/-- A PUT with the version of a read is taken only while that version is current. -/
theorem revision_of_accepts {secret : Versioned Object} {edited current : Object} {r : Nat}
    (hversion : resourceVersion edited = toString r)
    (h : accepts secret (restoreRedactedSecret edited current)) : secret.revision = r := by
  simp only [accepts, resourceVersion_restore, hversion, Bool.and_eq_true, Bool.or_eq_true,
    decide_eq_true_eq, Text.toString_ne_empty, false_or] at h
  exact (Text.toString_inj h.2).symm

/-- What an Update that succeeds writes over the version it was read at: no write
lies between, and a key that is kept has the value it had then. -/
structure WritesOver (r : Nat) (edited : Object) (before after : Versioned Object) : Prop where
  newest : before.revision = r
  written : ∃ old new, before.valueAt r = some old ∧ after = before.write (some new) ∧
    ∀ key, (edited.fields "stringData").lookup key = some (.str redactedValue) →
      ((secretData new).lookup key = none ∨
        (secretData new).lookup key = (secretData old).lookup key) ∧
      (edited.AllStrings "stringData" →
        (secretData new).lookup key = (secretData old).lookup key)

theorem kept_value (server : Server) (cluster ns name : String) {edited : Object} (old : Object)
    {key : String} (hkey : (edited.fields "stringData").lookup key = some (.str redactedValue)) :
    let new := server.stored ⟨cluster, "", "Secret", ns, name⟩ (restoreRedactedSecret edited old)
    ((secretData new).lookup key = none ∨
        (secretData new).lookup key = (secretData old).lookup key) ∧
      (edited.AllStrings "stringData" →
        (secretData new).lookup key = (secretData old).lookup key) := by
  intro new
  have hsecret : (⟨cluster, "", "Secret", ns, name⟩ : ObjectRef).group = "" ∧
      (⟨cluster, "", "Secret", ns, name⟩ : ObjectRef).kind = "Secret" := ⟨rfl, rfl⟩
  have hnew := lookup_stored_restore server edited old hsecret key
  have hkept : edited.AllStrings "stringData" →
      (secretData new).lookup key = (secretData old).lookup key := by
    intro hall
    rw [hnew, Object.lookup_strings_of_allStrings hall, hkey]
    simp [Json.str?]
  refine ⟨?_, hkept⟩
  by_cases hall : edited.AllStrings "stringData"
  · exact .inr (hkept hall)
  · -- one value that is no string, and nothing is restored at all
    refine .inl ?_
    rw [hnew, Object.strings_of_not_allStrings hall]
    rfl

/-- An Update of a manifest that carries the version of an earlier read writes the
values of that version where it keeps them, and overwrites no later write. -/
theorem update_writesOver (server : Server) (cluster ns name : String) (events : List Event)
    (a a' : Api) (i r : Nat) (f : Flight)
    (hrun : (machine server cluster ns name).Run Machine.unguarded events a)
    (hput : (machine server cluster ns name).step a (.put i) = some a')
    (hf : a.flights[i]? = some f) (hread : r ∈ f.known)
    (hversion : resourceVersion f.edited = toString r)
    (hdone : (a'.flights[i]?).map (·.phase) = some .succeeded) :
    WritesOver r f.edited a.secret a'.secret := by
  have hsound := (sound_run hrun).flights f (List.mem_of_getElem? hf)
  have hstep : step server ⟨cluster, "", "Secret", ns, name⟩ a (.put i) = some a' := hput
  rcases step_cases hstep with ⟨h, -⟩ | ⟨_, h, -⟩ | ⟨_, h, -⟩ | ⟨_, _, h, -⟩ |
    ⟨j, g, version, current, h, hg, hphase, rfl⟩ | ⟨_, _, h, -⟩ <;> cases h
  cases hf.symm.trans hg
  have hlt : i < a.flights.length := (List.getElem?_eq_some_iff.mp hf).1
  by_cases haccepts : accepts a.secret (restoreRedactedSecret f.edited current) = true
  · obtain ⟨hle, hvalue, hknown⟩ := hsound.fetched version current hphase
    have hnewest := revision_of_accepts hversion haccepts
    -- the Get lies between the read and the PUT, which saw the same version
    have hsame : version = r := Nat.le_antisymm (hnewest ▸ hle) (hknown r hread)
    refine ⟨hnewest, current, _, hsame ▸ hvalue, ?_, fun key hkey =>
      kept_value server cluster ns name current hkey⟩
    simp only [Api.put, haccepts, if_true]
  · simp only [Api.put, if_neg haccepts, Api.setPhase] at hdone
    simp [hlt] at hdone

def editedManifest : Object :=
  [⟨"kind", .str "Secret"⟩,
    ⟨"metadata", .obj [("name", .str "db"), ("namespace", .str "shop"),
      ("resourceVersion", .str "1")]⟩,
    ⟨"stringData", .obj [("password", .str redactedValue), ("port", .str "5432")]⟩].toAList

/-- Two Updates of one manifest; the second is still on its way when the first is done. -/
def racingUpdates : List Event :=
  [.write (some storedSecret), .read, .request "", .request "", .get 0, .get 1, .put 0]

theorem update_writesOver_racing :
    ∃ a a', (machine (willingServer editedManifest) "prod" "shop" "db").Run Machine.unguarded
        racingUpdates.dropLast a ∧
      (machine (willingServer editedManifest) "prod" "shop" "db").step a (.put 0) = some a' ∧
      WritesOver 1 editedManifest a.secret a'.secret := by
  have hrun := Machine.run_of_runGuarded (machine (willingServer editedManifest) "prod" "shop" "db")
    Machine.unguarded racingUpdates.dropLast rfl
  exact ⟨_, _, hrun, rfl, update_writesOver _ _ _ _ _ _ _ 0 1 _ hrun rfl rfl
    (by decide) rfl rfl⟩

end Wiremap.Service.SecretConflicts
