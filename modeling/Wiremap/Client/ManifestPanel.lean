import Wiremap.Library.Machine
import Wiremap.Service.Manifests

/-! The resource panel with the manifest that is edited in it, the requests of its hooks, and the
API server with its other writers behind.  The object may change, and the panel be refreshed,
while a draft is open. -/
namespace Wiremap.Client.ManifestPanel

open Wiremap.Kube Wiremap.Library Wiremap.Service.Manifests
open Wiremap.Service.ActionService (ObjectRef Server sameIdentity)
open Wiremap.Service.ResourceService (Api)
open Wiremap.Service.SecretConflicts (resourceVersion accepts)

/-- A resource as it is sent to the page, and what its manifest was printed from. -/
structure Reading where
  version : Nat
  obj : Object
  yaml : String

/-- The request of the effect that runs now; those before it are cancelled. -/
inductive Fetch where
  | sent
  | answered (answer : Except String Reading)
  | settled

/-- `base` is what the draft was taken from. -/
structure ManifestView where
  editing : Bool := false
  draft : String := ""
  saving : Bool := false
  saveError : Option String := none
  base : Option Reading := none

/-- Where an Update is; a Secret is read before it is written. -/
inductive Phase where
  | sent
  | fetched (version : Nat) (current : Object)
  | done (answer : Except String Unit)

structure Save where
  view : Nat
  base : Reading
  draft : String
  phase : Phase := .sent

structure Panel where
  resource : Option Reading := none
  error : Option String := none
  fetch : Fetch := .sent
  /-- How often the tab was opened, each time with a new view. -/
  opened : Nat := 0
  view : Option ManifestView := none
  saves : List Save := []
  store : Versioned Object := .empty

inductive Event where
  /-- Someone else creates, changes or deletes the object. -/
  | write (obj : Option Object)
  /-- An action succeeded, and the resource is fetched again. -/
  | refresh
  | serve
  | fail (message : String)
  | fetched
  | openTab
  | closeTab
  | startEditing
  | setDraft (text : String)
  | cancel
  | save
  /-- The Get of the save at this index. -/
  | get (i : Nat)
  /-- Its PUT, with what the API server makes of the object that is sent. -/
  | put (i : Nat) (stored : Object)
  | refuse (i : Nat) (message : String)
  | saved (i : Nat)

def Save.edited? (server : Server) (ref : ObjectRef) (s : Save) : Option Object :=
  match server.unmarshal s.draft with
  | .ok edited => if sameIdentity edited ref then some edited else none
  | .error _ => none

/-- What the PUT holds, once the Update has got that far. -/
def Save.body? (server : Server) (ref : ObjectRef) (s : Save) : Option Object :=
  (s.edited? server ref).bind fun edited =>
    match s.phase with
    | .sent => if ref.group = "" ∧ ref.kind = "Secret" then none else some edited
    | .fetched _ current => some (merged ref edited current)
    | .done _ => none

namespace Panel

def refresh (p : Panel) : Panel := { p with error := none, fetch := .sent }

def shown? (p : Panel) : Option Reading :=
  match p.error with
  | some _ => none
  | none => p.resource

def setView (p : Panel) (v : ManifestView) : Panel := { p with view := some v }

def setPhase (p : Panel) (i : Nat) (s : Save) (phase : Phase) : Panel :=
  { p with saves := p.saves.set i { s with phase := phase } }

def startEditing (p : Panel) (v : ManifestView) (r : Reading) : Panel :=
  p.setView { v with editing := true, draft := r.yaml, saveError := none, base := some r }

def save (p : Panel) (v : ManifestView) (base : Reading) : Panel :=
  { p.setView { v with saving := true, saveError := none } with
    saves := p.saves ++ [{ view := p.opened, base := base, draft := v.draft }] }

/-- The rest of `save`, which only the view it began in hears of. -/
def saved (p : Panel) (s : Save) (answer : Except String Unit) : Panel :=
  let settle (v : ManifestView) : ManifestView :=
    match answer with
    | .ok () => { v with editing := false, saving := false }
    | .error message => { v with saveError := some message, saving := false }
  let p := if p.opened = s.view then { p with view := p.view.map settle } else p
  match answer with
  | .ok () => p.refresh
  | .error _ => p

end Panel

def step (api : Api) (server : Server) (ref : ObjectRef) (p : Panel) : Event → Option Panel
  | .write obj => some { p with store := p.store.write obj }
  | .refresh => if p.resource.isSome then some p.refresh else none
  | .serve =>
      match p.fetch, p.store.current with
      | .sent, some obj =>
          some { p with
            fetch := .answered <| match api.toYAML (shown ref p.store.revision obj) with
              | .ok yaml => .ok ⟨p.store.revision, obj, yaml⟩
              | .error err => .error err.message }
      | _, _ => none
  | .fail message =>
      match p.fetch with
      | .sent => some { p with fetch := .answered (.error message) }
      | _ => none
  | .fetched =>
      match p.fetch with
      | .answered (.ok r) => some { p with resource := some r, fetch := .settled }
      | .answered (.error message) => some { p with error := some message, fetch := .settled }
      | _ => none
  | .openTab =>
      if p.view.isNone then some { p with view := some {}, opened := p.opened + 1 } else none
  | .closeTab => if p.view.isSome then some { p with view := none } else none
  | .startEditing =>
      match p.view, p.shown? with
      | some v, some r => if v.editing then none else some (p.startEditing v r)
      | _, _ => none
  | .setDraft text =>
      match p.view, p.shown? with
      | some v, some _ => if v.editing then some (p.setView { v with draft := text }) else none
      | _, _ => none
  | .cancel =>
      match p.view, p.shown? with
      | some v, some _ =>
          if v.editing ∧ v.saving = false then some (p.setView { v with editing := false }) else none
      | _, _ => none
  | .save =>
      match p.view, p.shown? with
      | some v, some _ =>
          if v.editing ∧ v.saving = false then v.base.map fun base => p.save v base else none
      | _, _ => none
  | .get i =>
      p.saves[i]?.bind fun s =>
        match s.phase, s.edited? server ref, p.store.current with
        | .sent, some _, some current =>
            if ref.group = "" ∧ ref.kind = "Secret" then
              some (p.setPhase i s (.fetched p.store.revision current))
            else none
        | _, _, _ => none
  | .put i stored =>
      p.saves[i]?.bind fun s =>
        (s.body? server ref).bind fun body =>
          if accepts p.store body then
            some { p.setPhase i s (.done (.ok ())) with store := p.store.write (some stored) }
          else none
  | .refuse i message =>
      p.saves[i]?.bind fun s =>
        match s.phase with
        | .done _ => none
        | _ => some (p.setPhase i s (.done (.error message)))
  | .saved i =>
      p.saves[i]?.bind fun s =>
        match s.phase with
        | .done answer => some ({ p with saves := p.saves.eraseIdx i }.saved s answer)
        | _ => none

def machine (api : Api) (server : Server) (ref : ObjectRef) : Machine Panel Event where
  init := {}
  step := step api server ref

def Admitted (_ : Panel) : Event → Prop
  | .write (some obj) | .put _ obj => HasMetadata obj
  | _ => True

instance (p : Panel) : ∀ e, Decidable (Admitted p e)
  | .write (some obj) | .put _ obj => inferInstanceAs (Decidable (HasMetadata obj))
  | .write none | .refresh | .serve | .fail _ | .fetched | .openTab | .closeTab | .startEditing
  | .setDraft _ | .cancel | .save | .get _ | .refuse _ _ | .saved _ => isTrue trivial

inductive Step (api : Api) (server : Server) (ref : ObjectRef) (p : Panel) :
    Event → Panel → Prop where
  | write (obj : Option Object) :
      Step api server ref p (.write obj) { p with store := p.store.write obj }
  | refresh : p.resource.isSome → Step api server ref p .refresh p.refresh
  | served {obj : Object} {yaml : String} : p.fetch = .sent → p.store.current = some obj →
      api.toYAML (shown ref p.store.revision obj) = .ok yaml →
      Step api server ref p .serve
        { p with fetch := .answered (.ok ⟨p.store.revision, obj, yaml⟩) }
  | unprinted {obj : Object} {err : AppError} : p.fetch = .sent → p.store.current = some obj →
      api.toYAML (shown ref p.store.revision obj) = .error err →
      Step api server ref p .serve { p with fetch := .answered (.error err.message) }
  | fail (message : String) : p.fetch = .sent →
      Step api server ref p (.fail message) { p with fetch := .answered (.error message) }
  | fetched {r : Reading} : p.fetch = .answered (.ok r) →
      Step api server ref p .fetched { p with resource := some r, fetch := .settled }
  | fetchFailed {message : String} : p.fetch = .answered (.error message) →
      Step api server ref p .fetched { p with error := some message, fetch := .settled }
  | openTab : p.view.isNone →
      Step api server ref p .openTab { p with view := some {}, opened := p.opened + 1 }
  | closeTab : p.view.isSome → Step api server ref p .closeTab { p with view := none }
  | startEditing {v : ManifestView} {r : Reading} : p.view = some v → p.shown? = some r →
      v.editing = false → Step api server ref p .startEditing (p.startEditing v r)
  | setDraft (text : String) {v : ManifestView} : p.view = some v → p.shown?.isSome → v.editing →
      Step api server ref p (.setDraft text) (p.setView { v with draft := text })
  | cancel {v : ManifestView} : p.view = some v → p.shown?.isSome →
      v.editing ∧ v.saving = false →
      Step api server ref p .cancel (p.setView { v with editing := false })
  | save {v : ManifestView} {base : Reading} : p.view = some v → p.shown?.isSome →
      v.editing ∧ v.saving = false → v.base = some base →
      Step api server ref p .save (p.save v base)
  | get {i : Nat} {s : Save} {edited current : Object} : p.saves[i]? = some s → s.phase = .sent →
      s.edited? server ref = some edited → p.store.current = some current →
      ref.group = "" ∧ ref.kind = "Secret" →
      Step api server ref p (.get i) (p.setPhase i s (.fetched p.store.revision current))
  | put {i : Nat} (stored : Object) {s : Save} {body : Object} : p.saves[i]? = some s →
      s.body? server ref = some body → accepts p.store body →
      Step api server ref p (.put i stored)
        { p.setPhase i s (.done (.ok ())) with store := p.store.write (some stored) }
  | refuse {i : Nat} (message : String) {s : Save} : p.saves[i]? = some s →
      (∀ answer, s.phase ≠ .done answer) →
      Step api server ref p (.refuse i message) (p.setPhase i s (.done (.error message)))
  | saved {i : Nat} {s : Save} {answer : Except String Unit} : p.saves[i]? = some s →
      s.phase = .done answer →
      Step api server ref p (.saved i) ({ p with saves := p.saves.eraseIdx i }.saved s answer)

section

variable {api : Api} {server : Server} {ref : ObjectRef} {p p' : Panel} {e : Event}

theorem step_inv (h : step api server ref p e = some p') : Step api server ref p e p' := by
  cases e with
  | write obj =>
      obtain rfl := Option.some.inj h
      exact .write obj
  | refresh =>
      obtain ⟨hshown, rfl⟩ := Machine.guarded_eq_some.mp h
      exact .refresh hshown
  | serve =>
      simp only [step] at h
      split at h
      · rename_i obj hsent hcurrent
        cases hyaml : api.toYAML (shown ref p.store.revision obj) with
        | ok yaml =>
            rw [hyaml] at h
            obtain rfl := Option.some.inj h
            exact .served hsent hcurrent hyaml
        | error err =>
            rw [hyaml] at h
            obtain rfl := Option.some.inj h
            exact .unprinted hsent hcurrent hyaml
      · cases h
  | fail message =>
      simp only [step] at h
      split at h
      · obtain rfl := Option.some.inj h
        exact .fail message ‹_›
      · cases h
  | fetched =>
      simp only [step] at h
      split at h
      · obtain rfl := Option.some.inj h
        exact .fetched ‹_›
      · obtain rfl := Option.some.inj h
        exact .fetchFailed ‹_›
      · cases h
  | openTab =>
      obtain ⟨hclosed, rfl⟩ := Machine.guarded_eq_some.mp h
      exact .openTab hclosed
  | closeTab =>
      obtain ⟨hopened, rfl⟩ := Machine.guarded_eq_some.mp h
      exact .closeTab hopened
  | startEditing =>
      simp only [step] at h
      split at h
      · rename_i hview hshown
        obtain ⟨hreading, rfl⟩ := Machine.refused_eq_some.mp h
        exact .startEditing hview hshown (Bool.not_eq_true _ ▸ hreading)
      · cases h
  | setDraft text =>
      simp only [step] at h
      split at h
      · rename_i hview hshown
        obtain ⟨hediting, rfl⟩ := Machine.guarded_eq_some.mp h
        exact .setDraft text hview (Option.isSome_of_eq_some hshown) hediting
      · cases h
  | cancel =>
      simp only [step] at h
      split at h
      · rename_i hview hshown
        obtain ⟨hediting, rfl⟩ := Machine.guarded_eq_some.mp h
        exact .cancel hview (Option.isSome_of_eq_some hshown) hediting
      · cases h
  | save =>
      simp only [step] at h
      split at h
      · rename_i hview hshown
        split at h
        · obtain ⟨base, hbase, rfl⟩ := Option.map_eq_some_iff.mp h
          exact .save hview (Option.isSome_of_eq_some hshown) ‹_› hbase
        · cases h
      · cases h
  | get i =>
      obtain ⟨s, hs, h⟩ := Option.bind_eq_some_iff.mp h
      split at h
      · rename_i hsent hedited hcurrent
        obtain ⟨hsecret, rfl⟩ := Machine.guarded_eq_some.mp h
        exact .get hs hsent hedited hcurrent hsecret
      · cases h
  | put i stored =>
      obtain ⟨s, hs, h⟩ := Option.bind_eq_some_iff.mp h
      obtain ⟨body, hbody, h⟩ := Option.bind_eq_some_iff.mp h
      obtain ⟨haccepts, rfl⟩ := Machine.guarded_eq_some.mp h
      exact .put stored hs hbody haccepts
  | refuse i message =>
      obtain ⟨s, hs, h⟩ := Option.bind_eq_some_iff.mp h
      split at h
      · cases h
      · rename_i hrunning
        obtain rfl := Option.some.inj h
        exact .refuse message hs hrunning
  | saved i =>
      obtain ⟨s, hs, h⟩ := Option.bind_eq_some_iff.mp h
      split at h
      · obtain rfl := Option.some.inj h
        exact .saved hs ‹_›
      · cases h

end

/-! ### What the panel holds is what was stored -/

section

variable {api : Api} {server : Server} {ref : ObjectRef}

structure Genuine (api : Api) (ref : ObjectRef) (store : Versioned Object) (r : Reading) : Prop where
  version : r.version ≤ store.revision
  stored : store.valueAt r.version = some r.obj
  printed : api.toYAML (shown ref r.version r.obj) = .ok r.yaml

/-- The draft was taken from what was stored, before the Get of its Update. -/
structure Save.Sound (api : Api) (ref : ObjectRef) (store : Versioned Object) (s : Save) : Prop where
  base : Genuine api ref store s.base
  fetched : ∀ version current, s.phase = .fetched version current →
    s.base.version ≤ version ∧ version ≤ store.revision ∧ store.valueAt version = some current

structure Sound (api : Api) (ref : ObjectRef) (p : Panel) : Prop where
  metadata : ∀ version obj, p.store.valueAt version = some obj → HasMetadata obj
  resource : ∀ r ∈ p.resource, Genuine api ref p.store r
  fetch : ∀ r, p.fetch = .answered (.ok r) → Genuine api ref p.store r
  base : ∀ v ∈ p.view, ∀ r ∈ v.base, Genuine api ref p.store r
  saves : ∀ s ∈ p.saves, s.Sound api ref p.store

variable {p p' : Panel} {store : Versioned Object} {r : Reading} {s : Save} {i : Nat}

theorem Genuine.write (h : Genuine api ref store r) (value : Option Object) :
    Genuine api ref (store.write value) r where
  version := Nat.le_trans h.version (by simp)
  stored := (Versioned.valueAt_write_of_le value h.version).trans h.stored
  printed := h.printed

theorem Save.Sound.write (h : s.Sound api ref store) (value : Option Object) :
    s.Sound api ref (store.write value) where
  base := h.base.write value
  fetched version current hphase := by
    obtain ⟨hbase, hversion, hcurrent⟩ := h.fetched version current hphase
    exact ⟨hbase, Nat.le_trans hversion (by simp),
      (Versioned.valueAt_write_of_le value hversion).trans hcurrent⟩

theorem Sound.write (h : Sound api ref p) {value : Option Object}
    (hvalue : ∀ obj ∈ value, HasMetadata obj) :
    Sound api ref { p with store := p.store.write value } where
  metadata version obj hobj := by
    rcases Versioned.valueAt_write_cases hobj with hold | hnew
    · exact h.metadata version obj hold
    · exact hvalue obj hnew
  resource r hr := (h.resource r hr).write value
  fetch r hr := (h.fetch r hr).write value
  base v hv r hr := (h.base v hv r hr).write value
  saves s hs := (h.saves s hs).write value

theorem Sound.setPhase (h : Sound api ref p) (hs : p.saves[i]? = some s) {phase : Phase}
    (hphase : ∀ version current, phase = .fetched version current →
      version = p.store.revision ∧ p.store.current = some current) :
    Sound api ref (p.setPhase i s phase) where
  metadata := h.metadata
  resource := h.resource
  fetch := h.fetch
  base := h.base
  saves t ht := by
    have hsound := h.saves s (List.mem_of_getElem? hs)
    rcases List.mem_or_eq_of_mem_set ht with hold | rfl
    · exact h.saves t hold
    · refine ⟨hsound.base, fun version current hnew => ?_⟩
      obtain ⟨rfl, hcurrent⟩ := hphase version current hnew
      exact ⟨hsound.base.version, Nat.le_refl _, hcurrent⟩

theorem Sound.setView (h : Sound api ref p) {v : ManifestView}
    (hv : ∀ r ∈ v.base, Genuine api ref p.store r) : Sound api ref (p.setView v) := by
  refine { h with base := fun v' hv' => ?_ }
  obtain rfl := Option.some.inj hv'
  exact hv

theorem Sound.refresh (h : Sound api ref p) : Sound api ref p.refresh :=
  { h with fetch := nofun }

theorem resource_of_shown (h : p.shown? = some r) : p.resource = some r := by
  unfold Panel.shown? at h
  split at h
  · cases h
  · exact h

theorem Sound.saved (h : Sound api ref p) (s : Save) (answer : Except String Unit) :
    Sound api ref (p.saved s answer) := by
  have hsettled : ∀ settle : ManifestView → ManifestView, (∀ v, (settle v).base = v.base) →
      Sound api ref { p with view := p.view.map settle } := by
    intro settle hsettle
    refine { h with base := fun v hv r hr => ?_ }
    obtain ⟨old, hold, rfl⟩ := Option.map_eq_some_iff.mp hv
    exact h.base old hold r (hsettle old ▸ hr)
  unfold Panel.saved
  cases answer with
  | ok =>
      refine Sound.refresh ?_
      split
      · exact hsettled _ fun _ => rfl
      · exact h
  | error message =>
      dsimp only
      split
      · exact hsettled _ fun _ => rfl
      · exact h

theorem body_cases {body : Object} (h : s.body? server ref = some body) :
    ∃ edited, s.edited? server ref = some edited ∧
      ((s.phase = .sent ∧ ¬(ref.group = "" ∧ ref.kind = "Secret") ∧ body = edited) ∨
        ∃ version current, s.phase = .fetched version current ∧ body = merged ref edited current) := by
  obtain ⟨edited, hedited, h⟩ := Option.bind_eq_some_iff.mp h
  refine ⟨edited, hedited, ?_⟩
  split at h
  · rename_i hphase
    split at h
    · cases h
    · exact .inl ⟨hphase, ‹_›, (Option.some.inj h).symm⟩
  · rename_i version current hphase
    exact .inr ⟨version, current, hphase, (Option.some.inj h).symm⟩
  · cases h

theorem sound_step {e : Event} (h : Sound api ref p)
    (hadmitted : Admitted p e) (hstep : step api server ref p e = some p') : Sound api ref p' := by
  cases step_inv hstep with
  | write obj =>
      refine h.write fun new hnew => ?_
      cases obj with
      | none => cases hnew
      | some obj =>
          obtain rfl := Option.some.inj hnew
          exact hadmitted
  | refresh _ => exact h.refresh
  | served _ hcurrent hyaml =>
      refine { h with fetch := fun r hr => ?_ }
      cases hr
      exact ⟨Nat.le_refl _, hcurrent, hyaml⟩
  | unprinted _ _ _ | fail _ _ | fetchFailed _ => exact { h with fetch := nofun }
  | fetched hr =>
      refine { h with fetch := nofun, resource := fun r' hr' => ?_ }
      obtain rfl := Option.some.inj hr'
      exact h.fetch _ hr
  | openTab _ =>
      refine { h with base := fun v hv r hr => ?_ }
      obtain rfl := Option.some.inj hv
      cases hr
  | closeTab _ => exact { h with base := nofun }
  | startEditing hv hr _ =>
      refine h.setView fun r' hr' => ?_
      obtain rfl := Option.some.inj hr'
      exact h.resource _ (resource_of_shown hr)
  | setDraft _ hv _ _ | cancel hv _ _ => exact h.setView fun r hr => h.base _ hv r hr
  | @save v base hv _ _ hbase =>
      have hview : Sound api ref (p.setView { v with saving := true, saveError := none }) :=
        h.setView (h.base v hv)
      refine { hview with saves := fun s hs => ?_ }
      rcases List.mem_append.mp hs with hold | hnew
      · exact h.saves s hold
      · obtain rfl := List.mem_singleton.mp hnew
        exact ⟨h.base v hv base hbase, fun _ _ hphase => by cases hphase⟩
  | get hs _ _ hcurrent _ =>
      refine h.setPhase hs fun version current hnew => ?_
      cases hnew
      exact ⟨rfl, hcurrent⟩
  | put stored hs _ _ =>
      have hdone := h.setPhase hs fun _ _ (hphase : Phase.done (.ok ()) = _) => by cases hphase
      refine hdone.write fun obj hobj => ?_
      obtain rfl := Option.some.inj hobj
      exact hadmitted
  | refuse _ hs _ => exact h.setPhase hs fun _ _ hphase => by cases hphase
  | @saved i s answer _ _ =>
      have hrest : Sound api ref { p with saves := p.saves.eraseIdx i } :=
        { h with saves := fun t ht => h.saves t (List.mem_of_mem_eraseIdx ht) }
      exact hrest.saved s answer

theorem sound_run {events : List Event}
    (hrun : (machine api server ref).Run Admitted events p) : Sound api ref p := by
  refine hrun.invariant (I := Sound api ref) ?_ fun _ _ _ h hguard hs => sound_step h hguard hs
  constructor
  · intro version obj hobj
    cases version <;> simp [machine, Versioned.empty, Versioned.valueAt] at hobj
  · simp [machine]
  · simp [machine]
  · simp [machine]
  · simp [machine]

/-! ### What a save writes over -/

/-- A save that is taken finds what its draft was taken from, and sends what the draft makes of
that; what was left alone in the draft is as it is stored. -/
structure Over (server : Server) (ref : ObjectRef) (s : Save) (edited body : Object)
    (store : Versioned Object) : Prop where
  newest : store.revision = s.base.version
  current : store.current = some s.base.obj
  sent : body = merged ref edited s.base.obj
  kept : Kept ref (shown ref s.base.version s.base.obj) edited s.base.obj (server.stored ref body)

theorem store_saved (p : Panel) (s : Save) (answer : Except String Unit) :
    (p.saved s answer).store = p.store := by
  unfold Panel.saved
  cases answer <;> dsimp only <;> split <;> rfl

theorem store_step {e : Event} (hstep : step api server ref p e = some p') :
    p'.store = p.store ∨ (∃ obj, e = .write obj) ∨ ∃ i stored, e = .put i stored := by
  cases step_inv hstep with
  | write obj => exact .inr (.inl ⟨obj, rfl⟩)
  | put stored _ _ _ => exact .inr (.inr ⟨_, stored, rfl⟩)
  | saved _ _ => exact .inl (store_saved _ _ _)
  | _ => exact .inl rfl

theorem resourceVersion_merged (edited current : Object) :
    resourceVersion (merged ref edited current) = resourceVersion edited := by
  unfold merged
  split
  · exact Service.SecretConflicts.resourceVersion_restore edited current
  · rfl

theorem revision_of_accepts {body : Object} {version : Nat}
    (hversion : resourceVersion body = toString version) (h : accepts store body) :
    store.revision = version := by
  simp only [accepts, hversion, Bool.and_eq_true, Bool.or_eq_true, decide_eq_true_eq,
    Text.toString_ne_empty, false_or] at h
  exact (Text.toString_inj h.2).symm

theorem over_of_accepts {edited body : Object} (h : Sound api ref p) (hs : p.saves[i]? = some s)
    (hcases : (s.phase = .sent ∧ ¬(ref.group = "" ∧ ref.kind = "Secret") ∧ body = edited) ∨
      ∃ version current, s.phase = .fetched version current ∧ body = merged ref edited current)
    (haccepts : accepts p.store body)
    (hversion : resourceVersion edited = toString s.base.version) :
    Over server ref s edited body p.store := by
  have hsound := h.saves s (List.mem_of_getElem? hs)
  have hstored := hsound.base.stored
  have hsent : resourceVersion body = toString s.base.version := by
    rcases hcases with ⟨-, -, rfl⟩ | ⟨version, current, -, rfl⟩
    · exact hversion
    · rw [resourceVersion_merged, hversion]
  have hnewest := revision_of_accepts hsent haccepts
  have hmerged : body = merged ref edited s.base.obj := by
    rcases hcases with ⟨-, hother, rfl⟩ | ⟨version, current, hphase, rfl⟩
    · exact (if_neg hother).symm
    · -- the Get lies between what was shown and the PUT, which saw the same version
      obtain ⟨hfrom, hto, hcurrent⟩ := hsound.fetched version current hphase
      have hsame : version = s.base.version := Nat.le_antisymm (hnewest ▸ hto) hfrom
      rw [hsame, hstored] at hcurrent
      rw [Option.some.inj hcurrent]
  refine ⟨hnewest, ?_, hmerged, hmerged ▸ kept server ref _ (h.metadata _ _ hstored) edited⟩
  rw [Versioned.current, hnewest, hstored]

theorem put_over {stored : Object} (h : Sound api ref p)
    (hstep : step api server ref p (.put i stored) = some p') :
    ∃ s edited body, p.saves[i]? = some s ∧ Genuine api ref p.store s.base ∧
      s.edited? server ref = some edited ∧ s.body? server ref = some body ∧
      p'.store = p.store.write (some stored) ∧
      (resourceVersion edited = toString s.base.version → Over server ref s edited body p.store) := by
  cases step_inv hstep with
  | put _ hs hbody haccepts =>
      obtain ⟨edited, hedited, hcases⟩ := body_cases hbody
      exact ⟨_, edited, _, hs, (h.saves _ (List.mem_of_getElem? hs)).base, hedited, hbody, rfl,
        over_of_accepts h hs hcases haccepts⟩

end

/-! ### A setting that is changed -/

def settingsRef : ObjectRef := ⟨"prod", "", "ConfigMap", "shop", "settings"⟩

def settings : Object :=
  [⟨"kind", .str "ConfigMap"⟩, ⟨"data", .obj [("mode", .str "slow")]⟩,
    ⟨"metadata", .obj [("name", .str "settings"), ("namespace", .str "shop")]⟩].toAList

def settingsYaml (mode : String) : String :=
  "data:\n  mode: " ++ mode ++ "\nkind: ConfigMap\nmetadata:\n  name: settings\n" ++
    "  namespace: shop\n  resourceVersion: \"1\"\n"

def fastSettings : Object :=
  [⟨"data", .obj [("mode", .str "fast")]⟩, ⟨"kind", .str "ConfigMap"⟩,
    ⟨"metadata", .obj [("name", .str "settings"), ("namespace", .str "shop"),
      ("resourceVersion", .str "1")]⟩].toAList

def settingsApi : Api where
  encode _ := ∅
  marshal _ := .ok (settingsYaml "slow")
  events _ _ _ := .ok []

def settingsServer : Server where
  unmarshal text := if text = settingsYaml "fast" then .ok fastSettings else .error "not YAML"
  encode := id
  client := none
  getErr := none
  updateErr := none

/-- The panel is refreshed while the draft is open. -/
def changedSettings : List Event :=
  [.write (some settings), .serve, .fetched, .openTab, .startEditing, .refresh,
    .setDraft (settingsYaml "fast"), .save, .serve]

end Wiremap.Client.ManifestPanel
