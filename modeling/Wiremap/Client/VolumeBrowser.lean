import Wiremap.Library.Machine

/-! The files of a container, opened, edited and saved.  A save goes on while the user does other
things, and its answer puts the saved file back on the screen. -/
namespace Wiremap.Client.VolumeBrowser

open Wiremap.Library

structure FileEntry where
  name : String
  path : String
  isDir : Bool
  size : Nat
  permissions : String
  deriving DecidableEq

structure FileContent where
  path : String
  content : String
  binary : Bool
  size : Nat
  deriving DecidableEq

structure Save where
  file : FileContent
  text : String
  written : Bool
  deriving DecidableEq

/-- `files` is what the container holds, under the paths of its files.  `loadedFrom` is history:
the file whose text went into the editor. -/
structure Browser where
  files : String → String
  currentPath : Option String := none
  entries : List FileEntry := []
  loading : Bool := false
  fileContent : Option FileContent := none
  editedContent : Option String := none
  loadedFrom : Option String := none
  fileLoading : Bool := false
  saving : Bool := false
  saveStatus : Option String := none
  navigations : List String := []
  opens : List String := []
  saves : List Save := []

inductive Event where
  | navigateTo (path : String)
  | listed (i : Nat) (result : Except Unit (List FileEntry))
  | openFile (path : String)
  | opened (i : Nat) (result : Except Unit FileContent)
  | setEditedContent (text : String)
  | saveFile
  /-- The server has written what it was asked to. -/
  | written (i : Nat)
  | saved (i : Nat) (ok : Bool)
  | statusTimeout
  | closeFile

namespace Browser

def isDirty (s : Browser) : Bool :=
  match s.editedContent, s.fileContent with
  | some text, some file => text ≠ file.content
  | _, _ => false

def navigateTo (s : Browser) (path : String) : Browser :=
  { s with
    loading := true
    fileContent := none
    editedContent := none
    saveStatus := none
    navigations := s.navigations ++ [path] }

def listed (s : Browser) (path : String) : Except Unit (List FileEntry) → Browser
  | .ok entries => { s with entries := entries, currentPath := some path, loading := false }
  | .error () => { s with entries := [], loading := false }

def openFile (s : Browser) (path : String) : Browser :=
  { s with fileLoading := true, saveStatus := none, opens := s.opens ++ [path] }

def opened (s : Browser) : Except Unit FileContent → Browser
  | .ok data =>
      { s with
        fileContent := some data
        editedContent := some data.content
        loadedFrom := some data.path
        fileLoading := false }
  | .error () => { s with fileContent := none, editedContent := none, fileLoading := false }

def saveFile (s : Browser) : Browser :=
  match s.fileContent, s.editedContent with
  | some file, some text =>
      { s with saving := true, saveStatus := none, saves := s.saves ++ [⟨file, text, false⟩] }
  | _, _ => s

/-- The rest of `saveFile`, with the file and the text it began with. -/
def saved (s : Browser) (save : Save) (ok : Bool) : Browser :=
  if ok then
    { s with
      fileContent := some { save.file with content := save.text }
      saveStatus := some "Saved"
      saving := false }
  else { s with saveStatus := some "Failed to save", saving := false }

def closeFile (s : Browser) : Browser :=
  { s with fileContent := none, editedContent := none, saveStatus := none }

end Browser

/-- What is on the screen decides what can be clicked: a file hides the directories, and only a
text that has changed can be saved, once at a time. -/
def step (s : Browser) : Event → Option Browser
  | .navigateTo path => if s.fileContent = none then some (s.navigateTo path) else none
  | .listed i result =>
      s.navigations[i]?.map fun path =>
        { s with navigations := s.navigations.eraseIdx i }.listed path result
  | .openFile path =>
      if s.fileContent = none ∧ s.currentPath ≠ none then some (s.openFile path) else none
  | .opened i result =>
      s.opens[i]?.map fun _ => { s with opens := s.opens.eraseIdx i }.opened result
  | .setEditedContent text =>
      if ∃ file ∈ s.fileContent, file.binary = false then some { s with editedContent := some text }
      else none
  | .saveFile => if s.isDirty ∧ s.saving = false then some s.saveFile else none
  | .written i =>
      s.saves[i]?.bind fun save =>
        if save.written then none
        else
          some { s with
            files := Function.update s.files save.file.path save.text
            saves := s.saves.set i { save with written := true } }
  | .saved i ok =>
      s.saves[i]?.bind fun save =>
        if ok ∧ save.written = false then none
        else some ({ s with saves := s.saves.eraseIdx i }.saved save ok)
  | .statusTimeout => some { s with saveStatus := none }
  | .closeFile => if s.fileContent = none then none else some s.closeFile

def machine (files : String → String) : Machine Browser Event where
  init := { files := files }
  step := step

/-- A read answers with what the file holds, and a save that fails has written nothing. -/
def Honest (s : Browser) : Event → Prop
  | .opened i (.ok data) => s.opens[i]? = some data.path ∧ data.content = s.files data.path
  | .saved i false => ∀ save ∈ s.saves[i]?, save.written = false
  | _ => True

/-- A save is answered while its file is still open, or open again. -/
def StillOpen (s : Browser) : Event → Prop
  | .saved i true => ∀ save ∈ s.saves[i]?, s.fileContent.map FileContent.path = some save.file.path
  | _ => True

instance (s : Browser) : ∀ e, Decidable (Honest s e)
  | .opened i (.ok data) => inferInstanceAs
      (Decidable (s.opens[i]? = some data.path ∧ data.content = s.files data.path))
  | .saved i false => inferInstanceAs (Decidable (∀ save ∈ s.saves[i]?, save.written = false))
  | .opened _ (.error _) | .saved _ true => isTrue trivial
  | .navigateTo _ | .listed _ _ | .openFile _ | .setEditedContent _ | .saveFile | .written _
  | .statusTimeout | .closeFile => isTrue trivial

instance (s : Browser) : ∀ e, Decidable (StillOpen s e)
  | .saved i true => inferInstanceAs (Decidable
      (∀ save ∈ s.saves[i]?, s.fileContent.map FileContent.path = some save.file.path))
  | .saved _ false => isTrue trivial
  | .navigateTo _ | .listed _ _ | .openFile _ | .opened _ _ | .setEditedContent _ | .saveFile
  | .written _ | .statusTimeout | .closeFile => isTrue trivial

/-- The editor holds the text of the file named above it, as the user has left it; and while no
save is under way the file holds what the browser takes it to hold. -/
structure Faithful (s : Browser) : Prop where
  edits : ∀ file ∈ s.fileContent, s.editedContent ≠ none ∧ s.loadedFrom = some file.path
  stored : s.saving = false → ∀ file ∈ s.fileContent, s.files file.path = file.content

structure Sound (s : Browser) : Prop where
  single : s.saves.length = if s.saving then 1 else 0
  edits : ∀ file ∈ s.fileContent, s.editedContent ≠ none ∧ s.loadedFrom = some file.path
  closed : s.fileContent = none → s.editedContent = none
  written : ∀ save ∈ s.saves, save.written → s.files save.file.path = save.text
  stored : ∀ file ∈ s.fileContent, s.files file.path = file.content ∨
    ∃ save ∈ s.saves, save.written ∧ save.file.path = file.path

theorem Sound.faithful {s : Browser} (h : Sound s) : Faithful s where
  edits := h.edits
  stored hsaving file hfile := by
    refine (h.stored file hfile).resolve_right ?_
    rintro ⟨save, hsave, -⟩
    have hnone : s.saves = [] := by simpa [hsaving] using h.single
    rw [hnone] at hsave
    cases hsave

/-- There is one save at most, so it is the one that is written or answered. -/
theorem Sound.only {s : Browser} (h : Sound s) {i : Nat} {save : Save} (hsave : s.saves[i]? = some save) :
    i = 0 ∧ s.saves = [save] ∧ s.saving = true := by
  have hlt := (List.getElem?_eq_some_iff.mp hsave).1
  cases hsaving : s.saving with
  | false =>
      have hsingle := h.single
      simp [hsaving] at hsingle
      simp [hsingle] at hlt
  | true =>
      have hlength : s.saves.length = 1 := by simpa [hsaving] using h.single
      obtain ⟨only, honly⟩ := List.length_eq_one_iff.mp hlength
      have hi : i = 0 := by omega
      subst hi
      rw [honly] at hsave ⊢
      obtain rfl := Option.some.inj hsave
      exact ⟨rfl, rfl, rfl⟩

theorem Sound.shut {s s' : Browser} (h : Sound s) (hfile : s'.fileContent = none)
    (hedited : s'.editedContent = none) (hfiles : s'.files = s.files) (hsaves : s'.saves = s.saves)
    (hsaving : s'.saving = s.saving) : Sound s' where
  single := by rw [hsaves, hsaving, h.single]
  edits file hmem := by
    rw [hfile] at hmem
    cases hmem
  closed _ := hedited
  written save hsave hwritten := by
    rw [hfiles]
    exact h.written save (hsaves ▸ hsave) hwritten
  stored file hmem := by
    rw [hfile] at hmem
    cases hmem

theorem Sound.aside {s s' : Browser} (h : Sound s) (hfile : s'.fileContent = s.fileContent)
    (hedited : s'.editedContent = s.editedContent) (hloaded : s'.loadedFrom = s.loadedFrom)
    (hfiles : s'.files = s.files) (hsaves : s'.saves = s.saves) (hsaving : s'.saving = s.saving) :
    Sound s' := by
  constructor
  · rw [hsaves, hsaving, h.single]
  · rw [hfile, hedited, hloaded]
    exact h.edits
  · rw [hfile, hedited]
    exact h.closed
  · rw [hsaves, hfiles]
    exact h.written
  · rw [hfile, hfiles, hsaves]
    exact h.stored

theorem Sound.opened {s : Browser} (h : Sound s) {data : FileContent}
    (hread : data.content = s.files data.path) : Sound (s.opened (.ok data)) where
  single := h.single
  edits file hfile := by
    cases hfile
    exact ⟨by simp [Browser.opened], rfl⟩
  closed hnone := by cases hnone
  written := h.written
  stored file hfile := by
    cases hfile
    exact .inl hread.symm

theorem Sound.saveFile {s : Browser} (h : Sound s) (hdirty : s.isDirty) (hsaving : s.saving = false) :
    Sound s.saveFile := by
  have hnone : s.saves = [] := by simpa [hsaving] using h.single
  unfold Browser.isDirty at hdirty
  split at hdirty
  · rename_i text file hedited hfile
    have hsave : s.saveFile =
        { s with saving := true, saveStatus := none, saves := [⟨file, text, false⟩] } := by
      simp [Browser.saveFile, hfile, hedited, hnone]
    rw [hsave]
    refine ⟨rfl, h.edits, h.closed, ?_, fun other hother => ?_⟩
    · intro save hmem hwritten
      rw [List.mem_singleton.mp hmem] at hwritten
      cases hwritten
    · refine .inl ((h.stored other hother).resolve_right ?_)
      rintro ⟨save, hmem, -⟩
      rw [hnone] at hmem
      cases hmem
  · cases hdirty

theorem Sound.write {s : Browser} (h : Sound s) {i : Nat} {save : Save} (hsave : s.saves[i]? = some save)
    (hfresh : save.written = false) :
    Sound { s with
      files := Function.update s.files save.file.path save.text
      saves := s.saves.set i { save with written := true } } := by
  obtain ⟨rfl, honly, hsaving⟩ := h.only hsave
  have hset : s.saves.set 0 { save with written := true } = [{ save with written := true }] := by
    rw [honly]
    rfl
  rw [hset]
  refine ⟨by simp [hsaving], h.edits, h.closed, fun other hother _ => ?_, fun file hfile => ?_⟩
  · obtain rfl := List.mem_singleton.mp hother
    simp
  · by_cases hpath : file.path = save.file.path
    · exact .inr ⟨_, List.mem_singleton_self _, rfl, hpath.symm⟩
    · refine .inl ?_
      have hstored := (h.stored file hfile).resolve_right (by
        rintro ⟨other, hother, hwritten, -⟩
        rw [honly, List.mem_singleton] at hother
        rw [hother, hfresh] at hwritten
        cases hwritten)
      simpa [hpath] using hstored

theorem Sound.saved {s : Browser} (h : Sound s) {i : Nat} {save : Save} (hsave : s.saves[i]? = some save)
    (hwritten : save.written)
    (hopen : s.fileContent.map FileContent.path = some save.file.path) :
    Sound ({ s with saves := s.saves.eraseIdx i }.saved save true) := by
  obtain ⟨rfl, honly, hsaving⟩ := h.only hsave
  have herase : s.saves.eraseIdx 0 = [] := by
    rw [honly]
    rfl
  rw [herase]
  obtain ⟨file, hfile, hpath⟩ := Option.map_eq_some_iff.mp hopen
  obtain ⟨hedited, hloaded⟩ := h.edits file hfile
  refine ⟨rfl, fun other hother => ?_, fun hnone => ?_, by simp [Browser.saved], fun other hother => ?_⟩
  · cases hother
    exact ⟨hedited, hloaded.trans (congrArg some hpath)⟩
  · cases hnone
  · cases hother
    exact .inl (h.written save (List.mem_of_getElem? hsave) hwritten)

theorem Sound.unsaved {s : Browser} (h : Sound s) {i : Nat} {save : Save} (hsave : s.saves[i]? = some save)
    (hfresh : save.written = false) :
    Sound ({ s with saves := s.saves.eraseIdx i }.saved save false) := by
  obtain ⟨rfl, honly, hsaving⟩ := h.only hsave
  have herase : s.saves.eraseIdx 0 = [] := by
    rw [honly]
    rfl
  rw [herase]
  refine ⟨rfl, h.edits, h.closed, by simp [Browser.saved], fun file hfile => .inl ?_⟩
  refine (h.stored file hfile).resolve_right ?_
  rintro ⟨other, hother, hwritten, -⟩
  rw [honly, List.mem_singleton] at hother
  rw [hother, hfresh] at hwritten
  cases hwritten

theorem Sound.step {s s' : Browser} {e : Event} (h : Sound s) (hhonest : Honest s e)
    (hopen : StillOpen s e) (hstep : step s e = some s') : Sound s' := by
  cases e with
  | navigateTo path =>
      obtain ⟨-, rfl⟩ := Machine.guarded_eq_some.mp hstep
      exact h.shut rfl rfl rfl rfl rfl
  | listed i result =>
      obtain ⟨path, -, rfl⟩ := Option.map_eq_some_iff.mp hstep
      cases result with
      | ok entries => exact h.aside rfl rfl rfl rfl rfl rfl
      | error err => exact h.aside rfl rfl rfl rfl rfl rfl
  | openFile path =>
      obtain ⟨-, rfl⟩ := Machine.guarded_eq_some.mp hstep
      exact h.aside rfl rfl rfl rfl rfl rfl
  | opened i result =>
      obtain ⟨path, -, rfl⟩ := Option.map_eq_some_iff.mp hstep
      have hrest : Sound { s with opens := s.opens.eraseIdx i } := h.aside rfl rfl rfl rfl rfl rfl
      cases result with
      | ok data => exact hrest.opened hhonest.2
      | error err => exact h.shut rfl rfl rfl rfl rfl
  | setEditedContent text =>
      obtain ⟨⟨file, hfile, -⟩, rfl⟩ := Machine.guarded_eq_some.mp hstep
      refine ⟨h.single, fun other hother => ⟨by simp, (h.edits other hother).2⟩, fun hnone => ?_,
        h.written, h.stored⟩
      have hopened : s.fileContent = none := hnone
      rw [hopened] at hfile
      cases hfile
  | saveFile =>
      obtain ⟨⟨hdirty, hsaving⟩, rfl⟩ := Machine.guarded_eq_some.mp hstep
      exact h.saveFile hdirty hsaving
  | written i =>
      obtain ⟨save, hsave, hrest⟩ := Option.bind_eq_some_iff.mp hstep
      obtain ⟨hfresh, rfl⟩ := Machine.refused_eq_some.mp hrest
      exact h.write hsave (Bool.not_eq_true _ ▸ hfresh)
  | saved i ok =>
      obtain ⟨save, hsave, hrest⟩ := Option.bind_eq_some_iff.mp hstep
      obtain ⟨hdone, rfl⟩ := Machine.refused_eq_some.mp hrest
      cases ok with
      | true => exact h.saved hsave (by simpa using hdone) (hopen save hsave)
      | false => exact h.unsaved hsave (hhonest save hsave)
  | statusTimeout =>
      obtain rfl := Option.some.inj hstep
      exact h.aside rfl rfl rfl rfl rfl rfl
  | closeFile =>
      obtain ⟨-, rfl⟩ := Machine.refused_eq_some.mp hstep
      exact h.shut rfl rfl rfl rfl rfl

/-- A save that is answered when its file is not open puts its name over another text, or over
none. -/
theorem stillOpen_of_faithful {s s' : Browser} {e : Event} (h : Sound s)
    (hstep : step s e = some s') (hfaithful : Faithful s') : StillOpen s e := by
  unfold StillOpen
  split
  · rename_i i
    intro save hsave
    obtain ⟨save', hsave', hrest⟩ := Option.bind_eq_some_iff.mp hstep
    obtain rfl := Option.some.inj (hsave.symm.trans hsave')
    obtain ⟨-, rfl⟩ := Machine.refused_eq_some.mp hrest
    obtain ⟨hedited, hloaded⟩ := hfaithful.edits { save.file with content := save.text } rfl
    cases hfile : s.fileContent with
    | none => exact absurd (h.closed hfile) hedited
    | some file => 
        have hfrom : s.loadedFrom = some file.path := (h.edits file hfile).2
        exact hfrom.symm.trans hloaded
  · trivial

theorem sound_init (files : String → String) : Sound (machine files).init :=
  ⟨rfl, by simp [machine], fun _ => rfl, by simp [machine], by simp [machine]⟩

/-- Among the runs in which reads are current and failed saves have written nothing: the editor
never holds the text of a file under the name of another, nor takes for stored what is not,
exactly when every save is answered while its file is open. -/
theorem browser_faithful_iff (files : String → String) (events : List Event) (s : Browser)
    (hrun : (machine files).Run Honest events s) :
    (∀ before after t, events = before ++ after → (machine files).Run Honest before t → Faithful t) ↔
      (machine files).Run (fun s e => Honest s e ∧ StillOpen s e) events s := by
  refine Machine.Run.always_iff_of (sound_init files).faithful ?_ hrun
  intro es t e t' hpast hhonest hstep
  have hsound : Sound t := hpast.invariant (I := Sound) (sound_init files)
    fun _ _ _ h hguard hs => h.step hguard.1 hguard.2 hs
  constructor
  · intro hopen
    exact (hsound.step hhonest hopen hstep).faithful
  · intro hfaithful
    exact stillOpen_of_faithful hsound hstep hfaithful

/-! ### Sessions -/

def etcFiles (path : String) : String := if path = "/etc/app.conf" then "debug=0" else "hello"

def changedSetting : List Event :=
  [.navigateTo "/etc", .listed 0 (.ok [⟨"app.conf", "/etc/app.conf", false, 7, "-rw-r--r--"⟩]),
    .openFile "/etc/app.conf", .opened 0 (.ok ⟨"/etc/app.conf", "debug=0", false, 7⟩),
    .setEditedContent "debug=1", .saveFile, .written 0]

theorem browser_faithful_changedSetting :
    ∃ s, (machine etcFiles).Run Honest (changedSetting ++ [.saved 0 true]) s ∧
      s.files "/etc/app.conf" = "debug=1" ∧
      ∀ before after t, changedSetting ++ [.saved 0 true] = before ++ after →
        (machine etcFiles).Run Honest before t → Faithful t := by
  have hrun := Machine.run_of_runGuarded (machine etcFiles) (fun s e => Honest s e ∧ StillOpen s e)
    (changedSetting ++ [.saved 0 true]) rfl
  have hhonest := hrun.weaken fun _ _ h => h.1
  exact ⟨_, hhonest, by decide, (browser_faithful_iff etcFiles _ _ hhonest).mpr hrun⟩

/-- Another file is opened before the save is answered, and what is then saved is its text. -/
theorem lateAnswer_overwrites :
    ∃ s, (machine etcFiles).Run Honest (changedSetting ++ [.closeFile, .openFile "/etc/motd",
        .opened 0 (.ok ⟨"/etc/motd", "hello", false, 5⟩), .saved 0 true, .saveFile, .written 0]) s ∧
      s.files "/etc/app.conf" = "hello" :=
  ⟨_, Machine.run_of_runGuarded (machine etcFiles) Honest _ rfl, by decide⟩

end Wiremap.Client.VolumeBrowser
