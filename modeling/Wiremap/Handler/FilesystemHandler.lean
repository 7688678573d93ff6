import Wiremap.Handler.KubeClusterHandler
import Wiremap.Library.LexicalPath

/-! The handlers of the files of a container.  A path is checked as it would be without its
`.` and `..`, and passed on as it is. -/
namespace Wiremap.Handler.FilesystemHandler

open Wiremap.Handler.KubeClusterHandler (Query query defaultQuery)
open Wiremap.Library Wiremap.Library.LexicalPath

def validatePath (path : String) : Except AppError Unit :=
  if path = "" ∨ path = "/" then .ok ()
  else if !isAbs path then .error (.badRequest "path must be absolute")
  else if Text.contains (clean path) ".." then
    .error (.badRequest "path traversal is not allowed")
  else .ok ()

structure Target where
  hostID : String
  containerID : String
  path : String
  deriving DecidableEq

inductive Call where
  | listDir (target : Target)
  | readFile (target : Target)
  | writeFile (target : Target) (content : String)
  deriving DecidableEq

def Call.target : Call → Target
  | listDir target => target
  | readFile target => target
  | writeFile target _ => target

def hostOf (params : Query) : String := defaultQuery params "host" ""

def listDir (containerID : String) (params : Query) : Except AppError Call := do
  let path := defaultQuery params "path" "/"
  validatePath path
  return .listDir ⟨hostOf params, containerID, path⟩

def readFile (containerID : String) (params : Query) : Except AppError Call := do
  let path := query params "path"
  if path = "" then throw (.badRequest "path is required")
  validatePath path
  return .readFile ⟨hostOf params, containerID, path⟩

structure WriteBody where
  path : String
  content : String

def writeFile (containerID : String) (params : Query) (body : Option WriteBody) :
    Except AppError Call := do
  match body with
  | none => throw (.badRequest "path and content are required")
  | some body =>
      if body.path = "" then throw (.badRequest "path and content are required")
      validatePath body.path
      return .writeFile ⟨hostOf params, containerID, body.path⟩ body.content

inductive Request where
  | listDir (containerID : String) (params : Query)
  | readFile (containerID : String) (params : Query)
  | writeFile (containerID : String) (params : Query) (body : Option WriteBody)

def handle : Request → Except AppError Call
  | .listDir containerID params => listDir containerID params
  | .readFile containerID params => readFile containerID params
  | .writeFile containerID params body => writeFile containerID params body

/-! ### What is accepted -/

def Accepted (path : String) : Prop := validatePath path = .ok ()

/-- Nothing but absolute paths without a parent directory is accepted, and all of these. -/
def Validates (path : String) : Prop :=
  Accepted path ↔ path = "" ∨ isAbs path ∧ ".." ∉ elements path

theorem accepted_of_bind {path : String} {next call : Call}
    (h : (validatePath path >>= fun _ => pure next) = (.ok call : Except AppError Call)) :
    Accepted path ∧ next = call := by
  obtain ⟨⟨⟩, haccepted, hcall⟩ := Fallible.bind_eq_ok.mp h
  exact ⟨haccepted, Fallible.pure_eq_ok.mp hcall⟩

theorem accepted_of_handle {request : Request} {call : Call} (h : handle request = .ok call) :
    Accepted call.target.path := by
  cases request with
  | listDir containerID params =>
      obtain ⟨haccepted, rfl⟩ := accepted_of_bind h
      exact haccepted
  | readFile containerID params =>
      simp only [handle, readFile] at h
      split at h
      · cases h
      · obtain ⟨haccepted, rfl⟩ := accepted_of_bind h
        exact haccepted
  | writeFile containerID params body =>
      cases body with
      | none => cases h
      | some body =>
          simp only [handle, writeFile] at h
          split at h
          · cases h
          · obtain ⟨haccepted, rfl⟩ := accepted_of_bind h
            exact haccepted

/-- What is passed on holds no parent directory where the check does what it is for. -/
theorem no_parent_of_handle {request : Request} {call : Call} (h : handle request = .ok call)
    (hvalidates : Validates call.target.path) : ".." ∉ elements call.target.path := by
  rcases hvalidates.mp (accepted_of_handle h) with hempty | ⟨-, hnone⟩
  · rw [hempty]
    decide
  · exact hnone

/-- Two dots in a row, in a name that no parent directory after it takes back. -/
def Dotted (path : String) : Prop :=
  ∃ name, Stands name (moves path) ∧ Text.contains name ".."

theorem accepted_iff {path : String} :
    Accepted path ↔ path = "" ∨ isAbs path ∧ ¬Dotted path := by
  unfold Accepted validatePath
  by_cases hempty : path = ""
  · simp [hempty]
  by_cases habs : isAbs path
  · have hdots : Text.contains (clean path) ".." ↔ Dotted path :=
      contains_clean_iff habs (by decide) (by decide)
    by_cases hroot : path = "/"
    · subst hroot
      have hnone : ¬Dotted "/" := by
        rw [← hdots]
        decide
      simp [habs, hnone]
    · simp [hempty, hroot, habs, ← hdots]
  · have hroot : path ≠ "/" := by
      rintro rfl
      exact habs (by decide)
    simp [hempty, hroot, habs]

theorem validates_iff (path : String) :
    Validates path ↔ (isAbs path → (Dotted path ↔ ".." ∈ elements path)) := by
  unfold Validates
  rw [accepted_iff]
  by_cases hempty : path = ""
  · have habs : ¬isAbs "" := by decide
    simp [hempty, habs]
  · by_cases habs : isAbs path
    · simp [hempty, habs, not_iff_not]
    · simp [hempty, habs]

/-- A parent directory is passed on, and a file name is taken for one. -/
theorem parent_not_validated :
    ¬Validates "/data/../etc/passwd" ∧ ¬Validates "/data/report..txt" := by
  constructor
  · intro h
    have hwalk : (moves "/data/../etc/passwd").foldl walk [] = ["passwd", "etc"] := by decide
    have hnames : ∀ name ∈ ["passwd", "etc"], ¬Text.contains name ".." := by decide
    have hplain : ¬Dotted "/data/../etc/passwd" := by
      rintro ⟨name, hstands, hdots⟩
      exact hnames name (hwalk ▸ mem_walk_iff.mpr hstands) hdots
    have haccepted := accepted_iff.mpr (Or.inr ⟨by decide, hplain⟩)
    exact absurd (h.mp haccepted) (by decide)
  · intro h
    have hwalk : (moves "/data/report..txt").foldl walk [] = ["report..txt", "data"] := by decide
    have hdotted : Dotted "/data/report..txt" :=
      ⟨"report..txt", mem_walk_iff.mp (hwalk ▸ List.mem_cons_self), by decide⟩
    have haccepted := accepted_iff.mp (h.mpr (by decide))
    exact haccepted.elim (by decide) fun hplain => hplain.2 hdotted

end Wiremap.Handler.FilesystemHandler
