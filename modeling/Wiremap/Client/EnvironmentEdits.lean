import Mathlib.Data.List.InsertIdx
import Mathlib.Data.List.TakeWhile
import Wiremap.Client.ContainerPanel
import Wiremap.Library.Lists

/-! What becomes of the entries of an environment that are not edited while others are. -/
namespace Wiremap.Client.ContainerPanel

open Wiremap.Library

/-- An entry as it was read, or one that an edit has changed or added. -/
inductive Row
  | untouched (entry : String)
  | edited (e : EnvVar)
  deriving DecidableEq

namespace Row

def envVar : Row → EnvVar
  | untouched entry => parseEnv entry
  | edited e => e

def updateEnvValue (value : String) (r : Row) : Row := edited { r.envVar with value := value }

def updateEnvKey (key : String) (r : Row) : Row := edited { r.envVar with key := key }

end Row

/-- The rows after an edit, which touches the row at its index. -/
def Edit.touch (rows : List Row) : Edit → List Row
  | .updateEnvValue index value => rows.modify index (Row.updateEnvValue value)
  | .updateEnvKey index key => rows.modify index (Row.updateEnvKey key)
  | .addEnvVar => rows ++ [.edited ⟨"", ""⟩]
  | .removeEnvVar index => rows.eraseIdx index

def Draft.entries (d : Draft) : List String := d.read.inspect.env.getD []

def Draft.rows (d : Draft) : List Row := d.edits.foldl Edit.touch (d.entries.map .untouched)

def named (entry : String) : Bool := !(entry.toList.takeWhile (· ≠ '=')).all isSpace

/-- What an untouched entry should be saved as. -/
def kept (entry : String) : List String := if named entry then [entry] else []

/-- Each row is saved as one entry at most, in order; untouched entries as they were, but
for those without a name, which are left out. Nothing is said of entries without "=". -/
structure Put.KeepsOthers (put : Put) : Prop where
  unchanged : put.draft.edits = [] → (∀ entry ∈ put.draft.entries, '=' ∈ entry.toList) →
    put.env = put.draft.entries.filter named
  others : ∃ saves : Row → List String, put.env = put.draft.rows.flatMap saves ∧
    (∀ r, (saves r).length ≤ 1) ∧
    ∀ entry, '=' ∈ entry.toList → saves (.untouched entry) = kept entry

/-! ### Entries -/

theorem toList_entry (e : EnvVar) :
    (s!"{e.key}={e.value}").toList = e.key.toList ++ '=' :: e.value.toList := by
  simp [toString]

theorem idxOf?_append_cons {key value : List Char} (h : '=' ∉ key) :
    (key ++ '=' :: value).idxOf? '=' = some key.length := by
  induction key with
  | nil => simp [List.idxOf?_cons]
  | cons c key ih =>
      rw [List.mem_cons, not_or] at h
      obtain ⟨hc, hkey⟩ := h
      rw [List.cons_append, List.idxOf?_cons, if_neg (by simpa using Ne.symm hc), ih hkey]
      rfl

theorem parseEnv_split {key value : List Char} (h : '=' ∉ key) :
    parseEnv (.ofList (key ++ '=' :: value)) = ⟨.ofList key, .ofList value⟩ := by
  simp [parseEnv, idxOf?_append_cons h]

theorem saved_parseEnv {entry : String} (h : '=' ∈ entry.toList) :
    saved [parseEnv entry] = kept entry := by
  obtain ⟨key, value, hsplit, hkey⟩ := List.eq_append_cons_of_mem h
  have hentry : entry = .ofList (key ++ '=' :: value) := by rw [← hsplit, String.ofList_toList]
  have hname : (key ++ '=' :: value).takeWhile (· ≠ '=') = key := by
    rw [List.takeWhile_append_of_pos, List.takeWhile_cons_of_neg (by simp), List.append_nil]
    intro c hc
    simpa using ne_of_mem_of_not_mem hc hkey
  have hjoin : s!"{String.ofList key}={String.ofList value}" = entry := by
    rw [← String.toList_inj, toList_entry ⟨.ofList key, .ofList value⟩, hsplit]
    simp
  have hblank : (EnvVar.mk (.ofList key) (.ofList value)).blank = key.all isSpace := by
    rw [EnvVar.blank, String.toList_ofList]
  have hparse : parseEnv entry = ⟨.ofList key, .ofList value⟩ := by
    rw [hentry, parseEnv_split hkey]
  rw [hparse, saved, kept, named, hsplit, hname]
  cases hall : key.all isSpace with
  | true => simp [hblank, hall]
  | false => simp [hblank, hall, hjoin]

theorem saved_eq_flatMap (env : List EnvVar) : saved env = env.flatMap fun e => saved [e] := by
  induction env with
  | nil => rfl
  | cons e env ih =>
      have hcons : saved (e :: env) = saved [e] ++ saved env := by
        rw [saved, ← List.singleton_append, List.filter_append, List.map_append, saved, saved]
      rw [hcons, List.flatMap_cons, ← ih]

/-! ### Rows -/

theorem map_touch (rows : List Row) (e : Edit) :
    (e.touch rows).map Row.envVar = e.apply (rows.map Row.envVar) := by
  cases e with
  | updateEnvValue index value =>
      refine Lists.map_modify ?_ rows index
      exact fun _ => rfl
  | updateEnvKey index key =>
      refine Lists.map_modify ?_ rows index
      exact fun _ => rfl
  | addEnvVar => simp [Edit.touch, Edit.apply, Row.envVar]
  | removeEnvVar index => rw [Edit.touch, Edit.apply, List.eraseIdx_map]

theorem Draft.map_rows (d : Draft) : d.rows.map Row.envVar = d.editedEnv := by
  have hrun : ∀ (edits : List Edit) (rows : List Row),
      (edits.foldl Edit.touch rows).map Row.envVar =
        edits.foldl Edit.apply (rows.map Row.envVar) := by
    intro edits
    induction edits with
    | nil => exact fun _ => rfl
    | cons e edits ih =>
        intro rows
        rw [List.foldl_cons, List.foldl_cons, ih, map_touch]
  rw [d.editedEnv_eq, rows, hrun, List.map_map]
  rfl

/-- Untouched entries are saved as they were, in their places, if they have a name. -/
theorem keepsOthers (put : Put) : put.KeepsOthers := by
  have hsaves : put.env = put.draft.rows.flatMap fun r => saved [r.envVar] := by
    rw [Put.env, ← put.draft.map_rows, saved_eq_flatMap, List.flatMap_map]
  constructor
  · intro hedits hall
    have hrows : put.draft.rows = put.draft.entries.map .untouched := by
      rw [Draft.rows, hedits, List.foldl_nil]
    have hkept : put.env = put.draft.entries.flatMap kept := by
      rw [hsaves, hrows, List.flatMap_map]
      exact List.flatMap_congr fun entry hentry => saved_parseEnv (hall entry hentry)
    rw [hkept, ← List.filterMap_eq_filter, List.filterMap_eq_flatMap_toList]
    refine List.flatMap_congr fun entry _ => ?_
    rw [kept, Option.guard]
    split <;> simp_all
  · refine ⟨_, hsaves, fun r => ?_, fun entry => saved_parseEnv⟩
    rw [saved, List.length_map]
    exact List.length_filter_le _ [r.envVar]

def blankKey : Put where
  containerId := "shop"
  render := 0
  draft := .start ⟨"shop", ⟨"/shop", some ["=x", "DB=shop"]⟩⟩

/-- An entry without a name is not saved though nothing was edited. -/
theorem blankKey_not_kept :
    blankKey.draft.edits = [] ∧ blankKey.env = ["DB=shop"] ∧
      blankKey.env ≠ blankKey.draft.entries := by
  decide +kernel

end Wiremap.Client.ContainerPanel
