import Mathlib.Data.List.Basic
import Wiremap.Service.Listing

/-! Which directories `ListDir` recovers from what `ls -la` prints of them. -/
namespace Wiremap.Service.FilesystemService

open Wiremap.Library
open Wiremap.Library.Runes

/-! ### What `ls` prints -/

def space : UInt8 := 32

structure Column where
  pad : Nat
  text : Bytes
  word : Word text

def Column.wire (c : Column) : Bytes := List.replicate c.pad space ++ c.text ++ [space]

inductive FileType
  | file
  | directory
  | symlink (target : Bytes)
  | charDevice
  | blockDevice
  | socket
  | pipe
  deriving DecidableEq

def FileType.letter : FileType → Char
  | file => '-'
  | directory => 'd'
  | symlink _ => 'l'
  | charDevice => 'c'
  | blockDevice => 'b'
  | socket => 's'
  | pipe => 'p'

def FileType.suffix : FileType → Bytes
  | symlink target => space :: arrow ++ space :: target
  | _ => []

/-- An entry of a directory, as `ls -la` shows it: its size is an offset in a file, no
date has an arrow in it, and the whole is one line. -/
structure LsEntry where
  type : FileType
  mode : Bytes
  links : Column
  owner : Column
  group : Column
  sizePad : Nat
  size : Nat
  dates : Column × Column × Column
  name : Bytes
  mode_word : Word mode
  size_fits : size < 2 ^ 63
  dates_plain : ∀ d ∈ [dates.1, dates.2.1, dates.2.2], 62 ∉ d.text
  name_ne_nil : name ≠ []
  name_line : newline ∉ name
  name_slash : slash ∉ name
  target_line : newline ∉ type.suffix

namespace LsEntry

def permissions (e : LsEntry) : Bytes := String.utf8EncodeChar e.type.letter ++ e.mode

def sizeColumn (e : LsEntry) : Column := ⟨e.sizePad, decimal e.size, word_decimal e.size⟩

def columns (e : LsEntry) : List Column :=
  [e.links, e.owner, e.group, e.sizeColumn, e.dates.1, e.dates.2.1, e.dates.2.2]

def line (e : LsEntry) : Bytes :=
  e.permissions ++ space :: (e.columns.flatMap Column.wire ++ (e.name ++ e.type.suffix))

def Dot (e : LsEntry) : Prop := e.name = utf8 "." ∨ e.name = utf8 ".."

instance (e : LsEntry) : Decidable e.Dot := inferInstanceAs (Decidable (_ ∨ _))

end LsEntry

structure Directory where
  total : Nat
  entries : List LsEntry
  dots : ∀ e ∈ entries, e.Dot → e.type = .directory

def Directory.output (dir : Directory) : Bytes :=
  ((utf8 "total " ++ decimal dir.total) :: dir.entries.map LsEntry.line).flatMap (· ++ [newline])

/-! ### What is to be shown -/

def LsEntry.shown (e : LsEntry) (path : Bytes) : FileEntry where
  name := e.name
  path := joinPath path e.name
  isDir := e.type = .directory
  size := e.size
  permissions := e.permissions

def Directory.shown (dir : Directory) (path : Bytes) : List FileEntry :=
  (dir.entries.filter fun e => ¬e.Dot).map (LsEntry.shown · path)

/-- Whatever the path and the daemon, the directory is listed as it is. -/
def Directory.Inverted (dir : Directory) : Prop :=
  ∀ (d : Daemon) (path : String), d.Answers →
    d.listDir path (fun _ => dir.output) = .ok (dir.shown (utf8 (dirPath path)))

/-! ### Which entries are recovered -/

/-- The name of a link is found before the last arrow that something follows. -/
def NamedBefore (name target : Bytes) : Prop :=
  ∃ before w after, name :: arrow :: fields target = before ++ w :: arrow :: after ∧
    after ≠ [] ∧ arrow ∉ after.dropLast ∧ baseName w = name

/-- The name is one word, the group no number other than the size, and no arrow in
the target of a link passes for the link's own. -/
structure LsEntry.Plain (e : LsEntry) : Prop where
  name : Word e.name
  group : ∀ n, parseInt e.group.text = some n → n = e.size
  target : ∀ target, e.type = .symlink target → NamedBefore e.name target

/-! ### The fields of a line -/

theorem encode_space : String.utf8EncodeChar ' ' = [space] := by decide

theorem encode_newline : String.utf8EncodeChar '\n' = [newline] := by decide

theorem fields_space (b : Bytes) : fields (space :: b) = fields b := by
  have h := fields_append (c := ' ') (by decide) [] b
  rwa [encode_space] at h

theorem fields_word_space {w : Bytes} (h : Word w) (b : Bytes) :
    fields (w ++ space :: b) = w :: fields b := by
  have hfields := fields_word_append h (c := ' ') (by decide) b
  rwa [encode_space] at hfields

theorem newline_not_mem {w : Bytes} (h : Word w) : newline ∉ w := by
  intro hmem
  obtain ⟨a, b, rfl⟩ := List.append_of_mem hmem
  refine h.not_infix (c := '\n') (by decide) ⟨a, b, ?_⟩
  simp [encode_newline]

theorem Column.fields_wire (c : Column) (b : Bytes) : fields (c.wire ++ b) = c.text :: fields b := by
  have hpad : ∀ n rest, fields (List.replicate n space ++ rest) = fields rest := by
    intro n rest
    induction n with
    | zero => rfl
    | succ n ih => rw [List.replicate_succ, List.cons_append, fields_space, ih]
  rw [Column.wire, List.append_assoc, List.append_assoc, hpad, List.singleton_append,
    fields_word_space c.word]

theorem fields_columns (columns : List Column) (b : Bytes) :
    fields (columns.flatMap Column.wire ++ b) = columns.map Column.text ++ fields b := by
  induction columns with
  | nil => rfl
  | cons c rest ih =>
      rw [List.flatMap_cons, List.append_assoc, c.fields_wire, ih, List.map_cons, List.cons_append]

theorem FileType.letter_cases (t : FileType) :
    ∃ b ∈ typeLetters, String.utf8EncodeChar t.letter = [b] ∧ isSpace t.letter = false ∧
      b ≠ 116 ∧ (b = 100 ↔ t = .directory) := by
  cases t with
  | symlink target => exact ⟨108, by decide, rfl, rfl, by decide, by simp⟩
  | _ => exact ⟨_, by decide, rfl, by decide, by decide, by decide⟩

namespace LsEntry

theorem word_permissions (e : LsEntry) : Word e.permissions := by
  obtain ⟨b, -, -, hspace, -⟩ := e.type.letter_cases
  exact e.mode_word.cons hspace

theorem fields_line (e : LsEntry) :
    fields e.line =
      e.permissions :: (e.columns.map Column.text ++ fields (e.name ++ e.type.suffix)) := by
  rw [line, fields_word_space e.word_permissions, fields_columns]

theorem newline_not_mem_line (e : LsEntry) : newline ∉ e.line := by
  have hcolumn : ∀ c : Column, newline ∉ c.wire := by
    intro c
    have htext := newline_not_mem c.word
    simpa [Column.wire, newline, space] using htext
  simp only [line, List.mem_append, List.mem_cons, List.mem_flatMap, not_or, not_exists, not_and]
  exact ⟨newline_not_mem e.word_permissions, by decide, fun c _ => hcolumn c, e.name_line,
    e.target_line⟩

/-! ### What is read of a line -/

def readName (e : LsEntry) : Bytes :=
  baseName ((beforeArrow (fields e.line) ((fields e.line).length - 2)).getD
    ((fields e.line).getLastD []))

def readSize (e : LsEntry) : Int := (parseInt e.group.text).getD e.size

theorem sizeField_line (e : LsEntry) : sizeField (fields e.line) = e.readSize := by
  have hsize : parseInt e.sizeColumn.text = some (e.size : Int) := parseInt_decimal e.size_fits
  rw [fields_line, sizeField, readSize]
  cases hgroup : parseInt e.group.text with
  | none => simp [columns, hgroup, hsize]
  | some n => simp [columns, hgroup]

theorem permissions_eq (e : LsEntry) :
    ∃ b ∈ typeLetters, e.permissions = b :: e.mode ∧ b ≠ 116 ∧ (b = 100 ↔ e.type = .directory) := by
  obtain ⟨b, hb, hencode, -, htotal, hdirectory⟩ := e.type.letter_cases
  exact ⟨b, hb, by rw [permissions, hencode, List.singleton_append], htotal, hdirectory⟩

theorem permissions_prefix (e : LsEntry) : e.permissions <+: trimSpace e.line := by
  have h := prefix_trimSpace e.word_permissions ' '
    (e.columns.flatMap Column.wire ++ (e.name ++ e.type.suffix))
  rwa [encode_space, List.singleton_append] at h

theorem not_total (e : LsEntry) : ¬utf8 "total" <+: trimSpace e.line := by
  obtain ⟨b, -, hpermissions, htotal, -⟩ := e.permissions_eq
  obtain ⟨rest, hrest⟩ := e.permissions_prefix
  rw [← hrest, hpermissions, List.cons_append, show utf8 "total" = [116, 111, 116, 97, 108] by decide]
  rintro ⟨tail, htail⟩
  exact htotal (List.cons.inj htail).1.symm

theorem lineEntry_line (e : LsEntry) (path : Bytes) :
    lineEntry path e.line =
      Option.filter (fun entry => entry.name ≠ utf8 "." ∧ entry.name ≠ utf8 "..")
        (some {
          name := e.readName
          path := joinPath path e.readName
          isDir := e.type = .directory
          size := e.readSize
          permissions := e.permissions }) := by
  obtain ⟨b, hb, hpermissions, -, hdirectory⟩ := e.permissions_eq
  have hclean : trimSpace e.line ≠ [] := by
    intro hnil
    have hprefix := e.permissions_prefix
    rw [hnil, List.prefix_nil] at hprefix
    exact e.word_permissions.1 hprefix
  have hmany : ¬(fields e.line).length < 5 := by
    simp [fields_line, columns]
  have hhead : (fields e.line).headD [] = e.permissions := by rw [fields_line, List.headD_cons]
  have hmode := List.length_pos_iff.mpr e.mode_word.1
  have hletter : ¬(e.permissions.length < 2 ∨ e.permissions.headD 0 ∉ typeLetters) := by
    rw [hpermissions, List.headD_cons, List.length_cons]
    simp only [hb, not_true_eq_false, or_false]
    omega
  have hfirst : decide (e.permissions.headD 0 = 100) = decide (e.type = .directory) := by
    rw [hpermissions, List.headD_cons, decide_eq_decide, hdirectory]
  simp only [lineEntry, hclean, e.not_total, or_self, if_false]
  simp only [parseLsLine, fields_trimSpace, hmany, if_false, hhead, hletter, sizeField_line, hfirst]
  rfl

/-! ### Whether the name is read -/

theorem word_of_readName {e : LsEntry} (h : e.readName = e.name) : Word e.name := by
  obtain ⟨w, hw, hname⟩ : ∃ w ∈ fields e.line, e.readName = baseName w := by
    rw [readName]
    cases harrow : beforeArrow (fields e.line) ((fields e.line).length - 2) with
    | some w => exact ⟨w, mem_of_beforeArrow harrow, rfl⟩
    | none =>
        have hne : fields e.line ≠ [] := by simp [fields_line]
        exact ⟨(fields e.line).getLast hne, List.getLast_mem hne, by
          rw [Option.getD_none, List.getLastD_eq_getLast?, List.getLast?_eq_getLast_of_ne_nil hne,
            Option.getD_some]⟩
  rw [← h, hname]
  exact word_baseName (word_of_mem_fields hw) (by rw [← hname, h]; exact e.name_ne_nil)

def front (e : LsEntry) : List Bytes := e.permissions :: e.columns.map Column.text

theorem length_front (e : LsEntry) : e.front.length = 8 := rfl

theorem fields_link {e : LsEntry} {target : Bytes} (h : Word e.name)
    (htype : e.type = .symlink target) :
    fields e.line = e.front ++ e.name :: arrow :: fields target := by
  have harrow : Word arrow := by decide
  rw [fields_line, htype, FileType.suffix, List.cons_append, fields_word_space h,
    fields_word_space harrow, ← List.cons_append, ← front]

theorem fields_file {e : LsEntry} (h : Word e.name) (htype : e.type.suffix = []) :
    fields e.line = e.front ++ [e.name] := by
  rw [fields_line, htype, List.append_nil, h.fields_eq, ← List.cons_append, ← front]

theorem front_ne_arrow (e : LsEntry) {k : Nat} (hk : 4 ≤ k) : e.front[k]? ≠ some arrow := by
  intro hfound
  have hlate : arrow ∈ e.front.drop 4 := by
    refine List.mem_of_getElem? (i := k - 4) ?_
    rw [List.getElem?_drop, Nat.add_sub_cancel' hk, hfound]
  have hdates := e.dates_plain
  simp only [List.mem_cons, List.not_mem_nil, or_false, forall_eq_or_imp, forall_eq] at hdates
  obtain ⟨hmonth, hday, htime⟩ := hdates
  have hfree : ∀ text ∈ e.front.drop 4, 62 ∉ text := by
    intro text htext
    simp only [front, columns, List.map_cons, List.map_nil, List.drop_succ_cons, List.drop_zero,
      List.mem_cons, List.not_mem_nil, or_false] at htext
    rcases htext with rfl | rfl | rfl | rfl
    · intro hmem
      exact absurd (digit_of_mem_decimal hmem) (by decide)
    · exact hmonth
    · exact hday
    · exact htime
  exact hfree arrow hlate (by decide)

theorem readName_file {e : LsEntry} (hfields : fields e.line = e.front ++ [e.name]) :
    e.readName = e.name := by
  have hnone : beforeArrow (e.front ++ [e.name]) ((e.front ++ [e.name]).length - 2) = none := by
    refine beforeArrow_none fun k hk hi => ?_
    rw [List.length_append, length_front, List.length_singleton] at hi
    rw [List.getElem?_append_left (by rw [length_front]; omega)]
    exact e.front_ne_arrow hk
  rw [readName, hfields, hnone]
  simp [baseName_of_not_mem e.name_slash]

theorem readName_link {e : LsEntry} {before after rest : List Bytes} {w : Bytes}
    (hfields : fields e.line = e.front ++ rest) (hrest : rest = before ++ w :: arrow :: after)
    (hafter : after ≠ []) (hlast : arrow ∉ after.dropLast) : e.readName = baseName w := by
  have hlong : 3 ≤ (e.front ++ before).length := by
    rw [List.length_append, length_front]
    omega
  rw [readName, hfields, hrest, ← List.append_assoc, beforeArrow_append hlong hafter hlast]
  rfl

/-- With nothing after it, a link's own arrow goes unseen. -/
theorem readName_blank {e : LsEntry} (hfields : fields e.line = e.front ++ [e.name, arrow]) :
    e.readName ≠ e.name := by
  by_cases hname : e.name = arrow
  · -- the field before is a date
    have htime : 62 ∉ e.dates.2.2.text := e.dates_plain _ (by simp)
    have hfront : e.front = e.front.take 7 ++ [e.dates.2.2.text] := rfl
    have hread : e.readName = baseName e.dates.2.2.text := by
      rw [readName, hfields, hname, hfront, List.append_assoc, List.singleton_append,
        beforeArrow_append (by simp [length_front]) (by simp) (by simp)]
      rfl
    rw [hread, hname]
    intro hsame
    refine htime ((baseName_suffix _).subset ?_)
    rw [hsame]
    decide
  · have hnone : beforeArrow (e.front ++ [e.name, arrow])
        ((e.front ++ [e.name, arrow]).length - 2) = none := by
      refine beforeArrow_none fun k hk hi => ?_
      rw [List.length_append, length_front] at hi
      rcases Nat.lt_or_ge k 8 with hfront | hback
      · rw [List.getElem?_append_left (by rw [length_front]; omega)]
        exact e.front_ne_arrow hk
      · obtain rfl : k = 8 := Nat.le_antisymm hi hback
        rw [List.getElem?_append_right (by rw [length_front])]
        simpa [length_front] using hname
    have hbase : baseName arrow = arrow := by decide
    rw [readName, hfields, hnone]
    simpa [hbase] using Ne.symm hname

theorem readName_eq_iff (e : LsEntry) :
    e.readName = e.name ↔
      Word e.name ∧ ∀ target, e.type = .symlink target → NamedBefore e.name target := by
  constructor
  · intro h
    have hword := word_of_readName h
    refine ⟨hword, fun target htype => ?_⟩
    have hfields := fields_link hword htype
    by_cases hblank : fields target = []
    · rw [hblank] at hfields
      exact absurd h (readName_blank hfields)
    · have harrow : arrow ∈ (arrow :: fields target).dropLast := by
        rw [List.dropLast_cons_of_ne_nil hblank]
        exact List.mem_cons_self
      obtain ⟨before, w, after, hsplit, hafter, hlast⟩ := exists_last_arrow harrow e.name
      exact ⟨before, w, after, hsplit, hafter, hlast,
        (readName_link hfields hsplit hafter hlast).symm.trans h⟩
  · rintro ⟨hword, hlink⟩
    cases htype : e.type with
    | symlink target =>
        obtain ⟨before, w, after, hsplit, hafter, hlast, hname⟩ := hlink target htype
        exact (readName_link (fields_link hword htype) hsplit hafter hlast).trans hname
    | _ => exact readName_file (fields_file hword (by rw [htype]; rfl))

theorem plain_iff (e : LsEntry) : e.Plain ↔ e.readName = e.name ∧ e.readSize = e.size := by
  have hsize : e.readSize = e.size ↔ ∀ n, parseInt e.group.text = some n → n = e.size := by
    rw [readSize]
    cases parseInt e.group.text with
    | none => simp
    | some n => simp
  rw [readName_eq_iff, hsize]
  exact ⟨fun h => ⟨⟨h.name, h.target⟩, h.group⟩, fun h => ⟨h.1.1, h.2, h.1.2⟩⟩

theorem lineEntry_dot {e : LsEntry} (path : Bytes) (h : e.Dot) (htype : e.type = .directory) :
    lineEntry path e.line = none := by
  have hword : Word e.name := by
    rcases h with h | h
    · rw [h]
      decide
    · rw [h]
      decide
  have hname : e.readName = e.name := readName_file (fields_file hword (by rw [htype]; rfl))
  have hdot : ¬(e.readName ≠ utf8 "." ∧ e.readName ≠ utf8 "..") := by
    rw [hname]
    rintro ⟨hself, hparent⟩
    exact h.elim hself hparent
  rw [lineEntry_line, Option.filter_some, if_neg (by simpa using hdot)]

theorem lineEntry_eq_iff {e : LsEntry} (path : Bytes) (h : ¬e.Dot) :
    lineEntry path e.line = some (e.shown path) ↔ e.Plain := by
  rw [plain_iff, lineEntry_line, Option.filter_some]
  constructor
  · intro heq
    split at heq
    · rw [Option.some.injEq, shown, FileEntry.mk.injEq] at heq
      obtain ⟨hname, -, -, hsize, -⟩ := heq
      exact ⟨hname, hsize⟩
    · cases heq
  · rintro ⟨hname, hsize⟩
    rw [hname, hsize, if_pos (by simpa [Dot, not_or] using h)]
    rfl

end LsEntry

/-! ### Whole directories -/

theorem splitOn_lines {lines : List Bytes} (h : ∀ line ∈ lines, newline ∉ line) :
    (lines.flatMap (· ++ [newline])).splitOn newline = lines ++ [[]] := by
  induction lines with
  | nil => rfl
  | cons line rest ih =>
      rw [List.flatMap_cons, List.append_assoc, List.singleton_append,
        List.splitOn_append_cons_self, List.splitOn_eq_singleton (h line List.mem_cons_self),
        ih fun line hline => h line (List.mem_cons_of_mem _ hline)]
      rfl

theorem lineEntry_total (path : Bytes) (n : Nat) :
    lineEntry path (utf8 "total " ++ decimal n) = none := by
  have hword : Word (utf8 "total") := by decide
  have hprefix := prefix_trimSpace hword ' ' (decimal n)
  have hline : utf8 "total" ++ (String.utf8EncodeChar ' ' ++ decimal n) =
      utf8 "total " ++ decimal n := by
    rw [← List.append_assoc]
    rfl
  rw [hline] at hprefix
  rw [lineEntry, if_pos (Or.inr hprefix)]

theorem Directory.listEntries_output (dir : Directory) (path : Bytes) :
    listEntries dir.output path = dir.entries.filterMap fun e => lineEntry path e.line := by
  have htotal : newline ∉ utf8 "total " ++ decimal dir.total := by
    rw [List.mem_append, not_or]
    exact ⟨by decide, newline_not_mem (word_decimal dir.total)⟩
  have hlines : ∀ line ∈ (utf8 "total " ++ decimal dir.total) :: dir.entries.map LsEntry.line,
      newline ∉ line := by
    intro line hline
    rcases List.mem_cons.mp hline with rfl | hline
    · exact htotal
    · obtain ⟨e, -, rfl⟩ := List.mem_map.mp hline
      exact e.newline_not_mem_line
  have hlast : lineEntry path [] = none := rfl
  rw [listEntries, output, splitOn_lines hlines, List.cons_append, List.filterMap_cons_none
    (lineEntry_total path dir.total), List.filterMap_append, List.filterMap_map,
    List.filterMap_cons_none hlast, List.filterMap_nil, List.append_nil]
  rfl

theorem Directory.listDir_answers (dir : Directory) {d : Daemon} (h : d.Answers) (path : String) :
    d.listDir path (fun _ => dir.output) = .ok (listEntries dir.output (utf8 (dirPath path))) := by
  simp only [Daemon.listDir, listDir, execCmd_answers h, dirPath]

theorem Directory.listEntries_eq_iff (dir : Directory) (path : Bytes) :
    listEntries dir.output path = dir.shown path ↔ ∀ e ∈ dir.entries, ¬e.Dot → e.Plain := by
  have hdots : dir.entries.filterMap (fun e => lineEntry path e.line) =
      (dir.entries.filter fun e => ¬e.Dot).filterMap fun e => lineEntry path e.line := by
    rw [List.filterMap_filter]
    refine List.filterMap_congr fun e he => ?_
    by_cases hdot : e.Dot
    · simp [hdot, LsEntry.lineEntry_dot path hdot (dir.dots e he hdot)]
    · simp [hdot]
  rw [dir.listEntries_output, hdots, shown,
    List.filterMap_eq_map_iff_forall_eq_some]
  constructor
  · intro h e he hdot
    exact (LsEntry.lineEntry_eq_iff path hdot).mp (h e (by simp [he, hdot]))
  · intro h e he
    obtain ⟨he, hdot⟩ := List.mem_filter.mp he
    have hdot : ¬e.Dot := of_decide_eq_true hdot
    exact (LsEntry.lineEntry_eq_iff path hdot).mpr (h e he hdot)

/-- A directory is listed as it is when each name is one word, no group is a number
other than the size, and no link's target has the name sought in it. -/
theorem Directory.inverted_iff (dir : Directory) :
    dir.Inverted ↔ ∀ e ∈ dir.entries, ¬e.Dot → e.Plain := by
  constructor
  · intro h
    have hroot := h calmDaemon "/" calmDaemon_answers
    rw [dir.listDir_answers calmDaemon_answers] at hroot
    exact (dir.listEntries_eq_iff _).mp (Except.ok.inj hroot)
  · intro h d path hd
    rw [dir.listDir_answers hd, (dir.listEntries_eq_iff _).mpr h]

def ownFile : LsEntry where
  type := .file
  mode := utf8 "rw-r--r--"
  links := ⟨0, utf8 "1", by decide⟩
  owner := ⟨0, utf8 "1000", by decide⟩
  group := ⟨0, utf8 "1000", by decide⟩
  sizePad := 4
  size := 12
  dates := (⟨0, utf8 "Jan", by decide⟩, ⟨1, utf8 "1", by decide⟩, ⟨0, utf8 "00:00", by decide⟩)
  name := utf8 "notes.txt"
  mode_word := by decide
  size_fits := by decide
  dates_plain := by decide
  name_ne_nil := by decide
  name_line := by decide
  name_slash := by decide
  target_line := by decide

def ownDirectory : Directory where
  total := 4
  entries := [ownFile]
  dots := by decide

/-- The number of the group is taken for the size. -/
theorem ownDirectory_not_inverted : ¬ownDirectory.Inverted := by
  intro h
  have hlisted := h calmDaemon "/srv" calmDaemon_answers
  rw [ownDirectory.listDir_answers calmDaemon_answers] at hlisted
  have hplain := (ownDirectory.listEntries_eq_iff _).mp (Except.ok.inj hlisted) ownFile
    (List.mem_singleton_self _) (by decide)
  have hgroup : parseInt ownFile.group.text = some 1000 := by decide
  exact absurd (hplain.group 1000 hgroup) (by decide)

example : listEntries ownDirectory.output (utf8 "/srv") =
    [⟨utf8 "notes.txt", utf8 "/srv/notes.txt", false, 1000, utf8 "-rw-r--r--"⟩] := by
  decide +kernel

end Wiremap.Service.FilesystemService
