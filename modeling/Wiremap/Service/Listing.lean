import Wiremap.Library.Runes
import Wiremap.Service.FilesystemService

/-! The directories of a container, as `ls -la` prints them and `ListDir` reads them
back. -/
namespace Wiremap.Service.FilesystemService

open Wiremap.Library
open Wiremap.Library.Runes

def utf8 (s : String) : Bytes := s.toList.flatMap String.utf8EncodeChar

def newline : UInt8 := 10
def slash : UInt8 := 47
def arrow : Bytes := [45, 62]

structure FileEntry where
  name : Bytes
  path : Bytes
  isDir : Bool
  size : Int
  permissions : Bytes
  deriving DecidableEq

/-! ### What is read -/

def digitValue (b : UInt8) : Option Nat :=
  if 48 ≤ b.toNat ∧ b.toNat ≤ 57 then some (b.toNat - 48) else none

def parseDigits (acc : Nat) : Bytes → Option Nat
  | [] => some acc
  | b :: rest => (digitValue b).bind fun d => parseDigits (10 * acc + d) rest

/-- `strconv.ParseInt(s, 10, 64)` -/
def parseInt (s : Bytes) : Option Int :=
  let (negative, digits) : Bool × Bytes :=
    match s with
    | 43 :: digits => (false, digits)
    | 45 :: digits => (true, digits)
    | digits => (false, digits)
  if digits = [] then none
  else
    (parseDigits 0 digits).bind fun n =>
      if negative then (if n ≤ 2 ^ 63 then some (-n) else none)
      else if n < 2 ^ 63 then some n else none

def typeLetters : List UInt8 := [45, 100, 108, 99, 98, 115, 112]

/-- The loop for the size, from field 3 to the last but one. -/
def sizeField (fields : List Bytes) : Int := ((fields.drop 3).dropLast.findSome? parseInt).getD 0

/-- The loop for the arrow, from field `i` down to field 4. -/
def beforeArrow (fields : List Bytes) : Nat → Option Bytes
  | 0 => none
  | i + 1 =>
      if i + 1 < 4 then none
      else if fields[i + 1]? = some arrow then fields[i]?
      else beforeArrow fields i

def baseName (name : Bytes) : Bytes :=
  if slash ∈ name then (name.splitOn slash).getLastD [] else name

def joinPath (path name : Bytes) : Bytes :=
  (if [slash] <:+ path then path else path ++ [slash]) ++ name

def parseLsLine (line basePath : Bytes) : Option FileEntry :=
  let fields := fields line
  if fields.length < 5 then none
  else
    let perms := fields.headD []
    if perms.length < 2 ∨ perms.headD 0 ∉ typeLetters then none
    else
      let name := baseName ((beforeArrow fields (fields.length - 2)).getD (fields.getLastD []))
      some {
        name := name
        path := joinPath basePath name
        isDir := perms.headD 0 = 100
        size := sizeField fields
        permissions := perms }

def lineEntry (path line : Bytes) : Option FileEntry :=
  let clean := trimSpace line
  if clean = [] ∨ utf8 "total" <+: clean then none
  else
    (parseLsLine clean path).filter fun entry => entry.name ≠ utf8 "." ∧ entry.name ≠ utf8 ".."

def listEntries (output path : Bytes) : List FileEntry :=
  (output.splitOn newline).filterMap (lineEntry path)

/-- The stream is that of `ls` on the path it is given. -/
def listDir (calls : Calls) (path : String) (stream : String → Bytes) :
    Except AppError (List FileEntry) :=
  let path := if path = "" then "/" else path
  match execCmd calls ["ls", "-la", path] (stream path) with
  | .error err => .error (.internal s!"failed to list directory: {err}")
  | .ok output => .ok (listEntries output (utf8 path))

def Daemon.listDir (d : Daemon) (path : String) (output : String → Bytes) :
    Except AppError (List FileEntry) :=
  FilesystemService.listDir d.toCalls path fun path => d.stream (output path)

def dirPath (path : String) : String := if path = "" then "/" else path

/-! ### Numbers -/

def decimal (n : Nat) : Bytes := (Nat.toDigits 10 n).flatMap String.utf8EncodeChar

theorem exists_digit {c : Char} (h : c.isDigit) : ∃ d : Fin 10, c = Nat.digitChar d := by
  have hchars : ∀ n : Fin 58, 48 ≤ n.val → ∃ d : Fin 10, Char.ofNat n = Nat.digitChar d := by
    decide
  obtain ⟨hlow, hhigh⟩ := Char.isDigit_iff_toNat.mp h
  have hhigh : c.toNat < 58 := Nat.lt_succ_of_le hhigh
  simpa using hchars ⟨c.toNat, hhigh⟩ hlow

theorem isDigit_of_mem {n : Nat} {c : Char} (h : c ∈ Nat.toDigits 10 n) : c.isDigit :=
  Nat.isDigit_of_mem_toDigits (by decide) (Nat.le_refl 10) h

theorem encode_digit (d : Fin 10) :
    String.utf8EncodeChar (Nat.digitChar d) = [UInt8.ofNat (48 + d)] := by
  decide +revert

theorem isSpace_digit (d : Fin 10) : isSpace (Nat.digitChar d) = false := by decide +revert

theorem digit_bounds (d : Fin 10) :
    48 ≤ (UInt8.ofNat (48 + d)).toNat ∧ (UInt8.ofNat (48 + d)).toNat ≤ 57 := by
  decide +revert

theorem digitValue_digit (d : Fin 10) : digitValue (UInt8.ofNat (48 + d)) = some d.val := by
  decide +revert

theorem word_decimal (n : Nat) : Word (decimal n) := by
  refine word_encode Nat.toDigits_ne_nil fun c hc => ?_
  obtain ⟨d, rfl⟩ := exists_digit (isDigit_of_mem hc)
  exact isSpace_digit d

theorem digit_of_mem_decimal {n : Nat} {b : UInt8} (h : b ∈ decimal n) :
    48 ≤ b.toNat ∧ b.toNat ≤ 57 := by
  obtain ⟨c, hc, hb⟩ := List.mem_flatMap.mp h
  obtain ⟨d, rfl⟩ := exists_digit (isDigit_of_mem hc)
  rw [encode_digit, List.mem_singleton] at hb
  rw [hb]
  exact digit_bounds d

theorem parseDigits_encode {l : List Char} (h : ∀ c ∈ l, c.isDigit) (acc : Nat) :
    parseDigits acc (l.flatMap String.utf8EncodeChar) = some (Nat.ofDigitChars 10 l acc) := by
  induction l generalizing acc with
  | nil => simp [parseDigits]
  | cons c l ih =>
      have hrest := ih fun c hc => h c (List.mem_cons_of_mem _ hc)
      obtain ⟨d, rfl⟩ := exists_digit (h c List.mem_cons_self)
      rw [List.flatMap_cons, encode_digit, List.singleton_append, parseDigits, digitValue_digit,
        Option.bind_some, hrest, Nat.ofDigitChars_cons_digitChar_of_lt_ten d.isLt]

theorem parseInt_decimal {n : Nat} (h : n < 2 ^ 63) : parseInt (decimal n) = some (n : Int) := by
  obtain ⟨b, rest, hb⟩ := List.exists_cons_of_ne_nil (word_decimal n).1
  have hdigit := digit_of_mem_decimal (n := n) (b := b) (by simp [hb])
  have hplus : b ≠ 43 := by
    rintro rfl
    exact absurd hdigit (by decide)
  have hminus : b ≠ 45 := by
    rintro rfl
    exact absurd hdigit (by decide)
  have hparse : parseDigits 0 (b :: rest) = some n := by
    rw [← hb, decimal, parseDigits_encode fun c hc => isDigit_of_mem hc,
      Nat.ofDigitChars_ten_toDigits]
  have hfits : n < 9223372036854775808 := h
  simp [parseInt, hb, hplus, hminus, hparse, hfits]

/-! ### Names -/

theorem baseName_eq (w : Bytes) :
    (slash ∉ w ∧ baseName w = w) ∨ ∃ directory, w = directory ++ slash :: baseName w := by
  by_cases h : slash ∈ w
  · right
    obtain ⟨after, before, hw, hafter⟩ := List.eq_append_cons_of_mem (List.mem_reverse.mpr h)
    have hsplit : w = before.reverse ++ slash :: after.reverse := by
      simpa using congrArg List.reverse hw
    refine ⟨before.reverse, ?_⟩
    have hlast : after.reverse.splitOn slash = [after.reverse] :=
      List.splitOn_eq_singleton (by simpa using hafter)
    rw [baseName, if_pos h, hsplit, List.splitOn_append_cons_self, hlast]
    simp
  · exact Or.inl ⟨h, by rw [baseName, if_neg h]⟩

theorem baseName_of_not_mem {w : Bytes} (h : slash ∉ w) : baseName w = w := by
  rw [baseName, if_neg h]

theorem baseName_suffix (w : Bytes) : baseName w <:+ w := by
  rcases baseName_eq w with ⟨-, h⟩ | ⟨directory, h⟩
  · exact ⟨[], by rw [List.nil_append, h]⟩
  · exact ⟨directory ++ [slash], by simp [← h]⟩

theorem encode_slash : String.utf8EncodeChar '/' = [slash] := by decide

theorem word_baseName {w : Bytes} (h : Word w) (hne : baseName w ≠ []) : Word (baseName w) := by
  rcases baseName_eq w with ⟨-, hw⟩ | ⟨directory, hw⟩
  · rwa [hw]
  · refine Word.suffix (a := directory) (c := '/') ?_ hne
    rw [encode_slash, List.singleton_append, ← hw]
    exact h

theorem beforeArrow_append {before after : List Bytes} {w : Bytes} (hbefore : 3 ≤ before.length)
    (hafter : after ≠ []) (hlast : arrow ∉ after.dropLast) :
    beforeArrow (before ++ w :: arrow :: after)
      ((before ++ w :: arrow :: after).length - 2) = some w := by
  have hdown : ∀ k, k + 1 < after.length + 1 →
      beforeArrow (before ++ w :: arrow :: after) (before.length + 1 + k) = some w := by
    intro k
    induction k with
    | zero =>
        intro _
        rw [Nat.add_zero, beforeArrow, if_neg (by omega), if_pos (by simp)]
        simp
    | succ k ih =>
        intro hk
        have hother : (before ++ w :: arrow :: after)[before.length + 1 + k + 1]? ≠ some arrow := by
          intro hfound
          have hat : after[k]? = some arrow := by
            rw [List.getElem?_append_right (by omega)] at hfound
            have hindex : before.length + 1 + k + 1 - before.length = k + 1 + 1 := by omega
            rwa [hindex, List.getElem?_cons_succ, List.getElem?_cons_succ] at hfound
          refine hlast (List.mem_of_getElem? (i := k) ?_)
          rw [List.getElem?_dropLast, if_pos (by omega), hat]
        rw [← Nat.add_assoc, beforeArrow, if_neg (by omega), if_neg hother, ih (by omega)]
  have hlength := List.length_pos_iff.mpr hafter
  have hstart : (before ++ w :: arrow :: after).length - 2 =
      before.length + 1 + (after.length - 1) := by
    simp only [List.length_append, List.length_cons]
    omega
  rw [hstart, hdown _ (by omega)]

theorem beforeArrow_none {fields : List Bytes} {i : Nat}
    (h : ∀ k, 4 ≤ k → k ≤ i → fields[k]? ≠ some arrow) : beforeArrow fields i = none := by
  induction i with
  | zero => rfl
  | succ i ih =>
      rw [beforeArrow]
      split
      · rfl
      · rw [if_neg (h (i + 1) (by omega) (Nat.le_refl _)), ih fun k hk hi => h k hk (by omega)]

theorem mem_of_beforeArrow {fields : List Bytes} {i : Nat} {w : Bytes}
    (h : beforeArrow fields i = some w) : w ∈ fields := by
  induction i with
  | zero => cases h
  | succ i ih =>
      rw [beforeArrow] at h
      split at h
      · cases h
      · split at h
        · exact List.mem_of_getElem? h
        · exact ih h

theorem exists_last_arrow {l : List Bytes} (h : arrow ∈ l.dropLast) (w : Bytes) :
    ∃ before u after, w :: l = before ++ u :: arrow :: after ∧ after ≠ [] ∧
      arrow ∉ after.dropLast := by
  induction l generalizing w with
  | nil => cases h
  | cons x l ih =>
      cases l with
      | nil => cases h
      | cons y l =>
          by_cases hlater : arrow ∈ (y :: l).dropLast
          · obtain ⟨before, u, after, hsplit, hafter⟩ := ih hlater x
            exact ⟨w :: before, u, after, by rw [hsplit, List.cons_append], hafter⟩
          · rw [List.dropLast_cons_of_ne_nil (List.cons_ne_nil y l), List.mem_cons] at h
            obtain rfl := h.resolve_right hlater
            exact ⟨[], w, y :: l, rfl, List.cons_ne_nil y l, hlater⟩

end Wiremap.Service.FilesystemService
