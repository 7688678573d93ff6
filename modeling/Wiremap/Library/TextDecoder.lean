import Wiremap.Library.Runes

/-! Text from pieces of a byte stream that are decoded one by one.  Where no character starts, a
decoder puts one replacement character for as many bytes as could have gone on to be one. -/
namespace Wiremap.Library.TextDecoder

open Wiremap.Library.Runes

def encode (text : List Char) : Bytes := text.flatMap String.utf8EncodeChar

/-- How many bytes go on from a first byte, and the bounds of the next one. -/
def lead (x : UInt8) : Option (Nat × UInt8 × UInt8) :=
  if 0xC2 ≤ x ∧ x ≤ 0xDF then some (1, 0x80, 0xBF)
  else if x = 0xE0 then some (2, 0xA0, 0xBF)
  else if x = 0xED then some (2, 0x80, 0x9F)
  else if 0xE1 ≤ x ∧ x ≤ 0xEF then some (2, 0x80, 0xBF)
  else if x = 0xF0 then some (3, 0x90, 0xBF)
  else if x = 0xF4 then some (3, 0x80, 0x8F)
  else if 0xF1 ≤ x ∧ x ≤ 0xF3 then some (3, 0x80, 0xBF)
  else none

/-- The number of bytes one replacement character is put for. -/
def subpart : Bytes → Nat
  | x :: y :: rest =>
      match lead x with
      | some (needed, lower, upper) =>
          if lower ≤ y ∧ y ≤ upper then
            2 + ((rest.take (needed - 1)).takeWhile fun z => 0x80 ≤ z ∧ z ≤ 0xBF).length
          else 1
      | none => 1
  | _ => 1

def next (b : Bytes) : Char × Nat :=
  match first? b with
  | some c => (c, c.utf8Size)
  | none => ('\uFFFD', subpart b)

def charsWithin : Nat → Bytes → List Char
  | _, [] => []
  | 0, _ :: _ => []
  | fuel + 1, b => (next b).1 :: charsWithin fuel (b.drop (next b).2)

def chars (b : Bytes) : List Char := charsWithin b.length b

def decode (b : Bytes) : List Char :=
  match chars b with
  | c :: rest => if c = '\uFEFF' then rest else c :: rest
  | [] => []

/-! ### Characters -/

theorem next_pos (b : Bytes) : 0 < (next b).2 := by
  unfold next
  split
  · exact Char.utf8Size_pos _
  · unfold subpart
    split
    · split
      · split <;> omega
      · omega
    · omega

theorem charsWithin_eq {fuel fuel' : Nat} {b : Bytes} (h : b.length ≤ fuel) (h' : b.length ≤ fuel') :
    charsWithin fuel b = charsWithin fuel' b := by
  induction fuel generalizing fuel' b with
  | zero =>
      obtain rfl := List.length_eq_zero_iff.mp (Nat.le_zero.mp h)
      simp [charsWithin]
  | succ fuel ih =>
      cases b with
      | nil => simp [charsWithin]
      | cons x rest =>
          cases fuel' with
          | zero => simp at h'
          | succ fuel' =>
              have hpos := next_pos (x :: rest)
              have hdrop : ((x :: rest).drop (next (x :: rest)).2).length ≤ rest.length := by
                rw [List.length_drop, List.length_cons]
                omega
              rw [List.length_cons] at h h'
              have hrest : charsWithin fuel ((x :: rest).drop (next (x :: rest)).2) =
                  charsWithin fuel' ((x :: rest).drop (next (x :: rest)).2) :=
                ih (by omega) (by omega)
              rw [charsWithin, charsWithin, hrest]
              · simp
              · simp

@[simp] theorem chars_nil : chars [] = [] := rfl

theorem chars_eq {b : Bytes} (h : b ≠ []) : chars b = (next b).1 :: chars (b.drop (next b).2) := by
  obtain ⟨x, rest, rfl⟩ := List.exists_cons_of_ne_nil h
  have hpos := next_pos (x :: rest)
  have hdrop : ((x :: rest).drop (next (x :: rest)).2).length ≤ rest.length := by
    rw [List.length_drop, List.length_cons]
    omega
  rw [chars, List.length_cons, charsWithin, chars, charsWithin_eq hdrop (Nat.le_refl _)]
  simp

@[simp] theorem encode_nil : encode [] = [] := rfl

theorem encode_cons (c : Char) (text : List Char) :
    encode (c :: text) = String.utf8EncodeChar c ++ encode text := List.flatMap_cons

theorem encode_append (text text' : List Char) : encode (text ++ text') = encode text ++ encode text' :=
  List.flatMap_append

theorem chars_encode_append (c : Char) (rest : Bytes) :
    chars (String.utf8EncodeChar c ++ rest) = c :: chars rest := by
  have hnext : next (String.utf8EncodeChar c ++ rest) = (c, c.utf8Size) := by
    simp [next]
  have hsize : c.utf8Size = (String.utf8EncodeChar c).length := by simp
  rw [chars_eq (by simp), hnext, hsize, List.drop_left]

theorem chars_encode (text : List Char) : chars (encode text) = text := by
  induction text with
  | nil => rfl
  | cons c text ih => rw [encode_cons, chars_encode_append, ih]

theorem encode_chars {b : Bytes} (h : '\uFFFD' ∉ chars b) : encode (chars b) = b := by
  induction hn : b.length using Nat.strongRecOn generalizing b with
  | _ n ih =>
      by_cases hb : b = []
      · rw [hb]
        rfl
      · cases hfirst : first? b with
        | none =>
            refine absurd ?_ h
            rw [chars_eq hb, next, hfirst]
            exact List.mem_cons_self
        | some c =>
            obtain ⟨rest, rfl⟩ := exists_of_first? hfirst
            rw [chars_encode_append] at h ⊢
            have hpos := c.utf8Size_pos
            have hshorter : rest.length < n := by
              rw [← hn, List.length_append, String.length_utf8EncodeChar]
              omega
            rw [encode_cons, ih _ hshorter (fun hrest => h (.tail _ hrest)) rfl]

/-! ### Pieces -/

theorem prefix_of_encode {text text' : List Char} (h : encode text <+: encode text') : text <+: text' := by
  obtain ⟨rest, hrest⟩ := h
  induction text generalizing text' with
  | nil => exact List.nil_prefix
  | cons c text ih =>
      rw [encode_cons, List.append_assoc] at hrest
      cases text' with
      | nil =>
          have hnil := (List.append_eq_nil_iff.mp hrest).1
          exact absurd hnil String.utf8EncodeChar_ne_nil
      | cons c' text' =>
          rw [encode_cons] at hrest
          have hfirst := congrArg first? hrest
          rw [first?_encode_append, first?_encode_append] at hfirst
          obtain rfl := Option.some.inj hfirst
          exact List.cons_prefix_cons.mpr ⟨rfl, ih (List.append_cancel_left hrest)⟩

theorem mem_of_mem_decode {b : Bytes} {c : Char} (h : c ∈ chars b) : c = '\uFEFF' ∨ c ∈ decode b := by
  unfold decode
  split
  · rename_i first rest hchars
    rw [hchars] at h
    split
    · rename_i hmark
      exact (List.mem_cons.mp h).imp_left fun hfirst => hfirst.trans hmark
    · exact .inr h
  · rename_i hchars
    rw [hchars] at h
    cases h

theorem decode_eq_chars {b : Bytes} (h : '\uFEFF' ∉ chars b) : decode b = chars b := by
  unfold decode
  split
  · rename_i first rest hchars
    rw [hchars] at h ⊢
    rw [if_neg]
    rintro rfl
    exact h List.mem_cons_self
  · rename_i hchars
    rw [hchars]

theorem encode_chars_of_valid {b : Bytes} (h : b.toByteArray.validateUTF8) : encode (chars b) = b := by
  obtain ⟨part, hpart⟩ := validateUTF8_iff.mp h
  have hencode : b = encode part := hpart
  rw [hencode, chars_encode]

theorem flatten_of_valid {pieces : List Bytes} (h : ∀ b ∈ pieces, b.toByteArray.validateUTF8) :
    pieces.flatten = encode (pieces.flatMap chars) := by
  rw [encode, List.flatMap_assoc, ← List.flatMap_id]
  exact List.flatMap_congr fun b hb => (encode_chars_of_valid (h b hb)).symm

theorem flatMap_decode_of_whole {pieces : List Bytes} {text : List Char} (hmark : '\uFEFF' ∉ text)
    (h : pieces.flatMap chars <+: text) : pieces.flatMap decode = pieces.flatMap chars :=
  List.flatMap_congr fun b hb => decode_eq_chars fun hmem =>
    hmark (h.subset (List.mem_flatMap.mpr ⟨b, hb, hmem⟩))

/-- Text that is cut into pieces is read off them as it was exactly if no character is cut. -/
theorem flatMap_decode_prefix_iff {pieces : List Bytes} {text : List Char}
    (hplain : '\uFFFD' ∉ text ∧ '\uFEFF' ∉ text) (hcut : pieces.flatten <+: encode text) :
    pieces.flatMap decode <+: text ↔ ∀ b ∈ pieces, b.toByteArray.validateUTF8 := by
  constructor
  · intro hread b hb
    have hclean : '\uFFFD' ∉ chars b := by
      intro hmem
      have hdecoded := (mem_of_mem_decode hmem).resolve_left (by decide)
      exact hplain.1 (hread.subset (List.mem_flatMap.mpr ⟨b, hb, hdecoded⟩))
    exact validateUTF8_iff.mpr ⟨chars b, (encode_chars hclean).symm⟩
  · intro hvalid
    have hchars : pieces.flatMap chars <+: text := prefix_of_encode (flatten_of_valid hvalid ▸ hcut)
    rw [flatMap_decode_of_whole hplain.2 hchars]
    exact hchars

theorem flatMap_decode_eq {pieces : List Bytes} {text : List Char} (hmark : '\uFEFF' ∉ text)
    (hvalid : ∀ b ∈ pieces, b.toByteArray.validateUTF8) (hall : pieces.flatten = encode text) :
    pieces.flatMap decode = text := by
  have hsame : encode (pieces.flatMap chars) = encode text := (flatten_of_valid hvalid).symm.trans hall
  have hchars : pieces.flatMap chars = text := by
    have h := congrArg chars hsame
    rwa [chars_encode, chars_encode] at h
  rw [flatMap_decode_of_whole hmark (hchars ▸ List.prefix_refl _), hchars]

example : ([[0xE2, 0x82], [0xAC, 0x41]] : List Bytes).flatMap decode =
    ['\uFFFD', '\uFFFD', 'A'] := by decide

end Wiremap.Library.TextDecoder
