import Mathlib.Data.List.DropRight

/-! Byte strings as sequences of runes: UTF-8 characters, and single bytes where none
starts. -/
namespace Wiremap.Library.Runes

abbrev Bytes := List UInt8

def first? (b : Bytes) : Option Char := b.toByteArray.utf8DecodeChar? 0

@[simp] theorem first?_nil : first? [] = none := by decide

@[simp] theorem first?_encode_append (c : Char) (rest : Bytes) :
    first? (String.utf8EncodeChar c ++ rest) = some c := by
  rw [first?, List.toByteArray_append, ByteArray.utf8DecodeChar?_utf8EncodeChar_append]

@[simp] theorem first?_encode (c : Char) : first? (String.utf8EncodeChar c) = some c := by
  simpa using first?_encode_append c []

theorem exists_of_first? {b : Bytes} {c : Char} (h : first? b = some c) :
    ∃ rest, b = String.utf8EncodeChar c ++ rest := by
  obtain ⟨rest, hrest⟩ := ByteArray.exists_of_utf8DecodeChar?_eq_some h
  refine ⟨rest.data.toList, ?_⟩
  have hdata := congrArg (fun bytes : ByteArray => bytes.data.toList) hrest
  simpa using hdata

theorem first?_append {a : Bytes} {x : UInt8} (ha : a ≠ []) (hx : x.IsUTF8FirstByte)
    (rest : Bytes) : first? (a ++ x :: rest) = first? a := by
  cases hc : first? a with
  | some c =>
      obtain ⟨tail, rfl⟩ := exists_of_first? hc
      rw [List.append_assoc, first?_encode_append]
  | none =>
      by_contra hsome
      obtain ⟨c, hc'⟩ := Option.ne_none_iff_exists'.mp hsome
      obtain ⟨tail, htail⟩ := exists_of_first? hc'
      rcases List.append_eq_append_iff.mp htail with ⟨mid, hmid, hrest⟩ | ⟨mid, rfl, -⟩
      · cases mid with
        | nil =>
            rw [List.append_nil] at hmid
            rw [← hmid, first?_encode] at hc
            cases hc
        | cons y mid =>
            obtain ⟨rfl, -⟩ := List.cons.inj hrest
            have hlt : a.length < (String.utf8EncodeChar c).length := by
              rw [hmid, List.length_append, List.length_cons]
              omega
            have hinside : (String.utf8EncodeChar c)[a.length] = x := by
              simp [hmid]
            have hstart := UInt8.isUTF8FirstByte_getElem_utf8EncodeChar.mp (hinside ▸ hx)
            exact ha (List.length_eq_zero_iff.mp hstart)
      · rw [first?_encode_append] at hc
        cases hc

/-! ### Runes -/

def width (b : Bytes) : Nat := ((first? b).map Char.utf8Size).getD 1

theorem width_pos (b : Bytes) : 0 < width b := by
  unfold width
  cases first? b with
  | none => exact Nat.one_pos
  | some c => exact c.utf8Size_pos

theorem width_le {b : Bytes} (h : b ≠ []) : width b ≤ b.length := by
  unfold width
  cases hc : first? b with
  | none => exact List.length_pos_iff.mpr h
  | some c =>
      obtain ⟨rest, rfl⟩ := exists_of_first? hc
      simp

def runesWithin : Nat → Bytes → List Bytes
  | _, [] => []
  | 0, _ :: _ => []
  | fuel + 1, b => b.take (width b) :: runesWithin fuel (b.drop (width b))

def runes (b : Bytes) : List Bytes := runesWithin b.length b

theorem length_drop_width {b : Bytes} (h : b ≠ []) : (b.drop (width b)).length < b.length := by
  have hlength := List.length_pos_iff.mpr h
  have hwidth := width_pos b
  rw [List.length_drop]
  omega

theorem runesWithin_eq {fuel fuel' : Nat} {b : Bytes} (h : b.length ≤ fuel)
    (h' : b.length ≤ fuel') : runesWithin fuel b = runesWithin fuel' b := by
  induction fuel generalizing fuel' b with
  | zero =>
      obtain rfl := List.length_eq_zero_iff.mp (Nat.le_zero.mp h)
      simp [runesWithin]
  | succ fuel ih =>
      cases b with
      | nil => simp [runesWithin]
      | cons x rest =>
          have hdrop := length_drop_width (List.cons_ne_nil x rest)
          cases fuel' with
          | zero => simp at h'
          | succ fuel' =>
              have hrest : runesWithin fuel ((x :: rest).drop (width (x :: rest))) =
                  runesWithin fuel' ((x :: rest).drop (width (x :: rest))) :=
                ih (by omega) (by omega)
              rw [runesWithin, runesWithin, hrest]
              · simp
              · simp

@[simp] theorem runes_nil : runes [] = [] := rfl

theorem runes_eq {b : Bytes} (h : b ≠ []) :
    runes b = b.take (width b) :: runes (b.drop (width b)) := by
  have hdrop := length_drop_width h
  obtain ⟨x, rest, rfl⟩ := List.exists_cons_of_ne_nil h
  rw [List.length_cons] at hdrop
  rw [runes, List.length_cons, runesWithin, runes, runesWithin_eq (by omega) (Nat.le_refl _)]
  simp

theorem rune_induction {P : Bytes → Prop} (nil : P [])
    (rune : ∀ b, b ≠ [] → P (b.drop (width b)) → P b) (b : Bytes) : P b := by
  induction hn : b.length using Nat.strongRecOn generalizing b with
  | _ n ih =>
      by_cases hb : b = []
      · rw [hb]
        exact nil
      · exact rune b hb (ih _ (hn ▸ length_drop_width hb) _ rfl)

@[simp] theorem flatten_runes (b : Bytes) : (runes b).flatten = b := by
  induction b using rune_induction with
  | nil => rfl
  | rune b hb ih => rw [runes_eq hb, List.flatten_cons, ih, List.take_append_drop]

theorem runes_encode_append (c : Char) (rest : Bytes) :
    runes (String.utf8EncodeChar c ++ rest) = String.utf8EncodeChar c :: runes rest := by
  have hwidth : width (String.utf8EncodeChar c ++ rest) = (String.utf8EncodeChar c).length := by
    simp [width]
  rw [runes_eq (by simp), hwidth, List.take_left, List.drop_left]

theorem runes_encode (text : List Char) :
    runes (text.flatMap String.utf8EncodeChar) = text.map String.utf8EncodeChar := by
  induction text with
  | nil => rfl
  | cons c text ih => rw [List.flatMap_cons, runes_encode_append, ih, List.map_cons]

theorem runes_append (a : Bytes) (c : Char) (rest : Bytes) :
    runes (a ++ (String.utf8EncodeChar c ++ rest)) =
      runes a ++ String.utf8EncodeChar c :: runes rest := by
  obtain ⟨x, tail, hx⟩ := List.exists_cons_of_ne_nil (String.utf8EncodeChar_ne_nil (c := c))
  have hstart : x.IsUTF8FirstByte := by
    have hpos : 0 < (String.utf8EncodeChar c).length := by simp [hx]
    have hfirst : (String.utf8EncodeChar c)[0].IsUTF8FirstByte :=
      UInt8.isUTF8FirstByte_getElem_utf8EncodeChar.mpr rfl
    simpa [hx] using hfirst
  induction a using rune_induction with
  | nil => exact runes_encode_append c rest
  | rune a ha ih =>
      have hfirst : first? (a ++ (String.utf8EncodeChar c ++ rest)) = first? a := by
        rw [hx, List.cons_append, first?_append ha hstart]
      have hwidth : width (a ++ (String.utf8EncodeChar c ++ rest)) = width a := by
        rw [width, width, hfirst]
      rw [runes_eq (by simp [ha]), hwidth, List.take_append_of_le_length (width_le ha),
        List.drop_append_of_le_length (width_le ha), ih, runes_eq ha, List.cons_append]

theorem first?_take_width (b : Bytes) : first? (b.take (width b)) = first? b := by
  cases hc : first? b with
  | some c =>
      obtain ⟨rest, rfl⟩ := exists_of_first? hc
      simp [width]
  | none =>
      cases b with
      | nil => simp
      | cons x rest =>
          by_contra hsome
          obtain ⟨c, hc'⟩ := Option.ne_none_iff_exists'.mp hsome
          obtain ⟨tail, htail⟩ := exists_of_first? hc'
          have hwhole : x :: rest = String.utf8EncodeChar c ++ (tail ++ (x :: rest).drop (width (x :: rest))) := by
            rw [← List.append_assoc, ← htail, List.take_append_drop]
          rw [hwhole, first?_encode_append] at hc
          cases hc

/-! ### Text -/

def replacement : Bytes := String.utf8EncodeChar '\uFFFD'

/-- As text travels in JSON: each byte that is not part of a character is replaced. -/
def coerce (b : Bytes) : Bytes :=
  (runes b).flatMap fun r => if (first? r).isSome then r else replacement

theorem validateUTF8_iff {b : Bytes} :
    b.toByteArray.validateUTF8 ↔ ∃ text : List Char, b = text.flatMap String.utf8EncodeChar := by
  rw [ByteArray.validateUTF8_eq_true_iff]
  constructor
  · rintro ⟨text, htext⟩
    exact ⟨text, List.toByteArray_inj.mp htext⟩
  · rintro ⟨text, rfl⟩
    exact ⟨text, rfl⟩

theorem coerce_encode (text : List Char) :
    coerce (text.flatMap String.utf8EncodeChar) = text.flatMap String.utf8EncodeChar := by
  rw [coerce, runes_encode, List.flatMap_map]
  simp

theorem coerce_valid (b : Bytes) : (coerce b).toByteArray.validateUTF8 := by
  rw [validateUTF8_iff]
  induction b using rune_induction with
  | nil => exact ⟨[], rfl⟩
  | rune b hb ih =>
      obtain ⟨text, htext⟩ := ih
      rw [coerce] at htext
      rw [coerce, runes_eq hb, List.flatMap_cons, htext, first?_take_width]
      cases hc : first? b with
      | none => exact ⟨'\uFFFD' :: text, rfl⟩
      | some c =>
          refine ⟨c :: text, ?_⟩
          obtain ⟨rest, rfl⟩ := exists_of_first? hc
          simp [width]

/-- Only text travels unchanged. -/
theorem coerce_eq_self_iff {b : Bytes} : coerce b = b ↔ b.toByteArray.validateUTF8 := by
  constructor
  · intro h
    rw [← h]
    exact coerce_valid b
  · intro h
    obtain ⟨text, rfl⟩ := validateUTF8_iff.mp h
    exact coerce_encode text

/-! ### White space -/

/-- `unicode.IsSpace` -/
def isSpace (c : Char) : Bool :=
  [0x09, 0x0A, 0x0B, 0x0C, 0x0D, 0x20, 0x85, 0xA0, 0x1680, 0x2028, 0x2029, 0x202F, 0x205F,
    0x3000].contains c.toNat || (0x2000 ≤ c.toNat && c.toNat ≤ 0x200A)

def spaceRune (r : Bytes) : Bool := (first? r).any isSpace

/-- `strings.Fields` -/
def fields (b : Bytes) : List Bytes :=
  (((runes b).splitOnP spaceRune).filter (· ≠ [])).map List.flatten

/-- `strings.TrimSpace` -/
def trimSpace (b : Bytes) : Bytes :=
  (((runes b).dropWhile spaceRune).rdropWhile spaceRune).flatten

def Word (b : Bytes) : Prop := b ≠ [] ∧ ∀ r ∈ runes b, spaceRune r = false

instance (b : Bytes) : Decidable (Word b) := inferInstanceAs (Decidable (_ ∧ _))

@[simp] theorem fields_nil : fields [] = [] := rfl

theorem Word.fields_eq {b : Bytes} (h : Word b) : fields b = [b] := by
  have hrunes : runes b ≠ [] := by
    intro hnil
    have hb := flatten_runes b
    rw [hnil] at hb
    exact h.1 hb.symm
  rw [fields, List.splitOnP_eq_singleton h.2]
  simp [hrunes]

theorem fields_append {c : Char} (hc : isSpace c) (a b : Bytes) :
    fields (a ++ (String.utf8EncodeChar c ++ b)) = fields a ++ fields b := by
  have hspace : spaceRune (String.utf8EncodeChar c) := by simpa [spaceRune] using hc
  rw [fields, runes_append, List.splitOnP_append_cons _ _ hspace]
  simp [fields]

theorem eq_encode_of_mem {b r : Bytes} {c : Char} (h : r ∈ runes b) (hc : first? r = some c) :
    r = String.utf8EncodeChar c := by
  induction b using rune_induction with
  | nil => cases h
  | rune b hb ih =>
      rw [runes_eq hb, List.mem_cons] at h
      rcases h with rfl | h
      · rw [first?_take_width] at hc
        obtain ⟨rest, rfl⟩ := exists_of_first? hc
        simp [width]
      · exact ih h

theorem exists_of_spaceRune {b r : Bytes} (h : r ∈ runes b) (hr : spaceRune r) :
    ∃ c, isSpace c ∧ r = String.utf8EncodeChar c := by
  obtain ⟨c, hc, hspace⟩ := (Option.any_eq_true _ _).mp hr
  exact ⟨c, hspace, eq_encode_of_mem h hc⟩

theorem split_at_space (b : Bytes) :
    (∀ r ∈ runes b, spaceRune r = false) ∨ ∃ a c rest, isSpace c ∧
      (∀ r ∈ runes a, spaceRune r = false) ∧ b = a ++ (String.utf8EncodeChar c ++ rest) := by
  induction b using rune_induction with
  | nil => exact Or.inl (by simp)
  | rune b hb ih =>
      have hmem : b.take (width b) ∈ runes b := by simp [runes_eq hb]
      cases hspace : spaceRune (b.take (width b)) with
      | true =>
          obtain ⟨c, hc, htake⟩ := exists_of_spaceRune hmem hspace
          refine Or.inr ⟨[], c, b.drop (width b), hc, by simp, ?_⟩
          rw [List.nil_append, ← htake, List.take_append_drop]
      | false =>
          rcases ih with hnone | ⟨a, c, rest, hc, ha, hdrop⟩
          · refine Or.inl fun r hr => ?_
            rw [runes_eq hb, List.mem_cons] at hr
            rcases hr with rfl | hr
            · exact hspace
            · exact hnone r hr
          · have hsplit : b = b.take (width b) ++ a ++ (String.utf8EncodeChar c ++ rest) := by
              rw [List.append_assoc, ← hdrop, List.take_append_drop]
            have hrunes : runes (b.take (width b) ++ a) = b.take (width b) :: runes a := by
              have hwhole := congrArg runes hsplit
              rw [runes_append, runes_eq hb, hdrop, runes_append, ← List.cons_append] at hwhole
              exact (List.append_cancel_right hwhole).symm
            refine Or.inr ⟨b.take (width b) ++ a, c, rest, hc, fun r hr => ?_, hsplit⟩
            rw [hrunes, List.mem_cons] at hr
            rcases hr with rfl | hr
            · exact hspace
            · exact ha r hr

theorem fields_of_no_space {b f : Bytes} (h : ∀ r ∈ runes b, spaceRune r = false)
    (hf : f ∈ fields b) : Word f := by
  by_cases hb : b = []
  · rw [hb] at hf
    cases hf
  · have hword : Word b := ⟨hb, h⟩
    rw [hword.fields_eq, List.mem_singleton] at hf
    rw [hf]
    exact hword

theorem word_of_mem_fields {b f : Bytes} (h : f ∈ fields b) : Word f := by
  induction hn : b.length using Nat.strongRecOn generalizing b with
  | _ n ih =>
      rcases split_at_space b with hnone | ⟨a, c, rest, hc, ha, rfl⟩
      · exact fields_of_no_space hnone h
      · rw [fields_append hc, List.mem_append] at h
        rcases h with h | h
        · exact fields_of_no_space ha h
        · have hpos := c.utf8Size_pos
          refine ih rest.length ?_ h rfl
          simp only [List.length_append, String.length_utf8EncodeChar] at hn
          omega

/-! ### Words -/

theorem Word.not_infix {w : Bytes} (h : Word w) {c : Char} (hc : isSpace c) :
    ¬String.utf8EncodeChar c <:+: w := by
  rintro ⟨a, b, rfl⟩
  have hspace := h.2 (String.utf8EncodeChar c) (by simp [runes_append])
  simp [spaceRune, hc] at hspace

theorem Word.suffix {a b : Bytes} {c : Char} (h : Word (a ++ (String.utf8EncodeChar c ++ b)))
    (hb : b ≠ []) : Word b :=
  ⟨hb, fun r hr => h.2 r (by simp [runes_append, hr])⟩

theorem Word.cons {b : Bytes} (h : Word b) {c : Char} (hc : isSpace c = false) :
    Word (String.utf8EncodeChar c ++ b) := by
  refine ⟨by simp, fun r hr => ?_⟩
  rw [runes_encode_append, List.mem_cons] at hr
  rcases hr with rfl | hr
  · simpa [spaceRune] using hc
  · exact h.2 r hr

theorem word_encode {text : List Char} (hne : text ≠ []) (h : ∀ c ∈ text, isSpace c = false) :
    Word (text.flatMap String.utf8EncodeChar) := by
  constructor
  · obtain ⟨c, rest, rfl⟩ := List.exists_cons_of_ne_nil hne
    simp
  · intro r hr
    rw [runes_encode, List.mem_map] at hr
    obtain ⟨c, hc, rfl⟩ := hr
    simpa [spaceRune] using h c hc

theorem fields_word_append {w : Bytes} (h : Word w) {c : Char} (hc : isSpace c) (b : Bytes) :
    fields (w ++ (String.utf8EncodeChar c ++ b)) = w :: fields b := by
  rw [fields_append hc, h.fields_eq, List.singleton_append]

/-! ### Trimming -/

theorem fields_append_spaces {l : List Bytes}
    (h : ∀ r ∈ l, ∃ c, isSpace c ∧ r = String.utf8EncodeChar c) (b : Bytes) :
    fields (b ++ l.flatten) = fields b := by
  induction l generalizing b with
  | nil => simp
  | cons r l ih =>
      obtain ⟨c, hc, rfl⟩ := h r List.mem_cons_self
      have hrest := ih (fun r hr => h r (List.mem_cons_of_mem _ hr)) []
      rw [List.nil_append] at hrest
      rw [List.flatten_cons, fields_append hc, hrest, fields_nil, List.append_nil]

theorem fields_spaces_append {l : List Bytes}
    (h : ∀ r ∈ l, ∃ c, isSpace c ∧ r = String.utf8EncodeChar c) (b : Bytes) :
    fields (l.flatten ++ b) = fields b := by
  induction l with
  | nil => simp
  | cons r l ih =>
      obtain ⟨c, hc, rfl⟩ := h r List.mem_cons_self
      have hfirst := fields_append hc [] (l.flatten ++ b)
      rw [List.nil_append, fields_nil, List.nil_append] at hfirst
      rw [List.flatten_cons, List.append_assoc, hfirst,
        ih fun r hr => h r (List.mem_cons_of_mem _ hr)]

/-- Trimming takes no field away. -/
@[simp] theorem fields_trimSpace (b : Bytes) : fields (trimSpace b) = fields b := by
  have hspaces : ∀ l : List Bytes, l ⊆ runes b → (∀ r ∈ l, spaceRune r) →
      ∀ r ∈ l, ∃ c, isSpace c ∧ r = String.utf8EncodeChar c :=
    fun l hsub hl r hr => exists_of_spaceRune (hsub hr) (hl r hr)
  have hleft : (runes b).takeWhile spaceRune ++ (runes b).dropWhile spaceRune = runes b :=
    List.takeWhile_append_dropWhile
  have hright := List.rdropWhile_append_rtakeWhile (p := spaceRune) (l := (runes b).dropWhile spaceRune)
  have hsub : (runes b).dropWhile spaceRune ⊆ runes b := (List.dropWhile_sublist _).subset
  calc fields (trimSpace b)
      = fields (trimSpace b ++ (((runes b).dropWhile spaceRune).rtakeWhile spaceRune).flatten) := by
        refine (fields_append_spaces (hspaces _ ?_ fun r hr => List.mem_rtakeWhile_imp hr) _).symm
        exact fun r hr => hsub ((List.rtakeWhile_suffix _ _).subset hr)
    _ = fields ((runes b).dropWhile spaceRune).flatten := by
        rw [trimSpace, ← List.flatten_append, hright]
    _ = fields (((runes b).takeWhile spaceRune).flatten ++
          ((runes b).dropWhile spaceRune).flatten) := by
        refine (fields_spaces_append (hspaces _ ?_ fun r hr => List.mem_takeWhile_imp hr) _).symm
        exact fun r hr => (List.takeWhile_prefix _).subset hr
    _ = fields b := by rw [← List.flatten_append, hleft, flatten_runes]

theorem prefix_trimSpace {w : Bytes} (h : Word w) (c : Char) (rest : Bytes) :
    w <+: trimSpace (w ++ (String.utf8EncodeChar c ++ rest)) := by
  have hkept : ∀ l : List Bytes, runes w <+: (runes w ++ l).rdropWhile spaceRune := by
    intro l
    induction l using List.reverseRecOn with
    | nil =>
        have hself : (runes w).rdropWhile spaceRune = runes w :=
          List.rdropWhile_eq_self_iff.mpr fun hl => by simp [h.2 _ (List.getLast_mem hl)]
        exact ⟨[], by rw [List.append_nil, hself]⟩
    | append_singleton l r ih =>
        rw [← List.append_assoc]
        by_cases hr : spaceRune r
        · rw [List.rdropWhile_concat_pos _ _ _ hr]
          exact ih
        · rw [List.rdropWhile_concat_neg _ _ _ hr, List.append_assoc]
          exact List.prefix_append _ _
  have hfirst : ∀ l, (runes w ++ l).dropWhile spaceRune = runes w ++ l := by
    intro l
    rw [runes_eq h.1, List.cons_append, List.dropWhile_cons_of_neg]
    simp [h.2 _ (show w.take (width w) ∈ runes w by simp [runes_eq h.1])]
  rw [trimSpace, runes_append, hfirst]
  obtain ⟨tail, htail⟩ := hkept (String.utf8EncodeChar c :: runes rest)
  rw [← htail, List.flatten_append, flatten_runes]
  exact List.prefix_append _ _

end Wiremap.Library.Runes
