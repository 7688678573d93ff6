import Mathlib.Data.List.Infix

/-! Prefixes, and text joined with a separator.  When the part on one side of a separator does
not contain it, the whole determines both parts. -/
namespace Wiremap.Library.Text

def Free (sep : Char) (s : String) : Prop := sep ∉ s.toList

instance (sep : Char) (s : String) : Decidable (Free sep s) :=
  inferInstanceAs (Decidable (_ ∉ _))

private theorem append_cons_inj_left {sep : Char} {a b u v : List Char}
    (ha : sep ∉ a) (hb : sep ∉ b) (h : a ++ sep :: u = b ++ sep :: v) : a = b ∧ u = v := by
  induction a generalizing b with
  | nil =>
      cases b with
      | nil => exact ⟨rfl, (List.cons.inj h).2⟩
      | cons c rest =>
          obtain ⟨rfl, -⟩ := List.cons.inj h
          exact absurd List.mem_cons_self hb
  | cons c rest ih =>
      cases b with
      | nil =>
          obtain ⟨rfl, -⟩ := List.cons.inj h
          exact absurd List.mem_cons_self ha
      | cons d rest' =>
          obtain ⟨rfl, htail⟩ := List.cons.inj h
          obtain ⟨rfl, huv⟩ := ih (fun hm => ha (List.mem_cons_of_mem _ hm))
            (fun hm => hb (List.mem_cons_of_mem _ hm)) htail
          exact ⟨rfl, huv⟩

def hasPrefix (s pre : String) : Bool := pre.toList.isPrefixOf s.toList

def toLower (s : String) : String := .ofList (s.toList.map Char.toLower)

theorem charToLower_cases (c : Char) : ¬('A' ≤ c ∧ c ≤ 'Z') ∧ c.toLower = c ∨
    (65 ≤ c.toNat ∧ c.toNat ≤ 90) ∧ c.toLower.toNat = c.toNat + 32 := by
  unfold Char.toLower
  split
  · rename_i h
    have hlow : (65 : UInt32).toNat ≤ c.val.toNat := UInt32.le_iff_toNat_le.mp h.1
    have hhigh : c.val.toNat ≤ (90 : UInt32).toNat := UInt32.le_iff_toNat_le.mp h.2
    refine .inr ⟨⟨hlow, hhigh⟩, ?_⟩
    change (c.val + 32).toNat = c.val.toNat + 32
    rw [UInt32.toNat_add]
    simp at hlow hhigh ⊢
    omega
  · rename_i h
    exact .inl ⟨h, rfl⟩

theorem not_capital_of_mem_toLower {s : String} {c : Char} (h : c ∈ (toLower s).toList) :
    ¬('A' ≤ c ∧ c ≤ 'Z') := by
  rw [toLower, String.toList_ofList] at h
  obtain ⟨c, -, rfl⟩ := List.mem_map.mp h
  rcases charToLower_cases c with ⟨hcapital, hc⟩ | ⟨⟨hlow, hhigh⟩, hc⟩
  · rw [hc]
    exact hcapital
  · rintro ⟨-, hle⟩
    have hle' : c.toLower.toNat ≤ 90 := UInt32.le_iff_toNat_le.mp hle
    omega

def trimSpace (s : String) : String :=
  .ofList ((s.toList.dropWhile Char.isWhitespace).reverse.dropWhile Char.isWhitespace).reverse

def trimPrefix (s pre : String) : String :=
  if hasPrefix s pre then .ofList (s.toList.drop pre.toList.length) else s

@[simp] theorem trimPrefix_append (pre s : String) : trimPrefix (pre ++ s) pre = s := by
  simp [trimPrefix, hasPrefix]

/-! ### Numbers -/

theorem toList_toString (n : Nat) : (toString n).toList = Nat.toDigits 10 n := by
  rw [Nat.toString_eq_repr, Nat.repr_eq_ofList_toDigits, String.toList_ofList]

theorem isDigit_of_mem_toString {n : Nat} {c : Char} (h : c ∈ (toString n).toList) : c.isDigit := by
  rw [toList_toString] at h
  exact Nat.isDigit_of_mem_toDigits (by decide) (by decide) h

theorem toString_inj {m n : Nat} (h : toString m = toString n) : m = n := by
  have hdigits : Nat.toDigits 10 m = Nat.toDigits 10 n := by
    rw [← toList_toString, ← toList_toString, h]
  rw [← Nat.ofDigitChars_toDigits (b := 10) (by decide) (by decide) (n := m), hdigits,
    Nat.ofDigitChars_toDigits (by decide) (by decide)]

theorem toString_ne_empty (n : Nat) : toString n ≠ "" := by
  intro h
  have hdigits := toList_toString n
  rw [h] at hdigits
  exact Nat.toDigits_ne_nil hdigits.symm

/-! ### Splitting -/

/-- The parts between separators: always one more than there are separators. -/
def split (sep : Char) (s : String) : List String := (s.toList.splitOn sep).map String.ofList

def join (sep : Char) (parts : List String) : String := (String.singleton sep).intercalate parts

@[simp] theorem toList_join (sep : Char) (parts : List String) :
    (join sep parts).toList = [sep].intercalate (parts.map String.toList) := by
  simp [join, String.toList_intercalate]

theorem split_join {sep : Char} {parts : List String} (hfree : ∀ part ∈ parts, Free sep part)
    (hparts : parts ≠ []) : split sep (join sep parts) = parts := by
  have hchars : (join sep parts).toList.splitOn sep = parts.map String.toList := by
    rw [toList_join]
    refine List.splitOn_intercalate sep ?_ (by simpa using hparts)
    intro chars hmem
    obtain ⟨part, hpart, rfl⟩ := List.mem_map.mp hmem
    exact hfree part hpart
  rw [split, hchars]
  simp

@[simp] theorem join_split (sep : Char) (s : String) : join sep (split sep s) = s := by
  apply String.toList_inj.mp
  simp [split, Function.comp_def, List.intercalate_splitOn]

@[simp] theorem split_of_free {sep : Char} {s : String} (h : Free sep s) : split sep s = [s] := by
  simp [split, List.splitOn_eq_singleton h]

theorem split_append {sep : Char} {a : String} (h : Free sep a) (s : String) :
    split sep (a ++ String.singleton sep ++ s) = a :: split sep s := by
  simp [split, List.splitOn_append_cons_self_of_not_mem h]

theorem join_inj_left {sep : Char} {a b u v : String} (ha : Free sep a) (hb : Free sep b)
    (h : a ++ String.singleton sep ++ u = b ++ String.singleton sep ++ v) : a = b ∧ u = v := by
  have hchars := congrArg String.toList h
  simp only [String.toList_append, String.toList_singleton, List.append_assoc,
    List.singleton_append] at hchars
  obtain ⟨hab, huv⟩ := append_cons_inj_left ha hb hchars
  exact ⟨String.toList_inj.mp hab, String.toList_inj.mp huv⟩

theorem join_inj_right {sep : Char} {a b u v : String} (hu : Free sep u) (hv : Free sep v)
    (h : a ++ String.singleton sep ++ u = b ++ String.singleton sep ++ v) : a = b ∧ u = v := by
  have hchars := congrArg (List.reverse ∘ String.toList) h
  simp only [Function.comp_apply, String.toList_append, String.toList_singleton,
    List.reverse_append, List.reverse_singleton, List.singleton_append] at hchars
  obtain ⟨huv, hab⟩ := append_cons_inj_left (by simpa [Free] using hu)
    (by simpa [Free] using hv) hchars
  exact ⟨String.toList_inj.mp (List.reverse_injective hab),
    String.toList_inj.mp (List.reverse_injective huv)⟩

/-- Parts without a separator can be joined in no other way. -/
theorem join_inj_of_free {sep : Char} {a b u v : String} (hb : Free sep b) (hv : Free sep v)
    (h : a ++ String.singleton sep ++ u = b ++ String.singleton sep ++ v) : a = b ∧ u = v := by
  refine join_inj_left ?_ hb h
  have hcount := congrArg (fun s => s.toList.count sep) h
  simp only [String.toList_append, String.toList_singleton, List.count_append,
    List.count_singleton_self, List.count_eq_zero_of_not_mem hb,
    List.count_eq_zero_of_not_mem hv] at hcount
  exact List.count_eq_zero.mp (by omega)

/-! ### Parts of a text -/

def contains (s sub : String) : Bool :=
  s.toList.tails.any fun rest => sub.toList.isPrefixOf rest

theorem contains_iff {s sub : String} : contains s sub ↔ sub.toList <:+: s.toList := by
  rw [contains, List.any_eq_true, List.infix_iff_prefix_suffix]
  refine exists_congr fun rest => ?_
  rw [List.mem_tails, List.isPrefixOf_iff_prefix, and_comm]

theorem infix_append_cons_iff {sep : Char} {sub a b : List Char} (hsep : sep ∉ sub) :
    sub <:+: a ++ sep :: b ↔ sub <:+: a ∨ sub <:+: b := by
  constructor
  · rintro ⟨before, after, heq⟩
    rw [List.append_assoc] at heq
    rcases List.append_eq_append_iff.mp heq with ⟨mid, rfl, htail⟩ | ⟨mid, rfl, htail⟩
    · rcases List.append_eq_append_iff.mp htail with ⟨rest, rfl, -⟩ | ⟨rest, rfl, hrest⟩
      · exact Or.inl ⟨before, rest, List.append_assoc ..⟩
      · cases rest with
        | nil => exact Or.inl ⟨before, [], by simp⟩
        | cons c rest =>
            obtain ⟨rfl, -⟩ := List.cons.inj hrest
            exact absurd (List.mem_append_right _ List.mem_cons_self) hsep
    · cases mid with
      | nil =>
          cases sub with
          | nil => exact Or.inl List.nil_infix
          | cons c sub =>
              obtain ⟨rfl, -⟩ := List.cons.inj htail
              exact absurd List.mem_cons_self hsep
      | cons c mid =>
          obtain ⟨-, rfl⟩ := List.cons.inj htail
          exact Or.inr (List.infix_append' mid sub after)
  · rintro (h | h)
    · exact List.infix_append_of_infix_left h
    · exact List.infix_append_of_infix_right (List.infix_cons h)

theorem infix_intercalate_iff {sep : Char} {sub : List Char} (hsep : sep ∉ sub) (hsub : sub ≠ [])
    (parts : List (List Char)) :
    sub <:+: [sep].intercalate parts ↔ ∃ part ∈ parts, sub <:+: part := by
  induction parts with
  | nil => simpa using hsub
  | cons part parts ih =>
      cases parts with
      | nil => simp
      | cons next parts =>
          rw [List.intercalate_cons_cons, List.append_assoc, List.singleton_append,
            infix_append_cons_iff hsep, ih]
          simp

theorem contains_join_iff {sep : Char} {sub : String} (hsep : Free sep sub) (hsub : sub ≠ "")
    (parts : List String) :
    contains (join sep parts) sub ↔ ∃ part ∈ parts, contains part sub := by
  have hchars : sub.toList ≠ [] := fun h => hsub (String.toList_inj.mp h)
  simp only [contains_iff, toList_join, infix_intercalate_iff hsep hchars,
    List.mem_map, exists_exists_and_eq_and]

end Wiremap.Library.Text
