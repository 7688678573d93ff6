import Mathlib.Data.List.Induction
import Mathlib.Data.List.Nodup
import Mathlib.Data.List.Perm.Basic

/-! Lists without two entries of one key, in the order the entries were added.
Adding an entry whose key is taken changes nothing. -/
namespace Wiremap.Library

structure KeyedList {α : Type u} {κ : Type v} (key : α → κ) where
  items : List α
  unique : (items.map key).Nodup

namespace KeyedList

variable {α : Type u} {κ : Type v} {key : α → κ}

def empty : KeyedList key := ⟨[], List.nodup_nil⟩

instance : Inhabited (KeyedList key) := ⟨empty⟩

@[simp] theorem items_empty : (empty : KeyedList key).items = [] := rfl

def keys (l : KeyedList key) : List κ := l.items.map key

@[simp] theorem keys_empty : (empty : KeyedList key).keys = [] := rfl

theorem mem_keys {l : KeyedList key} {k : κ} : k ∈ l.keys ↔ ∃ a ∈ l.items, key a = k :=
  List.mem_map

theorem eq_of_key_eq {l : KeyedList key} {a b : α} (ha : a ∈ l.items) (hb : b ∈ l.items)
    (h : key a = key b) : a = b :=
  List.inj_on_of_nodup_map l.unique ha hb h

def filter (l : KeyedList key) (p : α → Bool) : KeyedList key where
  items := l.items.filter p
  unique := l.unique.sublist (List.filter_sublist.map key)

variable [DecidableEq κ]

def has (l : KeyedList key) (k : κ) : Bool := l.items.any fun a => key a = k

theorem has_iff (l : KeyedList key) (k : κ) : l.has k ↔ k ∈ l.keys := by
  simp [has, keys]

def find (l : KeyedList key) (k : κ) : Option α := l.items.find? fun a => key a = k

theorem mem_of_find {l : KeyedList key} {k : κ} {a : α} (h : l.find k = some a) :
    a ∈ l.items ∧ key a = k :=
  ⟨List.mem_of_find?_eq_some h, by simpa using List.find?_some h⟩

theorem find_eq_some_iff {l : KeyedList key} {k : κ} {a : α} :
    l.find k = some a ↔ a ∈ l.items ∧ key a = k := by
  constructor
  · exact mem_of_find
  · rintro ⟨hmem, rfl⟩
    cases hfind : l.find (key a) with
    | none =>
        have hnot := List.find?_eq_none.mp hfind a hmem
        simp at hnot
    | some b =>
        obtain ⟨hmem', hkey⟩ := mem_of_find hfind
        rw [eq_of_key_eq hmem' hmem hkey]

def add (l : KeyedList key) (a : α) : KeyedList key :=
  if h : key a ∈ l.items.map key then l
  else
    { items := l.items ++ [a]
      unique := by
        rw [List.map_append, List.nodup_append]
        refine ⟨l.unique, by simp, fun k hk k' hk' => ?_⟩
        obtain rfl := by simpa using hk'
        intro heq
        exact h (heq ▸ hk) }

theorem mem_add {l : KeyedList key} {a b : α} :
    b ∈ (l.add a).items ↔ b ∈ l.items ∨ (b = a ∧ key a ∉ l.keys) := by
  unfold add keys
  split
  · rename_i htaken
    simp [htaken]
  · rename_i hfree
    simp [hfree]

@[simp] theorem mem_keys_add {l : KeyedList key} {a : α} {k : κ} :
    k ∈ (l.add a).keys ↔ k ∈ l.keys ∨ k = key a := by
  unfold add keys
  split
  · rename_i htaken
    constructor
    · exact Or.inl
    · rintro (hk | rfl)
      · exact hk
      · exact htaken
  · simp

theorem add_of_mem_keys {l : KeyedList key} {a : α} (h : key a ∈ l.keys) : l.add a = l :=
  dif_pos h

theorem items_add {l : KeyedList key} {a : α} (h : key a ∉ l.keys) :
    (l.add a).items = l.items ++ [a] :=
  congrArg items (dif_neg h)

/-- Add the entries in turn; of those with one key, the first to come stays. -/
def addAll (l : KeyedList key) (as : List α) : KeyedList key := as.foldl add l

@[simp] theorem addAll_nil (l : KeyedList key) : l.addAll [] = l := rfl

@[simp] theorem addAll_cons (l : KeyedList key) (a : α) (as : List α) :
    l.addAll (a :: as) = (l.add a).addAll as := rfl

@[simp] theorem addAll_append (l : KeyedList key) (as bs : List α) :
    l.addAll (as ++ bs) = (l.addAll as).addAll bs := List.foldl_append

@[simp] theorem mem_keys_addAll {l : KeyedList key} {as : List α} {k : κ} :
    k ∈ (l.addAll as).keys ↔ k ∈ l.keys ∨ ∃ a ∈ as, key a = k := by
  induction as generalizing l with
  | nil => simp
  | cons a as ih =>
      rw [addAll_cons, ih, mem_keys_add, or_assoc, eq_comm (a := k)]
      simp

theorem foldl_eq_addAll {β : Type w} {f : KeyedList key → β → KeyedList key}
    {entries : β → List α} {bs : List β} (h : ∀ l, ∀ b ∈ bs, f l b = l.addAll (entries b))
    (l : KeyedList key) : bs.foldl f l = l.addAll (bs.flatMap entries) := by
  induction bs generalizing l with
  | nil => rfl
  | cons b bs ih =>
      rw [List.foldl_cons, h l b List.mem_cons_self, List.flatMap_cons, addAll_append]
      exact ih (fun l b hb => h l b (List.mem_cons_of_mem _ hb)) _

theorem mem_addAll_of_mem {l : KeyedList key} {as : List α} {a : α} (h : a ∈ l.items) :
    a ∈ (l.addAll as).items := by
  induction as generalizing l with
  | nil => exact h
  | cons b as ih => exact ih (mem_add.mpr (Or.inl h))

theorem mem_of_mem_addAll {l : KeyedList key} {as : List α} {b : α}
    (h : b ∈ (l.addAll as).items) : b ∈ l.items ∨ b ∈ as ∧ key b ∉ l.keys := by
  induction as generalizing l with
  | nil => exact Or.inl h
  | cons a as ih =>
      rcases ih h with hadded | ⟨hlater, hfree⟩
      · rcases mem_add.mp hadded with hold | ⟨rfl, hfree⟩
        · exact Or.inl hold
        · exact Or.inr ⟨by simp, hfree⟩
      · refine Or.inr ⟨by simp [hlater], fun htaken => hfree ?_⟩
        exact mem_keys_add.mpr (Or.inl htaken)

theorem exists_mem_addAll {l : KeyedList key} {as : List α} {a : α} (h : a ∈ as) :
    ∃ b ∈ (l.addAll as).items, key b = key a :=
  mem_keys.mp (mem_keys_addAll.mpr (Or.inr ⟨a, h, rfl⟩))

theorem find_add (l : KeyedList key) (a : α) (k : κ) :
    (l.add a).find k = (l.find k).or (if key a = k then some a else none) := by
  unfold add find
  split
  · rename_i htaken
    by_cases hkey : key a = k
    · obtain ⟨b, hb, hbkey⟩ := List.mem_map.mp htaken
      have hsome : (l.items.find? fun b => key b = k).isSome :=
        List.find?_isSome.mpr ⟨b, hb, by simp [hbkey, hkey]⟩
      obtain ⟨found, hfound⟩ := Option.isSome_iff_exists.mp hsome
      rw [hfound]
      rfl
    · simp [hkey]
  · rw [List.find?_append, List.find?_singleton]
    simp

/-- Under each key the entry that was there, or else the first that is added. -/
theorem find_addAll (l : KeyedList key) (as : List α) (k : κ) :
    (l.addAll as).find k = (l.find k).or (as.find? fun a => key a = k) := by
  induction as generalizing l with
  | nil => simp
  | cons a as ih =>
      rw [addAll_cons, ih, find_add, Option.or_assoc, List.find?_cons]
      by_cases hkey : key a = k
      · simp [hkey]
      · simp [hkey]

theorem mem_addAll_empty {as : List α} {a : α} :
    a ∈ ((empty : KeyedList key).addAll as).items ↔ (as.find? fun b => key b = key a) = some a := by
  have hfind := find_addAll (empty : KeyedList key) as (key a)
  have hnone : (empty : KeyedList key).find (key a) = none := rfl
  rw [hnone, Option.none_or] at hfind
  rw [← hfind, find_eq_some_iff]
  simp

theorem items_addAll {l : KeyedList key} {as : List α} (h : ((l.items ++ as).map key).Nodup) :
    (l.addAll as).items = l.items ++ as := by
  induction as generalizing l with
  | nil => simp
  | cons a as ih =>
      have hfree : key a ∉ l.items.map key := by
        rw [List.map_append, List.nodup_append] at h
        intro htaken
        exact h.2.2 _ htaken _ (by simp) rfl
      have hadd := items_add hfree
      rw [addAll_cons, ih]
      · rw [hadd, List.append_assoc, List.singleton_append]
      · rwa [hadd, List.append_assoc, List.singleton_append]

theorem mem_add_id [DecidableEq α] {l : KeyedList (id : α → α)} {a b : α} :
    b ∈ (l.add a).items ↔ b ∈ l.items ∨ b = a := by
  rw [mem_add]
  constructor
  · exact Or.imp_right And.left
  · rintro (hmem | rfl)
    · exact Or.inl hmem
    · by_cases htaken : b ∈ l.items
      · exact Or.inl htaken
      · exact Or.inr ⟨rfl, by simpa [keys] using htaken⟩

theorem mem_addAll_id [DecidableEq α] {as : List α} {a : α} :
    a ∈ ((empty : KeyedList (id : α → α)).addAll as).items ↔ a ∈ as := by
  have hkeys : a ∈ ((empty : KeyedList (id : α → α)).addAll as).keys ↔ _ := mem_keys_addAll
  simpa [keys] using hkeys

theorem nodup_addAll_id [DecidableEq α] (as : List α) :
    ((empty : KeyedList (id : α → α)).addAll as).items.Nodup := by
  have hunique := ((empty : KeyedList (id : α → α)).addAll as).unique
  rwa [List.map_id] at hunique

/-- Entries stay in the order in which each first comes. -/
theorem ordered_addAll_id [DecidableEq α] (as : List α) :
    ((empty : KeyedList (id : α → α)).addAll as).items.Pairwise
      fun a b => as.idxOf a < as.idxOf b := by
  induction as using List.reverseRecOn with
  | nil => exact List.Pairwise.nil
  | append_singleton as a ih =>
      have hidx : ∀ b ∈ ((empty : KeyedList (id : α → α)).addAll as).items,
          (as ++ [a]).idxOf b = as.idxOf b := fun b hb =>
        List.idxOf_append_of_mem (mem_addAll_id.mp hb)
      have hold : ((empty : KeyedList (id : α → α)).addAll as).items.Pairwise
          fun b c => (as ++ [a]).idxOf b < (as ++ [a]).idxOf c := by
        refine ih.imp_of_mem ?_
        intro b c hb hc hlt
        rwa [hidx b hb, hidx c hc]
      rw [addAll_append, addAll_cons, addAll_nil]
      by_cases ha : a ∈ as
      · rwa [add_of_mem_keys (by simpa [keys, mem_addAll_id] using ha)]
      · rw [items_add (by simpa [keys, mem_addAll_id] using ha), List.pairwise_append]
        refine ⟨hold, List.pairwise_singleton _ _, ?_⟩
        intro b hb c hc
        obtain rfl := List.mem_singleton.mp hc
        rw [hidx b hb, List.idxOf_append_of_notMem ha]
        have hlt := List.idxOf_lt_length_of_mem (mem_addAll_id.mp hb)
        omega

end KeyedList
end Wiremap.Library
