import Mathlib.Algebra.Order.BigOperators.Group.List
import Mathlib.Data.List.Basic

/-! What a map keeps of a list in which one element changes, where the elements
of a list stand when it grows, and which of them a search finds. -/
namespace Wiremap.Library.Lists

variable {α β : Type*}

theorem map_modify {f : α → α} {g : α → β} {k : β → β} (h : ∀ a, g (f a) = k (g a))
    (l : List α) (i : Nat) : (l.modify i f).map g = (l.map g).modify i k := by
  refine List.ext_getElem? fun j => ?_
  rw [List.getElem?_map, List.getElem?_modify, List.getElem?_modify, List.getElem?_map]
  cases l[j]? with
  | none => rfl
  | some a =>
      by_cases hj : i = j
      · simp [hj, h]
      · simp [hj]

theorem map_modify_eq {f : α → α} {g : α → β} (h : ∀ a, g (f a) = g a) (l : List α) (i : Nat) :
    (l.modify i f).map g = l.map g := by
  have hmap : (l.modify i f).map g = (l.map g).modify i id := map_modify h l i
  rw [hmap, List.modify_id]

theorem getElem?_append_singleton {l : List α} {a b : α} {i : Nat} :
    (l ++ [a])[i]? = some b ↔ l[i]? = some b ∨ i = l.length ∧ a = b := by
  rcases Nat.lt_trichotomy i l.length with hlt | rfl | hgt
  · simp [List.getElem?_append_left hlt, Nat.ne_of_lt hlt]
  · simp
  · have hout : (l ++ [a])[i]? = none := by simp; omega
    simp [hout, Nat.le_of_lt hgt, Nat.ne_of_gt hgt]

theorem rel_of_find? {R : α → α → Prop} {p : α → Bool} {l : List α} {a b : α} (h : l.Pairwise R)
    (hfind : l.find? p = some a) (hmem : b ∈ l) (hb : p b) : b = a ∨ R a b := by
  obtain ⟨-, before, after, rfl, hbefore⟩ := List.find?_eq_some_iff_append.mp hfind
  rcases List.mem_append.mp hmem with hmem | hmem
  · have hmiss := hbefore b hmem
    simp [hb] at hmiss
  · rcases List.mem_cons.mp hmem with rfl | hmem
    · exact .inl rfl
    · exact .inr (List.rel_of_pairwise_cons (List.pairwise_append.mp h).2.1 hmem)

/-- A way to sort which may leave equal elements in either order. -/
structure Sorting (less : α → α → Bool) where
  sort : List α → List α
  perm : ∀ l, (sort l).Perm l
  sorted : ∀ l, (sort l).Pairwise fun a b => less b a = false

def Sorting.byKey {κ : Type*} [LinearOrder κ] {less : α → α → Bool} (key : α → κ)
    (hless : ∀ a b, less a b = false ↔ key b ≤ key a) : Sorting less where
  sort l := l.mergeSort fun a b => !less b a
  perm l := List.mergeSort_perm l _
  sorted l := by
    have hle : ∀ a b, (!less b a) = true ↔ key a ≤ key b := fun a b => by
      rw [Bool.not_eq_true', hless]
    refine (List.pairwise_mergeSort (fun a b c hab hbc => ?_) (fun a b => ?_) l).imp fun h => ?_
    · exact (hle a c).mpr (le_trans ((hle a b).mp hab) ((hle b c).mp hbc))
    · rw [Bool.or_eq_true, hle, hle]
      exact le_total _ _
    · exact Bool.not_eq_true' _ ▸ h

/-- A sum whose terms have keys of their own is at most that over a list in which each of
them finds a term of its key that is no less. -/
theorem sum_map_le_of_keys {κ M : Type*} [AddCommMonoid M] [PartialOrder M] [IsOrderedAddMonoid M]
    (key : α → κ) (key' : β → κ) {f : α → M} {g : β → M} {as : List α} {bs : List β}
    (hkeys : (as.map key).Nodup) (hpos : ∀ b ∈ bs, 0 ≤ g b)
    (h : ∀ a ∈ as, ∃ b ∈ bs, key' b = key a ∧ f a ≤ g b) : (as.map f).sum ≤ (bs.map g).sum := by
  induction as generalizing bs with
  | nil =>
      refine List.sum_nonneg fun term hterm => ?_
      obtain ⟨b, hb, rfl⟩ := List.mem_map.mp hterm
      exact hpos b hb
  | cons a as ih =>
      obtain ⟨b, hb, hkey, hle⟩ := h a List.mem_cons_self
      obtain ⟨before, after, rfl⟩ := List.append_of_mem hb
      have hrest : (as.map f).sum ≤ ((before ++ after).map g).sum := by
        refine ih (List.nodup_cons.mp hkeys).2 (fun b' hb' => hpos b' ?_) fun a' ha' => ?_
        · exact (List.Sublist.append_left (List.sublist_cons_self b after) before).subset hb'
        · obtain ⟨b', hb', hkey', hle'⟩ := h a' (List.mem_cons_of_mem a ha')
          refine ⟨b', ?_, hkey', hle'⟩
          rcases List.mem_append.mp hb' with hmem | hmem
          · exact List.mem_append_left _ hmem
          · rcases List.mem_cons.mp hmem with rfl | hmem
            · have htaken : key a ∈ as.map key := List.mem_map.mpr ⟨a', ha', hkey'.symm.trans hkey⟩
              exact absurd htaken (List.nodup_cons.mp hkeys).1
            · exact List.mem_append_right _ hmem
      calc ((a :: as).map f).sum = f a + (as.map f).sum := by rw [List.map_cons, List.sum_cons]
        _ ≤ g b + ((before ++ after).map g).sum := add_le_add hle hrest
        _ = ((before ++ b :: after).map g).sum := by
            simp only [List.map_append, List.map_cons, List.sum_append, List.sum_cons]
            rw [add_left_comm]

end Wiremap.Library.Lists
