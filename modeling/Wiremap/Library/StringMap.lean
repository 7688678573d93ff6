import Mathlib.Data.List.AList
import Mathlib.Data.String.Basic

/-! Maps from text, as an unordered program map: what matters of one is `lookup`. -/
namespace Wiremap.Library

abbrev StringMap (V : Type u) := AList fun _ : String => V

namespace StringMap

variable {V : Type u} {W : Type v}

def mapValues (f : V → W) (m : StringMap V) : StringMap W where
  entries := m.entries.map (Sigma.map id fun _ => f)
  nodupKeys := m.nodupKeys.map₂ _

@[simp] theorem lookup_mapValues (f : V → W) (m : StringMap V) (key : String) :
    (mapValues f m).lookup key = (m.lookup key).map f :=
  List.dlookup_map₂ key

def allValues (p : V → Bool) (m : StringMap V) : Bool := m.entries.all fun entry => p entry.2

theorem allValues_iff (p : V → Bool) (m : StringMap V) :
    m.allValues p ↔ ∀ key value, m.lookup key = some value → p value := by
  simp only [allValues, List.all_eq_true]
  constructor
  · intro h key value hlookup
    exact h ⟨key, value⟩ (List.of_mem_dlookup hlookup)
  · intro h entry hmem
    exact h entry.1 entry.2 (List.mem_dlookup m.nodupKeys hmem)

theorem lookup_union (m m' : StringMap V) (key : String) :
    (m ∪ m').lookup key = (m.lookup key).or (m'.lookup key) := by
  cases hlookup : m.lookup key with
  | none =>
      rw [AList.lookup_union_right (AList.lookup_eq_none.mp hlookup)]
      rfl
  | some value =>
      have hmem : key ∈ m := AList.lookup_isSome.mp (by simp [hlookup])
      rw [AList.lookup_union_left hmem, hlookup]
      rfl

theorem lookup_insert (m : StringMap V) (key key' : String) (value : V) :
    (m.insert key value).lookup key' = if key' = key then some value else m.lookup key' := by
  split
  · rename_i heq
    rw [heq, AList.lookup_insert]
  · rename_i hne
    exact AList.lookup_insert_ne hne

theorem isSome_lookup_insert (m : StringMap V) (key key' : String) (value : V) :
    ((m.insert key value).lookup key').isSome = (decide (key = key') || (m.lookup key').isSome) := by
  rw [lookup_insert]
  by_cases h : key' = key
  · simp [h]
  · simp [h, Ne.symm h]

/-- Insert the entries in turn; of those under one key, the last to come stays. -/
def insertAll (m : StringMap V) (entries : List (String × V)) : StringMap V :=
  entries.foldl (fun m entry => m.insert entry.1 entry.2) m

@[simp] theorem insertAll_nil (m : StringMap V) : m.insertAll [] = m := rfl

@[simp] theorem insertAll_append (m : StringMap V) (entries entries' : List (String × V)) :
    m.insertAll (entries ++ entries') = (m.insertAll entries).insertAll entries' :=
  List.foldl_append

theorem lookup_foldl_insert (key : V → String) {values : List V}
    (hkeys : (values.map key).Nodup) (m : StringMap V) (k : String) :
    (values.foldl (fun m value => m.insert (key value) value) m).lookup k =
      (values.find? fun value => key value = k).or (m.lookup k) := by
  induction values generalizing m with
  | nil => rfl
  | cons value values ih =>
      rw [List.map_cons, List.nodup_cons] at hkeys
      rw [List.foldl_cons, ih hkeys.2, lookup_insert, List.find?_cons]
      by_cases hkey : key value = k
      · have hlater : (values.find? fun value => key value = k) = none := by
          simp only [List.find?_eq_none, decide_eq_true_eq]
          intro other hother hsame
          exact hkeys.1 (List.mem_map.mpr ⟨other, hother, hsame.trans hkey.symm⟩)
        simp [hkey, hlater]
      · simp [hkey, Ne.symm hkey]

theorem mem_foldl_insert (key : V → String) (values : List V) (m : StringMap V) {k : String} :
    k ∈ values.foldl (fun m value => m.insert (key value) value) m ↔
      k ∈ m ∨ ∃ value ∈ values, key value = k := by
  induction values generalizing m with
  | nil => simp
  | cons value values ih =>
      rw [List.foldl_cons, ih, AList.mem_insert, List.exists_mem_cons_iff, eq_comm]
      tauto

theorem key_of_lookup_foldl_insert (key : V → String) (values : List V) {k : String} {value : V}
    (h : (values.foldl (fun m value => m.insert (key value) value) (∅ : StringMap V)).lookup k =
      some value) : key value = k := by
  have hkeyed : ∀ k value, (values.foldl (fun m value => m.insert (key value) value)
      (∅ : StringMap V)).lookup k = some value → key value = k := by
    apply List.foldlRecOn (motive := fun m : StringMap V =>
      ∀ k value, m.lookup k = some value → key value = k)
    · intro k value hlookup
      simp at hlookup
    · intro m hm value _ k found hlookup
      rw [lookup_insert] at hlookup
      split at hlookup
      · rw [← Option.some.inj hlookup]
        exact Eq.symm ‹_›
      · exact hm k found hlookup
  exact hkeyed k value h

theorem lookup_erase (m : StringMap V) (key key' : String) :
    (m.erase key).lookup key' = if key' = key then none else m.lookup key' := by
  split
  · rename_i heq
    rw [heq, AList.lookup_erase]
  · rename_i hne
    exact AList.lookup_erase_ne hne

def sorted (m : StringMap V) : List (String × V) :=
  (m.entries.map fun entry => (entry.1, entry.2)).mergeSort fun a b => a.1 ≤ b.1

theorem sorted_congr {m m' : StringMap V} (h : ∀ key, m.lookup key = m'.lookup key) :
    m.sorted = m'.sorted := by
  have hperm : m.entries.Perm m'.entries :=
    List.lookup_ext m.nodupKeys m'.nodupKeys fun key value => by
      rw [show m.entries.dlookup key = m'.entries.dlookup key from h key]
  have hsorted : ∀ entries : List (String × V),
      (entries.mergeSort fun a b => a.1 ≤ b.1).Pairwise fun a b => a.1 ≤ b.1 := by
    intro entries
    have htrans : ∀ a b c : String × V, decide (a.1 ≤ b.1) → decide (b.1 ≤ c.1) →
        decide (a.1 ≤ c.1) := by
      intro a b c hab hbc
      exact decide_eq_true ((of_decide_eq_true hab).trans (of_decide_eq_true hbc))
    have htotal : ∀ a b : String × V, decide (a.1 ≤ b.1) || decide (b.1 ≤ a.1) := by
      intro a b
      simpa using le_total a.1 b.1
    exact (List.pairwise_mergeSort htrans htotal entries).imp of_decide_eq_true
  refine List.Perm.eq_of_pairwise ?_ (hsorted _) (hsorted _)
    ((List.mergeSort_perm _ _).trans ((hperm.map _).trans (List.mergeSort_perm _ _).symm))
  -- a key has one entry, so entries with the same key are one
  rintro ⟨key, value⟩ ⟨key', value'⟩ hmem hmem' hle hle'
  obtain rfl : key = key' := le_antisymm hle hle'
  have hlookup : ∀ {m : StringMap V} {value : V},
      (key, value) ∈ (m.entries.map fun entry => (entry.1, entry.2)).mergeSort
        (fun a b => a.1 ≤ b.1) → m.lookup key = some value := by
    intro m value hmem
    obtain ⟨⟨found, _⟩, hentry, heq⟩ := List.mem_map.mp (List.mem_mergeSort.mp hmem)
    cases heq
    exact List.mem_dlookup m.nodupKeys hentry
  have hsame := (hlookup hmem).symm.trans ((h key).trans (hlookup hmem'))
  rw [Option.some.inj hsame]

theorem length_congr {m m' : StringMap V} (h : ∀ key, m.lookup key = m'.lookup key) :
    m.entries.length = m'.entries.length := by
  have hlength : ∀ m : StringMap V, m.sorted.length = m.entries.length := by
    intro m
    rw [sorted, List.length_mergeSort, List.length_map]
  rw [← hlength, sorted_congr h, hlength]

end StringMap
end Wiremap.Library
