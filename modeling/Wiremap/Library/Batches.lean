import Wiremap.Library.KeyedList

/-! Entries added to a keyed list in batches, one batch after the other.  The blocks
of a batch come in any order, and the order shows in what is added unless all blocks
of the batch that add anything add the same. -/
namespace Wiremap.Library.KeyedList

variable {α : Type u} {κ : Type v} {key : α → κ} [DecidableEq κ]

/-- The keys that a block adds where those of `taken` are there already. -/
def freshKeys (key : α → κ) (taken : List κ) (block : List α) : List κ :=
  (block.map key).filter fun k => k ∉ taken

/-- The blocks of a batch that add anything add the same. -/
def Agree (key : α → κ) (taken : List κ) (batch : List (List α)) : Prop :=
  ∀ x ∈ batch, ∀ y ∈ batch, freshKeys key taken x = [] ∨ freshKeys key taken y = [] ∨
    freshKeys key taken x = freshKeys key taken y

instance (taken : List κ) (batch : List (List α)) : Decidable (Agree key taken batch) :=
  inferInstanceAs (Decidable (∀ x ∈ batch, ∀ y ∈ batch, _))

/-- The blocks of every batch agree after the batches before it. -/
def Steady (key : α → κ) (taken : List κ) : List (List (List α)) → Prop
  | [] => True
  | batch :: rest => Agree key taken batch ∧ Steady key (taken ++ batch.flatten.map key) rest

instance decidableSteady (taken : List κ) :
    ∀ schedule : List (List (List α)), Decidable (Steady key taken schedule)
  | [] => isTrue trivial
  | batch :: rest =>
      haveI := decidableSteady (taken ++ batch.flatten.map key) rest
      inferInstanceAs (Decidable (Agree key taken batch ∧ _))

/-- Two blocks are one, or hold the same entry under each key. -/
def Compatible (key : α → κ) (x y : List α) : Prop :=
  x = y ∨ ∀ a ∈ x, ∀ b ∈ y, key a = key b → a = b

/-- The blocks of a batch are compatible, and the first key that a block adds tells
all that it adds. -/
structure Uniform (key : α → κ) (batch : List (List α)) : Prop where
  entry : ∀ x ∈ batch, ∀ y ∈ batch, Compatible key x y
  first : ∀ taken, ∀ x ∈ batch, ∀ y ∈ batch, freshKeys key taken x ≠ [] →
    (freshKeys key taken x).head? = (freshKeys key taken y).head? →
      freshKeys key taken x = freshKeys key taken y

/-! ### One block -/

theorem mem_freshKeys {taken : List κ} {block : List α} {k : κ} :
    k ∈ freshKeys key taken block ↔ (∃ a ∈ block, key a = k) ∧ k ∉ taken := by
  simp [freshKeys]

@[simp] theorem freshKeys_nil (taken : List κ) : freshKeys key taken [] = [] := rfl

theorem freshKeys_cons (taken : List κ) (a : α) (block : List α) :
    freshKeys key taken (a :: block) =
      if key a ∈ taken then freshKeys key taken block else key a :: freshKeys key taken block := by
  unfold freshKeys
  split
  · simp [*]
  · simp [*]

theorem freshKeys_congr {taken taken' : List κ} (h : ∀ k, k ∈ taken ↔ k ∈ taken') (block : List α) :
    freshKeys key taken block = freshKeys key taken' block := by
  unfold freshKeys
  refine List.filter_congr fun k _ => ?_
  simp only [h k]

omit [DecidableEq κ] in
theorem eq_of_map_eq {xs ys : List α} (hentry : ∀ a ∈ xs, ∀ b ∈ ys, key a = key b → a = b)
    (h : xs.map key = ys.map key) : xs = ys := by
  induction xs generalizing ys with
  | nil => exact (List.map_eq_nil_iff.mp h.symm).symm
  | cons a xs ih =>
      cases ys with
      | nil => cases h
      | cons b ys =>
          rw [List.map_cons, List.map_cons, List.cons.injEq] at h
          rw [hentry a (by simp) b (by simp) h.1,
            ih (fun a' ha b' hb => hentry a' (by simp [ha]) b' (by simp [hb])) h.2]

theorem addAll_filter {taken : List κ} {l : KeyedList key} (htaken : ∀ k ∈ taken, k ∈ l.keys)
    (block : List α) : l.addAll block = l.addAll (block.filter fun a => key a ∉ taken) := by
  induction block generalizing l with
  | nil => rfl
  | cons a block ih =>
      by_cases ha : key a ∈ taken
      · rw [List.filter_cons_of_neg (by simpa using ha), addAll_cons,
          add_of_mem_keys (htaken _ ha), ih htaken]
      · rw [List.filter_cons_of_pos (by simpa using ha), addAll_cons, addAll_cons]
        exact ih fun k hk => mem_keys_add.mpr (.inl (htaken k hk))

theorem addAll_congr {l : KeyedList key} {x y : List α} (hentry : Compatible key x y)
    (h : freshKeys key l.keys x = freshKeys key l.keys y) : l.addAll x = l.addAll y := by
  rcases hentry with rfl | hentry
  · rfl
  have hkeys : ∀ z : List α, freshKeys key l.keys z =
      (z.filter fun a => key a ∉ l.keys).map key := by
    intro z
    rw [freshKeys, List.filter_map]
    rfl
  rw [hkeys, hkeys] at h
  rw [addAll_filter (fun _ hk => hk) x, addAll_filter (fun _ hk => hk) y,
    eq_of_map_eq (fun a ha b hb => hentry a (List.mem_of_mem_filter ha) b
      (List.mem_of_mem_filter hb)) h]

theorem addAll_of_freshKeys_nil {l : KeyedList key} {x : List α} (h : freshKeys key l.keys x = []) :
    l.addAll x = l :=
  addAll_congr (y := []) (.inr (by simp)) h

theorem items_add_of_free {l : KeyedList key} {a : α} (h : key a ∉ l.keys) :
    (l.add a).items = l.items ++ [a] := by
  unfold keys at h
  rw [add, dif_neg h]

theorem items_prefix_addAll (l : KeyedList key) (as : List α) :
    ∃ added, (l.addAll as).items = l.items ++ added := by
  induction as generalizing l with
  | nil => exact ⟨[], by simp⟩
  | cons a as ih =>
      obtain ⟨added, hadded⟩ := ih (l.add a)
      by_cases ha : key a ∈ l.keys
      · rw [add_of_mem_keys ha] at hadded
        exact ⟨added, by rw [addAll_cons, add_of_mem_keys ha, hadded]⟩
      · rw [items_add_of_free ha] at hadded
        exact ⟨a :: added, by rw [addAll_cons, hadded, List.append_assoc, List.singleton_append]⟩

theorem key_of_first {l : KeyedList key} {x : List α} (hfresh : freshKeys key l.keys x ≠ [])
    (rest : List α) :
    ((l.addAll (x ++ rest)).items[l.items.length]?).map key = (freshKeys key l.keys x).head? := by
  induction x with
  | nil => exact absurd rfl hfresh
  | cons a x ih =>
      by_cases ha : key a ∈ l.keys
      · have hskip : freshKeys key l.keys (a :: x) = freshKeys key l.keys x := by
          simp [freshKeys, ha]
        rw [hskip] at hfresh ⊢
        rw [List.cons_append, addAll_cons, add_of_mem_keys ha]
        exact ih hfresh
      · obtain ⟨added, hadded⟩ := items_prefix_addAll (l.add a) (x ++ rest)
        rw [items_add_of_free ha] at hadded
        rw [List.cons_append, addAll_cons, hadded]
        simp [freshKeys, ha]

/-! ### One batch -/

theorem Uniform.singles {entries : List α}
    (hentry : ∀ a ∈ entries, ∀ b ∈ entries, key a = key b → a = b) :
    Uniform key (entries.map fun a => [a]) where
  entry x hx y hy := by
    obtain ⟨a, ha, rfl⟩ := List.mem_map.mp hx
    obtain ⟨b, hb, rfl⟩ := List.mem_map.mp hy
    refine .inr fun a' ha' b' hb' => ?_
    rw [List.mem_singleton.mp ha', List.mem_singleton.mp hb']
    exact hentry a ha b hb
  first taken x hx y hy hfresh hhead := by
    obtain ⟨a, -, rfl⟩ := List.mem_map.mp hx
    obtain ⟨b, -, rfl⟩ := List.mem_map.mp hy
    rw [freshKeys_cons, freshKeys_nil] at hfresh hhead ⊢
    rw [freshKeys_cons, freshKeys_nil] at hhead ⊢
    split at hfresh
    · exact absurd rfl hfresh
    · rw [if_neg ‹_›] at hhead ⊢
      split at hhead
      · cases hhead
      · rw [if_neg ‹_›]
        simpa using hhead

/-- A batch that agrees adds what any of its blocks does that adds anything. -/
theorem addAll_flatten_of_agree {l : KeyedList key} {batch blocks : List (List α)}
    (hentry : ∀ x ∈ batch, ∀ y ∈ batch, Compatible key x y)
    (hagree : Agree key l.keys batch) (hblocks : ∀ x ∈ blocks, x ∈ batch) {x : List α}
    (hx : x ∈ blocks) (hfresh : freshKeys key l.keys x ≠ []) :
    l.addAll blocks.flatten = l.addAll x := by
  induction blocks with
  | nil => cases hx
  | cons b blocks ih =>
      rw [List.flatten_cons, addAll_append]
      by_cases hb : freshKeys key l.keys b = []
      · rw [addAll_of_freshKeys_nil hb]
        refine ih (fun y hy => hblocks y (by simp [hy])) ((List.mem_cons.mp hx).resolve_left ?_)
        rintro rfl
        exact hfresh hb
      · have hsame : ∀ y ∈ b :: blocks, freshKeys key l.keys y = [] ∨
            freshKeys key l.keys y = freshKeys key l.keys b := fun y hy =>
          (hagree y (hblocks y hy) b (hblocks b (by simp))).imp_right fun h => h.resolve_left hb
        have hbx : l.addAll b = l.addAll x :=
          addAll_congr (hentry b (hblocks b (by simp)) x (hblocks x hx))
            ((hsame x hx).resolve_left hfresh).symm
        rw [← hbx]
        refine addAll_of_freshKeys_nil (List.filter_eq_nil_iff.mpr fun k hk => ?_)
        -- whatever a later block holds was taken before the batch, or added by this block
        obtain ⟨a, ha, rfl⟩ := List.mem_map.mp hk
        obtain ⟨y, hy, hay⟩ := List.mem_flatten.mp ha
        simp only [decide_not, Bool.not_eq_true', decide_eq_false_iff_not, not_not,
          mem_keys_addAll]
        by_cases htaken : key a ∈ l.keys
        · exact .inl htaken
        · right
          have hmem : key a ∈ freshKeys key l.keys y := mem_freshKeys.mpr ⟨⟨a, hay, rfl⟩, htaken⟩
          rcases hsame y (by simp [hy]) with hnone | hall
          · rw [hnone] at hmem
            cases hmem
          · rw [hall] at hmem
            exact (mem_freshKeys.mp hmem).1

theorem addAll_flatten_perm {l : KeyedList key} {batch batch' : List (List α)}
    (hentry : ∀ x ∈ batch, ∀ y ∈ batch, Compatible key x y)
    (hagree : Agree key l.keys batch) (hperm : batch.Perm batch') :
    l.addAll batch.flatten = l.addAll batch'.flatten := by
  by_cases hsome : ∃ x ∈ batch, freshKeys key l.keys x ≠ []
  · obtain ⟨x, hx, hfresh⟩ := hsome
    rw [addAll_flatten_of_agree hentry hagree (fun _ h => h) hx hfresh,
      addAll_flatten_of_agree hentry hagree (fun _ h => hperm.mem_iff.mpr h)
        (hperm.mem_iff.mp hx) hfresh]
  · push Not at hsome
    have hnone : ∀ blocks : List (List α), (∀ x ∈ blocks, x ∈ batch) →
        l.addAll blocks.flatten = l := by
      intro blocks hblocks
      induction blocks with
      | nil => rfl
      | cons b blocks ih =>
          rw [List.flatten_cons, addAll_append,
            addAll_of_freshKeys_nil (hsome b (hblocks b (by simp))),
            ih fun y hy => hblocks y (by simp [hy])]
    rw [hnone batch fun _ h => h, hnone batch' fun _ h => hperm.mem_iff.mpr h]

/-! ### Schedules -/

theorem split_at {β : Type*} {l : List β} {i : Nat} {b : β} (h : l[i]? = some b) :
    ∃ before after, l = before ++ b :: after ∧ before.length = i := by
  obtain ⟨hlt, rfl⟩ := List.getElem?_eq_some_iff.mp h
  refine ⟨l.take i, l.drop (i + 1), ?_, List.length_take_of_le (Nat.le_of_lt hlt)⟩
  rw [← List.drop_eq_getElem_cons hlt, List.take_append_drop]

theorem addAll_of_steady {schedule schedule' : List (List (List α))} {taken : List κ}
    {l : KeyedList key} (htaken : ∀ k, k ∈ taken ↔ k ∈ l.keys)
    (hentry : ∀ batch ∈ schedule, Uniform key batch)
    (hperm : List.Forall₂ List.Perm schedule schedule') (h : Steady key taken schedule) :
    l.addAll schedule.flatten.flatten = l.addAll schedule'.flatten.flatten := by
  induction hperm generalizing taken l with
  | nil => rfl
  | @cons batch batch' rest rest' hbatch _ ih =>
      obtain ⟨hagree, hrest⟩ := h
      have hagree' : Agree key l.keys batch := by
        intro x hx y hy
        rw [← freshKeys_congr htaken, ← freshKeys_congr htaken]
        exact hagree x hx y hy
      rw [List.flatten_cons, List.flatten_cons, List.flatten_append, List.flatten_append,
        addAll_append, addAll_append,
        addAll_flatten_perm (hentry batch (by simp)).entry hagree' hbatch]
      refine ih ?_ (fun b hb => hentry b (by simp [hb])) hrest
      intro k
      rw [List.mem_append, htaken, mem_keys_addAll, List.mem_map]
      simp only [(hbatch.flatten).mem_iff]

/-- Where a schedule is not steady, the blocks of some batch do not agree. -/
theorem exists_of_not_steady {schedule : List (List (List α))} {taken : List κ}
    (h : ¬Steady key taken schedule) :
    ∃ before batch after, schedule = before ++ batch :: after ∧
      ¬Agree key (taken ++ before.flatten.flatten.map key) batch := by
  induction schedule generalizing taken with
  | nil => exact absurd trivial h
  | cons batch rest ih =>
      by_cases hagree : Agree key taken batch
      · obtain ⟨before, odd, after, rfl, hodd⟩ := ih fun hrest => h ⟨hagree, hrest⟩
        refine ⟨batch :: before, odd, after, rfl, ?_⟩
        rwa [List.flatten_cons, List.flatten_append, List.map_append, ← List.append_assoc]
      · exact ⟨[], batch, rest, rfl, by simpa using hagree⟩

/-- Schedules that differ in the order of blocks only, where every block of a batch
comes first in some of them. -/
structure Reorderable {ι : Type w} (key : α → κ) (schedule : ι → List (List (List α))) : Prop where
  perm : ∀ o o', List.Forall₂ List.Perm (schedule o) (schedule o')
  uniform : ∀ o, ∀ batch ∈ schedule o, Uniform key batch
  first : ∀ (o : ι) (i : Nat) batch, (schedule o)[i]? = some batch → ∀ x ∈ batch,
    ∃ o' rest, (schedule o')[i]? = some (x :: rest)

namespace Reorderable

variable {ι : Type w} {schedule schedule' : ι → List (List (List α))}

theorem batch {blocks : ι → List (List α)} (hperm : ∀ o o', (blocks o).Perm (blocks o'))
    (huniform : ∀ o, Uniform key (blocks o))
    (hfirst : ∀ o, ∀ x ∈ blocks o, ∃ o' rest, blocks o' = x :: rest) :
    Reorderable key fun o => [blocks o] where
  perm o o' := .cons (hperm o o') .nil
  uniform o batch hbatch := by
    rw [List.mem_singleton.mp hbatch]
    exact huniform o
  first o i batch hi x hx := by
    obtain ⟨rfl, rfl⟩ := by simpa [List.getElem?_singleton] using hi
    obtain ⟨o', rest, hrest⟩ := hfirst o x hx
    exact ⟨o', rest, by simp [hrest]⟩

theorem block (x : List α) : Reorderable key fun _ : ι => [[x]] := by
  refine batch (fun _ _ => .refl _) (fun _ => ⟨?_, ?_⟩) fun o y hy => ?_
  · intro y hy z hz
    rw [List.mem_singleton.mp hy, List.mem_singleton.mp hz]
    exact .inl rfl
  · intro taken y hy z hz _ _
    rw [List.mem_singleton.mp hy, List.mem_singleton.mp hz]
  · rw [List.mem_singleton.mp hy]
    exact ⟨o, [], rfl⟩

theorem nil : Reorderable key fun _ : ι => [] where
  perm _ _ := .nil
  uniform _ _ h := by cases h
  first _ _ _ h := by cases h

theorem append (h : Reorderable key schedule) (h' : Reorderable key schedule') :
    Reorderable key fun o => schedule o ++ schedule' o where
  perm o o' := List.rel_append (h.perm o o') (h'.perm o o')
  uniform o batch hbatch := (List.mem_append.mp hbatch).elim (h.uniform o batch) (h'.uniform o batch)
  first o i batch hi x hx := by
    have hlength : ∀ o', (schedule o').length = (schedule o).length := fun o' =>
      (h.perm o' o).length_eq
    by_cases hleft : i < (schedule o).length
    · rw [List.getElem?_append_left hleft] at hi
      obtain ⟨o', rest, hrest⟩ := h.first o i batch hi x hx
      exact ⟨o', rest, by rw [List.getElem?_append_left (hlength o' ▸ hleft), hrest]⟩
    · rw [List.getElem?_append_right (by omega)] at hi
      obtain ⟨o', rest, hrest⟩ := h'.first o _ batch hi x hx
      refine ⟨o', rest, ?_⟩
      rw [List.getElem?_append_right (by rw [hlength]; omega), hlength, hrest]

theorem flatMap {β : Type*} {part : ι → β → List (List (List α))} {l : List β}
    (h : ∀ b ∈ l, Reorderable key fun o => part o b) :
    Reorderable key fun o => l.flatMap (part o) := by
  induction l with
  | nil => exact nil
  | cons b l ih => exact (h b (by simp)).append (ih fun b' hb' => h b' (by simp [hb']))

theorem keys_before (h : Reorderable key schedule) {o o' : ι}
    {before before' rest rest' : List (List (List α))} (ho : schedule o = before ++ rest)
    (ho' : schedule o' = before' ++ rest') (hlength : before'.length = before.length) (k : κ) :
    (∃ a ∈ before.flatten.flatten, key a = k) ↔ ∃ a ∈ before'.flatten.flatten, key a = k := by
  have hperm := h.perm o o'
  rw [ho, ho'] at hperm
  have htake := List.forall₂_take before.length hperm
  rw [List.take_left, ← hlength, List.take_left] at htake
  have hflat : before.flatten.Perm before'.flatten := by
    clear ho ho' hlength hperm
    induction htake with
    | nil => exact .nil
    | cons hbatch _ ih => exact hbatch.append ih
  exact exists_congr fun a => and_congr_left' hflat.flatten.mem_iff

/-- The order never shows exactly where the schedule is steady. -/
theorem steady_iff (h : Reorderable key schedule) (o₀ : ι) :
    (∀ o o', ((empty : KeyedList key).addAll (schedule o).flatten.flatten).items =
      ((empty : KeyedList key).addAll (schedule o').flatten.flatten).items) ↔
      Steady key [] (schedule o₀) := by
  constructor
  · intro hsame
    by_contra hsteady
    obtain ⟨before, batch, after, hschedule, hodd⟩ := exists_of_not_steady hsteady
    simp only [Agree, List.nil_append, not_forall, not_or] at hodd
    obtain ⟨x, hx, y, hy, hfreshx, hfreshy, hdiffer⟩ := hodd
    have hat : (schedule o₀)[before.length]? = some batch := by simp [hschedule]
    obtain ⟨o, rest₁, hat₁⟩ := h.first o₀ before.length batch hat x hx
    obtain ⟨o', rest₂, hat₂⟩ := h.first o₀ before.length batch hat y hy
    obtain ⟨before₁, after₁, ho, hlength₁⟩ := split_at hat₁
    obtain ⟨before₂, after₂, ho', hlength₂⟩ := split_at hat₂
    -- both orders have drawn the same keys when the batch begins, and then show its first block
    have htaken : ∀ {p : ι} {before' later : List (List (List α))},
        schedule p = before' ++ later → before'.length = before.length → ∀ k,
          k ∈ before.flatten.flatten.map key ↔
            k ∈ ((empty : KeyedList key).addAll before'.flatten.flatten).keys := by
      intro p before' later hp hlength k
      rw [mem_keys_addAll, List.mem_map, h.keys_before hschedule hp hlength]
      simp
    have hshown : ∀ {p : ι} {before' later : List (List (List α))} {z : List α}
        {rest : List (List α)}, schedule p = before' ++ (z :: rest) :: later →
          before'.length = before.length → freshKeys key (before.flatten.flatten.map key) z ≠ [] →
            (((empty : KeyedList key).addAll (schedule p).flatten.flatten).items[
              ((empty : KeyedList key).addAll before'.flatten.flatten).items.length]?).map key =
              (freshKeys key (before.flatten.flatten.map key) z).head? := by
      intro p before' later z rest hp hlength hfresh
      rw [freshKeys_congr (htaken hp hlength)] at hfresh ⊢
      rw [hp, List.flatten_append, List.flatten_append, addAll_append, List.flatten_cons,
        List.flatten_append, List.flatten_cons, List.append_assoc]
      exact key_of_first hfresh _
    have hcount : ((empty : KeyedList key).addAll before₁.flatten.flatten).items.length =
        ((empty : KeyedList key).addAll before₂.flatten.flatten).items.length := by
      have hkeys : ((empty : KeyedList key).addAll before₁.flatten.flatten).keys.Perm
          ((empty : KeyedList key).addAll before₂.flatten.flatten).keys :=
        (List.perm_ext_iff_of_nodup (unique _) (unique _)).mpr fun k =>
          (htaken ho hlength₁ k).symm.trans (htaken ho' hlength₂ k)
      simpa [keys] using hkeys.length_eq
    have hfirst := hshown ho hlength₁ hfreshx
    rw [hsame o o', hcount, hshown ho' hlength₂ hfreshy] at hfirst
    have hmem : batch ∈ schedule o₀ := by simp [hschedule]
    exact hdiffer ((h.uniform o₀ batch hmem).first _ x hx y hy hfreshx hfirst.symm)
  · intro hsteady o o'
    have hall : ∀ p, (empty : KeyedList key).addAll (schedule o₀).flatten.flatten =
        (empty : KeyedList key).addAll (schedule p).flatten.flatten := fun p =>
      addAll_of_steady (by simp) (h.uniform o₀) (h.perm o₀ p) hsteady
    rw [← hall o, ← hall o']

end Reorderable

end Wiremap.Library.KeyedList
