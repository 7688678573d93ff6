import Mathlib.Data.List.AList

/-! Cancellable contexts kept under keys: every context has a cancel function,
and a table remembers, for each key, the cancel function to call.  A context is
named by the number of contexts created before it. -/
namespace Wiremap.Library

structure CancelRegistry (Key : Type u) where
  /-- The context whose cancel function the table holds under a key. -/
  cancels : AList fun _ : Key => Nat
  /-- Whether each context created so far has been cancelled. -/
  cancelled : List Bool

namespace CancelRegistry

section Contexts

variable {Key : Type u}

def empty : CancelRegistry Key := ⟨∅, []⟩

def next (r : CancelRegistry Key) : Nat := r.cancelled.length

def withCancel (r : CancelRegistry Key) : CancelRegistry Key :=
  { r with cancelled := r.cancelled ++ [false] }

def cancel (r : CancelRegistry Key) (ctx : Nat) : CancelRegistry Key :=
  { r with cancelled := r.cancelled.set ctx true }

def cancelAll (r : CancelRegistry Key) : CancelRegistry Key :=
  ⟨∅, r.cancels.foldl (fun flags _ ctx => flags.set ctx true) r.cancelled⟩

def Live (r : CancelRegistry Key) (ctx : Nat) : Prop := r.cancelled[ctx]? = some false

instance (r : CancelRegistry Key) (ctx : Nat) : Decidable (r.Live ctx) :=
  inferInstanceAs (Decidable (_ = _))

theorem Live.lt {r : CancelRegistry Key} {ctx : Nat} (h : r.Live ctx) : ctx < r.next :=
  (List.getElem?_eq_some_iff.mp h).1

@[simp] theorem live_empty (ctx : Nat) : ¬ (empty : CancelRegistry Key).Live ctx := by
  simp [Live, empty]

@[simp] theorem next_withCancel (r : CancelRegistry Key) :
    r.withCancel.next = r.next + 1 := by
  simp [withCancel, next]

@[simp] theorem live_withCancel (r : CancelRegistry Key) (ctx : Nat) :
    r.withCancel.Live ctx ↔ r.Live ctx ∨ ctx = r.next := by
  unfold Live withCancel next
  simp only [List.getElem?_append]
  split
  · rename_i hlt
    simp [Nat.ne_of_lt hlt]
  · rename_i hge
    have hge : r.cancelled.length ≤ ctx := Nat.le_of_not_lt hge
    rw [List.getElem?_eq_none hge, List.getElem?_singleton]
    simp only [reduceCtorEq, false_or]
    split <;> simp <;> omega

@[simp] theorem next_cancel (r : CancelRegistry Key) (ctx : Nat) :
    (r.cancel ctx).next = r.next := by
  simp [cancel, next]

private theorem getElem?_set_true (flags : List Bool) (ctx other : Nat) :
    (flags.set ctx true)[other]? = some false ↔
      flags[other]? = some false ∧ other ≠ ctx := by
  rw [List.getElem?_set]
  split
  · rename_i heq
    subst heq
    split <;> simp
  · rename_i hne
    simp [Ne.symm hne]

@[simp] theorem live_cancel (r : CancelRegistry Key) (ctx other : Nat) :
    (r.cancel ctx).Live other ↔ r.Live other ∧ other ≠ ctx :=
  getElem?_set_true r.cancelled ctx other

private theorem foldl_set_true (entries : List (Sigma fun _ : Key => Nat))
    (flags : List Bool) (ctx : Nat) :
    (entries.foldl (fun flags entry => flags.set entry.2 true) flags)[ctx]? = some false ↔
      flags[ctx]? = some false ∧ ∀ entry ∈ entries, entry.2 ≠ ctx := by
  induction entries generalizing flags with
  | nil => simp
  | cons entry rest ih =>
      rw [List.foldl_cons, ih, getElem?_set_true]
      simp only [List.forall_mem_cons, ne_eq, and_assoc, eq_comm]

@[simp] theorem next_cancelAll (r : CancelRegistry Key) : r.cancelAll.next = r.next := by
  unfold next cancelAll AList.foldl
  generalize r.cancels.entries = entries
  generalize r.cancelled = flags
  induction entries generalizing flags with
  | nil => rfl
  | cons entry rest ih =>
      refine (ih _).trans ?_
      simp

end Contexts

variable {Key : Type u} [DecidableEq Key]

def register (r : CancelRegistry Key) (key : Key) (ctx : Nat) : CancelRegistry Key :=
  { r with cancels := r.cancels.insert key ctx }

def unregister (r : CancelRegistry Key) (key : Key) : CancelRegistry Key :=
  { r with cancels := r.cancels.erase key }

def Holds (r : CancelRegistry Key) (key : Key) (ctx : Nat) : Prop :=
  r.cancels.lookup key = some ctx

theorem Holds.unique {r : CancelRegistry Key} {key : Key} {ctx ctx' : Nat}
    (h : r.Holds key ctx) (h' : r.Holds key ctx') : ctx = ctx' :=
  Option.some.inj (h.symm.trans h')

@[simp] theorem holds_empty (key : Key) (ctx : Nat) :
    ¬ (empty : CancelRegistry Key).Holds key ctx := by
  simp [Holds, empty]

@[simp] theorem holds_withCancel (r : CancelRegistry Key) (key : Key) (ctx : Nat) :
    r.withCancel.Holds key ctx ↔ r.Holds key ctx :=
  Iff.rfl

@[simp] theorem holds_cancel (r : CancelRegistry Key) (key : Key) (ctx other : Nat) :
    (r.cancel ctx).Holds key other ↔ r.Holds key other :=
  Iff.rfl

@[simp] theorem live_register (r : CancelRegistry Key) (key : Key) (ctx other : Nat) :
    (r.register key ctx).Live other ↔ r.Live other :=
  Iff.rfl

@[simp] theorem next_register (r : CancelRegistry Key) (key : Key) (ctx : Nat) :
    (r.register key ctx).next = r.next :=
  rfl

@[simp] theorem holds_register_self (r : CancelRegistry Key) (key : Key) (ctx other : Nat) :
    (r.register key ctx).Holds key other ↔ other = ctx := by
  simp [Holds, register, eq_comm]

theorem holds_register_ne (r : CancelRegistry Key) {key key' : Key} (hne : key' ≠ key)
    (ctx other : Nat) :
    (r.register key ctx).Holds key' other ↔ r.Holds key' other := by
  simp [Holds, register, AList.lookup_insert_ne hne]

@[simp] theorem live_unregister (r : CancelRegistry Key) (key : Key) (ctx : Nat) :
    (r.unregister key).Live ctx ↔ r.Live ctx :=
  Iff.rfl

@[simp] theorem next_unregister (r : CancelRegistry Key) (key : Key) :
    (r.unregister key).next = r.next :=
  rfl

@[simp] theorem holds_unregister (r : CancelRegistry Key) (key key' : Key) (ctx : Nat) :
    (r.unregister key).Holds key' ctx ↔ r.Holds key' ctx ∧ key' ≠ key := by
  unfold Holds unregister
  by_cases heq : key' = key
  · subst heq
    simp
  · simp [AList.lookup_erase_ne heq, heq]

/-- Call the cancel function kept under a key, if there is one, and forget it. -/
def cancelKey (r : CancelRegistry Key) (key : Key) : CancelRegistry Key :=
  match r.cancels.lookup key with
  | some ctx => (r.cancel ctx).unregister key
  | none => r

@[simp] theorem live_cancelKey (r : CancelRegistry Key) (key : Key) (ctx : Nat) :
    (r.cancelKey key).Live ctx ↔ r.Live ctx ∧ ¬ r.Holds key ctx := by
  unfold cancelKey Holds
  cases hlookup : r.cancels.lookup key with
  | none => simp
  | some held => simp [eq_comm]

@[simp] theorem holds_cancelKey (r : CancelRegistry Key) (key key' : Key) (ctx : Nat) :
    (r.cancelKey key).Holds key' ctx ↔ r.Holds key' ctx ∧ key' ≠ key := by
  unfold cancelKey
  cases hlookup : r.cancels.lookup key with
  | none =>
      refine (and_iff_left_of_imp ?_).symm
      rintro hheld rfl
      simp [Holds, hlookup] at hheld
  | some held => simp

@[simp] theorem next_cancelKey (r : CancelRegistry Key) (key : Key) :
    (r.cancelKey key).next = r.next := by
  unfold cancelKey
  split <;> simp

@[simp] theorem live_cancelAll (r : CancelRegistry Key) (ctx : Nat) :
    r.cancelAll.Live ctx ↔ r.Live ctx ∧ ∀ key, ¬ r.Holds key ctx := by
  have hfold := foldl_set_true r.cancels.entries r.cancelled ctx
  unfold Live Holds cancelAll
  refine hfold.trans (and_congr_right fun _ => ⟨?_, ?_⟩)
  · intro h key hkey
    exact h _ (AList.mem_lookup_iff.mp hkey) rfl
  · rintro h ⟨key, held⟩ hmem rfl
    exact h key (AList.mem_lookup_iff.mpr hmem)

@[simp] theorem holds_cancelAll (r : CancelRegistry Key) (key : Key) (ctx : Nat) :
    ¬ r.cancelAll.Holds key ctx := by
  simp [Holds, cancelAll]

end CancelRegistry
end Wiremap.Library
