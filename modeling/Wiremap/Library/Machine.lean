import Mathlib.Data.List.Induction

/-! Labelled transition systems whose steps are partial functions, so that a
schedule can be executed as well as reasoned about.  A run records the events
in the order they were taken; a guard restricts the states an event may be
taken in. -/
namespace Wiremap.Library

structure Machine (State : Type u) (Event : Type v) where
  init : State
  step : State → Event → Option State

namespace Machine

variable {State : Type u} {Event : Type v}

theorem guarded_eq_some {p : Prop} [Decidable p] {s s' : State} :
    (if p then some s else none) = some s' ↔ p ∧ s = s' := by
  rw [Option.ite_none_right_eq_some, Option.some.injEq]

theorem refused_eq_some {p : Prop} [Decidable p] {s s' : State} :
    (if p then none else some s) = some s' ↔ ¬p ∧ s = s' := by
  rw [Option.ite_none_left_eq_some, Option.some.injEq]

variable (m : Machine State Event)

/-- `m.Run guard es s`: the events `es` lead from the initial state to `s`, and
each of them met `guard` in the state it was taken in. -/
inductive Run (guard : State → Event → Prop) : List Event → State → Prop where
  | init : Run guard [] m.init
  | snoc {es s e s'} : Run guard es s → guard s e → m.step s e = some s' →
      Run guard (es ++ [e]) s'

def unguarded : State → Event → Prop := fun _ _ => True

variable {m} {guard : State → Event → Prop}

theorem Run.invariant {I : State → Prop} (hinit : I m.init)
    (hstep : ∀ s e s', I s → guard s e → m.step s e = some s' → I s')
    {es : List Event} {s : State} (hrun : m.Run guard es s) : I s := by
  induction hrun with
  | init => exact hinit
  | snoc _ hguard hs ih => exact hstep _ _ _ ih hguard hs

theorem Run.weaken {guard' : State → Event → Prop}
    (himp : ∀ s e, guard s e → guard' s e)
    {es : List Event} {s : State} (hrun : m.Run guard es s) : m.Run guard' es s := by
  induction hrun with
  | init => exact .init
  | snoc _ hguard hs ih => exact .snoc ih (himp _ _ hguard) hs

theorem Run.unguard {es : List Event} {s : State} (hrun : m.Run guard es s) :
    m.Run unguarded es s :=
  hrun.weaken fun _ _ _ => trivial

theorem Run.last {es : List Event} {e : Event} {s' : State}
    (hrun : m.Run guard (es ++ [e]) s') :
    ∃ s, m.Run guard es s ∧ guard s e ∧ m.step s e = some s' := by
  generalize hall : es ++ [e] = all at hrun
  cases hrun with
  | init => simp at hall
  | snoc hprev hguard hs =>
      obtain ⟨rfl, hlast⟩ := List.append_inj' hall rfl
      cases hlast
      exact ⟨_, hprev, hguard, hs⟩

theorem Run.deterministic {guard' : State → Event → Prop} {es : List Event} {s t : State}
    (hs : m.Run guard es s) (ht : m.Run guard' es t) : s = t := by
  induction hs generalizing t with
  | init =>
      generalize hnil : ([] : List Event) = es at ht
      cases ht with
      | init => rfl
      | snoc => simp at hnil
  | snoc _ _ hstep ih =>
      obtain ⟨u, hprev, _, hstep'⟩ := ht.last
      rw [ih hprev, hstep'] at hstep
      exact (Option.some.inj hstep).symm

/-- What a run has established at some point, and every later step of the run
keeps, holds at its end. -/
theorem Run.persist {J : State → Prop} {before after : List Event}
    (hkeep : ∀ es s e s', m.Run guard es s → guard s e → e ∈ after → m.step s e = some s' →
      J s → J s')
    {s' : State} (hrun : m.Run guard (before ++ after) s') :
    ∃ s, m.Run guard before s ∧ (J s → J s') := by
  induction after using List.reverseRecOn generalizing s' with
  | nil => exact ⟨s', by simpa using hrun, id⟩
  | append_singleton rest e ih =>
      rw [← List.append_assoc] at hrun
      obtain ⟨t, hprev, hguard, hs⟩ := hrun.last
      obtain ⟨s, hbefore, hJ⟩ := ih (fun es s e s' hrun hguard he =>
        hkeep es s e s' hrun hguard (List.mem_append_left _ he)) hprev
      exact ⟨s, hbefore, fun h =>
        hkeep _ _ _ _ hprev hguard List.mem_concat_self hs (hJ h)⟩

/-- An event of a run, and what the rest of the run keeps of what it has established. -/
theorem Run.since {J : State → Prop} {before after : List Event} {e : Event} {s' : State}
    (hrun : m.Run guard (before ++ e :: after) s')
    (hkeep : ∀ es s e' s', m.Run guard es s → guard s e' → e' ∈ after → m.step s e' = some s' →
      J s → J s') :
    ∃ s t, m.Run guard before s ∧ guard s e ∧ m.step s e = some t ∧ (J t → J s') := by
  rw [List.append_cons] at hrun
  obtain ⟨t, hmid, hkept⟩ := hrun.persist hkeep
  obtain ⟨s, hprev, hguard, hs⟩ := hmid.last
  exact ⟨s, t, hprev, hguard, hs, hkept⟩

theorem Run.disabled {J : State → Prop} {before after : List Event} {e bad : Event} {s' : State}
    (hrun : m.Run guard (before ++ e :: after) s') (hJ : ∀ s t, m.step s e = some t → J t)
    (hkeep : ∀ s e s', m.step s e = some s' → J s → J s')
    (hbad : ∀ s, J s → m.step s bad = none) : bad ∉ after := by
  intro hmem
  obtain ⟨rest, rest', rfl⟩ := List.append_of_mem hmem
  rw [← List.cons_append, ← List.append_assoc] at hrun
  obtain ⟨t, u, hprev, -, hs, -⟩ := hrun.since (J := fun _ => True)
    fun _ _ _ _ _ _ _ _ _ => trivial
  obtain ⟨r, q, -, -, he, hkept⟩ := hprev.since (J := J) fun _ _ _ _ _ _ _ hs => hkeep _ _ _ hs
  rw [hbad t (hkept (hJ r q he))] at hs
  cases hs

/-- If each step of one machine is a step of the other or leaves it where it is, each of
its runs is a run of the other. -/
theorem Run.simulated {State' : Type u'} {Event' : Type v'} {n : Machine State' Event'}
    {R : State → State' → Prop} (hinit : R m.init n.init)
    (hstep : ∀ s e s' t, R s t → m.step s e = some s' →
      R s' t ∨ ∃ e' t', n.step t e' = some t' ∧ R s' t')
    {es : List Event} {s : State} (hrun : m.Run guard es s) :
    ∃ es' t, n.Run unguarded es' t ∧ R s t := by
  induction hrun with
  | init => exact ⟨[], n.init, .init, hinit⟩
  | snoc _ _ hs ih =>
      obtain ⟨es', t, hrun', hrel⟩ := ih
      rcases hstep _ _ _ t hrel hs with hstay | ⟨e', t', hs', hrel'⟩
      · exact ⟨es', t, hrun', hstay⟩
      · exact ⟨es' ++ [e'], t', .snoc hrun' trivial hs', hrel'⟩

/-- If, after a guarded run, a step meets the guard exactly when it leads to a
good state, then a run is guarded exactly when it never left the good states; here
among the runs that meet another guard anyway. -/
theorem Run.always_iff_of {base : State → Event → Prop} {P : State → Prop} (hinit : P m.init)
    (hstep : ∀ es s e s', m.Run (fun s e => base s e ∧ guard s e) es s → base s e →
      m.step s e = some s' → (guard s e ↔ P s'))
    {es : List Event} {s : State} (hrun : m.Run base es s) :
    (∀ before after t, es = before ++ after → m.Run base before t → P t) ↔
      m.Run (fun s e => base s e ∧ guard s e) es s := by
  induction hrun with
  | init =>
      refine ⟨fun _ => .init, fun _ before after t hsplit hbefore => ?_⟩
      obtain ⟨rfl, -⟩ := List.append_eq_nil_iff.mp hsplit.symm
      rwa [hbefore.deterministic (Run.init : m.Run unguarded [] _)]
  | snoc hprev hbase hs ih =>
      rename_i es s e s'
      constructor
      · intro hall
        have hguarded := ih.mp fun before after t hsplit hbefore =>
          hall before (after ++ [e]) t (by rw [hsplit, List.append_assoc]) hbefore
        have hgood := hall (es ++ [e]) [] s' (by simp) (.snoc hprev hbase hs)
        exact .snoc hguarded ⟨hbase, (hstep _ _ _ _ hguarded hbase hs).mpr hgood⟩ hs
      · intro hguarded before after t hsplit hbefore
        obtain ⟨u, hpast, hmet, hs'⟩ := hguarded.last
        rcases List.eq_nil_or_concat after with rfl | ⟨rest, last, rfl⟩
        · obtain rfl := (List.append_nil before ▸ hsplit : es ++ [e] = before)
          rw [hbefore.deterministic hguarded]
          exact (hstep _ _ _ _ hpast hmet.1 hs').mp hmet.2
        · rw [List.concat_eq_append, ← List.append_assoc] at hsplit
          obtain ⟨hes, -⟩ := List.append_inj' hsplit rfl
          obtain rfl := hpast.deterministic hprev
          exact ih.mpr hpast before rest t hes hbefore

theorem Run.always_iff {P : State → Prop} (hinit : P m.init)
    (hstep : ∀ es s e s', m.Run guard es s → m.step s e = some s' → (guard s e ↔ P s'))
    {es : List Event} {s : State} (hrun : m.Run unguarded es s) :
    (∀ before after t, es = before ++ after → m.Run unguarded before t → P t) ↔
      m.Run guard es s := by
  rw [Run.always_iff_of hinit (fun es s e s' hguarded _ hs =>
    hstep es s e s' (hguarded.weaken fun _ _ h => h.2) hs) hrun]
  exact ⟨fun h => h.weaken fun _ _ h => h.2, fun h => h.weaken fun _ _ h => ⟨trivial, h⟩⟩

def AllSteps (m : Machine State Event) (good : State → State → Prop) (es : List Event) : Prop :=
  ∀ before e after s s', es = before ++ e :: after → m.Run unguarded before s →
    m.step s e = some s' → good s s'

/-- If, after a guarded run, a step meets the guard exactly when it is good, then a
run is guarded exactly when all its steps are good. -/
theorem Run.allSteps_iff {good : State → State → Prop}
    (hstep : ∀ es s e s', m.Run guard es s → m.step s e = some s' → (guard s e ↔ good s s'))
    {es : List Event} {s : State} (hrun : m.Run unguarded es s) :
    m.AllSteps good es ↔ m.Run guard es s := by
  induction hrun with
  | init => exact ⟨fun _ => .init, fun _ before e after _ _ hsplit => by simp at hsplit⟩
  | snoc hprev htrivial hs ih =>
      rename_i es s e s'
      constructor
      · intro hall
        have hguarded := ih.mp fun before e' after t t' hsplit =>
          hall before e' (after ++ [e]) t t' (by simp [hsplit])
        exact .snoc hguarded ((hstep _ _ _ _ hguarded hs).mpr
          (hall es e [] s s' rfl hprev hs)) hs
      · intro hguarded before e' after t t' hsplit hbefore ht
        obtain ⟨u, hpast, hmet, hs'⟩ := hguarded.last
        obtain rfl := hpast.deterministic hprev
        rcases List.eq_nil_or_concat after with rfl | ⟨rest, last, rfl⟩
        · obtain ⟨rfl, hlast⟩ := List.append_inj' hsplit rfl
          cases hlast
          obtain rfl := hbefore.deterministic hprev
          exact (hstep _ _ _ _ hpast ht).mp hmet
        · rw [List.concat_eq_append, ← List.cons_append, ← List.append_assoc] at hsplit
          obtain ⟨hes, -⟩ := List.append_inj' hsplit rfl
          exact ih.mpr hpast before e' rest t t' hes hbefore ht

/-- Execute a schedule whose every event must also meet the guard. -/
def runGuarded (m : Machine State Event) (guard : State → Event → Prop)
    [∀ s e, Decidable (guard s e)] (s : State) : List Event → Option State
  | [] => some s
  | e :: es => if guard s e then (m.step s e).bind fun s' => runGuarded m guard s' es else none

private theorem run_append_of_runGuarded [∀ s e, Decidable (guard s e)]
    {before after : List Event} {s t : State} (hrun : m.Run guard before s)
    (hexec : m.runGuarded guard s after = some t) : m.Run guard (before ++ after) t := by
  induction after generalizing before s with
  | nil =>
      cases Option.some.inj hexec
      simpa using hrun
  | cons e es ih =>
      simp only [runGuarded] at hexec
      split at hexec
      · rename_i hguard
        obtain ⟨u, hstep, hrest⟩ := Option.bind_eq_some_iff.mp hexec
        rw [List.append_cons]
        exact ih (.snoc hrun hguard hstep) hrest
      · cases hexec

theorem run_of_runGuarded (m : Machine State Event) (guard : State → Event → Prop)
    [∀ s e, Decidable (guard s e)] (es : List Event) {s : State}
    (hexec : m.runGuarded guard m.init es = some s) : m.Run guard es s :=
  run_append_of_runGuarded .init hexec

instance (s : State) (e : Event) : Decidable (unguarded s e) := isTrue trivial

end Machine
end Wiremap.Library
