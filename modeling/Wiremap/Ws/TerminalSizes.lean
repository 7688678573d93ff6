import Mathlib.Data.List.Lemmas
import Wiremap.Library.Machine

/-! The queue of terminal sizes between the browser's resizes and the exec stream: a
channel of one slot, emptied before each send. -/
namespace Wiremap.Ws.TerminalSizes

open Wiremap.Library

structure TerminalSize where
  width : UInt16
  height : UInt16
  deriving DecidableEq, Repr

inductive Pusher where
  | idle
  | draining (size : TerminalSize)
  | sending (size : TerminalSize)
  deriving DecidableEq, Repr

structure TerminalSizeQueue where
  cancelled : Bool
  slot : Option TerminalSize
  pusher : Pusher
  /-- The other goroutine is in `Next`. -/
  selecting : Bool
  deriving DecidableEq, Repr

/-- `push` and `next` are calls; `received` and `done` are how `Next` returns. -/
inductive Event where
  | push (size : TerminalSize)
  | drained
  | sent
  | next
  | received (size : TerminalSize)
  | done
  | cancel
  deriving DecidableEq, Repr

def step (q : TerminalSizeQueue) : Event → Option TerminalSizeQueue
  | .push size => if q.pusher = .idle then some { q with pusher := .draining size } else none
  | .drained =>
      match q.pusher with
      | .draining size => some { q with slot := none, pusher := .sending size }
      | _ => none
  | .sent =>
      match q.pusher, q.slot with
      | .sending size, none => some { q with slot := some size, pusher := .idle }
      | _, _ => none
  | .next => if q.selecting then none else some { q with selecting := true }
  | .received size =>
      if q.selecting ∧ q.slot = some size then some { q with slot := none, selecting := false }
      else none
  | .done => if q.selecting ∧ q.cancelled then some { q with selecting := false } else none
  | .cancel => some { q with cancelled := true }

def machine : Machine TerminalSizeQueue Event where
  init := ⟨false, none, .idle, false⟩
  step := step

def TerminalSizeQueue.Blocked (q : TerminalSizeQueue) : Prop :=
  ∃ size, q.pusher = .sending size ∧ q.slot ≠ none

def pushed (es : List Event) : List TerminalSize :=
  es.filterMap fun
    | .push size => some size
    | _ => none

def returned (es : List Event) : List TerminalSize :=
  es.filterMap fun
    | .received size => some size
    | _ => none

/-- The latest size is never held up, overtaken or lost. -/
structure Latest (es : List Event) (q : TerminalSizeQueue) : Prop where
  free : ¬q.Blocked
  inOrder : (returned es).Sublist (pushed es)
  kept : ∀ before size during after, es = before ++ .push size :: during ++ .sent :: after →
    pushed during = [] → pushed after = [] → q.slot = some size ∨ .received size ∈ after

/-! ### Steps -/

inductive Step (q : TerminalSizeQueue) : Event → TerminalSizeQueue → Prop where
  | push (size : TerminalSize) : q.pusher = .idle →
      Step q (.push size) { q with pusher := .draining size }
  | drained {size : TerminalSize} : q.pusher = .draining size →
      Step q .drained { q with slot := none, pusher := .sending size }
  | sent {size : TerminalSize} : q.pusher = .sending size → q.slot = none →
      Step q .sent { q with slot := some size, pusher := .idle }
  | next : q.selecting = false → Step q .next { q with selecting := true }
  | received {size : TerminalSize} : q.selecting → q.slot = some size →
      Step q (.received size) { q with slot := none, selecting := false }
  | done : q.selecting → q.cancelled → Step q .done { q with selecting := false }
  | cancel : Step q .cancel { q with cancelled := true }

variable {q q' : TerminalSizeQueue} {e : Event} {es : List Event}

theorem step_inv (h : step q e = some q') : Step q e q' := by
  cases e with
  | push size =>
      obtain ⟨hidle, rfl⟩ := Machine.guarded_eq_some.mp h
      exact .push size hidle
  | drained =>
      simp only [step] at h
      split at h
      · obtain rfl := Option.some.inj h
        exact .drained ‹_›
      · cases h
  | sent =>
      simp only [step] at h
      split at h
      · obtain rfl := Option.some.inj h
        exact .sent ‹_› ‹_›
      · cases h
  | next =>
      obtain ⟨hidle, rfl⟩ := Machine.refused_eq_some.mp h
      exact .next (Bool.not_eq_true _ ▸ hidle)
  | received size =>
      obtain ⟨⟨hselecting, hslot⟩, rfl⟩ := Machine.guarded_eq_some.mp h
      exact .received hselecting hslot
  | done =>
      obtain ⟨⟨hselecting, hcancelled⟩, rfl⟩ := Machine.guarded_eq_some.mp h
      exact .done hselecting hcancelled
  | cancel =>
      obtain rfl := Option.some.inj h
      exact .cancel

def Pusher.pending : Pusher → List TerminalSize
  | .idle => []
  | .draining size | .sending size => [size]

/-- What has been returned, and then what is in the slot, was pushed in this order
before the push that is under way. -/
structure Ordered (es : List Event) (q : TerminalSizeQueue) : Prop where
  emptied : ∀ size, q.pusher = .sending size → q.slot = none
  inOrder : ∃ earlier, pushed es = earlier ++ q.pusher.pending ∧
    (returned es ++ q.slot.toList).Sublist earlier

theorem Ordered.step (h : Ordered es q) (hstep : step q e = some q') : Ordered (es ++ [e]) q' := by
  have hpushed : pushed (es ++ [e]) = pushed es ++ pushed [e] := List.filterMap_append
  have hreturned : returned (es ++ [e]) = returned es ++ returned [e] := List.filterMap_append
  obtain ⟨hemptied, earlier, hearlier, hsub⟩ := h
  cases step_inv hstep with
  | push size hidle =>
      rw [hidle, Pusher.pending, List.append_nil] at hearlier
      refine ⟨by simp, earlier, ?_, ?_⟩
      · rw [hpushed, hearlier]
        rfl
      · rw [hreturned]
        simpa [returned] using hsub
  | drained hdraining =>
      rw [hdraining] at hearlier
      refine ⟨by simp, earlier, ?_, ?_⟩
      · rw [hpushed, hearlier]
        exact List.append_nil _
      · rw [hreturned]
        simpa [returned] using (List.sublist_append_left _ _).trans hsub
  | sent hsending hslot =>
      rename_i size
      rw [hsending] at hearlier
      rw [hslot, Option.toList_none, List.append_nil] at hsub
      refine ⟨by simp, earlier ++ [size], ?_, ?_⟩
      · rw [hpushed, hearlier]
        rfl
      · rw [hreturned]
        simpa [returned] using hsub
  | next _ | done _ _ | cancel =>
      refine ⟨hemptied, earlier, ?_, ?_⟩
      · rw [hpushed, hearlier]
        exact List.append_nil _
      · rw [hreturned]
        simpa [returned] using hsub
  | received _ hslot =>
      refine ⟨fun size hsending => rfl, earlier, ?_, ?_⟩
      · rw [hpushed, hearlier]
        exact List.append_nil _
      · rw [hreturned]
        rw [hslot] at hsub
        simpa [returned] using hsub

theorem ordered_run (hrun : machine.Run Machine.unguarded es q) : Ordered es q := by
  induction hrun with
  | init => exact ⟨by simp [machine], [], rfl, List.Sublist.slnil⟩
  | snoc _ _ hstep ih => exact ih.step hstep

/-- A size that has been sent stays until it is received or pushed out. -/
theorem kept_step {size : TerminalSize} (h : q.slot = some size ∧ q.pusher = .idle)
    (hpush : ∀ size, e ≠ .push size) (hreceived : e ≠ .received size)
    (hstep : step q e = some q') : q'.slot = some size ∧ q'.pusher = .idle := by
  obtain ⟨hslot, hidle⟩ := h
  cases step_inv hstep with
  | push size' => exact absurd rfl (hpush size')
  | drained hdraining => cases hidle.symm.trans hdraining
  | sent hsending => cases hidle.symm.trans hsending
  | next _ | done _ _ | cancel => exact ⟨hslot, hidle⟩
  | received _ hother =>
      obtain rfl := Option.some.inj (hslot.symm.trans hother)
      exact absurd rfl hreceived

theorem not_push_of_pushed {after : List Event} (h : pushed after = []) (he : e ∈ after)
    (size : TerminalSize) : e ≠ .push size := by
  rintro rfl
  have hmem : size ∈ pushed after := List.mem_filterMap.mpr ⟨_, he, rfl⟩
  rw [h] at hmem
  cases hmem

theorem latest_run (es : List Event) (q : TerminalSizeQueue)
    (hrun : machine.Run Machine.unguarded es q) : Latest es q where
  free := by
    rintro ⟨size, hsending, hfull⟩
    exact hfull ((ordered_run hrun).emptied size hsending)
  inOrder := by
    obtain ⟨earlier, hearlier, hsub⟩ := (ordered_run hrun).inOrder
    rw [hearlier]
    exact ((List.sublist_append_left _ _).trans hsub).trans (List.sublist_append_left _ _)
  kept before size during after hes hduring hafter := by
    subst hes
    by_cases hreceived : .received size ∈ after
    · exact Or.inr hreceived
    · obtain ⟨q₀, q₁, hbefore, -, hstep, hkept⟩ := hrun.since
        (J := fun q => q.slot = some size ∧ q.pusher = .idle)
        fun _ _ e _ _ _ he hstep h => kept_step h (not_push_of_pushed hafter he)
          (fun heq => hreceived (heq ▸ he)) hstep
      have hsent : Step q₀ .sent q₁ := step_inv hstep
      refine Or.inl (hkept ?_).1
      cases hsent with
      | sent hsending hslot =>
          -- the size being sent is that of the last push
          rename_i size'
          obtain ⟨earlier, hearlier, -⟩ := (ordered_run hbefore).inOrder
          have hlast : pushed (before ++ .push size :: during) = pushed before ++ [size] := by
            rw [pushed, List.filterMap_append, List.filterMap_cons, ← pushed, ← pushed, hduring]
          rw [hlast, hsending] at hearlier
          have hsame : size = size' := by
            simpa [Pusher.pending] using (List.append_inj' hearlier rfl).2
          exact ⟨hsame ▸ rfl, rfl⟩

def small : TerminalSize := ⟨80, 24⟩

def large : TerminalSize := ⟨100, 30⟩

/-- A second resize replaces the first, which `Next` has not taken yet. -/
def resizes : List Event :=
  [.push small, .drained, .sent, .push large, .next, .drained, .sent, .received large]

theorem latest_run_resizes :
    ∃ q, machine.Run Machine.unguarded resizes q ∧ returned resizes = [large] ∧
      Latest resizes q := by
  have hrun := Machine.run_of_runGuarded machine Machine.unguarded resizes rfl
  exact ⟨_, hrun, rfl, latest_run _ _ hrun⟩

end Wiremap.Ws.TerminalSizes
