import Wiremap.Service.WatchService

/-! The debounced trigger between the watch loops and `onChange`, step by step: a
channel of one slot, any number of senders, and the goroutine that empties it. -/
namespace Wiremap.Service.Debounce

open Wiremap.Library
open Wiremap.Service.Watch (Watcher)

/-- Where the goroutine is; in its sleep, whether the delay has elapsed. -/
inductive Phase where
  | selecting
  | sleeping (elapsed : Bool)
  | checking
  | draining
  | calling
  | running
  | stopped
  deriving DecidableEq, Repr

structure Debouncer where
  cancelled : Bool
  pending : Bool
  phase : Phase
  deriving DecidableEq, Repr

/-- `trigger`, `cancel` and `elapsed` come from outside, in any order; the others are
the goroutine's, one for each way an operation of its turns out. -/
inductive Event where
  | trigger (sender : Nat)
  | cancel
  | elapsed
  | done
  | received
  | sleepDone
  | slept
  | sawCancelled
  | sawLive
  | drained
  | called
  | returned
  deriving DecidableEq, Repr

def step (d : Debouncer) (e : Event) : Option Debouncer :=
  match d.phase, e with
  -- A send that would block is dropped: the slot is full already.
  | _, .trigger _ => some { d with pending := true }
  | _, .cancel => some { d with cancelled := true }
  | .sleeping false, .elapsed => some { d with phase := .sleeping true }
  | .selecting, .done => if d.cancelled then some { d with phase := .stopped } else none
  | .selecting, .received =>
      if d.pending then some { d with pending := false, phase := .sleeping false } else none
  | .sleeping _, .sleepDone => if d.cancelled then some { d with phase := .checking } else none
  | .sleeping true, .slept => some { d with phase := .checking }
  | .checking, .sawCancelled => if d.cancelled then some { d with phase := .stopped } else none
  | .checking, .sawLive => if d.cancelled then none else some { d with phase := .draining }
  | .draining, .drained => some { d with pending := false, phase := .calling }
  | .calling, .called => some { d with phase := .running }
  | .running, .returned => some { d with phase := .selecting }
  | _, _ => none

def machine : Machine Debouncer Event where
  init := ⟨false, false, .selecting⟩
  step := step

def Phase.owes : Phase → Bool
  | .sleeping _ | .checking | .draining | .calling => true
  | .selecting | .running | .stopped => false

def Event.isTrigger : Event → Bool
  | .trigger _ => true
  | _ => false

def Event.Observes (e : Event) : Prop := e = .done ∨ e = .sleepDone ∨ e = .sawCancelled

/-- No trigger is lost or made up, and none is answered once cancelled. -/
structure Lawful (es : List Event) (d : Debouncer) : Prop where
  kept : d.cancelled = false → ∀ before sender after, es = before ++ .trigger sender :: after →
    .called ∉ after → d.pending ∨ d.phase.owes
  real : es.count .called ≤ es.countP Event.isTrigger
  quiet : ∀ before e after, es = before ++ e :: after → e.Observes → .called ∉ after

/-! ### Steps -/

inductive Step (d : Debouncer) : Event → Debouncer → Prop where
  | trigger (sender : Nat) : Step d (.trigger sender) { d with pending := true }
  | cancel : Step d .cancel { d with cancelled := true }
  | elapsed : d.phase = .sleeping false → Step d .elapsed { d with phase := .sleeping true }
  | done : d.phase = .selecting → d.cancelled → Step d .done { d with phase := .stopped }
  | received : d.phase = .selecting → d.pending →
      Step d .received { d with pending := false, phase := .sleeping false }
  | sleepDone {elapsed : Bool} : d.phase = .sleeping elapsed → d.cancelled →
      Step d .sleepDone { d with phase := .checking }
  | slept : d.phase = .sleeping true → Step d .slept { d with phase := .checking }
  | sawCancelled : d.phase = .checking → d.cancelled →
      Step d .sawCancelled { d with phase := .stopped }
  | sawLive : d.phase = .checking → d.cancelled = false →
      Step d .sawLive { d with phase := .draining }
  | drained : d.phase = .draining →
      Step d .drained { d with pending := false, phase := .calling }
  | called : d.phase = .calling → Step d .called { d with phase := .running }
  | returned : d.phase = .running → Step d .returned { d with phase := .selecting }

theorem step_inv {d d' : Debouncer} {e : Event} (h : step d e = some d') : Step d e d' := by
  unfold step at h
  split at h
  · obtain rfl := Option.some.inj h
    exact .trigger _
  · obtain rfl := Option.some.inj h
    exact .cancel
  · obtain rfl := Option.some.inj h
    exact .elapsed ‹_›
  · obtain ⟨hcancelled, rfl⟩ := Machine.guarded_eq_some.mp h
    exact .done ‹_› hcancelled
  · obtain ⟨hpending, rfl⟩ := Machine.guarded_eq_some.mp h
    exact .received ‹_› hpending
  · obtain ⟨hcancelled, rfl⟩ := Machine.guarded_eq_some.mp h
    exact .sleepDone ‹_› hcancelled
  · obtain rfl := Option.some.inj h
    exact .slept ‹_›
  · obtain ⟨hcancelled, rfl⟩ := Machine.guarded_eq_some.mp h
    exact .sawCancelled ‹_› hcancelled
  · obtain ⟨hlive, rfl⟩ := Machine.refused_eq_some.mp h
    exact .sawLive ‹_› (Bool.not_eq_true _ ▸ hlive)
  · obtain rfl := Option.some.inj h
    exact .drained ‹_›
  · obtain rfl := Option.some.inj h
    exact .called ‹_›
  · obtain rfl := Option.some.inj h
    exact .returned ‹_›
  · cases h

variable {d d' : Debouncer} {e : Event} {es : List Event}

def Kept (d : Debouncer) : Prop := d.cancelled ∨ d.pending ∨ d.phase.owes

theorem Kept.step (h : Kept d) (hcall : e ≠ .called) (hstep : step d e = some d') : Kept d' := by
  unfold Kept at *
  cases step_inv hstep with
  | trigger | cancel | done _ _ | sawCancelled _ _ => simp_all
  | elapsed hphase | received hphase _ | sleepDone hphase _ | slept hphase | sawLive hphase _
  | drained hphase | returned hphase => simp_all [Phase.owes]
  | called => exact absurd rfl hcall

/-- The triggers that may still be answered by a call of their own. -/
def Debouncer.owed (d : Debouncer) : Nat := d.pending.toNat + d.phase.owes.toNat

theorem owed_step (hstep : step d e = some d') :
    [e].count .called + d'.owed ≤ [e].countP Event.isTrigger + d.owed := by
  unfold Debouncer.owed
  cases step_inv hstep with
  | trigger sender => simp [Event.isTrigger]
  | cancel => simp
  | elapsed hphase | slept hphase | sleepDone hphase _ | sawLive hphase _ =>
      simp [hphase, Phase.owes]
  | done hphase _ | returned hphase => simp [hphase, Phase.owes]
  | sawCancelled hphase _ | drained hphase => simp [hphase, Phase.owes, Event.isTrigger]
  | received hphase hpending => simp [hphase, hpending, Phase.owes]
  | called hphase => simp [hphase, Phase.owes, Nat.add_comm]

theorem called_le_triggers (hrun : machine.Run Machine.unguarded es d) :
    es.count .called + d.owed ≤ es.countP Event.isTrigger := by
  induction hrun with
  | init => decide
  | snoc _ _ hstep ih =>
      rw [List.count_append, List.countP_append]
      have hstep := owed_step hstep
      omega

def Ending (d : Debouncer) : Prop := d.cancelled ∧ (d.phase = .checking ∨ d.phase = .stopped)

theorem ending_of_observes (he : e.Observes) (hstep : step d e = some d') : Ending d' := by
  rcases he with rfl | rfl | rfl
  · cases step_inv hstep with
    | done _ hcancelled => exact ⟨hcancelled, Or.inr rfl⟩
  · cases step_inv hstep with
    | sleepDone _ hcancelled => exact ⟨hcancelled, Or.inl rfl⟩
  · cases step_inv hstep with
    | sawCancelled _ hcancelled => exact ⟨hcancelled, Or.inr rfl⟩

theorem Ending.step (h : Ending d) (hstep : step d e = some d') : Ending d' := by
  obtain ⟨hcancelled, hphase⟩ := h
  cases step_inv hstep with
  | trigger => exact ⟨hcancelled, hphase⟩
  | cancel => exact ⟨rfl, hphase⟩
  | sawCancelled => exact ⟨hcancelled, Or.inr rfl⟩
  | _ => simp_all

theorem Ending.not_called (h : Ending d) : Debounce.step d .called = none := by
  unfold Debounce.step
  rcases h.2 with hphase | hphase
  · rw [hphase]
  · rw [hphase]

/-! ### Runs -/

theorem kept_of_run {before after : List Event} {sender : Nat}
    (hrun : machine.Run Machine.unguarded (before ++ .trigger sender :: after) d)
    (hcall : .called ∉ after) : Kept d := by
  obtain ⟨d₀, d₁, -, -, hstep, hkeep⟩ := hrun.since (J := Kept) fun _ _ e _ _ _ he hstep h =>
    h.step (fun heq => hcall (heq ▸ he)) hstep
  have hmoved : Step d₀ (.trigger sender) d₁ := step_inv hstep
  refine hkeep ?_
  cases hmoved with
  | trigger => exact Or.inr (Or.inl rfl)

theorem debounce_lawful (es : List Event) (d : Debouncer)
    (hrun : machine.Run Machine.unguarded es d) : Lawful es d where
  kept hlive before sender after hes hcall := by
    subst hes
    rcases kept_of_run hrun hcall with hcancelled | hkept
    · rw [hlive] at hcancelled
      cases hcancelled
    · exact hkept
  real := Nat.le_trans (Nat.le_add_right _ _) (called_le_triggers hrun)
  quiet before e after hes hobserves := by
    subst hes
    exact hrun.disabled (fun _ _ hstep => ending_of_observes hobserves hstep)
      (fun _ _ _ hstep h => Ending.step h hstep) fun _ h => Ending.not_called h

/-- A burst from two senders, answered by one call, then a trigger while `fn` runs that
the cancellation overtakes. -/
def burst : List Event :=
  [.trigger 0, .received, .trigger 1, .elapsed, .trigger 0, .slept, .sawLive, .drained, .called,
    .trigger 1, .returned, .received, .cancel, .sleepDone, .sawCancelled, .trigger 0]

theorem debounce_lawful_burst :
    ∃ d, machine.Run Machine.unguarded burst d ∧ d.phase = .stopped ∧ burst.count .called = 1 ∧
      Lawful burst d := by
  have hrun := Machine.run_of_runGuarded machine Machine.unguarded burst rfl
  exact ⟨_, hrun, rfl, by decide, debounce_lawful _ _ hrun⟩

/-! ### As one part of the watch -/

/-- Where the watch has the goroutine in its delay; it takes the drain and the call to
be one step. -/
def Phase.waits : Phase → Bool
  | .sleeping _ | .checking | .draining => true
  | .selecting | .calling | .running | .stopped => false

structure Follows (d : Debouncer) (w : Watcher) : Prop where
  pending : w.pending = d.pending
  waiting : w.waiting = d.phase.waits
  live : w.live = !d.cancelled

/-- A trigger is a `notify` of the watch, and each other step one of its steps or none. -/
theorem Follows.step {w : Watcher} (h : Follows d w) (hlive : d.cancelled = false)
    (hstep : step d e = some d') :
    e.isTrigger ∧ Follows d' w.notify ∨ Follows d' w ∨
      ∃ e' w', Watch.step w e' = some w' ∧ Follows d' w' := by
  have hlive' : w.live = true := by rw [h.live, hlive]; rfl
  cases step_inv hstep with
  | trigger sender => exact Or.inl ⟨rfl, rfl, h.waiting, h.live⟩
  | cancel =>
      exact Or.inr (Or.inr ⟨.cancelled, _, if_pos hlive', h.pending, h.waiting, rfl⟩)
  | done _ hcancelled | sleepDone _ hcancelled | sawCancelled _ hcancelled => simp_all
  | received hphase hpending =>
      have hwaiting : w.waiting = false := by rw [h.waiting, hphase]; rfl
      have hfull : w.pending = true := h.pending.trans hpending
      refine Or.inr (Or.inr ⟨.debounce, { w with pending := false, waiting := true }, ?_, ?_⟩)
      · simp [Watch.step, hlive', hwaiting, hfull]
      · exact ⟨rfl, rfl, h.live⟩
  | drained hphase =>
      have hwaiting : w.waiting = true := by rw [h.waiting, hphase]; rfl
      refine Or.inr (Or.inr ⟨.fire, { w with
        pending := false, waiting := false, fired := w.fired ++ [w.log.version] }, ?_, ?_⟩)
      · simp [Watch.step, hlive', hwaiting]
      · exact ⟨rfl, rfl, h.live⟩
  | elapsed hphase | slept hphase | sawLive hphase _ | called hphase | returned hphase =>
      exact Or.inr (Or.inl ⟨h.pending, by rw [h.waiting, hphase]; rfl, h.live⟩)

end Wiremap.Service.Debounce
