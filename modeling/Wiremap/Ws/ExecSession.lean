import Wiremap.Library.Machine

/-! A shell in a container, bridged to a terminal in the browser.  One loop reads the
browser, another goroutine reads the shell, and neither connection is closed before both
have ended. -/
namespace Wiremap.Ws.ExecSession

open Wiremap.Library

structure ExecCommand (Size : Type) where
  event : String
  cols : Size
  rows : Size
  deriving DecidableEq, Repr

/-- `cmd` is `none` when the text does not unmarshal into a command. -/
inductive Frame (Size : Type) where
  | text (msg : List UInt8) (cmd : Option (ExecCommand Size))
  | binary (msg : List UInt8)
  deriving DecidableEq, Repr

namespace Frame

variable {Size : Type}

def msg : Frame Size → List UInt8
  | .text msg _ | .binary msg => msg

def resize : Frame Size → Option (ExecCommand Size)
  | .text _ (some cmd) => if cmd.event = "resize" then some cmd else none
  | .text _ none | .binary _ => none

def IsResize (frame : Frame Size) : Prop := frame.resize.isSome

instance : DecidablePred (@IsResize Size) := fun frame =>
  inferInstanceAs (Decidable (frame.resize.isSome = true))

end Frame

inductive Message where
  | output (bytes : List UInt8)
  | execError (message : String)
  deriving DecidableEq, Repr

inductive MainLoop where
  | reading
  | writing (msg : List UInt8)
  /-- It waits on `done`. -/
  | joining
  | returned
  deriving DecidableEq, Repr

/-- The loop from the shell to the browser; `done` is closed when it has ended. -/
inductive CopyLoop where
  | reading
  | writing (bytes : List UInt8)
  | ended
  deriving DecidableEq, Repr

structure Session where
  browserClosed : Bool
  /-- Sent by the browser and not read yet. -/
  frames : List (Frame UInt64)
  /-- What the browser has been sent. -/
  received : List Message
  /-- The shell has exited, or its connection has been closed. -/
  shellClosed : Bool
  /-- Printed by the shell and not read yet. -/
  output : List UInt8
  stdin : List UInt8
  main : MainLoop
  copy : CopyLoop
  deriving DecidableEq, Repr

inductive Opening where
  | upgradeFailed
  | execFailed (message : String)
  | opened
  deriving DecidableEq, Repr

def handleExecWS : Opening → Session
  | .upgradeFailed => ⟨true, [], [], true, [], [], .returned, .ended⟩
  | .execFailed message => ⟨true, [], [.execError message], true, [], [], .returned, .ended⟩
  | .opened => ⟨false, [], [], false, [], [], .reading, .reading⟩

inductive Event where
  | send (frame : Frame UInt64)
  | disconnect
  | print (bytes : List UInt8)
  | exit
  | frameRead
  | frameFailed
  | stdinWritten
  | stdinFailed
  | joined
  | outputRead (n : Nat)
  | outputFailed
  | messageWritten
  | messageFailed
  deriving DecidableEq, Repr

/-- The steps of the handler and its goroutine. -/
def Event.Own : Event → Prop
  | .send _ | .disconnect | .print _ | .exit => False
  | _ => True

def bufSize : Nat := 4096

def step (s : Session) : Event → Option Session
  | .send frame =>
      if s.browserClosed then none else some { s with frames := s.frames ++ [frame] }
  | .disconnect => if s.browserClosed then none else some { s with browserClosed := true }
  | .print bytes => if s.shellClosed then none else some { s with output := s.output ++ bytes }
  | .exit => if s.shellClosed then none else some { s with shellClosed := true }
  | .frameRead =>
      match s.main, s.frames with
      | .reading, frame :: frames =>
          -- the exec id is not at hand, so a resize is dropped
          if frame.IsResize then some { s with frames := frames }
          else some { s with frames := frames, main := .writing frame.msg }
      | _, _ => none
  | .frameFailed =>
      -- what has not been read by then may be lost
      if s.main = .reading ∧ s.browserClosed then some { s with main := .joining } else none
  | .stdinWritten =>
      match s.main with
      | .writing msg => some { s with stdin := s.stdin ++ msg, main := .reading }
      | _ => none
  | .stdinFailed =>
      match s.main with
      | .writing _ => some { s with main := .joining }
      | _ => none
  | .joined =>
      -- the deferred closes come after it
      if s.main = .joining ∧ s.copy = .ended then
        some { s with browserClosed := true, shellClosed := true, main := .returned }
      else none
  | .outputRead n =>
      if s.copy = .reading ∧ 0 < n ∧ n ≤ bufSize ∧ n ≤ s.output.length then
        some { s with output := s.output.drop n, copy := .writing (s.output.take n) }
      else none
  | .outputFailed =>
      if s.copy = .reading ∧ s.shellClosed then some { s with copy := .ended } else none
  | .messageWritten =>
      match s.copy with
      | .writing bytes => some { s with received := s.received ++ [.output bytes], copy := .reading }
      | _ => none
  | .messageFailed =>
      match s.copy with
      | .writing _ => some { s with copy := .ended }
      | _ => none

/-- `HandleExecWS` from where both connections are had. -/
def machine (opening : Opening) : Machine Session Event where
  init := handleExecWS opening
  step := step

namespace Session

def BrowserIdle (s : Session) : Prop := s.browserClosed = false ∧ s.frames = []

def ShellIdle (s : Session) : Prop := s.shellClosed = false ∧ s.output = []

/-- The handler has not returned and has no step to take. -/
def Blocked (s : Session) : Prop := s.main ≠ .returned ∧ ∀ e, e.Own → step s e = none

/-- One side has ended and the handler is blocked, while the other is open and idle. -/
def Hangs (s : Session) : Prop :=
  (s.browserClosed ∧ s.ShellIdle ∨ s.shellClosed ∧ s.BrowserIdle) ∧ s.Blocked

def WaitsForBrowser (s : Session) : Prop := s.main = .reading ∧ s.BrowserIdle

def WaitsForShell (s : Session) : Prop := s.copy = .reading ∧ s.ShellIdle

end Session

/-- The step does not leave one loop waiting on an idle side after the other side and its
loop have ended. -/
def Attended (s : Session) : Event → Prop
  | .disconnect => ¬(s.main = .joining ∧ s.WaitsForShell)
  | .exit => ¬(s.copy = .ended ∧ s.WaitsForBrowser)
  | .frameRead =>
      ¬(s.shellClosed ∧ s.copy = .ended ∧ s.browserClosed = false ∧ s.frames.length = 1 ∧
        ∀ frame ∈ s.frames, frame.IsResize)
  | .frameFailed => ¬s.WaitsForShell
  | .stdinWritten => ¬(s.shellClosed ∧ s.copy = .ended ∧ s.BrowserIdle)
  | .stdinFailed => ¬(s.browserClosed ∧ s.WaitsForShell)
  | .outputFailed => ¬s.WaitsForBrowser
  | .messageWritten => ¬(s.browserClosed ∧ s.main = .joining ∧ s.ShellIdle)
  | .messageFailed => ¬(s.shellClosed ∧ s.WaitsForBrowser)
  | .send _ | .print _ | .joined | .outputRead _ => True

instance : DecidablePred Session.BrowserIdle := fun _ => inferInstanceAs (Decidable (_ ∧ _))

instance : DecidablePred Session.ShellIdle := fun _ => inferInstanceAs (Decidable (_ ∧ _))

instance : DecidablePred Session.WaitsForBrowser := fun _ => inferInstanceAs (Decidable (_ ∧ _))

instance : DecidablePred Session.WaitsForShell := fun _ => inferInstanceAs (Decidable (_ ∧ _))

instance (s : Session) : DecidablePred (Attended s)
  | .disconnect | .exit | .frameRead | .stdinWritten | .stdinFailed | .messageWritten
  | .messageFailed => inferInstanceAs (Decidable (¬(_ ∧ _)))
  | .frameFailed => inferInstanceAs (Decidable (¬s.WaitsForShell))
  | .outputFailed => inferInstanceAs (Decidable (¬s.WaitsForBrowser))
  | .send _ | .print _ | .joined | .outputRead _ => isTrue trivial

/-! ### Steps -/

inductive Step (s : Session) : Event → Session → Prop where
  | send (frame : Frame UInt64) : s.browserClosed = false →
      Step s (.send frame) { s with frames := s.frames ++ [frame] }
  | disconnect : s.browserClosed = false → Step s .disconnect { s with browserClosed := true }
  | print (bytes : List UInt8) : s.shellClosed = false →
      Step s (.print bytes) { s with output := s.output ++ bytes }
  | exit : s.shellClosed = false → Step s .exit { s with shellClosed := true }
  | resized {frame : Frame UInt64} {frames : List (Frame UInt64)} : s.main = .reading →
      s.frames = frame :: frames → frame.IsResize → Step s .frameRead { s with frames := frames }
  | frameRead {frame : Frame UInt64} {frames : List (Frame UInt64)} : s.main = .reading →
      s.frames = frame :: frames → ¬frame.IsResize →
      Step s .frameRead { s with frames := frames, main := .writing frame.msg }
  | frameFailed : s.main = .reading → s.browserClosed →
      Step s .frameFailed { s with main := .joining }
  | stdinWritten {msg : List UInt8} : s.main = .writing msg →
      Step s .stdinWritten { s with stdin := s.stdin ++ msg, main := .reading }
  | stdinFailed {msg : List UInt8} : s.main = .writing msg →
      Step s .stdinFailed { s with main := .joining }
  | joined : s.main = .joining → s.copy = .ended →
      Step s .joined { s with browserClosed := true, shellClosed := true, main := .returned }
  | outputRead {n : Nat} : s.copy = .reading → 0 < n → n ≤ bufSize → n ≤ s.output.length →
      Step s (.outputRead n)
        { s with output := s.output.drop n, copy := .writing (s.output.take n) }
  | outputFailed : s.copy = .reading → s.shellClosed →
      Step s .outputFailed { s with copy := .ended }
  | messageWritten {bytes : List UInt8} : s.copy = .writing bytes →
      Step s .messageWritten { s with received := s.received ++ [.output bytes], copy := .reading }
  | messageFailed {bytes : List UInt8} : s.copy = .writing bytes →
      Step s .messageFailed { s with copy := .ended }

variable {s s' : Session} {e : Event} {es : List Event}

theorem step_inv (h : step s e = some s') : Step s e s' := by
  cases e with
  | send frame =>
      obtain ⟨hopen, rfl⟩ := Machine.refused_eq_some.mp h
      exact .send frame (Bool.not_eq_true _ ▸ hopen)
  | disconnect =>
      obtain ⟨hopen, rfl⟩ := Machine.refused_eq_some.mp h
      exact .disconnect (Bool.not_eq_true _ ▸ hopen)
  | print bytes =>
      obtain ⟨hopen, rfl⟩ := Machine.refused_eq_some.mp h
      exact .print bytes (Bool.not_eq_true _ ▸ hopen)
  | exit =>
      obtain ⟨hopen, rfl⟩ := Machine.refused_eq_some.mp h
      exact .exit (Bool.not_eq_true _ ▸ hopen)
  | frameRead =>
      simp only [step] at h
      split at h
      · split at h
        · obtain rfl := Option.some.inj h
          exact .resized ‹_› ‹_› ‹_›
        · obtain rfl := Option.some.inj h
          exact .frameRead ‹_› ‹_› ‹_›
      · cases h
  | frameFailed =>
      obtain ⟨⟨hmain, hclosed⟩, rfl⟩ := Machine.guarded_eq_some.mp h
      exact .frameFailed hmain hclosed
  | stdinWritten =>
      simp only [step] at h
      split at h
      · obtain rfl := Option.some.inj h
        exact .stdinWritten ‹_›
      · cases h
  | stdinFailed =>
      simp only [step] at h
      split at h
      · obtain rfl := Option.some.inj h
        exact .stdinFailed ‹_›
      · cases h
  | joined =>
      obtain ⟨⟨hmain, hcopy⟩, rfl⟩ := Machine.guarded_eq_some.mp h
      exact .joined hmain hcopy
  | outputRead n =>
      obtain ⟨⟨hcopy, hpos, hbuf, hlength⟩, rfl⟩ := Machine.guarded_eq_some.mp h
      exact .outputRead hcopy hpos hbuf hlength
  | outputFailed =>
      obtain ⟨⟨hcopy, hclosed⟩, rfl⟩ := Machine.guarded_eq_some.mp h
      exact .outputFailed hcopy hclosed
  | messageWritten =>
      simp only [step] at h
      split at h
      · obtain rfl := Option.some.inj h
        exact .messageWritten ‹_›
      · cases h
  | messageFailed =>
      simp only [step] at h
      split at h
      · obtain rfl := Option.some.inj h
        exact .messageFailed ‹_›
      · cases h

theorem Session.Blocked.main_or (h : s.Blocked) :
    s.WaitsForBrowser ∨ s.main = .joining ∧ s.copy ≠ .ended := by
  obtain ⟨hreturned, hnone⟩ := h
  cases hmain : s.main with
  | reading =>
      have hframes : s.frames = [] := by
        by_contra hpending
        obtain ⟨frame, frames, hframes⟩ := List.exists_cons_of_ne_nil hpending
        have hread := hnone .frameRead trivial
        simp only [step, hmain, hframes] at hread
        split at hread <;> cases hread
      have hopen : s.browserClosed = false := by
        by_contra hclosed
        simpa [step, hmain, hclosed] using hnone .frameFailed trivial
      exact Or.inl ⟨hmain, hopen, hframes⟩
  | writing msg => simpa [step, hmain] using hnone .stdinWritten trivial
  | joining =>
      refine Or.inr ⟨rfl, fun hended => ?_⟩
      simpa [step, hmain, hended] using hnone .joined trivial
  | returned => exact absurd hmain hreturned

theorem Session.Blocked.copy_or (h : s.Blocked) : s.WaitsForShell ∨ s.copy = .ended := by
  obtain ⟨-, hnone⟩ := h
  cases hcopy : s.copy with
  | reading =>
      have houtput : s.output = [] := by
        by_contra hpending
        have hlength := List.length_pos_iff.mpr hpending
        have hread := hnone (.outputRead 1) trivial
        rw [step, if_pos ⟨hcopy, by omega, by decide, by omega⟩] at hread
        cases hread
      have hopen : s.shellClosed = false := by
        by_contra hclosed
        simpa [step, hcopy, hclosed] using hnone .outputFailed trivial
      exact Or.inl ⟨hcopy, hopen, houtput⟩
  | writing bytes => simpa [step, hcopy] using hnone .messageWritten trivial
  | ended => exact Or.inr rfl

theorem blocked_of_waits
    (h : s.main = .joining ∧ s.WaitsForShell ∨ s.copy = .ended ∧ s.WaitsForBrowser) :
    s.Blocked := by
  rcases h with ⟨hmain, hcopy, hopen, houtput⟩ | ⟨hcopy, hmain, hopen, hframes⟩
  · refine ⟨by simp [hmain], fun e howns => ?_⟩
    cases e <;> simp_all [step, Event.Own]
    omega
  · refine ⟨by simp [hmain], fun e howns => ?_⟩
    cases e <;> simp_all [step, Event.Own]

theorem hangs_iff : s.Hangs ↔
    (s.browserClosed ∧ s.main = .joining ∧ s.WaitsForShell) ∨
      (s.shellClosed ∧ s.copy = .ended ∧ s.WaitsForBrowser) := by
  constructor
  · rintro ⟨⟨hclosed, hopen, -⟩ | ⟨hclosed, hopen, -⟩, hblocked⟩
    · rcases hblocked.main_or with ⟨-, hother, -⟩ | ⟨hjoining, hended⟩
      · simp [hother] at hclosed
      · exact Or.inl ⟨hclosed, hjoining, hblocked.copy_or.resolve_right hended⟩
    · rcases hblocked.copy_or with ⟨-, hother, -⟩ | hended
      · simp [hother] at hclosed
      · exact Or.inr ⟨hclosed, hended, hblocked.main_or.resolve_right fun h => h.2 hended⟩
  · rintro (⟨hclosed, hjoining, hwaits⟩ | ⟨hclosed, hended, hwaits⟩)
    · exact ⟨Or.inl ⟨hclosed, hwaits.2⟩, blocked_of_waits (Or.inl ⟨hjoining, hwaits⟩)⟩
    · exact ⟨Or.inr ⟨hclosed, hwaits.2⟩, blocked_of_waits (Or.inr ⟨hended, hwaits⟩)⟩

/-- Along a run that has not hung, these are the steps that do not make it hang. -/
theorem attended_iff (h : ¬s.Hangs) (hstep : step s e = some s') : Attended s e ↔ ¬s'.Hangs := by
  rw [hangs_iff] at h ⊢
  simp only [Attended, Session.WaitsForBrowser, Session.WaitsForShell, Session.BrowserIdle,
    Session.ShellIdle] at h ⊢
  cases step_inv hstep with
  -- what arrives on a side can only make it less idle
  | send _ _ | print _ _ => grind [List.append_eq_nil_iff]
  -- an end matters to the loop on the other side
  | disconnect _ | exit _ => simp
  -- after its last frame the main loop waits again
  | resized hmain hframes hresize => grind
  | frameRead _ hframes hother => simp [hframes, hother]
  | stdinWritten _ | messageWritten _ => simp
  | frameFailed _ hclosed => simp [hclosed]
  | stdinFailed _ => simp
  | joined _ _ => simp
  | outputRead _ _ _ _ => grind
  | outputFailed _ hclosed => simp [hclosed]
  | messageFailed _ => simp

theorem not_hangs_init (opening : Opening) : ¬(machine opening).init.Hangs := by
  rw [hangs_iff]
  cases opening <;> simp [machine, handleExecWS, Session.WaitsForBrowser]

theorem attended_run {opening : Opening} (hrun : (machine opening).Run Attended es s) : ¬s.Hangs :=
  hrun.invariant (I := fun s => ¬s.Hangs) (not_hangs_init opening)
    fun _ _ _ h hguard hstep => (attended_iff h hstep).mp hguard

/-- For every interleaving: no state on the way hangs exactly when all steps are attended. -/
theorem neverHangs_iff (opening : Opening) (es : List Event) (s : Session)
    (hrun : (machine opening).Run Machine.unguarded es s) :
    (∀ before after t, es = before ++ after →
      (machine opening).Run Machine.unguarded before t → ¬t.Hangs) ↔
    (machine opening).Run Attended es s :=
  hrun.always_iff (P := fun s => ¬s.Hangs) (not_hangs_init opening)
    fun _ _ _ _ hpast hstep => attended_iff (attended_run hpast) hstep

/-- Closing the terminal over an idle shell leaves the handler at its join; leaving the
shell with the terminal open leaves it in its read. -/
theorem idle_hangs :
    (∃ s, (machine .opened).Run Machine.unguarded [.disconnect, .frameFailed] s ∧ s.Hangs) ∧
      ∃ s, (machine .opened).Run Machine.unguarded [.exit, .outputFailed] s ∧ s.Hangs := by
  refine ⟨⟨_, Machine.run_of_runGuarded _ _ _ rfl, ?_⟩, ⟨_, Machine.run_of_runGuarded _ _ _ rfl, ?_⟩⟩
  · exact hangs_iff.mpr (Or.inl ⟨rfl, rfl, rfl, rfl, rfl⟩)
  · exact hangs_iff.mpr (Or.inr ⟨rfl, rfl, rfl, rfl, rfl⟩)

def attendedEvents : List Event :=
  [.print [36, 32], .disconnect, .frameFailed, .outputRead 2, .messageFailed, .joined]

theorem neverHangs_attendedEvents :
    ∃ s, (machine .opened).Run Machine.unguarded attendedEvents s ∧ s.main = .returned ∧
      ∀ before after t, attendedEvents = before ++ after →
        (machine .opened).Run Machine.unguarded before t → ¬t.Hangs := by
  have hrun := Machine.run_of_runGuarded (machine .opened) Attended attendedEvents rfl
  exact ⟨_, hrun.unguard, rfl, (neverHangs_iff _ _ _ hrun.unguard).mpr hrun⟩

end Wiremap.Ws.ExecSession
