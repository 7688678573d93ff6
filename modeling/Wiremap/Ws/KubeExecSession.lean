import Wiremap.Ws.ExecSession
import Wiremap.Ws.TerminalSizes

/-! A shell in a pod, bridged to a terminal in the browser.  What the browser types goes
through an unbuffered pipe, of which only the writing end is ever closed. -/
namespace Wiremap.Ws.KubeExecSession

open Wiremap.Library
open Wiremap.Ws.ExecSession (Frame ExecCommand)
open Wiremap.Ws.TerminalSizes (TerminalSize TerminalSizeQueue)

inductive MainLoop where
  | reading
  /-- It is in `sizes.push`. -/
  | pushing
  /-- It is in `stdinWriter.Write`, and this has not been read yet. -/
  | writing (rest : List UInt8)
  | closing
  | returned
  deriving DecidableEq, Repr

inductive ExecCall where
  | running
  | reporting (err : String)
  | closing
  | ended
  deriving DecidableEq, Repr

structure Session where
  /-- The browser has gone, or its connection has been closed. -/
  browserClosed : Bool
  /-- Sent by the browser and not read yet. -/
  frames : List (Frame UInt16)
  /-- What the browser has been sent. -/
  received : List (List UInt8)
  /-- What `Exec` has read. -/
  stdin : List UInt8
  /-- Its context is that of the whole session. -/
  sizes : TerminalSizeQueue
  main : MainLoop
  exec : ExecCall
  deriving DecidableEq, Repr

def handleExecWS (upgraded : Bool) : Session :=
  if upgraded then ⟨false, [], [], [], TerminalSizes.machine.init, .reading, .running⟩
  else ⟨true, [], [], [], TerminalSizes.machine.init, .returned, .ended⟩

/-- The browser sends and goes; `Exec` reads up to `n` bytes, prints, takes sizes and
returns; its goroutine reports and closes; and the handler does the rest. -/
inductive Event where
  | send (frame : Frame UInt16)
  | disconnect
  | stdinRead (n : Nat)
  | printed (bytes : List UInt8) (arrived : Bool)
  | next
  | sizeReceived (size : TerminalSize)
  | sizesDone
  | execReturned (err : Option String)
  | reported (arrived : Bool)
  | connClosed
  | frameRead
  | frameFailed
  | drained
  | sent
  | stdinClosed
  deriving DecidableEq, Repr

/-- The steps of the handler, and of its goroutine once `Exec` has returned. -/
def Event.Own : Event → Prop
  | .reported _ | .connClosed | .frameRead | .frameFailed | .drained | .sent | .stdinClosed => True
  | _ => False

def report (err : String) : List UInt8 :=
  ("\r\n\x1b[31m" ++ err ++ "\x1b[0m\r\n").toUTF8.data.toList

def Session.write (s : Session) (bytes : List UInt8) (arrived : Bool) : Session :=
  if arrived then { s with received := s.received ++ [bytes] } else s

def Session.stepSizes (s : Session) (e : TerminalSizes.Event) : Option Session :=
  (TerminalSizes.step s.sizes e).map fun sizes => { s with sizes := sizes }

def step (s : Session) : Event → Option Session
  | .send frame =>
      if s.browserClosed then none else some { s with frames := s.frames ++ [frame] }
  | .disconnect => if s.browserClosed then none else some { s with browserClosed := true }
  | .stdinRead n =>
      match s.exec, s.main with
      | .running, .writing rest =>
          -- a write ends with the read that takes the last of it
          some { s with
            stdin := s.stdin ++ rest.take n
            main := if rest.drop n = [] then .reading else .writing (rest.drop n) }
      | _, _ => none
  | .printed bytes arrived => if s.exec = .running then some (s.write bytes arrived) else none
  | .next => s.stepSizes .next
  | .sizeReceived size => s.stepSizes (.received size)
  | .sizesDone => s.stepSizes .done
  | .execReturned err =>
      if s.exec = .running then
        match err with
        | some message =>
            some { s with exec := if s.sizes.cancelled then .closing else .reporting message }
        | none => some { s with exec := .closing }
      else none
  | .reported arrived =>
      match s.exec with
      | .reporting err => some { s.write (report err) arrived with exec := .closing }
      | _ => none
  | .connClosed =>
      if s.exec = .closing then some { s with browserClosed := true, exec := .ended } else none
  | .frameRead =>
      match s.main, s.frames with
      | .reading, frame :: frames =>
          match frame.resize with
          | some cmd =>
              { s with frames := frames, main := .pushing }.stepSizes (.push ⟨cmd.cols, cmd.rows⟩)
          | none => some { s with frames := frames, main := .writing frame.msg }
      | _, _ => none
  | .frameFailed =>
      -- what has not been read by then may be lost
      if s.main = .reading ∧ s.browserClosed then some { s with main := .closing } else none
  | .drained => if s.main = .pushing then s.stepSizes .drained else none
  | .sent =>
      if s.main = .pushing then { s with main := .reading }.stepSizes .sent else none
  | .stdinClosed =>
      -- the context is cancelled and the connection closed after it
      if s.main = .closing then
        { s with browserClosed := true, main := .returned }.stepSizes .cancel
      else none

def machine (upgraded : Bool) : Machine Session Event where
  init := handleExecWS upgraded
  step := step

/-- Once `Exec` has returned, and reads no more, the handler is in no write and
has a step to take until it has returned too. -/
structure Free (s : Session) : Prop where
  unblocked : s.exec ≠ .running → ∀ rest, s.main ≠ .writing rest
  goesOn : s.exec ≠ .running → s.main ≠ .returned → ∃ e : Event, e.Own ∧ (step s e).isSome

/-- `Exec` returns when it has read all that was written, and nothing that is typed
is taken up after it. -/
def Consumed (s : Session) : Event → Prop
  | .execReturned _ => ∀ rest, s.main ≠ .writing rest
  | .frameRead => s.exec ≠ .running → ∀ frame ∈ s.frames.head?, frame.IsResize
  | _ => True

instance (s : Session) : DecidablePred (Consumed s)
  | .execReturned _ =>
      match hmain : s.main with
      | .writing rest => isFalse fun h => h rest hmain
      | .reading | .pushing | .closing | .returned => isTrue fun rest => by simp [hmain]
  | .frameRead =>
      inferInstanceAs (Decidable (s.exec ≠ .running → ∀ frame ∈ s.frames.head?, frame.IsResize))
  | .send _ | .disconnect | .stdinRead _ | .printed _ _ | .next | .sizeReceived _ | .sizesDone
  | .reported _ | .connClosed | .frameFailed | .drained | .sent | .stdinClosed => isTrue trivial

/-! ### Steps -/

inductive Step (s : Session) : Event → Session → Prop where
  | send (frame : Frame UInt16) : s.browserClosed = false →
      Step s (.send frame) { s with frames := s.frames ++ [frame] }
  | disconnect : s.browserClosed = false → Step s .disconnect { s with browserClosed := true }
  | stdinRead {n : Nat} {rest : List UInt8} : s.exec = .running → s.main = .writing rest →
      Step s (.stdinRead n) { s with
        stdin := s.stdin ++ rest.take n
        main := if rest.drop n = [] then .reading else .writing (rest.drop n) }
  | printed (bytes : List UInt8) (arrived : Bool) : s.exec = .running →
      Step s (.printed bytes arrived) (s.write bytes arrived)
  | next {sizes : TerminalSizeQueue} : TerminalSizes.step s.sizes .next = some sizes →
      Step s .next { s with sizes := sizes }
  | sizeReceived {size : TerminalSize} {sizes : TerminalSizeQueue} :
      TerminalSizes.step s.sizes (.received size) = some sizes →
      Step s (.sizeReceived size) { s with sizes := sizes }
  | sizesDone {sizes : TerminalSizeQueue} : TerminalSizes.step s.sizes .done = some sizes →
      Step s .sizesDone { s with sizes := sizes }
  | execReturned (err : Option String) {exec : ExecCall} : s.exec = .running → exec ≠ .running →
      exec ≠ .ended → Step s (.execReturned err) { s with exec := exec }
  | reported {err : String} (arrived : Bool) : s.exec = .reporting err →
      Step s (.reported arrived) { s.write (report err) arrived with exec := .closing }
  | connClosed : s.exec = .closing →
      Step s .connClosed { s with browserClosed := true, exec := .ended }
  | resized {frame : Frame UInt16} {frames : List (Frame UInt16)} {cmd : ExecCommand UInt16}
      {sizes : TerminalSizeQueue} : s.main = .reading → s.frames = frame :: frames →
      frame.resize = some cmd →
      TerminalSizes.step s.sizes (.push ⟨cmd.cols, cmd.rows⟩) = some sizes →
      Step s .frameRead { s with frames := frames, main := .pushing, sizes := sizes }
  | frameRead {frame : Frame UInt16} {frames : List (Frame UInt16)} : s.main = .reading →
      s.frames = frame :: frames → frame.resize = none →
      Step s .frameRead { s with frames := frames, main := .writing frame.msg }
  | frameFailed : s.main = .reading → s.browserClosed →
      Step s .frameFailed { s with main := .closing }
  | drained {sizes : TerminalSizeQueue} : s.main = .pushing →
      TerminalSizes.step s.sizes .drained = some sizes → Step s .drained { s with sizes := sizes }
  | sent {sizes : TerminalSizeQueue} : s.main = .pushing →
      TerminalSizes.step s.sizes .sent = some sizes →
      Step s .sent { s with main := .reading, sizes := sizes }
  | stdinClosed {sizes : TerminalSizeQueue} : s.main = .closing →
      TerminalSizes.step s.sizes .cancel = some sizes →
      Step s .stdinClosed { s with browserClosed := true, main := .returned, sizes := sizes }

variable {s s' : Session} {e : Event} {es : List Event}

theorem stepSizes_inv {e : TerminalSizes.Event} (h : s.stepSizes e = some s') :
    ∃ sizes, TerminalSizes.step s.sizes e = some sizes ∧ s' = { s with sizes := sizes } := by
  obtain ⟨sizes, hsizes, rfl⟩ := Option.map_eq_some_iff.mp h
  exact ⟨sizes, hsizes, rfl⟩

theorem step_inv (h : step s e = some s') : Step s e s' := by
  cases e with
  | send frame =>
      obtain ⟨hopen, rfl⟩ := Machine.refused_eq_some.mp h
      exact .send frame (Bool.not_eq_true _ ▸ hopen)
  | disconnect =>
      obtain ⟨hopen, rfl⟩ := Machine.refused_eq_some.mp h
      exact .disconnect (Bool.not_eq_true _ ▸ hopen)
  | stdinRead n =>
      simp only [step] at h
      split at h
      · obtain rfl := Option.some.inj h
        exact .stdinRead ‹_› ‹_›
      · cases h
  | printed bytes arrived =>
      obtain ⟨hrunning, rfl⟩ := Machine.guarded_eq_some.mp h
      exact .printed bytes arrived hrunning
  | next =>
      obtain ⟨sizes, hsizes, rfl⟩ := stepSizes_inv h
      exact .next hsizes
  | sizeReceived size =>
      obtain ⟨sizes, hsizes, rfl⟩ := stepSizes_inv h
      exact .sizeReceived hsizes
  | sizesDone =>
      obtain ⟨sizes, hsizes, rfl⟩ := stepSizes_inv h
      exact .sizesDone hsizes
  | execReturned err =>
      obtain ⟨hrunning, h⟩ := Option.ite_none_right_eq_some.mp h
      cases err with
      | some message =>
          obtain rfl := Option.some.inj h
          exact .execReturned _ hrunning (by split <;> simp) (by split <;> simp)
      | none =>
          obtain rfl := Option.some.inj h
          exact .execReturned _ hrunning (by simp) (by simp)
  | reported arrived =>
      simp only [step] at h
      split at h
      · obtain rfl := Option.some.inj h
        exact .reported arrived ‹_›
      · cases h
  | connClosed =>
      obtain ⟨hclosing, rfl⟩ := Machine.guarded_eq_some.mp h
      exact .connClosed hclosing
  | frameRead =>
      simp only [step] at h
      split at h
      · split at h
        · obtain ⟨sizes, hsizes, rfl⟩ := stepSizes_inv h
          exact .resized ‹_› ‹_› ‹_› hsizes
        · obtain rfl := Option.some.inj h
          exact .frameRead ‹_› ‹_› ‹_›
      · cases h
  | frameFailed =>
      obtain ⟨⟨hmain, hclosed⟩, rfl⟩ := Machine.guarded_eq_some.mp h
      exact .frameFailed hmain hclosed
  | drained =>
      obtain ⟨hmain, h⟩ := Option.ite_none_right_eq_some.mp h
      obtain ⟨sizes, hsizes, rfl⟩ := stepSizes_inv h
      exact .drained hmain hsizes
  | sent =>
      obtain ⟨hmain, h⟩ := Option.ite_none_right_eq_some.mp h
      obtain ⟨sizes, hsizes, rfl⟩ := stepSizes_inv h
      exact .sent hmain hsizes
  | stdinClosed =>
      obtain ⟨hmain, h⟩ := Option.ite_none_right_eq_some.mp h
      obtain ⟨sizes, hsizes, rfl⟩ := stepSizes_inv h
      exact .stdinClosed hmain hsizes

@[simp] theorem Session.write_sizes (s : Session) (bytes : List UInt8) (arrived : Bool) :
    (s.write bytes arrived).sizes = s.sizes := by
  cases arrived <;> rfl

@[simp] theorem Session.write_main (s : Session) (bytes : List UInt8) (arrived : Bool) :
    (s.write bytes arrived).main = s.main := by
  cases arrived <;> rfl

@[simp] theorem Session.write_exec (s : Session) (bytes : List UInt8) (arrived : Bool) :
    (s.write bytes arrived).exec = s.exec := by
  cases arrived <;> rfl

@[simp] theorem Session.write_browserClosed (s : Session) (bytes : List UInt8) (arrived : Bool) :
    (s.write bytes arrived).browserClosed = s.browserClosed := by
  cases arrived <;> rfl

theorem step_sizes (h : step s e = some s') :
    s'.sizes = s.sizes ∨ ∃ e', TerminalSizes.step s.sizes e' = some s'.sizes := by
  cases step_inv h with
  | send _ _ | disconnect _ | stdinRead _ _ | execReturned _ _ _ _ | connClosed _ | frameRead _ _ _
  | frameFailed _ _ => exact Or.inl rfl
  | printed _ _ _ | reported _ _ => exact Or.inl (by simp)
  | next hsizes | sizeReceived hsizes | sizesDone hsizes | drained _ hsizes | sent _ hsizes
  | stdinClosed _ hsizes | resized _ _ _ hsizes => exact Or.inr ⟨_, hsizes⟩

/-- The handler pushes when it says so, and `Exec` is done with once the connection is closed. -/
structure Paired (s : Session) : Prop where
  pushing : s.main = .pushing ↔ s.sizes.pusher ≠ .idle
  closed : s.exec = .ended → s.browserClosed

theorem Paired.step (h : Paired s) (hstep : step s e = some s') : Paired s' := by
  obtain ⟨hpushing, hclosed⟩ := h
  cases step_inv hstep with
  | send _ _ => exact ⟨hpushing, hclosed⟩
  | disconnect _ => exact ⟨hpushing, fun _ => rfl⟩
  | stdinRead _ hmain =>
      rw [hmain] at hpushing
      refine ⟨?_, hclosed⟩
      rw [← hpushing]
      split <;> simp
  | printed _ _ _ => exact ⟨by simpa using hpushing, by simpa using hclosed⟩
  | next hsizes =>
      cases TerminalSizes.step_inv hsizes with
      | next _ => exact ⟨hpushing, hclosed⟩
  | sizeReceived hsizes =>
      cases TerminalSizes.step_inv hsizes with
      | received _ _ => exact ⟨hpushing, hclosed⟩
  | sizesDone hsizes =>
      cases TerminalSizes.step_inv hsizes with
      | done _ _ => exact ⟨hpushing, hclosed⟩
  | execReturned _ _ _ hended => exact ⟨hpushing, fun h => absurd h hended⟩
  | reported _ _ => exact ⟨by simpa using hpushing, by simp⟩
  | connClosed _ => exact ⟨hpushing, fun _ => rfl⟩
  | resized _ _ _ hsizes =>
      cases TerminalSizes.step_inv hsizes with
      | push _ _ => exact ⟨by simp, hclosed⟩
  | frameRead hmain _ _ =>
      rw [hmain] at hpushing
      exact ⟨by simpa using hpushing, hclosed⟩
  | frameFailed hmain _ =>
      rw [hmain] at hpushing
      exact ⟨by simpa using hpushing, hclosed⟩
  | drained hmain hsizes =>
      cases TerminalSizes.step_inv hsizes with
      | drained _ => exact ⟨by simp [hmain], hclosed⟩
  | sent _ hsizes =>
      cases TerminalSizes.step_inv hsizes with
      | sent _ _ => exact ⟨by simp, hclosed⟩
  | stdinClosed hmain hsizes =>
      rw [hmain] at hpushing
      cases TerminalSizes.step_inv hsizes with
      | cancel => exact ⟨by simpa using hpushing, fun _ => rfl⟩

variable {upgraded : Bool}

theorem paired_init : Paired (machine upgraded).init := by
  cases upgraded <;> exact ⟨by simp [machine, handleExecWS, TerminalSizes.machine],
    by simp [machine, handleExecWS]⟩

theorem paired_run (hrun : (machine upgraded).Run Machine.unguarded es s) : Paired s :=
  hrun.invariant paired_init fun _ _ _ h _ hstep => h.step hstep

/-- The send of a size always finds the slot empty. -/
theorem slot_of_sending (hrun : (machine upgraded).Run Machine.unguarded es s)
    {size : TerminalSize} (hsending : s.sizes.pusher = .sending size) : s.sizes.slot = none := by
  obtain ⟨es', sizes, hsizes, rfl⟩ := hrun.simulated (n := TerminalSizes.machine)
    (R := fun s sizes => s.sizes = sizes) (by cases upgraded <;> rfl) (by
      rintro s e s' _ rfl hstep
      rcases step_sizes hstep with hsame | ⟨e', hstep'⟩
      · exact Or.inl hsame
      · exact Or.inr ⟨e', _, hstep', rfl⟩)
  exact (TerminalSizes.ordered_run hsizes).emptied size hsending

/-- A push is never held up, so the pipe is all that can hold up the handler. -/
theorem free_iff (hrun : (machine upgraded).Run Machine.unguarded es s) :
    Free s ↔ (s.exec ≠ .running → ∀ rest, s.main ≠ .writing rest) := by
  refine ⟨Free.unblocked, fun hunblocked => ⟨hunblocked, fun hended hreturned => ?_⟩⟩
  obtain ⟨hpushing, hclosed⟩ := paired_run hrun
  cases hmain : s.main with
  | reading =>
      cases hopen : s.browserClosed with
      | true => exact ⟨.frameFailed, trivial, by simp [step, hmain, hopen]⟩
      | false =>
          cases hexec : s.exec with
          | running => exact absurd hexec hended
          | reporting err => exact ⟨.reported true, trivial, by simp [step, hexec]⟩
          | closing => exact ⟨.connClosed, trivial, by simp [step, hexec]⟩
          | ended => simp [hopen] at hclosed; exact absurd hexec hclosed
  | pushing =>
      cases hpusher : s.sizes.pusher with
      | idle => exact absurd hpusher (hpushing.mp hmain)
      | draining size =>
          exact ⟨.drained, trivial, by
            simp [step, hmain, Session.stepSizes, TerminalSizes.step, hpusher]⟩
      | sending size =>
          have hslot := slot_of_sending hrun hpusher
          exact ⟨.sent, trivial, by
            simp [step, hmain, Session.stepSizes, TerminalSizes.step, hpusher, hslot]⟩
  | writing rest => exact absurd hmain (hunblocked hended rest)
  | closing =>
      exact ⟨.stdinClosed, trivial, by simp [step, hmain, Session.stepSizes, TerminalSizes.step]⟩
  | returned => exact absurd hmain hreturned

theorem free_init : Free (machine upgraded).init := by
  rw [free_iff .init]
  cases upgraded <;> simp [machine, handleExecWS]

theorem consumed_iff (hrun : (machine upgraded).Run Machine.unguarded es s) (h : Free s)
    (hstep : step s e = some s') : Consumed s e ↔ Free s' := by
  rw [free_iff (hrun.snoc trivial hstep)]
  have hunblocked := h.unblocked
  cases step_inv hstep with
  | send _ _ | disconnect _ | printed _ _ _ | next _ | sizeReceived _ | sizesDone _
  | drained _ _ => simpa [Consumed] using hunblocked
  | stdinRead hrunning _ => simp [Consumed, hrunning]
  | execReturned _ _ hreturned _ => simp [Consumed, hreturned]
  | reported _ hexec | connClosed hexec =>
      have hwaits := hunblocked (by simp [hexec])
      simpa [Consumed] using hwaits
  | resized _ hframes hresize _ => simp [Consumed, hframes, Frame.IsResize, hresize]
  | frameRead _ hframes hresize => simp [Consumed, hframes, Frame.IsResize, hresize]
  | frameFailed _ _ | sent _ _ | stdinClosed _ _ => simp [Consumed]

theorem consumed_run (hrun : (machine upgraded).Run Consumed es s) : Free s := by
  induction hrun with
  | init => exact free_init
  | snoc hprev hguard hstep ih => exact (consumed_iff hprev.unguard ih hstep).mp hguard

/-- For every interleaving: all states on the way are free exactly when `Exec` consumes
what is typed. -/
theorem alwaysFree_iff (upgraded : Bool) (es : List Event) (s : Session)
    (hrun : (machine upgraded).Run Machine.unguarded es s) :
    (∀ before after t, es = before ++ after →
      (machine upgraded).Run Machine.unguarded before t → Free t) ↔
    (machine upgraded).Run Consumed es s :=
  hrun.always_iff free_init fun _ _ _ _ hpast hstep =>
    consumed_iff hpast.unguard (consumed_run hpast) hstep

/-- A key is pressed, and `Exec` fails without having read it: the goroutine reports
that and closes the connection, and the handler stays where it is. -/
theorem keystroke_blocks :
    ∃ s, (machine true).Run Machine.unguarded
      [.send (.binary [108]), .frameRead, .execReturned (some "container not running"),
        .reported true, .connClosed] s ∧
      s.exec = .ended ∧ s.main = .writing [108] ∧ ¬Free s := by
  have hrun := Machine.run_of_runGuarded (machine true) Machine.unguarded
    [.send (.binary [108]), .frameRead, .execReturned (some "container not running"),
      .reported true, .connClosed] rfl
  exact ⟨_, hrun, rfl, rfl, fun h => h.unblocked (by decide) [108] rfl⟩

def consumedEvents : List Event :=
  [.send (.binary [4]), .frameRead, .stdinRead 512, .execReturned none, .connClosed, .frameFailed,
    .stdinClosed]

theorem alwaysFree_consumedEvents :
    ∃ s, (machine true).Run Machine.unguarded consumedEvents s ∧ s.main = .returned ∧
      ∀ before after t, consumedEvents = before ++ after →
        (machine true).Run Machine.unguarded before t → Free t := by
  have hrun := Machine.run_of_runGuarded (machine true) Consumed consumedEvents rfl
  exact ⟨_, hrun.unguard, rfl, (alwaysFree_iff _ _ _ hrun.unguard).mpr hrun⟩

end Wiremap.Ws.KubeExecSession
