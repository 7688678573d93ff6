import Wiremap.Library.TextDecoder
import Wiremap.Ws.ExecSession

/-! The terminal of a container: what is typed goes to the shell over one socket, and what the
shell prints comes back over it, piece by piece. -/
namespace Wiremap.Client.Console

open Wiremap.Library Wiremap.Library.Runes Wiremap.Library.TextDecoder
open Wiremap.Ws.ExecSession (Session Frame Message MainLoop CopyLoop ExecCommand handleExecWS)

/-- `typed` and `printed` are history: all the terminal sent, and all the shell printed; `taken`
counts the messages the terminal has had. -/
structure ConsoleView where
  session : Session
  typed : List Char
  printed : Bytes
  taken : Nat

inductive Event where
  | onData (data : List Char)
  | onResize (cols rows : UInt64)
  | onMessage
  | server (e : Ws.ExecSession.Event)

def resizeText (cols rows : UInt64) : String :=
  "\x7b\"event\":\"resize\",\"cols\":" ++ toString cols.toNat ++ ",\"rows\":" ++ toString rows.toNat ++
    "\x7d"

def resizeFrame (cols rows : UInt64) : Frame UInt64 :=
  .text (encode (resizeText cols rows).toList) (some ⟨"resize", cols, rows⟩)

/-- Sent if the socket is open; else it is as if nothing had happened. -/
def send (c : ConsoleView) (frame : Frame UInt64) (text : List Char) : ConsoleView :=
  match Ws.ExecSession.step c.session (.send frame) with
  | some session => { c with session := session, typed := c.typed ++ text }
  | none => c

def step (c : ConsoleView) : Event → Option ConsoleView
  | .onData data => some (send c (.binary (encode data)) data)
  | .onResize cols rows => some (send c (resizeFrame cols rows) [])
  | .onMessage =>
      if c.taken < c.session.received.length then some { c with taken := c.taken + 1 } else none
  | .server (.send _) => none
  | .server (.print bytes) =>
      (Ws.ExecSession.step c.session (.print bytes)).map fun session =>
        { c with session := session, printed := c.printed ++ bytes }
  | .server e => (Ws.ExecSession.step c.session e).map fun session => { c with session := session }

def machine : Machine ConsoleView Event where
  init := ⟨handleExecWS .opened, [], [], 0⟩
  step := step

def output? : Message → Option Bytes
  | .output bytes => some bytes
  | .execError _ => none

def outputs (messages : List Message) : List Bytes := messages.filterMap output?

namespace ConsoleView

def pieces (c : ConsoleView) : List Bytes := outputs (c.session.received.take c.taken)

/-- What the terminal has written of what the shell printed. -/
def written (c : ConsoleView) : List Char := c.pieces.flatMap decode

end ConsoleView

/-- What the frames still to be read will put into the shell. -/
def pending (frames : List (Frame UInt64)) : Bytes :=
  (frames.filter fun frame => ¬frame.IsResize).flatMap Frame.msg

/-- What was typed is in the shell or on its way, in order, and what was printed is at the
browser or on its way; a loop that has ended may have left something behind. -/
structure Piped (c : ConsoleView) : Prop where
  stdin : ∃ rest, encode c.typed = c.session.stdin ++ rest ∧
    (c.session.main = .reading → rest = pending c.session.frames) ∧
    ∀ msg, c.session.main = .writing msg → rest = msg ++ pending c.session.frames
  stdout : ∃ rest, c.printed = (outputs c.session.received).flatten ++ rest ∧
    (c.session.copy = .reading → rest = c.session.output) ∧
    ∀ bytes, c.session.copy = .writing bytes → rest = bytes ++ c.session.output

theorem pending_append (frames frames' : List (Frame UInt64)) :
    pending (frames ++ frames') = pending frames ++ pending frames' := by
  rw [pending, List.filter_append, List.flatMap_append, ← pending, ← pending]

theorem pending_cons (frame : Frame UInt64) (frames : List (Frame UInt64)) :
    pending (frame :: frames) =
      if frame.IsResize then pending frames else frame.msg ++ pending frames := by
  by_cases h : frame.IsResize <;> simp [pending, h]

theorem outputs_append (messages messages' : List Message) :
    outputs (messages ++ messages') = outputs messages ++ outputs messages' :=
  List.filterMap_append

theorem Piped.send {c : ConsoleView} (h : Piped c) {frame : Frame UInt64} {text : List Char}
    (hframe : pending [frame] = encode text) : Piped (send c frame text) := by
  unfold Console.send
  split
  · rename_i session hsession
    obtain ⟨-, rfl⟩ := Machine.refused_eq_some.mp hsession
    obtain ⟨rest, hrest, hreading, hwriting⟩ := h.stdin
    have hmore : pending (c.session.frames ++ [frame]) = pending c.session.frames ++ encode text := by
      rw [pending_append, hframe]
    refine ⟨⟨rest ++ encode text, ?_, ?_, ?_⟩, h.stdout⟩
    · rw [encode_append, hrest, List.append_assoc]
    · intro hmain
      rw [hmore, hreading hmain]
    · intro msg hmain
      rw [hmore, hwriting msg hmain, List.append_assoc]
  · exact h

def printedBy : Ws.ExecSession.Event → Bytes
  | .print bytes => bytes
  | _ => []

theorem Piped.session {c : ConsoleView} (h : Piped c) {e : Ws.ExecSession.Event} {s' : Session}
    (hstep : Ws.ExecSession.step c.session e = some s') (hsend : ∀ frame, e ≠ .send frame) :
    Piped { c with session := s', printed := c.printed ++ printedBy e } := by
  obtain ⟨⟨rest, hrest, hreading, hwriting⟩, ⟨left, hleft, hcopying, hsending⟩⟩ := h
  have hkept : c.printed ++ [] = (outputs c.session.received).flatten ++ left := by
    rw [List.append_nil, hleft]
  cases Ws.ExecSession.step_inv hstep with
  | send frame => exact absurd rfl (hsend frame)
  | disconnect _ | exit _ =>
      exact ⟨⟨rest, hrest, hreading, hwriting⟩, ⟨left, hkept, hcopying, hsending⟩⟩
  | print bytes _ =>
      refine ⟨⟨rest, hrest, hreading, hwriting⟩, ⟨left ++ bytes, ?_, ?_, ?_⟩⟩
      · rw [printedBy, hleft, List.append_assoc]
      · intro hcopy
        rw [hcopying hcopy]
      · intro b hcopy
        rw [hsending b hcopy, List.append_assoc]
  | resized hmain hframes hresize =>
      refine ⟨⟨rest, hrest, fun _ => ?_, fun msg hother => ?_⟩, ⟨left, hkept, hcopying, hsending⟩⟩
      · rw [hreading hmain, hframes, pending_cons, if_pos hresize]
      · cases hmain.symm.trans hother
  | frameRead hmain hframes hother =>
      refine ⟨⟨rest, hrest, fun hback => ?_, fun msg hmsg => ?_⟩, ⟨left, hkept, hcopying, hsending⟩⟩
      · cases hback
      · cases hmsg
        rw [hreading hmain, hframes, pending_cons, if_neg hother]
  | frameFailed _ _ | stdinFailed _ | joined _ _ =>
      exact ⟨⟨rest, hrest, by simp, by simp⟩, ⟨left, hkept, hcopying, hsending⟩⟩
  | stdinWritten hmain =>
      rename_i msg
      refine ⟨⟨pending c.session.frames, ?_, fun _ => rfl, by simp⟩,
        ⟨left, hkept, hcopying, hsending⟩⟩
      rw [hrest, hwriting msg hmain, List.append_assoc]
  | outputRead hcopy _ _ _ =>
      refine ⟨⟨rest, hrest, hreading, hwriting⟩, ⟨left, hkept, by simp, fun b hb => ?_⟩⟩
      cases hb
      rw [hcopying hcopy, List.take_append_drop]
  | outputFailed _ _ | messageFailed _ =>
      exact ⟨⟨rest, hrest, hreading, hwriting⟩, ⟨left, hkept, by simp, by simp⟩⟩
  | messageWritten hcopy =>
      rename_i bytes
      refine ⟨⟨rest, hrest, hreading, hwriting⟩, ⟨c.session.output, ?_, fun _ => rfl, by simp⟩⟩
      have hone : outputs (c.session.received ++ [.output bytes]) =
          outputs c.session.received ++ [bytes] := outputs_append _ _
      rw [hone, List.flatten_append, List.flatten_singleton, List.append_assoc, ← hsending bytes hcopy]
      exact hkept

theorem Piped.step {c c' : ConsoleView} {e : Event} (h : Piped c) (hstep : step c e = some c') :
    Piped c' := by
  cases e with
  | onData data =>
      obtain rfl := Option.some.inj hstep
      refine h.send ?_
      have hplain : ¬(Frame.binary (encode data) : Frame UInt64).IsResize := by simp [Frame.IsResize, Frame.resize]
      rw [pending_cons, if_neg hplain]
      exact List.append_nil _
  | onResize cols rows =>
      obtain rfl := Option.some.inj hstep
      refine h.send ?_
      have hresize : (resizeFrame cols rows).IsResize := by
        simp [Frame.IsResize, Frame.resize, resizeFrame]
      rw [pending_cons, if_pos hresize]
      rfl
  | onMessage =>
      obtain ⟨-, rfl⟩ := Machine.guarded_eq_some.mp hstep
      exact ⟨h.stdin, h.stdout⟩
  | server e =>
      cases e with
      | send frame => cases hstep
      | print bytes =>
          obtain ⟨s', hs, rfl⟩ := Option.map_eq_some_iff.mp hstep
          exact h.session hs (by simp)
      | disconnect | exit | frameRead | frameFailed | stdinWritten | stdinFailed | joined
      | outputRead n | outputFailed | messageWritten | messageFailed =>
          obtain ⟨s', hs, rfl⟩ := Option.map_eq_some_iff.mp hstep
          have hsession := h.session hs (by simp)
          simp only [printedBy, List.append_nil] at hsession
          exact hsession

theorem piped_run {events : List Event} {c : ConsoleView}
    (hrun : machine.Run Machine.unguarded events c) : Piped c :=
  hrun.invariant (I := Piped)
    ⟨⟨[], rfl, fun _ => rfl, by simp [machine, handleExecWS]⟩,
      ⟨[], rfl, fun _ => rfl, by simp [machine, handleExecWS]⟩⟩
    fun _ _ _ h _ hstep => h.step hstep

theorem pieces_prefix {c : ConsoleView} (h : Piped c) : c.pieces.flatten <+: c.printed := by
  obtain ⟨rest, hrest, -⟩ := h.stdout
  have hsplit : outputs c.session.received =
      c.pieces ++ outputs (c.session.received.drop c.taken) := by
    rw [ConsoleView.pieces, ← outputs_append, List.take_append_drop]
  rw [hrest, hsplit, List.flatten_append, List.append_assoc]
  exact List.prefix_append _ _

structure Drained (c : ConsoleView) : Prop where
  idle : c.session.copy = .reading
  read : c.session.output = []
  taken : c.session.received.length ≤ c.taken

theorem pieces_drained {c : ConsoleView} (h : Piped c) (hdrained : Drained c) :
    c.pieces.flatten = c.printed := by
  obtain ⟨rest, hrest, hreading, -⟩ := h.stdout
  rw [hrest, hreading hdrained.idle, hdrained.read, List.append_nil, ConsoleView.pieces,
    List.take_of_length_le hdrained.taken]

structure Bridged (c : ConsoleView) (text : List Char) : Prop where
  /-- The shell gets what was typed, in order, and a resize never. -/
  typed : c.session.stdin <+: encode c.typed
  delivered : c.session.main = .reading → c.session.frames = [] → c.session.stdin = encode c.typed
  /-- The terminal shows what was printed exactly as long as no character is cut. -/
  written : c.written <+: text ↔ ∀ piece ∈ c.pieces, piece.toByteArray.validateUTF8
  whole : Drained c → (∀ piece ∈ c.pieces, piece.toByteArray.validateUTF8) → c.written = text

/-- Whatever is typed, printed, resized or closed, and however the two loops take turns. -/
theorem console_bridged (events : List Event) (c : ConsoleView) (text : List Char)
    (hrun : machine.Run Machine.unguarded events c) (hprinted : c.printed = encode text)
    (hplain : '\uFFFD' ∉ text ∧ '\uFEFF' ∉ text) : Bridged c text := by
  have hpiped := piped_run hrun
  obtain ⟨rest, hrest, hreading, -⟩ := hpiped.stdin
  constructor
  · rw [hrest]
    exact List.prefix_append _ _
  · intro hmain hframes
    have hnone : rest = [] := by
      rw [hreading hmain, hframes]
      rfl
    rw [hrest, hnone, List.append_nil]
  · exact flatMap_decode_prefix_iff hplain (hprinted ▸ pieces_prefix hpiped)
  · intro hdrained hvalid
    exact flatMap_decode_eq hplain.2 hvalid ((pieces_drained hpiped hdrained).trans hprinted)

/-- A price is printed, and read in the middle of its sign. -/
def cutSession : List Event :=
  [.onResize 80 24, .onData ['l', 's'], .server .frameRead, .server .frameRead,
    .server .stdinWritten, .server (.print [0xE2, 0x82, 0xAC, 0x35]), .server (.outputRead 2),
    .server .messageWritten, .onMessage, .server (.outputRead 2), .server .messageWritten,
    .onMessage]

theorem console_bridged_cut :
    ∃ c, machine.Run Machine.unguarded cutSession c ∧ c.session.stdin = encode ['l', 's'] ∧
      c.written = ['\uFFFD', '\uFFFD', '5'] ∧ ¬c.written <+: ['€', '5'] := by
  have hrun := Machine.run_of_runGuarded machine Machine.unguarded cutSession rfl
  have hbridged := console_bridged _ _ ['€', '5'] hrun (by decide) (by decide)
  refine ⟨_, hrun, by decide, by decide, fun hwritten => ?_⟩
  have hvalid := hbridged.written.mp hwritten [0xE2, 0x82] (by decide)
  exact absurd hvalid (by decide)

end Wiremap.Client.Console
