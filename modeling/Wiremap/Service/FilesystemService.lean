import Mathlib.Algebra.Group.Nat.Defs
import Wiremap.Errors
import Wiremap.Library.Fallible
import Wiremap.Library.StringMap

/-! Reading and writing files of a container, through commands run in it. -/
namespace Wiremap.Service.FilesystemService

open Wiremap.Library

abbrev Bytes := List UInt8

/-! ### The stream of an exec -/

def bigEndian32 (n : Nat) : Bytes :=
  [UInt8.ofNat (n >>> 24), UInt8.ofNat (n >>> 16), UInt8.ofNat (n >>> 8), UInt8.ofNat n]

def stdoutStream : Fin 3 := 1
def stderrStream : Fin 3 := 2

structure Frame where
  stream : Fin 3
  payload : Bytes
  fits : payload.length < 2 ^ 32

def Frame.wire (f : Frame) : Bytes :=
  UInt8.ofNat f.stream :: 0 :: 0 :: 0 :: bigEndian32 f.payload.length ++ f.payload

def wire (frames : List Frame) : Bytes := frames.flatMap Frame.wire

def frameSize (b4 b5 b6 b7 : UInt8) : Nat :=
  b4.toNat <<< 24 ||| b5.toNat <<< 16 ||| b6.toNat <<< 8 ||| b7.toNat

/-- The loop of `stripDockerHeaders`: the data left over, and the result. -/
def stripHeaders (data result : Bytes) : Bytes × Bytes :=
  match data with
  | streamType :: b1 :: b2 :: b3 :: b4 :: b5 :: b6 :: b7 :: rest =>
      if streamType > 2 then
        let data := streamType :: b1 :: b2 :: b3 :: b4 :: b5 :: b6 :: b7 :: rest
        (data, result ++ data)
      else
        let size := min (frameSize b4 b5 b6 b7) rest.length
        stripHeaders (rest.drop size) (result ++ rest.take size)
  | _ => (data, result)
termination_by data.length

def stripDockerHeaders (data : Bytes) : Bytes :=
  let (data, result) := stripHeaders data []
  if data.length > 0 ∧ result.length = 0 then data else result

/-! ### The service -/

/-- The outcomes of the calls to Docker to come. -/
structure Calls where
  get : Except AppError Unit := .ok ()
  execCreate : List String → Except String Unit := fun _ => .ok ()
  execAttach : Except String Unit := .ok ()
  /-- A write that fails has sent the bytes it says. -/
  connWrite : Bytes → Except (Nat × String) Unit := fun _ => .ok ()

structure FileContent where
  path : String
  content : Bytes
  binary : Bool
  size : Nat
  deriving DecidableEq

def validUTF8 (bytes : Bytes) : Bool := bytes.toByteArray.validateUTF8

def execCmd (calls : Calls) (cmd : List String) (stream : Bytes) : Except String Bytes := do
  calls.get.mapError AppError.message
  calls.execCreate cmd
  calls.execAttach
  return stripDockerHeaders stream

def readFile (calls : Calls) (path : String) (stream : Bytes) : Except AppError FileContent :=
  match execCmd calls ["head", "-c", "524288", path] stream with
  | .error err => .error (.internal s!"failed to read file: {err}")
  | .ok output =>
      .ok { path := path, content := output, binary := !validUTF8 output, size := output.length }

/-- What `tee` is given where it is run, and whether the call succeeded. -/
def writeFile (calls : Calls) (path : String) (content : Bytes) :
    Option Bytes × Except AppError Unit :=
  match calls.get with
  | .error err => (none, .error err)
  | .ok _ =>
      match calls.execCreate ["tee", path] with
      | .error err => (none, .error (.internal s!"failed to create exec for write: {err}"))
      | .ok _ =>
          match calls.execAttach with
          | .error err => (none, .error (.internal s!"failed to attach exec for write: {err}"))
          | .ok _ =>
              match calls.connWrite content with
              | .error (sent, err) =>
                  (some (content.take sent), .error (.internal s!"failed to write content: {err}"))
              | .ok _ => (some content, .ok ())

structure Calls.Answers (calls : Calls) : Prop where
  get : calls.get = .ok ()
  execCreate : ∀ cmd, calls.execCreate cmd = .ok ()
  execAttach : calls.execAttach = .ok ()

theorem execCmd_congr {stream stream' : Bytes}
    (h : stripDockerHeaders stream = stripDockerHeaders stream') (calls : Calls)
    (cmd : List String) : execCmd calls cmd stream = execCmd calls cmd stream' := by
  rw [execCmd, execCmd, h]

theorem writeFile_ok {calls : Calls} {path : String} {content : Bytes} {input : Option Bytes}
    (h : writeFile calls path content = (input, .ok ())) : input = some content := by
  unfold writeFile at h
  split at h
  · simp at h
  · split at h
    · simp at h
    · split at h
      · simp at h
      · split at h
        · simp at h
        · exact (Prod.mk.inj h).1.symm

theorem length_writeFile {calls : Calls} {path : String} {content input : Bytes}
    (h : (writeFile calls path content).1 = some input) : input.length ≤ content.length := by
  unfold writeFile at h
  split at h
  · cases h
  · split at h
    · cases h
    · split at h
      · cases h
      · split at h
        · cases h
          exact List.length_take_le' _ _
        · cases h
          exact Nat.le_refl _

/-! ### A daemon that does its work -/

/-- The Docker daemon of a container: the whole of a command's stream comes in, and `tee`
has written its input when the call returns. -/
structure Daemon extends Calls where
  frames : Bytes → List Frame
  payload_frames : ∀ output, (frames output).flatMap Frame.payload = output
  /-- What `head` prints about a file it cannot open. -/
  complaint : String → Bytes

abbrev Files := StringMap Bytes

/-- `head -c count path` -/
def head (d : Daemon) (files : Files) (count : Nat) (path : String) : Bytes :=
  match files.lookup path with
  | some bytes => bytes.take count
  | none => d.complaint path

/-- `tee path` -/
def tee (files : Files) (path : String) (input : Bytes) : Files := files.insert path input

@[simp] theorem lookup_tee (files : Files) (path : String) (input : Bytes) :
    (tee files path input).lookup path = some input := AList.lookup_insert _

def readLimit : Nat := 524288

namespace Daemon

def stream (d : Daemon) (output : Bytes) : Bytes := wire (d.frames output)

def readFile (d : Daemon) (files : Files) (path : String) : Except AppError FileContent :=
  FilesystemService.readFile d.toCalls path (d.stream (head d files readLimit path))

def writeFile (d : Daemon) (files : Files) (path : String) (content : Bytes) :
    Files × Except AppError Unit :=
  let (input, result) := FilesystemService.writeFile d.toCalls path content
  (input.elim files (tee files path), result)

end Daemon

/-! ### What is read -/

private theorem shiftLeft_or {b i : Nat} (h : b < 2 ^ i) (a : Nat) :
    a <<< i ||| b = a * 2 ^ i + b := by
  rw [← Nat.shiftLeft_add_eq_or_of_lt h, Nat.shiftLeft_eq]

theorem frameSize_bigEndian32 {n : Nat} (h : n < 2 ^ 32) :
    frameSize (.ofNat (n >>> 24)) (.ofNat (n >>> 16)) (.ofNat (n >>> 8)) (.ofNat n) = n := by
  simp only [frameSize, UInt8.toNat_ofNat', Nat.shiftRight_eq_div_pow, Nat.or_assoc]
  -- each or is of bits that do not overlap
  have hlow : n % 2 ^ 8 < 2 ^ 8 := Nat.mod_lt _ (by decide)
  have hjoin : ∀ a, n / 2 ^ a % 2 ^ 8 * 2 ^ a + n % 2 ^ a = n % 2 ^ (a + 8) := by
    intro a
    rw [Nat.pow_add, Nat.mod_mul, Nat.mul_comm (2 ^ a), Nat.add_comm]
  rw [shiftLeft_or hlow, hjoin 8, shiftLeft_or (Nat.mod_lt n (by decide)), hjoin 16,
    shiftLeft_or (Nat.mod_lt n (by decide)), hjoin 24, Nat.mod_eq_of_lt h]

theorem Frame.stream_le (f : Frame) : ¬UInt8.ofNat f.stream > 2 := by
  have hall : ∀ stream : Fin 3, ¬UInt8.ofNat stream > 2 := by decide
  exact hall f.stream

theorem stripHeaders_frame (f : Frame) (data result : Bytes) :
    stripHeaders (f.wire ++ data) result = stripHeaders data (result ++ f.payload) := by
  rw [stripHeaders.eq_def]
  simp only [Frame.wire, bigEndian32, List.cons_append, List.nil_append, f.stream_le, if_false,
    frameSize_bigEndian32 f.fits]
  simp

theorem stripHeaders_wire (frames : List Frame) (result : Bytes) :
    stripHeaders (wire frames) result = ([], result ++ frames.flatMap Frame.payload) := by
  induction frames generalizing result with
  | nil =>
      rw [stripHeaders.eq_def]
      simp [wire]
  | cons f rest ih =>
      rw [wire, List.flatMap_cons, stripHeaders_frame, ← wire, ih]
      simp

@[simp] theorem stripDockerHeaders_wire (frames : List Frame) :
    stripDockerHeaders (wire frames) = frames.flatMap Frame.payload := by
  simp [stripDockerHeaders, stripHeaders_wire]

@[simp] theorem Daemon.strip_stream (d : Daemon) (output : Bytes) :
    stripDockerHeaders (d.stream output) = output := by
  rw [Daemon.stream, stripDockerHeaders_wire, d.payload_frames]

/-- Whatever the daemon cuts the output into, a command that ran is read whole. -/
theorem execCmd_ok {d : Daemon} {cmd : List String} {output result : Bytes}
    (h : execCmd d.toCalls cmd (d.stream output) = .ok result) : result = output := by
  simp only [execCmd, Fallible.bind_eq_ok, Fallible.pure_eq_ok] at h
  obtain ⟨-, -, -, -, -, -, rfl⟩ := h
  exact d.strip_stream output

theorem execCmd_answers {d : Daemon} (h : d.Answers) (cmd : List String) (output : Bytes) :
    execCmd d.toCalls cmd (d.stream output) = .ok output := by
  simp only [execCmd, h.get, h.execCreate, h.execAttach, d.strip_stream]
  rfl

theorem Daemon.readFile_ok {d : Daemon} {files : Files} {path : String} {content : FileContent}
    (h : d.readFile files path = .ok content) :
    content.content = head d files readLimit path ∧
      content.binary = !validUTF8 (head d files readLimit path) := by
  unfold Daemon.readFile FilesystemService.readFile at h
  split at h
  · cases h
  · rename_i output hexec
    cases h
    rw [execCmd_ok hexec]
    exact ⟨rfl, rfl⟩

theorem Daemon.writeFile_ok {d : Daemon} {files files' : Files} {path : String} {content : Bytes}
    (h : d.writeFile files path content = (files', .ok ())) : files' = tee files path content := by
  cases hsent : FilesystemService.writeFile d.toCalls path content with
  | mk input result =>
      rw [Daemon.writeFile, hsent] at h
      obtain ⟨rfl, rfl⟩ := Prod.mk.inj h
      rw [FilesystemService.writeFile_ok hsent]
      rfl

/-! ### Opening a file and saving it -/

/-- How text travels between server and browser: as JSON, which keeps valid text. -/
structure Transport where
  send : Bytes → Bytes
  send_valid : ∀ bytes, validUTF8 bytes → send bytes = bytes

/-- A file with these bytes may be opened and saved unchanged: what is shown as
text is saved as it was, and all that is text is shown as such. -/
structure Preserved (bytes : Bytes) : Prop where
  saved : ∀ (d d' : Daemon) (t : Transport) (files files' : Files) (path : String)
    (content : FileContent), files.lookup path = some bytes →
    d.readFile files path = .ok content → content.binary = false →
    d'.writeFile files path (t.send (t.send content.content)) = (files', .ok ()) →
    files'.lookup path = some bytes
  shown : ∀ (d : Daemon) (files : Files) (path : String) (content : FileContent),
    files.lookup path = some bytes → d.readFile files path = .ok content → validUTF8 bytes →
    content.binary = false

def calmDaemon : Daemon where
  frames output := output.map fun byte => ⟨1, [byte], by simp⟩
  payload_frames output := by
    induction output with
    | nil => rfl
    | cons byte rest ih => simpa using ih
  complaint _ := []

def plainTransport : Transport where
  send := id
  send_valid _ _ := rfl

theorem calmDaemon_answers : calmDaemon.Answers := ⟨rfl, fun _ => rfl, rfl⟩

theorem readFile_calm (files : Files) (path : String) :
    calmDaemon.readFile files path =
      .ok ⟨path, head calmDaemon files readLimit path,
        !validUTF8 (head calmDaemon files readLimit path),
        (head calmDaemon files readLimit path).length⟩ := by
  simp [Daemon.readFile, readFile, execCmd_answers calmDaemon_answers]

theorem writeFile_calm (files : Files) (path : String) (content : Bytes) :
    calmDaemon.writeFile files path content = (tee files path content, .ok ()) := rfl

theorem head_eq {d : Daemon} {files : Files} {path : String} {bytes : Bytes}
    (h : files.lookup path = some bytes) (count : Nat) :
    head d files count path = bytes.take count := by
  simp [head, h]

theorem readFile_calm_file {files : Files} {path : String} {bytes : Bytes}
    (h : files.lookup path = some bytes) :
    calmDaemon.readFile files path =
      .ok ⟨path, bytes.take readLimit, !validUTF8 (bytes.take readLimit),
        (bytes.take readLimit).length⟩ := by
  rw [readFile_calm, head_eq h]

/-- Of a file that is preserved and not read whole, no text is shown: it would be
saved in place of the file. -/
theorem Preserved.prefix_invalid {bytes : Bytes} (h : Preserved bytes)
    (hlong : readLimit < bytes.length) : validUTF8 (bytes.take readLimit) = false := by
  by_contra hvalid
  rw [Bool.not_eq_false] at hvalid
  have hfile : ((∅ : Files).insert "/f" bytes).lookup "/f" = some bytes := AList.lookup_insert _
  have hsaved := h.saved calmDaemon calmDaemon plainTransport _ _ "/f" _ hfile
    (readFile_calm_file hfile) (by simp [hvalid]) (writeFile_calm _ "/f" _)
  rw [lookup_tee] at hsaved
  have hsame : bytes.take readLimit = bytes := Option.some.inj hsaved
  have hlength := congrArg List.length hsame
  rw [List.length_take] at hlength
  omega

theorem Preserved.invalid {bytes : Bytes} (h : Preserved bytes)
    (hlong : readLimit < bytes.length) : validUTF8 bytes = false := by
  by_contra hvalid
  rw [Bool.not_eq_false] at hvalid
  have hfile : ((∅ : Files).insert "/f" bytes).lookup "/f" = some bytes := AList.lookup_insert _
  have hshown := h.shown calmDaemon _ "/f" _ hfile (readFile_calm_file hfile) hvalid
  simp [h.prefix_invalid hlong] at hshown

/-- A file survives unless it is longer than what is read of it and passes for
text, either as a whole or by the part that is read. -/
theorem preserved_iff (bytes : Bytes) :
    Preserved bytes ↔ bytes.length ≤ readLimit ∨
      (validUTF8 bytes = false ∧ validUTF8 (bytes.take readLimit) = false) := by
  constructor
  · intro h
    rcases Nat.lt_or_ge readLimit bytes.length with hlong | hshort
    · exact .inr ⟨h.invalid hlong, h.prefix_invalid hlong⟩
    · exact .inl hshort
  · intro h
    -- what is shown as text is the file itself
    have hwhole : validUTF8 (bytes.take readLimit) → bytes.take readLimit = bytes := by
      intro hvalid
      rcases h with hshort | ⟨-, hhead⟩
      · exact List.take_of_length_le hshort
      · simp [hhead] at hvalid
    constructor
    · intro d d' t files files' path content hfile hread htext hwrite
      obtain ⟨hcontent, hbinary⟩ := Daemon.readFile_ok hread
      rw [head_eq hfile] at hcontent hbinary
      have hvalid : validUTF8 (bytes.take readLimit) := by simpa [htext] using hbinary
      rw [hcontent, t.send_valid _ hvalid, t.send_valid _ hvalid, hwhole hvalid] at hwrite
      rw [Daemon.writeFile_ok hwrite, lookup_tee]
    · intro d files path content hfile hread hvalid
      obtain ⟨-, hbinary⟩ := Daemon.readFile_ok hread
      rw [head_eq hfile] at hbinary
      rcases h with hshort | ⟨hinvalid, -⟩
      · rw [hbinary, List.take_of_length_le hshort, hvalid]
        rfl
      · simp [hinvalid] at hvalid

def longFile : Bytes := List.replicate (readLimit + 1) 97

theorem validUTF8_letters (n : Nat) : validUTF8 (List.replicate n 97) := by
  have hencode : (List.replicate n 97).toByteArray = (List.replicate n 'a').utf8Encode := by
    rw [List.utf8Encode, List.flatMap_replicate]
    simp [String.utf8EncodeChar]
  rw [validUTF8, hencode, ByteArray.validateUTF8_eq_true_iff]
  exact ByteArray.isValidUTF8_utf8Encode

theorem longFile_not_preserved : ¬ Preserved longFile := by
  intro h
  have hinvalid := h.invalid (by rw [longFile, List.length_replicate]; exact Nat.lt_succ_self _)
  rw [longFile, validUTF8_letters] at hinvalid
  cases hinvalid

end Wiremap.Service.FilesystemService
