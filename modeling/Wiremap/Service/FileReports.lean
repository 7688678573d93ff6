import Mathlib.Data.List.TakeDrop
import Wiremap.Service.Listing
import Wiremap.Service.StreamHeaders

/-! The commands that file operations run, with all that may happen to them: their exit
status, their two outputs in one stream, a stream that ends early, and a writer that is
not waited for. -/
namespace Wiremap.Service.FilesystemService

open Wiremap.Library

/-! ### The container -/

structure Process where
  stdout : Bytes
  stderr : Bytes
  exit : Nat

structure Container where
  /-- What `head` can open and read. -/
  files : Files
  /-- What becomes of `head` on any other path. -/
  headFailure : String → Process
  headFailure_exit : ∀ path, (headFailure path).exit ≠ 0
  ls : String → Process
  /-- What `tee` can open. -/
  writable : String → Bool

/-- `head -c 524288 path` -/
def Container.head (c : Container) (path : String) : Process :=
  match c.files.lookup path with
  | some bytes => ⟨bytes.take readLimit, [], 0⟩
  | none => c.headFailure path

/-! ### The session -/

def payloads (frames : List Frame) : Bytes := frames.flatMap Frame.payload

/-- The stream carries both outputs, in whatever order and pieces. -/
structure Relays (frames : List Frame) (p : Process) : Prop where
  stdout : payloads (frames.filter (·.stream = stdoutStream)) = p.stdout
  stderr : payloads (frames.filter (·.stream = stderrStream)) = p.stderr
  output : ∀ f ∈ frames, f.stream = stdoutStream ∨ f.stream = stderrStream
  nonempty : ∀ f ∈ frames, f.payload ≠ []

structure Session extends Calls where
  relay : Process → List Frame
  relays : ∀ p, Relays (relay p) p
  /-- How many bytes of the stream come in before it ends. -/
  received : Process → Nat
  /-- How much of its input `tee` has written when the call returns; `none` where it has
  not opened the file. -/
  teeProgress : String → Option Nat

namespace Session

def arrives (s : Session) (p : Process) : Bytes := (wire (s.relay p)).take (s.received p)

def Whole (s : Session) (p : Process) : Prop := (wire (s.relay p)).length ≤ s.received p

def readFile (s : Session) (c : Container) (path : String) : Except AppError FileContent :=
  FilesystemService.readFile s.toCalls path (s.arrives (c.head path))

def listDir (s : Session) (c : Container) (path : String) : Except AppError (List FileEntry) :=
  FilesystemService.listDir s.toCalls path fun path => s.arrives (c.ls path)

def tee (s : Session) (c : Container) (path : String) (input : Bytes) : Files :=
  if c.writable path then
    match s.teeProgress path with
    | some written => c.files.insert path (input.take written)
    | none => c.files
  else c.files

def writeFile (s : Session) (c : Container) (path : String) (content : Bytes) :
    Files × Except AppError Unit :=
  let (input, result) := FilesystemService.writeFile s.toCalls path content
  (input.elim c.files (s.tee c path), result)

end Session

/-! ### What is to be reported -/

/-- Whatever is not done is an error. -/
structure Session.Reports (s : Session) (c : Container) (path : String) (content : Bytes) : Prop where
  read : ∀ file, s.readFile c path = .ok file →
    ∃ bytes, c.files.lookup path = some bytes ∧ file.content = bytes.take readLimit
  list : ∀ entries, s.listDir c path = .ok entries → (c.ls (dirPath path)).exit = 0
  write : ∀ files, s.writeFile c path content = (files, .ok ()) →
    files.lookup path = some content

def Calls.Fails (calls : Calls) (cmd : List String) : Prop :=
  calls.get ≠ .ok () ∨ calls.execCreate cmd ≠ .ok () ∨ calls.execAttach ≠ .ok ()

/-- The file is there and all of the stream comes in, or so little of it that no header
is seen and that happens to be in the file. -/
def Session.ReadThrough (s : Session) (c : Container) (path : String) : Prop :=
  ∃ bytes, c.files.lookup path = some bytes ∧
    (s.Whole (c.head path) ∨
      (s.arrives (c.head path)).length < 8 ∧ s.arrives (c.head path) = bytes.take readLimit)

/-- `tee` is done, or the file it does not touch is as wanted. -/
def Session.WrittenThrough (s : Session) (c : Container) (path : String) (content : Bytes) : Prop :=
  if c.writable path then
    match s.teeProgress path with
    | some written => content.length ≤ written
    | none => c.files.lookup path = some content
  else c.files.lookup path = some content

/-- Either the daemon refuses, or nothing goes wrong in the container. -/
structure Session.Untroubled (s : Session) (c : Container) (path : String) (content : Bytes) :
    Prop where
  read : s.Fails ["head", "-c", "524288", path] ∨ s.ReadThrough c path
  list : s.Fails ["ls", "-la", dirPath path] ∨ (c.ls (dirPath path)).exit = 0
  write : s.Fails ["tee", path] ∨ s.connWrite content ≠ .ok () ∨ s.WrittenThrough c path content

/-! ### Streams that end early -/

theorem length_wire (f : Frame) : f.wire.length = f.payload.length + 8 := by
  simp [Frame.wire, bigEndian32]

theorem stripHeaders_take (f : Frame) (result : Bytes) {n : Nat} (h : n ≤ f.payload.length) :
    stripHeaders (f.wire.take (n + 8)) result = ([], result ++ f.payload.take n) := by
  have hlength : (f.payload.take n).length = n := List.length_take_of_le h
  rw [stripHeaders.eq_def]
  simp only [Frame.wire, bigEndian32, List.cons_append, List.nil_append, List.take_succ_cons,
    f.stream_le, if_false, frameSize_bigEndian32 f.fits, hlength]
  rw [Nat.min_eq_right h, List.drop_of_length_le (Nat.le_of_eq hlength),
    List.take_of_length_le (Nat.le_of_eq hlength), stripHeaders_short (by simp)]

theorem stripHeaders_cut {frames : List Frame} (hpayload : ∀ f ∈ frames, f.payload ≠ []) {n : Nat}
    (h : n < (wire frames).length) (result : Bytes) :
    ∃ data out, stripHeaders ((wire frames).take n) result = (data, result ++ out) ∧
      out.length < (payloads frames).length ∧ (8 ≤ n → data = [] ∨ out ≠ []) := by
  induction frames generalizing n result with
  | nil => exact absurd h (Nat.not_lt_zero n)
  | cons f rest ih =>
      have hwire : wire (f :: rest) = f.wire ++ wire rest := List.flatMap_cons
      have hall : payloads (f :: rest) = f.payload ++ payloads rest := List.flatMap_cons
      have hpos := List.length_pos_iff.mpr (hpayload f List.mem_cons_self)
      rw [hall, List.length_append]
      rcases Nat.lt_or_ge n 8 with hshort | hheader
      · refine ⟨(wire (f :: rest)).take n, [], ?_, by simpa using Or.inl hpos, by omega⟩
        rw [List.append_nil, stripHeaders_short (by rw [List.length_take]; omega)]
      · obtain ⟨m, rfl⟩ := Nat.exists_eq_add_of_le' hheader
        rw [hwire]
        rcases Nat.lt_or_ge m f.payload.length with hcut | hwhole
        · refine ⟨[], f.payload.take m, ?_, ?_, fun _ => Or.inl rfl⟩
          · rw [List.take_append_of_le_length (by rw [length_wire]; omega),
              stripHeaders_take f result (Nat.le_of_lt hcut)]
          · rw [List.length_take]
            omega
        · obtain ⟨k, rfl⟩ := Nat.exists_eq_add_of_le hwhole
          rw [hwire, List.length_append, length_wire] at h
          have hk : k < (wire rest).length := by omega
          obtain ⟨data, out, hrest, hlt, -⟩ := ih (fun f hf => hpayload f (List.mem_cons_of_mem _ hf))
            hk (result ++ f.payload)
          refine ⟨data, f.payload ++ out, ?_, ?_, fun _ => Or.inr ?_⟩
          · have hindex : f.payload.length + k + 8 = f.wire.length + k := by
              rw [length_wire]
              omega
            rw [hindex, List.take_length_add_append, stripHeaders_frame, hrest, List.append_assoc]
          · rw [List.length_append]
            omega
          · exact List.append_ne_nil_of_left_ne_nil (hpayload f List.mem_cons_self) out

/-- From the first header on, a stream that ends early is read as less than was printed. -/
theorem strip_cut {frames : List Frame} (hpayload : ∀ f ∈ frames, f.payload ≠ []) {n : Nat}
    (h : n < (wire frames).length) (hheader : 8 ≤ n) :
    (stripDockerHeaders ((wire frames).take n)).length < (payloads frames).length := by
  obtain ⟨data, out, hstrip, hlt, hnil⟩ := stripHeaders_cut hpayload h []
  have hout : stripDockerHeaders ((wire frames).take n) = out := by
    rw [stripDockerHeaders, hstrip]
    rcases hnil hheader with rfl | hne
    · rfl
    · simp [hne]
  rwa [hout]

/-- Before it, the bytes of the header pass for output. -/
theorem strip_short {data : Bytes} (h : data.length < 8) : stripDockerHeaders data = data := by
  rw [stripDockerHeaders, stripHeaders_short (Nat.not_le_of_lt h)]
  cases data with
  | nil => rfl
  | cons b rest => simp

theorem Relays.payloads_eq {frames : List Frame} {p : Process} (h : Relays frames p)
    (hstderr : p.stderr = []) : payloads frames = p.stdout := by
  have hone : ∀ f ∈ frames, f.stream = stdoutStream := by
    intro f hf
    rcases h.output f hf with hstdout | hstream
    · exact hstdout
    · have hnone := h.stderr
      rw [hstderr, payloads, List.flatMap_eq_nil_iff] at hnone
      exact absurd (hnone f (List.mem_filter.mpr ⟨hf, by simpa using hstream⟩)) (h.nonempty f hf)
  rw [← h.stdout, List.filter_eq_self.mpr fun f hf => decide_eq_true (hone f hf)]

/-! ### What is reported -/

namespace Calls

variable {calls : Calls} {cmd : List String}

theorem not_fails (h : ¬calls.Fails cmd) :
    calls.get = .ok () ∧ calls.execCreate cmd = .ok () ∧ calls.execAttach = .ok () := by
  rwa [Fails, not_or, not_or, not_not, not_not, not_not] at h

theorem execCmd_ok (h : ¬calls.Fails cmd) (stream : Bytes) :
    execCmd calls cmd stream = .ok (stripDockerHeaders stream) := by
  obtain ⟨hget, hcreate, hattach⟩ := not_fails h
  rw [execCmd, hget, hcreate, hattach]
  rfl

theorem execCmd_error (h : calls.Fails cmd) (stream : Bytes) :
    ∃ err, execCmd calls cmd stream = .error err := by
  rw [execCmd]
  cases hget : calls.get with
  | error err => exact ⟨err.message, rfl⟩
  | ok _ =>
      cases hcreate : calls.execCreate cmd with
      | error err => exact ⟨err, rfl⟩
      | ok _ =>
          cases hattach : calls.execAttach with
          | error err => exact ⟨err, rfl⟩
          | ok _ => exact absurd h (by simp [Fails, hget, hcreate, hattach])

end Calls

namespace Session

theorem strip_arrives_eq_iff (s : Session) {c : Container} {path : String} {bytes : Bytes}
    (h : c.files.lookup path = some bytes) :
    stripDockerHeaders (s.arrives (c.head path)) = bytes.take readLimit ↔
      s.Whole (c.head path) ∨
        (s.arrives (c.head path)).length < 8 ∧ s.arrives (c.head path) = bytes.take readLimit := by
  have hhead : c.head path = ⟨bytes.take readLimit, [], 0⟩ := by rw [Container.head, h]
  have hrelays := s.relays (c.head path)
  have hpayloads : payloads (s.relay (c.head path)) = bytes.take readLimit := by
    rw [hrelays.payloads_eq (by rw [hhead]), hhead]
  constructor
  · intro hread
    rw [or_iff_not_imp_left]
    intro hcut
    have hlt : s.received (c.head path) < (wire (s.relay (c.head path))).length :=
      Nat.lt_of_not_le hcut
    have hshort : s.received (c.head path) < 8 := by
      by_contra hheader
      have hless := strip_cut hrelays.nonempty hlt (Nat.le_of_not_lt hheader)
      rw [hpayloads, ← arrives, hread] at hless
      exact Nat.lt_irrefl _ hless
    have hlength : (s.arrives (c.head path)).length < 8 := by
      rw [arrives, List.length_take]
      omega
    exact ⟨hlength, by rwa [strip_short hlength] at hread⟩
  · rintro (hwhole | ⟨hshort, hsame⟩)
    · rw [arrives, List.take_of_length_le hwhole, stripDockerHeaders_wire, ← payloads, hpayloads]
    · rw [strip_short hshort, hsame]

theorem reports_read_iff (s : Session) (c : Container) (path : String) :
    (∀ file, s.readFile c path = .ok file →
      ∃ bytes, c.files.lookup path = some bytes ∧ file.content = bytes.take readLimit) ↔
    s.Fails ["head", "-c", "524288", path] ∨ s.ReadThrough c path := by
  by_cases hfails : s.Fails ["head", "-c", "524288", path]
  · obtain ⟨err, herr⟩ := Calls.execCmd_error hfails (s.arrives (c.head path))
    simp [readFile, FilesystemService.readFile, herr, hfails]
  · rw [or_iff_right hfails]
    simp only [readFile, FilesystemService.readFile, Calls.execCmd_ok hfails, Except.ok.injEq,
      forall_eq']
    exact exists_congr fun bytes => and_congr_right fun hfile => strip_arrives_eq_iff s hfile

theorem reports_list_iff (s : Session) (c : Container) (path : String) :
    (∀ entries, s.listDir c path = .ok entries → (c.ls (dirPath path)).exit = 0) ↔
      s.Fails ["ls", "-la", dirPath path] ∨ (c.ls (dirPath path)).exit = 0 := by
  by_cases hfails : s.Fails ["ls", "-la", dirPath path]
  · obtain ⟨err, herr⟩ := Calls.execCmd_error hfails (s.arrives (c.ls (dirPath path)))
    simp only [dirPath] at herr hfails
    simp [listDir, FilesystemService.listDir, herr, dirPath, hfails]
  · have hok := Calls.execCmd_ok hfails (s.arrives (c.ls (dirPath path)))
    rw [or_iff_right hfails]
    simp only [dirPath] at hok
    simp [listDir, FilesystemService.listDir, hok]

theorem lookup_tee_iff (s : Session) (c : Container) (path : String) (content : Bytes) :
    (s.tee c path content).lookup path = some content ↔ s.WrittenThrough c path content := by
  rw [tee, WrittenThrough]
  split
  · split
    · rw [AList.lookup_insert, Option.some_inj]
      exact List.take_eq_self_iff content
    · exact Iff.rfl
  · exact Iff.rfl

theorem reports_write_iff (s : Session) (c : Container) (path : String) (content : Bytes) :
    (∀ files, s.writeFile c path content = (files, .ok ()) → files.lookup path = some content) ↔
      s.Fails ["tee", path] ∨ s.connWrite content ≠ .ok () ∨ s.WrittenThrough c path content := by
  rw [← lookup_tee_iff, writeFile, FilesystemService.writeFile, Calls.Fails]
  cases hget : s.get with
  | error err => simp
  | ok _ =>
      cases hcreate : s.execCreate ["tee", path] with
      | error err => simp
      | ok _ =>
          cases hattach : s.execAttach with
          | error err => simp
          | ok _ =>
              cases hwrite : s.connWrite content with
              | error err => simp
              | ok _ => simp

/-- What goes wrong in the container is not reported: a command that fails, a stream
that ends early, and a writer that is not done. -/
theorem reports_iff (s : Session) (c : Container) (path : String) (content : Bytes) :
    s.Reports c path content ↔ s.Untroubled c path content := by
  constructor
  · intro h
    exact ⟨(s.reports_read_iff c path).mp h.read, (s.reports_list_iff c path).mp h.list,
      (s.reports_write_iff c path content).mp h.write⟩
  · intro h
    exact ⟨(s.reports_read_iff c path).mpr h.read, (s.reports_list_iff c path).mpr h.list,
      (s.reports_write_iff c path content).mpr h.write⟩

/-! ### Sessions in which all goes well -/

def daemon (s : Session) (c : Container) : Daemon where
  toCalls := s.toCalls
  frames output := s.relay ⟨output, [], 0⟩
  payload_frames output := (s.relays ⟨output, [], 0⟩).payloads_eq rfl
  complaint path := payloads (s.relay (c.headFailure path))

theorem strip_whole {s : Session} {p : Process} (h : s.Whole p) (c : Container) :
    stripDockerHeaders (s.arrives p) =
      stripDockerHeaders ((s.daemon c).stream (payloads (s.relay p))) := by
  rw [Daemon.strip_stream, arrives, List.take_of_length_le h, stripDockerHeaders_wire, ← payloads]

theorem payloads_head (s : Session) (c : Container) (path : String) :
    payloads (s.relay (c.head path)) =
      FilesystemService.head (s.daemon c) c.files readLimit path := by
  rw [Container.head, FilesystemService.head]
  cases c.files.lookup path with
  | none => rfl
  | some bytes => exact (s.relays _).payloads_eq rfl

/-- When the whole stream comes in, a file is read as if the daemon were all there is. -/
theorem readFile_whole {s : Session} {c : Container} {path : String} (h : s.Whole (c.head path)) :
    s.readFile c path = (s.daemon c).readFile c.files path := by
  have hstrip := strip_whole h c
  rw [payloads_head] at hstrip
  rw [readFile, Daemon.readFile, FilesystemService.readFile, FilesystemService.readFile,
    execCmd_congr hstrip]
  rfl

theorem listDir_whole {s : Session} {c : Container} {path : String}
    (h : s.Whole (c.ls (dirPath path))) :
    s.listDir c path = (s.daemon c).listDir path fun p => payloads (s.relay (c.ls p)) := by
  have hstrip := strip_whole h c
  rw [dirPath] at hstrip
  simp only [listDir, Daemon.listDir, FilesystemService.listDir, execCmd_congr hstrip]
  rfl

theorem writeFile_done {s : Session} {c : Container} {path : String} {content : Bytes} {n : Nat}
    (hopen : c.writable path) (hdone : s.teeProgress path = some n) (hall : content.length ≤ n) :
    s.writeFile c path content = (s.daemon c).writeFile c.files path content := by
  have htee : ∀ input, (FilesystemService.writeFile s.toCalls path content).1 = some input →
      s.tee c path input = FilesystemService.tee c.files path input := by
    intro input hinput
    have hlength := Nat.le_trans (length_writeFile hinput) hall
    simp only [tee, hopen, if_true, hdone, List.take_of_length_le hlength, FilesystemService.tee]
  rw [writeFile, Daemon.writeFile, daemon]
  cases hsent : FilesystemService.writeFile s.toCalls path content with
  | mk input result =>
      rw [hsent] at htee
      cases input with
      | none => rfl
      | some input => exact Prod.ext (htee input rfl) rfl

end Session

theorem byte_fits (b : UInt8) : [b].length < 2 ^ 32 := by simp

def byteFrame (stream : Fin 3) (b : UInt8) : Frame := ⟨stream, [b], byte_fits b⟩

theorem payloads_byteFrames (stream other : Fin 3) (bytes : Bytes) :
    payloads ((bytes.map (byteFrame stream)).filter (·.stream = other)) =
      if stream = other then bytes else [] := by
  have hstream : (fun f : Frame => decide (f.stream = other)) ∘ byteFrame stream =
      fun _ => decide (stream = other) := rfl
  rw [payloads, List.filter_map, List.flatMap_map, hstream]
  by_cases h : stream = other
  · simp [h, byteFrame]
  · simp [h]

def promptSession : Session where
  relay p := p.stdout.map (byteFrame stdoutStream) ++ p.stderr.map (byteFrame stderrStream)
  relays p := by
    have happend : ∀ a b : List Frame, payloads (a ++ b) = payloads a ++ payloads b :=
      fun a b => List.flatMap_append
    constructor
    · rw [List.filter_append, happend, payloads_byteFrames, payloads_byteFrames]
      simp [stdoutStream, stderrStream]
    · rw [List.filter_append, happend, payloads_byteFrames, payloads_byteFrames]
      simp [stdoutStream, stderrStream]
    · simp only [List.mem_append, List.mem_map]
      rintro f (⟨b, -, rfl⟩ | ⟨b, -, rfl⟩)
      · exact Or.inl rfl
      · exact Or.inr rfl
    · simp only [List.mem_append, List.mem_map]
      rintro f (⟨b, -, rfl⟩ | ⟨b, -, rfl⟩)
      · exact List.cons_ne_nil b []
      · exact List.cons_ne_nil b []
  received p := 9 * (p.stdout.length + p.stderr.length)
  teeProgress _ := none

def bareContainer : Container where
  files := ∅
  headFailure _ := ⟨[], utf8 "head: cannot open '/missing'", 1⟩
  headFailure_exit _ := Nat.one_ne_zero
  ls _ := ⟨[], utf8 "ls: cannot access '/missing'", 2⟩
  writable _ := false

/-- What `head` says of a missing file is shown as the file. -/
theorem missingFile_not_reported : ¬promptSession.Reports bareContainer "/missing" [] := by
  intro h
  obtain ⟨bytes, hfile, -⟩ := h.read _ rfl
  cases hfile

end Wiremap.Service.FilesystemService
