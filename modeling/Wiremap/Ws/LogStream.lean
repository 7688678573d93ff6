import Wiremap.Library.Runes
import Wiremap.Service.FilesystemService

/-! The logs of a container as `streamLogs` sends them on, frame by frame. -/
namespace Wiremap.Ws.LogStream

open Wiremap.Library
open Wiremap.Service.FilesystemService

structure LogEntry where
  containerID : String
  type : String
  text : Bytes
  deriving DecidableEq

inductive Message where
  | data (entry : LogEntry)
  | error (containerID message : String)
  deriving DecidableEq

def Message.event : Message → String
  | .data _ => "logs:data"
  | .error .. => "logs:error"

def Message.text : Message → Bytes
  | .data entry => entry.text
  | .error _ _ => []

def chunkSize (h4 h5 h6 h7 : UInt8) : Nat :=
  h7.toNat ||| h6.toNat <<< 8 ||| h5.toNat <<< 16 ||| h4.toNat <<< 24

def streamType (h0 : UInt8) : String := if h0 = 2 then "stderr" else "stdout"

theorem header_lt {a b c d e f g h : UInt8} {rest left : Bytes} (hle : left.length ≤ rest.length) :
    left.length < (a :: b :: c :: d :: e :: f :: g :: h :: rest).length := by
  simp only [List.length_cons]
  omega

/-- The loop of `streamLogs` while it is not cancelled.  A header whose size will not
do is passed over, and a chunk that is not there in full ends it. -/
def streamChunks (containerID : String) (reader : Bytes) : List Message :=
  match reader with
  | [] => []
  | h0 :: _ :: _ :: _ :: h4 :: h5 :: h6 :: h7 :: rest =>
      let size := chunkSize h4 h5 h6 h7
      if size ≤ 0 ∨ size > 1 <<< 20 then streamChunks containerID rest
      else if rest.length < size then []
      else
        .data ⟨containerID, streamType h0, rest.take size⟩ ::
          streamChunks containerID (rest.drop size)
  | _ => []
termination_by reader.length
decreasing_by
  · exact header_lt (Nat.le_refl _)
  · exact header_lt (by rw [List.length_drop]; exact Nat.sub_le _ _)

def streamLogs (containerID : String) (logs : Except String Bytes) : List Message :=
  match logs with
  | .error err => [.error containerID err]
  | .ok reader => streamChunks containerID reader

/-! ### What it is for -/

def frameStream (f : Frame) : String := if f.stream = stderrStream then "stderr" else "stdout"

def frameMessage (containerID : String) (f : Frame) : Message :=
  .data ⟨containerID, frameStream f, f.payload⟩

/-- One message for each frame that is not empty, with its payload, which survives as
JSON text, and together the text that `stripDockerHeaders` finds. -/
structure Demultiplexed (containerID : String) (frames : List Frame) : Prop where
  messages : streamLogs containerID (.ok (wire frames)) =
    (frames.filter fun f => f.payload ≠ []).map (frameMessage containerID)
  carried : ∀ message ∈ streamLogs containerID (.ok (wire frames)),
    Runes.coerce message.text = message.text
  text : (streamLogs containerID (.ok (wire frames))).flatMap Message.text =
    stripDockerHeaders (wire frames)

theorem chunkSize_eq (h4 h5 h6 h7 : UInt8) : chunkSize h4 h5 h6 h7 = frameSize h4 h5 h6 h7 := by
  unfold chunkSize frameSize
  generalize h4.toNat <<< 24 = a
  generalize h5.toNat <<< 16 = b
  generalize h6.toNat <<< 8 = c
  ac_rfl

variable {containerID : String}

theorem streamChunks_header (h0 h1 h2 h3 h4 h5 h6 h7 : UInt8) (rest : Bytes) :
    streamChunks containerID (h0 :: h1 :: h2 :: h3 :: h4 :: h5 :: h6 :: h7 :: rest) =
      if chunkSize h4 h5 h6 h7 ≤ 0 ∨ chunkSize h4 h5 h6 h7 > 1 <<< 20 then
        streamChunks containerID rest
      else if rest.length < chunkSize h4 h5 h6 h7 then []
      else
        .data ⟨containerID, streamType h0, rest.take (chunkSize h4 h5 h6 h7)⟩ ::
          streamChunks containerID (rest.drop (chunkSize h4 h5 h6 h7)) := by
  rw [streamChunks.eq_def]

theorem length_text_le {reader : Bytes} {message : Message}
    (h : message ∈ streamChunks containerID reader) : message.text.length ≤ 1 <<< 20 := by
  induction reader using streamChunks.induct with
  | case1 =>
      rw [streamChunks.eq_def] at h
      cases h
  | case2 h0 h1 h2 h3 h4 h5 h6 h7 rest size hsize ih =>
      rw [streamChunks_header, if_pos hsize] at h
      exact ih h
  | case3 h0 h1 h2 h3 h4 h5 h6 h7 rest size hsize hshort =>
      rw [streamChunks_header, if_neg hsize, if_pos hshort] at h
      cases h
  | case4 h0 h1 h2 h3 h4 h5 h6 h7 rest size hsize hlong ih =>
      rw [streamChunks_header, if_neg hsize, if_neg hlong] at h
      rcases List.mem_cons.mp h with rfl | hrest
      · rw [not_or, not_lt] at hsize
        exact (List.length_take_le _ _).trans hsize.2
      · exact ih hrest
  | case5 reader hempty hshort =>
      rw [streamChunks.eq_def] at h
      split at h
      · cases h
      · exact absurd rfl (hshort _ _ _ _ _ _ _ _ _)
      · cases h

/-- A frame that is not too large is taken off the stream whole. -/
theorem streamChunks_frame (f : Frame) (data : Bytes) (h : f.payload.length ≤ 1 <<< 20) :
    streamChunks containerID (f.wire ++ data) =
      (if f.payload = [] then [] else [frameMessage containerID f]) ++
        streamChunks containerID data := by
  have hstream : streamType (UInt8.ofNat f.stream) = frameStream f := by
    have hall : ∀ stream : Fin 3, streamType (UInt8.ofNat stream) =
        if stream = stderrStream then "stderr" else "stdout" := by decide
    exact hall f.stream
  simp only [Frame.wire, bigEndian32, List.cons_append, List.nil_append]
  rw [streamChunks_header, chunkSize_eq, frameSize_bigEndian32 f.fits, hstream]
  by_cases hempty : f.payload = []
  · simp [hempty]
  · have hpos := List.length_pos_iff.mpr hempty
    rw [if_neg (by omega), if_neg (by simp), if_neg hempty]
    simp [frameMessage]

theorem streamChunks_wire {frames : List Frame} (h : ∀ f ∈ frames, f.payload.length ≤ 1 <<< 20) :
    streamChunks containerID (wire frames) =
      (frames.filter fun f => f.payload ≠ []).map (frameMessage containerID) := by
  induction frames with
  | nil =>
      rw [wire, List.flatMap_nil, streamChunks.eq_def]
      rfl
  | cons f frames ih =>
      rw [wire, List.flatMap_cons, ← wire, streamChunks_frame f _ (h f List.mem_cons_self),
        ih fun f hf => h f (List.mem_cons_of_mem _ hf), List.filter_cons]
      by_cases hempty : f.payload = []
      · simp [hempty]
      · simp [hempty]

theorem flatMap_text (frames : List Frame) :
    ((frames.filter fun f => f.payload ≠ []).map (frameMessage containerID)).flatMap Message.text =
      frames.flatMap Frame.payload := by
  induction frames with
  | nil => rfl
  | cons f frames ih =>
      rw [List.filter_cons, List.flatMap_cons]
      by_cases hempty : f.payload = []
      · simpa [hempty] using ih
      · simpa [hempty, frameMessage, Message.text] using ih

theorem Demultiplexed.mem {frames : List Frame} (h : Demultiplexed containerID frames) {f : Frame}
    (hf : f ∈ frames) (hpayload : f.payload ≠ []) :
    frameMessage containerID f ∈ streamLogs containerID (.ok (wire frames)) := by
  rw [h.messages]
  exact List.mem_map_of_mem (List.mem_filter.mpr ⟨hf, by simpa using hpayload⟩)

/-- The stream is taken apart where no frame is larger than a megabyte, and every
payload is text. -/
theorem demultiplexed_iff (containerID : String) (frames : List Frame) :
    Demultiplexed containerID frames ↔
      ∀ f ∈ frames, f.payload.length ≤ 1 <<< 20 ∧ validUTF8 f.payload := by
  have hempty : validUTF8 [] := by decide
  constructor
  · intro h f hf
    by_cases hpayload : f.payload = []
    · rw [hpayload]
      exact ⟨Nat.zero_le _, hempty⟩
    · have hmem := h.mem hf hpayload
      exact ⟨length_text_le hmem, Runes.coerce_eq_self_iff.mp (h.carried _ hmem)⟩
  · intro h
    have hmessages : streamLogs containerID (.ok (wire frames)) =
        (frames.filter fun f => f.payload ≠ []).map (frameMessage containerID) :=
      streamChunks_wire fun f hf => (h f hf).1
    refine ⟨hmessages, fun message hmessage => ?_, ?_⟩
    · rw [hmessages] at hmessage
      obtain ⟨f, hf, rfl⟩ := List.mem_map.mp hmessage
      exact Runes.coerce_eq_self_iff.mpr (h f (List.mem_filter.mp hf).1).2
    · rw [hmessages, flatMap_text, stripDockerHeaders_wire]

def longFrame : Frame :=
  ⟨stdoutStream, List.replicate (1 <<< 20 + 1) 97, by
    rw [List.length_replicate]
    decide⟩

theorem length_longFrame : longFrame.payload.length = 1 <<< 20 + 1 := List.length_replicate

/-- The header is passed over, and the text after it is read as headers. -/
theorem longFrame_not_demultiplexed : ¬Demultiplexed "web" [longFrame] := by
  intro h
  have hpayload : longFrame.payload ≠ [] :=
    List.ne_nil_of_length_pos (length_longFrame ▸ Nat.succ_pos _)
  have hlength := length_text_le (h.mem (List.mem_singleton.mpr rfl) hpayload)
  rw [frameMessage, Message.text, length_longFrame] at hlength
  exact absurd hlength (Nat.not_succ_le_self _)

end Wiremap.Ws.LogStream
