import Wiremap.Service.FilesystemService

/-! `stripDockerHeaders` with every index and slice checked. -/
namespace Wiremap.Service.FilesystemService

/-- `data[i]` -/
def index (data : Bytes) (i : Nat) : Option UInt8 := data[i]?

/-- `data[from:]` -/
def sliceFrom (data : Bytes) (start : Nat) : Option Bytes :=
  if start ≤ data.length then some (data.drop start) else none

/-- `data[:to]` -/
def sliceTo (data : Bytes) (stop : Nat) : Option Bytes :=
  if stop ≤ data.length then some (data.take stop) else none

/-- The loop, for as many passes as there is fuel; `none` where it is out of fuel, or
where an index or a slice is out of range. -/
def checkedHeaders : Nat → Bytes → Bytes → Option (Bytes × Bytes)
  | fuel, data, result =>
      if data.length ≥ 8 then
        match fuel with
        | 0 => none
        | fuel + 1 => do
            let streamType ← index data 0
            if streamType > 2 then some (data, result ++ data)
            else do
              let size := frameSize (← index data 4) (← index data 5) (← index data 6)
                (← index data 7)
              let data ← sliceFrom data 8
              let size := if size > data.length then data.length else size
              let result := result ++ (← sliceTo data size)
              let data ← sliceFrom data size
              checkedHeaders fuel data result
      else some (data, result)

def checkedStrip (fuel : Nat) (data : Bytes) : Option Bytes := do
  let (data, result) ← checkedHeaders fuel data []
  if data.length > 0 ∧ result.length = 0 then some data else some result

theorem exists_header {data : Bytes} (h : data.length ≥ 8) :
    ∃ b0 b1 b2 b3 b4 b5 b6 b7 rest, data = b0 :: b1 :: b2 :: b3 :: b4 :: b5 :: b6 :: b7 :: rest := by
  match data, h with
  | b0 :: b1 :: b2 :: b3 :: b4 :: b5 :: b6 :: b7 :: rest, _ =>
      exact ⟨b0, b1, b2, b3, b4, b5, b6, b7, rest, rfl⟩
  | [], h | [_], h | [_, _], h | [_, _, _], h | [_, _, _, _], h | [_, _, _, _, _], h
  | [_, _, _, _, _, _], h | [_, _, _, _, _, _, _], h => simp at h

theorem stripHeaders_short {data : Bytes} (h : ¬data.length ≥ 8) (result : Bytes) :
    stripHeaders data result = (data, result) := by
  rw [stripHeaders.eq_def]
  split
  · simp at h
  · rfl

/-- A pass takes at least a header off, so an eighth of the length is fuel enough. -/
theorem checkedHeaders_eq {fuel : Nat} {data : Bytes} (h : data.length / 8 ≤ fuel)
    (result : Bytes) : checkedHeaders fuel data result = some (stripHeaders data result) := by
  induction fuel generalizing data result with
  | zero =>
      have hshort : ¬data.length ≥ 8 := by omega
      rw [checkedHeaders, if_neg hshort, stripHeaders_short hshort]
  | succ fuel ih =>
      by_cases hheader : data.length ≥ 8
      · obtain ⟨streamType, b1, b2, b3, b4, b5, b6, b7, rest, rfl⟩ := exists_header hheader
        rw [checkedHeaders, if_pos hheader, stripHeaders.eq_def]
        by_cases hstream : streamType > 2
        · simp [index, hstream]
        · have hsize : ∀ size, (if size > rest.length then rest.length else size) =
              min size rest.length := by
            intro size
            split <;> omega
          have hrest : (rest.drop (min (frameSize b4 b5 b6 b7) rest.length)).length / 8 ≤ fuel := by
            simp only [List.length_cons] at h
            rw [List.length_drop]
            omega
          simp [index, sliceFrom, sliceTo, hstream, hsize, ih hrest]
      · rw [checkedHeaders, if_neg hheader, stripHeaders_short hheader]

theorem checkedStrip_eq {fuel : Nat} {data : Bytes} (h : data.length / 8 ≤ fuel) :
    checkedStrip fuel data = some (stripDockerHeaders data) := by
  rw [checkedStrip, checkedHeaders_eq h, stripDockerHeaders]
  simp only [Option.bind_eq_bind, Option.bind_some]
  split <;> rfl

/-- What Docker encodes is decoded, and no bytes whatsoever lead out of range. -/
theorem stripDockerHeaders_decodes :
    (∀ frames, stripDockerHeaders (wire frames) = frames.flatMap Frame.payload) ∧
      ∀ data, checkedStrip (data.length / 8) data = some (stripDockerHeaders data) :=
  ⟨stripDockerHeaders_wire, fun _ => checkedStrip_eq (Nat.le_refl _)⟩

end Wiremap.Service.FilesystemService
