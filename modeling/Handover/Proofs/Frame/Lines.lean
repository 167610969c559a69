import Handover.LineReader
import Mathlib.Data.List.TakeWhile

/-! The lines of a stream. What a line reader gives out is decided by the bytes alone: the whole lines
among those received, and at the end of the stream what follows the last of them. -/

set_option autoImplicit false

namespace Handover.LineReader

/-! ## Whole lines -/

theorem splitLine_eq_none_iff {bytes : Bytes} : splitLine bytes = none ↔ newline ∉ bytes := by
  have kept : bytes.dropWhile (· != newline) = [] ↔ newline ∉ bytes := by
    rw [List.dropWhile_eq_nil_iff]
    constructor
    · intro others member
      simpa using others newline member
    · intro whole byte member
      have other : byte ≠ newline := fun same => whole (same ▸ member)
      simpa using other
  rw [← kept]
  unfold splitLine
  split <;> simp [*]

theorem splitLine_append {line : Bytes} (whole : newline ∉ line) (after : Bytes) :
    splitLine (line ++ newline :: after) = some (line, after) := by
  have others : ∀ byte ∈ line, (byte != newline) = true := by
    intro byte member
    have other : byte ≠ newline := fun same => whole (same ▸ member)
    simpa using other
  have dropped : (line ++ newline :: after).dropWhile (· != newline) = newline :: after := by
    rw [List.dropWhile_append_of_pos others]
    simp
  have taken : (line ++ newline :: after).takeWhile (· != newline) = line := by
    rw [List.takeWhile_append_of_pos others]
    simp
  simp [splitLine, dropped, taken]

theorem notMem_of_splitLine {bytes line after : Bytes}
    (found : splitLine bytes = some (line, after)) : newline ∉ line := by
  unfold splitLine at found
  split at found
  · cases found
  · cases found
    intro member
    simpa using List.mem_takeWhile_imp member

/-- The whole lines of a byte string, each without the carriage return at its end. -/
def lines (bytes : Bytes) : List Bytes :=
  match _found : splitLine bytes with
  | none => []
  | some (line, after) => withoutReturn line :: lines after
termination_by bytes.length
decreasing_by have := length_splitLine _found; omega

def remainder (bytes : Bytes) : Bytes :=
  match _found : splitLine bytes with
  | none => bytes
  | some (_, after) => remainder after
termination_by bytes.length
decreasing_by have := length_splitLine _found; omega

/-- The lines of a stream that has ended: what follows the last newline is one, unless it is empty. -/
def allLines (bytes : Bytes) : List Bytes :=
  lines bytes ++ if (remainder bytes).isEmpty then [] else [withoutReturn (remainder bytes)]

variable {line bytes : Bytes}

theorem lines_of_piece (piece : newline ∉ bytes) : lines bytes = [] := by
  rw [lines]
  split
  · rfl
  · next found => rw [splitLine_eq_none_iff.mpr piece] at found; cases found

theorem remainder_of_piece (piece : newline ∉ bytes) : remainder bytes = bytes := by
  rw [remainder]
  split
  · rfl
  · next found => rw [splitLine_eq_none_iff.mpr piece] at found; cases found

theorem lines_append_line (whole : newline ∉ line) (after : Bytes) :
    lines (line ++ newline :: after) = withoutReturn line :: lines after := by
  rw [lines]
  split
  · next found => rw [splitLine_append whole] at found; cases found
  · next found =>
    rw [splitLine_append whole] at found
    cases found
    rfl

theorem remainder_append_line (whole : newline ∉ line) (after : Bytes) :
    remainder (line ++ newline :: after) = remainder after := by
  rw [remainder]
  split
  · next found => rw [splitLine_append whole] at found; cases found
  · next found =>
    rw [splitLine_append whole] at found
    cases found
    rfl

theorem allLines_append_line (whole : newline ∉ line) (after : Bytes) :
    allLines (line ++ newline :: after) = withoutReturn line :: allLines after := by
  rw [allLines, lines_append_line whole, remainder_append_line whole, List.cons_append]
  rfl

@[simp] theorem allLines_nil : allLines [] = [] := by
  rw [allLines, lines_of_piece List.not_mem_nil, remainder_of_piece List.not_mem_nil]
  rfl

theorem allLines_of_piece (piece : newline ∉ bytes) (some : bytes ≠ []) :
    allLines bytes = [withoutReturn bytes] := by
  have filled : bytes.isEmpty = false := by simpa using some
  rw [allLines, lines_of_piece piece, remainder_of_piece piece, filled]
  rfl

/-! ## Reading -/

theorem next_eq_line {r rest : LineReader} {first : Bytes} (given : r.next = .line first rest) :
    ∃ line, newline ∉ line ∧ first = withoutReturn line ∧
      (r.buffer = line ++ newline :: rest.buffer ∨
        r.ended = true ∧ r.buffer = line ∧ line ≠ [] ∧ rest.buffer = []) := by
  unfold next at given
  split at given
  · next line after found =>
    cases given
    exact ⟨line, notMem_of_splitLine found, rfl, .inl (eq_of_splitLine found)⟩
  · next missing =>
    split at given
    · next ended =>
      split at given
      · cases given
      · next filled =>
        cases given
        exact ⟨r.buffer, splitLine_eq_none_iff.mp missing, rfl,
          .inr ⟨ended, rfl, by simpa using filled, rfl⟩⟩
    · cases given

variable {r rest : LineReader} {first : Bytes}

theorem allLines_next {future : Bytes} (given : r.next = .line first rest)
    (spent : r.ended = true → future = []) :
    allLines (r.buffer ++ future) = first :: allLines (rest.buffer ++ future) := by
  obtain ⟨line, whole, rfl, split | ⟨ended, last, filled, empty⟩⟩ := next_eq_line given
  · rw [split, List.append_assoc, List.cons_append]
    exact allLines_append_line whole _
  · rw [spent ended, last, empty, List.append_nil, allLines_of_piece whole filled]
    simp

theorem lines_next (given : r.next = .line first rest) (live : r.ended = false) (future : Bytes) :
    lines (r.buffer ++ future) = first :: lines (rest.buffer ++ future) := by
  obtain ⟨line, whole, rfl, split | ⟨ended, -⟩⟩ := next_eq_line given
  · rw [split, List.append_assoc, List.cons_append]
    exact lines_append_line whole _
  · simp [live] at ended

theorem eq_of_finished (finished : r.next = .finished) : r.buffer = [] ∧ r.ended = true := by
  unfold next at finished
  split at finished
  · cases finished
  · split at finished
    · next ended =>
      split at finished
      · next empty => exact ⟨by simpa using empty, ended⟩
      · cases finished
    · cases finished

theorem notMem_of_starved (starved : r.next = .starved) : newline ∉ r.buffer := by
  unfold next at starved
  split at starved
  · cases starved
  · next missing => exact splitLine_eq_none_iff.mp missing

end Handover.LineReader
