import Handover.Proofs.Frame.Lines

/-! The messages of a stream of lines. Lines are fed to a frame until it is complete, the next line begins
another, and a frame that is open at the end of the stream is a message too. A reader that gathers the
lines of a frame does the same, however they come in. -/

set_option autoImplicit false

namespace Handover.Frame

/-- A frame with one more line; the first line opens one. -/
def fed (frame : Option Decoder) (line : Bytes) : Decoder := (frame.getD .start).take line

@[simp] theorem fed_none (line : Bytes) : fed none line = Decoder.start.take line := rfl

/-- The frame that is left open by lines. -/
def after (frame : Option Decoder) : List Bytes → Option Decoder
  | [] => frame
  | line :: rest =>
      if (fed frame line).isComplete then after none rest else after (some (fed frame line)) rest

def messages (frame : Option Decoder) : List Bytes → List Bytes
  | [] => (frame.map Decoder.message).toList
  | line :: rest =>
      if (fed frame line).isComplete then (fed frame line).message :: messages none rest
      else messages (some (fed frame line)) rest

/-- Only the first of two blank lines is no more than that. -/
@[simp] theorem isComplete_take_start (line : Bytes) : (Decoder.start.take line).isComplete = false := by
  unfold Decoder.take
  split
  · rfl
  · split <;> rfl

end Handover.Frame

namespace Handover.LineReader

open Handover.Frame

/-- A reader comes from one frame to another, putting out messages on the way: whatever is still to come,
the rest of the stream is read as it would have been. -/
structure Continues (frame : Option Decoder) (r : LineReader) (out : List Bytes)
    (next : Option Decoder) (rest : LineReader) : Prop where
  messages : ∀ future, (r.ended = true → future = []) →
    messages frame (allLines (r.buffer ++ future)) =
      out ++ messages next (allLines (rest.buffer ++ future))
  after : r.ended = false → ∀ future,
    after frame (lines (r.buffer ++ future)) = after next (lines (rest.buffer ++ future))
  ended : rest.ended = r.ended
  shorter : rest.buffered ≤ r.buffered

namespace Continues

variable {frame : Option Decoder} {r rest : LineReader} {given : Bytes}

theorem refl (frame : Option Decoder) (r : LineReader) : Continues frame r [] frame r :=
  ⟨fun _ _ => rfl, fun _ _ => rfl, rfl, Nat.le_refl _⟩

theorem trans {before between : List Bytes} {frame mid last : Option Decoder}
    {r middle rest : LineReader} (first : Continues frame r before mid middle)
    (second : Continues mid middle between last rest) :
    Continues frame r (before ++ between) last rest where
  messages := by
    intro future spent
    rw [first.messages future spent, second.messages future (first.ended ▸ spent), List.append_assoc]
  after := fun live future =>
    (first.after live future).trans (second.after (first.ended.trans live) future)
  ended := second.ended.trans first.ended
  shorter := Nat.le_trans second.shorter first.shorter

theorem line (asked : r.next = .line given rest) (unfinished : (fed frame given).isComplete = false) :
    Continues frame r [] (some (fed frame given)) rest where
  messages := by
    intro future spent
    rw [allLines_next asked spent, Frame.messages, unfinished]
    rfl
  after := by
    intro live future
    rw [lines_next asked live, Frame.after, unfinished]
    rfl
  ended := ended_of_next asked
  shorter := Nat.le_of_lt (buffered_of_next asked)

theorem complete (asked : r.next = .line given rest) (complete : (fed frame given).isComplete = true) :
    Continues frame r [(fed frame given).message] none rest where
  messages := by
    intro future spent
    rw [allLines_next asked spent, Frame.messages, if_pos complete]
    rfl
  after := by
    intro live future
    rw [lines_next asked live, Frame.after, if_pos complete]
  ended := ended_of_next asked
  shorter := Nat.le_of_lt (buffered_of_next asked)

theorem finish (finished : r.next = .finished) (d : Decoder) :
    Continues (some d) r [d.message] none r where
  messages := by
    intro future spent
    obtain ⟨empty, ended⟩ := eq_of_finished finished
    rw [empty, spent ended]
    simp [Frame.messages]
  after := by
    intro live
    simp [(eq_of_finished finished).2] at live
  ended := rfl
  shorter := Nat.le_refl _

end Continues

theorem gather_of_complete {d : Decoder} (complete : d.isComplete = true) (r : LineReader) :
    r.gather d = .message d.message r := by
  rw [gather, if_pos complete]

theorem gather_continues (d : Decoder) (r : LineReader) (unfinished : d.isComplete = false) :
    (∃ bytes rest, r.gather d = .message bytes rest ∧ Continues (some d) r [bytes] none rest) ∨
      ∃ frame rest, r.gather d = .starved frame rest ∧ rest.next = .starved ∧
        frame.isComplete = false ∧ Continues (some d) r [] (some frame) rest := by
  -- Along the recursion of the reader: a line completes the frame, or leaves it to the next line.
  fun_induction gather d r with
  | case1 d r complete => simp [complete] at unfinished
  | case2 d r _ line next given ih =>
    by_cases complete : (d.take line).isComplete = true
    · exact .inl ⟨_, _, gather_of_complete complete next, .complete given complete⟩
    · have unfinished : (d.take line).isComplete = false := by simpa using complete
      have first : Continues (some d) r [] (some (d.take line)) next := .line given unfinished
      obtain ⟨bytes, rest, reached, continues⟩ | ⟨frame, rest, reached, starved, unfinished, continues⟩ :=
        ih unfinished
      · exact .inl ⟨bytes, rest, reached, first.trans continues⟩
      · exact .inr ⟨frame, rest, reached, starved, unfinished, first.trans continues⟩
  | case3 d r _ finished => exact .inl ⟨_, _, rfl, .finish finished d⟩
  | case4 d r _ starved => exact .inr ⟨d, r, rfl, starved, unfinished, .refl (some d) r⟩

end Handover.LineReader
