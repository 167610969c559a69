import Handover.Proofs.Frame.Stream
import Mathlib.Data.List.Induction

/-! The lines of an open frame. A reader gives out the lines of the stream one after another; those that a
frame has taken say what it is, and the latest of them alone says whether silence ends it. -/

set_option autoImplicit false

namespace Handover

namespace Frame

def opened (lines : List Bytes) : Option Decoder :=
  lines.foldl (fun frame line => some (fed frame line)) none

theorem opened_concat (lines : List Bytes) (line : Bytes) :
    opened (lines ++ [line]) = some (fed (opened lines) line) := by
  simp [opened]

theorem opened_append {lines : List Bytes} {d : Decoder} (open_ : opened lines = some d)
    (more : List Bytes) : opened (lines ++ more) = some (more.foldl Decoder.take d) := by
  induction more generalizing lines d with
  | nil => simpa using open_
  | cons line rest ih =>
    have taken : opened (lines ++ [line]) = some (d.take line) := by rw [opened_concat, open_]; rfl
    rw [List.append_cons, ih taken, List.foldl_cons]

theorem endsInSilence_take (d : Decoder) (line : Bytes) :
    (d.take line).endsInSilence = true ↔ line = [] := by
  unfold Decoder.take
  cases line with
  | nil => simp [Decoder.endsInSilence]
  | cons first rest =>
    simp only [List.isEmpty_cons, Bool.false_eq_true, if_false]
    split <;> simp [Decoder.endsInSilence]

/-- Silence ends a frame if its latest line is blank, whatever came before. -/
theorem latest_of_opened {lines : List Bytes} {d : Decoder} (open_ : opened lines = some d) :
    ∃ latest, lines.getLast? = some latest ∧ (d.endsInSilence = true ↔ latest = []) := by
  induction lines using List.reverseRecOn with
  | nil => cases open_
  | append_singleton lines line _ =>
    rw [opened_concat] at open_
    obtain rfl := Option.some.inj open_
    exact ⟨line, by simp, endsInSilence_take _ line⟩

end Frame

namespace LineReader

open Handover.Frame

/-- From one reader to another, with the lines given out on the way. -/
structure Yields (r : LineReader) (given : List Bytes) (rest : LineReader) : Prop where
  lines : r.ended = false → ∀ future,
    lines (r.buffer ++ future) = given ++ lines (rest.buffer ++ future)
  ended : rest.ended = r.ended
  shorter : rest.buffered ≤ r.buffered

namespace Yields

variable {r rest : LineReader} {line : Bytes}

theorem refl (r : LineReader) : Yields r [] r :=
  ⟨fun _ _ => rfl, rfl, Nat.le_refl _⟩

theorem next (given : r.next = .line line rest) : Yields r [line] rest :=
  ⟨fun live future => lines_next given live future, ended_of_next given,
    Nat.le_of_lt (buffered_of_next given)⟩

theorem trans {before after : List Bytes} {middle : LineReader} (first : Yields r before middle)
    (second : Yields middle after rest) : Yields r (before ++ after) rest where
  lines live future := by
    rw [first.lines live, second.lines (first.ended.trans live), List.append_assoc]
  ended := second.ended.trans first.ended
  shorter := Nat.le_trans second.shorter first.shorter

end Yields

variable {r rest : LineReader} {d : Decoder}

/-- A frame that must wait for more has taken all the lines that the reader has given out for it. -/
theorem yields_of_starved {frame : Decoder} (reached : gather d r = .starved frame rest) :
    ∃ given, Yields r given rest ∧ given.foldl Decoder.take d = frame ∧ rest.next = .starved := by
  fun_induction gather d r with
  | case1 => cases reached
  | case2 d r _ line middle asked ih =>
    obtain ⟨given, yields, fed, starved⟩ := ih reached
    exact ⟨line :: given, (Yields.next asked).trans yields, fed, starved⟩
  | case3 => cases reached
  | case4 d r _ starved =>
    cases reached
    exact ⟨[], .refl _, rfl, starved⟩

theorem yields_of_message {bytes : Bytes} (reached : gather d r = .message bytes rest) :
    ∃ given, Yields r given rest := by
  fun_induction gather d r with
  | case1 =>
    cases reached
    exact ⟨[], .refl _⟩
  | case2 d r _ line middle asked ih =>
    obtain ⟨given, yields⟩ := ih reached
    exact ⟨line :: given, (Yields.next asked).trans yields⟩
  | case3 =>
    cases reached
    exact ⟨[], .refl _⟩
  | case4 => cases reached

end LineReader

end Handover
