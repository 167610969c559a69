import Handover.Bytes
import Handover.Fault

/-! Frames. A message is written as its bytes and two newlines; it is read as the lines up to two
blank ones in a row. -/

set_option autoImplicit false

namespace Handover.Frame

def terminator : Bytes := [newline, newline]

def encode (payload : Bytes) : Bytes := payload ++ terminator

@[simp] theorem length_encode (payload : Bytes) : (encode payload).length = payload.length + 2 := by
  simp [encode, terminator]

/-- What has been read of a frame: its content, the latest line first, and the number of blank
lines since. -/
structure Decoder where
  content : List Bytes
  blanks : Nat
  deriving DecidableEq, Repr

namespace Decoder

def start : Decoder := ⟨[], 0⟩

/-- The message so far: each line of content, ended by a newline. -/
def message (d : Decoder) : Bytes := d.content.reverse.flatMap (· ++ [newline])

/-- A blank line is content only between two lines of content. -/
def take (d : Decoder) (line : Bytes) : Decoder :=
  if line.isEmpty then { d with blanks := d.blanks + 1 }
  else if d.content.isEmpty then ⟨[line], 0⟩
  else ⟨line :: (List.replicate d.blanks [] ++ d.content), 0⟩

/-- Two blank lines in a row end the frame. -/
def isComplete (d : Decoder) : Bool := d.blanks == 2

/-- A peer that falls silent after a blank line has ended the frame. -/
def endsInSilence (d : Decoder) : Bool := d.blanks != 0

@[simp] theorem message_start : start.message = [] := rfl

@[simp] theorem take_blank (d : Decoder) : d.take [] = { d with blanks := d.blanks + 1 } := rfl

theorem message_take_blank (d : Decoder) : (d.take []).message = d.message := rfl

end Decoder

/-- What asking for a line ends with: a line, nothing at the end of the stream, or a fault. -/
abbrev LineOutcome := Except Fault (Option Bytes)

/-- Reads on until the frame is complete; the count says how often a line was asked for. When the
outcomes run out, the stream has ended. -/
def follow (d : Decoder) (asked : Nat) (outcomes : List LineOutcome) : Except Fault Bytes × Nat :=
  if d.isComplete then (.ok d.message, asked)
  else match outcomes with
    | [] | .ok none :: _ => (.ok d.message, asked + 1)
    | .ok (some line) :: rest => follow (d.take line) (asked + 1) rest
    | .error f :: _ =>
        (if f.isTimeout && d.endsInSilence then .ok d.message else .error f, asked + 1)

def decode (first : Bytes) (outcomes : List LineOutcome) : Except Fault Bytes × Nat :=
  follow (Decoder.start.take first) 0 outcomes

theorem follow_complete {d : Decoder} (complete : d.isComplete = true) (asked : Nat)
    (outcomes : List LineOutcome) : follow d asked outcomes = (.ok d.message, asked) := by
  unfold follow; simp [complete]

theorem follow_line {d : Decoder} (unfinished : d.isComplete = false) (asked : Nat) (line : Bytes)
    (rest : List LineOutcome) :
    follow d asked (.ok (some line) :: rest) = follow (d.take line) (asked + 1) rest := by
  rw [follow]; simp [unfinished]

end Handover.Frame
