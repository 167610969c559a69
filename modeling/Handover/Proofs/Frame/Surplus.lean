import Handover.Proofs.Frame.Payload

/-! Payloads with a surplus newline. The frame of such a payload has one blank line more than it needs. The
decoder takes that line for the first one of the next frame: content that follows hides it, but a stream that
falls silent or ends there leaves a frame without content. -/

set_option autoImplicit false

namespace Handover.Frame

/-- A canonical payload that is not empty, perhaps with a surplus newline at its end. -/
structure Letter where
  content : Bytes
  surplus : Bool
  canonical : Canonical content
  filled : content ≠ []

namespace Letter

def payload (l : Letter) : Bytes := l.content ++ if l.surplus then [newline] else []

def frame (l : Letter) : Bytes := encode l.payload

end Letter

def leftOpen (surplus : Bool) : Option Decoder := if surplus then some (Decoder.start.take []) else none

/-- A line of content hides a surplus newline before it. -/
theorem fed_leftOpen (surplus : Bool) {line : Bytes} (solid : line ≠ []) :
    fed (leftOpen surplus) line = fed none line := by
  cases surplus with
  | false => rfl
  | true => simp [leftOpen, fed, Decoder.take, Decoder.start, solid]

theorem messages_leftOpen (surplus : Bool) {line : Bytes} (solid : line ≠ []) (rest : List Bytes) :
    messages (leftOpen surplus) (line :: rest) = messages none (line :: rest) ∧
      after (leftOpen surplus) (line :: rest) = after none (line :: rest) := by
  simp only [messages, after, fed_leftOpen surplus solid, and_self]

theorem messages_newline (rest : Bytes) :
    messages none (LineReader.allLines (newline :: rest)) =
        messages (leftOpen true) (LineReader.allLines rest) ∧
      after none (LineReader.lines (newline :: rest)) = after (leftOpen true) (LineReader.lines rest) := by
  rw [(lines_newline rest).1, (lines_newline rest).2]
  exact ⟨rfl, rfl⟩

/-- A second blank line completes the frame that a surplus newline has opened. -/
theorem messages_leftOpen_newline (rest : Bytes) :
    messages (leftOpen true) (LineReader.allLines (newline :: rest)) =
        [] :: messages none (LineReader.allLines rest) ∧
      after (leftOpen true) (LineReader.lines (newline :: rest)) = after none (LineReader.lines rest) := by
  rw [(lines_newline rest).1, (lines_newline rest).2]
  exact ⟨rfl, rfl⟩

theorem Canonical.read_leftOpen {payload : Bytes} (canonical : Canonical payload) (filled : payload ≠ [])
    (surplus : Bool) (rest : Bytes) :
    messages (leftOpen surplus) (LineReader.allLines (payload ++ rest)) =
        messages none (LineReader.allLines (payload ++ rest)) ∧
      after (leftOpen surplus) (LineReader.lines (payload ++ rest)) =
        after none (LineReader.lines (payload ++ rest)) := by
  obtain ⟨lines, text, rfl⟩ := canonical
  cases lines with
  | nil => exact absurd rfl filled
  | cons first others =>
    have solid : first ≠ [] := by simpa using text.first
    obtain ⟨some, all⟩ := lines_unlines text.whole text.plain rest
    rw [some, all]
    exact ⟨(messages_leftOpen surplus solid _).1, (messages_leftOpen surplus solid _).2⟩

namespace Letter

theorem frame_append (l : Letter) (rest : Bytes) :
    l.frame ++ rest = encode l.content ++ ((if l.surplus then [newline] else []) ++ rest) := by
  cases surplus : l.surplus <;> simp [frame, payload, encode, terminator, surplus]

theorem read (l : Letter) (before : Bool) (rest : Bytes) :
    messages (leftOpen before) (LineReader.allLines (l.frame ++ rest)) =
        l.content :: messages (leftOpen l.surplus) (LineReader.allLines rest) ∧
      after (leftOpen before) (LineReader.lines (l.frame ++ rest)) =
        after (leftOpen l.surplus) (LineReader.lines rest) := by
  rw [l.frame_append, encode, List.append_assoc,
    (l.canonical.read_leftOpen l.filled before _).1, (l.canonical.read_leftOpen l.filled before _).2,
    ← List.append_assoc, ← encode, (l.canonical.read _).1, (l.canonical.read _).2]
  cases l.surplus with
  | false => exact ⟨rfl, rfl⟩
  | true =>
    obtain ⟨read, left⟩ := messages_newline rest
    exact ⟨congrArg _ read, left⟩

def leave (before : Bool) (letters : List Letter) : Bool := letters.foldl (fun _ l => l.surplus) before

theorem read_all (before : Bool) (letters : List Letter) (rest : Bytes) :
    messages (leftOpen before) (LineReader.allLines (letters.flatMap frame ++ rest)) =
        letters.map content ++ messages (leftOpen (leave before letters)) (LineReader.allLines rest) ∧
      after (leftOpen before) (LineReader.lines (letters.flatMap frame ++ rest)) =
        after (leftOpen (leave before letters)) (LineReader.lines rest) := by
  induction letters generalizing before with
  | nil => exact ⟨rfl, rfl⟩
  | cons first others ih =>
    obtain ⟨read, left⟩ := first.read before (others.flatMap frame ++ rest)
    rw [List.flatMap_cons, List.append_assoc, read, left, (ih _).1, (ih _).2]
    exact ⟨rfl, rfl⟩

end Letter

end Handover.Frame
