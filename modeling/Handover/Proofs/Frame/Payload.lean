import Handover.Proofs.Frame.Stream
import Mathlib.Data.List.Chain

/-! Payloads as they are decoded. The frame of a text without blank lines at its ends or next to each other
is read as that text, and nothing of what follows is touched. -/

set_option autoImplicit false

namespace Handover.Frame

def unlines (lines : List Bytes) : Bytes := lines.flatMap (· ++ [newline])

/-- The lines of a text that a decoder keeps. -/
structure Text (lines : List Bytes) : Prop where
  whole : ∀ line ∈ lines, newline ∉ line
  plain : ∀ line ∈ lines, line.getLast? ≠ some carriageReturn
  first : lines.head? ≠ some []
  last : lines.getLast? ≠ some []
  /-- Of two lines in a row one at least is not blank. -/
  spaced : lines.IsChain fun line next => line ≠ [] ∨ next ≠ []

/-- A payload is canonical when it is such a text; the empty one has no lines. -/
def Canonical (payload : Bytes) : Prop := ∃ lines, Text lines ∧ payload = unlines lines

/-! ## The decoder -/

/-- A decoder has read lines of a text, the first one of which was not blank. -/
structure Holds (d : Decoder) (lines : List Bytes) : Prop where
  content : List.replicate d.blanks [] ++ d.content = lines.reverse
  begun : d.content ≠ []
  solid : d.content.head? ≠ some []
  few : d.blanks ≤ 1

namespace Holds

variable {d : Decoder} {lines : List Bytes}

theorem isComplete (holds : Holds d lines) : d.isComplete = false := by
  have := holds.few
  simp only [Decoder.isComplete, beq_eq_false_iff_ne]
  omega

theorem start {line : Bytes} (some : line ≠ []) : Holds (Decoder.start.take line) [line] := by
  have shape : Decoder.start.take line = ⟨[line], 0⟩ := by
    simp [Decoder.take, Decoder.start, some]
  rw [shape]
  exact ⟨rfl, by simp, by simpa using some, Nat.zero_le 1⟩

theorem solid_line (holds : Holds d lines) {line : Bytes} (some : line ≠ []) :
    Holds (d.take line) (lines ++ [line]) ∧ (d.take line).blanks = 0 := by
  have shape : d.take line = ⟨line :: (List.replicate d.blanks [] ++ d.content), 0⟩ := by
    simp [Decoder.take, some, holds.begun]
  rw [shape]
  refine ⟨⟨?_, by simp, by simpa using some, Nat.zero_le 1⟩, rfl⟩
  simp [holds.content]

theorem blank_line (holds : Holds d lines) (fresh : d.blanks = 0) :
    Holds (d.take []) (lines ++ [[]]) where
  content := by
    have content := holds.content
    simp only [fresh, List.replicate_zero, List.nil_append] at content
    simp [Decoder.take, fresh, content]
  begun := holds.begun
  solid := holds.solid
  few := by simp [Decoder.take, fresh]

theorem fresh (holds : Holds d lines) (last : lines.getLast? ≠ some []) : d.blanks = 0 := by
  have few := holds.few
  have content := holds.content
  by_contra blank
  have one : d.blanks = 1 := by omega
  rw [one] at content
  apply last
  rw [← List.head?_reverse, ← content]
  rfl

theorem message_eq (holds : Holds d lines) (last : lines.getLast? ≠ some []) :
    d.message = unlines lines := by
  have content := holds.content
  rw [holds.fresh last, List.replicate_zero, List.nil_append] at content
  rw [Decoder.message, content, List.reverse_reverse]
  rfl

theorem lines_read (holds : Holds d lines) (more : List Bytes)
    (next : d.blanks = 0 ∨ more.head? ≠ some [])
    (spaced : more.IsChain fun line next => line ≠ [] ∨ next ≠ []) :
    ∃ e : Decoder, Holds e (lines ++ more) ∧ ∀ rest,
      messages (some d) (more ++ rest) = messages (some e) rest ∧
      after (some d) (more ++ rest) = after (some e) rest := by
  -- Along the lines: a blank one is only read after one that is not, so no frame is completed.
  induction more generalizing d lines with
  | nil => exact ⟨d, by simpa using holds, fun _ => ⟨rfl, rfl⟩⟩
  | cons line others ih =>
    -- A blank line is counted, any other takes the blank lines before it into the content.
    have unfinished : (d.take line).isComplete = false ∧ Holds (d.take line) (lines ++ [line]) ∧
        ((d.take line).blanks = 0 ∨ others.head? ≠ some []) := by
      by_cases blank : line = []
      · subst blank
        have fresh : d.blanks = 0 := next.resolve_right (by simp)
        have kept := holds.blank_line fresh
        refine ⟨kept.isComplete, kept, .inr ?_⟩
        cases others with
        | nil => simp
        | cons second _ => simpa using (List.isChain_cons_cons.mp spaced).1
      · obtain ⟨kept, fresh⟩ := holds.solid_line blank
        exact ⟨kept.isComplete, kept, .inl fresh⟩
    obtain ⟨unfinished, kept, next⟩ := unfinished
    obtain ⟨e, held, read⟩ := ih kept next spaced.of_cons
    refine ⟨e, by simpa using held, fun rest => ?_⟩
    have fed : fed (some d) line = d.take line := rfl
    rw [List.cons_append, messages, after, fed, unfinished]
    exact read rest

end Holds

theorem Decoder.terminate (d : Decoder) (fresh : d.blanks = 0) (rest : List Bytes) :
    messages (some d) ([] :: [] :: rest) = d.message :: messages none rest ∧
      after (some d) ([] :: [] :: rest) = after none rest := by
  simp [messages, after, fed, Decoder.take, isComplete, fresh, message]

/-! ## Texts -/

namespace Text

variable {lines : List Bytes}

theorem nil : Text [] := ⟨nofun, nofun, nofun, nofun, .nil⟩

theorem read (text : Text lines) (filled : lines ≠ []) :
    ∃ d : Decoder, Holds d lines ∧ ∀ rest, messages none (lines ++ rest) = messages (some d) rest ∧
      after none (lines ++ rest) = after (some d) rest := by
  cases lines with
  | nil => exact absurd rfl filled
  | cons first others =>
    have solid : first ≠ [] := by simpa using text.first
    have fresh : (Decoder.start.take first).blanks = 0 := by simp [Decoder.take, Decoder.start, solid]
    obtain ⟨d, holds, read⟩ := (Holds.start solid).lines_read others (.inl fresh) text.spaced.of_cons
    refine ⟨d, holds, fun rest => ?_⟩
    rw [List.cons_append, messages, after, fed_none, isComplete_take_start]
    exact read rest

theorem frame (text : Text lines) (rest : List Bytes) :
    messages none (lines ++ [] :: [] :: rest) = unlines lines :: messages none rest ∧
      after none (lines ++ [] :: [] :: rest) = after none rest := by
  by_cases empty : lines = []
  · subst empty
    exact ⟨rfl, rfl⟩
  · obtain ⟨d, holds, read⟩ := text.read empty
    obtain ⟨same, left⟩ := read ([] :: [] :: rest)
    obtain ⟨message, closed⟩ := d.terminate (holds.fresh text.last) rest
    rw [same, left, message, closed, holds.message_eq text.last]
    exact ⟨rfl, rfl⟩

/-- At the end of the stream one blank line is enough. -/
theorem frame_last (text : Text lines) (filled : lines ≠ []) :
    messages none (lines ++ [[]]) = [unlines lines] := by
  obtain ⟨d, holds, read⟩ := text.read filled
  rw [(read [[]]).1, ← holds.message_eq text.last]
  simp [messages, fed, Decoder.take, Decoder.isComplete, holds.fresh text.last, Decoder.message]

end Text

/-! ## Bytes -/

theorem unlines_cons (line : Bytes) (others : List Bytes) (rest : Bytes) :
    unlines (line :: others) ++ rest = line ++ newline :: (unlines others ++ rest) := by
  simp [unlines]

theorem withoutReturn_eq {line : Bytes} (plain : line.getLast? ≠ some carriageReturn) :
    LineReader.withoutReturn line = line := by
  simp [LineReader.withoutReturn, plain]

theorem lines_unlines {lines : List Bytes} (whole : ∀ line ∈ lines, newline ∉ line)
    (plain : ∀ line ∈ lines, line.getLast? ≠ some carriageReturn) (rest : Bytes) :
    LineReader.lines (unlines lines ++ rest) = lines ++ LineReader.lines rest ∧
      LineReader.allLines (unlines lines ++ rest) = lines ++ LineReader.allLines rest := by
  induction lines with
  | nil => exact ⟨rfl, rfl⟩
  | cons line others ih =>
    obtain ⟨here, all⟩ := ih (fun l member => whole l (List.mem_cons_of_mem _ member))
      (fun l member => plain l (List.mem_cons_of_mem _ member))
    have first := whole line List.mem_cons_self
    rw [unlines_cons, LineReader.lines_append_line first, LineReader.allLines_append_line first,
      withoutReturn_eq (plain line List.mem_cons_self), here, all]
    exact ⟨rfl, rfl⟩

theorem lines_newline (rest : Bytes) :
    LineReader.lines (newline :: rest) = [] :: LineReader.lines rest ∧
      LineReader.allLines (newline :: rest) = [] :: LineReader.allLines rest :=
  ⟨LineReader.lines_append_line List.not_mem_nil rest,
    LineReader.allLines_append_line List.not_mem_nil rest⟩

/-- The frame of a canonical payload is read as that payload, whatever follows. -/
theorem Canonical.read {payload : Bytes} (canonical : Canonical payload) (rest : Bytes) :
    messages none (LineReader.allLines (encode payload ++ rest)) =
        payload :: messages none (LineReader.allLines rest) ∧
      after none (LineReader.lines (encode payload ++ rest)) = after none (LineReader.lines rest) := by
  obtain ⟨lines, text, rfl⟩ := canonical
  have shape : encode (unlines lines) ++ rest = unlines lines ++ newline :: newline :: rest := by
    simp [encode, terminator]
  obtain ⟨some, all⟩ := lines_unlines text.whole text.plain (newline :: newline :: rest)
  rw [shape, some, all, (lines_newline _).1, (lines_newline _).2, (lines_newline _).1,
    (lines_newline _).2]
  exact ⟨(text.frame _).1, (text.frame _).2⟩

theorem messages_payloads {payloads : List Bytes} (canonical : ∀ p ∈ payloads, Canonical p) :
    messages none (LineReader.allLines (payloads.flatMap encode)) = payloads := by
  induction payloads with
  | nil => simp [messages]
  | cons first others ih =>
    rw [List.flatMap_cons, ((canonical first List.mem_cons_self).read _).1,
      ih fun p member => canonical p (List.mem_cons_of_mem _ member)]

theorem after_payloads {payloads : List Bytes} (canonical : ∀ p ∈ payloads, Canonical p)
    {piece : Bytes} (unfinished : newline ∉ piece) :
    after none (LineReader.lines (payloads.flatMap encode ++ piece)) = none := by
  induction payloads with
  | nil =>
    rw [List.flatMap_nil, List.nil_append, LineReader.lines_of_piece unfinished]
    rfl
  | cons first others ih =>
    rw [List.flatMap_cons, List.append_assoc, ((canonical first List.mem_cons_self).read _).2]
    exact ih fun p member => canonical p (List.mem_cons_of_mem _ member)

end Handover.Frame
