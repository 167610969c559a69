import Handover.Proofs.Frame.Payload

/-! Payloads that may lack the newline at their end. The terminator of such a payload makes only one blank
line, which is content if another line follows: the payload and the next one are read as one message, with
a blank line between them. -/

set_option autoImplicit false

namespace Handover.Frame

/-- Lines that are not blank, with or without a newline after the last of them. -/
structure Paragraph where
  lines : List Bytes
  terminated : Bool
  filled : lines ≠ []
  solid : ∀ line ∈ lines, line ≠ []
  whole : ∀ line ∈ lines, newline ∉ line
  plain : ∀ line ∈ lines, line.getLast? ≠ some carriageReturn

/-- Frames of texts as lines. The last of them may lack the second of its blank lines. -/
inductive Layout : List (List Bytes) → List Bytes → Prop where
  | nil : Layout [] []
  | last {lines : List Bytes} : Text lines → lines ≠ [] → Layout [lines] (lines ++ [[]])
  | frame {lines : List Bytes} {texts : List (List Bytes)} {rest : List Bytes} : Text lines →
      lines ≠ [] → Layout texts rest → Layout (lines :: texts) (lines ++ [] :: [] :: rest)

theorem Layout.messages_eq {texts : List (List Bytes)} {lines : List Bytes}
    (layout : Layout texts lines) : messages none lines = texts.map unlines := by
  induction layout with
  | nil => rfl
  | last text filled => exact text.frame_last filled
  | frame text _ _ ih => rw [(text.frame _).1, ih, List.map_cons]

namespace Paragraph

def payload (p : Paragraph) : Bytes :=
  List.intercalate [newline] p.lines ++ if p.terminated then [newline] else []

def message (p : Paragraph) : Bytes :=
  if p.terminated then p.payload else p.payload ++ [newline]

/-- The texts that paragraphs are read as: one without a newline at its end is joined to the next, with a
blank line between. -/
def joined : List Paragraph → List (List Bytes)
  | [] => []
  | p :: rest =>
      match p.terminated, joined rest with
      | false, next :: others => (p.lines ++ [] :: next) :: others
      | _, others => p.lines :: others

def merged (ps : List Paragraph) : List Bytes := (joined ps).map unlines

/-! ## Lines -/

theorem text (p : Paragraph) : Text p.lines where
  whole := p.whole
  plain := p.plain
  first := fun blank => p.solid [] (List.mem_of_head? blank) rfl
  last := fun blank => p.solid [] (List.mem_of_getLast? blank) rfl
  spaced := by
    refine List.Pairwise.isChain (List.Pairwise.imp_of_mem ?_ (List.pairwise_of_forall fun _ _ => trivial))
    intro line next member _ _
    exact .inl (p.solid line member)

theorem text_append (p : Paragraph) {next : List Bytes} (text : Text next) (filled : next ≠ []) :
    Text (p.lines ++ [] :: next) where
  whole := by
    intro line member
    rcases List.mem_append.mp member with here | there
    · exact p.whole line here
    · rcases List.mem_cons.mp there with rfl | there
      · exact List.not_mem_nil
      · exact text.whole line there
  plain := by
    intro line member
    rcases List.mem_append.mp member with here | there
    · exact p.plain line here
    · rcases List.mem_cons.mp there with rfl | there
      · simp
      · exact text.plain line there
  first := by
    rw [List.head?_append_of_ne_nil _ p.filled]
    exact p.text.first
  last := by
    rw [List.getLast?_append_of_ne_nil _ (List.cons_ne_nil _ _), List.getLast?_cons_of_ne_nil filled]
    exact text.last
  spaced := by
    refine List.isChain_append.mpr ⟨p.text.spaced, List.isChain_cons.mpr ⟨?_, text.spaced⟩, ?_⟩
    · rintro line first
      exact .inr fun blank => text.first (blank ▸ first)
    · rintro line last _ _
      exact .inl (p.solid line (List.mem_of_getLast? last))

def framed (ps : List Paragraph) : List Bytes :=
  ps.flatMap fun p => p.lines ++ [] :: if p.terminated then [[]] else []

theorem joined_of_terminated {p : Paragraph} (ended : p.terminated = true) (rest : List Paragraph) :
    joined (p :: rest) = p.lines :: joined rest := by
  simp [joined, ended]

theorem joined_of_open {p : Paragraph} (ended : p.terminated = false) {rest : List Paragraph}
    {next : List Bytes} {others : List (List Bytes)} (same : joined rest = next :: others) :
    joined (p :: rest) = (p.lines ++ [] :: next) :: others := by
  simp [joined, ended, same]

theorem joined_ne_nil (p : Paragraph) (rest : List Paragraph) : joined (p :: rest) ≠ [] := by
  rw [joined]
  split <;> simp

theorem layout_framed (ps : List Paragraph) : Layout (joined ps) (framed ps) := by
  induction ps with
  | nil => exact .nil
  | cons p rest ih =>
    have shape : framed (p :: rest) =
        p.lines ++ [] :: ((if p.terminated then [[]] else []) ++ framed rest) := by
      simp [framed]
    rw [shape]
    cases ended : p.terminated with
    | true =>
      rw [joined_of_terminated ended]
      exact .frame p.text p.filled ih
    | false =>
      cases rest with
      | nil => simpa [joined, ended, framed] using Layout.last p.text p.filled
      | cons second others =>
        -- The first text of the rest is taken into that of the paragraph, whatever frame it was laid out in.
        obtain ⟨next, more, same⟩ := List.exists_cons_of_ne_nil (joined_ne_nil second others)
        rw [joined_of_open ended same]
        rw [same] at ih
        generalize framed (second :: others) = lines at ih
        cases ih with
        | last text filled =>
          simpa using Layout.last (p.text_append text filled) (by simp)
        | frame text filled layout =>
          simpa using Layout.frame (p.text_append text filled) (by simp) layout

theorem messages_framed (ps : List Paragraph) : messages none (framed ps) = merged ps :=
  (layout_framed ps).messages_eq

/-! ## Bytes -/

theorem intercalate_newline {lines : List Bytes} (filled : lines ≠ []) :
    List.intercalate [newline] lines ++ [newline] = unlines lines := by
  induction lines with
  | nil => exact absurd rfl filled
  | cons line others ih =>
    cases others with
    | nil => simp [unlines]
    | cons second rest =>
      have tail := ih (List.cons_ne_nil second rest)
      rw [List.intercalate_cons_cons, List.append_assoc, List.append_assoc, tail]
      simp [unlines]

theorem message_eq (p : Paragraph) : p.message = unlines p.lines := by
  rw [← intercalate_newline p.filled]
  cases ended : p.terminated <;> simp [message, payload, ended]

theorem encode_payload (p : Paragraph) :
    encode p.payload =
      unlines p.lines ++ newline :: if p.terminated then [newline] else [] := by
  rw [← intercalate_newline p.filled]
  cases ended : p.terminated <;> simp [encode, terminator, payload, ended]

theorem allLines_payloads (ps : List Paragraph) :
    LineReader.allLines (ps.flatMap fun p => encode p.payload) = framed ps := by
  induction ps with
  | nil => simp [framed]
  | cons p rest ih =>
    rw [List.flatMap_cons, encode_payload, List.append_assoc,
      (lines_unlines p.whole p.plain _).2, List.cons_append, (lines_newline _).2]
    cases ended : p.terminated with
    | true =>
      simp only [if_true, List.singleton_append]
      rw [(lines_newline _).2, ih]
      simp [framed, ended]
    | false =>
      simp only [Bool.false_eq_true, if_false, List.nil_append]
      rw [ih]
      simp [framed, ended]

theorem messages_paragraphs (ps : List Paragraph) :
    messages none (LineReader.allLines (ps.flatMap fun p => encode p.payload)) = merged ps := by
  rw [allLines_payloads, messages_framed]

/-! ## How many messages -/

theorem length_joined_le (ps : List Paragraph) : (joined ps).length ≤ ps.length := by
  induction ps with
  | nil => exact Nat.le_refl 0
  | cons p rest ih =>
    rw [joined]
    split
    · next same =>
      rw [same] at ih
      simp only [List.length_cons] at ih ⊢
      omega
    · simpa using ih

/-- Each paragraph is a message of its own exactly if none but the last lacks its newline. -/
theorem length_merged_eq_iff (ps : List Paragraph) :
    (merged ps).length = ps.length ↔ ∀ p ∈ ps.dropLast, p.terminated = true := by
  rw [merged, List.length_map]
  induction ps with
  | nil => simp [joined]
  | cons p rest ih =>
    cases rest with
    | nil => cases ended : p.terminated <;> simp [joined, ended]
    | cons second others =>
      rw [List.dropLast_cons_of_ne_nil (List.cons_ne_nil second others), List.forall_mem_cons, ← ih]
      cases ended : p.terminated with
      | true => simp [joined_of_terminated ended]
      | false =>
        -- One message is lost by joining, and there are never more messages than paragraphs.
        obtain ⟨next, more, same⟩ := List.exists_cons_of_ne_nil (joined_ne_nil second others)
        have few := length_joined_le (second :: others)
        rw [joined_of_open ended same]
        rw [same] at few
        simp only [List.length_cons] at few ⊢
        constructor
        · intro many
          omega
        · rintro ⟨contra, -⟩
          cases contra

theorem merged_eq_of_terminated {ps : List Paragraph}
    (ended : ∀ p ∈ ps.dropLast, p.terminated = true) : merged ps = ps.map message := by
  rw [merged]
  induction ps with
  | nil => rfl
  | cons p rest ih =>
    cases rest with
    | nil => cases last : p.terminated <;> simp [joined, last, message_eq]
    | cons second others =>
      rw [List.dropLast_cons_of_ne_nil (List.cons_ne_nil second others), List.forall_mem_cons] at ended
      rw [joined_of_terminated ended.1, List.map_cons, ih ended.2, ← message_eq, ← List.map_cons]

/-- Exactly then each of them is read as itself, with the newline that the last one may lack. -/
theorem merged_eq_iff (ps : List Paragraph) :
    merged ps = ps.map message ↔ ∀ p ∈ ps.dropLast, p.terminated = true := by
  refine ⟨fun same => (length_merged_eq_iff ps).mp ?_, merged_eq_of_terminated⟩
  rw [same, List.length_map]

end Paragraph

end Handover.Frame
