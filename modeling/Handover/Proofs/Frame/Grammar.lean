import Handover.Proofs.Frame.Payload

/-! The grammar of a frame. Its lines are those before the first two blank ones in a row, or all that are read
before the stream ends or fails. A decoder asks for no line beyond them and leaves out a blank one at either
end. -/

set_option autoImplicit false

namespace Handover.Frame

/-- Of two lines in a row one at least is not blank. -/
def Spaced (lines : List Bytes) : Prop := lines.IsChain fun line next => line ≠ [] ∨ next ≠ []

def withoutFirstBlank : List Bytes → List Bytes
  | [] :: rest => rest
  | lines => lines

def withoutLastBlank (lines : List Bytes) : List Bytes :=
  if lines.getLast? = some [] then lines.dropLast else lines

/-- The message of lines among which no frame ends. -/
def unframed (lines : List Bytes) : Bytes := unlines (withoutLastBlank (withoutFirstBlank lines))

def said (lines : List Bytes) : List LineOutcome := lines.map fun line => .ok (some line)

/-- What reading a frame from its first line on comes to, and how often a line is asked for. -/
inductive Parses (first : Bytes) : List LineOutcome → Except Fault Bytes × Nat → Prop where
  /-- Two blank lines in a row end the frame, and nothing is asked for after them. -/
  | closed {lines before : List Bytes} (more : List LineOutcome) :
      first :: lines = before ++ [[], []] → Spaced (before ++ [[]]) →
      Parses first (said lines ++ more) (.ok (unlines (withoutFirstBlank before)), before.length + 1)
  | ended {lines : List Bytes} {more : List LineOutcome} :
      Spaced (first :: lines) → (∀ outcome ∈ more.head?, outcome = .ok none) →
      Parses first (said lines ++ more) (.ok (unframed (first :: lines)), (first :: lines).length)
  /-- A peer that falls silent after a blank line has ended the frame. -/
  | silent {lines : List Bytes} {f : Fault} (more : List LineOutcome) :
      Spaced (first :: lines) → f.isTimeout = true → (first :: lines).getLast? = some [] →
      Parses first (said lines ++ .error f :: more)
        (.ok (unframed (first :: lines)), (first :: lines).length)
  | failed {lines : List Bytes} {f : Fault} (more : List LineOutcome) :
      Spaced (first :: lines) → (f.isTimeout = true → (first :: lines).getLast? ≠ some []) →
      Parses first (said lines ++ .error f :: more) (.error f, (first :: lines).length)

/-! ## Lines -/

theorem spaced_singleton (line : Bytes) : Spaced [line] := .singleton _

theorem spaced_concat {lines : List Bytes} {line : Bytes} :
    Spaced (lines ++ [line]) ↔ Spaced lines ∧ (lines.getLast? = some [] → line ≠ []) := by
  have last : (∀ x ∈ lines.getLast?, ∀ y ∈ [line].head?, x ≠ [] ∨ y ≠ []) ↔
      (lines.getLast? = some [] → line ≠ []) := by
    cases lines.getLast? with
    | none => simp
    | some before =>
      simp only [Option.mem_some_iff, List.head?_cons, forall_eq', Option.some.injEq]
      exact Decidable.imp_iff_not_or.symm
  rw [Spaced, List.isChain_append, last]
  simp [Spaced]

theorem withoutFirstBlank_append {lines : List Bytes} (filled : lines ≠ []) (more : List Bytes) :
    withoutFirstBlank (lines ++ more) = withoutFirstBlank lines ++ more := by
  cases lines with
  | nil => exact absurd rfl filled
  | cons first rest => cases first <;> rfl

theorem unframed_concat_blank (lines : List Bytes) :
    unframed (lines ++ [[]]) = unlines (withoutFirstBlank lines) := by
  cases lines with
  | nil => rfl
  | cons first rest =>
    rw [unframed, withoutFirstBlank_append (List.cons_ne_nil first rest)]
    simp [withoutLastBlank]

theorem getLast?_withoutFirstBlank {lines : List Bytes} (several : lines ≠ [[]]) :
    (withoutFirstBlank lines).getLast? = lines.getLast? := by
  match lines with
  | [] => rfl
  | [[]] => exact absurd rfl several
  | [] :: second :: rest => exact (List.getLast?_cons_cons).symm
  | (_ :: _) :: _ => rfl

/-! ## The decoder -/

/-- A decoder has read lines among which no frame ends. -/
inductive Reads : Decoder → List Bytes → Prop where
  | blank : Reads (Decoder.start.take []) [[]]
  | solid {d : Decoder} {lines : List Bytes} : Holds d (withoutFirstBlank lines) → Reads d lines

theorem Holds.ne_nil {d : Decoder} {lines : List Bytes} (holds : Holds d lines) : lines ≠ [] := by
  rintro rfl
  have content := holds.content
  exact holds.begun (List.append_eq_nil_iff.mp content).2

theorem Holds.blanks_eq {d : Decoder} {lines : List Bytes} (holds : Holds d lines) :
    d.blanks = if lines.getLast? = some [] then 1 else 0 := by
  split
  · next last =>
    have few := holds.few
    have content := holds.content
    by_contra other
    have none : d.blanks = 0 := by omega
    rw [none, List.replicate_zero, List.nil_append] at content
    have solid := holds.solid
    rw [content, List.head?_reverse] at solid
    exact solid last
  · next last => exact holds.fresh last

theorem Holds.message_eq_unlines {d : Decoder} {lines : List Bytes} (holds : Holds d lines) :
    d.message = unlines (withoutLastBlank lines) := by
  have blanks := holds.blanks_eq
  have content := holds.content
  unfold withoutLastBlank
  split
  · next last =>
    rw [if_pos last] at blanks
    rw [blanks, ← List.dropLast_append_getLast? [] last] at content
    have shape : d.content = lines.dropLast.reverse := by simpa using content
    rw [Decoder.message, shape, List.reverse_reverse]
    rfl
  · next last => exact holds.message_eq last

namespace Reads

variable {d : Decoder} {lines : List Bytes}

theorem start (line : Bytes) : Reads (Decoder.start.take line) [line] := by
  cases line with
  | nil => exact .blank
  | cons byte rest => exact .solid (Holds.start (List.cons_ne_nil byte rest))

theorem isComplete (reads : Reads d lines) : d.isComplete = false := by
  cases reads with
  | blank => rfl
  | solid holds => exact holds.isComplete

theorem ne_nil (reads : Reads d lines) : lines ≠ [] := by
  cases reads with
  | blank => exact List.cons_ne_nil _ _
  | solid holds =>
    rintro rfl
    exact holds.ne_nil rfl

theorem blanks_eq (reads : Reads d lines) :
    d.blanks = if lines.getLast? = some [] then 1 else 0 := by
  cases reads with
  | blank => rfl
  | solid holds =>
    have several : lines ≠ [[]] := by
      rintro rfl
      exact holds.ne_nil rfl
    rw [holds.blanks_eq, getLast?_withoutFirstBlank several]

theorem message_eq (reads : Reads d lines) : d.message = unframed lines := by
  cases reads with
  | blank => rfl
  | solid holds => exact holds.message_eq_unlines

theorem endsInSilence_iff (reads : Reads d lines) :
    d.endsInSilence = true ↔ lines.getLast? = some [] := by
  rw [Decoder.endsInSilence, reads.blanks_eq]
  split <;> simp [*]

theorem take (reads : Reads d lines) {line : Bytes} (spaced : Spaced (lines ++ [line])) :
    Reads (d.take line) (lines ++ [line]) := by
  have after := (spaced_concat.mp spaced).2
  cases reads with
  | blank =>
    have solid : line ≠ [] := after rfl
    have same : (Decoder.start.take []).take line = Decoder.start.take line := by
      simp [Decoder.take, Decoder.start, solid]
    rw [same]
    exact .solid (Holds.start solid)
  | solid holds =>
    have filled : lines ≠ [] := Reads.ne_nil (.solid holds)
    refine .solid ?_
    rw [withoutFirstBlank_append filled]
    by_cases blank : line = []
    · subst blank
      have fresh : d.blanks = 0 := by
        rw [Reads.blanks_eq (.solid holds), if_neg fun last => after last rfl]
      exact holds.blank_line fresh
    · exact (holds.solid_line blank).1

/-- A blank line after a blank one ends the frame. -/
theorem take_blank (reads : Reads d lines) (last : lines.getLast? = some []) :
    (d.take []).isComplete = true := by
  rw [Decoder.take_blank, Decoder.isComplete, reads.blanks_eq, if_pos last]
  rfl

theorem follow (reads : Reads d lines) (more : List Bytes) (spaced : Spaced (lines ++ more)) :
    ∃ e : Decoder, Reads e (lines ++ more) ∧ ∀ asked outcomes,
      Frame.follow d asked (said more ++ outcomes) = Frame.follow e (asked + more.length) outcomes := by
  -- Along the lines, each of which is read in turn.
  induction more generalizing d lines with
  | nil => exact ⟨d, by simpa using reads, fun _ _ => rfl⟩
  | cons line others ih =>
    rw [List.append_cons] at *
    have here : Spaced (lines ++ [line]) := (List.isChain_append.mp spaced).1
    obtain ⟨e, read, follows⟩ := ih (reads.take here) spaced
    refine ⟨e, read, fun asked outcomes => ?_⟩
    have next := follow_line reads.isComplete asked line (said others ++ outcomes)
    rw [show said (line :: others) ++ outcomes = .ok (some line) :: (said others ++ outcomes) from rfl,
      next, follows, List.length_cons]
    congr 1
    omega

end Reads

theorem Parses.decode {first : Bytes} {outcomes : List LineOutcome} {result : Except Fault Bytes × Nat}
    (parses : Parses first outcomes result) : decode first outcomes = result := by
  have opens := Reads.start first
  rw [Frame.decode]
  cases parses with
  | @closed lines before more shape spaced =>
    -- All lines but the last are read, and that one completes the frame.
    obtain ⟨middle, rfl⟩ : ∃ middle, lines = middle ++ [[]] := by
      cases before with
      | nil => exact ⟨[], (List.cons.inj shape).2⟩
      | cons head tail => exact ⟨tail ++ [[]], by simpa using (List.cons.inj shape).2⟩
    have inner : first :: middle = before ++ [[]] := by
      have same : (first :: middle) ++ [[]] = (before ++ [[]]) ++ [[]] := by simpa using shape
      exact List.append_cancel_right same
    have blank : (first :: middle).getLast? = some [] := by rw [inner]; simp
    rw [← inner] at spaced
    obtain ⟨e, reads, follows⟩ := opens.follow middle spaced
    have split : said (middle ++ [[]]) ++ more = said middle ++ .ok (some []) :: more := by simp [said]
    rw [split, follows, follow_line reads.isComplete, follow_complete (reads.take_blank blank),
      Decoder.message_take_blank, reads.message_eq, List.singleton_append, inner, unframed_concat_blank]
    have count := congrArg List.length inner
    simp only [List.length_cons, List.length_append, List.length_nil] at count
    simp only [Prod.mk.injEq, true_and]
    omega
  | @ended lines more spaced none =>
    obtain ⟨e, reads, follows⟩ := opens.follow lines spaced
    rw [follows]
    have last : Frame.follow e (0 + lines.length) more = (.ok e.message, 0 + lines.length + 1) := by
      unfold Frame.follow
      rw [reads.isComplete]
      cases more with
      | nil => rfl
      | cons outcome rest =>
        obtain rfl := none outcome rfl
        rfl
    rw [last, reads.message_eq, Nat.zero_add]
    rfl
  | @silent lines f more spaced late last =>
    obtain ⟨e, reads, follows⟩ := opens.follow lines spaced
    rw [follows, Frame.follow, reads.isComplete, late, reads.endsInSilence_iff.mpr last,
      reads.message_eq, Nat.zero_add]
    rfl
  | @failed lines f more spaced other =>
    obtain ⟨e, reads, follows⟩ := opens.follow lines spaced
    have stays : (f.isTimeout && e.endsInSilence) = false := by
      rw [Bool.and_eq_false_iff]
      by_contra both
      push Not at both
      simp only [ne_eq, Bool.not_eq_false] at both
      exact other both.1 (reads.endsInSilence_iff.mp both.2)
    rw [follows, Frame.follow, reads.isComplete, stays, Nat.zero_add]
    rfl

/-- The grammar covers whatever asking for lines meets. -/
theorem exists_parses {first : Bytes} {lines : List Bytes} (spaced : Spaced (first :: lines))
    (outcomes : List LineOutcome) : ∃ result, Parses first (said lines ++ outcomes) result := by
  induction outcomes generalizing lines with
  | nil => exact ⟨_, .ended spaced nofun⟩
  | cons outcome rest ih =>
    match outcome with
    | .ok none => exact ⟨_, .ended spaced (by simp)⟩
    | .error f =>
      by_cases silent : f.isTimeout = true ∧ (first :: lines).getLast? = some []
      · exact ⟨_, .silent rest spaced silent.1 silent.2⟩
      · exact ⟨_, .failed rest spaced fun late last => silent ⟨late, last⟩⟩
    | .ok (some line) =>
      have said_concat : said lines ++ .ok (some line) :: rest = said (lines ++ [line]) ++ rest := by
        simp [said]
      rw [said_concat]
      by_cases ends : (first :: lines).getLast? = some [] ∧ line = []
      · obtain ⟨last, rfl⟩ := ends
        have shape : first :: lines = (first :: lines).dropLast ++ [[]] :=
          (List.dropLast_append_getLast? [] last).symm
        have whole : first :: (lines ++ [[]]) = (first :: lines).dropLast ++ [[], []] := by
          rw [← List.cons_append, shape]
          simp
        exact ⟨_, .closed rest whole (shape ▸ spaced)⟩
      · have spaced : Spaced (first :: (lines ++ [line])) := by
          rw [← List.cons_append]
          exact spaced_concat.mpr ⟨spaced, fun last blank => ends ⟨last, blank⟩⟩
        exact ih spaced

/-- Decoding a frame is reading it by its grammar, with no line asked for in vain. -/
theorem decode_eq_iff (first : Bytes) (outcomes : List LineOutcome) (result : Except Fault Bytes × Nat) :
    decode first outcomes = result ↔ Parses first outcomes result := by
  constructor
  · rintro rfl
    obtain ⟨result, parses⟩ := exists_parses (spaced_singleton first) outcomes
    obtain rfl := parses.decode
    exact parses
  · exact Parses.decode

end Handover.Frame
