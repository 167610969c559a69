import Handover.Proofs.Frame.Paragraph
import Handover.Proofs.Session.Conversation

/-! The receiving side of a session. The frames of payloads arrive in any chunks, with timeouts while the
first line of a frame is awaited; what the session reports is read off the payloads alone. Payloads whose
last line is not ended are reported as they were sent only if nothing follows them. -/

set_option autoImplicit false

namespace Handover

open Handover.Frame

/-- Arrivals that carry frames one after another, cut anywhere. A fault is a timeout between two frames or
inside the first line of one. -/
structure Delivers (arrivals : List Arrival) (payloads : List Bytes) : Prop where
  bytes : arrivals.flatMap Arrival.bytes = payloads.flatMap encode
  filled : ∀ bytes, .chunk bytes ∈ arrivals → bytes ≠ []
  timeouts : ∀ earlier f later, arrivals = earlier ++ .fault f :: later → f.isTimeout = true ∧
    ∃ j piece, newline ∉ piece ∧
      earlier.flatMap Arrival.bytes = (payloads.take j).flatMap encode ++ piece

theorem calm_of_timeouts {frame : Option Decoder} {earlier : Bytes} {arrivals : List Arrival}
    (filled : ∀ bytes, .chunk bytes ∈ arrivals → bytes ≠ [])
    (timeouts : ∀ before f later, arrivals = before ++ .fault f :: later → f.isTimeout = true ∧
      after frame (LineReader.lines (earlier ++ before.flatMap Arrival.bytes)) = none) :
    Calm frame earlier arrivals := by
  -- What has arrived moves from the arrivals to the earlier bytes.
  induction arrivals generalizing earlier with
  | nil => trivial
  | cons first others ih =>
    have rest {bytes : Bytes} (same : first.bytes = bytes) : Calm frame (earlier ++ bytes) others := by
      refine ih (fun chunk member => filled chunk (List.mem_cons_of_mem _ member)) ?_
      rintro before f later rfl
      simpa [same] using timeouts (first :: before) f later rfl
    cases first with
    | chunk bytes => exact ⟨filled bytes List.mem_cons_self, rest rfl⟩
    | fault f =>
      obtain ⟨late, between⟩ := timeouts [] f others rfl
      have later : Calm frame (earlier ++ []) others := rest rfl
      rw [List.append_nil] at later
      exact ⟨late, by simpa using between, later⟩

theorem bytes_chunks (chunks : List Bytes) :
    (chunks.map Arrival.chunk).flatMap Arrival.bytes = chunks.flatten := by
  rw [List.flatMap_map]
  exact List.flatMap_id'

theorem calm_chunks {chunks : List Bytes} (filled : ∀ chunk ∈ chunks, chunk ≠ []) :
    Calm none [] (chunks.map .chunk) := by
  refine calm_of_timeouts ?_ ?_
  · intro bytes member
    exact filled bytes (by simpa using member)
  · intro before f later split
    have member : Arrival.fault f ∈ chunks.map .chunk := by simp [split]
    simp at member

theorem Delivers.calm {arrivals : List Arrival} {payloads : List Bytes}
    (delivers : Delivers arrivals payloads) (canonical : ∀ p ∈ payloads, Canonical p) :
    Calm none [] arrivals := by
  refine calm_of_timeouts delivers.filled fun before f later split => ?_
  obtain ⟨late, j, piece, unfinished, same⟩ := delivers.timeouts before f later split
  rw [List.nil_append, same]
  exact ⟨late, after_payloads (fun p member => canonical p (List.mem_of_mem_take member)) unfinished⟩

namespace Session

/-- Canonical payloads are reported one by one as they were sent, then the loss of the connection, whatever
the session is given to send meanwhile. -/
theorem receives_canonical {plan : Plan} {setup : List Move} {socket : Socket}
    {arrivals : List Arrival} {payloads : List Bytes}
    (secured : (plan.session.history setup).session.point = .namingPeer socket)
    (unclosed : .close ∉ setup) (canonical : ∀ p ∈ payloads, Canonical p)
    (delivers : Delivers arrivals payloads) (peer : String) (sends : Nat → List Pending) :
    ∃ n, Ended (converse peer sends ⟨plan.session.history setup, .ofArrivals arrivals⟩ n) payloads := by
  have ends := converse_ends secured unclosed (delivers.calm canonical) peer sends
  rwa [delivers.bytes, messages_payloads canonical] at ends

def dialled : List Move := [.start, .run, .answer .done, .answer (.connection .secured)]

theorem receives_canonical_pair :
    let plan : Plan := .connector ⟨"10.0.0.9", 1336, ⟨List.replicate 16 0, rfl⟩⟩ .default false none
    let arrivals : List Arrival :=
      [.chunk [10, 10, 97], .fault ⟨.timeout, "timed out"⟩, .chunk [10, 10, 10]]
    ∃ n, Ended (converse "10.0.0.2" (fun _ => [⟨[98], .nothing⟩])
      ⟨plan.session.history dialled, .ofArrivals arrivals⟩ n) [[], [97, 10]] := by
  intro plan arrivals
  have canonical : ∀ p ∈ [[], [97, 10]], Canonical p := by
    intro p member
    obtain rfl | rfl : p = [] ∨ p = [97, 10] := by simpa using member
    · exact ⟨[], .nil, rfl⟩
    · exact ⟨[[97]], ⟨by decide, by decide, by decide, by decide, .singleton _⟩, rfl⟩
  have delivers : Delivers arrivals [[], [97, 10]] := by
    refine ⟨rfl, by simp [arrivals], fun earlier f later split => ?_⟩
    match earlier, split with
    | [first], split =>
      obtain ⟨rfl, rfl, rfl⟩ : first = .chunk [10, 10, 97] ∧ f = ⟨.timeout, "timed out"⟩ ∧
          later = [.chunk [10, 10, 10]] := by simpa [arrivals, eq_comm] using split
      exact ⟨rfl, 1, [97], by decide, rfl⟩
    | [], split => simp [arrivals] at split
    | [_, _], split => simp [arrivals] at split
    | _ :: _ :: _ :: _, split => simp [arrivals] at split
  exact receives_canonical rfl (by simp [dialled]) canonical delivers "10.0.0.2" _

/-- Payloads of lines that are not blank are reported merged, and so they are reported one by one exactly if
none but the last lacks the newline at its end. -/
theorem receives_paragraphs {plan : Plan} {setup : List Move} {socket : Socket} {chunks : List Bytes}
    {ps : List Paragraph}
    (secured : (plan.session.history setup).session.point = .namingPeer socket)
    (unclosed : .close ∉ setup) (bytes : chunks.flatten = ps.flatMap fun p => encode p.payload)
    (filled : ∀ chunk ∈ chunks, chunk ≠ []) (peer : String) (sends : Nat → List Pending) :
    let talk := converse peer sends ⟨plan.session.history setup, .ofArrivals (chunks.map .chunk)⟩
    (∃ n, Ended (talk n) (Paragraph.merged ps)) ∧
      ((∃ n, Ended (talk n) (ps.map Paragraph.message)) ↔ ∀ p ∈ ps.dropLast, p.terminated = true) := by
  intro talk
  have ends : ∃ n, Ended (talk n) (Paragraph.merged ps) := by
    have ends := converse_ends secured unclosed (calm_chunks filled) peer sends
    rwa [bytes_chunks, bytes, Paragraph.messages_paragraphs] at ends
  refine ⟨ends, ?_⟩
  obtain ⟨n, merged⟩ := ends
  -- A conversation has one end, so the messages are those of the merged payloads.
  rw [← Paragraph.merged_eq_iff]
  constructor
  · rintro ⟨m, apart⟩
    exact merged.unique apart
  · intro same
    exact ⟨n, same ▸ merged⟩

/-- The frames of `a` and of `b` are together the frame of one payload with a blank line inside. -/
theorem paragraphs_run_together :
    let plan : Plan := .connector ⟨"10.0.0.9", 1336, ⟨List.replicate 16 0, rfl⟩⟩ .default false none
    let talk := converse "10.0.0.2" (fun _ => [])
      ⟨plan.session.history dialled, .ofArrivals [.chunk (encode [97] ++ encode [98])]⟩
    encode [97] ++ encode [98] = encode [97, 10, 10, 98] ∧ ¬ ∃ n, Ended (talk n) [[97, 10], [98, 10]] := by
  intro plan talk
  refine ⟨rfl, fun ⟨n, apart⟩ => ?_⟩
  let ps : List Paragraph :=
    [⟨[[97]], false, by decide, by decide, by decide, by decide⟩,
      ⟨[[98]], false, by decide, by decide, by decide, by decide⟩]
  have secured : (plan.session.history dialled).session.point = .namingPeer .secured := rfl
  have calm : Calm none [] [.chunk (encode [97] ++ encode [98])] :=
    @calm_chunks [encode [97] ++ encode [98]] (by simp [encode])
  obtain ⟨m, together⟩ := converse_ends secured (by simp [dialled]) calm "10.0.0.2" fun _ => []
  have reported : Frame.messages none (LineReader.allLines (encode [97] ++ encode [98])) =
      [[97, 10, 10, 98, 10]] := Paragraph.messages_paragraphs ps
  have same := apart.unique together
  simp only [List.flatMap_cons, List.flatMap_nil, Arrival.bytes, List.append_nil, reported] at same
  cases same

/-- Two lines without newlines at their ends are reported as one message. -/
theorem receives_paragraphs_pair :
    let plan : Plan := .connector ⟨"10.0.0.9", 1336, ⟨List.replicate 16 0, rfl⟩⟩ .default false none
    let talk := converse "10.0.0.2" (fun _ => [])
      ⟨plan.session.history dialled, .ofArrivals [.chunk [97, 10, 10, 98, 10, 10]]⟩
    (∃ n, Ended (talk n) [[97, 10, 10, 98, 10]]) ∧ ¬ ∃ n, Ended (talk n) [[97, 10], [98, 10]] := by
  intro plan talk
  let ps : List Paragraph :=
    [⟨[[97]], false, by decide, by decide, by decide, by decide⟩,
      ⟨[[98]], false, by decide, by decide, by decide, by decide⟩]
  have secured : (plan.session.history dialled).session.point = .namingPeer .secured := rfl
  have bytes : List.flatten [[97, 10, 10, 98, 10, 10]] = ps.flatMap fun p => encode p.payload := rfl
  have reported := receives_paragraphs secured (by simp [dialled]) bytes (by simp) "10.0.0.2" fun _ => []
  exact ⟨reported.1, fun apart => absurd (reported.2.mp apart) (by simp [ps])⟩

end Session

end Handover
