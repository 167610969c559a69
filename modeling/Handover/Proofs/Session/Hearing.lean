import Handover.Proofs.Frame.Stream
import Handover.Session.State

/-! What a worker hears. Between two answers the state of a worker that polls its connection holds what has
been received and not been reported; together with what is still to arrive it fixes all messages to come,
however the bytes are cut into chunks and whatever timeouts there are before the first line of a frame is
whole. -/

set_option autoImplicit false

namespace Handover

/-! ## Arrivals -/

def Arrival.bytes : Arrival → Bytes
  | .chunk bytes => bytes
  | .fault _ => []

namespace Inlet

def bytes (inlet : Inlet) : Bytes := inlet.held ++ inlet.arrivals.flatMap Arrival.bytes

end Inlet

/-- Arrivals that come after some bytes and leave a frame unharmed: no chunk is empty, and a fault is a
timeout, at a moment when the first line of a frame is awaited. -/
def Calm (frame : Option Frame.Decoder) (earlier : Bytes) : List Arrival → Prop
  | [] => True
  | .chunk bytes :: rest => bytes ≠ [] ∧ Calm frame (earlier ++ bytes) rest
  | .fault f :: rest =>
      f.isTimeout = true ∧ Frame.after frame (LineReader.lines earlier) = none ∧ Calm frame earlier rest

namespace Inlet

inductive Receives (inlet : Inlet) (limit : Nat) : Except Fault Bytes → Inlet → Prop where
  /-- Some of the bytes that are there. -/
  | some {chunk left : Bytes} {rest : List Arrival} : chunk ≠ [] →
      (inlet.held = chunk ++ left ∧ inlet.arrivals = rest ∨
        inlet.held = [] ∧ inlet.arrivals = .chunk (chunk ++ left) :: rest) →
      Receives inlet limit (.ok chunk) ⟨left, rest, inlet.calls + 1⟩
  | ended : inlet.held = [] → inlet.arrivals = [] →
      Receives inlet limit (.ok []) { inlet with calls := inlet.calls + 1 }
  | fault {f : Fault} {rest : List Arrival} : inlet.held = [] → inlet.arrivals = .fault f :: rest →
      Receives inlet limit (.error f) ⟨[], rest, inlet.calls + 1⟩

theorem receives {inlet : Inlet} {frame : Option Frame.Decoder} {earlier : Bytes}
    (calm : Calm frame earlier inlet.arrivals) {limit : Nat} (positive : 0 < limit) :
    Receives inlet limit (inlet.receive limit).1 (inlet.receive limit).2 := by
  obtain ⟨held, arrivals, calls⟩ := inlet
  have taken {bytes : Bytes} (filled : bytes ≠ []) : bytes.take limit ≠ [] := by
    cases bytes with
    | nil => exact absurd rfl filled
    | cons first rest =>
      obtain ⟨more, rfl⟩ := Nat.exists_eq_succ_of_ne_zero (Nat.pos_iff_ne_zero.mp positive)
      simp
  match held, arrivals with
  | [], [] => exact .ended rfl rfl
  | [], .fault f :: rest => exact .fault rfl rfl
  | [], .chunk bytes :: rest =>
    exact .some (taken calm.1) (.inr ⟨rfl, by rw [List.take_append_drop]⟩)
  | first :: rest, arrivals =>
    exact .some (taken (List.cons_ne_nil first rest)) (.inl ⟨by rw [List.take_append_drop], rfl⟩)

end Inlet

theorem Calm.continues {frame next : Option Frame.Decoder} {r rest : LineReader} {out : List Bytes}
    (continues : r.Continues frame out next rest) (live : r.ended = false) {more : Bytes}
    {arrivals : List Arrival} (calm : Calm frame (r.buffer ++ more) arrivals) :
    Calm next (rest.buffer ++ more) arrivals := by
  induction arrivals generalizing more with
  | nil => trivial
  | cons first others ih =>
    cases first with
    | chunk bytes =>
      obtain ⟨filled, calm⟩ := calm
      rw [List.append_assoc] at calm
      exact ⟨filled, by rw [List.append_assoc]; exact ih calm⟩
    | fault f =>
      obtain ⟨late, between, calm⟩ := calm
      exact ⟨late, (continues.after live more).symm.trans between, ih calm⟩

namespace Session

/-! ## What is still to be reported -/

/-- What a worker has received and not reported: the frame that is open, the bytes in its reader, and a
message that is complete. -/
structure View where
  frame : Option Frame.Decoder
  reader : LineReader
  ready : Option Bytes

/-- What a worker that waits at a point has received and not reported, once the connection is secured. -/
@[simp] def Point.view : Point → Option View
  | .namingPeer _ | .reportingPeer _ _ => some ⟨none, .start, none⟩
  | .timingLink link | .timingWrite link _ | .writing link _ | .timingAfterWrite link _
  | .reportingWrite link _ | .receiving link | .reportingMessage link _ =>
      some ⟨none, link.reader, none⟩
  | .timingFrame link first => some ⟨some (Frame.Decoder.start.take first), link.reader, none⟩
  | .receivingFrame link frame => some ⟨some frame, link.reader, none⟩
  | .timingAfterFrame link message => some ⟨none, link.reader, some message⟩
  | _ => none

/-- The messages heard, with those to come out of the view and the arrivals, are all there are. -/
structure Hears (v : View) (inlet : Inlet) (heard all : List Bytes) : Prop where
  rest : heard ++ v.ready.toList ++
    Frame.messages v.frame (LineReader.allLines (v.reader.buffer ++ inlet.bytes)) = all
  spent : v.reader.ended = true → inlet.held = [] ∧ inlet.arrivals = []
  unfinished : ∀ d ∈ v.frame, d.isComplete = false
  calm : Calm v.frame (v.reader.buffer ++ inlet.held) inlet.arrivals

def View.load (v : View) (inlet : Inlet) : Nat := v.reader.buffered + 2 * v.reader.toReceive inlet

namespace Hears

variable {frame next : Option Frame.Decoder} {r rest : LineReader} {inlet : Inlet}
  {heard all : List Bytes}

theorem continues (hears : Hears ⟨frame, r, none⟩ inlet heard all) (out : Option Bytes)
    (continues : r.Continues frame out.toList next rest)
    (unfinished : ∀ d ∈ next, d.isComplete = false) : Hears ⟨next, rest, out⟩ inlet heard all where
  rest := by
    have spent : r.ended = true → inlet.bytes = [] := by
      intro ended
      obtain ⟨held, arrivals⟩ := hears.spent ended
      simp [Inlet.bytes, held, arrivals]
    have all := hears.rest
    rw [continues.messages _ spent] at all
    simpa using all
  spent := fun ended => hears.spent (continues.ended.symm.trans ended)
  unfinished := unfinished
  calm := by
    cases ended : r.ended with
    | true => simp [(hears.spent ended).2, Calm]
    | false => exact hears.calm.continues continues ended

theorem report {m : Bytes} (hears : Hears ⟨none, r, some m⟩ inlet heard all) :
    Hears ⟨none, r, none⟩ inlet (heard ++ [m]) all :=
  { hears with rest := by simpa using hears.rest }

theorem finished (hears : Hears ⟨none, r, none⟩ inlet heard all) (finished : r.next = .finished) :
    heard = all := by
  obtain ⟨empty, ended⟩ := LineReader.eq_of_finished finished
  obtain ⟨held, arrivals⟩ := hears.spent ended
  simpa [empty, Inlet.bytes, held, arrivals, Frame.messages] using hears.rest

theorem receive {ready : Option Bytes} (hears : Hears ⟨frame, r, ready⟩ inlet heard all)
    (starved : r.next = .starved) {chunk : Bytes} {after : Inlet}
    (received : inlet.Receives LineReader.chunkLimit (.ok chunk) after) :
    Hears ⟨frame, r.receive chunk, ready⟩ after heard all ∧
      (View.mk frame (r.receive chunk) ready).load after < (View.mk frame r ready).load inlet := by
  obtain ⟨rest, spent, unfinished, calm⟩ := hears
  have live := LineReader.not_ended_of_starved starved
  cases received with
  | @some _ left others filled split =>
    have shape : r.receive chunk = { r with buffer := r.buffer ++ chunk } := by
      simp [LineReader.receive, filled]
    have size : 0 < chunk.length := List.length_pos_iff.mpr filled
    rw [shape]
    -- The chunk is the beginning of the bytes held, or of the next arrival.
    obtain ⟨held, rfl⟩ | ⟨held, arrivals⟩ := split
    · refine ⟨⟨?_, by simp [live], unfinished, ?_⟩, ?_⟩
      · simpa [Inlet.bytes, held] using rest
      · simpa [held] using calm
      · simp only [View.load, LineReader.buffered, LineReader.toReceive, Inlet.weight, held,
          List.length_append]
        omega
    · refine ⟨⟨?_, by simp [live], unfinished, ?_⟩, ?_⟩
      · simpa [Inlet.bytes, held, arrivals, Arrival.bytes] using rest
      · rw [arrivals] at calm
        simpa [held] using calm.2
      · simp only [View.load, LineReader.buffered, LineReader.toReceive, Inlet.weight, held, arrivals,
          List.foldr_cons, Arrival.weight, List.length_append]
        omega
  | ended held arrivals =>
    have shape : r.receive [] = { r with ended := true } := rfl
    rw [shape]
    refine ⟨⟨rest, fun _ => ⟨held, arrivals⟩, unfinished, calm⟩, ?_⟩
    simp [View.load, LineReader.buffered, LineReader.toReceive, Inlet.weight, live]

theorem idle {ready : Option Bytes} (hears : Hears ⟨frame, r, ready⟩ inlet heard all)
    (starved : r.next = .starved) {f : Fault} {after : Inlet}
    (received : inlet.Receives LineReader.chunkLimit (.error f) after) :
    f.isTimeout = true ∧ frame = none ∧ Hears ⟨frame, r, ready⟩ after heard all ∧
      (View.mk frame r ready).load after < (View.mk frame r ready).load inlet := by
  obtain ⟨rest, spent, unfinished, calm⟩ := hears
  have live := LineReader.not_ended_of_starved starved
  cases received with
  | @fault _ others held arrivals =>
    rw [arrivals] at calm
    obtain ⟨late, between, calm⟩ := calm
    -- Without a whole line in the buffer no frame was opened or completed by what is there.
    have piece := LineReader.lines_of_piece (LineReader.notMem_of_starved starved)
    refine ⟨late, ?_, ⟨?_, by simp [live], unfinished, ?_⟩, ?_⟩
    · simpa [held, piece, Frame.after] using between
    · simpa [Inlet.bytes, held, arrivals, Arrival.bytes] using rest
    · simpa [held] using calm
    · simp [View.load, LineReader.toReceive, Inlet.weight, held, arrivals, Arrival.weight]

end Hears

end Session

end Handover
