import Handover.Frame
import Handover.Inlet

/-! Lines out of received chunks. A line ends with a newline, a carriage return before it is
dropped, and what follows the last newline is a line of its own once the stream has ended. A fault
while receiving leaves what was received in place. -/

set_option autoImplicit false

namespace Handover

structure LineReader where
  buffer : Bytes
  ended : Bool
  deriving DecidableEq, Repr

namespace LineReader

def start : LineReader := ⟨[], false⟩

def withoutReturn (line : Bytes) : Bytes :=
  if line.getLast? = some carriageReturn then line.dropLast else line

inductive Next where
  | line (bytes : Bytes) (rest : LineReader)
  | finished
  /-- No whole line is buffered: more must be received. -/
  | starved
  deriving DecidableEq, Repr

def splitLine (bytes : Bytes) : Option (Bytes × Bytes) :=
  match bytes.dropWhile (· != newline) with
  | [] => none
  | _ :: after => some (bytes.takeWhile (· != newline), after)

theorem eq_of_splitLine {bytes line after : Bytes} (found : splitLine bytes = some (line, after)) :
    bytes = line ++ newline :: after := by
  unfold splitLine at found
  split at found
  · cases found
  · next first rest kept =>
    have stop : first = newline := by
      have := List.head?_dropWhile_not (· != newline) bytes
      simpa [kept] using this
    simp only [Option.some.injEq, Prod.mk.injEq] at found
    obtain ⟨rfl, rfl⟩ := found
    rw [stop] at kept
    rw [← kept, List.takeWhile_append_dropWhile]

theorem length_splitLine {bytes line after : Bytes} (found : splitLine bytes = some (line, after)) :
    line.length + after.length + 1 = bytes.length := by
  simp [eq_of_splitLine found]; omega

def next (r : LineReader) : Next :=
  match splitLine r.buffer with
  | some (line, rest) => .line (withoutReturn line) { r with buffer := rest }
  | none =>
      if r.ended then
        if r.buffer.isEmpty then .finished
        else .line (withoutReturn r.buffer) { r with buffer := [] }
      else .starved

/-- An empty chunk is the end of the stream. -/
def receive (r : LineReader) (chunk : Bytes) : LineReader :=
  if chunk.isEmpty then { r with ended := true } else { r with buffer := r.buffer ++ chunk }

def buffered (r : LineReader) : Nat := r.buffer.length

/-- Every line given out makes the buffer shorter. -/
theorem buffered_of_next {r rest : LineReader} {line : Bytes} (given : r.next = .line line rest) :
    rest.buffered < r.buffered := by
  unfold next at given
  split at given
  · next parts found =>
    have := length_splitLine found
    simp only [Next.line.injEq] at given
    obtain ⟨-, rfl⟩ := given
    simp only [buffered]; omega
  · split at given
    · split at given
      · cases given
      · next some_left =>
        simp only [Next.line.injEq] at given
        obtain ⟨-, rfl⟩ := given
        cases h : r.buffer <;> simp_all [buffered]
    · cases given

theorem ended_of_next {r rest : LineReader} {line : Bytes} (given : r.next = .line line rest) :
    rest.ended = r.ended := by
  unfold next at given
  split at given
  · cases given; rfl
  · split at given
    · split at given
      · cases given
      · cases given; rfl
    · cases given

theorem not_ended_of_starved {r : LineReader} (starved : r.next = .starved) : r.ended = false := by
  unfold next at starved
  split at starved
  · cases starved
  · split at starved
    · split at starved <;> cases starved
    · simp_all

/-- Where reading the lines of a frame comes to: the message, or a frame that is still open when
more must be received. -/
inductive Gathered where
  | message (bytes : Bytes) (rest : LineReader)
  | starved (frame : Frame.Decoder) (rest : LineReader)
  deriving DecidableEq, Repr

/-- Feeds the buffered lines to a frame until it is complete or the buffer has no more of them. -/
def gather (d : Frame.Decoder) (r : LineReader) : Gathered :=
  if d.isComplete then .message d.message r
  else match _given : r.next with
    | .line line rest => gather (d.take line) rest
    | .finished => .message d.message r
    | .starved => .starved d r
termination_by r.buffered
decreasing_by exact buffered_of_next _given

theorem not_ended_of_gather {d frame : Frame.Decoder} {r rest : LineReader}
    (starved : gather d r = .starved frame rest) : rest.ended = false := by
  fun_induction gather d r with
  | case1 => cases starved
  | case2 _ _ _ _ _ _ ih => exact ih starved
  | case3 => cases starved
  | case4 d r _ given => cases starved; exact not_ended_of_starved given

theorem ended_of_gather {d frame : Frame.Decoder} {r rest : LineReader}
    (starved : gather d r = .starved frame rest) : r.ended = rest.ended := by
  fun_induction gather d r with
  | case1 => cases starved
  | case2 d r _ line next given ih => rw [← ih starved, ended_of_next given]
  | case3 => cases starved
  | case4 d r _ given => cases starved; rfl

/-- At most this many bytes are asked for at a time. -/
def chunkLimit : Nat := 4096

/-- What is left to do before a stream is used up. -/
def toReceive (r : LineReader) (inlet : Inlet) : Nat :=
  inlet.weight + if r.ended then 0 else 1

theorem toReceive_receive {r : LineReader} {inlet after : Inlet} {chunk : Bytes}
    (live : r.ended = false) (got : inlet.receive chunkLimit = (.ok chunk, after)) :
    (r.receive chunk).toReceive after < r.toReceive inlet := by
  have used := inlet.weight_receive chunkLimit (by decide)
  have same := inlet.weight_receive_le chunkLimit
  rw [got] at used same
  simp only [Except.ok.injEq] at used same
  cases chunk with
  | nil =>
    simp only [toReceive, receive, List.isEmpty_nil, live, if_true, Bool.false_eq_true, if_false]
    omega
  | cons first rest =>
    have less : after.weight < inlet.weight := by simpa using used
    simp only [toReceive, receive, List.isEmpty_cons, Bool.false_eq_true, if_false, live]
    omega

/-- Receives until there is a line, the stream has ended, or receiving fails. -/
def readLine (r : LineReader) (inlet : Inlet) : Frame.LineOutcome × LineReader × Inlet :=
  match _asked : r.next with
  | .line line rest => (.ok (some line), rest, inlet)
  | .finished => (.ok none, r, inlet)
  | .starved =>
      match _got : inlet.receive chunkLimit with
      | (.error f, after) => (.error f, r, after)
      | (.ok chunk, after) => readLine (r.receive chunk) after
termination_by r.toReceive inlet
decreasing_by exact toReceive_receive (not_ended_of_starved _asked) _got

/-- Receives until a frame is complete. A timeout completes a frame that a blank line has ended. -/
def readFrame (d : Frame.Decoder) (r : LineReader) (inlet : Inlet) :
    Except Fault Bytes × LineReader × Inlet :=
  match _reached : gather d r with
  | .message bytes rest => (.ok bytes, rest, inlet)
  | .starved frame rest =>
      match _got : inlet.receive chunkLimit with
      | (.error f, after) =>
          (if f.isTimeout && frame.endsInSilence then .ok frame.message else .error f, rest, after)
      | (.ok chunk, after) => readFrame frame (rest.receive chunk) after
termination_by r.toReceive inlet
decreasing_by
  have same : r.toReceive inlet = rest.toReceive inlet := by
    simp only [toReceive, ended_of_gather _reached]
  rw [same]
  exact toReceive_receive (not_ended_of_gather _reached) _got

/-- A line, then the frame that begins with it; nothing at the end of the stream. -/
def nextFrame (r : LineReader) (inlet : Inlet) : Frame.LineOutcome × LineReader × Inlet :=
  match r.readLine inlet with
  | (.ok (some first), rest, after) =>
      match readFrame (Frame.Decoder.start.take first) rest after with
      | (.ok message, last, final) => (.ok (some message), last, final)
      | (.error f, last, final) => (.error f, last, final)
  | none_or_fault => none_or_fault

end LineReader

end Handover
