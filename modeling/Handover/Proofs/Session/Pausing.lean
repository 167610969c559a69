import Handover.Proofs.Frame.Surplus
import Handover.Proofs.Session.Inbound
import Handover.Proofs.Session.Trailing

/-! Pauses of the peer. A timeout that comes after a surplus newline is to the worker what a blank line
would be: the conversation goes on as if one had arrived. So the surplus newline of a payload is dropped
only if more content follows at once, and reported as an empty message otherwise. -/

set_option autoImplicit false

namespace Handover

open Handover.Frame

/-! ## Silence in place of a blank line -/

/-- Whatever is still to come is read as between two frames, or as after a surplus newline. -/
def Rests (frame : Option Decoder) (earlier : Bytes) (surplus : Bool) : Prop := ∀ future,
  after frame (LineReader.lines (earlier ++ future)) = after (leftOpen surplus) (LineReader.lines future)

theorem Rests.after_eq {frame : Option Decoder} {earlier : Bytes} (rests : Rests frame earlier false) :
    after frame (LineReader.lines earlier) = none := by
  have now := rests []
  rwa [List.append_nil, LineReader.lines_of_piece List.not_mem_nil] at now

/-- A blank line completes the frame that the surplus newline has opened. -/
theorem Rests.filled {frame : Option Decoder} {earlier : Bytes} (rests : Rests frame earlier true) :
    Rests frame (earlier ++ [newline]) false := by
  intro future
  rw [List.append_assoc, rests]
  exact (messages_leftOpen_newline future).2

/-- The second arrivals are the first ones, but that blank lines stand for some of the timeouts after
surplus newlines. -/
inductive Fills (frame : Option Decoder) : Bytes → List Arrival → List Arrival → Prop where
  | nil {earlier : Bytes} : Fills frame earlier [] []
  | chunk {earlier bytes : Bytes} {as bs : List Arrival} : bytes ≠ [] →
      Fills frame (earlier ++ bytes) as bs → Fills frame earlier (.chunk bytes :: as) (.chunk bytes :: bs)
  | idle {earlier : Bytes} {f : Fault} {as bs : List Arrival} : f.isTimeout = true →
      after frame (LineReader.lines earlier) = none → Fills frame earlier as bs →
      Fills frame earlier (.fault f :: as) (.fault f :: bs)
  | fill {earlier : Bytes} {f : Fault} {as bs : List Arrival} : f.isTimeout = true →
      Rests frame earlier true → Fills frame (earlier ++ [newline]) as bs →
      Fills frame earlier (.fault f :: as) (.chunk [newline] :: bs)

namespace Fills

variable {frame : Option Decoder} {earlier : Bytes} {as bs : List Arrival}

theorem calm (fills : Fills frame earlier as bs) : Calm frame earlier bs := by
  induction fills with
  | nil => trivial
  | chunk filled _ ih => exact ⟨filled, ih⟩
  | idle late between _ ih => exact ⟨late, between, ih⟩
  | fill _ _ _ ih => exact ⟨List.cons_ne_nil _ _, ih⟩

theorem chunks {chunks : List Bytes} (filled : ∀ chunk ∈ chunks, chunk ≠ [])
    (fills : Fills frame (earlier ++ chunks.flatten) as bs) :
    Fills frame earlier (chunks.map .chunk ++ as) (chunks.map .chunk ++ bs) := by
  induction chunks generalizing earlier with
  | nil => rwa [List.flatten_nil, List.append_nil] at fills
  | cons first others ih =>
    rw [List.flatten_cons, ← List.append_assoc] at fills
    exact .chunk (filled first List.mem_cons_self)
      (ih (fun chunk member => filled chunk (List.mem_cons_of_mem _ member)) fills)

theorem pauses {faults : List Fault} (late : ∀ f ∈ faults, f.isTimeout = true)
    (rests : Rests frame earlier false) (fills : Fills frame earlier as bs) :
    Fills frame earlier (faults.map .fault ++ as) (faults.map .fault ++ bs) := by
  induction faults with
  | nil => exact fills
  | cons first others ih =>
    exact .idle (late first List.mem_cons_self) rests.after_eq
      (ih fun f member => late f (List.mem_cons_of_mem _ member))

theorem continues {next : Option Decoder} {r rest : LineReader} {out : List Bytes}
    (continues : r.Continues frame out next rest) (live : r.ended = false) {more : Bytes}
    (fills : Fills frame (r.buffer ++ more) as bs) : Fills next (rest.buffer ++ more) as bs := by
  generalize same : r.buffer ++ more = earlier at fills
  induction fills generalizing more with
  | nil => exact .nil
  | chunk filled _ ih =>
    subst same
    refine .chunk filled ?_
    rw [List.append_assoc]
    exact ih (List.append_assoc _ _ _).symm
  | idle late between _ ih =>
    subst same
    exact .idle late ((continues.after live more).symm.trans between) (ih rfl)
  | fill late rests _ ih =>
    subst same
    refine .fill late (fun future => ?_) ?_
    · have same := continues.after live (more ++ future)
      rw [← List.append_assoc, ← List.append_assoc] at same
      exact same.symm.trans (rests future)
    · rw [List.append_assoc]
      exact ih (List.append_assoc _ _ _).symm

end Fills

inductive Meets (frame : Option Decoder) (buffer : Bytes) :
    Except Fault Bytes → Inlet → Except Fault Bytes → Inlet → Prop where
  | some {chunk : Bytes} {a b : Inlet} : chunk ≠ [] → a.held = b.held →
      Fills frame (buffer ++ chunk ++ a.held) a.arrivals b.arrivals →
      Meets frame buffer (.ok chunk) a (.ok chunk) b
  | ended {a b : Inlet} : a.held = [] → b.held = [] → a.arrivals = [] → b.arrivals = [] →
      Meets frame buffer (.ok []) a (.ok []) b
  | idle {f : Fault} {a b : Inlet} : f.isTimeout = true →
      after frame (LineReader.lines buffer) = none → a.held = [] → b.held = [] →
      Fills frame buffer a.arrivals b.arrivals → Meets frame buffer (.error f) a (.error f) b
  | fill {f : Fault} {a b : Inlet} : f.isTimeout = true → Rests frame buffer true → a.held = [] →
      b.held = [] → Fills frame (buffer ++ [newline]) a.arrivals b.arrivals →
      Meets frame buffer (.error f) a (.ok [newline]) b

theorem Fills.meets {frame : Option Decoder} {buffer : Bytes} {a b : Inlet} (held : a.held = b.held)
    (fills : Fills frame (buffer ++ a.held) a.arrivals b.arrivals) :
    Meets frame buffer (a.receive LineReader.chunkLimit).1 (a.receive LineReader.chunkLimit).2
      (b.receive LineReader.chunkLimit).1 (b.receive LineReader.chunkLimit).2 := by
  -- A part of what is there is served, and the other part stays.
  have served {bytes : Bytes} {as bs : List Arrival} {m n : Nat} (filled : bytes ≠ [])
      (fills : Fills frame (buffer ++ bytes) as bs) :
      Meets frame buffer (.ok (bytes.take LineReader.chunkLimit))
        ⟨bytes.drop LineReader.chunkLimit, as, m⟩ (.ok (bytes.take LineReader.chunkLimit))
        ⟨bytes.drop LineReader.chunkLimit, bs, n⟩ := by
    refine .some (by simp [LineReader.chunkLimit, filled]) rfl ?_
    rw [List.append_assoc, List.take_append_drop]
    exact fills
  obtain ⟨here, as, m⟩ := a
  obtain ⟨there, bs, n⟩ := b
  obtain rfl : here = there := held
  dsimp only at fills
  cases here with
  | cons first rest => exact served (List.cons_ne_nil first rest) fills
  | nil =>
    rw [List.append_nil] at fills
    cases fills with
    | nil => exact .ended rfl rfl rfl rfl
    | chunk filled fills => exact served filled fills
    | idle late between fills => exact .idle late between rfl rfl fills
    | fill late rests fills => exact .fill late rests rfl rfl fills

namespace Session

/-! ## Two conversations in step -/

/-- A worker that lacks a whole line and rests after a surplus newline has received nothing more. -/
theorem eq_of_starved {frame : Option Decoder} {r : LineReader} (starved : r.next = .starved)
    (rests : Rests frame r.buffer true) : frame = leftOpen true ∧ r = .start := by
  have piece := LineReader.notMem_of_starved starved
  have same : frame = leftOpen true := by
    have now := rests []
    rwa [List.append_nil, LineReader.lines_of_piece piece,
      LineReader.lines_of_piece List.not_mem_nil] at now
  refine ⟨same, ?_⟩
  have live := LineReader.not_ended_of_starved starved
  obtain ⟨buffer, ended⟩ := r
  dsimp only at live piece rests
  subst live same
  -- A line end completes the frame if it comes at once, and does not after content.
  have empty : buffer = [] := by
    by_contra solid
    have whole : newline ∉ buffer ++ [carriageReturn] := by simpa [newline, carriageReturn] using piece
    have next := rests ([carriageReturn] ++ newline :: [])
    rw [← List.append_assoc, LineReader.lines_append_line whole,
      LineReader.lines_append_line (by decide)] at next
    have solid : LineReader.withoutReturn (buffer ++ [carriageReturn]) ≠ [] := by
      simpa [LineReader.withoutReturn] using solid
    rw [LineReader.lines_of_piece List.not_mem_nil] at next
    simp only [after, fed_leftOpen true solid, fed_none, isComplete_take_start] at next
    cases next
  rw [empty]
  rfl

/-- Where only a surplus newline has opened the frame, a timeout does what a blank line does. -/
theorem step_silence {s : Session} {socket : Socket}
    (here : s.point = .receivingFrame ⟨socket, .start⟩ (Decoder.start.take [])) {f : Fault}
    (late : f.isTimeout = true) :
    s.step (.answer (.fault f)) = s.step (.answer (.chunk [newline])) := by
  have filled : s.step (.answer (.chunk [newline])) =
      (Turn.of s).await (.timingAfterFrame ⟨socket, .start⟩ []) := by
    have reached : (LineReader.start.receive [newline]).gather (Decoder.start.take []) =
        .message [] .start := by
      rw [LineReader.gather]
      simp only [isComplete_take_start, Bool.false_eq_true, if_false]
      exact LineReader.gather_of_complete rfl .start
    simp only [step, resume, proceed, here, Turn.readFrame]
    rw [reached]
  have silent : s.step (.answer (.fault f)) =
      (Turn.of s).await (.timingAfterFrame ⟨socket, .start⟩ []) := by
    simp only [step, resume, fail, here, late]
    rfl
  rw [filled, silent]

/-- What a worker comes to while two inlets serve it that differ in silence only. -/
inductive Attends (s : Session) (a b : Inlet) : Prop where
  | polls {v : View} : s.point.view = some v → s.point.Starves →
      (∀ d ∈ v.frame, d.isComplete = false) → a.held = b.held →
      (v.reader.ended = true → a.arrivals = [] ∧ b.arrivals = []) →
      Fills v.frame (v.reader.buffer ++ a.held) a.arrivals b.arrivals → Attends s a b
  | ends : s.point.hand = .ended → Attends s a b

theorem Trails.attends {frame : Option Decoder} {reader : LineReader} {u : Session} {a b : Inlet}
    (trails : Trails frame reader u) (held : a.held = b.held)
    (spent : reader.ended = true → a.arrivals = [] ∧ b.arrivals = [])
    (fills : Fills frame (reader.buffer ++ a.held) a.arrivals b.arrivals) : Attends u a b := by
  cases trails with
  | ends ended => exact .ends ended
  | @polls v out view starves unfinished continues =>
    refine .polls view starves unfinished held (fun ended => spent (continues.ended.symm.trans ended)) ?_
    cases ended : reader.ended with
    | true =>
      obtain ⟨here, there⟩ := spent ended
      rw [here, there]
      exact .nil
    | false => exact fills.continues continues ended

/-- A request to receive is the only one to which the answer depends on what arrives. -/
theorem network_other (peer : String) {request : Request}
    (other : ∀ socket limit, request ≠ .receive socket limit) :
    ∃ reply, (∀ inlet, network peer inlet request = (reply, inlet)) ∧
      (∀ reader, reply.read reader = reader) ∧ ∀ f, reply ≠ .fault f := by
  cases request with
  | receive socket limit => exact absurd rfl (other socket limit)
  | _ => exact ⟨_, fun _ => rfl, fun _ => rfl, by simp⟩

def Reply.ofReceived : Except Fault Bytes → Reply
  | .ok bytes => .chunk bytes
  | .error f => .fault f

theorem network_ofReceived (peer : String) (inlet : Inlet) (socket : Socket) (limit : Nat) :
    network peer inlet (.receive socket limit) =
      (Reply.ofReceived (inlet.receive limit).1, (inlet.receive limit).2) := by
  rw [network]
  obtain ⟨outcome, left⟩ := inlet.receive limit
  cases outcome <;> rfl

variable {s : Session} {v : View} {a b : Inlet} {request : Request}

theorem Meets.answer {first second : Except Fault Bytes}
    (meets : Meets v.frame v.reader.buffer first a second b)
    (passes : Passes s (.ofReceived second) (s.step (.answer (.ofReceived second))).session)
    (view : s.point.view = some v) (starved : v.reader.next = .starved)
    (waits : (∃ link, s.point = .receiving link) ∨ ∃ link frame, s.point = .receivingFrame link frame)
    (unfinished : ∀ d ∈ v.frame, d.isComplete = false) :
    s.step (.answer (.ofReceived first)) = s.step (.answer (.ofReceived second)) ∧
      Attends (s.step (.answer (.ofReceived second))).session a b := by
  have live := LineReader.not_ended_of_starved starved
  cases meets with
  | @some chunk _ _ filled held fills =>
    have trails := passes.trails view unfinished (by simp [Reply.ofReceived])
    have shape : v.reader.receive chunk = { v.reader with buffer := v.reader.buffer ++ chunk } := by
      simp [LineReader.receive, filled]
    rw [Reply.ofReceived, Reply.read, shape] at trails
    exact ⟨rfl, trails.attends held (by simp [live]) fills⟩
  | ended here there none spent =>
    have trails := passes.trails view unfinished (by simp [Reply.ofReceived])
    refine ⟨rfl, trails.attends (here.trans there.symm) (fun _ => ⟨none, spent⟩) ?_⟩
    rw [none, spent]
    exact .nil
  | idle late between here there fills =>
    have closed : v.frame = none := by
      rwa [LineReader.lines_of_piece (LineReader.notMem_of_starved starved)] at between
    have trails : Trails v.frame v.reader _ := passes.trails view unfinished fun _ _ => closed
    refine ⟨rfl, trails.attends (here.trans there.symm) (by simp [live]) ?_⟩
    rw [here, List.append_nil]
    exact fills
  | fill late rests here there fills =>
    have trails := passes.trails view unfinished (by simp [Reply.ofReceived])
    obtain ⟨opens, bare⟩ := eq_of_starved starved rests
    have shape : v.reader.receive [newline] =
        { v.reader with buffer := v.reader.buffer ++ [newline] } := rfl
    rw [Reply.ofReceived, Reply.read, shape] at trails
    refine ⟨?_, trails.attends (here.trans there.symm) (by simp [live]) ?_⟩
    · obtain ⟨link, idle⟩ | ⟨⟨socket, reader⟩, frame, inside⟩ := waits
      · rw [idle] at view
        cases view
        cases opens
      · rw [inside] at view
        cases view
        obtain rfl := Option.some.inj opens
        obtain rfl : reader = .start := bare
        exact step_silence inside late
    · rw [here, List.append_nil]
      exact fills

namespace Attends

theorem answer (attends : Attends s a b) (asked : s.request = some request) (peer : String) :
    s.step (.answer (network peer a request).1) = s.step (.answer (network peer b request).1) ∧
      Attends (s.step (.answer (network peer b request).1)).session (network peer a request).2
        (network peer b request).2 := by
  have passes : Passes s (network peer b request).1
      (s.step (.answer (network peer b request).1)).session :=
    (resume_passage (heeds_answer_iff.mpr ⟨request, asked, admits_network peer b request⟩)).1
  cases attends with
  | ends ended =>
    have plain (inlet : Inlet) : network peer inlet request = (.done, inlet) := by
      obtain ⟨idle, -⟩ | ⟨-, needed, asks, -, plain⟩ := request_of_ended ended inlet
      · simp [idle] at asked
      · obtain rfl := Option.some.inj (asks.symm.trans asked)
        exact plain peer
    have carries := passes.carries
    rw [ended] at carries
    rw [plain a, plain b] at *
    exact ⟨rfl, .ends carries.of_ended⟩
  | @polls v view starves unfinished held spent fills =>
    by_cases receives : ∃ socket limit, request = .receive socket limit
    · obtain ⟨socket, limit, rfl⟩ := receives
      obtain ⟨rfl, waits⟩ := point_of_receive asked
      have starved : v.reader.next = .starved := by
        obtain ⟨link, here⟩ | ⟨link, frame, here⟩ := waits <;>
        · rw [here] at view starves
          cases view
          exact starves
      rw [network_ofReceived, network_ofReceived] at *
      exact Meets.answer (fills.meets held) passes view starved waits unfinished
    · obtain ⟨reply, plain, blank, sound⟩ := network_other peer fun socket limit same =>
        receives ⟨socket, limit, same⟩
      rw [plain a, plain b] at *
      have trails := passes.trails view unfinished fun f same => absurd same (sound f)
      refine ⟨rfl, trails.attends held ?_ ?_⟩
      · rwa [blank]
      · rwa [blank]

theorem called {t : Talk} (attends : Attends t.turn.session a b) (sends : List Pending) :
    Attends (t.called sends).session a b := by
  obtain ⟨slot, session⟩ := session_called t sends
  rw [session]
  cases attends with
  | polls view starves unfinished held spent fills => exact .polls view starves unfinished held spent fills
  | ends ended => exact .ends ended

end Attends

structure InStep (t u : Talk) : Prop where
  turn : t.turn = u.turn
  attends : Attends u.turn.session t.inlet u.inlet

namespace InStep

variable {t u : Talk}

theorem round (step : InStep t u) (peer : String) (sends : List Pending) :
    InStep (t.round peer sends) (u.round peer sends) := by
  obtain ⟨same, attends⟩ := step
  have attends := attends.called sends
  have called : t.called sends = u.called sends := by rw [Talk.called, same, Talk.called]
  unfold Talk.round
  rw [called]
  split
  · exact ⟨rfl, attends⟩
  · next request asked =>
    obtain ⟨agrees, attends⟩ := attends.answer asked peer
    exact ⟨by simp only [Turn.move, agrees], attends⟩

theorem converse (step : InStep t u) (peer : String) (sends : Nat → List Pending) (n : Nat) :
    InStep (converse peer sends t n) (converse peer sends u n) := by
  induction n with
  | zero => exact step
  | succ n ih => exact ih.round peer (sends n)

theorem ended (step : InStep t u) {messages : List Bytes} (ended : Ended u messages) :
    Ended t messages := by
  obtain ⟨exited, phase, heard, last⟩ := ended
  rw [← step.turn] at exited phase last
  refine ⟨exited, phase, ?_, last⟩
  rwa [Talk.heard, step.turn]

end InStep

/-- A conversation ends as one does in which blank lines stand for the timeouts after surplus newlines. -/
theorem converse_ends_filled {plan : Plan} {setup : List Move} {socket : Socket} {as bs : List Arrival}
    (secured : (plan.session.history setup).session.point = .namingPeer socket)
    (unclosed : .close ∉ setup) (fills : Fills none [] as bs) (peer : String)
    (sends : Nat → List Pending) :
    ∃ n, Ended (converse peer sends ⟨plan.session.history setup, .ofArrivals as⟩ n)
      (Frame.messages none (LineReader.allLines (bs.flatMap Arrival.bytes))) := by
  have step : InStep ⟨plan.session.history setup, .ofArrivals as⟩
      ⟨plan.session.history setup, .ofArrivals bs⟩ := by
    have view : (plan.session.history setup).session.point.view = some ⟨none, .start, none⟩ := by
      rw [secured]
      rfl
    refine ⟨rfl, .polls view ?_ nofun rfl nofun fills⟩
    rw [secured]
    trivial
  obtain ⟨n, ended⟩ := converse_ends secured unclosed fills.calm peer sends
  exact ⟨n, (step.converse peer sends n).ended ended⟩

end Session

/-! ## Bursts of letters -/

/-- The frames of letters, cut anywhere, and the timeouts after them. -/
structure Burst where
  letters : List Letter
  chunks : List Bytes
  pauses : List Fault
  whole : chunks.flatten = letters.flatMap Letter.frame
  filled : ∀ chunk ∈ chunks, chunk ≠ []
  late : ∀ f ∈ pauses, f.isTimeout = true

namespace Burst

def arrivals (b : Burst) : List Arrival := b.chunks.map .chunk ++ b.pauses.map .fault

/-- Whether a surplus newline is left when the peer falls silent. -/
def leaves (b : Burst) : Bool := Letter.leave false b.letters

def contents (b : Burst) : List Bytes := b.letters.map Letter.content

/-- What is reported of a burst: an empty message too, if it leaves a surplus newline. -/
def messages (b : Burst) : List Bytes := b.contents ++ if b.leaves then [[]] else []

/-- The arrivals with a blank line in place of the first timeout after a surplus newline. -/
def spoken (b : Burst) : List Arrival :=
  b.chunks.map .chunk ++
    match b.leaves, b.pauses with
    | true, _ :: others => .chunk [newline] :: others.map .fault
    | _, pauses => pauses.map .fault

/-- What the blank line adds. -/
def filling (b : Burst) : Bytes := if b.leaves && !b.pauses.isEmpty then [newline] else []

theorem bytes_pauses (faults : List Fault) : (faults.map Arrival.fault).flatMap Arrival.bytes = [] := by
  induction faults with
  | nil => rfl
  | cons _ _ ih => exact ih

theorem bytes_spoken (b : Burst) :
    b.spoken.flatMap Arrival.bytes = b.letters.flatMap Letter.frame ++ b.filling := by
  rw [spoken, List.flatMap_append, bytes_chunks, b.whole]
  congr 1
  unfold filling
  split
  · next leaves paused =>
    rw [leaves, paused, List.flatMap_cons, bytes_pauses]
    rfl
  · next other =>
    rw [bytes_pauses]
    cases leaves : b.leaves with
    | false => rfl
    | true =>
      cases paused : b.pauses with
      | nil => rfl
      | cons first others => exact absurd paused (other first others leaves)

variable {frame : Option Decoder} {earlier : Bytes}

theorem rests_letters (b : Burst) (rests : Rests frame earlier false) :
    Rests frame (earlier ++ b.letters.flatMap Letter.frame) b.leaves := by
  intro future
  rw [List.append_assoc, rests]
  exact (Letter.read_all false b.letters future).2

theorem fills (b : Burst) {as bs : List Arrival} (rests : Rests frame earlier false)
    (more : Fills frame (earlier ++ b.letters.flatMap Letter.frame ++ b.filling) as bs) :
    Fills frame earlier (b.arrivals ++ as) (b.spoken ++ bs) := by
  have rests := b.rests_letters rests
  rw [arrivals, spoken, List.append_assoc, List.append_assoc]
  refine .chunks b.filled ?_
  rw [b.whole]
  have late := b.late
  unfold filling at more
  generalize earlier ++ b.letters.flatMap Letter.frame = earlier at rests more ⊢
  cases leaves : b.leaves with
  | false =>
    rw [leaves] at rests more
    rw [Bool.false_and, if_neg Bool.false_ne_true, List.append_nil] at more
    exact more.pauses late rests
  | true =>
    rw [leaves] at rests more
    cases paused : b.pauses with
    | nil =>
      rw [paused] at more
      simpa using more
    | cons first others =>
      rw [paused] at more late
      exact .fill (late first List.mem_cons_self) rests
        (more.pauses (fun f member => late f (List.mem_cons_of_mem _ member)) rests.filled)

theorem rests (b : Burst) (paused : b.pauses ≠ []) (rests : Rests frame earlier false) :
    Rests frame (earlier ++ b.letters.flatMap Letter.frame ++ b.filling) false := by
  have rests := b.rests_letters rests
  rw [filling]
  cases leaves : b.leaves with
  | false => simpa [leaves] using rests
  | true =>
    rw [leaves] at rests
    simpa [paused] using rests.filled

theorem messages_spoken (b : Burst) {rest : Bytes} (paused : b.pauses ≠ [] ∨ rest = []) :
    Frame.messages none (LineReader.allLines (b.letters.flatMap Letter.frame ++ b.filling ++ rest)) =
      b.messages ++ Frame.messages none (LineReader.allLines rest) := by
  have read (rest : Bytes) := (Letter.read_all false b.letters rest).1
  rw [List.append_assoc, messages, contents, List.append_assoc]
  refine (read _).trans (congrArg _ ?_)
  show Frame.messages (leftOpen b.leaves) _ = _
  rw [filling]
  cases leaves : b.leaves with
  | false => rfl
  | true =>
    obtain paused | rfl := paused
    · simpa [paused] using (messages_leftOpen_newline rest).1
    · cases none : b.pauses with
      | nil =>
        show Frame.messages (leftOpen true) (LineReader.allLines []) = _
        rw [LineReader.allLines_nil]
        rfl
      | cons => simpa using (messages_leftOpen_newline []).1

theorem fills_all {bursts : List Burst} (paused : ∀ b ∈ bursts.dropLast, b.pauses ≠ [])
    (rests : Rests frame earlier false) :
    Fills frame earlier (bursts.flatMap arrivals) (bursts.flatMap spoken) := by
  induction bursts generalizing earlier with
  | nil => exact .nil
  | cons first others ih =>
    rw [List.flatMap_cons, List.flatMap_cons]
    cases others with
    | nil => exact first.fills rests .nil
    | cons second others =>
      have between : first.pauses ≠ [] := paused first List.mem_cons_self
      exact first.fills rests
        (ih (fun b member => paused b (List.mem_cons_of_mem _ member)) (first.rests between rests))

theorem messages_all {bursts : List Burst} (paused : ∀ b ∈ bursts.dropLast, b.pauses ≠ []) :
    Frame.messages none (LineReader.allLines ((bursts.flatMap spoken).flatMap Arrival.bytes)) =
      bursts.flatMap messages := by
  induction bursts with
  | nil => simp [Frame.messages]
  | cons first others ih =>
    rw [List.flatMap_cons, List.flatMap_append, bytes_spoken, List.flatMap_cons]
    cases others with
    | nil =>
      refine (first.messages_spoken (.inr rfl)).trans ?_
      simp [Frame.messages]
    | cons second others =>
      rw [first.messages_spoken (.inl (paused first List.mem_cons_self)),
        ih fun b member => paused b (List.mem_cons_of_mem _ member)]

theorem length_messages (bursts : List Burst) :
    (bursts.flatMap messages).length = (bursts.flatMap contents).length + bursts.countP leaves := by
  induction bursts with
  | nil => rfl
  | cons first others ih =>
    simp only [List.flatMap_cons, List.length_append, List.countP_cons, ih, messages]
    cases first.leaves <;> simp <;> omega

/-- The contents are all that is reported exactly if no burst leaves a surplus newline. -/
theorem messages_eq_iff (bursts : List Burst) :
    bursts.flatMap messages = bursts.flatMap contents ↔ ∀ b ∈ bursts, b.leaves = false := by
  constructor
  · intro same b member
    have none : bursts.countP leaves = 0 := by
      have lengths := length_messages bursts
      rw [same] at lengths
      omega
    simpa using List.countP_eq_zero.mp none b member
  · intro dropped
    refine List.flatMap_congr fun b member => ?_
    simp [messages, dropped b member]

end Burst

namespace Session

/-- Letters are reported by their contents, and whenever the peer falls silent after a surplus newline, an
empty message is reported too. So no more than the contents is reported exactly if each surplus newline is
followed by more content at once. -/
theorem receives_letters {plan : Plan} {setup : List Move} {socket : Socket} {bursts : List Burst}
    (secured : (plan.session.history setup).session.point = .namingPeer socket)
    (unclosed : .close ∉ setup) (paused : ∀ b ∈ bursts.dropLast, b.pauses ≠ []) (peer : String)
    (sends : Nat → List Pending) :
    let talk := converse peer sends
      ⟨plan.session.history setup, .ofArrivals (bursts.flatMap Burst.arrivals)⟩
    (∃ n, Ended (talk n) (bursts.flatMap Burst.messages)) ∧
      ((∃ n, Ended (talk n) (bursts.flatMap Burst.contents)) ↔ ∀ b ∈ bursts, b.leaves = false) := by
  intro talk
  have between : Rests none [] false := fun _ => rfl
  have ends : ∃ n, Ended (talk n) (bursts.flatMap Burst.messages) := by
    have ends := converse_ends_filled secured unclosed (Burst.fills_all paused between) peer sends
    rwa [Burst.messages_all paused] at ends
  refine ⟨ends, ?_⟩
  obtain ⟨n, reported⟩ := ends
  rw [← Burst.messages_eq_iff]
  constructor
  · rintro ⟨m, contents⟩
    exact reported.unique contents
  · intro same
    exact ⟨n, same ▸ reported⟩

/-- A line with a blank line after it, and then nothing more, is reported with an empty message. -/
theorem receives_letters_last :
    let plan : Plan := .connector ⟨"10.0.0.9", 1336, ⟨List.replicate 16 0, rfl⟩⟩ .default false none
    let talk := converse "10.0.0.2" (fun _ => [])
      ⟨plan.session.history dialled, .ofArrivals [.chunk [97, 10, 10, 10, 10]]⟩
    (∃ n, Ended (talk n) [[97, 10], []]) ∧ ¬ ∃ n, Ended (talk n) [[97, 10]] := by
  intro plan talk
  have canonical : Canonical [97, 10] :=
    ⟨[[97]], ⟨by decide, by decide, by decide, by decide, .singleton _⟩, rfl⟩
  let letter : Letter := ⟨[97, 10], true, canonical, by decide⟩
  let burst : Burst := ⟨[letter], [[97, 10, 10, 10, 10]], [], rfl, by decide, by decide⟩
  have secured : (plan.session.history dialled).session.point = .namingPeer .secured := rfl
  have paused : ∀ b ∈ [burst].dropLast, b.pauses ≠ [] := nofun
  have reported := receives_letters secured (by simp [dialled]) paused "10.0.0.2" fun _ => []
  have leaves : burst.leaves = true := rfl
  refine ⟨reported.1, fun alone => ?_⟩
  have dropped := reported.2.mp alone burst List.mem_cons_self
  rw [leaves] at dropped
  cases dropped

end Session

end Handover
