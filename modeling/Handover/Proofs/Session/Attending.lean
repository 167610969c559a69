import Handover.Proofs.Session.Carrying
import Handover.Proofs.Session.Hearing

/-! What a worker makes of the answers of a network on which nothing but receiving can fail. As long as it
polls its connection it hears what arrives; when the stream has ended it reports the loss of the connection
and exits. Each answer leaves less to do. -/

set_option autoImplicit false

namespace Handover

namespace Session

/-- How far a worker is from its next tick, or from its end. -/
@[simp] def Point.distance : Point → Nat
  | .timingFrame _ _ => 14
  | .receivingFrame _ _ => 13
  | .timingAfterFrame _ _ | .namingPeer _ => 12
  | .reportingMessage _ _ | .reportingPeer _ _ => 11
  | .timingLink _ => 10
  | .timingWrite _ _ => 9
  | .writing _ _ => 8
  | .timingAfterWrite _ _ => 7
  | .reportingWrite _ _ => 6
  | .receiving _ => 5
  | .reportingEnd _ _ => 4
  | .releasingLink _ _ => 3
  | .shuttingUnused _ => 2
  | .closingUnused _ => 1
  | _ => 0

/-- How much is left to do for a worker that waits at a point. -/
@[simp] def Point.toDo (point : Point) (inlet : Inlet) : Nat :=
  match point.view with
  | some v => 16 * (v.load inlet + 1) + point.distance
  | none => point.distance

/-- Only a reader without a whole line waits for more. -/
def Point.Starves : Point → Prop
  | .receiving link | .receivingFrame link _ => link.reader.next = .starved
  | _ => True

def message (s : Session) : Option Bytes := s.told.bind Event.received?

/-- What an answer leads to that leaves less to do than a bound: the worker hears what arrives, or it has
heard all and the connection is lost. -/
inductive GoesOn (u : Session) (inlet : Inlet) (heard all : List Bytes) (bound : Nat) : Prop where
  | hears {v : View} : u.point.view = some v → u.point.Starves →
      Hears v inlet (heard ++ u.message.toList) all → u.point.toDo inlet < bound →
      GoesOn u inlet heard all bound
  | ends : u.point.hand = .ended → u.phase = .lost → u.message = none → heard = all →
      u.point.toDo inlet < bound → GoesOn u inlet heard all bound

theorem GoesOn.silent {u : Session} {inlet : Inlet} {heard all : List Bytes} {bound : Nat} {v : View}
    (view : u.point.view = some v) (starves : u.point.Starves) (none : u.message = none)
    (hears : Hears v inlet heard all) (less : u.point.toDo inlet < bound) :
    GoesOn u inlet heard all bound :=
  .hears view starves (by rwa [none, Option.toList_none, List.append_nil]) less

theorem GoesOn.mono {u : Session} {inlet : Inlet} {heard all : List Bytes} {bound more : Nat}
    (goes : GoesOn u inlet heard all bound) (le : bound ≤ more) : GoesOn u inlet heard all more := by
  cases goes with
  | hears view starves hears less => exact .hears view starves hears (Nat.lt_of_lt_of_le less le)
  | ends ended lost silent same less =>
    exact .ends ended lost silent same (Nat.lt_of_lt_of_le less le)

theorem GoesOn.less {u : Session} {inlet : Inlet} {heard all : List Bytes} {bound : Nat}
    (goes : GoesOn u inlet heard all bound) : u.point.toDo inlet < bound := by
  cases goes with
  | hears _ _ _ less => exact less
  | ends _ _ _ _ less => exact less

variable {s u : Session} {inlet : Inlet} {heard all : List Bytes}

theorem Stops.goesOn (stops : Stops s .lost u) (going : s.stopping = false)
    (active : s.phase.isTerminal = false) (same : heard = all) {bound : Nat} (room : 4 < bound) :
    GoesOn u inlet heard all bound := by
  cases stops with
  | interrupted stopped => simp [going] at stopped
  | finishes _ finishes =>
    cases finishes with
    | ended ended => simp [active] at ended
    | @reports phase _ ending =>
      obtain rfl : .lost = phase := Option.some.inj ending
      exact .ends rfl rfl rfl same room

theorem ReadsFirst.goesOn {link : Link} (reads : ReadsFirst s link u) (going : s.stopping = false)
    (active : s.phase.isTerminal = false)
    (hears : Hears ⟨none, link.reader, none⟩ inlet heard all) :
    GoesOn u inlet heard all (16 * ((View.mk none link.reader none).load inlet + 1) + 6) := by
  cases reads with
  | @line first rest given =>
    -- One line alone completes no frame.
    have unfinished : (Frame.fed none first).isComplete = false := Frame.isComplete_take_start first
    have continues := LineReader.Continues.line given unfinished
    have shorter := LineReader.buffered_of_next given
    have opened := hears.continues none continues (by simp)
    refine .silent rfl trivial rfl opened ?_
    simp only [Point.toDo, Point.view, Point.distance, View.load, LineReader.toReceive,
      continues.ended]
    omega
  | finished finished stops =>
    exact stops.goesOn going active (hears.finished finished) (by omega)
  | starved starved =>
    refine .silent rfl starved rfl hears ?_
    simp only [Point.toDo, Point.view, Point.distance]
    omega

theorem ReadsFrame.goesOn {link : Link} {frame : Frame.Decoder} (reads : ReadsFrame s link frame u)
    (hears : Hears ⟨some frame, link.reader, none⟩ inlet heard all) :
    GoesOn u inlet heard all (16 * ((View.mk (some frame) link.reader none).load inlet + 1) + 14) := by
  have unfinished := hears.unfinished frame rfl
  obtain ⟨bytes, rest, reached, continues⟩ | ⟨fed, rest, reached, starved, unfinished, continues⟩ :=
    link.reader.gather_continues frame unfinished
  -- The frame is complete with what is in the buffer, or more must be received for it.
  · have gathered := hears.continues (some bytes) continues nofun
    have shorter := continues.shorter
    cases reads with
    | starved other => simp [reached] at other
    | message same =>
      obtain ⟨rfl, rfl⟩ := LineReader.Gathered.message.inj (reached.symm.trans same)
      refine .silent rfl trivial rfl gathered ?_
      simp only [Point.toDo, Point.view, Point.distance, View.load, LineReader.toReceive,
        continues.ended]
      omega
  · have gathered := hears.continues none continues (by simpa using unfinished)
    have shorter := continues.shorter
    cases reads with
    | message other => simp [reached] at other
    | starved same =>
      obtain ⟨rfl, rfl⟩ := LineReader.Gathered.starved.inj (reached.symm.trans same)
      refine .silent rfl starved rfl gathered ?_
      simp only [Point.toDo, Point.view, Point.distance, View.load, LineReader.toReceive,
        continues.ended]
      omega

theorem Ticks.goesOn {link : Link} (ticks : Ticks s link u) (going : s.stopping = false)
    (active : s.phase.isTerminal = false)
    (hears : Hears ⟨none, link.reader, none⟩ inlet heard all) :
    GoesOn u inlet heard all (16 * ((View.mk none link.reader none).load inlet + 1) + 10) := by
  cases ticks with
  | stops stopped => simp [going] at stopped
  | reads _ _ reads => exact (reads.goesOn going active hears).mono (by omega)
  | writes =>
    refine .silent rfl trivial rfl hears ?_
    simp only [Point.toDo, Point.view, Point.distance]
    omega

/-! ## The network -/

def network (peer : String) (inlet : Inlet) : Request → Reply × Inlet
  | .receive _ limit =>
      match inlet.receive limit with
      | (.ok bytes, after) => (.chunk bytes, after)
      | (.error f, after) => (.fault f, after)
  | .findAddress | .peerName _ => (.address peer, inlet)
  | .boundPort => (.port 0, inlet)
  | .accept => (.accepted peer 0, inlet)
  | .handshake _ => (.connection .secured, inlet)
  | .bind _ _ | .setTimeout _ _ | .emit _ | .shutDown _ | .close _ | .dial _ _ _ | .send _ _ =>
      (.done, inlet)

theorem admits_network (peer : String) (inlet : Inlet) (request : Request) :
    request.admits (network peer inlet request).1 = true := by
  cases request with
  | receive socket limit =>
    rw [network]
    split <;> rfl
  | _ => rfl

theorem network_receive {earlier : Bytes} {frame : Option Frame.Decoder} (peer : String)
    (calm : Calm frame earlier inlet.arrivals) (socket : Socket) :
    (∃ chunk after, network peer inlet (.receive socket LineReader.chunkLimit) = (.chunk chunk, after) ∧
      inlet.Receives LineReader.chunkLimit (.ok chunk) after) ∨
    ∃ f after, network peer inlet (.receive socket LineReader.chunkLimit) = (.fault f, after) ∧
      inlet.Receives LineReader.chunkLimit (.error f) after := by
  have receives := Inlet.receives calm (show 0 < LineReader.chunkLimit by decide)
  cases got : inlet.receive LineReader.chunkLimit with
  | mk outcome after =>
    rw [got] at receives
    cases outcome with
    | ok chunk => exact .inl ⟨chunk, after, by simp [network, got], receives⟩
    | error f => exact .inr ⟨f, after, by simp [network, got], receives⟩

/-! ## Answers -/

/-- Whoever asks to receive waits for a frame or inside one. -/
theorem point_of_receive {socket : Socket} {limit : Nat} (asked : s.request = some (.receive socket limit)) :
    limit = LineReader.chunkLimit ∧
      ((∃ link, s.point = .receiving link) ∨ ∃ link frame, s.point = .receivingFrame link frame) := by
  unfold Session.request at asked
  cases here : s.point <;> simp only [here, reduceCtorEq, Option.some.injEq, Request.receive.injEq] at asked
  case receiving link => exact ⟨asked.2.symm, .inl ⟨link, rfl⟩⟩
  case receivingFrame link frame => exact ⟨asked.2.symm, .inr ⟨link, frame, rfl⟩⟩

theorem Passes.of_view {v : View} {reply : Reply} (passes : Passes s reply u)
    (view : s.point.view = some v) :
    Polls s reply u ∨ (∃ socket, s.point = .namingPeer socket) ∧ Opens s reply u := by
  cases passes with
  | polls polls => exact .inl polls
  | opens opens =>
    cases here : s.point <;> simp only [here, Point.view, reduceCtorEq] at view
    case namingPeer socket => exact .inr ⟨⟨socket, rfl⟩, opens⟩
    all_goals cases opens <;> simp_all [Point.isListening]
  | closes closes =>
    cases here : s.point <;> simp only [here, Point.view, reduceCtorEq] at view
    all_goals cases closes <;> simp_all

section Answers

variable {v : View} (view : s.point.view = some v) (going : s.stopping = false)
  (active : s.phase.isTerminal = false) (hears : Hears v inlet heard all)

include view going active hears

theorem Polls.goesOn_done (polls : Polls s .done u) : GoesOn u inlet heard all (s.point.toDo inlet) := by
  unfold Point.toDo
  rw [view]
  cases polls with
  | established here | timedWrite here | wrote here | timedAfterWrite here =>
    rw [here] at view ⊢
    cases view
    exact .silent rfl trivial rfl hears (by simp [Point.toDo, Point.view, Point.distance])
  | timed here ticks | reportedMessage here ticks =>
    rw [here] at view ⊢
    cases view
    exact (ticks.goesOn going active hears).mono (by simp [Point.distance])
  | reportedWrite here reads =>
    rw [here] at view ⊢
    cases view
    exact reads.goesOn going active hears
  | timedFrame here reads =>
    rw [here] at view ⊢
    cases view
    exact reads.goesOn hears
  | timedAfterFrame here =>
    rw [here] at view ⊢
    cases view
    exact .hears rfl trivial hears.report (by simp [Point.toDo, Point.view, Point.distance, View.load])

theorem Polls.goesOn_chunk (starves : s.point.Starves) {chunk : Bytes} {after : Inlet}
    (polls : Polls s (.chunk chunk) u)
    (received : inlet.Receives LineReader.chunkLimit (.ok chunk) after) :
    GoesOn u after heard all (s.point.toDo inlet) := by
  unfold Point.toDo
  rw [view]
  cases polls with
  | received here reads =>
    rw [here] at view starves ⊢
    cases view
    obtain ⟨hears, less⟩ := hears.receive starves received
    refine (reads.goesOn going active hears).mono ?_
    simp only [Point.distance]
    omega
  | receivedFrame here reads =>
    rw [here] at view starves ⊢
    cases view
    obtain ⟨hears, less⟩ := hears.receive starves received
    refine (reads.goesOn hears).mono ?_
    simp only [Point.distance]
    omega

theorem Polls.goesOn_fault (starves : s.point.Starves) {f : Fault} {after : Inlet}
    (polls : Polls s (.fault f) u)
    (received : inlet.Receives LineReader.chunkLimit (.error f) after)
    (waits : (∃ link, s.point = .receiving link) ∨ ∃ link frame, s.point = .receivingFrame link frame) :
    GoesOn u after heard all (s.point.toDo inlet) := by
  obtain ⟨link, here⟩ | ⟨link, frame, here⟩ := waits
  · rw [here] at view starves
    cases view
    obtain ⟨late, -, hears, less⟩ := hears.idle starves received
    cases polls with
    | idled there _ ticks =>
      obtain rfl := Point.receiving.inj (here.symm.trans there)
      rw [here]
      refine (ticks.goesOn going active hears).mono ?_
      simp only [Point.toDo, Point.view, Point.distance]
      omega
    | silent there => simp [here] at there
    | broken _ other => simp [other link here] at late
    | crashed there => simp [here] at there
  · rw [here] at view starves
    cases view
    -- No timeout comes inside a frame.
    obtain ⟨-, none, -⟩ := hears.idle starves received
    cases none

theorem goesOn_answer (starves : s.point.Starves) {request : Request} (asked : s.request = some request)
    (peer : String) :
    GoesOn (s.step (.answer (network peer inlet request).1)).session (network peer inlet request).2
      heard all (s.point.toDo inlet) := by
  have heeded := heeds_answer_iff.mpr ⟨request, asked, admits_network peer inlet request⟩
  have passes : Passes s (network peer inlet request).1
      (s.step (.answer (network peer inlet request).1)).session := (resume_passage heeded).1
  generalize (s.step (.answer (network peer inlet request).1)).session = u at passes
  obtain polls | ⟨⟨socket, here⟩, opens⟩ := passes.of_view view
  · cases request with
    | receive socket limit =>
      obtain ⟨rfl, waits⟩ := point_of_receive asked
      have calm : Calm v.frame (v.reader.buffer ++ inlet.held) inlet.arrivals := hears.calm
      obtain ⟨chunk, after, same, received⟩ | ⟨f, after, same, received⟩ :=
        network_receive peer calm socket
      · rw [same] at polls ⊢
        exact polls.goesOn_chunk view going active hears starves received
      · rw [same] at polls ⊢
        exact polls.goesOn_fault view going active hears starves received waits
    | findAddress | boundPort | accept | handshake | peerName => cases polls
    | _ => exact Polls.goesOn_done view going active hears polls
  · obtain rfl : Request.peerName socket = request := by simpa [Session.request, here] using asked
    have plain : network peer inlet (.peerName socket) = (.address peer, inlet) := rfl
    rw [plain] at opens ⊢
    rw [here] at view ⊢
    cases view
    cases opens with
    | found there | shut there => simp [here] at there
    | named => exact .silent rfl trivial rfl hears (by simp [Point.toDo, Point.view, Point.distance])

end Answers

/-! ## The end -/

theorem Unlistens.distance_le {escape : Option Fault} (unlistens : Unlistens s escape u) :
    u.point.distance ≤ 2 := by
  cases unlistens with
  | listener => exact Nat.le_refl _
  | settled => exact Nat.zero_le _

theorem Retires.distance_le {escape : Option Fault} (retires : Retires s escape u) :
    u.point.distance ≤ 3 := by
  cases retires with
  | link => exact Nat.le_refl _
  | unlistens _ unlistens => exact Nat.le_trans unlistens.distance_le (by decide)

theorem toDo_of_ended {point : Point} (ended : point.hand = .ended) (inlet : Inlet) :
    point.toDo inlet = point.distance := by
  cases point <;> first | rfl | cases ended

/-- Nothing is left to do once the worker has exited, and only then. -/
theorem request_of_ended (ended : s.point.hand = .ended) (inlet : Inlet) :
    s.request = none ∧ s.hasExited = true ∧ s.point.distance = 0 ∨
      0 < s.point.distance ∧ ∃ request, s.request = some request ∧ request.admits .done = true ∧
        ∀ peer, network peer inlet request = (.done, inlet) := by
  cases here : s.point <;> rw [here] at ended <;> cases ended
  case exited escape => exact .inl ⟨by simp [Session.request, here], by simp [hasExited, here], rfl⟩
  all_goals
    exact .inr ⟨by simp [Point.distance], _, by simp only [Session.request, here]; rfl, rfl, fun _ => rfl⟩

theorem Passes.closes_of_ended {reply : Reply} (passes : Passes s reply u)
    (ended : s.point.hand = .ended) : Closes s reply u := by
  cases passes with
  | closes closes => exact closes
  | opens opens =>
    rw [opens.hand_eq] at ended
    cases ended
  | polls polls =>
    cases here : s.point <;> rw [here] at ended <;> cases ended
    all_goals cases polls <;> simp_all [Point.polled]

theorem Closes.distance_lt (closes : Closes s .done u) : u.point.distance < s.point.distance := by
  -- The points of a socket that is not held are passed over, so the distance may shrink by more than one.
  cases closes with
  | reported here retires =>
    rw [here]
    exact Nat.lt_succ_of_le retires.distance_le
  | released here unlistens =>
    rw [here]
    exact Nat.lt_succ_of_le unlistens.distance_le
  | shut here | closed here =>
    rw [here]
    exact Nat.lt_succ_self _

theorem goesOn_end {request : Request} (standing : Standing s) (ended : s.point.hand = .ended)
    (lost : s.phase = .lost) (same : heard = all) (asked : s.request = some request) (peer : String) :
    GoesOn (s.step (.answer (network peer inlet request).1)).session (network peer inlet request).2
      heard all (s.point.toDo inlet) := by
  obtain ⟨idle, -⟩ | ⟨-, needed, asks, fits, plain⟩ := request_of_ended ended inlet
  · simp [idle] at asked
  · have same' : needed = request := Option.some.inj (asks.symm.trans asked)
    subst same'
    have heeded := heeds_answer_iff.mpr ⟨needed, asked, fits⟩
    have passes : Passes s .done (s.step (.answer .done)).session := (resume_passage heeded).1
    have carries := passes.carries
    rw [ended] at carries
    have after : (s.step (.answer .done)).session.point.hand = .ended := carries.of_ended
    have tells := standing.tells_step (.answer .done)
    rw [toldBy, heeded, if_pos rfl] at tells
    obtain ⟨phase, silent⟩ := tells.of_terminal (by rw [lost]; rfl)
    have mute : (s.step (.answer .done)).session.message = none := by simp [message, silent]
    rw [plain peer, toDo_of_ended ended]
    refine .ends after (phase.trans lost) mute same ?_
    rw [toDo_of_ended after]
    exact (passes.closes_of_ended ended).distance_lt

end Session

end Handover
