import Handover.Proofs.Session.Holding
import Handover.Proofs.Session.Outbound

/-! What a stop leaves of the worker. Once a session has been asked to stop its worker begins nothing: it
finishes the step or the tick in progress, writes at most what it has in its hand, turns away a connection
that comes all the same, and ends. -/

set_option autoImplicit false

namespace Handover.Session

/-! ## Nothing is begun -/

def Request.begins : Request → Bool
  | .bind _ _ | .accept | .dial _ _ _ | .handshake _ => true
  | _ => false

def Point.begins : Point → Bool
  | .binding | .accepting | .dialling _ _ | .handshaking _ | .timingWrite _ _ => true
  | _ => false

variable {s u : Session}

theorem request_of_idle (idle : s.point.begins = false) :
    ∀ request ∈ s.request, request.begins = false := by
  intro request asked
  cases here : s.point <;> rw [here] at idle <;> first | cases idle; done | skip
  all_goals
    simp [Session.request, here] at asked
  all_goals
    subst asked
    rfl

theorem Ends.idle (ends : Ends s u) : u.point.begins = false := by
  have ended := ends.hand
  cases here : u.point <;> rw [here] at ended <;> first | rfl | cases ended

theorem ReadsFirst.idle {link : Link} (reads : ReadsFirst s link u) : u.point.begins = false := by
  cases reads with
  | finished _ stops => exact stops.ends.idle
  | line | starved => rfl

theorem ReadsFrame.idle {link : Link} {frame : Frame.Decoder} (reads : ReadsFrame s link frame u) :
    u.point.begins = false := by
  cases reads <;> rfl

theorem Ticks.stopped {link : Link} (ticks : Ticks s link u) (stopped : s.stopping = true) :
    Ends s u := by
  cases ticks with
  | stops _ retires => exact retires.ends
  | writes going | reads going => simp [stopped] at going

theorem Secures.idle {setup : Setup} (secures : Secures s setup u) (stopped : s.stopping = true) :
    u.point.begins = false := by
  cases secures with
  | abandons => rfl
  | begins going => simp [stopped] at going

theorem Adopts.stopped {socket : Socket} (adopts : Adopts s socket u) (stopped : s.stopping = true) :
    Retires { s with handshaking := false, held := some socket } none u := by
  cases adopts with
  | stops _ retires => exact retires
  | goesOn going => simp [stopped] at going

theorem Accepts.stopped (accepts : Accepts s u) (stopped : s.stopping = true) : Ends s u := by
  cases accepts with
  | stops _ retires => exact retires.ends
  | waits going => simp [stopped] at going

theorem Listens.stopped (listens : Listens s u) (stopped : s.stopping = true) :
    Retires { s with listening := true } none u := by
  cases listens with
  | stops _ retires => exact retires
  | advertises going | searches going => simp [stopped] at going

theorem HandsOver.idle (hands : HandsOver s u) (stopped : s.stopping = true) :
    u.point.begins = false := by
  cases hands with
  | closes => rfl
  | secures _ secures => exact secures.idle stopped

theorem Begins.stopped (begins : Begins s u) (stopped : s.stopping = true) : Ends s u := by
  cases begins with
  | stops _ retires => exact retires.ends
  | listens going | dials going | crashes going => simp [stopped] at going

theorem Opens.idle {reply : Reply} (opens : Opens s reply u) (stopped : s.stopping = true) :
    u.point.begins = false := by
  cases opens with
  | bound | found | announces | shut | refused | named => rfl
  | listens _ listens => exact (listens.stopped stopped).ends.idle
  | announced _ accepts => exact (accepts.stopped stopped).idle
  | waited _ _ accepts => exact (accepts.stopped stopped).idle
  | accepted _ hands => exact hands.idle stopped
  | closed _ secures => exact secures.idle stopped
  | dialled _ secures => exact secures.idle stopped
  | secured _ adopts => exact (adopts.stopped stopped).ends.idle
  | broken _ _ fails => exact fails.ends.idle
  | abandoned _ fails => exact fails.ends.idle
  | unclosed _ fails => exact fails.ends.idle
  | unnamed _ crashes => exact crashes.ends.idle
  | unheard _ _ _ fails => exact fails.ends.idle
  | unreached _ fails => exact fails.ends.idle

theorem Polls.idle {reply : Reply} (polls : Polls s reply u) (stopped : s.stopping = true) :
    u.point.begins = false := by
  cases polls with
  | established | timedWrite | wrote | timedAfterWrite | silent | timedAfterFrame => rfl
  | timed _ ticks => exact (ticks.stopped stopped).idle
  | reportedWrite _ reads => exact reads.idle
  | received _ reads => exact reads.idle
  | idled _ _ ticks => exact (ticks.stopped stopped).idle
  | timedFrame _ reads => exact reads.idle
  | receivedFrame _ reads => exact reads.idle
  | reportedMessage _ ticks => exact (ticks.stopped stopped).idle
  | broken _ _ _ fails => exact fails.ends.idle
  | crashed _ crashes => exact crashes.ends.idle

theorem Closes.idle {reply : Reply} (closes : Closes s reply u) : u.point.begins = false := by
  cases closes with
  | reported _ retires => exact retires.ends.idle
  | unreported _ retires => exact retires.ends.idle
  | crashed _ crashes => exact crashes.ends.idle
  | released _ unlistens => exact unlistens.ends.idle
  | shut | closed | broken => rfl

theorem Passes.idle {reply : Reply} (passes : Passes s reply u) (stopped : s.stopping = true) :
    u.point.begins = false := by
  cases passes with
  | opens opens => exact opens.idle stopped
  | polls polls => exact polls.idle stopped
  | closes closes => exact closes.idle

/-- A move that a stopped worker heeds leads to where nothing is begun. -/
theorem Moves.idle {m : Move} (moves : Moves s m u) (stopped : s.stopping = true)
    (heeded : s.heeds m = true) : u.point.begins = false := by
  cases moves with
  | called unheeded => simp [heeded] at unheeded
  | begins _ begins => exact (begins.stopped stopped).idle
  | passes _ passes => exact passes.idle stopped

/-! ## A stopped worker -/

structure Stopped (s : Session) : Prop where
  standing : Standing s
  holding : Holding s
  stopped : s.stopping = true

namespace Stopped

theorem step (stopped : Stopped s) (m : Move) : Stopped (s.step m).session where
  standing := stopped.standing.step m
  holding := stopped.holding.step stopped.standing.safe m
  stopped := (step_moves stopped.standing.safe m).stopped stopped.stopped

theorem moves (stopped : Stopped s) (m : Move) : Moves s m (s.step m).session :=
  step_moves stopped.standing.safe m

theorem of_course (stopped : Stopped s) (moves : List Move) :
    Stopped (s.history moves).session ∧ ∀ met ∈ s.course moves, Stopped met.1 := by
  let holds (t : Session) (met : List (Session × Move)) : Prop :=
    Stopped t ∧ ∀ seen ∈ met, Stopped seen.1
  have start : holds s [] := ⟨stopped, by simp⟩
  refine history_induction holds start ?_ moves
  rintro before earlier move ⟨here, all⟩
  refine ⟨here.step move, fun seen member => ?_⟩
  rcases List.mem_append.mp member with earlier | last
  · exact all seen earlier
  · obtain rfl := List.mem_singleton.mp last
    exact here

theorem calls (stopped : Stopped s) (m : Move) :
    ∀ request ∈ (s.step m).calls, request.begins = false := by
  intro request member
  rw [calls_step] at member
  split at member
  · next heeded =>
    exact request_of_idle ((stopped.moves m).idle stopped.stopped heeded) request (by simpa using member)
  · cases member

theorem rounds (stopped : Stopped s) {m : Move} {link : Link} (rounds : s.rounds m = some link) :
    (s.step m).session.point.hand = .ended ∧ (s.step m).session.slot = s.slot := by
  have ticks := (Turn.of s).tick_passage link
  rw [← step_of_rounds rounds] at ticks
  have ends := ticks.stopped stopped.stopped
  exact ⟨ends.hand, ends.slot⟩

end Stopped

theorem Standing.close_stopped (standing : Standing s) (holding : Holding s) :
    Stopped s.close.session where
  standing := standing.step .close
  holding := holding.step standing.safe .close
  stopped := s.close_stopping

/-! ## A connection that comes all the same -/

def connects (s : Session) : Move → Bool
  | .answer reply => match s.point, reply with
      | .accepting, .accepted _ _ | .dialling _ _, .done => true
      | _, _ => false
  | _ => false

theorem Stopped.unlistening (stopped : Stopped s) : s.listening = false := by
  refine Bool.eq_false_iff.mpr fun held => ?_
  have going := (stopped.holding.listening held).1
  simp [stopped.stopped] at going

theorem Stopped.refuses (stopped : Stopped s) {m : Move} (connects : s.connects m = true) :
    (s.step m).calls = [.close .raw] := by
  unfold Session.connects at connects
  split at connects
  · split at connects
    · next here =>
      simp [Session.step, resume, proceed, here, Turn.handOver, stopped.unlistening, Turn.establish,
        Turn.beginHandshake, stopped.stopped, Turn.calls_await, request]
    · next here =>
      simp [Session.step, resume, proceed, here, Turn.beginHandshake, stopped.stopped, Turn.calls_await,
        request]
    · cases connects
  · cases connects

/-! ## What is still written -/

/-- What a hand has not written yet. -/
def Hand.unwritten : Hand → List Bytes
  | .taken _ pending => [Frame.encode pending.payload]
  | _ => []

theorem Carries.unwritten {hand after : Hand} {slot left : Slot} {reply : Reply}
    {handed : Option Bytes} {token : Option Value}
    (carries : Carries hand slot reply after left handed token)
    (idle : ∀ link p, after ≠ .taken link p) :
    handed.toList ++ after.unwritten <+: hand.unwritten := by
  cases carries with
  | takes => exact absurd rfl (idle _ _)
  | stops => exact List.nil_prefix
  | _ => exact List.prefix_rfl

theorem Stopped.unwritten (stopped : Stopped s) (m : Move) :
    (s.handedBy m).toList ++ (s.step m).session.point.hand.unwritten <+: s.point.hand.unwritten := by
  have deals := stopped.standing.deals m
  have idle (heeded : s.heeds m = true) := (stopped.moves m).idle stopped.stopped heeded
  generalize (s.step m).session = u at deals idle
  cases deals with
  | called same _ _ none =>
    rw [none, same]
    exact List.prefix_rfl
  | begins free after _ _ _ none =>
    rw [none, free]
    obtain after | after := after <;> (rw [after]; exact List.prefix_rfl)
  | answers same asked answered carries =>
    refine carries.unwritten fun link p taken => ?_
    -- No payload is taken once there was a stop.
    have heeded : s.heeds m = true := by
      subst same
      exact heeds_answer_iff.mpr ⟨_, (answered_eq_some.mp answered).2⟩
    have idle := idle heeded
    rw [point_of_taken taken] at idle
    cases idle

theorem Stopped.written (stopped : Stopped s) (moves : List Move) :
    (s.history moves).written ++ (s.history moves).session.point.hand.unwritten <+:
      s.point.hand.unwritten := by
  let holds (t : Session) (met : List (Session × Move)) : Prop := Stopped t ∧
    (met.filterMap fun seen => seen.1.handedBy seen.2) ++ t.point.hand.unwritten <+:
      s.point.hand.unwritten
  have start : holds s [] := ⟨stopped, List.prefix_rfl⟩
  rw [written_history]
  refine (history_induction holds start ?_ moves).2
  rintro before earlier move ⟨here, all⟩
  refine ⟨here.step move, List.IsPrefix.trans ?_ all⟩
  rw [List.filterMap_append, List.append_assoc]
  exact (List.prefix_append_right_inj _).mpr (here.unwritten move)

end Handover.Session
