import Handover.Proofs.Session.Waiting

/-! How much a worker has still to do. Every answer brings the worker nearer to its end, except that a network
can give it more to do: bytes to read, and timeouts after which it asks again. What it has to do grows by no
more than what the network supplies. -/

set_option autoImplicit false

namespace Handover

/-- A reader has as much left as the bytes that it holds, and the end of its stream. -/
@[simp] def LineReader.left (r : LineReader) : Nat := r.buffered + if r.ended then 0 else 1

theorem LineReader.left_receive {r : LineReader} (live : r.ended = false) (chunk : Bytes) :
    16 * (r.receive chunk).left < 16 * r.left + 17 * chunk.length := by
  cases chunk with
  | nil =>
    simp only [left, receive, buffered, live, List.isEmpty_nil, if_true, Bool.false_eq_true, if_false]
    omega
  | cons first rest =>
    simp only [left, receive, buffered, live, List.isEmpty_cons, Bool.false_eq_true, if_false,
      List.length_append, List.length_cons]
    omega

namespace Session

/-! ## The measure -/

@[simp] def Point.climb : Point → Nat
  | .ready => 39
  | .binding => 38
  | .timingListener => 37
  | .findingAddress => 36
  | .readingPort _ => 35
  | .announcing _ => 34
  | .accepting => 33
  | .shuttingListener => 32
  | .closingListener | .dialling _ _ => 31
  | .handshaking _ => 30
  | .abandoning _ _ => 29
  | _ => 0

/-- How much a worker that waits at a point has still to do with what it has received. -/
@[simp] def Point.remaining (point : Point) : Nat :=
  point.climb + point.distance + match point.view with
    | some v => 16 * v.reader.left
    | none => 0

def supply : Request × Reply → Nat
  | (.accept, .fault f) => if f.isTimeout then 1 else 0
  | (.receive _ _, .fault f) => if f.isTimeout then 5 else 0
  | (.receive _ _, .chunk bytes) => 17 * bytes.length
  | _ => 0

variable {s u : Session} {link : Link} {request : Request} {reply : Reply}

theorem Point.remaining_of_ended {point : Point} (ended : point.hand = .ended) :
    point.remaining = point.distance := by
  cases point <;> first | cases ended; done | simp

/-! ## The end of the work -/

theorem Retires.remaining_le {escape : Option Fault} (retires : Retires s escape u) :
    u.point.remaining ≤ 3 := by
  rw [Point.remaining_of_ended retires.ends.hand]
  exact retires.distance_le

theorem Finishes.remaining_le {event : Event} {failed : Bool} (finishes : Finishes s event failed u) :
    u.point.remaining ≤ 4 := by
  cases finishes with
  | ended _ retires => exact Nat.le_succ_of_le retires.remaining_le
  | reports => exact Nat.le_refl _

theorem Crashes.remaining_le {f : Fault} (crashes : Crashes s f u) : u.point.remaining ≤ 4 := by
  cases crashes with
  | loses _ finishes => exact finishes.remaining_le
  | exits _ retires => exact Nat.le_succ_of_le retires.remaining_le

theorem Stops.remaining_le {event : Event} (stops : Stops s event u) : u.point.remaining ≤ 4 := by
  cases stops with
  | interrupted _ retires => exact Nat.le_succ_of_le retires.remaining_le
  | finishes _ finishes => exact finishes.remaining_le

theorem Fails.remaining_le {event : Event} {f : Fault} (fails : Fails s event f u) :
    u.point.remaining ≤ 4 := by
  cases fails with
  | expected _ stops => exact stops.remaining_le
  | crashes _ crashes => exact crashes.remaining_le

/-! ## Polling -/

theorem ReadsFirst.remaining_le (reads : ReadsFirst s link u) :
    u.point.remaining ≤ 16 * link.reader.left + 5 := by
  cases reads with
  | line given =>
    have shorter := LineReader.buffered_of_next given
    simp only [Point.remaining, Point.climb, Point.distance, Point.view, LineReader.left,
      LineReader.ended_of_next given]
    omega
  | finished _ stops => exact Nat.le_trans stops.remaining_le (by omega)
  | starved => simp [Nat.add_comm]

theorem ReadsFrame.remaining_le {frame : Frame.Decoder} (reads : ReadsFrame s link frame u) :
    u.point.remaining ≤ 16 * link.reader.left + 13 := by
  -- The frame takes lines out of the buffer and leaves the end of the stream where it is.
  cases reads with
  | message reached =>
    obtain ⟨given, yields⟩ := LineReader.yields_of_message reached
    have shorter := yields.shorter
    simp only [Point.remaining, Point.climb, Point.distance, Point.view, LineReader.left, yields.ended]
    omega
  | starved reached =>
    obtain ⟨given, yields, -⟩ := LineReader.yields_of_starved reached
    have shorter := yields.shorter
    simp only [Point.remaining, Point.climb, Point.distance, Point.view, LineReader.left, yields.ended]
    omega

theorem Ticks.remaining_le (ticks : Ticks s link u) : u.point.remaining ≤ 16 * link.reader.left + 9 := by
  cases ticks with
  | stops _ retires => exact Nat.le_trans retires.remaining_le (by omega)
  | writes => simp [Nat.add_comm]
  | reads _ _ reads => exact Nat.le_trans reads.remaining_le (by omega)

theorem Point.remaining_of_polled {point : Point} (polled : point.polled = some link) :
    5 ≤ point.remaining := by
  cases point <;> simp [Point.polled] at polled <;> simp <;> omega

theorem Polls.remaining_lt (polls : Polls s reply u) (asked : s.request = some request)
    (starves : s.point.Starves) :
    u.point.remaining < s.point.remaining + supply (request, reply) := by
  unfold Session.request at asked
  cases polls with
  | established here | timedWrite here | wrote here | timedAfterWrite here | timedAfterFrame here
  | silent here =>
    rw [here]
    simp only [Point.remaining, Point.climb, Point.distance, Point.view]
    omega
  | timed here goes | reportedMessage here goes | reportedWrite here goes | timedFrame here goes =>
    have bound := goes.remaining_le
    rw [here]
    simp only [Point.remaining, Point.climb, Point.distance, Point.view] at bound ⊢
    omega
  | @received _ bytes _ here reads =>
    have bound := reads.remaining_le
    rw [here] at asked starves ⊢
    cases asked
    have less := LineReader.left_receive (LineReader.not_ended_of_starved starves) bytes
    simp only [supply, Point.remaining, Point.climb, Point.distance, Point.view] at bound ⊢
    omega
  | @receivedFrame _ _ bytes _ here reads =>
    have bound := reads.remaining_le
    rw [here] at asked starves ⊢
    cases asked
    have less := LineReader.left_receive (LineReader.not_ended_of_starved starves) bytes
    simp only [supply, Point.remaining, Point.climb, Point.distance, Point.view] at bound ⊢
    omega
  | idled here late ticks =>
    have bound := ticks.remaining_le
    rw [here] at asked ⊢
    cases asked
    simp only [supply, late, if_true]
    simp only [Point.remaining, Point.climb, Point.distance, Point.view] at bound ⊢
    omega
  | broken polled _ _ fails =>
    have bound := fails.remaining_le
    have enough := Point.remaining_of_polled polled
    omega
  | crashed here crashes =>
    have bound := crashes.remaining_le
    obtain ⟨_, _, here⟩ | ⟨_, here⟩ := here <;>
    · rw [here]
      simp only [Point.remaining, Point.climb, Point.distance, Point.view] at bound ⊢
      omega

/-! ## Setting up -/

theorem Secures.remaining_le {setup : Setup} (secures : Secures s setup u) : u.point.remaining ≤ 30 := by
  cases secures <;> simp

theorem Adopts.remaining_le {socket : Socket} (adopts : Adopts s socket u) : u.point.remaining ≤ 28 := by
  cases adopts with
  | stops _ retires => exact Nat.le_trans retires.remaining_le (by omega)
  | goesOn => exact Nat.le_refl _

theorem Accepts.remaining_le (accepts : Accepts s u) : u.point.remaining ≤ 33 := by
  cases accepts with
  | stops _ retires => exact Nat.le_trans retires.remaining_le (by omega)
  | waits => exact Nat.le_refl _

theorem Listens.remaining_le (listens : Listens s u) : u.point.remaining ≤ 36 := by
  cases listens with
  | stops _ retires => exact Nat.le_trans retires.remaining_le (by omega)
  | advertises | searches => simp

theorem HandsOver.remaining_le (hands : HandsOver s u) : u.point.remaining ≤ 32 := by
  cases hands with
  | closes => exact Nat.le_refl _
  | secures _ secures => exact Nat.le_trans secures.remaining_le (by omega)

theorem Begins.remaining_le (begins : Begins s u) : u.point.remaining ≤ 38 := by
  cases begins with
  | stops _ retires => exact Nat.le_trans retires.remaining_le (by omega)
  | crashes _ _ _ finishes => exact Nat.le_trans finishes.remaining_le (by omega)
  | listens | dials => simp

theorem Point.remaining_of_listening {point : Point} (listens : point.isListening = true) :
    31 ≤ point.remaining := by
  cases point <;> first | cases listens; done | simp

theorem Opens.remaining_lt (opens : Opens s reply u) (asked : s.request = some request) :
    u.point.remaining < s.point.remaining + supply (request, reply) := by
  unfold Session.request at asked
  cases opens with
  | bound here | found here | announces here | shut here | refused here | named here =>
    rw [here]
    simp only [Point.remaining, Point.climb, Point.distance, Point.view]
    omega
  | listens here goes | announced here goes | accepted here goes | closed here goes | dialled here goes =>
    have bound := goes.remaining_le
    rw [here]
    exact Nat.lt_add_right _ (Nat.lt_succ_of_le bound)
  | waited here late accepts =>
    have bound := accepts.remaining_le
    rw [here] at asked ⊢
    cases asked
    simp only [supply, late, if_true]
    exact Nat.lt_succ_of_le bound
  | secured here goes | unnamed here goes | broken here _ goes | abandoned here goes | unclosed here goes
  | unreached here goes =>
    have bound := goes.remaining_le
    rw [here]
    simp only [Point.remaining, Point.climb, Point.distance, Point.view] at bound ⊢
    omega
  | unheard listens _ _ fails =>
    have bound := fails.remaining_le
    have enough := Point.remaining_of_listening listens
    omega

/-! ## One step -/

/-- A session that has ended reports nothing more, whatever its worker meets. -/
theorem Crashes.retires {f : Fault} (crashes : Crashes s f u) (ended : s.phase.isTerminal = true) :
    ∃ escape, Retires s escape u := by
  cases crashes with
  | loses _ finishes =>
    cases finishes with
    | ended _ retires => exact ⟨_, retires⟩
    | reports active => simp [ended] at active
  | exits _ retires => exact ⟨_, retires⟩

theorem Closes.remaining_lt (closes : Closes s reply u) (holding : Holding s) :
    u.point.remaining < s.point.remaining := by
  have before := Point.remaining_of_ended closes.hand_eq
  cases closes with
  | reported here retires | unreported here retires =>
    have bound := retires.remaining_le
    rw [before, here]
    exact Nat.lt_succ_of_le bound
  | crashed here crashes =>
    -- The end that was to be reported is that of a session in a terminal phase.
    obtain ⟨escape, retires⟩ := crashes.retires (holding.reporting _ _ here)
    have bound := retires.remaining_le
    rw [before, here]
    exact Nat.lt_succ_of_le bound
  | released here unlistens =>
    have bound := unlistens.distance_le
    rw [before, Point.remaining_of_ended unlistens.ends.hand, here]
    exact Nat.lt_succ_of_le bound
  | shut here | closed here =>
    rw [before, here]
    exact Nat.lt_succ_self _
  | broken here =>
    rw [before]
    obtain ⟨_, _, here⟩ | ⟨_, here, _⟩ | ⟨_, here⟩ := here <;>
    · rw [here]
      exact Nat.succ_pos _

def supplied (s : Session) (m : Move) : Nat := ((s.answered m).map supply).getD 0

structure Waiting (s : Session) : Prop where
  standing : Standing s
  holding : Holding s
  starves : s.point.Starves

/-- An answer leaves less to do, but for what it supplies; nothing else changes what there is to do. -/
theorem Waiting.remaining_step (waiting : Waiting s) (m : Move) :
    (s.step m).session.point.remaining + (if s.heeds m then 1 else 0) ≤
      s.point.remaining + s.supplied m := by
  have moves := step_moves waiting.standing.safe m
  generalize (s.step m).session = u at moves
  cases moves with
  | called unheeded called =>
    rw [unheeded, called.point]
    exact Nat.le_add_right _ _
  | begins runnable begins =>
    have bound := begins.remaining_le
    rw [show s.heeds .run = true from runnable, (isRunnable_iff.mp runnable).2]
    exact Nat.le_add_right_of_le (Nat.succ_le_succ bound)
  | passes heeded passes =>
    obtain ⟨request, asked, fits⟩ := heeds_answer_iff.mp heeded
    rw [heeded, if_pos rfl, supplied, answered_eq_some.mpr ⟨rfl, asked, fits⟩]
    cases passes with
    | opens opens => exact opens.remaining_lt asked
    | polls polls => exact polls.remaining_lt asked waiting.starves
    | closes closes => exact Nat.lt_add_right _ (closes.remaining_lt waiting.holding)

theorem Plan.waiting (plan : Plan) (moves : List Move) :
    Waiting (plan.session.history moves).session :=
  ⟨plan.standing.history moves, plan.holding_history moves, (plan.tuned moves).intake.starves⟩

end Session

end Handover
