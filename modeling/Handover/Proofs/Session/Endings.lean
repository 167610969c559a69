import Handover.Proofs.Session.Changes
import Handover.Proofs.Session.Holding

/-! How a session ends. A worker that has no more work to do has a reason: its session has ended, it was
asked to stop, or an exit has passed its handlers. Asked to stop, it leaves its session in a terminal phase
when it exits, unless a fault cuts its cleanup short; a session that is closed without a live worker ends
at once. -/

set_option autoImplicit false

namespace Handover

namespace Session

/-- Whether a fault at a point of the cleanup ends the worker there. -/
def Point.isCutShort (f : Fault) : Point → Bool
  | .releasingLink _ _ | .closingUnused _ => true
  | .shuttingUnused _ => !f.isSystem
  | _ => false

def cutsShort (s : Session) : Move → Bool
  | .answer (.fault f) => s.point.isCutShort f
  | _ => false

/-- Whether the worker meets an exit while its session is active and nobody has asked it to stop. -/
def deserts (s : Session) : Move → Bool
  | .answer (.fault f) =>
      s.request.isSome && !f.isFailure && !s.phase.isTerminal && !s.stopping
  | _ => false

variable {s u : Session} {gone cut : Prop}

/-! ## The end of the work -/

/-- How a worker stands that has no more work to do. It may lack a reason to end where an exit is `gone`
past its handlers, and leave its session active where the cleanup was `cut`. -/
structure Concluded (gone cut : Prop) (u : Session) : Prop where
  due : u.point.hand = .ended → u.phase.isTerminal = true ∨ u.stopping = true ∨ gone
  settled : u.hasExited = true → u.stopping = true → u.phase.isTerminal = true ∨ cut

theorem hand_of_hasExited (exited : u.hasExited = true) : u.point.hand = .ended := by
  obtain ⟨escape, here⟩ := hasExited_iff.mp exited
  rw [here]
  rfl

theorem Concluded.of_working (working : u.point.hand ≠ .ended) : Concluded gone cut u where
  due := fun ended => absurd ended working
  settled := fun exited => absurd (hand_of_hasExited exited) working

/-- Before its exit a worker need only have its reason. -/
theorem Concluded.of_due (alive : u.hasExited = false)
    (due : u.phase.isTerminal = true ∨ u.stopping = true ∨ gone) : Concluded gone cut u where
  due := fun _ => due
  settled := by
    intro exited
    simp [alive] at exited

theorem settled_concluded (due : s.phase.isTerminal = true ∨ s.stopping = true ∨ gone)
    (escape : Option Fault) : Concluded gone cut (s.settled escape) where
  due := fun _ => due.imp_left fun ended => by simp [Session.settled, ended]
  settled := by
    intro _ stopped
    have stopped : s.stopping = true := stopped
    left
    cases ended : s.phase.isTerminal with
    | true => simp [Session.settled, ended]
    | false =>
      show (if s.stopping && !s.phase.isTerminal then Phase.closed else s.phase).isTerminal = true
      rw [stopped, ended]
      rfl

theorem Unlistens.concluded {escape : Option Fault} (unlistens : Unlistens s escape u)
    (due : s.phase.isTerminal = true ∨ s.stopping = true ∨ gone) : Concluded gone cut u := by
  cases unlistens with
  | listener => exact .of_due rfl due
  | settled => exact settled_concluded due escape

theorem Retires.concluded {escape : Option Fault} (retires : Retires s escape u)
    (due : s.phase.isTerminal = true ∨ s.stopping = true ∨ gone) : Concluded gone cut u := by
  cases retires with
  | link => exact .of_due rfl due
  | unlistens _ unlistens => exact unlistens.concluded due

theorem Finishes.concluded {event : Event} {failed : Bool} (finishes : Finishes s event failed u) :
    Concluded gone cut u := by
  cases finishes with
  | ended terminal retires => exact retires.concluded (.inl terminal)
  | reports _ ending => exact .of_due rfl (.inl (Event.isTerminal_of_ending ending))

theorem Stops.concluded {event : Event} (stops : Stops s event u) : Concluded gone cut u := by
  cases stops with
  | interrupted stopped retires => exact retires.concluded (.inr (.inl stopped))
  | finishes _ finishes => exact finishes.concluded

/-- What an exit leaves behind is all that a fault can be to blame for. -/
def Spared (s : Session) (gone : Prop) (f : Fault) : Prop :=
  f.isFailure = false → s.phase.isTerminal = true ∨ s.stopping = true ∨ gone

theorem Crashes.concluded {f : Fault} (crashes : Crashes s f u) (spared : Spared s gone f) :
    Concluded gone cut u := by
  cases crashes with
  | loses _ finishes => exact finishes.concluded
  | exits other retires => exact retires.concluded (spared other)

theorem Fails.concluded {event : Event} {f : Fault} (fails : Fails s event f u)
    (spared : Spared s gone f) : Concluded gone cut u := by
  cases fails with
  | expected _ stops => exact stops.concluded
  | crashes _ crashes => exact crashes.concluded spared

theorem ReadsFirst.concluded {link : Link} (reads : ReadsFirst s link u) : Concluded gone cut u := by
  cases reads with
  | finished _ stops => exact stops.concluded
  | line | starved => exact .of_working nofun

theorem ReadsFrame.concluded {link : Link} {frame : Frame.Decoder}
    (reads : ReadsFrame s link frame u) : Concluded gone cut u := by
  cases reads <;> exact .of_working nofun

theorem Ticks.concluded {link : Link} (ticks : Ticks s link u) : Concluded gone cut u := by
  cases ticks with
  | stops stopped retires => exact retires.concluded (.inr (.inl stopped))
  | writes => exact .of_working nofun
  | reads _ _ reads => exact reads.concluded

theorem Secures.concluded {setup : Setup} (secures : Secures s setup u) : Concluded gone cut u := by
  cases secures <;> exact .of_working nofun

theorem Adopts.concluded {socket : Socket} (adopts : Adopts s socket u) : Concluded gone cut u := by
  cases adopts with
  | stops stopped retires => exact retires.concluded (.inr (.inl stopped))
  | goesOn => exact .of_working nofun

theorem Accepts.concluded (accepts : Accepts s u) : Concluded gone cut u := by
  cases accepts with
  | stops stopped retires => exact retires.concluded (.inr (.inl stopped))
  | waits => exact .of_working nofun

theorem Listens.concluded (listens : Listens s u) : Concluded gone cut u := by
  cases listens with
  | stops stopped retires => exact retires.concluded (.inr (.inl stopped))
  | advertises | searches => exact .of_working nofun

theorem HandsOver.concluded (hands : HandsOver s u) : Concluded gone cut u := by
  cases hands with
  | closes => exact .of_working nofun
  | secures _ secures => exact secures.concluded

theorem Begins.concluded (begins : Begins s u) : Concluded gone cut u := by
  cases begins with
  | stops stopped retires => exact retires.concluded (.inr (.inl stopped))
  | crashes _ _ _ finishes => exact finishes.concluded
  | listens | dials => exact .of_working nofun

theorem Opens.concluded {reply : Reply} (opens : Opens s reply u) (holding : Holding s)
    (spared : ∀ f, reply = .fault f → Spared s gone f) : Concluded gone cut u := by
  cases opens with
  | bound | found | announces | shut | refused | named => exact .of_working nofun
  | listens _ listens => exact listens.concluded
  | announced _ accepts => exact accepts.concluded
  | waited _ _ accepts => exact accepts.concluded
  | accepted _ hands => exact hands.concluded
  | closed _ secures => exact secures.concluded
  | dialled _ secures => exact secures.concluded
  | secured _ adopts => exact adopts.concluded
  | broken _ _ fails => exact fails.concluded (spared _ rfl)
  | abandoned here fails =>
    -- No exit is what a handshake is abandoned for.
    refine fails.concluded fun other => ?_
    simp [Fault.isFailure_of_isSystem (holding.abandoning _ _ here)] at other
  | unclosed _ fails => exact fails.concluded (spared _ rfl)
  | unnamed _ crashes => exact crashes.concluded (spared _ rfl)
  | unheard _ _ _ fails => exact fails.concluded (spared _ rfl)
  | unreached _ fails => exact fails.concluded (spared _ rfl)

theorem Polls.concluded {reply : Reply} (polls : Polls s reply u)
    (spared : ∀ f, reply = .fault f → Spared s gone f) : Concluded gone cut u := by
  cases polls with
  | established | timedWrite | wrote | timedAfterWrite | silent | timedAfterFrame =>
    exact .of_working nofun
  | timed _ ticks => exact ticks.concluded
  | reportedWrite _ reads => exact reads.concluded
  | received _ reads => exact reads.concluded
  | idled _ _ ticks => exact ticks.concluded
  | timedFrame _ reads => exact reads.concluded
  | receivedFrame _ reads => exact reads.concluded
  | reportedMessage _ ticks => exact ticks.concluded
  | broken _ _ _ fails => exact fails.concluded (spared _ rfl)
  | crashed _ crashes => exact crashes.concluded (spared _ rfl)

theorem Closes.concluded {reply : Reply} (closes : Closes s reply u)
    (due : s.point.hand = .ended → s.phase.isTerminal = true ∨ s.stopping = true ∨ gone)
    (spared : ∀ f, reply = .fault f → Spared s gone f)
    (whole : s.cutsShort (.answer reply) = true → cut) : Concluded gone cut u := by
  have due {point : Point} (here : s.point = point) (ended : point.hand = .ended) :
      s.phase.isTerminal = true ∨ s.stopping = true ∨ gone := due (here ▸ ended)
  cases closes with
  | reported here retires => exact retires.concluded (due here rfl)
  | unreported here retires => exact retires.concluded (due here rfl)
  | crashed _ crashes => exact crashes.concluded (spared _ rfl)
  | released here unlistens => exact unlistens.concluded (due here rfl)
  | shut here => exact .of_due rfl (due here rfl)
  | @closed escape here => exact settled_concluded (due here rfl) escape
  | broken here =>
    have short : cut := by
      obtain ⟨_, _, here⟩ | ⟨_, here, other⟩ | ⟨_, here⟩ := here <;>
        exact whole (by simp [cutsShort, Point.isCutShort, *])
    refine ⟨fun _ => ?_, fun _ _ => .inr short⟩
    obtain ⟨_, _, here⟩ | ⟨_, here, _⟩ | ⟨_, here⟩ := here <;> exact due here rfl

/-! ## Along a history -/

theorem concludeClosing_of_dead {t : Turn} (dead : t.session.isAlive = false) :
    t.concludeClosing.session.phase.isTerminal = true := by
  unfold Turn.concludeClosing Turn.enterIfActive
  rw [dead, if_neg Bool.false_ne_true]
  split
  · next ended => exact ended
  · rfl

/-- A call to close without a live worker ends the session at once. -/
theorem Holding.close_of_dead (holding : Holding s) (standing : Standing s)
    (going : s.stopping = false) (dead : s.isAlive = false) :
    s.close.session.phase.isTerminal = true := by
  have there : s.point = .ready ∨ ∃ escape, s.point = .exited escape := by
    obtain ready | started := standing.started
    · exact .inl ready
    · have exited : s.hasExited = true := by simpa [isAlive, started] using dead
      exact .inr (hasExited_iff.mp exited)
  -- Nothing is held there, so the call has nothing to wait for.
  obtain ⟨idle, free⟩ : s.listening = false ∧ s.handshaking = false := by
    obtain here | ⟨_, here⟩ := there <;> exact ⟨holding.idle here rfl, holding.free here rfl⟩
  let stopped := (((Turn.of s).note (.closing s.role)).update
    fun s => { s with stopping := true }).detach
  have shape : stopped.session = { s with stopping := true, sink := s.sink.release.detach } :=
    session_detach _
  have same : s.close = stopped.concludeClosing := by
    have free : stopped.session.handshaking = false := by rw [shape]; exact free
    simp [close, going, idle, stopped, Turn.interrupt, free]
  rw [same]
  exact concludeClosing_of_dead (by rw [shape]; exact dead)

structure Ending (s : Session) (met : List (Session × Move)) : Prop where
  standing : Standing s
  holding : Holding s
  due : s.point.hand = .ended → s.phase.isTerminal = true ∨ s.stopping = true ∨
    ∃ seen ∈ met, seen.1.deserts seen.2 = true
  /-- A session that was asked to stop has ended when it has no live worker. -/
  settled : s.stopping = true → s.isAlive = false →
    s.phase.isTerminal = true ∨ ∃ seen ∈ met, seen.1.cutsShort seen.2 = true

namespace Ending

variable {met : List (Session × Move)}

theorem spared {f : Fault} (heeded : s.heeds (.answer (.fault f)) = true)
    (deserted : s.deserts (.answer (.fault f)) = true → gone) : Spared s gone f := by
  intro other
  cases ended : s.phase.isTerminal with
  | true => exact .inl rfl
  | false =>
    cases stopped : s.stopping with
    | true => exact .inr (.inl rfl)
    | false =>
      obtain ⟨request, asked, -⟩ := heeds_answer_iff.mp heeded
      exact .inr (.inr (deserted (by simp [deserts, asked, other, ended, stopped])))

theorem passes (ending : Ending s met) {reply : Reply} (heeded : s.heeds (.answer reply) = true)
    (passes : Passes s reply u)
    (earlier : (∃ seen ∈ met, seen.1.deserts seen.2 = true) → gone)
    (deserted : s.deserts (.answer reply) = true → gone)
    (short : s.cutsShort (.answer reply) = true → cut) : Concluded gone cut u := by
  have spared : ∀ f, reply = .fault f → Spared s gone f := by
    rintro f rfl
    exact Ending.spared heeded deserted
  cases passes with
  | opens opens => exact opens.concluded ending.holding spared
  | polls polls => exact polls.concluded spared
  | closes closes =>
    exact closes.concluded (fun ended => (ending.due ended).imp_right (Or.imp_right earlier)) spared short

theorem due_called (ending : Ending s met) {m : Move} (called : Called s m u)
    (ended : u.point.hand = .ended) : u.phase.isTerminal = true ∨ u.stopping = true ∨
      ∃ seen ∈ met, seen.1.deserts seen.2 = true := by
  rw [called.point] at ended
  obtain same | ⟨-, -, -, stopped⟩ := called.phase
  · rw [same]
    exact (ending.due ended).imp_right (Or.imp_left called.stopping)
  · exact .inr (.inl stopped)

/-- A call leaves no session behind that was asked to stop and has no live worker to end it. -/
theorem settled_called (ending : Ending s met) {m : Move} (called : Called s m (s.step m).session)
    (stopped : (s.step m).session.stopping = true) (dead : (s.step m).session.isAlive = false) :
    (s.step m).session.phase.isTerminal = true ∨ ∃ seen ∈ met, seen.1.cutsShort seen.2 = true := by
  -- No call ends the life of a worker.
  have before : s.isAlive = false := by
    cases started : s.started with
    | false => simp [isAlive, started]
    | true =>
      have exited : s.hasExited = true := by
        simpa [isAlive, called.started started, hasExited, called.point] using dead
      simp [isAlive, exited]
  cases asked : s.stopping with
  | true =>
    have tells := ending.standing.tells_step m
    exact (ending.settled asked before).imp_left fun ended => by rwa [(tells.of_terminal ended).1]
  | false =>
    obtain earlier | rfl := called.stops stopped
    · simp [asked] at earlier
    · exact .inl (ending.holding.close_of_dead ending.standing asked before)

theorem step (ending : Ending s met) (m : Move) :
    Ending (s.step m).session (met ++ [(s, m)]) := by
  have moves := step_moves ending.standing.safe m
  -- A worker that runs was started.
  have settled (concluded : Concluded (∃ seen ∈ met ++ [(s, m)], seen.1.deserts seen.2 = true)
      (∃ seen ∈ met ++ [(s, m)], seen.1.cutsShort seen.2 = true) (s.step m).session)
      (steady : (s.step m).session.steady = s.steady) (started : s.started = true) :
      Ending (s.step m).session (met ++ [(s, m)]) := by
    have started : (s.step m).session.started = true :=
      (congrArg Steady.started steady).trans started
    exact ⟨ending.standing.step m, ending.holding.step ending.standing.safe m, concluded.due,
      fun stopped dead => concluded.settled (by simpa [isAlive, started] using dead) stopped⟩
  cases moves with
  | called _ called =>
    exact ⟨ending.standing.step m, ending.holding.step ending.standing.safe m,
      fun ended => (ending.due_called called ended).imp_right (Or.imp_right met_earlier),
      fun stopped dead => (ending.settled_called called stopped dead).imp_right met_earlier⟩
  | begins runnable begins =>
    exact settled begins.concluded begins.steady (isRunnable_iff.mp runnable).1
  | passes heeded passes =>
    obtain ⟨request, asked, -⟩ := heeds_answer_iff.mp heeded
    have working : s.point ≠ .ready := by
      rintro ready
      simp [Session.request, ready] at asked
    refine settled ?_ passes.steady (ending.standing.working working).started
    exact ending.passes heeded passes met_earlier (fun deserts => met_last deserts)
      fun short => met_last short

end Ending

theorem Plan.ending (plan : Plan) (moves : List Move) :
    Ending (plan.session.history moves).session (plan.session.course moves) :=
  history_induction Ending
    { standing := plan.standing
      holding := plan.holding
      due := nofun
      settled := nofun }
    (fun _ _ move ending => ending.step move) moves

/-- The phase of a session only goes forward, and a terminal one is not left, whatever happens. When the
worker exits the phase is terminal, unless it has met an exit, or a fault has cut short the cleanup of a
session that was asked to stop. -/
theorem phases_forward (plan : Plan) (moves : List Move) :
    let ended := plan.session.history moves
    Climbs .initial ended.changes ended.session.phase ∧
      (∀ earlier later, moves = earlier ++ later →
        (plan.session.history earlier).session.phase.isTerminal = true →
        ((plan.session.history earlier).session.history later).changes = [] ∧
          ended.session.phase = (plan.session.history earlier).session.phase) ∧
      (ended.session.hasExited = true → ended.session.phase.isTerminal = true ∨
        (∃ met ∈ plan.session.course moves, met.1.deserts met.2 = true) ∨
        ended.session.stopping = true ∧
          ∃ met ∈ plan.session.course moves, met.1.cutsShort met.2 = true) := by
  intro ended
  refine ⟨plan.standing.climbs_history moves, ?_, ?_⟩
  · rintro earlier later rfl terminal
    have climbs := (plan.standing.history earlier).climbs_history later
    obtain ⟨none, same⟩ := climbs.of_terminal terminal
    refine ⟨none, ?_⟩
    rw [← same]
    exact congrArg Session.phase (session_history_append plan.session earlier later)
  · intro exited
    have ending := plan.ending moves
    obtain terminal | stopped | deserted := ending.due (hand_of_hasExited exited)
    · exact .inl terminal
    · have dead : ended.session.isAlive = false := by simp [isAlive, exited]
      exact (ending.settled stopped dead).imp_right fun short => .inr ⟨stopped, short⟩
    · exact .inr (.inl deserted)

/-- The worker of a listener is made to exit by the delivery of its first event. -/
def exitAnnouncing : List Move := [.start, .run, .answer .done, .answer .done,
  .answer (.address "10.0.0.1"), .answer (.port 40000), .answer (.fault ⟨.exit, ""⟩), .answer .done,
  .answer .done]

/-- The worker has exited, no socket has failed to close, and the session goes on listening. -/
theorem exits_listening :
    let session := Plan.plainListener.session
    (∀ socket f, (.close socket, .fault f) ∉
        session.transcript exitAnnouncing ++ session.callerTranscript exitAnnouncing) ∧
      (session.history exitAnnouncing).session.hasExited = true ∧
      (session.history exitAnnouncing).session.phase = .listening := by
  intro session
  have exchanges : Plan.plainListener.session.transcript exitAnnouncing ++
      Plan.plainListener.session.callerTranscript exitAnnouncing =
      [(.bind session.settings.bindHost session.settings.port, .done),
        (.setTimeout .listener session.settings.readTimeout, .done),
        (.findAddress, .address "10.0.0.1"), (.boundPort, .port 40000),
        (.emit (.listening (Bundle.write ⟨"10.0.0.1", 40000, session.secret⟩ session.settings.scheme)),
          .fault ⟨.exit, ""⟩),
        (.shutDown .listener, .done), (.close .listener, .done)] := rfl
  rw [exchanges]
  exact ⟨by simp, rfl, rfl⟩

end Session

end Handover
