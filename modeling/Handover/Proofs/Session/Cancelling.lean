import Handover.Proofs.Session.Endings
import Handover.Proofs.Session.Stopping

/-! Failures of a session that was asked to stop. They count as interruptions and are not recorded, but for
a crash: the handler for all faults does not ask whether there was a stop. -/

set_option autoImplicit false

namespace Handover

theorem Phase.report_of_active {phase : Phase} (active : phase.isTerminal = false) :
    phase.report = none := by
  cases phase <;> first | rfl | cases active

namespace Session

/-- Whether a fault at a point is left to the handler for all failures. -/
def Point.crashes (f : Fault) : Point → Bool
  | .ready | .reportingEnd _ _ | .releasingLink _ _ | .shuttingUnused _ | .closingUnused _
  | .exited _ => false
  | .namingPeer _ | .reportingPeer _ _ | .timingLink _ => f.isFailure
  | _ => f.isFailure && !f.isSystem

def crashes (s : Session) : Move → Bool
  | .answer (.fault f) => s.point.crashes f
  | _ => false

variable {s u : Session}

/-- The phase is that of a lost session exactly if there was a crash, and that of no other failure. -/
def Spares (crashed : Bool) (phase : Phase) : Prop :=
  phase.report = bif crashed then some .lost else none

theorem Spares.of_active {phase : Phase} (active : phase.isTerminal = false) : Spares false phase :=
  Phase.report_of_active active

namespace Spares

variable {crashed : Bool} {phase : Phase}

theorem lost_iff (spares : Spares crashed phase) : phase = .lost ↔ crashed = true := by
  cases crashed <;> cases phase <;> simp [Spares, Phase.report] at spares ⊢

theorem ne_failed (spares : Spares crashed phase) :
    phase ≠ .connectFailed ∧ phase ≠ .listenFailed := by
  cases crashed <;> cases phase <;> simp [Spares, Phase.report] at spares ⊢

theorem closed_or_lost (spares : Spares crashed phase) (ended : phase.isTerminal = true) :
    phase = .closed ∨ phase = .lost := by
  obtain ⟨connected, listened⟩ := spares.ne_failed
  cases phase <;> simp [Phase.isTerminal] at ended connected listened ⊢

end Spares

theorem settled_spares (active : s.phase.isTerminal = false) (escape : Option Fault) :
    Spares false (s.settled escape).phase := by
  show (if s.stopping && !s.phase.isTerminal then Phase.closed else s.phase).report = none
  split
  · rfl
  · exact Phase.report_of_active active

theorem Unlistens.spares {escape : Option Fault} (unlistens : Unlistens s escape u)
    (active : s.phase.isTerminal = false) : Spares false u.phase := by
  cases unlistens with
  | listener => exact .of_active active
  | settled => exact settled_spares active escape

theorem Retires.spares {escape : Option Fault} (retires : Retires s escape u)
    (active : s.phase.isTerminal = false) : Spares false u.phase := by
  cases retires with
  | link => exact .of_active active
  | unlistens _ unlistens => exact unlistens.spares active

theorem Finishes.spares {failed : Bool} (finishes : Finishes s .lost failed u)
    (active : s.phase.isTerminal = false) : Spares true u.phase := by
  cases finishes with
  | ended terminal => simp [active] at terminal
  | reports _ ending =>
    cases ending
    rfl

theorem Stops.spares {event : Event} (stops : Stops s event u) (stopped : s.stopping = true)
    (active : s.phase.isTerminal = false) : Spares false u.phase := by
  cases stops with
  | interrupted _ retires => exact retires.spares active
  | finishes going => simp [stopped] at going

theorem Crashes.spares {f : Fault} (crashes : Crashes s f u) (active : s.phase.isTerminal = false) :
    Spares f.isFailure u.phase := by
  cases crashes with
  | loses failure finishes =>
    rw [failure]
    exact finishes.spares active
  | exits other retires =>
    rw [other]
    exact retires.spares active

theorem Fails.spares {event : Event} {f : Fault} (fails : Fails s event f u)
    (stopped : s.stopping = true) (active : s.phase.isTerminal = false) :
    Spares (f.isFailure && !f.isSystem) u.phase := by
  cases fails with
  | expected system stops =>
    rw [system, Bool.not_true, Bool.and_false]
    exact stops.spares stopped active
  | crashes other crashes =>
    rw [other, Bool.not_false, Bool.and_true]
    exact crashes.spares active

theorem ReadsFirst.spares {link : Link} (reads : ReadsFirst s link u) (stopped : s.stopping = true)
    (active : s.phase.isTerminal = false) : Spares false u.phase := by
  cases reads with
  | finished _ stops => exact stops.spares stopped active
  | line | starved => exact .of_active active

theorem ReadsFrame.spares {link : Link} {frame : Frame.Decoder} (reads : ReadsFrame s link frame u)
    (active : s.phase.isTerminal = false) : Spares false u.phase := by
  cases reads <;> exact .of_active active

theorem Ticks.spares {link : Link} (ticks : Ticks s link u) (stopped : s.stopping = true)
    (active : s.phase.isTerminal = false) : Spares false u.phase := by
  cases ticks with
  | stops _ retires => exact retires.spares active
  | writes going | reads going => simp [stopped] at going

theorem Secures.spares {setup : Setup} (secures : Secures s setup u)
    (active : s.phase.isTerminal = false) : Spares false u.phase := by
  cases secures <;> exact .of_active active

theorem Adopts.spares {socket : Socket} (adopts : Adopts s socket u)
    (active : s.phase.isTerminal = false) : Spares false u.phase := by
  cases adopts with
  | stops _ retires => exact retires.spares active
  | goesOn => exact .of_active active

theorem Accepts.spares (accepts : Accepts s u) (active : s.phase.isTerminal = false) :
    Spares false u.phase := by
  cases accepts with
  | stops _ retires => exact retires.spares active
  | waits => exact .of_active active

theorem Listens.spares (listens : Listens s u) (active : s.phase.isTerminal = false) :
    Spares false u.phase := by
  cases listens with
  | stops _ retires => exact retires.spares active
  | advertises | searches => exact .of_active active

theorem HandsOver.spares (hands : HandsOver s u) (active : s.phase.isTerminal = false) :
    Spares false u.phase := by
  cases hands with
  | closes => exact .of_active active
  | secures _ secures => exact secures.spares rfl

theorem Begins.spares (begins : Begins s u) (stopped : s.stopping = true)
    (active : s.phase.isTerminal = false) : Spares false u.phase := by
  cases begins with
  | stops _ retires => exact retires.spares active
  | listens going | dials going | crashes going => simp [stopped] at going

theorem crashes_fault {point : Point} (here : s.point = point) (f : Fault) :
    s.crashes (.answer (.fault f)) = point.crashes f := by rw [crashes, here]

theorem crashes_system {point : Point} {f : Fault} (here : s.point = point)
    (guarded : point.crashes f = (f.isFailure && !f.isSystem)) (system : f.isSystem = true) :
    s.crashes (.answer (.fault f)) = false := by
  rw [crashes_fault here, guarded, system, Bool.not_true, Bool.and_false]

theorem Holding.spares_opens (holding : Holding s) {reply : Reply} (opens : Opens s reply u)
    (stopped : s.stopping = true) (active : s.phase.isTerminal = false) :
    Spares (s.crashes (.answer reply)) u.phase := by
  cases opens with
  | bound | found => exact .of_active active
  | announces | named => exact .of_active rfl
  | listens _ listens => exact listens.spares active
  | announced _ accepts => exact accepts.spares active
  | waited here late accepts =>
    rw [crashes_system here rfl (Fault.isSystem_of_isTimeout late)]
    exact accepts.spares active
  | accepted _ hands => exact hands.spares active
  | shut here done =>
    obtain rfl | ⟨f, rfl, system⟩ := done
    · exact .of_active active
    · rw [crashes_system here rfl system]
      exact .of_active active
  | closed _ secures => exact secures.spares rfl
  | dialled _ secures => exact secures.spares active
  | secured _ adopts => exact adopts.spares active
  | refused here system =>
    rw [crashes_system here rfl system]
    exact .of_active active
  | broken here _ fails =>
    rw [crashes_fault here]
    exact fails.spares stopped active
  | abandoned here fails =>
    -- What a handshake is abandoned for is a fault of input and output.
    have spares := fails.spares stopped active
    rwa [holding.abandoning _ _ here, Bool.not_true, Bool.and_false] at spares
  | unclosed here fails =>
    rw [crashes_fault here]
    exact fails.spares stopped active
  | unnamed here crashes =>
    rw [crashes_fault here]
    exact crashes.spares active
  | @unheard f _ listens _ _ fails =>
    have guarded : s.point.crashes f = (f.isFailure && !f.isSystem) := by
      cases here : s.point <;> first | rfl | (rw [here] at listens; cases listens)
    rw [crashes_fault rfl, guarded]
    exact fails.spares stopped active
  | unreached here fails =>
    rw [crashes_fault here]
    exact fails.spares stopped active

theorem Polls.spares {reply : Reply} (polls : Polls s reply u) (stopped : s.stopping = true)
    (active : s.phase.isTerminal = false) : Spares (s.crashes (.answer reply)) u.phase := by
  cases polls with
  | established | timedWrite | wrote | timedAfterWrite | timedAfterFrame => exact .of_active active
  | timed _ ticks => exact ticks.spares stopped active
  | reportedWrite _ reads => exact reads.spares stopped active
  | received _ reads => exact reads.spares stopped active
  | idled here late ticks =>
    rw [crashes_system here rfl (Fault.isSystem_of_isTimeout late)]
    exact ticks.spares stopped active
  | timedFrame _ reads => exact reads.spares active
  | receivedFrame _ reads => exact reads.spares active
  | silent here late =>
    rw [crashes_system here rfl (Fault.isSystem_of_isTimeout late)]
    exact .of_active active
  | reportedMessage _ ticks => exact ticks.spares stopped active
  | @broken _ f _ polled _ _ fails =>
    have guarded : s.point.crashes f = (f.isFailure && !f.isSystem) := by
      cases here : s.point <;> first | rfl | (rw [here] at polled; cases polled)
    rw [crashes_fault rfl, guarded]
    exact fails.spares stopped active
  | crashed here crashes =>
    obtain ⟨_, _, here⟩ | ⟨_, here⟩ := here <;>
      (rw [crashes_fault here]; exact crashes.spares active)

theorem Holding.spares_closes (holding : Holding s) {reply : Reply} (closes : Closes s reply u)
    (active : s.phase.isTerminal = false) : Spares (s.crashes (.answer reply)) u.phase := by
  cases closes with
  | reported here | unreported here | crashed here =>
    -- The end is reported in a terminal phase.
    have terminal := holding.reporting _ _ here
    simp [active] at terminal
  | released _ unlistens => exact unlistens.spares active
  | closed => exact settled_spares active _
  | shut here done =>
    obtain rfl | ⟨f, rfl, -⟩ := done
    · exact .of_active active
    · rw [crashes_fault here]
      exact .of_active active
  | broken here =>
    obtain ⟨_, _, here⟩ | ⟨_, here, _⟩ | ⟨_, here⟩ := here <;>
      (rw [crashes_fault here]; exact .of_active active)

/-! ## Along a history -/

namespace Standing

theorem not_crashes (standing : Standing s) (ended : s.phase.isTerminal = true) (m : Move) :
    s.crashes m = false := by
  cases m with
  | answer reply =>
    cases reply with
    | fault f =>
      -- Wherever a fault can make the worker crash, the phase is still active.
      cases here : s.point <;> first | exact crashes_fault here f | skip
      all_goals
        rw [standing.phase_eq here rfl] at ended
        cases ended
    | _ => rfl
  | _ => rfl

end Standing

theorem Stopped.spares (stopped : Stopped s) {crashed : Bool} (spares : Spares crashed s.phase)
    (m : Move) : Spares (crashed || s.crashes m) (s.step m).session.phase := by
  obtain ⟨standing, holding, asked⟩ := stopped
  cases ended : s.phase.isTerminal with
  | true =>
    rw [((standing.tells_step m).of_terminal ended).1, standing.not_crashes ended m, Bool.or_false]
    exact spares
  | false =>
    obtain rfl : crashed = false := by
      cases crashed with
      | false => rfl
      | true => simp [Spares, Phase.report_of_active ended] at spares
    have moves := step_moves standing.safe m
    rw [Bool.false_or]
    generalize (s.step m).session = u at moves
    cases moves with
    | called unheeded called =>
      have quiet : s.crashes m = false := by
        cases m with
        | answer reply =>
          cases reply with
          | fault f =>
            cases here : s.point <;> first | exact crashes_fault here f | skip
            all_goals simp [heeds, request, here] at unheeded
          | _ => rfl
        | _ => rfl
      rw [quiet]
      obtain same | ⟨-, -, closed, -⟩ := called.phase
      · rw [same]
        exact .of_active ended
      · rw [closed]
        rfl
    | begins _ begins => exact begins.spares asked ended
    | passes _ passes =>
      cases passes with
      | opens opens => exact holding.spares_opens opens asked ended
      | polls polls => exact polls.spares asked ended
      | closes closes => exact holding.spares_closes closes ended

/-- What holds of a session from the call that asks it to stop while it is active. -/
structure Cancelled (s : Session) (met : List (Session × Move)) : Prop where
  stopped : Stopped s
  spares : Spares (met.any fun seen => seen.1.crashes seen.2) s.phase

theorem Cancelled.history (cancelled : Cancelled s []) (later : List Move) :
    Cancelled (s.history later).session (s.course later) := by
  refine history_induction Cancelled cancelled ?_ later
  rintro before earlier move ⟨stopped, spares⟩
  refine ⟨stopped.step move, ?_⟩
  rw [List.any_append]
  simpa using stopped.spares spares move

theorem Standing.cancelled (standing : Standing s) (holding : Holding s)
    (active : s.phase.isTerminal = false) : Cancelled s.close.session [] where
  stopped := standing.close_stopped holding
  spares := by
    obtain same | ⟨-, -, closed, -⟩ := s.called_close.phase
    · rw [same]
      exact .of_active active
    · rw [closed]
      rfl

/-- A session that is asked to stop while it is active records no failure of listening or connecting from
then on, and its loss only if the worker crashes. Without a live worker it is closed, unless there was such
a crash or the cleanup of the worker was cut short. -/
theorem cancelled_phase {plan : Plan} {earlier : List Move}
    (active : (plan.session.history earlier).session.phase.isTerminal = false)
    (later : List Move) :
    let closing := (plan.session.history earlier).session.close.session
    let moves := earlier ++ .close :: later
    let s := (plan.session.history moves).session
    s.phase ≠ .connectFailed ∧ s.phase ≠ .listenFailed ∧
      (s.phase = .lost ↔ ∃ met ∈ closing.course later, met.1.crashes met.2 = true) ∧
      (s.isAlive = false → s.phase = .closed ∨ s.phase = .lost ∨
        ∃ met ∈ plan.session.course moves, met.1.cutsShort met.2 = true) := by
  intro closing moves s
  have same : s = (closing.history later).session := by
    show (plan.session.history (earlier ++ .close :: later)).session = _
    rw [session_history_append, session_history_cons]
    rfl
  have cancelled := ((plan.standing.history earlier).cancelled (plan.holding_history earlier)
    active).history later
  rw [← same] at cancelled
  have spares := cancelled.spares
  obtain ⟨connected, listened⟩ := spares.ne_failed
  refine ⟨connected, listened, ?_, fun dead => ?_⟩
  · rw [spares.lost_iff, List.any_eq_true]
  · obtain ended | short := (plan.ending moves).settled cancelled.stopped.stopped dead
    · exact (spares.closed_or_lost ended).imp_right .inl
    · exact .inr (.inr short)

def dialledPlain : List Move := [.start, .run, .answer .done, .answer (.connection .raw)]

/-- The name of the peer cannot be had, and nothing fails any more after that. -/
def peerUnknown : List Move := [.answer (.fault ⟨.system, "I/O error"⟩), .answer .done, .answer .done]

/-- A connector that is closed before its peer is known, and to which the peer stays unknown, is recorded
as lost. -/
theorem cancelled_phase_connector :
    let earlier := Plan.plainConnector.session.history dialledPlain
    let s := (Plan.plainConnector.session.history (dialledPlain ++ .close :: peerUnknown)).session
    earlier.session.phase.isTerminal = false ∧ s.isAlive = false ∧ s.phase = .lost := by
  intro earlier s
  have active : (Plan.plainConnector.session.history dialledPlain).session.phase.isTerminal = false :=
    rfl
  have dead : (Plan.plainConnector.session.history
      (dialledPlain ++ .close :: peerUnknown)).session.isAlive = false := rfl
  obtain ⟨-, -, lost, -⟩ := cancelled_phase active peerUnknown
  refine ⟨active, dead, lost.mpr ⟨_, List.mem_cons_self, ?_⟩⟩
  rfl

end Session

end Handover
