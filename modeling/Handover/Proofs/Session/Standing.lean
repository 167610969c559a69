import Handover.Proofs.Session.Callers
import Handover.Session.Opening

/-! Where a session stands. While the worker is at work, the point where it waits fixes the phase of
the session and, before the connection is up, its role; this is so after every history of a new
session. -/

set_option autoImplicit false

namespace Handover.Session

/-- The phase of a session whose worker waits at a point, where the point decides that. -/
def Point.phase? : Point → Option Phase
  | .binding | .timingListener | .findingAddress | .readingPort _ => some .initial
  | .announcing _ | .accepting | .shuttingListener | .closingListener => some .listening
  | .dialling _ _ | .handshaking _ | .abandoning _ _ | .namingPeer _ => some .establishing
  | .reportingPeer _ _ | .timingLink _ | .timingWrite _ _ | .writing _ _ | .timingAfterWrite _ _
  | .reportingWrite _ _ | .receiving _ | .timingFrame _ _ | .receivingFrame _ _
  | .timingAfterFrame _ _ | .reportingMessage _ _ => some .established
  | .reportingEnd event _ => event.ending
  | .ready | .releasingLink _ _ | .shuttingUnused _ | .closingUnused _ | .exited _ => none

/-- The role of a session whose worker waits at a point, where the point decides that. -/
def Point.role? : Point → Option Role
  | .dialling _ _ => some .connector
  | .handshaking setup | .abandoning setup _ => some setup.role
  | point => if point.isListening then some .listener else none

structure Standing (s : Session) : Prop where
  started : s.point = .ready ∨ s.started = true
  safe : s.closing = .idle ∨ s.stopping = true
  phase : ∀ phase, s.point.phase? = some phase → s.phase = phase
  role : ∀ role, s.point.role? = some role → s.role = role
  fresh : s.point = .ready → s.phase = .initial ∨ s.phase = .closed ∧ s.stopping = true

/-- What the parts of the worker rely on and leave as it is. -/
structure Working (s : Session) : Prop where
  started : s.started = true
  safe : s.closing = .idle ∨ s.stopping = true

theorem Plan.standing (plan : Plan) : Standing plan.session where
  started := .inl rfl
  safe := .inl rfl
  phase := by simp [Plan.session, Point.phase?]
  role := by simp [Plan.session, Point.role?, Point.isListening]
  fresh := fun _ => .inl rfl

/-- A listener with the default settings, to run histories of. -/
def Plan.plainListener : Plan := .listener ⟨List.replicate 16 0, rfl⟩ .default false none

def Plan.plainConnector : Plan :=
  .connector ⟨"10.0.0.9", 1336, ⟨List.replicate 16 0, rfl⟩⟩ .default false none

variable {s u : Session}

/-- A point that decides neither phase nor role asks for nothing else. -/
theorem Working.standing (working : Working s) (phase : s.point.phase? = none)
    (role : s.point.role? = none) (busy : s.point ≠ .ready) : Standing s :=
  ⟨.inr working.started, working.safe, by simp [phase], by simp [role], fun ready => absurd ready busy⟩

/-- A point that decides the phase, and perhaps the role, asks for no more than these. -/
theorem Working.decided (working : Working s) (phase : s.point.phase? = some s.phase)
    (role : s.point.role? = none ∨ s.point.role? = some s.role) : Standing s where
  started := .inr working.started
  safe := working.safe
  phase := by
    intro other decided
    exact Option.some.inj (phase.symm.trans decided)
  role := by
    intro other decided
    obtain none | some := role
    · simp [none] at decided
    · exact Option.some.inj (some.symm.trans decided)
  fresh := by
    intro ready
    rw [ready] at phase
    cases phase

theorem Unlistens.standing {escape : Option Fault} (unlistens : Unlistens s escape u)
    (working : Working s) : Standing u := by
  cases unlistens with
  | listener => exact Working.standing ⟨working.started, working.safe⟩ rfl rfl (by simp)
  | settled =>
    exact Working.standing ⟨working.started, working.safe⟩ rfl rfl (by simp [Session.settled])

theorem Retires.standing {escape : Option Fault} (retires : Retires s escape u)
    (working : Working s) : Standing u := by
  cases retires with
  | link => exact Working.standing ⟨working.started, working.safe⟩ rfl rfl (by simp)
  | unlistens _ unlistens => exact unlistens.standing working

theorem Finishes.standing {event : Event} {failed : Bool} (finishes : Finishes s event failed u)
    (working : Working s) : Standing u := by
  cases finishes with
  | ended _ retires => exact retires.standing working
  | reports _ ending =>
    exact Working.decided ⟨working.started, working.safe⟩ ending (.inl rfl)

theorem Crashes.standing {f : Fault} (crashes : Crashes s f u) (working : Working s) : Standing u := by
  cases crashes with
  | loses _ finishes => exact finishes.standing working
  | exits _ retires => exact retires.standing working

theorem Stops.standing {event : Event} (stops : Stops s event u) (working : Working s) :
    Standing u := by
  cases stops with
  | interrupted _ retires => exact retires.standing working
  | finishes _ finishes => exact finishes.standing working

theorem Fails.standing {event : Event} {f : Fault} (fails : Fails s event f u)
    (working : Working s) : Standing u := by
  cases fails with
  | expected _ stops => exact stops.standing working
  | crashes _ crashes => exact crashes.standing working

theorem ReadsFirst.standing {link : Link} (reads : ReadsFirst s link u) (working : Working s)
    (up : s.phase = .established) : Standing u := by
  cases reads with
  | finished _ stops => exact stops.standing working
  | line | starved =>
    exact Working.decided ⟨working.started, working.safe⟩ (congrArg some up.symm) (.inl rfl)

theorem ReadsFrame.standing {link : Link} {frame : Frame.Decoder}
    (reads : ReadsFrame s link frame u) (working : Working s) (up : s.phase = .established) :
    Standing u := by
  cases reads <;>
    exact Working.decided ⟨working.started, working.safe⟩ (congrArg some up.symm) (.inl rfl)

theorem Ticks.standing {link : Link} (ticks : Ticks s link u) (working : Working s)
    (up : s.phase = .established) : Standing u := by
  cases ticks with
  | stops _ retires => exact retires.standing working
  | reads _ _ reads => exact reads.standing working up
  | writes =>
    exact Working.decided ⟨working.started, working.safe⟩ (congrArg some up.symm) (.inl rfl)

theorem Secures.standing {setup : Setup} (secures : Secures s setup u) (working : Working s)
    (setting : s.phase = .establishing) (role : s.role = setup.role) : Standing u := by
  cases secures <;>
    exact Working.decided ⟨working.started, working.safe⟩ (congrArg some setting.symm)
      (.inr (congrArg some role.symm))

theorem Adopts.standing {socket : Socket} (adopts : Adopts s socket u) (working : Working s)
    (setting : s.phase = .establishing) : Standing u := by
  cases adopts with
  | stops _ retires => exact retires.standing ⟨working.started, working.safe⟩
  | goesOn =>
    exact Working.decided ⟨working.started, working.safe⟩ (congrArg some setting.symm) (.inl rfl)

theorem Accepts.standing (accepts : Accepts s u) (working : Working s)
    (listening : s.phase = .listening) (role : s.role = .listener) : Standing u := by
  cases accepts with
  | stops _ retires => exact retires.standing working
  | waits =>
    exact Working.decided ⟨working.started, working.safe⟩ (congrArg some listening.symm)
      (.inr (congrArg some role.symm))

theorem Listens.standing (listens : Listens s u) (working : Working s)
    (initial : s.phase = .initial) (role : s.role = .listener) : Standing u := by
  cases listens with
  | stops _ retires => exact retires.standing ⟨working.started, working.safe⟩
  | advertises | searches =>
    exact Working.decided ⟨working.started, working.safe⟩ (congrArg some initial.symm)
      (.inr (congrArg some role.symm))

theorem HandsOver.standing (hands : HandsOver s u) (working : Working s)
    (listening : s.phase = .listening) (role : s.role = .listener) : Standing u := by
  cases hands with
  | closes =>
    exact Working.decided ⟨working.started, working.safe⟩ (congrArg some listening.symm)
      (.inr (congrArg some role.symm))
  | secures _ secures => exact secures.standing ⟨working.started, working.safe⟩ rfl role

theorem Begins.standing (begins : Begins s u) (working : Working s)
    (fresh : s.stopping = false → s.phase = .initial) : Standing u := by
  cases begins with
  | stops _ retires => exact retires.standing working
  | crashes _ _ _ finishes => exact finishes.standing working
  | listens going role =>
    exact Working.decided ⟨working.started, working.safe⟩ (congrArg some (fresh going).symm)
      (.inr (congrArg some role.symm))
  | dials _ role _ =>
    exact Working.decided ⟨working.started, working.safe⟩ rfl (.inr (congrArg some role.symm))

/-! ## Along a history -/

namespace Standing

theorem working (standing : Standing s) (busy : s.point ≠ .ready) : Working s :=
  ⟨standing.started.resolve_left busy, standing.safe⟩

theorem phase_eq (standing : Standing s) {point : Point} (here : s.point = point) {phase : Phase}
    (decided : point.phase? = some phase) : s.phase = phase :=
  standing.phase phase (here ▸ decided)

theorem role_eq (standing : Standing s) {point : Point} (here : s.point = point) {role : Role}
    (decided : point.role? = some role) : s.role = role :=
  standing.role role (here ▸ decided)

theorem opens (standing : Standing s) {reply : Reply} (opens : Opens s reply u) : Standing u := by
  cases opens with
  | bound here =>
    obtain ⟨started, safe⟩ := standing.working (by simp [here])
    exact Working.decided ⟨started, safe⟩ (congrArg some (standing.phase_eq here rfl).symm)
      (.inr (congrArg some (standing.role_eq here rfl).symm))
  | listens here listens =>
    exact listens.standing (standing.working (by simp [here])) (standing.phase_eq here rfl)
      (standing.role_eq here rfl)
  | found here =>
    obtain ⟨started, safe⟩ := standing.working (by simp [here])
    exact Working.decided ⟨started, safe⟩ (congrArg some (standing.phase_eq here rfl).symm)
      (.inr (congrArg some (standing.role_eq here rfl).symm))
  | announces here =>
    obtain ⟨started, safe⟩ := standing.working (by simp [here])
    exact Working.decided ⟨started, safe⟩ rfl (.inr (congrArg some (standing.role_eq here rfl).symm))
  | announced here accepts =>
    exact accepts.standing (standing.working (by simp [here])) (standing.phase_eq here rfl)
      (standing.role_eq here rfl)
  | waited here _ accepts =>
    exact accepts.standing (standing.working (by simp [here])) (standing.phase_eq here rfl)
      (standing.role_eq here rfl)
  | accepted here hands =>
    exact hands.standing (standing.working (by simp [here])) (standing.phase_eq here rfl)
      (standing.role_eq here rfl)
  | shut here =>
    obtain ⟨started, safe⟩ := standing.working (by simp [here])
    exact Working.decided ⟨started, safe⟩ (congrArg some (standing.phase_eq here rfl).symm)
      (.inr (congrArg some (standing.role_eq here rfl).symm))
  | closed here secures =>
    obtain ⟨started, safe⟩ := standing.working (by simp [here])
    exact secures.standing ⟨started, safe⟩ rfl (standing.role_eq here rfl)
  | dialled here secures =>
    exact secures.standing (standing.working (by simp [here])) (standing.phase_eq here rfl)
      (standing.role_eq here rfl)
  | secured here adopts =>
    exact adopts.standing (standing.working (by simp [here])) (standing.phase_eq here rfl)
  | refused here =>
    obtain ⟨started, safe⟩ := standing.working (by simp [here])
    exact Working.decided ⟨started, safe⟩ (congrArg some (standing.phase_eq here rfl).symm)
      (.inr (congrArg some (standing.role_eq here rfl).symm))
  | broken here _ fails =>
    obtain ⟨started, safe⟩ := standing.working (by simp [here])
    exact fails.standing ⟨started, safe⟩
  | abandoned here fails =>
    obtain ⟨started, safe⟩ := standing.working (by simp [here])
    exact fails.standing ⟨started, safe⟩
  | unclosed here fails =>
    obtain ⟨started, safe⟩ := standing.working (by simp [here])
    exact fails.standing ⟨started, safe⟩
  | named here =>
    obtain ⟨started, safe⟩ := standing.working (by simp [here])
    exact Working.decided ⟨started, safe⟩ rfl (.inl rfl)
  | unnamed here crashes => exact crashes.standing (standing.working (by simp [here]))
  | unheard listens _ _ fails =>
    refine fails.standing (standing.working ?_)
    rintro ready
    simp [ready, Point.isListening] at listens
  | unreached here fails => exact fails.standing (standing.working (by simp [here]))

theorem stays (standing : Standing s) {before after : Point} (here : s.point = before)
    (up : before.phase? = some .established) (same : after.phase? = some .established)
    (free : after.role? = none) : Standing { s with point := after } := by
  have busy : s.point ≠ .ready := by
    rintro ready
    rw [← here, ready] at up
    cases up
  obtain ⟨started, safe⟩ := standing.working busy
  refine Working.decided ⟨started, safe⟩ ?_ (.inl free)
  rw [standing.phase_eq here up]
  exact same

theorem polls (standing : Standing s) {reply : Reply} (polls : Polls s reply u) : Standing u := by
  cases polls with
  | established here => exact standing.stays here rfl rfl rfl
  | timed here ticks =>
    exact ticks.standing (standing.working (by simp [here])) (standing.phase_eq here rfl)
  | timedWrite here => exact standing.stays here rfl rfl rfl
  | wrote here => exact standing.stays here rfl rfl rfl
  | timedAfterWrite here => exact standing.stays here rfl rfl rfl
  | reportedWrite here reads =>
    exact reads.standing (standing.working (by simp [here])) (standing.phase_eq here rfl)
  | received here reads =>
    exact reads.standing (standing.working (by simp [here])) (standing.phase_eq here rfl)
  | idled here _ ticks =>
    exact ticks.standing (standing.working (by simp [here])) (standing.phase_eq here rfl)
  | timedFrame here reads =>
    exact reads.standing (standing.working (by simp [here])) (standing.phase_eq here rfl)
  | receivedFrame here reads =>
    exact reads.standing (standing.working (by simp [here])) (standing.phase_eq here rfl)
  | silent here => exact standing.stays here rfl rfl rfl
  | timedAfterFrame here => exact standing.stays here rfl rfl rfl
  | reportedMessage here ticks =>
    exact ticks.standing (standing.working (by simp [here])) (standing.phase_eq here rfl)
  | broken polled _ _ fails =>
    refine fails.standing (standing.working ?_)
    rintro ready
    simp [ready, Point.polled] at polled
  | crashed before crashes =>
    refine crashes.standing (standing.working ?_)
    obtain ⟨_, _, here⟩ | ⟨_, here⟩ := before <;> simp [here]

theorem closes (standing : Standing s) {reply : Reply} (closes : Closes s reply u) :
    Standing u := by
  cases closes with
  | reported here retires => exact retires.standing (standing.working (by simp [here]))
  | unreported here retires => exact retires.standing (standing.working (by simp [here]))
  | crashed here crashes => exact crashes.standing (standing.working (by simp [here]))
  | released here unlistens => exact unlistens.standing (standing.working (by simp [here]))
  | shut here =>
    obtain ⟨started, safe⟩ := standing.working (by simp [here])
    exact Working.standing ⟨started, safe⟩ rfl rfl (by simp)
  | closed here =>
    obtain ⟨started, safe⟩ := standing.working (by simp [here])
    exact Working.standing ⟨started, safe⟩ rfl rfl (by simp [Session.settled])
  | broken here =>
    have busy : s.point ≠ .ready := by
      obtain ⟨_, _, here⟩ | ⟨_, here, _⟩ | ⟨_, here⟩ := here <;> simp [here]
    obtain ⟨started, safe⟩ := standing.working busy
    exact Working.standing ⟨started, safe⟩ rfl rfl (by simp)

/-- A caller who closes a session changes its phase only before the worker is at work and after
that, where no point asks for one. -/
theorem called (standing : Standing s) {m : Move} (called : Called s m u) : Standing u where
  started := by
    rw [called.point]
    exact standing.started.imp id called.started
  safe := by
    obtain same | stopped := called.closing
    · rw [same]
      exact standing.safe.imp id called.stopping
    · exact .inr stopped
  phase := by
    rintro phase decided
    rw [called.point] at decided
    obtain same | ⟨dead, -, -, -⟩ := called.phase
    · rw [same]
      exact standing.phase phase decided
    -- Without a live worker the body has not begun or has ended, and no point asks for a phase.
    · obtain ready | started := standing.started
      · simp [ready, Point.phase?] at decided
      · have exited : s.hasExited = true := by simpa [isAlive, started] using dead
        obtain ⟨escape, here⟩ := hasExited_iff.mp exited
        simp [here, Point.phase?] at decided
  role := by
    rintro role decided
    rw [called.point] at decided
    rw [called.role]
    exact standing.role role decided
  fresh := by
    rintro ready
    rw [called.point] at ready
    obtain same | ⟨-, -, closed, stopped⟩ := called.phase
    · rw [same]
      exact (standing.fresh ready).imp id fun ⟨ended, stopped⟩ => ⟨ended, called.stopping stopped⟩
    · exact .inr ⟨closed, stopped⟩

theorem moves (standing : Standing s) {m : Move} (moves : Moves s m u) : Standing u := by
  cases moves with
  | called _ called => exact standing.called called
  | begins runnable begins =>
    obtain ⟨started, here⟩ := isRunnable_iff.mp runnable
    -- A session closed before its start has left the first phase, and only then.
    refine begins.standing ⟨started, standing.safe⟩ fun going => ?_
    exact (standing.fresh here).resolve_right (by simp [going])
  | passes _ passes =>
    cases passes with
    | opens opens => exact standing.opens opens
    | polls polls => exact standing.polls polls
    | closes closes => exact standing.closes closes

theorem step (standing : Standing s) (m : Move) : Standing (s.step m).session :=
  standing.moves (step_moves standing.safe m)

end Standing

theorem Standing.history (standing : Standing s) (moves : List Move) :
    Standing (s.history moves).session :=
  history_induction (fun s _ => Standing s) standing (fun _ _ move standing => standing.step move) moves

end Handover.Session
