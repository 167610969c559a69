import Handover.Proofs.Session.Carrying
import Handover.Proofs.Session.Closers

/-! What a session holds. The point where the worker waits says which sockets can be held for others to
close and whether a connection is marked as being in its handshake. -/

set_option autoImplicit false

namespace Handover

theorem Event.isTerminal_of_ending {event : Event} {phase : Phase}
    (ending : event.ending = some phase) : phase.isTerminal = true := by
  cases event <;> cases ending <;> rfl

namespace Session

/-! ## What is held at a point -/

/-- The listening socket is in use, and held for a caller to close. -/
def Point.listens : Point → Bool
  | .findingAddress | .readingPort _ | .announcing _ | .accepting => true
  | _ => false

/-- The listening socket may still be held while the end is reported. -/
def Point.mayListen : Point → Bool
  | .reportingEnd _ _ => true
  | point => point.listens

def Point.isLinked : Point → Bool
  | .namingPeer _ | .reportingPeer _ _ | .timingLink _ => true
  | point => point.polled.isSome

def Point.mayHold : Point → Bool
  | .reportingEnd _ _ => true
  | point => point.isLinked

def Point.secures : Point → Bool
  | .handshaking _ | .abandoning _ _ => true
  | _ => false

/-- What the point where the worker waits says of the rest of the session. -/
structure Holding (s : Session) : Prop where
  /-- The call that asks for a stop takes the listening socket away. -/
  listening : s.listening = true → s.stopping = false ∧ s.point.mayListen = true
  listens : s.point.listens = true → s.stopping = false → s.listening = true
  held : s.held.isSome = true → s.listening = false ∧ s.point.mayHold = true
  handshaking : s.handshaking = s.point.secures
  reporting : ∀ event failed, s.point = .reportingEnd event failed → s.phase.isTerminal = true
  abandoning : ∀ setup failure, s.point = .abandoning setup failure → failure.isSystem = true

theorem Plan.holding (plan : Plan) : Holding plan.session where
  listening := nofun
  listens := nofun
  held := nofun
  handshaking := rfl
  reporting := nofun
  abandoning := nofun

variable {s u : Session}

theorem Holding.of_bare {point : Point} (here : u.point = point) (idle : u.listening = false)
    (free : u.held = none) (handshaking : u.handshaking = point.secures)
    (listens : point.listens = false)
    (reporting : ∀ event failed, point ≠ .reportingEnd event failed)
    (abandoning : ∀ setup failure, point = .abandoning setup failure → failure.isSystem = true) :
    Holding u where
  listening := by simp [idle]
  listens := by simp [here, listens]
  held := by simp [free]
  handshaking := by rw [here, handshaking]
  reporting := fun event failed same => absurd (here.symm.trans same) (reporting event failed)
  abandoning := by rwa [here]

/-! ## The end of the work -/

structure Loose (s : Session) : Prop where
  apart : s.held.isSome = true → s.listening = false
  going : s.listening = true → s.stopping = false
  free : s.handshaking = false

theorem Unlistens.holding {escape : Option Fault} (unlistens : Unlistens s escape u)
    (none : s.held = none) (free : s.handshaking = false) : Holding u := by
  cases unlistens with
  | listener => exact .of_bare rfl rfl none free rfl nofun nofun
  | settled idle => exact .of_bare rfl idle none free rfl nofun nofun

theorem Retires.holding {escape : Option Fault} (retires : Retires s escape u)
    (apart : s.held.isSome = true → s.listening = false) (free : s.handshaking = false) :
    Holding u := by
  cases retires with
  | link socket held => exact .of_bare rfl (apart (by simp [held])) rfl free rfl nofun nofun
  | unlistens none unlistens => exact unlistens.holding none free

theorem Finishes.holding {event : Event} {failed : Bool} (finishes : Finishes s event failed u)
    (loose : Loose s) : Holding u := by
  cases finishes with
  | ended _ retires => exact retires.holding loose.apart loose.free
  | reports _ ending =>
    have terminal := Event.isTerminal_of_ending ending
    exact ⟨fun held => ⟨loose.going held, rfl⟩, nofun, fun held => ⟨loose.apart held, rfl⟩,
      loose.free, fun _ _ _ => terminal, nofun⟩

theorem Crashes.holding {f : Fault} (crashes : Crashes s f u) (loose : Loose s) : Holding u := by
  cases crashes with
  | loses _ finishes => exact finishes.holding loose
  | exits _ retires => exact retires.holding loose.apart loose.free

theorem Stops.holding {event : Event} (stops : Stops s event u) (loose : Loose s) : Holding u := by
  cases stops with
  | interrupted _ retires => exact retires.holding loose.apart loose.free
  | finishes _ finishes => exact finishes.holding loose

theorem Fails.holding {event : Event} {f : Fault} (fails : Fails s event f u) (loose : Loose s) :
    Holding u := by
  cases fails with
  | expected _ stops => exact stops.holding loose
  | crashes _ crashes => exact crashes.holding loose

/-! ## Polling -/

structure Linked (s : Session) : Prop where
  idle : s.listening = false
  free : s.handshaking = false

theorem Linked.loose (linked : Linked s) : Loose s :=
  ⟨fun _ => linked.idle, by simp [linked.idle], linked.free⟩

theorem Point.not_listens_of_isLinked {point : Point} (linked : point.isLinked = true) :
    point.listens = false := by
  cases point <;> first | rfl | cases linked

theorem Linked.holding (linked : Linked s) {point : Point} (there : point.isLinked = true) :
    Holding { s with point := point } where
  listening := by simp [linked.idle]
  listens := by simp [Point.not_listens_of_isLinked there]
  held := fun _ => ⟨linked.idle, by cases point <;> first | exact there | rfl⟩
  handshaking := by
    rw [linked.free]
    cases point <;> first | rfl | cases there
  reporting := by
    rintro event failed rfl
    cases there
  abandoning := by
    rintro setup failure rfl
    cases there

theorem ReadsFirst.holding {link : Link} (reads : ReadsFirst s link u) (linked : Linked s) :
    Holding u := by
  cases reads with
  | finished _ stops => exact stops.holding linked.loose
  | line | starved => exact linked.holding rfl

theorem ReadsFrame.holding {link : Link} {frame : Frame.Decoder} (reads : ReadsFrame s link frame u)
    (linked : Linked s) : Holding u := by
  cases reads <;> exact linked.holding rfl

theorem Ticks.holding {link : Link} (ticks : Ticks s link u) (linked : Linked s) : Holding u := by
  cases ticks with
  | stops _ retires => exact retires.holding linked.loose.apart linked.free
  | writes => exact Linked.holding (s := { s with slot := .empty }) ⟨linked.idle, linked.free⟩ rfl
  | reads _ _ reads => exact reads.holding linked

/-! ## Setting up -/

/-- Nothing is held for others yet, or no more. -/
structure Bare (s : Session) : Prop where
  idle : s.listening = false
  none : s.held = none

theorem Bare.loose (bare : Bare s) (free : s.handshaking = false) : Loose s :=
  ⟨fun _ => bare.idle, by simp [bare.idle], free⟩

theorem Secures.holding {setup : Setup} (secures : Secures s setup u) (bare : Bare s) :
    Holding u := by
  cases secures with
  | abandons =>
    refine .of_bare rfl bare.idle bare.none rfl rfl nofun ?_
    rintro setup failure same
    obtain ⟨rfl, rfl⟩ := Point.abandoning.inj same
    rfl
  | begins => exact .of_bare rfl bare.idle bare.none rfl rfl nofun nofun

theorem Adopts.holding {socket : Socket} (adopts : Adopts s socket u) (bare : Bare s) :
    Holding u := by
  have linked : Linked { s with handshaking := false, held := some socket } := ⟨bare.idle, rfl⟩
  cases adopts with
  | stops _ retires => exact retires.holding linked.loose.apart linked.free
  | goesOn => exact linked.holding rfl

theorem Accepts.holding (accepts : Accepts s u) (none : s.held = none)
    (free : s.handshaking = false) (listens : s.stopping = false → s.listening = true) :
    Holding u := by
  cases accepts with
  | stops _ retires => exact retires.holding (by simp [none]) free
  | waits going =>
    exact ⟨fun _ => ⟨going, rfl⟩, fun _ => listens, by simp [none], free, nofun, nofun⟩

theorem Listens.holding (listens : Listens s u) (bare : Bare s) (free : s.handshaking = false) :
    Holding u := by
  cases listens with
  | stops _ retires => exact retires.holding (by simp [bare.none]) free
  | advertises going | searches going =>
    exact ⟨fun _ => ⟨going, rfl⟩, fun _ _ => rfl, by simp [bare.none], free, nofun, nofun⟩

theorem HandsOver.holding (hands : HandsOver s u) (none : s.held = none)
    (free : s.handshaking = false) : Holding u := by
  cases hands with
  | closes => exact .of_bare rfl rfl none free rfl nofun nofun
  | secures idle secures => exact secures.holding ⟨idle, none⟩

theorem Begins.holding (begins : Begins s u) (bare : Bare s) (free : s.handshaking = false) :
    Holding u := by
  cases begins with
  | stops _ retires => exact retires.holding (by simp [bare.none]) free
  | crashes _ _ _ finishes => exact finishes.holding (bare.loose free)
  | listens | dials => exact .of_bare rfl bare.idle bare.none free rfl nofun nofun

/-! ## Along a history -/

namespace Holding

theorem idle (holding : Holding s) {point : Point} (here : s.point = point)
    (never : point.mayListen = false) : s.listening = false := by
  by_contra held
  obtain ⟨-, may⟩ := holding.listening (by simpa using held)
  rw [here, never] at may
  cases may

theorem none (holding : Holding s) {point : Point} (here : s.point = point)
    (never : point.mayHold = false) : s.held = .none := by
  cases held : s.held with
  | none => rfl
  | some socket =>
    obtain ⟨-, may⟩ := holding.held (by simp [held])
    rw [here, never] at may
    cases may

theorem bare (holding : Holding s) {point : Point} (here : s.point = point)
    (neverListens : point.mayListen = false) (neverHolds : point.mayHold = false) : Bare s :=
  ⟨holding.idle here neverListens, holding.none here neverHolds⟩

theorem free (holding : Holding s) {point : Point} (here : s.point = point)
    (open_ : point.secures = false) : s.handshaking = false := by
  rw [holding.handshaking, here, open_]

theorem loose (holding : Holding s) {point : Point} (here : s.point = point)
    (open_ : point.secures = false) : Loose s :=
  ⟨fun held => (holding.held held).1, fun held => (holding.listening held).1,
    holding.free here open_⟩

theorem linked (holding : Holding s) {point : Point} (here : s.point = point)
    (linked : point.isLinked = true) : Linked s := by
  refine ⟨holding.idle here ?_, holding.free here ?_⟩ <;>
    cases point <;> first | rfl | cases linked

theorem advertising (holding : Holding s) {before after : Point} (here : s.point = before)
    (first : before.listens = true) (next : after.listens = true) (phase : Phase) :
    Holding { s with phase := phase, point := after } := by
  have none : s.held = .none := by
    refine holding.none here ?_
    cases before <;> first | rfl | cases first
  have free : s.handshaking = false := by
    refine holding.free here ?_
    cases before <;> first | rfl | cases first
  cases after <;> first | cases next; done | skip
  all_goals
    exact ⟨fun held => ⟨(holding.listening held).1, rfl⟩, fun _ => holding.listens (here ▸ first),
      by simp [none], free, nofun, nofun⟩

theorem opens (holding : Holding s) {reply : Reply} (opens : Opens s reply u) : Holding u := by
  cases opens with
  | bound here =>
    obtain ⟨idle, none⟩ := holding.bare here rfl rfl
    exact .of_bare rfl idle none (holding.free here rfl) rfl nofun nofun
  | listens here listens =>
    exact listens.holding (holding.bare here rfl rfl) (holding.free here rfl)
  | found here => exact holding.advertising here rfl rfl s.phase
  | announces here => exact holding.advertising here rfl rfl .listening
  | announced here accepts =>
    exact accepts.holding (holding.none here rfl) (holding.free here rfl)
      (holding.listens (by rw [here]; rfl))
  | waited here _ accepts =>
    exact accepts.holding (holding.none here rfl) (holding.free here rfl)
      (holding.listens (by rw [here]; rfl))
  | accepted here hands => exact hands.holding (holding.none here rfl) (holding.free here rfl)
  | shut here =>
    obtain ⟨idle, none⟩ := holding.bare here rfl rfl
    exact .of_bare rfl idle none (holding.free here rfl) rfl nofun nofun
  | closed here secures =>
    obtain ⟨idle, none⟩ := holding.bare here rfl rfl
    exact secures.holding ⟨idle, none⟩
  | dialled here secures => exact secures.holding (holding.bare here rfl rfl)
  | secured here adopts => exact adopts.holding (holding.bare here rfl rfl)
  | refused here system =>
    obtain ⟨idle, none⟩ := holding.bare here rfl rfl
    refine .of_bare rfl idle none (by rw [holding.handshaking, here]; rfl) rfl nofun ?_
    rintro setup failure same
    obtain ⟨rfl, rfl⟩ := Point.abandoning.inj same
    exact system
  | broken here _ fails =>
    obtain ⟨idle, none⟩ := holding.bare here rfl rfl
    exact fails.holding (Bare.loose ⟨idle, none⟩ rfl)
  | abandoned here fails =>
    obtain ⟨idle, none⟩ := holding.bare here rfl rfl
    exact fails.holding (Bare.loose ⟨idle, none⟩ rfl)
  | unclosed here fails =>
    obtain ⟨idle, none⟩ := holding.bare here rfl rfl
    exact fails.holding (Bare.loose ⟨idle, none⟩ rfl)
  | @named socket peer here =>
    obtain ⟨idle, free⟩ := holding.linked here rfl
    exact Linked.holding (s := { s with peer := some peer, phase := .established }) ⟨idle, free⟩ rfl
  | unnamed here crashes => exact crashes.holding (holding.loose here rfl)
  | unheard listens _ _ fails =>
    refine fails.holding (holding.loose rfl ?_)
    cases here : s.point <;> first | rfl | (rw [here] at listens; cases listens)
  | unreached here fails => exact fails.holding (holding.loose here rfl)

theorem polls (holding : Holding s) {reply : Reply} (polls : Polls s reply u) : Holding u := by
  cases polls with
  | established here | timedWrite here | wrote here | timedAfterWrite here | silent here
  | timedAfterFrame here => exact (holding.linked here rfl).holding rfl
  | timed here ticks => exact ticks.holding (holding.linked here rfl)
  | reportedWrite here reads => exact reads.holding (holding.linked here rfl)
  | received here reads => exact reads.holding (holding.linked here rfl)
  | idled here _ ticks => exact ticks.holding (holding.linked here rfl)
  | timedFrame here reads => exact reads.holding (holding.linked here rfl)
  | receivedFrame here reads => exact reads.holding (holding.linked here rfl)
  | reportedMessage here ticks => exact ticks.holding (holding.linked here rfl)
  | broken polled _ _ fails =>
    refine fails.holding (holding.linked rfl ?_).loose
    cases here : s.point <;> simp [here, Point.polled] at polled <;> rfl
  | crashed here crashes =>
    obtain ⟨_, _, here⟩ | ⟨_, here⟩ := here <;>
      exact crashes.holding (holding.linked here rfl).loose

theorem closes (holding : Holding s) {reply : Reply} (closes : Closes s reply u) : Holding u := by
  cases closes with
  | reported here retires | unreported here retires =>
    have loose := holding.loose here rfl
    exact retires.holding loose.apart loose.free
  | crashed here crashes => exact crashes.holding (holding.loose here rfl)
  | released here unlistens =>
    exact unlistens.holding (holding.none here rfl) (holding.free here rfl)
  | shut here =>
    obtain ⟨idle, none⟩ := holding.bare here rfl rfl
    exact .of_bare rfl idle none (holding.free here rfl) rfl nofun nofun
  | closed here =>
    obtain ⟨idle, none⟩ := holding.bare here rfl rfl
    exact (Unlistens.settled idle).holding none (holding.free here rfl)
  | broken here =>
    obtain ⟨_, _, here⟩ | ⟨_, here, _⟩ | ⟨_, here⟩ := here
    all_goals
      obtain ⟨idle, none⟩ := holding.bare here rfl rfl
      exact .of_bare rfl idle none (holding.free here rfl) rfl nofun nofun

/-- Callers leave the worker where it waits; all that they take away is the listening socket. -/
theorem called (holding : Holding s) {m : Move} (called : Called s m u) (shuts : Shuts s m u) :
    Holding u := by
  have kept : u.listening = true → s.listening = true ∧ u.stopping = s.stopping := by
    intro held
    cases shuts with
    | rests _ _ listening stopping => exact ⟨listening ▸ held, stopping⟩
    | begins _ _ gone => simp [gone] at held
    | resumes _ _ listening stopping => exact ⟨listening ▸ held, stopping⟩
  refine ⟨?_, ?_, ?_, ?_, ?_, ?_⟩
  · intro held
    obtain ⟨before, same⟩ := kept held
    rw [called.point, same]
    exact holding.listening before
  · rw [called.point]
    intro listens going
    cases shuts with
    | rests _ _ listening stopping => exact listening ▸ holding.listens listens (stopping ▸ going)
    | begins _ _ _ stopped => simp [going] at stopped
    | resumes _ _ listening stopping => exact listening ▸ holding.listens listens (stopping ▸ going)
  · rw [called.held, called.point]
    intro held
    obtain ⟨idle, may⟩ := holding.held held
    refine ⟨Bool.eq_false_iff.mpr fun again => ?_, may⟩
    simp [idle] at kept
    exact absurd again (by simp [kept])
  · rw [called.handshaking, called.point]
    exact holding.handshaking
  · rw [called.point]
    intro event failed here
    have terminal := holding.reporting event failed here
    obtain same | ⟨-, active, -, -⟩ := called.phase
    · rwa [same]
    · simp [terminal] at active
  · rw [called.point]
    exact holding.abandoning

theorem step (holding : Holding s) (safe : s.closing = .idle ∨ s.stopping = true) (m : Move) :
    Holding (s.step m).session := by
  have moves := step_moves safe m
  have shuts := step_shuts (s := s) (m := m)
  generalize (s.step m).session = u at moves shuts
  cases moves with
  | called unheeded called => exact holding.called called (shuts unheeded)
  | begins runnable begins =>
    have ready := (isRunnable_iff.mp runnable).2
    exact begins.holding (holding.bare ready rfl rfl) (holding.free ready rfl)
  | passes _ passes =>
    cases passes with
    | opens opens => exact holding.opens opens
    | polls polls => exact holding.polls polls
    | closes closes => exact holding.closes closes

end Holding

theorem Plan.holding_history (plan : Plan) (moves : List Move) :
    Holding (plan.session.history moves).session := by
  have both := history_induction (s := plan.session) (fun s _ => Standing s ∧ Holding s)
    ⟨plan.standing, plan.holding⟩
    (fun _ _ move ⟨standing, holding⟩ => ⟨standing.step move, holding.step standing.safe move⟩) moves
  exact both.2

end Session

end Handover
