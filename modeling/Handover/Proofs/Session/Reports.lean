import Handover.Proofs.Session.Standing
import Handover.Proofs.Session.Steady

/-! What a session reports. The phases of a session are those of an automaton that puts out events:
a listener may announce itself, the connection may come up, payloads and messages are reported while
it is up, and a phase that says why the session ended is entered with the event that says the same. -/

set_option autoImplicit false

namespace Handover

namespace Event

def isTransfer : Event → Bool
  | .sent _ | .received _ => true
  | _ => false

theorem isFinal_of_isTransfer {event : Event} (transfer : event.isTransfer = true) :
    event.isFinal = false := by
  cases event <;> first | rfl | cases transfer

/-- A failure to connect or to listen is that of a role, and comes before the connection is up. -/
structure Suits (event : Event) (role : Role) (phase : Phase) : Prop where
  connector : event = .connectFailed → role = .connector ∧ phase ≠ .established
  listener : event = .listenFailed → role = .listener ∧ phase ≠ .established

theorem suits_lost (role : Role) (phase : Phase) : Event.lost.Suits role phase := ⟨nofun, nofun⟩

end Event

def Phase.report : Phase → Option Event
  | .lost => some .lost
  | .connectFailed => some .connectFailed
  | .listenFailed => some .listenFailed
  | _ => none

/-- From one phase to the next, with the event that is put out. -/
inductive Tells (role : Role) : Phase → Phase → Option Event → Prop where
  | silent {phase : Phase} : Tells role phase phase none
  | sets {before : Phase} : before = .initial ∨ before = .listening →
      Tells role before .establishing none
  | closes {before : Phase} : before.isTerminal = false → Tells role before .closed none
  | announces {bundle : String} : role = .listener →
      Tells role .initial .listening (some (.listening bundle))
  | connects {peer : String} : Tells role .establishing .established (some (.established peer))
  | transfers {event : Event} : event.isTransfer = true →
      Tells role .established .established (some event)
  | ends {before after : Phase} {event : Event} : before.isTerminal = false →
      event.ending = some after → event.Suits role before → Tells role before after (some event)

/-- A terminal phase is left neither for another nor with an event. -/
theorem Tells.of_terminal {role : Role} {before after : Phase} {event : Option Event}
    (tells : Tells role before after event) (ended : before.isTerminal = true) :
    after = before ∧ event = none := by
  cases tells with
  | silent => exact ⟨rfl, rfl⟩
  | sets early => obtain rfl | rfl := early <;> cases ended
  | closes active | ends active => simp [ended] at active
  | announces | connects | transfers => cases ended

namespace Session

def told (s : Session) : Option Event := s.request.bind Request.event?

variable {s u : Session}

theorem tells_settled (s : Session) (escape : Option Fault) :
    Tells s.role s.phase (s.settled escape).phase none := by
  show Tells s.role s.phase (if s.stopping && !s.phase.isTerminal then .closed else s.phase) none
  split
  · next closing =>
    simp only [Bool.and_eq_true, Bool.not_eq_true'] at closing
    exact .closes closing.2
  · exact .silent

theorem Unlistens.tells {escape : Option Fault} (unlistens : Unlistens s escape u) :
    Tells s.role s.phase u.phase u.told := by
  cases unlistens with
  | listener => exact .silent
  | settled => exact s.tells_settled escape

theorem Retires.tells {escape : Option Fault} (retires : Retires s escape u) :
    Tells s.role s.phase u.phase u.told := by
  cases retires with
  | link => exact .silent
  | unlistens _ unlistens => exact unlistens.tells

theorem Finishes.tells {event : Event} {failed : Bool} (finishes : Finishes s event failed u)
    (suits : event.Suits s.role s.phase) : Tells s.role s.phase u.phase u.told := by
  cases finishes with
  | ended _ retires => exact retires.tells
  | reports active ending => exact .ends active ending suits

theorem Crashes.tells {f : Fault} (crashes : Crashes s f u) :
    Tells s.role s.phase u.phase u.told := by
  cases crashes with
  | loses _ finishes => exact finishes.tells (Event.suits_lost _ _)
  | exits _ retires => exact retires.tells

theorem Stops.tells {event : Event} (stops : Stops s event u)
    (suits : event.Suits s.role s.phase) : Tells s.role s.phase u.phase u.told := by
  cases stops with
  | interrupted _ retires => exact retires.tells
  | finishes _ finishes => exact finishes.tells suits

theorem Fails.tells {event : Event} {f : Fault} (fails : Fails s event f u)
    (suits : event.Suits s.role s.phase) : Tells s.role s.phase u.phase u.told := by
  cases fails with
  | expected _ stops => exact stops.tells suits
  | crashes _ crashes => exact crashes.tells

theorem ReadsFirst.tells {link : Link} (reads : ReadsFirst s link u) :
    Tells s.role s.phase u.phase u.told := by
  cases reads with
  | finished _ stops => exact stops.tells (Event.suits_lost _ _)
  | line | starved => exact .silent

theorem ReadsFrame.tells {link : Link} {frame : Frame.Decoder} (reads : ReadsFrame s link frame u) :
    Tells s.role s.phase u.phase u.told := by
  cases reads <;> exact .silent

theorem Ticks.tells {link : Link} (ticks : Ticks s link u) :
    Tells s.role s.phase u.phase u.told := by
  cases ticks with
  | stops _ retires => exact retires.tells
  | writes => exact .silent
  | reads _ _ reads => exact reads.tells

theorem Accepts.tells (accepts : Accepts s u) : Tells s.role s.phase u.phase u.told := by
  cases accepts with
  | stops _ retires => exact retires.tells
  | waits => exact .silent

theorem Listens.tells (listens : Listens s u) : Tells s.role s.phase u.phase u.told := by
  cases listens with
  | stops _ retires => exact retires.tells
  | advertises | searches => exact .silent

theorem Adopts.tells {socket : Socket} (adopts : Adopts s socket u) :
    Tells s.role s.phase u.phase u.told := by
  cases adopts with
  | stops _ retires => exact retires.tells
  | goesOn => exact .silent

theorem Secures.tells {setup : Setup} (secures : Secures s setup u) {role : Role} {before : Phase}
    (sets : Tells role before s.phase none) : Tells role before u.phase u.told := by
  cases secures <;> exact sets

theorem HandsOver.tells (hands : HandsOver s u) (listening : s.phase = .listening) :
    Tells s.role s.phase u.phase u.told := by
  cases hands with
  | closes => exact .silent
  | secures _ secures => exact secures.tells (.sets (.inr listening))

theorem Begins.tells (begins : Begins s u) (fresh : s.stopping = false → s.phase = .initial) :
    Tells s.role s.phase u.phase u.told := by
  cases begins with
  | stops _ retires => exact retires.tells
  | crashes _ _ _ finishes => exact finishes.tells (Event.suits_lost _ _)
  | listens => exact .silent
  | dials going => exact .sets (.inl (fresh going))

namespace Standing

/-- A setup that fails is that of the session's role, and the connection is not up. -/
theorem suits_failure (standing : Standing s) {point : Point} {setup : Setup}
    (here : s.point = point) (role : point.role? = some setup.role)
    (phase : point.phase? = some .establishing) : setup.failure.Suits s.role s.phase := by
  have role := standing.role_eq here role
  have phase := standing.phase_eq here phase
  cases setup <;> exact ⟨by simp [Setup.failure, Setup.role, role, phase],
    by simp [Setup.failure, Setup.role, role, phase]⟩

theorem tells_opens (standing : Standing s) {reply : Reply} (opens : Opens s reply u) :
    Tells s.role s.phase u.phase u.told := by
  cases opens with
  | bound | found | shut | refused => exact .silent
  | listens _ listens => exact listens.tells
  | announces here =>
    rw [standing.phase_eq here rfl]
    exact .announces (standing.role_eq here rfl)
  | announced _ accepts => exact accepts.tells
  | waited _ _ accepts => exact accepts.tells
  | accepted here hands => exact hands.tells (standing.phase_eq here rfl)
  | closed here secures => exact secures.tells (.sets (.inr (standing.phase_eq here rfl)))
  | dialled _ secures => exact secures.tells .silent
  | secured _ adopts => exact adopts.tells
  | broken here _ fails => exact fails.tells (standing.suits_failure here rfl rfl)
  | abandoned here fails => exact fails.tells (standing.suits_failure here rfl rfl)
  | unclosed here fails => exact fails.tells (standing.suits_failure here rfl rfl)
  | named here =>
    rw [standing.phase_eq here rfl]
    exact .connects
  | unnamed _ crashes => exact crashes.tells
  | unheard listens _ _ fails =>
    refine fails.tells ⟨?_, fun _ => ?_⟩
    · intro other
      cases other
    -- Every point of a listener is left in its role and before the connection is up.
    · cases here : s.point <;> simp only [here, Point.isListening, Bool.false_eq_true] at listens <;>
        exact ⟨standing.role_eq here rfl, by rw [standing.phase_eq here rfl]; simp⟩
  | unreached here fails =>
    refine fails.tells ⟨fun _ => ?_, ?_⟩
    · exact ⟨standing.role_eq here rfl, by rw [standing.phase_eq here rfl]; simp⟩
    · intro other
      cases other

theorem tells_polls (standing : Standing s) {reply : Reply} (polls : Polls s reply u) :
    Tells s.role s.phase u.phase u.told := by
  cases polls with
  | established | timedWrite | wrote | silent => exact .silent
  | timed _ ticks => exact ticks.tells
  | timedAfterWrite here =>
    rw [standing.phase_eq here rfl]
    exact .transfers rfl
  | reportedWrite _ reads => exact reads.tells
  | received _ reads => exact reads.tells
  | idled _ _ ticks => exact ticks.tells
  | timedFrame _ reads => exact reads.tells
  | receivedFrame _ reads => exact reads.tells
  | timedAfterFrame here =>
    rw [standing.phase_eq here rfl]
    exact .transfers rfl
  | reportedMessage _ ticks => exact ticks.tells
  | broken _ _ _ fails => exact fails.tells (Event.suits_lost _ _)
  | crashed _ crashes => exact crashes.tells

theorem tells_closes {reply : Reply} (closes : Closes s reply u) :
    Tells s.role s.phase u.phase u.told := by
  cases closes with
  | reported _ retires => exact retires.tells
  | unreported _ retires => exact retires.tells
  | crashed _ crashes => exact crashes.tells
  | released _ unlistens => exact unlistens.tells
  | shut | broken => exact .silent
  | closed => exact s.tells_settled _

theorem tells_passes (standing : Standing s) {reply : Reply} (passes : Passes s reply u) :
    Tells s.role s.phase u.phase u.told := by
  cases passes with
  | opens opens => exact standing.tells_opens opens
  | polls polls => exact standing.tells_polls polls
  | closes closes => exact tells_closes closes

end Standing

def toldBy (s : Session) (m : Move) : Option Event :=
  if s.heeds m then (s.step m).session.told else none

theorem events_step (s : Session) (m : Move) : (s.step m).events = (s.toldBy m).toList := by
  rw [Turn.events, calls_step, toldBy]
  cases s.heeds m with
  | false => rfl
  | true =>
    simp only [if_true, told]
    cases asked : (s.step m).session.request with
    | none => rfl
    | some request => cases event : request.event? <;> simp [event]

theorem events_history (s : Session) (moves : List Move) :
    (s.history moves).events = (s.course moves).flatMap fun met => (met.1.toldBy met.2).toList := by
  rw [Turn.events, calls_history, List.filterMap_flatMap]
  simp only [← events_step, Turn.events]

theorem Standing.tells_step (standing : Standing s) (m : Move) :
    Tells s.role s.phase (s.step m).session.phase (s.toldBy m) := by
  have moves := step_moves standing.safe m
  rw [toldBy]
  generalize (s.step m).session = u at moves
  cases moves with
  | called unheeded called =>
    rw [unheeded, if_neg Bool.false_ne_true]
    -- A caller changes the phase only by closing a session that has no live worker.
    obtain same | ⟨-, active, closed, -⟩ := called.phase
    · rw [same]
      exact .silent
    · rw [closed]
      exact .closes active
  | begins runnable begins =>
    rw [show s.heeds .run = true from runnable, if_pos rfl]
    refine begins.tells fun going => ?_
    exact (standing.fresh (isRunnable_iff.mp runnable).2).resolve_right (by simp [going])
  | passes heeded passes =>
    rw [heeded, if_pos rfl]
    exact standing.tells_passes passes

end Session

/-! ## All events of a session -/

structure Account where
  bundle : Option String
  peer : Option String
  transfers : List Event
  final : Option Event

namespace Account

def events (a : Account) : List Event :=
  (a.bundle.map Event.listening).toList ++ (a.peer.map Event.established).toList ++ a.transfers ++
    a.final.toList

def empty : Account := ⟨none, none, [], none⟩

/-- What a session of a role may have reported when it is in a phase. -/
structure Fits (a : Account) (role : Role) (phase : Phase) : Prop where
  /-- Only a listener announces itself. -/
  announced : a.bundle.isSome = true → role = .listener
  transfers : ∀ event ∈ a.transfers, event.isTransfer = true
  /-- Nothing is transferred without a connection. -/
  connected : a.transfers ≠ [] → a.peer.isSome = true
  connector : a.final = some .connectFailed → role = .connector ∧ a.peer = none
  listener : a.final = some .listenFailed → role = .listener ∧ a.peer = none
  /-- The last event says what the phase says. -/
  final : a.final = phase.report
  initial : phase = .initial → a.bundle = none
  early : phase.rank < 3 → a.peer = none
  up : phase = .established → a.peer.isSome = true

variable {a : Account} {role : Role}

theorem fits_empty (role : Role) : empty.Fits role .initial where
  announced := nofun
  transfers := nofun
  connected := fun some => absurd rfl some
  connector := nofun
  listener := nofun
  final := rfl
  initial := fun _ => rfl
  early := fun _ => rfl
  up := nofun

theorem Fits.transfers_eq_nil {phase : Phase} (fits : a.Fits role phase) (alone : a.peer = none) :
    a.transfers = [] := by
  by_contra some
  have := fits.connected some
  simp [alone] at this

theorem Fits.tell {before after : Phase} {event : Option Event} (fits : a.Fits role before)
    (tells : Tells role before after event) :
    ∃ b : Account, b.events = a.events ++ event.toList ∧ b.Fits role after := by
  -- The phase before says which parts of the account are still empty.
  cases tells with
  | silent => exact ⟨a, by simp, fits⟩
  | sets early =>
    refine ⟨a, by simp, { fits with
      final := ?_
      initial := nofun
      early := fun _ => fits.early ?_
      up := nofun }⟩
    · rw [fits.final]
      obtain rfl | rfl := early <;> rfl
    · obtain rfl | rfl := early <;> decide
  | closes active =>
    refine ⟨a, by simp, { fits with final := ?_, initial := nofun, early := nofun, up := nofun }⟩
    rw [fits.final]
    cases before <;> first | rfl | cases active
  | @announces bundle listens =>
    have alone := fits.early (by decide)
    refine ⟨{ a with bundle := some bundle }, ?_, { fits with
      announced := fun _ => listens
      initial := nofun
      early := fun _ => alone
      up := nofun }⟩
    simp [events, fits.initial rfl, alone, fits.transfers_eq_nil alone, fits.final, Phase.report]
  | @connects peer =>
    have alone := fits.early (by decide)
    have unfinished : a.final = none := fits.final
    refine ⟨{ a with peer := some peer }, ?_, { fits with
      connected := fun _ => rfl
      connector := by simp [unfinished]
      listener := by simp [unfinished]
      initial := nofun
      early := nofun
      up := fun _ => rfl }⟩
    simp [events, alone, fits.transfers_eq_nil alone, unfinished]
  | @transfers event transfer =>
    have unfinished : a.final = none := fits.final
    refine ⟨{ a with transfers := a.transfers ++ [event] }, by simp [events, unfinished], { fits with
      transfers := ?_
      connected := fun _ => fits.up rfl }⟩
    rintro e member
    obtain earlier | rfl := by simpa using member
    · exact fits.transfers e earlier
    · exact transfer
  | @ends _ _ event active ending suits =>
    have unfinished : a.final = none := by
      rw [fits.final]
      cases before <;> first | rfl | cases active
    -- The connection never came up, or the event is that of its loss.
    have alone (early : before ≠ .established) : a.peer = none :=
      fits.early (by cases before <;> first | exact absurd rfl early | decide | cases active)
    refine ⟨{ a with final := some event }, by simp [events, unfinished], { fits with
      connector := ?_
      listener := ?_
      final := ?_
      initial := ?_
      early := ?_
      up := ?_ }⟩
    · rintro (same : some event = some .connectFailed)
      obtain ⟨role, early⟩ := suits.connector (Option.some.inj same)
      exact ⟨role, alone early⟩
    · rintro (same : some event = some .listenFailed)
      obtain ⟨role, early⟩ := suits.listener (Option.some.inj same)
      exact ⟨role, alone early⟩
    all_goals cases event <;> cases ending <;> first | rfl | nofun

theorem Fits.mem_events {phase : Phase} (fits : a.Fits role phase) {event : Event}
    (final : event.isFinal = true) : event ∈ a.events ↔ phase.report = some event := by
  -- No announcement, connection or transfer is final, so only the last part is left.
  have other : event ∉ a.transfers := by
    intro member
    have transfer := Event.isFinal_of_isTransfer (fits.transfers event member)
    simp [final] at transfer
  simp only [events, List.mem_append, Option.mem_toList, Option.map_eq_some_iff, other, or_false,
    fits.final]
  constructor
  · rintro ((⟨bundle, -, rfl⟩ | ⟨peer, -, rfl⟩) | last)
    · cases final
    · cases final
    · exact last
  · exact .inr

end Account

namespace Session

/-- Whatever happens to a session, its events are those of an account that fits its phase. -/
theorem account_history (plan : Plan) (moves : List Move) :
    ∃ a : Account, (plan.session.history moves).events = a.events ∧
      a.Fits plan.role (plan.session.history moves).session.phase := by
  -- What the induction carries: the session stands, and all it has told so far is an account that fits.
  let holds (s : Session) (met : List (Session × Move)) : Prop :=
    Standing s ∧ s.role = plan.role ∧ ∃ a : Account,
      (met.flatMap fun met => (met.1.toldBy met.2).toList) = a.events ∧ a.Fits plan.role s.phase
  have start : holds plan.session [] :=
    ⟨plan.standing, rfl, .empty, rfl, Account.fits_empty plan.role⟩
  have ledger := history_induction holds start (by
    rintro before earlier move ⟨standing, role, a, same, fits⟩
    obtain ⟨b, more, fits⟩ := fits.tell (role ▸ standing.tells_step move)
    refine ⟨standing.step move, (step_moves standing.safe move).role.trans role, b, ?_, fits⟩
    rw [more, ← same, List.flatMap_append, List.flatMap_singleton]) moves
  rw [events_history]
  exact ledger.2.2

/-- The events of a session come in one order: at most one announcement, by a listener, then at most
one connection, then transfers if there was one, then at most one final event. That one goes with the
phase, so a session that was closed has none. No fault of the outside world changes this, not even
one of the sink. -/
theorem events_in_order (plan : Plan) (moves : List Move) :
    let s := (plan.session.history moves).session
    let events := (plan.session.history moves).events
    (∃ a : Account, events = a.events ∧ a.Fits plan.role s.phase) ∧
      (.lost ∈ events ↔ s.phase = .lost) ∧
      (.connectFailed ∈ events ↔ s.phase = .connectFailed) ∧
      (.listenFailed ∈ events ↔ s.phase = .listenFailed) ∧
      (s.phase = .closed → ∀ event ∈ events, event.isFinal = false) := by
  obtain ⟨a, same, fits⟩ := account_history plan moves
  dsimp only
  rw [same]
  generalize (plan.session.history moves).session.phase = phase at fits
  -- Each final event goes with one phase, and no other phase reports it.
  refine ⟨⟨a, rfl, fits⟩, ?_, ?_, ?_, ?_⟩
  · rw [fits.mem_events rfl]
    cases phase <;> simp [Phase.report]
  · rw [fits.mem_events rfl]
    cases phase <;> simp [Phase.report]
  · rw [fits.mem_events rfl]
    cases phase <;> simp [Phase.report]
  · rintro rfl event member
    by_contra final
    have reported := (fits.mem_events (by simpa using final)).mp member
    cases reported

end Session

end Handover
