import Handover.Proofs.Session.Holding
import Mathlib.Algebra.BigOperators.Group.Multiset.Basic
import Mathlib.Tactic.Abel

/-! Who has to close what. A socket that was opened is owed by the point where the worker waits, by the
session that holds it for others, or by the caller that closes the session. Every answer keeps the balance:
what was opened is what was closed and what is still owed. Each of the two sockets is opened once at most, and
nothing is owed by a worker that has exited. -/

set_option autoImplicit false

namespace Handover

/-- What is opened and closed. The connection is one before its handshake and after it. -/
inductive Resource where
  | listener
  | connection
  deriving DecidableEq

def Socket.resource : Socket → Resource
  | .listener => .listener
  | .raw | .secured => .connection

namespace Session

/-! ## What is owed -/

/-- What the worker has to close when nobody else will. -/
def Point.owed : Point → Multiset Resource
  | .timingListener | .shuttingUnused _ | .closingUnused _ => {.listener}
  | .shuttingListener | .closingListener => {.connection} + {.listener}
  | .handshaking _ | .abandoning _ _ => {.connection}
  | .releasingLink socket _ => {socket.resource}
  | _ => 0

def Closing.owed : Closing → Multiset Resource
  | .shuttingListener | .closingListener => {.listener}
  | .idle | .interrupting | .over _ => 0

def Point.awaited : Point → Multiset Resource
  | .ready | .binding => {.listener} + {.connection}
  | .timingListener | .findingAddress | .readingPort _ | .announcing _ | .accepting
  | .dialling _ _ => {.connection}
  | _ => 0

def shared (s : Session) : Multiset Resource :=
  (if s.listening then {.listener} else 0) + s.held.elim 0 fun socket => {socket.resource}

def owed (s : Session) : Multiset Resource := s.point.owed + s.shared + s.closing.owed

theorem Closing.owed_of_idle {s : Session} (idle : s.closingRequest = none) : s.closing.owed = 0 := by
  cases here : s.closing <;> first | rfl | simp [closingRequest, here] at idle

variable {s u : Session}

/-! ## What a part of the worker passes on -/

/-- What is owed from now on, besides what was held, and what can still be opened. -/
structure Leaves (s : Session) (owed awaited : Multiset Resource) (u : Session) : Prop where
  owed : u.point.owed + u.shared = owed + s.shared
  awaited : u.point.awaited ≤ awaited

theorem Leaves.of_shared {v : Session} {owed awaited : Multiset Resource}
    (leaves : Leaves v owed awaited u) (same : v.shared = s.shared) : Leaves s owed awaited u :=
  ⟨same ▸ leaves.owed, leaves.awaited⟩

theorem Unlistens.leaves {escape : Option Fault} (unlistens : Unlistens s escape u) :
    Leaves s 0 0 u := by
  cases unlistens with
  | listener held =>
    refine ⟨?_, le_rfl⟩
    simp [Point.owed, shared, held]
  | settled => exact ⟨rfl, le_rfl⟩

theorem Retires.leaves {escape : Option Fault} (retires : Retires s escape u) :
    Leaves s 0 0 u := by
  cases retires with
  | link socket held =>
    refine ⟨?_, le_rfl⟩
    simp only [Point.owed, shared, held, Option.elim]
    abel
  | unlistens _ unlistens => exact unlistens.leaves

theorem Finishes.leaves {event : Event} {failed : Bool} (finishes : Finishes s event failed u) :
    Leaves s 0 0 u := by
  cases finishes with
  | ended _ retires => exact retires.leaves
  | reports => exact ⟨rfl, le_rfl⟩

theorem Crashes.leaves {f : Fault} (crashes : Crashes s f u) : Leaves s 0 0 u := by
  cases crashes with
  | loses _ finishes => exact finishes.leaves
  | exits _ retires => exact retires.leaves

theorem Stops.leaves {event : Event} (stops : Stops s event u) : Leaves s 0 0 u := by
  cases stops with
  | interrupted _ retires => exact retires.leaves
  | finishes _ finishes => exact finishes.leaves

theorem Fails.leaves {event : Event} {f : Fault} (fails : Fails s event f u) : Leaves s 0 0 u := by
  cases fails with
  | expected _ stops => exact stops.leaves
  | crashes _ crashes => exact crashes.leaves

theorem ReadsFirst.leaves {link : Link} (reads : ReadsFirst s link u) : Leaves s 0 0 u := by
  cases reads with
  | finished _ stops => exact stops.leaves
  | line | starved => exact ⟨rfl, le_rfl⟩

theorem ReadsFrame.leaves {link : Link} {frame : Frame.Decoder} (reads : ReadsFrame s link frame u) :
    Leaves s 0 0 u := by
  cases reads <;> exact ⟨rfl, le_rfl⟩

theorem Ticks.leaves {link : Link} (ticks : Ticks s link u) : Leaves s 0 0 u := by
  cases ticks with
  | stops _ retires => exact retires.leaves
  | writes => exact ⟨rfl, le_rfl⟩
  | reads _ _ reads => exact reads.leaves

theorem Secures.leaves {setup : Setup} (secures : Secures s setup u) :
    Leaves s {.connection} 0 u := by
  cases secures <;> exact ⟨rfl, le_rfl⟩

theorem Adopts.leaves {socket : Socket} (adopts : Adopts s socket u) (none : s.held = none) :
    Leaves s {socket.resource} 0 u := by
  let holding : Session := { s with handshaking := false, held := some socket }
  have shared : holding.shared = {socket.resource} + s.shared := by
    simp only [Session.shared, holding, none, Option.elim]
    abel
  cases adopts with
  | stops _ retires =>
    refine ⟨?_, retires.leaves.awaited⟩
    rw [retires.leaves.owed, zero_add]
    exact shared
  | goesOn =>
    refine ⟨?_, le_rfl⟩
    rw [← shared]
    exact zero_add _

theorem Accepts.leaves (accepts : Accepts s u) : Leaves s 0 {.connection} u := by
  cases accepts with
  | stops _ retires => exact ⟨retires.leaves.owed, retires.leaves.awaited.trans (Multiset.zero_le _)⟩
  | waits => exact ⟨rfl, le_rfl⟩

theorem Listens.leaves (listens : Listens s u) (idle : s.listening = false) :
    Leaves s {.listener} {.connection} u := by
  have shared : shared { s with listening := true } = {.listener} + s.shared := by
    simp [Session.shared, idle]
  cases listens with
  | stops _ retires =>
    refine ⟨?_, retires.leaves.awaited.trans (Multiset.zero_le _)⟩
    rw [retires.leaves.owed, zero_add, shared]
  | advertises | searches =>
    refine ⟨?_, le_rfl⟩
    rw [← shared]
    exact zero_add _

theorem HandsOver.leaves (hands : HandsOver s u) : Leaves s {.connection} 0 u := by
  cases hands with
  | closes held =>
    refine ⟨?_, le_rfl⟩
    simp only [Point.owed, shared, held, if_true, Bool.false_eq_true, if_false]
    abel
  | secures _ secures => exact secures.leaves.of_shared rfl

theorem Begins.leaves (begins : Begins s u) : Leaves s 0 ({.listener} + {.connection}) u := by
  cases begins with
  | stops _ retires => exact ⟨retires.leaves.owed, retires.leaves.awaited.trans (Multiset.zero_le _)⟩
  | crashes _ _ _ finishes => exact ⟨finishes.leaves.owed, finishes.leaves.awaited.trans (Multiset.zero_le _)⟩
  | listens => exact ⟨rfl, le_rfl⟩
  | dials => exact ⟨rfl, Multiset.le_add_left _ _⟩

/-! ## Exchanges -/

def opens : Request × Reply → Multiset Resource
  | (.bind _ _, .done) => {.listener}
  | (.accept, .accepted _ _) | (.dial _ _ _, .done) => {.connection}
  | _ => 0

def closes : Request × Reply → Multiset Resource
  | (.close socket, .done) => {socket.resource}
  | _ => 0

/-- Closing a socket succeeds, and so does the timeout of the listening socket; a shutdown or a handshake
fails with faults of input and output only, and what a handshake gives is a connection. -/
def Orderly : Request × Reply → Prop
  | (.close _, .fault _) | (.setTimeout .listener _, .fault _) => False
  | (.shutDown _, .fault f) | (.handshake _, .fault f) => f.isSystem = true
  | (.handshake _, .connection socket) => socket.resource = .connection
  | _ => True

structure Trades (s : Session) (exchange : Request × Reply) (u : Session) : Prop where
  owed : s.point.owed + s.shared + opens exchange = u.point.owed + u.shared + closes exchange
  awaited : opens exchange + u.point.awaited ≤ s.point.awaited

theorem Leaves.trades {owed awaited : Multiset Resource} (leaves : Leaves s owed awaited u)
    {point : Point} {exchange : Request × Reply} (here : s.point = point)
    (owes : point.owed + opens exchange = owed + closes exchange)
    (opened : opens exchange + awaited ≤ point.awaited) : Trades s exchange u where
  owed := by rw [leaves.owed, here, add_right_comm, owes, add_right_comm]
  awaited := by
    rw [here]
    exact (add_le_add_right leaves.awaited _).trans opened

theorem asked_at {point : Point} {request : Request} (here : s.point = point)
    (asked : s.request = some request) :
    Session.request { s with point := point } = some request := by
  rw [← asked, ← here]

theorem Holding.trades_opens (holding : Holding s) {request : Request} {reply : Reply}
    (opens : Opens s reply u) (asked : s.request = some request)
    (orderly : Orderly (request, reply)) : Trades s (request, reply) u := by
  cases opens with
  | bound here =>
    have leaves : Leaves s {.listener} {.connection} { s with point := .timingListener } :=
      ⟨rfl, le_rfl⟩
    cases asked_at here asked
    exact leaves.trades here rfl le_rfl
  | listens here listens =>
    cases asked_at here asked
    exact (listens.leaves (holding.idle here rfl)).trades here rfl le_rfl
  | @found host here =>
    have leaves : Leaves s 0 {.connection} { s with point := .readingPort host } := ⟨rfl, le_rfl⟩
    cases asked_at here asked
    exact leaves.trades here rfl le_rfl
  | @announces host port here =>
    have leaves : Leaves s 0 {.connection} { s with
        phase := .listening
        point := .announcing (Bundle.write ⟨host, port, s.secret⟩ s.settings.scheme) } :=
      ⟨rfl, le_rfl⟩
    cases asked_at here asked
    exact leaves.trades here rfl le_rfl
  | announced here accepts =>
    cases asked_at here asked
    exact accepts.leaves.trades here rfl le_rfl
  | waited here _ accepts =>
    cases asked_at here asked
    exact accepts.leaves.trades here rfl le_rfl
  | accepted here hands =>
    cases asked_at here asked
    exact hands.leaves.trades here rfl le_rfl
  | shut here =>
    have leaves : Leaves s ({.connection} + {.listener}) 0 { s with point := .closingListener } :=
      ⟨rfl, le_rfl⟩
    cases asked_at here asked
    exact leaves.trades here rfl le_rfl
  | closed here secures =>
    have leaves : Leaves s {.connection} 0 u := secures.leaves.of_shared rfl
    cases asked_at here asked
    exact leaves.trades here rfl le_rfl
  | dialled here secures =>
    cases asked_at here asked
    exact secures.leaves.trades here rfl le_rfl
  | secured here adopts =>
    cases asked_at here asked
    have leaves := adopts.leaves (holding.none here rfl)
    rw [show _ = Resource.connection from orderly] at leaves
    exact leaves.trades here rfl le_rfl
  | @refused setup f here =>
    have leaves : Leaves s {.connection} 0 { s with point := .abandoning setup f } := ⟨rfl, le_rfl⟩
    cases asked_at here asked
    exact leaves.trades here rfl le_rfl
  | broken here other =>
    cases asked_at here asked
    exact absurd orderly (by simp [Orderly, other])
  | abandoned here fails =>
    have leaves : Leaves s 0 0 u := fails.leaves.of_shared rfl
    cases asked_at here asked
    exact leaves.trades here rfl le_rfl
  | unclosed here =>
    cases asked_at here asked
    exact orderly.elim
  | @named socket peer here =>
    have leaves : Leaves s 0 0 { s with
        peer := some peer
        phase := .established
        point := .reportingPeer socket peer } := ⟨rfl, le_rfl⟩
    cases asked_at here asked
    exact leaves.trades here rfl le_rfl
  | unnamed here crashes =>
    cases asked_at here asked
    exact crashes.leaves.trades here rfl le_rfl
  | unheard listens _ system fails =>
    cases here : s.point <;> simp [here, Point.isListening] at listens <;> cases asked_at here asked
    -- What is owed at three of these points is not lost, as no fault is admitted there.
    case unheard.timingListener => exact orderly.elim
    case unheard.closingListener => exact orderly.elim
    case unheard.shuttingListener => exact absurd orderly (by simp [Orderly, system here])
    all_goals exact fails.leaves.trades here rfl (Multiset.zero_le _)
  | unreached here fails =>
    cases asked_at here asked
    exact fails.leaves.trades here rfl (Multiset.zero_le _)

theorem Polls.leaves {reply : Reply} (polls : Polls s reply u) : Leaves s 0 0 u := by
  cases polls with
  | established | timedWrite | wrote | timedAfterWrite | silent | timedAfterFrame =>
    exact ⟨rfl, le_rfl⟩
  | timed _ ticks => exact ticks.leaves
  | reportedWrite _ reads => exact reads.leaves
  | received _ reads => exact reads.leaves
  | idled _ _ ticks => exact ticks.leaves
  | timedFrame _ reads => exact reads.leaves
  | receivedFrame _ reads => exact reads.leaves
  | reportedMessage _ ticks => exact ticks.leaves
  | broken _ _ _ fails => exact fails.leaves
  | crashed _ crashes => exact crashes.leaves

theorem Polls.linked {reply : Reply} (polls : Polls s reply u) : s.point.isLinked = true := by
  cases polls with
  | broken polled => cases here : s.point <;> simp [here, Point.polled] at polled <;> rfl
  | crashed here => obtain ⟨_, _, here⟩ | ⟨_, here⟩ := here <;> (rw [here]; rfl)
  | _ => rw [‹s.point = _›]; rfl

theorem Polls.trades {request : Request} {reply : Reply} (polls : Polls s reply u)
    (asked : s.request = some request) : Trades s (request, reply) u := by
  have linked := polls.linked
  -- Nothing is opened or closed while the connection is polled, whatever the answer.
  cases here : s.point <;> rw [here] at linked <;> cases linked <;> cases asked_at here asked <;>
    exact polls.leaves.trades here rfl le_rfl

theorem Closes.trades {request : Request} {reply : Reply} (closes : Closes s reply u)
    (asked : s.request = some request) (orderly : Orderly (request, reply)) :
    Trades s (request, reply) u := by
  cases closes with
  | reported here retires =>
    cases asked_at here asked
    exact retires.leaves.trades here rfl le_rfl
  | unreported here retires =>
    cases asked_at here asked
    exact retires.leaves.trades here rfl le_rfl
  | crashed here crashes =>
    cases asked_at here asked
    exact crashes.leaves.trades here rfl le_rfl
  | released here unlistens =>
    cases asked_at here asked
    exact unlistens.leaves.trades here rfl le_rfl
  | @shut escape _ here =>
    have leaves : Leaves s {.listener} 0 { s with point := .closingUnused escape } := ⟨rfl, le_rfl⟩
    cases asked_at here asked
    exact leaves.trades here rfl le_rfl
  | @closed escape here =>
    have leaves : Leaves s 0 0 (s.settled escape) := ⟨rfl, le_rfl⟩
    cases asked_at here asked
    exact leaves.trades here rfl le_rfl
  | broken here =>
    obtain ⟨_, _, here⟩ | ⟨_, here, other⟩ | ⟨_, here⟩ := here <;> cases asked_at here asked
    · exact orderly.elim
    · exact absurd orderly (by simp [Orderly, other])
    · exact orderly.elim

/-! ## The closing caller -/

theorem afterListener_owed (s : Session) : s.afterListener.owed = 0 := by
  unfold afterListener
  split <;> rfl

theorem Resumes.repays {reply : Reply} {closing : Closing} (resumes : Resumes s reply closing)
    {request : Request} (asked : s.closingRequest = some request)
    (orderly : Orderly (request, reply)) :
    s.closing.owed = closing.owed + closes (request, reply) := by
  cases resumes with
  | shut here =>
    obtain rfl : .shutDown .listener = request := by simpa [closingRequest, here] using asked
    rw [here]
    rfl
  | closed here =>
    obtain rfl : .close .listener = request := by simpa [closingRequest, here] using asked
    rw [here, afterListener_owed]
    rfl
  | interrupted here =>
    obtain rfl : .shutDown .raw = request := by simpa [closingRequest, here] using asked
    rw [here]
    rfl
  | broken here =>
    obtain here | ⟨here | here, other⟩ := here <;>
      simp [closingRequest, here] at asked <;> subst asked <;> simp [Orderly, *] at orderly

theorem Shuts.repays {m : Move} (shuts : Shuts s m u) (called : Called s m u)
    (safe : s.closing = .idle ∨ s.stopping = true)
    (orderly : ∀ exchange ∈ s.answeredCaller m, Orderly exchange) :
    s.owed = u.owed + (s.answeredCaller m).elim 0 closes := by
  have shared (same : u.listening = s.listening) : u.shared = s.shared := by
    rw [Session.shared, same, called.held, Session.shared]
  cases shuts with
  | rests _ none listening _ closing =>
    rw [none, owed, owed, called.point, shared listening, closing]
    exact (add_zero _).symm
  | begins close going gone _ closing =>
    subst close
    have idle : s.closing = .idle := safe.resolve_right (by simp [going])
    rw [owed, owed, called.point, idle, closing, Session.shared, Session.shared, gone, called.held]
    -- The listening socket goes from the session to the caller.
    cases held : s.listening with
    | true =>
      simp only [if_true, Bool.false_eq_true, if_false, Closing.owed, answeredCaller, Option.elim]
      abel
    | false =>
      rw [if_neg Bool.false_ne_true, if_neg Bool.false_ne_true, afterListener_owed]
      exact (add_zero _).symm
  | resumes same answered listening _ resumed =>
    obtain ⟨-, asked, -⟩ := answeredCaller_eq_some.mp answered
    rw [answered, owed, owed, called.point, shared listening,
      resumed.repays asked (orderly _ answered)]
    exact (add_assoc _ _ _).symm

/-! ## Along a history -/

def opened (exchanges : List (Request × Reply)) : Multiset Resource := (exchanges.map opens).sum

def closed (exchanges : List (Request × Reply)) : Multiset Resource := (exchanges.map closes).sum

theorem opened_append (earlier later : List (Request × Reply)) :
    opened (earlier ++ later) = opened earlier + opened later := by
  simp [opened]

theorem closed_append (earlier later : List (Request × Reply)) :
    closed (earlier ++ later) = closed earlier + closed later := by
  simp [closed]

theorem opened_toList (exchange : Option (Request × Reply)) :
    opened exchange.toList = exchange.elim 0 opens := by
  cases exchange <;> simp [opened]

theorem closed_toList (exchange : Option (Request × Reply)) :
    closed exchange.toList = exchange.elim 0 closes := by
  cases exchange <;> simp [closed]

structure Settles (s : Session) (m : Move) (u : Session) : Prop where
  owed : s.owed + (s.answered m).elim 0 opens =
    u.owed + (s.answered m).elim 0 closes + (s.answeredCaller m).elim 0 closes
  awaited : (s.answered m).elim 0 opens + u.point.awaited ≤ s.point.awaited

theorem Trades.settles {m : Move} {exchange : Request × Reply} (trades : Trades s exchange u)
    (answered : s.answered m = some exchange) (alone : s.answeredCaller m = none)
    (same : u.closing = s.closing) : Settles s m u where
  owed := by
    have owed := congrArg (· + s.closing.owed) trades.owed
    rw [answered, alone, Session.owed, Session.owed, same]
    simp only [Option.elim]
    rw [add_right_comm, add_zero, add_right_comm _ s.closing.owed]
    exact owed
  awaited := by
    rw [answered]
    exact trades.awaited

theorem Standing.settles (standing : Standing s) (holding : Holding s) {m : Move}
    (orderly : ∀ exchange, s.answered m = some exchange ∨ s.answeredCaller m = some exchange →
      Orderly exchange) : Settles s m (s.step m).session := by
  have moves := step_moves standing.safe m
  have shuts := step_shuts (s := s) (m := m)
  generalize (s.step m).session = u at moves shuts
  cases moves with
  | called unheeded called =>
    have repays := (shuts unheeded).repays called standing.safe fun exchange answered =>
      orderly exchange (.inr answered)
    have none := answered_of_unheeded unheeded
    refine ⟨?_, ?_⟩
    · rw [none, repays]
      simp only [Option.elim, add_zero]
    · rw [none, called.point]
      exact (zero_add _).le
  | begins runnable begins =>
    have leaves := begins.leaves
    have ready := (isRunnable_iff.mp runnable).2
    have same := congrArg Steady.closing begins.steady
    refine ⟨?_, ?_⟩
    · show s.owed + 0 = u.owed + 0 + 0
      rw [owed, owed, leaves.owed, ready, show u.closing = s.closing from same]
      simp only [Point.owed, add_zero]
    · show 0 + u.point.awaited ≤ s.point.awaited
      rw [ready, zero_add]
      exact leaves.awaited
  | @passes reply _ heeded passes =>
    obtain ⟨request, asked, fits⟩ := heeds_answer_iff.mp heeded
    have answered : s.answered (.answer reply) = some (request, reply) :=
      answered_eq_some.mpr ⟨rfl, asked, fits⟩
    have orderly := orderly _ (.inl answered)
    have trades : Trades s (request, reply) u := by
      cases passes with
      | opens opens => exact holding.trades_opens opens asked orderly
      | polls polls => exact polls.trades asked
      | closes closes => exact closes.trades asked orderly
    exact trades.settles answered rfl (congrArg Steady.closing passes.steady)

/-- The exchanges of a history, the worker's and the closing caller's, with the balance between them. -/
structure Balanced (s : Session) (worker caller : List (Request × Reply)) : Prop where
  standing : Standing s
  holding : Holding s
  owed : opened worker = closed worker + closed caller + s.owed
  awaited : opened worker + s.point.awaited ≤ {.listener} + {.connection}

theorem Plan.balanced (plan : Plan) : Balanced plan.session [] [] where
  standing := plan.standing
  holding := plan.holding
  owed := rfl
  awaited := le_rfl

theorem Balanced.step {worker caller : List (Request × Reply)} (balanced : Balanced s worker caller)
    (m : Move) (orderly : ∀ exchange, s.answered m = some exchange ∨
      s.answeredCaller m = some exchange → Orderly exchange) :
    Balanced (s.step m).session (worker ++ (s.answered m).toList)
      (caller ++ (s.answeredCaller m).toList) := by
  obtain ⟨standing, holding, owed, awaited⟩ := balanced
  have settles := standing.settles holding orderly
  refine ⟨standing.step m, holding.step standing.safe m, ?_, ?_⟩
  · rw [opened_append, closed_append, closed_append, opened_toList, closed_toList, closed_toList, owed,
      add_assoc, settles.owed]
    abel
  · rw [opened_append, opened_toList, add_assoc]
    exact (add_le_add_right settles.awaited _).trans awaited

theorem Plan.balanced_history (plan : Plan) (moves : List Move)
    (orderly : ∀ exchange ∈ plan.session.transcript moves ++ plan.session.callerTranscript moves,
      Orderly exchange) :
    Balanced (plan.session.history moves).session (plan.session.transcript moves)
      (plan.session.callerTranscript moves) := by
  induction moves using List.reverseRecOn with
  | nil => exact plan.balanced
  | append_singleton moves last ih =>
    rw [transcript_concat, callerTranscript_concat] at orderly ⊢
    rw [history_concat]
    refine (ih fun exchange member => orderly exchange ?_).step last fun exchange answered =>
      orderly exchange ?_
    · rcases List.mem_append.mp member with worker | caller
      · simp [worker]
      · simp [caller]
    · obtain worker | caller := answered
      · simp [worker]
      · simp [caller]

/-- If the network is orderly, what a session has opened is one listening socket and one connection at most,
and nothing is closed that was not opened. When the worker has exited, all of it has been closed exactly
once, but for what a call to close that is still under way is about to close itself. -/
theorem released_once {plan : Plan} {moves : List Move}
    (orderly : ∀ exchange ∈ plan.session.transcript moves ++ plan.session.callerTranscript moves,
      Orderly exchange) :
    let s := (plan.session.history moves).session
    let opened := opened (plan.session.transcript moves)
    let closed := closed (plan.session.transcript moves ++ plan.session.callerTranscript moves)
    opened.Nodup ∧ closed ≤ opened ∧
      (s.hasExited = true → closed + s.closing.owed = opened) ∧
      (s.hasExited = true → s.closingRequest = none → ∀ r ∈ opened, closed.count r = 1) := by
  intro s opened closed
  obtain ⟨standing, holding, owed, awaited⟩ := plan.balanced_history moves orderly
  rw [← closed_append] at owed
  have once : opened.Nodup := by
    refine Multiset.nodup_of_le ((Multiset.le_add_right _ _).trans awaited) ?_
    decide
  have exits (exited : s.hasExited = true) : closed + s.closing.owed = opened := by
    have there : s.point.owed = 0 ∧ s.point.mayListen = false ∧ s.point.mayHold = false := by
      obtain ⟨escape, here⟩ := hasExited_iff.mp exited
      rw [here]
      exact ⟨rfl, rfl, rfl⟩
    obtain ⟨nothing, neverListens, neverHolds⟩ := there
    -- A worker that has exited holds nothing.
    have shared : s.shared = 0 := by
      rw [Session.shared, holding.idle rfl neverListens, holding.none rfl neverHolds]
      rfl
    rw [show opened = closed + s.owed from owed, Session.owed, nothing, shared, zero_add, zero_add]
  refine ⟨once, ?_, exits, fun exited idle r member => ?_⟩
  · exact (Multiset.le_add_right _ _).trans owed.ge
  · have same : closed = opened := by
      rw [← exits exited, Closing.owed_of_idle idle, add_zero]
    rw [same]
    exact Multiset.count_eq_one_of_mem once member

/-- A listener is closed while it waits for a connection, which comes all the same. -/
def closedInAccept : List Move := [.start, .run, .answer .done, .answer .done,
  .answer (.address "10.0.0.1"), .answer (.port 1336), .answer .done, .close, .answerCaller .done,
  .answerCaller .done, .answer (.accepted "10.0.0.2" 50000), .answer .done]

/-- The call closes the listening socket, and the worker the connection. -/
theorem released_once_in_accept :
    let session := Plan.plainListener.session
    let exchanges := session.transcript closedInAccept ++ session.callerTranscript closedInAccept
    (∀ exchange ∈ exchanges, Orderly exchange) ∧
      opened (session.transcript closedInAccept) = {.listener} + {.connection} ∧
      ∀ r, (closed exchanges).count r = 1 := by
  intro session exchanges
  have worker : Plan.plainListener.session.transcript closedInAccept =
      [(.bind session.settings.bindHost session.settings.port, .done),
        (.setTimeout .listener session.settings.readTimeout, .done),
        (.findAddress, .address "10.0.0.1"), (.boundPort, .port 1336),
        (.emit (.listening (Bundle.write ⟨"10.0.0.1", 1336, session.secret⟩ session.settings.scheme)),
          .done),
        (.accept, .accepted "10.0.0.2" 50000), (.close .raw, .done)] := rfl
  have caller : Plan.plainListener.session.callerTranscript closedInAccept =
      [(.shutDown .listener, .done), (.close .listener, .done)] := rfl
  have orderly : ∀ exchange ∈ exchanges, Orderly exchange := by
    simp [exchanges, session, worker, caller, Orderly]
  have opens : opened (session.transcript closedInAccept) = {.listener} + {.connection} := by
    rw [worker]
    rfl
  have exited : (Plan.plainListener.session.history closedInAccept).session.hasExited = true := rfl
  have idle : (Plan.plainListener.session.history closedInAccept).session.closingRequest = none := rfl
  obtain ⟨-, -, -, closes⟩ := released_once orderly
  refine ⟨orderly, opens, fun r => closes exited idle r ?_⟩
  rw [opens]
  cases r <;> decide

end Session

end Handover
