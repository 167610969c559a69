import Handover.Proofs.Session.Cancelling
import Handover.Proofs.Session.Conversation

/-! Failures before the connection is up. The handlers of listening and dialling record a fault of input and
output as the failure of the session's role. They see neither other faults nor those of the look-up of the
peer: these are left to the handler for all failures, which records the loss of a connection that never came
up. An exit is recorded by no handler. -/

set_option autoImplicit false

namespace Handover

/-- The final event of a session that does not come to its connection. -/
def Role.failure : Role → Event
  | .listener => .listenFailed
  | .connector => .connectFailed

theorem Phase.active_of_rank {phase : Phase} (early : phase.rank < 3) : phase.isTerminal = false := by
  cases phase <;> first | rfl | simp [Phase.rank] at early

theorem Phase.past_of_terminal {phase : Phase} (ended : phase.isTerminal = true) : 3 ≤ phase.rank := by
  rw [(Phase.isTerminal_iff_rank phase).mp ended]
  decide

theorem Phase.rank_establishing : Phase.establishing.rank < 3 := by decide

/-- The connection is reported exactly where it comes up. -/
theorem Tells.connects_iff {role : Role} {before after : Phase} {event : Option Event}
    (tells : Tells role before after event) (early : before.rank < 3) :
    (∃ peer, event = some (.established peer)) ↔ after = .established := by
  cases tells with
  | silent => exact ⟨nofun, fun up => by simp [up, Phase.rank] at early⟩
  | sets | closes | announces => simp
  | connects => simp
  | transfers => simp [Phase.rank] at early
  | @ends _ _ event _ ending => cases event <;> cases ending <;> simp

theorem Tells.not_connects {role : Role} {before after : Phase} {peer : String}
    (tells : Tells role before after (some (.established peer))) : before.rank < 3 := by
  cases tells with
  | connects => decide
  | transfers transfer => cases transfer
  | ends _ ending => cases ending

theorem Tells.past {role : Role} {before after : Phase} {event : Option Event}
    (tells : Tells role before after event) (past : 3 ≤ before.rank) : 3 ≤ after.rank := by
  cases tells with
  | silent => exact past
  | sets early => obtain rfl | rfl := early <;> simp [Phase.rank] at past
  | closes | connects | transfers => decide
  | announces => simp [Phase.rank] at past
  | ends _ ending => exact Phase.past_of_terminal (Event.isTerminal_of_ending ending)

namespace Session

/-- Whether a fault at a point is one of those that the handlers of listening and dialling record. A listener
that waits in vain for a connection goes on, and so does one whose socket cannot be shut down. -/
def Point.fails (f : Fault) : Point → Bool
  | .accepting => f.isSystem && !f.isTimeout
  | .shuttingListener | .namingPeer _ => false
  | point => point.isOpening && f.isSystem

/-- Whether a move is a failure on the way to the connection that is recorded as such. -/
def failsOpening (s : Session) : Move → Bool
  | .answer (.fault f) => s.point.fails f
  | _ => false

/-- Whether a move is a failure on the way to the connection that is left to the handler for all failures. A
connector without an endpoint fails so at once. -/
def crashesOpening (s : Session) : Move → Bool
  | .run => s.isRunnable && s.role == .connector && s.endpoint.isNone
  | .answer (.fault f) => s.point.isOpening && s.point.crashes f
  | _ => false

variable {s u : Session}

/-! ## One step on the way -/

def Abandons (s : Session) : Prop := ∃ setup failure, s.point = .abandoning setup failure

/-- Where a session that nobody has asked to stop comes to by a move on the way to its connection. -/
inductive Outcome (s : Session) (m : Move) (u : Session) : Prop where
  /-- A failed handshake is recorded once the connection has been closed. -/
  | goesOn : u.phase.rank < 3 → s.crashesOpening m = false →
      (s.failsOpening m = true ∨ s.Abandons → u.Abandons) → Outcome s m u
  | connects : u.phase = .established → s.crashesOpening m = false → s.failsOpening m = false →
      ¬ s.Abandons → Outcome s m u
  | fails : s.role.failure.ending = some u.phase → s.crashesOpening m = false → Outcome s m u
  | crashes : u.phase = .lost → s.crashesOpening m = true → Outcome s m u
  /-- An exit leaves the session as it is, with a worker that will do no more for it. -/
  | deserts : u.phase.rank < 3 → s.crashesOpening m = false → u.point.hand = .ended →
      s.deserts m = true → Outcome s m u

theorem Finishes.phase_eq {event : Event} {failed : Bool} (finishes : Finishes s event failed u)
    (active : s.phase.isTerminal = false) : event.ending = some u.phase := by
  cases finishes with
  | ended terminal => simp [active] at terminal
  | reports _ ending => exact ending

theorem Unlistens.phase_eq {escape : Option Fault} (unlistens : Unlistens s escape u)
    (going : s.stopping = false) : u.phase = s.phase := by
  cases unlistens with
  | listener => rfl
  | settled => simp [Session.settled, going]

theorem Retires.phase_eq {escape : Option Fault} (retires : Retires s escape u)
    (going : s.stopping = false) : u.phase = s.phase := by
  cases retires with
  | link => rfl
  | unlistens _ unlistens => exact unlistens.phase_eq going

theorem Stops.phase_eq {event : Event} (stops : Stops s event u) (going : s.stopping = false)
    (active : s.phase.isTerminal = false) : event.ending = some u.phase := by
  cases stops with
  | interrupted stopped => simp [going] at stopped
  | finishes _ finishes => exact finishes.phase_eq active

theorem not_abandons {point : Point} (here : s.point = point)
    (other : ∀ setup failure, point ≠ .abandoning setup failure) : ¬ s.Abandons := by
  rintro ⟨setup, failure, same⟩
  exact other setup failure (here.symm.trans same)

theorem Setup.failure_eq (setup : Setup) : setup.role.failure = setup.failure := by
  cases setup <;> rfl

/-- Nothing but a crash or an exit comes of a fault that no other handler takes. -/
theorem Crashes.outcome {f : Fault} (crashes : Crashes s f u) (going : s.stopping = false)
    (early : s.phase.rank < 3) {before : Session} {m : Move}
    (crash : before.crashesOpening m = f.isFailure) (desert : before.deserts m = !f.isFailure) :
    Outcome before m u := by
  cases crashes with
  | loses failure finishes =>
    have ending := finishes.phase_eq (Phase.active_of_rank early)
    exact .crashes (Option.some.inj ending).symm (crash.trans failure)
  | exits other retires =>
    rw [other] at crash desert
    exact .deserts (by rwa [retires.phase_eq going]) crash retires.ends.hand desert

/-- A fault that ends the way to the connection is recorded as the failure of the role, or is a crash or an
exit. -/
theorem Fails.outcome {event : Event} {f : Fault} (fails : Fails s event f u)
    (going : s.stopping = false) (early : s.phase.rank < 3) {before : Session} {m : Move}
    (role : event = before.role.failure)
    (crash : before.crashesOpening m = (f.isFailure && !f.isSystem))
    (desert : before.deserts m = !f.isFailure) : Outcome before m u := by
  cases fails with
  | expected system stops =>
    have ending := stops.phase_eq going (Phase.active_of_rank early)
    rw [system, Bool.not_true, Bool.and_false] at crash
    exact .fails (role ▸ ending) crash
  | crashes other crashes =>
    rw [other, Bool.not_false, Bool.and_true] at crash
    exact crashes.outcome going early crash desert

theorem Secures.early {setup : Setup} (secures : Secures s setup u) : u.phase = s.phase := by
  cases secures <;> rfl

theorem Accepts.early (accepts : Accepts s u) (going : s.stopping = false) : u.phase = s.phase := by
  cases accepts with
  | stops stopped => simp [going] at stopped
  | waits => rfl

theorem Listens.early (listens : Listens s u) (going : s.stopping = false) : u.phase = s.phase := by
  cases listens with
  | stops stopped => simp [going] at stopped
  | advertises | searches => rfl

theorem Adopts.early {socket : Socket} (adopts : Adopts s socket u) (going : s.stopping = false) :
    u.phase = s.phase := by
  cases adopts with
  | stops stopped => simp [going] at stopped
  | goesOn => rfl

theorem HandsOver.early (hands : HandsOver s u) (early : s.phase.rank < 3) : u.phase.rank < 3 := by
  cases hands with
  | closes => exact early
  | secures _ secures =>
    rw [secures.early]
    exact Phase.rank_establishing

theorem crashesOpening_fault {point : Point} (here : s.point = point) (f : Fault) :
    s.crashesOpening (.answer (.fault f)) = (point.isOpening && point.crashes f) := by
  rw [crashesOpening, here]

theorem failsOpening_fault {point : Point} (here : s.point = point) (f : Fault) :
    s.failsOpening (.answer (.fault f)) = point.fails f := by
  rw [failsOpening, here]

theorem deserts_fault (asked : s.request.isSome = true) (going : s.stopping = false)
    (early : s.phase.rank < 3) (f : Fault) : s.deserts (.answer (.fault f)) = !f.isFailure := by
  simp [deserts, asked, going, Phase.active_of_rank early]

theorem Standing.listens (standing : Standing s) (listens : s.point.isListening = true) :
    s.role = .listener := by
  refine standing.role .listener ?_
  cases here : s.point <;> rw [here] at listens <;> first | rfl | cases listens

/-- An answer that is no failure leads on, where no handshake has failed. -/
theorem Outcome.onward {reply : Reply} {point : Point} (here : s.point = point)
    (other : ∀ setup failure, point ≠ .abandoning setup failure) (early : u.phase.rank < 3)
    (sound : ∀ f, reply ≠ .fault f) : Outcome s (.answer reply) u := by
  have quiet : s.crashesOpening (.answer reply) = false ∧ s.failsOpening (.answer reply) = false := by
    cases reply with
    | fault f => exact absurd rfl (sound f)
    | _ => exact ⟨rfl, rfl⟩
  refine .goesOn early quiet.1 ?_
  rintro (failed | abandons)
  · simp [quiet.2] at failed
  · exact absurd abandons (not_abandons here other)

/-- A fault that is neither recorded nor a crash is passed over. -/
theorem Outcome.passed {point : Point} {f : Fault} (here : s.point = point)
    (other : ∀ setup failure, point ≠ .abandoning setup failure) (early : u.phase.rank < 3)
    (caught : point.crashes f = false) (passes : point.fails f = false) :
    Outcome s (.answer (.fault f)) u := by
  refine .goesOn early ?_ ?_
  · rw [crashesOpening_fault here, caught, Bool.and_false]
  · rintro (failed | abandons)
    · rw [failsOpening_fault here, passes] at failed
      cases failed
    · exact absurd abandons (not_abandons here other)

theorem Opens.outcome {reply : Reply} (opens : Opens s reply u) (standing : Standing s)
    (holding : Holding s) (going : s.stopping = false) (early : s.phase.rank < 3) :
    Outcome s (.answer reply) u := by
  cases opens with
  | bound here | found here => exact .onward here (by simp) early (by simp)
  | announces here => exact .onward here (by simp) (show Phase.listening.rank < 3 by decide) (by simp)
  | listens here listens => exact .onward here (by simp) (by rwa [listens.early going]) (by simp)
  | announced here accepts => exact .onward here (by simp) (by rwa [accepts.early going]) (by simp)
  | waited here late accepts =>
    refine .passed here (by simp) (by rwa [accepts.early going]) ?_ ?_
    · simp [Point.crashes, Fault.isSystem_of_isTimeout late]
    · simp [Point.fails, late]
  | accepted here hands => exact .onward here (by simp) (hands.early early) (by simp)
  | shut here done =>
    obtain rfl | ⟨f, rfl, system⟩ := done
    · exact .onward here (by simp) early (by simp)
    · exact .passed here (by simp) early (by simp [Point.crashes, system]) rfl
  | closed here secures =>
    exact .onward here (by simp) (by rw [secures.early]; exact Phase.rank_establishing) (by simp)
  | dialled here secures => exact .onward here (by simp) (by rwa [secures.early]) (by simp)
  | secured here adopts => exact .onward here (by simp) (by rwa [adopts.early going]) (by simp)
  | refused here system =>
    refine .goesOn early ?_ fun _ => ⟨_, _, rfl⟩
    rw [crashesOpening_fault here]
    simp [Point.crashes, system]
  | broken here _ fails =>
    refine fails.outcome going early ?_ (crashesOpening_fault here _)
      (deserts_fault (by simp [request, here]) going early _)
    rw [standing.role_eq here rfl, Setup.failure_eq]
  | abandoned here fails =>
    -- What a handshake is abandoned for is a fault of input and output.
    have system := holding.abandoning _ _ here
    refine fails.outcome going early ?_ ?_ ?_
    · rw [standing.role_eq here rfl, Setup.failure_eq]
    · rw [system, Bool.not_true, Bool.and_false]
      rfl
    · rw [Fault.isFailure_of_isSystem system]
      rfl
  | unclosed here fails =>
    refine fails.outcome going early ?_ (crashesOpening_fault here _)
      (deserts_fault (by simp [request, here]) going early _)
    rw [standing.role_eq here rfl, Setup.failure_eq]
  | named here => exact .connects rfl rfl rfl (not_abandons here (by simp))
  | unnamed here crashes =>
    exact crashes.outcome going early (crashesOpening_fault here _)
      (deserts_fault (by simp [request, here]) going early _)
  | @unheard f _ listens _ _ fails =>
    refine fails.outcome going early ?_ ?_ (deserts_fault ?_ going early _)
    · rw [standing.listens listens]
      rfl
    · rw [crashesOpening_fault rfl]
      cases here : s.point <;> rw [here] at listens <;> first | rfl | cases listens
    · cases here : s.point <;> rw [here] at listens <;> first | cases listens; done | simp [request, here]
  | unreached here fails =>
    refine fails.outcome going early ?_ (crashesOpening_fault here _)
      (deserts_fault (by simp [request, here]) going early _)
    rw [standing.role_eq here rfl]
    rfl

theorem Begins.outcome (begins : Begins s u) (runnable : s.isRunnable = true)
    (going : s.stopping = false) (early : s.phase.rank < 3) : Outcome s .run u := by
  have fresh := not_abandons (isRunnable_iff.mp runnable).2 nofun
  cases begins with
  | stops stopped => simp [going] at stopped
  | listens _ role =>
    refine .goesOn early ?_ (by simp [failsOpening, fresh])
    simp [crashesOpening, role]
  | dials _ _ given =>
    refine .goesOn Phase.rank_establishing ?_ (by simp [failsOpening, fresh])
    simp [crashesOpening, given]
  | crashes _ role missing finishes =>
    have ending := finishes.phase_eq (Phase.active_of_rank early)
    refine .crashes (Option.some.inj ending).symm ?_
    simp [crashesOpening, runnable, role, missing]

theorem Polls.up {reply : Reply} (polls : Polls s reply u) (standing : Standing s) :
    s.phase = .established := by
  cases polls with
  | broken polled =>
    cases here : s.point <;> rw [here] at polled <;>
      first | exact standing.phase_eq here rfl | cases polled
  | crashed here => obtain ⟨_, _, here⟩ | ⟨_, here⟩ := here <;> exact standing.phase_eq here rfl
  | established here | timed here | timedWrite here | wrote here | timedAfterWrite here
  | reportedWrite here | received here | idled here | timedFrame here | receivedFrame here
  | silent here | timedAfterFrame here | reportedMessage here => exact standing.phase_eq here rfl

theorem Closes.hand_eq {reply : Reply} (closes : Closes s reply u) : s.point.hand = .ended := by
  cases closes with
  | broken here => obtain ⟨_, _, here⟩ | ⟨_, here, _⟩ | ⟨_, here⟩ := here <;> (rw [here]; rfl)
  | reported here | unreported here | crashed here | released here | shut here | closed here =>
    rw [here]
    rfl

/-- The end of a worker that left its session active changes nothing of that. -/
theorem Closes.phase_eq {reply : Reply} (closes : Closes s reply u) (holding : Holding s)
    (going : s.stopping = false) (active : s.phase.isTerminal = false) : u.phase = s.phase := by
  cases closes with
  | reported here | unreported here | crashed here =>
    -- The end is reported in a terminal phase.
    have terminal := holding.reporting _ _ here
    simp [active] at terminal
  | released _ unlistens => exact unlistens.phase_eq going
  | closed => simp [Session.settled, going]
  | shut | broken => rfl

theorem quiet_of_ended (ended : s.point.hand = .ended) (m : Move) :
    s.crashesOpening m = false ∧ s.failsOpening m = false := by
  cases m with
  | run =>
    refine ⟨?_, rfl⟩
    cases runnable : s.isRunnable with
    | false => simp [crashesOpening, runnable]
    | true =>
      rw [(isRunnable_iff.mp runnable).2] at ended
      cases ended
  | answer reply =>
    cases reply with
    | fault f =>
      rw [crashesOpening_fault rfl, failsOpening_fault rfl]
      cases here : s.point <;> rw [here] at ended <;> first | exact ⟨rfl, rfl⟩ | cases ended
    | _ => exact ⟨rfl, rfl⟩
  | _ => exact ⟨rfl, rfl⟩

theorem quiet_of_unheeded {m : Move} (unheeded : s.heeds m = false) :
    s.crashesOpening m = false ∧ s.failsOpening m = false := by
  cases m with
  | run =>
    have idle : s.isRunnable = false := unheeded
    exact ⟨by simp [crashesOpening, idle], rfl⟩
  | answer reply =>
    cases reply with
    | fault f =>
      -- Every fault is heeded where the worker waits at all.
      have idle : s.request = none := by simpa [heeds] using unheeded
      rw [crashesOpening_fault rfl, failsOpening_fault rfl]
      cases here : s.point <;> first | exact ⟨rfl, rfl⟩ | simp [request, here] at idle
    | _ => exact ⟨rfl, rfl⟩
  | _ => exact ⟨rfl, rfl⟩

/-- Without a stop a worker that has no more work to do leaves the phase of an active session. -/
theorem Standing.phase_of_ended (standing : Standing s) (holding : Holding s)
    (going : s.stopping = false) (active : s.phase.isTerminal = false) (ended : s.point.hand = .ended)
    {m : Move} (other : m ≠ .close) : (s.step m).session.phase = s.phase := by
  have moves := step_moves standing.safe m
  generalize (s.step m).session = u at moves
  have goes : u.stopping = false := moves.going going other
  cases moves with
  | called _ called => exact called.phase.resolve_right (by simp [goes])
  | begins runnable =>
    rw [(isRunnable_iff.mp runnable).2] at ended
    cases ended
  | passes _ passes => exact (passes.closes_of_ended ended).phase_eq holding going active

theorem Standing.outcome (standing : Standing s) (holding : Holding s) (going : s.stopping = false)
    (early : s.phase.rank < 3) {m : Move} (other : m ≠ .close) :
    Outcome s m (s.step m).session := by
  have moves := step_moves standing.safe m
  generalize (s.step m).session = u at moves
  have goes : u.stopping = false := moves.going going other
  cases moves with
  | called unheeded called =>
    obtain ⟨crashes, fails⟩ := quiet_of_unheeded unheeded
    -- Only a stop lets a caller change the phase.
    have same : u.phase = s.phase := called.phase.resolve_right (by simp [goes])
    refine .goesOn (same ▸ early) crashes ?_
    rintro (failed | abandons)
    · simp [fails] at failed
    · rwa [Abandons, called.point]
  | begins runnable begins => exact begins.outcome runnable going early
  | @passes reply _ _ passes =>
    cases passes with
    | opens opens => exact opens.outcome standing holding going early
    | polls polls =>
      have up := polls.up standing
      simp [up, Phase.rank] at early
    | closes closes =>
      have same := closes.phase_eq holding going (Phase.active_of_rank early)
      obtain ⟨crashes, fails⟩ := quiet_of_ended closes.hand_eq (.answer reply)
      refine .goesOn (same ▸ early) crashes ?_
      rintro (failed | ⟨setup, failure, here⟩)
      · simp [fails] at failed
      · cases (here ▸ closes.hand_eq : Point.hand _ = .ended)

/-- Once the connection is up or the session has ended nothing is a failure on the way. -/
theorem Standing.quiet (standing : Standing s) (going : s.stopping = false)
    (past : 3 ≤ s.phase.rank) (m : Move) :
    s.crashesOpening m = false ∧ s.failsOpening m = false := by
  cases m with
  | run =>
    refine ⟨?_, rfl⟩
    cases runnable : s.isRunnable with
    | false => simp [crashesOpening, runnable]
    | true =>
      have fresh := standing.fresh (isRunnable_iff.mp runnable).2
      simp only [going, Bool.false_eq_true, and_false, or_false] at fresh
      simp [fresh, Phase.rank] at past
  | answer reply =>
    cases reply with
    | fault f =>
      rw [crashesOpening_fault rfl, failsOpening_fault rfl]
      -- The points on the way are those of the phases before the connection is up.
      cases here : s.point <;> first | exact ⟨rfl, rfl⟩ | skip
      all_goals
        rw [standing.phase_eq here rfl] at past
        simp [Phase.rank] at past
    | _ => exact ⟨rfl, rfl⟩
  | _ => exact ⟨rfl, rfl⟩

/-! ## Along a history -/

def Connected (met : List (Session × Move)) : Prop :=
  ∃ peer, .established peer ∈ met.flatMap fun seen => (seen.1.toldBy seen.2).toList

inductive Opened (s : Session) (met : List (Session × Move)) : Prop where
  | opening : s.phase.rank < 3 → ¬ Connected met →
      (∀ seen ∈ met, seen.1.crashesOpening seen.2 = false) →
      ((∃ seen ∈ met, seen.1.failsOpening seen.2 = true) → s.Abandons) → Opened s met
  | connected : 3 ≤ s.phase.rank → Connected met →
      (∀ seen ∈ met, seen.1.crashesOpening seen.2 = false) →
      (∀ seen ∈ met, seen.1.failsOpening seen.2 = false) → Opened s met
  | failed : s.role.failure.ending = some s.phase → ¬ Connected met →
      (∀ seen ∈ met, seen.1.crashesOpening seen.2 = false) → Opened s met
  | crashed : s.phase = .lost → ¬ Connected met →
      (∃ seen ∈ met, seen.1.crashesOpening seen.2 = true) → Opened s met
  | deserted : s.phase.rank < 3 → ¬ Connected met →
      (∀ seen ∈ met, seen.1.crashesOpening seen.2 = false) → s.point.hand = .ended →
      (∃ seen ∈ met, seen.1.deserts seen.2 = true) → Opened s met

theorem Connected.concat {met : List (Session × Move)} {m : Move} :
    Connected (met ++ [(s, m)]) ↔ Connected met ∨ ∃ peer, s.toldBy m = some (.established peer) := by
  simp only [Connected, List.flatMap_append, List.flatMap_singleton, List.mem_append,
    Option.mem_toList, exists_or]

theorem forall_concat {met : List (Session × Move)} {quiet : Session → Move → Bool} {m : Move}
    (calm : ∀ seen ∈ met, quiet seen.1 seen.2 = false) (last : quiet s m = false) :
    ∀ seen ∈ met ++ [(s, m)], quiet seen.1 seen.2 = false := by
  intro seen member
  obtain earlier | same := List.mem_append.mp member
  · exact calm seen earlier
  · cases List.mem_singleton.mp same
    exact last

theorem Outcome.opened {met : List (Session × Move)} {m : Move} (outcome : Outcome s m u)
    (connects : Connected (met ++ [(s, m)]) ↔ u.phase = .established) (role : u.role = s.role)
    (calm : ∀ seen ∈ met, seen.1.crashesOpening seen.2 = false)
    (abandons : (∃ seen ∈ met, seen.1.failsOpening seen.2 = true) → s.Abandons) :
    Opened u (met ++ [(s, m)]) := by
  have apart {phase : Phase} (here : u.phase = phase) (other : phase ≠ .established) :
      ¬ Connected (met ++ [(s, m)]) := by
    rw [connects, here]
    exact other
  cases outcome with
  | goesOn early quiet follows =>
    refine .opening early (apart rfl ?_) (forall_concat calm quiet) ?_
    · rintro up
      simp [up, Phase.rank] at early
    · rintro ⟨seen, member, failed⟩
      obtain earlier | same := List.mem_append.mp member
      · exact follows (.inr (abandons ⟨seen, earlier, failed⟩))
      · cases List.mem_singleton.mp same
        exact follows (.inl failed)
  | connects up quiet sound whole =>
    refine .connected (by rw [up]; decide) (connects.mpr up) (forall_concat calm quiet) ?_
    exact forall_concat (fun seen member => Bool.eq_false_iff.mpr fun failed =>
      whole (abandons ⟨seen, member, failed⟩)) sound
  | fails ending quiet =>
    refine .failed (role ▸ ending) (apart rfl ?_) (forall_concat calm quiet)
    rintro up
    rw [up] at ending
    cases here : s.role <;> rw [here] at ending <;> cases ending
  | crashes lost crash =>
    exact .crashed lost (apart lost nofun) (met_last crash)
  | deserts early quiet ended deserts =>
    refine .deserted early (apart rfl ?_) (forall_concat calm quiet) ended
      (met_last deserts)
    rintro up
    simp [up, Phase.rank] at early

theorem Opened.step {met : List (Session × Move)} (opened : Opened s met) (standing : Standing s)
    (holding : Holding s) (going : s.stopping = false) {m : Move} (other : m ≠ .close) :
    Opened (s.step m).session (met ++ [(s, m)]) := by
  have tells := standing.tells_step m
  have outcome (early : s.phase.rank < 3) : Outcome s m (s.step m).session :=
    standing.outcome holding going early other
  have quiet := standing.quiet going (m := m)
  have role := (step_moves standing.safe m).role
  have rests (early : s.phase.rank < 3) (ended : s.point.hand = .ended) :=
    standing.phase_of_ended holding going (Phase.active_of_rank early) ended other
  have ends (ended : s.point.hand = .ended) := standing.ended_step ended m
  generalize (s.step m).session = u at tells outcome role rests ends
  -- Past the way to the connection nothing is a failure on it, and no connection is reported.
  have silent (past : 3 ≤ s.phase.rank) : Connected (met ++ [(s, m)]) ↔ Connected met := by
    rw [Connected.concat, or_iff_left]
    rintro ⟨peer, told⟩
    have early := (told ▸ tells).not_connects
    omega
  cases opened with
  | opening early unconnected calm abandons =>
    refine (outcome early).opened ?_ role calm abandons
    rw [Connected.concat, or_iff_right unconnected]
    exact tells.connects_iff early
  | connected past connected calm sound =>
    obtain ⟨crashes, fails⟩ := quiet past
    exact .connected (tells.past past) ((silent past).mpr connected) (forall_concat calm crashes)
      (forall_concat sound fails)
  | failed ending unconnected calm =>
    have ended := Event.isTerminal_of_ending ending
    have past := Phase.past_of_terminal ended
    refine .failed ?_ (mt (silent past).mp unconnected) (forall_concat calm (quiet past).1)
    rw [role, (tells.of_terminal ended).1]
    exact ending
  | crashed lost unconnected crash =>
    have ended : s.phase.isTerminal = true := by rw [lost]; rfl
    refine .crashed ((tells.of_terminal ended).1.trans lost)
      (mt (silent (Phase.past_of_terminal ended)).mp unconnected) ?_
    exact met_earlier crash
  | deserted early unconnected calm ended deserted =>
    have same := rests early ended
    refine .deserted (same ▸ early) ?_ (forall_concat calm (quiet_of_ended ended m).1) (ends ended) ?_
    · rw [Connected.concat, or_iff_right unconnected, tells.connects_iff early, same]
      rintro up
      simp [up, Phase.rank] at early
    · exact met_earlier deserted

theorem Plan.role_history (plan : Plan) (moves : List Move) :
    (plan.session.history moves).session.role = plan.role := by
  induction moves using List.reverseRecOn with
  | nil => rfl
  | append_singleton moves last ih =>
    rw [history_concat]
    exact (step_moves (plan.standing.history moves).safe last).role.trans ih

theorem connected_course (plan : Plan) (moves : List Move) :
    Connected (plan.session.course moves) ↔
      ∃ peer, .established peer ∈ (plan.session.history moves).events := by
  rw [events_history]
  rfl

theorem final_mem_events {plan : Plan} {moves : List Move} {event : Event}
    (final : event.isFinal = true) : event ∈ (plan.session.history moves).events ↔
      (plan.session.history moves).session.phase.report = some event := by
  obtain ⟨a, same, fits⟩ := account_history plan moves
  rw [same]
  exact fits.mem_events final

theorem Plan.opened_history (plan : Plan) {moves : List Move} (unclosed : .close ∉ moves) :
    Opened (plan.session.history moves).session (plan.session.course moves) := by
  induction moves using List.reverseRecOn with
  | nil =>
    show Opened plan.session []
    exact .opening (show Phase.initial.rank < 3 by decide) (by simp [Connected]) (by simp) (by simp)
  | append_singleton moves last ih =>
    simp only [List.mem_append, List.mem_singleton, not_or] at unclosed
    rw [course_append, history_concat]
    exact (ih unclosed.1).step (plan.standing.history moves) (plan.holding_history moves)
      (going_history unclosed.1) (Ne.symm unclosed.2)

/-- A session that nobody has asked to stop reports the loss of its connection only after that was up, or
if the worker crashed on the way there: then it ends lost without ever having been connected. Every other
failure on the way ends it in the failure of its role, at once or as soon as the connection is closed,
unless the worker meets an exit while it closes the connection, and it is not connected either. -/
theorem opening_failures {plan : Plan} {moves : List Move} (unclosed : .close ∉ moves) :
    let s := (plan.session.history moves).session
    let events := (plan.session.history moves).events
    let met := plan.session.course moves
    (.lost ∈ events ↔ s.phase = .lost) ∧
      (.lost ∈ events →
        (∃ earlier peer, events = earlier ++ [.lost] ∧ .established peer ∈ earlier) ∨
          ∃ seen ∈ met, seen.1.crashesOpening seen.2 = true) ∧
      ((∃ seen ∈ met, seen.1.crashesOpening seen.2 = true) →
        s.phase = .lost ∧ ∀ peer, .established peer ∉ events) ∧
      ((∃ seen ∈ met, seen.1.failsOpening seen.2 = true) →
        (∀ peer, .established peer ∉ events) ∧
          (plan.role.failure.ending = some s.phase ∧ plan.role.failure ∈ events ∨
            (∃ setup failure, s.point = .abandoning setup failure) ∨
            (∃ seen ∈ met, seen.1.crashesOpening seen.2 = true) ∨
            ∃ seen ∈ met, seen.1.deserts seen.2 = true)) := by
  intro s events met
  have opened : Opened s met := plan.opened_history unclosed
  have role : s.role = plan.role := plan.role_history moves
  have lost : .lost ∈ events ↔ s.phase = .lost := by
    rw [final_mem_events rfl]
    cases s.phase <;> simp [Phase.report]
  have connected : Connected met ↔ ∃ peer, .established peer ∈ events :=
    connected_course plan moves
  have calm (quiet : ∀ seen ∈ met, seen.1.crashesOpening seen.2 = false) :
      ¬ ∃ seen ∈ met, seen.1.crashesOpening seen.2 = true := by
    rintro ⟨seen, member, crash⟩
    simp [quiet seen member] at crash
  have apart (unconnected : ¬ Connected met) (peer : String) : .established peer ∉ events :=
    fun reported => unconnected (connected.mpr ⟨peer, reported⟩)
  refine ⟨lost, fun reported => ?_, fun crash => ?_, fun failed => ?_⟩
  · have here := lost.mp reported
    cases opened with
    | opening early => simp [here, Phase.rank] at early
    | connected _ up =>
      obtain ⟨peer, up⟩ := connected.mp up
      obtain ⟨earlier, whole, -⟩ := lost_last here
      refine .inl ⟨earlier, peer, whole, ?_⟩
      simpa [show events = earlier ++ [.lost] from whole] using up
    | failed ending =>
      rw [here] at ending
      cases owner : s.role <;> rw [owner] at ending <;> cases ending
    | crashed _ _ crash => exact .inr crash
    | deserted early => simp [here, Phase.rank] at early
  · cases opened with
    | opening _ _ quiet | connected _ _ quiet | failed _ _ quiet | deserted _ _ quiet =>
      exact absurd crash (calm quiet)
    | crashed lost unconnected => exact ⟨lost, apart unconnected⟩
  · cases opened with
    | opening _ unconnected _ abandons => exact ⟨apart unconnected, .inr (.inl (abandons failed))⟩
    | connected _ _ _ sound =>
      obtain ⟨seen, member, failed⟩ := failed
      simp [sound seen member] at failed
    | failed ending unconnected =>
      rw [role] at ending
      refine ⟨apart unconnected, .inl ⟨ending, ?_⟩⟩
      rw [final_mem_events (by cases plan.role <;> rfl)]
      show s.phase.report = _
      generalize s.phase = phase at ending
      cases owner : plan.role <;> rw [owner] at ending <;> cases ending <;> rfl
    | crashed _ unconnected crash => exact ⟨apart unconnected, .inr (.inr (.inl crash))⟩
    | deserted _ unconnected _ _ deserted =>
      exact ⟨apart unconnected, .inr (.inr (.inr deserted))⟩

/-- A connector that nobody closes, and to which its peer stays unknown, reports the loss of a connection
that it never reported. -/
theorem opening_failures_unnamed :
    let moves := dialledPlain ++ peerUnknown
    let t := Plan.plainConnector.session.history moves
    .close ∉ moves ∧ .lost ∈ t.events ∧ ∀ peer, .established peer ∉ t.events := by
  intro moves t
  have unclosed : .close ∉ dialledPlain ++ peerUnknown := by simp [dialledPlain, peerUnknown]
  obtain ⟨lost, -, crashes, -⟩ := @opening_failures Plan.plainConnector _ unclosed
  -- The fault meets the worker while it asks for the name of the peer.
  have crash : ∃ seen ∈ Plan.plainConnector.session.course (dialledPlain ++ peerUnknown),
      seen.1.crashesOpening seen.2 = true := by
    rw [course_append]
    exact ⟨_, List.mem_append_right _ List.mem_cons_self, rfl⟩
  obtain ⟨ended, unconnected⟩ := crashes crash
  exact ⟨unclosed, lost.mpr ended, unconnected⟩

end Session

end Handover
