import Handover.Proofs.Session.Stopping

/-! The call that closes a session. It takes the listening socket out of an accept in progress, shutting it
down and closing it, and shuts down a connection in its handshake; that connection is closed by the worker
later, unless its handshake fails in a way that is not expected of it. -/

set_option autoImplicit false

namespace Handover.Session

variable {s u : Session}

/-! ## The call inside an accept -/

/-- How far a call has come that has the listening socket to close. -/
inductive Shutting : List (Request × Reply) → Closing → Prop where
  | begun : Shutting [] .shuttingListener
  | shut {reply : Reply} : Shutting [(.shutDown .listener, reply)] .closingListener
  | closed {reply : Reply} {others : List (Request × Reply)} {closing : Closing} :
      closing = .interrupting ∨ closing = .over none →
      Shutting ((.shutDown .listener, reply) :: (.close .listener, .done) :: others) closing
  | broken {exchanges : List (Request × Reply)} {f : Fault} : Shutting exchanges (.over (some f))

inductive Interrupting : List (Request × Reply) → Closing → Prop where
  | begun : Interrupting [] .interrupting
  | interrupted {reply : Reply} : Interrupting [(.shutDown .raw, reply)] (.over none)
  | broken {exchanges : List (Request × Reply)} {f : Fault} : Interrupting exchanges (.over (some f))

theorem afterListener_eq (s : Session) :
    s.afterListener = .interrupting ∨ s.afterListener = .over none := by
  unfold afterListener
  split
  · exact .inl rfl
  · exact .inr rfl

theorem Resumes.shutting {exchanges : List (Request × Reply)} (shutting : Shutting exchanges s.closing)
    {request : Request} {reply : Reply} {closing : Closing} (asked : s.closingRequest = some request)
    (resumes : Resumes s reply closing) : Shutting (exchanges ++ [(request, reply)]) closing := by
  generalize here : s.closing = before at shutting
  cases resumes with
  | shut waiting =>
    obtain rfl := here.symm.trans waiting
    obtain rfl : .shutDown .listener = request := by simpa [closingRequest, here] using asked
    cases shutting with
    | begun => exact .shut
    | closed after => obtain after | after := after <;> cases after
  | closed waiting =>
    obtain rfl := here.symm.trans waiting
    obtain rfl : .close .listener = request := by simpa [closingRequest, here] using asked
    cases shutting with
    | shut => exact .closed s.afterListener_eq
    | closed after => obtain after | after := after <;> cases after
  | interrupted waiting =>
    obtain rfl := here.symm.trans waiting
    cases shutting with
    | closed => exact .closed (.inr rfl)
  | broken => exact .broken

theorem Resumes.interrupting {exchanges : List (Request × Reply)}
    (interrupting : Interrupting exchanges s.closing) {request : Request} {reply : Reply}
    {closing : Closing} (asked : s.closingRequest = some request) (resumes : Resumes s reply closing) :
    Interrupting (exchanges ++ [(request, reply)]) closing := by
  generalize here : s.closing = before at interrupting
  cases resumes with
  | shut waiting | closed waiting =>
    obtain rfl := here.symm.trans waiting
    cases interrupting
  | interrupted waiting =>
    obtain rfl := here.symm.trans waiting
    obtain rfl : .shutDown .raw = request := by simpa [closingRequest, here] using asked
    cases interrupting
    exact .interrupted
  | broken => exact .broken

/-- A call to close that is under way goes on by the answers to its own requests only. -/
theorem Stopped.calling (stopped : Stopped s) (m : Move) :
    s.answeredCaller m = none ∧ (s.step m).session.closing = s.closing ∨
      ∃ request reply, s.answeredCaller m = some (request, reply) ∧
        s.closingRequest = some request ∧ Resumes s reply (s.step m).session.closing := by
  have moves := stopped.moves m
  have shuts := step_shuts (s := s) (m := m)
  generalize (s.step m).session = u at moves shuts
  cases moves with
  | called unheeded =>
    cases shuts unheeded with
    | rests _ none _ _ same => exact .inl ⟨none, same⟩
    | begins _ going => simp [stopped.stopped] at going
    | resumes _ answered _ _ resumed =>
      exact .inr ⟨_, _, answered, (answeredCaller_eq_some.mp answered).2.1, resumed⟩
  | begins _ begins => exact .inl ⟨rfl, congrArg Steady.closing begins.steady⟩
  | passes _ passes => exact .inl ⟨rfl, congrArg Steady.closing passes.steady⟩

/-- What the answers to its requests keep of a call to close holds of all of it. -/
theorem Stopped.called (stopped : Stopped s) (holds : List (Request × Reply) → Closing → Prop)
    (start : holds [] s.closing)
    (keeps : ∀ (t : Session) exchanges request reply closing, holds exchanges t.closing →
      t.closingRequest = some request → Resumes t reply closing →
      holds (exchanges ++ [(request, reply)]) closing)
    (moves : List Move) :
    holds (s.callerTranscript moves) (s.history moves).session.closing := by
  induction moves using List.reverseRecOn with
  | nil => exact start
  | append_singleton moves last ih =>
    rw [callerTranscript_concat, history_concat]
    obtain ⟨none, same⟩ | ⟨request, reply, answered, asked, resumed⟩ :=
      (stopped.of_course moves).1.calling last
    · rw [none, Turn.move, same, Option.toList_none, List.append_nil]
      exact ih
    · rw [answered]
      exact keeps _ _ request reply _ ih asked resumed

/-! ## The call inside a handshake -/

theorem Retires.of_held {escape : Option Fault} {socket : Socket} (retires : Retires s escape u)
    (held : s.held = some socket) :
    u = { s with held := none, point := .releasingLink socket escape } := by
  cases retires with
  | link other same =>
    obtain rfl := Option.some.inj (held.symm.trans same)
    rfl
  | unlistens none => cases held.symm.trans none

theorem Retires.of_bare {escape : Option Fault} (retires : Retires s escape u) (bare : Bare s) :
    u = s.settled escape := by
  cases retires with
  | link _ held => cases bare.none.symm.trans held
  | unlistens _ unlistens =>
    cases unlistens with
    | listener held => cases bare.idle.symm.trans held
    | settled => rfl

/-- A fault that is not expected is a failure that the worker reports, or an exit that it cannot. -/
theorem Fails.of_unexpected {event : Event} {f : Fault} (fails : Fails s event f u)
    (other : f.isSystem = false) (active : s.phase.isTerminal = false) (bare : Bare s) :
    u = { s with phase := .lost, point := .reportingEnd .lost true } ∨
      ∃ escape, u = s.settled escape := by
  cases fails with
  | expected system => cases other.symm.trans system
  | crashes _ crashes =>
    cases crashes with
    | loses _ finishes =>
      cases finishes with
      | ended terminal => cases active.symm.trans terminal
      | reports _ ending =>
        cases ending
        exact .inl rfl
    | exits _ retires => exact .inr ⟨_, retires.of_bare bare⟩

def Point.retreats : Point → Bool
  | .abandoning _ _ => true
  | .reportingEnd _ _ | .releasingLink _ _ | .shuttingUnused _ | .closingUnused _ | .exited _ => true
  | _ => false

theorem Point.retreats_of_ended {point : Point} (ended : point.hand = .ended) :
    point.retreats = true := by
  cases point <;> first | rfl | cases ended

theorem resume_abandoning {setup : Setup} {failure : Fault} {reply : Reply}
    (here : s.point = .abandoning setup failure) (heeded : s.heeds (.answer reply) = true) :
    Ends s (s.resume reply).session := by
  have fails (f : Fault) : Ends s
      (((Turn.of s).update fun s => { s with handshaking := false }).failSetup setup f).session := by
    obtain ⟨hand, slot, handed, token⟩ :=
      (((Turn.of s).update fun s => { s with handshaking := false }).failSetup_passage setup f).ends
    exact ⟨hand, slot, handed, token⟩
  cases reply with
  | done => simpa [resume, proceed, here] using fails failure
  | fault f => simpa [resume, fail, here] using fails f
  | _ => simp [heeds, request, here, Request.admits] at heeded

theorem Stopped.retreats (stopped : Stopped s) (retreats : s.point.retreats = true) (m : Move) :
    (s.step m).session.point.retreats = true := by
  have moves := stopped.moves m
  generalize made : s.step m = t at moves
  cases moves with
  | called _ called => rwa [called.point]
  | begins runnable =>
    rw [(isRunnable_iff.mp runnable).2] at retreats
    cases retreats
  | passes heeded passes =>
    have carries := passes.carries
    cases here : s.point <;> rw [here] at retreats <;> first | cases retreats; done | skip
    case passes.abandoning =>
      rw [← made]
      exact Point.retreats_of_ended (resume_abandoning here heeded).hand
    all_goals
      rw [here] at carries
      exact Point.retreats_of_ended carries.of_ended

theorem Stopped.unestablished (stopped : Stopped s) (away : s.phase ≠ .established) {m : Move}
    (retreats : (s.step m).session.point.retreats = true) : (s.step m).session.phase ≠ .established := by
  have tells := stopped.standing.tells_step m
  have holding := (stopped.step m).holding
  rw [toldBy] at tells
  generalize (s.step m).session = u at tells retreats holding
  intro up
  rw [up] at tells
  generalize here : s.phase = before at tells away
  generalize told : (if s.heeds m then u.told else none) = event at tells
  cases tells with
  | silent | transfers => exact absurd rfl away
  | connects =>
    split at told
    · cases there : u.point <;> rw [there] at retreats <;>
        simp [Session.told, Session.request, there, Request.event?] at told <;> cases retreats
      -- The end is reported in a terminal phase.
      have ended := holding.reporting _ _ there
      rw [up] at ended
      cases ended
    · cases told
  | @ends _ _ event _ ending => cases event <;> cases ending

/-- The connection that a stopped worker closes after its handshake. A fault of use is none that a handshake
is abandoned for. -/
def Reply.leftover : Reply → Option Socket
  | .connection socket => some socket
  | .fault f => if f.isSystem then some .raw else none
  | _ => none

/-- What has become of a connection in whose handshake the session was asked to stop: the exchanges and the
requests of the worker since then. -/
inductive Aftermath (s : Session) : List (Request × Reply) → List Request → Prop where
  | waits {setup : Setup} : s.point = .handshaking setup → Aftermath s [] []
  | closes {role : Role} {reply : Reply} {others : List (Request × Reply)} {calls : List Request}
      {socket : Socket} : s.point.retreats = true → reply.leftover = some socket →
      .close socket ∈ calls → Aftermath s ((.handshake role, reply) :: others) calls
  | leaves {role : Role} {reply : Reply} {others : List (Request × Reply)} {calls : List Request} :
      s.point = .reportingEnd .lost true ∨ s.hasExited = true → reply.leftover = none →
      s.held = none → (∀ socket, .close socket ∉ calls) →
      Aftermath s ((.handshake role, reply) :: others) calls

theorem Aftermath.place {exchanges : List (Request × Reply)} {calls : List Request}
    (aftermath : Aftermath s exchanges calls) :
    (∃ setup, s.point = .handshaking setup) ∨ s.point.retreats = true := by
  cases aftermath with
  | waits here => exact .inl ⟨_, here⟩
  | closes retreats => exact .inr retreats
  | leaves there =>
    obtain here | exited := there
    · exact .inr (by rw [here]; rfl)
    · obtain ⟨escape, here⟩ := hasExited_iff.mp exited
      exact .inr (by rw [here]; rfl)

theorem Aftermath.answer {setup : Setup} (stopped : Stopped s) (here : s.point = .handshaking setup)
    {reply : Reply} (heeded : s.heeds (.answer reply) = true) :
    Aftermath (s.resume reply).session [(.handshake setup.role, reply)]
      (s.resume reply).session.request.toList := by
  cases reply with
  | connection socket =>
    have same : s.resume (.connection socket) = (Turn.of s).adopt socket := by
      simp [resume, proceed, here]
    have adopts := (Turn.of s).adopt_passage socket
    rw [same, (adopts.stopped stopped.stopped).of_held rfl]
    exact .closes rfl rfl List.mem_cons_self
  | fault f =>
    cases system : f.isSystem with
    | true =>
      have same : s.resume (.fault f) = (Turn.of s).await (.abandoning setup f) := by
        simp [resume, fail, here, system]
      rw [same]
      exact .closes rfl (by simp [Reply.leftover, system]) List.mem_cons_self
    | false =>
      let freed := (Turn.of s).update fun s => { s with handshaking := false }
      have same : s.resume (.fault f) = freed.failSetup setup f := by
        simp [resume, fail, here, system, freed]
      have active : freed.session.phase.isTerminal = false := by
        rw [show freed.session.phase = s.phase from rfl, stopped.standing.phase_eq here rfl]
        rfl
      have none : s.held = none := stopped.holding.none here rfl
      have leftover : (Reply.fault f).leftover = .none := by simp [Reply.leftover, system]
      rw [same]
      obtain lost | ⟨escape, exited⟩ := (freed.failSetup_passage setup f).of_unexpected system active
        ⟨stopped.unlistening, none⟩
      · rw [lost]
        exact .leaves (.inl rfl) leftover none (by simp [request])
      · rw [exited]
        exact .leaves (.inr rfl) leftover none (by simp [request, settled])
  | _ => simp [heeds, request, here, Request.admits] at heeded

theorem resume_reportingEnd (bare : Bare s) (here : s.point = .reportingEnd .lost true) {reply : Reply}
    (heeded : s.heeds (.answer reply) = true) :
    ∃ escape, (s.resume reply).session = s.settled escape := by
  have cleansUp (escape : Option Fault) :
      ((Turn.of s).cleanUp escape).session = s.settled escape :=
    ((Turn.of s).cleanUp_passage escape).of_bare bare
  cases reply with
  | done => exact ⟨_, by simpa [resume, proceed, here] using cleansUp _⟩
  | fault f => exact ⟨_, by simpa [resume, fail, here] using cleansUp _⟩
  | _ => simp [heeds, request, here, Request.admits] at heeded

theorem Aftermath.step {exchanges : List (Request × Reply)} {calls : List Request}
    (aftermath : Aftermath s exchanges calls) (stopped : Stopped s) (m : Move) :
    Aftermath (s.step m).session (exchanges ++ (s.answered m).toList)
      (calls ++ (s.step m).calls) := by
  rw [calls_step]
  cases heeded : s.heeds m with
  | false =>
    rw [answered_of_unheeded heeded, if_neg Bool.false_ne_true, Option.toList_none, List.append_nil,
      List.append_nil]
    have called := (stopped.moves m).resting heeded
    generalize (s.step m).session = u at called
    cases aftermath with
    | waits here => exact .waits (called.point.trans here)
    | closes retreats left closed => exact .closes (called.point ▸ retreats) left closed
    | leaves there nothing none unclosed =>
      refine .leaves ?_ nothing (called.held.trans none) unclosed
      simpa [hasExited, called.point] using there
  | true =>
    cases aftermath with
    | closes retreats left closed =>
      exact .closes (stopped.retreats retreats m) left (List.mem_append_left _ closed)
    | @waits setup here =>
      cases m with
      | run => cases here.symm.trans (isRunnable_iff.mp heeded).2
      | answer reply =>
        obtain ⟨request, asked, fits⟩ := heeds_answer_iff.mp heeded
        obtain rfl : .handshake setup.role = request := by
          simpa [Session.request, here] using asked
        rw [answered_eq_some.mpr ⟨rfl, asked, fits⟩]
        exact Aftermath.answer stopped here heeded
      | _ => cases heeded
    | leaves there nothing none unclosed =>
      cases m with
      | run =>
        have ready := (isRunnable_iff.mp heeded).2
        simp [hasExited, ready] at there
      | answer reply =>
        obtain here | exited := there
        · obtain ⟨escape, same⟩ := resume_reportingEnd ⟨stopped.unlistening, none⟩ here heeded
          rw [Session.step, same]
          refine .leaves (.inr rfl) nothing none fun socket => ?_
          simpa [settled, request] using unclosed socket
        · obtain ⟨request, asked, -⟩ := heeds_answer_iff.mp heeded
          obtain ⟨escape, here⟩ := hasExited_iff.mp exited
          simp [Session.request, here] at asked
      | _ => cases heeded

theorem Aftermath.history {setup : Setup} (stopped : Stopped s) (here : s.point = .handshaking setup)
    (moves : List Move) :
    Aftermath (s.history moves).session (s.transcript moves) (s.history moves).calls := by
  induction moves using List.reverseRecOn with
  | nil => exact .waits here
  | append_singleton moves last ih =>
    rw [transcript_concat, history_concat, Turn.calls_move]
    exact ih.step (stopped.of_course moves).1 last

theorem Stopped.unestablished_history {setup : Setup} (stopped : Stopped s)
    (here : s.point = .handshaking setup) (moves : List Move) :
    (s.history moves).session.phase ≠ .established := by
  have unset {t : Session} {setup : Setup} (standing : Standing t) (here : t.point = .handshaking setup) :
      t.phase ≠ .established := by
    rw [standing.phase_eq here rfl]
    decide
  induction moves using List.reverseRecOn with
  | nil => exact unset stopped.standing here
  | append_singleton moves last ih =>
    have before := (stopped.of_course moves).1
    have after := (Aftermath.history stopped here moves).step before last
    rw [history_concat]
    obtain ⟨setup, there⟩ | retreats := after.place
    · exact unset (before.step last).standing there
    · exact before.unestablished ih retreats

/-! ## The call -/

/-- What comes after a call that closes a session, from the state that it is made in. -/
structure Interrupted (s : Session) (later : List Move) : Prop where
  quiet : ∀ request ∈ (s.close.session.history later).calls, request.begins = false
  /-- No tick of the polling begins. -/
  rounds : ∀ met ∈ s.close.session.course later, ∀ link, met.1.rounds met.2 = some link →
    (met.1.step met.2).session.point.hand = .ended ∧ (met.1.step met.2).session.slot = met.1.slot
  /-- What the worker has in its hand is the one thing that it may still write. -/
  written : (s.close.session.history later).written <+: s.point.hand.unwritten
  /-- A connection that comes all the same is closed. -/
  refused : ∀ met ∈ s.close.session.course later, met.1.connects met.2 = true →
    (met.1.step met.2).calls = [.close .raw]
  /-- The call ends without a fault only when the socket of an accept in progress has been shut down and
  closed by it. -/
  accepting : s.stopping = false → s.point = .accepting →
    s.close.session.closingRequest = some (.shutDown .listener) ∧
      ((s.close.session.history later).session.closing = .over none → ∃ reply others,
        s.close.session.callerTranscript later =
          (.shutDown .listener, reply) :: (.close .listener, .done) :: others)
  handshaking : ∀ setup, s.stopping = false → s.point = .handshaking setup →
    s.close.session.closingRequest = some (.shutDown .raw) ∧
      ((s.close.session.history later).session.closing = .over none → ∃ reply,
        s.close.session.callerTranscript later = [(.shutDown .raw, reply)])
  unestablished : ∀ setup, s.point = .handshaking setup →
    (s.close.session.history later).session.phase ≠ .established
  /-- The first answer after a call inside a handshake is that of the handshake, and says whether the
  connection is ever closed. -/
  released : ∀ setup request reply others, s.point = .handshaking setup →
    s.close.session.transcript later = (request, reply) :: others →
    (∀ socket, reply.leftover = some socket →
        .close socket ∈ (s.close.session.history later).calls) ∧
      (reply.leftover = none → ∀ socket, .close socket ∉ (s.close.session.history later).calls)

theorem closing_close (going : s.stopping = false) :
    s.close.session.closing = if s.listening then .shuttingListener else s.afterListener := by
  cases s.close_shuts with
  | rests again => cases going.symm.trans (again rfl)
  | begins _ _ _ _ closing => exact closing
  | resumes other => cases other

/-- After a call that closes a session nothing is begun any more, whenever the call is made and whatever
happens later. -/
theorem close_interrupts (plan : Plan) (earlier later : List Move) :
    Interrupted (plan.session.history earlier).session later := by
  have standing := plan.standing.history earlier
  have holding := plan.holding_history earlier
  generalize (plan.session.history earlier).session = s at standing holding
  have stopped := standing.close_stopped holding
  obtain ⟨-, all⟩ := stopped.of_course later
  have stays : s.close.session.point = s.point := s.called_close.point
  exact {
    quiet := by
      intro request member
      rw [calls_history, List.mem_flatMap] at member
      obtain ⟨met, there, member⟩ := member
      exact (all met there).calls met.2 request member
    rounds := fun met there link rounds => (all met there).rounds rounds
    written := by
      have written := stopped.written later
      rw [stays] at written
      exact (List.prefix_append _ _).trans written
    refused := fun met there connects => (all met there).refuses connects
    accepting := by
      intro going here
      have closing := closing_close going
      rw [holding.listens (by rw [here]; rfl) going, if_pos rfl] at closing
      refine ⟨by simp [closingRequest, closing], fun done => ?_⟩
      have shutting := stopped.called Shutting (closing ▸ .begun)
        (fun _ _ _ _ _ shutting asked resumes => resumes.shutting shutting asked) later
      rw [done] at shutting
      generalize s.close.session.callerTranscript later = exchanges at shutting
      cases shutting
      exact ⟨_, _, rfl⟩
    handshaking := by
      intro setup going here
      have closing := closing_close going
      rw [holding.idle here rfl, if_neg Bool.false_ne_true, afterListener, holding.handshaking, here,
        Point.secures, if_pos rfl] at closing
      refine ⟨by simp [closingRequest, closing], fun done => ?_⟩
      have interrupting := stopped.called Interrupting (closing ▸ .begun)
        (fun _ _ _ _ _ interrupting asked resumes => resumes.interrupting interrupting asked) later
      rw [done] at interrupting
      generalize s.close.session.callerTranscript later = exchanges at interrupting
      cases interrupting
      exact ⟨_, rfl⟩
    unestablished := fun setup here => stopped.unestablished_history (stays.trans here) later
    released := by
      intro setup request reply others here answered
      have aftermath := Aftermath.history stopped (stays.trans here) later
      rw [answered] at aftermath
      cases aftermath with
      | closes _ left closed =>
        refine ⟨?_, fun nothing => ?_⟩
        · rintro socket same
          obtain rfl := Option.some.inj (left.symm.trans same)
          exact closed
        · cases left.symm.trans nothing
      | leaves _ nothing _ unclosed =>
        refine ⟨fun socket left => ?_, fun _ => unclosed⟩
        cases nothing.symm.trans left }

/-- A connector that is closed in the handshake, which then fails for a reason of use. -/
def dialledBare : List Move := [.start, .run, .answer .done]

def handshakeRejected : List Move :=
  [.answerCaller .done, .answer (.fault ⟨.value, "Invalid value"⟩), .answer .done]

/-- The connection was shut down by the call, and is never closed. -/
theorem close_leaves_connection :
    let s := (Plan.plainConnector.session.history dialledBare).session
    let moves := dialledBare ++ .close :: handshakeRejected
    s.point = .handshaking (.dialling "10.0.0.9" 1336) ∧
      s.close.session.callerTranscript handshakeRejected = [(.shutDown .raw, .done)] ∧
      (Plan.plainConnector.session.history moves).session.hasExited = true ∧
      ∀ socket, .close socket ∉ (Plan.plainConnector.session.history moves).calls := by
  intro s moves
  have calls : (Plan.plainConnector.session.history (dialledBare ++ .close :: handshakeRejected)).calls =
      [.dial "10.0.0.9" 1336 Plan.plainConnector.settings.connectTimeout, .handshake .connector,
        .emit .lost] := rfl
  refine ⟨rfl, rfl, rfl, fun socket => ?_⟩
  rw [calls]
  simp

end Handover.Session
