import Handover.Proofs.Session.Callers

/-! The caller that closes a session. The first call takes the listening socket away, shuts it down and
closes it, and then shuts down a connection that is in its handshake; it goes on with the answers to its
own requests, apart from the worker. No other move concerns it, and no later call does anything. -/

set_option autoImplicit false

namespace Handover.Session

/-- The request of the closing caller that a move answers, with the answer, if that caller waits for such
a one. -/
def answeredCaller (s : Session) : Move → Option (Request × Reply)
  | .answerCaller reply => (s.closingRequest.filter fun request => request.admits reply).map
      fun request => (request, reply)
  | _ => none

/-- The answered requests of the closing caller with their answers, in order. -/
def callerTranscript (s : Session) (moves : List Move) : List (Request × Reply) :=
  (s.course moves).filterMap fun met => met.1.answeredCaller met.2

theorem callerTranscript_concat (s : Session) (moves : List Move) (last : Move) :
    s.callerTranscript (moves ++ [last]) =
      s.callerTranscript moves ++ ((s.history moves).session.answeredCaller last).toList := by
  rw [callerTranscript, course_append, List.filterMap_append]
  rfl

theorem answeredCaller_eq_some {s : Session} {move : Move} {request : Request} {reply : Reply} :
    s.answeredCaller move = some (request, reply) ↔
      move = .answerCaller reply ∧ s.closingRequest = some request ∧ request.admits reply = true := by
  cases move <;> simp [answeredCaller, Option.filter_eq_some_iff]
  grind

/-- What is left of a call to close once the listening socket is out of the way. -/
def afterListener (s : Session) : Closing := if s.handshaking then .interrupting else .over none

inductive Resumes (s : Session) : Reply → Closing → Prop where
  | shut {reply : Reply} : s.closing = .shuttingListener →
      (reply = .done ∨ ∃ f : Fault, reply = .fault f ∧ f.isSystem = true) →
      Resumes s reply .closingListener
  | closed : s.closing = .closingListener → Resumes s .done s.afterListener
  | interrupted {reply : Reply} : s.closing = .interrupting →
      (reply = .done ∨ ∃ f : Fault, reply = .fault f ∧ f.isSystem = true) →
      Resumes s reply (.over none)
  | broken {f : Fault} : s.closing = .closingListener ∨
        (s.closing = .shuttingListener ∨ s.closing = .interrupting) ∧ f.isSystem = false →
      Resumes s (.fault f) (.over (some f))

/-- What a move does to the listening socket that is held and to the call that closes the session, if it
is none of the worker's. -/
inductive Shuts (s : Session) (m : Move) (u : Session) : Prop where
  | rests : (m = .close → s.stopping = true) → s.answeredCaller m = none →
      u.listening = s.listening → u.stopping = s.stopping → u.closing = s.closing → Shuts s m u
  | begins : m = .close → s.stopping = false → u.listening = false → u.stopping = true →
      u.closing = (if s.listening then .shuttingListener else s.afterListener) → Shuts s m u
  | resumes {request : Request} {reply : Reply} : m = .answerCaller reply →
      s.answeredCaller m = some (request, reply) → u.listening = s.listening →
      u.stopping = s.stopping → Resumes s reply u.closing → Shuts s m u

theorem concludeClosing_shuts (t : Turn) : t.concludeClosing.session.listening = t.session.listening ∧
    t.concludeClosing.session.stopping = t.session.stopping ∧
    t.concludeClosing.session.closing = .over none := by
  unfold Turn.concludeClosing Turn.enterIfActive
  split
  · exact ⟨rfl, rfl, rfl⟩
  · split <;> exact ⟨rfl, rfl, rfl⟩

theorem interrupt_shuts (t : Turn) : t.interrupt.session.listening = t.session.listening ∧
    t.interrupt.session.stopping = t.session.stopping ∧
    t.interrupt.session.closing = t.session.afterListener := by
  unfold Turn.interrupt afterListener
  split
  · exact ⟨rfl, rfl, rfl⟩
  · exact concludeClosing_shuts t

theorem close_shuts (s : Session) : Shuts s .close s.close.session := by
  cases asked : s.stopping with
  | true =>
    have same : s.close = Turn.of s := by simp [close, asked]
    rw [same]
    exact .rests (fun _ => asked) rfl rfl rfl rfl
  | false =>
    let stopped := (((Turn.of s).note (.closing s.role)).update
      fun s => { s with stopping := true }).detach
    have shape : stopped.session = { s with stopping := true, sink := s.sink.release.detach } :=
      session_detach _
    have same : s.close = if s.listening then
        (stopped.update fun s => { s with listening := false }).awaitClosing .shuttingListener
        else stopped.interrupt := by
      simp [close, asked, stopped]
    rw [same]
    cases held : s.listening with
    | true =>
      refine .begins rfl asked rfl ?_ (by rw [held]; rfl)
      exact congrArg Session.stopping shape
    | false =>
      obtain ⟨listening, stopping, closing⟩ := interrupt_shuts stopped
      rw [if_neg Bool.false_ne_true]
      refine .begins rfl asked ?_ ?_ ?_
      · rw [listening, shape]
        exact held
      · rw [stopping, shape]
      · rw [closing, held, shape]
        rfl

theorem close_stopping (s : Session) : s.close.session.stopping = true := by
  cases s.close_shuts with
  | rests again _ _ stopping => exact stopping.trans (again rfl)
  | begins _ _ _ stopped => exact stopped
  | resumes other => cases other

theorem resumeClosing_shuts (s : Session) (reply : Reply) :
    Shuts s (.answerCaller reply) (s.resumeClosing reply).session := by
  -- An answer that the caller does not wait for changes nothing.
  have rests (idle : s.closingRequest = none ∨
      ∃ request, s.closingRequest = some request ∧ request.admits reply = false) :
      Shuts s (.answerCaller reply) s := by
    refine .rests nofun ?_ rfl rfl rfl
    obtain none | ⟨request, asked, unfit⟩ := idle
    · simp [answeredCaller, none]
    · simp [answeredCaller, asked, unfit]
  have resumes {request : Request} {u : Session} (asked : s.closingRequest = some request)
      (fits : request.admits reply = true) (listening : u.listening = s.listening)
      (stopping : u.stopping = s.stopping) (resumed : Resumes s reply u.closing) :
      Shuts s (.answerCaller reply) u :=
    .resumes rfl (answeredCaller_eq_some.mpr ⟨rfl, asked, fits⟩) listening stopping resumed
  unfold resumeClosing
  cases here : s.closing with
  | shuttingListener =>
    have asked : s.closingRequest = some (.shutDown .listener) := by simp [closingRequest, here]
    cases reply with
    | done => exact resumes asked rfl rfl rfl (.shut here (.inl rfl))
    | fault f =>
      dsimp only
      split
      · next system => exact resumes asked rfl rfl rfl (.shut here (.inr ⟨f, rfl, system⟩))
      · next other =>
        exact resumes asked rfl rfl rfl (.broken (.inr ⟨.inl here, by simpa using other⟩))
    | _ => exact rests (.inr ⟨_, asked, rfl⟩)
  | closingListener =>
    have asked : s.closingRequest = some (.close .listener) := by simp [closingRequest, here]
    cases reply with
    | done =>
      obtain ⟨listening, stopping, closing⟩ := interrupt_shuts (.of s)
      refine resumes asked rfl listening stopping ?_
      rw [closing]
      exact .closed here
    | fault f => exact resumes asked rfl rfl rfl (.broken (.inl here))
    | _ => exact rests (.inr ⟨_, asked, rfl⟩)
  | interrupting =>
    have asked : s.closingRequest = some (.shutDown .raw) := by simp [closingRequest, here]
    obtain ⟨listening, stopping, closing⟩ := concludeClosing_shuts (.of s)
    cases reply with
    | done =>
      refine resumes asked rfl listening stopping ?_
      rw [closing]
      exact .interrupted here (.inl rfl)
    | fault f =>
      dsimp only
      split
      · next system =>
        refine resumes asked rfl listening stopping ?_
        rw [closing]
        exact .interrupted here (.inr ⟨f, rfl, system⟩)
      · next other =>
        exact resumes asked rfl rfl rfl (.broken (.inr ⟨.inr here, by simpa using other⟩))
    | _ => exact rests (.inr ⟨_, asked, rfl⟩)
  | _ => exact rests (.inl (by simp [closingRequest, here]))

theorem send_shuts (s : Session) (p : Pending) : Shuts s (.send p) (s.send p).session := by
  unfold send
  dsimp only
  split
  · exact .rests nofun rfl rfl rfl rfl
  · split <;> exact .rests nofun rfl rfl rfl rfl

/-- A move that the worker does not heed is a step of the closing caller, or leaves it where it is. -/
theorem step_shuts {s : Session} {m : Move} (unheeded : s.heeds m = false) :
    Shuts s m (s.step m).session := by
  -- Any move but a call to close leaves the closing caller where it is, unless it answers that caller.
  have rests {u : Session} (other : m ≠ .close) (alone : s.answeredCaller m = none)
      (listening : u.listening = s.listening) (stopping : u.stopping = s.stopping)
      (closing : u.closing = s.closing) : Shuts s m u :=
    .rests (fun same => absurd same other) alone listening stopping closing
  cases m with
  | start | dropEndpoint => exact rests (by simp) rfl rfl rfl rfl
  | run =>
    have idle : s.run = Turn.of s := by
      have idle : s.isRunnable = false := unheeded
      simp [run, idle]
    rw [step, idle]
    exact rests (by simp) rfl rfl rfl rfl
  | send pending => exact s.send_shuts pending
  | close => exact s.close_shuts
  | detach =>
    rw [step, session_detach]
    exact rests (by simp) rfl rfl rfl rfl
  | release =>
    rw [step, Turn.session_releaseThread]
    exact rests (by simp) rfl rfl rfl rfl
  | answer reply =>
    rw [step, resume_of_unheeded unheeded]
    exact rests (by simp) rfl rfl rfl rfl
  | answerCaller reply => exact s.resumeClosing_shuts reply

end Handover.Session
