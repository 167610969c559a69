import Handover.Proofs.Session.Passage

/-! What callers can do to a session. They leave the worker where it waits; a phase is changed by them
only when there is no live worker, and then to the closed one. With the passages of the worker this
says all that a move can do. -/

set_option autoImplicit false

namespace Handover.Session

/-- The payload that a move puts into the slot: that of a call to send in a phase that is not terminal. -/
def deposit (s : Session) : Move → Option Pending
  | .send pending => if s.phase.isTerminal then none else some pending
  | _ => none

/-- What a move that the worker does not heed can change. -/
structure Called (s : Session) (m : Move) (u : Session) : Prop where
  point : u.point = s.point
  role : u.role = s.role
  secret : u.secret = s.secret
  settings : u.settings = s.settings
  held : u.held = s.held
  handshaking : u.handshaking = s.handshaking
  slot : u.slot = ((s.deposit m).elim s.slot fun pending => ⟨some pending⟩)
  started : s.started = true → u.started = true
  stopping : s.stopping = true → u.stopping = true
  stops : u.stopping = true → s.stopping = true ∨ m = .close
  closing : u.closing = s.closing ∨ u.stopping = true
  phase : u.phase = s.phase ∨
    s.isAlive = false ∧ s.phase.isTerminal = false ∧ u.phase = .closed ∧ u.stopping = true

namespace Called

theorem refl {s : Session} {m : Move} (nothing : s.deposit m = none) : Called s m s where
  point := rfl
  role := rfl
  secret := rfl
  settings := rfl
  held := rfl
  handshaking := rfl
  slot := by rw [nothing]; rfl
  started := id
  stopping := id
  stops := .inl
  closing := .inl rfl
  phase := .inl rfl

variable {s : Session} {m : Move}

theorem concludeClosing {t : Turn} (called : Called s m t.session) (stopped : t.session.stopping = true)
    (phase : t.session.phase = s.phase) (alive : t.session.isAlive = s.isAlive) :
    Called s m t.concludeClosing.session := by
  unfold Turn.concludeClosing Turn.enterIfActive
  -- A live worker ends the session itself; a terminal phase is not left.
  split
  · exact { called with closing := .inr stopped }
  · next dead =>
    split
    · exact { called with closing := .inr stopped }
    · next active =>
      have dead : s.isAlive = false := by simpa [alive] using dead
      have active : s.phase.isTerminal = false := by simpa [phase] using active
      exact { called with
        closing := .inr stopped
        phase := .inr ⟨dead, active, rfl, stopped⟩ }

theorem interrupt {t : Turn} (called : Called s m t.session) (stopped : t.session.stopping = true)
    (phase : t.session.phase = s.phase) (alive : t.session.isAlive = s.isAlive) :
    Called s m t.interrupt.session := by
  unfold Turn.interrupt
  split
  · exact { called with closing := .inr stopped }
  · exact called.concludeClosing stopped phase alive

end Called

theorem called_send (s : Session) (pending : Pending) :
    Called s (.send pending) (s.send pending).session := by
  unfold send
  split
  · next ended => exact .refl (by simp [deposit, ended])
  · next active =>
    have put : s.deposit (.send pending) = some pending := by simp [deposit, active]
    have kept : Called s (.send pending) { s with slot := ⟨some pending⟩ } :=
      { point := rfl, role := rfl, secret := rfl, settings := rfl, held := rfl, handshaking := rfl
        slot := by rw [put]; rfl
        started := id, stopping := id, stops := .inl, closing := .inl rfl, phase := .inl rfl }
    dsimp only
    split <;> exact kept

theorem session_detach (t : Turn) :
    t.detach.session = { t.session with sink := t.session.sink.release.detach } := by
  simp [Turn.detach]

theorem called_close (s : Session) : Called s .close s.close.session := by
  unfold close
  split
  · exact .refl rfl
  · let stopped := (((Turn.of s).note (.closing s.role)).update
      fun s => { s with stopping := true }).detach
    have shape : stopped.session =
        { s with stopping := true, sink := s.sink.release.detach } := session_detach _
    have called : Called s .close stopped.session := by
      rw [shape]
      exact { Called.refl (s := s) (m := .close) rfl with
        stopping := fun _ => rfl
        stops := fun _ => .inr rfl
        closing := .inr rfl
        phase := .inl rfl }
    change Called s .close (if s.listening = true then
      (stopped.update fun s => { s with listening := false }).awaitClosing .shuttingListener
      else stopped.interrupt).session
    split
    · exact { called with closing := .inr (congrArg Session.stopping shape) }
    · exact called.interrupt (by rw [shape]) (by rw [shape]) (by rw [shape]; rfl)

theorem called_resumeClosing {s : Session} (safe : s.closing = .idle ∨ s.stopping = true)
    (reply : Reply) : Called s (.answerCaller reply) (s.resumeClosing reply).session := by
  have called : Called s (.answerCaller reply) s := .refl rfl
  have stopped (waits : s.closing ≠ .idle) : s.stopping = true := safe.resolve_left waits
  -- A call that is under way was begun by a stop.
  have waiting (closing : Closing) (waits : s.closing ≠ .idle) :
      Called s (.answerCaller reply) ((Turn.of s).awaitClosing closing).session :=
    { called with closing := .inr (stopped waits) }
  unfold resumeClosing
  cases here : s.closing with
  | shuttingListener =>
    cases reply with
    | done => exact waiting _ (by simp [here])
    | fault f =>
      dsimp only
      split <;> exact waiting _ (by simp [here])
    | _ => exact called
  | closingListener =>
    cases reply with
    | done => exact Called.interrupt (t := .of s) called (stopped (by simp [here])) rfl rfl
    | fault f => exact waiting _ (by simp [here])
    | _ => exact called
  | interrupting =>
    cases reply with
    | done => exact Called.concludeClosing (t := .of s) called (stopped (by simp [here])) rfl rfl
    | fault f =>
      dsimp only
      split
      · exact Called.concludeClosing (t := .of s) called (stopped (by simp [here])) rfl rfl
      · exact waiting _ (by simp [here])
    | _ => exact called
  | _ => exact called

/-! ## Moves -/

/-- What a move leads to: a caller acts or nothing happens, the body of the worker begins, or an answer
leads along a passage. -/
inductive Moves (s : Session) : Move → Session → Prop where
  | called {m : Move} {u : Session} : s.heeds m = false → Called s m u → Moves s m u
  | begins {u : Session} : s.isRunnable = true → Begins s u → Moves s .run u
  | passes {reply : Reply} {u : Session} : s.heeds (.answer reply) = true → Passes s reply u →
      Moves s (.answer reply) u

theorem step_moves {s : Session} (safe : s.closing = .idle ∨ s.stopping = true) (m : Move) :
    Moves s m (s.step m).session := by
  cases m with
  | start =>
    exact .called rfl { Called.refl (s := s) (m := .start) rfl with
      started := fun _ => rfl
      stops := .inl
      closing := .inl rfl
      phase := .inl rfl }
  | run =>
    cases runnable : s.isRunnable with
    | false => exact .called runnable (by simpa [step, run, runnable] using .refl rfl)
    | true =>
      refine .begins runnable ?_
      simpa [step, run, runnable] using (Turn.of s).begin_passage
  | send pending => exact .called rfl (s.called_send pending)
  | close => exact .called rfl s.called_close
  | dropEndpoint =>
    exact .called rfl { Called.refl (s := s) (m := .dropEndpoint) rfl with phase := .inl rfl }
  | detach =>
    refine .called rfl ?_
    rw [step, session_detach]
    exact { Called.refl (s := s) (m := .detach) rfl with phase := .inl rfl }
  | release =>
    refine .called rfl ?_
    rw [step, Turn.session_releaseThread]
    exact { Called.refl (s := s) (m := .release) rfl with phase := .inl rfl }
  | answer reply =>
    cases heeded : s.heeds (.answer reply) with
    | false =>
      refine .called heeded ?_
      rw [step, resume_of_unheeded heeded]
      exact .refl rfl
    | true => exact .passes heeded (resume_passage heeded).1
  | answerCaller reply => exact .called rfl (called_resumeClosing safe reply)

theorem Moves.resting {s u : Session} {m : Move} (moves : Moves s m u) (unheeded : s.heeds m = false) :
    Called s m u := by
  cases moves with
  | called _ called => exact called
  | begins runnable => cases unheeded.symm.trans runnable
  | passes heeded => cases unheeded.symm.trans heeded

end Handover.Session
