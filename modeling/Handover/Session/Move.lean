import Handover.Session.Caller
import Handover.Session.Worker

/-! Moves. Whatever happens to a session is a move: a caller acts, the body of the worker begins, or
the outside world answers the worker or the closing caller. A move that nobody waits for changes
nothing, so every list of moves is a history of a session. -/

set_option autoImplicit false

namespace Handover.Session

inductive Move where
  | start
  | run
  | send (pending : Pending)
  | close
  | dropEndpoint
  | detach
  | release
  | answer (reply : Reply)
  | answerCaller (reply : Reply)
  deriving Repr

def step (s : Session) : Move → Turn
  | .start => s.start
  | .run => s.run
  | .send pending => s.send pending
  | .close => s.close
  | .dropEndpoint => Turn.of s.dropEndpoint
  | .detach => (Turn.of s).detach
  | .release => (Turn.of s).releaseThread
  | .answer reply => s.resume reply
  | .answerCaller reply => s.resumeClosing reply

/-- One more move: the state it leads to, and its actions after those so far. -/
def Turn.move (t : Turn) (m : Move) : Turn :=
  ⟨(t.session.step m).session, t.actions ++ (t.session.step m).actions⟩

def history (s : Session) (moves : List Move) : Turn := moves.foldl Turn.move (Turn.of s)

@[simp] theorem history_nil (s : Session) : s.history [] = Turn.of s := rfl

theorem foldl_move (t : Turn) (moves : List Move) :
    moves.foldl Turn.move t =
      ⟨(t.session.history moves).session, t.actions ++ (t.session.history moves).actions⟩ := by
  induction moves generalizing t with
  | nil => simp [Turn.of]
  | cons first rest ih =>
    simp only [history, List.foldl_cons] at ih ⊢
    rw [ih, ih (Turn.of t.session |>.move first)]
    simp [Turn.move, Turn.of]

theorem history_cons (s : Session) (first : Move) (rest : List Move) :
    s.history (first :: rest) =
      ⟨((s.step first).session.history rest).session,
        (s.step first).actions ++ ((s.step first).session.history rest).actions⟩ := by
  rw [history, List.foldl_cons, foldl_move]
  simp [Turn.move, Turn.of]

theorem history_append (s : Session) (earlier later : List Move) :
    s.history (earlier ++ later) =
      ⟨((s.history earlier).session.history later).session,
        (s.history earlier).actions ++ ((s.history earlier).session.history later).actions⟩ := by
  rw [history, List.foldl_append, foldl_move]
  rfl

end Handover.Session
