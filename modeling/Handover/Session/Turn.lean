import Handover.Session.State

/-! Turns. Between two answers of the outside world a session changes its state, makes log records
and comes to its next request; a turn is the state reached and what was done on the way. -/

set_option autoImplicit false

namespace Handover.Session

inductive Action where
  | note (notice : Notice)
  /-- The worker makes a request and waits. -/
  | call (request : Request)
  /-- The closing caller makes a request and waits. -/
  | callerCall (request : Request)
  | releaseThread
  deriving Repr

structure Turn where
  session : Session
  actions : List Action

namespace Turn

def of (s : Session) : Turn := ⟨s, []⟩

def act (t : Turn) (action : Action) : Turn := { t with actions := t.actions ++ [action] }

def note (t : Turn) (notice : Notice) : Turn := t.act (.note notice)

def update (t : Turn) (f : Session → Session) : Turn := { t with session := f t.session }

def await (t : Turn) (point : Point) : Turn :=
  let s := { t.session with point := point }
  ⟨s, t.actions ++ (s.request.map Action.call).toList⟩

def awaitClosing (t : Turn) (closing : Closing) : Turn :=
  let s := { t.session with closing := closing }
  ⟨s, t.actions ++ (s.closingRequest.map Action.callerCall).toList⟩

def enter (t : Turn) (phase : Phase) : Turn :=
  (t.note (.moved t.session.phase phase)).update fun s => { s with phase := phase }

/-- A terminal phase is not left. -/
def enterIfActive (t : Turn) (phase : Phase) : Turn :=
  if t.session.phase.isTerminal then t else t.enter phase

/-- A thread of the sink's own is shut down, again if need be. -/
def releaseThread (t : Turn) : Turn :=
  let after := t.update fun s => { s with sink := s.sink.release }
  if t.session.sink.ownsThread then after.act .releaseThread else after

/-- The observer is let go, and with it a thread of the sink's own. -/
def detach (t : Turn) : Turn :=
  t.releaseThread.update fun s => { s with sink := s.sink.detach }

@[simp] theorem session_of (s : Session) : (of s).session = s := rfl

@[simp] theorem session_act (t : Turn) (action : Action) : (t.act action).session = t.session := rfl

@[simp] theorem session_note (t : Turn) (notice : Notice) :
    (t.note notice).session = t.session := rfl

@[simp] theorem session_update (t : Turn) (f : Session → Session) :
    (t.update f).session = f t.session := rfl

@[simp] theorem session_await (t : Turn) (point : Point) :
    (t.await point).session = { t.session with point := point } := rfl

@[simp] theorem session_awaitClosing (t : Turn) (closing : Closing) :
    (t.awaitClosing closing).session = { t.session with closing := closing } := rfl

@[simp] theorem session_enter (t : Turn) (phase : Phase) :
    (t.enter phase).session = { t.session with phase := phase } := rfl

@[simp] theorem session_releaseThread (t : Turn) :
    t.releaseThread.session = { t.session with sink := t.session.sink.release } := by
  unfold releaseThread; split <;> rfl

end Turn

end Handover.Session
