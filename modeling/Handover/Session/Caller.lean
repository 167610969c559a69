import Handover.Session.Turn

/-! What callers do to a session: start it, hand it a payload, and close it. All of it is safe at
any time, also while the worker waits. -/

set_option autoImplicit false

namespace Handover.Session

/-- What starting a worker for a second time ends with. -/
def startedTwice : Fault := ⟨.state, "threads can only be started once"⟩

def start (s : Session) : Turn :=
  ((Turn.of s).note (.starting s.role (String.ofList s.secret.fingerprint))).update
    fun s => { s with started := true }

def startFault (s : Session) : Option Fault := if s.started then some startedTwice else none

/-- The payload waits for the worker, in place of one that it has not taken yet. A session that has
ended takes none. -/
def send (s : Session) (p : Pending) : Turn :=
  if s.phase.isTerminal then (Turn.of s).note (.sendIgnored s.phase)
  else
    let (replaced, slot) := s.slot.put p
    let put := (Turn.of s).update fun s => { s with slot := slot }
    match replaced with
    | some old => put.note (.replaced old.token)
    | none => put

namespace Turn

/-- Without a live worker there is no one else to end the session. -/
def concludeClosing (t : Turn) : Turn :=
  (if t.session.isAlive then t else t.enterIfActive .closed).awaitClosing (.over none)

def interrupt (t : Turn) : Turn :=
  if t.session.handshaking then t.awaitClosing .interrupting else t.concludeClosing

end Turn

/-- The first call detaches the observer, closes the listening socket and interrupts a handshake;
every further call does nothing. -/
def close (s : Session) : Turn :=
  if s.stopping then Turn.of s
  else
    let stopped := (((Turn.of s).note (.closing s.role)).update
      fun s => { s with stopping := true }).detach
    if s.listening then
      (stopped.update fun s => { s with listening := false }).awaitClosing .shuttingListener
    else stopped.interrupt

/-- The closing caller goes on with an answer. A socket that cannot be shut down is closed all the
same, unless the fault is none of input and output. -/
def resumeClosing (s : Session) (reply : Reply) : Turn :=
  let t := Turn.of s
  match s.closing, reply with
  | .shuttingListener, .done => t.awaitClosing .closingListener
  | .shuttingListener, .fault f =>
      if f.isSystem then t.awaitClosing .closingListener else t.awaitClosing (.over (some f))
  | .closingListener, .done => t.interrupt
  | .closingListener, .fault f => t.awaitClosing (.over (some f))
  | .interrupting, .done => t.concludeClosing
  | .interrupting, .fault f =>
      if f.isSystem then t.concludeClosing else t.awaitClosing (.over (some f))
  | _, _ => t

def closingFault (s : Session) : Option Fault := match s.closing with
  | .over escape => escape
  | _ => none

def dropEndpoint (s : Session) : Session := { s with endpoint := none }

end Handover.Session
