import Handover.Session.Caller
import Handover.Session.Opening
import Handover.Session.Worker

/-! An interactor starts sessions, one at a time. A new one is refused while the current one has a
live worker and nobody has asked for its end. -/

set_option autoImplicit false

namespace Handover

structure Interactor where
  settings : Settings
  /-- All sessions it has started, in order. -/
  sessions : List Session
  /-- The position of the current session. -/
  current : Option Nat

namespace Interactor

def new (settings : Settings) : Interactor := ⟨settings, [], none⟩

inductive Refusal where
  | active
  | noSession
  | bundle (flaw : Bundle.Flaw)
  | secret (flaw : Secret.Flaw)
  | opening (error : Session.OpeningError)
  deriving DecidableEq, Repr

def Refusal.message : Refusal → String
  | .active => "A transfer session is already active; close it first"
  | .noSession => "No active transfer session"
  | .bundle flaw => flaw.message
  | .secret flaw => flaw.message
  | .opening error => error.message

/-- A session that nobody has asked to end and whose worker has not ended. -/
def isActive (s : Session) : Bool := s.isAlive && !s.stopping

def currentSession (i : Interactor) : Option Session := i.current.bind (i.sessions[·]?)

def isIdle (i : Interactor) : Bool := !(i.currentSession.any isActive)

/-- What the start of a session adds to the steps that opened it. -/
def startSteps (s : Session) : List Session.OpeningStep :=
  s.start.actions.filterMap fun
    | .note notice => some (.note notice)
    | _ => none

/-- Opens a session, makes it the current one and starts it. -/
def adopt (i : Interactor) (plan : Session.Plan) :
    List Session.OpeningStep × Except Refusal Interactor :=
  let (steps, outcome) := plan.open
  match outcome with
  | .error error => (steps, .error (.opening error))
  | .ok session =>
      (steps ++ startSteps session, .ok { i with
        sessions := i.sessions ++ [session.start.session]
        current := some i.sessions.length })

def listen (i : Interactor) (random : Bytes) (ownThread : Bool) (provider : Transport.Provider) :
    List Session.OpeningStep × Except Refusal Interactor :=
  if i.isIdle then
    match Secret.ofBytes random with
    | .error flaw => ([], .error (.secret flaw))
    | .ok secret => i.adopt (.listener secret i.settings ownThread (some provider))
  else ([], .error .active)

def connect (i : Interactor) (bundle : String) (ownThread : Bool)
    (provider : Transport.Provider) : List Session.OpeningStep × Except Refusal Interactor :=
  if i.isIdle then
    match Bundle.read bundle i.settings.scheme with
    | .error flaw => ([], .error (.bundle flaw))
    | .ok endpoint => i.adopt (.connector endpoint i.settings ownThread (some provider))
  else ([], .error .active)

def target (i : Interactor) : Except Refusal Nat :=
  match i.current with
  | some position => .ok position
  | none => .error .noSession

def forget (i : Interactor) : Interactor := { i with current := none }

def modify (i : Interactor) (position : Nat) (f : Session → Session) : Interactor :=
  { i with sessions := i.sessions.modify position f }

end Interactor

end Handover
