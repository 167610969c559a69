import Handover.Delivery
import Handover.Rehearsal.Entry
import Handover.Session.Move

/-! The stage of a rehearsal: the sessions, the scripts that are left, the deliveries that wait, and
the record so far. -/

set_option autoImplicit false

namespace Handover.Rehearsal

inductive Owner where
  | alone
  | session (position : Nat)
  deriving DecidableEq, Repr

structure Stage where
  interactor : Interactor
  /-- Whether callers may act on the interactor itself. -/
  offersInteractor : Bool
  sink : Option Sink
  scripts : List Script
  secured : Bool
  identity : Option String
  provider : Transport.Provider
  surroundings : Surroundings
  random : List Bytes
  context : Context
  queue : List (Owner × Event)
  reactions : List (Event.Kind × List Operation)
  raising : List Event.Kind
  /-- The latest entry first. -/
  record : List Entry

namespace Stage

def session? (w : Stage) (position : Nat) : Option Session := w.interactor.sessions[position]?

def latest? (w : Stage) : Option Nat :=
  if w.interactor.sessions.isEmpty then none else some (w.interactor.sessions.length - 1)

/-- The session at a position; a negative one counts back from the end. -/
def located? (w : Stage) (position : Int) : Option Nat :=
  let count := w.interactor.sessions.length
  let place := if position < 0 then position + count else position
  if 0 ≤ place ∧ place < count then some place.toNat else none

/-- The session that an operation is for: the latest one, unless a position is given. -/
def target? (w : Stage) (position : Option Int) : Option Nat :=
  match position with
  | some position => w.located? position
  | none => w.latest?

def enter (w : Stage) (entry : Entry) : Stage := { w with record := entry :: w.record }

def enterAll (w : Stage) (entries : List Entry) : Stage := entries.foldl enter w

def note (w : Stage) (notice : Notice) : Stage := w.enter (.note notice)

def change (w : Stage) (position : Nat) (f : Session → Session) : Stage :=
  { w with interactor := w.interactor.modify position f }

/-- What an action of a session adds to the record at once; calls are recorded when they are
answered. -/
def actionEntry : Session.Action → Option Entry
  | .note notice => some (.note notice)
  | .releaseThread => some .releaseThread
  | .call _ | .callerCall _ => none

def take (w : Stage) (position : Nat) (turn : Session.Turn) : Stage :=
  (w.change position fun _ => turn.session).enterAll (turn.actions.filterMap actionEntry)

def move (w : Stage) (position : Nat) (m : Session.Move) : Stage :=
  match w.session? position with
  | some s => w.take position (s.step m)
  | none => w

def script (w : Stage) (position : Nat) : Script := w.scripts.getD position .empty

def setScript (w : Stage) (position : Nat) (script : Script) : Stage :=
  let padded := w.scripts ++ List.replicate (position + 1 - w.scripts.length) .empty
  { w with scripts := padded.set position script }

def sinkOf (w : Stage) : Owner → Option Sink
  | .alone => w.sink
  | .session position => (w.session? position).map (·.sink)

def attends (w : Stage) (owner : Owner) : Bool := (w.sinkOf owner).any (·.attached)

def push (w : Stage) (owner : Owner) (e : Event) : Stage :=
  { w with queue := w.queue ++ [(owner, e)] }

def takeReaction (w : Stage) (kind : Event.Kind) : List Operation × Stage :=
  match w.reactions.find? fun reaction => reaction.1 == kind with
  | some (_, operations) =>
      (operations, { w with reactions := w.reactions.filter fun reaction => reaction.1 != kind })
  | none => ([], w)

/-- An observer is called with an event; what callers do in its reaction is still to come. -/
def call (w : Stage) (event : Event) : List Operation × Stage :=
  (w.enter (.event event)).takeReaction event.kind

/-- The next value of the source of randomness; zeros when none is left. -/
def takeRandom (w : Stage) : Bytes × Stage :=
  match w.random with
  | [] => (List.replicate Secret.size 0, w)
  | first :: rest => (first, { w with random := rest })

/-- The owner that an operation on a sink is for. -/
def owner? (w : Stage) (position : Option Int) : Option Owner :=
  if w.sink.isSome then some .alone else (w.target? position).map .session

/-- A sink without a session changes, and a thread of its own is shut down. -/
def changeSink (w : Stage) (f : Sink → Sink) : Stage :=
  let changed := { w with sink := w.sink.map f }
  if w.sink.any (·.ownsThread) then changed.enter .releaseThread else changed

def detach (w : Stage) : Owner → Stage
  | .alone => w.changeSink Sink.detach
  | .session position => w.move position .detach

def release (w : Stage) : Owner → Stage
  | .alone => w.changeSink Sink.release
  | .session position => w.move position .release

/-- A number that no chain of calls in a rehearsal can reach: every call answers a request, or runs
an operation or a delivery, and cues, bytes received and sessions bound the requests. -/
def depth (w : Stage) (operations : List Operation) : Nat :=
  let acts := operations.foldr (·.size + ·) 0 +
    w.reactions.foldr (fun reaction others => reaction.2.foldr (·.size + ·) 0 + others) 0
  let cues := w.scripts.foldr (·.size + ·) 0
  100 * (acts + cues + 10)

end Stage

end Handover.Rehearsal
