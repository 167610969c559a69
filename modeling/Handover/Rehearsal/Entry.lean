import Handover.Interactor
import Handover.Rehearsal.Operation

/-! The record of a rehearsal: every call, event, log record and operation in the order in which
they happen. -/

set_option autoImplicit false

namespace Handover.Rehearsal

structure Snapshot where
  role : Role
  phase : Phase
  alive : Bool
  closeRequested : Bool
  peer : Option String
  slotEmpty : Bool
  attached : Bool
  fingerprint : String
  deriving Repr

def Snapshot.of (s : Session) : Snapshot where
  role := s.role
  phase := s.phase
  alive := s.isAlive
  closeRequested := s.stopping
  peer := s.peer
  slotEmpty := s.slot.isEmpty
  attached := s.sink.attached
  fingerprint := String.ofList s.secret.fingerprint

inductive Result where
  | done
  | truth (b : Bool)
  | count (n : Nat)
  | exited
  | notRunnable
  /-- There is nothing that the operation could act on. -/
  | noTarget
  | snapshot (s : Snapshot)
  | fault (f : Fault)
  | refused (refusal : Interactor.Refusal)
  deriving Repr

def Result.ofFault : Option Fault → Result → Result
  | some f, _ => .fault f
  | none, plain => plain

inductive Entry where
  | operation (operation : Operation) (result : Result) (phase : Option Phase)
  | note (notice : Notice)
  | event (event : Event)
  | deliveryThread
  | releaseThread
  | workerThread (role : Role)
  | joinThread (timeout : Option Timeout)
  | bind (host : String) (port : Int)
  | dial (host : String) (port : Int) (timeout : Timeout)
  | setTimeout (socket : Socket) (timeout : Timeout)
  | accept
  | receive (socket : Socket) (limit : Nat)
  | send (socket : Socket) (bytes : Bytes)
  | shutDown (socket : Socket)
  | close (socket : Socket)
  | search (step : Surroundings.Step)
  | security (call : Transport.Call)
  | plainHandshake (role : Role)
  | secureHandshake (role : Role)
  | serverKey (key : Bytes)
  | clientKey (identity : Option String) (key : Bytes)
  /-- How the securing of a connection ended. -/
  | secured (role : Role) (failure : Option Fault)
  | during (step : Step)
  | raised (step : Step) (f : Fault)
  deriving Repr

def Entry.ofOpening : Session.OpeningStep → Entry
  | .deliveryThread => .deliveryThread
  | .security call => .security call
  | .note notice => .note notice
  | .workerThread role => .workerThread role

/-- What a handshake does before the network answers: nothing more on a plain transport; on a
secured one the deadline is set and the key is asked for. -/
def handshakeEntries (secured : Bool) (role : Role) (secret : Secret) (identity : Option String)
    (timeout : Timeout) : List Entry :=
  if secured then
    [.setTimeout .raw timeout, .secureHandshake role] ++
      match role with
      | .listener => [.serverKey (Transport.serverKey secret identity)]
      | .connector =>
          [.clientKey (Transport.clientKey secret identity).1
            (Transport.clientKey secret identity).2]
  else [.plainHandshake role]

end Handover.Rehearsal
