import Handover.Value
import Handover.Bytes

/-! What a session reports to its observer. -/

set_option autoImplicit false

namespace Handover

inductive Event where
  /-- The listener is bound; the bundle is to be shown to the peer. -/
  | listening (bundle : String)
  | established (peer : String)
  /-- The payload with this token has been written. -/
  | sent (token : Value)
  | received (message : Bytes)
  | lost
  | connectFailed
  | listenFailed
  deriving Repr, Inhabited

namespace Event

inductive Kind where
  | listening
  | established
  | sent
  | received
  | lost
  | connectFailed
  | listenFailed
  deriving DecidableEq, Repr, Inhabited

def kind : Event → Kind
  | listening _ => .listening
  | established _ => .established
  | sent _ => .sent
  | received _ => .received
  | lost => .lost
  | connectFailed => .connectFailed
  | listenFailed => .listenFailed

def Kind.label : Kind → String
  | .listening => "Listening"
  | .established => "Established"
  | .sent => "SendOk"
  | .received => "ReceiveOk"
  | .lost => "Lost"
  | .connectFailed => "ErrorConnect"
  | .listenFailed => "ErrorListen"

/-- The last event of a session, if it reports its end at all. -/
def isFinal : Event → Bool
  | lost | connectFailed | listenFailed => true
  | _ => false

def received? : Event → Option Bytes
  | received message => some message
  | _ => none

def same : Event → Event → Bool
  | listening a, listening b => a == b
  | established a, established b => a == b
  | sent a, sent b => a.same b
  | received a, received b => a == b
  | lost, lost | connectFailed, connectFailed | listenFailed, listenFailed => true
  | _, _ => false

end Event

/-- An observer by kind of event: those it handles are passed on, the others are let go. -/
structure Handlers where
  handled : List Event.Kind
  deriving Repr

namespace Handlers

/-- Something handed to an observer that need not be an event. -/
inductive Item where
  | event (e : Event)
  | other (v : Value)

def accept (h : Handlers) : Item → Except String (Option Event)
  | .event e => .ok (if e.kind ∈ h.handled then some e else none)
  | .other v => .error ("Unknown session event: " ++ String.ofList v.shown)

end Handlers

end Handover
