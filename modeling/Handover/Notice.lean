import Handover.Address.Search
import Handover.Event
import Handover.Session.Phase

/-! Log records. Each says at which level it is made and with which text; a secret appears in them
only by its fingerprint. -/

set_option autoImplicit false

namespace Handover

inductive Level where
  | debug
  | info
  | warning
  | error
  deriving DecidableEq, Repr

inductive Notice where
  | securityReady (fingerprint : String)
  | starting (role : Role) (fingerprint : String)
  | closing (role : Role)
  | sendIgnored (phase : Phase)
  | replaced (token : Value)
  | moved (before now : Phase)
  | listeningOn (host : String) (port : Int) (advertised : String)
  | noAddress (family : Family)
  | accepted (host : String) (port : Nat)
  | listeningInterrupted
  | listeningFailed
  | connectingInterrupted
  | connectingFailed (host : String) (port : Int)
  | established (peer : String)
  | sent (size : Nat)
  | received (size : Nat) (buffered : Nat)
  | peerClosed
  | connectionFailed
  | stopped
  | workerFailed
  | workerExited (role : Role) (phase : Phase)
  | droppedDetached (kind : Event.Kind)
  | droppedClosed (kind : Event.Kind)
  | observerFailed (kind : Event.Kind)
  deriving Repr

namespace Notice

def level : Notice → Level
  | starting .. | closing .. | listeningOn .. | established .. | peerClosed => .info
  | noAddress .. | listeningFailed | connectingFailed .. | connectionFailed => .warning
  | workerFailed | observerFailed .. => .error
  | _ => .debug

def familyName : Family → String
  | .inet => "IPv4"
  | .inet6 => "IPv6"

def text : Notice → String
  | securityReady fingerprint => "TLS-PSK contexts ready (secret " ++ fingerprint ++ ")"
  | starting role fingerprint =>
      "Starting " ++ role.name ++ " session (secret " ++ fingerprint ++ ")"
  | closing role => "Closing " ++ role.name ++ " session"
  | sendIgnored phase => "Ignoring send on " ++ phase.name ++ " session"
  | replaced token =>
      "Pending payload " ++ String.ofList token.shown ++ " replaced before it was sent"
  | moved before now => "Session " ++ before.name ++ " -> " ++ now.name
  | listeningOn host port advertised =>
      "Listening on " ++ host ++ ":" ++ toString port ++ ", advertising " ++ advertised
  | noAddress family => "No non-loopback " ++ familyName family ++ " address found"
  | accepted host port => "Accepted TCP connection from " ++ host ++ ":" ++ toString port
  | listeningInterrupted => "Listening interrupted by close()"
  | listeningFailed => "Error while listening"
  | connectingInterrupted => "Connecting interrupted by close()"
  | connectingFailed host port => "Error while connecting to " ++ host ++ ":" ++ toString port
  | established peer => "Connection established with " ++ peer
  | sent size => "Sent " ++ toString size ++ " bytes"
  | received size buffered =>
      "Received " ++ toString size ++ " bytes (" ++ toString buffered ++ " still buffered)"
  | peerClosed => "Peer closed the connection"
  | connectionFailed => "Connection error"
  | stopped => "Poll loop stopped by close()"
  | workerFailed => "Transfer worker failed"
  | workerExited role phase => role.name ++ " worker exited in state " ++ phase.name
  | droppedDetached kind => "Dropping " ++ kind.label ++ ": observer detached"
  | droppedClosed kind => "Dropping " ++ kind.label ++ ": delivery context closed"
  | observerFailed kind => "Observer failed handling " ++ kind.label

end Notice

end Handover
