import Handover.LineReader
import Handover.Settings
import Handover.Sink
import Handover.Slot

/-! The state of a session. A session belongs to one worker and any number of callers. The worker
always waits at some point for an answer of the outside world: that point and what the worker will
need after it are part of the state, so that a caller can act while the worker waits. -/

set_option autoImplicit false

namespace Handover

inductive Socket where
  | listener
  /-- The connection as accepted or dialled. -/
  | raw
  /-- The connection after its handshake. -/
  | secured
  deriving DecidableEq, Repr, Inhabited

namespace Session

/-- What a session asks of the outside world. -/
inductive Request where
  | bind (host : String) (port : Int)
  | setTimeout (socket : Socket) (timeout : Timeout)
  | findAddress
  | boundPort
  | emit (event : Event)
  | accept
  | shutDown (socket : Socket)
  | close (socket : Socket)
  | dial (host : String) (port : Int) (timeout : Timeout)
  | handshake (role : Role)
  | peerName (socket : Socket)
  | receive (socket : Socket) (limit : Nat)
  | send (socket : Socket) (bytes : Bytes)
  deriving Repr

inductive Reply where
  | done
  | address (host : String)
  | port (number : Int)
  | accepted (host : String) (port : Nat)
  | connection (socket : Socket)
  | chunk (bytes : Bytes)
  | fault (f : Fault)
  deriving Repr

/-- Which way a connection is being set up, with the address dialled. -/
inductive Setup where
  | listening
  | dialling (host : String) (port : Int)
  deriving DecidableEq, Repr

def Setup.role : Setup → Role
  | .listening => .listener
  | .dialling _ _ => .connector

/-- An open connection and what has been received on it. -/
structure Link where
  socket : Socket
  reader : LineReader
  deriving DecidableEq, Repr

inductive Point where
  | ready
  | binding
  | timingListener
  | findingAddress
  | readingPort (host : String)
  | announcing (bundle : String)
  | accepting
  | shuttingListener
  | closingListener
  | dialling (host : String) (port : Int)
  | handshaking (setup : Setup)
  /-- The connection is closed because its handshake has failed. -/
  | abandoning (setup : Setup) (failure : Fault)
  | namingPeer (socket : Socket)
  | reportingPeer (socket : Socket) (peer : String)
  | timingLink (link : Link)
  | timingWrite (link : Link) (pending : Pending)
  | writing (link : Link) (pending : Pending)
  | timingAfterWrite (link : Link) (pending : Pending)
  | reportingWrite (link : Link) (pending : Pending)
  | receiving (link : Link)
  | timingFrame (link : Link) (first : Bytes)
  | receivingFrame (link : Link) (frame : Frame.Decoder)
  | timingAfterFrame (link : Link) (message : Bytes)
  | reportingMessage (link : Link) (message : Bytes)
  /-- The final event is emitted; a fault of that is the worker's own if it had failed before. -/
  | reportingEnd (event : Event) (failed : Bool)
  /-- The connection is closed at last; the fault, if any, will end the worker. -/
  | releasingLink (socket : Socket) (escape : Option Fault)
  | shuttingUnused (escape : Option Fault)
  | closingUnused (escape : Option Fault)
  | exited (escape : Option Fault)
  deriving Repr

/-- Where the caller that closes the session waits. -/
inductive Closing where
  | idle
  | shuttingListener
  | closingListener
  | interrupting
  /-- The call is over; a fault of it was the caller's. -/
  | over (escape : Option Fault)
  deriving DecidableEq, Repr, Inhabited

end Session

structure Session where
  role : Role
  secret : Secret
  settings : Settings
  /-- Whom a connector dials. -/
  endpoint : Option Endpoint
  sink : Sink
  phase : Phase := .initial
  slot : Slot := .empty
  peer : Option String := none
  started : Bool := false
  /-- Whether a caller has asked for the end of the session. -/
  stopping : Bool := false
  /-- Whether the listening socket is held for anyone to close. -/
  listening : Bool := false
  /-- Whether a raw connection is in its handshake. -/
  handshaking : Bool := false
  /-- The connection that the end of the worker will close. -/
  held : Option Socket := none
  point : Session.Point := .ready
  closing : Session.Closing := .idle

namespace Session

def hasExited (s : Session) : Bool := match s.point with
  | .exited _ => true
  | _ => false

def escape (s : Session) : Option Fault := match s.point with
  | .exited escape => escape
  | _ => none

/-- The worker is alive from its start until its body has ended. -/
def isAlive (s : Session) : Bool := s.started && !s.hasExited

def isRunnable (s : Session) : Bool := s.started && match s.point with
  | .ready => true
  | _ => false

/-- What the worker waits for. -/
def request (s : Session) : Option Request :=
  match s.point with
  | .ready | .exited _ => none
  | .binding => some (.bind s.settings.bindHost s.settings.port)
  | .timingListener => some (.setTimeout .listener s.settings.readTimeout)
  | .findingAddress => some .findAddress
  | .readingPort _ => some .boundPort
  | .announcing bundle => some (.emit (.listening bundle))
  | .accepting => some .accept
  | .shuttingListener | .shuttingUnused _ => some (.shutDown .listener)
  | .closingListener | .closingUnused _ => some (.close .listener)
  | .dialling host port => some (.dial host port s.settings.connectTimeout)
  | .handshaking setup => some (.handshake setup.role)
  | .abandoning _ _ => some (.close .raw)
  | .namingPeer socket => some (.peerName socket)
  | .reportingPeer _ peer => some (.emit (.established peer))
  | .timingLink link | .timingAfterWrite link _ | .timingAfterFrame link _ =>
      some (.setTimeout link.socket s.settings.readTimeout)
  | .timingWrite link _ | .timingFrame link _ =>
      some (.setTimeout link.socket s.settings.frameTimeout)
  | .writing link pending => some (.send link.socket (Frame.encode pending.payload))
  | .reportingWrite _ pending => some (.emit (.sent pending.token))
  | .receiving link | .receivingFrame link _ =>
      some (.receive link.socket LineReader.chunkLimit)
  | .reportingMessage _ message => some (.emit (.received message))
  | .reportingEnd event _ => some (.emit event)
  | .releasingLink socket _ => some (.close socket)

def closingRequest (s : Session) : Option Request :=
  match s.closing with
  | .idle | .over _ => none
  | .shuttingListener => some (.shutDown .listener)
  | .closingListener => some (.close .listener)
  | .interrupting => some (.shutDown .raw)

end Session

end Handover
