import Handover.Session.Turn

/-! The worker of a session. It listens or dials, has the connection secured, and then polls it:
each tick writes the pending payload, if there is one, and waits for a frame. Whatever ends the
polling, the connection and the listening socket are released at the end. An exit passes all handlers
of the worker: nothing but this release comes after it. -/

set_option autoImplicit false

namespace Handover.Session

namespace Turn

/-! ## The end -/

def settle (t : Turn) (escape : Option Fault) : Turn :=
  let ended := (if t.session.stopping then t.enterIfActive .closed else t).releaseThread
  (ended.note (.workerExited ended.session.role ended.session.phase)).await (.exited escape)

/-- A listening socket that is still held is closed. -/
def releaseListener (t : Turn) (escape : Option Fault) : Turn :=
  if t.session.listening then
    (t.update fun s => { s with listening := false }).await (.shuttingUnused escape)
  else t.settle escape

/-- A connection that is held is closed, then the listening socket. -/
def cleanUp (t : Turn) (escape : Option Fault) : Turn :=
  match t.session.held with
  | some socket => (t.update fun s => { s with held := none }).await (.releasingLink socket escape)
  | none => t.releaseListener escape

/-- The session ends in a terminal phase and says so, unless it has ended before. -/
def finish (t : Turn) (phase : Phase) (event : Event) (failed : Bool) : Turn :=
  if t.session.phase.isTerminal then t.cleanUp none
  else (t.enter phase).await (.reportingEnd event failed)

/-! ## Failures -/

/-- What no other handler of the worker takes: a failure ends the session, an exit only the worker. -/
def crash (t : Turn) (f : Fault) : Turn :=
  if f.isFailure then (t.note .workerFailed).finish .lost .lost true else t.cleanUp (some f)

def failListening (t : Turn) (f : Fault) : Turn :=
  if f.isSystem then
    if t.session.stopping then (t.note .listeningInterrupted).cleanUp none
    else (t.note .listeningFailed).finish .listenFailed .listenFailed false
  else t.crash f

def failDialling (t : Turn) (host : String) (port : Int) (f : Fault) : Turn :=
  if f.isSystem then
    if t.session.stopping then (t.note .connectingInterrupted).cleanUp none
    else (t.note (.connectingFailed host port)).finish .connectFailed .connectFailed false
  else t.crash f

def failSetup (t : Turn) (setup : Setup) (f : Fault) : Turn :=
  match setup with
  | .listening => t.failListening f
  | .dialling host port => t.failDialling host port f

def endPolling (t : Turn) : Turn :=
  if t.session.stopping then (t.note .stopped).cleanUp none else t.finish .lost .lost false

def failPolling (t : Turn) (f : Fault) : Turn :=
  if f.isSystem then (if t.session.stopping then t else t.note .connectionFailed).endPolling
  else t.crash f

/-! ## Polling -/

def readFirst (t : Turn) (link : Link) : Turn :=
  match link.reader.next with
  | .line first rest => t.await (.timingFrame { link with reader := rest } first)
  | .finished => (t.note .peerClosed).endPolling
  | .starved => t.await (.receiving link)

def readFrame (t : Turn) (link : Link) (frame : Frame.Decoder) : Turn :=
  match link.reader.gather frame with
  | .message bytes rest => t.await (.timingAfterFrame { link with reader := rest } bytes)
  | .starved frame rest => t.await (.receivingFrame { link with reader := rest } frame)

/-- One tick begins: the pending payload is taken before anything is received. -/
def tick (t : Turn) (link : Link) : Turn :=
  if t.session.stopping then t.endPolling
  else
    match t.session.slot.take with
    | (some pending, slot) =>
        (t.update fun s => { s with slot := slot }).await (.timingWrite link pending)
    | (none, slot) => (t.update fun s => { s with slot := slot }).readFirst link

/-! ## Setting up -/

/-- A connection is secured while a caller can still interrupt that; a stop asked for before leaves
it without a handshake. -/
def beginHandshake (t : Turn) (setup : Setup) : Turn :=
  let marked := t.update fun s => { s with handshaking := true }
  if t.session.stopping then
    marked.await (.abandoning setup ⟨.aborted, "Session closed before the handshake"⟩)
  else marked.await (.handshaking setup)

def establish (t : Turn) : Turn := (t.enter .establishing).beginHandshake .listening

def adopt (t : Turn) (socket : Socket) : Turn :=
  let holding := t.update fun s => { s with handshaking := false, held := some socket }
  if t.session.stopping then holding.cleanUp none else holding.await (.namingPeer socket)

def acceptNext (t : Turn) : Turn :=
  if t.session.stopping then t.cleanUp none else t.await .accepting

def handOver (t : Turn) : Turn :=
  if t.session.listening then
    (t.update fun s => { s with listening := false }).await .shuttingListener
  else t.establish

def advertise (t : Turn) (host : String) : Turn := t.await (.readingPort host)

def listen (t : Turn) : Turn :=
  let held := t.update fun s => { s with listening := true }
  if t.session.stopping then held.cleanUp none
  else match t.session.settings.advertised with
    | some host => held.advertise host
    | none => held.await .findingAddress

def announce (t : Turn) (host : String) (port : Int) : Turn :=
  let bundle := Bundle.write ⟨host, port, t.session.secret⟩ t.session.settings.scheme
  ((t.enter .listening).note (.listeningOn t.session.settings.bindHost port host)).await
    (.announcing bundle)

/-- The peer is known and the connection is up. -/
def welcome (t : Turn) (socket : Socket) (peer : String) : Turn :=
  (((t.update fun s => { s with peer := some peer }).enter .established).note
    (.established peer)).await (.reportingPeer socket peer)

def nobodyToDial : Fault := ⟨.value, "Connector sessions need an endpoint"⟩

def begin (t : Turn) : Turn :=
  if t.session.stopping then t.cleanUp none
  else match t.session.role, t.session.endpoint with
    | .listener, _ => t.await .binding
    | .connector, some endpoint =>
        (t.enter .establishing).await (.dialling endpoint.host endpoint.port)
    | .connector, none => t.crash nobodyToDial

end Turn

open Turn in
def fail (s : Session) (f : Fault) : Turn :=
  let t := of s
  match s.point with
  | .ready | .exited _ => t
  | .binding | .timingListener | .findingAddress | .readingPort _ | .announcing _
  | .closingListener => t.failListening f
  | .accepting => if f.isTimeout then t.acceptNext else t.failListening f
  | .shuttingListener => if f.isSystem then t.await .closingListener else t.failListening f
  | .dialling host port => t.failDialling host port f
  | .handshaking setup =>
      if f.isSystem then t.await (.abandoning setup f)
      else (t.update fun s => { s with handshaking := false }).failSetup setup f
  | .abandoning setup _ => (t.update fun s => { s with handshaking := false }).failSetup setup f
  | .namingPeer _ | .reportingPeer _ _ | .timingLink _ => t.crash f
  | .timingWrite _ _ | .writing _ _ | .timingAfterWrite _ _ | .reportingWrite _ _
  | .timingFrame _ _ | .timingAfterFrame _ _ | .reportingMessage _ _ => t.failPolling f
  | .receiving link => if f.isTimeout then t.tick link else t.failPolling f
  | .receivingFrame link frame =>
      if f.isTimeout && frame.endsInSilence then
        t.await (.timingAfterFrame link frame.message)
      else t.failPolling f
  | .reportingEnd _ failed => if failed then t.cleanUp (some f) else t.crash f
  | .shuttingUnused escape =>
      if f.isSystem then t.await (.closingUnused escape) else t.await (.exited (some f))
  | .releasingLink _ _ | .closingUnused _ => t.await (.exited (some f))

open Turn in
/-- What an answer that is no fault leads to. An answer of another kind than the request asks for
changes nothing. -/
def proceed (s : Session) (reply : Reply) : Turn :=
  let t := of s
  match s.point, reply with
  | .binding, .done => t.await .timingListener
  | .timingListener, .done => t.listen
  | .findingAddress, .address host => t.advertise host
  | .readingPort host, .port number => t.announce host number
  | .announcing _, .done => t.acceptNext
  | .accepting, .accepted host port => (t.note (.accepted host port)).handOver
  | .shuttingListener, .done => t.await .closingListener
  | .closingListener, .done => t.establish
  | .dialling host port, .done => t.beginHandshake (.dialling host port)
  | .handshaking _, .connection socket => t.adopt socket
  | .abandoning setup failure, .done =>
      (t.update fun s => { s with handshaking := false }).failSetup setup failure
  | .namingPeer socket, .address peer => t.welcome socket peer
  | .reportingPeer socket _, .done => t.await (.timingLink ⟨socket, .start⟩)
  | .timingLink link, .done => t.tick link
  | .timingWrite link pending, .done => t.await (.writing link pending)
  | .writing link pending, .done => t.await (.timingAfterWrite link pending)
  | .timingAfterWrite link pending, .done =>
      (t.note (.sent pending.payload.length)).await (.reportingWrite link pending)
  | .reportingWrite link _, .done => t.readFirst link
  | .receiving link, .chunk bytes =>
      t.readFirst { link with reader := link.reader.receive bytes }
  | .timingFrame link first, .done => t.readFrame link (Frame.Decoder.start.take first)
  | .receivingFrame link frame, .chunk bytes =>
      t.readFrame { link with reader := link.reader.receive bytes } frame
  | .timingAfterFrame link message, .done =>
      (t.note (.received message.length link.reader.buffered)).await
        (.reportingMessage link message)
  | .reportingMessage link _, .done => t.tick link
  | .reportingEnd _ _, .done => t.cleanUp none
  | .releasingLink _ escape, .done => t.releaseListener escape
  | .shuttingUnused escape, .done => t.await (.closingUnused escape)
  | .closingUnused escape, .done => t.settle escape
  | _, _ => t

def resume (s : Session) : Reply → Turn
  | .fault f => s.fail f
  | reply => s.proceed reply

def run (s : Session) : Turn := if s.isRunnable then (Turn.of s).begin else Turn.of s

end Handover.Session
