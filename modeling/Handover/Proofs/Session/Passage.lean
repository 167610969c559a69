import Handover.Proofs.Session.Requests

/-! What the worker comes to. Each part of the worker is related to the states that it can lead to,
with the conditions under which it does; an answered request leads along one of the passages of the
point where the worker waited, and to exactly one new request. -/

set_option autoImplicit false

namespace Handover

def Event.ending : Event → Option Phase
  | .lost => some .lost
  | .connectFailed => some .connectFailed
  | .listenFailed => some .listenFailed
  | _ => none

namespace Session

/-! ## The end of the worker -/

def settled (s : Session) (escape : Option Fault) : Session :=
  { s with
    phase := if s.stopping && !s.phase.isTerminal then .closed else s.phase
    sink := s.sink.release
    point := .exited escape }

/-- A listening socket that is held is let go before the worker exits. -/
inductive Unlistens (s : Session) (escape : Option Fault) : Session → Prop where
  | listener : s.listening = true →
      Unlistens s escape { s with listening := false, point := .shuttingUnused escape }
  | settled : s.listening = false → Unlistens s escape (s.settled escape)

/-- A connection that is held is let go first. -/
inductive Retires (s : Session) (escape : Option Fault) : Session → Prop where
  | link (socket : Socket) : s.held = some socket →
      Retires s escape { s with held := none, point := .releasingLink socket escape }
  | unlistens {u : Session} : s.held = none → Unlistens s escape u → Retires s escape u

/-- The session ends in the phase of a final event, unless it has ended before. -/
inductive Finishes (s : Session) (event : Event) (failed : Bool) : Session → Prop where
  | ended {u : Session} : s.phase.isTerminal = true → Retires s none u → Finishes s event failed u
  | reports {phase : Phase} : s.phase.isTerminal = false → event.ending = some phase →
      Finishes s event failed { s with phase := phase, point := .reportingEnd event failed }

/-- The work ends without a fault. -/
inductive Stops (s : Session) (event : Event) : Session → Prop where
  | interrupted {u : Session} : s.stopping = true → Retires s none u → Stops s event u
  | finishes {u : Session} : s.stopping = false → Finishes s event false u → Stops s event u

/-- The work ends with a fault that nothing but the handler for failures can take. -/
inductive Crashes (s : Session) (f : Fault) : Session → Prop where
  | loses {u : Session} : f.isFailure = true → Finishes s .lost true u → Crashes s f u
  | exits {u : Session} : f.isFailure = false → Retires s (some f) u → Crashes s f u

/-- The work ends with a fault; faults of input and output are expected. -/
inductive Fails (s : Session) (event : Event) (f : Fault) : Session → Prop where
  | expected {u : Session} : f.isSystem = true → Stops s event u → Fails s event f u
  | crashes {u : Session} : f.isSystem = false → Crashes s f u → Fails s event f u

namespace Turn

theorem settle_passage (t : Turn) (escape : Option Fault) :
    (t.settle escape).session = t.session.settled escape := by
  unfold settle settled
  cases stopped : t.session.stopping <;> cases ended : t.session.phase.isTerminal <;>
    simp [enterIfActive, stopped, ended]

theorem releaseListener_passage (t : Turn) (escape : Option Fault) :
    t.session.Unlistens escape (t.releaseListener escape).session := by
  unfold releaseListener
  split
  · next held => exact .listener held
  · next free => rw [settle_passage]; exact .settled (by simpa using free)

theorem cleanUp_passage (t : Turn) (escape : Option Fault) :
    t.session.Retires escape (t.cleanUp escape).session := by
  unfold cleanUp
  split
  · next socket held => exact .link socket held
  · next free => exact .unlistens free (t.releaseListener_passage escape)

theorem finish_passage (t : Turn) {phase : Phase} {event : Event} (failed : Bool)
    (ending : event.ending = some phase) :
    t.session.Finishes event failed (t.finish phase event failed).session := by
  unfold finish
  split
  · next ended => exact .ended ended (t.cleanUp_passage none)
  · next active => exact .reports (by simpa using active) ending

theorem crash_passage (t : Turn) (f : Fault) : t.session.Crashes f (t.crash f).session := by
  unfold crash
  split
  · next failure => exact .loses failure ((t.note .workerFailed).finish_passage true rfl)
  · next other => exact .exits (by simpa using other) (t.cleanUp_passage (some f))

theorem failListening_passage (t : Turn) (f : Fault) :
    t.session.Fails .listenFailed f (t.failListening f).session := by
  unfold failListening
  split
  · next system =>
    refine .expected system ?_
    split
    · next stopped => exact .interrupted stopped ((t.note _).cleanUp_passage none)
    · next going => exact .finishes (by simpa using going) ((t.note _).finish_passage false rfl)
  · next other => exact .crashes (by simpa using other) (t.crash_passage f)

theorem failDialling_passage (t : Turn) (host : String) (port : Int) (f : Fault) :
    t.session.Fails .connectFailed f (t.failDialling host port f).session := by
  unfold failDialling
  split
  · next system =>
    refine .expected system ?_
    split
    · next stopped => exact .interrupted stopped ((t.note _).cleanUp_passage none)
    · next going => exact .finishes (by simpa using going) ((t.note _).finish_passage false rfl)
  · next other => exact .crashes (by simpa using other) (t.crash_passage f)

end Turn

def Setup.failure : Setup → Event
  | .listening => .listenFailed
  | .dialling _ _ => .connectFailed

namespace Turn

theorem failSetup_passage (t : Turn) (setup : Setup) (f : Fault) :
    t.session.Fails setup.failure f (t.failSetup setup f).session := by
  cases setup with
  | listening => exact t.failListening_passage f
  | dialling host port => exact t.failDialling_passage host port f

theorem endPolling_passage (t : Turn) : t.session.Stops .lost t.endPolling.session := by
  unfold endPolling
  split
  · next stopped => exact .interrupted stopped ((t.note _).cleanUp_passage none)
  · next going => exact .finishes (by simpa using going) (t.finish_passage false rfl)

theorem failPolling_passage (t : Turn) (f : Fault) :
    t.session.Fails .lost f (t.failPolling f).session := by
  unfold failPolling
  split
  · next system =>
    refine .expected system ?_
    -- The note that is made on the way changes no session.
    have same : (if t.session.stopping = true then t else t.note .connectionFailed).session =
        t.session := by split <;> rfl
    have ended := (if t.session.stopping = true then t else t.note .connectionFailed).endPolling_passage
    rwa [same] at ended
  · next other => exact .crashes (by simpa using other) (t.crash_passage f)

end Turn

/-! ## Polling -/

inductive ReadsFirst (s : Session) (link : Link) : Session → Prop where
  | line {first : Bytes} {rest : LineReader} : link.reader.next = .line first rest →
      ReadsFirst s link { s with point := .timingFrame { link with reader := rest } first }
  | finished {u : Session} : link.reader.next = .finished → Stops s .lost u → ReadsFirst s link u
  | starved : link.reader.next = .starved → ReadsFirst s link { s with point := .receiving link }

inductive ReadsFrame (s : Session) (link : Link) (frame : Frame.Decoder) : Session → Prop where
  | message {bytes : Bytes} {rest : LineReader} : link.reader.gather frame = .message bytes rest →
      ReadsFrame s link frame
        { s with point := .timingAfterFrame { link with reader := rest } bytes }
  | starved {fed : Frame.Decoder} {rest : LineReader} :
      link.reader.gather frame = .starved fed rest →
      ReadsFrame s link frame { s with point := .receivingFrame { link with reader := rest } fed }

inductive Ticks (s : Session) (link : Link) : Session → Prop where
  | stops {u : Session} : s.stopping = true → Retires s none u → Ticks s link u
  | writes {pending : Pending} : s.stopping = false → s.slot.content = some pending →
      Ticks s link { s with slot := .empty, point := .timingWrite link pending }
  | reads {u : Session} : s.stopping = false → s.slot.content = none → ReadsFirst s link u →
      Ticks s link u

namespace Turn

theorem readFirst_passage (t : Turn) (link : Link) :
    t.session.ReadsFirst link (t.readFirst link).session := by
  unfold readFirst
  split
  · next found => exact .line found
  · next ended => exact .finished ended (t.note .peerClosed).endPolling_passage
  · next starved => exact .starved starved

theorem readFrame_passage (t : Turn) (link : Link) (frame : Frame.Decoder) :
    t.session.ReadsFrame link frame (t.readFrame link frame).session := by
  unfold readFrame
  split
  · next complete => exact .message complete
  · next starved => exact .starved starved

theorem tick_passage (t : Turn) (link : Link) : t.session.Ticks link (t.tick link).session := by
  unfold tick
  split
  · next stopped =>
    have ended := t.endPolling_passage
    cases ended with
    | interrupted _ retires => exact .stops stopped retires
    | finishes going _ => simp [stopped] at going
  · next going =>
    have going : t.session.stopping = false := by simpa using going
    split
    · next pending slot taken =>
      obtain ⟨content, rfl⟩ := Prod.mk.inj taken
      exact .writes going content
    · next slot taken =>
      obtain ⟨content, rfl⟩ := Prod.mk.inj taken
      -- Nothing was taken: the slot is as it was.
      have same : (t.update fun s => { s with slot := .empty }).session = t.session := by
        have empty : t.session.slot = .empty := congrArg Slot.mk content
        rw [session_update, ← empty]
      have reads := (t.update fun s => { s with slot := .empty }).readFirst_passage link
      rw [same] at reads
      exact .reads going content reads

end Turn

/-! ## Setting up -/

/-- A connection goes into its handshake, unless a stop was asked for before. -/
inductive Secures (s : Session) (setup : Setup) : Session → Prop where
  | abandons : s.stopping = true → Secures s setup { s with
      handshaking := true
      point := .abandoning setup ⟨.aborted, "Session closed before the handshake"⟩ }
  | begins : s.stopping = false →
      Secures s setup { s with handshaking := true, point := .handshaking setup }

inductive Adopts (s : Session) (socket : Socket) : Session → Prop where
  | stops {u : Session} : s.stopping = true →
      Retires { s with handshaking := false, held := some socket } none u → Adopts s socket u
  | goesOn : s.stopping = false → Adopts s socket
      { s with handshaking := false, held := some socket, point := .namingPeer socket }

inductive Accepts (s : Session) : Session → Prop where
  | stops {u : Session} : s.stopping = true → Retires s none u → Accepts s u
  | waits : s.stopping = false → Accepts s { s with point := .accepting }

/-- The listening socket is put in place, and the host to advertise is chosen. -/
inductive Listens (s : Session) : Session → Prop where
  | stops {u : Session} : s.stopping = true → Retires { s with listening := true } none u →
      Listens s u
  | advertises {host : String} : s.stopping = false → s.settings.advertised = some host →
      Listens s { s with listening := true, point := .readingPort host }
  | searches : s.stopping = false → s.settings.advertised = none →
      Listens s { s with listening := true, point := .findingAddress }

inductive HandsOver (s : Session) : Session → Prop where
  | closes : s.listening = true →
      HandsOver s { s with listening := false, point := .shuttingListener }
  | secures {u : Session} : s.listening = false →
      Secures { s with phase := .establishing } .listening u → HandsOver s u

inductive Begins (s : Session) : Session → Prop where
  | stops {u : Session} : s.stopping = true → Retires s none u → Begins s u
  | listens : s.stopping = false → s.role = .listener → Begins s { s with point := .binding }
  | dials {endpoint : Endpoint} : s.stopping = false → s.role = .connector →
      s.endpoint = some endpoint → Begins s
        { s with phase := .establishing, point := .dialling endpoint.host endpoint.port }
  | crashes {u : Session} : s.stopping = false → s.role = .connector → s.endpoint = none →
      Finishes s .lost true u → Begins s u

namespace Turn

theorem beginHandshake_passage (t : Turn) (setup : Setup) :
    t.session.Secures setup (t.beginHandshake setup).session := by
  unfold beginHandshake
  split
  · next stopped => exact .abandons stopped
  · next going => exact .begins (by simpa using going)

theorem adopt_passage (t : Turn) (socket : Socket) :
    t.session.Adopts socket (t.adopt socket).session := by
  unfold adopt
  split
  · next stopped =>
    exact .stops stopped (cleanUp_passage (t.update fun s =>
      { s with handshaking := false, held := some socket }) none)
  · next going => exact .goesOn (by simpa using going)

theorem acceptNext_passage (t : Turn) : t.session.Accepts t.acceptNext.session := by
  unfold acceptNext
  split
  · next stopped => exact .stops stopped (t.cleanUp_passage none)
  · next going => exact .waits (by simpa using going)

theorem listen_passage (t : Turn) : t.session.Listens t.listen.session := by
  unfold listen
  split
  · next stopped =>
    exact .stops stopped (cleanUp_passage (t.update fun s => { s with listening := true }) none)
  · next going =>
    have going : t.session.stopping = false := by simpa using going
    split
    · next host given => exact .advertises going given
    · next missing => exact .searches going missing

theorem handOver_passage (t : Turn) : t.session.HandsOver t.handOver.session := by
  unfold handOver
  split
  · next held => exact .closes held
  · next free =>
    exact .secures (by simpa using free) ((t.enter .establishing).beginHandshake_passage .listening)

theorem begin_passage (t : Turn) : t.session.Begins t.begin.session := by
  unfold begin
  split
  · next stopped => exact .stops stopped (t.cleanUp_passage none)
  · next going =>
    have going : t.session.stopping = false := by simpa using going
    split
    · next role => exact .listens going role
    · next endpoint role given => exact .dials going role given
    · next role missing =>
      exact .crashes going role missing ((t.note .workerFailed).finish_passage true rfl)

end Turn

/-! ## Passages -/

/-- Whether the worker of a listener waits there, before its connection is accepted and handed over. -/
def Point.isListening : Point → Bool
  | .binding | .timingListener | .findingAddress | .readingPort _ | .announcing _ | .accepting
  | .shuttingListener | .closingListener => true
  | _ => false

def Point.isOpening : Point → Bool
  | .dialling _ _ | .handshaking _ | .abandoning _ _ | .namingPeer _ => true
  | point => point.isListening

def Point.polled : Point → Option Link
  | .timingWrite link _ | .writing link _ | .timingAfterWrite link _ | .reportingWrite link _
  | .receiving link | .timingFrame link _ | .receivingFrame link _ | .timingAfterFrame link _
  | .reportingMessage link _ => some link
  | _ => none

inductive Opens (s : Session) : Reply → Session → Prop where
  | bound : s.point = .binding → Opens s .done { s with point := .timingListener }
  | listens {u : Session} : s.point = .timingListener → Listens s u → Opens s .done u
  | found {host : String} : s.point = .findingAddress →
      Opens s (.address host) { s with point := .readingPort host }
  | announces {host : String} {port : Int} : s.point = .readingPort host →
      Opens s (.port port) { s with
        phase := .listening
        point := .announcing (Bundle.write ⟨host, port, s.secret⟩ s.settings.scheme) }
  | announced {bundle : String} {u : Session} : s.point = .announcing bundle → Accepts s u →
      Opens s .done u
  | waited {f : Fault} {u : Session} : s.point = .accepting → f.isTimeout = true → Accepts s u →
      Opens s (.fault f) u
  | accepted {host : String} {port : Nat} {u : Session} : s.point = .accepting → HandsOver s u →
      Opens s (.accepted host port) u
  | shut {reply : Reply} : s.point = .shuttingListener →
      (reply = .done ∨ ∃ f : Fault, reply = .fault f ∧ f.isSystem = true) →
      Opens s reply { s with point := .closingListener }
  | closed {u : Session} : s.point = .closingListener →
      Secures { s with phase := .establishing } .listening u → Opens s .done u
  | dialled {host : String} {port : Int} {u : Session} : s.point = .dialling host port →
      Secures s (.dialling host port) u → Opens s .done u
  | secured {setup : Setup} {socket : Socket} {u : Session} : s.point = .handshaking setup →
      Adopts s socket u → Opens s (.connection socket) u
  | refused {setup : Setup} {f : Fault} : s.point = .handshaking setup → f.isSystem = true →
      Opens s (.fault f) { s with point := .abandoning setup f }
  | broken {setup : Setup} {f : Fault} {u : Session} : s.point = .handshaking setup →
      f.isSystem = false → Fails { s with handshaking := false } setup.failure f u →
      Opens s (.fault f) u
  | abandoned {setup : Setup} {failure : Fault} {u : Session} :
      s.point = .abandoning setup failure →
      Fails { s with handshaking := false } setup.failure failure u → Opens s .done u
  | unclosed {setup : Setup} {failure f : Fault} {u : Session} :
      s.point = .abandoning setup failure →
      Fails { s with handshaking := false } setup.failure f u → Opens s (.fault f) u
  | named {socket : Socket} {peer : String} : s.point = .namingPeer socket →
      Opens s (.address peer) { s with
        peer := some peer
        phase := .established
        point := .reportingPeer socket peer }
  | unnamed {socket : Socket} {f : Fault} {u : Session} : s.point = .namingPeer socket →
      Crashes s f u → Opens s (.fault f) u
  | unheard {f : Fault} {u : Session} : s.point.isListening = true →
      (s.point = .accepting → f.isTimeout = false) →
      (s.point = .shuttingListener → f.isSystem = false) → Fails s .listenFailed f u →
      Opens s (.fault f) u
  | unreached {host : String} {port : Int} {f : Fault} {u : Session} :
      s.point = .dialling host port → Fails s .connectFailed f u → Opens s (.fault f) u

inductive Polls (s : Session) : Reply → Session → Prop where
  | established {socket : Socket} {peer : String} : s.point = .reportingPeer socket peer →
      Polls s .done { s with point := .timingLink ⟨socket, .start⟩ }
  | timed {link : Link} {u : Session} : s.point = .timingLink link → Ticks s link u →
      Polls s .done u
  | timedWrite {link : Link} {pending : Pending} : s.point = .timingWrite link pending →
      Polls s .done { s with point := .writing link pending }
  | wrote {link : Link} {pending : Pending} : s.point = .writing link pending →
      Polls s .done { s with point := .timingAfterWrite link pending }
  | timedAfterWrite {link : Link} {pending : Pending} : s.point = .timingAfterWrite link pending →
      Polls s .done { s with point := .reportingWrite link pending }
  | reportedWrite {link : Link} {pending : Pending} {u : Session} :
      s.point = .reportingWrite link pending → ReadsFirst s link u → Polls s .done u
  | received {link : Link} {bytes : Bytes} {u : Session} : s.point = .receiving link →
      ReadsFirst s { link with reader := link.reader.receive bytes } u → Polls s (.chunk bytes) u
  | idled {link : Link} {f : Fault} {u : Session} : s.point = .receiving link →
      f.isTimeout = true → Ticks s link u → Polls s (.fault f) u
  | timedFrame {link : Link} {first : Bytes} {u : Session} : s.point = .timingFrame link first →
      ReadsFrame s link (Frame.Decoder.start.take first) u → Polls s .done u
  | receivedFrame {link : Link} {frame : Frame.Decoder} {bytes : Bytes} {u : Session} :
      s.point = .receivingFrame link frame →
      ReadsFrame s { link with reader := link.reader.receive bytes } frame u →
      Polls s (.chunk bytes) u
  | silent {link : Link} {frame : Frame.Decoder} {f : Fault} :
      s.point = .receivingFrame link frame → f.isTimeout = true → frame.endsInSilence = true →
      Polls s (.fault f) { s with point := .timingAfterFrame link frame.message }
  | timedAfterFrame {link : Link} {message : Bytes} : s.point = .timingAfterFrame link message →
      Polls s .done { s with point := .reportingMessage link message }
  | reportedMessage {link : Link} {message : Bytes} {u : Session} :
      s.point = .reportingMessage link message → Ticks s link u → Polls s .done u
  | broken {link : Link} {f : Fault} {u : Session} : s.point.polled = some link →
      (∀ link, s.point = .receiving link → f.isTimeout = false) →
      (∀ link frame, s.point = .receivingFrame link frame →
        (f.isTimeout && frame.endsInSilence) = false) →
      Fails s .lost f u → Polls s (.fault f) u
  | crashed {f : Fault} {u : Session} :
      ((∃ socket peer, s.point = .reportingPeer socket peer) ∨ ∃ link, s.point = .timingLink link) →
      Crashes s f u → Polls s (.fault f) u

inductive Closes (s : Session) : Reply → Session → Prop where
  | reported {event : Event} {failed : Bool} {u : Session} :
      s.point = .reportingEnd event failed → Retires s none u → Closes s .done u
  | unreported {event : Event} {f : Fault} {u : Session} : s.point = .reportingEnd event true →
      Retires s (some f) u → Closes s (.fault f) u
  | crashed {event : Event} {f : Fault} {u : Session} : s.point = .reportingEnd event false →
      Crashes s f u → Closes s (.fault f) u
  | released {socket : Socket} {escape : Option Fault} {u : Session} :
      s.point = .releasingLink socket escape → Unlistens s escape u → Closes s .done u
  | shut {escape : Option Fault} {reply : Reply} : s.point = .shuttingUnused escape →
      (reply = .done ∨ ∃ f : Fault, reply = .fault f ∧ f.isSystem = true) →
      Closes s reply { s with point := .closingUnused escape }
  | closed {escape : Option Fault} : s.point = .closingUnused escape →
      Closes s .done (s.settled escape)
  | broken {f : Fault} : ((∃ socket escape, s.point = .releasingLink socket escape) ∨
        (∃ escape, s.point = .shuttingUnused escape ∧ f.isSystem = false) ∨
        ∃ escape, s.point = .closingUnused escape) →
      Closes s (.fault f) { s with point := .exited (some f) }

inductive Passes (s : Session) (reply : Reply) (u : Session) : Prop where
  | opens : Opens s reply u → Passes s reply u
  | polls : Polls s reply u → Passes s reply u
  | closes : Closes s reply u → Passes s reply u

def Point.isPolling : Point → Bool
  | .reportingPeer _ _ | .timingLink _ => true
  | point => point.polled.isSome

/-- Whether nothing is left at a point but the end of the worker. -/
def Point.isClosing : Point → Bool
  | .reportingEnd _ _ | .releasingLink _ _ | .shuttingUnused _ | .closingUnused _ => true
  | _ => false

theorem Point.idle_or_waits (point : Point) :
    (point = .ready ∨ ∃ escape, point = .exited escape) ∨
      point.isOpening = true ∨ point.isPolling = true ∨ point.isClosing = true := by
  cases point <;> simp [isOpening, isListening, isPolling, polled, isClosing]

variable {s : Session}

theorem request_of_idle_point (idle : s.point = .ready ∨ ∃ escape, s.point = .exited escape) :
    s.request = none := by
  obtain here | ⟨escape, here⟩ := idle <;> simp [request, here]

/-! ### Faults -/

open Turn in
theorem fail_opens (opening : s.point.isOpening = true) (f : Fault) :
    s.Opens (.fault f) (s.fail f).session ∧ (of s).Asks (s.fail f) := by
  -- Most points of a listener treat all faults alike.
  have unheard (listens : s.point.isListening = true)
      (late : s.point = .accepting → f.isTimeout = false)
      (system : s.point = .shuttingListener → f.isSystem = false) :
      s.Opens (.fault f) ((of s).failListening f).session ∧ (of s).Asks ((of s).failListening f) :=
    ⟨.unheard listens late system ((of s).failListening_passage f), asks_failListening _ f⟩
  unfold fail
  cases here : s.point with
  | binding | timingListener | findingAddress | readingPort | announcing | closingListener =>
    exact unheard (by simp [here, Point.isListening]) (by simp [here]) (by simp [here])
  | accepting =>
    dsimp only
    split
    · next late => exact ⟨.waited here late (of s).acceptNext_passage, asks_acceptNext _⟩
    · next other =>
      exact unheard (by simp [here, Point.isListening]) (fun _ => by simpa using other)
        (by simp [here])
  | shuttingListener =>
    dsimp only
    split
    · next system => exact ⟨.shut here (.inr ⟨f, rfl, system⟩), asks_await _ _⟩
    · next other =>
      exact unheard (by simp [here, Point.isListening]) (by simp [here])
        (fun _ => by simpa using other)
  | dialling host port =>
    exact ⟨.unreached here ((of s).failDialling_passage host port f), asks_failDialling _ host port f⟩
  | handshaking setup =>
    dsimp only
    split
    · next system => exact ⟨.refused here system, asks_await _ _⟩
    · next other =>
      exact ⟨.broken here (by simpa using other)
        (((of s).update fun s => { s with handshaking := false }).failSetup_passage setup f),
        asks_failSetup _ setup f⟩
  | abandoning setup failure =>
    exact ⟨.unclosed here
      (((of s).update fun s => { s with handshaking := false }).failSetup_passage setup f),
      asks_failSetup _ setup f⟩
  | namingPeer socket => exact ⟨.unnamed here ((of s).crash_passage f), asks_crash _ f⟩
  | _ => simp [here, Point.isOpening, Point.isListening] at opening

open Turn in
theorem fail_polls (polling : s.point.isPolling = true) (f : Fault) :
    s.Polls (.fault f) (s.fail f).session ∧ (of s).Asks (s.fail f) := by
  have broken {link : Link} (polled : s.point.polled = some link)
      (late : ∀ link, s.point = .receiving link → f.isTimeout = false)
      (silent : ∀ link frame, s.point = .receivingFrame link frame →
        (f.isTimeout && frame.endsInSilence) = false) :
      s.Polls (.fault f) ((of s).failPolling f).session ∧ (of s).Asks ((of s).failPolling f) :=
    ⟨.broken polled late silent ((of s).failPolling_passage f), asks_failPolling _ f⟩
  unfold fail
  cases here : s.point with
  | reportingPeer socket peer =>
    exact ⟨.crashed (.inl ⟨socket, peer, here⟩) ((of s).crash_passage f), asks_crash _ f⟩
  | timingLink link =>
    exact ⟨.crashed (.inr ⟨link, here⟩) ((of s).crash_passage f), asks_crash _ f⟩
  | timingWrite | writing | timingAfterWrite | reportingWrite | timingFrame | timingAfterFrame
  | reportingMessage =>
    exact broken (by simp [here, Point.polled]; rfl) (by simp [here]) (by simp [here])
  | receiving link =>
    dsimp only
    split
    · next late => exact ⟨.idled here late ((of s).tick_passage link), asks_tick _ link⟩
    · next other =>
      exact broken (by simp [here, Point.polled]; rfl) (fun _ _ => by simpa using other)
        (by simp [here])
  | receivingFrame link frame =>
    dsimp only
    split
    · next silent =>
      obtain ⟨late, ends⟩ := Bool.and_eq_true_iff.mp silent
      exact ⟨.silent here late ends, asks_await _ _⟩
    · next other =>
      refine broken (by simp [here, Point.polled]; rfl) (by simp [here]) ?_
      intro link' frame' same
      obtain ⟨rfl, rfl⟩ := Point.receivingFrame.inj (here.symm.trans same)
      simpa using other
  | _ => simp [here, Point.isPolling, Point.polled] at polling

open Turn in
theorem fail_closes (closing : s.point.isClosing = true) (f : Fault) :
    s.Closes (.fault f) (s.fail f).session ∧ (of s).Asks (s.fail f) := by
  unfold fail
  cases here : s.point with
  | reportingEnd event failed =>
    cases failed with
    | true => exact ⟨.unreported here ((of s).cleanUp_passage (some f)), asks_cleanUp _ _⟩
    | false => exact ⟨.crashed here ((of s).crash_passage f), asks_crash _ f⟩
  | shuttingUnused escape =>
    dsimp only
    split
    · next system => exact ⟨.shut here (.inr ⟨f, rfl, system⟩), asks_await _ _⟩
    · next other =>
      exact ⟨.broken (.inr (.inl ⟨escape, here, by simpa using other⟩)), asks_await _ _⟩
  | releasingLink socket escape => exact ⟨.broken (.inl ⟨socket, escape, here⟩), asks_await _ _⟩
  | closingUnused escape => exact ⟨.broken (.inr (.inr ⟨escape, here⟩)), asks_await _ _⟩
  | _ => simp [here, Point.isClosing] at closing

theorem fail_passage (waits : s.request.isSome = true) (f : Fault) :
    s.Passes (.fault f) (s.fail f).session ∧ (Turn.of s).Asks (s.fail f) := by
  obtain idle | opening | polling | closing := s.point.idle_or_waits
  · simp [request_of_idle_point idle] at waits
  · exact (fail_opens opening f).imp_left .opens
  · exact (fail_polls polling f).imp_left .polls
  · exact (fail_closes closing f).imp_left .closes

/-! ### Other answers -/

/-- Most points ask for no more than success. -/
theorem eq_done_of_plain {request : Request} {reply : Reply} (asked : s.request = some request)
    (fits : request.admits reply = true) (sound : ∀ f, reply ≠ .fault f)
    (plain : s.request.any Request.isPlain = true) : reply = .done :=
  Request.eq_done_of_admits fits (by simpa [asked] using plain) sound

variable {request : Request} {reply : Reply}

open Turn in
theorem proceed_opens (asked : s.request = some request) (fits : request.admits reply = true)
    (sound : ∀ f, reply ≠ .fault f) (opening : s.point.isOpening = true) :
    s.Opens reply (s.proceed reply).session ∧ (of s).Asks (s.proceed reply) := by
  have done := eq_done_of_plain asked fits sound
  unfold proceed
  cases here : s.point with
  | findingAddress =>
    simp only [Session.request, here, Option.some.injEq] at asked
    cases reply with
    | address host => exact ⟨.found here, asks_await _ _⟩
    | fault f => exact absurd rfl (sound f)
    | _ => simp [← asked, Request.admits] at fits
  | readingPort host =>
    simp only [Session.request, here, Option.some.injEq] at asked
    cases reply with
    | port number => exact ⟨.announces here, (asks_await _ _).of_calls (by simp)⟩
    | fault f => exact absurd rfl (sound f)
    | _ => simp [← asked, Request.admits] at fits
  | accepting =>
    simp only [Session.request, here, Option.some.injEq] at asked
    cases reply with
    | accepted host port =>
      exact ⟨.accepted here ((of s).note (.accepted host port)).handOver_passage,
        (asks_handOver _).of_calls (by simp)⟩
    | fault f => exact absurd rfl (sound f)
    | _ => simp [← asked, Request.admits] at fits
  | handshaking setup =>
    simp only [Session.request, here, Option.some.injEq] at asked
    cases reply with
    | connection socket => exact ⟨.secured here ((of s).adopt_passage socket), asks_adopt _ _⟩
    | fault f => exact absurd rfl (sound f)
    | _ => simp [← asked, Request.admits] at fits
  | namingPeer socket =>
    simp only [Session.request, here, Option.some.injEq] at asked
    cases reply with
    | address peer => exact ⟨.named here, (asks_await _ _).of_calls (by simp)⟩
    | fault f => exact absurd rfl (sound f)
    | _ => simp [← asked, Request.admits] at fits
  | binding =>
    obtain rfl := done (by simp [Session.request, here, Request.isPlain])
    exact ⟨.bound here, asks_await _ _⟩
  | timingListener =>
    obtain rfl := done (by simp [Session.request, here, Request.isPlain])
    exact ⟨.listens here (of s).listen_passage, asks_listen _⟩
  | announcing bundle =>
    obtain rfl := done (by simp [Session.request, here, Request.isPlain])
    exact ⟨.announced here (of s).acceptNext_passage, asks_acceptNext _⟩
  | shuttingListener =>
    obtain rfl := done (by simp [Session.request, here, Request.isPlain])
    exact ⟨.shut here (.inl rfl), asks_await _ _⟩
  | closingListener =>
    obtain rfl := done (by simp [Session.request, here, Request.isPlain])
    exact ⟨.closed here (((of s).enter .establishing).beginHandshake_passage .listening),
      asks_establish _⟩
  | dialling host port =>
    obtain rfl := done (by simp [Session.request, here, Request.isPlain])
    exact ⟨.dialled here ((of s).beginHandshake_passage (.dialling host port)),
      asks_beginHandshake _ _⟩
  | abandoning setup failure =>
    obtain rfl := done (by simp [Session.request, here, Request.isPlain])
    exact ⟨.abandoned here
      (((of s).update fun s => { s with handshaking := false }).failSetup_passage setup failure),
      asks_failSetup _ setup failure⟩
  | _ => simp [here, Point.isOpening, Point.isListening] at opening

open Turn in
theorem proceed_polls (asked : s.request = some request) (fits : request.admits reply = true)
    (sound : ∀ f, reply ≠ .fault f) (polling : s.point.isPolling = true) :
    s.Polls reply (s.proceed reply).session ∧ (of s).Asks (s.proceed reply) := by
  have done := eq_done_of_plain asked fits sound
  unfold proceed
  cases here : s.point with
  | receiving link =>
    simp only [Session.request, here, Option.some.injEq] at asked
    cases reply with
    | chunk bytes => exact ⟨.received here ((of s).readFirst_passage _), asks_readFirst _ _⟩
    | fault f => exact absurd rfl (sound f)
    | _ => simp [← asked, Request.admits] at fits
  | receivingFrame link frame =>
    simp only [Session.request, here, Option.some.injEq] at asked
    cases reply with
    | chunk bytes => exact ⟨.receivedFrame here ((of s).readFrame_passage _ frame),
      asks_readFrame _ _ _⟩
    | fault f => exact absurd rfl (sound f)
    | _ => simp [← asked, Request.admits] at fits
  | reportingPeer socket peer =>
    obtain rfl := done (by simp [Session.request, here, Request.isPlain])
    exact ⟨.established here, asks_await _ _⟩
  | timingLink link =>
    obtain rfl := done (by simp [Session.request, here, Request.isPlain])
    exact ⟨.timed here ((of s).tick_passage link), asks_tick _ link⟩
  | timingWrite link pending =>
    obtain rfl := done (by simp [Session.request, here, Request.isPlain])
    exact ⟨.timedWrite here, asks_await _ _⟩
  | writing link pending =>
    obtain rfl := done (by simp [Session.request, here, Request.isPlain])
    exact ⟨.wrote here, asks_await _ _⟩
  | timingAfterWrite link pending =>
    obtain rfl := done (by simp [Session.request, here, Request.isPlain])
    exact ⟨.timedAfterWrite here, (asks_await _ _).of_calls (by simp)⟩
  | reportingWrite link pending =>
    obtain rfl := done (by simp [Session.request, here, Request.isPlain])
    exact ⟨.reportedWrite here ((of s).readFirst_passage link),
      asks_readFirst _ _⟩
  | timingFrame link first =>
    obtain rfl := done (by simp [Session.request, here, Request.isPlain])
    exact ⟨.timedFrame here ((of s).readFrame_passage link _),
      asks_readFrame _ _ _⟩
  | timingAfterFrame link message =>
    obtain rfl := done (by simp [Session.request, here, Request.isPlain])
    exact ⟨.timedAfterFrame here, (asks_await _ _).of_calls (by simp)⟩
  | reportingMessage link message =>
    obtain rfl := done (by simp [Session.request, here, Request.isPlain])
    exact ⟨.reportedMessage here ((of s).tick_passage link), asks_tick _ link⟩
  | _ => simp [here, Point.isPolling, Point.polled] at polling

open Turn in
theorem proceed_closes (asked : s.request = some request) (fits : request.admits reply = true)
    (sound : ∀ f, reply ≠ .fault f) (closing : s.point.isClosing = true) :
    s.Closes reply (s.proceed reply).session ∧ (of s).Asks (s.proceed reply) := by
  have done := eq_done_of_plain asked fits sound
  unfold proceed
  cases here : s.point with
  | reportingEnd event failed =>
    obtain rfl := done (by simp [Session.request, here, Request.isPlain])
    exact ⟨.reported here ((of s).cleanUp_passage none), asks_cleanUp _ _⟩
  | releasingLink socket escape =>
    obtain rfl := done (by simp [Session.request, here, Request.isPlain])
    exact ⟨.released here ((of s).releaseListener_passage escape),
      asks_releaseListener _ _⟩
  | shuttingUnused escape =>
    obtain rfl := done (by simp [Session.request, here, Request.isPlain])
    exact ⟨.shut here (.inl rfl), asks_await _ _⟩
  | closingUnused escape =>
    obtain rfl := done (by simp [Session.request, here, Request.isPlain])
    exact ⟨settle_passage (of s) escape ▸ .closed here, asks_settle _ _⟩
  | _ => simp [here, Point.isClosing] at closing

theorem proceed_passage (asked : s.request = some request) (fits : request.admits reply = true)
    (sound : ∀ f, reply ≠ .fault f) :
    s.Passes reply (s.proceed reply).session ∧ (Turn.of s).Asks (s.proceed reply) := by
  obtain idle | opening | polling | closing := s.point.idle_or_waits
  · simp [request_of_idle_point idle] at asked
  · exact (proceed_opens asked fits sound opening).imp_left .opens
  · exact (proceed_polls asked fits sound polling).imp_left .polls
  · exact (proceed_closes asked fits sound closing).imp_left .closes

/-- An answer that the worker waits for leads along a passage of its point to one request. -/
theorem resume_passage (heeded : s.heeds (.answer reply) = true) :
    s.Passes reply (s.resume reply).session ∧ (Turn.of s).Asks (s.resume reply) := by
  obtain ⟨request, asked, fits⟩ := heeds_answer_iff.mp heeded
  cases reply with
  | fault f => exact fail_passage (by simp [asked]) f
  | _ => exact proceed_passage asked fits (by simp)

/-- The requests of a move are that of the point it leads to, if the worker heeds it, and none
otherwise. -/
theorem calls_step (s : Session) (m : Move) :
    (s.step m).calls = if s.heeds m then (s.step m).session.request.toList else [] := by
  cases m with
  | start => exact s.calls_start
  | run =>
    show s.run.calls = if s.isRunnable then s.run.session.request.toList else []
    unfold run
    cases s.isRunnable with
    | false => rfl
    | true => exact (Turn.of s).asks_begin.calls_eq
  | send pending => exact s.calls_send pending
  | close => exact s.calls_close
  | dropEndpoint => rfl
  | detach => exact Turn.calls_detach _
  | release => exact Turn.calls_releaseThread _
  | answer reply =>
    cases heeded : s.heeds (.answer reply) with
    | false => simp [step, resume_of_unheeded heeded]
    | true => exact (resume_passage heeded).2.calls_eq
  | answerCaller reply => exact s.calls_resumeClosing reply

end Session

end Handover
