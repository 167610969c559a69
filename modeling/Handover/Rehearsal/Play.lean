import Handover.Rehearsal.Stage

/-! Playing a rehearsal. Callers act one after another; a worker runs when an operation says so, a
cue may have callers act in the middle of a call, and an observer may act in a delivery. The depth
of all this is bounded by a number that is taken from the size of the rehearsal. -/

set_option autoImplicit false

namespace Handover.Rehearsal

namespace Stage

/-- At most `limit` bytes; those beyond it stay for the next call. -/
def serve (w : Stage) (position limit : Nat) (bytes : Bytes) : Bytes × Stage :=
  (bytes.take limit, w.setScript position { w.script position with held := bytes.drop limit })

def findAddress (w : Stage) : Session.Reply × Stage :=
  let (finding, steps) := w.surroundings.search .inet
  let searched := w.enterAll (steps.map .search)
  match finding with
  | .found address => (.address address, searched)
  | .nothing => (.address "", searched.note (.noAddress .inet))
  | .failed f => (.fault f, searched)

def replyOf (outcome : Except Fault Bytes) (reply : Session.Reply) : Session.Reply :=
  match outcome with
  | .ok _ => reply
  | .error f => .fault f

def shutStep : Socket → Step
  | .listener => .shutListener
  | .raw => .shutRaw
  | .secured => .shutSecured

/-- What comes of opening a session through the interactor. -/
def adopt (steps : List Session.OpeningStep)
    (outcome : Except Interactor.Refusal Interactor) (w : Stage) : Result × Stage :=
  let opened := w.enterAll (steps.map Entry.ofOpening)
  match outcome with
  | .error refusal => (.refused refusal, opened)
  | .ok interactor => (.truth true, { opened with interactor := interactor })

mutual

def performAll : Nat → List Operation → Stage → Stage
  | 0, _, w => w
  | _, [], w => w
  | fuel + 1, operation :: rest, w => performAll fuel rest (perform fuel none operation w)

/-- One operation, entered into the record after all that it causes. -/
def perform : Nat → Option Int → Operation → Stage → Stage
  | 0, _, _, w => w
  | fuel + 1, _, .on position operation, w => perform fuel (some position) operation w
  | fuel + 1, position, operation, w =>
      let (result, after) := carryOut fuel position operation w
      let phase := ((after.target? position).bind after.session?).map (·.phase)
      after.enter (.operation operation result phase)

def carryOut : Nat → Option Int → Operation → Stage → Result × Stage
  | 0, _, _, w => (.done, w)
  | fuel + 1, position, operation, w =>
      match operation with
      | .deliver limit => deliverQueued fuel limit 0 w
      | .emit _ | .detach | .releaseSink | .attached =>
          match w.owner? position with
          | none => (.noTarget, w)
          | some owner => actOnSink fuel owner operation w
      | .listen | .connect _ | .sendData _ _ | .closeConnection | .hasSession =>
          if w.offersInteractor then actOnInteractor fuel operation w else (.noTarget, w)
      | .on position operation => carryOut fuel (some position) operation w
      | .run =>
          match w.target? position with
          | none => (.notRunnable, w)
          | some target => actOn fuel target .run w
      | onSession =>
          match w.target? position with
          | none => (.noTarget, w)
          | some target => actOn fuel target onSession w

def actOnSink : Nat → Owner → Operation → Stage → Result × Stage
  | 0, _, _, w => (.done, w)
  | fuel + 1, owner, operation, w =>
      match operation with
      | .emit event =>
          let (fault, after) := emit fuel owner event w
          (.ofFault fault .done, after)
      | .detach => (.done, w.detach owner)
      | .releaseSink => (.done, w.release owner)
      | .attached => (.truth (w.attends owner), w)
      | _ => (.done, w)

def actOnInteractor : Nat → Operation → Stage → Result × Stage
  | 0, _, w => (.done, w)
  | fuel + 1, operation, w =>
      match operation with
      | .listen =>
          let (random, drawn) := if w.interactor.isIdle then w.takeRandom else ([], w)
          let (steps, outcome) :=
            drawn.interactor.listen random drawn.context.opensThreads drawn.provider
          adopt steps outcome drawn
      | .connect bundle =>
          let (steps, outcome) := w.interactor.connect bundle w.context.opensThreads w.provider
          adopt steps outcome w
      | .sendData payload token =>
          match w.interactor.target with
          | .error refusal => (.refused refusal, w)
          | .ok target => (.done, w.move target (.send ⟨payload, token⟩))
      | .closeConnection =>
          match w.interactor.current with
          | none => (.done, { w with interactor := w.interactor.forget })
          | some target =>
              let (fault, closed) := close fuel target w
              match fault with
              | some f => (.fault f, closed)
              | none => (.done, { closed with interactor := closed.interactor.forget })
      | .hasSession => (.truth w.interactor.current.isSome, w)
      | _ => (.done, w)

def actOn : Nat → Nat → Operation → Stage → Result × Stage
  | 0, _, _, w => (.done, w)
  | fuel + 1, target, operation, w =>
      match w.session? target with
      | none => (.noTarget, w)
      | some s =>
          match operation with
          | .start => (.ofFault s.startFault (.truth true), w.move target .start)
          | .run =>
              if s.isRunnable then
                let after := work fuel target (w.move target .run)
                (.ofFault ((after.session? target).bind Session.escape) .exited, after)
              else (.notRunnable, w)
          | .send payload token => (.done, w.move target (.send ⟨payload, token⟩))
          | .close =>
              let (fault, closed) := close fuel target w
              (.ofFault fault .done, closed)
          | .join timeout =>
              if s.started then (.truth !s.isAlive, w.enter (.joinThread timeout))
              else (.truth true, w)
          | .state => (.snapshot (.of s), w)
          | .dropEndpoint => (.done, w.move target .dropEndpoint)
          | _ => (.done, w)

def work : Nat → Nat → Stage → Stage
  | 0, _, w => w
  | fuel + 1, position, w =>
      match (w.session? position).bind (·.request) with
      | none => w
      | some request =>
          let (reply, answered) := answer fuel position request w
          work fuel position (answered.move position (.answer reply))

def close : Nat → Nat → Stage → Option Fault × Stage
  | 0, _, w => (none, w)
  | fuel + 1, position, w =>
      match w.session? position with
      | none => (none, w)
      | some s =>
          if s.stopping then (none, w)
          else closing fuel position (w.move position .close)

def closing : Nat → Nat → Stage → Option Fault × Stage
  | 0, _, w => (none, w)
  | fuel + 1, position, w =>
      match w.session? position with
      | none => (none, w)
      | some s =>
          match s.closingRequest with
          | none => (s.closingFault, w)
          | some request =>
              let (reply, answered) := answer fuel position request w
              closing fuel position (answered.move position (.answerCaller reply))

def answer : Nat → Nat → Session.Request → Stage → Session.Reply × Stage
  | 0, _, _, w => (.done, w)
  | fuel + 1, position, request, w =>
      match request with
      | .bind host port =>
          let (outcome, after) := meet fuel position .bind (w.enter (.bind host port))
          (replyOf outcome .done, after)
      | .setTimeout socket timeout => (.done, w.enter (.setTimeout socket timeout))
      | .findAddress => w.findAddress
      | .boundPort => (.port (w.script position).boundPort, w)
      | .emit event =>
          let (fault, after) := emit fuel (.session position) event w
          (match fault with
            | some f => .fault f
            | none => .done, after)
      | .accept =>
          let (outcome, after) := meet fuel position .accept (w.enter .accept)
          (replyOf outcome (.accepted (after.script position).peer 50000), after)
      | .shutDown socket =>
          let (outcome, after) := meet fuel position (shutStep socket) (w.enter (.shutDown socket))
          (replyOf outcome .done, after)
      | .close socket => (.done, w.enter (.close socket))
      | .dial host port timeout =>
          let (outcome, after) := meet fuel position .dial (w.enter (.dial host port timeout))
          (replyOf outcome .done, after)
      | .handshake role =>
          let entries := match w.session? position with
            | some s =>
                handshakeEntries w.secured role s.secret w.identity s.settings.handshakeTimeout
            | none => []
          let (outcome, after) := meet fuel position .handshake (w.enterAll entries)
          (replyOf outcome (.connection (if w.secured then .secured else .raw)), after)
      | .peerName _ =>
          let (outcome, after) := meet fuel position .peerName w
          (replyOf outcome (.address (after.script position).peer), after)
      | .receive socket limit =>
          let entered := w.enter (.receive socket limit)
          match (w.script position).held with
          | [] =>
              let (outcome, after) := meet fuel position .receive entered
              match outcome with
              | .error f => (.fault f, after)
              | .ok bytes =>
                  let (chunk, served) := after.serve position limit bytes
                  (.chunk chunk, served)
          | held =>
              let (chunk, served) := entered.serve position limit held
              (.chunk chunk, served)
      | .send socket bytes =>
          let (outcome, after) := meet fuel position .send (w.enter (.send socket bytes))
          (replyOf outcome .done, after)

/-- The next cue of a step: callers act first, then its outcome holds. -/
def meet : Nat → Nat → Step → Stage → Except Fault Bytes × Stage
  | 0, _, _, w => (.ok [], w)
  | fuel + 1, position, step, w =>
      let (cue, script) := (w.script position).next step
      let taken := w.setScript position script
      let acted := match cue.during with
        | some operations => performAll fuel operations (taken.enter (.during step))
        | none => taken
      match cue.outcome with
      | .ok bytes => (.ok bytes, acted)
      | .error f => (.error f, acted.enter (.raised step f))

def emit : Nat → Owner → Event → Stage → Option Fault × Stage
  | 0, _, _, w => (none, w)
  | fuel + 1, owner, event, w =>
      match w.sinkOf owner with
      | none => (none, w)
      | some sink =>
          match w.context.emit sink event with
          | .dropped notice => (none, w.note notice)
          | .queued => (none, w.push owner event)
          | .immediate => (none, deliver fuel owner event w)
          | .failed f => (some f, w)

/-- A delivery runs: the observer gets the event, unless it has been let go. -/
def deliver : Nat → Owner → Event → Stage → Stage
  | 0, _, _, w => w
  | fuel + 1, owner, event, w =>
      if w.attends owner then
        let (reaction, seen) := w.call event
        let reacted := performAll fuel reaction seen
        if event.kind ∈ w.raising then reacted.note (.observerFailed event.kind) else reacted
      else w

/-- Queued deliveries run in order, also those that are queued meanwhile. -/
def deliverQueued : Nat → Option Nat → Nat → Stage → Result × Stage
  | 0, _, count, w => (.count count, w)
  | fuel + 1, limit, count, w =>
      if limit.any (· ≤ count) then (.count count, w)
      else
        match w.queue with
        | [] => (.count count, w)
        | (owner, event) :: rest =>
            deliverQueued fuel limit (count + 1) (deliver fuel owner event { w with queue := rest })

end

end Stage

inductive Cast where
  | sink
  | session (plan : Session.Plan)
  | interactor (settings : Settings)

structure Scenario where
  cast : Cast
  operations : List Operation
  stage : Stage

structure Report where
  record : List Entry
  pending : Nat
  sessions : List Snapshot

namespace Scenario

/-- The stage with the cast on it; a session may fail to open. -/
def opening (scenario : Scenario) : Except (Session.OpeningError × List Entry) Stage :=
  let w := scenario.stage
  match scenario.cast with
  | .sink =>
      .ok { (if w.context.opensThreads then w.enter .deliveryThread else w) with
        sink := some (Sink.new w.context.opensThreads) }
  | .interactor settings =>
      .ok { w with interactor := .new settings, offersInteractor := true }
  | .session plan =>
      let (steps, outcome) := plan.open
      match outcome with
      | .error error => .error (error, steps.map Entry.ofOpening)
      | .ok session =>
          .ok { w.enterAll (steps.map Entry.ofOpening) with
            interactor := ⟨plan.settings, [session], none⟩ }

def play (scenario : Scenario) : Except (Session.OpeningError × List Entry) Report :=
  (opening scenario).map fun start =>
    let played := start.performAll (start.depth scenario.operations) scenario.operations
    ⟨played.record.reverse, played.queue.length, played.interactor.sessions.map .of⟩

end Scenario

end Handover.Rehearsal
