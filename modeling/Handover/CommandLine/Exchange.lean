import Handover.CommandLine.Arguments
import Handover.CommandLine.Directory
import Handover.Event
import Handover.Interactor

/-! One run of the program: a session is started, events are taken one by one, a file is sent once
the peer is there, and received messages are written to a file. The run ends as soon as all that
was asked for has happened, or when the session or the waiting ends. An argument without a value
fails the run at the point where the value is needed, and not before. -/

set_option autoImplicit false

namespace Handover.CommandLine

inductive Deed where
  /-- A session is opened on the terms of the arguments. -/
  | opened (role : Role) (arguments : Arguments) (endpoint : Option Endpoint)
  | awaited (timeout : Timeout)
  | printed (line : String)
  | reported (line : String)
  | sent (payload : Bytes) (token : String)
  | wrote (name : String) (content : Bytes)
  | closed
  | joined (timeout : Timeout)

/-- How a run ends when it returns no status. -/
inductive Failure where
  | file (error : FileError)
  /-- A value was needed that the arguments do not give. -/
  | noValue
  deriving DecidableEq, Repr

inductive Ending where
  | status (code : Nat)
  | failed (failure : Failure)
  deriving DecidableEq, Repr

/-- What remains to be done in a run. -/
structure Pledge where
  sendDue : Bool
  receiveDue : Bool
  deriving DecidableEq, Repr

def Pledge.isMet (p : Pledge) : Bool := !p.sendDue && !p.receiveDue

/-- What taking one event leads to: more of the run, or its end. -/
structure Turnout where
  deeds : List Deed
  pledge : Pledge
  directory : Directory
  ending : Option Ending

def Turnout.ofPledge (deeds : List Deed) (pledge : Pledge) (directory : Directory) : Turnout :=
  ⟨deeds, pledge, directory, if pledge.isMet then some (.status 0) else none⟩

/-- What a run has in hand: its arguments and the payload read for it. -/
structure Exchange where
  arguments : Arguments
  payload : Option Bytes

namespace Exchange

def pledge (x : Exchange) : Pledge := ⟨x.payload.isSome, x.arguments.out.isSome⟩

def size (message : Bytes) : String := toString message.length

def receive (x : Exchange) (message : Bytes) (pledge : Pledge) (d : Directory) : Turnout :=
  match x.arguments.out.join with
  | none => ⟨[], pledge, d, some (.failed .noValue)⟩
  | some name =>
      match d.write name message with
      | .error error => ⟨[], pledge, d, some (.failed (.file error))⟩
      | .ok written =>
          .ofPledge [.wrote name message,
              .reported ("received " ++ size message ++ " bytes into " ++ name)]
            { pledge with receiveDue := false } written

def greet (x : Exchange) : List Deed :=
  match x.payload with
  | some payload => [.sent payload (x.arguments.send.getD "")]
  | none => []

def take (x : Exchange) (event : Event) (pledge : Pledge) (d : Directory) : Turnout :=
  match event with
  | .listening bundle => .ofPledge [.printed bundle] pledge d
  | .established peer => .ofPledge (.reported ("connected to " ++ peer) :: x.greet) pledge d
  | .sent token =>
      .ofPledge [.reported ("sent " ++ String.ofList token.plain)]
        { pledge with sendDue := false } d
  | .received message => x.receive message pledge d
  | .lost =>
      ⟨[.reported "connection lost"], pledge, d, some (.status (if pledge.isMet then 0 else 1))⟩
  | .connectFailed | .listenFailed =>
      ⟨[.reported "could not establish a connection"], pledge, d, some (.status 1)⟩

/-- Takes events until the run ends; when none is left, the waiting ends it. However long a run is told to
wait, the events that there are come in time: that a queue refuses a wait below zero is left out. -/
def follow (x : Exchange) (wait : Timeout) (pledge : Pledge) (d : Directory) :
    List Event → List Deed × Ending × Directory
  | [] => ([.awaited wait, .reported "timed out waiting for the peer"], .status 1, d)
  | event :: rest =>
      let turnout := x.take event pledge d
      let deeds := .awaited wait :: turnout.deeds
      match turnout.ending with
      | some ending => (deeds, ending, turnout.directory)
      | none =>
          let (more, ending, final) := x.follow wait turnout.pledge turnout.directory rest
          (deeds ++ more, ending, final)

/-- However the events end the run, the session is closed and its end waited for. -/
def run (x : Exchange) (d : Directory) (events : List Event) : List Deed × Ending × Directory :=
  let (deeds, ending, final) := match x.arguments.wait with
    | some wait => x.follow wait x.pledge d events
    | none => ([], .failed .noValue, d)
  (deeds ++ [.closed, .joined x.arguments.patience], ending, final)

end Exchange

/-- What a run meets: the events of its session, unless that cannot be opened, and the files. -/
structure Host where
  /-- Why transport security cannot be prepared. -/
  setupError : Option String
  events : List Event
  directory : Directory

/-- The payload of a run: the content of the file to send. An empty name counts as none. -/
def readPayload (a : Arguments) (d : Directory) : Except FileError (Option Bytes) :=
  match a.send.filter (· ≠ "") with
  | none => .ok none
  | some name => (d.read name).map some

def exchange (a : Arguments) (host : Host) : List Deed × Ending × Directory :=
  match readPayload a host.directory with
  | .error error => ([], .failed (.file error), host.directory)
  | .ok payload => Exchange.run ⟨a, payload⟩ host.directory host.events

def refuse (host : Host) (message : String) : List Deed × Ending × Directory :=
  ([.reported ("error: " ++ message)], .status 2, host.directory)

def session (a : Arguments) (host : Host) (role : Role) (endpoint : Option Endpoint) :
    List Deed × Ending × Directory :=
  match host.setupError with
  | some message => refuse host message
  | none =>
      if a.isTimed then
        let (deeds, ending, final) := exchange a host
        (.opened role a endpoint :: deeds, ending, final)
      else ([], .failed .noValue, host.directory)

/-- The task of the arguments, once log records have their level. -/
def perform (a : Arguments) (host : Host) : List Deed × Ending × Directory :=
  if a.logLevel.isNone then ([], .failed .noValue, host.directory)
  else match a.task with
    | .listen => session a host .listener none
    | .connect bundle =>
        match Bundle.read bundle a.settings.scheme with
        | .error flaw => refuse host flaw.message
        | .ok endpoint => session a host .connector (some endpoint)

end Handover.CommandLine
