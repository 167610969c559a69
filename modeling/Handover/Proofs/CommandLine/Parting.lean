import Handover.CommandLine.Exchange

/-! How a run leaves its session. Once the events are being taken, whatever ends the run, the session is closed
and its end waited for, once and at last. The payload is read before that: when its file cannot be read the
run ends with its session open. -/

set_option autoImplicit false

namespace Handover.CommandLine

/-- Whether a deed belongs to the leave that a run takes of its session. -/
def Deed.isParting : Deed → Bool
  | .closed | .joined _ => true
  | _ => false

/-- Deeds of which none closes the session or waits for its end. -/
def Stays (deeds : List Deed) : Prop := ∀ deed ∈ deeds, deed.isParting = false

theorem stays_nil : Stays [] := by simp [Stays]

theorem Stays.cons {deed : Deed} {deeds : List Deed} (stays : Stays deeds) (first : deed.isParting = false) :
    Stays (deed :: deeds) := by
  simpa [Stays, first] using stays

theorem Stays.append {deeds more : List Deed} (stays : Stays deeds) (further : Stays more) :
    Stays (deeds ++ more) := by
  intro deed member
  rcases List.mem_append.mp member with first | last
  · exact stays deed first
  · exact further deed last

namespace Exchange

theorem stays_receive (x : Exchange) (message : Bytes) (pledge : Pledge) (d : Directory) :
    Stays (x.receive message pledge d).deeds := by
  unfold receive
  split
  · exact stays_nil
  · split
    · exact stays_nil
    · simp [Stays, Turnout.ofPledge, Deed.isParting]

theorem stays_greet (x : Exchange) : Stays x.greet := by
  unfold greet
  split <;> simp [Stays, Deed.isParting]

theorem stays_take (x : Exchange) (event : Event) (pledge : Pledge) (d : Directory) :
    Stays (x.take event pledge d).deeds := by
  cases event with
  | received message => exact x.stays_receive message pledge d
  | established peer => exact x.stays_greet.cons rfl
  | _ => simp [Stays, take, Turnout.ofPledge, Deed.isParting]

theorem stays_follow (x : Exchange) (wait : Timeout) (pledge : Pledge) (d : Directory)
    (events : List Event) : Stays (x.follow wait pledge d events).1 := by
  induction events generalizing pledge d with
  | nil => simp [Stays, follow, Deed.isParting]
  | cons event rest ih =>
    have first : Stays (.awaited wait :: (x.take event pledge d).deeds) :=
      (x.stays_take event pledge d).cons rfl
    unfold follow
    dsimp only
    split
    · exact first
    · exact first.append (ih _ _)

theorem leaves_run (x : Exchange) (d : Directory) (events : List Event) :
    ∃ before, (x.run d events).1 = before ++ [.closed, .joined x.arguments.patience] ∧ Stays before := by
  unfold run
  cases waits : x.arguments.wait with
  | none => exact ⟨[], rfl, stays_nil⟩
  | some wait => exact ⟨_, rfl, x.stays_follow wait x.pledge d events⟩

end Exchange

def Arguments.Readable (a : Arguments) (d : Directory) : Prop :=
  ∀ name, a.send = some name → name ≠ "" → ∃ content, d.read name = .ok content

theorem readable_iff (a : Arguments) (d : Directory) :
    a.Readable d ↔ ∃ payload, readPayload a d = .ok payload := by
  unfold Arguments.Readable readPayload
  cases send : a.send with
  | none => simp
  | some name =>
    by_cases empty : name = ""
    · simp [empty, Option.filter]
    · cases read : d.read name <;> simp [empty, read, Except.map, Option.filter]

theorem leaves_exchange {a : Arguments} {host : Host} (readable : a.Readable host.directory) :
    ∃ before, (exchange a host).1 = before ++ [.closed, .joined a.patience] ∧ Stays before := by
  obtain ⟨payload, read⟩ := (readable_iff a host.directory).mp readable
  unfold exchange
  rw [read]
  exact Exchange.leaves_run ⟨a, payload⟩ host.directory host.events

theorem exchange_of_unreadable {a : Arguments} {host : Host} (unreadable : ¬ a.Readable host.directory) :
    ∃ error, exchange a host = ([], .failed (.file error), host.directory) := by
  unfold exchange
  cases read : readPayload a host.directory with
  | error error => exact ⟨error, rfl⟩
  | ok payload => exact absurd ((readable_iff a host.directory).mpr ⟨payload, read⟩) unreadable

def Idle (deeds : List Deed) : Prop := ∀ role terms endpoint, Deed.opened role terms endpoint ∉ deeds

theorem session_cases (a : Arguments) (host : Host) (role : Role) (endpoint : Option Endpoint) :
    Idle (session a host role endpoint).1 ∨
      session a host role endpoint = (.opened role a endpoint :: (exchange a host).1, (exchange a host).2) := by
  unfold session
  split
  · exact .inl (by simp [Idle, refuse])
  · split
    · exact .inr rfl
    · exact .inl (by simp [Idle])

theorem perform_cases (a : Arguments) (host : Host) :
    Idle (perform a host).1 ∨ ∃ role endpoint,
      perform a host = (.opened role a endpoint :: (exchange a host).1, (exchange a host).2) := by
  unfold perform
  split
  · exact .inl (by simp [Idle])
  · split
    · exact (session_cases a host .listener none).imp id fun ran => ⟨_, _, ran⟩
    · split
      · exact .inl (by simp [Idle, refuse])
      · exact (session_cases a host .connector _).imp id fun ran => ⟨_, _, ran⟩

/-- A session that a run has opened is closed exactly if the file to send can be read, or none is named. Then
it is closed once and at last, and its end is waited for, whatever else ends the run; otherwise the run ends as
soon as the session is opened. -/
theorem opened_session_closed {a : Arguments} {host : Host} {role : Role} {terms : Arguments}
    {endpoint : Option Endpoint} (opened : .opened role terms endpoint ∈ (perform a host).1) :
    (.closed ∈ (perform a host).1 ↔ a.Readable host.directory) ∧
      (a.Readable host.directory → ∃ before,
        (perform a host).1 = before ++ [.closed, .joined a.patience] ∧ Stays before) ∧
      (¬ a.Readable host.directory → ∃ role endpoint error,
        perform a host = ([.opened role a endpoint], .failed (.file error), host.directory)) := by
  obtain idle | ⟨own, target, ran⟩ := perform_cases a host
  · exact absurd opened (idle _ _ _)
  rw [ran]
  have left (readable : a.Readable host.directory) : ∃ before,
      .opened own a target :: (exchange a host).1 = before ++ [.closed, .joined a.patience] ∧
        Stays before := by
    obtain ⟨before, deeds, stays⟩ := leaves_exchange readable
    exact ⟨.opened own a target :: before, by rw [deeds]; rfl, stays.cons rfl⟩
  have kept (unreadable : ¬ a.Readable host.directory) :
      ∃ error, exchange a host = ([], .failed (.file error), host.directory) :=
    exchange_of_unreadable unreadable
  refine ⟨⟨fun closed => ?_, fun readable => ?_⟩, left, fun unreadable => ?_⟩
  · refine Classical.byContradiction fun unreadable => ?_
    obtain ⟨error, failed⟩ := kept unreadable
    simp [failed] at closed
  · obtain ⟨before, deeds, -⟩ := left readable
    simp [deeds]
  · obtain ⟨error, failed⟩ := kept unreadable
    exact ⟨own, target, error, by rw [failed]⟩

/-- A listener that is to write what it receives to a file in a directory that is not there. -/
def unwritable : Arguments := { Arguments.default with out := some (some "missing/key") }

def greeted : Host := ⟨none, [.established "10.0.0.9", .received [97]], ⟨.nothing, [], []⟩⟩

/-- A run that fails to write what it has received closes its session all the same. -/
theorem opened_session_closed_unwritable :
    (perform unwritable greeted).2.1 = .failed (.file .notFound) ∧
      .closed ∈ (perform unwritable greeted).1 := by
  have opened : .opened .listener unwritable none ∈ (perform unwritable greeted).1 :=
    List.mem_cons_self
  refine ⟨rfl, (opened_session_closed opened).1.mpr ?_⟩
  intro name send
  cases send

/-- A listener that is to send a file which is not there. -/
def unreadable : Arguments := { Arguments.default with send := some "missing" }

/-- The session has been opened and is never closed. -/
theorem opened_session_left_open :
    .opened .listener unreadable none ∈ (perform unreadable greeted).1 ∧
      .closed ∉ (perform unreadable greeted).1 := by
  have ran : perform unreadable greeted =
      ([.opened .listener unreadable none], .failed (.file .notFound), greeted.directory) := rfl
  rw [ran]
  exact ⟨List.mem_cons_self, by simp⟩

end Handover.CommandLine
