import Handover.Proofs.CommandLine.Parting
import Handover.Proofs.CommandLine.Writing

/-! How a run ends that receives a file. It takes events until one is final, until all that was asked for has
happened, or until none comes in time; its status says whether all has happened. -/

set_option autoImplicit false

namespace Handover.CommandLine

/-! ## What remains to be done -/

def Pledge.after (p : Pledge) : Event → Pledge
  | .sent _ => { p with sendDue := false }
  | .received _ => { p with receiveDue := false }
  | _ => p

/-- None of the events is final, and they leave something to be done. -/
def Pledge.Undone (p : Pledge) (events : List Event) : Prop :=
  (∀ event ∈ events, event.isFinal = false) ∧ (events.foldl Pledge.after p).isMet = false

/-- None of the events is final, and they leave nothing to be done. -/
def Pledge.Done (p : Pledge) (events : List Event) : Prop :=
  (∀ event ∈ events, event.isFinal = false) ∧ (events.foldl Pledge.after p).isMet = true

variable {p : Pledge} {event : Event} {events : List Event}

theorem Pledge.Undone.nil (undone : p.isMet = false) : p.Undone [] := ⟨by simp, undone⟩

theorem Pledge.Undone.cons (undone : (p.after event).Undone events) (open_ : event.isFinal = false) :
    p.Undone (event :: events) := ⟨by simpa [open_] using undone.1, undone.2⟩

theorem Pledge.Undone.not_done (undone : p.Undone events) : ¬ p.Done events := by
  rintro ⟨-, met⟩
  simp [undone.2] at met

theorem Pledge.Done.cons (done : (p.after event).Done events) (open_ : event.isFinal = false) :
    p.Done (event :: events) := ⟨by simpa [open_] using done.1, done.2⟩

/-- Events after which nothing remains to be done: no one is final, a message has come, and a payload, if
there is one, has been sent. -/
structure Suffices (sends : Bool) (events : List Event) : Prop where
  open_ : ∀ event ∈ events, event.isFinal = false
  received : ∃ message, .received message ∈ events
  sent : sends = true → ∃ token, .sent token ∈ events

theorem sendDue_foldl (p : Pledge) (events : List Event) :
    (events.foldl Pledge.after p).sendDue = false ↔ p.sendDue = false ∨ ∃ token, .sent token ∈ events := by
  induction events generalizing p with
  | nil => simp
  | cons event rest ih =>
    rw [List.foldl_cons, ih]
    cases event <;> simp [Pledge.after]

theorem receiveDue_foldl (p : Pledge) (events : List Event) :
    (events.foldl Pledge.after p).receiveDue = false ↔
      p.receiveDue = false ∨ ∃ message, .received message ∈ events := by
  induction events generalizing p with
  | nil => simp
  | cons event rest ih =>
    rw [List.foldl_cons, ih]
    cases event <;> simp [Pledge.after]

theorem suffices_iff {sends : Bool} :
    Suffices sends events ↔ Pledge.Done ⟨sends, true⟩ events := by
  have met (p : Pledge) : p.isMet = true ↔ p.sendDue = false ∧ p.receiveDue = false := by
    simp [Pledge.isMet]
  rw [Pledge.Done, met, sendDue_foldl, receiveDue_foldl]
  constructor
  · rintro ⟨open_, received, sent⟩
    refine ⟨open_, ?_, .inr received⟩
    cases sends with
    | false => exact .inl rfl
    | true => exact .inr (sent rfl)
  · rintro ⟨open_, sent, received⟩
    refine ⟨open_, received.resolve_left (by simp), fun sends => sent.resolve_left (by simp [sends])⟩

/-! ## One event -/

def Deed.isAwaited : Deed → Bool
  | .awaited _ => true
  | _ => false

def Deed.sent? : Deed → Option (Bytes × String)
  | .sent payload token => some (payload, token)
  | _ => none

def asked (deeds : List Deed) : Nat := deeds.countP Deed.isAwaited

def sends (deeds : List Deed) : List (Bytes × String) := deeds.filterMap Deed.sent?

theorem asked_awaited (wait : Timeout) (deeds : List Deed) :
    asked (.awaited wait :: deeds) = asked deeds + 1 := List.countP_cons_of_pos rfl

theorem sends_awaited (wait : Timeout) (deeds : List Deed) :
    sends (.awaited wait :: deeds) = sends deeds := rfl

@[simp] theorem asked_append (deeds more : List Deed) : asked (deeds ++ more) = asked deeds + asked more :=
  List.countP_append

@[simp] theorem sends_append (deeds more : List Deed) : sends (deeds ++ more) = sends deeds ++ sends more :=
  List.filterMap_append

namespace Exchange

def parcel (x : Exchange) : Event → List (Bytes × String)
  | .established _ => x.payload.toList.map fun payload => (payload, x.arguments.send.getD "")
  | _ => []

variable {x : Exchange} {name : String} {d : Directory} {pledge : Pledge} {event : Event}

theorem asked_greet (x : Exchange) : asked x.greet = 0 := by
  unfold greet
  split <;> rfl

theorem sends_greet (x : Exchange) (peer : String) :
    CommandLine.sends x.greet = x.parcel (.established peer) := by
  unfold greet parcel
  cases x.payload <;> rfl

theorem asked_take (x : Exchange) (event : Event) (pledge : Pledge) (d : Directory) :
    asked (x.take event pledge d).deeds = 0 := by
  cases event with
  | established peer => exact x.asked_greet
  | received message =>
    rw [take, receive]
    split
    · rfl
    · split <;> rfl
  | _ => rfl

theorem sends_take (x : Exchange) (event : Event) (pledge : Pledge) (d : Directory) :
    sends (x.take event pledge d).deeds = x.parcel event := by
  cases event with
  | established peer => exact x.sends_greet peer
  | received message =>
    rw [take, receive]
    split
    · rfl
    · split <;> rfl
  | _ => rfl

/-- A run goes on only after an event that is not final, and only if something remains to be done. -/
theorem goes_on_of_none (goes : (x.take event pledge d).ending = none) :
    event.isFinal = false ∧ (x.take event pledge d).pledge = pledge.after event ∧
      (pledge.after event).isMet = false := by
  have undone {deeds : List Deed} {left : Pledge} {written : Directory}
      (goes : (Turnout.ofPledge deeds left written).ending = none) : left.isMet = false := by
    simpa [Turnout.ofPledge] using goes
  cases event with
  | lost | connectFailed | listenFailed => cases goes
  | received message =>
    rw [take, receive] at goes ⊢
    split at goes
    · cases goes
    · split at goes
      · cases goes
      · exact ⟨rfl, rfl, undone goes⟩
  | _ => exact ⟨rfl, rfl, undone goes⟩

structure Takes (event : Event) (pledge : Pledge) (name : String) (turnout : Turnout) : Prop where
  left : turnout.pledge = pledge.after event
  ending : turnout.ending = if (pledge.after event).isMet then some (.status 0) else none
  writes : turnout.directory.Writes name

theorem takes_of_open (out : x.arguments.out = some (some name)) (writes : d.Writes name)
    (open_ : event.isFinal = false) : Takes event pledge name (x.take event pledge d) := by
  cases event with
  | lost | connectFailed | listenFailed => cases open_
  | received message =>
    obtain ⟨written, done⟩ := writes message
    have shape : x.take (.received message) pledge d = .ofPledge [.wrote name message,
        .reported ("received " ++ size message ++ " bytes into " ++ name)]
        { pledge with receiveDue := false } written := by
      simp [take, receive, out, done]
    rw [shape]
    exact ⟨rfl, rfl, .keeps done⟩
  | _ => exact ⟨rfl, rfl, writes⟩

theorem take_of_final (undone : pledge.isMet = false) (final : event.isFinal = true) :
    (x.take event pledge d).ending = some (.status 1) := by
  cases event with
  | lost => simp [take, undone]
  | connectFailed | listenFailed => rfl
  | _ => cases final

/-! ## All events -/

variable {wait : Timeout} {rest events : List Event}

theorem follow_of_ending {ending : Ending} (ended : (x.take event pledge d).ending = some ending) :
    x.follow wait pledge d (event :: rest) =
      (.awaited wait :: (x.take event pledge d).deeds, ending, (x.take event pledge d).directory) := by
  rw [follow]
  simp only [ended]

theorem follow_of_none (goes : (x.take event pledge d).ending = none) :
    let turnout := x.take event pledge d
    x.follow wait pledge d (event :: rest) =
      (.awaited wait :: turnout.deeds ++ (x.follow wait turnout.pledge turnout.directory rest).1,
        (x.follow wait turnout.pledge turnout.directory rest).2) := by
  rw [follow]
  simp only [goes]

theorem asked_follow_of_ending {ending : Ending} (ended : (x.take event pledge d).ending = some ending) :
    asked (x.follow wait pledge d (event :: rest)).1 = 1 := by
  rw [follow_of_ending ended, asked_awaited, asked_take]

theorem asked_follow_of_none (goes : (x.take event pledge d).ending = none) :
    let turnout := x.take event pledge d
    asked (x.follow wait pledge d (event :: rest)).1 =
      asked (x.follow wait turnout.pledge turnout.directory rest).1 + 1 := by
  rw [follow_of_none goes, asked_append, asked_awaited, asked_take, Nat.zero_add, Nat.add_comm]

theorem undone_follow (undone : pledge.isMet = false) :
    ∀ n < asked (x.follow wait pledge d events).1, pledge.Undone (events.take n) := by
  induction events generalizing pledge d with
  | nil => exact fun n _ => by simpa using .nil undone
  | cons event rest ih =>
    intro n early
    cases n with
    | zero => exact .nil undone
    | succ n =>
      cases ended : (x.take event pledge d).ending with
      | some ending =>
        rw [asked_follow_of_ending ended] at early
        omega
      | none =>
        obtain ⟨open_, left, undone⟩ := goes_on_of_none ended
        rw [asked_follow_of_none ended, left] at early
        exact (ih undone n (Nat.lt_of_succ_lt_succ early)).cons open_

theorem sends_follow :
    sends (x.follow wait pledge d events).1 =
      (events.take (asked (x.follow wait pledge d events).1)).flatMap x.parcel := by
  induction events generalizing pledge d with
  | nil => rfl
  | cons event rest ih =>
    cases ended : (x.take event pledge d).ending with
    | some ending =>
      rw [asked_follow_of_ending ended, follow_of_ending ended, sends_awaited, sends_take]
      simp
    | none =>
      rw [asked_follow_of_none ended, follow_of_none ended, sends_append, sends_awaited, sends_take, ih,
        List.take_succ_cons, List.flatMap_cons]

/-- How a run ends that has asked for some number of events: with nothing left to be done, after a final event,
or when no event is left. -/
def Ends (pledge : Pledge) (events : List Event) (asked : Nat) (ending : Ending) : Prop :=
  ending = .status 0 ∧ pledge.Done (events.take asked) ∨
    ending = .status 1 ∧ (asked = events.length + 1 ∨
      ∃ event ∈ events.take asked, event.isFinal = true)

theorem Ends.cons {asked : Nat} {ending : Ending} (ends : Ends (pledge.after event) rest asked ending)
    (open_ : event.isFinal = false) : Ends pledge (event :: rest) (asked + 1) ending := by
  unfold Ends
  rw [List.take_succ_cons]
  refine ends.imp (And.imp_right fun done => done.cons open_) (And.imp_right ?_)
  rintro (spent | ⟨last, member, final⟩)
  · exact .inl (congrArg Nat.succ spent)
  · exact .inr ⟨last, List.mem_cons_of_mem _ member, final⟩

theorem ends_follow (out : x.arguments.out = some (some name)) (writes : d.Writes name)
    (undone : pledge.isMet = false) :
    Ends pledge events (asked (x.follow wait pledge d events).1) (x.follow wait pledge d events).2.1 := by
  -- The first event ends the run or is the first of those that leave something to be done.
  induction events generalizing pledge d with
  | nil => exact .inr ⟨rfl, .inl rfl⟩
  | cons event rest ih =>
    cases final : event.isFinal with
    | true =>
      have ended := take_of_final (x := x) (d := d) undone final
      rw [asked_follow_of_ending ended, follow_of_ending ended]
      exact .inr ⟨rfl, .inr ⟨event, by simp, final⟩⟩
    | false =>
      have takes : Takes event pledge name (x.take event pledge d) := takes_of_open out writes final
      obtain ⟨left, ending, written⟩ := takes
      cases met : (pledge.after event).isMet with
      | true =>
        have ended : (x.take event pledge d).ending = some (.status 0) := by rw [ending, met]; rfl
        rw [asked_follow_of_ending ended, follow_of_ending ended]
        exact .inl ⟨rfl, by simpa using final, by simpa using met⟩
      | false =>
        have goes : (x.take event pledge d).ending = none := by rw [ending, met]; rfl
        rw [asked_follow_of_none goes, follow_of_none goes, left]
        exact (ih written met).cons final

structure Follows (x : Exchange) (pledge : Pledge) (events : List Event) (deeds : List Deed)
    (ending : Ending) : Prop where
  undone : ∀ n < asked deeds, pledge.Undone (events.take n)
  ends : Ends pledge events (asked deeds) ending
  sends : sends deeds = (events.take (asked deeds)).flatMap x.parcel

theorem follows (out : x.arguments.out = some (some name)) (wait : Timeout) (events : List Event)
    (writes : d.Writes name) (undone : pledge.isMet = false) :
    Follows x pledge events (x.follow wait pledge d events).1 (x.follow wait pledge d events).2.1 :=
  ⟨undone_follow undone, ends_follow out writes undone, sends_follow⟩

end Exchange

/-! ## The outcome -/

/-- The payload that arguments name: none, or the content of a file that can be read. -/
inductive Loads (a : Arguments) (d : Directory) : Option Bytes → Prop where
  | nothing : a.send = none → Loads a d none
  | file {name : String} {content : Bytes} : a.send = some name → name ≠ "" →
      d.read name = .ok content → Loads a d (some content)

theorem Loads.read {a : Arguments} {d : Directory} {payload : Option Bytes} (loads : Loads a d payload) :
    readPayload a d = .ok payload := by
  unfold readPayload
  cases loads with
  | nothing none => rw [none]; rfl
  | file named filled read => simp [named, filled, read, Option.filter, Except.map]

namespace Exchange

variable {x : Exchange} {pledge : Pledge} {events : List Event} {deeds : List Deed} {ending : Ending}

/-- A run ends with status 0 exactly if at some time nothing remained to be done. -/
theorem Follows.status_iff (follows : Follows x pledge events deeds ending) :
    ending = .status 0 ↔ ∃ earlier, earlier <+: events ∧ pledge.Done earlier := by
  constructor
  · intro zero
    obtain ⟨-, done⟩ | ⟨one, -⟩ := follows.ends
    · exact ⟨_, List.take_prefix _ _, done⟩
    · simp [zero] at one
  · rintro ⟨earlier, ⟨later, rfl⟩, done⟩
    obtain ⟨zero, -⟩ | ⟨-, spent⟩ := follows.ends
    · exact zero
    -- The run has not gone past the events that complete it, and among these none is final.
    have reached : asked deeds ≤ earlier.length := by
      refine Nat.le_of_not_lt fun past => ?_
      have undone := follows.undone earlier.length past
      rw [List.take_left] at undone
      exact undone.not_done done
    obtain all | ⟨event, member, final⟩ := spent
    · rw [List.length_append] at all
      omega
    · rw [List.take_append_of_le_length reached] at member
      simp [done.1 event (List.mem_of_mem_take member)] at final

end Exchange

theorem parcels_eq (x : Exchange) (events : List Event) :
    events.flatMap x.parcel = (events.filter (·.kind == .established)).flatMap fun _ =>
      x.payload.toList.map fun content => (content, x.arguments.send.getD "") := by
  induction events with
  | nil => rfl
  | cons event rest ih =>
    rw [List.flatMap_cons, ih]
    cases event <;> rfl

theorem exchange_eq {a : Arguments} {host : Host} {payload : Option Bytes} {wait : Timeout}
    (read : readPayload a host.directory = .ok payload) (waits : a.wait = some wait) :
    let x : Exchange := ⟨a, payload⟩
    exchange a host = ((x.follow wait x.pledge host.directory host.events).1 ++
      [.closed, .joined a.patience], (x.follow wait x.pledge host.directory host.events).2) := by
  simp only [exchange, read, Exchange.run, waits]

theorem asked_parting (before : List Deed) (timeout : Timeout) :
    asked (before ++ [.closed, .joined timeout]) = asked before := by
  rw [asked_append]
  rfl

theorem sends_parting (before : List Deed) (timeout : Timeout) :
    sends (before ++ [.closed, .joined timeout]) = sends before := by
  rw [sends_append]
  exact List.append_nil _

/-- The outcome of a run that is to receive a file which can be written, and to send one or none. Its status is
0 if, at some time before a final event, a message had come and the payload had been sent, and otherwise 1; it
takes no event more than it needs to tell; it hands the payload to the session each time that the peer is there,
and never else; and it closes the session and waits for its end, once and at last. -/
theorem outcome_exact {a : Arguments} {host : Host} {name : String} {wait : Timeout}
    {payload : Option Bytes} (out : a.out = some (some name)) (writes : host.directory.Writes name)
    (waits : a.wait = some wait) (loads : Loads a host.directory payload) :
    let (deeds, ending, _) := exchange a host
    let taken := host.events.take (asked deeds)
    (ending = .status 0 ↔ ∃ earlier, earlier <+: host.events ∧ Suffices payload.isSome earlier) ∧
      (ending = .status 0 ∨ ending = .status 1) ∧
      (∀ n < asked deeds, (∀ event ∈ host.events.take n, event.isFinal = false) ∧
        ¬ Suffices payload.isSome (host.events.take n)) ∧
      (Suffices payload.isSome taken ∨ (∃ event ∈ taken, event.isFinal = true) ∨
        asked deeds = host.events.length + 1) ∧
      sends deeds = ((taken.filter (·.kind == .established)).flatMap fun _ =>
        payload.toList.map fun content => (content, a.send.getD "")) ∧
      ∃ before, deeds = before ++ [.closed, .joined a.patience] ∧ Stays before := by
  let x : Exchange := ⟨a, payload⟩
  have undone : x.pledge.isMet = false := by simp [x, Exchange.pledge, Pledge.isMet, out]
  have follows := Exchange.follows (x := x) out wait host.events writes undone
  have ran : exchange a host = ((x.follow wait x.pledge host.directory host.events).1 ++
      [.closed, .joined a.patience], (x.follow wait x.pledge host.directory host.events).2) := by
    simp only [exchange, loads.read, Exchange.run, waits, x]
  have stays := x.stays_follow wait x.pledge host.directory host.events
  rw [ran]
  generalize x.follow wait x.pledge host.directory host.events = result at follows stays
  obtain ⟨before, ending, final⟩ := result
  have pledge : x.pledge = ⟨payload.isSome, true⟩ := by simp [x, Exchange.pledge, out]
  have count : asked (before ++ [.closed, .joined a.patience]) = asked before := by
    rw [asked_append]
    rfl
  dsimp only
  simp only [suffices_iff, ← pledge, count]
  refine ⟨follows.status_iff, ?_, fun n early => ?_, ?_, ?_, before, rfl, stays⟩
  · exact follows.ends.imp And.left And.left
  · exact ⟨(follows.undone n early).1, (follows.undone n early).not_done⟩
  · exact follows.ends.imp And.right fun ended => ended.2.symm
  · rw [sends_append, follows.sends, parcels_eq]
    exact List.append_nil _

/-- A listener that is to send one file and to receive another. -/
def trading : Arguments := { Arguments.default with send := some "mine", out := some (some "yours") }

/-- The message comes before the payload has been sent, and the connection is lost after that. -/
def traded : Host :=
  ⟨none, [.established "10.0.0.9", .received [97], .sent (.text "mine"), .lost], ⟨.nothing, [("mine", [98])], []⟩⟩

theorem outcome_exact_traded :
    (exchange trading traded).2.1 = .status 0 ∧ asked (exchange trading traded).1 = 3 ∧
      sends (exchange trading traded).1 = [([98], "mine")] := by
  have writes : traded.directory.Writes "yours" := fun content => ⟨_, rfl⟩
  have loads : Loads trading traded.directory (some [98]) := .file rfl (by decide) rfl
  obtain ⟨zero, -, -, -, handed, -⟩ := outcome_exact rfl writes rfl loads
  refine ⟨zero.mpr ⟨traded.events.take 3, List.take_prefix 3 _, ?_⟩, rfl, handed⟩
  exact ⟨by simp [traded, Event.isFinal], ⟨[97], by simp [traded]⟩, fun _ => ⟨_, by simp [traded]; rfl⟩⟩

end Handover.CommandLine
