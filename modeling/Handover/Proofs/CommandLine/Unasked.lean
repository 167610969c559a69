import Handover.Proofs.CommandLine.Outcome

/-! Runs that are to receive no file. A message that such a run takes fails it; up to that point it is
the run on the events without the messages. A run that is to send no file either ends with its first
event, whether or not the peer is there. -/

set_option autoImplicit false

namespace Handover

/-- Whether an event can be the last that a run takes which is to send a file and to receive none. -/
def Event.isDecisive : Event → Bool
  | .sent _ | .received _ | .lost | .connectFailed | .listenFailed => true
  | .listening _ | .established _ => false

namespace CommandLine

/-- A host whose session reports the same without the messages. -/
def Host.quiet (host : Host) : Host :=
  { host with events := host.events.filter (·.received?.isNone) }

namespace Exchange

variable {x : Exchange} {event : Event} {pledge : Pledge} {d : Directory} {wait : Timeout}
  {events : List Event}

/-! ## One event -/

theorem take_received (out : x.arguments.out = none) (message : Bytes) (pledge : Pledge) (d : Directory) :
    x.take (.received message) pledge d = ⟨[], pledge, d, some (.failed .noValue)⟩ := by
  rw [take, receive, out]
  rfl

theorem take_other (x : Exchange) (other : event.received? = none) (pledge : Pledge) (d : Directory) :
    (x.take event pledge d).directory = d ∧
      ((x.take event pledge d).ending = none ∨
        ∃ code, (x.take event pledge d).ending = some (.status code)) := by
  have paced (deeds : List Deed) (left : Pledge) :
      (Turnout.ofPledge deeds left d).ending = none ∨
        ∃ code, (Turnout.ofPledge deeds left d).ending = some (.status code) := by
    unfold Turnout.ofPledge
    split
    · exact .inr ⟨0, rfl⟩
    · exact .inl rfl
  cases event with
  | received message => cases other
  | lost | connectFailed | listenFailed => exact ⟨rfl, .inr ⟨_, rfl⟩⟩
  | _ => exact ⟨rfl, paced _ _⟩

/-! ## All events -/

/-- Two runs, the second one on the events without the messages. As long as no message is taken they are the
same; a message fails the first. -/
inductive Compares (d : Directory) (taken : List Event)
    (ran quiet : List Deed × Ending × Directory) : Prop where
  | same : (∀ event ∈ taken, event.received? = none) → ran = quiet → Compares d taken ran quiet
  | fails : (∃ message, .received message ∈ taken) → ran.2 = (.failed .noValue, d) →
      sends ran.1 <+: sends quiet.1 → Compares d taken ran quiet

section Compares

variable {taken : List Event} {ran quiet : List Deed × Ending × Directory}

theorem Compares.eq_iff (compares : Compares d taken ran quiet) (status : ∃ code, quiet.2.1 = .status code) :
    ran = quiet ↔ ∀ event ∈ taken, event.received? = none := by
  cases compares with
  | same none same => exact ⟨fun _ => none, fun _ => same⟩
  | fails found failed =>
    obtain ⟨message, found⟩ := found
    obtain ⟨code, status⟩ := status
    constructor
    · rintro rfl
      simp [failed] at status
    · intro none
      cases none _ found

theorem Compares.failed (compares : Compares d taken ran quiet) (found : ∃ message, .received message ∈ taken) :
    ran.2 = (.failed .noValue, d) ∧ sends ran.1 <+: sends quiet.1 := by
  cases compares with
  | fails _ failed sent => exact ⟨failed, sent⟩
  | same none =>
    obtain ⟨message, found⟩ := found
    cases none _ found

end Compares

theorem compares (out : x.arguments.out = none) (wait : Timeout) (pledge : Pledge) (d : Directory)
    (events : List Event) :
    let ran := x.follow wait pledge d events
    Compares d (events.take (asked ran.1)) ran
      (x.follow wait pledge d (events.filter (·.received?.isNone))) := by
  -- A message is the last event that is taken; any other event is taken by both runs.
  induction events generalizing pledge d with
  | nil => exact .same (by simp) rfl
  | cons event rest ih =>
    dsimp only
    cases held : event.received? with
    | some message =>
      obtain ⟨message, rfl⟩ : ∃ message, event = .received message := by
        cases event <;> first | exact ⟨_, rfl⟩ | cases held
      have ended := congrArg Turnout.ending (take_received out message pledge d)
      rw [asked_follow_of_ending ended, follow_of_ending ended, take_received out]
      exact .fails ⟨message, List.mem_cons_self⟩ rfl List.nil_prefix
    | none =>
      rw [List.filter_cons_of_pos (by simp [held])]
      obtain ⟨unwritten, -⟩ := x.take_other held pledge d
      cases ended : (x.take event pledge d).ending with
      | some ending =>
        rw [asked_follow_of_ending ended, follow_of_ending ended, follow_of_ending ended]
        exact .same (by simpa using held) rfl
      | none =>
        have later := ih (x.take event pledge d).pledge (x.take event pledge d).directory
        rw [asked_follow_of_none ended, follow_of_none ended, follow_of_none ended, List.take_succ_cons]
        cases later with
        | same none same =>
          refine .same (by simpa [held] using none) ?_
          rw [same]
        | fails found failed sent =>
          obtain ⟨message, taken⟩ := found
          refine .fails ⟨message, List.mem_cons_of_mem _ taken⟩ ?_ ?_
          · rw [failed, unwritten]
          · rw [sends_append, sends_append]
            exact (List.prefix_append_right_inj _).mpr sent

theorem status_of_quiet (quiet : ∀ event ∈ events, event.received? = none) :
    ∃ code, (x.follow wait pledge d events).2.1 = .status code := by
  induction events generalizing pledge d with
  | nil => exact ⟨1, rfl⟩
  | cons event rest ih =>
    rw [List.forall_mem_cons] at quiet
    obtain ⟨-, goes | ⟨code, ended⟩⟩ := x.take_other quiet.1 pledge d
    · rw [follow_of_none goes]
      exact ih quiet.2
    · rw [follow_of_ending ended]
      exact ⟨code, rfl⟩

theorem goes_on_iff (out : x.arguments.out = none) :
    (x.take event ⟨true, false⟩ d).ending = none ↔ event.isDecisive = false := by
  cases event <;> simp [take, receive, out, Turnout.ofPledge, Pledge.isMet, Event.isDecisive]

theorem takes_message_iff (out : x.arguments.out = none) :
    (∃ message, .received message ∈ events.take (asked (x.follow wait ⟨true, false⟩ d events).1)) ↔
      ∃ message, events.find? Event.isDecisive = some (.received message) := by
  induction events generalizing d with
  | nil => simp
  | cons event rest ih =>
    cases decisive : event.isDecisive with
    | true =>
      have ended : (x.take event ⟨true, false⟩ d).ending ≠ none := by simp [goes_on_iff out, decisive]
      obtain ⟨ending, ended⟩ := Option.ne_none_iff_exists'.mp ended
      rw [asked_follow_of_ending ended, List.find?_cons_of_pos decisive]
      simp [eq_comm]
    | false =>
      have goes := (goes_on_iff (d := d) out).mpr decisive
      have left : (x.take event ⟨true, false⟩ d).pledge = ⟨true, false⟩ := by
        rw [(goes_on_of_none goes).2.1]
        cases event <;> first | rfl | cases decisive
      have other (message : Bytes) : .received message ≠ event := by
        rintro rfl
        cases decisive
      rw [asked_follow_of_none goes, left, List.take_succ_cons, List.find?_cons_of_neg (by simp [decisive]),
        ← ih (d := (x.take event ⟨true, false⟩ d).directory)]
      simp [other]

end Exchange

/-! ## Messages that were not asked for -/

theorem exchange_of_unstarted {a : Arguments} {host : Host}
    (unstarted : ∀ payload wait, readPayload a host.directory = .ok payload → a.wait ≠ some wait) :
    exchange a host = exchange a host.quiet ∧ asked (exchange a host).1 = 0 := by
  unfold exchange
  rw [Host.quiet]
  cases read : readPayload a host.directory with
  | error error => exact ⟨rfl, rfl⟩
  | ok payload =>
    have waits : a.wait = none := Option.eq_none_iff_forall_ne_some.mpr fun wait => unstarted payload wait read
    simp only [Exchange.run, waits]
    exact ⟨trivial, rfl⟩

/-- What messages mean to a run that is to receive no file. It is the same run as without the messages
exactly if it takes none of them. When it takes one it fails there, with the session closed and its files
untouched, having sent no other payloads than the run without the messages, which ends with a status. A run
with a payload takes a message exactly if one comes before the payload has been sent and before a final
event. -/
theorem unasked_messages {a : Arguments} {host : Host} (out : a.out = none) :
    let (deeds, ending, final) := exchange a host
    let taken := host.events.take (asked deeds)
    (exchange a host = exchange a host.quiet ↔ ∀ event ∈ taken, event.received? = none) ∧
      ((∃ message, .received message ∈ taken) → ending = .failed .noValue ∧ final = host.directory ∧
        sends deeds <+: sends (exchange a host.quiet).1 ∧
        (∃ code, (exchange a host.quiet).2.1 = .status code) ∧
        ∃ before, deeds = before ++ [.closed, .joined a.patience] ∧ Stays before) ∧
      ∀ payload wait, Loads a host.directory (some payload) → a.wait = some wait →
        ((∃ message, .received message ∈ taken) ↔
          ∃ message, host.events.find? Event.isDecisive = some (.received message)) := by
  by_cases started : ∃ payload wait, readPayload a host.directory = .ok payload ∧ a.wait = some wait
  · obtain ⟨payload, wait, read, waits⟩ := started
    let x : Exchange := ⟨a, payload⟩
    have ran : exchange a host = ((x.follow wait x.pledge host.directory host.events).1 ++
        [.closed, .joined a.patience], (x.follow wait x.pledge host.directory host.events).2) :=
      exchange_eq read waits
    have quiet : exchange a host.quiet = ((x.follow wait x.pledge host.directory host.quiet.events).1 ++
        [.closed, .joined a.patience], (x.follow wait x.pledge host.directory host.quiet.events).2) :=
      exchange_eq read waits
    have stays := x.stays_follow wait x.pledge host.directory host.events
    have compares := Exchange.compares (x := x) out wait x.pledge host.directory host.events
    have status : ∃ code, (x.follow wait x.pledge host.directory host.quiet.events).2.1 = .status code := by
      refine Exchange.status_of_quiet fun event member => ?_
      simpa using (List.mem_filter.mp member).2
    rw [ran, quiet]
    dsimp only
    rw [asked_parting]
    refine ⟨?_, fun found => ?_, fun content timeout loads _ => ?_⟩
    · rw [← compares.eq_iff status]
      simp [Prod.ext_iff, Host.quiet]
    · obtain ⟨failed, sent⟩ := compares.failed found
      refine ⟨congrArg Prod.fst failed, congrArg Prod.snd failed, ?_, status, _, rfl, stays⟩
      rw [sends_parting, sends_parting]
      exact sent
    · obtain rfl : payload = some content := by simpa [loads.read] using read.symm
      have pledge : x.pledge = ⟨true, false⟩ := by simp [x, Exchange.pledge, out]
      rw [pledge]
      exact Exchange.takes_message_iff out
  · have unstarted : ∀ payload wait, readPayload a host.directory = .ok payload → a.wait ≠ some wait :=
      fun payload wait read waits => started ⟨payload, wait, read, waits⟩
    obtain ⟨same, none⟩ := exchange_of_unstarted unstarted
    dsimp only
    rw [none, List.take_zero]
    refine ⟨by simpa using same, by simp, fun payload wait loads waits => ?_⟩
    exact absurd waits (unstarted _ _ loads.read)

/-- A listener that is only to send a file. -/
def sending : Arguments := { Arguments.default with send := some "mine" }

/-- A message comes before the payload has been sent. -/
def disturbed : Host :=
  ⟨none, [.established "10.0.0.9", .received [97], .sent (.text "mine")], ⟨.nothing, [("mine", [98])], []⟩⟩

theorem unasked_messages_disturbed :
    (exchange sending disturbed).2.1 = .failed .noValue ∧
      sends (exchange sending disturbed).1 <+: sends (exchange sending disturbed.quiet).1 := by
  have loads : Loads sending disturbed.directory (some [98]) := .file rfl (by decide) rfl
  obtain ⟨-, fails, takes⟩ := @unasked_messages sending disturbed rfl
  obtain ⟨failed, -, sent, -⟩ := fails ((takes [98] _ loads rfl).mpr ⟨[97], rfl⟩)
  exact ⟨failed, sent⟩

/-- A message that was not asked for makes a run fail that ends well without it. -/
theorem message_fails_run :
    (exchange sending disturbed).2.1 = .failed .noValue ∧
      (exchange sending disturbed.quiet).2.1 = .status 0 := ⟨rfl, rfl⟩

/-! ## Nothing to send or to receive -/

theorem Exchange.ends_idle {x : Exchange} (out : x.arguments.out = none) (event : Event) (d : Directory) :
    ∃ ending, (x.take event ⟨false, false⟩ d).ending = some ending ∧
      (ending = .status 0 ↔
        event.kind ≠ .received ∧ event.kind ≠ .connectFailed ∧ event.kind ≠ .listenFailed) ∧
      (ending = .status 1 ↔ event.kind = .connectFailed ∨ event.kind = .listenFailed) := by
  cases event <;> simp [take, receive, out, Turnout.ofPledge, Pledge.isMet, Event.kind]

/-- A run that is neither to send nor to receive a file takes no more than one event. Its status is 0 if
that event is neither a message nor a failure, and 1 if it is a failure or does not come; so it has met
its peer when it ends well exactly if that is the first thing that the session reports. -/
theorem idle_run_ends {a : Arguments} {host : Host} (send : a.send.filter (· ≠ "") = none) (out : a.out = none) :
    let (deeds, ending, _) := exchange a host
    asked deeds ≤ 1 ∧
      (ending = .status 0 ↔ a.wait.isSome = true ∧ ∃ event, host.events.head? = some event ∧
        event.kind ≠ .received ∧ event.kind ≠ .connectFailed ∧ event.kind ≠ .listenFailed) ∧
      (ending = .status 1 ↔ a.wait.isSome = true ∧ ∀ event, host.events.head? = some event →
        event.kind = .connectFailed ∨ event.kind = .listenFailed) ∧
      (ending = .status 0 → ((∃ peer, .established peer ∈ host.events.take (asked deeds)) ↔
        ∃ peer, host.events.head? = some (.established peer))) := by
  have read : readPayload a host.directory = .ok none := by rw [readPayload, send]
  cases waits : a.wait with
  | none =>
    have ran : exchange a host = ([.closed, .joined a.patience], .failed .noValue, host.directory) := by
      simp [exchange, read, Exchange.run, waits]
    rw [ran]
    exact ⟨Nat.zero_le 1, by simp, by simp, by simp⟩
  | some wait =>
    have pledge : (⟨a, none⟩ : Exchange).pledge = ⟨false, false⟩ := by simp [Exchange.pledge, out]
    rw [exchange_eq read waits, pledge]
    dsimp only
    rw [asked_parting]
    cases events : host.events with
    | nil => exact ⟨Nat.le_refl 1, by simp [Exchange.follow], by simp [Exchange.follow], by simp⟩
    | cons event rest =>
      obtain ⟨ending, ended, zero, one⟩ :=
        Exchange.ends_idle (x := ⟨a, none⟩) out event host.directory
      rw [Exchange.asked_follow_of_ending ended, Exchange.follow_of_ending ended]
      refine ⟨Nat.le_refl 1, by simpa using zero, by simpa using one, fun _ => ?_⟩
      simp [eq_comm]

/-- A listener whose peer comes after its bundle has been shown. -/
def announced : Host := ⟨none, [.listening "pgp+transfer://", .established "10.0.0.9"], ⟨.nothing, [], []⟩⟩

theorem idle_run_ends_announced :
    (exchange Arguments.default announced).2.1 = .status 0 ∧
      asked (exchange Arguments.default announced).1 ≤ 1 := by
  obtain ⟨short, zero, -⟩ := @idle_run_ends Arguments.default announced rfl rfl
  exact ⟨zero.mpr ⟨rfl, _, rfl, by decide, by decide, by decide⟩, short⟩

/-- A listener that has only shown its bundle does not wait for its peer. -/
theorem listener_leaves_early :
    let (deeds, ending, _) := exchange Arguments.default announced
    ending = .status 0 ∧ ∀ peer, .established peer ∉ announced.events.take (asked deeds) := by
  refine ⟨rfl, fun peer taken => ?_⟩
  have first : .established peer ∈ announced.events.take 1 := taken
  simp [announced] at first

end CommandLine

end Handover
