import Handover.Proofs.CommandLine.Outcome
import Handover.Proofs.CommandLine.Overwriting

/-! What a run leaves in the file for what it receives. Each message that it takes is written over the one
before it, so the last one is kept. The run takes another event after a message only as long as its own
payload has not been sent, so without a payload the last message is the first. -/

set_option autoImplicit false

namespace Handover.CommandLine.Exchange

variable {x : Exchange} {event : Event} {pledge : Pledge} {d : Directory}

/-! ## One event -/

/-- Messages written one after the other to the file for them. -/
inductive Leaves (x : Exchange) : Directory → List Bytes → Directory → Prop where
  | nothing {d : Directory} : Leaves x d [] d
  | cons {d written final : Directory} {name : String} {message : Bytes} {rest : List Bytes} :
      x.arguments.out = some (some name) → d.write name message = .ok written →
      Leaves x written rest final → Leaves x d (message :: rest) final

theorem leaves_take (unfailed : ∀ failure, (x.take event pledge d).ending ≠ some (.failed failure)) :
    Leaves x d event.received?.toList (x.take event pledge d).directory := by
  cases event with
  | received message =>
    rw [take, receive] at unfailed ⊢
    split at unfailed
    · exact absurd rfl (unfailed _)
    · next name out =>
      split at unfailed
      · exact absurd rfl (unfailed _)
      · next written done =>
        exact .cons (Option.join_eq_some_iff.mp out) done .nothing
  | _ => exact .nothing

/-! ## All events -/

variable {wait : Timeout} {rest events : List Event}

theorem Leaves.append {written final : Directory} {first more : List Bytes} (early : Leaves x d first written)
    (late : Leaves x written more final) : Leaves x d (first ++ more) final := by
  induction early with
  | nothing => exact late
  | cons out done _ ih => exact .cons out done (ih late)

theorem leaves_follow {code : Nat} (returned : (x.follow wait pledge d events).2.1 = .status code) :
    Leaves x d ((events.take (asked (x.follow wait pledge d events).1)).filterMap Event.received?)
      (x.follow wait pledge d events).2.2 := by
  induction events generalizing pledge d with
  | nil => exact .nothing
  | cons event rest ih =>
    cases ended : (x.take event pledge d).ending with
    | some ending =>
      rw [follow_of_ending ended] at returned
      obtain rfl : ending = .status code := returned
      have left : Leaves x d event.received?.toList (x.take event pledge d).directory :=
        leaves_take (by simp [ended])
      rw [asked_follow_of_ending ended, follow_of_ending ended]
      cases event <;> exact left
    | none =>
      have left : Leaves x d event.received?.toList (x.take event pledge d).directory :=
        leaves_take (by simp [ended])
      rw [follow_of_none ended] at returned
      rw [asked_follow_of_none ended, follow_of_none ended, List.take_succ_cons, List.filterMap_cons]
      have more := left.append (ih returned)
      cases event <;> exact more

theorem Leaves.unchanged {final : Directory} (left : Leaves x d [] final) : final = d := by
  cases left
  rfl

theorem Leaves.last {messages : List Bytes} {final : Directory} {last : Bytes} (left : Leaves x d messages final)
    (ends : messages.getLast? = some last) :
    ∃ name, x.arguments.out = some (some name) ∧ d.write name last = .ok final := by
  induction left with
  | nothing => cases ends
  | cons out done later ih =>
    cases later with
    | nothing =>
      obtain rfl := Option.some.inj ends
      exact ⟨_, out, done⟩
    | cons =>
      obtain ⟨name, same, written⟩ := ih (by simpa using ends)
      obtain rfl := Option.some.inj (Option.some.inj (same.symm.trans out))
      exact ⟨name, same, (Directory.write_after_write done).symm.trans written⟩

/-- A run that has taken a message takes another event only as long as its payload has not been sent. -/
theorem unsent_of_received {n : Nat} {message : Bytes} (undone : pledge.Undone (events.take n))
    (taken : .received message ∈ events.take n) :
    pledge.sendDue = true ∧ ∀ token, .sent token ∉ events.take n := by
  have receive : ((events.take n).foldl Pledge.after pledge).receiveDue = false :=
    (receiveDue_foldl _ _).mpr (.inr ⟨message, taken⟩)
  have send : ((events.take n).foldl Pledge.after pledge).sendDue ≠ false := by
    intro sent
    simpa [Pledge.isMet, sent, receive] using undone.2
  rw [Ne, sendDue_foldl, not_or, not_exists] at send
  exact ⟨by simpa using send.1, send.2⟩

/-- A run that has nothing more to send takes no more than one message. -/
theorem single_of_sent (sent : pledge.sendDue = false) :
    ((events.take (asked (x.follow wait pledge d events).1)).filterMap Event.received?).length ≤ 1 := by
  induction events generalizing pledge d with
  | nil => simp
  | cons event rest ih =>
    cases ended : (x.take event pledge d).ending with
    | some ending =>
      rw [asked_follow_of_ending ended]
      exact List.length_filterMap_le _ [event]
    | none =>
      obtain ⟨-, left, undone⟩ := goes_on_of_none ended
      have later : (x.take event pledge d).pledge.sendDue = false := by
        rw [left]
        cases event <;> simp [Pledge.after, sent]
      rw [asked_follow_of_none ended, List.take_succ_cons, List.filterMap_cons]
      cases event with
      | received message => simp [Pledge.after, Pledge.isMet, sent] at undone
      | _ => exact ih later

end Exchange

theorem exchange_of_status {a : Arguments} {host : Host} {code : Nat}
    (returned : (exchange a host).2.1 = .status code) :
    ∃ payload wait, readPayload a host.directory = .ok payload ∧ a.wait = some wait := by
  unfold exchange at returned
  split at returned
  · cases returned
  · next payload read =>
    cases waits : a.wait with
    | none => simp [Exchange.run, waits] at returned
    | some wait => exact ⟨payload, wait, read, rfl⟩

/-- What a run has left in its file when it returns: nothing of its own if it has taken no message, and
otherwise the last message that it has taken, as if it had taken no other. The first message is kept unless
another one comes before the payload has been sent; without a payload no other one is taken. -/
theorem file_keeps_last {a : Arguments} {host : Host} {target : Option String} {code : Nat}
    (out : a.out = some target) (returned : (exchange a host).2.1 = .status code) :
    let (deeds, _, final) := exchange a host
    let messages := (host.events.take (asked deeds)).filterMap Event.received?
    (messages = [] → final = host.directory) ∧
      (∀ last, messages.getLast? = some last → ∃ name, target = some name ∧
        host.directory.write name last = .ok final ∧
        (host.directory.Inside name → final.read name = .ok last)) ∧
      (∀ n < asked deeds, ∀ message, .received message ∈ host.events.take n →
        (∃ payload, readPayload a host.directory = .ok (some payload)) ∧
          ∀ token, .sent token ∉ host.events.take n) ∧
      (readPayload a host.directory = .ok none → messages.length ≤ 1) := by
  obtain ⟨payload, wait, read, waits⟩ := exchange_of_status returned
  let x : Exchange := ⟨a, payload⟩
  rw [exchange_eq read waits] at returned ⊢
  have undone : x.pledge.isMet = false := by simp [x, Exchange.pledge, Pledge.isMet, out]
  have left := Exchange.leaves_follow returned
  dsimp only
  rw [asked_parting]
  refine ⟨fun none => ?_, fun last ends => ?_, fun n early message taken => ?_, fun nothing => ?_⟩
  · rw [none] at left
    exact left.unchanged
  · obtain ⟨name, same, written⟩ := left.last ends
    exact ⟨name, Option.some.inj (out.symm.trans same), written, Directory.read_after_write written⟩
  · obtain ⟨send, unsent⟩ := Exchange.unsent_of_received (Exchange.undone_follow undone n early) taken
    obtain ⟨content, rfl⟩ := Option.isSome_iff_exists.mp send
    exact ⟨⟨content, read⟩, unsent⟩
  · obtain rfl : payload = none := by simpa [read] using nothing
    exact Exchange.single_of_sent rfl

/-- Two messages come before the payload has been sent. -/
def crossed : Host :=
  ⟨none, [.established "10.0.0.9", .received [97], .received [98], .sent (.text "mine")],
    ⟨.nothing, [("mine", [99])], []⟩⟩

theorem file_keeps_last_crossed :
    (exchange trading crossed).2.1 = .status 0 ∧ (exchange trading crossed).2.2.read "yours" = .ok [98] := by
  have returned : (exchange trading crossed).2.1 = .status 0 := rfl
  have inside : crossed.directory.Inside "yours" := ⟨["yours"], ["yours"], rfl, rfl⟩
  obtain ⟨-, kept, -⟩ := file_keeps_last (a := trading) rfl returned
  obtain ⟨name, same, -, read⟩ := kept [98] rfl
  obtain rfl := Option.some.inj same
  exact ⟨returned, read inside⟩

/-- The message that came first is lost. -/
theorem first_message_lost :
    let (deeds, ending, final) := exchange trading crossed
    ending = .status 0 ∧
      ((crossed.events.take (asked deeds)).filterMap Event.received?).head? = some [97] ∧
      final.read "yours" ≠ .ok [97] := by
  have read : (exchange trading crossed).2.2.read "yours" = .ok [98] := rfl
  refine ⟨rfl, rfl, fun first => ?_⟩
  cases read.symm.trans first

end Handover.CommandLine
