import Handover.Proofs.Interactor.Single
import Handover.Proofs.Rehearsal.Observers

/-! Calls that an interactor refuses. A session that is active is found first, then a bundle or secret that is
none, and last what the provider of transport security objects to; nothing is prepared before that. Whatever
the reason, all sessions are as they were and so is which of them is the current one, and there is no worker
more. -/

set_option autoImplicit false

namespace Handover

namespace Session

def OpeningStep.prepares : OpeningStep → Bool
  | .deliveryThread | .security _ => true
  | .note _ | .workerThread _ => false

variable {plan : Plan}

theorem Plan.securitySteps_of_provider {provider : Transport.Provider} (given : plan.provider = some provider)
    {error : OpeningError} :
    plan.securitySteps.2 = .error error ↔
      ∃ objection, provider.prepare.2 = .error objection ∧ error = .security objection := by
  unfold securitySteps
  rw [given]
  dsimp only
  cases provider.prepare.2 with
  | ok => simp
  | error objection => simp [eq_comm]

theorem Plan.prepares_of_securitySteps {error : OpeningError} (failed : plan.securitySteps.2 = .error error) :
    ∀ step ∈ plan.securitySteps.1, step.prepares = true := by
  unfold securitySteps at failed ⊢
  cases given : plan.provider with
  | none => simp
  | some provider =>
    rw [given] at failed
    dsimp only at failed ⊢
    cases prepared : provider.prepare.2 with
    | ok => simp [prepared] at failed
    | error objection =>
      dsimp only
      intro step member
      obtain ⟨call, -, rfl⟩ := List.mem_map.mp member
      rfl

/-- A plan that fails has prepared something at most. -/
theorem Plan.prepares_of_open {error : OpeningError} (failed : plan.open.2 = .error error) :
    ∀ step ∈ plan.open.1, step.prepares = true := by
  have sink : ∀ step ∈ plan.sinkSteps, step.prepares = true := by
    unfold sinkSteps
    split <;> simp [OpeningStep.prepares]
  unfold «open» at failed ⊢
  split
  · exact sink
  · next complete =>
    rw [if_neg complete] at failed
    dsimp only at failed ⊢
    cases prepared : plan.securitySteps.2 with
    | ok => simp [prepared] at failed
    | error objection =>
      dsimp only
      intro step member
      obtain early | late := List.mem_append.mp member
      · exact sink step early
      · exact prepares_of_securitySteps prepared step late

theorem Plan.open_eq_error_iff (complete : ¬ (plan.role = .connector ∧ plan.endpoint = none))
    {provider : Transport.Provider} (given : plan.provider = some provider) {error : OpeningError} :
    plan.open.2 = .error error ↔
      ∃ objection, provider.prepare.2 = .error objection ∧ error = .security objection := by
  rw [← securitySteps_of_provider given, «open», if_neg complete]
  dsimp only
  cases plan.securitySteps.2 <;> simp

end Session

namespace Interactor

variable {i : Interactor} {provider : Transport.Provider}

/-! ## The interactor -/

/-- What comes of a call that is to open a session, if that can be refused at once for a flaw. -/
inductive Attempts (i : Interactor) (provider : Transport.Provider) :
    Option Refusal → List Session.OpeningStep × Except Refusal Interactor → Prop where
  | active {flaw : Option Refusal} : i.isIdle = false → Attempts i provider flaw ([], .error .active)
  | flawed {refusal : Refusal} : i.isIdle = true → Attempts i provider (some refusal) ([], .error refusal)
  | failed {steps : List Session.OpeningStep} {objection : Transport.SetupError} : i.isIdle = true →
      provider.prepare.2 = .error objection → (∀ step ∈ steps, step.prepares = true) →
      Attempts i provider none (steps, .error (.opening (.security objection)))
  | opened {steps : List Session.OpeningStep} {after : Interactor} : i.isIdle = true →
      provider.prepare.2 = .ok () → Attempts i provider none (steps, .ok after)

theorem attempts_adopt (idle : i.isIdle = true) {plan : Session.Plan}
    (complete : ¬ (plan.role = .connector ∧ plan.endpoint = none)) (given : plan.provider = some provider) :
    Attempts i provider none (i.adopt plan) := by
  have failed (error : Session.OpeningError) := @Session.Plan.open_eq_error_iff plan complete provider given error
  unfold adopt
  dsimp only
  cases opened : plan.open.2 with
  | error error =>
    obtain ⟨objection, objected, rfl⟩ := (failed _).mp opened
    exact .failed idle objected (Session.Plan.prepares_of_open opened)
  | ok session =>
    refine .opened idle ?_
    cases prepared : provider.prepare.2 with
    | error objection => cases opened.symm.trans ((failed _).mpr ⟨objection, prepared, rfl⟩)
    | ok => rfl

def secretFlaw (random : Bytes) : Option Refusal :=
  match Secret.ofBytes random with
  | .error flaw => some (.secret flaw)
  | .ok _ => none

def bundleFlaw (bundle scheme : String) : Option Refusal :=
  match Bundle.read bundle scheme with
  | .error flaw => some (.bundle flaw)
  | .ok _ => none

theorem secretFlaw_eq_some {random : Bytes} {refusal : Refusal} (flawed : secretFlaw random = some refusal) :
    ∃ flaw, refusal = .secret flaw := by
  unfold secretFlaw at flawed
  split at flawed
  · exact ⟨_, (Option.some.inj flawed).symm⟩
  · cases flawed

theorem bundleFlaw_eq_some {bundle scheme : String} {refusal : Refusal}
    (flawed : bundleFlaw bundle scheme = some refusal) : ∃ flaw, refusal = .bundle flaw := by
  unfold bundleFlaw at flawed
  split at flawed
  · exact ⟨_, (Option.some.inj flawed).symm⟩
  · cases flawed

theorem attempts_listen (i : Interactor) (random : Bytes) (ownThread : Bool)
    (provider : Transport.Provider) :
    Attempts i provider (secretFlaw random) (i.listen random ownThread provider) := by
  unfold listen secretFlaw
  cases idle : i.isIdle with
  | false => exact .active idle
  | true =>
    rw [if_pos rfl]
    cases Secret.ofBytes random with
    | error flaw => exact .flawed idle
    | ok secret => exact attempts_adopt idle (by simp [Session.Plan.listener]) rfl

theorem attempts_connect (i : Interactor) (bundle : String) (ownThread : Bool)
    (provider : Transport.Provider) :
    Attempts i provider (bundleFlaw bundle i.settings.scheme) (i.connect bundle ownThread provider) := by
  unfold connect bundleFlaw
  cases idle : i.isIdle with
  | false => exact .active idle
  | true =>
    rw [if_pos rfl]
    cases Bundle.read bundle i.settings.scheme with
    | error flaw => exact .flawed idle
    | ok endpoint => exact attempts_adopt idle (by simp [Session.Plan.connector]) rfl

end Interactor

namespace Rehearsal

/-! ## The stage -/

def Operation.opens : Operation → Bool
  | .listen | .connect _ => true
  | _ => false

namespace Stage

def flaw? (w : Stage) : Operation → Option Interactor.Refusal
  | .listen => Interactor.secretFlaw w.takeRandom.1
  | .connect bundle => Interactor.bundleFlaw bundle w.interactor.settings.scheme
  | _ => none

/-- A stage on which a session has been prepared at most: everything is as it was, but for a random value
that was drawn and the entries of the preparation. -/
structure Prepared (w v : Stage) : Prop where
  kept : v = { w with random := v.random, record := v.record }
  random : v.random = w.random ∨ v.random = w.random.tail
  record : ∃ entries, v.record = entries ++ w.record ∧
    ∀ entry ∈ entries, entry = .deliveryThread ∨ ∃ call, entry = .security call

theorem enterAll_eq (w : Stage) (entries : List Entry) :
    w.enterAll entries = { w with record := entries.reverse ++ w.record } := by
  induction entries generalizing w with
  | nil => rfl
  | cons first rest ih =>
    show (w.enter first).enterAll rest = _
    rw [ih]
    simp [enter]

theorem takeRandom_snd (w : Stage) : w.takeRandom.2 = { w with random := w.random.tail } := by
  unfold takeRandom
  split
  · next empty =>
    rw [empty, List.tail_nil, ← empty]
  · next first rest drawn =>
    rw [drawn, List.tail_cons]

theorem Prepared.of_draw (w : Stage) : Prepared w w.takeRandom.2 := by
  rw [takeRandom_snd]
  exact ⟨rfl, .inr rfl, [], rfl, List.forall_mem_nil _⟩

theorem Prepared.refl (w : Stage) : Prepared w w := ⟨rfl, .inl rfl, [], rfl, List.forall_mem_nil _⟩

theorem Prepared.enterAll {w v : Stage} (prepared : Prepared w v) {steps : List Session.OpeningStep}
    (prepares : ∀ step ∈ steps, step.prepares = true) :
    Prepared w (v.enterAll (steps.map Entry.ofOpening)) := by
  obtain ⟨kept, random, entries, record, among⟩ := prepared
  rw [enterAll_eq]
  refine ⟨by rw [kept], random, (steps.map Entry.ofOpening).reverse ++ entries, by simp [record], ?_⟩
  intro entry member
  obtain fresh | earlier := List.mem_append.mp member
  · obtain ⟨step, here, rfl⟩ := List.mem_map.mp (List.mem_reverse.mp fresh)
    have plain := prepares step here
    cases step with
    | deliveryThread => exact .inl rfl
    | security call => exact .inr ⟨call, rfl⟩
    | note | workerThread => cases plain
  · exact among entry earlier

/-- A call that opens a session is an attempt of the interactor, for which a random value is drawn at most. -/
theorem carryOut_opens {w : Stage} (offers : w.offersInteractor = true) {operation : Operation}
    (opens : operation.opens = true) (fuel : Nat) (position : Option Int) :
    ∃ (drawn : Stage) (attempt : List Session.OpeningStep × Except Interactor.Refusal Interactor),
      w.interactor.Attempts w.provider (w.flaw? operation) attempt ∧ Prepared w drawn ∧
      drawn.record = w.record ∧
      Stage.carryOut (fuel + 2) position operation w = adopt attempt.1 attempt.2 drawn := by
  cases operation with
  | listen =>
    cases idle : w.interactor.isIdle with
    | true =>
      refine ⟨w.takeRandom.2, _, w.interactor.attempts_listen w.takeRandom.1 w.context.opensThreads w.provider,
        .of_draw w, by rw [takeRandom_snd], ?_⟩
      rw [Stage.carryOut, if_pos offers, Stage.actOnInteractor, if_pos idle]
      dsimp only
      rw [takeRandom_snd]
    | false =>
      -- No random value is drawn for a call that is refused at once.
      refine ⟨w, ([], .error .active), .active idle, .refl w, rfl, ?_⟩
      have busy : w.interactor.listen [] w.context.opensThreads w.provider = ([], .error .active) :=
        if_neg (by simp [idle])
      rw [Stage.carryOut, if_pos offers, Stage.actOnInteractor, if_neg (by simp [idle])]
      dsimp only
      rw [busy]
  | connect bundle =>
    refine ⟨w, _, w.interactor.attempts_connect bundle w.context.opensThreads w.provider, .refl w, rfl, ?_⟩
    rw [Stage.carryOut, if_pos offers, Stage.actOnInteractor]
  | _ => cases opens

/-- A flaw is one of the bundle or of the secret, so it is told apart from an active session and from what the
provider objects to. -/
theorem flaw?_eq_some {w : Stage} {operation : Operation} {refusal : Interactor.Refusal}
    (flawed : w.flaw? operation = some refusal) :
    (∃ flaw, refusal = .bundle flaw) ∨ ∃ flaw, refusal = .secret flaw := by
  cases operation with
  | listen => exact .inr (Interactor.secretFlaw_eq_some flawed)
  | connect bundle => exact .inl (Interactor.bundleFlaw_eq_some flawed)
  | _ => cases flawed

/-- A call that is to open a session is refused because one is active, whatever else is wrong; because of what
is wrong with its bundle or secret, whatever the provider would object to; or because of the provider. Before
that nothing is prepared, and after a refusal all sessions are as they were, and so is all the rest. -/
theorem refusal_leaves_stage {w : Stage} (offers : w.offersInteractor = true) {operation : Operation}
    (opens : operation.opens = true) (fuel : Nat) (position : Option Int) :
    let outcome := Stage.carryOut (fuel + 2) position operation w
    (∀ refusal, outcome.1 = .refused refusal → Prepared w outcome.2) ∧
      (outcome.1 = .refused .active ↔ w.interactor.isIdle = false) ∧
      (∀ refusal, w.flaw? operation = some refusal →
        (outcome.1 = .refused refusal ↔ w.interactor.isIdle = true)) ∧
      (∀ error, outcome.1 = .refused (.opening error) ↔
        w.interactor.isIdle = true ∧ w.flaw? operation = none ∧
          ∃ objection, w.provider.prepare.2 = .error objection ∧ error = .security objection) ∧
      (outcome.1 = .truth true ↔
        w.interactor.isIdle = true ∧ w.flaw? operation = none ∧ w.provider.prepare.2 = .ok ()) ∧
      (w.interactor.isIdle = false ∨ (w.flaw? operation).isSome = true → outcome.2.record = w.record) := by
  intro outcome
  obtain ⟨drawn, attempt, attempts, prepared, same, carried⟩ := carryOut_opens offers opens fuel position
  rw [show outcome = _ from carried]
  -- The attempt has the flaw as an index, so what is known of the flaw is set aside before it becomes a variable.
  have forms := @flaw?_eq_some w operation
  generalize w.flaw? operation = flaw at attempts forms ⊢
  cases attempts with
  | active busy =>
    refine ⟨fun _ _ => prepared, by simp [adopt, busy], fun refusal flawed => ?_, by simp [adopt, busy],
      by simp [adopt, busy], fun _ => same⟩
    obtain ⟨found, rfl⟩ | ⟨found, rfl⟩ := forms flawed <;> simp [adopt, busy]
  | flawed idle =>
    obtain ⟨found, rfl⟩ | ⟨found, rfl⟩ := forms rfl <;>
      exact ⟨fun _ _ => prepared, by simp [adopt, idle], by simp [adopt, idle], by simp [adopt],
        by simp [adopt], fun _ => same⟩
  | failed idle objected prepares =>
    exact ⟨fun _ _ => prepared.enterAll prepares, by simp [adopt, idle], nofun,
      by simp [adopt, idle, objected, eq_comm], by simp [adopt, objected], by simp [idle]⟩
  | opened idle ready =>
    exact ⟨nofun, by simp [adopt, idle], nofun, by simp [adopt, ready], by simp [adopt, idle, ready],
      by simp [idle]⟩

/-- A stage whose connector has been started and has something to send, where callers act on the interactor and
no shared keys are offered. -/
def busyStage (moves : List Session.Move) : Stage :=
  { plainStage with
    interactor := ⟨.default, [(Session.Plan.plainConnector.session.history
      (.start :: .send ⟨[1, 2, 3], .nothing⟩ :: moves)).session], some 0⟩
    offersInteractor := true }

/-- A session that is active is found before a bundle that is none; once that session has been asked to end, a
bundle that is none is found before the provider is asked, and a good one shows that no keys are offered. -/
theorem refusal_leaves_stage_busy :
    (Stage.carryOut 2 none (.connect "junk") (busyStage [])).1 = .refused .active ∧
      (Stage.carryOut 2 none (.connect "junk") (busyStage [.close])).1 = .refused (.bundle (.otherScheme [])) ∧
      (Stage.carryOut 2 none (.connect "pgp+transfer://AAAAAAAAAAAAAAAAAAAAAA@10.0.0.9:1336")
        (busyStage [.close])).1 = .refused (.opening (.security .noSharedKeys)) ∧
      Prepared (busyStage [.close])
        (Stage.carryOut 2 none (.connect "pgp+transfer://AAAAAAAAAAAAAAAAAAAAAA@10.0.0.9:1336")
          (busyStage [.close])).2 := by
  have junk : (busyStage [.close]).flaw? (.connect "junk") = some (.bundle (.otherScheme [])) := by decide
  have sound : (busyStage [.close]).flaw?
      (.connect "pgp+transfer://AAAAAAAAAAAAAAAAAAAAAA@10.0.0.9:1336") = none := by decide
  have busy : (busyStage []).interactor.isIdle = false := by decide
  have idle : (busyStage [.close]).interactor.isIdle = true := by decide
  obtain ⟨-, active, -⟩ := @refusal_leaves_stage (busyStage []) rfl (.connect "junk") rfl 0 none
  obtain ⟨-, -, flawed, -⟩ := @refusal_leaves_stage (busyStage [.close]) rfl (.connect "junk") rfl 0 none
  obtain ⟨kept, -, -, opening, -⟩ := @refusal_leaves_stage (busyStage [.close]) rfl
    (.connect "pgp+transfer://AAAAAAAAAAAAAAAAAAAAAA@10.0.0.9:1336") rfl 0 none
  have refused := (opening _).mpr ⟨idle, sound, .noSharedKeys, rfl, rfl⟩
  exact ⟨active.mpr busy, (flawed _ junk).mpr idle, refused, kept _ refused⟩

end Stage

end Rehearsal

end Handover
