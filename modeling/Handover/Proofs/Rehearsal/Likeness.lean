import Handover.Proofs.Rehearsal.Observers
import Handover.Proofs.Session.Likeness

/-! What a rehearsal shows of a secret. Sessions whose secrets have one fingerprint are put on the same stage,
with the same scripts, callers and observers. Whatever is played, the two records tell the secrets apart by the
bundles that are announced and by the keys handed to transport security, and by nothing else. -/

set_option autoImplicit false

namespace Handover

theorem forall₂_getElem? {α β : Type} {r : α → β → Prop} {as : List α} {bs : List β}
    (alike : List.Forall₂ r as bs) (position : Nat) : Option.Rel r as[position]? bs[position]? := by
  induction alike generalizing position with
  | nil => exact .none
  | cons first _ ih =>
    cases position with
    | zero => exact .some first
    | succ position => simpa using ih position

theorem forall₂_modify {α β : Type} {r : α → β → Prop} {as : List α} {bs : List β} {a : α} {b : β}
    (alike : List.Forall₂ r as bs) (same : r a b) (position : Nat) :
    List.Forall₂ r (as.modify position fun _ => a) (bs.modify position fun _ => b) := by
  induction alike generalizing position with
  | nil => cases position <;> exact .nil
  | cons first rest ih =>
    cases position with
    | zero => exact .cons same rest
    | succ position => exact .cons first (ih position)

/-- What takes the same value on related things does so where they may be missing. -/
theorem congr_of_rel {α β : Type} {r : α → α → Prop} {a b : Option α} (related : Option.Rel r a b)
    (f : Option α → β) (blind : ∀ {x y}, r x y → f (some y) = f (some x)) : f b = f a := by
  cases related with
  | none => rfl
  | some related => exact blind related

/-- The same failure, or successes that are related. -/
inductive SameOutcome {ε α β : Type} (r : α → β → Prop) : Except ε α → Except ε β → Prop where
  | error (e : ε) : SameOutcome r (.error e) (.error e)
  | ok {a : α} {b : β} : r a b → SameOutcome r (.ok a) (.ok b)

namespace Interactor

inductive Alike (one other : Secret) (i : Interactor) : Interactor → Prop where
  | recast {sessions : List Session} : List.Forall₂ (Session.Alike one other) i.sessions sessions →
      Alike one other i { i with sessions := sessions }

variable {one other : Secret} {i j : Interactor}

theorem Alike.isIdle (alike : i.Alike one other j) : j.isIdle = i.isIdle := by
  cases alike with
  | @recast sessions alike =>
    show (!(i.current.bind (sessions[·]?)).any isActive) = !(i.current.bind (i.sessions[·]?)).any isActive
    cases i.current with
    | none => rfl
    | some position =>
      refine congr_of_rel (forall₂_getElem? alike position) (fun found => !found.any isActive) ?_
      intro s u alike
      simp only [Option.any_some, isActive, alike.isAlive, alike.stopping]

structure OpensAlike (one other : Secret)
    (a b : List Session.OpeningStep × Except Refusal Interactor) : Prop where
  steps : b.1 = a.1
  outcome : SameOutcome (Alike one other) a.2 b.2

namespace Alike

variable (alike : i.Alike one other j)
include alike

theorem adopt (plan : Session.Plan) : OpensAlike one other (i.adopt plan) (j.adopt plan) := by
  unfold Interactor.adopt
  generalize plan.open = opened
  obtain ⟨steps, outcome⟩ := opened
  cases outcome with
  | error error => exact ⟨rfl, .error _⟩
  | ok session =>
    cases alike with
    | recast sessions =>
      refine ⟨rfl, .ok ?_⟩
      dsimp only
      rw [← sessions.length_eq]
      exact .recast (i := { i with current := some i.sessions.length, sessions := i.sessions ++ [_] })
        (List.rel_append sessions (.cons (.refl _) .nil))

theorem settings : j.settings = i.settings := by
  cases alike
  rfl

theorem listen (random : Bytes) (ownThread : Bool) (provider : Transport.Provider) :
    OpensAlike one other (i.listen random ownThread provider) (j.listen random ownThread provider) := by
  unfold Interactor.listen
  rw [alike.isIdle, alike.settings]
  split
  · split
    · exact ⟨rfl, .error _⟩
    · exact alike.adopt _
  · exact ⟨rfl, .error _⟩

theorem connect (bundle : String) (ownThread : Bool) (provider : Transport.Provider) :
    OpensAlike one other (i.connect bundle ownThread provider) (j.connect bundle ownThread provider) := by
  unfold Interactor.connect
  rw [alike.isIdle, alike.settings]
  split
  · split
    · exact ⟨rfl, .error _⟩
    · exact alike.adopt _
  · exact ⟨rfl, .error _⟩

theorem target : j.target = i.target := by
  cases alike
  rfl

theorem current : j.current = i.current := by
  cases alike
  rfl

theorem forget : i.forget.Alike one other j.forget := by
  cases alike with
  | recast sessions => exact .recast (i := i.forget) sessions

end Alike

end Interactor

namespace Rehearsal

theorem Snapshot.of_alike {one other : Secret} {s u : Session} (same : one.fingerprint = other.fingerprint)
    (alike : s.Alike one other u) : Snapshot.of u = Snapshot.of s := by
  have alive := alike.isAlive
  cases alike with
  | @recast k e p secret =>
    have fingerprint : (s.recast k e p).secret.fingerprint = s.secret.fingerprint :=
      Session.fingerprint_alike same secret
    rw [Snapshot.of, alive, fingerprint]
    rfl

/-- Entries that are the same but for the secrets in bundles and keys. -/
inductive Entry.Alike (one other : Secret) : Entry → Entry → Prop where
  | same (entry : Entry) : Alike one other entry entry
  | event {a b : Event} : a.Alike one other b → Alike one other (.event a) (.event b)
  | serverKey : Alike one other (.serverKey one.value) (.serverKey other.value)
  | clientKey (identity : Option String) :
      Alike one other (.clientKey identity one.value) (.clientKey identity other.value)

theorem handshake_alike {one other : Secret} {s u : Session} (alike : s.Alike one other u) (secured : Bool)
    (role : Role) (identity : Option String) : List.Forall₂ (Entry.Alike one other)
      (handshakeEntries secured role s.secret identity s.settings.handshakeTimeout)
      (handshakeEntries secured role u.secret identity u.settings.handshakeTimeout) := by
  cases alike with
  | @recast k e p secret =>
    show List.Forall₂ _ (handshakeEntries secured role s.secret identity s.settings.handshakeTimeout)
      (handshakeEntries secured role k identity s.settings.handshakeTimeout)
    obtain rfl | ⟨rfl, rfl⟩ := secret
    · exact List.forall₂_same.mpr fun entry _ => .same entry
    · cases secured with
      | false => exact .cons (.same _) .nil
      | true =>
        cases role with
        | listener => exact .cons (.same _) (.cons (.same _) (.cons .serverKey .nil))
        | connector => exact .cons (.same _) (.cons (.same _) (.cons (.clientKey none) .nil))

namespace Stage

def recast (w : Stage) (sessions : List Session) (queue : List (Owner × Event)) (record : List Entry) :
    Stage :=
  { w with interactor := { w.interactor with sessions := sessions }, queue := queue, record := record }

/-- A stage, and the stages that are the same but for secrets. -/
inductive Alike (one other : Secret) (w : Stage) : Stage → Prop where
  | recast {sessions : List Session} {queue : List (Owner × Event)} {record : List Entry} :
      List.Forall₂ (Session.Alike one other) w.interactor.sessions sessions →
      List.Forall₂ (fun a b => b.1 = a.1 ∧ a.2.Alike one other b.2) w.queue queue →
      List.Forall₂ (Entry.Alike one other) w.record record →
      Alike one other w (w.recast sessions queue record)

structure Agrees (one other : Secret) {α : Type} (a b : α × Stage) : Prop where
  result : b.1 = a.1
  stage : a.2.Alike one other b.2

variable {one other : Secret} {w v : Stage}

theorem entries_alike {as bs : List Session.Action}
    (actions : List.Forall₂ (Session.Action.Alike one other) as bs) :
    bs.filterMap actionEntry = as.filterMap actionEntry := by
  induction actions with
  | nil => rfl
  | cons first _ ih =>
    cases first with
    | same => simp only [List.filterMap_cons, ih]
    | call =>
      rw [List.filterMap_cons_none rfl, List.filterMap_cons_none rfl]
      exact ih

namespace Alike

theorem refl (w : Stage) : w.Alike one other w :=
  .recast (List.forall₂_same.mpr fun s _ => .refl s)
    (List.forall₂_same.mpr fun delivery _ => ⟨rfl, .same delivery.2⟩)
    (List.forall₂_same.mpr fun entry _ => .same entry)

variable (alike : w.Alike one other v)
include alike

theorem interactor : w.interactor.Alike one other v.interactor := by
  cases alike with
  | recast sessions => exact .recast sessions

theorem withInteractor {i j : Interactor} (interactors : i.Alike one other j) :
    Alike one other { w with interactor := i } { v with interactor := j } := by
  cases alike with
  | recast _ queue record =>
    cases interactors with
    | recast sessions => exact .recast (w := { w with interactor := i }) sessions queue record

theorem enter {a b : Entry} (entries : a.Alike one other b) : (w.enter a).Alike one other (v.enter b) := by
  cases alike with
  | recast sessions queue record => exact .recast (w := w.enter a) sessions queue (.cons entries record)

theorem enterSame (entry : Entry) : (w.enter entry).Alike one other (v.enter entry) :=
  alike.enter (.same entry)

theorem note (notice : Notice) : (w.note notice).Alike one other (v.note notice) :=
  alike.enterSame (.note notice)

theorem enterAll {as bs : List Entry} (entries : List.Forall₂ (Entry.Alike one other) as bs) :
    (w.enterAll as).Alike one other (v.enterAll bs) := by
  induction entries generalizing w v with
  | nil => exact alike
  | cons first _ ih => exact ih (alike.enter first)

theorem enterAllSame (entries : List Entry) : (w.enterAll entries).Alike one other (v.enterAll entries) :=
  alike.enterAll (List.forall₂_same.mpr fun entry _ => .same entry)

/-! ## Sessions -/

theorem session? (position : Nat) :
    Option.Rel (Session.Alike one other) (w.session? position) (v.session? position) := by
  cases alike with
  | recast sessions => exact forall₂_getElem? sessions position

theorem target? (position : Option Int) : v.target? position = w.target? position := by
  cases alike with
  | @recast others waiting entries sessions =>
    have length : others.length = w.interactor.sessions.length := sessions.length_eq.symm
    have empty : others.isEmpty = w.interactor.sessions.isEmpty := by
      rw [Bool.eq_iff_iff, List.isEmpty_iff_length_eq_zero, List.isEmpty_iff_length_eq_zero, length]
    have kept : (w.recast others waiting entries).interactor.sessions = others := rfl
    cases position with
    | none => simp only [Stage.target?, latest?, kept, empty, length]
    | some position => simp only [Stage.target?, located?, kept, length]

theorem owner? (position : Option Int) : v.owner? position = w.owner? position := by
  have sink : v.sink = w.sink := by
    cases alike
    rfl
  rw [Stage.owner?, sink, alike.target?, Stage.owner?]

theorem sinkOf (owner : Owner) : v.sinkOf owner = w.sinkOf owner := by
  cases owner with
  | alone =>
    cases alike
    rfl
  | session position =>
    exact congr_of_rel (alike.session? position) (Option.map Session.sink) fun sessions =>
      congrArg some sessions.sink

theorem attends (owner : Owner) : v.attends owner = w.attends owner := by
  rw [Stage.attends, Stage.attends, alike.sinkOf]

theorem take {position : Nat} {t u : Session.Turn} (turns : t.Alike one other u) :
    (w.take position t).Alike one other (v.take position u) := by
  unfold Stage.take
  rw [entries_alike turns.actions]
  refine enterAllSame ?_ _
  cases alike with
  | recast sessions queue record =>
    exact .recast (w := w.change position fun _ => t.session)
      (forall₂_modify sessions turns.session position) queue record

theorem move (same : one.fingerprint = other.fingerprint) (position : Nat) (m : Session.Move) :
    (w.move position m).Alike one other (v.move position m) := by
  have found := alike.session? position
  unfold Stage.move
  generalize w.session? position = here at found
  generalize v.session? position = there at found
  cases found with
  | none => exact alike
  | some sessions => exact alike.take (Session.step_alike same sessions m)

/-! ## Scripts, deliveries and sinks -/

theorem script (position : Nat) : v.script position = w.script position := by
  cases alike
  rfl

theorem setScript (position : Nat) (script : Script) :
    (w.setScript position script).Alike one other (v.setScript position script) := by
  cases alike with
  | recast sessions queue record =>
    exact .recast (w := w.setScript position script) sessions queue record

theorem push (owner : Owner) {a b : Event} (events : a.Alike one other b) :
    (w.push owner a).Alike one other (v.push owner b) := by
  cases alike with
  | recast sessions queue record =>
    exact .recast (w := w.push owner a) sessions (List.rel_append queue (.cons ⟨rfl, events⟩ .nil)) record

theorem queue : List.Forall₂ (fun a b => b.1 = a.1 ∧ a.2.Alike one other b.2) w.queue v.queue := by
  cases alike with
  | recast _ queue => exact queue

theorem withQueue {as bs : List (Owner × Event)}
    (queues : List.Forall₂ (fun a b => b.1 = a.1 ∧ a.2.Alike one other b.2) as bs) :
    Alike one other { w with queue := as } { v with queue := bs } := by
  cases alike with
  | recast sessions _ record => exact .recast (w := { w with queue := as }) sessions queues record

theorem takeReaction (kind : Event.Kind) : Agrees one other (w.takeReaction kind) (v.takeReaction kind) := by
  cases alike with
  | @recast others waiting entries sessions queue record =>
    have same : (w.recast others waiting entries).reactions = w.reactions := rfl
    unfold Stage.takeReaction
    rw [same]
    cases w.reactions.find? fun reaction => reaction.1 == kind with
    | none => exact ⟨rfl, .recast sessions queue record⟩
    | some reaction =>
      refine ⟨rfl, .recast (w := { w with reactions := _ }) sessions queue record⟩

theorem takeRandom : Agrees one other w.takeRandom v.takeRandom := by
  cases alike with
  | @recast others waiting entries sessions queue record =>
    have same : (w.recast others waiting entries).random = w.random := rfl
    unfold Stage.takeRandom
    rw [same]
    cases w.random with
    | nil => exact ⟨rfl, .recast sessions queue record⟩
    | cons first rest => exact ⟨rfl, .recast (w := { w with random := rest }) sessions queue record⟩

theorem changeSink (f : Sink → Sink) : (w.changeSink f).Alike one other (v.changeSink f) := by
  cases alike with
  | @recast others waiting entries sessions queue record =>
    have same : (w.recast others waiting entries).sink = w.sink := rfl
    have changed : Alike one other { w with sink := w.sink.map f }
        { w.recast others waiting entries with sink := w.sink.map f } :=
      .recast (w := { w with sink := w.sink.map f }) sessions queue record
    unfold Stage.changeSink
    rw [same]
    split
    · exact changed.enterSame .releaseThread
    · exact changed

theorem detach (same : one.fingerprint = other.fingerprint) (owner : Owner) :
    (w.detach owner).Alike one other (v.detach owner) := by
  cases owner with
  | alone => exact alike.changeSink Sink.detach
  | session position => exact alike.move same position .detach

theorem release (same : one.fingerprint = other.fingerprint) (owner : Owner) :
    (w.release owner).Alike one other (v.release owner) := by
  cases owner with
  | alone => exact alike.changeSink Sink.release
  | session position => exact alike.move same position .release

theorem findAddress : Agrees one other w.findAddress v.findAddress := by
  have searched := alike.enterAllSame ((w.surroundings.search .inet).2.map .search)
  have same : v.surroundings = w.surroundings := by
    cases alike
    rfl
  unfold Stage.findAddress
  rw [same]
  generalize w.surroundings.search .inet = found at searched
  obtain ⟨finding, steps⟩ := found
  cases finding with
  | nothing => exact ⟨rfl, searched.note (.noAddress .inet)⟩
  | found | failed => exact ⟨rfl, searched⟩

theorem adopt {a b : List Session.OpeningStep × Except Interactor.Refusal Interactor}
    (opens : Interactor.OpensAlike one other a b) :
    Agrees one other (Stage.adopt a.1 a.2 w) (Stage.adopt b.1 b.2 v) := by
  have opened := alike.enterAllSame (a.1.map Entry.ofOpening)
  unfold Stage.adopt
  rw [opens.steps]
  have outcome := opens.outcome
  generalize a.2 = first at outcome
  generalize b.2 = second at outcome
  cases outcome with
  | error refusal => exact ⟨rfl, opened⟩
  | ok interactors => exact ⟨rfl, opened.withInteractor interactors⟩

theorem serve (position limit : Nat) (bytes : Bytes) :
    Agrees one other (w.serve position limit bytes) (v.serve position limit bytes) := by
  unfold Stage.serve
  rw [alike.script]
  exact ⟨rfl, alike.setScript position _⟩

theorem secured : v.secured = w.secured := by
  cases alike
  rfl

theorem identity : v.identity = w.identity := by
  cases alike
  rfl

theorem context : v.context = w.context := by
  cases alike
  rfl

theorem provider : v.provider = w.provider := by
  cases alike
  rfl

theorem requestAt (position : Nat) : Option.Rel (Session.Request.Alike one other)
    ((w.session? position).bind (·.request)) ((v.session? position).bind (·.request)) := by
  have found := alike.session? position
  generalize w.session? position = here at found
  generalize v.session? position = there at found
  cases found with
  | none => exact .none
  | some sessions => exact sessions.request

theorem escapeAt (position : Nat) :
    (v.session? position).bind Session.escape = (w.session? position).bind Session.escape :=
  congr_of_rel (alike.session? position) (Option.bind · Session.escape) fun sessions => sessions.escape

theorem phaseAt (position : Option Int) :
    ((v.target? position).bind v.session?).map (·.phase) =
      ((w.target? position).bind w.session?).map (·.phase) := by
  rw [alike.target?]
  cases w.target? position with
  | none => rfl
  | some position =>
    exact congr_of_rel (alike.session? position) (Option.map Session.phase) fun sessions =>
      congrArg some sessions.phase

end Alike

theorem Agrees.entered {a b : Result × Stage} (agrees : Agrees one other a b) (operation : Operation)
    (position : Option Int) : Alike one other
      (a.2.enter (.operation operation a.1 (((a.2.target? position).bind a.2.session?).map (·.phase))))
      (b.2.enter (.operation operation b.1 (((b.2.target? position).bind b.2.session?).map (·.phase)))) := by
  rw [agrees.result, agrees.stage.phaseAt]
  exact agrees.stage.enterSame _

/-! ## The functions that play a rehearsal -/

/-- All that is played with some fuel goes alike on alike stages. -/
structure Likens (one other : Secret) (fuel : Nat) : Prop where
  performAll : ∀ operations {w v : Stage}, w.Alike one other v →
    (performAll fuel operations w).Alike one other (performAll fuel operations v)
  perform : ∀ position operation {w v : Stage}, w.Alike one other v →
    (perform fuel position operation w).Alike one other (perform fuel position operation v)
  carryOut : ∀ position operation {w v : Stage}, w.Alike one other v →
    Agrees one other (carryOut fuel position operation w) (carryOut fuel position operation v)
  actOnSink : ∀ owner operation {w v : Stage}, w.Alike one other v →
    Agrees one other (actOnSink fuel owner operation w) (actOnSink fuel owner operation v)
  actOnInteractor : ∀ operation {w v : Stage}, w.Alike one other v →
    Agrees one other (actOnInteractor fuel operation w) (actOnInteractor fuel operation v)
  actOn : ∀ target operation {w v : Stage}, w.Alike one other v →
    Agrees one other (actOn fuel target operation w) (actOn fuel target operation v)
  work : ∀ position {w v : Stage}, w.Alike one other v →
    (work fuel position w).Alike one other (work fuel position v)
  close : ∀ position {w v : Stage}, w.Alike one other v →
    Agrees one other (close fuel position w) (close fuel position v)
  closing : ∀ position {w v : Stage}, w.Alike one other v →
    Agrees one other (closing fuel position w) (closing fuel position v)
  answer : ∀ position {a b : Session.Request} {w v : Stage}, a.Alike one other b → w.Alike one other v →
    Agrees one other (answer fuel position a w) (answer fuel position b v)
  meet : ∀ position step {w v : Stage}, w.Alike one other v →
    Agrees one other (meet fuel position step w) (meet fuel position step v)
  emit : ∀ owner {a b : Event} {w v : Stage}, a.Alike one other b → w.Alike one other v →
    Agrees one other (emit fuel owner a w) (emit fuel owner b v)
  deliver : ∀ owner {a b : Event} {w v : Stage}, a.Alike one other b → w.Alike one other v →
    (deliver fuel owner a w).Alike one other (deliver fuel owner b v)
  deliverQueued : ∀ limit count {w v : Stage}, w.Alike one other v →
    Agrees one other (deliverQueued fuel limit count w) (deliverQueued fuel limit count v)

theorem likens_zero : Likens one other 0 where
  performAll _ _ _ alike := by simpa only [Stage.performAll] using alike
  perform _ _ _ _ alike := by simpa only [Stage.perform] using alike
  carryOut _ _ _ _ alike := by simpa only [Stage.carryOut] using ⟨rfl, alike⟩
  actOnSink _ _ _ _ alike := by simpa only [Stage.actOnSink] using ⟨rfl, alike⟩
  actOnInteractor _ _ _ alike := by simpa only [Stage.actOnInteractor] using ⟨rfl, alike⟩
  actOn _ _ _ _ alike := by simpa only [Stage.actOn] using ⟨rfl, alike⟩
  work _ _ _ alike := by simpa only [Stage.work] using alike
  close _ _ _ alike := by simpa only [Stage.close] using ⟨rfl, alike⟩
  closing _ _ _ alike := by simpa only [Stage.closing] using ⟨rfl, alike⟩
  answer _ _ _ _ _ _ alike := by simpa only [Stage.answer] using ⟨rfl, alike⟩
  meet _ _ _ _ alike := by simpa only [Stage.meet] using ⟨rfl, alike⟩
  emit _ _ _ _ _ _ alike := by simpa only [Stage.emit] using ⟨rfl, alike⟩
  deliver _ _ _ _ _ _ alike := by simpa only [Stage.deliver] using alike
  deliverQueued _ _ _ _ alike := by simpa only [Stage.deliverQueued] using ⟨rfl, alike⟩

namespace Likens

variable {fuel : Nat}

section Steps

variable (likens : Likens one other fuel) (alike : w.Alike one other v)
include likens alike

theorem performAll_succ (operations : List Operation) :
    (Stage.performAll (fuel + 1) operations w).Alike one other (Stage.performAll (fuel + 1) operations v) := by
  cases operations with
  | nil => simpa only [Stage.performAll] using alike
  | cons operation rest =>
    simp only [Stage.performAll]
    exact likens.performAll rest (likens.perform none operation alike)

theorem perform_succ (position : Option Int) (operation : Operation) :
    (Stage.perform (fuel + 1) position operation w).Alike one other
      (Stage.perform (fuel + 1) position operation v) := by
  cases operation with
  | on position operation =>
    simp only [Stage.perform]
    exact likens.perform (some position) operation alike
  | _ =>
    simp only [Stage.perform]
    exact (likens.carryOut position _ alike).entered _ position

theorem carryOut_succ (position : Option Int) (operation : Operation) :
    Agrees one other (Stage.carryOut (fuel + 1) position operation w)
      (Stage.carryOut (fuel + 1) position operation v) := by
  have offers : v.offersInteractor = w.offersInteractor := by
    cases alike
    rfl
  cases operation with
  | deliver limit =>
    simp only [Stage.carryOut]
    exact likens.deliverQueued limit 0 alike
  | emit | detach | releaseSink | attached =>
    simp only [Stage.carryOut, alike.owner?]
    split
    · exact ⟨rfl, alike⟩
    · exact likens.actOnSink _ _ alike
  | listen | connect | sendData | closeConnection | hasSession =>
    simp only [Stage.carryOut, offers]
    split
    · exact likens.actOnInteractor _ alike
    · exact ⟨rfl, alike⟩
  | on position operation =>
    simp only [Stage.carryOut]
    exact likens.carryOut (some position) operation alike
  | start | run | send | close | join | state | dropEndpoint =>
    simp only [Stage.carryOut, alike.target?]
    split
    · exact ⟨rfl, alike⟩
    · exact likens.actOn _ _ alike

theorem work_succ (same : one.fingerprint = other.fingerprint) (position : Nat) :
    (Stage.work (fuel + 1) position w).Alike one other (Stage.work (fuel + 1) position v) := by
  have requests := alike.requestAt position
  simp only [Stage.work]
  generalize (w.session? position).bind (·.request) = here at requests
  generalize (v.session? position).bind (·.request) = there at requests
  cases requests with
  | none => exact alike
  | some requests =>
    have answered := likens.answer position requests alike
    dsimp only
    rw [answered.result]
    exact likens.work position (answered.stage.move same position _)

theorem actOnSink_succ (same : one.fingerprint = other.fingerprint) (owner : Owner) (operation : Operation) :
    Agrees one other (Stage.actOnSink (fuel + 1) owner operation w)
      (Stage.actOnSink (fuel + 1) owner operation v) := by
  cases operation with
  | emit event =>
    have emitted := likens.emit owner (.same event) alike
    simp only [Stage.actOnSink]
    exact ⟨by rw [emitted.result], emitted.stage⟩
  | detach =>
    simp only [Stage.actOnSink]
    exact ⟨rfl, alike.detach same owner⟩
  | releaseSink =>
    simp only [Stage.actOnSink]
    exact ⟨rfl, alike.release same owner⟩
  | attached =>
    simp only [Stage.actOnSink, alike.attends]
    exact ⟨rfl, alike⟩
  | _ =>
    simp only [Stage.actOnSink]
    exact ⟨rfl, alike⟩

theorem actOnInteractor_succ (same : one.fingerprint = other.fingerprint) (operation : Operation) :
    Agrees one other (Stage.actOnInteractor (fuel + 1) operation w)
      (Stage.actOnInteractor (fuel + 1) operation v) := by
  have interactors := alike.interactor
  cases operation with
  | listen =>
    -- Random bytes are drawn only if a session is going to be opened.
    have drawn : Agrees one other (if w.interactor.isIdle then w.takeRandom else ([], w))
        (if w.interactor.isIdle then v.takeRandom else ([], v)) := by
      split
      · exact alike.takeRandom
      · exact ⟨rfl, alike⟩
    simp only [Stage.actOnInteractor, interactors.isIdle, drawn.result, drawn.stage.context,
      drawn.stage.provider]
    exact drawn.stage.adopt (drawn.stage.interactor.listen _ _ _)
  | connect bundle =>
    simp only [Stage.actOnInteractor, alike.context, alike.provider]
    exact alike.adopt (interactors.connect bundle _ _)
  | sendData payload token =>
    simp only [Stage.actOnInteractor, interactors.target]
    split
    · exact ⟨rfl, alike⟩
    · exact ⟨rfl, alike.move same _ _⟩
  | closeConnection =>
    simp only [Stage.actOnInteractor, interactors.current]
    split
    · exact ⟨rfl, alike.withInteractor interactors.forget⟩
    · next target _ =>
      have closed := likens.close target alike
      rw [closed.result]
      split
      · exact ⟨rfl, closed.stage⟩
      · exact ⟨rfl, closed.stage.withInteractor closed.stage.interactor.forget⟩
  | hasSession =>
    simp only [Stage.actOnInteractor, interactors.current]
    exact ⟨rfl, alike⟩
  | _ =>
    simp only [Stage.actOnInteractor]
    exact ⟨rfl, alike⟩

theorem actOn_succ (same : one.fingerprint = other.fingerprint) (target : Nat) (operation : Operation) :
    Agrees one other (Stage.actOn (fuel + 1) target operation w)
      (Stage.actOn (fuel + 1) target operation v) := by
  have found := alike.session? target
  simp only [Stage.actOn]
  generalize w.session? target = here at found
  generalize v.session? target = there at found
  cases found with
  | none => exact ⟨rfl, alike⟩
  | some sessions =>
    cases operation with
    | start => exact ⟨by simp only [Session.startFault, sessions.started], alike.move same target .start⟩
    | run =>
      dsimp only
      rw [sessions.isRunnable]
      split
      · have worked := likens.work target (alike.move same target .run)
        exact ⟨by rw [worked.escapeAt], worked⟩
      · exact ⟨rfl, alike⟩
    | send payload token => exact ⟨rfl, alike.move same target _⟩
    | close =>
      have closed := likens.close target alike
      exact ⟨by rw [closed.result], closed.stage⟩
    | join timeout =>
      dsimp only
      rw [sessions.started, sessions.isAlive]
      split
      · exact ⟨rfl, alike.enterSame _⟩
      · exact ⟨rfl, alike⟩
    | state => exact ⟨congrArg Result.snapshot (Snapshot.of_alike same sessions), alike⟩
    | dropEndpoint => exact ⟨rfl, alike.move same target .dropEndpoint⟩
    | _ => exact ⟨rfl, alike⟩

theorem close_succ (same : one.fingerprint = other.fingerprint) (position : Nat) :
    Agrees one other (Stage.close (fuel + 1) position w) (Stage.close (fuel + 1) position v) := by
  have found := alike.session? position
  simp only [Stage.close]
  generalize w.session? position = here at found
  generalize v.session? position = there at found
  cases found with
  | none => exact ⟨rfl, alike⟩
  | some sessions =>
    dsimp only
    rw [sessions.stopping]
    split
    · exact ⟨rfl, alike⟩
    · exact likens.closing position (alike.move same position .close)

theorem closing_succ (same : one.fingerprint = other.fingerprint) (position : Nat) :
    Agrees one other (Stage.closing (fuel + 1) position w) (Stage.closing (fuel + 1) position v) := by
  have found := alike.session? position
  simp only [Stage.closing]
  generalize w.session? position = here at found
  generalize v.session? position = there at found
  cases found with
  | none => exact ⟨rfl, alike⟩
  | some sessions =>
    dsimp only
    rw [sessions.closingRequest, sessions.closingFault]
    split
    · exact ⟨rfl, alike⟩
    · next request _ =>
      have answered := likens.answer position (.same request) alike
      rw [answered.result]
      exact likens.closing position (answered.stage.move same position _)

theorem answer_succ (position : Nat) {a b : Session.Request} (requests : a.Alike one other b) :
    Agrees one other (Stage.answer (fuel + 1) position a w) (Stage.answer (fuel + 1) position b v) := by
  have emits {a b : Event} (events : a.Alike one other b) : Agrees one other
      (Stage.answer (fuel + 1) position (.emit a) w) (Stage.answer (fuel + 1) position (.emit b) v) := by
    have emitted := likens.emit (.session position) events alike
    simp only [Stage.answer]
    rw [emitted.result]
    exact ⟨rfl, emitted.stage⟩
  cases requests with
  | emit events => exact emits events
  | same =>
    have meets (step : Step) (entry : Entry) :=
      likens.meet position step (alike.enterSame entry)
    cases a with
    | bind | shutDown | dial | send =>
      simp only [Stage.answer]
      rw [(meets _ _).result]
      exact ⟨rfl, (meets _ _).stage⟩
    | accept =>
      simp only [Stage.answer]
      rw [(meets _ _).result, (meets _ _).stage.script]
      exact ⟨rfl, (meets _ _).stage⟩
    | setTimeout | close =>
      simp only [Stage.answer]
      exact ⟨rfl, alike.enterSame _⟩
    | findAddress =>
      simp only [Stage.answer]
      exact alike.findAddress
    | boundPort =>
      simp only [Stage.answer, alike.script]
      exact ⟨rfl, alike⟩
    | emit event => exact emits (.same event)
    | handshake role =>
      have met {as bs : List Entry} (entries : List.Forall₂ (Entry.Alike one other) as bs) :=
        likens.meet position .handshake (alike.enterAll entries)
      have found := alike.session? position
      simp only [Stage.answer, alike.secured, alike.identity]
      generalize w.session? position = here at found
      generalize v.session? position = there at found
      cases found with
      | none =>
        have met := met .nil
        exact ⟨congrArg (replyOf · _) met.result, met.stage⟩
      | some sessions =>
        have met := met (handshake_alike sessions w.secured role w.identity)
        exact ⟨congrArg (replyOf · _) met.result, met.stage⟩
    | peerName =>
      have met := likens.meet position .peerName alike
      simp only [Stage.answer]
      rw [met.result, met.stage.script]
      exact ⟨rfl, met.stage⟩
    | receive socket limit =>
      have met := meets .receive (.receive socket limit)
      simp only [Stage.answer, alike.script]
      split
      · rw [met.result]
        split
        · exact ⟨rfl, met.stage⟩
        · have served := met.stage.serve position limit
          exact ⟨(served _).result ▸ rfl, (served _).stage⟩
      · have served := (alike.enterSame (.receive socket limit)).serve position limit
        exact ⟨(served _).result ▸ rfl, (served _).stage⟩

theorem meet_succ (position : Nat) (step : Step) :
    Agrees one other (Stage.meet (fuel + 1) position step w) (Stage.meet (fuel + 1) position step v) := by
  simp only [Stage.meet, alike.script]
  generalize (w.script position).next step = next
  obtain ⟨cue, script⟩ := next
  have taken := alike.setScript position script
  -- The callers act, if any do, before the outcome holds.
  cases cue.during with
  | none =>
    dsimp only
    split
    · exact ⟨rfl, taken⟩
    · exact ⟨rfl, taken.enterSame _⟩
  | some operations =>
    have acted := likens.performAll operations (taken.enterSame (.during step))
    dsimp only
    split
    · exact ⟨rfl, acted⟩
    · exact ⟨rfl, acted.enterSame _⟩

theorem emit_succ (owner : Owner) {a b : Event} (events : a.Alike one other b) :
    Agrees one other (Stage.emit (fuel + 1) owner a w) (Stage.emit (fuel + 1) owner b v) := by
  simp only [Stage.emit, alike.sinkOf, alike.context]
  split
  · exact ⟨rfl, alike⟩
  · next sink _ =>
    have emission : w.context.emit sink b = w.context.emit sink a := by
      simp only [Context.emit, Context.submit, events.kind]
    rw [emission]
    split
    · exact ⟨rfl, alike.note _⟩
    · exact ⟨rfl, alike.push owner events⟩
    · exact ⟨rfl, likens.deliver owner events alike⟩
    · exact ⟨rfl, alike⟩

theorem deliver_succ (owner : Owner) {a b : Event} (events : a.Alike one other b) :
    (Stage.deliver (fuel + 1) owner a w).Alike one other (Stage.deliver (fuel + 1) owner b v) := by
  have seen : Agrees one other (w.call a) (v.call b) := by
    rw [Stage.call, Stage.call, ← events.kind]
    exact (alike.enter (.event events)).takeReaction a.kind
  have raising : v.raising = w.raising := by
    cases alike
    rfl
  simp only [Stage.deliver, alike.attends, raising, ← events.kind]
  split
  · rw [seen.result]
    have reacted := likens.performAll (w.call a).1 seen.stage
    split
    · exact reacted.note _
    · exact reacted
  · exact alike

theorem deliverQueued_succ (limit : Option Nat) (count : Nat) :
    Agrees one other (Stage.deliverQueued (fuel + 1) limit count w)
      (Stage.deliverQueued (fuel + 1) limit count v) := by
  simp only [Stage.deliverQueued]
  split
  · exact ⟨rfl, alike⟩
  · have queues := alike.queue
    generalize w.queue = here at queues
    generalize v.queue = there at queues
    cases queues with
    | nil => exact ⟨rfl, alike⟩
    | @cons first second rest later delivery others =>
      obtain ⟨owner, event⟩ := first
      obtain ⟨owner', event'⟩ := second
      obtain ⟨rfl, events⟩ := delivery
      exact likens.deliverQueued limit (count + 1) (likens.deliver _ events (alike.withQueue others))

end Steps

end Likens

theorem likens (same : one.fingerprint = other.fingerprint) (fuel : Nat) : Likens one other fuel := by
  induction fuel with
  | zero => exact likens_zero
  | succ fuel ih =>
    exact {
      performAll := fun operations _ _ alike => ih.performAll_succ alike operations
      perform := fun position operation _ _ alike => ih.perform_succ alike position operation
      carryOut := fun position operation _ _ alike => ih.carryOut_succ alike position operation
      actOnSink := fun owner operation _ _ alike => ih.actOnSink_succ alike same owner operation
      actOnInteractor := fun operation _ _ alike => ih.actOnInteractor_succ alike same operation
      actOn := fun target operation _ _ alike => ih.actOn_succ alike same target operation
      work := fun position _ _ alike => ih.work_succ alike same position
      close := fun position _ _ alike => ih.close_succ alike same position
      closing := fun position _ _ alike => ih.closing_succ alike same position
      answer := fun position _ _ _ _ requests alike => ih.answer_succ alike position requests
      meet := fun position step _ _ alike => ih.meet_succ alike position step
      emit := fun owner _ _ _ _ events alike => ih.emit_succ alike owner events
      deliver := fun owner _ _ _ _ events alike => ih.deliver_succ alike owner events
      deliverQueued := fun limit count _ _ alike => ih.deliverQueued_succ alike limit count }

end Stage

/-! ## Records -/

def Entry.logged? : Entry → Option (Level × String)
  | .note notice => some (notice.level, notice.text)
  | _ => none

def Entry.step? : Entry → Option Entry
  | .note _ | .event _ | .operation _ _ _ => none
  | .serverKey _ => some (.serverKey [])
  | .clientKey identity _ => some (.clientKey identity [])
  | step => some step

/-- Reports that tell the secrets apart by bundles and keys only. -/
structure Report.Alike (one other : Secret) (a b : Report) : Prop where
  record : List.Forall₂ (Entry.Alike one other) a.record b.record
  logged : b.record.filterMap Entry.logged? = a.record.filterMap Entry.logged?
  steps : b.record.filterMap Entry.step? = a.record.filterMap Entry.step?
  events : List.Forall₂ (Event.Alike one other) (a.record.filterMap Entry.event?)
    (b.record.filterMap Entry.event?)
  pending : b.pending = a.pending
  sessions : b.sessions = a.sessions

section Records

variable {one other : Secret} {as bs : List Entry}

theorem filterMap_alike {α : Type} {f : Entry → Option α}
    (blind : ∀ {a b : Entry}, a.Alike one other b → f b = f a)
    (entries : List.Forall₂ (Entry.Alike one other) as bs) : bs.filterMap f = as.filterMap f := by
  induction entries with
  | nil => rfl
  | cons first _ ih => rw [List.filterMap_cons, List.filterMap_cons, blind first, ih]

theorem events_alike (entries : List.Forall₂ (Entry.Alike one other) as bs) :
    List.Forall₂ (Event.Alike one other) (as.filterMap Entry.event?) (bs.filterMap Entry.event?) := by
  induction entries with
  | nil => exact .nil
  | @cons a _ _ _ first _ ih =>
    cases first with
    | event events => exact .cons events ih
    | serverKey | clientKey => exact ih
    | same =>
      cases given : a.event? with
      | none => rwa [List.filterMap_cons_none given, List.filterMap_cons_none given]
      | some event =>
        rw [List.filterMap_cons_some given, List.filterMap_cons_some given]
        exact .cons (.same event) ih

theorem snapshots_alike {ss us : List Session} (same : one.fingerprint = other.fingerprint)
    (sessions : List.Forall₂ (Session.Alike one other) ss us) : us.map Snapshot.of = ss.map Snapshot.of := by
  induction sessions with
  | nil => rfl
  | cons first _ ih => rw [List.map_cons, List.map_cons, Snapshot.of_alike same first, ih]

theorem reports_alike (same : one.fingerprint = other.fingerprint) {w v : Stage}
    (alike : w.Alike one other v) : Report.Alike one other
      ⟨w.record.reverse, w.queue.length, w.interactor.sessions.map .of⟩
      ⟨v.record.reverse, v.queue.length, v.interactor.sessions.map .of⟩ := by
  cases alike with
  | recast sessions queue record =>
    have record := List.rel_reverse record
    refine ⟨record, ?_, ?_, events_alike record, queue.length_eq.symm, snapshots_alike same sessions⟩
    · exact filterMap_alike (fun entries => by cases entries <;> rfl) record
    · exact filterMap_alike (fun entries => by cases entries <;> rfl) record

end Records

namespace Scenario

variable {one other : Secret} (same : one.fingerprint = other.fingerprint) (plan : Session.Plan)
  (operations : List Operation) (stage : Stage)
include same

theorem opening_alike : SameOutcome (Stage.Alike one other)
    (opening ⟨.session (plan.withSecret one), operations, stage⟩)
    (opening ⟨.session (plan.withSecret other), operations, stage⟩) := by
  have came (s : Session) : (plan.withSecret one).open.2 = .ok s → s = (plan.withSecret one).session :=
    Session.Plan.open_eq_ok
  unfold opening
  dsimp only
  rw [plan.open_withSecret same]
  generalize (plan.withSecret one).open = opened at came
  obtain ⟨steps, outcome⟩ := opened
  cases outcome with
  | error error => exact .error _
  | ok session =>
    obtain rfl := came session rfl
    have sessions : List.Forall₂ (Session.Alike one other) [(plan.withSecret one).session]
        [(plan.withSecret other).session] := .cons plan.session_alike .nil
    exact .ok (((Stage.Alike.refl stage).enterAllSame _).withInteractor
      (.recast (i := ⟨plan.settings, [(plan.withSecret one).session], none⟩) sessions))

theorem play_alike : SameOutcome (Report.Alike one other)
    (play ⟨.session (plan.withSecret one), operations, stage⟩)
    (play ⟨.session (plan.withSecret other), operations, stage⟩) := by
  have opened := opening_alike same plan operations stage
  unfold play
  generalize opening ⟨.session (plan.withSecret one), operations, stage⟩ = first at opened
  generalize opening ⟨.session (plan.withSecret other), operations, stage⟩ = second at opened
  cases opened with
  | error failure => exact .error failure
  | @ok w v alike =>
    have depth : v.depth operations = w.depth operations := by
      cases alike
      rfl
    refine .ok ?_
    dsimp only
    rw [depth]
    exact reports_alike same ((Stage.likens same _).performAll operations alike)

end Scenario

/-- Sessions whose secrets have one fingerprint are opened in the same steps, do the same and log the same, but
that the bundles they announce hold their secrets: in any world of callers, an observer and a network, and in
any rehearsal, where each hands its key to transport security besides. -/
theorem fingerprint_alone_shows {one other : Secret} (same : one.fingerprint = other.fingerprint)
    (plan : Session.Plan) :
    (plan.withSecret other).open.1 = (plan.withSecret one).open.1 ∧
      (∀ world n, ((plan.withSecret one).session.driven world n).Alike one other
        ((plan.withSecret other).session.driven world n)) ∧
      ∀ operations stage, SameOutcome (Report.Alike one other)
        (Scenario.play ⟨.session (plan.withSecret one), operations, stage⟩)
        (Scenario.play ⟨.session (plan.withSecret other), operations, stage⟩) := by
  refine ⟨by rw [plan.open_withSecret same], fun world n => ?_, fun operations stage => ?_⟩
  · exact Session.driven_alike same plan.session_alike world n
  · exact Scenario.play_alike same plan operations stage

/-- Two secrets whose digests begin with the same four bytes. -/
theorem fingerprint_alone_shows_colliding :
    let one : Secret := ⟨List.replicate 14 0 ++ [29, 12], rfl⟩
    let other : Secret := ⟨List.replicate 14 0 ++ [36, 190], rfl⟩
    let plan : Session.Plan := .listener one .localTesting false (some ⟨true, fun _ => none⟩)
    one ≠ other ∧ one.fingerprint = other.fingerprint ∧ SameOutcome (Report.Alike one other)
      (Scenario.play ⟨.session (plan.withSecret one), [.start, .run], Stage.plainStage⟩)
      (Scenario.play ⟨.session (plan.withSecret other), [.start, .run], Stage.plainStage⟩) := by
  intro one other plan
  have same : one.fingerprint = other.fingerprint := by decide +kernel
  exact ⟨by decide, same, (fingerprint_alone_shows same plan).2.2 _ _⟩

end Rehearsal

end Handover
