import Handover.Proofs.Rehearsal.Errands

/-! Silence. Once its observer is let go, nothing that begins for a sink reaches that observer any more: what
is queued runs for nothing, and an event that is emitted is not posted. A delivery that has found the observer
before still calls it, and an emission that has found it before still posts its delivery. -/

set_option autoImplicit false

namespace Handover.Rehearsal

namespace Scene

variable {c : Scene} {owner : Owner}

/-! ## Along motions -/

theorem hearers_submit (w : Stage) (owner : Owner) (event : Event) :
    (w.submit owner event).1.hearers = w.hearers := by
  unfold Stage.submit
  split
  · rfl
  · split <;> rfl

theorem does_stirs (c : Scene) (m : Motion) : c.stage.Stirs (c.does m).stage := by
  cases m with
  | deed deed _ => exact c.stage.does_stirs deed
  | ask owner event =>
    rw [does]
    split
    · exact .rests rfl
    · split <;> exact .rests rfl
  | begin =>
    rw [does]
    split <;> exact .rests rfl
  | goOn place =>
    cases there : c.errands[place]? with
    | none => simpa only [does, there] using .rests rfl
    | some errand =>
      rw [does_goOn there]
      cases errand with
      | posting owner event => exact .rests (hearers_submit c.stage owner event)
      | looking => exact .rests rfl
      | calling owner event => exact .rests (c.stage.hearers_call event)

theorem sound_after (sound : c.stage.Sound) (motions : List Motion) : (c.after motions).stage.Sound := by
  induction motions generalizing c with
  | nil => exact sound
  | cons first rest ih => exact ih ((c.does_stirs first).sound sound)

theorem letGo_course (gone : c.stage.LetGo owner) (motions : List Motion) :
    ∀ seen ∈ c.course motions, seen.1.stage.LetGo owner := by
  induction motions generalizing c with
  | nil => simp [course]
  | cons first rest ih => exact List.forall_mem_cons.mpr ⟨gone, ih ((c.does_stirs first).letGo gone)⟩

/-! ## Errands of an owner whose observer was let go -/

def calling (c : Scene) : List (Owner × Event) := c.errands.filterMap Errand.calls?

def posting (c : Scene) : List (Owner × Event) := c.errands.filterMap Errand.posts?

/-- No errand comes that has found the observer. -/
theorem leaves_of_letGo (gone : c.stage.LetGo owner) (m : Motion) :
    Stage.eventsOf owner ((c.leaves m).bind Errand.calls?).toList = [] ∧
      Stage.eventsOf owner ((c.leaves m).bind Errand.posts?).toList = [] := by
  have other {found : Owner} (attends : c.stage.attends found = true) (event : Event) :
      Stage.eventsOf owner [(found, event)] = [] := by
    have apart : found ≠ owner := by
      rintro rfl
      simp [gone.not_attends] at attends
    simp [Stage.eventsOf, apart]
  cases m with
  | deed => exact ⟨rfl, rfl⟩
  | ask found event =>
    rw [leaves]
    split
    · next attends => exact ⟨rfl, other attends event⟩
    · exact ⟨rfl, rfl⟩
  | begin =>
    rw [leaves]
    cases c.stage.queue <;> exact ⟨rfl, rfl⟩
  | goOn place =>
    rw [leaves]
    cases c.errands[place]? with
    | none => exact ⟨rfl, rfl⟩
    | some errand =>
      cases errand with
      | posting found event =>
        show Stage.eventsOf owner (((c.stage.submit found event).2).bind _).toList = [] ∧
          Stage.eventsOf owner (((c.stage.submit found event).2).bind _).toList = []
        unfold Stage.submit
        split
        · exact ⟨rfl, rfl⟩
        · split <;> exact ⟨rfl, rfl⟩
      | looking found event =>
        show Stage.eventsOf owner ((if c.stage.attends found then _ else _ : Option Errand).bind _).toList = [] ∧
          Stage.eventsOf owner ((if c.stage.attends found then _ else _ : Option Errand).bind _).toList = []
        split
        · next attends => exact ⟨other attends event, rfl⟩
        · exact ⟨rfl, rfl⟩
      | calling => exact ⟨rfl, rfl⟩

/-- What motions make of the errands of a kind, with those that are left, is what there was of them. -/
theorem made_after {kind : Errand → Option (Owner × Event)}
    (none : ∀ {c : Scene}, c.stage.LetGo owner → ∀ m,
      Stage.eventsOf owner ((c.leaves m).bind kind).toList = [])
    (gone : c.stage.LetGo owner) (motions : List Motion) :
    List.Perm (Stage.eventsOf owner (c.made kind motions) ++
        Stage.eventsOf owner ((c.after motions).errands.filterMap kind))
      (Stage.eventsOf owner (c.errands.filterMap kind)) := by
  induction motions generalizing c with
  | nil => exact .refl _
  | cons first rest ih =>
    have now := ((ledger_does kind c first).filter (·.1 = owner)).map Prod.snd
    change List.Perm (Stage.eventsOf owner _) (Stage.eventsOf owner _) at now
    rw [Stage.eventsOf_append, Stage.eventsOf_append, none gone first, List.append_nil] at now
    have later := ih ((c.does_stirs first).letGo gone)
    rw [made_cons, Stage.eventsOf_append, List.append_assoc, after_cons]
    exact (later.append_left _).trans now

/-- What can still happen for an owner whose observer was let go. -/
structure Silent (c : Scene) (owner : Owner) (later : List Motion) : Prop where
  /-- The calls are those of the deliveries that had found the observer before, once each. -/
  called : List.Perm
    (Stage.eventsOf owner (c.invocations later) ++ Stage.eventsOf owner (c.after later).calling)
    (Stage.eventsOf owner c.calling)
  /-- What is posted comes of the emissions that had found the observer before, once each. -/
  posted : List.Perm
    (Stage.eventsOf owner (c.postings later) ++ Stage.eventsOf owner (c.after later).posting)
    (Stage.eventsOf owner c.posting)
  /-- A delivery that has not found the observer before does nothing. -/
  skipped : ∀ seen ∈ c.course later, ∀ place event, seen.2 = .goOn place →
    seen.1.errands[place]? = some (.looking owner event) →
    seen.1.does seen.2 = { seen.1 with errands := seen.1.errands.eraseIdx place }
  /-- What its session or anyone else begins to emit is dropped. -/
  dropped : ∀ seen ∈ c.course later, ∀ event, seen.2 = .ask owner event →
    seen.1.does seen.2 = { seen.1 with stage := seen.1.stage.note (.droppedDetached event.kind) }

theorem silent_of_letGo (gone : c.stage.LetGo owner) (later : List Motion) : Silent c owner later := by
  refine ⟨made_after (fun gone m => (leaves_of_letGo gone m).1) gone later,
    made_after (fun gone m => (leaves_of_letGo gone m).2) gone later, ?_, ?_⟩
  · rintro ⟨v, m⟩ member place event rfl there
    have absent := (letGo_course gone later _ member).not_attends
    change v.stage.attends owner = false at absent
    rw [does_goOn there]
    simp [Errand.step, absent]
  · rintro ⟨v, m⟩ member event rfl
    obtain ⟨sink, found, detached⟩ := letGo_course gone later _ member
    change v.stage.sinkOf owner = some sink at found
    simp [does, found, detached]

/-- Without an errand that had found the observer there is no call and no posting at all. -/
theorem Silent.quiet {later : List Motion} (silent : Silent c owner later)
    (uncalled : Stage.eventsOf owner c.calling = []) (unposted : Stage.eventsOf owner c.posting = []) :
    Stage.eventsOf owner (c.invocations later) = [] ∧ Stage.eventsOf owner (c.postings later) = [] := by
  obtain ⟨called, posted, -, -⟩ := silent
  rw [uncalled] at called
  rw [unposted] at posted
  exact ⟨(List.append_eq_nil_iff.mp called.eq_nil).1, (List.append_eq_nil_iff.mp posted.eq_nil).1⟩

/-- Once a session is closed or a sink detached, the observer is let go. Nothing that begins after that reaches
it: neither what is queued for it nor what is emitted later. It is called by no delivery but one that had found
it before, and nothing is posted for it but what was being emitted already. What the observers were called with
is what the record shows, and every rehearsal is such a list of motions with none interrupted. -/
theorem silent_once_let_go {scenario : Scenario} {w : Stage}
    (empty : scenario.stage.interactor.sessions = []) (opened : scenario.opening = .ok w) :
    (∀ fuel operations, ∃ motions, (idle w).after motions = idle (w.performAll fuel operations)) ∧
      ∀ earlier, let c := (idle w).after earlier
        c.stage.heard = (((idle w).invocations earlier).map Prod.snd).reverse ++ w.heard ∧
        (∀ position s, c.stage.session? position = some s →
          (c.stage.does (.move position .close)).LetGo (.session position) ∧
            (s.stopping = true → c.stage.LetGo (.session position))) ∧
        (∀ owner, (c.stage.sinkOf owner).isSome = true → (c.stage.does (.detach owner)).LetGo owner) ∧
        ∀ owner, c.stage.LetGo owner → ∀ later, Silent c owner later := by
  have sound := Stage.sound_opening empty opened
  refine ⟨fun fuel operations => ?_, fun earlier => ?_⟩
  · obtain ⟨deeds, same⟩ := (Stage.explained fuel).performAll operations w
    rw [same]
    exact after_deeds w deeds
  · intro c
    have sound : c.stage.Sound := sound_after sound earlier
    refine ⟨heard_after (idle w) earlier, fun position s here => ⟨?_, fun stopped => ?_⟩, ?_, ?_⟩
    · exact .of_close sound here
    · exact ⟨s.sink, congrArg (Option.map _) here, sound s (List.mem_of_getElem? here) stopped⟩
    · exact fun owner there => .of_detach there
    · exact fun owner gone later => silent_of_letGo gone later

/-- A connector with a delivery thread of its own. -/
def watched : Session.Plan := { Session.Plan.plainConnector with ownThread := true }

def watchedStage : Stage :=
  { Stage.plainStage with
    interactor := ⟨watched.settings, [watched.session], none⟩
    context := .ownThread
    record := [.workerThread .connector, .deliveryThread] }

/-- The connection is reported: the event is posted, and the delivery thread begins with it. -/
def reported : List Motion := [.ask (.session 0) (.established "10.0.0.9"), .goOn 0, .begin]

/-- If the delivery has looked for the observer before the session is closed, it may call it after that, and
nothing else does; if it has not, there is no call. -/
theorem silent_once_let_go_reported :
    let found := (idle watchedStage).after (reported ++ [.goOn 0, .deed (.move 0 .close) rfl])
    let missed := (idle watchedStage).after (reported ++ [.deed (.move 0 .close) rfl])
    (∀ later, List.Perm (Stage.eventsOf (.session 0) (found.invocations later) ++
        Stage.eventsOf (.session 0) (found.after later).calling) [.established "10.0.0.9"]) ∧
      ∀ later, Stage.eventsOf (.session 0) (missed.invocations later) = [] := by
  intro found missed
  let scenario : Scenario :=
    ⟨.session watched, [], { Stage.plainStage with interactor := .new .default, context := .ownThread }⟩
  obtain ⟨-, moments⟩ := @silent_once_let_go scenario watchedStage rfl rfl
  obtain ⟨-, closes, -⟩ := moments reported
  have gone : missed.stage.LetGo (.session 0) := (closes 0 _ rfl).1
  obtain ⟨-, closes, -⟩ := moments (reported ++ [.goOn 0])
  have away : found.stage.LetGo (.session 0) := (closes 0 _ rfl).1
  obtain ⟨-, -, -, silent⟩ := moments (reported ++ [.goOn 0, .deed (.move 0 .close) rfl])
  obtain ⟨-, -, -, quiet⟩ := moments (reported ++ [.deed (.move 0 .close) rfl])
  exact ⟨fun later => (silent _ away later).called, fun later => ((quiet _ gone later).quiet rfl rfl).1⟩

/-- A delivery finds the observer, the session is closed, and the delivery calls the observer. -/
theorem heard_after_let_go :
    let closed := (idle watchedStage).after (reported ++ [.goOn 0, .deed (.move 0 .close) rfl])
    closed.stage.LetGo (.session 0) ∧ closed.stage.heard = [] ∧
      (closed.does (.goOn 0)).stage.heard = [.established "10.0.0.9"] :=
  ⟨⟨_, rfl, rfl⟩, rfl, rfl⟩

end Scene

end Handover.Rehearsal
