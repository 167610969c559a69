import Handover.Proofs.Interactor.Single
import Handover.Proofs.Rehearsal.Deeds
import Handover.Proofs.Session.Audience
import Handover.Proofs.Session.Fading
import Mathlib.Data.List.Basic

/-! Observers. The record shows what the observers on a stage were called with. An observer is let go by the
detaching of its sink and by the call that closes its session, and no deed brings it back. -/

set_option autoImplicit false

namespace Handover

namespace Rehearsal.Stage

variable {w v : Stage} {owner : Owner}

/-! ## What a deed does for an observer -/

def invokes (w : Stage) : Deed → Option (Owner × Event)
  | .emit owner event =>
      if w.attends owner ∧ (w.sinkOf owner).any (fun sink => w.context.post sink = .immediate) then
        some (owner, event)
      else none
  | .deliver =>
      match w.queue with
      | [] => none
      | (owner, event) :: _ => if w.attends owner then some (owner, event) else none
  | _ => none

/-- The events that the observers were called with, the latest first. -/
def heard (w : Stage) : List Event := w.record.filterMap Entry.event?

theorem heard_enter (w : Stage) {entry : Entry} (quiet : entry.event? = none) :
    (w.enter entry).heard = w.heard := by
  simp [heard, enter, quiet]

theorem heard_enterAll (w : Stage) {entries : List Entry}
    (quiet : ∀ entry ∈ entries, entry.event? = none) : (w.enterAll entries).heard = w.heard := by
  induction entries generalizing w with
  | nil => rfl
  | cons first rest ih =>
    obtain ⟨here, later⟩ := List.forall_mem_cons.mp quiet
    exact (ih _ later).trans (w.heard_enter here)

theorem heard_move (w : Stage) (position : Nat) (m : Session.Move) :
    (w.move position m).heard = w.heard := by
  unfold move
  split
  · refine heard_enterAll _ fun entry member => ?_
    obtain ⟨action, -, made⟩ := List.mem_filterMap.mp member
    exact quiet_actionEntry made
  · rfl

theorem heard_changeSink (w : Stage) (f : Sink → Sink) : (w.changeSink f).heard = w.heard := by
  unfold changeSink
  dsimp only
  split
  · exact heard_enter _ rfl
  · rfl

theorem record_takeReaction (w : Stage) (kind : Event.Kind) :
    (w.takeReaction kind).2.record = w.record := by
  unfold takeReaction
  split <;> rfl

theorem heard_call (w : Stage) (event : Event) : (w.call event).2.heard = event :: w.heard := by
  rw [heard, call, record_takeReaction]
  rfl

theorem heard_present (w : Stage) (owner : Owner) (event : Event) :
    (w.present owner event).heard = (if w.attends owner then [event] else []) ++ w.heard := by
  unfold present
  split
  · exact w.heard_call event
  · rfl

theorem heard_give (w : Stage) (owner : Owner) (event : Event) :
    (w.give owner event).heard =
      ((w.invokes (.emit owner event)).map Prod.snd).toList ++ w.heard := by
  unfold give
  cases found : w.sinkOf owner with
  | none => simp [invokes, found]
  | some sink =>
    have attends : w.attends owner = sink.attached := by simp [attends, found]
    simp only [Context.emit, Context.submit, invokes, found, attends, Option.any_some, decide_eq_true_eq]
    cases attached : sink.attached with
    | false => exact heard_enter _ rfl
    | true =>
      cases posted : w.context.post sink with
      | queued => rfl
      | immediate =>
        simp only [if_true]
        rw [heard_present, attends, attached]
        rfl
      | refused f =>
        simp only [if_true]
        split
        · next dropped =>
          split at dropped <;> cases dropped
          exact heard_enter _ rfl
        · rfl
        · next immediate => split at immediate <;> cases immediate
        · rfl

theorem heard_does (w : Stage) (deed : Deed) :
    (w.does deed).heard = ((w.invokes deed).map Prod.snd).toList ++ w.heard := by
  cases deed with
  | enter entry quiet => exact w.heard_enter quiet
  | cue | giveUp | forget => rfl
  | move position m => exact w.heard_move position m
  | emit owner event => exact w.heard_give owner event
  | deliver =>
    rw [does]
    cases queued : w.queue with
    | nil => simp [invokes, queued]
    | cons delivery rest =>
      obtain ⟨owner, event⟩ := delivery
      dsimp only
      rw [heard_present]
      have same : attends { w with queue := rest } owner = w.attends owner := rfl
      have heard : heard { w with queue := rest } = w.heard := rfl
      rw [same, heard, invokes, queued]
      cases attends : w.attends owner <;> simp [attends]
  | detach owner =>
    cases owner with
    | alone => exact w.heard_changeSink Sink.detach
    | session position => exact w.heard_move position .detach
  | release owner =>
    cases owner with
    | alone => exact w.heard_changeSink Sink.release
    | session position => exact w.heard_move position .release
  | draw =>
    rw [does]
    unfold takeRandom
    split <;> rfl
  | adopt plan =>
    rw [does]
    split
    · split <;> rfl
    · rfl

/-! ## An observer that was let go -/

/-- The sink of an owner has lost its observer. -/
def LetGo (w : Stage) (owner : Owner) : Prop :=
  ∃ sink, w.sinkOf owner = some sink ∧ sink.attached = false

theorem LetGo.not_attends (gone : w.LetGo owner) : w.attends owner = false := by
  obtain ⟨sink, found, detached⟩ := gone
  simp [attends, found, detached]

def hearers (w : Stage) : List Session × Option Sink := (w.interactor.sessions, w.sink)

theorem session?_congr (same : v.hearers = w.hearers) (position : Nat) :
    v.session? position = w.session? position :=
  congrArg (·[position]?) (congrArg Prod.fst same)

theorem sinkOf_congr (same : v.hearers = w.hearers) (owner : Owner) :
    v.sinkOf owner = w.sinkOf owner := by
  cases owner with
  | alone => exact congrArg Prod.snd same
  | session position => exact congrArg (Option.map _) (session?_congr same position)

theorem sinkOf_session_congr (same : v.interactor.sessions = w.interactor.sessions) (position : Nat) :
    v.sinkOf (.session position) = w.sinkOf (.session position) := by
  rw [sinkOf, session?, same]
  rfl

theorem hearers_enterAll (w : Stage) (entries : List Entry) :
    (w.enterAll entries).hearers = w.hearers := by
  induction entries generalizing w with
  | nil => rfl
  | cons first rest ih => exact ih (w.enter first)

theorem hearers_takeReaction (w : Stage) (kind : Event.Kind) :
    (w.takeReaction kind).2.hearers = w.hearers := by
  unfold takeReaction
  split <;> rfl

theorem hearers_call (w : Stage) (event : Event) : (w.call event).2.hearers = w.hearers :=
  hearers_takeReaction _ _

theorem hearers_present (w : Stage) (owner : Owner) (event : Event) :
    (w.present owner event).hearers = w.hearers := by
  unfold present
  split
  · exact w.hearers_call event
  · rfl

theorem hearers_give (w : Stage) (owner : Owner) (event : Event) :
    (w.give owner event).hearers = w.hearers := by
  unfold give
  split
  · rfl
  · split
    · rfl
    · rfl
    · exact w.hearers_present owner event
    · rfl

theorem session?_move (w : Stage) (position : Nat) (m : Session.Move) (other : Nat) :
    (w.move position m).session? other = (w.session? other).map fun s =>
      if other = position then (s.step m).session else s := by
  unfold move
  cases found : w.session? position with
  | none =>
    by_cases here : other = position
    · rw [here, found]
      rfl
    · simp [here]
  | some s =>
    show (Stage.take w position (s.step m)).session? other = _
    rw [Stage.take, session?_congr (hearers_enterAll _ _)]
    show (w.interactor.sessions.modify position fun _ => (s.step m).session)[other]? = _
    rw [List.getElem?_modify]
    by_cases here : position = other
    · subst here
      have at_ : w.interactor.sessions[position]? = some s := found
      simp [session?, at_]
    · simp [here, Ne.symm here, session?]

theorem sink_move (w : Stage) (position : Nat) (m : Session.Move) : (w.move position m).sink = w.sink := by
  unfold move
  split
  · exact congrArg Prod.snd (hearers_enterAll _ _)
  · rfl

theorem sinkOf_move {position other : Nat} {s : Session} (here : w.session? other = some s)
    (m : Session.Move) : (w.move position m).sinkOf (.session other) =
      some (if other = position then (s.step m).session.sink else s.sink) := by
  rw [sinkOf, session?_move, here, Option.map_some, Option.map_some]
  split <;> rfl

theorem hearers_changeSink (w : Stage) (f : Sink → Sink) :
    (w.changeSink f).hearers = (w.interactor.sessions, w.sink.map f) := by
  unfold changeSink
  dsimp only
  split <;> rfl

theorem hearers_deliver (w : Stage) : (w.does .deliver).hearers = w.hearers := by
  rw [does]
  split
  · rfl
  · exact hearers_present _ _ _

theorem hearers_draw (w : Stage) : (w.does .draw).hearers = w.hearers := by
  rw [does]
  unfold takeRandom
  split <;> rfl

theorem hearers_adopt (w : Stage) (plan : Session.Plan) : (w.does (.adopt plan)).hearers = w.hearers ∨
    (w.does (.adopt plan)).hearers = (w.interactor.sessions ++ [plan.session.start.session], w.sink) := by
  rw [does]
  split
  · split
    · next interactor adopted =>
      exact .inr (congrArg (fun i => (i.sessions, w.sink)) (Interactor.adopt_eq_ok adopted))
    · exact .inl rfl
  · exact .inl rfl

/-- What a deed can do to the sessions and the sink. -/
inductive Stirs (w : Stage) (v : Stage) : Prop where
  | rests : v.hearers = w.hearers → Stirs w v
  | moves (position : Nat) (m : Session.Move) : v = w.move position m → Stirs w v
  | changes (f : Sink → Sink) : (∀ sink : Sink, sink.Fades (f sink)) →
      v.hearers = (w.interactor.sessions, w.sink.map f) → Stirs w v
  | opens (plan : Session.Plan) :
      v.hearers = (w.interactor.sessions ++ [plan.session.start.session], w.sink) → Stirs w v

theorem does_stirs (w : Stage) (deed : Deed) : Stirs w (w.does deed) := by
  cases deed with
  | enter | cue | giveUp | forget => exact .rests rfl
  | move position m => exact .moves position m rfl
  | emit owner event => exact .rests (w.hearers_give owner event)
  | deliver => exact .rests w.hearers_deliver
  | detach owner =>
    cases owner with
    | alone => exact .changes Sink.detach (fun _ => .detached) (w.hearers_changeSink _)
    | session position => exact .moves position .detach rfl
  | release owner =>
    cases owner with
    | alone => exact .changes Sink.release (fun _ => .released) (w.hearers_changeSink _)
    | session position => exact .moves position .release rfl
  | draw => exact .rests w.hearers_draw
  | adopt plan =>
    rcases w.hearers_adopt plan with same | more
    · exact .rests same
    · exact .opens plan more

theorem sinkOf_of_opened {s : Session} (same : v.hearers = (w.interactor.sessions ++ [s], w.sink))
    {sink : Sink} (found : w.sinkOf owner = some sink) : v.sinkOf owner = some sink := by
  cases owner with
  | alone => exact (congrArg Prod.snd same).trans found
  | session position =>
    obtain ⟨s, here, kept⟩ := Option.map_eq_some_iff.mp found
    refine Option.map_eq_some_iff.mpr ⟨s, ?_, kept⟩
    have more : v.interactor.sessions = w.interactor.sessions ++ _ := congrArg Prod.fst same
    have bound := (List.getElem?_eq_some_iff.mp here).1
    rw [session?, more, List.getElem?_append_left bound]
    exact here

theorem Stirs.fades (stirs : Stirs w v) {sink : Sink} (found : w.sinkOf owner = some sink) :
    ∃ later, v.sinkOf owner = some later ∧ sink.Fades later := by
  cases stirs with
  | rests same => exact ⟨sink, (sinkOf_congr same owner).trans found, .same⟩
  | moves position m same =>
    cases owner with
    | alone => exact ⟨sink, (same ▸ w.sink_move position m).trans found, .same⟩
    | session other =>
      obtain ⟨s, here, rfl⟩ := Option.map_eq_some_iff.mp found
      refine ⟨_, same ▸ sinkOf_move here m, ?_⟩
      split
      · exact s.fades_step m
      · exact .same
  | changes f fades same =>
    cases owner with
    | alone =>
      refine ⟨f sink, ?_, fades sink⟩
      have changed : v.sink = w.sink.map f := congrArg Prod.snd same
      rw [Stage.sinkOf, changed, show w.sink = some sink from found]
      rfl
    | session position =>
      exact ⟨sink, (sinkOf_session_congr (congrArg Prod.fst same) position).trans found, .same⟩
  | opens plan same => exact ⟨sink, sinkOf_of_opened same found, .same⟩

theorem Stirs.letGo (stirs : Stirs w v) (gone : w.LetGo owner) : v.LetGo owner := by
  obtain ⟨sink, found, away⟩ := gone
  obtain ⟨later, there, fades⟩ := stirs.fades found
  exact ⟨later, there, fades.attached away⟩

/-- On a sound stage no session that was asked to stop has an observer. -/
def Sound (w : Stage) : Prop := ∀ s ∈ w.interactor.sessions, Session.Hushed s

theorem Stirs.sound (stirs : Stirs w v) (sound : w.Sound) : v.Sound := by
  intro s member
  cases stirs with
  | rests same =>
    have kept : v.interactor.sessions = w.interactor.sessions := congrArg Prod.fst same
    exact sound s (kept ▸ member)
  | moves position m same =>
    obtain ⟨other, found⟩ := List.mem_iff_getElem?.mp member
    have moved : v.session? other = some s := found
    rw [same, session?_move] at moved
    obtain ⟨before, here, rfl⟩ := Option.map_eq_some_iff.mp moved
    have hushed := sound before (List.mem_of_getElem? here)
    split
    · exact hushed.step m
    · exact hushed
  | changes f _ same =>
    have kept : v.interactor.sessions = w.interactor.sessions := congrArg Prod.fst same
    exact sound s (kept ▸ member)
  | opens plan same =>
    have more : v.interactor.sessions = w.interactor.sessions ++ [plan.session.start.session] :=
      congrArg Prod.fst same
    rw [more] at member
    obtain earlier | new := List.mem_append.mp member
    · exact sound s earlier
    · cases List.mem_singleton.mp new
      exact nofun

theorem LetGo.of_close (sound : w.Sound) {position : Nat} {s : Session}
    (here : w.session? position = some s) : (w.does (.move position .close)).LetGo (.session position) := by
  have moved := w.session?_move position .close position
  rw [here, Option.map_some, if_pos rfl] at moved
  refine ⟨_, congrArg (Option.map _) moved, ?_⟩
  have heard := congrArg Session.Audience.attached s.audience_close
  show s.close.session.sink.attached = false
  cases stopping : s.stopping with
  | true =>
    rw [stopping, if_pos rfl] at heard
    exact heard.trans (sound s (List.mem_of_getElem? here) stopping)
  | false =>
    rw [stopping, if_neg Bool.false_ne_true] at heard
    exact heard

theorem LetGo.of_detach (there : (w.sinkOf owner).isSome = true) :
    (w.does (.detach owner)).LetGo owner := by
  obtain ⟨sink, found⟩ := Option.isSome_iff_exists.mp there
  cases owner with
  | alone =>
    have changed : (w.changeSink Sink.detach).sink = w.sink.map Sink.detach :=
      congrArg Prod.snd (w.hearers_changeSink Sink.detach)
    refine ⟨sink.detach, ?_, rfl⟩
    rw [show w.sink = some sink from found] at changed
    exact changed
  | session position =>
    obtain ⟨s, here, rfl⟩ := Option.map_eq_some_iff.mp found
    have moved := w.session?_move position .detach position
    rw [show w.session? position = some s from here, Option.map_some, if_pos rfl] at moved
    refine ⟨_, congrArg (Option.map _) moved, ?_⟩
    exact congrArg Session.Audience.attached (s.audience_step .detach)

theorem sound_opening {scenario : Scenario} (empty : scenario.stage.interactor.sessions = [])
    (opened : scenario.opening = .ok w) : w.Sound := by
  have fresh {v : Stage} (same : v.interactor.sessions = []) : v.Sound := by
    intro s member
    simp [same] at member
  unfold Scenario.opening at opened
  dsimp only at opened
  split at opened
  · cases opened
    refine fresh ?_
    split <;> exact empty
  · cases opened
    exact fresh rfl
  · next plan _ =>
    split at opened
    · cases opened
    · next s came =>
      cases opened
      intro s' member
      cases List.mem_singleton.mp member
      rw [Session.Plan.open_eq_ok came]
      exact nofun

/-- A stage with a connector on it whose deliveries are queued. -/
def plainStage : Stage where
  interactor := ⟨.default, [Session.Plan.plainConnector.session], none⟩
  offersInteractor := false
  sink := none
  scripts := []
  secured := false
  identity := none
  provider := ⟨false, fun _ => none⟩
  surroundings := ⟨.ok "10.0.0.1", .ok [], "localhost"⟩
  random := []
  context := .queue
  queue := []
  reactions := []
  raising := []
  record := []

def eventsOf (owner : Owner) (deliveries : List (Owner × Event)) : List Event :=
  (deliveries.filter (·.1 = owner)).map Prod.snd

@[simp] theorem eventsOf_append (owner : Owner) (earlier later : List (Owner × Event)) :
    eventsOf owner (earlier ++ later) = eventsOf owner earlier ++ eventsOf owner later := by
  simp [eventsOf]

end Rehearsal.Stage

end Handover
