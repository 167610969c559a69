import Handover.Proofs.Rehearsal.Observers
import Mathlib.Data.List.Perm.Basic

/-! Errands. An emission asks its sink for an observer and then posts the delivery; a delivery looks for the
observer and then calls it. The sink is free in between, so any other thread can act there. A scene is a stage
with the errands that are under way, and a motion is one step of any thread. -/

set_option autoImplicit false

namespace Handover.Rehearsal

/-- What a thread has still to do once it has left the sink alone. -/
inductive Errand where
  /-- The sink has an observer; the delivery is to be posted. -/
  | posting (owner : Owner) (event : Event)
  /-- The delivery has begun; the observer is to be looked for. -/
  | looking (owner : Owner) (event : Event)
  /-- The observer was found; it is to be called. -/
  | calling (owner : Owner) (event : Event)

namespace Errand

def calls? : Errand → Option (Owner × Event)
  | calling owner event => some (owner, event)
  | _ => none

def posts? : Errand → Option (Owner × Event)
  | posting owner event => some (owner, event)
  | _ => none

end Errand

def Stage.submit (w : Stage) (owner : Owner) (event : Event) : Stage × Option Errand :=
  match w.sinkOf owner with
  | none => (w, none)
  | some sink =>
      match w.context.submit sink event with
      | .dropped notice => (w.note notice, none)
      | .queued => (w.push owner event, none)
      | .immediate => (w, some (.looking owner event))
      | .failed _ => (w, none)

def Errand.step (w : Stage) : Errand → Stage × Option Errand
  | .posting owner event => w.submit owner event
  | .looking owner event => (w, if w.attends owner then some (.calling owner event) else none)
  | .calling _ event => ((w.call event).2, none)

/-- Nothing else can happen in the middle of a brief deed. -/
def Deed.isBrief : Deed → Bool
  | .emit _ _ | .deliver => false
  | _ => true

structure Scene where
  stage : Stage
  errands : List Errand

inductive Motion where
  | deed (deed : Deed) (brief : deed.isBrief = true)
  /-- An emission begins. -/
  | ask (owner : Owner) (event : Event)
  /-- The next queued delivery begins. -/
  | begin
  /-- The errand at a place goes on. -/
  | goOn (place : Nat)

namespace Scene

def idle (w : Stage) : Scene := ⟨w, []⟩

def does (c : Scene) : Motion → Scene
  | .deed deed _ => { c with stage := c.stage.does deed }
  | .ask owner event =>
      match c.stage.sinkOf owner with
      | none => c
      | some sink =>
          if sink.attached then { c with errands := c.errands ++ [.posting owner event] }
          else { c with stage := c.stage.note (.droppedDetached event.kind) }
  | .begin =>
      match c.stage.queue with
      | [] => c
      | (owner, event) :: rest =>
          ⟨{ c.stage with queue := rest }, c.errands ++ [.looking owner event]⟩
  | .goOn place =>
      match c.errands[place]? with
      | none => c
      | some errand =>
          ⟨(errand.step c.stage).1, c.errands.eraseIdx place ++ (errand.step c.stage).2.toList⟩

def after (c : Scene) (motions : List Motion) : Scene := motions.foldl does c

def course (c : Scene) : List Motion → List (Scene × Motion)
  | [] => []
  | first :: rest => (c, first) :: (c.does first).course rest

variable {c : Scene}

theorem after_cons (c : Scene) (first : Motion) (rest : List Motion) :
    c.after (first :: rest) = (c.does first).after rest := rfl

theorem after_append (c : Scene) (earlier later : List Motion) :
    c.after (earlier ++ later) = (c.after earlier).after later := List.foldl_append

theorem does_goOn {place : Nat} {errand : Errand} (there : c.errands[place]? = some errand) :
    c.does (.goOn place) =
      ⟨(errand.step c.stage).1, c.errands.eraseIdx place ++ (errand.step c.stage).2.toList⟩ := by
  simp [does, there]

/-! ## Deeds as motions -/

theorem goOn_single (w : Stage) (errand : Errand) :
    does ⟨w, [errand]⟩ (.goOn 0) = ⟨(errand.step w).1, (errand.step w).2.toList⟩ := by
  simp [does]

theorem goOn_idle (w : Stage) : (idle w).does (.goOn 0) = idle w := by simp [does, idle]

/-- A delivery that nobody interrupts. -/
theorem after_looking (w : Stage) (owner : Owner) (event : Event) :
    after ⟨w, [.looking owner event]⟩ [.goOn 0, .goOn 0] = idle (w.present owner event) := by
  rw [after_cons, after_cons, goOn_single]
  cases attends : w.attends owner with
  | true =>
    simp only [Errand.step, Stage.present, attends, if_true]
    rfl
  | false =>
    simp only [Errand.step, Stage.present, attends, Bool.false_eq_true, if_false]
    exact goOn_idle w

theorem after_begin (w : Stage) :
    (idle w).after [.begin, .goOn 0, .goOn 0] = idle (w.does .deliver) := by
  rw [after_cons]
  cases queued : w.queue with
  | nil =>
    have still : (idle w).does .begin = idle w := by simp [does, idle, queued]
    rw [still, after_cons, goOn_idle, after_cons, goOn_idle, Stage.does, queued]
    rfl
  | cons delivery rest =>
    have begun : (idle w).does .begin = ⟨{ w with queue := rest }, [.looking delivery.1 delivery.2]⟩ := by
      simp [does, idle, queued]
    rw [begun, after_looking, Stage.does, queued]

/-- An emission that nobody interrupts. -/
theorem after_ask (w : Stage) (owner : Owner) (event : Event) :
    (idle w).after [.ask owner event, .goOn 0, .goOn 0, .goOn 0] = idle (w.does (.emit owner event)) := by
  have rests (v : Stage) : (idle v).after [.goOn 0, .goOn 0, .goOn 0] = idle v := by
    rw [after_cons, goOn_idle, after_cons, goOn_idle, after_cons, goOn_idle]
    rfl
  rw [after_cons, Stage.does, Stage.give]
  cases found : w.sinkOf owner with
  | none =>
    have still : (idle w).does (.ask owner event) = idle w := by simp [does, idle, found]
    rw [still, rests]
  | some sink =>
    cases attached : sink.attached with
    | false =>
      have dropped : (idle w).does (.ask owner event) = idle (w.note (.droppedDetached event.kind)) := by
        simp [does, idle, found, attached]
      simp only [dropped, rests, Context.emit_of_detached _ attached]
    | true =>
      have asked : (idle w).does (.ask owner event) = ⟨w, [.posting owner event]⟩ := by
        simp [does, idle, found, attached]
      have ends (v : Stage) : after ⟨v, []⟩ [.goOn 0, .goOn 0] = idle v := by
        rw [← idle, after_cons, goOn_idle, after_cons, goOn_idle]
        rfl
      simp only [asked, Context.emit_of_attached _ attached]
      rw [after_cons, goOn_single]
      simp only [Errand.step, Stage.submit, found]
      cases w.context.submit sink event with
      | immediate => exact after_looking w owner event
      | dropped | queued | failed => exact ends _

theorem after_deed (w : Stage) (deed : Deed) :
    ∃ motions, (idle w).after motions = idle (w.does deed) := by
  cases deed with
  | emit owner event => exact ⟨_, after_ask w owner event⟩
  | deliver => exact ⟨_, after_begin w⟩
  | enter entry quiet => exact ⟨[.deed (.enter entry quiet) rfl], rfl⟩
  | cue position script => exact ⟨[.deed (.cue position script) rfl], rfl⟩
  | move position m => exact ⟨[.deed (.move position m) rfl], rfl⟩
  | giveUp => exact ⟨[.deed .giveUp rfl], rfl⟩
  | detach owner => exact ⟨[.deed (.detach owner) rfl], rfl⟩
  | release owner => exact ⟨[.deed (.release owner) rfl], rfl⟩
  | draw => exact ⟨[.deed .draw rfl], rfl⟩
  | adopt plan => exact ⟨[.deed (.adopt plan) rfl], rfl⟩
  | forget => exact ⟨[.deed .forget rfl], rfl⟩

theorem after_deeds (w : Stage) (deeds : List Deed) :
    ∃ motions, (idle w).after motions = idle (w.after deeds) := by
  induction deeds generalizing w with
  | nil => exact ⟨[], rfl⟩
  | cons first rest ih =>
    obtain ⟨earlier, begun⟩ := after_deed w first
    obtain ⟨later, done⟩ := ih (w.does first)
    exact ⟨earlier ++ later, by rw [after_append, begun, done]; rfl⟩

/-! ## What motions make of errands -/

def spends (c : Scene) : Motion → Option Errand
  | .goOn place => c.errands[place]?
  | _ => none

def leaves (c : Scene) : Motion → Option Errand
  | .deed _ _ => none
  | .ask owner event => if c.stage.attends owner then some (.posting owner event) else none
  | .begin => c.stage.queue.head?.map fun delivery => .looking delivery.1 delivery.2
  | .goOn place => c.errands[place]?.bind fun errand => (errand.step c.stage).2

/-- What a motion makes of an errand of some kind. -/
def makes (kind : Errand → Option (Owner × Event)) (c : Scene) (m : Motion) : Option (Owner × Event) :=
  (c.spends m).bind kind

/-- What motions make of the errands of some kind, the first one first. -/
def made (kind : Errand → Option (Owner × Event)) (c : Scene) (motions : List Motion) :
    List (Owner × Event) :=
  (c.course motions).filterMap fun seen => makes kind seen.1 seen.2

def invocations (c : Scene) (motions : List Motion) : List (Owner × Event) := c.made Errand.calls? motions

def postings (c : Scene) (motions : List Motion) : List (Owner × Event) := c.made Errand.posts? motions

theorem made_cons (kind : Errand → Option (Owner × Event)) (c : Scene) (first : Motion)
    (rest : List Motion) :
    c.made kind (first :: rest) = (makes kind c first).toList ++ (c.does first).made kind rest := by
  rw [made, course, List.filterMap_cons, made]
  cases makes kind c first <;> rfl

theorem errands_does (c : Scene) (m : Motion) :
    List.Perm ((c.spends m).toList ++ (c.does m).errands) (c.errands ++ (c.leaves m).toList) := by
  cases m with
  | deed => simp [does, spends, leaves]
  | ask owner event =>
    rw [does, leaves, Stage.attends]
    cases found : c.stage.sinkOf owner with
    | none => simp [spends]
    | some sink => cases attached : sink.attached <;> simp [spends, attached]
  | begin =>
    rw [does, leaves]
    cases queued : c.stage.queue <;> simp [spends]
  | goOn place =>
    cases there : c.errands[place]? with
    | none => simp [does, spends, leaves, there]
    | some errand =>
      rw [does_goOn there, spends, leaves, there, ← List.append_assoc]
      refine List.Perm.append_right _ ?_
      obtain ⟨bound, rfl⟩ := List.getElem?_eq_some_iff.mp there
      exact List.getElem_cons_eraseIdx_perm bound

/-- The errands of some kind that go on or are left are those that were there or come. -/
theorem ledger_does (kind : Errand → Option (Owner × Event)) (c : Scene) (m : Motion) :
    List.Perm ((makes kind c m).toList ++ (c.does m).errands.filterMap kind)
      (c.errands.filterMap kind ++ ((c.leaves m).bind kind).toList) := by
  have moved := (c.errands_does m).filterMap kind
  rw [List.filterMap_append, List.filterMap_append] at moved
  have single (errand : Option Errand) : errand.toList.filterMap kind = (errand.bind kind).toList := by
    cases errand with
    | none => rfl
    | some errand => cases same : kind errand <;> simp [same]
  rwa [single, single] at moved

theorem heard_submit (w : Stage) (owner : Owner) (event : Event) :
    (w.submit owner event).1.heard = w.heard := by
  unfold Stage.submit
  split
  · rfl
  · split
    · exact w.heard_enter rfl
    · rfl
    · rfl
    · rfl

theorem heard_does (c : Scene) (m : Motion) :
    (c.does m).stage.heard = ((makes Errand.calls? c m).map Prod.snd).toList ++ c.stage.heard := by
  cases m with
  | deed deed brief =>
    -- A brief deed calls no observer.
    have quiet : c.stage.invokes deed = none := by
      cases deed with
      | emit | deliver => cases brief
      | _ => rfl
    have heard := c.stage.heard_does deed
    rwa [quiet] at heard
  | ask owner event =>
    rw [does]
    split
    · rfl
    · split
      · rfl
      · exact c.stage.heard_enter rfl
  | begin =>
    rw [does]
    split <;> rfl
  | goOn place =>
    cases there : c.errands[place]? with
    | none => simp [does, makes, spends, there]
    | some errand =>
      rw [does_goOn there, makes, spends, there]
      cases errand with
      | posting owner event => exact heard_submit c.stage owner event
      | looking => rfl
      | calling owner event => exact c.stage.heard_call event

theorem heard_after (c : Scene) (motions : List Motion) :
    (c.after motions).stage.heard = ((c.invocations motions).map Prod.snd).reverse ++ c.stage.heard := by
  induction motions generalizing c with
  | nil => rfl
  | cons first rest ih =>
    rw [after_cons, ih, heard_does, invocations, invocations, made_cons]
    cases makes Errand.calls? c first <;> simp

end Scene

end Handover.Rehearsal
