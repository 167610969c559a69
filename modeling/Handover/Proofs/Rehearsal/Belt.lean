import Handover.Proofs.Rehearsal.Observers

/-! The belt on which events travel. A serial context takes what is emitted to the back of its queue, or refuses
it when it has been shut down, and serves what it took from the front. Nothing else changes the queue. -/

set_option autoImplicit false

namespace Handover

namespace Context

/-- A context that takes an event for later, or refuses it as one that was shut down does. -/
def isSerial : Context → Bool
  | ownThread | queue | eventLoop _ => true
  | inline => false
  | failing f => f.isState

/-- Its owner shuts a context down. Threads of the sinks' own are shut down by the sinks. -/
def shutDown : Context → Context
  | queue => failing shutDownFault
  | eventLoop _ => eventLoop true
  | other => other

def isShut : Context → Bool
  | eventLoop closed => closed
  | failing _ => true
  | _ => false

def takes (c : Context) (s : Sink) : Bool := c.post s = .queued

theorem isSerial_shutDown {c : Context} (serial : c.isSerial = true) : c.shutDown.isSerial = true := by
  cases c with
  | queue => rfl
  | _ => exact serial

/-- A serial context takes what is posted or refuses it in the way that a sink expects. -/
theorem post_of_isSerial {c : Context} (serial : c.isSerial = true) (s : Sink) :
    c.post s = .queued ∨ c.takes s = false ∧ ∃ f, c.post s = .refused f ∧ f.isState = true := by
  unfold takes
  cases c with
  | ownThread =>
    by_cases opened : s.outlet = .own true
    · exact .inl (if_pos opened)
    · have posted : ownThread.post s = .refused shutDownFault := if_neg opened
      exact .inr ⟨by simp [posted], _, posted, rfl⟩
  | queue => exact .inl rfl
  | inline => cases serial
  | eventLoop closed =>
    cases closed with
    | false => exact .inl rfl
    | true => exact .inr ⟨rfl, _, rfl, rfl⟩
  | failing f => exact .inr ⟨by simp [post], f, rfl, serial⟩

theorem emit_of_isSerial {c : Context} (serial : c.isSerial = true) {s : Sink}
    (attached : s.attached = true) (e : Event) :
    c.emit s e = if c.takes s then .queued else .dropped (.droppedClosed e.kind) := by
  rcases post_of_isSerial serial s with posted | ⟨refused, f, posted, state⟩
  · simp [emit, submit, attached, takes, posted]
  · simp [emit, submit, attached, refused, posted, state]

theorem takes_ownThread_iff (s : Sink) : ownThread.takes s = true ↔ s.outlet = .own true := by
  by_cases opened : s.outlet = .own true <;> simp [takes, post, opened]

theorem takes_new {c : Context} (serial : c.isSerial = true) (opened : c.isShut = false) :
    c.takes (.new c.opensThreads) = true := by
  cases c with
  | inline => cases serial
  | failing => cases opened
  | eventLoop closed =>
    cases closed with
    | false => rfl
    | true => cases opened
  | ownThread | queue => rfl

theorem takes_of_fades {c : Context} {s u : Sink} (fades : s.Fades u) (taken : c.takes u = true) :
    c.takes s = true := by
  cases c with
  | ownThread => exact (takes_ownThread_iff s).mpr (fades.opened ((takes_ownThread_iff u).mp taken))
  | _ => exact taken

theorem takes_of_shutDown {c : Context} {s : Sink} (taken : c.shutDown.takes s = true) :
    c.takes s = true := by
  cases c with
  | queue => cases taken
  | eventLoop closed => cases taken
  | _ => exact taken

theorem takes_release (s : Sink) : ownThread.takes s.release = false := by
  by_contra taken
  exact s.outlet_release ((takes_ownThread_iff _).mp (by simpa using taken))

/-- A context that the sinks share takes whatever sink it is that posts. -/
theorem takes_of_shared {c : Context} (shared : c ≠ .ownThread) (s u : Sink) : c.takes s = c.takes u := by
  cases c with
  | ownThread => exact absurd rfl shared
  | _ => rfl

theorem takes_shutDown {c : Context} (serial : c.isSerial = true) (shared : c ≠ .ownThread) (s : Sink) :
    c.shutDown.takes s = false := by
  cases c with
  | ownThread => exact absurd rfl shared
  | inline => cases serial
  | queue | eventLoop | failing => rfl

end Context

namespace Rehearsal.Stage

variable {w v : Stage} {owner : Owner}

/-! ## The belt -/

def belt (w : Stage) : Context × List (Owner × Event) := (w.context, w.queue)

theorem belt_enterAll (w : Stage) (entries : List Entry) : (w.enterAll entries).belt = w.belt := by
  induction entries generalizing w with
  | nil => rfl
  | cons first rest ih => exact ih (w.enter first)

theorem belt_move (w : Stage) (position : Nat) (m : Session.Move) :
    (w.move position m).belt = w.belt := by
  unfold move
  split
  · exact belt_enterAll _ _
  · rfl

theorem belt_changeSink (w : Stage) (f : Sink → Sink) : (w.changeSink f).belt = w.belt := by
  unfold changeSink
  dsimp only
  split <;> rfl

theorem belt_present (w : Stage) (owner : Owner) (event : Event) :
    (w.present owner event).belt = w.belt := by
  unfold present call takeReaction
  split
  · split <;> rfl
  · rfl

theorem belt_detach (w : Stage) (owner : Owner) : (w.detach owner).belt = w.belt := by
  cases owner with
  | alone => exact w.belt_changeSink Sink.detach
  | session position => exact w.belt_move position .detach

theorem belt_release (w : Stage) (owner : Owner) : (w.release owner).belt = w.belt := by
  cases owner with
  | alone => exact w.belt_changeSink Sink.release
  | session position => exact w.belt_move position .release

theorem belt_draw (w : Stage) : (w.does .draw).belt = w.belt := by
  rw [does]
  unfold takeRandom
  split <;> rfl

theorem belt_adopt (w : Stage) (plan : Session.Plan) : (w.does (.adopt plan)).belt = w.belt := by
  rw [does]
  split
  · split <;> rfl
  · rfl

def isOpen (w : Stage) (owner : Owner) : Bool := (w.sinkOf owner).any w.context.takes

theorem sinkOf_of_attends (attends : w.attends owner = true) :
    ∃ sink, w.sinkOf owner = some sink ∧ sink.attached = true := by
  cases found : w.sinkOf owner with
  | none => simp [Stage.attends, found] at attends
  | some sink => exact ⟨sink, rfl, by simpa [Stage.attends, found] using attends⟩

theorem give_of_attends (serial : w.context.isSerial = true) (attends : w.attends owner = true)
    (event : Event) :
    w.give owner event =
      if w.isOpen owner then w.push owner event else w.note (.droppedClosed event.kind) := by
  obtain ⟨sink, found, attached⟩ := sinkOf_of_attends attends
  simp only [give, isOpen, found, Context.emit_of_isSerial serial attached, Option.any_some]
  cases w.context.takes sink <;> rfl

theorem belt_give (unattended : w.attends owner = false) (event : Event) :
    (w.give owner event).belt = w.belt := by
  unfold give
  cases found : w.sinkOf owner with
  | none => rfl
  | some sink =>
    have away : sink.attached = false := by simpa [attends, found] using unattended
    simp only [Context.emit_of_detached _ away]
    rfl

def accepts (w : Stage) : Deed → Option (Owner × Event)
  | .emit owner event => if w.attends owner && w.isOpen owner then some (owner, event) else none
  | _ => none

def serves (w : Stage) : Deed → Option (Owner × Event)
  | .deliver | .giveUp => w.queue.head?
  | _ => none

theorem context_does (serial : w.context.isSerial = true) (deed : Deed) :
    (w.does deed).context = w.context := by
  cases deed with
  | enter | cue | giveUp | forget => rfl
  | move position m => exact congrArg Prod.fst (w.belt_move position m)
  | emit owner event =>
    rw [does]
    cases attends : w.attends owner with
    | false => exact congrArg Prod.fst (belt_give attends event)
    | true =>
      rw [give_of_attends serial attends]
      split <;> rfl
  | deliver =>
    rw [does]
    split
    · rfl
    · exact congrArg Prod.fst (belt_present _ _ _)
  | detach owner => exact congrArg Prod.fst (w.belt_detach owner)
  | release owner => exact congrArg Prod.fst (w.belt_release owner)
  | draw => exact congrArg Prod.fst w.belt_draw
  | adopt plan => exact congrArg Prod.fst (w.belt_adopt plan)

/-- What leaves the queue was at its front, and what the context takes goes to its back. -/
theorem queue_does (serial : w.context.isSerial = true) (deed : Deed) :
    (w.serves deed).toList ++ (w.does deed).queue = w.queue ++ (w.accepts deed).toList := by
  -- A deed that is neither an emission nor a delivery leaves the belt alone.
  have still (same : (w.does deed).queue = w.queue) (quiet : w.serves deed = none)
      (idle : w.accepts deed = none) :
      (w.serves deed).toList ++ (w.does deed).queue = w.queue ++ (w.accepts deed).toList := by
    simp [same, quiet, idle]
  cases deed with
  | enter | cue | forget => exact still rfl rfl rfl
  | move position m => exact still (congrArg Prod.snd (w.belt_move position m)) rfl rfl
  | detach owner => exact still (congrArg Prod.snd (w.belt_detach owner)) rfl rfl
  | release owner => exact still (congrArg Prod.snd (w.belt_release owner)) rfl rfl
  | draw => exact still (congrArg Prod.snd w.belt_draw) rfl rfl
  | adopt plan => exact still (congrArg Prod.snd (w.belt_adopt plan)) rfl rfl
  | giveUp =>
    show w.queue.head?.toList ++ w.queue.tail = w.queue ++ []
    cases w.queue <;> simp
  | deliver =>
    show w.queue.head?.toList ++ (w.does .deliver).queue = w.queue ++ []
    cases queued : w.queue with
    | nil => simp [does, queued]
    | cons delivery rest =>
      have left : ({ w with queue := rest }.present delivery.1 delivery.2).queue = rest :=
        congrArg Prod.snd (belt_present _ _ _)
      simp [does, queued, left]
  | emit owner event =>
    show (w.give owner event).queue = w.queue ++ (w.accepts (.emit owner event)).toList
    cases attends : w.attends owner with
    | false =>
      have left : (w.give owner event).queue = w.queue := congrArg Prod.snd (belt_give attends event)
      simp [left, accepts, attends]
    | true =>
      rw [give_of_attends serial attends]
      cases opened : w.isOpen owner <;> simp [accepts, attends, opened, push, note, enter]

end Rehearsal.Stage

end Handover
