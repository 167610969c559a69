import Handover.Proofs.Rehearsal.Belt

/-! Delivery in order. A context that runs what it takes one after another calls an observer with the events
that it took, in the order in which they were emitted and once each, until the observer is let go. Once such a
context is shut down it takes nothing more, and whoever emits does not hear of that. -/

set_option autoImplicit false

namespace Handover

namespace Rehearsal.Stage

variable {w v : Stage} {owner : Owner}

/-! ## Acts -/

/-- What happens to the sinks on a stage: any deed, as long as deliveries are not given up, and the shutdown
of their context by its owner. -/
inductive Act where
  | deed (deed : Deed) (kept : deed ≠ .giveUp)
  | shutDown

def Act.next : Act := .deed .deliver nofun

def undergo (w : Stage) : Act → Stage
  | .deed deed _ => w.does deed
  | .shutDown => { w with context := w.context.shutDown }

def underwent (w : Stage) (acts : List Act) : Stage := acts.foldl undergo w

def calls (w : Stage) : Act → Option (Owner × Event)
  | .deed deed _ => w.invokes deed
  | .shutDown => none

def takes (w : Stage) : Act → Option (Owner × Event)
  | .deed deed _ => w.accepts deed
  | .shutDown => none

def called (w : Stage) : List Act → List (Owner × Event)
  | [] => []
  | first :: rest => (w.calls first).toList ++ (w.undergo first).called rest

def accepted (w : Stage) : List Act → List (Owner × Event)
  | [] => []
  | first :: rest => (w.takes first).toList ++ (w.undergo first).accepted rest

theorem underwent_cons (w : Stage) (first : Act) (rest : List Act) :
    w.underwent (first :: rest) = (w.undergo first).underwent rest := rfl

theorem underwent_append (w : Stage) (earlier later : List Act) :
    w.underwent (earlier ++ later) = (w.underwent earlier).underwent later := List.foldl_append

theorem accepted_append (w : Stage) (earlier later : List Act) :
    w.accepted (earlier ++ later) = w.accepted earlier ++ (w.underwent earlier).accepted later := by
  induction earlier generalizing w with
  | nil => rfl
  | cons first rest ih => simp [accepted, ih, underwent_cons]

theorem sinkOf_shutDown (w : Stage) (owner : Owner) : (w.undergo .shutDown).sinkOf owner = w.sinkOf owner :=
  sinkOf_congr rfl owner

theorem fades_undergo (act : Act) {sink : Sink} (found : w.sinkOf owner = some sink) :
    ∃ later, (w.undergo act).sinkOf owner = some later ∧ sink.Fades later := by
  cases act with
  | deed deed _ => exact (w.does_stirs deed).fades found
  | shutDown => exact ⟨sink, (w.sinkOf_shutDown owner).trans found, .same⟩

theorem serial_undergo (serial : w.context.isSerial = true) (act : Act) :
    (w.undergo act).context.isSerial = true := by
  cases act with
  | deed deed _ => rwa [undergo, context_does serial deed]
  | shutDown => exact Context.isSerial_shutDown serial

theorem serial_underwent (serial : w.context.isSerial = true) (acts : List Act) :
    (w.underwent acts).context.isSerial = true := by
  induction acts generalizing w with
  | nil => exact serial
  | cons first rest ih => exact ih (serial_undergo serial first)

/-! ## What is called, what is queued and what was taken -/

/-- Whatever is queued has come from a sink on the stage. -/
def Posted (w : Stage) : Prop := ∀ delivery ∈ w.queue, ∃ sink, w.sinkOf delivery.1 = some sink

theorem mem_queue_does (serial : w.context.isSerial = true) {deed : Deed} {delivery : Owner × Event}
    (queued : delivery ∈ (w.does deed).queue) :
    delivery ∈ w.queue ∨ w.accepts deed = some delivery := by
  have later : delivery ∈ (w.serves deed).toList ++ (w.does deed).queue := List.mem_append_right _ queued
  rw [queue_does serial, List.mem_append] at later
  exact later.imp_right Option.mem_toList.mp

theorem attends_of_accepts {deed : Deed} {delivery : Owner × Event}
    (accepted : w.accepts deed = some delivery) : w.attends delivery.1 = true := by
  cases deed with
  | emit owner event =>
    obtain ⟨both, same⟩ := Option.ite_none_right_eq_some.mp accepted
    cases same
    exact (Bool.and_eq_true_iff.mp both).1
  | _ => cases accepted

theorem Posted.undergo (posted : w.Posted) (serial : w.context.isSerial = true) (act : Act) :
    (w.undergo act).Posted := by
  intro delivery queued
  have known : ∃ sink, w.sinkOf delivery.1 = some sink := by
    cases act with
    | shutDown => exact posted delivery queued
    | deed deed _ =>
      rcases mem_queue_does serial queued with earlier | accepted
      · exact posted delivery earlier
      · obtain ⟨sink, found, -⟩ := sinkOf_of_attends (attends_of_accepts accepted)
        exact ⟨sink, found⟩
  obtain ⟨sink, found⟩ := known
  obtain ⟨later, there, -⟩ := fades_undergo act found
  exact ⟨later, there⟩

theorem invokes_emit_of_serial (serial : w.context.isSerial = true) (owner : Owner) (event : Event) :
    w.invokes (.emit owner event) = none := by
  refine if_neg fun immediate => ?_
  cases found : w.sinkOf owner with
  | none => simp [found] at immediate
  | some sink =>
    have posted : w.context.post sink = .immediate := by simpa [found] using immediate.2
    rcases Context.post_of_isSerial serial sink with queued | ⟨-, f, refused, -⟩
    · simp [posted] at queued
    · simp [posted] at refused

/-- What leaves the queue for an owner that was not let go is a call of its observer. -/
theorem eventsOf_invokes (posted : w.Posted) (serial : w.context.isSerial = true)
    (kept : ¬ w.LetGo owner) {deed : Deed} (goesOn : deed ≠ .giveUp) :
    eventsOf owner (w.invokes deed).toList = eventsOf owner (w.serves deed).toList := by
  cases deed with
  | giveUp => exact absurd rfl goesOn
  | emit other event =>
    rw [invokes_emit_of_serial serial]
    rfl
  | deliver =>
    cases queued : w.queue with
    | nil => simp [invokes, serves, queued]
    | cons delivery rest =>
      obtain ⟨other, event⟩ := delivery
      by_cases same : other = owner
      · subst same
        obtain ⟨sink, found⟩ := posted (other, event) (queued ▸ List.mem_cons_self)
        have attends : w.attends other = true := by
          by_contra away
          refine kept ⟨sink, found, ?_⟩
          simpa [Stage.attends, found] using away
        simp [invokes, serves, queued, attends]
      · cases attends : w.attends other <;> simp [invokes, serves, queued, attends, eventsOf, same]
  | _ => rfl

theorem belt_undergo (posted : w.Posted) (serial : w.context.isSerial = true)
    (kept : ¬ w.LetGo owner) (act : Act) :
    eventsOf owner (w.calls act).toList ++ eventsOf owner (w.undergo act).queue =
      eventsOf owner w.queue ++ eventsOf owner (w.takes act).toList := by
  cases act with
  | shutDown => simp [calls, takes, undergo, eventsOf]
  | deed deed goesOn =>
    rw [calls, takes, undergo, eventsOf_invokes posted serial kept goesOn, ← eventsOf_append,
      ← eventsOf_append, queue_does serial]

theorem LetGo.undergo (gone : w.LetGo owner) (act : Act) : (w.undergo act).LetGo owner := by
  obtain ⟨sink, found, away⟩ := gone
  obtain ⟨later, there, fades⟩ := fades_undergo act found
  exact ⟨later, there, fades.attached away⟩

theorem LetGo.underwent (gone : w.LetGo owner) (acts : List Act) : (w.underwent acts).LetGo owner := by
  induction acts generalizing w with
  | nil => exact gone
  | cons first rest ih => exact ih (gone.undergo first)

theorem belt_underwent (posted : w.Posted) (serial : w.context.isSerial = true) (acts : List Act)
    (kept : ¬ (w.underwent acts).LetGo owner) :
    eventsOf owner (w.called acts) ++ eventsOf owner (w.underwent acts).queue =
      eventsOf owner w.queue ++ eventsOf owner (w.accepted acts) := by
  induction acts generalizing w with
  | nil => simp [called, accepted, underwent, eventsOf]
  | cons first rest ih =>
    have before : ¬ w.LetGo owner := fun gone => kept (gone.underwent (first :: rest))
    have here := belt_undergo posted serial before first
    have later := ih (posted.undergo serial first) (serial_undergo serial first) kept
    rw [called, accepted, underwent_cons, eventsOf_append, eventsOf_append, List.append_assoc, later,
      ← List.append_assoc, here, List.append_assoc]

/-! ## When an observer is let go -/

def letsGo (owner : Owner) : Deed → Prop
  | .detach other => other = owner
  | .move position .close | .move position .detach => .session position = owner
  | _ => False

theorem attends_congr (same : v.hearers = w.hearers) (owner : Owner) : v.attends owner = w.attends owner := by
  rw [attends, attends, sinkOf_congr same]

theorem attends_move (attends : w.attends owner = true) {position : Nat} {m : Session.Move}
    (kept : ¬ letsGo owner (.move position m)) : (w.move position m).attends owner = true := by
  obtain ⟨sink, found, attached⟩ := sinkOf_of_attends attends
  cases owner with
  | alone =>
    have same : (w.move position m).sinkOf .alone = w.sinkOf .alone := w.sink_move position m
    rw [Stage.attends, same]
    exact attends
  | session other =>
    obtain ⟨s, here, rfl⟩ := Option.map_eq_some_iff.mp found
    rw [Stage.attends, sinkOf_move here, Option.any_some]
    split
    · next same =>
      have heard := congrArg Session.Audience.attached (s.audience_step m)
      change (s.step m).session.sink.attached = _ at heard
      rw [heard]
      cases m with
      | close | detach => exact absurd (congrArg Owner.session same.symm) kept
      | _ => exact attached
    · exact attached

theorem attends_changeSink (attends : w.attends owner = true) {f : Sink → Sink}
    (kept : owner = .alone → ∀ sink : Sink, (f sink).attached = sink.attached) :
    (w.changeSink f).attends owner = true := by
  have same := w.hearers_changeSink f
  cases owner with
  | alone =>
    have changed : (w.changeSink f).sink = w.sink.map f := congrArg Prod.snd same
    rw [Stage.attends, sinkOf, changed, Option.any_map]
    rw [← attends]
    exact congrArg (Option.any · w.sink) (funext (kept rfl))
  | session position =>
    rw [Stage.attends, sinkOf_session_congr (congrArg Prod.fst same)]
    exact attends

theorem attends_does (attends : w.attends owner = true) {deed : Deed} (kept : ¬ letsGo owner deed) :
    (w.does deed).attends owner = true := by
  cases deed with
  | enter | cue | giveUp | forget => exact attends
  | move position m => exact attends_move attends kept
  | emit other event => exact (attends_congr (w.hearers_give other event) owner).trans attends
  | deliver => exact (attends_congr w.hearers_deliver owner).trans attends
  | detach other =>
    cases other with
    | alone => exact attends_changeSink attends fun same => absurd same.symm kept
    | session position => exact attends_move attends kept
  | release other =>
    cases other with
    | alone => exact attends_changeSink attends fun _ sink => sink.attached_release
    | session position => exact attends_move attends id
  | draw => exact (attends_congr w.hearers_draw owner).trans attends
  | adopt plan =>
    rcases w.hearers_adopt plan with same | more
    · exact (attends_congr same owner).trans attends
    · obtain ⟨sink, found, attached⟩ := sinkOf_of_attends attends
      rw [Stage.attends, sinkOf_of_opened more found, Option.any_some]
      exact attached

theorem attends_underwent (attends : w.attends owner = true) {acts : List Act}
    (kept : ∀ deed goesOn, Act.deed deed goesOn ∈ acts → ¬ letsGo owner deed) :
    (w.underwent acts).attends owner = true := by
  induction acts generalizing w with
  | nil => exact attends
  | cons first rest ih =>
    refine ih ?_ fun deed goesOn member => kept deed goesOn (List.mem_cons_of_mem _ member)
    cases first with
    | deed deed goesOn => exact attends_does attends (kept deed goesOn List.mem_cons_self)
    | shutDown => exact (attends_congr rfl owner).trans attends

/-! ## The shutdown of a context -/

theorem isOpen_undergo (serial : w.context.isSerial = true) (there : (w.sinkOf owner).isSome = true)
    (act : Act) (opened : (w.undergo act).isOpen owner = true) : w.isOpen owner = true := by
  obtain ⟨sink, found⟩ := Option.isSome_iff_exists.mp there
  obtain ⟨later, here, fades⟩ := fades_undergo act found
  rw [isOpen, here, Option.any_some] at opened
  rw [isOpen, found, Option.any_some]
  refine Context.takes_of_fades fades ?_
  cases act with
  | deed deed _ => rwa [undergo, context_does serial] at opened
  | shutDown => exact Context.takes_of_shutDown opened

theorem isOpen_underwent (serial : w.context.isSerial = true) (there : (w.sinkOf owner).isSome = true)
    (acts : List Act) (shut : w.isOpen owner = false) : (w.underwent acts).isOpen owner = false := by
  induction acts generalizing w with
  | nil => exact shut
  | cons first rest ih =>
    obtain ⟨sink, found⟩ := Option.isSome_iff_exists.mp there
    obtain ⟨later, here, -⟩ := fades_undergo first found
    refine ih (serial_undergo serial first) (Option.isSome_iff_exists.mpr ⟨later, here⟩) ?_
    by_contra opened
    have earlier := isOpen_undergo serial there first (by simpa using opened)
    simp [shut] at earlier

theorem sinkOf_release (w : Stage) (owner other : Owner) : (w.does (.release owner)).sinkOf other =
    (w.sinkOf other).map fun sink => if other = owner then sink.release else sink := by
  cases owner with
  | alone =>
    have same : (w.does (.release .alone)).hearers = _ := w.hearers_changeSink Sink.release
    cases other with
    | alone =>
      rw [sinkOf, show (w.does (.release .alone)).sink = w.sink.map Sink.release from congrArg Prod.snd same]
      rfl
    | session position => simp [sinkOf_session_congr (congrArg Prod.fst same)]
  | session position =>
    show (w.move position .release).sinkOf other = _
    cases other with
    | alone => simpa [sinkOf] using w.sink_move position .release
    | session other =>
      cases here : w.session? other with
      | none => simp [sinkOf, session?_move, here]
      | some s =>
        rw [sinkOf_move here, Session.step, Session.Turn.session_releaseThread]
        simp [sinkOf, here]

/-- A sink that is closed shuts down a thread of its own, and nothing else. -/
theorem isOpen_release (serial : w.context.isSerial = true) (owner other : Owner) :
    (w.does (.release owner)).isOpen other =
      (w.isOpen other && !(w.context = .ownThread && other = owner)) := by
  rw [isOpen, isOpen, sinkOf_release, context_does serial]
  cases found : w.sinkOf other with
  | none => rfl
  | some sink =>
    simp only [Option.map_some, Option.any_some]
    by_cases same : other = owner
    · by_cases own : w.context = .ownThread
      · simp [same, own, Context.takes_release]
      · simp [same, own, Context.takes_of_shared own sink.release sink]
    · simp [same]

theorem attends_release (w : Stage) (owner other : Owner) :
    (w.does (.release owner)).attends other = w.attends other := by
  rw [attends, attends, sinkOf_release]
  cases w.sinkOf other with
  | none => rfl
  | some sink =>
    simp only [Option.map_some, Option.any_some]
    split
    · exact sink.attached_release
    · rfl

/-- The acts that shut down the context of a lone sink: its owner's, or the closing and the detaching of a sink
with a thread of its own. -/
def shuts (c : Context) : Act → Prop
  | .shutDown => c ≠ .ownThread
  | .deed (.release owner) _ | .deed (.detach owner) _ => c = .ownThread ∧ owner = .alone
  | _ => False

theorem sink_does {deed : Deed} (kept : deed ≠ .release .alone ∧ deed ≠ .detach .alone) :
    (w.does deed).sink = w.sink := by
  cases deed with
  | enter | cue | giveUp | forget => rfl
  | move position m => exact w.sink_move position m
  | emit owner event => exact congrArg Prod.snd (w.hearers_give owner event)
  | deliver => exact congrArg Prod.snd w.hearers_deliver
  | detach owner =>
    cases owner with
    | alone => exact absurd rfl kept.2
    | session position => exact w.sink_move position .detach
  | release owner =>
    cases owner with
    | alone => exact absurd rfl kept.1
    | session position => exact w.sink_move position .release
  | draw => exact congrArg Prod.snd w.hearers_draw
  | adopt plan =>
    rcases w.hearers_adopt plan with same | more
    · exact congrArg Prod.snd same
    · exact congrArg Prod.snd more

/-- The context of a lone sink is open until it is shut down. -/
theorem opened_undergo (serial : w.context.isSerial = true) (opened : w.isOpen .alone = true) {act : Act}
    (kept : ¬ shuts w.context act) :
    (w.undergo act).context = w.context ∧ (w.undergo act).isOpen .alone = true := by
  cases act with
  | shutDown =>
    have own : w.context = .ownThread := not_not.mp kept
    have same : (w.undergo .shutDown).context = w.context := by rw [undergo, own]; rfl
    refine ⟨same, ?_⟩
    rw [isOpen, same, sinkOf_shutDown]
    exact opened
  | deed deed goesOn =>
    have same : (w.undergo (.deed deed goesOn)).context = w.context := context_does serial deed
    refine ⟨same, ?_⟩
    rw [isOpen, same]
    cases found : w.sinkOf .alone with
    | none => simp [isOpen, found] at opened
    | some sink =>
      obtain ⟨later, there, -⟩ := (w.does_stirs deed).fades found
      have taken : w.context.takes sink = true := by simpa [isOpen, found] using opened
      show ((w.does deed).sinkOf .alone).any w.context.takes = true
      rw [there, Option.any_some]
      by_cases own : w.context = .ownThread
      · have still : (w.does deed).sink = w.sink := by
          refine sink_does ⟨?_, ?_⟩
          · rintro rfl
            exact kept ⟨own, rfl⟩
          · rintro rfl
            exact kept ⟨own, rfl⟩
        obtain rfl : sink = later := Option.some.inj (found.symm.trans (still.symm.trans there))
        exact taken
      · rw [Context.takes_of_shared own later sink]
        exact taken

theorem opened_underwent (serial : w.context.isSerial = true) (opened : w.isOpen .alone = true)
    {acts : List Act} (kept : ∀ act ∈ acts, ¬ shuts w.context act) :
    (w.underwent acts).isOpen .alone = true := by
  induction acts generalizing w with
  | nil => exact opened
  | cons first rest ih =>
    obtain ⟨here, later⟩ := List.forall_mem_cons.mp kept
    obtain ⟨same, still⟩ := opened_undergo serial opened here
    exact ih (serial_undergo serial first) still fun act member => same ▸ later act member

/-! ## Emissions and deliveries -/

theorem emit_of_serial (serial : w.context.isSerial = true) (fuel : Nat) (owner : Owner) (event : Event) :
    w.emit (fuel + 1) owner event = (none, w.does (.emit owner event)) := by
  rw [emit, does, give]
  cases found : w.sinkOf owner with
  | none => rfl
  | some sink =>
    cases attached : sink.attached with
    | false => simp only [Context.emit_of_detached _ attached]
    | true =>
      simp only [Context.emit_of_isSerial serial attached]
      cases w.context.takes sink <;> rfl

/-- What an observer does in a delivery, and that it raises at the end of it, stays in the delivery. -/
theorem deliverQueued_of_attends {event : Event} {rest : List (Owner × Event)}
    (queued : w.queue = (owner, event) :: rest) (attends : w.attends owner = true) (fuel : Nat) :
    w.deliverQueued (fuel + 2) (some 1) 0 =
      let reacted := (w.does .deliver).performAll fuel (w.takeReaction event.kind).1
      (.count 1,
        if event.kind ∈ w.raising then reacted.note (.observerFailed event.kind) else reacted) := by
  have there : Stage.attends { w with queue := rest } owner = true := attends
  have reaction : (call { w with queue := rest } event).1 = (w.takeReaction event.kind).1 := by
    unfold call takeReaction enter
    dsimp only
    split <;> rfl
  have shown : w.does .deliver = (call { w with queue := rest } event).2 := by
    simp only [does, queued, present]
    exact if_pos there
  -- The first round delivers, the second one finds its limit reached.
  rw [deliverQueued, queued, shown, ← reaction]
  simp only [deliver, if_pos there, deliverQueued]
  rfl

theorem heard_underwent (w : Stage) (acts : List Act) :
    (w.underwent acts).heard = ((w.called acts).map Prod.snd).reverse ++ w.heard := by
  induction acts generalizing w with
  | nil => rfl
  | cons first rest ih =>
    have here : (w.undergo first).heard = ((w.calls first).map Prod.snd).toList ++ w.heard := by
      cases first with
      | deed deed _ => exact w.heard_does deed
      | shutDown => rfl
    rw [underwent_cons, ih, here, called]
    cases w.calls first <;> simp

theorem drained (serial : w.context.isSerial = true) :
    (w.underwent (List.replicate w.queue.length .next)).queue = [] ∧
      w.accepted (List.replicate w.queue.length .next) = [] := by
  generalize counted : w.queue.length = count
  induction count generalizing w with
  | zero => exact ⟨List.length_eq_zero_iff.mp counted, rfl⟩
  | succ count ih =>
    have left : w.queue.head?.toList ++ (w.does .deliver).queue = w.queue ++ [] := queue_does serial .deliver
    have shorter : (w.does .deliver).queue.length = count := by
      cases queued : w.queue with
      | nil => simp [queued] at counted
      | cons delivery rest =>
        have same : (w.does .deliver).queue = rest := by simpa [queued] using left
        rw [same]
        simpa [queued] using counted
    obtain ⟨done, nothing⟩ := ih (serial_undergo serial .next) shorter
    rw [List.replicate_succ, underwent_cons, accepted]
    exact ⟨done, nothing⟩

/-! ## Delivery in order -/

/-- What a sink, its observer and whoever emits can count on when acts have led from one stage to another. -/
structure Orderly (w : Stage) (acts : List Act) (v : Stage) : Prop where
  /-- The calls of an observer that was not let go, followed by what is queued for it, are the events that the
  context took for it, in the order in which they were emitted and once each. -/
  ordered : ∀ owner, v.attends owner = true →
    eventsOf owner (w.called acts) ++ eventsOf owner v.queue = eventsOf owner (w.accepted acts)
  /-- An observer stays until it is let go. -/
  stays : ∀ owner, w.attends owner = true →
    (∀ deed kept, Act.deed deed kept ∈ acts → ¬ letsGo owner deed) → v.attends owner = true
  recorded : v.heard = ((w.called acts).map Prod.snd).reverse ++ w.heard
  /-- No fault reaches whoever emits. -/
  unharmed : ∀ fuel owner event, v.emit (fuel + 1) owner event = (none, v.does (.emit owner event))
  /-- The context takes an event while it is open, after that the event is lost. -/
  emitted : ∀ owner event, v.attends owner = true → v.does (.emit owner event) =
    if v.isOpen owner then v.push owner event else v.note (.droppedClosed event.kind)
  /-- The context of a sink is open until it is shut down. -/
  opened : w.sink = some (.new w.context.opensThreads) → w.context.isShut = false →
    (∀ act ∈ acts, ¬ shuts w.context act) → v.isOpen .alone = true
  /-- It does not open again. -/
  shut : ∀ owner, (v.sinkOf owner).isSome = true → v.isOpen owner = false →
    ∀ later, (v.underwent later).isOpen owner = false
  /-- Its owner shuts down a context that is no thread of a sink's own. -/
  ended : v.context ≠ .ownThread → ∀ owner, (v.undergo .shutDown).isOpen owner = false
  /-- Closing a sink shuts down a thread of its own; the queue, the observers and any other context stay. -/
  closed : ∀ owner other, (v.does (.release owner)).queue = v.queue ∧
    (v.does (.release owner)).attends other = v.attends other ∧
    (v.does (.release owner)).isOpen other =
      (v.isOpen other && !(v.context = .ownThread && other = owner))
  /-- What is queued is still heard. -/
  drained : ∀ owner, v.attends owner = true →
    eventsOf owner (w.called (acts ++ List.replicate v.queue.length .next)) = eventsOf owner (w.accepted acts)
  /-- What an observer does in a delivery, and that it raises at the end of it, stays in the delivery. -/
  contained : ∀ fuel owner event rest, v.queue = (owner, event) :: rest → v.attends owner = true →
    v.deliverQueued (fuel + 2) (some 1) 0 =
      let reacted := (v.does .deliver).performAll fuel (v.takeReaction event.kind).1
      (.count 1, if event.kind ∈ v.raising then reacted.note (.observerFailed event.kind) else reacted)

/-- Whatever happens to the sinks on a stage whose context is serial, their events are delivered in order and
exactly once, until an observer is let go or the context is shut down. -/
theorem delivered_in_order {w : Stage} (serial : w.context.isSerial = true) (empty : w.queue = [])
    (acts : List Act) : Orderly w acts (w.underwent acts) := by
  have later := serial_underwent serial acts
  have posted : w.Posted := by simp [Posted, empty]
  -- The same count for any acts that begin here; the deliveries of what is queued are such acts, too.
  have counted (acts : List Act) {owner : Owner} (attends : (w.underwent acts).attends owner = true) :
      eventsOf owner (w.called acts) ++ eventsOf owner (w.underwent acts).queue =
        eventsOf owner (w.accepted acts) := by
    have kept : ¬ (w.underwent acts).LetGo owner := fun gone => by simp [gone.not_attends] at attends
    have count := belt_underwent posted serial acts kept
    rw [empty] at count
    exact count
  refine
    { ordered := fun owner => counted acts
      stays := fun owner attends => attends_underwent attends
      recorded := w.heard_underwent acts
      unharmed := emit_of_serial later
      emitted := fun owner event attends => give_of_attends later attends event
      opened := fun fresh free => opened_underwent serial ?_
      shut := fun owner there shut more => isOpen_underwent later there more shut
      ended := fun shared owner => ?_
      closed := fun owner other => ⟨congrArg Prod.snd (belt_release _ owner), attends_release _ owner other,
        isOpen_release later owner other⟩
      drained := fun owner attends => ?_
      contained := fun fuel owner event rest queued attends => deliverQueued_of_attends queued attends fuel }
  · rw [isOpen, sinkOf, fresh]
    exact Context.takes_new serial free
  · rw [isOpen, sinkOf_shutDown]
    cases (w.underwent acts).sinkOf owner with
    | none => rfl
    | some sink => exact Context.takes_shutDown later shared sink
  · obtain ⟨done, nothing⟩ := drained later
    have stays : ((w.underwent acts).underwent
        (List.replicate (w.underwent acts).queue.length .next)).attends owner = true := by
      refine attends_underwent attends fun deed kept member => ?_
      cases List.eq_of_mem_replicate member
      exact id
    rw [← underwent_append] at stays done
    have count := counted _ stays
    rw [done, accepted_append, nothing, List.append_nil] at count
    exact (List.append_nil _).symm.trans count

/-- A stage with nothing on it but a sink. -/
def loneStage (context : Context) : Stage :=
  { plainStage with
    interactor := .new .default
    sink := some (.new context.opensThreads)
    context := context }

/-- An event that was queued before a thread of the sink's own was shut down is heard, one that comes after
that is lost. -/
theorem delivered_in_order_closed :
    let w := loneStage .ownThread
    let acts : List Act :=
      [.deed (.emit .alone .lost) nofun, .deed (.release .alone) nofun, .deed (.emit .alone .connectFailed) nofun]
    w.context.isSerial = true ∧ w.queue = [] ∧ (w.underwent acts).attends .alone = true ∧
      eventsOf .alone (w.called (acts ++ [.next])) = [.lost] := by
  intro w acts
  have orderly : Orderly w acts (w.underwent acts) := delivered_in_order rfl rfl acts
  exact ⟨rfl, rfl, rfl, orderly.drained .alone rfl⟩

/-- A queue takes what is emitted after the sink was closed, and the observer hears it. -/
theorem heard_after_close_on_queue :
    ((loneStage .queue).performAll 9 [.releaseSink, .emit .lost, .deliver none]).heard = [.lost] := by
  cbv

end Rehearsal.Stage

end Handover
