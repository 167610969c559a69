import Handover.Rehearsal.Play

/-! What happens on a stage, one thing at a time. Whatever a rehearsal plays, by whatever nesting of calls,
is a list of deeds, each of which changes the stage at once: a session makes a move, a sink is given an event,
the next queued delivery runs. What every deed keeps holds at every moment of every rehearsal. -/

set_option autoImplicit false

namespace Handover.Rehearsal

/-- The event that an entry says the observer was called with. -/
def Entry.event? : Entry → Option Event
  | .event e => some e
  | _ => none

inductive Deed where
  /-- Anything but a call of the observer is recorded. -/
  | enter (entry : Entry) (quiet : entry.event? = none)
  | cue (position : Nat) (script : Script)
  | move (position : Nat) (m : Session.Move)
  | emit (owner : Owner) (event : Event)
  /-- The next queued delivery runs. -/
  | deliver
  /-- The next queued delivery is given up, as the depth of the rehearsal is used up. -/
  | giveUp
  | detach (owner : Owner)
  | release (owner : Owner)
  | draw
  /-- The interactor opens and starts a session, unless it has an active one. -/
  | adopt (plan : Session.Plan)
  | forget

namespace Stage

/-- A delivery runs up to the reaction of the observer. -/
def present (w : Stage) (owner : Owner) (event : Event) : Stage :=
  if w.attends owner then (w.call event).2 else w

def give (w : Stage) (owner : Owner) (event : Event) : Stage :=
  match w.sinkOf owner with
  | none => w
  | some sink =>
      match w.context.emit sink event with
      | .dropped notice => w.note notice
      | .queued => w.push owner event
      | .immediate => w.present owner event
      | .failed _ => w

def does (w : Stage) : Deed → Stage
  | .enter entry _ => w.enter entry
  | .cue position script => w.setScript position script
  | .move position m => w.move position m
  | .emit owner event => w.give owner event
  | .deliver =>
      match w.queue with
      | [] => w
      | (owner, event) :: rest => { w with queue := rest }.present owner event
  | .giveUp => { w with queue := w.queue.tail }
  | .detach owner => w.detach owner
  | .release owner => w.release owner
  | .draw => w.takeRandom.2
  | .adopt plan =>
      if w.interactor.isIdle then
        match (w.interactor.adopt plan).2 with
        | .ok interactor => { w with interactor := interactor }
        | .error _ => w
      else w
  | .forget => { w with interactor := w.interactor.forget }

def after (w : Stage) (deeds : List Deed) : Stage := deeds.foldl does w

def course (w : Stage) : List Deed → List (Stage × Deed)
  | [] => []
  | first :: rest => (w, first) :: (w.does first).course rest

@[simp] theorem course_nil (w : Stage) : w.course [] = [] := rfl

@[simp] theorem course_cons (w : Stage) (first : Deed) (rest : List Deed) :
    w.course (first :: rest) = (w, first) :: (w.does first).course rest := rfl

@[simp] theorem after_nil (w : Stage) : w.after [] = w := rfl

@[simp] theorem after_cons (w : Stage) (first : Deed) (rest : List Deed) :
    w.after (first :: rest) = (w.does first).after rest := rfl

theorem after_append (w : Stage) (earlier later : List Deed) :
    w.after (earlier ++ later) = (w.after earlier).after later := List.foldl_append

def Leads (w v : Stage) : Prop := ∃ deeds, v = w.after deeds

namespace Leads

variable {w v u : Stage}

theorem refl (w : Stage) : Leads w w := ⟨[], rfl⟩

theorem trans (first : Leads w v) (second : Leads v u) : Leads w u := by
  obtain ⟨earlier, rfl⟩ := first
  obtain ⟨later, rfl⟩ := second
  exact ⟨earlier ++ later, (w.after_append earlier later).symm⟩

theorem deed (w : Stage) (deed : Deed) : Leads w (w.does deed) := ⟨[deed], rfl⟩

theorem next (first : Leads w v) (deed : Deed) : Leads w (v.does deed) := first.trans (.deed v deed)

theorem enter (w : Stage) {entry : Entry} (quiet : entry.event? = none) : Leads w (w.enter entry) :=
  .deed w (.enter entry quiet)

theorem note (w : Stage) (notice : Notice) : Leads w (w.note notice) := enter w rfl

theorem move (w : Stage) (position : Nat) (m : Session.Move) : Leads w (w.move position m) :=
  .deed w (.move position m)

theorem enterAll (w : Stage) {entries : List Entry} (quiet : ∀ entry ∈ entries, entry.event? = none) :
    Leads w (w.enterAll entries) := by
  induction entries generalizing w with
  | nil => exact refl w
  | cons first rest ih =>
    obtain ⟨here, later⟩ := List.forall_mem_cons.mp quiet
    exact (enter w here).trans (ih _ later)

end Leads

/-! ## The functions that play a rehearsal -/

/-- All that is played with some fuel is a list of deeds. -/
structure Explained (fuel : Nat) : Prop where
  performAll : ∀ operations w, Leads w (performAll fuel operations w)
  perform : ∀ position operation w, Leads w (perform fuel position operation w)
  carryOut : ∀ position operation w, Leads w (carryOut fuel position operation w).2
  actOnSink : ∀ owner operation w, Leads w (actOnSink fuel owner operation w).2
  actOnInteractor : ∀ operation w, Leads w (actOnInteractor fuel operation w).2
  actOn : ∀ target operation w, Leads w (actOn fuel target operation w).2
  work : ∀ position w, Leads w (work fuel position w)
  close : ∀ position w, Leads w (close fuel position w).2
  closing : ∀ position w, Leads w (closing fuel position w).2
  answer : ∀ position request w, Leads w (answer fuel position request w).2
  meet : ∀ position step w, Leads w (meet fuel position step w).2
  emit : ∀ owner event w, Leads w (emit fuel owner event w).2
  /-- A delivery, and what the observer does in it, unless the depth is used up. -/
  deliver : ∀ owner event w,
    deliver fuel owner event w = w ∨ Leads (w.present owner event) (deliver fuel owner event w)
  deliverQueued : ∀ limit count w, Leads w (deliverQueued fuel limit count w).2

theorem explained_zero : Explained 0 where
  performAll _ w := by rw [Stage.performAll]; exact .refl w
  perform _ _ w := by rw [Stage.perform]; exact .refl w
  carryOut _ _ w := by rw [Stage.carryOut]; exact .refl w
  actOnSink _ _ w := by rw [Stage.actOnSink]; exact .refl w
  actOnInteractor _ w := by rw [Stage.actOnInteractor]; exact .refl w
  actOn _ _ w := by rw [Stage.actOn]; exact .refl w
  work _ w := by rw [Stage.work]; exact .refl w
  close _ w := by rw [Stage.close]; exact .refl w
  closing _ w := by rw [Stage.closing]; exact .refl w
  answer _ _ w := by rw [Stage.answer]; exact .refl w
  meet _ _ w := by rw [Stage.meet]; exact .refl w
  emit _ _ w := by rw [Stage.emit]; exact .refl w
  deliver _ _ w := by rw [Stage.deliver]; exact .inl rfl
  deliverQueued _ _ w := by rw [Stage.deliverQueued]; exact .refl w

theorem interactor_enterAll (w : Stage) (entries : List Entry) :
    (w.enterAll entries).interactor = w.interactor := by
  induction entries generalizing w with
  | nil => rfl
  | cons first rest ih => exact ih (w.enter first)

theorem quiet_ofOpening (step : Session.OpeningStep) : (Entry.ofOpening step).event? = none := by
  cases step <;> rfl

theorem quiet_actionEntry {action : Session.Action} {entry : Entry}
    (made : actionEntry action = some entry) : entry.event? = none := by
  cases action <;> cases made <;> rfl

theorem quiet_handshakeEntries {secured : Bool} {role : Role} {secret : Secret}
    {identity : Option String} {timeout : Timeout} {entry : Entry}
    (member : entry ∈ handshakeEntries secured role secret identity timeout) :
    entry.event? = none := by
  cases secured <;> cases role <;> simp [handshakeEntries] at member <;>
    rcases member with rfl | rfl | rfl <;> rfl

namespace Leads

variable (w : Stage)

theorem opened (steps : List Session.OpeningStep) :
    Leads w (w.enterAll (steps.map Entry.ofOpening)) := by
  refine enterAll w fun entry member => ?_
  obtain ⟨step, -, rfl⟩ := List.mem_map.mp member
  exact quiet_ofOpening step

theorem adopt (plan : Session.Plan) (idle : w.interactor.isIdle = true) :
    Leads w (Stage.adopt (w.interactor.adopt plan).1 (w.interactor.adopt plan).2 w).2 := by
  have same := interactor_enterAll w ((w.interactor.adopt plan).1.map Entry.ofOpening)
  have last := (opened w (w.interactor.adopt plan).1).next (.adopt plan)
  rw [does, same, if_pos idle] at last
  unfold Stage.adopt
  split at last
  · next interactor adopted => rwa [adopted]
  · next refusal refused => rwa [refused]

theorem listen (random : Bytes) (ownThread : Bool) (provider : Transport.Provider) :
    Leads w (Stage.adopt (w.interactor.listen random ownThread provider).1
      (w.interactor.listen random ownThread provider).2 w).2 := by
  unfold Interactor.listen
  split
  · next idle =>
    split
    · exact refl w
    · exact adopt w _ idle
  · exact refl w

theorem connect (bundle : String) (ownThread : Bool) (provider : Transport.Provider) :
    Leads w (Stage.adopt (w.interactor.connect bundle ownThread provider).1
      (w.interactor.connect bundle ownThread provider).2 w).2 := by
  unfold Interactor.connect
  split
  · next idle =>
    split
    · exact refl w
    · exact adopt w _ idle
  · exact refl w

theorem findAddress : Leads w w.findAddress.2 := by
  have searched : Leads w (w.enterAll ((w.surroundings.search .inet).2.map .search)) := by
    refine enterAll w fun entry member => ?_
    obtain ⟨step, -, rfl⟩ := List.mem_map.mp member
    rfl
  unfold Stage.findAddress
  cases finding : (w.surroundings.search .inet).1 with
  | found address => simpa [finding] using searched
  | nothing => simpa [finding] using searched.trans (note _ (.noAddress .inet))
  | failed f => simpa [finding] using searched

end Leads

namespace Explained

variable {fuel : Nat}

theorem performAll_succ (explained : Explained fuel) (operations : List Operation) (w : Stage) :
    Leads w (Stage.performAll (fuel + 1) operations w) := by
  cases operations with
  | nil =>
    rw [Stage.performAll]
    · exact .refl w
    · exact Nat.succ_ne_zero fuel
  | cons operation rest =>
    rw [Stage.performAll]
    exact (explained.perform none operation w).trans (explained.performAll rest _)

theorem perform_succ (explained : Explained fuel) (position : Option Int) (operation : Operation)
    (w : Stage) : Leads w (Stage.perform (fuel + 1) position operation w) := by
  cases operation with
  | on position operation =>
    rw [Stage.perform]
    exact explained.perform (some position) operation w
  | _ =>
    rw [Stage.perform]
    · exact (explained.carryOut position _ w).trans (.enter _ rfl)
    · simp

theorem carryOut_succ (explained : Explained fuel) (position : Option Int) (operation : Operation)
    (w : Stage) : Leads w (Stage.carryOut (fuel + 1) position operation w).2 := by
  cases operation with
  | deliver limit =>
    rw [Stage.carryOut]
    exact explained.deliverQueued limit 0 w
  | emit | detach | releaseSink | attached =>
    rw [Stage.carryOut]
    split
    · exact .refl w
    · exact explained.actOnSink _ _ w
  | listen | connect | sendData | closeConnection | hasSession =>
    rw [Stage.carryOut]
    split
    · exact explained.actOnInteractor _ w
    · exact .refl w
  | on position operation =>
    rw [Stage.carryOut]
    exact explained.carryOut (some position) operation w
  | start | run | send | close | join | state | dropEndpoint =>
    simp only [Stage.carryOut]
    split
    · exact .refl w
    · exact explained.actOn _ _ w

theorem actOnSink_succ (explained : Explained fuel) (owner : Owner) (operation : Operation)
    (w : Stage) : Leads w (Stage.actOnSink (fuel + 1) owner operation w).2 := by
  cases operation with
  | emit event =>
    rw [Stage.actOnSink]
    exact explained.emit owner event w
  | detach =>
    rw [Stage.actOnSink]
    exact .deed w (.detach owner)
  | releaseSink =>
    rw [Stage.actOnSink]
    exact .deed w (.release owner)
  | _ =>
    simp only [Stage.actOnSink]
    exact .refl w

theorem actOnInteractor_succ (explained : Explained fuel) (operation : Operation) (w : Stage) :
    Leads w (Stage.actOnInteractor (fuel + 1) operation w).2 := by
  cases operation with
  | listen =>
    rw [Stage.actOnInteractor]
    -- Random bytes are drawn only if a session is going to be opened.
    have drawn : Leads w (if w.interactor.isIdle then w.takeRandom else ([], w)).2 := by
      split
      · exact .deed w .draw
      · exact .refl w
    exact drawn.trans (.listen _ _ _ _)
  | connect bundle =>
    rw [Stage.actOnInteractor]
    exact .connect w bundle _ _
  | sendData payload token =>
    rw [Stage.actOnInteractor]
    split
    · exact .refl w
    · exact .move w _ _
  | closeConnection =>
    rw [Stage.actOnInteractor]
    split
    · exact .deed w .forget
    · next target current =>
      have closed := explained.close target w
      dsimp only
      split
      · exact closed
      · exact closed.next .forget
  | _ =>
    simp only [Stage.actOnInteractor]
    exact .refl w

theorem actOn_succ (explained : Explained fuel) (target : Nat) (operation : Operation) (w : Stage) :
    Leads w (Stage.actOn (fuel + 1) target operation w).2 := by
  rw [Stage.actOn]
  split
  · exact .refl w
  · cases operation with
    | start | send | dropEndpoint => exact .move w target _
    | run =>
      dsimp only
      split
      · exact (Leads.move w target .run).trans (explained.work target _)
      · exact .refl w
    | close => exact explained.close target w
    | join timeout =>
      dsimp only
      split
      · exact .enter w rfl
      · exact .refl w
    | _ => exact .refl w

theorem work_succ (explained : Explained fuel) (position : Nat) (w : Stage) :
    Leads w (Stage.work (fuel + 1) position w) := by
  rw [Stage.work]
  split
  · exact .refl w
  · next request asked =>
    exact (explained.answer position request w).trans
      ((Leads.move _ position _).trans (explained.work position _))

theorem close_succ (explained : Explained fuel) (position : Nat) (w : Stage) :
    Leads w (Stage.close (fuel + 1) position w).2 := by
  rw [Stage.close]
  split
  · exact .refl w
  · split
    · exact .refl w
    · exact (Leads.move w position .close).trans (explained.closing position _)

theorem closing_succ (explained : Explained fuel) (position : Nat) (w : Stage) :
    Leads w (Stage.closing (fuel + 1) position w).2 := by
  rw [Stage.closing]
  split
  · exact .refl w
  · split
    · exact .refl w
    · next request asked =>
      exact (explained.answer position request w).trans
        ((Leads.move _ position _).trans (explained.closing position _))

theorem answer_succ (explained : Explained fuel) (position : Nat) (request : Session.Request)
    (w : Stage) : Leads w (Stage.answer (fuel + 1) position request w).2 := by
  have meets (step : Step) {entry : Entry} (quiet : entry.event? = none) :
      Leads w (Stage.meet fuel position step (w.enter entry)).2 :=
    (Leads.enter w quiet).trans (explained.meet position step _)
  cases request with
  | bind | accept | shutDown | dial | send =>
    rw [Stage.answer]
    exact meets _ rfl
  | setTimeout | close =>
    rw [Stage.answer]
    exact .enter w rfl
  | findAddress =>
    rw [Stage.answer]
    exact .findAddress w
  | boundPort =>
    rw [Stage.answer]
    exact .refl w
  | emit event =>
    rw [Stage.answer]
    exact explained.emit (.session position) event w
  | handshake role =>
    rw [Stage.answer]
    refine Leads.trans (.enterAll w fun entry member => ?_) (explained.meet position .handshake _)
    split at member
    · exact quiet_handshakeEntries member
    · cases member
  | peerName =>
    rw [Stage.answer]
    exact explained.meet position .peerName w
  | receive socket limit =>
    rw [Stage.answer]
    dsimp only
    split
    · have met := @meets .receive (.receive socket limit) rfl
      split
      · exact met
      · exact met.next (.cue position _)
    · exact (Leads.enter w rfl).next (.cue position _)

theorem meet_succ (explained : Explained fuel) (position : Nat) (step : Step) (w : Stage) :
    Leads w (Stage.meet (fuel + 1) position step w).2 := by
  have taken := Leads.deed w (.cue position ((w.script position).next step).2)
  rw [Stage.meet]
  dsimp only
  cases during : ((w.script position).next step).1.during with
  | some operations =>
    have begun : Leads w ((w.setScript position ((w.script position).next step).2).enter (.during step)) :=
      taken.trans (.enter _ rfl)
    have acted := begun.trans (explained.performAll operations _)
    split
    · exact acted
    · exact acted.trans (.enter _ rfl)
  | none =>
    split
    · exact taken
    · exact taken.trans (.enter _ rfl)

theorem emit_succ (explained : Explained fuel) (owner : Owner) (event : Event) (w : Stage) :
    Leads w (Stage.emit (fuel + 1) owner event w).2 := by
  rw [Stage.emit]
  split
  · exact .refl w
  · next sink found =>
    have given := Leads.deed w (.emit owner event)
    simp only [does, give, found] at given
    cases emission : w.context.emit sink event with
    | dropped | queued | failed => simpa only [emission] using given
    | immediate =>
      simp only [emission] at given
      obtain same | delivered := explained.deliver owner event w
      · simpa only [same] using Leads.refl w
      · exact given.trans delivered

theorem deliver_succ (explained : Explained fuel) (owner : Owner) (event : Event) (w : Stage) :
    Stage.deliver (fuel + 1) owner event w = w ∨
      Leads (w.present owner event) (Stage.deliver (fuel + 1) owner event w) := by
  rw [Stage.deliver, Stage.present]
  split
  · refine .inr ?_
    have reacted := explained.performAll (w.call event).1 (w.call event).2
    by_cases raises : event.kind ∈ w.raising
    · simp only [if_pos raises]
      exact reacted.trans (.note _ _)
    · simp only [if_neg raises]
      exact reacted
  · exact .inl rfl

theorem deliverQueued_succ (explained : Explained fuel) (limit : Option Nat) (count : Nat) (w : Stage) :
    Leads w (Stage.deliverQueued (fuel + 1) limit count w).2 := by
  rw [Stage.deliverQueued]
  split
  · exact .refl w
  · split
    · exact .refl w
    · next owner event rest queued =>
      refine Leads.trans ?_ (explained.deliverQueued limit (count + 1) _)
      obtain same | delivered := explained.deliver owner event { w with queue := rest }
      · rw [same]
        have given := Leads.deed w .giveUp
        simpa only [does, queued, List.tail_cons] using given
      · have begun := Leads.deed w .deliver
        simp only [does, queued] at begun
        exact begun.trans delivered

end Explained

theorem explained (fuel : Nat) : Explained fuel := by
  induction fuel with
  | zero => exact explained_zero
  | succ fuel ih =>
    exact ⟨ih.performAll_succ, ih.perform_succ, ih.carryOut_succ, ih.actOnSink_succ,
      ih.actOnInteractor_succ, ih.actOn_succ, ih.work_succ, ih.close_succ, ih.closing_succ,
      ih.answer_succ, ih.meet_succ, ih.emit_succ, ih.deliver_succ, ih.deliverQueued_succ⟩

end Stage

end Handover.Rehearsal
