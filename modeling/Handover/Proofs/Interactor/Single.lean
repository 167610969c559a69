import Handover.Interactor
import Handover.Proofs.Session.Closers
import Handover.Proofs.Session.Standing
import Handover.Proofs.Session.Steady

/-! One active session at a time. A session that has become inactive stays so, and a new one is started only
when the current one is inactive; so the active session is the current one as long as no active session is
forgotten. That happens only when a session has been started while a call that closes another one was still
under way. -/

set_option autoImplicit false

namespace Handover

namespace Session

variable {s u : Session}

/-- A worker that has been started is not brought back by any move, nor is a stop taken back. -/
theorem Moves.active {m : Move} (moves : Moves s m u) (started : s.started = true)
    (active : Interactor.isActive u = true) : Interactor.isActive s = true := by
  simp only [Interactor.isActive, isAlive, Bool.and_eq_true, Bool.not_eq_true'] at active ⊢
  refine ⟨⟨started, Bool.eq_false_iff.mpr fun exited => ?_⟩, Bool.eq_false_iff.mpr fun stopped => ?_⟩
  · simp [moves.exited exited] at active
  · simp [moves.stopped stopped] at active

theorem Plan.open_eq_ok {plan : Plan} (opened : plan.open.2 = .ok s) : s = plan.session := by
  unfold «open» at opened
  split at opened
  · cases opened
  · dsimp only at opened
    split at opened <;> cases opened
    rfl

end Session

namespace Interactor

/-- A session that an interactor opens comes after those it has opened before, and is the current one. -/
theorem adopt_eq_ok {i after : Interactor} {plan : Session.Plan}
    (adopted : (i.adopt plan).2 = .ok after) :
    after = { i with
      sessions := i.sessions ++ [plan.session.start.session]
      current := some i.sessions.length } := by
  unfold adopt at adopted
  dsimp only at adopted
  split at adopted
  · cases adopted
  · next s opened =>
    cases adopted
    rw [Session.Plan.open_eq_ok opened]

/-! ## Acts -/

/-- What happens to an interactor and its sessions. The call that closes the current session is two acts,
since others may act while it waits for a socket to be shut down. -/
inductive Act where
  | listen (random : Bytes) (ownThread : Bool) (provider : Transport.Provider)
  | connect (bundle : String) (ownThread : Bool) (provider : Transport.Provider)
  | sendData (pending : Pending)
  /-- The worker of a session goes on, or a caller acts on the session itself. -/
  | move (position : Nat) (m : Session.Move)
  | beginClosing
  /-- The session is forgotten, unless a fault has ended the call. -/
  | endClosing (failed : Bool)

structure Affairs where
  interactor : Interactor
  /-- How many calls that close the current session are under way. -/
  closing : Nat

namespace Affairs

def new (settings : Settings) : Affairs := ⟨.new settings, 0⟩

def started (a : Affairs) : Except Refusal Interactor → Affairs
  | .ok interactor => { a with interactor := interactor }
  | .error _ => a

def moved (a : Affairs) (position : Nat) (m : Session.Move) : Affairs :=
  { a with interactor := a.interactor.modify position fun s => (s.step m).session }

def act (a : Affairs) : Act → Affairs
  | .listen random ownThread provider => a.started (a.interactor.listen random ownThread provider).2
  | .connect bundle ownThread provider => a.started (a.interactor.connect bundle ownThread provider).2
  | .sendData pending =>
      match a.interactor.target with
      | .error _ => a
      | .ok position => a.moved position (.send pending)
  | .move position m => a.moved position m
  | .beginClosing =>
      match a.interactor.current with
      | none => { a with interactor := a.interactor.forget }
      | some position => { a.moved position .close with closing := a.closing + 1 }
  | .endClosing failed =>
      if a.closing = 0 then a
      else ⟨if failed then a.interactor else a.interactor.forget, a.closing - 1⟩

def after (a : Affairs) (acts : List Act) : Affairs := acts.foldl act a

def course (a : Affairs) : List Act → List (Affairs × Act)
  | [] => []
  | first :: rest => (a, first) :: (a.act first).course rest

def forgets (a : Affairs) : Act → Bool
  | .endClosing failed => !failed && a.closing != 0
  | _ => false

def starts (a : Affairs) (act : Act) : Bool :=
  decide (a.interactor.sessions.length < (a.act act).interactor.sessions.length)

end Affairs

/-! ## The active session -/

/-- Every active session is the current one. -/
def Single (i : Interactor) : Prop :=
  ∀ position s, i.sessions[position]? = some s → isActive s = true → i.current = some position

theorem Single.unique {i : Interactor} (single : i.Single) {p q : Nat} {s t : Session}
    (first : i.sessions[p]? = some s) (second : i.sessions[q]? = some t) (active : isActive s = true)
    (other : isActive t = true) : p = q :=
  Option.some.inj ((single p s first active).symm.trans (single q t second other))

/-- The sessions of an interactor have been started. -/
def Sound (i : Interactor) : Prop := ∀ s ∈ i.sessions, s.Standing ∧ s.started = true

variable {i : Interactor}

theorem isIdle_eq_false_iff :
    i.isIdle = false ↔ ∃ position s, i.current = some position ∧ i.sessions[position]? = some s ∧
      isActive s = true := by
  cases current : i.current with
  | none => simp [isIdle, currentSession, current]
  | some position =>
    cases found : i.sessions[position]? with
    | none => simp [isIdle, currentSession, current, found]
    | some s => simp [isIdle, currentSession, current, found]

theorem isIdle_forget (i : Interactor) : i.forget.isIdle = true := rfl

/-! ### A move -/

section Move

variable {position : Nat} {m : Session.Move}

theorem sessions_modify {f : Session → Session} {p : Nat} {s : Session}
    (here : (i.modify position f).sessions[p]? = some s) :
    ∃ before, i.sessions[p]? = some before ∧ s = if position = p then f before else before := by
  rw [modify, List.getElem?_modify] at here
  obtain ⟨before, found, same⟩ := Option.map_eq_some_iff.mp here
  exact ⟨before, found, same.symm⟩

theorem Sound.modify (sound : i.Sound) (position : Nat) (m : Session.Move) :
    (i.modify position fun s => (s.step m).session).Sound := by
  intro s member
  obtain ⟨p, here⟩ := List.mem_iff_getElem?.mp member
  obtain ⟨before, found, rfl⟩ := sessions_modify here
  obtain ⟨standing, started⟩ := sound before (List.mem_of_getElem? found)
  split
  · exact ⟨standing.step m, (Session.step_moves standing.safe m).started started⟩
  · exact ⟨standing, started⟩

theorem active_of_modify (sound : i.Sound) {p : Nat} {s : Session}
    (here : (i.modify position fun s => (s.step m).session).sessions[p]? = some s)
    (active : isActive s = true) : ∃ before, i.sessions[p]? = some before ∧ isActive before = true := by
  obtain ⟨before, found, rfl⟩ := sessions_modify here
  obtain ⟨standing, started⟩ := sound before (List.mem_of_getElem? found)
  refine ⟨before, found, ?_⟩
  split at active
  · exact (Session.step_moves standing.safe m).active started active
  · exact active

theorem Single.modify (single : i.Single) (sound : i.Sound) :
    (i.modify position fun s => (s.step m).session).Single := by
  intro p s here active
  obtain ⟨before, found, earlier⟩ := active_of_modify sound here active
  exact single p before found earlier

theorem isIdle_modify (sound : i.Sound) (idle : i.isIdle = true) :
    (i.modify position fun s => (s.step m).session).isIdle = true := by
  refine Bool.not_eq_false _ ▸ fun busy => ?_
  obtain ⟨p, s, current, here, active⟩ := isIdle_eq_false_iff.mp busy
  obtain ⟨before, found, earlier⟩ := active_of_modify sound here active
  have still : i.isIdle = false := isIdle_eq_false_iff.mpr ⟨p, before, current, found, earlier⟩
  cases idle.symm.trans still

theorem isIdle_close (current : i.current = some position) :
    (i.modify position fun s => (s.step .close).session).isIdle = true := by
  refine Bool.not_eq_false _ ▸ fun busy => ?_
  obtain ⟨p, s, other, here, active⟩ := isIdle_eq_false_iff.mp busy
  obtain rfl : position = p := Option.some.inj (current.symm.trans other)
  obtain ⟨before, found, rfl⟩ := sessions_modify here
  simp [isActive, Session.step, before.close_stopping] at active

end Move

/-! ### A start -/

theorem Sound.adopt (sound : i.Sound) {plan : Session.Plan} {after : Interactor}
    (adopted : (i.adopt plan).2 = .ok after) : after.Sound := by
  rw [adopt_eq_ok adopted]
  intro s member
  obtain earlier | same := List.mem_append.mp member
  · exact sound s earlier
  · rw [List.mem_singleton.mp same]
    exact ⟨plan.standing.step .start, rfl⟩

theorem Single.adopt (single : i.Single) (idle : i.isIdle = true) {plan : Session.Plan}
    {after : Interactor} (adopted : (i.adopt plan).2 = .ok after) : after.Single := by
  rw [adopt_eq_ok adopted]
  intro p s here active
  rw [List.getElem?_append] at here
  split at here
  · have busy := isIdle_eq_false_iff.mpr ⟨p, s, single p s here active, here, active⟩
    cases idle.symm.trans busy
  · next late =>
    have bound := (List.getElem?_eq_some_iff.mp here).1
    have last : i.sessions.length = p := by
      rw [List.length_singleton] at bound
      omega
    exact congrArg some last

inductive Starts (i : Interactor) : Except Refusal Interactor → Prop where
  | opened {plan : Session.Plan} {after : Interactor} : i.isIdle = true →
      (i.adopt plan).2 = .ok after → Starts i (.ok after)
  | failed {refusal : Refusal} : i.isIdle = true → refusal ≠ .active → Starts i (.error refusal)
  | refused : i.isIdle = false → Starts i (.error .active)

theorem starts_adopt (idle : i.isIdle = true) (plan : Session.Plan) : i.Starts (i.adopt plan).2 := by
  cases adopted : (i.adopt plan).2 with
  | ok after => exact .opened idle adopted
  | error refusal =>
    refine .failed idle ?_
    unfold Interactor.adopt at adopted
    dsimp only at adopted
    split at adopted <;> cases adopted
    nofun

theorem starts_listen (i : Interactor) (random : Bytes) (ownThread : Bool) (provider : Transport.Provider) :
    i.Starts (i.listen random ownThread provider).2 := by
  unfold listen
  split
  · next idle =>
    split
    · exact .failed idle nofun
    · exact starts_adopt idle _
  · next busy => exact .refused (by simpa using busy)

theorem starts_connect (i : Interactor) (bundle : String) (ownThread : Bool) (provider : Transport.Provider) :
    i.Starts (i.connect bundle ownThread provider).2 := by
  unfold connect
  split
  · next idle =>
    split
    · exact .failed idle nofun
    · exact starts_adopt idle _
  · next busy => exact .refused (by simpa using busy)

theorem Starts.refused_iff {outcome : Except Refusal Interactor} (starts : i.Starts outcome)
    (single : i.Single) : outcome = .error .active ↔ ∃ s ∈ i.sessions, isActive s = true := by
  have busy : i.isIdle = false ↔ ∃ s ∈ i.sessions, isActive s = true := by
    rw [isIdle_eq_false_iff]
    constructor
    · rintro ⟨p, s, -, here, active⟩
      exact ⟨s, List.mem_of_getElem? here, active⟩
    · rintro ⟨s, member, active⟩
      obtain ⟨p, here⟩ := List.mem_iff_getElem?.mp member
      exact ⟨p, s, single p s here active, here, active⟩
  rw [← busy]
  cases starts with
  | opened idle => simp [idle]
  | failed idle other => simp [idle, other]
  | refused busy => simp [busy]

/-! ### The end of a call that closes -/

theorem Single.forget (single : i.Single) (idle : i.isIdle = true) : i.forget.Single := by
  intro p s here active
  have busy : i.isIdle = false := isIdle_eq_false_iff.mpr ⟨p, s, single p s here active, here, active⟩
  cases idle.symm.trans busy

theorem isIdle_of_forgotten (single : i.forget.Single) : i.isIdle = true := by
  refine Bool.not_eq_false _ ▸ fun busy => ?_
  obtain ⟨p, s, -, here, active⟩ := isIdle_eq_false_iff.mp busy
  cases single p s here active

/-! ## Histories -/

namespace Affairs

inductive Steps (a : Affairs) : Act → Affairs → Prop where
  | rests {act : Act} : a.forgets act = false → Steps a act a
  | starts {act : Act} {outcome : Except Refusal Interactor} : a.forgets act = false →
      a.interactor.Starts outcome → Steps a act (a.started outcome)
  | moves {act : Act} (position : Nat) (m : Session.Move) : a.forgets act = false →
      Steps a act (a.moved position m)
  | begins {position : Nat} : a.interactor.current = some position →
      Steps a .beginClosing { a.moved position .close with closing := a.closing + 1 }
  | fails : a.closing ≠ 0 → Steps a (.endClosing true) { a with closing := a.closing - 1 }
  | forgets : a.closing ≠ 0 → Steps a (.endClosing false) ⟨a.interactor.forget, a.closing - 1⟩

variable {a b : Affairs} {act : Act}

theorem act_steps (a : Affairs) (act : Act) : a.Steps act (a.act act) := by
  cases act with
  | listen random ownThread provider => exact .starts rfl (a.interactor.starts_listen random ownThread provider)
  | connect bundle ownThread provider => exact .starts rfl (a.interactor.starts_connect bundle ownThread provider)
  | sendData pending =>
    show a.Steps _ (match a.interactor.target with
      | .error _ => a
      | .ok position => a.moved position (.send pending))
    split
    · exact .rests rfl
    · exact .moves _ _ rfl
  | move position m => exact .moves position m rfl
  | beginClosing =>
    show a.Steps _ (match a.interactor.current with
      | none => { a with interactor := a.interactor.forget }
      | some position => { a.moved position .close with closing := a.closing + 1 })
    split
    · next none =>
      have same : a.interactor.forget = a.interactor := by rw [forget, ← none]
      rw [same]
      exact .rests rfl
    · next position current => exact .begins current
  | endClosing failed =>
    show a.Steps _ (if a.closing = 0 then a
      else ⟨if failed then a.interactor else a.interactor.forget, a.closing - 1⟩)
    split
    · next idle => exact .rests (by simp [Affairs.forgets, idle])
    · next busy =>
      cases failed with
      | true => exact .fails busy
      | false => exact .forgets busy

theorem Steps.sound (steps : a.Steps act b) (sound : a.interactor.Sound) : b.interactor.Sound := by
  cases steps with
  | rests | fails => exact sound
  | forgets => exact sound
  | starts _ starts =>
    cases starts with
    | opened _ adopted => exact sound.adopt adopted
    | failed | refused => exact sound
  | moves position m => exact sound.modify position m
  | begins => exact sound.modify _ .close

/-- Only forgetting an active session makes it another one than the current one. -/
theorem Steps.single (steps : a.Steps act b) (sound : a.interactor.Sound) (single : a.interactor.Single)
    (idle : a.forgets act = true → a.interactor.isIdle = true) : b.interactor.Single := by
  cases steps with
  | rests | fails => exact single
  | starts _ starts =>
    cases starts with
    | opened idle adopted => exact single.adopt idle adopted
    | failed | refused => exact single
  | moves | begins => exact single.modify sound
  | forgets busy => exact single.forget (idle (by simp [Affairs.forgets, busy]))

theorem Steps.isIdle (steps : a.Steps act b) (forgets : a.forgets act = true) (single : b.interactor.Single) :
    a.interactor.isIdle = true := by
  cases steps with
  | forgets => exact isIdle_of_forgotten single
  | fails | begins => simp [Affairs.forgets] at forgets
  | rests kept | starts kept | moves _ _ kept => cases forgets.symm.trans kept

theorem closing_of_forgets (forgets : a.forgets act = true) : a.closing ≠ 0 := by
  cases act with
  | endClosing failed =>
    simp only [Affairs.forgets, Bool.and_eq_true, bne_iff_ne] at forgets
    exact forgets.2
  | _ => cases forgets

/-- While a call that closes is under way, no session is active. -/
def Quiet (a : Affairs) : Prop := a.closing ≠ 0 → a.interactor.isIdle = true

theorem Steps.quiet (steps : a.Steps act b) (sound : a.interactor.Sound) (quiet : a.Quiet)
    (undisturbed : a.closing ≠ 0 → ¬ a.interactor.sessions.length < b.interactor.sessions.length) :
    b.Quiet := by
  intro busy
  cases steps with
  | rests => exact quiet busy
  | starts _ starts =>
    cases starts with
    | opened _ adopted => exact absurd (by simp [started, adopt_eq_ok adopted]) (undisturbed busy)
    | failed idle => exact idle
    | refused => exact quiet busy
  | moves => exact isIdle_modify sound (quiet busy)
  | begins current => exact isIdle_close current
  | fails open_ => exact quiet open_
  | forgets => exact isIdle_forget _

/-- The active session is the current one at every moment if and only if each session that is forgotten is
inactive. -/
theorem single_iff (sound : a.interactor.Sound) (single : a.interactor.Single) (acts : List Act) :
    (∀ earlier, earlier <+: acts → (a.after earlier).interactor.Single) ↔
      ∀ met ∈ a.course acts, met.1.forgets met.2 = true → met.1.interactor.isIdle = true := by
  induction acts generalizing a with
  | nil =>
    refine ⟨fun _ _ member => (by cases member), fun _ earlier initial => ?_⟩
    rw [List.prefix_nil.mp initial]
    exact single
  | cons first rest ih =>
    have steps := a.act_steps first
    constructor
    · intro always
      have next : (a.act first).interactor.Single := always [first] ⟨rest, rfl⟩
      have later := (ih (steps.sound sound) next).mp fun earlier initial =>
        always (first :: earlier) (List.cons_prefix_cons.mpr ⟨rfl, initial⟩)
      intro met member forgets
      obtain rfl | among := List.mem_cons.mp member
      · exact steps.isIdle forgets next
      · exact later met among forgets
    · intro idle earlier initial
      obtain rfl | ⟨others, rfl, shorter⟩ := List.prefix_cons_iff.mp initial
      · exact single
      · have next := steps.single sound single (idle (a, first) List.mem_cons_self)
        exact (ih (steps.sound sound) next).mpr
          (fun met among => idle met (List.mem_cons_of_mem _ among)) others shorter

/-- A session is inactive when it is forgotten, if none was started while the call was under way. -/
theorem isIdle_of_undisturbed (sound : a.interactor.Sound) (quiet : a.Quiet) {acts : List Act}
    (undisturbed : ∀ met ∈ a.course acts, met.1.closing ≠ 0 → met.1.starts met.2 = false) :
    ∀ met ∈ a.course acts, met.1.forgets met.2 = true → met.1.interactor.isIdle = true := by
  induction acts generalizing a with
  | nil => exact fun met member => absurd member List.not_mem_nil
  | cons first rest ih =>
    obtain ⟨here, later⟩ := List.forall_mem_cons.mp undisturbed
    have steps := a.act_steps first
    have next := steps.quiet sound quiet fun busy => by simpa [starts] using here busy
    intro met member forgets
    obtain rfl | among := List.mem_cons.mp member
    · exact quiet (closing_of_forgets forgets)
    · exact ih (steps.sound sound) next later met among forgets

end Affairs

/-- Whatever is done to an interactor and its sessions, the active session is the current one at every moment,
so there is at most one, if and only if none is forgotten while it is active. That is so if no session is
started while a call that closes another one is under way. At such a moment a new session is refused exactly
when there is an active one. -/
theorem one_active_session (settings : Settings) (acts : List Act) :
    let start := Affairs.new settings
    ((∀ earlier, earlier <+: acts → (start.after earlier).interactor.Single) ↔
      ∀ met ∈ start.course acts, met.1.forgets met.2 = true → met.1.interactor.isIdle = true) ∧
    ((∀ met ∈ start.course acts, met.1.closing ≠ 0 → met.1.starts met.2 = false) →
      ∀ earlier, earlier <+: acts → (start.after earlier).interactor.Single) ∧
    let i := (start.after acts).interactor
    i.Single → ∀ ownThread provider,
      (∀ random, (i.listen random ownThread provider).2 = .error .active ↔
        ∃ s ∈ i.sessions, isActive s = true) ∧
      (∀ bundle, (i.connect bundle ownThread provider).2 = .error .active ↔
        ∃ s ∈ i.sessions, isActive s = true) := by
  intro start
  have sound : start.interactor.Sound := fun s member => by simp [start, Affairs.new, new] at member
  have single : start.interactor.Single := fun p s here => by simp [start, Affairs.new, new] at here
  have quiet : start.Quiet := fun busy => absurd rfl busy
  have always := Affairs.single_iff sound single acts
  refine ⟨always, fun undisturbed => always.mpr ?_, ?_⟩
  · exact Affairs.isIdle_of_undisturbed sound quiet undisturbed
  · intro i single ownThread provider
    clear_value i
    exact ⟨fun random => (i.starts_listen random ownThread provider).refused_iff single,
      fun bundle => (i.starts_connect bundle ownThread provider).refused_iff single⟩

/-- A listener is closed, and another one is started while its socket is being shut down: the second one is
forgotten while it is active, so that a third one is not refused. -/
theorem one_active_session_disturbed :
    let provider : Transport.Provider := ⟨true, fun _ => none⟩
    let listen : Act := .listen (List.replicate 16 0) false provider
    let acts : List Act := [listen, .move 0 .run, .move 0 (.answer .done), .move 0 (.answer .done),
      .beginClosing, listen, .move 0 (.answerCaller .done), .move 0 (.answerCaller .done), .endClosing false]
    let i := ((Affairs.new .localTesting).after acts).interactor
    i.sessions.map isActive = [false, true] ∧ i.current = none ∧ ¬ i.Single ∧
      (i.listen (List.replicate 16 0) false provider).2 ≠ .error .active := by
  intro provider listen acts i
  have active : i.sessions.map isActive = [false, true] := by decide
  have idle : i.isIdle = true := by decide
  have accepted : (i.listen (List.replicate 16 0) false provider).2 ≠ .error .active := by
    intro refused
    have starts := i.starts_listen (List.replicate 16 0) false provider
    rw [refused] at starts
    cases starts with
    | failed _ other => exact other rfl
    | refused busy => cases idle.symm.trans busy
  refine ⟨active, by decide, fun single => ?_, accepted⟩
  obtain ⟨s, member, busy⟩ := List.mem_map.mp (active ▸ by simp : true ∈ i.sessions.map isActive)
  obtain ⟨-, -, refusals⟩ := one_active_session .localTesting acts
  exact accepted (((refusals single false provider).1 _).mpr ⟨s, member, busy⟩)

end Interactor

end Handover
