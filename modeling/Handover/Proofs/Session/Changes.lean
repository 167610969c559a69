import Handover.Proofs.Session.Standing

/-! The changes of phase that a session records. Every part of the worker, and every call of a caller,
takes the phase only forward, and the record of each change names the phase that was left and the one
that was entered; so the changes of a history climb from the first phase to the last one. -/

set_option autoImplicit false

namespace Handover

theorem Phase.rank_le (p : Phase) : p.rank ≤ 4 := by cases p <;> decide

theorem Phase.rank_lt_of_active {p : Phase} (active : p.isTerminal = false) : p.rank < 4 := by
  cases p <;> first | decide | cases active

/-- From one phase to another by changes each of which goes forward. -/
inductive Climbs : Phase → List (Phase × Phase) → Phase → Prop where
  | rests {phase : Phase} : Climbs phase [] phase
  | climbs {before now last : Phase} {later : List (Phase × Phase)} : before.rank < now.rank →
      Climbs now later last → Climbs before ((before, now) :: later) last

namespace Climbs

theorem append {first middle last : Phase} {earlier later : List (Phase × Phase)}
    (lower : Climbs first earlier middle) (upper : Climbs middle later last) :
    Climbs first (earlier ++ later) last := by
  induction lower with
  | rests => exact upper
  | climbs forward _ ih => exact .climbs forward (ih upper)

theorem of_terminal {first last : Phase} {changes : List (Phase × Phase)}
    (climbs : Climbs first changes last) (ended : first.isTerminal = true) :
    changes = [] ∧ last = first := by
  cases climbs with
  | rests => exact ⟨rfl, rfl⟩
  | @climbs _ now _ _ forward =>
    have top := (Phase.isTerminal_iff_rank first).mp ended
    have bound := now.rank_le
    omega

end Climbs

namespace Session

def Action.change? : Action → Option (Phase × Phase)
  | .note (.moved before now) => some (before, now)
  | _ => none

namespace Turn

def changes (t : Turn) : List (Phase × Phase) := t.actions.filterMap Action.change?

def Advances (t u : Turn) : Prop :=
  ∃ more, u.changes = t.changes ++ more ∧ Climbs t.session.phase more u.session.phase

theorem Advances.trans {t u v : Turn} (first : t.Advances u) (second : u.Advances v) :
    t.Advances v := by
  obtain ⟨earlier, same, lower⟩ := first
  obtain ⟨later, next, upper⟩ := second
  exact ⟨earlier ++ later, by rw [next, same, List.append_assoc], lower.append upper⟩

/-- What neither records a change nor changes the phase. -/
theorem Advances.of_quiet {t u : Turn} (quiet : u.changes = t.changes)
    (same : u.session.phase = t.session.phase) : t.Advances u :=
  ⟨[], by rw [quiet, List.append_nil], same ▸ .rests⟩

theorem advances_refl (t : Turn) : t.Advances t := .of_quiet rfl rfl

theorem changes_act (t : Turn) (action : Action) :
    (t.act action).changes = t.changes ++ action.change?.toList := by
  cases change : action.change? <;> simp [changes, act, change]

theorem advances_act (t : Turn) {action : Action} (quiet : action.change? = none) :
    t.Advances (t.act action) :=
  .of_quiet (by rw [changes_act, quiet, Option.toList_none, List.append_nil]) rfl

theorem advances_note (t : Turn) {notice : Notice} (quiet : (Action.note notice).change? = none) :
    t.Advances (t.note notice) := t.advances_act quiet

theorem advances_update (t : Turn) {f : Session → Session}
    (same : (f t.session).phase = t.session.phase) : t.Advances (t.update f) := .of_quiet rfl same

theorem advances_await (t : Turn) (point : Point) : t.Advances (t.await point) := by
  refine .of_quiet ?_ rfl
  unfold await changes
  cases request { t.session with point := point } <;> simp [Action.change?]

theorem advances_awaitClosing (t : Turn) (closing : Closing) :
    t.Advances (t.awaitClosing closing) := by
  refine .of_quiet ?_ rfl
  unfold awaitClosing changes
  cases closingRequest { t.session with closing := closing } <;> simp [Action.change?]

theorem advances_releaseThread (t : Turn) : t.Advances t.releaseThread := by
  unfold releaseThread
  have quiet := t.advances_update (f := fun s => { s with sink := s.sink.release }) rfl
  split
  · exact quiet.trans (advances_act _ rfl)
  · exact quiet

theorem advances_detach (t : Turn) : t.Advances t.detach :=
  t.advances_releaseThread.trans (advances_update _ rfl)

theorem advances_enter (t : Turn) {phase : Phase} (forward : t.session.phase.rank < phase.rank) :
    t.Advances (t.enter phase) :=
  ⟨[(t.session.phase, phase)], changes_act t _, .climbs forward .rests⟩

theorem advances_end (t : Turn) {phase : Phase} (active : t.session.phase.isTerminal = false)
    (ending : phase.isTerminal = true) : t.Advances (t.enter phase) := by
  refine t.advances_enter ?_
  rw [(Phase.isTerminal_iff_rank phase).mp ending]
  exact Phase.rank_lt_of_active active

theorem advances_enterIfActive (t : Turn) {phase : Phase} (ending : phase.isTerminal = true) :
    t.Advances (t.enterIfActive phase) := by
  unfold enterIfActive
  split
  · exact t.advances_refl
  · next active => exact t.advances_end (by simpa using active) ending

/-! ## The parts of the worker -/

theorem advances_settle (t : Turn) (escape : Option Fault) : t.Advances (t.settle escape) := by
  have ended : t.Advances (if t.session.stopping then t.enterIfActive .closed else t) := by
    split
    · exact t.advances_enterIfActive rfl
    · exact t.advances_refl
  exact ended.trans ((advances_releaseThread _).trans
    ((advances_note _ rfl).trans (advances_await _ _)))

theorem advances_releaseListener (t : Turn) (escape : Option Fault) :
    t.Advances (t.releaseListener escape) := by
  unfold releaseListener
  split
  · exact (t.advances_update rfl).trans (advances_await _ _)
  · exact t.advances_settle escape

theorem advances_cleanUp (t : Turn) (escape : Option Fault) : t.Advances (t.cleanUp escape) := by
  unfold cleanUp
  split
  · exact (t.advances_update rfl).trans (advances_await _ _)
  · exact t.advances_releaseListener escape

theorem advances_finish (t : Turn) {phase : Phase} (event : Event) (failed : Bool)
    (ending : phase.isTerminal = true) : t.Advances (t.finish phase event failed) := by
  unfold finish
  split
  · exact t.advances_cleanUp none
  · next active =>
    exact (t.advances_end (by simpa using active) ending).trans (advances_await _ _)

theorem advances_crash (t : Turn) (f : Fault) : t.Advances (t.crash f) := by
  unfold crash
  split
  · exact (t.advances_note rfl).trans (advances_finish _ _ _ rfl)
  · exact t.advances_cleanUp _

theorem advances_failListening (t : Turn) (f : Fault) : t.Advances (t.failListening f) := by
  unfold failListening
  split
  · split
    · exact (t.advances_note rfl).trans (advances_cleanUp _ _)
    · exact (t.advances_note rfl).trans (advances_finish _ _ _ rfl)
  · exact t.advances_crash _

theorem advances_failDialling (t : Turn) (host : String) (port : Int) (f : Fault) :
    t.Advances (t.failDialling host port f) := by
  unfold failDialling
  split
  · split
    · exact (t.advances_note rfl).trans (advances_cleanUp _ _)
    · exact (t.advances_note rfl).trans (advances_finish _ _ _ rfl)
  · exact t.advances_crash _

theorem advances_failSetup (t : Turn) (setup : Setup) (f : Fault) :
    t.Advances (t.failSetup setup f) := by
  cases setup with
  | listening => exact t.advances_failListening f
  | dialling host port => exact t.advances_failDialling host port f

theorem advances_endPolling (t : Turn) : t.Advances t.endPolling := by
  unfold endPolling
  split
  · exact (t.advances_note rfl).trans (advances_cleanUp _ _)
  · exact t.advances_finish _ _ rfl

theorem advances_failPolling (t : Turn) (f : Fault) : t.Advances (t.failPolling f) := by
  have noted : t.Advances (if t.session.stopping then t else t.note .connectionFailed) := by
    split
    · exact t.advances_refl
    · exact t.advances_note rfl
  unfold failPolling
  split
  · exact noted.trans (advances_endPolling _)
  · exact t.advances_crash _

theorem advances_readFirst (t : Turn) (link : Link) : t.Advances (t.readFirst link) := by
  unfold readFirst
  split
  · exact t.advances_await _
  · exact (t.advances_note rfl).trans (advances_endPolling _)
  · exact t.advances_await _

theorem advances_readFrame (t : Turn) (link : Link) (frame : Frame.Decoder) :
    t.Advances (t.readFrame link frame) := by
  unfold readFrame
  split <;> exact t.advances_await _

theorem advances_tick (t : Turn) (link : Link) : t.Advances (t.tick link) := by
  unfold tick
  split
  · exact t.advances_endPolling
  · split
    · exact (t.advances_update rfl).trans (advances_await _ _)
    · exact (t.advances_update rfl).trans (advances_readFirst _ _)

theorem advances_beginHandshake (t : Turn) (setup : Setup) :
    t.Advances (t.beginHandshake setup) := by
  unfold beginHandshake
  split <;> exact (t.advances_update rfl).trans (advances_await _ _)

theorem advances_adopt (t : Turn) (socket : Socket) : t.Advances (t.adopt socket) := by
  unfold adopt
  split
  · exact (t.advances_update rfl).trans (advances_cleanUp _ _)
  · exact (t.advances_update rfl).trans (advances_await _ _)

theorem advances_acceptNext (t : Turn) : t.Advances t.acceptNext := by
  unfold acceptNext
  split
  · exact t.advances_cleanUp none
  · exact t.advances_await _

theorem advances_establish (t : Turn)
    (early : t.session.phase.rank < Phase.establishing.rank) : t.Advances t.establish :=
  (t.advances_enter early).trans (advances_beginHandshake _ _)

theorem advances_handOver (t : Turn)
    (early : t.session.phase.rank < Phase.establishing.rank) : t.Advances t.handOver := by
  unfold handOver
  split
  · exact (t.advances_update rfl).trans (advances_await _ _)
  · exact t.advances_establish early

theorem advances_listen (t : Turn) : t.Advances t.listen := by
  have listening := t.advances_update (f := fun s => { s with listening := true }) rfl
  unfold listen
  split
  · exact listening.trans (advances_cleanUp _ _)
  · split <;> exact listening.trans (advances_await _ _)

theorem advances_announce (t : Turn) (host : String) (port : Int)
    (early : t.session.phase.rank < Phase.listening.rank) : t.Advances (t.announce host port) :=
  (t.advances_enter early).trans ((advances_note _ rfl).trans (advances_await _ _))

theorem advances_welcome (t : Turn) (socket : Socket) (peer : String)
    (early : t.session.phase.rank < Phase.established.rank) :
    t.Advances (t.welcome socket peer) := by
  let named := t.update fun s => { s with peer := some peer }
  have entered : named.Advances (named.enter .established) := named.advances_enter early
  exact (t.advances_update rfl).trans (entered.trans
    ((advances_note _ rfl).trans (advances_await _ _)))

theorem advances_begin (t : Turn)
    (fresh : t.session.stopping = false → t.session.phase = .initial) : t.Advances t.begin := by
  unfold begin
  split
  · exact t.advances_cleanUp none
  · next going =>
    split
    · exact t.advances_await _
    · refine (t.advances_enter ?_).trans (advances_await _ _)
      rw [fresh (by simpa using going)]
      decide
    · exact t.advances_crash _

/-! ## The calls of callers -/

theorem advances_concludeClosing (t : Turn) : t.Advances t.concludeClosing := by
  have ended : t.Advances (if t.session.isAlive then t else t.enterIfActive .closed) := by
    split
    · exact t.advances_refl
    · exact t.advances_enterIfActive rfl
  exact ended.trans (advances_awaitClosing _ _)

theorem advances_interrupt (t : Turn) : t.Advances t.interrupt := by
  unfold interrupt
  split
  · exact t.advances_awaitClosing _
  · exact t.advances_concludeClosing

end Turn

open Turn

theorem advances_close (s : Session) : (of s).Advances s.close := by
  have stopped : (of s).Advances (((of s).note (.closing s.role)).update
      fun s => { s with stopping := true }).detach :=
    (advances_note _ rfl).trans ((advances_update _ rfl).trans (advances_detach _))
  unfold close
  dsimp only
  split
  · exact advances_refl _
  · split
    · exact stopped.trans ((advances_update _ rfl).trans (advances_awaitClosing _ _))
    · exact stopped.trans (advances_interrupt _)

theorem advances_resumeClosing (s : Session) (reply : Reply) :
    (of s).Advances (s.resumeClosing reply) := by
  have waits (closing : Closing) := (of s).advances_awaitClosing closing
  unfold resumeClosing
  dsimp only
  split
  · exact waits _
  · split <;> exact waits _
  · exact advances_interrupt _
  · exact waits _
  · exact advances_concludeClosing _
  · split
    · exact advances_concludeClosing _
    · exact waits _
  · exact advances_refl _

theorem advances_send (s : Session) (p : Pending) : (of s).Advances (s.send p) := by
  unfold send
  dsimp only
  split
  · exact advances_note _ rfl
  · split
    · exact (advances_update _ rfl).trans (advances_note _ rfl)
    · exact advances_update _ rfl

/-! ## Answers -/

theorem advances_fail (s : Session) (f : Fault) : (of s).Advances (s.fail f) := by
  have waits (point : Point) := (of s).advances_await point
  unfold fail
  cases s.point with
  | ready | exited => exact advances_refl _
  | binding | timingListener | findingAddress | readingPort | announcing | closingListener =>
    exact advances_failListening _ f
  | accepting =>
    dsimp only
    split
    · exact advances_acceptNext _
    · exact advances_failListening _ f
  | shuttingListener =>
    dsimp only
    split
    · exact waits _
    · exact advances_failListening _ f
  | dialling host port => exact advances_failDialling _ host port f
  | handshaking setup =>
    dsimp only
    split
    · exact waits _
    · exact (advances_update _ rfl).trans (advances_failSetup _ setup f)
  | abandoning setup => exact (advances_update _ rfl).trans (advances_failSetup _ setup f)
  | namingPeer | reportingPeer | timingLink => exact advances_crash _ f
  | timingWrite | writing | timingAfterWrite | reportingWrite | timingFrame | timingAfterFrame
  | reportingMessage => exact advances_failPolling _ f
  | receiving link =>
    dsimp only
    split
    · exact advances_tick _ link
    · exact advances_failPolling _ f
  | receivingFrame =>
    dsimp only
    split
    · exact waits _
    · exact advances_failPolling _ f
  | reportingEnd =>
    dsimp only
    split
    · exact advances_cleanUp _ _
    · exact advances_crash _ f
  | shuttingUnused =>
    dsimp only
    split <;> exact waits _
  | releasingLink | closingUnused => exact waits _

theorem Standing.advances_proceed {s : Session} (standing : Standing s) (reply : Reply) :
    (of s).Advances (s.proceed reply) := by
  -- A phase is entered at four points, each of which fixes the phase before.
  have early {point : Point} {before : Phase} (here : s.point = point)
      (decided : point.phase? = some before) {after : Phase} (forward : before.rank < after.rank) :
      s.phase.rank < after.rank := by
    rwa [standing.phase_eq here decided]
  have waits (point : Point) := (of s).advances_await point
  unfold proceed
  dsimp only
  split
  any_goals exact waits _
  · exact advances_listen _
  · next here => exact advances_announce _ _ _ (early here rfl (by decide))
  · exact advances_acceptNext _
  · next here =>
    exact (advances_note _ rfl).trans (advances_handOver _ (early here rfl (by decide)))
  · next here => exact advances_establish _ (early here rfl (by decide))
  · exact advances_beginHandshake _ _
  · exact advances_adopt _ _
  · exact (advances_update _ rfl).trans (advances_failSetup _ _ _)
  · next here => exact advances_welcome _ _ _ (early here rfl (by decide))
  · exact advances_tick _ _
  · exact (advances_note _ rfl).trans (advances_await _ _)
  · exact advances_readFirst _ _
  · exact advances_readFirst _ _
  · exact advances_readFrame _ _ _
  · exact advances_readFrame _ _ _
  · exact (advances_note _ rfl).trans (advances_await _ _)
  · exact advances_tick _ _
  · exact advances_cleanUp _ _
  · exact advances_releaseListener _ _
  · exact advances_settle _ _
  · exact advances_refl _

/-! ## Along a history -/

theorem Standing.advances_step {s : Session} (standing : Standing s) (m : Move) :
    (of s).Advances (s.step m) := by
  cases m with
  | start => exact (advances_note _ rfl).trans (advances_update _ rfl)
  | run =>
    show (of s).Advances (if s.isRunnable then (of s).begin else of s)
    split
    · next runnable =>
      refine advances_begin _ fun going => ?_
      exact (standing.fresh (isRunnable_iff.mp runnable).2).resolve_right fun ⟨_, stopped⟩ =>
        Bool.false_ne_true (going.symm.trans stopped)
    · exact advances_refl _
  | send pending => exact s.advances_send pending
  | close => exact s.advances_close
  | dropEndpoint => exact .of_quiet rfl rfl
  | detach => exact advances_detach _
  | release => exact advances_releaseThread _
  | answer reply =>
    cases reply with
    | fault f => exact s.advances_fail f
    | _ => exact standing.advances_proceed _
  | answerCaller reply => exact s.advances_resumeClosing reply

theorem Standing.advances_history {s : Session} (standing : Standing s) (moves : List Move) :
    (of s).Advances (s.history moves) := by
  induction moves using List.reverseRecOn with
  | nil => exact advances_refl _
  | append_singleton moves last ih =>
    obtain ⟨more, same, climbs⟩ := (standing.history moves).advances_step last
    rw [history_concat]
    refine ih.trans ⟨more, ?_, climbs⟩
    rw [Turn.move, changes, List.filterMap_append]
    exact congrArg _ same

/-- The changes that a history records lead from the phase before it to the one after it. -/
theorem Standing.climbs_history {s : Session} (standing : Standing s) (moves : List Move) :
    Climbs s.phase (s.history moves).changes (s.history moves).session.phase := by
  obtain ⟨more, same, climbs⟩ := standing.advances_history moves
  obtain rfl : (s.history moves).changes = more := same
  exact climbs

end Session

end Handover
