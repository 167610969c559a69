import Handover.Proofs.Session.Interruption

/-! What becomes of a connection whose handshake fails. Until then nothing closes it, and no caller ever does.
After a fault of input and output the worker closes it once; after any other fault nobody does, and the worker
ends without it. In either case it is no longer marked as being in its handshake when the worker has ended. -/

set_option autoImplicit false

namespace Handover.Session

/-- The connection that a request closes, before its handshake or after it. -/
def Request.released? : Request → Option Socket
  | .close .raw => some .raw
  | .close .secured => some .secured
  | _ => none

variable {s u : Session}

/-! ## Before the handshake has been answered -/

/-- Whether the worker waits where a handshake lies behind it, or will not come any more. -/
def Point.isLate (point : Point) : Bool := point.isLinked || point.retreats

theorem Point.isLate_of_ended {point : Point} (ended : point.hand = .ended) : point.isLate = true := by
  rw [Point.isLate, Point.retreats_of_ended ended, Bool.or_true]

theorem Ends.late (ends : Ends s u) : u.point.isLate = true := Point.isLate_of_ended ends.hand

theorem ReadsFirst.late {link : Link} (reads : ReadsFirst s link u) : u.point.isLate = true := by
  cases reads with
  | finished _ stops => exact stops.ends.late
  | line | starved => rfl

theorem ReadsFrame.late {link : Link} {frame : Frame.Decoder} (reads : ReadsFrame s link frame u) :
    u.point.isLate = true := by
  cases reads <;> rfl

theorem Ticks.late {link : Link} (ticks : Ticks s link u) : u.point.isLate = true := by
  cases ticks with
  | stops _ retires => exact retires.ends.late
  | writes => rfl
  | reads _ _ reads => exact reads.late

theorem Opens.late {reply : Reply} (opens : Opens s reply u) (late : s.point.isLate = true) :
    u.point.isLate = true := by
  cases opens with
  | abandoned _ fails => exact fails.ends.late
  | unclosed _ fails => exact fails.ends.late
  | named => rfl
  | unnamed _ crashes => exact crashes.ends.late
  | unheard listens =>
    cases here : s.point <;> rw [here] at listens late <;> first | cases listens; done | cases late
  | _ => simp [‹s.point = _›, Point.isLate, Point.isLinked, Point.polled, Point.retreats] at late

theorem Polls.late {reply : Reply} (polls : Polls s reply u) : u.point.isLate = true := by
  cases polls with
  | established | timedWrite | wrote | timedAfterWrite | silent | timedAfterFrame => rfl
  | timed _ ticks => exact ticks.late
  | reportedWrite _ reads => exact reads.late
  | received _ reads => exact reads.late
  | idled _ _ ticks => exact ticks.late
  | timedFrame _ reads => exact reads.late
  | receivedFrame _ reads => exact reads.late
  | reportedMessage _ ticks => exact ticks.late
  | broken _ _ _ fails => exact fails.ends.late
  | crashed _ crashes => exact crashes.ends.late

theorem Closes.late {reply : Reply} (closes : Closes s reply u) : u.point.isLate = true := by
  cases closes with
  | reported _ retires => exact retires.ends.late
  | unreported _ retires => exact retires.ends.late
  | crashed _ crashes => exact crashes.ends.late
  | released _ unlistens => exact unlistens.ends.late
  | shut | closed | broken => rfl

theorem Moves.late {m : Move} (moves : Moves s m u) (late : s.point.isLate = true) :
    u.point.isLate = true := by
  cases moves with
  | called _ called => rwa [called.point]
  | begins runnable =>
    rw [(isRunnable_iff.mp runnable).2] at late
    cases late
  | passes _ passes =>
    cases passes with
    | opens opens => exact opens.late late
    | polls polls => exact polls.late
    | closes closes => exact closes.late

theorem request_of_early (early : s.point.isLate = false) :
    ∀ request ∈ s.request, request.released? = none := by
  intro request asked
  cases here : s.point <;> rw [here] at early <;> first | cases early; done | skip
  all_goals
    simp [Session.request, here] at asked
  all_goals
    subst asked
    rfl

theorem unreleased_of_early (plan : Plan) (moves : List Move)
    (early : (plan.session.history moves).session.point.isLate = false) :
    (plan.session.history moves).calls.filterMap Request.released? = [] := by
  induction moves using List.reverseRecOn with
  | nil => rfl
  | append_singleton moves last ih =>
    have standing := plan.standing.history moves
    have moved := step_moves standing.safe last
    rw [history_concat] at early ⊢
    have before : (plan.session.history moves).session.point.isLate = false := by
      refine Bool.eq_false_iff.mpr fun late => ?_
      cases early.symm.trans (moved.late late)
    rw [Turn.calls_move, List.filterMap_append, ih before, List.nil_append, List.filterMap_eq_nil_iff,
      calls_step]
    intro request member
    split at member
    · exact request_of_early early request (Option.mem_toList.mp member)
    · cases member

/-! ## After the handshake has failed -/

/-- A worker that reports its end or has exited, and has nothing left to close. -/
structure Gone (s : Session) : Prop where
  bare : Bare s
  there : (∃ event failed, s.point = .reportingEnd event failed) ∨ s.hasExited = true

theorem Retires.gone {escape : Option Fault} (retires : Retires s escape u) (bare : Bare s) : Gone u := by
  rw [retires.of_bare bare]
  exact ⟨⟨bare.idle, bare.none⟩, .inr rfl⟩

theorem Finishes.gone {event : Event} {failed : Bool} (finishes : Finishes s event failed u)
    (bare : Bare s) : Gone u := by
  cases finishes with
  | ended _ retires => exact retires.gone bare
  | reports => exact ⟨⟨bare.idle, bare.none⟩, .inl ⟨_, _, rfl⟩⟩

theorem Crashes.gone {f : Fault} (crashes : Crashes s f u) (bare : Bare s) : Gone u := by
  cases crashes with
  | loses _ finishes => exact finishes.gone bare
  | exits _ retires => exact retires.gone bare

theorem Fails.gone {event : Event} {f : Fault} (fails : Fails s event f u) (bare : Bare s) : Gone u := by
  cases fails with
  | expected _ stops =>
    cases stops with
    | interrupted _ retires => exact retires.gone bare
    | finishes _ finishes => exact finishes.gone bare
  | crashes _ crashes => exact crashes.gone bare

/-- What is left of a worker whose handshake has failed: it may still have to close the connection. -/
inductive Discarding (s : Session) : Prop where
  | abandoning {setup : Setup} {f : Fault} : s.point = .abandoning setup f → Bare s → Discarding s
  | gone : Gone s → Discarding s

theorem Gone.unreleased (gone : Gone s) : ∀ request ∈ s.request, request.released? = none := by
  intro request asked
  obtain ⟨event, failed, here⟩ | exited := gone.there
  · simp only [Session.request, here, Option.mem_def, Option.some.injEq] at asked
    subst asked
    rfl
  · obtain ⟨escape, here⟩ := hasExited_iff.mp exited
    simp [Session.request, here] at asked

theorem Bare.called {m : Move} (bare : Bare s) (called : Called s m u) (shuts : Shuts s m u) : Bare u where
  idle := by
    cases shuts with
    | rests _ _ listening => exact listening.trans bare.idle
    | begins _ _ gone => exact gone
    | resumes _ _ listening => exact listening.trans bare.idle
  none := called.held.trans bare.none

theorem Discarding.resume (discarding : Discarding s) {reply : Reply}
    (heeded : s.heeds (.answer reply) = true) : Gone (s.resume reply).session := by
  cases discarding with
  | @abandoning setup failure here bare =>
    let freed := (Turn.of s).update fun s => { s with handshaking := false }
    have gone (f : Fault) : Gone (freed.failSetup setup f).session :=
      (freed.failSetup_passage setup f).gone ⟨bare.idle, bare.none⟩
    cases reply with
    | done => simpa [Session.resume, proceed, here] using gone failure
    | fault f => simpa [Session.resume, fail, here] using gone f
    | _ => simp [heeds, request, here, Request.admits] at heeded
  | gone gone =>
    have retires (escape : Option Fault) : Gone ((Turn.of s).cleanUp escape).session :=
      ((Turn.of s).cleanUp_passage escape).gone gone.bare
    have crashes (f : Fault) : Gone ((Turn.of s).crash f).session :=
      ((Turn.of s).crash_passage f).gone gone.bare
    obtain ⟨event, failed, here⟩ | exited := gone.there
    · cases reply with
      | done => simpa [Session.resume, proceed, here] using retires none
      | fault f =>
        cases failed with
        | true => simpa [Session.resume, fail, here] using retires (some f)
        | false => simpa [Session.resume, fail, here] using crashes f
      | _ => simp [heeds, request, here, Request.admits] at heeded
    · obtain ⟨escape, here⟩ := hasExited_iff.mp exited
      simp [heeds, request, here] at heeded

/-- A worker whose handshake has failed closes nothing more than it has begun to close. -/
theorem Discarding.step (discarding : Discarding s) (standing : Standing s) (m : Move) :
    Discarding (s.step m).session ∧ (s.step m).calls.filterMap Request.released? = [] := by
  rw [calls_step]
  cases heeded : s.heeds m with
  | false =>
    have called := (step_moves standing.safe m).resting heeded
    have shuts := step_shuts heeded
    refine ⟨?_, rfl⟩
    cases discarding with
    | abandoning here bare => exact .abandoning (called.point.trans here) (bare.called called shuts)
    | gone gone =>
      refine .gone ⟨gone.bare.called called shuts, ?_⟩
      simpa [hasExited, called.point] using gone.there
  | true =>
    cases m with
    | run =>
      have ready := (isRunnable_iff.mp heeded).2
      cases discarding with
      | abandoning here => cases ready.symm.trans here
      | gone gone => simpa [hasExited, ready] using gone.there
    | answer reply =>
      have gone := discarding.resume heeded
      exact ⟨.gone gone, List.filterMap_eq_nil_iff.mpr fun request member =>
        gone.unreleased request (Option.mem_toList.mp member)⟩
    | _ => cases heeded

theorem Discarding.history (discarding : Discarding s) (standing : Standing s) (moves : List Move) :
    Discarding (s.history moves).session ∧ (s.history moves).calls.filterMap Request.released? = [] := by
  induction moves using List.reverseRecOn with
  | nil => exact ⟨discarding, rfl⟩
  | append_singleton moves last ih =>
    obtain ⟨before, unreleased⟩ := ih
    obtain ⟨after, last⟩ := before.step (standing.history moves) last
    rw [history_concat, Turn.calls_move, List.filterMap_append, unreleased, last]
    exact ⟨after, rfl⟩

/-! ## The handshake -/

theorem calls_history_append (s : Session) (earlier later : List Move) :
    (s.history (earlier ++ later)).calls =
      (s.history earlier).calls ++ ((s.history earlier).session.history later).calls := by
  rw [history_append]
  exact List.filterMap_append

theorem calls_history_cons (s : Session) (first : Move) (rest : List Move) :
    (s.history (first :: rest)).calls =
      (s.step first).calls ++ ((s.step first).session.history rest).calls := by
  rw [history_cons]
  exact List.filterMap_append

theorem answered_of_mem_transcript {moves : List Move} {exchange : Request × Reply}
    (met : exchange ∈ s.transcript moves) : ∃ earlier move later, moves = earlier ++ move :: later ∧
      (s.history earlier).session.answered move = some exchange := by
  induction moves using List.reverseRecOn with
  | nil => cases met
  | append_singleton moves last ih =>
    rw [transcript_concat, List.mem_append] at met
    obtain before | here := met
    · obtain ⟨earlier, move, later, rfl, answered⟩ := ih before
      exact ⟨earlier, move, later ++ [last], by simp, answered⟩
    · exact ⟨moves, last, [], rfl, Option.mem_toList.mp here⟩

theorem point_of_handshake {role : Role} (asked : s.request = some (.handshake role)) :
    ∃ setup, s.point = .handshaking setup := by
  cases here : s.point <;> simp [Session.request, here] at asked
  exact ⟨_, rfl⟩

/-- A fault of input and output has the connection closed, and no other fault has. -/
theorem Holding.fail_handshake (holding : Holding s) {setup : Setup} (here : s.point = .handshaking setup)
    (f : Fault) : Discarding (s.step (.answer (.fault f))).session ∧
      (s.step (.answer (.fault f))).calls.filterMap Request.released? =
        if f.isSystem then [.raw] else [] := by
  show Discarding (s.fail f).session ∧ (s.fail f).calls.filterMap _ = _
  have bare := holding.bare here rfl rfl
  have asks := (fail_passage (s := s) (by simp [request, here]) f).2
  rw [asks.calls_eq]
  cases system : f.isSystem with
  | true =>
    have same : s.fail f = (Turn.of s).await (.abandoning setup f) := by simp [fail, here, system]
    rw [same]
    exact ⟨.abandoning rfl ⟨bare.idle, bare.none⟩, rfl⟩
  | false =>
    let freed := (Turn.of s).update fun s => { s with handshaking := false }
    have same : s.fail f = freed.failSetup setup f := by simp [fail, here, system, freed]
    have gone : Gone (freed.failSetup setup f).session :=
      (freed.failSetup_passage setup f).gone ⟨bare.idle, bare.none⟩
    rw [same]
    exact ⟨.gone gone, List.filterMap_eq_nil_iff.mpr fun request member =>
      gone.unreleased request (Option.mem_toList.mp member)⟩

theorem unreleased_of_callers (s : Session) (moves : List Move) :
    ∀ exchange ∈ s.callerTranscript moves, exchange.1.released? = none := by
  intro exchange member
  obtain ⟨met, -, answered⟩ := List.mem_filterMap.mp member
  obtain ⟨-, asked, -⟩ := answeredCaller_eq_some.mp answered
  cases here : met.1.closing <;> simp [closingRequest, here] at asked <;> rw [← asked] <;> rfl

/-- When a handshake has failed, whatever callers do and whenever, the worker has its connection closed once
after a fault of input and output, and never after any other. No caller closes it. A worker that has exited
has no connection marked as being in its handshake. -/
theorem failed_handshake_released {plan : Plan} {moves : List Move} {role : Role} {f : Fault}
    (failed : (.handshake role, .fault f) ∈ plan.session.transcript moves) :
    let t := plan.session.history moves
    t.calls.filterMap Request.released? = (if f.isSystem then [.raw] else []) ∧
      (∀ exchange ∈ plan.session.callerTranscript moves, exchange.1.released? = none) ∧
      (t.session.hasExited = true → t.session.handshaking = false) := by
  intro t
  refine ⟨?_, unreleased_of_callers _ _, fun exited => ?_⟩
  -- The history is cut where the handshake fails: nothing is closed before that, nor more after it.
  · obtain ⟨earlier, move, later, rfl, answered⟩ := answered_of_mem_transcript failed
    obtain ⟨rfl, asked, -⟩ := answered_eq_some.mp answered
    obtain ⟨setup, here⟩ := point_of_handshake asked
    have early := unreleased_of_early plan earlier (by rw [here]; rfl)
    obtain ⟨discarding, released⟩ := (plan.holding_history earlier).fail_handshake here f
    have standing := (plan.standing.history earlier).step (.answer (.fault f))
    obtain ⟨-, unreleased⟩ := discarding.history standing later
    have parts := calls_history_append plan.session earlier (.answer (.fault f) :: later)
    rw [calls_history_cons] at parts
    rw [show t.calls = _ from parts, List.filterMap_append, List.filterMap_append, early, released,
      unreleased, List.nil_append, List.append_nil]
  · obtain ⟨escape, here⟩ := hasExited_iff.mp exited
    exact (plan.holding_history moves).free here rfl

def handshakeFailed (f : Fault) : List Move := [.start, .run, .answer .done, .answer .done,
  .answer (.address "10.0.0.1"), .answer (.port 1336), .answer .done, .answer (.accepted "10.0.0.2" 50000),
  .answer .done, .answer .done, .answer (.fault f), .answer .done, .answer .done]

def wrongSecret : Fault := ⟨.security, "Wrong secret"⟩

/-- The connection of a peer that holds another secret is closed. -/
theorem failed_handshake_released_security :
    (.handshake .listener, .fault wrongSecret) ∈
        Plan.plainListener.session.transcript (handshakeFailed wrongSecret) ∧
      (Plan.plainListener.session.history (handshakeFailed wrongSecret)).session.hasExited = true ∧
      (Plan.plainListener.session.history (handshakeFailed wrongSecret)).calls.filterMap
        Request.released? = [.raw] ∧
      (Plan.plainListener.session.history (handshakeFailed wrongSecret)).session.handshaking = false := by
  have failed : (.handshake .listener, .fault wrongSecret) ∈
      Plan.plainListener.session.transcript (handshakeFailed wrongSecret) :=
    List.mem_of_getElem? (i := 8) rfl
  have exited : (Plan.plainListener.session.history (handshakeFailed wrongSecret)).session.hasExited =
      true := rfl
  obtain ⟨released, -, unmarked⟩ := failed_handshake_released failed
  exact ⟨failed, exited, released, unmarked exited⟩

/-- After a fault that is none of input and output the worker ends, and the connection is never closed. -/
theorem failed_handshake_leaks :
    let moves := handshakeFailed ⟨.state, "Not ready"⟩
    (Plan.plainListener.session.transcript moves)[5]? = some (.accept, .accepted "10.0.0.2" 50000) ∧
      (Plan.plainListener.session.transcript moves)[8]? =
        some (.handshake .listener, .fault ⟨.state, "Not ready"⟩) ∧
      (Plan.plainListener.session.history moves).session.hasExited = true ∧
      (Plan.plainListener.session.history moves).calls.filterMap Request.released? = [] ∧
      Plan.plainListener.session.callerTranscript moves = [] :=
  ⟨rfl, rfl, rfl, rfl, rfl⟩

end Handover.Session
