import Handover.Proofs.Session.Attending

/-! Conversations. Callers hand payloads to a session at any time, and a network on which nothing but
receiving can fail answers its worker. From the moment when the connection has been secured such a
conversation comes to an end, with all messages of the stream reported and the connection lost. -/

set_option autoImplicit false

namespace Handover.Session

/-- A session with all that it has done, and what is still to arrive for it. -/
structure Talk where
  turn : Turn
  inlet : Inlet

namespace Talk

def called (t : Talk) (sends : List Pending) : Turn :=
  (sends.map Move.send).foldl Turn.move t.turn

def round (peer : String) (sends : List Pending) (t : Talk) : Talk :=
  match (t.called sends).session.request with
  | none => ⟨t.called sends, t.inlet⟩
  | some request =>
      ⟨(t.called sends).move (.answer (network peer t.inlet request).1),
        (network peer t.inlet request).2⟩

def heard (t : Talk) : List Bytes := t.turn.events.filterMap Event.received?

end Talk

def converse (peer : String) (sends : Nat → List Pending) (t : Talk) : Nat → Talk
  | 0 => t
  | n + 1 => (converse peer sends t n).round peer (sends n)

/-- What holds of a conversation at any time: the worker hears what arrives or has lost the connection, and
there is a bound on what is left to do. -/
structure Lives (plan : Plan) (t : Talk) (all : List Bytes) (bound : Nat) : Prop where
  past : ∃ moves, t.turn = plan.session.history moves
  going : t.turn.session.stopping = false
  state : (∃ v, t.turn.session.point.view = some v ∧ t.turn.session.point.Starves ∧
      Hears v t.inlet t.heard all) ∨
    t.turn.session.point.hand = .ended ∧ t.turn.session.phase = .lost ∧ t.heard = all
  toDo : t.turn.session.point.toDo t.inlet ≤ bound

/-! ## Callers -/

theorem session_send (s : Session) (p : Pending) :
    ∃ slot, (s.send p).session = { s with slot := slot } := by
  unfold send
  split
  · exact ⟨s.slot, rfl⟩
  · dsimp only
    split <;> exact ⟨⟨some p⟩, rfl⟩

theorem session_called (t : Talk) (sends : List Pending) :
    ∃ slot, (t.called sends).session = { t.turn.session with slot := slot } := by
  unfold Talk.called
  generalize t.turn = turn
  induction sends generalizing turn with
  | nil => exact ⟨turn.session.slot, rfl⟩
  | cons first rest ih =>
    obtain ⟨slot, sent⟩ := turn.session.session_send first
    obtain ⟨last, called⟩ := ih (turn.move (.send first))
    refine ⟨last, ?_⟩
    rw [List.map_cons, List.foldl_cons, called]
    show { (turn.session.send first).session with slot := last } = _
    rw [sent]

theorem calls_called (t : Talk) (sends : List Pending) : (t.called sends).calls = t.turn.calls := by
  unfold Talk.called
  generalize t.turn = turn
  induction sends generalizing turn with
  | nil => rfl
  | cons first rest ih =>
    rw [List.map_cons, List.foldl_cons, ih, Turn.calls_move]
    show turn.calls ++ (turn.session.send first).calls = turn.calls
    rw [calls_send, List.append_nil]

/-! ## Rounds -/

theorem request_of_view {s : Session} {v : View} (view : s.point.view = some v) :
    s.request ≠ none := by
  unfold request
  cases here : s.point <;> simp [here, Point.view] at view ⊢

theorem Standing.active_of_view {s : Session} (standing : Standing s) {v : View}
    (view : s.point.view = some v) : s.phase.isTerminal = false := by
  have decided : s.point.phase? = some .establishing ∨ s.point.phase? = some .established := by
    cases here : s.point <;> simp [here, Point.view] at view <;> simp [Point.phase?]
  obtain setting | up := decided
  · rw [standing.phase _ setting]
    rfl
  · rw [standing.phase _ up]
    rfl

namespace Lives

variable {plan : Plan} {t : Talk} {all : List Bytes} {bound : Nat}

theorem called (lives : Lives plan t all bound) (sends : List Pending) :
    Lives plan ⟨t.called sends, t.inlet⟩ all bound := by
  obtain ⟨slot, session⟩ := session_called t sends
  have heard : Talk.heard ⟨t.called sends, t.inlet⟩ = t.heard := by
    simp [Talk.heard, Turn.events, calls_called]
  refine ⟨?_, ?_, ?_, ?_⟩
  · obtain ⟨moves, same⟩ := lives.past
    refine ⟨moves ++ sends.map Move.send, ?_⟩
    rw [history, List.foldl_append, ← history, ← same]
    rfl
  · rw [session]
    exact lives.going
  · rw [heard, session]
    exact lives.state
  · rw [session]
    exact lives.toDo

theorem heard_move (turn : Turn) {reply : Reply}
    (heeded : turn.session.heeds (.answer reply) = true) (inlet : Inlet) :
    Talk.heard ⟨turn.move (.answer reply), inlet⟩ =
      turn.events.filterMap Event.received? ++
        (turn.session.step (.answer reply)).session.message.toList := by
  have events : (turn.move (.answer reply)).events =
      turn.events ++ (turn.session.step (.answer reply)).session.told.toList := by
    have step := turn.session.events_step (.answer reply)
    rw [toldBy, heeded, if_pos rfl] at step
    rw [← step, Turn.events, Turn.calls_move, List.filterMap_append]
    rfl
  rw [Talk.heard, events, List.filterMap_append, message]
  cases (turn.session.step (.answer reply)).session.told with
  | none => simp
  | some event => cases message : event.received? <;> simp [message]

/-- Every round leaves less to do. -/
theorem round (lives : Lives plan t all bound) (peer : String) (sends : List Pending) :
    Lives plan (t.round peer sends) all (bound - 1) := by
  have lives := lives.called sends
  obtain ⟨⟨moves, past⟩, going, state, toDo⟩ := lives
  have past : t.called sends = plan.session.history moves := past
  have standing : Standing (t.called sends).session := by
    rw [past]
    exact plan.standing.history moves
  unfold Talk.round
  split
  -- Only a worker that has exited asks for nothing, and it has nothing left to do.
  · next idle =>
    refine ⟨⟨moves, past⟩, going, state, ?_⟩
    obtain ⟨v, view, -⟩ | ⟨ended, -⟩ := state
    · exact absurd idle (request_of_view view)
    · obtain ⟨-, -, done⟩ | ⟨-, request, asked, -⟩ := request_of_ended ended t.inlet
      · rw [toDo_of_ended ended, done]
        exact Nat.zero_le _
      · simp [idle] at asked
  · next request asked =>
    have heeded : (t.called sends).session.heeds (.answer (network peer t.inlet request).1) = true :=
      heeds_answer_iff.mpr ⟨request, asked, admits_network peer t.inlet request⟩
    have goes : GoesOn ((t.called sends).session.step (.answer (network peer t.inlet request).1)).session
        (network peer t.inlet request).2 (Talk.heard ⟨t.called sends, t.inlet⟩) all
        ((t.called sends).session.point.toDo t.inlet) := by
      obtain ⟨v, view, starves, hears⟩ | ⟨ended, lost, same⟩ := state
      · exact goesOn_answer view going (standing.active_of_view view) hears starves asked peer
      · exact goesOn_end standing ended lost same asked peer
    refine ⟨⟨moves ++ [.answer (network peer t.inlet request).1], ?_⟩, ?_, ?_, ?_⟩
    · rw [history_concat, ← past]
    · exact (step_moves standing.safe _).going going nofun
    · rw [heard_move _ heeded]
      cases goes with
      | hears view starves hears => exact .inl ⟨_, view, starves, hears⟩
      | ends ended lost silent same =>
        refine .inr ⟨ended, lost, ?_⟩
        rw [silent]
        simpa [Talk.heard] using same
    · exact Nat.le_sub_one_of_lt (Nat.lt_of_lt_of_le goes.less toDo)

theorem converse (lives : Lives plan t all bound) (peer : String) (sends : Nat → List Pending)
    (n : Nat) : Lives plan (converse peer sends t n) all (bound - n) := by
  induction n with
  | zero => exact lives
  | succ n ih => exact ih.round peer (sends n)

end Lives

/-! ## From the beginning to the end -/

/-- The worker has exited and the connection is lost; the messages were reported, and the loss was
reported last. -/
structure Ended (t : Talk) (messages : List Bytes) : Prop where
  exited : t.turn.session.hasExited = true
  phase : t.turn.session.phase = .lost
  heard : t.heard = messages
  last : ∃ earlier, t.turn.events = earlier ++ [.lost] ∧ .lost ∉ earlier

theorem request_of_hasExited {s : Session} (exited : s.hasExited = true) : s.request = none := by
  obtain ⟨escape, here⟩ := hasExited_iff.mp exited
  rw [request, here]

theorem Talk.round_of_hasExited {t : Talk} (exited : t.turn.session.hasExited = true) (peer : String)
    (sends : List Pending) :
    (t.round peer sends).turn.session.hasExited = true ∧ (t.round peer sends).heard = t.heard := by
  obtain ⟨slot, session⟩ := session_called t sends
  have exited : (t.called sends).session.hasExited = true := by
    rw [session]
    exact exited
  unfold Talk.round
  rw [request_of_hasExited exited]
  exact ⟨exited, by simp [Talk.heard, Turn.events, calls_called]⟩

theorem Ended.later {peer : String} {sends : Nat → List Pending} {t : Talk} {n : Nat}
    {messages : List Bytes} (ended : Ended (converse peer sends t n) messages) (more : Nat) :
    (converse peer sends t (n + more)).turn.session.hasExited = true ∧
      (converse peer sends t (n + more)).heard = messages := by
  induction more with
  | zero => exact ⟨ended.exited, ended.heard⟩
  | succ more ih =>
    obtain ⟨exited, heard⟩ := ih
    obtain ⟨still, same⟩ := Talk.round_of_hasExited exited peer (sends (n + more))
    exact ⟨still, same.trans heard⟩

theorem Ended.unique {peer : String} {sends : Nat → List Pending} {t : Talk} {n m : Nat}
    {messages others : List Bytes} (first : Ended (converse peer sends t n) messages)
    (second : Ended (converse peer sends t m) others) : messages = others := by
  rw [← (first.later m).2, ← (second.later n).2, Nat.add_comm]

theorem going_history {plan : Plan} {moves : List Move} (unclosed : .close ∉ moves) :
    (plan.session.history moves).session.stopping = false := by
  induction moves using List.reverseRecOn with
  | nil => rfl
  | append_singleton moves last ih =>
    simp only [List.mem_append, List.mem_singleton, not_or] at unclosed
    rw [history_concat]
    exact (step_moves (plan.standing.history moves).safe last).going (ih unclosed.1)
      (Ne.symm unclosed.2)

theorem heard_early {plan : Plan} {moves : List Move}
    (early : (plan.session.history moves).session.phase = .establishing) :
    (plan.session.history moves).events.filterMap Event.received? = [] := by
  obtain ⟨a, same, fits⟩ := account_history plan moves
  rw [early] at fits
  have alone := fits.early (by decide)
  rw [same, Account.events, alone, fits.transfers_eq_nil alone, fits.final]
  cases a.bundle <;> simp [Phase.report, Event.received?]

theorem lost_last {plan : Plan} {moves : List Move}
    (lost : (plan.session.history moves).session.phase = .lost) :
    ∃ earlier, (plan.session.history moves).events = earlier ++ [.lost] ∧ .lost ∉ earlier := by
  obtain ⟨a, same, fits⟩ := account_history plan moves
  rw [lost] at fits
  refine ⟨(a.bundle.map Event.listening).toList ++ (a.peer.map Event.established).toList ++
    a.transfers, by rw [same, Account.events, fits.final]; rfl, ?_⟩
  have other : Event.lost ∉ a.transfers := by
    intro member
    cases fits.transfers _ member
  simp [other]

namespace Lives

variable {plan : Plan} {t : Talk} {all : List Bytes}

theorem start {setup : List Move} {socket : Socket} {arrivals : List Arrival}
    (secured : (plan.session.history setup).session.point = .namingPeer socket)
    (unclosed : .close ∉ setup) (calm : Calm none [] arrivals) :
    ∃ bound, Lives plan ⟨plan.session.history setup, .ofArrivals arrivals⟩
      (Frame.messages none (LineReader.allLines (arrivals.flatMap Arrival.bytes))) bound := by
  have standing := plan.standing.history setup
  refine ⟨_, ⟨setup, rfl⟩, going_history unclosed, .inl ⟨_, by rw [secured]; rfl, ?_, ?_⟩,
    Nat.le_refl _⟩
  · rw [secured]
    trivial
  · have early := heard_early (standing.phase_eq secured rfl)
    exact ⟨by rw [Talk.heard, early]; rfl, nofun, nofun, calm⟩

theorem ended (lives : Lives plan t all 0) : Ended t all := by
  obtain ⟨⟨moves, past⟩, -, state, toDo⟩ := lives
  obtain ⟨v, view, -⟩ | ⟨ended, lost, heard⟩ := state
  · rw [Point.toDo, view] at toDo
    dsimp only at toDo
    omega
  · rw [toDo_of_ended ended] at toDo
    obtain ⟨-, exited, -⟩ | ⟨some, -⟩ := request_of_ended ended t.inlet
    · have last : ∃ earlier, t.turn.events = earlier ++ [.lost] ∧ .lost ∉ earlier := by
        rw [past] at lost ⊢
        exact lost_last lost
      exact ⟨exited, lost, heard, last⟩
    · omega

end Lives

/-- Whatever arrives without harm, and whatever is handed over meanwhile, a conversation ends with the
messages of the stream reported and the connection lost. -/
theorem converse_ends {plan : Plan} {setup : List Move} {socket : Socket} {arrivals : List Arrival}
    (secured : (plan.session.history setup).session.point = .namingPeer socket)
    (unclosed : .close ∉ setup) (calm : Calm none [] arrivals) (peer : String)
    (sends : Nat → List Pending) :
    ∃ n, Ended (converse peer sends ⟨plan.session.history setup, .ofArrivals arrivals⟩ n)
      (Frame.messages none (LineReader.allLines (arrivals.flatMap Arrival.bytes))) := by
  -- After as many rounds as the bound says nothing is left to do.
  obtain ⟨bound, lives⟩ := Lives.start secured unclosed calm
  have last := lives.converse peer sends bound
  rw [Nat.sub_self] at last
  exact ⟨bound, last.ended⟩

end Handover.Session
