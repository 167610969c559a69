import Handover.Proofs.Session.Custody

/-! The sending side of a session. The book of a history accounts for every accepted payload, and a
payload that waits when a tick begins is the first thing that the tick transfers. -/

set_option autoImplicit false

namespace Handover.Session

/-! ## The account -/

/-- A book accounts for the payloads of a history. -/
structure Accounts (s : Session) (moves : List Move) (book : List Entry) : Prop where
  /-- There is one entry for each accepted payload, in order. -/
  accepted : book.map Entry.pending = (s.course moves).filterMap fun met => met.1.deposit met.2
  written : (book.filter (·.fate.isWritten)).map Entry.bytes = (s.history moves).written
  tokens : (book.filter (·.fate == .acknowledged)).map (·.pending.token) =
    (s.history moves).events.filterMap Event.token?
  /-- A payload is acknowledged if all went well from the one change of the timeout to the other. -/
  completed : (book.filter (·.fate == .acknowledged)).map Entry.bytes =
    completed (s.transcript moves)
  waiting : (book.filter (·.fate == .waiting)).map Entry.pending =
    (s.history moves).session.slot.content.toList
  /-- It was in the slot when the next payload was put there. -/
  replaced : ∀ i e, book[i]? = some e → e.fate = .replaced →
    ∃ later, ((s.course moves).filterMap placed)[i + 1]? = some (some e.pending, later)
  /-- Only the last payload taken can be left without an acknowledgement. -/
  single : ∀ e ∈ (book.filter (·.fate.isTaken)).dropLast, e.fate = .acknowledged
  /-- A payload that was taken and not written is in the hand of the worker, or the connection failed
  when it was prepared for it, and the worker transfers nothing any more. -/
  taken : ∀ e ∈ book, e.fate = .taken →
    (∃ link, (s.history moves).session.point = .timingWrite link e.pending) ∨
      (s.history moves).session.point.hand = .ended ∧ ∃ met ∈ s.course moves, Spoilt e.pending met

def bookOf (past : List Entry) (slot : Slot) : List Entry :=
  past ++ (slot.content.map fun pending => Entry.mk pending .waiting).toList

theorem filter_bookOf {past : List Entry} {slot : Slot} (choice : Fate → Bool)
    (taken : ∀ fate, choice fate = true → fate.isTaken = true) :
    (bookOf past slot).filter (fun e => choice e.fate) =
      (past.filter (·.fate.isTaken)).filter fun e => choice e.fate := by
  have waiting : choice .waiting = false := by
    by_contra chosen
    have := taken .waiting (by simpa using chosen)
    cases this
  rw [bookOf, List.filter_append, List.filter_filter]
  have nothing : ((slot.content.map fun pending => Entry.mk pending .waiting).toList).filter
      (fun e => choice e.fate) = [] := by
    cases slot.content <;> simp [waiting]
  rw [nothing, List.append_nil]
  refine List.filter_congr fun e _ => ?_
  cases chosen : choice e.fate with
  | false => rfl
  | true => simp [taken _ chosen]

theorem accepted_bookOf {past : List Entry} {slot : Slot} {met : List (Session × Move)}
    (shelf : Shelf past slot (met.filterMap placed)) :
    (bookOf past slot).map Entry.pending = met.filterMap fun met => met.1.deposit met.2 := by
  have calls : (met.filterMap placed).map Prod.snd = met.filterMap fun met => met.1.deposit met.2 := by
    rw [List.map_filterMap]
    refine List.filterMap_congr fun seen _ => ?_
    cases deposit : seen.1.deposit seen.2 <;> simp [placed, deposit]
  rw [← calls, ← shelf.accepted, bookOf, List.map_append]
  cases slot.content <;> rfl

theorem waiting_bookOf {past : List Entry} {slot : Slot} (left : ∀ e ∈ past, e.fate ≠ .waiting) :
    ((bookOf past slot).filter (·.fate == .waiting)).map Entry.pending = slot.content.toList := by
  have none : past.filter (·.fate == .waiting) = [] :=
    List.filter_eq_nil_iff.mpr fun e member => by simpa using left e member
  rw [bookOf, List.filter_append, none]
  cases slot.content <;> simp

theorem getElem?_of_replaced {past : List Entry} {slot : Slot} {i : Nat} {e : Entry}
    (found : (bookOf past slot)[i]? = some e) (replaced : e.fate = .replaced) : past[i]? = some e := by
  by_cases before : i < past.length
  · rwa [bookOf, List.getElem?_append_left before] at found
  · rw [bookOf, List.getElem?_append_right (by omega)] at found
    obtain ⟨pending, -, rfl⟩ := by simpa using List.mem_of_getElem? found
    cases replaced

namespace Custody

variable {s : Session} {met : List (Session × Move)} {past acked : List Entry}
  {current : Option Entry}

theorem taken_bookOf (custody : Custody s met past acked current) :
    (bookOf past s.slot).filter (·.fate.isTaken) = acked ++ current.toList := by
  rw [filter_bookOf Fate.isTaken fun _ => id, custody.kept.worked.order]
  refine List.filter_eq_self.mpr fun e member => ?_
  rcases List.mem_append.mp member with acknowledged | last
  · simp [custody.kept.worked.done e acknowledged, Fate.isTaken]
  · obtain taken | written := custody.kept.worked.fate e (by simpa using last) <;>
      simp [*, Fate.isTaken]

theorem acknowledged_bookOf (custody : Custody s met past acked current) :
    (bookOf past s.slot).filter (·.fate == .acknowledged) = acked := by
  have all : acked.filter (·.fate == .acknowledged) = acked :=
    List.filter_eq_self.mpr fun e member => by simp [custody.kept.worked.done e member]
  have none : current.toList.filter (·.fate == .acknowledged) = [] := by
    refine List.filter_eq_nil_iff.mpr fun e member => ?_
    obtain taken | written := custody.kept.worked.fate e (by simpa using member) <;> simp [*]
  rw [filter_bookOf (· == .acknowledged) (by rintro _ same; simp_all [Fate.isTaken]),
    custody.kept.worked.order, List.filter_append, all, none, List.append_nil]

theorem single (custody : Custody s met past acked current) :
    ∀ e ∈ ((bookOf past s.slot).filter (·.fate.isTaken)).dropLast, e.fate = .acknowledged := by
  intro e member
  rw [custody.taken_bookOf] at member
  refine custody.kept.worked.done e ?_
  cases current with
  | none => exact List.dropLast_subset _ (by simpa using member)
  | some last => simpa using member

theorem unwritten (custody : Custody s met past acked current) {e : Entry}
    (member : e ∈ bookOf past s.slot) (taken : e.fate = .taken) :
    (∃ link, s.point = .timingWrite link e.pending) ∨
      s.point.hand = .ended ∧ ∃ seen ∈ met, Spoilt e.pending seen := by
  -- All other payloads that were taken are acknowledged.
  have last : e ∈ current := by
    have chosen : e ∈ acked ++ current.toList := by
      rw [← custody.taken_bookOf]
      exact List.mem_filter.mpr ⟨member, by simp [taken, Fate.isTaken]⟩
    rcases List.mem_append.mp chosen with acknowledged | last
    · simp [custody.kept.worked.done e acknowledged] at taken
    · simpa using last
  have holds := custody.kept.worked.hand
  cases hand : s.point.hand with
  | free =>
    rw [hand] at holds
    simp [show current = none from holds] at last
  | taken link p =>
    rw [hand] at holds
    obtain rfl : ⟨p, .taken⟩ = e := by
      simpa [show current = some ⟨p, .taken⟩ from holds] using last
    exact .inl ⟨link, point_of_taken hand⟩
  | writing link p | checking link p =>
    rw [hand] at holds
    obtain rfl : ⟨p, .written⟩ = e := by
      simpa [show current = some ⟨p, .written⟩ from holds] using last
    cases taken
  | ended => exact .inr ⟨rfl, custody.spoilt hand e last taken⟩

end Custody

theorem accounts_history (plan : Plan) (moves : List Move) :
    ∃ book, Accounts plan.session moves book := by
  obtain ⟨past, acked, current, custody⟩ := custody_history plan moves
  have shelf := custody.kept.shelf
  have worked := custody.kept.worked
  refine ⟨bookOf past (plan.session.history moves).session.slot, {
    accepted := accepted_bookOf shelf
    written := ?_
    tokens := ?_
    completed := ?_
    waiting := waiting_bookOf shelf.left
    replaced := fun i e found replaced =>
      shelf.replaced i e (getElem?_of_replaced found replaced) replaced
    single := custody.single
    taken := fun e member taken => custody.unwritten member taken }⟩
  · rw [filter_bookOf Fate.isWritten fun _ => Fate.isTaken_of_isWritten, worked.order, worked.written,
      written_history]
    rfl
  · rw [custody.acknowledged_bookOf, worked.tokens, tokens_history]
    rfl
  · rw [custody.acknowledged_bookOf, custody.kept.completed]
    rfl

/-! ## What a tick does first -/

/-- The connection with which a move brings the worker round to the next tick. -/
def rounds (s : Session) : Move → Option Link
  | .answer reply => match s.point, reply with
      | .timingLink link, .done | .reportingMessage link _, .done => some link
      | .receiving link, .fault f => if f.isTimeout then some link else none
      | _, _ => none
  | _ => none

def ticks (s : Session) : Move → Option Link
  | .answer reply =>
      if s.stopping then none
      else match s.point, reply with
        | .timingLink link, .done | .reportingMessage link _, .done => some link
        | .receiving link, .fault f => if f.isTimeout then some link else none
        | _, _ => none
  | _ => none

theorem step_of_rounds {s : Session} {m : Move} {link : Link} (rounds : s.rounds m = some link) :
    s.step m = (Turn.of s).tick link := by
  unfold Session.rounds at rounds
  split at rounds
  · split at rounds
    · next here =>
      cases rounds
      simp [step, resume, proceed, here]
    · next here =>
      cases rounds
      simp [step, resume, proceed, here]
    · next f here =>
      split at rounds
      · next late =>
        cases rounds
        simp [step, resume, fail, here, late]
      · cases rounds
    · cases rounds
  · cases rounds

theorem ticks_eq_rounds (s : Session) (m : Move) :
    s.ticks m = if s.stopping then none else s.rounds m := by
  cases m with
  | answer => rfl
  | _ => exact (ite_self none).symm

theorem step_of_ticks {s : Session} {m : Move} {link : Link} (ticks : s.ticks m = some link) :
    s.stopping = false ∧ s.step m = (Turn.of s).tick link := by
  rw [ticks_eq_rounds] at ticks
  split at ticks
  · cases ticks
  · next going => exact ⟨by simpa using going, step_of_rounds ticks⟩

/-- The payload is the first thing to be transferred, or nothing is: the connection is still being
prepared for it, or has failed in that and the worker has stopped. -/
def Heads (link : Link) (p : Pending) (s : Session) (calls : List Request)
    (met : List (Session × Move)) : Prop :=
  (∃ others, calls.filter Request.isTransfer =
      .send link.socket (Frame.encode p.payload) :: others) ∨
    calls.filter Request.isTransfer = [] ∧
      (s.point = .timingWrite link p ∨ s.point.hand = .ended ∧ ∃ seen ∈ met, Spoilt p seen)

theorem request_of_writing {s : Session} {link : Link} {p : Pending}
    (writes : s.point.hand = .writing link p) :
    s.request = some (.send link.socket (Frame.encode p.payload)) := by
  unfold Session.request
  cases here : s.point <;> rw [here] at writes <;> cases writes
  rfl

theorem transfers_of_ended {s : Session} (ended : s.point.hand = .ended) :
    s.request.toList.filter Request.isTransfer = [] := by
  refine List.filter_eq_nil_iff.mpr fun request asked => ?_
  have asks := asks_hand (show s.request = some request by simpa using asked)
  rw [ended] at asks
  exact Bool.eq_false_iff.mp asks

namespace Heads

variable {link : Link} {p : Pending} {s : Session} {calls : List Request}
  {met : List (Session × Move)}

theorem step (heads : Heads link p s calls met) (standing : Standing s) (m : Move) :
    Heads link p (s.step m).session (calls ++ (s.step m).calls) (met ++ [(s, m)]) := by
  -- Once the payload is the first to be transferred it stays the first.
  obtain ⟨others, same⟩ | ⟨none, here⟩ := heads
  · exact .inl ⟨others ++ (s.step m).calls.filter Request.isTransfer, by
      rw [List.filter_append, same, List.cons_append]⟩
  · have moves := step_moves standing.safe m
    rw [calls_step]
    have here : s.point = .timingWrite link p ∨
        s.point.hand = .ended ∧ ∃ seen ∈ met ++ [(s, m)], Spoilt p seen :=
      here.imp_right (And.imp_right met_earlier)
    generalize (s.step m).session = u at moves
    cases moves with
    | called unheeded called =>
      rw [unheeded, if_neg Bool.false_ne_true, List.append_nil]
      exact .inr ⟨none, by rwa [called.point]⟩
    | begins runnable =>
      -- A tick comes after the beginning of the body.
      rw [(isRunnable_iff.mp runnable).2] at here
      obtain other | ⟨other, -⟩ := here <;> cases other
    | @passes reply _ heeded passes =>
      have carries := passes.carries
      rw [heeded, if_pos rfl]
      -- Nothing is transferred any more once the worker has stopped.
      have stopped (ended : u.point.hand = .ended)
          (failed : ∃ seen ∈ met ++ [(s, .answer reply)], Spoilt p seen) :
          Heads link p u (calls ++ u.request.toList) (met ++ [(s, .answer reply)]) :=
        .inr ⟨by rw [List.filter_append, none, transfers_of_ended ended]; rfl, .inr ⟨ended, failed⟩⟩
      obtain timing | ⟨ended, failed⟩ := here
      · rw [timing] at carries
        obtain writes | ended := carries.of_taken
        · refine .inl ⟨[], ?_⟩
          rw [List.filter_append, none, request_of_writing writes]
          rfl
        · rw [ended] at carries
          obtain ⟨f, rfl⟩ := carries.fault_of_taken
          exact stopped ended ⟨_, List.mem_append_right _ List.mem_cons_self, link, f, timing, rfl⟩
      · rw [ended] at carries
        exact stopped carries.of_ended failed

theorem history (heads : Heads link p s calls met) (standing : Standing s) (moves : List Move) :
    Heads link p (s.history moves).session (calls ++ (s.history moves).calls)
      (met ++ s.course moves) := by
  induction moves using List.reverseRecOn with
  | nil => simpa [course] using heads
  | append_singleton moves last ih =>
    rw [history_concat, Turn.calls_move, course_append, ← List.append_assoc, ← List.append_assoc]
    exact ih.step (standing.history moves) last

theorem tick (going : s.stopping = false) (waiting : s.slot.content = some p) (link : Link) :
    Heads link p ((Turn.of s).tick link).session ((Turn.of s).tick link).calls met := by
  rw [((Turn.of s).asks_tick link).calls_eq]
  have ticks := (Turn.of s).tick_passage link
  generalize ((Turn.of s).tick link).session = u at ticks
  cases ticks with
  | stops stopped => simp [going] at stopped
  | reads _ none => simp [waiting] at none
  | writes _ content =>
    obtain rfl := Option.some.inj (waiting.symm.trans content)
    exact .inr ⟨rfl, .inl rfl⟩

end Heads

/-- The sending side of a session, whatever happens to it. A book accounts for the accepted payloads: in
order, the payloads written are among them, and the tokens acknowledged are those of the writes that went
well; a payload that was not written was replaced by the next, still waits, or is the one in the hand of
the worker when the connection failed. A payload that waits when a tick begins is transferred before
anything else is, unless the connection fails. -/
theorem outbound_payloads (plan : Plan) (moves : List Move) :
    (∃ book, Accounts plan.session moves book) ∧
      ∀ earlier m later link p, moves = earlier ++ m :: later →
        (plan.session.history earlier).session.ticks m = some link →
        (plan.session.history earlier).session.slot.content = some p →
        Heads link p (plan.session.history moves).session
          ((plan.session.history earlier).session.history (m :: later)).calls
          ((plan.session.history earlier).session.course (m :: later)) := by
  refine ⟨accounts_history plan moves, ?_⟩
  rintro earlier m later link p rfl ticks waiting
  -- The tick itself puts the payload at the head, and whatever follows leaves it there.
  obtain ⟨going, step⟩ := step_of_ticks ticks
  have standing := plan.standing.history earlier
  have begun : Heads link p _ _ [((plan.session.history earlier).session, m)] :=
    Heads.tick going waiting link
  have heads := begun.history (step ▸ standing.step m) later
  rw [history_append, history_cons, course, step]
  simpa [Turn.calls] using heads

end Handover.Session
