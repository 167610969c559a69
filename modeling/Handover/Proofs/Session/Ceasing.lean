import Handover.Proofs.Session.Outbound
import Handover.Proofs.Session.Remaining

/-! How a worker comes to its end. A run may go on for ever, with callers that act at any time; on a network
that has only so many timeouts and bytes for it the worker exits all the same. A tick that brings nothing from
the network lives on the bytes in the reader, and leaves fewer of them. -/

set_option autoImplicit false

namespace Handover.Session

/-! ## Endless runs -/

def along (s : Session) (moves : Nat → Move) : Nat → Session
  | 0 => s
  | n + 1 => ((s.along moves n).step (moves n)).session

theorem along_eq_history (s : Session) (moves : Nat → Move) (n : Nat) :
    s.along moves n = (s.history ((List.range n).map moves)).session := by
  induction n with
  | zero => rfl
  | succ n ih => rw [along, ih, List.range_succ, List.map_append, List.map_singleton, history_concat]; rfl

def canGoOn (s : Session) : Bool := s.isRunnable || s.request.isSome

/-- Whether an exchange leaves the worker to ask again: no connection has come yet, or no bytes, or some. -/
def feeds : Request × Reply → Bool
  | (.accept, .fault f) | (.receive _ _, .fault f) => f.isTimeout
  | (.receive _ _, .chunk bytes) => !bytes.isEmpty
  | _ => false

/-- What an endless run must come to for its worker to end: the worker is started, it goes on at some time
whenever it can, and the network feeds it only so often. -/
structure Served (s : Session) (moves : Nat → Move) : Prop where
  starts : ∃ n, (s.along moves n).started = true
  goes : ∀ n, (s.along moves n).canGoOn = true →
    ∃ later, n ≤ later ∧ (s.along moves later).heeds (moves later) = true
  spent : ∃ last, ∀ n exchange, last ≤ n →
    (s.along moves n).answered (moves n) = some exchange → feeds exchange = false

theorem supply_of_not_feeds {exchange : Request × Reply} (idle : feeds exchange = false) :
    supply exchange = 0 := by
  obtain ⟨request, reply⟩ := exchange
  cases request <;> cases reply <;> simp_all [feeds, supply]

theorem supplied_of_not_feeds {s : Session} {m : Move}
    (idle : ∀ exchange, s.answered m = some exchange → feeds exchange = false) : s.supplied m = 0 := by
  unfold supplied
  cases answered : s.answered m with
  | none => rfl
  | some exchange => simp [supply_of_not_feeds (idle exchange answered)]

variable {s u : Session}

theorem canGoOn_of_alive (alive : s.isAlive = true) : s.canGoOn = true := by
  unfold isAlive at alive
  unfold canGoOn isRunnable Session.request
  cases here : s.point <;> simp_all [hasExited]

theorem not_canGoOn_of_exited (exited : s.hasExited = true) : s.canGoOn = false := by
  obtain ⟨escape, here⟩ := hasExited_iff.mp exited
  simp [canGoOn, isRunnable, Session.request, here]

/-! ## The end of a run -/

section Run

variable {plan : Plan} {moves : Nat → Move}

theorem waiting_along (plan : Plan) (moves : Nat → Move) (n : Nat) :
    Waiting (plan.session.along moves n) := by
  rw [along_eq_history]
  exact plan.waiting _

theorem moves_along (plan : Plan) (moves : Nat → Move) (n : Nat) :
    Moves (plan.session.along moves n) (moves n) (plan.session.along moves (n + 1)) :=
  step_moves (waiting_along plan moves n).standing.safe (moves n)

theorem exited_along {n m : Nat} (later : n ≤ m) (exited : (plan.session.along moves n).hasExited = true) :
    (plan.session.along moves m).hasExited = true := by
  induction later with
  | refl => exact exited
  | step _ ih => exact (moves_along plan moves _).exited ih

theorem started_along {n m : Nat} (later : n ≤ m) (started : (plan.session.along moves n).started = true) :
    (plan.session.along moves m).started = true := by
  induction later with
  | refl => exact started
  | step _ ih => exact (moves_along plan moves _).started ih

/-- Once the network feeds a worker no more, it has never more to do than before. -/
theorem remaining_along {last n m : Nat} (spent : ∀ n exchange, last ≤ n →
      (plan.session.along moves n).answered (moves n) = some exchange → feeds exchange = false)
    (late : last ≤ n) (later : n ≤ m) :
    (plan.session.along moves m).point.remaining ≤ (plan.session.along moves n).point.remaining := by
  induction later with
  | refl => exact Nat.le_refl _
  | @step m later ih =>
    have step := (waiting_along plan moves m).remaining_step (moves m)
    rw [supplied_of_not_feeds fun exchange => spent m exchange (Nat.le_trans late later)] at step
    exact Nat.le_trans (Nat.le_trans (Nat.le_add_right _ _) step) ih

/-- A worker that was started exits: whenever it goes on it has less to do. -/
theorem exits_along (served : Served plan.session moves) :
    ∃ n, (plan.session.along moves n).hasExited = true := by
  obtain ⟨first, started⟩ := served.starts
  obtain ⟨last, spent⟩ := served.spent
  have ends (bound : Nat) : ∀ n, first ≤ n → last ≤ n →
      (plan.session.along moves n).point.remaining < bound →
      ∃ m, (plan.session.along moves m).hasExited = true := by
    induction bound with
    | zero => exact fun n _ _ less => absurd less (Nat.not_lt_zero _)
    | succ bound ih =>
      intro n begun late less
      cases exited : (plan.session.along moves n).hasExited with
      | true => exact ⟨n, exited⟩
      | false =>
        have alive : (plan.session.along moves n).isAlive = true := by
          simp [isAlive, exited, started_along begun started]
        obtain ⟨later, after, heeded⟩ := served.goes n (canGoOn_of_alive alive)
        -- Until the worker goes on it has as much to do as now, and then less.
        have same := remaining_along spent late after
        have step := (waiting_along plan moves later).remaining_step (moves later)
        rw [supplied_of_not_feeds fun exchange => spent later exchange (Nat.le_trans late after),
          heeded, if_pos rfl] at step
        refine ih (later + 1) (by omega) (by omega) ?_
        rw [along]
        omega
  exact ends _ (max first last) (Nat.le_max_left _ _) (Nat.le_max_right _ _) (Nat.lt_succ_self _)

end Run

/-! ## What a tick uses -/

/-- What is left in the reader of a worker that has received nothing since it began a tick: of the bytes that
were there then a frame has taken some, unless none has begun. -/
def Point.Spends (bytes : Nat) : Point → Prop
  | .timingWrite link _ | .writing link _ | .timingAfterWrite link _ | .reportingWrite link _
  | .receiving link => link.reader.buffered ≤ bytes
  | .timingFrame link _ | .receivingFrame link _ | .timingAfterFrame link _
  | .reportingMessage link _ => link.reader.buffered < bytes
  | point => point.hand = .ended

section Tick

variable {bytes : Nat} {link : Link} {reply : Reply}

theorem Point.Spends.of_ended {point : Point} (ended : point.hand = .ended) : point.Spends bytes := by
  cases point <;> first | cases ended; done | exact ended

theorem ReadsFirst.spends (reads : ReadsFirst s link u) (left : link.reader.buffered ≤ bytes) :
    u.point.Spends bytes := by
  cases reads with
  | line given => exact Nat.lt_of_lt_of_le (LineReader.buffered_of_next given) left
  | finished _ stops => exact .of_ended stops.ends.hand
  | starved => exact left

theorem ReadsFrame.spends {frame : Frame.Decoder} (reads : ReadsFrame s link frame u)
    (left : link.reader.buffered < bytes) : u.point.Spends bytes := by
  cases reads with
  | message reached =>
    obtain ⟨given, yields⟩ := LineReader.yields_of_message reached
    exact Nat.lt_of_le_of_lt yields.shorter left
  | starved reached =>
    obtain ⟨given, yields, -⟩ := LineReader.yields_of_starved reached
    exact Nat.lt_of_le_of_lt yields.shorter left

theorem Ticks.spends (ticks : Ticks s link u) (left : link.reader.buffered ≤ bytes) :
    u.point.Spends bytes := by
  cases ticks with
  | stops _ retires => exact .of_ended retires.ends.hand
  | writes => exact left
  | reads _ _ reads => exact reads.spends left

theorem Polls.spends (polls : Polls s reply u) (spends : s.point.Spends bytes)
    (other : ∀ socket limit, s.request ≠ some (.receive socket limit)) : u.point.Spends bytes := by
  unfold Session.request at other
  cases polls with
  | established here | timed here =>
    rw [here] at spends
    cases spends
  | timedWrite here | wrote here | timedAfterWrite here | timedAfterFrame here =>
    rw [here] at spends
    exact spends
  | reportedWrite here reads | timedFrame here reads =>
    rw [here] at spends
    exact reads.spends spends
  | reportedMessage here ticks =>
    rw [here] at spends
    exact ticks.spends (Nat.le_of_lt spends)
  | received here | idled here | receivedFrame here | silent here =>
    rw [here] at other
    exact absurd rfl (other _ _)
  | broken _ _ _ fails => exact .of_ended fails.ends.hand
  | crashed _ crashes => exact .of_ended crashes.ends.hand

/-- Until the worker receives something it spends what it has. -/
theorem Moves.spends {m : Move} (moves : Moves s m u) (spends : s.point.Spends bytes)
    (other : ∀ socket limit reply, s.answered m ≠ some (.receive socket limit, reply)) :
    u.point.Spends bytes := by
  cases moves with
  | called _ called => rwa [called.point]
  | begins runnable =>
    rw [(isRunnable_iff.mp runnable).2] at spends
    cases spends
  | passes heeded passes =>
    obtain ⟨request, asked, fits⟩ := heeds_answer_iff.mp heeded
    cases passes with
    | opens opens =>
      have prior := opens.prior_before
      cases here : s.point <;> rw [here] at spends prior <;> first | cases prior; done | cases spends
    | polls polls =>
      refine polls.spends spends fun socket limit same => ?_
      obtain rfl := Option.some.inj (asked.symm.trans same)
      exact other socket limit _ (answered_eq_some.mpr ⟨rfl, asked, fits⟩)
    | closes closes =>
      have carries := (Passes.closes closes).carries
      rw [closes.hand_eq] at carries
      exact .of_ended carries.of_ended

/-- Who comes round to the next tick has just received something, or has spent bytes on a frame. -/
theorem spent_of_rounds {m : Move} {next : Link} (rounds : s.rounds m = some next)
    (spends : s.point.Spends bytes) :
    (∃ socket limit reply, s.answered m = some (.receive socket limit, reply)) ∨
      next.reader.buffered < bytes := by
  unfold Session.rounds at rounds
  split at rounds
  · split at rounds
    · next here =>
      rw [here] at spends
      cases spends
    · next here =>
      cases rounds
      rw [here] at spends
      exact .inr spends
    · next link f here =>
      refine .inl ⟨link.socket, LineReader.chunkLimit, .fault f, ?_⟩
      exact answered_eq_some.mpr ⟨rfl, by simp only [Session.request, here], rfl⟩
    · cases rounds
  · cases rounds

end Tick

section Run

variable {plan : Plan} {moves : Nat → Move}

def ReceivesBetween (s : Session) (moves : Nat → Move) (i j : Nat) : Prop :=
  ∃ k, i < k ∧ k < j ∧ ∃ socket limit reply,
    (s.along moves k).answered (moves k) = some (.receive socket limit, reply)

theorem spends_along {i j : Nat} {link : Link}
    (ticks : (plan.session.along moves i).ticks (moves i) = some link) (later : i < j) :
    ReceivesBetween plan.session moves i j ∨
      (plan.session.along moves j).point.Spends link.reader.buffered := by
  induction later with
  | refl =>
    obtain ⟨-, step⟩ := step_of_ticks ticks
    refine .inr ?_
    rw [along, step]
    exact ((Turn.of _).tick_passage link).spends (Nat.le_refl _)
  | @step j later ih =>
    obtain ⟨k, after, before, received⟩ | spends := ih
    · exact .inl ⟨k, after, Nat.lt_succ_of_lt before, received⟩
    by_cases receives : ∃ socket limit reply,
        (plan.session.along moves j).answered (moves j) = some (.receive socket limit, reply)
    · exact .inl ⟨j, later, Nat.lt_succ_self j, receives⟩
    · refine .inr ((moves_along plan moves j).spends spends fun socket limit reply same => ?_)
      exact receives ⟨socket, limit, reply, same⟩

end Run

/-- A worker ends. On a network that has only so many timeouts and chunks, whatever callers do meanwhile, it
exits and stays so; and between one tick and the next it has received something, or the reader has fewer bytes
than before. -/
theorem worker_ends {plan : Plan} {moves : Nat → Move} (served : Served plan.session moves) :
    (∃ last, ∀ n, last ≤ n → (plan.session.along moves n).hasExited = true) ∧
      ∀ i j link next, i < j → (plan.session.along moves i).ticks (moves i) = some link →
        (plan.session.along moves j).rounds (moves j) = some next →
        ReceivesBetween plan.session moves i (j + 1) ∨
          next.reader.buffered < link.reader.buffered := by
  constructor
  · obtain ⟨last, exited⟩ := exits_along served
    exact ⟨last, fun n later => exited_along later exited⟩
  · intro i j link next later ticks rounds
    obtain ⟨k, after, before, received⟩ | spends := spends_along ticks later
    · exact .inl ⟨k, after, Nat.lt_succ_of_lt before, received⟩
    · obtain received | fewer := spent_of_rounds rounds spends
      · exact .inl ⟨j, later, Nat.lt_succ_self j, received⟩
      · exact .inr fewer

/-- A connector whose peer says little and resets the connection; nothing more happens after that. -/
def cutOff (n : Nat) : Move :=
  [.start, .run, .answer .done, .answer (.connection .secured), .answer (.address "10.0.0.2"),
    .answer .done, .answer .done, .answer (.fault ⟨.timeout, "timed out"⟩), .answer (.chunk [97]),
    .answer (.fault ⟨.reset, "reset"⟩), .answer .done, .answer .done].getD n Move.detach

theorem served_cutOff : Served Plan.plainConnector.session cutOff := by
  have exited {n : Nat} (late : 12 ≤ n) :
      (Plan.plainConnector.session.along cutOff n).hasExited = true := exited_along late rfl
  refine ⟨⟨1, rfl⟩, fun n goes => ?_, 12, fun n exchange late answered => ?_⟩
  · by_cases early : n < 12
    · have heeded : ∀ n < 12, (Plan.plainConnector.session.along cutOff n).canGoOn = true →
          (Plan.plainConnector.session.along cutOff n).heeds (cutOff n) = true := by decide
      exact ⟨n, Nat.le_refl n, heeded n early goes⟩
    · simp [not_canGoOn_of_exited (exited (Nat.le_of_not_lt early))] at goes
  · obtain ⟨-, asked, -⟩ := answered_eq_some.mp answered
    rw [request_of_hasExited (exited late)] at asked
    cases asked

theorem worker_ends_cutOff :
    (∃ last, ∀ n, last ≤ n → (Plan.plainConnector.session.along cutOff n).hasExited = true) ∧
      ReceivesBetween Plan.plainConnector.session cutOff 6 8 := by
  have ends := worker_ends served_cutOff
  refine ⟨ends.1, ?_⟩
  obtain received | fewer := ends.2 6 7 ⟨.secured, .start⟩ ⟨.secured, .start⟩ (by decide) rfl rfl
  · exact received
  · exact absurd fewer (Nat.lt_irrefl _)

end Handover.Session
