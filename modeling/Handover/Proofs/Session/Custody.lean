import Handover.Proofs.Session.Carrying

/-! The custody of payloads. A book has one entry for each payload that a session accepts, in order, with
what became of it. Every move keeps the book in accord with the slot, with the hand of the worker, and
with what the worker has asked for and was answered; so no payload is written twice or out of order, and
none is lost but by a later one in the slot or with the connection. -/

set_option autoImplicit false

namespace Handover.Session

inductive Fate where
  /-- It is in the slot. -/
  | waiting
  /-- The next accepted payload took its place in the slot. -/
  | replaced
  /-- The worker took it and has not handed it to the connection. -/
  | taken
  | written
  | acknowledged
  deriving DecidableEq

namespace Fate

def isTaken : Fate → Bool
  | taken | written | acknowledged => true
  | waiting | replaced => false

def isWritten : Fate → Bool
  | written | acknowledged => true
  | waiting | replaced | taken => false

def advance : Fate → Fate
  | taken => written
  | written => acknowledged
  | fate => fate

@[simp] theorem isTaken_advance (fate : Fate) : fate.advance.isTaken = fate.isTaken := by
  cases fate <;> rfl

theorem isTaken_of_isWritten {fate : Fate} (written : fate.isWritten = true) :
    fate.isTaken = true := by
  cases fate <;> first | rfl | cases written

end Fate

structure Entry where
  pending : Pending
  fate : Fate

namespace Entry

def bytes (e : Entry) : Bytes := Frame.encode e.pending.payload

def advance (e : Entry) : Entry := { e with fate := e.fate.advance }

theorem map_advance {entries : List Entry} (done : ∀ e ∈ entries, e.fate = .acknowledged) :
    entries.map advance = entries := by
  refine (List.map_congr_left fun e member => ?_).trans (List.map_id _)
  obtain ⟨pending, fate⟩ := e
  obtain rfl : fate = .acknowledged := done _ member
  rfl

theorem filter_map_advance (entries : List Entry) :
    (entries.map advance).filter (·.fate.isTaken) =
      (entries.filter (·.fate.isTaken)).map advance := by
  rw [List.filter_map]
  congr 1
  exact List.filter_congr fun e _ => e.fate.isTaken_advance

end Entry

/-! ## The slot -/

def placed (met : Session × Move) : Option (Option Pending × Pending) :=
  (met.1.deposit met.2).map fun pending => (met.1.slot.content, pending)

/-- The entries of the payloads that have left the slot, with the one in the slot, are those of the
payloads put there, and where one was replaced it was by the next. -/
structure Shelf (past : List Entry) (slot : Slot) (placements : List (Option Pending × Pending)) :
    Prop where
  accepted : past.map Entry.pending ++ slot.content.toList = placements.map Prod.snd
  left : ∀ e ∈ past, e.fate ≠ .waiting
  replaced : ∀ i e, past[i]? = some e → e.fate = .replaced →
    ∃ later, placements[i + 1]? = some (some e.pending, later)

namespace Shelf

variable {past : List Entry} {slot : Slot} {placements : List (Option Pending × Pending)}

theorem empty : Shelf [] .empty [] := ⟨rfl, nofun, nofun⟩

theorem place (shelf : Shelf past slot placements) (p : Pending) :
    Shelf (past ++ (slot.content.map fun old => ⟨old, .replaced⟩).toList) ⟨some p⟩
      (placements ++ [(slot.content, p)]) where
  accepted := by
    rw [List.map_append, List.map_append, ← shelf.accepted]
    cases slot.content <;> simp
  left := by
    intro e member
    rcases List.mem_append.mp member with earlier | last
    · exact shelf.left e earlier
    · obtain ⟨old, -, rfl⟩ := by simpa using last
      simp
  replaced := by
    intro i e found fate
    by_cases earlier : i < past.length
    · rw [List.getElem?_append_left earlier] at found
      obtain ⟨later, next⟩ := shelf.replaced i e found fate
      obtain ⟨bound, -⟩ := List.getElem?_eq_some_iff.mp next
      exact ⟨later, by rw [List.getElem?_append_left bound, next]⟩
    · -- The last entry is that of the payload which was in the slot.
      have count := congrArg List.length shelf.accepted
      rw [List.getElem?_append_right (by omega)] at found
      cases content : slot.content with
      | none => simp [content] at found
      | some old =>
        simp only [content, Option.map_some, Option.toList_some, List.length_append, List.length_map,
          List.length_singleton] at found count
        have here : i = past.length := by
          have := (List.getElem?_eq_some_iff.mp found).1
          simp only [List.length_singleton] at this
          omega
        subst here
        obtain rfl : ⟨old, .replaced⟩ = e := by simpa using found
        exact ⟨p, by rw [count, List.getElem?_append_right (Nat.le_refl _)]; simp⟩

theorem take {p : Pending} (shelf : Shelf past ⟨some p⟩ placements) :
    Shelf (past ++ [⟨p, .taken⟩]) .empty placements where
  accepted := by
    rw [← shelf.accepted]
    simp [Slot.empty]
  left := by
    intro e member
    rcases List.mem_append.mp member with earlier | last
    · exact shelf.left e earlier
    · obtain rfl := List.mem_singleton.mp last
      simp
  replaced := by
    intro i e found fate
    by_cases earlier : i < past.length
    · rw [List.getElem?_append_left earlier] at found
      exact shelf.replaced i e found fate
    · rw [List.getElem?_append_right (by omega)] at found
      have member := List.mem_of_getElem? found
      obtain rfl := List.mem_singleton.mp member
      cases fate

theorem advance (shelf : Shelf past slot placements) :
    Shelf (past.map Entry.advance) slot placements where
  accepted := by
    rw [← shelf.accepted, List.map_map]
    rfl
  left := by
    intro e member
    obtain ⟨before, earlier, rfl⟩ := List.mem_map.mp member
    have left := shelf.left before earlier
    simp only [Entry.advance]
    cases fate : before.fate <;> simp_all [Fate.advance]
  replaced := by
    intro i e found fate
    obtain ⟨before, earlier, rfl⟩ := by simpa using found
    refine shelf.replaced i before earlier ?_
    simp only [Entry.advance] at fate
    cases was : before.fate <;> simp_all [Fate.advance]

end Shelf

/-! ## The hand of the worker -/

/-- The entry of the payload in a hand. A hand that was stopped may keep one. -/
def Hand.Holds : Hand → Option Entry → Prop
  | .free, current => current = none
  | .taken _ pending, current => current = some ⟨pending, .taken⟩
  | .writing _ pending, current | .checking _ pending, current => current = some ⟨pending, .written⟩
  | .ended, current => ∀ e ∈ current, e.fate = .taken ∨ e.fate = .written

/-- Of the payloads taken out of the slot all but one at most were acknowledged, and those handed to the
connection and acknowledged are the ones of the book, in order. -/
structure Worked (past acked : List Entry) (current : Option Entry) (hand : Hand)
    (written : List Bytes) (tokens : List Value) : Prop where
  order : past.filter (·.fate.isTaken) = acked ++ current.toList
  done : ∀ e ∈ acked, e.fate = .acknowledged
  hand : hand.Holds current
  written : ((acked ++ current.toList).filter (·.fate.isWritten)).map Entry.bytes = written
  tokens : acked.map (·.pending.token) = tokens

namespace Worked

variable {past acked : List Entry} {current : Option Entry} {hand : Hand} {written : List Bytes}
  {tokens : List Value}

theorem empty : Worked [] [] none .free [] [] := ⟨rfl, nofun, rfl, rfl, rfl⟩

theorem fate (worked : Worked past acked current hand written tokens) :
    ∀ e ∈ current, e.fate = .taken ∨ e.fate = .written := by
  have holds := worked.hand
  cases hand with
  | free => simp [show current = none from holds]
  | taken _ p => simp [show current = some ⟨p, .taken⟩ from holds]
  | writing _ p => simp [show current = some ⟨p, .written⟩ from holds]
  | checking _ p => simp [show current = some ⟨p, .written⟩ from holds]
  | ended => exact holds

theorem replace (worked : Worked past acked current hand written tokens) (old : Option Pending) :
    Worked (past ++ (old.map fun old => ⟨old, .replaced⟩).toList) acked current hand written tokens :=
  { worked with
    order := by
      rw [List.filter_append, worked.order]
      cases old <;> simp [Fate.isTaken] }

theorem take (worked : Worked past acked current .free written tokens) (link : Link) (p : Pending) :
    Worked (past ++ [⟨p, .taken⟩]) acked (some ⟨p, .taken⟩) (.taken link p) written tokens := by
  obtain rfl : current = none := worked.hand
  exact { worked with
    order := by
      rw [List.filter_append, worked.order]
      simp [Fate.isTaken]
    hand := rfl
    written := by
      rw [← worked.written]
      simp [Fate.isWritten] }

theorem write {link : Link} {p : Pending}
    (worked : Worked past acked current (.taken link p) written tokens) :
    Worked (past.map Entry.advance) acked (some ⟨p, .written⟩) (.writing link p)
      (written ++ [Frame.encode p.payload]) tokens := by
  obtain rfl : current = some ⟨p, .taken⟩ := worked.hand
  -- The entries that are done stay as they are; only the current one is advanced.
  exact { worked with
    order := by
      rw [Entry.filter_map_advance, worked.order, List.map_append, Entry.map_advance worked.done]
      rfl
    hand := rfl
    written := by
      rw [← worked.written]
      simp [Fate.isWritten, Entry.bytes] }

theorem check {link : Link} {p : Pending}
    (worked : Worked past acked current (.writing link p) written tokens) :
    Worked past acked current (.checking link p) written tokens := { worked with hand := worked.hand }

theorem acknowledge {link : Link} {p : Pending}
    (worked : Worked past acked current (.checking link p) written tokens) :
    Worked (past.map Entry.advance) (acked ++ [⟨p, .acknowledged⟩]) none .free written
      (tokens ++ [p.token]) := by
  obtain rfl : current = some ⟨p, .written⟩ := worked.hand
  exact {
    order := by
      rw [Entry.filter_map_advance, worked.order, List.map_append, Entry.map_advance worked.done]
      simp [Entry.advance, Fate.advance]
    done := by
      intro e member
      rcases List.mem_append.mp member with earlier | last
      · exact worked.done e earlier
      · obtain rfl := List.mem_singleton.mp last
        rfl
    hand := rfl
    written := by
      rw [← worked.written]
      simp [Fate.isWritten, Entry.bytes]
    tokens := by
      rw [← worked.tokens]
      simp }

theorem stop (worked : Worked past acked current hand written tokens) :
    Worked past acked current .ended written tokens := { worked with hand := worked.fate }

end Worked

/-! ## The answers -/

/-- The bytes of a write between two changes of a timeout, if all three went well. -/
def exchange : Request × Reply → Request × Reply → Request × Reply → Option Bytes
  | (.setTimeout _ _, .done), (.send _ bytes, .done), (.setTimeout _ _, .done) => some bytes
  | _, _, _ => none

def completed : List (Request × Reply) → List Bytes
  | first :: second :: third :: rest =>
      (exchange first second third).toList ++ completed (second :: third :: rest)
  | _ => []

theorem completed_concat (earlier : List (Request × Reply)) (first second third : Request × Reply) :
    completed (earlier ++ [first, second, third]) =
      completed (earlier ++ [first, second]) ++ (exchange first second third).toList := by
  induction earlier with
  | nil => simp [completed]
  | cons head tail ih =>
    -- Exchanges overlap: the first three answers are looked at whatever the rest is.
    match tail with
    | [] | [_] | _ :: _ :: _ =>
      simp only [List.cons_append, List.nil_append, completed, List.append_assoc] at ih ⊢
      rw [ih]

/-- A write that went well is not what was answered last. -/
def Between (answers : List (Request × Reply)) : Prop :=
  ∀ socket bytes, answers.getLast? ≠ some (.send socket bytes, .done)

theorem between_concat {last : Request × Reply}
    (other : ∀ socket bytes, last ≠ (.send socket bytes, .done)) (answers : List (Request × Reply)) :
    Between (answers ++ [last]) := by
  intro socket bytes same
  rw [List.getLast?_concat] at same
  exact other socket bytes (Option.some.inj same)

theorem completed_of_between {answers : List (Request × Reply)} (between : Between answers)
    (last : Request × Reply) : completed (answers ++ [last]) = completed answers := by
  -- Three answers make an exchange, so the last two before the new one decide.
  induction answers using List.reverseRecOn with
  | nil => rfl
  | append_singleton earlier second _ =>
    induction earlier using List.reverseRecOn with
    | nil => rfl
    | append_singleton earlier first _ =>
      have none : exchange first second last = none := by
        unfold exchange
        split
        · next socket bytes _ _ => simp [Between] at between
        · rfl
      simpa [none] using completed_concat earlier first second last

/-- What the request of a worker is, given what it has in its hand. -/
def Hand.Asks : Hand → Request → Prop
  | .taken link _, request | .checking link _, request =>
      ∃ timeout, request = .setTimeout link.socket timeout
  | .writing link pending, request => request = .send link.socket (Frame.encode pending.payload)
  | .free, request => ∀ socket bytes, request ≠ .send socket bytes
  | .ended, request => request.isTransfer = false

theorem asks_hand {s : Session} {request : Request} (asked : s.request = some request) :
    s.point.hand.Asks request := by
  unfold Session.request at asked
  cases here : s.point <;> simp only [here, reduceCtorEq, Option.some.injEq] at asked <;>
    subst asked <;> first | exact ⟨_, rfl⟩ | rfl | exact nofun

/-- What was answered last, given what the worker has in its hand. -/
def Hand.Follows : Hand → List (Request × Reply) → Prop
  | .writing link _, answers => ∃ earlier timeout,
      answers = earlier ++ [(.setTimeout link.socket timeout, .done)]
  | .checking link pending, answers => ∃ earlier timeout, answers = earlier ++
      [(.setTimeout link.socket timeout, .done),
        (.send link.socket (Frame.encode pending.payload), .done)]
  | .free, answers | .taken _ _, answers | .ended, answers => Between answers

theorem Hand.Follows.stop {hand : Hand} {request : Request} {reply : Reply}
    {answers : List (Request × Reply)} (follows : hand.Follows answers) (asks : hand.Asks request)
    (stopped : hand = .free ∨ hand = .ended ∨ ∃ f, reply = .fault f) :
    Between (answers ++ [(request, reply)]) ∧
      completed (answers ++ [(request, reply)]) = completed answers := by
  cases hand with
  | free =>
    refine ⟨between_concat ?_ _, completed_of_between follows _⟩
    exact fun socket bytes same => asks socket bytes (congrArg Prod.fst same)
  | taken link p =>
    obtain ⟨timeout, rfl⟩ := asks
    exact ⟨between_concat (by simp) _, completed_of_between follows _⟩
  | writing link p =>
    obtain ⟨f, rfl⟩ : ∃ f, reply = .fault f := by simpa using stopped
    obtain ⟨earlier, timeout, rfl⟩ := follows
    exact ⟨between_concat (by simp) _, completed_of_between (between_concat (by simp) _) _⟩
  | checking link p =>
    obtain ⟨f, rfl⟩ : ∃ f, reply = .fault f := by simpa using stopped
    obtain ⟨timeout, rfl⟩ := asks
    obtain ⟨earlier, prepared, rfl⟩ := follows
    refine ⟨between_concat (by simp) _, ?_⟩
    rw [List.append_assoc]
    exact (completed_concat earlier _ _ _).trans (List.append_nil _)
  | ended =>
    refine ⟨between_concat ?_ _, completed_of_between follows _⟩
    rintro socket bytes same
    obtain rfl : request = .send socket bytes := congrArg Prod.fst same
    cases asks

/-! ## The book -/

/-- What a history shows of its payloads: those put into the slot, the bytes handed to the connection,
the tokens acknowledged, and the answered requests. -/
structure Log where
  placements : List (Option Pending × Pending)
  written : List Bytes
  tokens : List Value
  answers : List (Request × Reply)

/-- The entries of the payloads that have left the slot are in accord with the slot, with the hand of the
worker and with all that was done. -/
structure Kept (hand : Hand) (slot : Slot) (log : Log) (past acked : List Entry)
    (current : Option Entry) : Prop where
  shelf : Shelf past slot log.placements
  worked : Worked past acked current hand log.written log.tokens
  follows : hand.Follows log.answers
  completed : acked.map Entry.bytes = completed log.answers

namespace Kept

variable {hand after : Hand} {slot left : Slot} {log : Log} {past acked : List Entry}
  {current : Option Entry}

theorem empty : Kept .free .empty ⟨[], [], [], []⟩ [] [] none :=
  ⟨.empty, .empty, by simp [Hand.Follows, Between], rfl⟩

theorem place (kept : Kept hand slot log past acked current) (p : Pending) :
    Kept hand ⟨some p⟩ { log with placements := log.placements ++ [(slot.content, p)] }
      (past ++ (slot.content.map fun old => ⟨old, .replaced⟩).toList) acked current :=
  ⟨kept.shelf.place p, kept.worked.replace slot.content, kept.follows, kept.completed⟩

theorem stop (kept : Kept .free slot log past acked current) :
    Kept .ended slot log past acked current :=
  ⟨kept.shelf, kept.worked.stop, kept.follows, kept.completed⟩

theorem answer {request : Request} {reply : Reply} {handed : Option Bytes} {token : Option Value}
    (kept : Kept hand slot log past acked current) (asks : hand.Asks request)
    (carries : Carries hand slot reply after left handed token) :
    ∃ past acked now, Kept after left ⟨log.placements, log.written ++ handed.toList,
      log.tokens ++ token.toList, log.answers ++ [(request, reply)]⟩ past acked now ∧
      (after = .ended → now = current) := by
  obtain ⟨shelf, worked, follows, acknowledged⟩ := kept
  -- An exchange ends only with the answer after which the payload is acknowledged.
  cases carries with
  | rests =>
    refine ⟨past, acked, current, ⟨shelf, by simpa using worked, between_concat ?_ _, ?_⟩, nofun⟩
    · exact fun socket bytes same => asks socket bytes (congrArg Prod.fst same)
    · rw [acknowledged, completed_of_between follows]
  | @takes link p =>
    refine ⟨_, acked, _, ⟨shelf.take, by simpa using worked.take link p, between_concat ?_ _, ?_⟩,
      nofun⟩
    · exact fun socket bytes same => asks socket bytes (congrArg Prod.fst same)
    · rw [acknowledged, completed_of_between follows]
  | @hands link p =>
    obtain ⟨timeout, rfl⟩ := asks
    refine ⟨_, acked, _, ⟨shelf.advance, by simpa using worked.write, ⟨_, timeout, rfl⟩, ?_⟩, nofun⟩
    rw [acknowledged, completed_of_between follows]
  | @wrote link p =>
    obtain rfl : request = _ := asks
    obtain ⟨earlier, timeout, same⟩ := follows
    refine ⟨past, acked, current, ⟨shelf, by simpa using worked.check, ⟨earlier, timeout, ?_⟩, ?_⟩,
      nofun⟩
    · simp [same]
    · rw [acknowledged, same, completed_of_between (between_concat (by simp) _)]
  | @acknowledges link p =>
    obtain ⟨timeout, rfl⟩ := asks
    obtain ⟨earlier, prepared, same⟩ := follows
    refine ⟨_, _, none, ⟨shelf.advance, by simpa using worked.acknowledge,
      between_concat (by simp) _, ?_⟩, nofun⟩
    have closed := completed_concat earlier (.setTimeout link.socket prepared, .done)
      (.send link.socket (Frame.encode p.payload), .done) (.setTimeout link.socket timeout, .done)
    rw [List.map_append, acknowledged, same, List.append_assoc]
    exact closed.symm
  | stops stopped =>
    obtain ⟨between, same⟩ := follows.stop asks stopped
    exact ⟨past, acked, current,
      ⟨shelf, by simpa using worked.stop, between, acknowledged.trans same.symm⟩, fun _ => rfl⟩

end Kept

/-! ## Along a history -/

def log (met : List (Session × Move)) : Log where
  placements := met.filterMap placed
  written := met.filterMap fun met => met.1.handedBy met.2
  tokens := met.filterMap fun met => met.1.tokenBy met.2
  answers := met.filterMap fun met => met.1.answered met.2

theorem log_concat (met : List (Session × Move)) (last : Session × Move) :
    log (met ++ [last]) = ⟨(log met).placements ++ (placed last).toList,
      (log met).written ++ (last.1.handedBy last.2).toList,
      (log met).tokens ++ (last.1.tokenBy last.2).toList,
      (log met).answers ++ (last.1.answered last.2).toList⟩ := by
  simp [log, List.filterMap_eq_flatMap_toList]

/-- The connection failed when it was prepared for a payload. -/
def Spoilt (p : Pending) (met : Session × Move) : Prop :=
  ∃ link f, met.1.point = .timingWrite link p ∧ met.2 = .answer (.fault f)

theorem point_of_taken {point : Point} {link : Link} {p : Pending}
    (taken : point.hand = .taken link p) : point = .timingWrite link p := by
  cases point <;> cases taken
  rfl

/-- Whatever is left in the hand of a worker that has stopped was spoilt. -/
structure Custody (s : Session) (met : List (Session × Move)) (past acked : List Entry)
    (current : Option Entry) : Prop where
  kept : Kept s.point.hand s.slot (log met) past acked current
  spoilt : s.point.hand = .ended → ∀ e ∈ current, e.fate = .taken →
    ∃ seen ∈ met, Spoilt e.pending seen

theorem Custody.step {s u : Session} {met : List (Session × Move)} {past acked : List Entry}
    {current : Option Entry} {m : Move} (custody : Custody s met past acked current)
    (deals : Deals s m u) : ∃ past acked current, Custody u (met ++ [(s, m)]) past acked current := by
  obtain ⟨kept, spoilt⟩ := custody
  -- What was spoilt before is so still.
  have earlier {now : Option Entry} (same : now = current) (ended : s.point.hand = .ended) :
      ∀ e ∈ now, e.fate = .taken → ∃ seen ∈ met ++ [(s, m)], Spoilt e.pending seen := by
    subst same
    intro e member taken
    obtain ⟨seen, there, spoilt⟩ := spoilt ended e member taken
    exact ⟨seen, List.mem_append_left _ there, spoilt⟩
  cases deals with
  | called here slot answered handed token =>
    cases deposit : s.deposit m with
    | none =>
      refine ⟨past, acked, current, ?_, fun ended => earlier rfl (here ▸ ended)⟩
      rw [here, slot, log_concat]
      simpa [placed, deposit, answered, handed, token] using kept
    | some p =>
      let replaced := s.slot.content.map fun old => Entry.mk old .replaced
      refine ⟨past ++ replaced.toList, acked, current, ?_, fun ended => earlier rfl (here ▸ ended)⟩
      rw [here, slot, log_concat]
      simpa [placed, deposit, answered, handed, token] using kept.place p
  | begins ready after slot deposit answered handed token =>
    -- Nothing was taken before the body of the worker begins.
    have empty : current = none := by
      have holds := kept.worked.hand
      rwa [ready] at holds
    refine ⟨past, acked, current, ?_, by simp [empty]⟩
    rw [slot, log_concat]
    rw [ready] at kept
    obtain free | ended := after
    · rw [free]
      simpa [placed, deposit, answered, handed, token] using kept
    · rw [ended]
      simpa [placed, deposit, answered, handed, token] using kept.stop
  | @answers request reply move asked answered carries =>
    subst move
    obtain ⟨past', acked', now, kept', same⟩ := kept.answer (asks_hand asked) carries
    refine ⟨past', acked', now, ?_, fun ended => ?_⟩
    · rw [log_concat]
      simpa [placed, deposit, answered] using kept'
    -- The worker has stopped: what is in its hand was spoilt before, or by this answer.
    · obtain rfl := same ended
      have holds := kept.worked.hand
      cases hand : s.point.hand with
      | ended => exact earlier rfl hand
      | free => simp [show now = none by rwa [hand] at holds]
      | taken link p =>
        obtain rfl : now = some ⟨p, .taken⟩ := by rwa [hand] at holds
        rintro e member -
        obtain rfl : ⟨p, .taken⟩ = e := by simpa using member
        rw [hand, ended] at carries
        obtain ⟨f, rfl⟩ := carries.fault_of_taken
        exact ⟨(s, .answer (.fault f)), by simp, link, f, point_of_taken hand, rfl⟩
      | writing link p =>
        obtain rfl : now = some ⟨p, .written⟩ := by rwa [hand] at holds
        simp
      | checking link p =>
        obtain rfl : now = some ⟨p, .written⟩ := by rwa [hand] at holds
        simp

theorem custody_history (plan : Plan) (moves : List Move) :
    ∃ past acked current, Custody (plan.session.history moves).session (plan.session.course moves)
      past acked current := by
  let holds (s : Session) (met : List (Session × Move)) : Prop :=
    Standing s ∧ ∃ past acked current, Custody s met past acked current
  have start : holds plan.session [] := ⟨plan.standing, [], [], none, .empty, nofun⟩
  have ledger := history_induction holds start (by
    rintro before earlier move ⟨standing, past, acked, current, custody⟩
    exact ⟨standing.step move, custody.step (standing.deals move)⟩) moves
  exact ledger.2

end Handover.Session
