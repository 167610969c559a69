import Handover.Proofs.Frame.Payload

/-! What a line reader takes in and gives out. After any number of calls the lines given out are the first
segments of the bytes received, and the buffer holds the others; a failed call changes nothing of this. More is
received only when the buffer holds no whole line, and nothing once the stream has ended. -/

set_option autoImplicit false

namespace Handover

namespace Inlet

def after (inlet : Inlet) : Nat → Inlet
  | 0 => inlet
  | n + 1 => ((inlet.after n).receive LineReader.chunkLimit).2

/-- What an attempt meets, by the number of attempts before it. -/
def met (inlet : Inlet) (n : Nat) : Except Fault Bytes :=
  ((inlet.after n).receive LineReader.chunkLimit).1

/-- The bytes that a number of attempts have brought. -/
def received (inlet : Inlet) : Nat → Bytes
  | 0 => []
  | n + 1 => inlet.received n ++ (inlet.met n).toOption.getD []

def Ends (inlet : Inlet) (n : Nat) : Prop := ∃ j < n, inlet.met j = .ok []

theorem calls_receive (inlet : Inlet) (limit : Nat) : (inlet.receive limit).2.calls = inlet.calls + 1 := by
  obtain ⟨held, arrivals, calls⟩ := inlet
  match held, arrivals with
  | [], [] => rfl
  | [], .fault _ :: _ => rfl
  | [], .chunk _ :: _ => rfl
  | _ :: _, _ => rfl

theorem calls_after (inlet : Inlet) (n : Nat) : (inlet.after n).calls = inlet.calls + n := by
  induction n with
  | zero => rfl
  | succ n ih => rw [after, calls_receive, ih, Nat.add_assoc]

theorem receive_after (inlet : Inlet) (n : Nat) :
    (inlet.after n).receive LineReader.chunkLimit = (inlet.met n, inlet.after (n + 1)) := rfl

theorem ends_succ {inlet : Inlet} {n : Nat} : inlet.Ends (n + 1) ↔ inlet.Ends n ∨ inlet.met n = .ok [] := by
  constructor
  · rintro ⟨j, early, ended⟩
    obtain before | rfl := Nat.lt_succ_iff_lt_or_eq.mp early
    · exact .inl ⟨j, before, ended⟩
    · exact .inr ended
  · rintro (⟨j, early, ended⟩ | ended)
    · exact ⟨j, Nat.lt_succ_of_lt early, ended⟩
    · exact ⟨n, Nat.lt_succ_self n, ended⟩

/-- What a number of attempts have brought, cut at the newlines. -/
def segments (inlet : Inlet) (n : Nat) : List Bytes := (inlet.received n).splitOn newline

/-- The bytes that a number of attempts have brought, without the first segments. -/
def unread (inlet : Inlet) (n given : Nat) : Bytes := [newline].intercalate ((inlet.segments n).drop given)

end Inlet

namespace LineReader

open Handover.Frame

theorem splitOn_unlines {lines : List Bytes} (whole : ∀ line ∈ lines, newline ∉ line) (rest : Bytes) :
    (unlines lines ++ rest).splitOn newline = lines ++ rest.splitOn newline := by
  induction lines with
  | nil => rfl
  | cons line others ih =>
    obtain ⟨here, later⟩ := List.forall_mem_cons.mp whole
    rw [unlines_cons, List.splitOn_append_cons_self, List.splitOn_eq_singleton here, ih later]
    rfl

theorem unread_of_received {inlet : Inlet} {n : Nat} {lines : List Bytes} {rest : Bytes}
    (whole : ∀ line ∈ lines, newline ∉ line) (all : inlet.received n = unlines lines ++ rest) :
    inlet.unread n lines.length = rest := by
  rw [Inlet.unread, Inlet.segments, all, splitOn_unlines whole, List.drop_left]
  exact List.intercalate_splitOn newline

/-! ## One call -/

/-- A reader has taken in what a number of attempts have brought, and has given out some lines of it, here
with the carriage returns at their ends. -/
structure Stands (inlet : Inlet) (n : Nat) (raw : List Bytes) (r : LineReader) : Prop where
  whole : ∀ line ∈ raw, newline ∉ line
  /-- All is given out or in the buffer; a last line without a newline is given out at the end only. -/
  shares : inlet.received n = unlines raw ++ r.buffer ∨
    r.ended = true ∧ r.buffer = [] ∧ ∃ before last, raw = before ++ [last] ∧ last ≠ [] ∧
      inlet.received n = unlines before ++ last
  ended : r.ended = true ↔ inlet.Ends n

namespace Stands

variable {inlet : Inlet} {n : Nat} {raw : List Bytes} {r rest : LineReader}

theorem start (inlet : Inlet) : Stands inlet 0 [] .start where
  whole := nofun
  shares := .inl rfl
  ended := ⟨nofun, fun ⟨_, early, _⟩ => absurd early (Nat.not_lt_zero _)⟩

theorem segments (stands : Stands inlet n raw r) :
    inlet.segments n = raw ++ r.buffer.splitOn newline ∨
      inlet.segments n = raw ∧ r.ended = true ∧ r.buffer = [] ∧ raw.getLast? ≠ some [] := by
  rw [Inlet.segments]
  obtain all | ⟨ended, empty, before, last, rfl, filled, all⟩ := stands.shares
  · rw [all, splitOn_unlines stands.whole]
    exact .inl rfl
  · have whole : newline ∉ last := stands.whole last (by simp)
    rw [all, splitOn_unlines fun line member => stands.whole line (List.mem_append_left _ member),
      List.splitOn_eq_singleton whole]
    exact .inr ⟨rfl, ended, empty, by simpa using filled⟩

theorem unread_eq (stands : Stands inlet n raw r) : inlet.unread n raw.length = r.buffer := by
  obtain all | ⟨-, empty, before, last, rfl, filled, all⟩ := stands.shares
  · exact unread_of_received stands.whole all
  · have whole : newline ∉ last := stands.whole last (by simp)
    rw [Inlet.unread, Inlet.segments, all,
      splitOn_unlines fun line member => stands.whole line (List.mem_append_left _ member),
      List.splitOn_eq_singleton whole, List.drop_length, empty]
    rfl

theorem unread_ne_nil {line : Bytes} (stands : Stands inlet n (raw ++ [line]) r) :
    inlet.unread n raw.length ≠ [] := by
  have whole : ∀ other ∈ raw, newline ∉ other := fun other member =>
    stands.whole other (List.mem_append_left _ member)
  obtain all | ⟨-, -, before, last, split, filled, all⟩ := stands.shares
  · have all : inlet.received n = unlines raw ++ (line ++ newline :: r.buffer) := by simp [all, unlines]
    rw [unread_of_received whole all]
    simp
  · obtain ⟨rfl, same⟩ := List.append_inj' split rfl
    obtain rfl := List.singleton_inj.mp same
    rwa [unread_of_received whole all]

theorem received_of_live (stands : Stands inlet n raw r) (live : r.ended = false) :
    inlet.received n = unlines raw ++ r.buffer := by
  obtain all | ⟨ended, -⟩ := stands.shares
  · exact all
  · simp [live] at ended

theorem receive (stands : Stands inlet n raw r) (starved : r.next = .starved) {chunk : Bytes}
    (got : inlet.met n = .ok chunk) : Stands inlet (n + 1) raw (r.receive chunk) := by
  have live := not_ended_of_starved starved
  have before := stands.received_of_live live
  have now : inlet.received (n + 1) = inlet.received n ++ chunk := by
    rw [Inlet.received, got]
    rfl
  have early : ¬ inlet.Ends n := fun ends => by simp [stands.ended.mpr ends] at live
  cases chunk with
  | nil =>
    refine ⟨stands.whole, .inl ?_, ?_⟩
    · rw [now, before]
      simp [LineReader.receive]
    · exact ⟨fun _ => Inlet.ends_succ.mpr (.inr got), fun _ => rfl⟩
  | cons byte others =>
    refine ⟨stands.whole, .inl ?_, ?_⟩
    · rw [now, before, List.append_assoc]
      rfl
    · rw [Inlet.ends_succ, got]
      simp [LineReader.receive, live, early]

theorem fail (stands : Stands inlet n raw r) {f : Fault} (got : inlet.met n = .error f) :
    Stands inlet (n + 1) raw r := by
  have same : inlet.received (n + 1) = inlet.received n := by
    rw [Inlet.received, got]
    exact List.append_nil _
  refine ⟨stands.whole, ?_, ?_⟩
  · rw [same]
    exact stands.shares
  · rw [Inlet.ends_succ, got]
    simpa using stands.ended

theorem line (stands : Stands inlet n raw r) {first : Bytes} (given : r.next = .line first rest) :
    ∃ line, first = withoutReturn line ∧ Stands inlet n (raw ++ [line]) rest := by
  obtain ⟨line, whole, rfl, split⟩ := next_eq_line given
  have all : inlet.received n = unlines raw ++ r.buffer := by
    obtain all | ⟨-, empty, -⟩ := stands.shares
    · exact all
    -- Nothing is given out of an empty buffer.
    · obtain split | ⟨-, same, filled, -⟩ := split
      · simp [empty] at split
      · exact absurd (same.symm.trans empty) filled
  refine ⟨line, rfl, ?_, ?_, ?_⟩
  · intro other member
    obtain early | late := List.mem_append.mp member
    · exact stands.whole other early
    · rwa [List.mem_singleton.mp late]
  · obtain split | ⟨ended, same, filled, empty⟩ := split
    · left
      rw [all, split]
      simp [unlines]
    · right
      rw [ended_of_next given]
      exact ⟨ended, empty, raw, line, rfl, filled, by rw [all, same]⟩
  · rw [ended_of_next given]
    exact stands.ended

end Stands

/-- What a call for a line gives that some lines were given out before: the outcome, the reader left and the
number of attempts made by then. -/
inductive Gives (inlet : Inlet) (raw : List Bytes) : LineOutcome → LineReader → Nat → Prop where
  | line {line : Bytes} {rest : LineReader} {n : Nat} : Stands inlet n (raw ++ [line]) rest →
      Gives inlet raw (.ok (some (withoutReturn line))) rest n
  | finished {rest : LineReader} {n : Nat} : Stands inlet n raw rest → rest.next = .finished →
      Gives inlet raw (.ok none) rest n
  | failed {f : Fault} {rest : LineReader} {n : Nat} : Stands inlet n raw rest →
      rest.next = .starved → Gives inlet raw (.error f) rest n

/-- A call makes an attempt only while no whole line is there, and fails with the first attempt that does. -/
structure Answers (inlet : Inlet) (n : Nat) (raw : List Bytes) (outcome : LineOutcome)
    (rest : LineReader) (last : Nat) : Prop where
  later : n ≤ last
  waits : ∀ j, n ≤ j → j < last → ∃ waiting, Stands inlet j raw waiting ∧ waiting.next = .starved
  fails : ∀ f, outcome = .error f ↔ ∃ j, n ≤ j ∧ j < last ∧ inlet.met j = .error f
  gives : Gives inlet raw outcome rest last

namespace Answers

variable {inlet : Inlet} {n last : Nat} {raw : List Bytes} {outcome : LineOutcome} {rest : LineReader}

theorem at_once (gives : Gives inlet raw outcome rest n) (sound : ∀ f, outcome ≠ .error f) :
    Answers inlet n raw outcome rest n where
  later := Nat.le_refl n
  waits := fun _ late early => absurd early (Nat.not_lt.mpr late)
  fails := fun f => ⟨fun same => absurd same (sound f),
    fun ⟨_, late, early, _⟩ => absurd early (Nat.not_lt.mpr late)⟩
  gives := gives

theorem failed {r : LineReader} (stands : Stands inlet n raw r) (starved : r.next = .starved) {f : Fault}
    (met : inlet.met n = .error f) : Answers inlet n raw (.error f) r (n + 1) where
  later := Nat.le_succ n
  waits := by
    intro j late early
    obtain rfl : j = n := by omega
    exact ⟨r, stands, starved⟩
  fails := by
    intro g
    constructor
    · intro same
      exact ⟨n, Nat.le_refl n, Nat.lt_succ_self n, met.trans (congrArg _ (Except.error.inj same))⟩
    · rintro ⟨j, late, early, same⟩
      obtain rfl : j = n := by omega
      exact congrArg _ (Except.error.inj (met.symm.trans same))
  gives := .failed (stands.fail met) starved

theorem after_chunk {r : LineReader} (stands : Stands inlet n raw r) (starved : r.next = .starved)
    {chunk : Bytes} (met : inlet.met n = .ok chunk)
    (answers : Answers inlet (n + 1) raw outcome rest last) : Answers inlet n raw outcome rest last where
  later := Nat.le_of_succ_le answers.later
  waits := by
    intro j late early
    obtain rfl | more := Nat.eq_or_lt_of_le late
    · exact ⟨r, stands, starved⟩
    · exact answers.waits j more early
  fails := by
    intro f
    rw [answers.fails]
    constructor
    · rintro ⟨j, late, early, same⟩
      exact ⟨j, Nat.le_of_succ_le late, early, same⟩
    · rintro ⟨j, late, early, same⟩
      obtain rfl | more := Nat.eq_or_lt_of_le late
      · cases met.symm.trans same
      · exact ⟨j, more, early, same⟩
  gives := answers.gives

theorem finished_iff (answers : Answers inlet n raw outcome rest last) :
    outcome = .ok none ↔ inlet.Ends last ∧ inlet.unread last raw.length = [] := by
  cases answers.gives with
  | line stands => exact ⟨nofun, fun ⟨_, empty⟩ => absurd empty stands.unread_ne_nil⟩
  | finished stands finished =>
    obtain ⟨empty, ended⟩ := eq_of_finished finished
    exact ⟨fun _ => ⟨stands.ended.mp ended, stands.unread_eq.trans empty⟩, fun _ => rfl⟩
  | failed stands starved =>
    refine ⟨nofun, fun ⟨ends, _⟩ => ?_⟩
    have live := not_ended_of_starved starved
    rw [stands.ended.mpr ends] at live
    cases live

end Answers

theorem readLine_answers {inlet : Inlet} {n : Nat} {raw : List Bytes} {r : LineReader}
    (stands : Stands inlet n raw r) :
    ∃ last, (r.readLine (inlet.after n)).2.2 = inlet.after last ∧
      Answers inlet n raw (r.readLine (inlet.after n)).1 (r.readLine (inlet.after n)).2.1 last := by
  generalize here : inlet.after n = current
  -- Along the recursion of the reader: an attempt that succeeds leads to the next one.
  fun_induction readLine r current generalizing n with
  | case1 r current line rest given =>
    obtain ⟨line, rfl, stands⟩ := stands.line given
    exact ⟨n, here.symm, .at_once (.line stands) nofun⟩
  | case2 r current finished =>
    exact ⟨n, here.symm, .at_once (.finished stands finished) nofun⟩
  | case3 r current starved f after got =>
    subst here
    rw [Inlet.receive_after, Prod.mk.injEq] at got
    obtain ⟨met, rfl⟩ := got
    exact ⟨n + 1, rfl, .failed stands starved met⟩
  | case4 r current starved chunk after got ih =>
    subst here
    rw [Inlet.receive_after, Prod.mk.injEq] at got
    obtain ⟨met, rfl⟩ := got
    obtain ⟨last, left, answers⟩ := ih (stands.receive starved met) rfl
    exact ⟨last, left, answers.after_chunk stands starved met⟩

/-! ## Any number of calls -/

def lineOf? : LineOutcome → Option Bytes
  | .ok line => line
  | .error _ => none

structure Reading where
  outcomes : List LineOutcome
  reader : LineReader
  inlet : Inlet

namespace Reading

def ofInlet (inlet : Inlet) : Reading := ⟨[], .start, inlet⟩

def next (r : Reading) : LineOutcome := (r.reader.readLine r.inlet).1

def call (r : Reading) : Reading :=
  ⟨r.outcomes ++ [r.next], (r.reader.readLine r.inlet).2.1, (r.reader.readLine r.inlet).2.2⟩

def calls (r : Reading) : Nat → Reading
  | 0 => r
  | n + 1 => (r.calls n).call

def lines (r : Reading) : List Bytes := r.outcomes.filterMap lineOf?

def attempts (r : Reading) : Nat := r.inlet.calls

/-- The lines given out are the first segments of the bytes received, each without the carriage return at its
end, and the buffer holds the bytes after them. The last segment is given out once the stream has ended, and
only if it is not empty. -/
structure Exact (inlet : Inlet) (r : Reading) : Prop where
  inlet_eq : r.inlet = inlet.after r.attempts
  ended_iff : r.reader.ended = true ↔ inlet.Ends r.attempts
  lines_eq : r.lines = ((inlet.segments r.attempts).take r.lines.length).map withoutReturn
  given : r.lines.length < (inlet.segments r.attempts).length ∨
    r.lines.length = (inlet.segments r.attempts).length ∧ inlet.Ends r.attempts ∧
      (inlet.segments r.attempts).getLast? ≠ some []
  buffer_eq : r.reader.buffer = inlet.unread r.attempts r.lines.length

structure Calls (inlet : Inlet) (r : Reading) : Prop where
  /-- An attempt is made only when no whole line is left and the stream has not ended. -/
  needed : ∀ j, r.attempts ≤ j → j < r.call.attempts →
    newline ∉ inlet.unread j r.lines.length ∧ ¬ inlet.Ends j
  /-- The call fails exactly with the fault of its attempt. -/
  failed_iff : ∀ f, r.next = .error f ↔
    ∃ j, r.attempts ≤ j ∧ j < r.call.attempts ∧ inlet.met j = .error f
  /-- A failed call leaves all lines and bytes to the later ones. -/
  kept : ∀ f, r.next = .error f → r.call.lines = r.lines ∧
    r.call.reader.buffer = inlet.unread r.call.attempts r.lines.length
  /-- There is no line exactly when the stream has ended and all was given out. -/
  finished_iff : r.next = .ok none ↔
    inlet.Ends r.call.attempts ∧ inlet.unread r.call.attempts r.lines.length = []
  /-- From then on no call gives a line or makes an attempt. -/
  spent : r.next = .ok none → ∀ n, (r.call.calls n).next = .ok none ∧
    (r.call.calls n).attempts = r.call.attempts

/-- What the calls so far have led to, with the lines as they were received. -/
structure Follows (inlet : Inlet) (r : Reading) (raw : List Bytes) : Prop where
  inlet_eq : r.inlet = inlet.after r.attempts
  stands : Stands inlet r.attempts raw r.reader
  lines_eq : r.lines = raw.map withoutReturn

variable {inlet : Inlet} {r : Reading} {raw : List Bytes}

theorem lines_call (r : Reading) : r.call.lines = r.lines ++ (lineOf? r.next).toList := by
  rw [lines, call, List.filterMap_append]
  cases given : lineOf? r.next <;> simp [lines, given]

namespace Follows

theorem length_eq (follows : Follows inlet r raw) : r.lines.length = raw.length := by
  rw [follows.lines_eq, List.length_map]

theorem exact (follows : Follows inlet r raw) : Exact inlet r where
  inlet_eq := follows.inlet_eq
  ended_iff := follows.stands.ended
  lines_eq := by
    rw [follows.length_eq, follows.lines_eq]
    obtain all | ⟨all, -⟩ := follows.stands.segments
    · rw [all, List.take_left]
    · rw [all, List.take_length]
  given := by
    rw [follows.length_eq]
    obtain all | ⟨all, ended, -, last⟩ := follows.stands.segments
    · left
      have some := List.length_pos_iff.mpr (List.splitOn_ne_nil newline r.reader.buffer)
      rw [all, List.length_append]
      omega
    · rw [all]
      exact .inr ⟨rfl, follows.stands.ended.mp ended, last⟩
  buffer_eq := by rw [follows.length_eq, follows.stands.unread_eq]

theorem call (fresh : inlet.calls = 0) (follows : Follows inlet r raw) :
    Answers inlet r.attempts raw r.next r.call.reader r.call.attempts ∧
      ∃ raw, Follows inlet r.call raw := by
  obtain ⟨last, left, answers⟩ := readLine_answers follows.stands
  rw [← follows.inlet_eq] at left answers
  have count : r.call.attempts = last := by
    rw [attempts, Reading.call, left, Inlet.calls_after, fresh, Nat.zero_add]
  subst count
  refine ⟨answers, ?_⟩
  have lines := r.lines_call
  rw [follows.lines_eq] at lines
  have gives : Gives inlet raw r.next r.call.reader r.call.attempts := answers.gives
  generalize r.next = outcome at gives lines
  generalize here : r.call.reader = rest at gives
  cases gives with
  | line stands => exact ⟨_, left, here ▸ stands, by rw [List.map_append]; exact lines⟩
  | finished stands => exact ⟨_, left, here ▸ stands, lines.trans (List.append_nil _)⟩
  | failed stands => exact ⟨_, left, here ▸ stands, lines.trans (List.append_nil _)⟩

end Follows

/-- A reader that has nothing left gives nothing more. -/
theorem call_of_finished (finished : r.reader.next = .finished) :
    r.next = .ok none ∧ r.call.reader = r.reader ∧ r.call.inlet = r.inlet := by
  have asked : r.reader.readLine r.inlet = (.ok none, r.reader, r.inlet) := by
    unfold readLine
    split <;> simp_all
  exact ⟨congrArg Prod.fst asked, congrArg (·.2.1) asked, congrArg (·.2.2) asked⟩

theorem calls_of_finished (finished : r.reader.next = .finished) (n : Nat) :
    (r.calls n).next = .ok none ∧ (r.calls n).reader = r.reader ∧ (r.calls n).inlet = r.inlet := by
  induction n with
  | zero => exact ⟨(call_of_finished finished).1, rfl, rfl⟩
  | succ n ih =>
    obtain ⟨-, reader, inlet⟩ := ih
    obtain ⟨-, same, rest⟩ := call_of_finished (r := r.calls n) (reader ▸ finished)
    have reader : (r.calls (n + 1)).reader = r.reader := same.trans reader
    exact ⟨(call_of_finished (reader ▸ finished)).1, reader, rest.trans inlet⟩

theorem Follows.calls (fresh : inlet.calls = 0) (follows : Follows inlet r raw) : Calls inlet r where
  needed := by
    intro j late early
    obtain ⟨waiting, stands, starved⟩ := (follows.call fresh).1.waits j late early
    rw [follows.length_eq, stands.unread_eq]
    refine ⟨notMem_of_starved starved, fun ends => ?_⟩
    have live := not_ended_of_starved starved
    rw [stands.ended.mpr ends] at live
    cases live
  failed_iff := (follows.call fresh).1.fails
  kept := by
    intro f failed
    obtain ⟨next, after⟩ := (follows.call fresh).2
    have lines : r.call.lines = r.lines := by rw [lines_call, failed]; exact List.append_nil _
    exact ⟨lines, lines ▸ after.exact.buffer_eq⟩
  finished_iff := by
    rw [follows.length_eq]
    exact (follows.call fresh).1.finished_iff
  spent := by
    intro finished n
    have gives := (follows.call fresh).1.gives
    rw [finished] at gives
    cases gives with
    | finished stands done =>
      obtain ⟨next, -, inlet⟩ := calls_of_finished done n
      exact ⟨next, congrArg Inlet.calls inlet⟩

/-- After any number of calls for a line nothing is lost or invented, and the next call does what it should. -/
theorem calls_exact (arrivals : List Arrival) (n : Nat) :
    let r := (ofInlet (.ofArrivals arrivals)).calls n
    Exact (.ofArrivals arrivals) r ∧ Calls (.ofArrivals arrivals) r := by
  intro r
  have follows : ∃ raw, Follows (.ofArrivals arrivals) r raw := by
    induction n with
    | zero => exact ⟨[], rfl, .start _, rfl⟩
    | succ n ih =>
      obtain ⟨raw, follows⟩ := ih
      exact (follows.call rfl).2
  obtain ⟨raw, follows⟩ := follows
  exact ⟨follows.exact, follows.calls rfl⟩

end Reading

end LineReader

end Handover
