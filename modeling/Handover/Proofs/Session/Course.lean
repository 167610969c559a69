import Handover.Delivery
import Handover.Session.Move
import Mathlib.Data.List.Induction

/-! What a history of a session shows. Its course is the list of its moves, each with the state that
it met; the requests and events of the worker, and the answers it got, are read off the course. A
property that every move keeps holds at the end of every history. -/

set_option autoImplicit false

namespace Handover.Session

/-! ## Requests and events among the actions of a turn -/

def Action.request? : Action → Option Request
  | .call request => some request
  | .note _ | .callerCall _ | .releaseThread => none

namespace Request

def event? : Request → Option Event
  | .emit event => some event
  | _ => none

def written? : Request → Option Bytes
  | .send _ bytes => some bytes
  | _ => none

def isTransfer : Request → Bool
  | .send _ _ | .receive _ _ => true
  | _ => false

/-- Whether a reply is of the kind that a request asks for. A fault answers every request. -/
def admits : Request → Reply → Bool
  | _, .fault _ => true
  | .bind _ _, .done | .setTimeout _ _, .done | .emit _, .done | .shutDown _, .done
  | .close _, .done | .dial _ _ _, .done | .send _ _, .done => true
  | .findAddress, .address _ | .peerName _, .address _ => true
  | .boundPort, .port _ => true
  | .accept, .accepted _ _ => true
  | .handshake _, .connection _ => true
  | .receive _ _, .chunk _ => true
  | _, _ => false

def isPlain : Request → Bool
  | .bind _ _ | .setTimeout _ _ | .emit _ | .shutDown _ | .close _ | .dial _ _ _ | .send _ _ => true
  | .findAddress | .boundPort | .accept | .handshake _ | .peerName _ | .receive _ _ => false

@[simp] theorem admits_fault (request : Request) (f : Fault) : request.admits (.fault f) = true := by
  cases request <;> rfl

theorem eq_done_of_admits {request : Request} {reply : Reply} (fits : request.admits reply = true)
    (plain : request.isPlain = true) (sound : ∀ f, reply ≠ .fault f) : reply = .done := by
  cases request <;> first | exact absurd plain Bool.false_ne_true | skip
  all_goals cases reply <;> first | rfl | exact absurd fits Bool.false_ne_true | exact absurd rfl (sound _)

end Request

namespace Turn

def calls (t : Turn) : List Request := t.actions.filterMap Action.request?

def events (t : Turn) : List Event := t.calls.filterMap Request.event?

def written (t : Turn) : List Bytes := t.calls.filterMap Request.written?

@[simp] theorem calls_of (s : Session) : (of s).calls = [] := rfl

@[simp] theorem calls_note (t : Turn) (notice : Notice) : (t.note notice).calls = t.calls := by
  simp [calls, note, act, Action.request?]

@[simp] theorem calls_update (t : Turn) (f : Session → Session) : (t.update f).calls = t.calls := rfl

@[simp] theorem calls_enter (t : Turn) (phase : Phase) : (t.enter phase).calls = t.calls := by
  simp [enter]

@[simp] theorem calls_enterIfActive (t : Turn) (phase : Phase) :
    (t.enterIfActive phase).calls = t.calls := by
  unfold enterIfActive; split <;> simp

@[simp] theorem calls_releaseThread (t : Turn) : t.releaseThread.calls = t.calls := by
  unfold releaseThread; split <;> simp [calls, act, update, Action.request?]

@[simp] theorem calls_detach (t : Turn) : t.detach.calls = t.calls := by simp [detach]

@[simp] theorem calls_awaitClosing (t : Turn) (closing : Closing) :
    (t.awaitClosing closing).calls = t.calls := by
  unfold awaitClosing calls
  cases closingRequest { t.session with closing := closing } <;> simp [Action.request?]

theorem filterMap_call (asked : Option Request) :
    (asked.map Action.call).toList.filterMap Action.request? = asked.toList := by
  cases asked <;> rfl

theorem calls_await (t : Turn) (point : Point) :
    (t.await point).calls = t.calls ++ (t.await point).session.request.toList := by
  simp only [calls, await, List.filterMap_append, filterMap_call]

theorem calls_move (t : Turn) (m : Move) :
    (t.move m).calls = t.calls ++ (t.session.step m).calls := by
  simp [calls, move]

end Turn

/-! ## The course of a history -/

def course (s : Session) : List Move → List (Session × Move)
  | [] => []
  | first :: rest => (s, first) :: (s.step first).session.course rest

theorem course_append (s : Session) (earlier later : List Move) :
    s.course (earlier ++ later) =
      s.course earlier ++ (s.history earlier).session.course later := by
  induction earlier generalizing s with
  | nil => rfl
  | cons first rest ih => simp [course, ih, history_cons]

theorem history_concat (s : Session) (moves : List Move) (last : Move) :
    s.history (moves ++ [last]) = (s.history moves).move last := by
  simp [history]

theorem session_history_append (s : Session) (earlier later : List Move) :
    (s.history (earlier ++ later)).session =
      ((s.history earlier).session.history later).session := by
  rw [history_append]

theorem session_history_cons (s : Session) (first : Move) (rest : List Move) :
    (s.history (first :: rest)).session = ((s.step first).session.history rest).session := by
  rw [history_cons]

theorem history_induction {s : Session} (holds : Session → List (Session × Move) → Prop)
    (start : holds s [])
    (keeps : ∀ before earlier move, holds before earlier →
      holds (before.step move).session (earlier ++ [(before, move)]))
    (moves : List Move) : holds (s.history moves).session (s.course moves) := by
  -- From the end: the last move is made in the state that the others lead to.
  induction moves using List.reverseRecOn with
  | nil => exact start
  | append_singleton moves last ih =>
    rw [course_append, history_concat, Turn.move]
    exact keeps _ _ last ih

section Met

variable {met : List (Session × Move)} {last : Session × Move} {holds : Session × Move → Prop}

theorem met_earlier (found : ∃ seen ∈ met, holds seen) : ∃ seen ∈ met ++ [last], holds seen := by
  obtain ⟨seen, member, here⟩ := found
  exact ⟨seen, List.mem_append_left _ member, here⟩

theorem met_last (here : holds last) : ∃ seen ∈ met ++ [last], holds seen :=
  ⟨last, List.mem_append_right _ List.mem_cons_self, here⟩

end Met

theorem calls_history (s : Session) (moves : List Move) :
    (s.history moves).calls = (s.course moves).flatMap fun met => (met.1.step met.2).calls := by
  induction moves using List.reverseRecOn with
  | nil => rfl
  | append_singleton moves last ih =>
    rw [course_append, List.flatMap_append, ← ih]
    simp [history_concat, Turn.calls_move, course]

/-! ## Answers -/

/-- The request that a move answers, with the answer, if the worker waits for such a one. -/
def answered (s : Session) : Move → Option (Request × Reply)
  | .answer reply => (s.request.filter fun request => request.admits reply).map fun request =>
      (request, reply)
  | _ => none

/-- The answered requests of the worker with their answers, in order. -/
def transcript (s : Session) (moves : List Move) : List (Request × Reply) :=
  (s.course moves).filterMap fun met => met.1.answered met.2

theorem transcript_concat (s : Session) (moves : List Move) (last : Move) :
    s.transcript (moves ++ [last]) =
      s.transcript moves ++ ((s.history moves).session.answered last).toList := by
  rw [transcript, course_append, List.filterMap_append]
  rfl

theorem answered_eq_some {s : Session} {move : Move} {request : Request} {reply : Reply} :
    s.answered move = some (request, reply) ↔
      move = .answer reply ∧ s.request = some request ∧ request.admits reply = true := by
  cases move <;> simp [answered, Option.filter_eq_some_iff]
  grind

end Handover.Session
