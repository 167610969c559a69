import Handover.Proofs.Session.Course

/-! Requests. A worker that goes on makes exactly one request, that of the point it comes to; a move
that it does not heed makes none, and neither does a caller. So the requests of a history are those of
the points that its moves lead the worker to. -/

set_option autoImplicit false

namespace Handover.Session

namespace Turn

/-- From one turn to another the worker makes the request of the point that it comes to. -/
def Asks (t u : Turn) : Prop := u.calls = t.calls ++ u.session.request.toList

theorem asks_await (t : Turn) (point : Point) : t.Asks (t.await point) := calls_await t point

theorem Asks.of_calls {t prepared u : Turn} (asks : prepared.Asks u) (same : prepared.calls = t.calls) :
    t.Asks u := by
  rw [Asks, ← same]
  exact asks

theorem Asks.calls_eq {s : Session} {u : Turn} (asks : (of s).Asks u) :
    u.calls = u.session.request.toList := asks

theorem asks_settle (t : Turn) (escape : Option Fault) : t.Asks (t.settle escape) := by
  unfold settle
  refine (asks_await _ _).of_calls ?_
  split <;> simp

theorem asks_releaseListener (t : Turn) (escape : Option Fault) : t.Asks (t.releaseListener escape) := by
  unfold releaseListener
  split
  · exact (asks_await _ _).of_calls (by simp)
  · exact t.asks_settle escape

theorem asks_cleanUp (t : Turn) (escape : Option Fault) : t.Asks (t.cleanUp escape) := by
  unfold cleanUp
  split
  · exact (asks_await _ _).of_calls (by simp)
  · exact t.asks_releaseListener escape

theorem asks_finish (t : Turn) (phase : Phase) (event : Event) (failed : Bool) :
    t.Asks (t.finish phase event failed) := by
  unfold finish
  split
  · exact t.asks_cleanUp none
  · exact (asks_await _ _).of_calls (by simp)

theorem asks_crash (t : Turn) (f : Fault) : t.Asks (t.crash f) := by
  unfold crash
  split
  · exact (asks_finish _ _ _ _).of_calls (by simp)
  · exact t.asks_cleanUp _

theorem asks_failListening (t : Turn) (f : Fault) : t.Asks (t.failListening f) := by
  unfold failListening
  split
  · split
    · exact (asks_cleanUp _ _).of_calls (by simp)
    · exact (asks_finish _ _ _ _).of_calls (by simp)
  · exact t.asks_crash _

theorem asks_failDialling (t : Turn) (host : String) (port : Int) (f : Fault) :
    t.Asks (t.failDialling host port f) := by
  unfold failDialling
  split
  · split
    · exact (asks_cleanUp _ _).of_calls (by simp)
    · exact (asks_finish _ _ _ _).of_calls (by simp)
  · exact t.asks_crash _

theorem asks_failSetup (t : Turn) (setup : Setup) (f : Fault) : t.Asks (t.failSetup setup f) := by
  cases setup with
  | listening => exact t.asks_failListening f
  | dialling host port => exact t.asks_failDialling host port f

theorem asks_endPolling (t : Turn) : t.Asks t.endPolling := by
  unfold endPolling
  split
  · exact (asks_cleanUp _ _).of_calls (by simp)
  · exact t.asks_finish _ _ _

theorem asks_failPolling (t : Turn) (f : Fault) : t.Asks (t.failPolling f) := by
  unfold failPolling
  split
  · refine (asks_endPolling _).of_calls ?_
    split <;> simp
  · exact t.asks_crash _

theorem asks_readFirst (t : Turn) (link : Link) : t.Asks (t.readFirst link) := by
  unfold readFirst
  split
  · exact t.asks_await _
  · exact (asks_endPolling _).of_calls (by simp)
  · exact t.asks_await _

theorem asks_readFrame (t : Turn) (link : Link) (frame : Frame.Decoder) :
    t.Asks (t.readFrame link frame) := by
  unfold readFrame
  split <;> exact t.asks_await _

theorem asks_tick (t : Turn) (link : Link) : t.Asks (t.tick link) := by
  unfold tick
  split
  · exact t.asks_endPolling
  · split
    · exact (asks_await _ _).of_calls (by simp)
    · exact (asks_readFirst _ _).of_calls (by simp)

theorem asks_beginHandshake (t : Turn) (setup : Setup) : t.Asks (t.beginHandshake setup) := by
  unfold beginHandshake
  split <;> exact (asks_await _ _).of_calls (by simp)

theorem asks_adopt (t : Turn) (socket : Socket) : t.Asks (t.adopt socket) := by
  unfold adopt
  split
  · exact (asks_cleanUp _ _).of_calls (by simp)
  · exact (asks_await _ _).of_calls (by simp)

theorem asks_acceptNext (t : Turn) : t.Asks t.acceptNext := by
  unfold acceptNext
  split
  · exact t.asks_cleanUp none
  · exact t.asks_await _

theorem asks_establish (t : Turn) : t.Asks t.establish :=
  (asks_beginHandshake _ _).of_calls (by simp)

theorem asks_handOver (t : Turn) : t.Asks t.handOver := by
  unfold handOver
  split
  · exact (asks_await _ _).of_calls (by simp)
  · exact t.asks_establish

theorem asks_listen (t : Turn) : t.Asks t.listen := by
  unfold listen
  split
  · exact (asks_cleanUp _ _).of_calls (by simp)
  · split <;> exact (asks_await _ _).of_calls (by simp)

theorem asks_begin (t : Turn) : t.Asks t.begin := by
  unfold begin
  split
  · exact t.asks_cleanUp none
  · split
    · exact t.asks_await _
    · exact (asks_await _ _).of_calls (by simp)
    · exact t.asks_crash _

end Turn

/-! ## Moves that the worker heeds -/

/-- Whether the worker goes on by a move: its body begins, or it gets an answer that it waits for. -/
def heeds (s : Session) : Move → Bool
  | .run => s.isRunnable
  | .answer reply => s.request.any fun request => request.admits reply
  | _ => false

theorem isRunnable_iff {s : Session} : s.isRunnable = true ↔ s.started = true ∧ s.point = .ready := by
  unfold isRunnable
  cases s.point <;> simp

theorem hasExited_iff {s : Session} : s.hasExited = true ↔ ∃ escape, s.point = .exited escape := by
  unfold hasExited
  cases s.point <;> simp

theorem heeds_answer_iff {s : Session} {reply : Reply} :
    s.heeds (.answer reply) = true ↔
      ∃ request, s.request = some request ∧ request.admits reply = true := by
  simp [heeds, Option.any_eq_true]

theorem fail_of_idle {s : Session} (idle : s.request = none) (f : Fault) : s.fail f = Turn.of s := by
  unfold fail
  -- Two points ask for nothing, and at these a fault does nothing.
  cases here : s.point <;> simp only [request, here, reduceCtorEq] at idle <;> rfl

theorem proceed_of_unheeded {s : Session} {reply : Reply}
    (unheeded : s.request.any (fun request => request.admits reply) = false) :
    s.proceed reply = Turn.of s := by
  unfold proceed
  -- A branch that does anything is that of a point and a reply which fits its request.
  split <;> first | rfl | next here => simp [request, here, Request.admits] at unheeded

theorem resume_of_unheeded {s : Session} {reply : Reply}
    (unheeded : s.heeds (.answer reply) = false) : s.resume reply = Turn.of s := by
  cases reply with
  | fault f =>
    refine fail_of_idle ?_ f
    cases asked : s.request with
    | none => rfl
    | some request => simp [heeds, asked] at unheeded
  | _ => exact proceed_of_unheeded unheeded

/-! ## Callers -/

theorem calls_start (s : Session) : s.start.calls = [] := by simp [start]

theorem calls_send (s : Session) (p : Pending) : (s.send p).calls = [] := by
  unfold send
  split
  · simp
  · dsimp only
    split <;> simp

theorem calls_concludeClosing (t : Turn) : t.concludeClosing.calls = t.calls := by
  unfold Turn.concludeClosing
  split <;> simp

theorem calls_interrupt (t : Turn) : t.interrupt.calls = t.calls := by
  unfold Turn.interrupt
  split
  · simp
  · exact calls_concludeClosing t

theorem calls_close (s : Session) : s.close.calls = [] := by
  unfold close
  split
  · rfl
  · dsimp only
    split
    · simp
    · simp [calls_interrupt]

theorem calls_resumeClosing (s : Session) (reply : Reply) : (s.resumeClosing reply).calls = [] := by
  unfold resumeClosing
  dsimp only
  split
  any_goals split
  all_goals simp [calls_interrupt, calls_concludeClosing]

end Handover.Session
