import Handover.Session.Move

/-! Who hears a session. Whether the observer is still attached, and whether a stop was asked for, is changed
by two moves only: the first call to close the session, which lets the observer go as it asks for the stop,
and the detaching of the sink. No part of the worker attaches an observer again. -/

set_option autoImplicit false

namespace Handover.Session

/-- What decides whether the events of a session are heard. -/
structure Audience where
  attached : Bool
  stopping : Bool
  deriving DecidableEq, Repr

def audience (s : Session) : Audience := ⟨s.sink.attached, s.stopping⟩

namespace Turn

def audience (t : Turn) : Audience := t.session.audience

@[simp] theorem audience_of (s : Session) : (of s).audience = s.audience := rfl

@[simp] theorem audience_note (t : Turn) (notice : Notice) :
    (t.note notice).audience = t.audience := rfl

@[simp] theorem audience_await (t : Turn) (point : Point) :
    (t.await point).audience = t.audience := rfl

@[simp] theorem audience_awaitClosing (t : Turn) (closing : Closing) :
    (t.awaitClosing closing).audience = t.audience := rfl

@[simp] theorem audience_enter (t : Turn) (phase : Phase) :
    (t.enter phase).audience = t.audience := rfl

@[simp] theorem audience_enterIfActive (t : Turn) (phase : Phase) :
    (t.enterIfActive phase).audience = t.audience := by
  unfold enterIfActive
  split <;> simp

@[simp] theorem audience_releaseThread (t : Turn) :
    t.releaseThread.audience = t.audience := by
  simp [audience, Session.audience]

/-! ## The worker -/

@[simp] theorem audience_settle (t : Turn) (escape : Option Fault) :
    (t.settle escape).audience = t.audience := by
  unfold settle
  cases t.session.stopping <;> simp

@[simp] theorem audience_releaseListener (t : Turn) (escape : Option Fault) :
    (t.releaseListener escape).audience = t.audience := by
  unfold releaseListener
  split
  · rfl
  · simp

@[simp] theorem audience_cleanUp (t : Turn) (escape : Option Fault) :
    (t.cleanUp escape).audience = t.audience := by
  unfold cleanUp
  split
  · rfl
  · simp

@[simp] theorem audience_finish (t : Turn) (phase : Phase) (event : Event) (failed : Bool) :
    (t.finish phase event failed).audience = t.audience := by
  unfold finish
  split <;> simp

@[simp] theorem audience_crash (t : Turn) (f : Fault) : (t.crash f).audience = t.audience := by
  unfold crash
  split <;> simp

@[simp] theorem audience_failListening (t : Turn) (f : Fault) :
    (t.failListening f).audience = t.audience := by
  unfold failListening
  split
  · split <;> simp
  · simp

@[simp] theorem audience_failDialling (t : Turn) (host : String) (port : Int) (f : Fault) :
    (t.failDialling host port f).audience = t.audience := by
  unfold failDialling
  split
  · split <;> simp
  · simp

@[simp] theorem audience_failSetup (t : Turn) (setup : Setup) (f : Fault) :
    (t.failSetup setup f).audience = t.audience := by
  cases setup <;> simp [failSetup]

@[simp] theorem audience_endPolling (t : Turn) :
    t.endPolling.audience = t.audience := by
  unfold endPolling
  split <;> simp

@[simp] theorem audience_failPolling (t : Turn) (f : Fault) :
    (t.failPolling f).audience = t.audience := by
  unfold failPolling
  split
  · split <;> simp
  · simp

@[simp] theorem audience_readFirst (t : Turn) (link : Link) :
    (t.readFirst link).audience = t.audience := by
  unfold readFirst
  split <;> simp

@[simp] theorem audience_readFrame (t : Turn) (link : Link) (frame : Frame.Decoder) :
    (t.readFrame link frame).audience = t.audience := by
  unfold readFrame
  split <;> simp

@[simp] theorem audience_tick (t : Turn) (link : Link) :
    (t.tick link).audience = t.audience := by
  unfold tick
  split
  · simp
  · split
    · rfl
    · rw [audience_readFirst]
      rfl

@[simp] theorem audience_beginHandshake (t : Turn) (setup : Setup) :
    (t.beginHandshake setup).audience = t.audience := by
  unfold beginHandshake
  split <;> rfl

@[simp] theorem audience_establish (t : Turn) : t.establish.audience = t.audience := by
  simp [establish]

@[simp] theorem audience_adopt (t : Turn) (socket : Socket) :
    (t.adopt socket).audience = t.audience := by
  unfold adopt
  split
  · rw [audience_cleanUp]
    rfl
  · rfl

@[simp] theorem audience_acceptNext (t : Turn) :
    t.acceptNext.audience = t.audience := by
  unfold acceptNext
  split <;> simp

@[simp] theorem audience_handOver (t : Turn) : t.handOver.audience = t.audience := by
  unfold handOver
  split
  · rfl
  · simp

@[simp] theorem audience_listen (t : Turn) : t.listen.audience = t.audience := by
  unfold listen
  split
  · rw [audience_cleanUp]
    rfl
  · split <;> rfl

@[simp] theorem audience_begin (t : Turn) : t.begin.audience = t.audience := by
  unfold begin
  split
  · simp
  · split <;> simp

@[simp] theorem audience_unmarked (t : Turn) :
    (t.update fun s => { s with handshaking := false }).audience = t.audience := rfl

/-! ## Closing -/

@[simp] theorem audience_concludeClosing (t : Turn) :
    t.concludeClosing.audience = t.audience := by
  unfold concludeClosing
  split <;> simp

@[simp] theorem audience_interrupt (t : Turn) : t.interrupt.audience = t.audience := by
  unfold interrupt
  split <;> simp

@[simp] theorem audience_detach (t : Turn) :
    t.detach.audience = ⟨false, t.session.stopping⟩ := by
  simp [detach, audience, Session.audience]

end Turn

theorem audience_run (s : Session) : s.run.audience = s.audience := by
  unfold run
  split <;> simp

theorem audience_fail (s : Session) (f : Fault) : (s.fail f).audience = s.audience := by
  unfold fail
  cases s.point <;> dsimp only <;> (try split) <;> simp

theorem audience_proceed (s : Session) (reply : Reply) : (s.proceed reply).audience = s.audience := by
  unfold proceed
  dsimp only
  split <;> first | rfl | simp

theorem audience_resume (s : Session) (reply : Reply) :
    (s.resume reply).audience = s.audience := by
  cases reply with
  | fault f => exact s.audience_fail f
  | _ => exact s.audience_proceed _

theorem audience_send (s : Session) (pending : Pending) :
    (s.send pending).audience = s.audience := by
  unfold send
  split
  · simp
  · dsimp only
    split <;> rfl

theorem audience_resumeClosing (s : Session) (reply : Reply) :
    (s.resumeClosing reply).audience = s.audience := by
  unfold resumeClosing
  cases s.closing <;> cases reply <;> dsimp only <;> (try split) <;> simp

theorem audience_close (s : Session) :
    s.close.audience = if s.stopping then s.audience else ⟨false, true⟩ := by
  unfold close
  split
  · rfl
  · dsimp only
    split
    · simp [Turn.audience, audience, Turn.detach]
    · simp

theorem audience_step (s : Session) (m : Move) : (s.step m).audience = match m with
    | .close => if s.stopping then s.audience else ⟨false, true⟩
    | .detach => ⟨false, s.stopping⟩
    | _ => s.audience := by
  cases m with
  | start | dropEndpoint => rfl
  | run => exact s.audience_run
  | send pending => exact s.audience_send pending
  | close => exact s.audience_close
  | detach => exact Turn.audience_detach _
  | release => exact Turn.audience_releaseThread _
  | answer reply => exact s.audience_resume reply
  | answerCaller reply => exact s.audience_resumeClosing reply

variable {s : Session}

theorem attached_step (away : s.sink.attached = false) (m : Move) :
    (s.step m).session.sink.attached = false := by
  have heard := congrArg Audience.attached (s.audience_step m)
  change (s.step m).session.sink.attached = _ at heard
  cases m with
  | close =>
    rw [heard]
    dsimp only
    split
    · exact away
    · rfl
  | detach => exact heard
  | _ => exact heard.trans away

/-- A session that was asked to stop has no observer. -/
def Hushed (s : Session) : Prop := s.stopping = true → s.sink.attached = false

theorem Hushed.step (hushed : Hushed s) (m : Move) : Hushed (s.step m).session := by
  have heard := s.audience_step m
  have stops := congrArg Audience.stopping heard
  change (s.step m).session.stopping = _ at stops
  intro stopped
  cases stopping : s.stopping with
  | true => exact attached_step (hushed stopping) m
  | false =>
    -- Nothing but the call that closes the session asks for a stop.
    cases m with
    | close =>
      rw [stopping, if_neg Bool.false_ne_true] at heard
      exact congrArg Audience.attached heard
    | _ => cases stopped.symm.trans (stops.trans stopping)

end Handover.Session
