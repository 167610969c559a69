import Handover.Proofs.Session.Callers

/-! What becomes of the sink of a session. The worker gives up a thread of the sink's own when it exits, and a
caller that closes the session lets the observer go as well; nothing brings back the one or the other. -/

set_option autoImplicit false

namespace Handover

namespace Sink

/-- A sink after a while: as it was, released, or detached. -/
inductive Fades (s : Sink) : Sink → Prop where
  | same : Fades s s
  | released : Fades s s.release
  | detached : Fades s s.detach

theorem detach_release (s : Sink) : s.release.detach = s.detach := by simp [detach]

theorem outlet_release (s : Sink) : s.release.outlet ≠ .own true := by
  unfold release
  split
  · simp
  · next given => simp [given]

namespace Fades

variable {s u : Sink}

theorem attached (fades : Fades s u) (away : s.attached = false) : u.attached = false := by
  cases fades with
  | same => exact away
  | released => rw [attached_release, away]
  | detached => rfl

theorem opened (fades : Fades s u) (opened : u.outlet = .own true) : s.outlet = .own true := by
  cases fades with
  | same => exact opened
  | released => exact absurd opened s.outlet_release
  | detached => exact absurd opened s.outlet_release

end Fades

end Sink

namespace Session

variable {s u : Session}

/-! ## The worker -/

theorem Unlistens.fades {escape : Option Fault} (unlistens : Unlistens s escape u) :
    s.sink.Fades u.sink := by
  cases unlistens with
  | listener => exact .same
  | settled => exact .released

theorem Retires.fades {escape : Option Fault} (retires : Retires s escape u) : s.sink.Fades u.sink := by
  cases retires with
  | link => exact .same
  | unlistens _ unlistens => exact unlistens.fades

theorem Finishes.fades {event : Event} {failed : Bool} (finishes : Finishes s event failed u) :
    s.sink.Fades u.sink := by
  cases finishes with
  | ended _ retires => exact retires.fades
  | reports => exact .same

theorem Crashes.fades {f : Fault} (crashes : Crashes s f u) : s.sink.Fades u.sink := by
  cases crashes with
  | loses _ finishes => exact finishes.fades
  | exits _ retires => exact retires.fades

theorem Stops.fades {event : Event} (stops : Stops s event u) : s.sink.Fades u.sink := by
  cases stops with
  | interrupted _ retires => exact retires.fades
  | finishes _ finishes => exact finishes.fades

theorem Fails.fades {event : Event} {f : Fault} (fails : Fails s event f u) : s.sink.Fades u.sink := by
  cases fails with
  | expected _ stops => exact stops.fades
  | crashes _ crashes => exact crashes.fades

theorem ReadsFirst.fades {link : Link} (reads : ReadsFirst s link u) : s.sink.Fades u.sink := by
  cases reads with
  | finished _ stops => exact stops.fades
  | line | starved => exact .same

theorem ReadsFrame.fades {link : Link} {frame : Frame.Decoder} (reads : ReadsFrame s link frame u) :
    s.sink.Fades u.sink := by
  cases reads <;> exact .same

theorem Ticks.fades {link : Link} (ticks : Ticks s link u) : s.sink.Fades u.sink := by
  cases ticks with
  | stops _ retires => exact retires.fades
  | writes => exact .same
  | reads _ _ reads => exact reads.fades

theorem Secures.fades {setup : Setup} (secures : Secures s setup u) : s.sink.Fades u.sink := by
  cases secures <;> exact .same

theorem Adopts.fades {socket : Socket} (adopts : Adopts s socket u) : s.sink.Fades u.sink := by
  cases adopts with
  | stops _ retires => exact retires.fades
  | goesOn => exact .same

theorem Accepts.fades (accepts : Accepts s u) : s.sink.Fades u.sink := by
  cases accepts with
  | stops _ retires => exact retires.fades
  | waits => exact .same

theorem Listens.fades (listens : Listens s u) : s.sink.Fades u.sink := by
  cases listens with
  | stops _ retires => exact retires.fades
  | advertises | searches => exact .same

theorem HandsOver.fades (hands : HandsOver s u) : s.sink.Fades u.sink := by
  cases hands with
  | closes => exact .same
  | secures _ secures => exact secures.fades

theorem Begins.fades (begins : Begins s u) : s.sink.Fades u.sink := by
  cases begins with
  | stops _ retires => exact retires.fades
  | crashes _ _ _ finishes => exact finishes.fades
  | listens | dials => exact .same

theorem Opens.fades {reply : Reply} (opens : Opens s reply u) : s.sink.Fades u.sink := by
  cases opens with
  | bound | found | announces | shut | refused | named => exact .same
  | listens _ listens => exact listens.fades
  | announced _ accepts => exact accepts.fades
  | waited _ _ accepts => exact accepts.fades
  | accepted _ hands => exact hands.fades
  | closed _ secures => exact secures.fades
  | dialled _ secures => exact secures.fades
  | secured _ adopts => exact adopts.fades
  | broken _ _ fails => exact fails.fades
  | abandoned _ fails => exact fails.fades
  | unclosed _ fails => exact fails.fades
  | unnamed _ crashes => exact crashes.fades
  | unheard _ _ _ fails => exact fails.fades
  | unreached _ fails => exact fails.fades

theorem Polls.fades {reply : Reply} (polls : Polls s reply u) : s.sink.Fades u.sink := by
  cases polls with
  | established | timedWrite | wrote | timedAfterWrite | silent | timedAfterFrame => exact .same
  | timed _ ticks => exact ticks.fades
  | reportedWrite _ reads => exact reads.fades
  | received _ reads => exact reads.fades
  | idled _ _ ticks => exact ticks.fades
  | timedFrame _ reads => exact reads.fades
  | receivedFrame _ reads => exact reads.fades
  | reportedMessage _ ticks => exact ticks.fades
  | broken _ _ _ fails => exact fails.fades
  | crashed _ crashes => exact crashes.fades

theorem Closes.fades {reply : Reply} (closes : Closes s reply u) : s.sink.Fades u.sink := by
  cases closes with
  | shut | broken => exact .same
  | closed => exact .released
  | reported _ retires => exact retires.fades
  | unreported _ retires => exact retires.fades
  | crashed _ crashes => exact crashes.fades
  | released _ unlistens => exact unlistens.fades

theorem fades_resume (s : Session) (reply : Reply) : s.sink.Fades (s.resume reply).session.sink := by
  cases heeded : s.heeds (.answer reply) with
  | false =>
    rw [resume_of_unheeded heeded]
    exact .same
  | true =>
    cases (resume_passage heeded).1 with
    | opens opens => exact opens.fades
    | polls polls => exact polls.fades
    | closes closes => exact closes.fades

theorem fades_run (s : Session) : s.sink.Fades s.run.session.sink := by
  unfold run
  split
  · exact (Turn.of s).begin_passage.fades
  · exact .same

/-! ## The callers -/

theorem sink_concludeClosing (t : Turn) : t.concludeClosing.session.sink = t.session.sink := by
  unfold Turn.concludeClosing Turn.enterIfActive
  split
  · rfl
  · split <;> rfl

theorem sink_interrupt (t : Turn) : t.interrupt.session.sink = t.session.sink := by
  unfold Turn.interrupt
  split
  · rfl
  · exact sink_concludeClosing t

theorem sink_send (s : Session) (pending : Pending) : (s.send pending).session.sink = s.sink := by
  unfold send
  split
  · rfl
  · dsimp only
    split <;> rfl

theorem sink_resumeClosing (s : Session) (reply : Reply) :
    (s.resumeClosing reply).session.sink = s.sink := by
  unfold resumeClosing
  cases s.closing <;> cases reply <;> dsimp only <;> (try split) <;>
    simp [sink_concludeClosing, sink_interrupt]

theorem fades_close (s : Session) : s.sink.Fades s.close.session.sink := by
  have gone : s.sink.Fades s.sink.release.detach := by
    rw [Sink.detach_release]
    exact .detached
  unfold close
  split
  · exact .same
  · dsimp only
    split
    · simpa [session_detach] using gone
    · simpa [sink_interrupt, session_detach] using gone

theorem fades_step (s : Session) (m : Move) : s.sink.Fades (s.step m).session.sink := by
  cases m with
  | start | dropEndpoint => exact .same
  | run => exact s.fades_run
  | send pending =>
    rw [step, sink_send]
    exact .same
  | close => exact s.fades_close
  | detach =>
    rw [step, session_detach]
    show s.sink.Fades s.sink.release.detach
    rw [Sink.detach_release]
    exact .detached
  | release =>
    rw [step, Turn.session_releaseThread]
    exact .released
  | answer reply => exact s.fades_resume reply
  | answerCaller reply =>
    rw [step, sink_resumeClosing]
    exact .same

end Session

end Handover
