import Handover.Proofs.Session.Callers

/-! What the worker leaves as it is. What a session was made of, and what its callers have asked for,
is not changed by any part of the worker; what it was made of is not changed by callers either. -/

set_option autoImplicit false

namespace Handover.Session

/-- The part of a session that its worker leaves as it is. -/
structure Steady where
  role : Role
  secret : Secret
  settings : Settings
  endpoint : Option Endpoint
  started : Bool
  stopping : Bool
  closing : Closing

def steady (s : Session) : Steady :=
  ⟨s.role, s.secret, s.settings, s.endpoint, s.started, s.stopping, s.closing⟩

variable {s u : Session}

theorem Unlistens.steady {escape : Option Fault} (unlistens : Unlistens s escape u) :
    u.steady = s.steady := by
  cases unlistens <;> rfl

theorem Retires.steady {escape : Option Fault} (retires : Retires s escape u) :
    u.steady = s.steady := by
  cases retires with
  | link => rfl
  | unlistens _ unlistens => exact unlistens.steady

theorem Finishes.steady {event : Event} {failed : Bool} (finishes : Finishes s event failed u) :
    u.steady = s.steady := by
  cases finishes with
  | ended _ retires => exact retires.steady
  | reports => rfl

theorem Crashes.steady {f : Fault} (crashes : Crashes s f u) : u.steady = s.steady := by
  cases crashes with
  | loses _ finishes => exact finishes.steady
  | exits _ retires => exact retires.steady

theorem Stops.steady {event : Event} (stops : Stops s event u) : u.steady = s.steady := by
  cases stops with
  | interrupted _ retires => exact retires.steady
  | finishes _ finishes => exact finishes.steady

theorem Fails.steady {event : Event} {f : Fault} (fails : Fails s event f u) :
    u.steady = s.steady := by
  cases fails with
  | expected _ stops => exact stops.steady
  | crashes _ crashes => exact crashes.steady

theorem ReadsFirst.steady {link : Link} (reads : ReadsFirst s link u) : u.steady = s.steady := by
  cases reads with
  | finished _ stops => exact stops.steady
  | line | starved => rfl

theorem ReadsFrame.steady {link : Link} {frame : Frame.Decoder} (reads : ReadsFrame s link frame u) :
    u.steady = s.steady := by
  cases reads <;> rfl

theorem Ticks.steady {link : Link} (ticks : Ticks s link u) : u.steady = s.steady := by
  cases ticks with
  | stops _ retires => exact retires.steady
  | writes => rfl
  | reads _ _ reads => exact reads.steady

theorem Secures.steady {setup : Setup} (secures : Secures s setup u) : u.steady = s.steady := by
  cases secures <;> rfl

theorem Adopts.steady {socket : Socket} (adopts : Adopts s socket u) : u.steady = s.steady := by
  cases adopts with
  | stops _ retires => exact retires.steady
  | goesOn => rfl

theorem Accepts.steady (accepts : Accepts s u) : u.steady = s.steady := by
  cases accepts with
  | stops _ retires => exact retires.steady
  | waits => rfl

theorem Listens.steady (listens : Listens s u) : u.steady = s.steady := by
  cases listens with
  | stops _ retires => exact retires.steady
  | advertises | searches => rfl

theorem HandsOver.steady (hands : HandsOver s u) : u.steady = s.steady := by
  cases hands with
  | closes => rfl
  | secures _ secures => exact secures.steady

theorem Begins.steady (begins : Begins s u) : u.steady = s.steady := by
  cases begins with
  | stops _ retires => exact retires.steady
  | crashes _ _ _ finishes => exact finishes.steady
  | listens | dials => rfl

theorem Opens.steady {reply : Reply} (opens : Opens s reply u) : u.steady = s.steady := by
  cases opens with
  | bound | found | announces | shut | refused | named => rfl
  | listens _ listens => exact listens.steady
  | announced _ accepts => exact accepts.steady
  | waited _ _ accepts => exact accepts.steady
  | accepted _ hands => exact hands.steady
  | closed _ secures => exact secures.steady
  | dialled _ secures => exact secures.steady
  | secured _ adopts => exact adopts.steady
  | broken _ _ fails => exact fails.steady
  | abandoned _ fails => exact fails.steady
  | unclosed _ fails => exact fails.steady
  | unnamed _ crashes => exact crashes.steady
  | unheard _ _ _ fails => exact fails.steady
  | unreached _ fails => exact fails.steady

theorem Polls.steady {reply : Reply} (polls : Polls s reply u) : u.steady = s.steady := by
  cases polls with
  | established | timedWrite | wrote | timedAfterWrite | silent | timedAfterFrame => rfl
  | timed _ ticks => exact ticks.steady
  | reportedWrite _ reads => exact reads.steady
  | received _ reads => exact reads.steady
  | idled _ _ ticks => exact ticks.steady
  | timedFrame _ reads => exact reads.steady
  | receivedFrame _ reads => exact reads.steady
  | reportedMessage _ ticks => exact ticks.steady
  | broken _ _ _ fails => exact fails.steady
  | crashed _ crashes => exact crashes.steady

theorem Closes.steady {reply : Reply} (closes : Closes s reply u) : u.steady = s.steady := by
  cases closes with
  | shut | closed | broken => rfl
  | reported _ retires => exact retires.steady
  | unreported _ retires => exact retires.steady
  | crashed _ crashes => exact crashes.steady
  | released _ unlistens => exact unlistens.steady

theorem Passes.steady {reply : Reply} (passes : Passes s reply u) : u.steady = s.steady := by
  cases passes with
  | opens opens => exact opens.steady
  | polls polls => exact polls.steady
  | closes closes => exact closes.steady

theorem Moves.role {m : Move} (moves : Moves s m u) : u.role = s.role := by
  cases moves with
  | called _ called => exact called.role
  | begins _ begins => exact congrArg Steady.role begins.steady
  | passes _ passes => exact congrArg Steady.role passes.steady

theorem Moves.settings {m : Move} (moves : Moves s m u) : u.settings = s.settings := by
  cases moves with
  | called _ called => exact called.settings
  | begins _ begins => exact congrArg Steady.settings begins.steady
  | passes _ passes => exact congrArg Steady.settings passes.steady

theorem Moves.going {m : Move} (moves : Moves s m u) (going : s.stopping = false)
    (other : m ≠ .close) : u.stopping = false := by
  cases moves with
  | called _ called =>
    refine Bool.eq_false_iff.mpr fun stopped => ?_
    obtain earlier | close := called.stops stopped
    · simp [going] at earlier
    · exact other close
  | begins _ begins => exact (congrArg Steady.stopping begins.steady).trans going
  | passes _ passes => exact (congrArg Steady.stopping passes.steady).trans going

theorem Moves.stopped {m : Move} (moves : Moves s m u) (stopped : s.stopping = true) :
    u.stopping = true := by
  cases moves with
  | called _ called => exact called.stopping stopped
  | begins _ begins => exact (congrArg Steady.stopping begins.steady).trans stopped
  | passes _ passes => exact (congrArg Steady.stopping passes.steady).trans stopped

theorem Moves.started {m : Move} (moves : Moves s m u) (started : s.started = true) : u.started = true := by
  cases moves with
  | called _ called => exact called.started started
  | begins _ begins => exact (congrArg Steady.started begins.steady).trans started
  | passes _ passes => exact (congrArg Steady.started passes.steady).trans started

theorem Moves.exited {m : Move} (moves : Moves s m u) (exited : s.hasExited = true) :
    u.hasExited = true := by
  obtain ⟨escape, here⟩ := hasExited_iff.mp exited
  cases moves with
  | called _ called => exact hasExited_iff.mpr ⟨escape, called.point.trans here⟩
  | begins runnable => cases here.symm.trans (isRunnable_iff.mp runnable).2
  | passes heeded =>
    obtain ⟨request, asked, -⟩ := heeds_answer_iff.mp heeded
    simp [Session.request, here] at asked

end Handover.Session
