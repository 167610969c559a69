import Handover.Proofs.Session.Failing

/-! The timeout of a connection. It is changed before a payload is written and before the rest of a frame is
read, and put back after that; so the point where the worker waits tells which timeout the connection has. -/

set_option autoImplicit false

namespace Handover.Session

/-! ## The timeouts that were set -/

def granted (socket : Socket) : Request × Reply → Option Timeout
  | (.setTimeout other timeout, .done) => if other = socket then some timeout else none
  | _ => none

/-- The timeout that a socket has: the last one that it was given. -/
def timeoutOf (socket : Socket) (past : List (Request × Reply)) : Option Timeout :=
  (past.filterMap (granted socket)).getLast?

theorem timeoutOf_concat (socket : Socket) (past : List (Request × Reply))
    (exchange : Request × Reply) : timeoutOf socket (past ++ [exchange]) =
      (granted socket exchange).or (timeoutOf socket past) := by
  cases now : granted socket exchange <;> simp [timeoutOf, now]

variable {s u : Session} {past : List (Request × Reply)} {link : Link} {request : Request}
  {reply : Reply}

/-! ## The timeout at a point -/

def Point.timeout (settings : Settings) : Point → Timeout
  | .writing _ _ | .timingAfterWrite _ _ | .receivingFrame _ _ | .timingAfterFrame _ _ =>
      settings.frameTimeout
  | _ => settings.readTimeout

def Clocked (s : Session) (past : List (Request × Reply)) : Prop :=
  ∀ link, s.point.polled = some link → timeoutOf link.socket past = some (s.point.timeout s.settings)

theorem Clocked.of_unpolled (free : s.point.polled = none) : Clocked s past := by
  intro link polled
  simp [free] at polled

theorem Point.polled_of_ended {point : Point} (ended : point.hand = .ended) : point.polled = none := by
  cases point <;> first | rfl | cases ended

theorem Clocked.of_ended (ended : u.point.hand = .ended) : Clocked u past :=
  .of_unpolled (Point.polled_of_ended ended)

theorem ReadsFirst.clocked (reads : ReadsFirst s link u)
    (usual : timeoutOf link.socket past = some s.settings.readTimeout) : Clocked u past := by
  cases reads with
  | finished _ stops => exact .of_ended stops.ends.hand
  | line | starved =>
    rintro polled ⟨⟩
    exact usual

theorem ReadsFrame.clocked {frame : Frame.Decoder} (reads : ReadsFrame s link frame u)
    (pressing : timeoutOf link.socket past = some s.settings.frameTimeout) : Clocked u past := by
  cases reads <;>
  · rintro polled ⟨⟩
    exact pressing

theorem Ticks.clocked (ticks : Ticks s link u)
    (usual : timeoutOf link.socket past = some s.settings.readTimeout) : Clocked u past := by
  cases ticks with
  | stops _ retires => exact .of_ended retires.ends.hand
  | writes =>
    rintro polled ⟨⟩
    exact usual
  | reads _ _ reads => exact reads.clocked usual

theorem timeoutOf_set (socket : Socket) (timeout : Timeout) :
    timeoutOf socket (past ++ [(.setTimeout socket timeout, .done)]) = some timeout := by
  simp [timeoutOf_concat, granted]

theorem timeoutOf_other {socket : Socket} {exchange : Request × Reply}
    (other : granted socket exchange = none) :
    timeoutOf socket (past ++ [exchange]) = timeoutOf socket past := by
  simp [timeoutOf_concat, other]

theorem Polls.clocked (polls : Polls s reply u) (asked : s.request = some request)
    (clocked : Clocked s past) : Clocked u (past ++ [(request, reply)]) := by
  -- A request that sets no timeout leaves the one of the point before.
  have kept (link : Link) (polled : s.point.polled = some link)
      (other : granted link.socket (request, reply) = none) :
      timeoutOf link.socket (past ++ [(request, reply)]) = some (s.point.timeout s.settings) := by
    rw [timeoutOf_other other, clocked link polled]
  unfold Session.request at asked
  cases polls with
  | established => exact .of_unpolled rfl
  | timed here ticks =>
    rw [here] at asked
    cases asked
    exact ticks.clocked (timeoutOf_set _ _)
  | timedWrite here | timedAfterWrite here | timedAfterFrame here =>
    rw [here] at asked
    cases asked
    rintro polled ⟨⟩
    exact timeoutOf_set _ _
  | timedFrame here reads =>
    rw [here] at asked
    cases asked
    exact reads.clocked (timeoutOf_set _ _)
  | wrote here | silent here =>
    rw [here] at asked kept
    cases asked
    rintro polled ⟨⟩
    exact kept _ rfl rfl
  | reportedWrite here reads =>
    rw [here] at asked kept
    cases asked
    exact reads.clocked (kept _ rfl rfl)
  | received here reads | receivedFrame here reads =>
    rw [here] at asked kept
    cases asked
    have before := kept _ rfl rfl
    exact reads.clocked before
  | idled here _ ticks | reportedMessage here ticks =>
    rw [here] at asked kept
    cases asked
    exact ticks.clocked (kept _ rfl rfl)
  | broken _ _ _ fails => exact .of_ended fails.ends.hand
  | crashed _ crashes => exact .of_ended crashes.ends.hand

/-! ## Before the connection is polled -/

def Point.isPrior : Point → Bool
  | .ready | .reportingPeer _ _ => true
  | point => point.isOpening

theorem Secures.prior {setup : Setup} (secures : Secures s setup u) : u.point.isPrior = true := by
  cases secures <;> rfl

theorem Adopts.prior {socket : Socket} (adopts : Adopts s socket u) :
    u.point.isPrior = true ∨ u.point.hand = .ended := by
  cases adopts with
  | stops _ retires => exact .inr retires.ends.hand
  | goesOn => exact .inl rfl

theorem Accepts.prior (accepts : Accepts s u) : u.point.isPrior = true ∨ u.point.hand = .ended := by
  cases accepts with
  | stops _ retires => exact .inr retires.ends.hand
  | waits => exact .inl rfl

theorem Listens.prior (listens : Listens s u) : u.point.isPrior = true ∨ u.point.hand = .ended := by
  cases listens with
  | stops _ retires => exact .inr retires.ends.hand
  | advertises | searches => exact .inl rfl

theorem HandsOver.prior (hands : HandsOver s u) : u.point.isPrior = true := by
  cases hands with
  | closes => rfl
  | secures _ secures => exact secures.prior

theorem Begins.prior (begins : Begins s u) : u.point.isPrior = true ∨ u.point.hand = .ended := by
  cases begins with
  | stops _ retires => exact .inr retires.ends.hand
  | crashes _ _ _ finishes => exact .inr finishes.ends.hand
  | listens | dials => exact .inl rfl

theorem Opens.prior (opens : Opens s reply u) : u.point.isPrior = true ∨ u.point.hand = .ended := by
  cases opens with
  | bound | found | announces | shut | refused | named => exact .inl rfl
  | listens _ listens => exact listens.prior
  | announced _ accepts => exact accepts.prior
  | waited _ _ accepts => exact accepts.prior
  | accepted _ hands => exact .inl hands.prior
  | closed _ secures => exact .inl secures.prior
  | dialled _ secures => exact .inl secures.prior
  | secured _ adopts => exact adopts.prior
  | broken _ _ fails => exact .inr fails.ends.hand
  | abandoned _ fails => exact .inr fails.ends.hand
  | unclosed _ fails => exact .inr fails.ends.hand
  | unnamed _ crashes => exact .inr crashes.ends.hand
  | unheard _ _ _ fails => exact .inr fails.ends.hand
  | unreached _ fails => exact .inr fails.ends.hand

theorem Opens.prior_before (opens : Opens s reply u) : s.point.isPrior = true := by
  cases opens with
  | unheard listens =>
    cases here : s.point <;> simp only [here, Point.isListening, Bool.false_eq_true] at listens <;> rfl
  | _ => simp only [*, Point.isPrior, Point.isOpening, Point.isListening]

theorem Point.polled_of_prior {point : Point} (prior : point.isPrior = true) : point.polled = none := by
  cases point <;> first | rfl | cases prior

theorem Point.view_of_prior {point : Point} {v : View} (prior : point.isPrior = true)
    (view : point.view = some v) : v = ⟨none, .start, none⟩ ∧ point.Starves := by
  cases point <;> cases view <;> first | exact ⟨rfl, trivial⟩ | cases prior

end Handover.Session
