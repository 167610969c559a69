import Handover.Proofs.Session.Reports
import Mathlib.Data.List.Basic

/-! What the worker carries. A payload goes from the slot into the hand of the worker, from there to the
connection, and is acknowledged once the connection has been put back to its usual timeout. A hand that
a fault has stopped stays as it is. -/

set_option autoImplicit false

namespace Handover

def Event.token? : Event → Option Value
  | .sent token => some token
  | _ => none

theorem Event.token_of_ending {event : Event} {phase : Phase} (ending : event.ending = some phase) :
    event.token? = none := by
  cases event <;> first | rfl | cases ending

namespace Session

inductive Hand where
  | free
  /-- A payload that the connection is being prepared for. -/
  | taken (link : Link) (pending : Pending)
  | writing (link : Link) (pending : Pending)
  /-- A payload that was written without a fault. -/
  | checking (link : Link) (pending : Pending)
  /-- The worker transfers nothing any more. -/
  | ended

def Point.hand : Point → Hand
  | .timingWrite link pending => .taken link pending
  | .writing link pending => .writing link pending
  | .timingAfterWrite link pending => .checking link pending
  | .reportingEnd _ _ | .releasingLink _ _ | .shuttingUnused _ | .closingUnused _ | .exited _ => .ended
  | _ => .free

def handed (s : Session) : Option Bytes := s.request.bind Request.written?

def token (s : Session) : Option Value := s.told.bind Event.token?

/-- What an answer makes of the hand and the slot, with the bytes handed to the connection and the
token acknowledged then. -/
inductive Carries : Hand → Slot → Reply → Hand → Slot → Option Bytes → Option Value → Prop where
  | rests {slot : Slot} {reply : Reply} : Carries .free slot reply .free slot none none
  | takes {link : Link} {p : Pending} {reply : Reply} :
      Carries .free ⟨some p⟩ reply (.taken link p) .empty none none
  | hands {link : Link} {p : Pending} {slot : Slot} :
      Carries (.taken link p) slot .done (.writing link p) slot (some (Frame.encode p.payload)) none
  | wrote {link : Link} {p : Pending} {slot : Slot} :
      Carries (.writing link p) slot .done (.checking link p) slot none none
  | acknowledges {link : Link} {p : Pending} {slot : Slot} :
      Carries (.checking link p) slot .done .free slot none (some p.token)
  | stops {hand : Hand} {slot : Slot} {reply : Reply} :
      hand = .free ∨ hand = .ended ∨ (∃ f, reply = .fault f) →
      Carries hand slot reply .ended slot none none

namespace Carries

variable {slot left : Slot} {reply : Reply} {after : Hand} {handed : Option Bytes}
  {token : Option Value} {link : Link} {p : Pending}

theorem of_taken (carries : Carries (.taken link p) slot reply after left handed token) :
    after = .writing link p ∨ after = .ended := by
  cases carries with
  | hands => exact .inl rfl
  | stops => exact .inr rfl

theorem fault_of_taken (carries : Carries (.taken link p) slot reply .ended left handed token) :
    ∃ f, reply = .fault f := by
  cases carries with
  | stops stopped => simpa using stopped

theorem of_ended (carries : Carries .ended slot reply after left handed token) : after = .ended := by
  cases carries
  rfl

end Carries

variable {s u : Session}

/-- The worker transfers nothing any more; what is in the slot stays there. -/
structure Ends (s u : Session) : Prop where
  hand : u.point.hand = .ended
  slot : u.slot = s.slot
  handed : u.handed = none
  token : u.token = none

theorem Ends.carries (ends : Ends s u) {hand : Hand} {reply : Reply}
    (stopped : hand = .free ∨ hand = .ended ∨ ∃ f, reply = .fault f) :
    Carries hand s.slot reply u.point.hand u.slot u.handed u.token := by
  rw [ends.hand, ends.slot, ends.handed, ends.token]
  exact .stops stopped

theorem Unlistens.ends {escape : Option Fault} (unlistens : Unlistens s escape u) : Ends s u := by
  cases unlistens <;> exact ⟨rfl, rfl, rfl, rfl⟩

theorem Retires.ends {escape : Option Fault} (retires : Retires s escape u) : Ends s u := by
  cases retires with
  | link => exact ⟨rfl, rfl, rfl, rfl⟩
  | unlistens _ unlistens => exact unlistens.ends

theorem Finishes.ends {event : Event} {failed : Bool} (finishes : Finishes s event failed u) :
    Ends s u := by
  cases finishes with
  | ended _ retires => exact retires.ends
  | reports _ ending => exact ⟨rfl, rfl, rfl, Event.token_of_ending ending⟩

theorem Crashes.ends {f : Fault} (crashes : Crashes s f u) : Ends s u := by
  cases crashes with
  | loses _ finishes => exact finishes.ends
  | exits _ retires => exact retires.ends

theorem Stops.ends {event : Event} (stops : Stops s event u) : Ends s u := by
  cases stops with
  | interrupted _ retires => exact retires.ends
  | finishes _ finishes => exact finishes.ends

theorem Fails.ends {event : Event} {f : Fault} (fails : Fails s event f u) : Ends s u := by
  cases fails with
  | expected _ stops => exact stops.ends
  | crashes _ crashes => exact crashes.ends

theorem ReadsFirst.carries {link : Link} (reads : ReadsFirst s link u) {reply : Reply} :
    Carries .free s.slot reply u.point.hand u.slot u.handed u.token := by
  cases reads with
  | finished _ stops => exact stops.ends.carries (.inl rfl)
  | line | starved => exact .rests

theorem ReadsFrame.carries {link : Link} {frame : Frame.Decoder}
    (reads : ReadsFrame s link frame u) {reply : Reply} :
    Carries .free s.slot reply u.point.hand u.slot u.handed u.token := by
  cases reads <;> exact .rests

theorem Ticks.carries {link : Link} (ticks : Ticks s link u) {reply : Reply} :
    Carries .free s.slot reply u.point.hand u.slot u.handed u.token := by
  cases ticks with
  | stops _ retires => exact retires.ends.carries (.inl rfl)
  | @writes p _ content =>
    rw [show s.slot = ⟨some p⟩ from congrArg Slot.mk content]
    exact .takes
  | reads _ _ reads => exact reads.carries

theorem Secures.carries {setup : Setup} (secures : Secures s setup u) {reply : Reply} :
    Carries .free s.slot reply u.point.hand u.slot u.handed u.token := by
  cases secures <;> exact .rests

theorem Adopts.carries {socket : Socket} (adopts : Adopts s socket u) {reply : Reply} :
    Carries .free s.slot reply u.point.hand u.slot u.handed u.token := by
  cases adopts with
  | stops _ retires => exact retires.ends.carries (.inl rfl)
  | goesOn => exact .rests

theorem Accepts.carries (accepts : Accepts s u) {reply : Reply} :
    Carries .free s.slot reply u.point.hand u.slot u.handed u.token := by
  cases accepts with
  | stops _ retires => exact retires.ends.carries (.inl rfl)
  | waits => exact .rests

theorem Listens.carries (listens : Listens s u) {reply : Reply} :
    Carries .free s.slot reply u.point.hand u.slot u.handed u.token := by
  cases listens with
  | stops _ retires => exact retires.ends.carries (.inl rfl)
  | advertises | searches => exact .rests

theorem HandsOver.carries (hands : HandsOver s u) {reply : Reply} :
    Carries .free s.slot reply u.point.hand u.slot u.handed u.token := by
  cases hands with
  | closes => exact .rests
  | secures _ secures => exact secures.carries

theorem Begins.rests (begins : Begins s u) :
    Ends s u ∨ u.point.hand = .free ∧ u.slot = s.slot ∧ u.handed = none ∧ u.token = none := by
  cases begins with
  | stops _ retires => exact .inl retires.ends
  | crashes _ _ _ finishes => exact .inl finishes.ends
  | listens | dials => exact .inr ⟨rfl, rfl, rfl, rfl⟩

theorem Opens.hand_eq {reply : Reply} (opens : Opens s reply u) : s.point.hand = .free := by
  cases opens with
  | unheard listens =>
    cases here : s.point <;> simp only [here, Point.isListening, Bool.false_eq_true] at listens <;> rfl
  | _ => simp only [*, Point.hand]

theorem Opens.carries {reply : Reply} (opens : Opens s reply u) :
    Carries s.point.hand s.slot reply u.point.hand u.slot u.handed u.token := by
  rw [opens.hand_eq]
  cases opens with
  | bound | found | announces | shut | refused | named => exact .rests
  | listens _ listens => exact listens.carries
  | announced _ accepts => exact accepts.carries
  | waited _ _ accepts => exact accepts.carries
  | accepted _ hands => exact hands.carries
  | closed _ secures => exact secures.carries
  | dialled _ secures => exact secures.carries
  | secured _ adopts => exact adopts.carries
  | broken _ _ fails => exact fails.ends.carries (.inl rfl)
  | abandoned _ fails => exact fails.ends.carries (.inl rfl)
  | unclosed _ fails => exact fails.ends.carries (.inl rfl)
  | unnamed _ crashes => exact crashes.ends.carries (.inl rfl)
  | unheard _ _ _ fails => exact fails.ends.carries (.inl rfl)
  | unreached _ fails => exact fails.ends.carries (.inl rfl)

theorem Polls.carries {reply : Reply} (polls : Polls s reply u) :
    Carries s.point.hand s.slot reply u.point.hand u.slot u.handed u.token := by
  cases polls with
  | established here | silent here | timedAfterFrame here =>
    rw [here]
    exact .rests
  | timed here ticks | idled here _ ticks | reportedMessage here ticks =>
    rw [here]
    exact ticks.carries
  | timedWrite here =>
    rw [here]
    exact .hands
  | wrote here =>
    rw [here]
    exact .wrote
  | timedAfterWrite here =>
    rw [here]
    exact .acknowledges
  | reportedWrite here reads =>
    rw [here]
    exact reads.carries
  | received here reads =>
    rw [here]
    exact reads.carries
  | timedFrame here reads =>
    rw [here]
    exact reads.carries
  | receivedFrame here reads =>
    rw [here]
    exact reads.carries
  | broken _ _ _ fails => exact fails.ends.carries (.inr (.inr ⟨_, rfl⟩))
  | crashed _ crashes => exact crashes.ends.carries (.inr (.inr ⟨_, rfl⟩))

theorem Closes.carries {reply : Reply} (closes : Closes s reply u) :
    Carries s.point.hand s.slot reply u.point.hand u.slot u.handed u.token := by
  cases closes with
  | reported here retires => exact retires.ends.carries (.inr (.inl (by rw [here]; rfl)))
  | unreported here retires => exact retires.ends.carries (.inr (.inl (by rw [here]; rfl)))
  | crashed here crashes => exact crashes.ends.carries (.inr (.inl (by rw [here]; rfl)))
  | released here unlistens => exact unlistens.ends.carries (.inr (.inl (by rw [here]; rfl)))
  | shut here | closed here => exact .stops (.inr (.inl (by rw [here]; rfl)))
  | broken => exact .stops (.inr (.inr ⟨_, rfl⟩))

theorem Passes.carries {reply : Reply} (passes : Passes s reply u) :
    Carries s.point.hand s.slot reply u.point.hand u.slot u.handed u.token := by
  cases passes with
  | opens opens => exact opens.carries
  | polls polls => exact polls.carries
  | closes closes => exact closes.carries

/-! ## Moves -/

def handedBy (s : Session) (m : Move) : Option Bytes :=
  if s.heeds m then (s.step m).session.handed else none

def tokenBy (s : Session) (m : Move) : Option Value := (s.toldBy m).bind Event.token?

/-- What a move does to the hand and the slot: a caller may put a payload into the slot, the body of the
worker begins, or the worker goes on with an answer. -/
inductive Deals (s : Session) (m : Move) (u : Session) : Prop where
  | called : u.point = s.point → u.slot = ((s.deposit m).elim s.slot fun pending => ⟨some pending⟩) →
      s.answered m = none → s.handedBy m = none → s.tokenBy m = none → Deals s m u
  | begins : s.point.hand = .free → u.point.hand = .free ∨ u.point.hand = .ended → u.slot = s.slot →
      s.deposit m = none → s.answered m = none → s.handedBy m = none → s.tokenBy m = none →
      Deals s m u
  | answers {request : Request} {reply : Reply} : m = .answer reply → s.request = some request →
      s.answered m = some (request, reply) →
      Carries s.point.hand s.slot reply u.point.hand u.slot (s.handedBy m) (s.tokenBy m) →
      Deals s m u

theorem answered_of_unheeded {m : Move} (unheeded : s.heeds m = false) : s.answered m = none := by
  cases m with
  | answer reply =>
    simp only [heeds] at unheeded
    simp only [answered, Option.map_eq_none_iff, Option.filter_eq_none_iff]
    intro request asked
    simpa [asked] using unheeded
  | _ => rfl

theorem Standing.deals (standing : Standing s) (m : Move) : Deals s m (s.step m).session := by
  have moves := step_moves standing.safe m
  have handed : s.handedBy m = if s.heeds m then (s.step m).session.handed else none := rfl
  have token : s.tokenBy m = if s.heeds m then (s.step m).session.token else none := by
    rw [tokenBy, toldBy, Session.token]
    split <;> rfl
  generalize (s.step m).session = u at moves handed token
  cases moves with
  | called unheeded called =>
    refine .called called.point called.slot (answered_of_unheeded unheeded) ?_ ?_
    · simpa [unheeded] using handed
    · simpa [unheeded] using token
  | begins runnable begins =>
    have heeded : s.heeds .run = true := runnable
    -- The hand of a worker is free before its body begins.
    have ready : s.point.hand = .free := by rw [(isRunnable_iff.mp runnable).2]; rfl
    rw [heeded, if_pos rfl] at handed token
    obtain ends | ⟨free, slot, none, silent⟩ := begins.rests
    · exact .begins ready (.inr ends.hand) ends.slot rfl rfl (handed.trans ends.handed)
        (token.trans ends.token)
    · exact .begins ready (.inl free) slot rfl rfl (handed.trans none) (token.trans silent)
  | @passes reply _ heeded passes =>
    obtain ⟨request, asked, fits⟩ := heeds_answer_iff.mp heeded
    rw [heeded, if_pos rfl] at handed token
    refine .answers rfl asked (answered_eq_some.mpr ⟨rfl, asked, fits⟩) ?_
    rw [handed, token]
    exact passes.carries

/-- A worker that has no more work to do comes to none. -/
theorem Standing.ended_step (standing : Standing s) (ended : s.point.hand = .ended) (m : Move) :
    (s.step m).session.point.hand = .ended := by
  cases standing.deals m with
  | called point => rw [point, ended]
  | begins free => cases free.symm.trans ended
  | answers _ _ _ carries =>
    rw [ended] at carries
    exact carries.of_ended

theorem written_history (s : Session) (moves : List Move) :
    (s.history moves).written = (s.course moves).filterMap fun met => met.1.handedBy met.2 := by
  rw [Turn.written, calls_history, List.filterMap_flatMap, List.filterMap_eq_flatMap_toList]
  refine List.flatMap_congr fun met _ => ?_
  rw [calls_step, handedBy, handed]
  cases met.1.heeds met.2 with
  | false => rfl
  | true =>
    cases asked : (met.1.step met.2).session.request with
    | none => rfl
    | some request => cases bytes : request.written? <;> simp [bytes]

theorem tokens_history (s : Session) (moves : List Move) :
    (s.history moves).events.filterMap Event.token? =
      (s.course moves).filterMap fun met => met.1.tokenBy met.2 := by
  rw [events_history, List.filterMap_flatMap, List.filterMap_eq_flatMap_toList]
  refine List.flatMap_congr fun met _ => ?_
  rw [tokenBy]
  cases met.1.toldBy met.2 with
  | none => rfl
  | some event => cases token : event.token? <;> simp [token]

end Session

end Handover
