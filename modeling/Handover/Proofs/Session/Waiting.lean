import Handover.Proofs.Frame.Latest
import Handover.Proofs.Session.Timing

/-! What a timeout does. The lines that a worker has received are those that it has read and those in its
reader, so a timeout meets it between two frames or inside one whose latest line is the last one received.
Between frames the polling goes on; inside a frame the timeout ends the frame, or the polling. -/

set_option autoImplicit false

namespace Handover

theorem Event.received_of_ending {event : Event} {phase : Phase} (ending : event.ending = some phase) :
    event.received? = none := by
  cases event <;> first | rfl | cases ending

namespace Session

theorem Turn.events_append (s : Session) (t u : Turn) :
    Turn.events ⟨s, t.actions ++ u.actions⟩ = t.events ++ u.events := by
  simp [Turn.events, Turn.calls]

theorem Turn.events_move (t : Turn) (m : Move) :
    (t.move m).events = t.events ++ (t.session.step m).events := Turn.events_append _ t _

variable {s u : Session} {past : List (Request × Reply)} {link : Link} {request : Request}
  {reply : Reply} {frame : Frame.Decoder}

/-! ## What has been received -/

def Reply.bytes : Reply → Bytes
  | .chunk bytes => bytes
  | .done | .address _ | .port _ | .accepted _ _ | .connection _ | .fault _ => []

def received (past : List (Request × Reply)) : Bytes := past.flatMap fun exchange => exchange.2.bytes

@[simp] theorem received_concat (past : List (Request × Reply)) (exchange : Request × Reply) :
    received (past ++ [exchange]) = received past ++ exchange.2.bytes := by
  simp [received]

theorem Opens.bytes_eq (opens : Opens s reply u) : reply.bytes = [] := by
  cases opens with
  | shut _ answered => obtain rfl | ⟨f, rfl, -⟩ := answered <;> rfl
  | _ => rfl

/-- The worker has read these lines of what it has received, those of the open frame last; the rest is in
its reader. -/
structure Reads (frame : Option Frame.Decoder) (r : LineReader) (bytes : Bytes)
    (earlier own : List Bytes) : Prop where
  lines : r.ended = false → ∀ future,
    LineReader.lines (bytes ++ future) = earlier ++ own ++ LineReader.lines (r.buffer ++ future)
  frame : frame = Frame.opened own

namespace Reads

variable {bytes : Bytes} {earlier own given : List Bytes} {frame next : Option Frame.Decoder}
  {r rest : LineReader}

theorem start : Reads none .start [] [] [] := ⟨fun _ _ => rfl, rfl⟩

theorem yields (reads : Reads frame r bytes earlier own) (yields : r.Yields given rest)
    (fed : next = Frame.opened (own ++ given)) : Reads next rest bytes earlier (own ++ given) where
  lines live future := by
    have live : r.ended = false := yields.ended.symm.trans live
    rw [reads.lines live, yields.lines live]
    simp [List.append_assoc]
  frame := fed

/-- The lines of a frame that is complete are those of an earlier one from then on. -/
theorem complete (reads : Reads frame r bytes earlier own) :
    Reads none r bytes (earlier ++ own) [] where
  lines live future := by rw [reads.lines live, List.append_nil]
  frame := rfl

theorem receive (reads : Reads frame r bytes earlier own) (chunk : Bytes) :
    Reads frame (r.receive chunk) (bytes ++ chunk) earlier own where
  lines := by
    cases chunk with
    | nil => exact nofun
    | cons first others =>
      intro live future
      have same := reads.lines live (first :: others ++ future)
      simpa [LineReader.receive, List.append_assoc] using same
  frame := reads.frame

end Reads

/-- Nothing has been received before the connection is polled; from then on the lines received are those that
the worker has read and those in its reader. -/
structure Intake (s : Session) (bytes : Bytes) : Prop where
  early : s.point.isPrior = true → bytes = []
  reads : ∀ v, s.point.view = some v →
    s.point.Starves ∧ ∃ earlier own, Reads v.frame v.reader bytes earlier own

namespace Intake

variable {bytes : Bytes}

theorem of_ended (ended : u.point.hand = .ended) : Intake u bytes := by
  constructor
  · intro prior
    cases here : u.point <;> rw [here] at ended prior <;> first | cases ended; done | cases prior
  · intro v view
    cases here : u.point <;> rw [here] at ended view <;> first | cases ended; done | cases view

theorem of_prior (prior : u.point.isPrior = true) : Intake u [] where
  early := fun _ => rfl
  reads := by
    intro v view
    obtain ⟨rfl, starves⟩ := Point.view_of_prior prior view
    exact ⟨starves, [], [], .start⟩

theorem of_reads {v : View} {earlier own : List Bytes} (polled : u.point.isPrior = false)
    (view : u.point.view = some v) (starves : u.point.Starves)
    (reads : Reads v.frame v.reader bytes earlier own) : Intake u bytes where
  early := by simp [polled]
  reads := by
    intro other same
    obtain rfl := Option.some.inj (view.symm.trans same)
    exact ⟨starves, earlier, own, reads⟩

/-- A worker that asks for more has no whole line in its reader. -/
theorem starves (intake : Intake s bytes) : s.point.Starves := by
  cases here : s.point with
  | receiving link => exact here ▸ (intake.reads _ (by rw [here]; rfl)).1
  | receivingFrame link frame => exact here ▸ (intake.reads _ (by rw [here]; rfl)).1
  | _ => trivial

end Intake

section Polling

variable {bytes : Bytes} {earlier own : List Bytes}

theorem ReadsFirst.intake (first : ReadsFirst s link u)
    (reads : Reads none link.reader bytes earlier own) : Intake u bytes := by
  cases first with
  | line given => exact .of_reads rfl rfl trivial (reads.complete.yields (.next given) rfl)
  | finished _ stops => exact .of_ended stops.ends.hand
  | starved starved => exact .of_reads rfl rfl starved reads

theorem ReadsFrame.intake {frame : Frame.Decoder} (further : ReadsFrame s link frame u)
    (reads : Reads (some frame) link.reader bytes earlier own) : Intake u bytes := by
  cases further with
  | message reached =>
    obtain ⟨given, yields⟩ := LineReader.yields_of_message reached
    exact .of_reads rfl rfl trivial (reads.yields yields rfl).complete
  | starved reached =>
    obtain ⟨given, yields, rfl, starved⟩ := LineReader.yields_of_starved reached
    have fed := Frame.opened_append reads.frame.symm given
    exact .of_reads rfl rfl starved (reads.yields yields fed.symm)

theorem Ticks.intake (ticks : Ticks s link u) (reads : Reads none link.reader bytes earlier own) :
    Intake u bytes := by
  cases ticks with
  | stops _ retires => exact .of_ended retires.ends.hand
  | writes => exact .of_reads rfl rfl trivial reads
  | reads _ _ first => exact first.intake reads

theorem Polls.intake (polls : Polls s reply u) (intake : Intake s bytes) : Intake u (bytes ++ reply.bytes) := by
  have reads := intake.reads
  cases polls with
  | established here =>
    rw [intake.early (by rw [here]; rfl)]
    exact .of_reads rfl rfl trivial .start
  | timedWrite here | wrote here | timedAfterWrite here | timedAfterFrame here =>
    rw [here] at reads
    obtain ⟨-, earlier, own, reads⟩ := reads _ rfl
    rw [Reply.bytes, List.append_nil]
    exact .of_reads rfl rfl trivial reads
  | silent here =>
    rw [here] at reads
    obtain ⟨-, earlier, own, reads⟩ := reads _ rfl
    rw [Reply.bytes, List.append_nil]
    exact .of_reads rfl rfl trivial reads.complete
  | timed here goes | idled here _ goes | reportedMessage here goes | reportedWrite here goes
  | timedFrame here goes =>
    rw [here] at reads
    obtain ⟨-, earlier, own, reads⟩ := reads _ rfl
    rw [Reply.bytes, List.append_nil]
    exact goes.intake reads
  | received here goes | receivedFrame here goes =>
    rw [here] at reads
    obtain ⟨-, earlier, own, reads⟩ := reads _ rfl
    exact goes.intake (reads.receive _)
  | broken _ _ _ fails => exact .of_ended fails.ends.hand
  | crashed _ crashes => exact .of_ended crashes.ends.hand

end Polling

/-! ## Along a history -/

structure Tuned (s : Session) (past : List (Request × Reply)) : Prop where
  clocked : Clocked s past
  intake : Intake s (received past)

namespace Tuned

theorem of_ended (ended : u.point.hand = .ended) : Tuned u past :=
  ⟨.of_ended ended, .of_ended ended⟩

theorem of_prior (prior : u.point.isPrior = true) (silent : received past = []) : Tuned u past :=
  ⟨.of_unpolled (Point.polled_of_prior prior), silent ▸ .of_prior prior⟩

theorem passes (tuned : Tuned s past) (asked : s.request = some request) (passes : Passes s reply u) :
    Tuned u (past ++ [(request, reply)]) := by
  have ended (gone : s.point.hand = .ended) : Tuned u (past ++ [(request, reply)]) := by
    have carries := passes.carries
    rw [gone] at carries
    exact .of_ended carries.of_ended
  cases passes with
  | opens opens =>
    obtain prior | gone := opens.prior
    · have before := opens.prior_before
      refine .of_prior prior ?_
      rw [received_concat, tuned.intake.early before, opens.bytes_eq]
      rfl
    · exact .of_ended gone
  | polls polls =>
    refine ⟨polls.clocked asked tuned.clocked, ?_⟩
    rw [received_concat]
    exact polls.intake tuned.intake
  | closes closes => exact ended closes.hand_eq

/-- Callers leave the worker where it waits, and they leave its settings alone. -/
theorem called {m : Move} (tuned : Tuned s past) (called : Called s m u) : Tuned u past where
  clocked := by
    intro link polled
    rw [called.point] at polled ⊢
    rw [called.settings]
    exact tuned.clocked link polled
  intake := by
    constructor
    · rw [called.point]
      exact tuned.intake.early
    · rw [called.point]
      exact tuned.intake.reads

theorem step (tuned : Tuned s past) (standing : Standing s) (m : Move) :
    Tuned (s.step m).session (past ++ (s.answered m).toList) := by
  have moves := step_moves standing.safe m
  generalize (s.step m).session = u at moves
  cases moves with
  | called unheeded called =>
    rw [answered_of_unheeded unheeded, Option.toList_none, List.append_nil]
    exact tuned.called called
  | begins runnable begins =>
    have ready := (isRunnable_iff.mp runnable).2
    have silent : s.answered .run = none := rfl
    rw [silent, Option.toList_none, List.append_nil]
    obtain prior | gone := begins.prior
    · exact .of_prior prior (tuned.intake.early (by rw [ready]; rfl))
    · exact .of_ended gone
  | passes heeded passes =>
    obtain ⟨request, asked, fits⟩ := heeds_answer_iff.mp heeded
    rw [answered_eq_some.mpr ⟨rfl, asked, fits⟩]
    exact tuned.passes asked passes

end Tuned

theorem Plan.tuned (plan : Plan) (moves : List Move) :
    Tuned (plan.session.history moves).session (plan.session.transcript moves) := by
  induction moves using List.reverseRecOn with
  | nil => exact .of_prior rfl rfl
  | append_singleton moves last ih =>
    rw [history_concat, transcript_concat]
    exact ih.step (plan.standing.history moves) last

theorem Plan.settings_history (plan : Plan) (moves : List Move) :
    (plan.session.history moves).session.settings = plan.settings := by
  have both := history_induction (s := plan.session)
    (fun s _ => Standing s ∧ s.settings = plan.settings) ⟨plan.standing, rfl⟩
    (fun _ _ move ⟨standing, same⟩ =>
      ⟨standing.step move, (step_moves standing.safe move).settings.trans same⟩) moves
  exact both.2

/-! ## After the polling -/

theorem Unlistens.mute {escape : Option Fault} (unlistens : Unlistens s escape u) : u.message = none := by
  cases unlistens <;> rfl

theorem Retires.mute {escape : Option Fault} (retires : Retires s escape u) : u.message = none := by
  cases retires with
  | link => rfl
  | unlistens _ unlistens => exact unlistens.mute

theorem Finishes.mute {event : Event} {failed : Bool} (finishes : Finishes s event failed u) :
    u.message = none := by
  cases finishes with
  | ended _ retires => exact retires.mute
  | reports _ ending => exact Event.received_of_ending ending

theorem Crashes.mute {f : Fault} (crashes : Crashes s f u) : u.message = none := by
  cases crashes with
  | loses _ finishes => exact finishes.mute
  | exits _ retires => exact retires.mute

theorem Stops.mute {event : Event} (stops : Stops s event u) : u.message = none := by
  cases stops with
  | interrupted _ retires => exact retires.mute
  | finishes _ finishes => exact finishes.mute

theorem Closes.mute (closes : Closes s reply u) : u.message = none := by
  cases closes with
  | reported _ retires => exact retires.mute
  | unreported _ retires => exact retires.mute
  | crashed _ crashes => exact crashes.mute
  | released _ unlistens => exact unlistens.mute
  | shut | closed | broken => rfl

theorem messages_step {m : Move} (mute : s.heeds m = true → (s.step m).session.message = none) :
    (s.step m).events.filterMap Event.received? = [] := by
  rw [events_step, toldBy]
  cases heeded : s.heeds m with
  | false => rfl
  | true =>
    have mute := mute heeded
    rw [if_pos rfl]
    rw [message] at mute
    cases told : (s.step m).session.told with
    | none => rfl
    | some event =>
      rw [told] at mute
      have none : event.received? = none := mute
      simp [none]

/-- A worker that has ended its polling reports no message any more. -/
theorem Standing.mute_step (standing : Standing s) (ended : s.point.hand = .ended) (m : Move) :
    (s.step m).session.point.hand = .ended ∧ (s.heeds m = true → (s.step m).session.message = none) := by
  have moves := step_moves standing.safe m
  generalize (s.step m).session = u at moves
  cases moves with
  | called unheeded called =>
    rw [unheeded, called.point]
    exact ⟨ended, nofun⟩
  | begins runnable =>
    rw [(isRunnable_iff.mp runnable).2] at ended
    cases ended
  | passes _ passes =>
    have carries := passes.carries
    rw [ended] at carries
    exact ⟨carries.of_ended, fun _ => (passes.closes_of_ended ended).mute⟩

theorem Standing.mute_history (standing : Standing s) (ended : s.point.hand = .ended)
    (moves : List Move) : (s.history moves).session.point.hand = .ended ∧
      (s.history moves).events.filterMap Event.received? = [] := by
  induction moves using List.reverseRecOn with
  | nil => exact ⟨ended, rfl⟩
  | append_singleton moves last ih =>
    obtain ⟨ended, silent⟩ := ih
    obtain ⟨still, mute⟩ := (standing.history moves).mute_step ended last
    rw [history_concat]
    exact ⟨still, by rw [Turn.events_move, List.filterMap_append, silent, messages_step mute]; rfl⟩

/-! ## Timeouts -/

theorem point_of_send {socket : Socket} {bytes : Bytes} (asked : s.request = some (.send socket bytes)) :
    ∃ link pending, s.point = .writing link pending ∧ link.socket = socket := by
  unfold Session.request at asked
  cases here : s.point <;> simp only [here, reduceCtorEq, Option.some.injEq, Request.send.injEq] at asked
  case writing link pending => exact ⟨link, pending, rfl, asked.1⟩

/-- Where a worker waits that asks for more bytes, what it has read of the lines received, and the timeout
that its connection has. -/
inductive Receiving (s : Session) (past : List (Request × Reply)) (socket : Socket) : Prop where
  /-- It waits for the first line of a frame, of which it may have a part. -/
  | first {link : Link} : s.point = .receiving link → link.socket = socket →
      newline ∉ link.reader.buffer → timeoutOf socket past = some s.settings.readTimeout →
      Receiving s past socket
  /-- It waits for another line of a frame. -/
  | later {link : Link} {frame : Frame.Decoder} {earlier own : List Bytes} :
      s.point = .receivingFrame link frame → link.socket = socket → newline ∉ link.reader.buffer →
      LineReader.lines (received past) = earlier ++ own → own ≠ [] → Frame.opened own = some frame →
      timeoutOf socket past = some s.settings.frameTimeout → Receiving s past socket

namespace Tuned

theorem timeout_of_send (tuned : Tuned s past) {socket : Socket} {bytes : Bytes}
    (asked : s.request = some (.send socket bytes)) :
    timeoutOf socket past = some s.settings.frameTimeout := by
  obtain ⟨link, pending, here, rfl⟩ := point_of_send asked
  have timeout := tuned.clocked link (by rw [here]; rfl)
  rwa [here] at timeout

theorem lines_of_frame (tuned : Tuned s past) {frame : Frame.Decoder}
    (here : s.point = .receivingFrame link frame) :
    newline ∉ link.reader.buffer ∧ ∃ earlier own,
      LineReader.lines (received past) = earlier ++ own ∧ Frame.opened own = some frame := by
  obtain ⟨starves, earlier, own, reads⟩ := tuned.intake.reads _ (by rw [here]; rfl)
  rw [here] at starves
  have piece := LineReader.notMem_of_starved starves
  refine ⟨piece, earlier, own, ?_, reads.frame.symm⟩
  have lines := reads.lines (LineReader.not_ended_of_starved starves) []
  rwa [List.append_nil, List.append_nil, LineReader.lines_of_piece piece, List.append_nil] at lines

theorem receiving (tuned : Tuned s past) {socket : Socket} {limit : Nat}
    (asked : s.request = some (.receive socket limit)) : Receiving s past socket := by
  obtain ⟨-, ⟨link, here⟩ | ⟨link, frame, here⟩⟩ := point_of_receive asked
  · have timeout := tuned.clocked link (by rw [here]; rfl)
    obtain ⟨starves, -⟩ := tuned.intake.reads _ (by rw [here]; rfl)
    simp only [Session.request, here, Option.some.injEq, Request.receive.injEq] at asked
    rw [here] at timeout starves
    rw [asked.1] at timeout
    exact .first here asked.1 (LineReader.notMem_of_starved starves) timeout
  · have timeout := tuned.clocked link (by rw [here]; rfl)
    obtain ⟨piece, earlier, own, lines, open_⟩ := tuned.lines_of_frame here
    simp only [Session.request, here, Option.some.injEq, Request.receive.injEq] at asked
    rw [here] at timeout
    rw [asked.1] at timeout
    refine .later here asked.1 piece lines ?_ open_ timeout
    rintro rfl
    cases open_

end Tuned

/-- After a timeout between two frames the same link is read on, or a payload is written first. -/
theorem Tuned.idles (tuned : Tuned s past) (here : s.point = .receiving link) {f : Fault}
    (late : f.isTimeout = true) :
    if s.stopping then (s.step (.answer (.fault f))).session.point.hand = .ended
    else (s.step (.answer (.fault f))).session.point = .receiving link ∨
      ∃ pending, (s.step (.answer (.fault f))).session.point = .timingWrite link pending := by
  obtain ⟨starves, -⟩ := tuned.intake.reads _ (by rw [here]; rfl)
  rw [here] at starves
  have shape : s.step (.answer (.fault f)) = (Turn.of s).tick link := by
    simp [Session.step, resume, fail, here, late]
  rw [shape]
  have ticks : Ticks s link ((Turn.of s).tick link).session := (Turn.of s).tick_passage link
  generalize ((Turn.of s).tick link).session = u at ticks ⊢
  cases ticks with
  | stops stopped retires =>
    rw [if_pos stopped]
    exact retires.ends.hand
  | writes going =>
    rw [if_neg (by simp [going])]
    exact .inr ⟨_, rfl⟩
  | reads going _ first =>
    rw [if_neg (by simp [going])]
    cases first with
    | starved => exact .inl rfl
    | line given | finished given => cases starves.symm.trans given

/-- A frame whose latest line is blank is complete once the peer falls silent. -/
theorem calls_of_silence (here : s.point = .receivingFrame link frame) {f : Fault}
    (late : f.isTimeout = true) (ends : frame.endsInSilence = true) :
    (s.history [.answer (.fault f), .answer .done]).calls =
      [.setTimeout link.socket s.settings.readTimeout, .emit (.received frame.message)] := by
  have first : s.step (.answer (.fault f)) =
      (Turn.of s).await (.timingAfterFrame link frame.message) := by
    simp [step, resume, fail, here, late, ends]
  rw [history_cons, first, history_cons]
  rfl

/-- A frame whose latest line is not blank is given up, and with it the connection. -/
theorem Standing.gives_up (standing : Standing s) (here : s.point = .receivingFrame link frame)
    {f : Fault} (late : f.isTimeout = true) (open_ : frame.endsInSilence = false) :
    let u := (s.step (.answer (.fault f))).session
    u.point.hand = .ended ∧ (s.stopping = false → u.phase = .lost) ∧
      ∀ later, (s.history (.answer (.fault f) :: later)).events.filterMap Event.received? = [] := by
  intro u
  have stops : Stops s .lost u := by
    have passage := (Turn.of s).failPolling_passage f
    have shape : s.step (.answer (.fault f)) = (Turn.of s).failPolling f := by
      simp [Session.step, resume, fail, here, open_]
    rw [← shape] at passage
    cases passage with
    | expected _ stops => exact stops
    | crashes other => simp [Fault.isSystem_of_isTimeout late] at other
  refine ⟨stops.ends.hand, fun going => ?_, fun later => ?_⟩
  · have up := standing.phase_eq here rfl
    cases stops with
    | interrupted stopped => simp [going] at stopped
    | finishes _ finishes =>
      have ending := finishes.phase_eq (by rw [up]; rfl)
      exact (Option.some.inj ending).symm
  · have silent := ((standing.step _).mute_history stops.ends.hand later).2
    rw [history_cons, Turn.events_append, List.filterMap_append, messages_step fun _ => stops.mute]
    exact silent

/-- The timeouts of a connection. In every history the connection has the frame timeout whenever a payload is
written and whenever another line of a frame is awaited, and the read timeout while the first line of a frame is
awaited, of which a part may be there. A timeout between two frames ends the polling only if a stop was asked
for. One inside a frame completes the frame if the latest line received is blank, and otherwise ends the
polling: no message is reported any more, and the connection is lost unless a stop was asked for. -/
theorem timeouts_of_polling (plan : Plan) (moves : List Move) :
    let s := (plan.session.history moves).session
    let past := plan.session.transcript moves
    s.settings = plan.settings ∧
      (∀ socket bytes, s.request = some (.send socket bytes) →
        timeoutOf socket past = some s.settings.frameTimeout) ∧
      (∀ socket limit, s.request = some (.receive socket limit) → Receiving s past socket) ∧
      (∀ link f, s.point = .receiving link → f.isTimeout = true →
        let u := (s.step (.answer (.fault f))).session
        if s.stopping then u.point.hand = .ended
        else u.point = .receiving link ∨ ∃ pending, u.point = .timingWrite link pending) ∧
      ∀ link frame f, s.point = .receivingFrame link frame → f.isTimeout = true →
        let u := (s.step (.answer (.fault f))).session
        ∃ latest, (LineReader.lines (received past)).getLast? = some latest ∧
          if latest = [] then
            (s.history [.answer (.fault f), .answer .done]).calls =
              [.setTimeout link.socket s.settings.readTimeout, .emit (.received frame.message)]
          else
            u.point.hand = .ended ∧ (s.stopping = false → u.phase = .lost) ∧
              ∀ later, (s.history (.answer (.fault f) :: later)).events.filterMap Event.received? = [] := by
  intro s past
  have standing : Standing s := plan.standing.history moves
  have tuned : Tuned s past := plan.tuned moves
  refine ⟨plan.settings_history moves, fun socket bytes => tuned.timeout_of_send,
    fun socket limit => tuned.receiving, fun link f here late => tuned.idles here late, ?_⟩
  intro link frame f here late u
  obtain ⟨-, earlier, own, lines, opened⟩ := tuned.lines_of_frame here
  obtain ⟨latest, last, ends⟩ := Frame.latest_of_opened opened
  refine ⟨latest, by simp [lines, last], ?_⟩
  split
  · next blank => exact calls_of_silence here late (ends.mpr blank)
  · next text =>
    exact standing.gives_up here late (Bool.eq_false_iff.mpr fun silent => text (ends.mp silent))

/-- A connector that hands the payload of its first tick to its connection. -/
def writingPlain : List Move :=
  [.start, .run, .answer .done, .answer (.connection .raw), .send ⟨[97], .text "mine"⟩,
    .answer (.address "10.0.0.9"), .answer .done, .answer .done, .answer .done]

/-- The payload is acknowledged, and a frame is awaited. -/
def awaitingPlain : List Move := writingPlain ++ [.answer .done, .answer .done, .answer .done]

def readingPlain : List Move := awaitingPlain ++ [.answer (.chunk [97, newline]), .answer .done]

theorem reading_plain : (Plan.plainConnector.session.history readingPlain).session.point =
    .receivingFrame ⟨.raw, .start⟩ ⟨[[97]], 0⟩ := by
  have here : (Plan.plainConnector.session.history
      (awaitingPlain ++ [.answer (.chunk [97, newline])])).session.point =
        .timingFrame ⟨.raw, .start⟩ [97] := rfl
  have starved : LineReader.gather (Frame.Decoder.start.take [97]) .start = .starved ⟨[[97]], 0⟩ .start := by
    rw [LineReader.gather]
    rfl
  have cut : readingPlain = (awaitingPlain ++ [.answer (.chunk [97, newline])]) ++ [.answer .done] := rfl
  rw [cut, history_concat]
  simp only [Turn.move, step, resume, proceed, here, Turn.readFrame, starved, Turn.session_await]

/-- The connection has the frame timeout for the payload, the read timeout until a line comes and the frame
timeout for the next one. A timeout before that line leaves the worker where it is, and one after it loses the
connection. -/
theorem timeouts_of_polling_exchange :
    let s (moves : List Move) := (Plan.plainConnector.session.history moves).session
    let timeout (moves : List Move) := timeoutOf .raw (Plan.plainConnector.session.transcript moves)
    let late : Move := .answer (.fault ⟨.timeout, "timed out"⟩)
    (s writingPlain).request = some (.send .raw [97, newline, newline]) ∧
      timeout writingPlain = some Settings.defaultFrameTimeout ∧
      (s awaitingPlain).point = .receiving ⟨.raw, .start⟩ ∧
      timeout awaitingPlain = some Settings.defaultReadTimeout ∧
      ((s awaitingPlain).step late).session.point = .receiving ⟨.raw, .start⟩ ∧
      (s readingPlain).point = .receivingFrame ⟨.raw, .start⟩ ⟨[[97]], 0⟩ ∧
      timeout readingPlain = some Settings.defaultFrameTimeout ∧
      ((s readingPlain).step late).session.phase = .lost := by
  intro s timeout late
  have writes : (Plan.plainConnector.session.history writingPlain).session.request =
      some (.send .raw [97, newline, newline]) := rfl
  have awaits : (Plan.plainConnector.session.history awaitingPlain).session.point =
      .receiving ⟨.raw, .start⟩ := rfl
  have reads := reading_plain
  obtain ⟨-, sends, -⟩ := timeouts_of_polling Plan.plainConnector writingPlain
  obtain ⟨-, -, first, idles, -⟩ := timeouts_of_polling Plan.plainConnector awaitingPlain
  obtain ⟨usual, -, later, -, ends⟩ := timeouts_of_polling Plan.plainConnector readingPlain
  refine ⟨writes, sends _ _ writes, awaits, ?_, ?_, reads, ?_, ?_⟩
  · cases first .raw LineReader.chunkLimit rfl with
    | first _ _ _ timed => exact timed
    | later here => cases awaits.symm.trans here
  · obtain same | ⟨pending, other⟩ := idles _ ⟨.timeout, "timed out"⟩ awaits rfl
    · exact same
    · cases other
  · cases later .raw LineReader.chunkLimit (by simp [request, reads]) with
    | first here => cases reads.symm.trans here
    | later _ _ _ _ _ _ timed =>
      rw [usual] at timed
      exact timed
  · obtain ⟨latest, last, ends⟩ := ends _ _ ⟨.timeout, "timed out"⟩ reads rfl
    -- The one line received is not blank.
    have lines : LineReader.lines (received (Plan.plainConnector.session.transcript readingPlain)) = [[97]] := by
      rw [show received (Plan.plainConnector.session.transcript readingPlain) = [97] ++ newline :: [] from rfl,
        LineReader.lines_append_line (by decide), LineReader.lines_of_piece (by simp)]
      rfl
    obtain rfl : [97] = latest := by simpa [lines] using last
    rw [if_neg (by simp)] at ends
    exact ends.2.1 (going_history (by simp [readingPlain, awaitingPlain, writingPlain]))

end Session

end Handover
