import Handover.Proofs.Session.Pausing

/-! Receptions. Two conversations over one stream may meet it in other chunks, with other timeouts before
the first lines of its frames and with other payloads to write between; their rounds do not correspond to
each other. Still both report the same messages and end with the loss of the connection. -/

set_option autoImplicit false

namespace Handover

theorem calm_append {frame : Option Frame.Decoder} {earlier : Bytes} {as bs : List Arrival} :
    Calm frame earlier (as ++ bs) ↔
      Calm frame earlier as ∧ Calm frame (earlier ++ as.flatMap Arrival.bytes) bs := by
  induction as generalizing earlier with
  | nil => simp [Calm]
  | cons first others ih =>
    cases first with
    | chunk bytes => simp [Calm, ih, and_assoc, Arrival.bytes]
    | fault f => simp [Calm, ih, and_assoc, Arrival.bytes]

/-- As long as there is something, what comes after it does not matter. -/
theorem Inlet.receive_before {a b : Inlet} {tail : List Arrival} (held : a.held = b.held)
    (arrivals : a.arrivals = b.arrivals ++ tail) (some : ¬ (b.held = [] ∧ b.arrivals = []))
    (limit : Nat) :
    (a.receive limit).1 = (b.receive limit).1 ∧
      (a.receive limit).2.held = (b.receive limit).2.held ∧
      (a.receive limit).2.arrivals = (b.receive limit).2.arrivals ++ tail := by
  obtain ⟨here, as, m⟩ := a
  obtain ⟨there, bs, n⟩ := b
  obtain rfl : here = there := held
  obtain rfl : as = bs ++ tail := arrivals
  match here, bs with
  | [], [] => simp at some
  | [], .chunk bytes :: rest => exact ⟨rfl, rfl, rfl⟩
  | [], .fault f :: rest => exact ⟨rfl, rfl, rfl⟩
  | first :: rest, bs => exact ⟨rfl, rfl, rfl⟩

namespace Session

variable {s u : Session}

/-! ## Staying alive -/

theorem ReadsFirst.alive {link : Link} (reads : ReadsFirst s link u) (live : link.reader.ended = false) :
    u.point.hand ≠ .ended := by
  cases reads with
  | line => nofun
  | finished finished => simp [(LineReader.eq_of_finished finished).2] at live
  | starved => nofun

theorem ReadsFrame.alive {link : Link} {frame : Frame.Decoder} (reads : ReadsFrame s link frame u) :
    u.point.hand ≠ .ended := by
  cases reads <;> nofun

theorem Ticks.alive {link : Link} (ticks : Ticks s link u) (going : s.stopping = false)
    (live : link.reader.ended = false) : u.point.hand ≠ .ended := by
  cases ticks with
  | stops stopped => simp [going] at stopped
  | writes => nofun
  | reads _ _ reads => exact reads.alive live

/-- A fault that does no harm: a timeout while the first line of a frame is awaited. -/
def Reply.Harmless (s : Session) (reply : Reply) : Prop :=
  ∀ f, reply = .fault f → f.isTimeout = true ∧ ∃ link, s.point = .receiving link

theorem Polls.alive {v : View} {reply : Reply} (polls : Polls s reply u)
    (view : s.point.view = some v) (going : s.stopping = false) (harmless : reply.Harmless s)
    (live : (reply.read v.reader).ended = false) : u.point.hand ≠ .ended := by
  cases polls with
  | established | timedWrite | wrote | timedAfterWrite | timedAfterFrame | silent => nofun
  | timed here ticks | reportedMessage here ticks | idled here _ ticks =>
    rw [here] at view
    cases view
    exact ticks.alive going live
  | reportedWrite here reads | received here reads =>
    rw [here] at view
    cases view
    exact reads.alive live
  | timedFrame _ reads | receivedFrame _ reads => exact reads.alive
  | broken _ other =>
    obtain ⟨late, link, here⟩ := harmless _ rfl
    simp [other link here] at late
  | crashed here =>
    obtain ⟨-, link, there⟩ := harmless _ rfl
    simp [there] at here

/-- Without harm, and before the end of the stream is known, an answer leads the worker on. -/
theorem Passes.leads {v : View} {reply : Reply} (passes : Passes s reply u)
    (view : s.point.view = some v) (unfinished : ∀ d ∈ v.frame, d.isComplete = false)
    (going : s.stopping = false) (harmless : reply.Harmless s)
    (live : (reply.read v.reader).ended = false) :
    ∃ next out, u.point.view = some next ∧
      (reply.read v.reader).Continues v.frame out next.frame next.reader := by
  have between (f : Fault) (same : reply = .fault f) : v.frame = none := by
    obtain ⟨-, link, here⟩ := harmless f same
    rw [here] at view
    cases view
    rfl
  have alive : u.point.hand ≠ .ended := by
    obtain polls | ⟨⟨socket, here⟩, opens⟩ := passes.of_view view
    · exact polls.alive view going harmless live
    · cases opens with
      | unnamed =>
        obtain ⟨-, link, there⟩ := harmless _ rfl
        simp [here] at there
      | named => nofun
      | found there | shut there => simp [here] at there
      | _ => simp_all [Point.isListening]
  cases passes.trails view unfinished between with
  | polls view _ _ continues => exact ⟨_, _, view, continues⟩
  | ends ended => exact absurd ended alive

/-! ## Timeouts in a conversation and in a stream -/

/-- If the worker is about to meet a fault, it waits for the first line of a frame and the fault is a
timeout. -/
def Talk.Patient (t : Talk) : Prop := ∀ socket limit f,
  t.turn.session.request = some (.receive socket limit) → (t.inlet.receive limit).1 = .error f →
    f.isTimeout = true ∧ ∃ link, t.turn.session.point = .receiving link

theorem request_called (t : Talk) (sends : List Pending) :
    (t.called sends).session.request = t.turn.session.request := by
  obtain ⟨slot, session⟩ := session_called t sends
  rw [session]
  rfl

theorem starved_of_waits {v : View} (view : s.point.view = some v) (starves : s.point.Starves)
    (waits : (∃ link, s.point = .receiving link) ∨ ∃ link frame, s.point = .receivingFrame link frame) :
    v.reader.next = .starved := by
  obtain ⟨link, here⟩ | ⟨link, frame, here⟩ := waits <;>
  · rw [here] at view starves
    cases view
    exact starves

/-- Whatever comes after what there is, the network answers the next request in the same way. -/
theorem network_before {a b : Inlet} {tail : List Arrival} {request : Request} (peer : String)
    (held : a.held = b.held) (arrivals : a.arrivals = b.arrivals ++ tail)
    (some : ∀ socket limit, request = .receive socket limit → ¬ (b.held = [] ∧ b.arrivals = [])) :
    (network peer a request).1 = (network peer b request).1 ∧
      (network peer a request).2.held = (network peer b request).2.held ∧
      (network peer a request).2.arrivals = (network peer b request).2.arrivals ++ tail := by
  by_cases receives : ∃ socket limit, request = .receive socket limit
  · obtain ⟨socket, limit, rfl⟩ := receives
    obtain ⟨same, held, arrivals⟩ := Inlet.receive_before held arrivals (some socket limit rfl) limit
    rw [network_ofReceived, network_ofReceived]
    exact ⟨congrArg Reply.ofReceived same, held, arrivals⟩
  · obtain ⟨reply, plain, -⟩ := network_other peer fun socket limit same =>
      receives ⟨socket, limit, same⟩
    rw [plain a, plain b]
    exact ⟨rfl, held, arrivals⟩

/-- Before its inlet is used up, a worker learns of no end of the stream, and no byte is lost on the way. -/
theorem network_reads {v : View} {inlet : Inlet} {heard all : List Bytes} {request : Request}
    (peer : String) (view : s.point.view = some v) (starves : s.point.Starves)
    (hears : Hears v inlet heard all) (live : v.reader.ended = false)
    (asked : s.request = some request)
    (some : ∀ socket limit, request = .receive socket limit →
      ¬ (inlet.held = [] ∧ inlet.arrivals = [])) :
    (network peer inlet request).1.Harmless s ∧
      ((network peer inlet request).1.read v.reader).ended = false ∧
      ((network peer inlet request).1.read v.reader).buffer ++ (network peer inlet request).2.bytes =
        v.reader.buffer ++ inlet.bytes := by
  by_cases receives : ∃ socket limit, request = .receive socket limit
  · obtain ⟨socket, limit, rfl⟩ := receives
    obtain ⟨rfl, waits⟩ := point_of_receive asked
    obtain ⟨chunk, after, same, received⟩ | ⟨f, after, same, received⟩ :=
      network_receive peer hears.calm socket
    · rw [same]
      refine ⟨nofun, ?_⟩
      cases received with
      | @some _ left rest filled split =>
        have shape : v.reader.receive chunk = { v.reader with buffer := v.reader.buffer ++ chunk } := by
          simp [LineReader.receive, filled]
        rw [Reply.read, shape]
        refine ⟨live, ?_⟩
        obtain ⟨held, rfl⟩ | ⟨held, arrivals⟩ := split
        · simp [Inlet.bytes, held]
        · simp [Inlet.bytes, held, arrivals, Arrival.bytes]
      | ended held arrivals => exact absurd ⟨held, arrivals⟩ (some socket _ rfl)
    · have starved := starved_of_waits view starves waits
      obtain ⟨late, between, -⟩ := hears.idle starved received
      rw [same]
      refine ⟨?_, live, ?_⟩
      · rintro _ ⟨⟩
        refine ⟨late, ?_⟩
        obtain first | ⟨link, frame, here⟩ := waits
        · exact first
        · rw [here] at view
          cases view
          cases between
      · cases received with
        | fault held arrivals => simp [Inlet.bytes, held, arrivals, Arrival.bytes, Reply.read]
  · obtain ⟨reply, plain, blank, sound⟩ := network_other peer fun socket limit same =>
      receives ⟨socket, limit, same⟩
    rw [plain, blank]
    exact ⟨fun f same => absurd same (sound f), live, rfl⟩

/-- A conversation that goes as another one does as long as that one has something to receive, and then
meets a fault. It is known which frame the rest of the other's stream leaves open. -/
structure Shadows (f : Fault) (later : List Arrival) (left : Option Frame.Decoder) (t u : Talk) : Prop where
  turn : t.turn = u.turn
  held : t.inlet.held = u.inlet.held
  arrivals : t.inlet.arrivals = u.inlet.arrivals ++ .fault f :: later
  reads : ∃ v, u.turn.session.point.view = some v ∧ v.reader.ended = false ∧
    Frame.after v.frame (LineReader.lines (v.reader.buffer ++ u.inlet.bytes)) = left

namespace Shadows

variable {f : Fault} {later : List Arrival} {left : Option Frame.Decoder} {t u : Talk}
  {plan : Plan} {all : List Bytes} {bound : Nat}

theorem called (shadows : Shadows f later left t u) (sends : List Pending) :
    Shadows f later left ⟨t.called sends, t.inlet⟩ ⟨u.called sends, u.inlet⟩ := by
  obtain ⟨slot, session⟩ := session_called u sends
  refine ⟨by rw [Talk.called, shadows.turn, Talk.called], shadows.held, shadows.arrivals, ?_⟩
  rw [session]
  exact shadows.reads

theorem hears (shadows : Shadows f later left t u) (lives : Lives plan u all bound) :
    ∃ v, u.turn.session.point.view = some v ∧ v.reader.ended = false ∧
      Frame.after v.frame (LineReader.lines (v.reader.buffer ++ u.inlet.bytes)) = left ∧
      u.turn.session.point.Starves ∧ Hears v u.inlet u.heard all := by
  obtain ⟨v, view, live, reads⟩ := shadows.reads
  obtain ⟨w, same, starves, hears⟩ | ⟨ended, -⟩ := lives.state
  · obtain rfl := Option.some.inj (view.symm.trans same)
    exact ⟨v, view, live, reads, starves, hears⟩
  · cases here : u.turn.session.point <;> simp [here, Point.view, Point.hand] at view ended

theorem answer (shadows : Shadows f later left t u) (lives : Lives plan u all bound) {request : Request}
    (peer : String) (asked : u.turn.session.request = some request)
    (some : ∀ socket limit, request = .receive socket limit →
      ¬ (u.inlet.held = [] ∧ u.inlet.arrivals = [])) :
    Shadows f later left
      ⟨t.turn.move (.answer (network peer t.inlet request).1), (network peer t.inlet request).2⟩
      ⟨u.turn.move (.answer (network peer u.inlet request).1), (network peer u.inlet request).2⟩ := by
  obtain ⟨v, view, live, reads, starves, hears⟩ := shadows.hears lives
  obtain ⟨same, held, arrivals⟩ := network_before peer shadows.held shadows.arrivals some
  obtain ⟨harmless, live, kept⟩ := network_reads peer view starves hears live asked some
  have passes : Passes u.turn.session (network peer u.inlet request).1
      (u.turn.session.step (.answer (network peer u.inlet request).1)).session :=
    (resume_passage (heeds_answer_iff.mpr ⟨request, asked, admits_network peer _ request⟩)).1
  obtain ⟨next, out, view, continues⟩ :=
    passes.leads view hears.unfinished lives.going harmless live
  refine ⟨by rw [same, shadows.turn], held, arrivals, next, view, continues.ended.trans live, ?_⟩
  rw [← continues.after live, kept]
  exact reads

theorem round (shadows : Shadows f later left t u) (lives : Lives plan u all bound) (patient : t.Patient)
    (peer : String) (sends : List Pending) :
    Shadows f later left (t.round peer sends) (u.round peer sends) ∨ f.isTimeout = true ∧ left = none := by
  obtain ⟨v, view, live, reads, starves, hears⟩ := shadows.hears lives
  have called : t.called sends = u.called sends := (shadows.called sends).turn
  unfold Talk.round
  rw [called]
  split
  · next idle =>
    rw [request_called] at idle
    exact absurd idle (request_of_view view)
  · next request asked =>
    by_cases served : ∀ socket limit, request = .receive socket limit →
        ¬ (u.inlet.held = [] ∧ u.inlet.arrivals = [])
    · have shadows := (shadows.called sends).answer (lives.called sends) peer asked served
      rw [← called]
      rw [← called] at shadows
      exact .inl shadows
    · push Not at served
      obtain ⟨socket, limit, rfl, held, arrivals⟩ := served
      rw [request_called] at asked
      have met : (t.inlet.receive limit).1 = .error f := by
        have here := shadows.held.trans held
        have there := shadows.arrivals
        rw [arrivals, List.nil_append] at there
        simp only [Inlet.receive, here, there]
      obtain ⟨late, link, waits⟩ := patient socket limit f (by rw [shadows.turn]; exact asked) met
      rw [shadows.turn] at waits
      rw [waits] at view starves
      cases view
      -- What is left in the reader is no whole line, and no frame is open.
      have piece := LineReader.notMem_of_starved starves
      refine .inr ⟨late, ?_⟩
      simpa [Inlet.bytes, held, arrivals, LineReader.lines_of_piece piece, Frame.after] using reads.symm

end Shadows

section Patience

variable {plan : Plan} {setup : List Move} {socket : Socket} {arrivals : List Arrival} {peer : String}
  {sends : Nat → List Pending}

/-- Where a patient conversation meets its first fault after calm arrivals, that is a timeout between two
frames or in the first line of one. -/
theorem timeout_of_patient {earlier later : List Arrival} {f : Fault}
    (secured : (plan.session.history setup).session.point = .namingPeer socket)
    (unclosed : .close ∉ setup) (calm : Calm none [] earlier)
    (patient : ∀ n, (converse peer sends
      ⟨plan.session.history setup, .ofArrivals (earlier ++ .fault f :: later)⟩ n).Patient) :
    f.isTimeout = true ∧
      Frame.after none (LineReader.lines (earlier.flatMap Arrival.bytes)) = none := by
  obtain ⟨bound, lives⟩ := Lives.start secured unclosed calm
  have lives := lives.converse peer sends
  -- The conversation over the earlier arrivals alone is in step until it has used them up.
  have shadows (n : Nat) :
      Shadows f later (Frame.after none (LineReader.lines (earlier.flatMap Arrival.bytes)))
        (converse peer sends ⟨plan.session.history setup, .ofArrivals (earlier ++ .fault f :: later)⟩ n)
        (converse peer sends ⟨plan.session.history setup, .ofArrivals earlier⟩ n) ∨
      f.isTimeout = true ∧
        Frame.after none (LineReader.lines (earlier.flatMap Arrival.bytes)) = none := by
    induction n with
    | zero =>
      refine .inl ⟨rfl, rfl, rfl, ⟨none, .start, none⟩, ?_, rfl, rfl⟩
      show (plan.session.history setup).session.point.view = _
      rw [secured]
      rfl
    | succ n ih =>
      obtain shadows | met := ih
      · exact shadows.round (lives n) (patient n) peer (sends n)
      · exact .inr met
  obtain shadows | met := shadows bound
  · -- But in the end there is nothing that it could still read.
    have exited := (Nat.sub_self bound ▸ lives bound).ended.exited
    obtain ⟨v, view, -⟩ := shadows.reads
    exact absurd (request_of_hasExited exited) (request_of_view view)
  · exact met

theorem calm_of_patient (secured : (plan.session.history setup).session.point = .namingPeer socket)
    (unclosed : .close ∉ setup) (filled : ∀ bytes, .chunk bytes ∈ arrivals → bytes ≠ [])
    (patient : ∀ n, (converse peer sends
      ⟨plan.session.history setup, .ofArrivals arrivals⟩ n).Patient) : Calm none [] arrivals := by
  -- The calm arrivals are extended one by one.
  have calm (earlier later : List Arrival) (split : arrivals = earlier ++ later) :
      Calm none [] earlier := by
    induction earlier using List.reverseRecOn generalizing later with
    | nil => trivial
    | append_singleton earlier last ih =>
      rw [List.append_assoc, List.singleton_append] at split
      refine calm_append.mpr ⟨ih _ split, ?_⟩
      cases last with
      | chunk bytes => exact ⟨filled bytes (by simp [split]), trivial⟩
      | fault f =>
        obtain ⟨late, between⟩ := timeout_of_patient secured unclosed (ih _ split) (split ▸ patient)
        exact ⟨late, between, trivial⟩
  exact calm arrivals [] (List.append_nil arrivals).symm

theorem Lives.patient {t : Talk} {all : List Bytes} {bound : Nat} (lives : Lives plan t all bound) :
    t.Patient := by
  intro socket limit f asked met
  obtain ⟨rfl, waits⟩ := point_of_receive asked
  obtain ⟨v, view, starves, hears⟩ | ⟨ended, -⟩ := lives.state
  · have live := LineReader.not_ended_of_starved (starved_of_waits view starves waits)
    have some : ¬ (t.inlet.held = [] ∧ t.inlet.arrivals = []) := by
      rintro ⟨held, arrivals⟩
      simp [Inlet.receive, held, arrivals] at met
    obtain ⟨harmless, -⟩ := network_reads "" view starves hears live asked fun _ _ _ => some
    refine harmless f ?_
    rw [network_ofReceived, met]
    rfl
  · obtain ⟨link, here⟩ | ⟨link, frame, here⟩ := waits <;>
    · rw [here] at ended
      cases ended

/-- A worker meets timeouts while it waits for first lines, and no other fault, exactly if they are so placed
in the stream. -/
theorem patient_iff_calm (secured : (plan.session.history setup).session.point = .namingPeer socket)
    (unclosed : .close ∉ setup) (filled : ∀ bytes, .chunk bytes ∈ arrivals → bytes ≠ []) :
    (∀ n, (converse peer sends ⟨plan.session.history setup, .ofArrivals arrivals⟩ n).Patient) ↔
      Calm none [] arrivals := by
  constructor
  · exact calm_of_patient secured unclosed filled
  · intro calm n
    obtain ⟨bound, lives⟩ := Lives.start secured unclosed calm
    exact (lives.converse peer sends n).patient

end Patience

/-- A conversation from the moment when the connection has been secured. Nobody closes the session, nothing
but receiving fails, and that with timeouts only, while the first line of a frame is awaited. -/
structure Reception where
  plan : Plan
  setup : List Move
  socket : Socket
  peer : String
  sends : Nat → List Pending
  arrivals : List Arrival
  secured : (plan.session.history setup).session.point = .namingPeer socket
  unclosed : .close ∉ setup
  filled : ∀ bytes, .chunk bytes ∈ arrivals → bytes ≠ []
  patient : ∀ n, (converse peer sends ⟨plan.session.history setup, .ofArrivals arrivals⟩ n).Patient

namespace Reception

def stream (r : Reception) : Bytes := r.arrivals.flatMap Arrival.bytes

def talk (r : Reception) : Nat → Talk :=
  converse r.peer r.sends ⟨r.plan.session.history r.setup, .ofArrivals r.arrivals⟩

theorem ends (r : Reception) :
    ∃ n, Ended (r.talk n) (Frame.messages none (LineReader.allLines r.stream)) :=
  converse_ends r.secured r.unclosed (calm_of_patient r.secured r.unclosed r.filled r.patient) r.peer r.sends

/-- Receptions of one stream report the same messages, and then the loss of the connection. -/
theorem ends_alike (a b : Reception) (same : a.stream = b.stream) :
    ∃ messages, (∃ n, Ended (a.talk n) messages) ∧ ∃ m, Ended (b.talk m) messages :=
  ⟨_, a.ends, same ▸ b.ends⟩

def accepted : List Move :=
  [.start, .run, .answer .done, .answer .done, .answer (.address "10.0.0.2"), .answer (.port 1336),
    .answer .done, .answer (.accepted "10.0.0.3" 40000), .answer .done, .answer .done,
    .answer (.connection .secured)]

/-- A line and its end arrive one after the other, and payloads are written all the time. -/
def hesitant : Reception where
  plan := .plainConnector
  setup := dialled
  socket := .secured
  peer := "10.0.0.9"
  sends := fun _ => [⟨[99], .nothing⟩]
  arrivals := [.fault ⟨.timeout, "timed out"⟩, .chunk [97], .fault ⟨.timeout, "timed out"⟩,
    .chunk [10, 10], .chunk [10, 98, 13], .chunk [10]]
  secured := rfl
  unclosed := by simp [dialled]
  filled := by simp
  patient := by
    refine (patient_iff_calm rfl (by simp [dialled]) (by simp)).mpr ?_
    have between (piece : Bytes) (part : newline ∉ piece) :
        Frame.after none (LineReader.lines piece) = none := by
      rw [LineReader.lines_of_piece part]
      rfl
    simp [Calm, between [97] (by decide), between [] (by decide), Fault.isTimeout]

def fluent : Reception where
  plan := .listener ⟨List.replicate 16 1, rfl⟩ .default true none
  setup := accepted
  socket := .secured
  peer := "10.0.0.3"
  sends := fun _ => []
  arrivals := [.chunk [97, 10, 10, 10, 98, 13, 10]]
  secured := rfl
  unclosed := by simp [accepted]
  filled := by simp
  patient := (patient_iff_calm rfl (by simp [accepted]) (by simp)).mpr ⟨by simp, trivial⟩

theorem ends_alike_hesitant :
    hesitant.stream = fluent.stream ∧
      ∃ messages, (∃ n, Ended (hesitant.talk n) messages) ∧ ∃ m, Ended (fluent.talk m) messages :=
  ⟨rfl, ends_alike hesitant fluent rfl⟩

end Reception

end Session

end Handover
