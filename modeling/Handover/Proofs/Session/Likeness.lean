import Handover.Proofs.Session.Course
import Handover.Proofs.Session.Steady
import Handover.Session.Opening
import Mathlib.Data.List.Forall2

/-! Likeness of sessions. Two sessions whose secrets have one fingerprint, and that are the same otherwise,
stay so whatever happens to them: their workers and callers do the same, but that the bundles they announce
hold their secrets. -/

set_option autoImplicit false

namespace Handover

/-- Where an endpoint is, whatever its secret. -/
def Endpoint.place (endpoint : Endpoint) : String × Int := (endpoint.host, endpoint.port)

inductive Event.Alike (one other : Secret) : Event → Event → Prop where
  | same (event : Event) : Alike one other event event
  | bundle (host : String) (port : Int) (scheme : String) : Alike one other
      (.listening (Bundle.write ⟨host, port, one⟩ scheme))
      (.listening (Bundle.write ⟨host, port, other⟩ scheme))

theorem Event.Alike.kind {one other : Secret} {a b : Event} (alike : a.Alike one other b) :
    a.kind = b.kind := by
  cases alike <;> rfl

namespace Session

/-! ## What does not look at the secret -/

def recast (s : Session) (secret : Secret) (endpoint : Option Endpoint) (point : Point) : Session :=
  { s with secret := secret, endpoint := endpoint, point := point }

namespace Turn

def recast (t : Turn) (secret : Secret) (endpoint : Option Endpoint) (point : Point) : Turn :=
  ⟨t.session.recast secret endpoint point, t.actions⟩

def keyed (t : Turn) (secret : Secret) (endpoint : Option Endpoint) : Turn :=
  t.recast secret endpoint t.session.point

section Recast

variable (t : Turn) {k : Secret} {e : Option Endpoint} {p : Point}

@[simp] theorem of_recast (s : Session) : of (s.recast k e p) = (of s).recast k e p := rfl

@[simp] theorem role_recast : (t.recast k e p).session.role = t.session.role := rfl

@[simp] theorem settings_recast : (t.recast k e p).session.settings = t.session.settings := rfl

@[simp] theorem sink_recast : (t.recast k e p).session.sink = t.session.sink := rfl

@[simp] theorem phase_recast : (t.recast k e p).session.phase = t.session.phase := rfl

@[simp] theorem slot_recast : (t.recast k e p).session.slot = t.session.slot := rfl

@[simp] theorem stopping_recast : (t.recast k e p).session.stopping = t.session.stopping := rfl

@[simp] theorem listening_recast : (t.recast k e p).session.listening = t.session.listening := rfl

@[simp] theorem handshaking_recast : (t.recast k e p).session.handshaking = t.session.handshaking := rfl

@[simp] theorem held_recast : (t.recast k e p).session.held = t.session.held := rfl

@[simp] theorem note_recast (notice : Notice) :
    (t.recast k e p).note notice = (t.note notice).recast k e p := rfl

@[simp] theorem await_recast (point : Point) :
    (t.recast k e p).await point = (t.await point).keyed k e := rfl

@[simp] theorem awaitClosing_recast (closing : Closing) :
    (t.recast k e p).awaitClosing closing = (t.awaitClosing closing).recast k e p := rfl

@[simp] theorem enter_recast (phase : Phase) :
    (t.recast k e p).enter phase = (t.enter phase).recast k e p := rfl

@[simp] theorem enterIfActive_recast (phase : Phase) :
    (t.recast k e p).enterIfActive phase = (t.enterIfActive phase).recast k e p := by
  cases ended : t.session.phase.isTerminal <;> simp [enterIfActive, ended]

@[simp] theorem releaseThread_recast : (t.recast k e p).releaseThread = t.releaseThread.recast k e p := by
  cases owns : t.session.sink.ownsThread <;> simp only [releaseThread, sink_recast, owns] <;> rfl

@[simp] theorem detach_recast : (t.recast k e p).detach = t.detach.recast k e p := by
  rw [detach, releaseThread_recast]
  rfl

@[simp] theorem settle_recast (escape : Option Fault) :
    (t.recast k e p).settle escape = (t.settle escape).keyed k e := by
  cases stopped : t.session.stopping <;> simp [settle, stopped]

@[simp] theorem releaseListener_recast (escape : Option Fault) :
    (t.recast k e p).releaseListener escape = (t.releaseListener escape).keyed k e := by
  cases held : t.session.listening with
  | true =>
    simp only [releaseListener, listening_recast, held]
    rfl
  | false => simp [releaseListener, held]

@[simp] theorem cleanUp_recast (escape : Option Fault) :
    (t.recast k e p).cleanUp escape = (t.cleanUp escape).keyed k e := by
  cases held : t.session.held with
  | some socket =>
    simp only [cleanUp, held_recast, held]
    rfl
  | none => simp [cleanUp, held]

@[simp] theorem finish_recast (phase : Phase) (event : Event) (failed : Bool) :
    (t.recast k e p).finish phase event failed = (t.finish phase event failed).keyed k e := by
  cases ended : t.session.phase.isTerminal <;> simp [finish, ended]

@[simp] theorem crash_recast (f : Fault) : (t.recast k e p).crash f = (t.crash f).keyed k e := by
  cases failure : f.isFailure <;> simp [crash, failure]

@[simp] theorem failListening_recast (f : Fault) :
    (t.recast k e p).failListening f = (t.failListening f).keyed k e := by
  cases system : f.isSystem <;> cases stopped : t.session.stopping <;>
    simp [failListening, system, stopped]

@[simp] theorem failDialling_recast (host : String) (port : Int) (f : Fault) :
    (t.recast k e p).failDialling host port f = (t.failDialling host port f).keyed k e := by
  cases system : f.isSystem <;> cases stopped : t.session.stopping <;>
    simp [failDialling, system, stopped]

@[simp] theorem failSetup_recast (setup : Setup) (f : Fault) :
    (t.recast k e p).failSetup setup f = (t.failSetup setup f).keyed k e := by
  cases setup <;> simp [failSetup]

@[simp] theorem endPolling_recast : (t.recast k e p).endPolling = t.endPolling.keyed k e := by
  cases stopped : t.session.stopping <;> simp [endPolling, stopped]

@[simp] theorem failPolling_recast (f : Fault) :
    (t.recast k e p).failPolling f = (t.failPolling f).keyed k e := by
  cases system : f.isSystem <;> cases stopped : t.session.stopping <;>
    simp [failPolling, system, stopped]

@[simp] theorem readFirst_recast (link : Link) :
    (t.recast k e p).readFirst link = (t.readFirst link).keyed k e := by
  cases next : link.reader.next <;> simp [readFirst, next]

@[simp] theorem readFrame_recast (link : Link) (frame : Frame.Decoder) :
    (t.recast k e p).readFrame link frame = (t.readFrame link frame).keyed k e := by
  cases gathered : link.reader.gather frame <;> simp [readFrame, gathered]

@[simp] theorem tick_recast (link : Link) : (t.recast k e p).tick link = (t.tick link).keyed k e := by
  cases stopped : t.session.stopping with
  | true => simp [tick, stopped]
  | false =>
    cases taken : t.session.slot.take with
    | mk pending slot =>
      cases pending with
      | some pending =>
        simp only [tick, stopping_recast, slot_recast, stopped, taken]
        rfl
      | none =>
        simp only [tick, stopping_recast, slot_recast, stopped, taken]
        exact readFirst_recast (t.update fun s => { s with slot := slot }) link

@[simp] theorem beginHandshake_recast (setup : Setup) :
    (t.recast k e p).beginHandshake setup = (t.beginHandshake setup).keyed k e := by
  cases stopped : t.session.stopping <;> simp only [beginHandshake, stopping_recast, stopped] <;> rfl

@[simp] theorem establish_recast : (t.recast k e p).establish = t.establish.keyed k e := by
  simp [establish]

@[simp] theorem adopt_recast (socket : Socket) :
    (t.recast k e p).adopt socket = (t.adopt socket).keyed k e := by
  cases stopped : t.session.stopping with
  | true =>
    simp only [adopt, stopping_recast, stopped]
    exact cleanUp_recast (t.update fun s => { s with handshaking := false, held := some socket }) none
  | false =>
    simp only [adopt, stopping_recast, stopped]
    rfl

@[simp] theorem acceptNext_recast : (t.recast k e p).acceptNext = t.acceptNext.keyed k e := by
  cases stopped : t.session.stopping <;> simp [acceptNext, stopped]

@[simp] theorem handOver_recast : (t.recast k e p).handOver = t.handOver.keyed k e := by
  cases held : t.session.listening with
  | true =>
    simp only [handOver, listening_recast, held]
    rfl
  | false => simp [handOver, held]

@[simp] theorem listen_recast : (t.recast k e p).listen = t.listen.keyed k e := by
  cases stopped : t.session.stopping with
  | true =>
    simp only [listen, stopping_recast, stopped]
    exact cleanUp_recast (t.update fun s => { s with listening := true }) none
  | false =>
    cases given : t.session.settings.advertised <;>
      simp only [listen, stopping_recast, settings_recast, stopped, given] <;> rfl

@[simp] theorem advertise_recast (host : String) :
    (t.recast k e p).advertise host = (t.advertise host).keyed k e := rfl

@[simp] theorem welcome_recast (socket : Socket) (peer : String) :
    (t.recast k e p).welcome socket peer = (t.welcome socket peer).keyed k e := rfl

/-- A worker that dials does so wherever its endpoint says. -/
theorem begin_recast (place : e.map Endpoint.place = t.session.endpoint.map Endpoint.place) :
    (t.recast k e p).begin = t.begin.keyed k e := by
  cases stopped : t.session.stopping with
  | true => simp [begin, stopped]
  | false =>
    cases role : t.session.role with
    | listener => simp [begin, stopped, role]
    | connector =>
      have kept : (t.recast k e p).session.endpoint = e := rfl
      simp only [begin, stopping_recast, role_recast, stopped, role, kept]
      cases there : t.session.endpoint with
      | none =>
        rw [there] at place
        obtain rfl : e = none := by simpa using place
        exact t.crash_recast nobodyToDial
      | some endpoint =>
        rw [there] at place
        obtain ⟨same, rfl, alike⟩ := Option.map_eq_some_iff.mp place
        have alike : same.host = endpoint.host ∧ same.port = endpoint.port := Prod.mk.inj alike
        simp [alike]

end Recast

end Turn

/-! ## Callers and workers -/

section Recast

variable (s : Session) {k : Secret} {e : Option Endpoint} {p : Point}

theorem start_recast (fingerprint : k.fingerprint = s.secret.fingerprint) :
    (s.recast k e p).start = s.start.recast k e p := by
  have same : (s.recast k e p).secret.fingerprint = s.secret.fingerprint := fingerprint
  simp only [start, same]
  rfl

theorem send_recast (pending : Pending) :
    (s.recast k e p).send pending = (s.send pending).recast k e p := by
  have phase : (s.recast k e p).phase = s.phase := rfl
  have slot : (s.recast k e p).slot = s.slot := rfl
  simp only [send, phase, slot]
  cases s.phase.isTerminal with
  | true => rfl
  | false => cases (s.slot.put pending).1 <;> rfl

theorem Turn.point_detach (t : Turn) : t.detach.session.point = t.session.point := by
  simp [detach]

theorem hasExited_congr {s u : Session} (same : s.point = u.point) : s.hasExited = u.hasExited := by
  rw [hasExited, same, hasExited]

theorem concludeClosing_recast (t : Turn)
    (exited : (t.recast k e p).session.hasExited = t.session.hasExited) :
    (t.recast k e p).concludeClosing = t.concludeClosing.recast k e p := by
  have alive : (t.recast k e p).session.isAlive = t.session.isAlive := by
    rw [isAlive, exited]
    rfl
  cases lives : t.session.isAlive <;> simp [Turn.concludeClosing, alive, lives]

theorem interrupt_recast (t : Turn)
    (exited : (t.recast k e p).session.hasExited = t.session.hasExited) :
    (t.recast k e p).interrupt = t.interrupt.recast k e p := by
  cases busy : t.session.handshaking with
  | true => simp [Turn.interrupt, busy]
  | false => simpa [Turn.interrupt, busy] using concludeClosing_recast t exited

variable (exited : (s.recast k e p).hasExited = s.hasExited)
include exited

theorem close_recast : (s.recast k e p).close = s.close.recast k e p := by
  let stopped : Turn := ((Turn.of s).note (.closing s.role)).update fun s => { s with stopping := true }
  have closes : (s.recast k e p).close =
      if s.stopping then (Turn.of s).recast k e p
      else if s.listening then
        ((stopped.recast k e p).detach.update fun s => { s with listening := false }).awaitClosing
          .shuttingListener
      else (stopped.recast k e p).detach.interrupt := rfl
  rw [closes, Turn.detach_recast, close]
  cases s.stopping with
  | true => rfl
  | false =>
    cases s.listening with
    | true => rfl
    | false =>
      have kept : stopped.detach.session.hasExited = s.hasExited :=
        hasExited_congr (Turn.point_detach stopped)
      exact interrupt_recast stopped.detach (exited.trans kept.symm)

theorem resumeClosing_recast (reply : Reply) :
    (s.recast k e p).resumeClosing reply = (s.resumeClosing reply).recast k e p := by
  have closing : (s.recast k e p).closing = s.closing := rfl
  have concludes := concludeClosing_recast (Turn.of s) exited
  have interrupts := interrupt_recast (Turn.of s) exited
  unfold resumeClosing
  rw [closing, Turn.of_recast]
  cases s.closing with
  | shuttingListener =>
    cases reply with
    | fault f => cases system : f.isSystem <;> simp [system]
    | _ => rfl
  | closingListener =>
    cases reply with
    | done => exact interrupts
    | _ => rfl
  | interrupting =>
    cases reply with
    | done => exact concludes
    | fault f => cases system : f.isSystem <;> simp [system, concludes]
    | _ => rfl
  | _ => rfl

omit exited

theorem run_recast (place : e.map Endpoint.place = s.endpoint.map Endpoint.place) :
    (s.recast k e s.point).run = s.run.keyed k e := by
  have runnable : (s.recast k e s.point).isRunnable = s.isRunnable := rfl
  rw [run, runnable, run]
  cases s.isRunnable with
  | true => exact (Turn.of s).begin_recast place
  | false => rfl

theorem keyed_of (here : s.point = p) : (Turn.of s).recast k e p = (Turn.of s).keyed k e := by
  rw [Turn.keyed, Turn.session_of, here]

theorem failSetup_settled (setup : Setup) (f : Fault) :
    (((Turn.of s).recast k e p).update fun s => { s with handshaking := false }).failSetup setup f =
      (((Turn.of s).update fun s => { s with handshaking := false }).failSetup setup f).keyed k e :=
  ((Turn.of s).update fun s => { s with handshaking := false }).failSetup_recast setup f

theorem fail_recast (here : s.point = p) (f : Fault) :
    (s.recast k e p).fail f = (s.fail f).keyed k e := by
  have point : (s.recast k e p).point = p := rfl
  unfold fail
  rw [point, here, Turn.of_recast]
  cases p with
  | ready | exited => exact s.keyed_of here
  | accepting | receiving => cases f.isTimeout <;> simp
  | shuttingListener | shuttingUnused => cases f.isSystem <;> simp
  | handshaking setup => cases f.isSystem <;> simp [failSetup_settled]
  | abandoning setup failure => exact s.failSetup_settled setup f
  | receivingFrame link frame => cases silent : f.isTimeout && frame.endsInSilence <;> simp [silent]
  | reportingEnd event failed => cases failed <;> simp
  | _ => simp

/-- Only the port of a new listener leads the worker to its secret. -/
theorem proceed_recast (here : s.point = p) (reply : Reply)
    (plain : ∀ host port, p = .readingPort host → reply ≠ .port port) :
    (s.recast k e p).proceed reply = (s.proceed reply).keyed k e := by
  have point : (s.recast k e p).point = p := rfl
  unfold proceed
  rw [point, here, Turn.of_recast]
  cases p with
  | readingPort host =>
    cases reply with
    | port port => exact absurd rfl (plain host port rfl)
    | _ => exact s.keyed_of here
  | abandoning setup failure =>
    cases reply with
    | done => exact s.failSetup_settled setup failure
    | _ => exact s.keyed_of here
  | _ => cases reply <;> first | exact s.keyed_of here | simp

end Recast

/-! ## Alike sessions -/

inductive Request.Alike (one other : Secret) : Request → Request → Prop where
  | same (request : Request) : Alike one other request request
  | emit {a b : Event} : a.Alike one other b → Alike one other (.emit a) (.emit b)

inductive Action.Alike (one other : Secret) : Action → Action → Prop where
  | same (action : Action) : Alike one other action action
  | call {a b : Request} : a.Alike one other b → Alike one other (.call a) (.call b)

/-- Points that are the same but for the secrets in the bundles that are announced. -/
inductive Point.Alike (one other : Secret) : Point → Point → Prop where
  | same (point : Point) : Alike one other point point
  | announcing {a b : String} : Event.Alike one other (.listening a) (.listening b) →
      Alike one other (.announcing a) (.announcing b)

/-- A session with another secret, and the sessions that are the same but for that. -/
inductive Alike (one other : Secret) (s : Session) : Session → Prop where
  | recast {k : Secret} {e : Option Endpoint} {p : Point} : s.secret = k ∨ s.secret = one ∧ k = other →
      e.map Endpoint.place = s.endpoint.map Endpoint.place → s.point.Alike one other p →
      Alike one other s (s.recast k e p)

structure Turn.Alike (one other : Secret) (t u : Turn) : Prop where
  session : t.session.Alike one other u.session
  actions : List.Forall₂ (Action.Alike one other) t.actions u.actions

variable {one other : Secret} {s u : Session}

theorem Alike.refl (s : Session) : s.Alike one other s := .recast (.inl rfl) rfl (.same s.point)

theorem Turn.Alike.recast {t : Turn} {k : Secret} {e : Option Endpoint} {p : Point}
    (secret : t.session.secret = k ∨ t.session.secret = one ∧ k = other)
    (place : e.map Endpoint.place = t.session.endpoint.map Endpoint.place)
    (point : t.session.point.Alike one other p) : t.Alike one other (t.recast k e p) :=
  ⟨.recast secret place point, List.forall₂_same.mpr fun action _ => .same action⟩

/-- What does not look at the text that is announced is the same. -/
theorem Point.Alike.congr {α : Type} {p q : Point} (alike : p.Alike one other q) (f : Point → α)
    (blind : ∀ a b, f (.announcing a) = f (.announcing b)) : f q = f p := by
  cases alike with
  | same => rfl
  | announcing => exact blind _ _

theorem fingerprint_alike {k : Secret} (same : one.fingerprint = other.fingerprint)
    (secret : s.secret = k ∨ s.secret = one ∧ k = other) : k.fingerprint = s.secret.fingerprint := by
  obtain rfl | ⟨here, rfl⟩ := secret
  · rfl
  · rw [here, same]

/-- Moves of callers take no notice of the secret, of the endpoint and of what the worker waits for. -/
theorem Turn.Alike.of_caller {m : Move} (same : one.fingerprint = other.fingerprint)
    (alike : s.Alike one other u)
    (blind : ∀ k e p, k.fingerprint = s.secret.fingerprint → (s.recast k e p).hasExited = s.hasExited →
      (s.recast k e p).step m = (s.step m).recast k e p) : (s.step m).Alike one other (u.step m) := by
  have kept : s.step m = (s.step m).recast s.secret s.endpoint s.point := blind _ _ _ rfl rfl
  cases alike with
  | @recast k e p secret place point =>
    have exited := point.congr (fun p => (s.recast k e p).hasExited) fun _ _ => rfl
    rw [blind _ _ _ (fingerprint_alike same secret) exited]
    refine .recast ?_ ?_ ?_
    · rw [kept]
      exact secret
    · rw [kept]
      exact place
    · rw [kept]
      exact point

theorem Turn.Alike.of_worker {m : Move} {k : Secret} {e : Option Endpoint} {p : Point}
    (secret : s.secret = k ∨ s.secret = one ∧ k = other)
    (place : e.map Endpoint.place = s.endpoint.map Endpoint.place)
    (steady : (s.step m).session.steady = s.steady)
    (blind : (s.recast k e p).step m = (s.step m).keyed k e) :
    (s.step m).Alike one other ((s.recast k e p).step m) := by
  have secret' : (s.step m).session.secret = s.secret := congrArg Steady.secret steady
  have endpoint : (s.step m).session.endpoint = s.endpoint := congrArg Steady.endpoint steady
  rw [blind]
  exact .recast (secret' ▸ secret) (endpoint ▸ place) (.same _)

theorem bundle_alike {k : Secret} (secret : s.secret = k ∨ s.secret = one ∧ k = other) (host : String)
    (port : Int) (scheme : String) : Event.Alike one other
      (.listening (Bundle.write ⟨host, port, s.secret⟩ scheme))
      (.listening (Bundle.write ⟨host, port, k⟩ scheme)) := by
  obtain rfl | ⟨here, rfl⟩ := secret
  · exact .same _
  · rw [here]
    exact .bundle host port scheme

theorem steady_answer (s : Session) (reply : Reply) :
    (s.step (.answer reply)).session.steady = s.steady := by
  cases heeded : s.heeds (.answer reply) with
  | true => exact (resume_passage heeded).1.steady
  | false =>
    rw [step, resume_of_unheeded heeded]
    rfl

theorem steady_run (s : Session) : (s.step .run).session.steady = s.steady := by
  show s.run.session.steady = s.steady
  rw [run]
  split
  · exact (Turn.of s).begin_passage.steady
  · rfl

/-- Where the worker announces its bundle, what it does next does not depend on the bundle. -/
theorem resume_announcing {k : Secret} {e : Option Endpoint} {a b : String}
    (here : s.point = .announcing a) {reply : Reply} (fits : reply = .done ∨ ∃ f, reply = .fault f) :
    (s.recast k e (.announcing b)).resume reply = (s.resume reply).keyed k e := by
  have point : (s.recast k e (.announcing b)).point = .announcing b := rfl
  obtain rfl | ⟨f, rfl⟩ := fits
  · simp [resume, proceed, here, point]
  · simp [resume, fail, here, point]

theorem Alike.answer (alike : s.Alike one other u) (reply : Reply) :
    (s.step (.answer reply)).Alike one other (u.step (.answer reply)) := by
  have steady := s.steady_answer reply
  cases alike with
  | @recast k e p secret place point =>
    generalize here : s.point = q at point
    cases point with
    | same =>
      by_cases tells : ∃ host port, p = .readingPort host ∧ reply = .port port
      · obtain ⟨host, port, rfl, rfl⟩ := tells
        have announces {v : Session} (there : v.point = .readingPort host) :
            v.step (.answer (.port port)) = (Turn.of v).announce host port := by
          simp only [step, resume, proceed, there]
        have bundle := bundle_alike secret host port s.settings.scheme
        rw [announces here, announces rfl]
        exact ⟨.recast secret place (.announcing bundle),
          .cons (.same _) (.cons (.same _) (.cons (.call (.emit bundle)) .nil))⟩
      · refine .of_worker secret place steady ?_
        cases reply with
        | fault f => exact s.fail_recast here f
        | _ => exact s.proceed_recast here _ fun host port asks same => tells ⟨host, port, asks, same⟩
    | announcing bundle =>
      by_cases fits : reply = .done ∨ ∃ f, reply = .fault f
      · exact .of_worker secret place steady (resume_announcing here fits)
      · have rests {v : Session} {text : String} (there : v.point = .announcing text) :
            v.step (.answer reply) = Turn.of v := by
          cases reply <;> simp_all [step, resume, proceed]
        rw [rests here, rests rfl]
        exact ⟨.recast secret place (here ▸ .announcing bundle), .nil⟩

theorem Alike.run (alike : s.Alike one other u) : (s.step .run).Alike one other (u.step .run) := by
  cases alike with
  | @recast k e p secret place point =>
    generalize here : s.point = q at point
    cases point with
    | same =>
      subst here
      exact .of_worker secret place s.steady_run (s.run_recast place)
    | announcing bundle =>
      have rests {v : Session} {text : String} (there : v.point = .announcing text) :
          v.step .run = Turn.of v := by
        simp [step, Session.run, isRunnable, there]
      rw [rests here, rests rfl]
      exact ⟨.recast secret place (here ▸ .announcing bundle), .nil⟩

theorem step_alike (same : one.fingerprint = other.fingerprint) (alike : s.Alike one other u) (m : Move) :
    (s.step m).Alike one other (u.step m) := by
  cases m with
  | start => exact .of_caller same alike fun _ _ _ fingerprint _ => s.start_recast fingerprint
  | run => exact alike.run
  | send pending => exact .of_caller same alike fun _ _ _ _ _ => s.send_recast pending
  | close => exact .of_caller same alike fun _ _ _ _ exited => s.close_recast exited
  | dropEndpoint =>
    cases alike with
    | recast secret _ point => exact ⟨.recast secret rfl point, .nil⟩
  | detach => exact .of_caller same alike fun _ _ _ _ _ => (Turn.of s).detach_recast
  | release => exact .of_caller same alike fun _ _ _ _ _ => (Turn.of s).releaseThread_recast
  | answer reply => exact alike.answer reply
  | answerCaller reply => exact .of_caller same alike fun _ _ _ _ exited => s.resumeClosing_recast exited reply

/-- An action as it shows to one who takes no notice of the bundles in events. -/
def Action.veiled : Action → Action
  | .call (.emit (.listening _)) => .call (.emit (.listening ""))
  | action => action

theorem Action.Alike.veiled {a b : Action} (alike : a.Alike one other b) : b.veiled = a.veiled := by
  cases alike with
  | same => rfl
  | call requests =>
    cases requests with
    | same => rfl
    | emit events => cases events <;> rfl

theorem veiled_alike {as bs : List Action} (actions : List.Forall₂ (Action.Alike one other) as bs) :
    bs.map Action.veiled = as.map Action.veiled := by
  induction actions with
  | nil => rfl
  | cons first _ ih => rw [List.map_cons, List.map_cons, first.veiled, ih]

/-- The session in a world of callers, an observer and a network. Each move of theirs may depend on all that
the session has done, but for the bundles in events. -/
def driven (s : Session) (world : Nat → List Action → Move) : Nat → Turn
  | 0 => Turn.of s
  | n + 1 => (s.driven world n).move (world n ((s.driven world n).actions.map Action.veiled))

/-- In one world alike sessions do the same but for the secrets in bundles, however long they run. -/
theorem driven_alike (same : one.fingerprint = other.fingerprint) (alike : s.Alike one other u)
    (world : Nat → List Action → Move) (n : Nat) :
    (s.driven world n).Alike one other (u.driven world n) := by
  induction n with
  | zero => exact ⟨alike, .nil⟩
  | succ n ih =>
    have step := step_alike same ih.session (world n ((s.driven world n).actions.map Action.veiled))
    rw [driven, driven, veiled_alike ih.actions]
    exact ⟨step.session, List.rel_append ih.actions step.actions⟩

namespace Alike

variable (alike : s.Alike one other u)
include alike

theorem request : Option.Rel (Request.Alike one other) s.request u.request := by
  cases alike with
  | @recast k e p _ _ point =>
    generalize here : s.point = q at point
    have asks : s.request = (s.recast k e q).request := by
      rw [← here]
      rfl
    rw [asks]
    cases point with
    | same =>
      cases (s.recast k e p).request with
      | none => exact .none
      | some request => exact .some (.same request)
    | announcing bundle => exact .some (.emit bundle)

/-- What looks neither at the secret nor at the text that is announced is the same. -/
theorem congr {α : Type} (f : Session → α) (blind : ∀ k e, f (s.recast k e s.point) = f s)
    (announced : ∀ k e a b, f (s.recast k e (.announcing a)) = f (s.recast k e (.announcing b))) :
    f u = f s := by
  cases alike with
  | @recast k e p _ _ point =>
    exact (point.congr (fun p => f (s.recast k e p)) (announced k e)).trans (blind k e)

theorem sink : u.sink = s.sink := alike.congr Session.sink (fun _ _ => rfl) fun _ _ _ _ => rfl

theorem stopping : u.stopping = s.stopping :=
  alike.congr Session.stopping (fun _ _ => rfl) fun _ _ _ _ => rfl

theorem started : u.started = s.started :=
  alike.congr Session.started (fun _ _ => rfl) fun _ _ _ _ => rfl

theorem settings : u.settings = s.settings :=
  alike.congr Session.settings (fun _ _ => rfl) fun _ _ _ _ => rfl

theorem phase : u.phase = s.phase := alike.congr Session.phase (fun _ _ => rfl) fun _ _ _ _ => rfl

theorem closingRequest : u.closingRequest = s.closingRequest :=
  alike.congr Session.closingRequest (fun _ _ => rfl) fun _ _ _ _ => rfl

theorem closingFault : u.closingFault = s.closingFault :=
  alike.congr Session.closingFault (fun _ _ => rfl) fun _ _ _ _ => rfl

theorem isAlive : u.isAlive = s.isAlive :=
  alike.congr Session.isAlive (fun _ _ => rfl) fun _ _ _ _ => rfl

theorem isRunnable : u.isRunnable = s.isRunnable :=
  alike.congr Session.isRunnable (fun _ _ => rfl) fun _ _ _ _ => rfl

theorem escape : u.escape = s.escape := alike.congr Session.escape (fun _ _ => rfl) fun _ _ _ _ => rfl

end Alike

/-! ## Opening -/

namespace Plan

def withSecret (p : Plan) (secret : Secret) : Plan :=
  { p with secret := secret, endpoint := p.endpoint.map fun endpoint => { endpoint with secret := secret } }

theorem session_alike (p : Plan) :
    (p.withSecret one).session.Alike one other (p.withSecret other).session := by
  refine .recast (.inr ⟨rfl, rfl⟩) ?_ (.same .ready)
  show (p.withSecret other).endpoint.map Endpoint.place = (p.withSecret one).endpoint.map Endpoint.place
  cases endpoint : p.endpoint <;> simp [withSecret, endpoint, Endpoint.place]

/-- Opening takes the same steps, and meets the same failure if any. -/
theorem open_withSecret (p : Plan) (same : one.fingerprint = other.fingerprint) :
    (p.withSecret other).open =
      ((p.withSecret one).open.1, (p.withSecret one).open.2.map fun _ => (p.withSecret other).session) := by
  have steps : (p.withSecret other).securitySteps = (p.withSecret one).securitySteps := by
    simp only [securitySteps, withSecret, same]
  have sink (k : Secret) : (p.withSecret k).sinkSteps = p.sinkSteps := rfl
  have role (k : Secret) : (p.withSecret k).role = p.role := rfl
  have missing (k : Secret) : (p.withSecret k).endpoint = none ↔ p.endpoint = none := by simp [withSecret]
  simp only [«open», steps, sink, role, missing]
  split
  · rfl
  · cases (p.withSecret one).securitySteps.2 <;> rfl

end Plan

end Session

end Handover
