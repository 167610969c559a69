import Handover.Sink

/-! Delivery contexts. A sink posts one delivery for each event to such a context, which runs the
deliveries one after another. A context that has been shut down refuses: the event is lost then and
nothing else is; any other fault of a context reaches the one who emits. -/

set_option autoImplicit false

namespace Handover

/-- Where the sinks of a run post their deliveries. -/
inductive Context where
  /-- Each sink has a thread of its own. -/
  | ownThread
  | queue
  /-- The delivery runs at once. -/
  | inline
  | eventLoop (closed : Bool)
  /-- Every posting fails. -/
  | failing (f : Fault)
  deriving DecidableEq, Repr

inductive Posting where
  | queued
  | immediate
  | refused (f : Fault)
  deriving DecidableEq, Repr

inductive Emission where
  | dropped (notice : Notice)
  | queued
  | immediate
  | failed (f : Fault)
  deriving Repr

namespace Context

def shutDownFault : Fault := ⟨.state, "cannot schedule new futures after shutdown"⟩

def closedLoopFault : Fault := ⟨.state, "Event loop is closed"⟩

def opensThreads : Context → Bool
  | ownThread => true
  | _ => false

def post (c : Context) (s : Sink) : Posting :=
  match c with
  | ownThread => if s.outlet = .own true then .queued else .refused shutDownFault
  | queue => .queued
  | inline => .immediate
  | eventLoop closed => if closed then .refused closedLoopFault else .queued
  | failing f => .refused f

/-- What comes of posting the delivery of an event. A context that was shut down loses it. -/
def submit (c : Context) (s : Sink) (e : Event) : Emission :=
  match c.post s with
  | .queued => .queued
  | .immediate => .immediate
  | .refused f => if f.isState then .dropped (.droppedClosed e.kind) else .failed f

/-- Nothing is posted for a sink without an observer. The sink is asked first and the delivery posted
after that, so an observer can be let go between the two. -/
def emit (c : Context) (s : Sink) (e : Event) : Emission :=
  if s.attached then c.submit s e else .dropped (.droppedDetached e.kind)

theorem emit_of_attached (c : Context) {s : Sink} (attached : s.attached = true) (e : Event) :
    c.emit s e = c.submit s e := by simp [emit, attached]

theorem emit_of_detached (c : Context) {s : Sink} (detached : s.attached = false) (e : Event) :
    c.emit s e = .dropped (.droppedDetached e.kind) := by simp [emit, detached]

end Context

end Handover
