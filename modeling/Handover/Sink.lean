import Handover.Fault
import Handover.Notice

/-! Sinks pass the events of a session to one observer, until the observer is let go. -/

set_option autoImplicit false

namespace Handover

/-- What a sink posts its deliveries to: a thread of its own, which can be shut down, or a context
that belongs to its user. -/
inductive Outlet where
  | own (opened : Bool)
  | given
  deriving DecidableEq, Repr, Inhabited

structure Sink where
  attached : Bool
  outlet : Outlet
  deriving DecidableEq, Repr, Inhabited

namespace Sink

def new (ownThread : Bool) : Sink := ⟨true, if ownThread then .own true else .given⟩

/-- Whether giving up the delivery context means shutting a thread down. -/
def ownsThread (s : Sink) : Bool := match s.outlet with
  | .own _ => true
  | .given => false

/-- A thread of its own takes no more deliveries; those it has still run. -/
def release (s : Sink) : Sink := match s.outlet with
  | .own _ => { s with outlet := .own false }
  | .given => s

/-- From now on nothing reaches the observer. -/
def detach (s : Sink) : Sink := { s.release with attached := false }

@[simp] theorem attached_release (s : Sink) : s.release.attached = s.attached := by
  unfold release; split <;> rfl

@[simp] theorem attached_detach (s : Sink) : s.detach.attached = false := rfl

@[simp] theorem release_release (s : Sink) : s.release.release = s.release := by
  obtain ⟨attached, outlet⟩ := s; cases outlet <;> rfl

@[simp] theorem detach_detach (s : Sink) : s.detach.detach = s.detach := by
  obtain ⟨attached, outlet⟩ := s; cases outlet <;> rfl

end Sink

end Handover
