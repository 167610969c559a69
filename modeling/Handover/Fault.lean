/-! Failures of the outside world. A fault is what a call of the network, of the provider of
transport security or of a delivery context ends with instead of a result. -/

set_option autoImplicit false

namespace Handover

inductive FaultKind where
  | timeout
  | system
  | reset
  | refused
  | brokenPipe
  | aborted
  | security
  /-- A value that the callee does not take. -/
  | value
  | unsupported
  /-- The callee is in no state to do this. -/
  | state
  /-- The callee ends the thread that called it, or the task that it works for. -/
  | exit
  deriving DecidableEq, Repr, Inhabited

/-- Faults of input and output; the remaining ones are faults of use, or none. -/
def FaultKind.isSystem : FaultKind → Bool
  | .value | .unsupported | .state | .exit => false
  | _ => true

/-- A failure is what a handler for anything takes; only an exit passes it. -/
def FaultKind.isFailure : FaultKind → Bool
  | .exit => false
  | _ => true

/-- A callee that lacks an operation is in no state to do it either. -/
def FaultKind.isState : FaultKind → Bool
  | .unsupported | .state => true
  | _ => false

structure Fault where
  kind : FaultKind
  message : String
  deriving DecidableEq, Repr, Inhabited

def Fault.isSystem (f : Fault) : Bool := f.kind.isSystem

def Fault.isFailure (f : Fault) : Bool := f.kind.isFailure

def Fault.isState (f : Fault) : Bool := f.kind.isState

def Fault.isTimeout (f : Fault) : Bool := f.kind == .timeout

theorem Fault.isFailure_of_isSystem {f : Fault} (system : f.isSystem = true) :
    f.isFailure = true := by
  obtain ⟨kind, message⟩ := f
  cases kind <;> first | rfl | cases system

theorem Fault.isSystem_of_isTimeout {f : Fault} (late : f.isTimeout = true) :
    f.isSystem = true := by
  obtain ⟨kind, message⟩ := f
  cases kind <;> first | rfl | cases late

end Handover
