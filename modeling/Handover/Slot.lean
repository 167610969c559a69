import Handover.Bytes
import Handover.Value

/-! The place for one outbound payload between callers and the worker. A payload put there replaces
the one that has not been taken yet. -/

set_option autoImplicit false

namespace Handover

structure Pending where
  payload : Bytes
  token : Value
  deriving Repr, Inhabited

structure Slot where
  content : Option Pending
  deriving Repr, Inhabited

namespace Slot

def empty : Slot := ⟨none⟩

def isEmpty (s : Slot) : Bool := s.content.isNone

/-- The slot with the payload in it, and what the payload replaced. -/
def put (s : Slot) (p : Pending) : Option Pending × Slot := (s.content, ⟨some p⟩)

def take (s : Slot) : Option Pending × Slot := (s.content, empty)

@[simp] theorem take_put (s : Slot) (p : Pending) : (s.put p).2.take = (some p, empty) := rfl

@[simp] theorem isEmpty_take (s : Slot) : s.take.2.isEmpty = true := rfl

@[simp] theorem isEmpty_put (s : Slot) (p : Pending) : (s.put p).2.isEmpty = false := rfl

end Slot

end Handover
