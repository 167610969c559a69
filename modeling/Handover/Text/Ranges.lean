/-! Sets of characters given by ranges of code points, both ends included. -/

set_option autoImplicit false

namespace Handover

abbrev Ranges := List (Nat × Nat)

def Ranges.has (ranges : Ranges) (c : Char) : Bool :=
  ranges.any fun range => decide (range.1 ≤ c.toNat ∧ c.toNat ≤ range.2)

@[simp] theorem Ranges.has_nil (c : Char) : Ranges.has [] c = false := rfl

end Handover
