import Handover.Bytes
import Handover.Fault

/-! The receiving end of a connection as a finite script: chunks and faults in the order in which
they are met, and after them the end of the stream. -/

set_option autoImplicit false

namespace Handover

/-- What one attempt to receive meets. An empty chunk is the end of the stream. -/
inductive Arrival where
  | chunk (bytes : Bytes)
  | fault (f : Fault)
  deriving DecidableEq, Repr, Inhabited

def Arrival.weight : Arrival → Nat
  | .chunk bytes => bytes.length + 1
  | .fault _ => 1

/-- Bytes that have arrived and were not asked for yet, and what arrives after them. -/
structure Inlet where
  held : Bytes
  arrivals : List Arrival
  calls : Nat
  deriving DecidableEq, Repr

namespace Inlet

def ofArrivals (arrivals : List Arrival) : Inlet := ⟨[], arrivals, 0⟩

def weight (inlet : Inlet) : Nat := inlet.held.length + inlet.arrivals.foldr (·.weight + ·) 0

/-- At most `limit` bytes; held bytes come before any new arrival. -/
def receive (inlet : Inlet) (limit : Nat) : Except Fault Bytes × Inlet :=
  match inlet.held, inlet.arrivals with
  | [], [] => (.ok [], { inlet with calls := inlet.calls + 1 })
  | [], .fault f :: rest => (.error f, ⟨[], rest, inlet.calls + 1⟩)
  | [], .chunk bytes :: rest =>
      (.ok (bytes.take limit), ⟨bytes.drop limit, rest, inlet.calls + 1⟩)
  | held, arrivals => (.ok (held.take limit), ⟨held.drop limit, arrivals, inlet.calls + 1⟩)

theorem weight_receive_le (inlet : Inlet) (limit : Nat) :
    (inlet.receive limit).2.weight ≤ inlet.weight := by
  obtain ⟨held, arrivals, calls⟩ := inlet
  match held, arrivals with
  | [], [] => exact Nat.le_refl _
  | [], .fault _ :: _ =>
    simp only [receive, weight, Arrival.weight, List.foldr_cons]
    omega
  | [], .chunk _ :: _ =>
    simp only [receive, weight, Arrival.weight, List.foldr_cons, List.length_drop]
    omega
  | _ :: _, _ =>
    simp only [receive, weight, List.length_drop]
    omega

/-- Each call uses something up, or nothing was left and the stream has ended. -/
theorem weight_receive (inlet : Inlet) (limit : Nat) (positive : 0 < limit) :
    (inlet.receive limit).2.weight < inlet.weight ∨ (inlet.receive limit).1 = .ok [] := by
  obtain ⟨held, arrivals, calls⟩ := inlet
  match held, arrivals with
  | [], [] => exact .inr rfl
  | [], .fault _ :: _ =>
    left
    simp only [receive, weight, Arrival.weight, List.foldr_cons]
    omega
  | [], .chunk _ :: _ =>
    left
    simp only [receive, weight, Arrival.weight, List.foldr_cons, List.length_drop,
      List.length_nil]
    omega
  | _ :: _, _ =>
    left
    simp only [receive, weight, List.length_drop, List.length_cons]
    omega

end Inlet

end Handover
