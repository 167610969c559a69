import Handover.Address
import Handover.Fault

/-! The search for an address of this device that a peer can reach. Candidates come one at a time: first
the one of a route probe, then those on record under the name of the device, which is asked for only when
the probe has given no usable one. The probe's socket stays open while its candidate is looked at; it
is closed when the search goes on from there, and also when the search stops there. -/

set_option autoImplicit false

namespace Handover

inductive Family where
  | inet
  | inet6
  deriving DecidableEq, Repr

/-- What the device answers during a search. -/
structure Surroundings where
  /-- The address that the probe's socket is bound to, or why it could not be directed. -/
  probe : Except Fault String
  /-- The addresses on record for the device, or why there are none. -/
  records : Except Fault (List String)
  hostname : String

namespace Surroundings

/-- A documentation address to direct the probe to; nothing is sent there. -/
def target : Family → String × Nat
  | .inet => ("192.0.2.1", 9)
  | .inet6 => ("2001:db8::1", 9)

inductive Step where
  | openProbe (family : Family)
  | direct (host : String) (port : Nat)
  | closeProbe
  | askRecords (hostname : String) (family : Family)
  deriving DecidableEq, Repr

/-- The address of a candidate, without its zone; of version six in upper case. -/
def usable? (family : Family) (candidate : String) : Option String :=
  let address := Text.before '%' candidate.toList
  match Address.parse? address with
  | none => none
  | some parsed =>
      if parsed.isUsable then
        match family with
        | .inet => some (String.ofList address)
        | .inet6 => some (String.ofList (address.map Char.toUpper))
      else none

/-- How a search ends: with an address, with none, or with a fault that is none of input and
output. -/
inductive Finding where
  | found (address : String)
  | nothing
  | failed (f : Fault)
  deriving DecidableEq, Repr

/-- The address that a search answers with; it is empty when there is none. -/
def Finding.answer : Finding → Except Fault String
  | .found address => .ok address
  | .nothing => .ok ""
  | .failed f => .error f

/-- Candidates that come one at a time, each after some steps. The next one is asked for when the one
before it has been looked at. -/
inductive Candidates where
  | ended (steps : List Step)
  | failed (steps : List Step) (f : Fault)
  /-- A candidate. A search that stops at it has still to take the steps of `release`. -/
  | offer (steps : List Step) (candidate : String) (release : List Step) (rest : Candidates)

namespace Candidates

def after (first : List Step) : Candidates → Candidates
  | ended steps => ended (first ++ steps)
  | failed steps f => failed (first ++ steps) f
  | offer steps candidate release rest => offer (first ++ steps) candidate release rest

def ofList : List String → Candidates
  | [] => ended []
  | candidate :: rest => offer [] candidate [] (ofList rest)

/-- Looks at one candidate after the other and stops at the first that is usable. -/
def search (family : Family) : Candidates → Finding × List Step
  | ended steps => (.nothing, steps)
  | failed steps f => (.failed f, steps)
  | offer steps candidate release rest =>
      match usable? family candidate with
      | some address => (.found address, steps ++ release)
      | none =>
          let (finding, more) := rest.search family
          (finding, steps ++ more)

end Candidates

def recorded (s : Surroundings) (family : Family) : Candidates :=
  let asked := [Step.askRecords s.hostname family]
  match s.records with
  | .ok addresses => (Candidates.ofList addresses).after asked
  | .error f => if f.isSystem then .ended asked else .failed asked f

/-- The candidate of the probe, and then those on record. -/
def candidates (s : Surroundings) (family : Family) : Candidates :=
  let directed := [Step.openProbe family, .direct (target family).1 (target family).2]
  match s.probe with
  | .ok candidate =>
      .offer directed candidate [.closeProbe] ((s.recorded family).after [.closeProbe])
  | .error f =>
      let closed := directed ++ [.closeProbe]
      if f.isSystem then (s.recorded family).after closed else .failed closed f

def search (s : Surroundings) (family : Family) : Finding × List Step :=
  (s.candidates family).search family

end Surroundings

end Handover
