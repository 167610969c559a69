import Handover.Event
import Handover.Fault
import Handover.Settings

/-! What callers do in a rehearsal, and the cues by which a scripted network answers. A cue can
have callers act while the call that it answers is under way. -/

set_option autoImplicit false

namespace Handover.Rehearsal

inductive Operation where
  | start
  | run
  | send (payload : Bytes) (token : Value)
  | close
  | join (timeout : Option Timeout)
  | state
  | dropEndpoint
  | deliver (limit : Option Nat)
  | emit (event : Event)
  | detach
  | releaseSink
  | attached
  | listen
  | connect (bundle : String)
  | sendData (payload : Bytes) (token : Value)
  | closeConnection
  | hasSession
  /-- On the session at a position rather than the latest one. -/
  | on (position : Int) (operation : Operation)
  deriving Repr, Inhabited

def Operation.size : Operation → Nat
  | .on _ operation => operation.size + 1
  | _ => 1

inductive Step where
  | bind
  | accept
  | dial
  | handshake
  | peerName
  | receive
  | send
  | shutListener
  | shutRaw
  | shutSecured
  deriving DecidableEq, Repr, Inhabited

structure Cue where
  outcome : Except Fault Bytes
  /-- What callers do in the middle of the call. -/
  during : Option (List Operation)

def Cue.size (c : Cue) : Nat :=
  (match c.outcome with
    | .ok bytes => bytes.length + 1
    | .error _ => 1) + (c.during.getD []).foldr (·.size + ·) 0

/-- The network as one session meets it. Each call takes the next cue of its step. -/
structure Script where
  cues : List (Step × Cue)
  /-- Bytes of a cue that were not asked for yet. -/
  held : Bytes
  boundPort : Int
  peer : String

namespace Script

def empty : Script := ⟨[], [], 40000, "10.0.0.2"⟩

def size (s : Script) : Nat := s.cues.foldr (·.2.size + ·) 0

def exhausted : Step → Cue
  | .accept => ⟨.error ⟨.system, "scripted"⟩, none⟩
  | _ => ⟨.ok [], none⟩

def takeCue (step : Step) : List (Step × Cue) → Option (Cue × List (Step × Cue))
  | [] => none
  | (found, cue) :: rest =>
      if found = step then some (cue, rest)
      else (takeCue step rest).map fun (taken, others) => (taken, (found, cue) :: others)

def next (s : Script) (step : Step) : Cue × Script :=
  match takeCue step s.cues with
  | some (cue, rest) => (cue, { s with cues := rest })
  | none => (exhausted step, s)

end Script

end Handover.Rehearsal
