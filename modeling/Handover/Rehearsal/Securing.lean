import Handover.Rehearsal.Play

/-! Transport security rehearsed on its own: the contexts are prepared, and then connections are
secured one after another, each with the next cue for a handshake. There is no session then that
callers in the middle of a handshake could act on. -/

set_option autoImplicit false

namespace Handover.Rehearsal

structure Securing where
  secret : Secret
  timeout : Timeout
  roles : List Role
  stage : Stage

namespace Securing

def failure : Except Fault Bytes → Option Fault
  | .ok _ => none
  | .error f => some f

def handshake (s : Securing) (w : Stage) (role : Role) : Stage :=
  let entered := w.enterAll (handshakeEntries true role s.secret w.identity s.timeout)
  let (outcome, met) := Stage.meet (w.depth []) 0 .handshake entered
  met.enter (.secured role (failure outcome))

/-- The record, and why the contexts could not be prepared if they could not. -/
def play (s : Securing) : List Entry × Option Transport.SetupError :=
  let (calls, outcome) := s.stage.provider.prepare
  let prepared := s.stage.enterAll (calls.map .security)
  match outcome with
  | .ok () => ((s.roles.foldl s.handshake prepared).record.reverse, none)
  | .error error => (prepared.record.reverse, some error)

end Securing

end Handover.Rehearsal
