/-! The two sides of an exchange and the phases that a session goes through. -/

set_option autoImplicit false

namespace Handover

inductive Role where
  | listener
  | connector
  deriving DecidableEq, Repr, Inhabited

def Role.name : Role → String
  | .listener => "listener"
  | .connector => "connector"

def Role.all : List Role := [.listener, .connector]

inductive Phase where
  | initial
  | listening
  | establishing
  | established
  | closed
  | lost
  | connectFailed
  | listenFailed
  deriving DecidableEq, Repr, Inhabited

namespace Phase

def name : Phase → String
  | initial => "init"
  | listening => "listening"
  | establishing => "establishing"
  | established => "established"
  | closed => "closed"
  | lost => "lost"
  | connectFailed => "error_connect"
  | listenFailed => "error_listen"

def all : List Phase :=
  [initial, listening, establishing, established, closed, lost, connectFailed, listenFailed]

/-- A terminal phase is the last one of its session. -/
def isTerminal : Phase → Bool
  | closed | lost | connectFailed | listenFailed => true
  | _ => false

/-- The order in which phases are reached; the terminal ones share the last place. -/
def rank : Phase → Nat
  | initial => 0
  | listening => 1
  | establishing => 2
  | established => 3
  | closed | lost | connectFailed | listenFailed => 4

theorem isTerminal_iff_rank (p : Phase) : p.isTerminal = true ↔ p.rank = 4 := by
  cases p <;> decide

end Phase

end Handover
