import Handover.Fault
import Handover.Secret

/-! Transport security keyed by the secret. Two contexts are prepared out of calls of a provider,
one for each side; each call may fail, and nothing is called after a failure. -/

set_option autoImplicit false

namespace Handover.Transport

inductive Side where
  | server
  | client
  deriving DecidableEq, Repr

inductive Call where
  | newContext (side : Side)
  | limitVersion (side : Side)
  | selectCiphers (side : Side)
  | skipHostCheck (side : Side)
  | skipVerification (side : Side)
  | setKeySource (side : Side)
  deriving DecidableEq, Repr

/-- The suites that take their key from a shared secret. -/
def ciphers : String := "PSK"

structure Provider where
  offersSharedKeys : Bool
  outcome : Call → Option Fault

/-- Why the contexts cannot be prepared. The first two are problems with the credentials; the last
is the provider's own. -/
inductive SetupError where
  | noSharedKeys
  | noCiphers (f : Fault)
  | failed (f : Fault)
  deriving DecidableEq, Repr

def SetupError.message : SetupError → String
  | .noSharedKeys => "TLS provider does not support pre-shared keys"
  | .noCiphers f => "Cannot select PSK cipher suites: " ++ f.message
  | .failed f => f.message

/-- What a failing call says about the credentials. -/
def Call.blame (call : Call) (f : Fault) : SetupError :=
  match call with
  | .newContext _ | .limitVersion _ | .selectCiphers _ =>
      if f.kind = .security ∨ f.kind = .value then .noCiphers f else .failed f
  | .setKeySource _ => if f.kind = .unsupported then .noSharedKeys else .failed f
  | .skipHostCheck _ | .skipVerification _ => .failed f

/-- Only a client checks host names unless told otherwise. -/
def calls (side : Side) : List Call :=
  [.newContext side, .limitVersion side, .selectCiphers side] ++
    (if side = .client then [.skipHostCheck side] else []) ++
    [.skipVerification side, .setKeySource side]

/-- Makes the calls in turn up to the first failure; the calls made are those of the result. -/
def Provider.make (p : Provider) : List Call → List Call × Except SetupError Unit
  | [] => ([], .ok ())
  | call :: rest =>
      match p.outcome call with
      | some f => ([call], .error (call.blame f))
      | none => (call :: (p.make rest).1, (p.make rest).2)

def Provider.prepare (p : Provider) : List Call × Except SetupError Unit :=
  if p.offersSharedKeys then p.make (calls .server ++ calls .client) else ([], .error .noSharedKeys)

/-- The one key there is, whatever identity the peer announces. -/
def serverKey (secret : Secret) (_identity : Option String) : Bytes := secret.value

/-- No identity and the one key there is, whatever hint the peer gives. -/
def clientKey (secret : Secret) (_hint : Option String) : Option String × Bytes :=
  (none, secret.value)

end Handover.Transport
