import Handover.Session.State
import Handover.Transport

/-! How a session comes about: its sink first, then transport security, then the thread of its
worker. A failure leaves no session, and no worker either. -/

set_option autoImplicit false

namespace Handover.Session

inductive OpeningStep where
  /-- The sink's own thread. -/
  | deliveryThread
  | security (call : Transport.Call)
  | note (notice : Notice)
  | workerThread (role : Role)
  deriving Repr

inductive OpeningError where
  /-- A connector needs an endpoint. -/
  | noEndpoint
  | security (error : Transport.SetupError)
  deriving DecidableEq, Repr

def OpeningError.message : OpeningError → String
  | .noEndpoint => "Connector sessions need an endpoint"
  | .security error => error.message

structure Plan where
  role : Role
  secret : Secret
  settings : Settings
  endpoint : Option Endpoint
  /-- Whether the sink has a thread of its own. -/
  ownThread : Bool
  /-- The provider to prepare transport security with, unless that is there already. -/
  provider : Option Transport.Provider

def Plan.listener (secret : Secret) (settings : Settings) (ownThread : Bool)
    (provider : Option Transport.Provider) : Plan :=
  ⟨.listener, secret, settings, none, ownThread, provider⟩

/-- A connector's secret is that of the endpoint. -/
def Plan.connector (endpoint : Endpoint) (settings : Settings) (ownThread : Bool)
    (provider : Option Transport.Provider) : Plan :=
  ⟨.connector, endpoint.secret, settings, some endpoint, ownThread, provider⟩

def Plan.session (p : Plan) : Session where
  role := p.role
  secret := p.secret
  settings := p.settings
  endpoint := p.endpoint
  sink := Sink.new p.ownThread

def Plan.sinkSteps (p : Plan) : List OpeningStep := if p.ownThread then [.deliveryThread] else []

def Plan.securitySteps (p : Plan) : List OpeningStep × Except OpeningError Unit :=
  match p.provider with
  | none => ([], .ok ())
  | some provider =>
      let (calls, outcome) := provider.prepare
      match outcome with
      | .ok () =>
          (calls.map .security ++ [.note (.securityReady (String.ofList p.secret.fingerprint))],
            .ok ())
      | .error error => (calls.map .security, .error (.security error))

def Plan.open (p : Plan) : List OpeningStep × Except OpeningError Session :=
  if p.role = .connector ∧ p.endpoint = none then (p.sinkSteps, .error .noEndpoint)
  else
    let (steps, outcome) := p.securitySteps
    match outcome with
    | .ok () => (p.sinkSteps ++ steps ++ [.workerThread p.role], .ok p.session)
    | .error error => (p.sinkSteps ++ steps, .error error)

end Handover.Session
