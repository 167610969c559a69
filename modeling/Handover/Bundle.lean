import Handover.Secret
import Handover.Text.Blank
import Handover.Uri

/-! Bundles: one line of text that tells a peer where to connect and with which secret. A bundle is
written as `scheme://secret@host:port`; the reader takes any URI that has these parts. -/

set_option autoImplicit false

namespace Handover

structure Endpoint where
  host : String
  port : Int
  secret : Secret
  deriving DecidableEq

namespace Bundle

def defaultScheme : String := "pgp+transfer"

/-- A host that holds a colon stands in brackets. -/
def bracketed (host : List Char) : List Char :=
  if ':' ∈ host then '[' :: host ++ [']'] else host

def write (endpoint : Endpoint) (scheme : String) : String :=
  String.ofList <| scheme.toList ++ "://".toList ++ endpoint.secret.encode ++
    '@' :: bracketed endpoint.host.toList ++ ':' :: Text.decimal endpoint.port

inductive Flaw where
  | malformed (flaw : Uri.Flaw)
  | otherScheme (scheme : List Char)
  | noSecret
  | badSecret (flaw : Secret.Flaw)
  | noHost
  | badPort (flaw : Uri.Flaw)
  | noPort
  deriving DecidableEq, Repr

def Flaw.reason : Flaw → String
  | .malformed flaw => flaw.message
  | .otherScheme scheme => "unexpected scheme " ++ String.ofList (Text.quoted scheme)
  | .noSecret => "missing secret"
  | .badSecret flaw => flaw.message
  | .noHost => "missing host"
  | .badPort flaw => "invalid port: " ++ flaw.message
  | .noPort => "missing port"

def Flaw.message (flaw : Flaw) : String := "Invalid connection bundle: " ++ flaw.reason

/-- The scheme of the parts is the expected one in lower case. -/
def checkScheme (parts : Uri.Parts) (scheme : String) : Except Flaw Unit :=
  if parts.scheme = Text.lower scheme.toList then .ok () else .error (.otherScheme parts.scheme)

def readSecret (parts : Uri.Parts) : Except Flaw Secret :=
  if parts.userName.isEmpty then .error .noSecret
  else (Secret.decode parts.userName).mapError .badSecret

def readHost (parts : Uri.Parts) : Except Flaw String :=
  if parts.host.isEmpty then .error .noHost else .ok (String.ofList parts.host)

/-- A port is required, and zero is none. -/
def readPort (parts : Uri.Parts) : Except Flaw Nat :=
  match parts.port with
  | .error flaw => .error (.badPort flaw)
  | .ok none | .ok (some 0) => .error .noPort
  | .ok (some port) => .ok port

def read (text scheme : String) : Except Flaw Endpoint := do
  let parts ← (Uri.split (Text.strip text.toList)).mapError .malformed
  checkScheme parts scheme
  let secret ← readSecret parts
  let host ← readHost parts
  let port ← readPort parts
  return ⟨host, port, secret⟩

end Bundle

end Handover
