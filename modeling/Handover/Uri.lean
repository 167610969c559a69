import Handover.Address
import Handover.Text.Lowercase
import Handover.Text.Quoted

/-! The parts of a URI that a bundle uses: the scheme, and the authority with its user name, host
and port. Paths, queries and fragments are passed over, and nothing is percent-decoded. -/

set_option autoImplicit false

namespace Handover.Uri

open Handover.Text

inductive Flaw where
  | brackets
  | futureAddress
  | bracketedV4
  | notAnAddress (host : List Char)
  /-- Compatibility forms of some characters would change where the authority is cut. -/
  | confusable (authority : List Char)
  | portNotANumber (port : List Char)
  | portTooLong (digits : Nat)
  | portOutOfRange
  deriving DecidableEq, Repr

def Flaw.message : Flaw → String
  | .brackets => "Invalid IPv6 URL"
  | .futureAddress => "IPvFuture address is invalid"
  | .bracketedV4 => "An IPv4 address cannot be in brackets"
  | .notAnAddress host =>
      String.ofList (quoted host) ++ " does not appear to be an IPv4 or IPv6 address"
  | .confusable authority =>
      "netloc '" ++ String.ofList authority ++
        "' contains invalid characters under NFKC normalization"
  | .portNotANumber port =>
      "Port could not be cast to integer value as " ++ String.ofList (quoted port)
  | .portTooLong digits =>
      "Exceeds the limit (" ++ toString digitLimit ++
        " digits) for integer string conversion: value has " ++ toString digits ++
        " digits; use sys.set_int_max_str_digits() to increase the limit"
  | .portOutOfRange => "Port out of range 0-65535"

structure Parts where
  /-- In lower case; empty when the text has none. -/
  scheme : List Char
  authority : List Char
  deriving DecidableEq, Repr

def isSchemeChar (c : Char) : Bool := c.isAlphanum || c == '+' || c == '-' || c == '.'

def isScheme : List Char → Bool
  | [] => false
  | first :: rest => first.isAlpha && rest.all isSchemeChar

def splitScheme (text : List Char) : List Char × List Char :=
  if ':' ∈ text ∧ isScheme (before ':' text) then
    ((before ':' text).map Char.toLower, after ':' text)
  else ([], text)

/-- Controls and spaces before the text, and line breaks and tabs inside it, do not count. -/
def cleaned (text : List Char) : List Char :=
  (text.dropWhile fun c => decide (c.toNat ≤ 0x20)).filter fun c =>
    !(c == '\t' || c == '\n' || c == '\r')

def endsAuthority (c : Char) : Bool := c == '/' || c == '?' || c == '#'

def authorityOf : List Char → List Char
  | '/' :: '/' :: rest => rest.takeWhile fun c => !endsAuthority c
  | _ => []

/-- Characters whose compatibility form holds one of the characters that cut an authority. -/
def confusables : List Nat :=
  [0x2047, 0x2048, 0x2049, 0x2100, 0x2101, 0x2105, 0x2106, 0x2a74, 0xfe13, 0xfe16, 0xfe55, 0xfe56,
    0xfe5f, 0xfe6b, 0xff03, 0xff0f, 0xff1a, 0xff1f, 0xff20]

def isConfusable (c : Char) : Bool := confusables.contains c.toNat

def isHexDigit (c : Char) : Bool := (Address.hexValue? c).isSome

/-- A version in hexadecimal between `v` and a point, and then at least one character. -/
def isFutureAddress (host : List Char) : Bool :=
  let version := (host.drop 1).takeWhile isHexDigit
  let rest := (host.drop 1).dropWhile isHexDigit
  !version.isEmpty && rest.head? == some '.' && decide (1 < rest.length) && !rest.contains '\n'

/-- What stands between brackets must be an address of version six or of a later one. -/
def checkBracketed (host : List Char) : Except Flaw Unit :=
  if host.head? = some 'v' then
    if isFutureAddress host then .ok () else .error .futureAddress
  else match Address.parse? host with
    | some (.v6 _) => .ok ()
    | some (.v4 _) => .error .bracketedV4
    | none => .error (.notAnAddress host)

def hostAndPort (authority : List Char) : List Char := afterLast '@' authority

/-- The text between the brackets, with nothing before them and a colon after them, if anything.
Without an opening bracket it is the text before the colon. -/
def checkBrackets (authority : List Char) : Except Flaw Unit :=
  let place := hostAndPort authority
  if '[' ∈ place then
    let inside := after '[' place
    let tail := after ']' inside
    if (before '[' place).isEmpty && (tail.isEmpty || tail.head? == some ':') then
      checkBracketed (before ']' inside)
    else .error .brackets
  else checkBracketed (before ':' place)

def checkAuthority (authority : List Char) : Except Flaw Unit :=
  let opened := authority.contains '['
  let closed := authority.contains ']'
  let bracketed := if opened != closed then .error .brackets
    else if opened then checkBrackets authority
    else .ok ()
  match bracketed with
  | .error flaw => .error flaw
  | .ok () => if authority.any isConfusable then .error (.confusable authority) else .ok ()

def split (text : List Char) : Except Flaw Parts :=
  let (scheme, rest) := splitScheme (cleaned text)
  let authority := authorityOf rest
  match checkAuthority authority with
  | .ok () => .ok ⟨scheme, authority⟩
  | .error flaw => .error flaw

namespace Parts

/-- The user information up to its first colon; empty when there is none. -/
def userName (p : Parts) : List Char := before ':' (beforeLast '@' p.authority)

def place (p : Parts) : List Char × List Char :=
  let place := hostAndPort p.authority
  if '[' ∈ place then
    let inside := after '[' place
    (before ']' inside, after ':' (after ']' inside))
  else (before ':' place, after ':' place)

/-- The host in lower case, a zone left as it is. -/
def host (p : Parts) : List Char :=
  let written := p.place.1
  if '%' ∈ written then lower (before '%' written) ++ '%' :: after '%' written else lower written

def port (p : Parts) : Except Flaw (Option Nat) :=
  let written := p.place.2
  if written.isEmpty then .ok none
  else if !written.all Char.isDigit then .error (.portNotANumber written)
  else if digitLimit < written.length then .error (.portTooLong written.length)
  else if natOf written ≤ 65535 then .ok (some (natOf written))
  else .error .portOutOfRange

end Parts

end Handover.Uri
