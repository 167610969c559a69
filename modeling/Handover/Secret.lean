import Handover.Digest.Sha256
import Handover.Text.Base64
import Handover.Text.Quoted

/-! The short-lived secret that both peers hold. It travels as base64 text; logs show it only by
the first bytes of its digest. -/

set_option autoImplicit false

namespace Handover

structure Secret where
  value : Bytes
  size_eq : value.length = 16
  deriving DecidableEq

namespace Secret

def size : Nat := 16

inductive Flaw where
  | wrongSize (size : Nat)
  | undecodable (flaw : Base64.Flaw)
  /-- The first run of characters outside ASCII, by its start and its characters. -/
  | foreignText (start : Nat) (run : List Char)
  deriving DecidableEq, Repr

def foreignMessage (start : Nat) : List Char → String
  | [c] => "can't encode character '" ++ String.ofList (Text.numbered c) ++
      "' in position " ++ toString start
  | run => "can't encode characters in position " ++ toString start ++ "-" ++
      toString (start + run.length - 1)

def Flaw.message : Flaw → String
  | .wrongSize size => "Secret must be 16 bytes, got " ++ toString size
  | .undecodable flaw => "Secret is not valid base64url: " ++ flaw.message
  | .foreignText start run =>
      "Secret is not valid base64url: 'ascii' codec " ++ foreignMessage start run ++
        ": ordinal not in range(128)"

def ofBytes (value : Bytes) : Except Flaw Secret :=
  if size_eq : value.length = 16 then .ok ⟨value, size_eq⟩ else .error (.wrongSize value.length)

theorem ofBytes_value (s : Secret) : ofBytes s.value = .ok s := by simp [ofBytes, s.size_eq]

theorem ofBytes_eq_ok_iff {value : Bytes} {s : Secret} :
    ofBytes value = .ok s ↔ s.value = value := by
  constructor
  · intro accepted
    unfold ofBytes at accepted
    split at accepted <;> simp_all
    subst accepted; rfl
  · rintro rfl; exact ofBytes_value s

def isAscii (c : Char) : Bool := decide (c.toNat < 128)

def encode (s : Secret) : List Char := Base64.encode s.value

theorem length_encode (s : Secret) : s.encode.length = 22 := by
  simp [encode, Base64.length_encode, s.size_eq]

/-- A text filled up with padding to whole groups of four characters. -/
def filled (text : List Char) : List Char :=
  text ++ List.replicate ((4 - text.length % 4) % 4) '='

def decode (text : List Char) : Except Flaw Secret :=
  let all := filled text
  if all.all isAscii then
    match Base64.decode all with
    | .ok value => ofBytes value
    | .error flaw => .error (.undecodable flaw)
  else
    .error (.foreignText (all.takeWhile isAscii).length
      ((all.dropWhile isAscii).takeWhile fun c => !isAscii c))

/-- Eight hexadecimal digits of the digest, in two groups. -/
def fingerprint (s : Secret) : List Char :=
  let digits := (Bytes.hex ((Sha256.digest s.value).take 4)).map Char.toUpper
  digits.take 4 ++ ' ' :: digits.drop 4

/-- How a secret is shown: never by its value. -/
def shown (s : Secret) : List Char :=
  "PresharedSecret(fingerprint=".toList ++ Text.quoted s.fingerprint ++ [')']

end Secret

end Handover
