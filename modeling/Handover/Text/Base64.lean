import Handover.Bytes

/-! Base64 with the URL-safe alphabet. Writing leaves out the padding. Reading is strict: it
accepts both alphabets, and padding only where it completes a group of four characters. -/

set_option autoImplicit false

namespace Handover.Base64

inductive Flaw where
  | leadingPadding
  | excessAfterPadding
  | foreignCharacter
  | paddingInside
  /-- One character is left over after this many whole bytes. -/
  | loneCharacter (bytes : Nat)
  | missingPadding
  deriving DecidableEq, Repr

def Flaw.message : Flaw → String
  | .leadingPadding => "Leading padding not allowed"
  | .excessAfterPadding => "Excess data after padding"
  | .foreignCharacter => "Only base64 data is allowed"
  | .paddingInside => "Discontinuous padding not allowed"
  | .loneCharacter bytes =>
      "Invalid base64-encoded string: number of data characters (" ++
        toString (bytes / 3 * 4 + 1) ++ ") cannot be 1 more than a multiple of 4"
  | .missingPadding => "Incorrect padding"

def digit (value : Nat) : Char :=
  if value < 26 then Char.ofNat (65 + value)
  else if value < 52 then Char.ofNat (71 + value)
  else if value < 62 then Char.ofNat (value - 4)
  else if value = 62 then '-'
  else '_'

/-- The value of a character of either alphabet. -/
def digit? (c : Char) : Option Nat :=
  if 'A' ≤ c ∧ c ≤ 'Z' then some (c.toNat - 65)
  else if 'a' ≤ c ∧ c ≤ 'z' then some (c.toNat - 71)
  else if '0' ≤ c ∧ c ≤ '9' then some (c.toNat + 4)
  else if c = '-' ∨ c = '+' then some 62
  else if c = '_' ∨ c = '/' then some 63
  else none

theorem digit?_digit : ∀ value < 64, digit? (digit value) = some value := by decide

/-- Three bytes give four characters; one or two left over give two or three. -/
def encode : Bytes → List Char
  | [] => []
  | [x] => [digit (x.toNat / 4), digit (x.toNat % 4 * 16)]
  | [x, y] =>
      [digit (x.toNat / 4), digit (x.toNat % 4 * 16 + y.toNat / 16), digit (y.toNat % 16 * 4)]
  | x :: y :: z :: rest =>
      digit (x.toNat / 4) :: digit (x.toNat % 4 * 16 + y.toNat / 16) ::
        digit (y.toNat % 16 * 4 + z.toNat / 64) :: digit (z.toNat % 64) :: encode rest

theorem length_encode (bytes : Bytes) : (encode bytes).length = (8 * bytes.length + 5) / 6 := by
  fun_induction encode bytes with
  | case1 => rfl
  | case2 => simp
  | case3 => simp
  | case4 x y z rest ih => simp only [List.length_cons, ih]; omega

/-- Progress through a text: the place in the current group of four, its bits that fill no byte
yet, the padding read in it, and the bytes read so far, the latest first. -/
structure Progress where
  place : Nat
  carry : Nat
  pads : Nat
  padded : Bool
  bytes : Bytes
  deriving DecidableEq, Repr

def Progress.start : Progress := ⟨0, 0, 0, false, []⟩

def Progress.take (p : Progress) (value : Nat) : Progress :=
  match p.place with
  | 0 => { p with place := 1, carry := value, pads := 0 }
  | 1 => { p with place := 2, carry := value % 16, pads := 0
                  bytes := UInt8.ofNat (p.carry * 4 + value / 16) :: p.bytes }
  | 2 => { p with place := 3, carry := value % 4, pads := 0
                  bytes := UInt8.ofNat (p.carry * 16 + value / 4) :: p.bytes }
  | _ => { p with place := 0, carry := 0, pads := 0
                  bytes := UInt8.ofNat (p.carry * 64 + value) :: p.bytes }

/-- What a text that ends here stands for. -/
def Progress.finish (p : Progress) : Except Flaw Bytes :=
  if p.place = 0 then .ok p.bytes.reverse
  else if p.place = 1 then .error (.loneCharacter p.bytes.length)
  else .error .missingPadding

/-- Padding counts only from the third place of a group on, and ends the text when the group is
complete. Before the third place it is passed over, but no character may follow it. -/
def Progress.read (p : Progress) : List Char → Except Flaw Bytes
  | [] => p.finish
  | c :: rest =>
      if c = '=' then
        if p.place < 2 then { p with padded := true }.read rest
        else if p.place + p.pads + 1 < 4 then
          { p with padded := true, pads := p.pads + 1 }.read rest
        else if rest.isEmpty then .ok p.bytes.reverse
        else .error .excessAfterPadding
      else
        match digit? c with
        | none => .error .foreignCharacter
        | some value => if p.padded then .error .paddingInside else (p.take value).read rest

def decode : List Char → Except Flaw Bytes
  | '=' :: _ => .error .leadingPadding
  | text => Progress.start.read text

end Handover.Base64
