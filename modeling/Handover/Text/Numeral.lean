import Handover.Text.Blank

/-! Whole numbers as people type them: blanks around, a sign, decimal digits of any script, single
underscores between digits. -/

set_option autoImplicit false

namespace Handover.Text

/-- The zeros of the scripts that have decimal digits; nine digits follow each. -/
def zeros : List Nat := [
  0x30, 0x660, 0x6f0, 0x7c0, 0x966, 0x9e6, 0xa66, 0xae6, 0xb66, 0xbe6, 0xc66, 0xce6, 0xd66,
  0xde6, 0xe50, 0xed0, 0xf20, 0x1040, 0x1090, 0x17e0, 0x1810, 0x1946, 0x19d0, 0x1a80, 0x1a90,
  0x1b50, 0x1bb0, 0x1c40, 0x1c50, 0xa620, 0xa8d0, 0xa900, 0xa9d0, 0xa9f0, 0xaa50, 0xabf0,
  0xff10, 0x104a0, 0x10d30, 0x11066, 0x110f0, 0x11136, 0x111d0, 0x112f0, 0x11450, 0x114d0,
  0x11650, 0x116c0, 0x11730, 0x118e0, 0x11950, 0x11c50, 0x11d50, 0x11da0, 0x16a60, 0x16ac0,
  0x16b50, 0x1d7ce, 0x1d7d8, 0x1d7e2, 0x1d7ec, 0x1d7f6, 0x1e140, 0x1e2f0, 0x1e950, 0x1fbf0]

def decimal? (c : Char) : Option Nat :=
  (zeros.find? fun first => decide (first ≤ c.toNat ∧ c.toNat < first + 10)).map (c.toNat - ·)

/-- The blanks that may surround a number: the four information separators are not among them. -/
def isPadding (c : Char) : Bool := isBlank c && !decide (0x1c ≤ c.toNat ∧ c.toNat ≤ 0x1f)

def unpad (text : List Char) : List Char :=
  ((text.dropWhile isPadding).reverse.dropWhile isPadding).reverse

/-- Digits of any script become the ASCII ones. -/
def plainDigits (text : List Char) : List Char :=
  text.map fun c => match decimal? c with
    | some value => Char.ofNat (48 + value)
    | none => c

/-- Takes out underscores, each of which must stand between two digits. -/
def joinDigits (afterDigit : Bool) : List Char → Option (List Char)
  | [] => some []
  | '_' :: next :: rest =>
      if afterDigit && next.isDigit then (joinDigits true rest).map (next :: ·) else none
  | c :: rest => if c = '_' then none else (joinDigits c.isDigit rest).map (c :: ·)

/-- The characters of a typed number in plain form, its blanks and underscores gone. -/
def plainNumber (text : List Char) : Option (List Char) :=
  joinDigits false (plainDigits (unpad text))

def natOf (digits : List Char) : Nat :=
  digits.foldl (fun value c => 10 * value + (c.toNat - 48)) 0

/-- Whether the sign is a minus, and what follows it. -/
def splitSign : List Char → Bool × List Char
  | '-' :: rest => (true, rest)
  | '+' :: rest => (false, rest)
  | text => (false, text)

/-- At most this many digits are read as a whole number. -/
def digitLimit : Nat := 4300

def readInt? (text : List Char) : Option Int :=
  match plainNumber text with
  | none => none
  | some plain =>
      let (negative, digits) := splitSign plain
      if digits.isEmpty || !digits.all Char.isDigit || decide (digitLimit < digits.length) then none
      else if negative then some (-(natOf digits : Int)) else some (natOf digits)

def decimal (n : Int) : List Char := (toString n).toList

end Handover.Text
