import Handover.Decimal.Binary64
import Handover.Text.Numeral

/-! Numbers of seconds as people type them: decimal notation with an optional exponent, or one of
the words for infinity and for an undefined value. -/

set_option autoImplicit false

namespace Handover.Binary64

open Handover.Text

/-- A decimal in parts: the digits before the point, those after it, and the power of ten. -/
structure Parts where
  whole : List Char
  fraction : List Char
  exponent : Int
  deriving DecidableEq, Repr

def Parts.value (p : Parts) (negative : Bool) : Binary64 :=
  ofDecimal negative (natOf (p.whole ++ p.fraction)) (p.exponent - p.fraction.length)

/-- The exponent part, which may be absent but not empty. -/
def readExponent? : List Char → Option Int
  | [] => some 0
  | c :: rest =>
      if c = 'e' ∨ c = 'E' then
        let (negative, digits) := splitSign rest
        if digits.isEmpty || !digits.all Char.isDigit then none
        else some (if negative then -(natOf digits : Int) else natOf digits)
      else none

/-- At least one digit stands before or after the point. -/
def readParts? (text : List Char) : Option Parts :=
  let whole := text.takeWhile Char.isDigit
  let rest := text.dropWhile Char.isDigit
  let (fraction, rest) := match rest with
    | '.' :: after => (after.takeWhile Char.isDigit, after.dropWhile Char.isDigit)
    | _ => ([], rest)
  if whole.isEmpty && fraction.isEmpty then none
  else (readExponent? rest).map fun exponent => ⟨whole, fraction, exponent⟩

def isWord (text : List Char) (word : String) : Bool := text.map Char.toLower == word.toList

def readUnsigned? (negative : Bool) (text : List Char) : Option Binary64 :=
  if isWord text "inf" || isWord text "infinity" then some (infinity negative)
  else if isWord text "nan" then some (notANumber negative)
  else (readParts? text).map (·.value negative)

def read? (text : List Char) : Option Binary64 :=
  match plainNumber text with
  | none => none
  | some plain =>
      let (negative, rest) := splitSign plain
      readUnsigned? negative rest

end Handover.Binary64
