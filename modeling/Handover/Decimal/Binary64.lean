/-! Binary floating point of sixty-four bits, by its bit patterns. Rounding is to nearest with ties
to even, in exact arithmetic on whole numbers. -/

set_option autoImplicit false

namespace Handover

structure Binary64 where
  bits : UInt64
  deriving DecidableEq, Repr, Inhabited

/-- What a bit pattern stands for; a finite value is `mantissa * 2 ^ exponent`. -/
inductive Binary64.Reading where
  | finite (negative : Bool) (mantissa : Nat) (exponent : Int)
  | infinite (negative : Bool)
  | undefined (negative : Bool)
  deriving DecidableEq, Repr

namespace Binary64

def infinityBits : Nat := 0x7ff0000000000000

def ofParts (negative : Bool) (magnitude : Nat) : Binary64 :=
  ⟨UInt64.ofNat (if negative then Nat.pow 2 63 + magnitude else magnitude)⟩

def infinity (negative : Bool) : Binary64 := ofParts negative infinityBits

def notANumber (negative : Bool) : Binary64 := ofParts negative 0x7ff8000000000000

def reading (x : Binary64) : Reading :=
  let negative := decide (Nat.pow 2 63 ≤ x.bits.toNat)
  let exponent : Nat := x.bits.toNat / Nat.pow 2 52 % Nat.pow 2 11
  let fraction := x.bits.toNat % Nat.pow 2 52
  if exponent = 0x7ff then if fraction = 0 then .infinite negative else .undefined negative
  else if exponent = 0 then .finite negative fraction (-1074)
  else .finite negative (Nat.pow 2 52 + fraction) ((exponent : Int) - 1075)

/-- The whole number nearest to a quotient, the even one of two. -/
def roundQuotient (num den : Nat) : Nat :=
  let whole := num / den
  let rest := 2 * (num % den)
  if rest < den then whole
  else if den < rest then whole + 1
  else whole + whole % 2

/-- The exponent of the last place of a positive quotient. -/
def lastPlace (num den : Nat) : Int :=
  let guess : Int := (num.log2 : Int) - (den.log2 : Int)
  let below :=
    if 0 ≤ guess then num < den * Nat.pow 2 guess.toNat else num * Nat.pow 2 (-guess).toNat < den
  max (-1074) (if below then guess - 53 else guess - 52)

/-- The bits of the nearest value to a quotient; infinity from the halfway point above the largest
finite value on. -/
def magnitudeOfRatio (num den : Nat) : Nat :=
  if num = 0 then 0
  else
    let place := lastPlace num den
    let whole :=
      if 0 ≤ place then roundQuotient num (den * Nat.pow 2 place.toNat)
      else roundQuotient (num * Nat.pow 2 (-place).toNat) den
    min infinityBits ((place + 1074).toNat * Nat.pow 2 52 + whole)

def ofRatio (negative : Bool) (num den : Nat) : Binary64 :=
  ofParts negative (magnitudeOfRatio num den)

/-- The nearest value to `± mantissa * 10 ^ exponent`. Exponents far outside the range of finite
values are decided without computing the power. -/
def ofDecimal (negative : Bool) (mantissa : Nat) (exponent : Int) : Binary64 :=
  let width : Int := mantissa.log2 / 3 + 1
  if mantissa = 0 ∨ width + exponent < -400 then ofParts negative 0
  else if 400 < exponent then infinity negative
  else if 0 ≤ exponent then ofRatio negative (mantissa * Nat.pow 10 exponent.toNat) 1
  else ofRatio negative mantissa (Nat.pow 10 (-exponent).toNat)

def ofInt (n : Int) : Binary64 := ofRatio (decide (n < 0)) n.natAbs 1

def ofScaled (n : Int) (exponent : Int) : Binary64 :=
  if 0 ≤ exponent then ofRatio (decide (n < 0)) (n.natAbs * Nat.pow 2 exponent.toNat) 1
  else ofRatio (decide (n < 0)) n.natAbs (Nat.pow 2 (-exponent).toNat)

def signed (negative : Bool) (mantissa : Nat) : Int := if negative then -mantissa else mantissa

/-- The sum, rounded once. An undefined operand is kept, the first before the second. -/
def add (x y : Binary64) : Binary64 :=
  match x.reading, y.reading with
  | .undefined _, _ => x
  | _, .undefined _ => y
  | .infinite a, .infinite b => if a = b then x else notANumber true
  | .infinite _, _ => x
  | _, .infinite _ => y
  | .finite a m e, .finite b n f =>
      let low := min e f
      let sum := signed a m <<< (e - low).toNat + signed b n <<< (f - low).toNat
      if sum = 0 then ofParts (a && b) 0 else ofScaled sum low

end Binary64

end Handover
