import Handover.Decimal.Binary64

/-! The shortest decimal that reads back as a given binary64 value, and of those the nearest to
it. It is found on finer and finer decimal grids: on each one, only the two neighbours of the value
can read back. -/

set_option autoImplicit false

namespace Handover.Binary64

/-- `digits * 10 ^ exponent`. -/
structure Decimal where
  digits : Nat
  exponent : Int
  deriving DecidableEq, Repr

/-- Where the first digit of a positive quotient stands: `10 ^ n ≤ num / den < 10 ^ (n + 1)`,
searched from a lower bound on. -/
def leadingPlace (num den : Nat) : Int :=
  let bits : Int := (num.log2 : Int) - (den.log2 : Int) - 1
  let start : Int := bits * 30103 / 100000 - 1
  let reaches (n : Int) : Bool :=
    if 0 ≤ n then decide (den * Nat.pow 10 n.toNat ≤ num) else decide (den ≤ num * Nat.pow 10 (-n).toNat)
  [start + 1, start + 2, start + 3].foldl (fun best n => if reaches n then n else best) start

/-- The neighbours of a quotient on the grid of multiples of `10 ^ exponent`, the nearer first;
of two equally near, the even one. -/
def neighbours (num den : Nat) (exponent : Int) : List Nat :=
  let scaledNum := if 0 ≤ exponent then num else num * Nat.pow 10 (-exponent).toNat
  let scaledDen := if 0 ≤ exponent then den * Nat.pow 10 exponent.toNat else den
  let nearest := roundQuotient scaledNum scaledDen
  let below := scaledNum / scaledDen
  if nearest = below then [below, below + 1] else [below + 1, below]

/-- The first grid with a neighbour that reads back; seventeen digits always do. -/
def shortestFrom (magnitude num den : Nat) (place : Int) : (digits : Nat) → (grids : Nat) → Decimal
  | digits, 0 => ⟨(neighbours num den (place - digits)).headD 0, place - digits⟩
  | digits, grids + 1 =>
      let exponent := place - digits
      match (neighbours num den exponent).find? fun candidate =>
          (ofDecimal false candidate exponent).bits.toNat == magnitude with
      | some candidate => ⟨candidate, exponent⟩
      | none => shortestFrom magnitude num den place (digits + 1) grids

/-- The shortest decimal for `mantissa * 2 ^ exponent`, a positive finite value. -/
def shortest (mantissa : Nat) (exponent : Int) : Decimal :=
  let num := if 0 ≤ exponent then mantissa * Nat.pow 2 exponent.toNat else mantissa
  let den := if 0 ≤ exponent then 1 else Nat.pow 2 (-exponent).toNat
  shortestFrom (magnitudeOfRatio num den) num den (leadingPlace num den) 0 17

/-- How a decimal is laid out: positional from `10 ^ least` up to below `10 ^ limit`. -/
structure Layout where
  least : Int
  limit : Int

/-- A value is positional from `0.0001` up to below `10 ^ 16`, with a point in any case; outside,
its exponent has a sign and at least two digits. -/
def Layout.plain : Layout := ⟨-4, 16⟩

def padLeft (width : Nat) (text : List Char) : List Char :=
  List.replicate (width - text.length) '0' ++ text

def significant (digits : List Char) : List Char :=
  match (digits.reverse.dropWhile (· == '0')).reverse with
  | [] => ['0']
  | kept => kept

def layOut (layout : Layout) (d : Decimal) : List Char :=
  let all := (toString d.digits).toList
  let place := d.exponent + all.length - 1
  let digits := significant all
  if layout.least ≤ place ∧ place < layout.limit then
    if place < 0 then '0' :: '.' :: List.replicate (-place - 1).toNat '0' ++ digits
    else
      let before := place.toNat + 1
      let whole := digits.take before ++ List.replicate (before - digits.length) '0'
      let fraction := digits.drop before
      whole ++ '.' :: (if fraction.isEmpty then ['0'] else fraction)
  else
    let mantissa := match digits with
      | first :: second :: rest => first :: '.' :: second :: rest
      | short => short
    mantissa ++ 'e' :: (if place < 0 then '-' else '+') ::
      padLeft 2 (toString place.natAbs).toList

def text (x : Binary64) : List Char :=
  let sign (negative : Bool) : List Char := if negative then ['-'] else []
  match x.reading with
  | .undefined _ => "nan".toList
  | .infinite negative => sign negative ++ "inf".toList
  | .finite negative mantissa exponent =>
      sign negative ++
        if mantissa = 0 then "0.0".toList else layOut Layout.plain (shortest mantissa exponent)

end Handover.Binary64
