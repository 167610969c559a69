import Handover.Text.Cut
import Handover.Text.Numeral

/-! Addresses of the internet protocol in text form. An address of version four is four decimal
octets; one of version six is eight hexadecimal groups, of which one run of zeros may be left out
and the last two may be written as an address of version four. -/

set_option autoImplicit false

namespace Handover

inductive Address where
  | v4 (value : Nat)
  | v6 (value : Nat)
  deriving DecidableEq, Repr

namespace Address

open Handover.Text

/-- One to three digits, without a leading zero, at most 255. -/
def octet? (text : List Char) : Option Nat :=
  if text.isEmpty || !text.all Char.isDigit || decide (3 < text.length) then none
  else if text.head? = some '0' ∧ text ≠ ['0'] then none
  else if natOf text ≤ 255 then some (natOf text) else none

def v4Value? (text : List Char) : Option Nat :=
  match (split '.' text).map octet? with
  | [some a, some b, some c, some d] => some (((a * 256 + b) * 256 + c) * 256 + d)
  | _ => none

def hexValue? (c : Char) : Option Nat :=
  if '0' ≤ c ∧ c ≤ '9' then some (c.toNat - 48)
  else if 'a' ≤ c ∧ c ≤ 'f' then some (c.toNat - 87)
  else if 'A' ≤ c ∧ c ≤ 'F' then some (c.toNat - 55)
  else none

def group? (text : List Char) : Option Nat :=
  if text.isEmpty || decide (4 < text.length) then none
  else (text.mapM hexValue?).map fun digits =>
    digits.foldl (fun value digit => 16 * value + digit) 0

def groups? (pieces : List (List Char)) : Option (List Nat) := pieces.mapM group?

/-- The groups of the pieces between colons, the last of which may be an address of version four. -/
def withTail (pieces : List (List Char)) : Option (List (List Char)) :=
  match pieces.getLast? with
  | none => none
  | some last =>
      if '.' ∈ last then
        (v4Value? last).map fun value =>
          pieces.dropLast ++ [Nat.toDigits 16 (value / 65536), Nat.toDigits 16 (value % 65536)]
      else some pieces

/-- Pieces before and after the run left out, with an empty piece at the very end of either side
taken for part of the run. -/
def aroundGap (high low : List (List Char)) : Option (List Nat × List Nat) :=
  let high := if high.head? = some [] then high.drop 1 else high
  let low := if low.getLast? = some [] then low.dropLast else low
  match groups? high, groups? low with
  | some h, some l => if h.length + l.length < 8 then some (h, l) else none
  | _, _ => none

/-- Eight groups out of the pieces between colons. An empty piece inside is the run left out. -/
def expand (pieces : List (List Char)) : Option (List Nat) :=
  if pieces.length < 3 then none
  else match withTail pieces with
    | none => none
    | some pieces =>
        if 9 < pieces.length then none
        else
          let first := pieces.take 1
          let middle := (pieces.drop 1).dropLast
          let last := pieces.drop (pieces.length - 1)
          match middle.count [] with
          | 0 => if pieces.length = 8 then groups? pieces else none
          | 1 =>
              let high := first ++ middle.takeWhile (fun piece => !piece.isEmpty)
              let low := (middle.dropWhile (fun piece => !piece.isEmpty)).drop 1 ++ last
              if (high.head? = some [] ∧ 1 < high.length) ∨
                  (low.getLast? = some [] ∧ 1 < low.length) then none
              else (aroundGap high low).map fun (h, l) =>
                h ++ List.replicate (8 - (h.length + l.length)) 0 ++ l
          | _ => none

def v6Value? (text : List Char) : Option Nat :=
  (expand (split ':' text)).map fun groups =>
    groups.foldl (fun value group => 65536 * value + group) 0

/-- A zone is what follows a percent sign; it is not empty and holds no further one. -/
def zoneOk (text : List Char) : Bool :=
  if '%' ∈ text then !(after '%' text).isEmpty && !((after '%' text).contains '%') else true

def parse? (text : List Char) : Option Address :=
  match v4Value? text with
  | some value => some (v4 value)
  | none => if zoneOk text then (v6Value? (before '%' text)).map v6 else none

/-- An address of the host itself. One of the smaller family that is mapped into the larger is not looked
into, here and below; a later address library than the one followed does look into it. -/
def isLoopback : Address → Bool
  | v4 value => value >>> 24 == 127
  | v6 value => value == 1

def isUnspecified : Address → Bool
  | v4 value => value == 0
  | v6 value => value == 0

def isUsable (a : Address) : Bool := !a.isLoopback && !a.isUnspecified

end Address

end Handover
