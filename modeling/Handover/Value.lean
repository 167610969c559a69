import Handover.Decimal.Shortest
import Handover.Text.Numeral
import Handover.Text.Quoted

/-! Plain data of any shape. A caller marks a payload with such a value and gets it back unchanged;
it is compared and shown, never looked into. -/

set_option autoImplicit false

namespace Handover

inductive Value where
  | nothing
  | truth (b : Bool)
  | whole (n : Int)
  | real (x : Binary64)
  | text (s : String)
  | items (values : List Value)
  | fields (entries : List (String × Value))
  deriving Repr, Inhabited

namespace Value

/-- Numbers are compared by what they stand for; truth values count as zero and one. There is one
undefined number, which is the same as itself. -/
inductive Amount where
  | scaled (mantissa : Int) (exponent : Int)
  | infinite (negative : Bool)
  | undefined

def Amount.same : Amount → Amount → Bool
  | .scaled m e, .scaled n f =>
      let low := min e f
      m <<< (e - low).toNat == n <<< (f - low).toNat
  | .infinite a, .infinite b => a == b
  | .undefined, .undefined => true
  | _, _ => false

def amount? : Value → Option Amount
  | truth b => some (.scaled b.toNat 0)
  | whole n => some (.scaled n 0)
  | real x => match x.reading with
    | .finite negative mantissa exponent =>
        some (.scaled (Binary64.signed negative mantissa) exponent)
    | .infinite negative => some (.infinite negative)
    | .undefined _ => some .undefined
  | _ => none

/-- Equal numbers are the same whatever their form, and so are fields in another order. -/
def same : Value → Value → Bool
  | nothing, nothing => true
  | text s, text t => s == t
  | items vs, items ws => sameItems vs ws
  | fields vs, fields ws => vs.length == ws.length && sameFields vs ws
  | v, w => match v.amount?, w.amount? with
    | some a, some b => a.same b
    | _, _ => false
where
  sameItems : List Value → List Value → Bool
    | [], [] => true
    | v :: vs, w :: ws => same v w && sameItems vs ws
    | _, _ => false
  sameFields : List (String × Value) → List (String × Value) → Bool
    | [], _ => true
    | (key, v) :: vs, ws =>
        (match ws.lookup key with
          | some w => same v w
          | none => false) && sameFields vs ws

def shown : Value → List Char
  | nothing => "None".toList
  | truth true => "True".toList
  | truth false => "False".toList
  | whole n => Text.decimal n
  | real x => x.text
  | text s => Text.quoted s.toList
  | items values => '[' :: shownItems values ++ [']']
  | fields entries => '\x7b' :: shownFields entries ++ ['\x7d']
where
  shownItems : List Value → List Char
    | [] => []
    | [v] => shown v
    | v :: w :: rest => shown v ++ ',' :: ' ' :: shownItems (w :: rest)
  shownFields : List (String × Value) → List Char
    | [] => []
    | [(key, v)] => Text.quoted key.toList ++ ':' :: ' ' :: shown v
    | (key, v) :: next :: rest =>
        Text.quoted key.toList ++ ':' :: ' ' :: shown v ++ ',' :: ' ' :: shownFields (next :: rest)

/-- The text of a value on its own: a text stands for itself. -/
def plain : Value → List Char
  | text s => s.toList
  | v => v.shown

end Value

end Handover
