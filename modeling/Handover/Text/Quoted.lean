import Handover.Bytes
import Handover.Text.Printable

/-! Quoted text, as messages and log records show it: single quotes unless only double ones avoid
escapes, and escapes for what cannot be printed. -/

set_option autoImplicit false

namespace Handover.Text

def hexCode : (width : Nat) → (code : Nat) → List Char
  | 0, _ => []
  | width + 1, code => hexCode width (code / 16) ++ [hexDigit (code % 16)]

/-- The shortest of the three escapes by number that holds the character. -/
def numbered (c : Char) : List Char :=
  if c.toNat < 0x100 then '\\' :: 'x' :: hexCode 2 c.toNat
  else if c.toNat < 0x10000 then '\\' :: 'u' :: hexCode 4 c.toNat
  else '\\' :: 'U' :: hexCode 8 c.toNat

def escaped (quote c : Char) : List Char :=
  if c = quote ∨ c = '\\' then ['\\', c]
  else if c = '\n' then ['\\', 'n']
  else if c = '\r' then ['\\', 'r']
  else if c = '\t' then ['\\', 't']
  else if isPrintable c then [c]
  else numbered c

/-- Double quotes serve a text that holds a single quote and no double one. -/
def quoteFor (text : List Char) : Char :=
  if '\'' ∈ text ∧ '"' ∉ text then '"' else '\''

def quoted (text : List Char) : List Char :=
  quoteFor text :: text.flatMap (escaped (quoteFor text)) ++ [quoteFor text]

end Handover.Text
