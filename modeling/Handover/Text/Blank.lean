import Handover.Text.Ranges

/-! White space: the space separators of Unicode and the characters whose bidirectional class is
white space, a paragraph separator or a segment separator. It is stripped from the ends of a
text. -/

set_option autoImplicit false

namespace Handover.Text

def blanks : Ranges := [
  (0x9, 0xd), (0x1c, 0x20), (0x85, 0x85), (0xa0, 0xa0), (0x1680, 0x1680), (0x2000, 0x200a),
  (0x2028, 0x2029), (0x202f, 0x202f), (0x205f, 0x205f), (0x3000, 0x3000)]

def isBlank (c : Char) : Bool := blanks.has c

/-- A text without the blanks at its ends. -/
def strip (text : List Char) : List Char :=
  ((text.dropWhile isBlank).reverse.dropWhile isBlank).reverse

theorem strip_eq_self {text : List Char} (first : ∀ c ∈ text.head?, isBlank c = false)
    (last : ∀ c ∈ text.getLast?, isBlank c = false) : strip text = text := by
  have start : text.dropWhile isBlank = text := by
    cases text with
    | nil => rfl
    | cons c rest => simp [first c (by simp)]
  have stop : text.reverse.dropWhile isBlank = text.reverse := by
    rw [← List.head?_reverse] at last
    cases h : text.reverse with
    | nil => rfl
    | cons c rest => rw [h] at last; simp [last c (by simp)]
  simp [strip, start, stop]

end Handover.Text
