/-! Cutting a text at a character: at its first place, at its last place, at every place. -/

set_option autoImplicit false

namespace Handover.Text

/-- What stands before the first `c`; the whole text when there is none. -/
def before (c : Char) (text : List Char) : List Char := text.takeWhile (· != c)

/-- What stands after the first `c`; nothing when there is none. -/
def after (c : Char) (text : List Char) : List Char := (text.dropWhile (· != c)).drop 1

/-- What stands after the last `c`; the whole text when there is none. -/
def afterLast (c : Char) (text : List Char) : List Char := (before c text.reverse).reverse

/-- What stands before the last `c`; nothing when there is none. -/
def beforeLast (c : Char) (text : List Char) : List Char := (after c text.reverse).reverse

/-- The pieces between all places of `c`, one more than there are places. -/
def split (c : Char) : List Char → List (List Char)
  | [] => [[]]
  | first :: rest =>
      if first = c then [] :: split c rest
      else match split c rest with
        | [] => [[first]]
        | piece :: pieces => (first :: piece) :: pieces

theorem before_append_cons {c : Char} {left : List Char} (absent : c ∉ left) (right : List Char) :
    before c (left ++ c :: right) = left := by
  induction left with
  | nil => simp [before]
  | cons first rest ih =>
    simp only [List.mem_cons, not_or] at absent
    have := ih absent.2
    simp_all [before, bne_iff_ne, Ne.symm absent.1]

theorem after_append_cons {c : Char} {left : List Char} (absent : c ∉ left) (right : List Char) :
    after c (left ++ c :: right) = right := by
  induction left with
  | nil => simp [after]
  | cons first rest ih =>
    simp only [List.mem_cons, not_or] at absent
    have := ih absent.2
    simp_all [after, bne_iff_ne, Ne.symm absent.1]

theorem before_of_not_mem {c : Char} {text : List Char} (absent : c ∉ text) :
    before c text = text := by
  induction text with
  | nil => rfl
  | cons first rest ih =>
    simp only [List.mem_cons, not_or] at absent
    have := ih absent.2
    simp_all [before, bne_iff_ne, Ne.symm absent.1]

theorem afterLast_append_cons {c : Char} {right : List Char} (absent : c ∉ right)
    (left : List Char) : afterLast c (left ++ c :: right) = right := by
  have : (left ++ c :: right).reverse = right.reverse ++ c :: left.reverse := by simp
  rw [afterLast, this, before_append_cons (by simpa using absent), List.reverse_reverse]

theorem beforeLast_append_cons {c : Char} {right : List Char} (absent : c ∉ right)
    (left : List Char) : beforeLast c (left ++ c :: right) = left := by
  have : (left ++ c :: right).reverse = right.reverse ++ c :: left.reverse := by simp
  rw [beforeLast, this, after_append_cons (by simpa using absent), List.reverse_reverse]

theorem split_ne_nil (c : Char) (text : List Char) : split c text ≠ [] := by
  cases text with
  | nil => simp [split]
  | cons first rest => rw [split]; split <;> (try split) <;> simp

end Handover.Text
