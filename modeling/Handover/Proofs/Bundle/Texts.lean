import Handover.Bundle
import Mathlib

/-! What is done to the texts of a bundle. Blanks around a text are stripped, ASCII text is lowered letter by
letter, and a decimal number is read as what was written. -/

set_option autoImplicit false

namespace Handover.Text

/-! ## Cuts -/

theorem before_append_after {c : Char} {text : List Char} (present : c ∈ text) :
    before c text ++ c :: after c text = text := by
  induction text with
  | nil => cases present
  | cons first rest ih =>
    by_cases here : first = c
    · simp [before, after, here]
    · have later : c ∈ rest := by simpa [Ne.symm here] using present
      simpa [before, after, here] using ih later

/-! ## Blanks -/

theorem strip_append {left right : List Char} (before : ∀ c ∈ left, isBlank c = true)
    (after : ∀ c ∈ right, isBlank c = true) (text : List Char) :
    strip (left ++ text ++ right) = strip text := by
  have drop {blanks : List Char} (all : ∀ c ∈ blanks, isBlank c = true) (text : List Char) :
      (blanks ++ text).dropWhile isBlank = text.dropWhile isBlank := by
    rw [List.dropWhile_append, List.dropWhile_eq_nil_iff.mpr all]
    rfl
  have reversed : ∀ c ∈ right.reverse, isBlank c = true := by simpa using after
  unfold strip
  rw [List.append_assoc, drop before, List.dropWhile_append]
  split
  -- A text of blanks only leaves nothing of what follows it either.
  · next empty =>
    rw [List.isEmpty_iff.mp empty, List.dropWhile_eq_nil_iff.mpr after]
  · rw [List.reverse_append, drop reversed]

/-! ## ASCII -/

theorem forall_ascii {p : Char → Prop} (all : ∀ code < 128, p (Char.ofNat code)) {c : Char}
    (ascii : c.toNat < 128) : p c := by
  have holds := all c.toNat ascii
  rwa [Char.ofNat_toNat] at holds

theorem ascii_of_isAlphanum {c : Char} (letter : c.isAlphanum = true) : c.toNat < 128 := by
  simp only [Char.isAlphanum, Char.isAlpha, Char.isUpper, Char.isLower, Char.isDigit, Bool.or_eq_true,
    Bool.and_eq_true, decide_eq_true_eq, ge_iff_le, UInt32.le_iff_toNat_le] at letter
  have code : c.toNat = c.val.toNat := rfl
  have upper : 'Z'.val.toNat = 90 := rfl
  have lower : 'z'.val.toNat = 122 := rfl
  have digit : '9'.val.toNat = 57 := rfl
  omega

theorem isAlphanum_of_isAlpha {c : Char} (letter : c.isAlpha = true) : c.isAlphanum = true := by
  simp [Char.isAlphanum, letter]

theorem lowerChar_ascii {c : Char} (ascii : c.toNat < 128) : lowerChar c = [c.toLower] :=
  forall_ascii (p := fun c => lowerChar c = [c.toLower]) (by decide +kernel) ascii

theorem lowerAfter_ascii {text : List Char} (ascii : ∀ c ∈ text, c.toNat < 128) (cased : Bool) :
    lowerAfter cased text = text.map Char.toLower := by
  induction text generalizing cased with
  | nil => rfl
  | cons first rest ih =>
    have small := ascii first List.mem_cons_self
    have other : first.toNat ≠ 0x3a3 := by omega
    rw [lowerAfter, if_neg other, lowerChar_ascii small,
      ih (fun c member => ascii c (List.mem_cons_of_mem _ member))]
    rfl

theorem lower_ascii {text : List Char} (ascii : ∀ c ∈ text, c.toNat < 128) :
    lower text = text.map Char.toLower := lowerAfter_ascii ascii false

theorem lower_eq_self {text : List Char} (ascii : ∀ c ∈ text, c.toNat < 128)
    (small : ∀ c ∈ text, c.isUpper = false) : lower text = text := by
  have kept : ∀ c ∈ text, c.toLower = id c := by
    intro c member
    exact Char.toLower_eq_of_not_isUpper (by simp [small c member])
  rw [lower_ascii ascii, List.map_congr_left kept, List.map_id]

/-! ## Decimals -/

theorem decimal_ofNat (n : Nat) : decimal n = Nat.toDigits 10 n := by
  show (Nat.repr n).toList = _
  rw [Nat.repr_eq_ofList_toDigits, String.toList_ofList]

theorem natOf_toDigits (n : Nat) : natOf (Nat.toDigits 10 n) = n := by
  have read := @Nat.ofDigitChars_ten_toDigits n
  rwa [Nat.ofDigitChars_eq_foldl] at read

end Handover.Text
