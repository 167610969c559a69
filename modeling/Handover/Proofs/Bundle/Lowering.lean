import Handover.Proofs.Bundle.Reading

/-! A host in lower case. Letter case says nothing in the text of an address, so the text in lower case is one
of the same address. A host that can stand in brackets can do so as it was read, and reading it again changes
nothing. -/

set_option autoImplicit false

namespace Handover

namespace Text

/-! ## Letters -/

theorem toLower_cases (c : Char) :
    c.toLower = c ∨ (c.isAlpha = true ∧ c.toLower.isAlpha = true ∧ c.toNat < 128) := by
  by_cases upper : c.isUpper = true
  · have letter : c.isAlpha = true := by simp [Char.isAlpha, upper]
    have ascii := ascii_of_isAlphanum (isAlphanum_of_isAlpha letter)
    have kept := forall_ascii (p := fun c => c.isAlpha = true → c.toLower.isAlpha = true)
      (by decide) ascii letter
    exact .inr ⟨letter, kept, ascii⟩
  · exact .inl (Char.toLower_eq_of_not_isUpper upper)

theorem toLower_eq_iff {mark : Char} (plain : mark.isAlpha = false) (c : Char) :
    c.toLower = mark ↔ c = mark := by
  obtain same | ⟨letter, lower, -⟩ := toLower_cases c
  · rw [same]
  · constructor
    · rintro rfl
      simp [plain] at lower
    · rintro rfl
      simp [plain] at letter

/-- What letter case does not touch is the same of a character in lower case. -/
theorem congr_toLower {β : Type} {f : Char → β}
    (ascii : ∀ code < 128, f (Char.ofNat code).toLower = f (Char.ofNat code)) (c : Char) :
    f c.toLower = f c := by
  obtain same | ⟨-, -, small⟩ := toLower_cases c
  · rw [same]
  · exact forall_ascii (p := fun c => f c.toLower = f c) ascii small

theorem isDigit_toLower (c : Char) : c.toLower.isDigit = c.isDigit :=
  congr_toLower (f := Char.isDigit) (by decide) c

theorem mem_map_toLower {mark : Char} (plain : mark.isAlpha = false) {text : List Char} :
    mark ∈ text.map Char.toLower ↔ mark ∈ text := by
  simp [toLower_eq_iff plain]

theorem split_map_toLower {mark : Char} (plain : mark.isAlpha = false) (text : List Char) :
    split mark (text.map Char.toLower) = (split mark text).map (List.map Char.toLower) := by
  induction text with
  | nil => rfl
  | cons first rest ih =>
    rw [List.map_cons, split, split, ih]
    simp only [toLower_eq_iff plain]
    split
    · rfl
    · cases split mark rest <;> rfl

end Text

namespace Address

open Handover.Text

/-! ## Addresses -/

abbrev lowerPiece : List Char → List Char := List.map Char.toLower

theorem hexValue?_toLower (c : Char) : hexValue? c.toLower = hexValue? c :=
  congr_toLower (f := hexValue?) (by decide) c

theorem octet?_lower (piece : List Char) : octet? (lowerPiece piece) = octet? piece := by
  have digit : Char.isDigit ∘ Char.toLower = Char.isDigit := funext isDigit_toLower
  by_cases digits : piece.all Char.isDigit = true
  · have kept : ∀ c ∈ piece, c.toLower = id c := by
      intro c member
      have one : c.isDigit = true := List.all_eq_true.mp digits c member
      exact forall_ascii (p := fun c => c.isDigit = true → c.toLower = c) (by decide)
        (ascii_of_isAlphanum (by simp [Char.isAlphanum, one])) one
    rw [lowerPiece, List.map_congr_left kept, List.map_id]
  · have none : (lowerPiece piece).all Char.isDigit = piece.all Char.isDigit := by
      rw [List.all_map, digit]
    simp [octet?, none, digits]

theorem v4Value?_lower (text : List Char) : v4Value? (lowerPiece text) = v4Value? text := by
  have each : octet? ∘ lowerPiece = octet? := funext octet?_lower
  rw [v4Value?, split_map_toLower (by decide), List.map_map, each]
  rfl

theorem group?_lower (piece : List Char) : group? (lowerPiece piece) = group? piece := by
  have each : hexValue? ∘ Char.toLower = hexValue? := funext hexValue?_toLower
  simp only [group?, lowerPiece, List.isEmpty_map, List.length_map, List.mapM_map, each]

theorem groups?_lower (pieces : List (List Char)) : groups? (pieces.map lowerPiece) = groups? pieces := by
  have each : group? ∘ lowerPiece = group? := funext group?_lower
  rw [groups?, List.mapM_map, each]
  rfl

theorem lower_toDigits (n : Nat) : lowerPiece (Nat.toDigits 16 n) = Nat.toDigits 16 n := by
  have digit : ∀ value < 16, (Nat.digitChar value).toLower = Nat.digitChar value := by decide
  induction n using Nat.strongRecOn with
  | ind n ih =>
    by_cases few : n < 16
    · rw [Nat.toDigits_of_lt_base few]
      simp [digit n few]
    · have high := ih (n / 16) (by omega)
      rw [lowerPiece] at high ⊢
      rw [Nat.toDigits_of_base_le (by decide) (by omega), List.map_append, high]
      simp [digit (n % 16) (by omega)]

theorem withTail_lower (pieces : List (List Char)) :
    withTail (pieces.map lowerPiece) = (withTail pieces).map (List.map lowerPiece) := by
  unfold withTail
  rw [List.getLast?_map]
  cases pieces.getLast? with
  | none => rfl
  | some last =>
    simp only [Option.map_some, mem_map_toLower (show Char.isAlpha '.' = false by decide), v4Value?_lower]
    split
    · cases v4Value? last with
      | none => rfl
      | some value => simp [List.map_dropLast, lower_toDigits]
    · rfl

theorem aroundGap_lower (high low : List (List Char)) :
    aroundGap (high.map lowerPiece) (low.map lowerPiece) = aroundGap high low := by
  have empty (ends : Option (List Char)) : ends.map lowerPiece = some [] ↔ ends = some [] := by
    simp
  simp only [aroundGap, List.head?_map, List.getLast?_map, empty, ← List.map_drop, ← List.map_dropLast,
    ← apply_ite (List.map lowerPiece), groups?_lower]

theorem count_lower (pieces : List (List Char)) : (pieces.map lowerPiece).count [] = pieces.count [] := by
  induction pieces with
  | nil => rfl
  | cons piece others ih => simp only [List.map_cons, List.count_cons, ih, beq_iff_eq, List.map_eq_nil_iff]

theorem expand_lower (pieces : List (List Char)) : expand (pieces.map lowerPiece) = expand pieces := by
  have ends (piece : Option (List Char)) : piece.map lowerPiece = some [] ↔ piece = some [] := by
    simp
  have filled : (fun piece : List Char => !piece.isEmpty) ∘ lowerPiece = fun piece => !piece.isEmpty := by
    funext piece
    simp
  rw [expand, expand, List.length_map, withTail_lower]
  cases withTail pieces with
  | none => rfl
  | some groups =>
    simp only [Option.map_some, List.length_map, ← List.map_take, ← List.map_drop, ← List.map_dropLast,
      count_lower, List.takeWhile_map, List.dropWhile_map, filled, ← List.map_append, List.head?_map,
      List.getLast?_map, ends, aroundGap_lower, groups?_lower]

theorem v6Value?_lower (text : List Char) : v6Value? (text.map Char.toLower) = v6Value? text := by
  rw [v6Value?, split_map_toLower (by decide), expand_lower]
  rfl

end Address

namespace Uri

open Handover.Text

/-! ## Hosts -/

/-- A text with its letters lowered up to the percent sign. -/
def lowerName : List Char → List Char
  | [] => []
  | c :: rest => if c = '%' then c :: rest else c.toLower :: lowerName rest

theorem lowered_eq_lowerName {text : List Char} (ascii : ∀ c ∈ text, c.toNat < 128) :
    lowered text = lowerName text := by
  have part : ∀ c ∈ before '%' text, c.toNat < 128 := fun c member =>
    ascii c (List.takeWhile_subset _ member)
  rw [lowered, lower_ascii part, lower_ascii ascii]
  clear ascii part
  induction text with
  | nil => rfl
  | cons c rest ih =>
    by_cases zone : c = '%'
    · simp [lowerName, before, after, zone]
    · simp only [lowerName, if_neg zone, ← ih, List.mem_cons, Ne.symm zone, false_or]
      simp only [before, after, List.takeWhile_cons, List.dropWhile_cons, bne_iff_ne, ne_eq, zone]
      split <;> simp

theorem takeWhile_lowerName {p : Char → Bool} (kept : ∀ c, p c.toLower = p c) (stops : p '%' = false)
    (text : List Char) :
    (lowerName text).takeWhile p = (text.takeWhile p).map Char.toLower ∧
      (lowerName text).dropWhile p = lowerName (text.dropWhile p) := by
  fun_induction lowerName text with
  | case1 => exact ⟨rfl, rfl⟩
  | case2 rest => simp [stops, lowerName]
  | case3 c rest other ih =>
    by_cases holds : p c = true
    · simp [kept, holds, ih]
    · simp [kept, holds, lowerName, other]

theorem before_lowerName (text : List Char) :
    before '%' (lowerName text) = (before '%' text).map Char.toLower := by
  refine (takeWhile_lowerName (fun c => ?_) (by decide) text).1
  simp [bne, toLower_eq_iff (show Char.isAlpha '%' = false by decide)]

theorem after_lowerName (text : List Char) : after '%' (lowerName text) = after '%' text := by
  fun_induction lowerName text with
  | case1 => rfl
  | case2 => rfl
  | case3 c rest other ih =>
    have low : c.toLower ≠ '%' := mt (toLower_eq_iff (by decide) c).mp other
    simpa [after, other, low] using ih

theorem lowerName_lowerName (text : List Char) : lowerName (lowerName text) = lowerName text := by
  have twice (c : Char) : c.toLower.toLower = c.toLower :=
    congr_toLower (f := Char.toLower) (by decide) c
  fun_induction lowerName text with
  | case1 => rfl
  | case2 => rfl
  | case3 c rest other ih =>
    have low : c.toLower ≠ '%' := mt (toLower_eq_iff (by decide) c).mp other
    rw [lowerName, if_neg low, ih, twice]

theorem mem_lowerName {mark : Char} (plain : mark.isAlpha = false) {text : List Char} :
    mark ∈ lowerName text ↔ mark ∈ text := by
  fun_induction lowerName text with
  | case1 => rfl
  | case2 => rfl
  | case3 c rest other ih => simp only [List.mem_cons, ih, eq_comm (a := mark), toLower_eq_iff plain]

theorem forall_lowerName {p : Char → Prop} {text : List Char} (holds : ∀ c ∈ text, p c ∧ p c.toLower) :
    ∀ c ∈ lowerName text, p c := by
  fun_induction lowerName text with
  | case1 => nofun
  | case2 => exact fun c member => (holds c member).1
  | case3 c rest other ih =>
    rw [List.forall_mem_cons] at holds ⊢
    exact ⟨holds.1.2, ih holds.2⟩

theorem length_lowerName (text : List Char) : (lowerName text).length = text.length := by
  fun_induction lowerName text with
  | case1 => rfl
  | case2 => rfl
  | case3 c rest other ih => rw [List.length_cons, List.length_cons, ih]

/-! ## Brackets -/

theorem parse?_lowerName {text : List Char} {value : Nat}
    (parsed : Address.parse? text = some (.v6 value)) :
    Address.parse? (lowerName text) = some (.v6 value) := by
  have colon : ':' ∈ lowerName text :=
    (mem_lowerName (by decide)).mpr (List.takeWhile_subset _ (Address.chars_of_v6 parsed).1)
  have four : Address.v4Value? (lowerName text) = none := by
    refine Option.eq_none_iff_forall_ne_some.mpr fun value read => ?_
    cases Address.piece_of_v4 (by simp [read]) ':' colon
  have zone : Address.zoneOk (lowerName text) = Address.zoneOk text := by
    simp only [Address.zoneOk, mem_lowerName (show Char.isAlpha '%' = false by decide), after_lowerName]
  rw [Address.parse?, four, zone, before_lowerName, Address.v6Value?_lower]
  unfold Address.parse? at parsed
  split at parsed
  · cases parsed
  · exact parsed

theorem isHexDigit_toLower (c : Char) : isHexDigit c.toLower = isHexDigit c := by
  rw [isHexDigit, isHexDigit, Address.hexValue?_toLower]

theorem isFutureAddress_lowerName (rest : List Char) :
    isFutureAddress ('v' :: lowerName rest) = isFutureAddress ('v' :: rest) := by
  obtain ⟨version, tail⟩ := takeWhile_lowerName isHexDigit_toLower (by decide) rest
  have point (tail : List Char) : ((lowerName tail).head? == some '.') = (tail.head? == some '.') := by
    fun_cases lowerName tail with
    | case1 => rfl
    | case2 => rfl
    | case3 c rest =>
      rw [Bool.eq_iff_iff]
      simp [toLower_eq_iff (show Char.isAlpha '.' = false by decide)]
  have line (tail : List Char) : (lowerName tail).contains '\n' = tail.contains '\n' := by
    simp only [List.contains_eq_mem, mem_lowerName (show Char.isAlpha '\n' = false by decide)]
  simp only [isFutureAddress, List.drop_one, List.tail_cons, version, tail, List.isEmpty_map, length_lowerName,
    point, line]

theorem checkBracketed_lowerName {text : List Char} (sound : checkBracketed text = .ok ()) :
    checkBracketed (lowerName text) = .ok () := by
  by_cases future : text.head? = some 'v'
  · obtain ⟨rest, rfl⟩ := List.head?_eq_some_iff.mp future
    have first : lowerName ('v' :: rest) = 'v' :: lowerName rest := rfl
    rw [checkBracketed, List.head?_cons, if_pos rfl] at sound
    rw [first, checkBracketed, List.head?_cons, if_pos rfl, isFutureAddress_lowerName, sound]
  · rw [checkBracketed, if_neg future] at sound
    split at sound
    · next value parsed => exact Bundle.checkBracketed_of_v6 (parse?_lowerName parsed)
    · cases sound
    · cases sound

end Uri

end Handover
