import Handover.Uri
import Mathlib.Tactic.ByContra

/-! The text of an address of version six. It has a colon, and before its zone no other characters than
hexadecimal digits, colons and the points of an address of version four. -/

set_option autoImplicit false

namespace Handover

namespace Text

theorem mem_split {c x : Char} {text : List Char} (member : x ∈ text) :
    x = c ∨ ∃ piece ∈ split c text, x ∈ piece := by
  induction text with
  | nil => cases member
  | cons first rest ih =>
    by_cases cuts : first = c
    · rw [split, if_pos cuts]
      obtain rfl | later := List.mem_cons.mp member
      · exact .inl cuts
      · obtain same | ⟨piece, among, held⟩ := ih later
        · exact .inl same
        · exact .inr ⟨piece, List.mem_cons_of_mem _ among, held⟩
    · rw [split, if_neg cuts]
      cases pieces : split c rest with
      | nil => exact absurd pieces (split_ne_nil c rest)
      | cons piece others =>
        dsimp only
        obtain rfl | later := List.mem_cons.mp member
        · exact .inr ⟨_, List.mem_cons_self, List.mem_cons_self⟩
        · rw [pieces] at ih
          obtain same | ⟨other, among, held⟩ := ih later
          · exact .inl same
          · obtain rfl | among := List.mem_cons.mp among
            · exact .inr ⟨_, List.mem_cons_self, List.mem_cons_of_mem _ held⟩
            · exact .inr ⟨other, List.mem_cons_of_mem _ among, held⟩

theorem split_of_not_mem {c : Char} {text : List Char} (absent : c ∉ text) : split c text = [text] := by
  induction text with
  | nil => rfl
  | cons first rest ih =>
    simp only [List.mem_cons, not_or] at absent
    rw [split, if_neg (Ne.symm absent.1), ih absent.2]

end Text

namespace Address

open Handover.Text

theorem isSome_of_mapM {α β : Type} {f : α → Option β} {xs : List α}
    (all : (xs.mapM f).isSome = true) : ∀ x ∈ xs, (f x).isSome = true := by
  induction xs with
  | nil => nofun
  | cons first rest ih =>
    rw [List.mapM_cons] at all
    cases here : f first with
    | none => simp [here] at all
    | some y =>
      cases later : rest.mapM f with
      | none => simp [here, later] at all
      | some ys =>
        rw [later] at ih
        intro x member
        obtain rfl | member := List.mem_cons.mp member
        · rw [here]
          rfl
        · exact ih rfl x member

/-! ## Characters of the pieces -/

theorem hexValue_of_isDigit {c : Char} (digit : c.isDigit = true) : (hexValue? c).isSome = true := by
  have range : '0' ≤ c ∧ c ≤ '9' := by
    simpa [Char.isDigit, Char.le_def, UInt32.le_iff_toNat_le] using digit
  rw [hexValue?, if_pos range]
  rfl

theorem hex_of_group {piece : List Char} (group : (group? piece).isSome = true) :
    ∀ c ∈ piece, (hexValue? c).isSome = true := by
  unfold group? at group
  split at group
  · cases group
  · exact isSome_of_mapM (by simpa using group)

theorem digits_of_octet {piece : List Char} (octet : (octet? piece).isSome = true) :
    ∀ c ∈ piece, c.isDigit = true := by
  unfold octet? at octet
  split at octet
  · cases octet
  · next plain =>
    simp only [Bool.or_eq_true, not_or, Bool.not_eq_true, Bool.not_eq_false'] at plain
    exact List.all_eq_true.mp plain.1.2

def isPieceChar (c : Char) : Bool := (hexValue? c).isSome || c == '.'

theorem ascii_of_isPieceChar {c : Char} (piece : isPieceChar c = true) : c.toNat < 128 := by
  obtain hex | rfl : (hexValue? c).isSome = true ∨ c = '.' := by
    simpa [isPieceChar] using piece
  · have bound {last : Char} (under : c ≤ last) (small : last.toNat < 128) : c.toNat < 128 :=
      Nat.lt_of_le_of_lt under small
    unfold hexValue? at hex
    split at hex
    · next range => exact bound range.2 (by decide)
    · split at hex
      · next range => exact bound range.2 (by decide)
      · split at hex
        · next range => exact bound range.2 (by decide)
        · cases hex
  · decide

theorem piece_of_v4 {text : List Char} (value : (v4Value? text).isSome = true) :
    ∀ c ∈ text, isPieceChar c = true := by
  unfold v4Value? at value
  split at value
  · next octets =>
    have digits : ∀ piece ∈ split '.' text, ∀ c ∈ piece, c.isDigit = true := by
      intro piece among
      have read : octet? piece ∈ (split '.' text).map octet? := List.mem_map_of_mem among
      rw [octets] at read
      refine digits_of_octet (Option.isSome_iff_ne_none.mpr fun none => ?_)
      simp [none] at read
    intro c member
    obtain rfl | ⟨piece, among, held⟩ := mem_split (c := '.') member
    · rfl
    · simp [isPieceChar, hexValue_of_isDigit (digits piece among c held)]
  · cases value

theorem pieces_of_withTail {pieces groups : List (List Char)} (tail : withTail pieces = some groups)
    (plain : ∀ group ∈ groups, ∀ c ∈ group, isPieceChar c = true) :
    ∀ piece ∈ pieces, ∀ c ∈ piece, isPieceChar c = true := by
  unfold withTail at tail
  split at tail
  · cases tail
  · next last ends =>
    split at tail
    · obtain ⟨value, found, rfl⟩ := Option.map_eq_some_iff.mp tail
      obtain ⟨others, rfl⟩ := List.getLast?_eq_some_iff.mp ends
      intro piece among
      obtain early | same := List.mem_append.mp among
      · exact plain piece (List.mem_append_left _ (by simpa using early))
      · obtain rfl := List.mem_singleton.mp same
        exact piece_of_v4 (by simp [found])
    · cases tail
      exact plain

/-! ## Groups -/

/-- A piece that stands for a group, or for a part of the run left out. -/
def Stands (piece : List Char) : Prop := piece = [] ∨ (group? piece).isSome = true

theorem Stands.hex {piece : List Char} (stands : Stands piece) : ∀ c ∈ piece, isPieceChar c = true := by
  obtain rfl | group := stands
  · nofun
  · intro c member
    simp [isPieceChar, hex_of_group group c member]

theorem stands_of_groups {pieces : List (List Char)} {values : List Nat}
    (read : groups? pieces = some values) : ∀ piece ∈ pieces, Stands piece := by
  intro piece among
  exact .inr (isSome_of_mapM (by rw [← groups?, read]; rfl) piece among)

theorem stands_of_aroundGap {high low : List (List Char)} {parts : List Nat × List Nat}
    (read : aroundGap high low = some parts) : ∀ piece ∈ high ++ low, Stands piece := by
  unfold aroundGap at read
  dsimp only at read
  split at read
  · next h l above below =>
    intro piece among
    obtain among | among := List.mem_append.mp among
    -- Only an empty piece at the very end is passed over.
    · split at above
      · next empty =>
        cases high with
        | nil => cases among
        | cons first others =>
          obtain rfl := Option.some.inj empty
          obtain rfl | later := List.mem_cons.mp among
          · exact .inl rfl
          · exact stands_of_groups above piece later
      · exact stands_of_groups above piece among
    · split at below
      · next empty =>
        obtain ⟨others, rfl⟩ := List.getLast?_eq_some_iff.mp empty
        obtain early | same := List.mem_append.mp among
        · exact stands_of_groups below piece (by simpa using early)
        · exact .inl (List.mem_singleton.mp same)
      · exact stands_of_groups below piece among
  · cases read

theorem mem_around {α : Type} {x : α} {xs : List α} (member : x ∈ xs) :
    x ∈ xs.take 1 ∨ x ∈ (xs.drop 1).dropLast ∨ x ∈ xs.drop (xs.length - 1) := by
  cases xs with
  | nil => cases member
  | cons first others =>
    obtain rfl | later := List.mem_cons.mp member
    · exact .inl List.mem_cons_self
    · right
      obtain rfl | ⟨init, last, rfl⟩ := List.eq_nil_or_concat others
      · cases later
      · simpa using later

/-- The pieces inside are those before the run left out, an empty one for it, and those after it. -/
theorem stands_of_middle {first middle last : List (List Char)}
    (stands : ∀ piece ∈ first ++ middle.takeWhile (fun piece => !piece.isEmpty) ++
      ((middle.dropWhile (fun piece => !piece.isEmpty)).drop 1 ++ last), Stands piece)
    {piece : List Char} (among : piece ∈ middle) : Stands piece := by
  have parted := List.takeWhile_append_dropWhile (p := fun piece : List Char => !piece.isEmpty) (l := middle)
  rw [← parted] at among
  obtain before | after := List.mem_append.mp among
  · exact stands piece (by simp [before])
  · cases rest : middle.dropWhile fun piece => !piece.isEmpty with
    | nil => simp [rest] at after
    | cons gap others =>
      rw [rest] at after stands
      obtain rfl | later := List.mem_cons.mp after
      · have empty := List.head?_dropWhile_not (fun piece : List Char => !piece.isEmpty) middle
        exact .inl (by simpa [rest] using empty)
      · exact stands piece (by simp [later])

theorem stands_of_expand {pieces groups : List (List Char)} {values : List Nat}
    (tail : withTail pieces = some groups) (read : expand pieces = some values) :
    ∀ group ∈ groups, Stands group := by
  unfold expand at read
  rw [tail] at read
  split at read
  · cases read
  · dsimp only at read
    split at read
    · cases read
    · split at read
      · split at read
        · exact stands_of_groups read
        · cases read
      · split at read
        · cases read
        · obtain ⟨parts, around, -⟩ := Option.map_eq_some_iff.mp read
          have stands := stands_of_aroundGap around
          intro group among
          obtain first | middle | last := mem_around among
          · exact stands group (by simp [first])
          · exact stands_of_middle stands middle
          · exact stands group (by simp [last])
      · cases read

theorem three_of_expand {pieces : List (List Char)} {values : List Nat}
    (read : expand pieces = some values) : 3 ≤ pieces.length := by
  by_contra few
  rw [expand, if_pos (by omega)] at read
  cases read

/-! ## The text -/

theorem chars_of_v6Value {text : List Char} {value : Nat} (read : v6Value? text = some value) :
    ':' ∈ text ∧ ∀ c ∈ text, c = ':' ∨ isPieceChar c = true := by
  obtain ⟨values, read, -⟩ := Option.map_eq_some_iff.mp read
  constructor
  · by_contra absent
    have three := three_of_expand read
    rw [split_of_not_mem absent] at three
    simp at three
  · have pieces : ∀ piece ∈ split ':' text, ∀ c ∈ piece, isPieceChar c = true := by
      cases tail : withTail (split ':' text) with
      | none => simp [expand, tail] at read
      | some groups =>
        exact pieces_of_withTail tail fun group among => (stands_of_expand tail read group among).hex
    intro c member
    obtain same | ⟨piece, among, held⟩ := mem_split (c := ':') member
    · exact .inl same
    · exact .inr (pieces piece among c held)

theorem chars_of_v6 {text : List Char} {value : Nat} (read : parse? text = some (.v6 value)) :
    ':' ∈ before '%' text ∧ ∀ c ∈ before '%' text, c = ':' ∨ isPieceChar c = true := by
  unfold parse? at read
  split at read
  · cases read
  · split at read
    · obtain ⟨number, read, -⟩ := Option.map_eq_some_iff.mp read
      exact chars_of_v6Value read
    · cases read

end Address

end Handover
