import Handover.Secret

/-! Base64 read back. A text that was written for some bytes, filled up with padding, is read as these bytes;
so a secret is read back from its text. -/

set_option autoImplicit false

namespace Handover

namespace Base64

theorem digit_ne_padding : ∀ value < 64, digit value ≠ '=' := by decide

theorem exists_digit {bytes : Bytes} {c : Char} (written : c ∈ encode bytes) :
    ∃ value < 64, c = digit value := by
  have small (byte : UInt8) : byte.toNat < 256 := byte.toNat_lt
  fun_induction encode bytes with
  | case1 => cases written
  | case2 x =>
    have := small x
    simp only [List.mem_cons, List.not_mem_nil, or_false] at written
    obtain rfl | rfl := written <;> exact ⟨_, by omega, rfl⟩
  | case3 x y =>
    have := small x
    have := small y
    simp only [List.mem_cons, List.not_mem_nil, or_false] at written
    obtain rfl | rfl | rfl := written <;> exact ⟨_, by omega, rfl⟩
  | case4 x y z rest ih =>
    have := small x
    have := small y
    have := small z
    simp only [List.mem_cons] at written
    obtain rfl | rfl | rfl | rfl | later := written
    · exact ⟨_, by omega, rfl⟩
    · exact ⟨_, by omega, rfl⟩
    · exact ⟨_, by omega, rfl⟩
    · exact ⟨_, by omega, rfl⟩
    · exact ih later

theorem read_digit {p : Progress} (clean : p.padded = false) {value : Nat} (small : value < 64)
    (rest : List Char) : p.read (digit value :: rest) = (p.take value).read rest := by
  rw [Progress.read, if_neg (digit_ne_padding value small), digit?_digit value small]
  simp [clean]

theorem ofNat_eq {x : UInt8} {value : Nat} (same : value = x.toNat) : UInt8.ofNat value = x := by
  rw [same, UInt8.ofNat_toNat]

variable {earlier : Bytes} {carry pads : Nat}

/-! Each byte of a group of three is spread over two characters: the later of them begins with the bits that
the earlier one lacks, and what it holds beyond them is carried on. -/

theorem read_first (x : UInt8) {next : Nat} (small : next < 16) (rest : List Char) :
    (Progress.mk 0 carry pads false earlier).read
        (digit (x.toNat / 4) :: digit (x.toNat % 4 * 16 + next) :: rest) =
      (Progress.mk 2 next 0 false (x :: earlier)).read rest := by
  have bounded := x.toNat_lt
  have whole : UInt8.ofNat (x.toNat / 4 * 4 + (x.toNat % 4 * 16 + next) / 16) = x :=
    ofNat_eq (by omega)
  have left : (x.toNat % 4 * 16 + next) % 16 = next := by omega
  rw [read_digit rfl (by omega), read_digit rfl (by omega)]
  simp only [Progress.take, whole, left]

theorem read_second (y : UInt8) {next : Nat} (small : next < 4) (rest : List Char) :
    (Progress.mk 2 (y.toNat / 16) pads false earlier).read (digit (y.toNat % 16 * 4 + next) :: rest) =
      (Progress.mk 3 next 0 false (y :: earlier)).read rest := by
  have bounded := y.toNat_lt
  have whole : UInt8.ofNat (y.toNat / 16 * 16 + (y.toNat % 16 * 4 + next) / 4) = y :=
    ofNat_eq (by omega)
  have left : (y.toNat % 16 * 4 + next) % 4 = next := by omega
  rw [read_digit rfl (by omega)]
  simp only [Progress.take, whole, left]

theorem read_third (z : UInt8) (rest : List Char) :
    (Progress.mk 3 (z.toNat / 64) pads false earlier).read (digit (z.toNat % 64) :: rest) =
      (Progress.mk 0 0 0 false (z :: earlier)).read rest := by
  have whole : UInt8.ofNat (z.toNat / 64 * 64 + z.toNat % 64) = z := ofNat_eq (by omega)
  rw [read_digit rfl (by omega)]
  simp only [Progress.take, whole]

theorem filled_group (a b c d : Char) (text : List Char) :
    Secret.filled (a :: b :: c :: d :: text) = a :: b :: c :: d :: Secret.filled text := by
  have same : (text.length + 4) % 4 = text.length % 4 := Nat.add_mod_right _ 4
  simp [Secret.filled, same]

/-- Groups of three bytes are read one after another, and padding ends the text at once. -/
theorem read_encode (bytes : Bytes) :
    (Progress.mk 0 carry pads false earlier).read (Secret.filled (encode bytes)) =
      .ok (earlier.reverse ++ bytes) := by
  fun_induction encode bytes generalizing earlier carry pads with
  | case1 => simp [Secret.filled, Progress.read, Progress.finish]
  | case2 x =>
    show (Progress.mk 0 carry pads false earlier).read
      (digit (x.toNat / 4) :: digit (x.toNat % 4 * 16 + 0) :: ['=', '=']) = _
    rw [read_first x (by decide)]
    simp [Progress.read]
  | case3 x y =>
    have bounded := y.toNat_lt
    show (Progress.mk 0 carry pads false earlier).read
      (digit (x.toNat / 4) :: digit (x.toNat % 4 * 16 + y.toNat / 16) ::
        digit (y.toNat % 16 * 4 + 0) :: ['=']) = _
    rw [read_first x (by omega), read_second y (by decide)]
    simp [Progress.read]
  | case4 x y z rest ih =>
    have second := y.toNat_lt
    have third := z.toNat_lt
    rw [filled_group, read_first x (by omega), read_second y (by omega), read_third z, ih]
    simp

theorem decode_filled (bytes : Bytes) : decode (Secret.filled (encode bytes)) = .ok bytes := by
  have whole : decode (Secret.filled (encode bytes)) =
      Progress.start.read (Secret.filled (encode bytes)) := by
    unfold decode
    split
    -- No text for bytes begins with padding.
    · next rest padded =>
      cases text : encode bytes with
      | nil => simp [text, Secret.filled] at padded
      | cons first others =>
        obtain ⟨value, small, rfl⟩ := exists_digit (text ▸ List.mem_cons_self : first ∈ encode bytes)
        rw [text, Secret.filled, List.cons_append] at padded
        exact absurd (List.head_eq_of_cons_eq padded) (digit_ne_padding value small)
    · rfl
  rw [whole]
  exact read_encode bytes

end Base64

namespace Secret

theorem exists_digit {s : Secret} {c : Char} (written : c ∈ s.encode) :
    ∃ value < 64, c = Base64.digit value := Base64.exists_digit written

theorem decode_encode (s : Secret) : decode s.encode = .ok s := by
  have plain : (filled s.encode).all isAscii = true := by
    have ascii : ∀ value < 64, isAscii (Base64.digit value) = true := by decide
    rw [filled, List.all_append, Bool.and_eq_true]
    constructor
    · rw [List.all_eq_true]
      intro c written
      obtain ⟨value, small, rfl⟩ := exists_digit written
      exact ascii value small
    · simp [isAscii]
  unfold decode
  dsimp only
  rw [if_pos plain, encode, Base64.decode_filled]
  exact ofBytes_value s

end Secret

end Handover
