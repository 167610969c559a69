import Handover.Proofs.Bundle.Base64
import Handover.Proofs.Bundle.Texts

/-! Which texts are secrets. A digit spells six bits, and the bytes that are read are these bits, eight at a
time; what is left of them at the end is passed over. Sixteen bytes take twenty-two digits, so a secret has
these, and no more padding than completes the last group of four. -/

set_option autoImplicit false

namespace Handover

/-! ## Bits -/

/-- The last bits of a number, the highest of them first. -/
def bitsOf : Nat → Nat → List Bool
  | 0, _ => []
  | width + 1, n => bitsOf width (n / 2) ++ [n % 2 == 1]

@[simp] theorem length_bitsOf (width n : Nat) : (bitsOf width n).length = width := by
  induction width generalizing n with
  | zero => rfl
  | succ width ih => simp [bitsOf, ih]

theorem bitsOf_append (high upper : Nat) {low lower : Nat} (small : lower < 2 ^ low) :
    bitsOf (high + low) (upper * 2 ^ low + lower) = bitsOf high upper ++ bitsOf low lower := by
  induction low generalizing lower with
  | zero =>
    obtain rfl : lower = 0 := by simpa using small
    simp [bitsOf]
  | succ low ih =>
    have doubled : upper * 2 ^ (low + 1) = 2 * (upper * 2 ^ low) := by ring
    have half : (upper * 2 ^ (low + 1) + lower) / 2 = upper * 2 ^ low + lower / 2 := by omega
    have last : (upper * 2 ^ (low + 1) + lower) % 2 = lower % 2 := by omega
    rw [← Nat.add_assoc, bitsOf, half, last, ih (by rw [pow_succ] at small; omega), bitsOf,
      List.append_assoc]

theorem bitsOf_inj {width m n : Nat} (first : m < 2 ^ width) (second : n < 2 ^ width)
    (same : bitsOf width m = bitsOf width n) : m = n := by
  induction width generalizing m n with
  | zero => simp_all
  | succ width ih =>
    rw [pow_succ] at first second
    obtain ⟨high, low⟩ := List.append_inj' same rfl
    have half := ih (by omega) (by omega) high
    have last : (m % 2 = 1) ↔ (n % 2 = 1) := by simpa using low
    omega

namespace Bytes

def bits (bytes : Bytes) : List Bool := bytes.flatMap fun byte => bitsOf 8 byte.toNat

@[simp] theorem length_bits (bytes : Bytes) : bytes.bits.length = 8 * bytes.length := by
  induction bytes with
  | nil => rfl
  | cons first rest ih =>
    rw [bits] at ih ⊢
    rw [List.flatMap_cons, List.length_append, length_bitsOf, ih, List.length_cons]
    omega

theorem bits_append (first second : Bytes) : (first ++ second).bits = first.bits ++ second.bits :=
  List.flatMap_append

theorem bits_inj {first second : Bytes} (same : first.bits = second.bits) : first = second := by
  have size := congrArg List.length same
  rw [length_bits, length_bits] at size
  induction first generalizing second with
  | nil => exact (List.eq_nil_of_length_eq_zero (by rw [List.length_nil] at size; omega)).symm
  | cons x xs ih =>
    cases second with
    | nil => simp at size
    | cons y ys =>
      obtain ⟨head, tail⟩ := List.append_inj same (by simp)
      have whole : x = y := UInt8.toNat_inj.mp (bitsOf_inj x.toNat_lt y.toNat_lt head)
      rw [List.length_cons, List.length_cons] at size
      rw [whole, ih tail (by omega)]

end Bytes

namespace Base64

/-! ## Digits -/

def alphabet : List Char :=
  "ABCDEFGHIJKLMNOPQRSTUVWXYZabcdefghijklmnopqrstuvwxyz0123456789-_".toList

/-- Whether a character is read as a value: it is the digit of that value, or the one that the older alphabet
has for either of the last two. -/
def Spells (c : Char) (value : Nat) : Prop :=
  alphabet[value]? = some c ∨ (c = '+' ∧ value = 62) ∨ (c = '/' ∧ value = 63)

instance (c : Char) (value : Nat) : Decidable (Spells c value) :=
  inferInstanceAs (Decidable (_ ∨ _))

theorem alphabet_getElem? : ∀ value < 64, alphabet[value]? = some (digit value) := by decide

theorem ascii_of_digit {c : Char} {value : Nat} (read : digit? c = some value) : c.toNat < 128 := by
  have bound {last : Char} (under : c ≤ last) (small : last.toNat < 128) : c.toNat < 128 :=
    Nat.lt_of_le_of_lt under small
  unfold digit? at read
  split at read
  · next range => exact bound range.2 (by decide)
  · split at read
    · next range => exact bound range.2 (by decide)
    · split at read
      · next range => exact bound range.2 (by decide)
      · split at read
        · next same => obtain rfl | rfl := same <;> decide
        · split at read
          · next same => obtain rfl | rfl := same <;> decide
          · cases read

theorem digit?_eq_some_iff {c : Char} {value : Nat} : digit? c = some value ↔ Spells c value := by
  constructor
  · intro read
    have spelled := Text.forall_ascii (p := fun c => ∀ value ∈ digit? c, Spells c value)
      (by decide +kernel) (ascii_of_digit read)
    exact spelled value read
  · rintro (listed | ⟨rfl, rfl⟩ | ⟨rfl, rfl⟩)
    · have small : value < 64 := (List.getElem?_eq_some_iff.mp listed).1
      rw [alphabet_getElem? value small] at listed
      exact Option.some.inj listed ▸ digit?_digit value small
    · rfl
    · rfl

theorem digit_mem_alphabet {value : Nat} (small : value < 64) : digit value ∈ alphabet :=
  List.mem_of_getElem? (alphabet_getElem? value small)

theorem Spells.small {c : Char} {value : Nat} (spells : Spells c value) : value < 64 := by
  obtain listed | ⟨-, rfl⟩ | ⟨-, rfl⟩ := spells
  · exact (List.getElem?_eq_some_iff.mp listed).1
  · decide
  · decide

theorem Spells.ne_padding {c : Char} {value : Nat} (spells : Spells c value) : c ≠ '=' := by
  rintro rfl
  cases digit?_eq_some_iff.mpr spells

theorem forall_of_spelled {digits : List Char} {values : List Nat}
    (spelled : List.Forall₂ Spells digits values) :
    (∀ c ∈ digits, ∃ value, Spells c value) ∧ ∀ value ∈ values, value < 64 := by
  induction spelled with
  | nil => simp
  | cons spells _ ih =>
    simp only [List.forall_mem_cons]
    exact ⟨⟨⟨_, spells⟩, ih.1⟩, spells.small, ih.2⟩

/-! ## Progress -/

namespace Progress

/-- How many bits wait at a place for a byte to be filled. -/
def width (place : Nat) : Nat := (8 - 2 * place) % 8

/-- What has been read of a text after digits of these values: all their bits, in whole bytes but for those
that wait. -/
structure Reads (p : Progress) (values : List Nat) : Prop where
  clean : p.padded = false
  pads : p.pads = 0
  place : p.place = values.length % 4
  small : p.carry < 2 ^ width p.place
  bits : Bytes.bits p.bytes.reverse ++ bitsOf (width p.place) p.carry = values.flatMap (bitsOf 6)

theorem reads_start : start.Reads [] := ⟨rfl, rfl, rfl, by decide, rfl⟩

/-- The bits that wait, and those of the next digit, are a byte and what waits then. -/
theorem bitsOf_regroup {waiting left carry value : Nat} (count : waiting + 6 = 8 + left)
    (held : carry < 2 ^ waiting) (small : value < 64) :
    bitsOf waiting carry ++ bitsOf 6 value =
      bitsOf 8 (UInt8.ofNat ((carry * 64 + value) / 2 ^ left)).toNat ++
        bitsOf left ((carry * 64 + value) % 2 ^ left) := by
  have bound : carry * 64 + value < 2 ^ left * 2 ^ 8 := by
    rw [← pow_add, Nat.add_comm left, ← count, pow_add]
    omega
  have byte : (carry * 64 + value) / 2 ^ left < 2 ^ 8 := Nat.div_lt_of_lt_mul bound
  have whole := bitsOf_append 8 ((carry * 64 + value) / 2 ^ left) (Nat.mod_lt (carry * 64 + value)
    (Nat.two_pow_pos left))
  rw [Nat.mul_comm, Nat.div_add_mod] at whole
  rw [← bitsOf_append waiting carry small, UInt8.toNat_ofNat_of_lt' byte, ← whole, count]
  rfl

theorem Reads.take {p : Progress} {values : List Nat} (reads : p.Reads values) {value : Nat}
    (small : value < 64) : (p.take value).Reads (values ++ [value]) := by
  obtain ⟨place, carry, pads, padded, bytes⟩ := p
  obtain ⟨clean, -, count, held, bits⟩ := reads
  dsimp only at clean count held bits
  have whole (left : Nat) (sizes : width place + 6 = 8 + left) (next last : Nat)
      (first : next = (carry * 64 + value) / 2 ^ left)
      (second : last = (carry * 64 + value) % 2 ^ left) :
      Bytes.bits (UInt8.ofNat next :: bytes).reverse ++ bitsOf left last =
        (values ++ [value]).flatMap (bitsOf 6) := by
    rw [List.reverse_cons, Bytes.bits_append, List.append_assoc, List.flatMap_append, ← bits,
      List.append_assoc, List.flatMap_singleton, bitsOf_regroup sizes held small, first, second]
    rfl
  have longer : (values ++ [value]).length = values.length + 1 := by simp
  have within : place < 4 := by omega
  -- The first digit of a group only waits; each of the others fills a byte.
  interval_cases place
  · obtain rfl : carry = 0 := by simpa [width] using held
    have same : Bytes.bits bytes.reverse ++ bitsOf 6 value = (values ++ [value]).flatMap (bitsOf 6) := by
      rw [List.flatMap_append, ← bits]
      simp [bitsOf, width]
    exact ⟨clean, rfl, show 1 = _ by omega, small, same⟩
  · exact ⟨clean, rfl, show 2 = _ by omega, show value % 16 < 2 ^ 4 by omega,
      whole 4 rfl (carry * 4 + value / 16) (value % 16) (by omega) (by omega)⟩
  · exact ⟨clean, rfl, show 3 = _ by omega, show value % 4 < 2 ^ 2 by omega,
      whole 2 rfl (carry * 16 + value / 4) (value % 4) (by omega) (by omega)⟩
  · have full : (Progress.mk 3 carry pads padded bytes).take value =
        ⟨0, 0, 0, padded, UInt8.ofNat (carry * 64 + value) :: bytes⟩ := rfl
    rw [full]
    have same := whole 0 rfl (carry * 64 + value) 0 (by omega) (by omega)
    exact ⟨clean, rfl, show 0 = _ by omega, show 0 < 2 ^ width 0 by decide, by simpa [width] using same⟩

theorem Reads.foldl {p : Progress} {values : List Nat} (reads : p.Reads values) {more : List Nat}
    (small : ∀ value ∈ more, value < 64) : (more.foldl Progress.take p).Reads (values ++ more) := by
  induction more generalizing p values with
  | nil => simpa using reads
  | cons value more ih =>
    have next := reads.take (small value List.mem_cons_self)
    simpa using ih next fun value member => small value (List.mem_cons_of_mem _ member)

theorem Reads.length {p : Progress} {values : List Nat} (reads : p.Reads values) :
    8 * p.bytes.length + width p.place = 6 * values.length := by
  have size (values : List Nat) : (values.flatMap (bitsOf 6)).length = 6 * values.length := by
    simp [Nat.mul_comm]
  have same := congrArg List.length reads.bits
  rw [size, List.length_append, Bytes.length_bits, length_bitsOf, List.length_reverse] at same
  exact same

theorem take_padded (p : Progress) (value : Nat) : (p.take value).padded = p.padded := by
  unfold take
  split <;> rfl

/-! ## Padding -/

/-- Whether this much padding ends a text here: any amount between two groups, else what the group lacks. -/
def Closes (p : Progress) (padding : Nat) : Prop :=
  p.place = 0 ∨ (2 ≤ p.place ∧ p.place + p.pads + padding = 4)

theorem read_padding {p : Progress} (room : p.place + p.pads < 4) (padding : Nat) (bytes : Bytes) :
    p.read (List.replicate padding '=') = .ok bytes ↔ p.Closes padding ∧ p.bytes.reverse = bytes := by
  induction padding generalizing p with
  | zero =>
    rw [List.replicate_zero, read, finish]
    split
    · next between => simp [Closes, between]
    · next inside =>
      have closed : ¬ p.Closes 0 := by unfold Closes; omega
      split <;> simp [closed]
  | succ padding ih =>
    rw [List.replicate_succ, read, if_pos rfl]
    split
    · next early =>
      rw [ih (p := { p with padded := true }) room]
      refine and_congr_left fun _ => ?_
      simp only [Closes]
      omega
    · next late =>
      split
      · next more =>
        rw [ih (p := { p with padded := true, pads := p.pads + 1 }) (by dsimp only; omega)]
        refine and_congr_left fun _ => ?_
        simp only [Closes]
        omega
      · next last =>
        have same : p.Closes (padding + 1) ↔ padding = 0 := by unfold Closes; omega
        rw [same]
        split
        · next empty => simp_all
        · next further => simp_all

theorem read_past_padding {p : Progress} {rest : List Char} {bytes : Bytes}
    (accepted : p.read ('=' :: rest) = .ok bytes) :
    rest = [] ∨ ∃ q : Progress, q.padded = true ∧ q.read rest = .ok bytes := by
  rw [read, if_pos rfl] at accepted
  split at accepted
  · exact .inr ⟨_, rfl, accepted⟩
  · split at accepted
    · exact .inr ⟨_, rfl, accepted⟩
    · split at accepted
      · next empty => exact .inl (List.isEmpty_iff.mp empty)
      · cases accepted

/-- Sixteen bytes take twenty-two digits, and then half a group is missing. -/
theorem Reads.closes_iff {p : Progress} {values : List Nat} (reads : p.Reads values) (padding : Nat) :
    p.Closes padding ∧ p.bytes.length = 16 ↔ values.length = 22 ∧ padding = 2 := by
  have size := reads.length
  rw [reads.place, width] at size
  rw [Closes, reads.place, reads.pads]
  omega

theorem eq_padding {p : Progress} {rest : List Char} {bytes : Bytes}
    (accepted : p.read ('=' :: rest) = .ok bytes) : rest = List.replicate rest.length '=' := by
  induction rest generalizing p with
  | nil => rfl
  | cons c more ih =>
    obtain empty | ⟨q, padded, later⟩ := read_past_padding accepted
    · cases empty
    · by_cases mark : c = '='
      · subst mark
        rw [List.length_cons, List.replicate_succ, ← ih later]
      · rw [read, if_neg mark] at later
        split at later <;> simp [padded] at later

theorem read_spelled {p : Progress} (clean : p.padded = false) {digits : List Char} {values : List Nat}
    (spelled : List.Forall₂ Spells digits values) (rest : List Char) :
    p.read (digits ++ rest) = (values.foldl Progress.take p).read rest := by
  induction spelled generalizing p with
  | nil => rfl
  | cons spells _ ih =>
    rw [List.cons_append, read, if_neg spells.ne_padding, digit?_eq_some_iff.mpr spells]
    simp only [clean, Bool.false_eq_true, if_false]
    exact ih ((take_padded p _).trans clean)

/-- A text that is read is digits, and padding after them. -/
theorem spelled_of_read {p : Progress} (clean : p.padded = false) {text : List Char} {bytes : Bytes}
    (accepted : p.read text = .ok bytes) : ∃ digits values padding,
      text = digits ++ List.replicate padding '=' ∧ List.Forall₂ Spells digits values := by
  induction text generalizing p with
  | nil => exact ⟨[], [], 0, rfl, .nil⟩
  | cons c rest ih =>
    by_cases mark : c = '='
    · subst mark
      refine ⟨[], [], rest.length + 1, ?_, .nil⟩
      rw [List.nil_append, List.replicate_succ, ← eq_padding accepted]
    · rw [read, if_neg mark] at accepted
      cases known : digit? c with
      | none => simp [known] at accepted
      | some value =>
        simp only [known, clean, Bool.false_eq_true, if_false] at accepted
        obtain ⟨digits, values, padding, rfl, spelled⟩ := ih ((take_padded p value).trans clean) accepted
        exact ⟨c :: digits, value :: values, padding, rfl, .cons (digit?_eq_some_iff.mp known) spelled⟩

end Progress

theorem read_start_iff {digits : List Char} {values : List Nat}
    (spelled : List.Forall₂ Spells digits values) (padding : Nat) (bytes : Bytes) :
    Progress.start.read (digits ++ List.replicate padding '=') = .ok bytes ↔
      (values.foldl Progress.take Progress.start).Closes padding ∧
        (values.foldl Progress.take Progress.start).bytes.reverse = bytes := by
  have reads := Progress.reads_start.foldl (forall_of_spelled spelled).2
  have room := reads.place
  rw [Progress.read_spelled rfl spelled, Progress.read_padding]
  rw [reads.pads]
  omega

end Base64

/-! ## Secrets -/

namespace Secret

/-- A text in which a secret is written: twenty-two digits of these values, and two characters of padding at
most. -/
def Spelling (text : List Char) (values : List Nat) : Prop :=
  ∃ digits padding, text = digits ++ List.replicate padding '=' ∧ padding ≤ 2 ∧ digits.length = 22 ∧
    List.Forall₂ Base64.Spells digits values

theorem decode_eq_ok_iff {text : List Char} {s : Secret} :
    decode text = .ok s ↔
      (filled text).all isAscii = true ∧ Base64.decode (filled text) = .ok s.value := by
  unfold decode
  dsimp only
  split
  · next ascii =>
    split
    · next value read => rw [ofBytes_eq_ok_iff, read]; simp [ascii, eq_comm]
    · next flaw read => simp [read]
  · next foreign => simp [foreign]

/-- What is filled up is padding: the text has the digits, and its share of the padding. -/
theorem padding_of_filled {text digits : List Char} {values : List Nat} {filling padding : Nat}
    (spelled : List.Forall₂ Base64.Spells digits values)
    (same : text ++ List.replicate filling '=' = digits ++ List.replicate padding '=') :
    ∃ own ≤ padding, text = digits ++ List.replicate own '=' := by
  obtain ⟨between, rfl, filler⟩ | ⟨own, rfl, marks⟩ := List.append_eq_append_iff.mp same
  · have none : between = [] := by
      rw [List.eq_nil_iff_forall_not_mem]
      intro c member
      have mark : c = '=' := List.eq_of_mem_replicate (filler ▸ List.mem_append_left _ member)
      obtain ⟨value, spells⟩ := (Base64.forall_of_spelled spelled).1 c (List.mem_append_right _ member)
      exact spells.ne_padding mark
    exact ⟨0, Nat.zero_le _, by simp [none]⟩
  · have size := congrArg List.length marks
    rw [List.length_append, List.length_replicate, List.length_replicate] at size
    have all : own = List.replicate own.length '=' :=
      List.eq_replicate_of_mem fun c member =>
        List.eq_of_mem_replicate (marks ▸ List.mem_append_left _ member)
    exact ⟨own.length, by omega, by rw [← all]⟩

theorem spelling_of_decode {text : List Char} {s : Secret} (accepted : decode text = .ok s) :
    ∃ values, Spelling text values := by
  obtain ⟨-, read⟩ := decode_eq_ok_iff.mp accepted
  have started : Base64.Progress.start.read (filled text) = .ok s.value := by
    unfold Base64.decode at read
    split at read
    · cases read
    · exact read
  obtain ⟨digits, values, padding, same, spelled⟩ := Base64.Progress.spelled_of_read rfl started
  rw [same, Base64.read_start_iff spelled] at started
  obtain ⟨closes, bytes⟩ := started
  have size := congrArg List.length bytes
  rw [List.length_reverse, s.size_eq] at size
  have reads := Base64.Progress.reads_start.foldl (Base64.forall_of_spelled spelled).2
  obtain ⟨count, rfl⟩ := (reads.closes_iff padding).mp ⟨closes, size⟩
  -- What was filled up is no digit, so the digits are all the text's own.
  obtain ⟨own, few, rfl⟩ := padding_of_filled spelled same
  exact ⟨values, digits, own, rfl, few, spelled.length_eq.trans count, spelled⟩

theorem filled_spelling {digits : List Char} {padding : Nat} (few : padding ≤ 2)
    (count : digits.length = 22) :
    filled (digits ++ List.replicate padding '=') = digits ++ List.replicate 2 '=' := by
  have rest : padding + (4 - (22 + padding) % 4) % 4 = 2 := by omega
  rw [filled, List.append_assoc, List.length_append, List.length_replicate, count,
    List.replicate_append_replicate, rest]

theorem decode_of_spelling {text : List Char} {values : List Nat} (spelling : Spelling text values) :
    ∃ s, decode text = .ok s ∧ s.value.bits = (values.flatMap (bitsOf 6)).take 128 := by
  obtain ⟨digits, padding, rfl, few, count, spelled⟩ := spelling
  have reads := Base64.Progress.reads_start.foldl (Base64.forall_of_spelled spelled).2
  have read {bytes : Bytes} := (Base64.read_start_iff spelled 2 bytes).mpr
  set last := values.foldl Base64.Progress.take Base64.Progress.start
  obtain ⟨closes, size⟩ := (reads.closes_iff 2).mpr ⟨spelled.length_eq.symm.trans count, rfl⟩
  let s : Secret := ⟨last.bytes.reverse, by rw [List.length_reverse, size]⟩
  have ascii : (digits ++ List.replicate 2 '=').all isAscii = true := by
    rw [List.all_append, Bool.and_eq_true, List.all_eq_true]
    refine ⟨fun c member => ?_, by decide⟩
    obtain ⟨value, spells⟩ := (Base64.forall_of_spelled spelled).1 c member
    exact decide_eq_true (Base64.ascii_of_digit (Base64.digit?_eq_some_iff.mpr spells))
  have whole : Base64.decode (digits ++ List.replicate 2 '=') = .ok s.value := by
    unfold Base64.decode
    split
    · next rest leading =>
      obtain - | ⟨spells, -⟩ := spelled
      · cases count
      · exact absurd (List.head_eq_of_cons_eq leading) spells.ne_padding
    · exact read ⟨closes, rfl⟩
  have bits : s.value.bits = (values.flatMap (bitsOf 6)).take 128 := by
    rw [← show _ = values.flatMap (bitsOf 6) from reads.bits]
    exact (List.take_left' (by rw [Bytes.length_bits, s.size_eq])).symm
  exact ⟨s, decode_eq_ok_iff.mpr (by rw [filled_spelling few count]; exact ⟨ascii, whole⟩), bits⟩

/-- A text is read as a secret exactly when it is twenty-two digits with no more than two characters of padding;
the secret is then the first hundred and twenty-eight of the bits that they spell. Each secret is written in
URL-safe digits without padding, and read back from them. -/
theorem decode_ok_iff_spelling (text : List Char) (s : Secret) :
    (decode text = .ok s ↔
        ∃ values, Spelling text values ∧ s.value.bits = (values.flatMap (bitsOf 6)).take 128) ∧
      ((∃ t, decode text = .ok t) ↔ ∃ values, Spelling text values) ∧
      ((∃ flaw, decode text = .error flaw) ↔ ¬ ∃ values, Spelling text values) ∧
      s.encode.length = 22 ∧ (∀ c ∈ s.encode, c ∈ Base64.alphabet) ∧ decode s.encode = .ok s := by
  have accepts : (∃ t, decode text = .ok t) ↔ ∃ values, Spelling text values := by
    constructor
    · rintro ⟨t, accepted⟩
      exact spelling_of_decode accepted
    · rintro ⟨values, spelling⟩
      obtain ⟨t, accepted, -⟩ := decode_of_spelling spelling
      exact ⟨t, accepted⟩
  refine ⟨?_, accepts, ?_, s.length_encode, ?_, s.decode_encode⟩
  · constructor
    · intro accepted
      obtain ⟨values, spelling⟩ := spelling_of_decode accepted
      obtain ⟨t, same, bits⟩ := decode_of_spelling spelling
      obtain rfl : s = t := Except.ok.inj (accepted.symm.trans same)
      exact ⟨values, spelling, bits⟩
    · rintro ⟨values, spelling, bits⟩
      obtain ⟨t, accepted, same⟩ := decode_of_spelling spelling
      have value : s.value = t.value := Bytes.bits_inj (bits.trans same.symm)
      obtain rfl : t = s := Except.ok.inj ((ofBytes_value t).symm.trans (ofBytes_eq_ok_iff.mpr value))
      exact accepted
  · rw [← accepts]
    cases decode text <;> simp
  · intro c written
    obtain ⟨value, small, rfl⟩ := exists_digit written
    exact Base64.digit_mem_alphabet small

end Secret

end Handover
