import Handover.Proofs.Bundle.Address
import Handover.Proofs.Bundle.Base64
import Handover.Proofs.Bundle.Texts

/-! Bundles read back. The reader cuts a bundle where the writer has put it together, as neither the secret
nor the port holds a character that cuts, and a host that holds a colon stands in brackets. So it comes to
the same endpoint, whatever blanks surround the bundle. -/

set_option autoImplicit false

namespace Handover

open Handover.Text

namespace Uri

/-! ## Characters -/

/-- Whether a character is kept in an authority and does not end it. -/
def stays (c : Char) : Bool :=
  !endsAuthority c && !isConfusable c && !(c == '\t' || c == '\n' || c == '\r')

/-- Whether a character can stand inside a part of an authority; a colon may cut that part all the same. -/
def isInner (c : Char) : Bool := stays c && !(c == '@' || c == '[' || c == ']')

theorem inner_of_isDigit {c : Char} (digit : c.isDigit = true) :
    isInner c = true ∧ isBlank c = false := by
  have ascii : c.toNat < 128 := ascii_of_isAlphanum (by simp [Char.isAlphanum, digit])
  exact forall_ascii (p := fun c => c.isDigit = true → isInner c = true ∧ isBlank c = false)
    (by decide) ascii digit

theorem inner_encode (s : Secret) : (∀ c ∈ s.encode, isInner c = true) ∧ ':' ∉ s.encode := by
  have digits : ∀ value < 64, isInner (Base64.digit value) = true ∧ Base64.digit value ≠ ':' := by
    decide
  constructor
  · intro c written
    obtain ⟨value, small, rfl⟩ := s.exists_digit written
    exact (digits value small).1
  · intro written
    obtain ⟨value, small, same⟩ := s.exists_digit written
    exact (digits value small).2 same.symm

theorem inner_toDigits (port : Nat) : ∀ c ∈ Nat.toDigits 10 port, isInner c = true := fun _ member =>
  (inner_of_isDigit (Nat.isDigit_of_mem_toDigits (by decide) (by decide) member)).1

theorem inner_of_isPieceChar {c : Char} (piece : Address.isPieceChar c = true) :
    isInner c = true ∧ c ≠ 'v' :=
  forall_ascii (p := fun c => Address.isPieceChar c = true → isInner c = true ∧ c ≠ 'v')
    (by decide) (Address.ascii_of_isPieceChar piece) piece

theorem scheme_char {c : Char} (char : isSchemeChar c = true) :
    c.toNat < 128 ∧ stays c = true ∧ c ≠ ':' := by
  have ascii : c.toNat < 128 := by
    simp only [isSchemeChar, Bool.or_eq_true, beq_iff_eq] at char
    obtain ((letter | rfl) | rfl) | rfl := char
    · exact ascii_of_isAlphanum letter
    all_goals decide
  exact forall_ascii (p := fun c => isSchemeChar c = true → c.toNat < 128 ∧ stays c = true ∧ c ≠ ':')
    (by decide) ascii char

theorem scheme_head {c : Char} (letter : c.isAlpha = true) : isBlank c = false ∧ 0x20 < c.toNat :=
  forall_ascii (p := fun c => c.isAlpha = true → isBlank c = false ∧ 0x20 < c.toNat) (by decide)
    (ascii_of_isAlphanum (isAlphanum_of_isAlpha letter)) letter

theorem scheme_parts {scheme : List Char} (valid : isScheme scheme = true) :
    ∃ first rest, scheme = first :: rest ∧ first.isAlpha = true ∧
      ∀ c ∈ scheme, isSchemeChar c = true := by
  cases scheme with
  | nil => cases valid
  | cons first rest =>
    obtain ⟨letter, others⟩ := Bool.and_eq_true_iff.mp valid
    refine ⟨first, rest, rfl, letter, fun c member => ?_⟩
    obtain rfl | later := List.mem_cons.mp member
    · simp [isSchemeChar, isAlphanum_of_isAlpha letter]
    · exact List.all_eq_true.mp others c later

theorem splitScheme_named {head : List Char} (named : isScheme head = true) (behind : List Char) :
    splitScheme (head ++ ':' :: behind) = (head.map Char.toLower, behind) := by
  have noColon : ':' ∉ head := by
    obtain ⟨-, -, -, -, chars⟩ := scheme_parts named
    exact fun member => (scheme_char (chars _ member)).2.2 rfl
  have first : before ':' (head ++ ':' :: behind) = head := before_append_cons noColon behind
  rw [splitScheme, first, if_pos ⟨by simp, named⟩, after_append_cons noColon]

/-- How a host that was written so is read. -/
def lowered (written : List Char) : List Char :=
  if '%' ∈ written then lower (before '%' written) ++ '%' :: after '%' written else lower written

end Uri

namespace Bundle

open Uri

/-- A host that the reader finds again where the writer has put it. -/
structure Fits (host : List Char) : Prop where
  filled : host ≠ []
  inner : ∀ c ∈ host, isInner c = true
  bracketed : ':' ∈ host → checkBracketed host = .ok ()
  lowered : lowered host = host

/-- A host that the reader cuts out where the writer has put it. -/
structure Sited (host : List Char) : Prop where
  inner : ∀ c ∈ host, isInner c = true
  bracketed : ':' ∈ host → checkBracketed host = .ok ()

theorem Fits.sited {host : List Char} (fits : Fits host) : Sited host := ⟨fits.inner, fits.bracketed⟩

/-! ## The authority -/

def place (host : List Char) (port : Nat) : List Char := bracketed host ++ ':' :: Nat.toDigits 10 port

def authority (secret : Secret) (host : List Char) (port : Nat) : List Char :=
  secret.encode ++ '@' :: place host port

theorem notMem_of_inner {text : List Char} (inner : ∀ c ∈ text, isInner c = true) :
    '@' ∉ text ∧ '[' ∉ text ∧ ']' ∉ text := by
  have out (c : Char) (cuts : isInner c = false) : c ∉ text := fun member => by
    simp [inner c member] at cuts
  exact ⟨out '@' (by decide), out '[' (by decide), out ']' (by decide)⟩

section Authority

variable {secret : Secret} {host : List Char} {port : Nat}

theorem place_of_colon (colon : ':' ∈ host) :
    place host port = '[' :: (host ++ ']' :: ':' :: Nat.toDigits 10 port) := by
  simp [place, bracketed, colon]

theorem place_of_plain (plain : ':' ∉ host) : place host port = host ++ ':' :: Nat.toDigits 10 port := by
  simp [place, bracketed, plain]

theorem stays_of_inner {text : List Char} (inner : ∀ c ∈ text, isInner c = true) :
    ∀ c ∈ text, stays c = true := by
  intro c member
  have whole := inner c member
  rw [isInner, Bool.and_eq_true] at whole
  exact whole.1

theorem mem_place {c : Char} (member : c ∈ place host port) :
    c ∈ host ∨ c = '[' ∨ c = ']' ∨ c = ':' ∨ c ∈ Nat.toDigits 10 port := by
  by_cases colon : ':' ∈ host
  · simp only [place_of_colon colon, List.mem_append, List.mem_cons] at member
    tauto
  · simp only [place_of_plain colon, List.mem_append, List.mem_cons] at member
    tauto

theorem stays_authority (sited : Sited host) : ∀ c ∈ authority secret host port, stays c = true := by
  have cuts : stays '@' = true ∧ stays '[' = true ∧ stays ']' = true ∧ stays ':' = true := by
    decide
  intro c member
  simp only [authority, List.mem_append, List.mem_cons] at member
  obtain key | rfl | placed := member
  · exact stays_of_inner (inner_encode secret).1 c key
  · exact cuts.1
  · obtain name | rfl | rfl | rfl | number := mem_place placed
    · exact stays_of_inner sited.inner c name
    · exact cuts.2.1
    · exact cuts.2.2.1
    · exact cuts.2.2.2
    · exact stays_of_inner (inner_toDigits port) c number

theorem notMem_place (sited : Sited host) : '@' ∉ place host port := by
  intro member
  obtain name | other | other | other | number := mem_place member
  · exact (notMem_of_inner sited.inner).1 name
  · cases other
  · cases other
  · cases other
  · exact (notMem_of_inner (inner_toDigits port)).1 number

theorem hostAndPort_authority (sited : Sited host) :
    hostAndPort (authority secret host port) = place host port :=
  afterLast_append_cons (notMem_place sited) _

theorem after_opening (rest : List Char) :
    before '[' ('[' :: rest) = [] ∧ after '[' ('[' :: rest) = rest :=
  ⟨before_append_cons List.not_mem_nil rest, after_append_cons List.not_mem_nil rest⟩

theorem place_authority (sited : Sited host) (scheme : List Char) :
    (Parts.mk scheme (authority secret host port)).place = (host, Nat.toDigits 10 port) := by
  obtain ⟨-, opens, closes⟩ := notMem_of_inner sited.inner
  have number := (notMem_of_inner (inner_toDigits port)).2.1
  have cut : after ':' (':' :: Nat.toDigits 10 port) = Nat.toDigits 10 port :=
    after_append_cons List.not_mem_nil _
  unfold Parts.place
  dsimp only
  rw [hostAndPort_authority sited]
  by_cases colon : ':' ∈ host
  · rw [place_of_colon colon, if_pos List.mem_cons_self, (after_opening _).2, before_append_cons closes,
      after_append_cons closes, cut]
  · have plain : '[' ∉ host ++ ':' :: Nat.toDigits 10 port := by simp [opens, number]
    rw [place_of_plain colon, if_neg plain, before_append_cons colon, after_append_cons colon]

theorem checkBrackets_authority (sited : Sited host) (colon : ':' ∈ host) :
    checkBrackets (authority secret host port) = .ok () := by
  obtain ⟨-, -, closes⟩ := notMem_of_inner sited.inner
  unfold checkBrackets
  dsimp only
  rw [hostAndPort_authority sited, place_of_colon colon, if_pos List.mem_cons_self, (after_opening _).1,
    (after_opening _).2, before_append_cons closes, after_append_cons closes, sited.bracketed colon]
  simp

theorem checkAuthority_authority (sited : Sited host) :
    checkAuthority (authority secret host port) = .ok () := by
  have key := notMem_of_inner (inner_encode secret).1
  have number := notMem_of_inner (inner_toDigits port)
  have name := notMem_of_inner sited.inner
  have sound : (authority secret host port).any isConfusable = false := by
    rw [List.any_eq_false]
    intro c member
    have whole := stays_authority sited c member
    simp only [stays, Bool.and_eq_true, Bool.not_eq_true'] at whole
    simp [whole.1.2]
  unfold checkAuthority
  dsimp only
  by_cases colon : ':' ∈ host
  · have opened : (authority secret host port).contains '[' = true := by
      simp [authority, place_of_colon colon]
    have closed : (authority secret host port).contains ']' = true := by
      simp [authority, place_of_colon colon]
    rw [opened, closed, checkBrackets_authority sited colon, sound]
    rfl
  · have opened : (authority secret host port).contains '[' = false := by
      simp [authority, place_of_plain colon, key, number, name]
    have closed : (authority secret host port).contains ']' = false := by
      simp [authority, place_of_plain colon, key, number, name]
    rw [opened, closed, sound]
    rfl

end Authority

/-! ## The whole text -/

section Whole

variable {scheme : List Char} {secret : Secret} {host : List Char} {port : Nat}

def whole (scheme : List Char) (secret : Secret) (host : List Char) (port : Nat) : List Char :=
  scheme ++ ':' :: '/' :: '/' :: authority secret host port

theorem toList_write (host scheme : String) (port : Nat) (secret : Secret) :
    (write ⟨host, port, secret⟩ scheme).toList = whole scheme.toList secret host.toList port := by
  simp [write, whole, authority, place, Text.decimal_ofNat]

theorem stays_whole (valid : isScheme scheme = true) (sited : Sited host) :
    ∀ c ∈ whole scheme secret host port, c = '/' ∨ stays c = true := by
  obtain ⟨-, -, -, -, chars⟩ := scheme_parts valid
  intro c member
  simp only [whole, List.mem_append, List.mem_cons] at member
  obtain name | rfl | rfl | rfl | later := member
  · exact .inr (scheme_char (chars c name)).2.1
  · exact .inr (by decide)
  · exact .inl rfl
  · exact .inl rfl
  · exact .inr (stays_authority sited c later)

theorem cleaned_whole (valid : isScheme scheme = true) (sited : Sited host) :
    cleaned (whole scheme secret host port) = whole scheme secret host port := by
  have kept : ∀ c ∈ whole scheme secret host port, !(c == '\t' || c == '\n' || c == '\r') := by
    intro c member
    obtain rfl | whole := stays_whole valid sited c member
    · decide
    · exact (Bool.and_eq_true_iff.mp whole).2
  obtain ⟨first, rest, rfl, letter, -⟩ := scheme_parts valid
  unfold cleaned
  rw [whole, List.cons_append, List.dropWhile_cons_of_neg, List.filter_eq_self]
  · exact kept
  · simpa using (scheme_head letter).2

theorem strip_whole (valid : isScheme scheme = true) :
    strip (whole scheme secret host port) = whole scheme secret host port := by
  refine strip_eq_self ?_ ?_
  · obtain ⟨first, rest, rfl, letter, -⟩ := scheme_parts valid
    intro c head
    obtain rfl := Option.some.inj head
    exact (scheme_head letter).1
  · have split : whole scheme secret host port =
        (scheme ++ ':' :: '/' :: '/' :: (secret.encode ++ '@' :: (bracketed host ++ [':']))) ++
          Nat.toDigits 10 port := by simp [whole, authority, place]
    intro c last
    rw [split, List.getLast?_append, List.getLast?_eq_some_getLast Nat.toDigits_ne_nil] at last
    obtain rfl := Option.some.inj last
    exact (inner_of_isDigit (Nat.isDigit_of_mem_toDigits (by decide) (by decide) (List.getLast_mem _))).2

theorem split_whole (valid : isScheme scheme = true) (sited : Sited host) :
    Uri.split (whole scheme secret host port) =
      .ok ⟨scheme.map Char.toLower, authority secret host port⟩ := by
  have rest : authorityOf ('/' :: '/' :: authority secret host port) = authority secret host port := by
    refine List.takeWhile_eq_self_iff.mpr fun c member => ?_
    have whole := stays_authority sited c member
    rw [stays, Bool.and_assoc, Bool.and_eq_true] at whole
    exact whole.1
  rw [Uri.split, cleaned_whole valid sited, whole, splitScheme_named valid]
  dsimp only
  rw [rest, checkAuthority_authority sited]

/-! ## The parts -/

theorem checkScheme_whole {expected : String} (valid : isScheme expected.toList = true)
    (authority : List Char) :
    checkScheme ⟨expected.toList.map Char.toLower, authority⟩ expected = .ok () := by
  obtain ⟨-, -, -, -, chars⟩ := scheme_parts valid
  have ascii : ∀ c ∈ expected.toList, c.toNat < 128 := fun c member => (scheme_char (chars c member)).1
  rw [checkScheme, Text.lower_ascii ascii, if_pos rfl]

theorem readSecret_whole (sited : Sited host) :
    readSecret ⟨scheme, authority secret host port⟩ = .ok secret := by
  have name : (Parts.mk scheme (authority secret host port)).userName = secret.encode := by
    rw [Parts.userName, authority, beforeLast_append_cons (notMem_place sited),
      before_of_not_mem (inner_encode secret).2]
  have filled : secret.encode.isEmpty = false := by
    have size := secret.length_encode
    cases text : secret.encode with
    | nil => simp [text] at size
    | cons => rfl
  rw [readSecret, name, filled, Secret.decode_encode]
  rfl

theorem readHost_whole (sited : Sited host) :
    readHost ⟨scheme, authority secret host port⟩ =
      if (lowered host).isEmpty then .error .noHost else .ok (String.ofList (lowered host)) := by
  have same : (Parts.mk scheme (authority secret host port)).host = lowered host := by
    have read : (Parts.mk scheme (authority secret host port)).host =
        lowered (Parts.mk scheme (authority secret host port)).place.1 := rfl
    rw [read, place_authority sited]
  rw [readHost, same]

theorem readPort_whole (sited : Sited host) (positive : 1 ≤ port) (bound : port ≤ 65535) :
    readPort ⟨scheme, authority secret host port⟩ = .ok port := by
  have digits : (Nat.toDigits 10 port).all Char.isDigit = true :=
    List.all_eq_true.mpr fun _ => Nat.isDigit_of_mem_toDigits (by decide) (by decide)
  have few : ¬ digitLimit < (Nat.toDigits 10 port).length := by
    have five : (Nat.toDigits 10 port).length ≤ 5 :=
      (Nat.length_toDigits_le_iff (by decide) (by decide)).mpr (by omega)
    simp only [digitLimit]
    omega
  have same : (Parts.mk scheme (authority secret host port)).port = .ok (some port) := by
    unfold Parts.port
    dsimp only
    rw [place_authority sited]
    simp [Nat.toDigits_ne_nil, digits, few, Text.natOf_toDigits, bound]
  rw [readPort, same]
  obtain ⟨less, rfl⟩ := Nat.exists_eq_add_of_le' positive
  rfl

end Whole

theorem read_write_of_sited {host scheme : String} {port : Nat} {secret : Secret} {left right : List Char}
    (valid : isScheme scheme.toList = true) (sited : Sited host.toList) (positive : 1 ≤ port)
    (bound : port ≤ 65535) (before : ∀ c ∈ left, isBlank c = true)
    (after : ∀ c ∈ right, isBlank c = true) :
    read (String.ofList (left ++ (write ⟨host, port, secret⟩ scheme).toList ++ right)) scheme =
      if (lowered host.toList).isEmpty then .error .noHost
      else .ok ⟨String.ofList (lowered host.toList), port, secret⟩ := by
  rw [read, String.toList_ofList, strip_append before after, toList_write, strip_whole valid,
    split_whole valid sited]
  simp only [Except.mapError, bind, Except.bind, checkScheme_whole valid, readSecret_whole sited,
    readHost_whole sited, readPort_whole sited positive bound]
  by_cases empty : (lowered host.toList).isEmpty = true
  · simp only [if_pos empty]
  · simp only [if_neg empty]
    rfl

theorem read_write_of_fits {host scheme : String} {port : Nat} {secret : Secret} {left right : List Char}
    (valid : isScheme scheme.toList = true) (fits : Fits host.toList) (positive : 1 ≤ port)
    (bound : port ≤ 65535) (before : ∀ c ∈ left, isBlank c = true)
    (after : ∀ c ∈ right, isBlank c = true) :
    read (String.ofList (left ++ (write ⟨host, port, secret⟩ scheme).toList ++ right)) scheme =
      .ok ⟨host, port, secret⟩ := by
  have filled : ¬ host.toList.isEmpty = true := fun empty => fits.filled (List.isEmpty_iff.mp empty)
  rw [read_write_of_sited valid fits.sited positive bound before after, fits.lowered, if_neg filled,
    String.ofList_toList]

/-! ## Hosts -/

def cutters : List Char := ['/', '?', '#', '@', '[', ']', ':']

/-- Printable ASCII without capitals and without the characters that cut. -/
def isNameChar (c : Char) : Bool :=
  decide (0x20 ≤ c.toNat ∧ c.toNat ≤ 0x7e) && !c.isUpper && !cutters.contains c

/-- Characters of any script that neither cut an authority nor are dropped or refused there. -/
def isZoneChar (c : Char) : Bool :=
  !cutters.contains c && !isConfusable c && !(c == '\t' || c == '\n' || c == '\r')

/-- Hosts that are names, and addresses of version six in lower case, of which a zone need not be. -/
inductive Portable (host : List Char) : Prop where
  | name : host ≠ [] → (∀ c ∈ host, isNameChar c = true) → Portable host
  | address {value : Nat} : Address.parse? host = some (.v6 value) →
      (∀ c ∈ Text.before '%' host, c.isUpper = false) →
      (∀ c ∈ Text.after '%' host, isZoneChar c = true) → Portable host

theorem inner_of_isNameChar {c : Char} (name : isNameChar c = true) :
    c.toNat < 128 ∧ isInner c = true ∧ c ≠ ':' ∧ c.isUpper = false := by
  have ascii : c.toNat < 128 := by
    simp only [isNameChar, Bool.and_eq_true, decide_eq_true_eq] at name
    omega
  exact forall_ascii (p := fun c => isNameChar c = true →
    c.toNat < 128 ∧ isInner c = true ∧ c ≠ ':' ∧ c.isUpper = false) (by decide) ascii name

theorem inner_of_isZoneChar {c : Char} (zone : isZoneChar c = true) : isInner c = true := by
  simp only [isZoneChar, cutters, isInner, stays, endsAuthority, List.contains_cons, List.contains_nil] at *
  grind

theorem lowered_eq_self {host : List Char} (ascii : ∀ c ∈ Text.before '%' host, c.toNat < 128)
    (small : ∀ c ∈ Text.before '%' host, c.isUpper = false) : lowered host = host := by
  have kept := Text.lower_eq_self ascii small
  unfold lowered
  split
  · next zone => rw [kept, Text.before_append_after zone]
  · next none => rwa [Text.before_of_not_mem none] at kept

theorem mem_before_or_after {c : Char} {host : List Char} (member : c ∈ host) :
    c ∈ Text.before '%' host ∨ c = '%' ∨ c ∈ Text.after '%' host := by
  by_cases zone : '%' ∈ host
  · rw [← Text.before_append_after zone] at member
    simpa using member
  · rw [Text.before_of_not_mem zone]
    exact .inl member

theorem checkBracketed_of_v6 {host : List Char} {value : Nat}
    (parsed : Address.parse? host = some (.v6 value)) : checkBracketed host = .ok () := by
  have address : host.head? ≠ some 'v' := by
    intro head
    obtain ⟨rest, rfl⟩ := List.head?_eq_some_iff.mp head
    have first : 'v' ∈ Text.before '%' ('v' :: rest) := by simp [Text.before]
    obtain other | piece := (Address.chars_of_v6 parsed).2 'v' first
    · cases other
    · exact (inner_of_isPieceChar piece).2 rfl
  rw [checkBracketed, if_neg address, parsed]

theorem v4_of_parse {host : List Char} {value : Nat} (parsed : Address.parse? host = some (.v4 value)) :
    (Address.v4Value? host).isSome = true := by
  unfold Address.parse? at parsed
  split at parsed
  · next found => simp [found]
  · split at parsed
    · obtain ⟨_, _, same⟩ := Option.map_eq_some_iff.mp parsed
      cases same
    · cases parsed

/-- The text of an address without a zone is cut out, and read in lower case. -/
theorem sited_of_parsed {host : List Char} {address : Address}
    (parsed : Address.parse? host = some address) (plain : '%' ∉ host) :
    Sited host ∧ lowered host = host.map Char.toLower ∧ host ≠ [] := by
  have filled : host ≠ [] := by
    rintro rfl
    have none : Address.parse? [] = none := by decide
    simp [none] at parsed
  have chars : ∀ c ∈ host, c = ':' ∨ Address.isPieceChar c = true := by
    cases address with
    | v4 => exact fun c member => .inr (Address.piece_of_v4 (v4_of_parse parsed) c member)
    | v6 =>
      have among := (Address.chars_of_v6 parsed).2
      rwa [Text.before_of_not_mem plain] at among
  have ascii : ∀ c ∈ host, c.toNat < 128 := by
    intro c member
    obtain rfl | piece := chars c member
    · decide
    · exact Address.ascii_of_isPieceChar piece
  refine ⟨⟨fun c member => ?_, fun colon => ?_⟩, ?_, filled⟩
  · obtain rfl | piece := chars c member
    · decide
    · exact (inner_of_isPieceChar piece).1
  · cases address with
    | v4 => cases Address.piece_of_v4 (v4_of_parse parsed) ':' colon
    | v6 => exact checkBracketed_of_v6 parsed
  · rw [lowered, if_neg plain, Text.lower_ascii ascii]

theorem Portable.fits {host : List Char} (portable : Portable host) : Fits host := by
  have part {c : Char} (member : c ∈ Text.before '%' host) : c ∈ host := List.takeWhile_subset _ member
  cases portable with
  | name filled names =>
    have inner (c : Char) (member : c ∈ host) := inner_of_isNameChar (names c member)
    refine ⟨filled, fun c member => (inner c member).2.1, fun colon => ?_, lowered_eq_self ?_ ?_⟩
    · exact absurd rfl (inner ':' colon).2.2.1
    · exact fun c member => (inner c (part member)).1
    · exact fun c member => (inner c (part member)).2.2.2
  | address parsed small zone =>
    obtain ⟨colon, chars⟩ := Address.chars_of_v6 parsed
    refine ⟨List.ne_nil_of_mem (part colon), fun c member => ?_, fun _ => checkBracketed_of_v6 parsed,
      lowered_eq_self (fun c member => ?_) small⟩
    · obtain early | rfl | later := mem_before_or_after member
      · obtain rfl | piece := chars c early
        · decide
        · exact (inner_of_isPieceChar piece).1
      · decide
      · exact inner_of_isZoneChar (zone c later)
    · obtain rfl | piece := chars c member
      · decide
      · exact Address.ascii_of_isPieceChar piece

/-- An endpoint is read back from the bundle that was written for it, whatever blanks surround it. -/
theorem read_write {endpoint : Endpoint} {scheme : String} {left right : List Char}
    (valid : isScheme scheme.toList = true) (portable : Portable endpoint.host.toList)
    (range : 1 ≤ endpoint.port ∧ endpoint.port ≤ 65535) (before : ∀ c ∈ left, isBlank c = true)
    (after : ∀ c ∈ right, isBlank c = true) :
    read (String.ofList (left ++ (write endpoint scheme).toList ++ right)) scheme = .ok endpoint := by
  obtain ⟨host, number, secret⟩ := endpoint
  obtain ⟨positive, bound⟩ := range
  dsimp only at positive bound
  obtain ⟨port, rfl⟩ := Int.eq_ofNat_of_zero_le (show 0 ≤ number by omega)
  exact read_write_of_fits valid portable.fits (by omega) (by omega) before after

theorem read_write_zone :
    let endpoint : Endpoint := ⟨"fe80::1%Eth0", 65535, ⟨List.replicate 16 255, rfl⟩⟩
    read (String.ofList ("\t ".toList ++ (write endpoint "Pgp+X.25").toList ++ "\r\n".toList)) "Pgp+X.25" =
      .ok endpoint := by
  intro endpoint
  have parsed : Address.parse? endpoint.host.toList = some (.v6 0xfe800000000000000000000000000001) := by
    decide
  have all {p : Char → Bool} {text : List Char} (holds : text.all p = true) : ∀ c ∈ text, p c = true :=
    List.all_eq_true.mp holds
  have small : ∀ c ∈ Text.before '%' endpoint.host.toList, c.isUpper = false := by
    have none : (Text.before '%' endpoint.host.toList).all (fun c => !c.isUpper) = true := by decide
    simpa using all none
  have portable : Portable endpoint.host.toList := .address parsed small (all (by decide))
  exact read_write (by decide) portable (by decide) (all (by decide)) (all (by decide))

end Bundle

end Handover
