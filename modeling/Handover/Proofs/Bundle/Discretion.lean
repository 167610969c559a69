import Handover.Proofs.Bundle.Reading

/-! What the reader of a bundle tells of the secret. The secret stands between the first mark and an at sign.
The cuts of an authority do not depend on it, and every fault but one speaks of what stands beside it. The
check for confusable characters comes before the cuts: its fault quotes the whole authority. -/

set_option autoImplicit false

namespace Handover

namespace Text

/-! ## Cuts -/

theorem before_append (c : Char) (left right : List Char) :
    before c (left ++ c :: right) = before c left := by
  induction left with
  | nil => simp [before]
  | cons first rest ih =>
    simp only [before, List.cons_append, List.takeWhile_cons] at ih ⊢
    rw [ih]

theorem after_append {c : Char} {left : List Char} (present : c ∈ left) (right : List Char) :
    after c (left ++ right) = after c left ++ right := by
  induction left with
  | nil => cases present
  | cons first rest ih =>
    by_cases here : first = c
    · simp [after, here]
    · have later : c ∈ rest := by simpa [Ne.symm here] using present
      simpa [after, here] using ih later

theorem afterLast_append (c : Char) (left right : List Char) :
    afterLast c (left ++ c :: right) = afterLast c right := by
  have turned : (left ++ c :: right).reverse = right.reverse ++ c :: left.reverse := by simp
  rw [afterLast, turned, before_append, afterLast]

theorem beforeLast_append {c : Char} {right : List Char} (present : c ∈ right) (left : List Char) :
    beforeLast c (left ++ c :: right) = left ++ c :: beforeLast c right := by
  have turned : (left ++ c :: right).reverse = right.reverse ++ c :: left.reverse := by simp
  rw [beforeLast, turned, after_append (by simpa using present), beforeLast]
  simp

theorem dropWhile_append_stop {p : Char → Bool} {c : Char} (stops : p c = false) (left right : List Char) :
    (left ++ c :: right).dropWhile p = left.dropWhile p ++ c :: right := by
  rw [List.dropWhile_append]
  split
  · next empty =>
    rw [List.isEmpty_iff.mp empty, List.dropWhile_cons_of_neg (by simp [stops]), List.nil_append]
  · rfl

theorem strip_around {first last : Char} (middle : List Char) (opens : isBlank first = false)
    (closes : isBlank last = false) (left right : List Char) :
    strip (left ++ first :: middle ++ last :: right) =
      left.dropWhile isBlank ++ first :: middle ++ last :: (right.reverse.dropWhile isBlank).reverse := by
  have turned : (left.dropWhile isBlank ++ first :: (middle ++ last :: right)).reverse =
      right.reverse ++ last :: (left.dropWhile isBlank ++ first :: middle).reverse := by simp
  unfold strip
  rw [List.append_assoc, List.cons_append, dropWhile_append_stop opens, turned, dropWhile_append_stop closes]
  simp

end Text

namespace Uri

open Handover.Text

/-! ## The authority -/

theorem splitScheme_unnamed {head : List Char} (unnamed : isScheme head = false) :
    ∃ scheme front, ∀ behind, splitScheme (head ++ ':' :: behind) = (scheme, front ++ ':' :: behind) := by
  by_cases early : ':' ∈ head ∧ isScheme (before ':' head) = true
  · refine ⟨(before ':' head).map Char.toLower, after ':' head, fun behind => ?_⟩
    rw [splitScheme, before_append, if_pos ⟨List.mem_append_left _ early.1, early.2⟩, after_append early.1]
  · refine ⟨[], head, fun behind => ?_⟩
    have none : ¬ isScheme (before ':' head) = true := by
      intro named
      by_cases colon : ':' ∈ head
      · exact early ⟨colon, named⟩
      · rw [before_of_not_mem colon, unnamed] at named
        cases named
    rw [splitScheme, before_append, if_neg (fun both => none both.2)]

theorem authorityOf_mark (front behind : List Char) :
    authorityOf (front ++ ':' :: '/' :: behind) = authorityOf (front ++ [':', '/']) := by
  have ends : endsAuthority '/' = true ∧ endsAuthority ':' = false := by decide
  have cut (rest : List Char) : (rest ++ ':' :: '/' :: behind).takeWhile (fun c => !endsAuthority c) =
      (rest ++ [':', '/']).takeWhile fun c => !endsAuthority c := by
    simp [List.takeWhile_append, ends]
  match front with
  | [] => rfl
  | [first] => simp [authorityOf]
  | first :: second :: rest =>
    by_cases marked : first = '/' ∧ second = '/'
    · obtain ⟨rfl, rfl⟩ := marked
      exact cut rest
    · have plain (rest : List Char) : authorityOf (first :: second :: rest) = [] := by
        unfold authorityOf
        split
        · next same => simp_all
        · rfl
      rw [List.cons_append, List.cons_append, List.cons_append, List.cons_append, plain, plain]

theorem hostAndPort_user (user place : List Char) :
    hostAndPort (user ++ '@' :: place) = afterLast '@' place := afterLast_append '@' user place

theorem place_user (scheme user place : List Char) :
    (Parts.mk scheme (user ++ '@' :: place)).place = (Parts.mk scheme ('@' :: place)).place := by
  unfold Parts.place
  dsimp only
  rw [hostAndPort_user user, ← List.nil_append ('@' :: place), hostAndPort_user []]

/-- The check of the brackets of an authority, before that of its characters. -/
def checkCut (authority : List Char) : Except Flaw Unit :=
  if authority.contains '[' != authority.contains ']' then .error .brackets
  else if authority.contains '[' then checkBrackets authority
  else .ok ()

theorem checkCut_user {user : List Char} (inner : ∀ c ∈ user, isInner c = true) (place : List Char) :
    checkCut (user ++ '@' :: place) = checkCut ('@' :: place) := by
  obtain ⟨-, opens, closes⟩ := Bundle.notMem_of_inner inner
  have opened : (user ++ '@' :: place).contains '[' = ('@' :: place).contains '[' := by simp [opens]
  have closed : (user ++ '@' :: place).contains ']' = ('@' :: place).contains ']' := by simp [closes]
  have brackets : checkBrackets (user ++ '@' :: place) = checkBrackets ('@' :: place) := by
    unfold checkBrackets
    rw [hostAndPort_user user, ← List.nil_append ('@' :: place), hostAndPort_user []]
  rw [checkCut, opened, closed, brackets, checkCut]

/-- What stands before the last at sign matters to the check of an authority only in what it quotes. -/
theorem checkAuthority_user {user : List Char} (inner : ∀ c ∈ user, isInner c = true)
    (place : List Char) :
    checkAuthority (user ++ '@' :: place) =
      match checkCut ('@' :: place) with
      | .error flaw => .error flaw
      | .ok () => if place.any isConfusable then .error (.confusable (user ++ '@' :: place)) else .ok () := by
  have foreign : (user ++ '@' :: place).any isConfusable = place.any isConfusable := by
    have none : user.any isConfusable = false := List.any_eq_false.mpr fun c member => by
      have whole := inner c member
      simp only [isInner, stays, Bool.and_eq_true, Bool.not_eq_true'] at whole
      simp [whole.1.1.2]
    have mark : isConfusable '@' = false := by decide
    simp [none, mark]
  rw [← checkCut_user inner, ← foreign]
  rfl

end Uri

/-! ## The secret -/

theorem Base64.read_foreign {text : List Char} (digits : ∀ c ∈ text, ∃ value < 64, c = digit value)
    (rest : List Char) {p : Progress} (clean : p.padded = false) :
    p.read (text ++ '@' :: rest) = .error .foreignCharacter := by
  induction text generalizing p with
  | nil => rfl
  | cons first others ih =>
    obtain ⟨value, small, rfl⟩ := digits first List.mem_cons_self
    have kept : (p.take value).padded = false := by
      unfold Progress.take
      split <;> exact clean
    rw [List.cons_append, read_digit clean small, ih (fun c member => digits c (.tail _ member)) kept]

/-- An at sign behind the text of a secret makes it no text of a secret, for the same reason whichever the
secret is. -/
theorem Secret.decode_foreign (rest : List Char) :
    ∃ flaw, ∀ s : Secret, decode (s.encode ++ '@' :: rest) = .error flaw := by
  let tail := rest ++ List.replicate ((4 - (rest.length + 23) % 4) % 4) '='
  have filled (s : Secret) : filled (s.encode ++ '@' :: rest) = s.encode ++ '@' :: tail := by
    have size : (s.encode ++ '@' :: rest).length = rest.length + 23 := by
      simp only [List.length_append, List.length_cons, s.length_encode]
      omega
    rw [Secret.filled, size, List.append_assoc, List.cons_append]
  have ascii (s : Secret) : ∀ c ∈ s.encode, isAscii c = true := by
    have digits : ∀ value < 64, isAscii (Base64.digit value) = true := by decide
    intro c written
    obtain ⟨value, small, rfl⟩ := s.exists_digit written
    exact digits value small
  have mark : isAscii '@' = true := by decide
  by_cases plain : tail.all isAscii = true
  · refine ⟨.undecodable .foreignCharacter, fun s => ?_⟩
    have whole : (s.encode ++ '@' :: tail).all isAscii = true := by
      simp [List.all_eq_true.mpr (ascii s), mark, plain]
    have undecoded : Base64.decode (s.encode ++ '@' :: tail) = .error .foreignCharacter := by
      unfold Base64.decode
      split
      -- The text of a secret is not empty and does not begin with padding.
      · next others padded =>
        have size := s.length_encode
        cases text : s.encode with
        | nil => simp [text] at size
        | cons first more =>
          obtain ⟨value, small, rfl⟩ := s.exists_digit (text ▸ List.mem_cons_self : first ∈ s.encode)
          rw [text, List.cons_append] at padded
          exact absurd (List.head_eq_of_cons_eq padded) (Base64.digit_ne_padding value small)
      · exact Base64.read_foreign (fun c written => s.exists_digit written) tail rfl
    rw [decode, filled s, if_pos whole, undecoded]
  · refine ⟨.foreignText ((tail.takeWhile isAscii).length + 23)
      ((tail.dropWhile isAscii).takeWhile fun c => !isAscii c), fun s => ?_⟩
    have whole : ¬ (s.encode ++ '@' :: tail).all isAscii = true := by simp_all
    have early : ∀ c ∈ s.encode ++ ['@'], isAscii c = true := by
      intro c member
      obtain written | same := List.mem_append.mp member
      · exact ascii s c written
      · rwa [List.mem_singleton.mp same]
    have apart : s.encode ++ '@' :: tail = s.encode ++ ['@'] ++ tail := by simp
    rw [decode, filled s, if_neg whole, apart, List.takeWhile_append_of_pos early, List.dropWhile_append_of_pos early]
    simp only [List.length_append, s.length_encode, List.length_singleton, Except.error.injEq,
      Flaw.foreignText.injEq, and_true]
    omega

namespace Bundle

open Uri

/-- A text with the secret in the place of the user information. -/
def carrying (heading : String) (secret : Secret) (rest : String) : String :=
  heading ++ "://" ++ String.ofList secret.encode ++ "@" ++ rest

/-- What a reading shows beside the secret: the host and port, or the text of the fault. -/
def shown : Except Flaw Endpoint → Except String (String × Int)
  | .ok endpoint => .ok (endpoint.host, endpoint.port)
  | .error flaw => .error flaw.message

/-- What the reader finds before the mark. -/
def headed (heading : String) : List Char := cleaned (heading.toList.dropWhile Text.isBlank)

/-- What the reader finds behind the user information. -/
def trailed (rest : String) : List Char :=
  (rest.toList.reverse.dropWhile Text.isBlank).reverse.filter fun c =>
    !(c == '\t' || c == '\n' || c == '\r')

/-- The host and port as they are written behind the user information. -/
def placed (rest : String) : List Char := (trailed rest).takeWhile fun c => !endsAuthority c

/-- The secret belongs to the authority, which is cut soundly but holds a confusable character. -/
structure Exposed (heading rest : String) : Prop where
  named : isScheme (headed heading) = true
  cut : checkCut ('@' :: placed rest) = .ok ()
  confusable : (placed rest).any isConfusable = true

variable {heading rest scheme : String}

theorem cleaned_carrying (heading rest : String) (s : Secret) :
    cleaned (Text.strip (carrying heading s rest).toList) =
      headed heading ++ ':' :: '/' :: '/' :: (s.encode ++ '@' :: trailed rest) := by
  have kept : ∀ c ∈ s.encode, (!(c == '\t' || c == '\n' || c == '\r')) = true := fun c written =>
    (Bool.and_eq_true_iff.mp (stays_of_inner (inner_encode s).1 c written)).2
  have text : (carrying heading s rest).toList =
      heading.toList ++ ':' :: ('/' :: '/' :: s.encode) ++ '@' :: rest.toList := by
    simp [carrying]
  rw [text, Text.strip_around _ (by decide) (by decide), List.append_assoc, List.cons_append, cleaned,
    Text.dropWhile_append_stop (by decide)]
  simpa [headed, trailed, cleaned] using kept

theorem read_named (named : isScheme (headed heading) = true) (s : Secret) :
    read (carrying heading s rest) scheme =
      match checkCut ('@' :: placed rest) with
      | .error flaw => .error (.malformed flaw)
      | .ok () =>
          if (placed rest).any isConfusable then
            .error (.malformed (.confusable (s.encode ++ '@' :: placed rest)))
          else do
            let parts : Parts := ⟨(headed heading).map Char.toLower, s.encode ++ '@' :: placed rest⟩
            checkScheme parts scheme
            let secret ← readSecret parts
            let host ← readHost parts
            let port ← readPort parts
            return ⟨host, port, secret⟩ := by
  have inner := (inner_encode s).1
  have authority : authorityOf ('/' :: '/' :: (s.encode ++ '@' :: trailed rest)) =
      s.encode ++ '@' :: placed rest := by
    have within : ∀ c ∈ s.encode ++ ['@'], (!endsAuthority c) = true := by
      intro c member
      obtain written | same := List.mem_append.mp member
      · have kept := stays_of_inner inner c written
        rw [stays, Bool.and_assoc, Bool.and_eq_true] at kept
        exact kept.1
      · rw [List.mem_singleton.mp same]
        decide
    have apart (text : List Char) : s.encode ++ '@' :: text = s.encode ++ ['@'] ++ text := by simp
    rw [apart (trailed rest), apart (placed rest)]
    exact List.takeWhile_append_of_pos within
  rw [read, Uri.split, cleaned_carrying, splitScheme_named named]
  dsimp only
  rw [authority, checkAuthority_user inner]
  cases checkCut ('@' :: placed rest) with
  | error flaw => rfl
  | ok =>
    by_cases confusable : (placed rest).any isConfusable = true
    · simp only [if_pos confusable]
      rfl
    · simp only [if_neg confusable]
      rfl

theorem read_unnamed (unnamed : isScheme (headed heading) = false) (s t : Secret) :
    read (carrying heading s rest) scheme = read (carrying heading t rest) scheme := by
  obtain ⟨named, front, split⟩ := splitScheme_unnamed unnamed
  have parted : Uri.split (Text.strip (carrying heading s rest).toList) =
      Uri.split (Text.strip (carrying heading t rest).toList) := by
    rw [Uri.split, Uri.split, cleaned_carrying, cleaned_carrying, split, split]
    dsimp only
    rw [authorityOf_mark front ('/' :: (s.encode ++ '@' :: trailed rest)),
      authorityOf_mark front ('/' :: (t.encode ++ '@' :: trailed rest))]
  rw [read, read, parted]

/-! ## Two readings -/

/-- Behind the user information the secret is read, or refused for one reason whichever it is. -/
theorem readSecret_user (scheme place : List Char) :
    (∀ s : Secret, readSecret ⟨scheme, s.encode ++ '@' :: place⟩ = .ok s) ∨
      ∃ flaw, ∀ s : Secret, readSecret ⟨scheme, s.encode ++ '@' :: place⟩ = .error flaw := by
  have user (s : Secret) (behind : List Char) :
      Text.before ':' (s.encode ++ behind) = s.encode ++ Text.before ':' behind :=
    List.takeWhile_append_of_pos fun c written => by
      simpa using fun same : c = ':' => (inner_encode s).2 (same ▸ written)
  have filled (s : Secret) (behind : List Char) : (s.encode ++ behind).isEmpty = false := by
    have size := s.length_encode
    cases text : s.encode with
    | nil => simp [text] at size
    | cons => rfl
  by_cases again : '@' ∈ place
  · obtain ⟨flaw, refused⟩ := Secret.decode_foreign (Text.before ':' (Text.beforeLast '@' place))
    refine .inr ⟨.badSecret flaw, fun s => ?_⟩
    have name : (Parts.mk scheme (s.encode ++ '@' :: place)).userName =
        s.encode ++ '@' :: Text.before ':' (Text.beforeLast '@' place) := by
      rw [Parts.userName, Text.beforeLast_append again, user]
      rfl
    rw [readSecret, name, filled, refused]
    rfl
  · refine .inl fun s => ?_
    have name : (Parts.mk scheme (s.encode ++ '@' :: place)).userName = s.encode ++ [] := by
      rw [Parts.userName, Text.beforeLast_append_cons again, Text.before_of_not_mem (inner_encode s).2,
        List.append_nil]
    rw [readSecret, name, filled, List.append_nil, Secret.decode_encode]
    rfl

theorem readPlace_user (scheme user place : List Char) :
    readHost ⟨scheme, user ++ '@' :: place⟩ = readHost ⟨scheme, '@' :: place⟩ ∧
      readPort ⟨scheme, user ++ '@' :: place⟩ = readPort ⟨scheme, '@' :: place⟩ := by
  have same := place_user scheme user place
  constructor
  · rw [readHost, readHost, Parts.host, Parts.host, same]
  · rw [readPort, readPort, Parts.port, Parts.port, same]

theorem read_exposed (exposed : Exposed heading rest) (s : Secret) :
    read (carrying heading s rest) scheme =
      .error (.malformed (.confusable (s.encode ++ '@' :: placed rest))) := by
  rw [read_named exposed.named, exposed.cut]
  exact if_pos exposed.confusable

/-- Unless the check for confusable characters refuses it, a text shows the same whatever secret it holds. -/
theorem shown_discreet (discreet : ¬ Exposed heading rest) (s t : Secret) :
    shown (read (carrying heading s rest) scheme) = shown (read (carrying heading t rest) scheme) := by
  cases named : isScheme (headed heading) with
  | false => rw [read_unnamed named s t]
  | true =>
    rw [read_named named, read_named named]
    cases cut : checkCut ('@' :: placed rest) with
    | error flaw => rfl
    | ok =>
      have plain : ¬ (placed rest).any isConfusable = true := fun found => discreet ⟨named, cut, found⟩
      simp only [if_neg plain]
      obtain ⟨host, port⟩ :=
        readPlace_user ((headed heading).map Char.toLower) s.encode (placed rest)
      obtain ⟨host', port'⟩ :=
        readPlace_user ((headed heading).map Char.toLower) t.encode (placed rest)
      rw [host, port, host', port']
      simp only [checkScheme]
      split
      · obtain accepted | ⟨flaw, refused⟩ :=
          readSecret_user ((headed heading).map Char.toLower) (placed rest)
        · rw [accepted s, accepted t]
          cases readHost ⟨(headed heading).map Char.toLower, '@' :: placed rest⟩ with
          | error flaw => rfl
          | ok host => cases readPort ⟨(headed heading).map Char.toLower, '@' :: placed rest⟩ <;> rfl
        · rw [refused s, refused t]
      · rfl

theorem between_inj {start early late : String} {x y : List Char}
    (same : start ++ (early ++ String.ofList x ++ late) = start ++ (early ++ String.ofList y ++ late)) :
    x = y := by
  have chars := congrArg String.toList same
  simp only [String.toList_append, String.toList_ofList] at chars
  exact List.append_cancel_left (List.append_cancel_right (List.append_cancel_left chars))

theorem message_confusable_inj {a b : List Char}
    (same : (Flaw.malformed (.confusable a)).message = (Flaw.malformed (.confusable b)).message) : a = b := by
  change _ ++ (_ ++ String.ofList a ++ _) = _ ++ (_ ++ String.ofList b ++ _) at same
  exact between_inj same

theorem encode_inj {s t : Secret} (same : s.encode = t.encode) : s = t := by
  have read := s.decode_encode
  rw [same, t.decode_encode] at read
  exact (Except.ok.inj read).symm

/-- Two readings of a text with different secrets in it show the same, except where a confusable character
makes the fault quote the authority: there each of them shows its secret. -/
theorem shown_read_eq_iff (heading rest scheme : String) (s t : Secret) :
    (shown (read (carrying heading s rest) scheme) = shown (read (carrying heading t rest) scheme) ↔
      (Exposed heading rest → s = t)) ∧
    (Exposed heading rest → read (carrying heading s rest) scheme =
      .error (.malformed (.confusable (s.encode ++ '@' :: placed rest)))) := by
  refine ⟨⟨fun same exposed => ?_, fun only => ?_⟩, fun exposed => read_exposed exposed s⟩
  · rw [read_exposed exposed, read_exposed exposed] at same
    have authorities := message_confusable_inj (Except.error.inj same)
    exact encode_inj (List.append_cancel_right authorities)
  · by_cases exposed : Exposed heading rest
    · rw [only exposed]
    · exact shown_discreet exposed s t

/-- A sign that stands for an account name is taken for a slash between two letters. -/
theorem shown_read_account :
    Exposed "pgp+transfer" "10.0.0.1\u2100:1336" ∧
      let text (byte : UInt8) :=
        carrying "pgp+transfer" ⟨List.replicate 16 byte, rfl⟩ "10.0.0.1\u2100:1336"
      shown (read (text 0) "pgp+transfer") ≠ shown (read (text 1) "pgp+transfer") := by
  have exposed : Exposed "pgp+transfer" "10.0.0.1\u2100:1336" :=
    ⟨by decide, by decide, by decide⟩
  refine ⟨exposed, fun same => ?_⟩
  have one := (shown_read_eq_iff _ _ _ _ _).1.mp same exposed
  exact absurd one (by decide)

end Bundle

end Handover
