import Handover.Proofs.Bundle.Lowering

/-! What is read from a text is read again from the bundle that is written for it. The accepted texts are many
more than the written ones; but what reading leaves of one, the host in lower case, the port as a number and
the secret as bytes, is written so that it is cut out again and nothing of it changes. -/

set_option autoImplicit false

namespace Handover

open Handover.Text

namespace Text

/-! ## Parts of a text -/

theorem mem_of_mem_strip {text : List Char} {c : Char} (member : c ∈ strip text) : c ∈ text := by
  have whole := (List.dropWhile_suffix isBlank).subset (List.mem_reverse.mp member)
  exact (List.dropWhile_suffix isBlank).subset (List.mem_reverse.mp whole)

theorem mem_of_mem_before {mark c : Char} {text : List Char} (member : c ∈ before mark text) :
    c ∈ text ∧ c ≠ mark :=
  ⟨List.takeWhile_subset _ member, by simpa using List.mem_takeWhile_imp member⟩

theorem mem_of_mem_after {mark c : Char} {text : List Char} (member : c ∈ after mark text) : c ∈ text :=
  (List.dropWhile_suffix _).subset (List.mem_of_mem_drop member)

theorem mem_of_mem_afterLast {mark c : Char} {text : List Char} (member : c ∈ afterLast mark text) :
    c ∈ text ∧ c ≠ mark := by
  obtain ⟨among, other⟩ := mem_of_mem_before (List.mem_reverse.mp member)
  exact ⟨List.mem_reverse.mp among, other⟩

end Text

namespace Uri

/-! ## The authority -/

theorem mem_of_mem_cleaned {text : List Char} {c : Char} (member : c ∈ cleaned text) :
    c ∈ text ∧ (c == '\t' || c == '\n' || c == '\r') = false := by
  obtain ⟨among, kept⟩ := List.mem_filter.mp member
  exact ⟨(List.dropWhile_suffix _).subset among, by simpa using kept⟩

theorem mem_of_mem_splitScheme {text : List Char} {c : Char} (member : c ∈ (splitScheme text).2) :
    c ∈ text := by
  unfold splitScheme at member
  split at member
  · exact mem_of_mem_after member
  · exact member

theorem mem_of_mem_authorityOf {text : List Char} {c : Char} (member : c ∈ authorityOf text) :
    c ∈ text ∧ endsAuthority c = false := by
  unfold authorityOf at member
  split at member
  · next rest =>
    have among : c ∈ rest := List.takeWhile_subset _ member
    exact ⟨by simp [among], by simpa using List.mem_takeWhile_imp member⟩
  · cases member

/-- What a text is cut into has passed the checks, and its authority is made of the text. -/
theorem of_split {text : List Char} {parts : Parts} (cut : split text = .ok parts) :
    checkAuthority parts.authority = .ok () ∧ ∀ c ∈ parts.authority,
      c ∈ text ∧ endsAuthority c = false ∧ (c == '\t' || c == '\n' || c == '\r') = false := by
  unfold split at cut
  dsimp only at cut
  split at cut
  · next checked =>
    obtain rfl := Except.ok.inj cut
    refine ⟨checked, fun c member => ?_⟩
    obtain ⟨among, inside⟩ := mem_of_mem_authorityOf member
    obtain ⟨whole, kept⟩ := mem_of_mem_cleaned (mem_of_mem_splitScheme among)
    exact ⟨whole, inside, kept⟩
  · cases cut

theorem checkBrackets_of_opened {authority : List Char} (checked : checkAuthority authority = .ok ())
    (opened : '[' ∈ authority) : checkBrackets authority = .ok () := by
  have contains : authority.contains '[' = true := by simpa using opened
  unfold checkAuthority at checked
  dsimp only at checked
  rw [contains] at checked
  cases closed : authority.contains ']' with
  | false =>
    rw [closed] at checked
    cases checked
  | true =>
    rw [closed] at checked
    cases brackets : checkBrackets authority with
    | error flaw =>
      rw [brackets] at checked
      cases checked
    | ok => rfl

theorem of_place {parts : Parts} (checked : checkAuthority parts.authority = .ok ()) :
    (∀ c ∈ parts.place.1, c ∈ parts.authority ∧ c ≠ '@') ∧
      (':' ∈ parts.place.1 → checkBracketed parts.place.1 = .ok ()) := by
  have behind {c : Char} (member : c ∈ hostAndPort parts.authority) := mem_of_mem_afterLast member
  unfold Parts.place
  dsimp only
  split
  · next opened =>
    have brackets := checkBrackets_of_opened checked (behind opened).1
    unfold checkBrackets at brackets
    dsimp only at brackets
    rw [if_pos opened] at brackets
    refine ⟨fun c member => behind (mem_of_mem_after (mem_of_mem_before member).1), fun _ => ?_⟩
    split at brackets
    · exact brackets
    · cases brackets
  · refine ⟨fun c member => behind (mem_of_mem_before member).1, fun colon => ?_⟩
    exact absurd rfl (mem_of_mem_before colon).2

end Uri

namespace Bundle

open Uri

/-! ## The endpoint -/

theorem port_of_read {parts : Parts} {port : Nat} (accepted : readPort parts = .ok port) :
    1 ≤ port ∧ port ≤ 65535 := by
  have bound {number : Nat} (known : parts.port = .ok (some number)) : number ≤ 65535 := by
    unfold Parts.port at known
    dsimp only at known
    split at known
    · cases known
    · split at known
      · cases known
      · split at known
        · cases known
        · split at known
          · next small =>
            obtain rfl := Option.some.inj (Except.ok.inj known)
            exact small
          · cases known
  unfold readPort at accepted
  split at accepted
  · cases accepted
  · cases accepted
  · cases accepted
  · next number positive known =>
    obtain rfl := Except.ok.inj accepted
    exact ⟨Nat.one_le_iff_ne_zero.mpr positive, bound known⟩

theorem host_of_read {parts : Parts} {host : String} (accepted : readHost parts = .ok host) :
    parts.host ≠ [] ∧ host = String.ofList parts.host := by
  unfold readHost at accepted
  split at accepted
  · cases accepted
  · next filled => exact ⟨by simpa using filled, (Except.ok.inj accepted).symm⟩

theorem of_read {text scheme : String} {endpoint : Endpoint} (accepted : read text scheme = .ok endpoint) :
    ∃ parts, Uri.split (strip text.toList) = .ok parts ∧ readHost parts = .ok endpoint.host ∧
      ∃ port : Nat, readPort parts = .ok port ∧ endpoint.port = port := by
  unfold read at accepted
  cases cut : Uri.split (strip text.toList) with
  | error flaw =>
    rw [cut] at accepted
    cases accepted
  | ok parts =>
    rw [cut] at accepted
    simp only [Except.mapError, bind, Except.bind, pure, Except.pure] at accepted
    split at accepted
    · cases accepted
    · split at accepted
      · cases accepted
      · split at accepted
        · cases accepted
        · next host named =>
          split at accepted
          · cases accepted
          · next port numbered =>
            obtain rfl := Except.ok.inj accepted
            exact ⟨parts, rfl, named, port, numbered, rfl⟩

theorem fits_of_split {text : List Char} {parts : Parts} (ascii : ∀ c ∈ text, c.toNat < 128)
    (cut : Uri.split text = .ok parts) (filled : parts.host ≠ []) (opens : '[' ∉ parts.host)
    (closes : ']' ∉ parts.host) : Fits parts.host := by
  obtain ⟨checked, made⟩ := of_split cut
  obtain ⟨cutOut, brackets⟩ := of_place checked
  have small : ∀ c ∈ parts.place.1, c.toNat < 128 := fun c member =>
    ascii c (made c (cutOut c member).1).1
  have lowers : parts.host = lowerName parts.place.1 := lowered_eq_lowerName small
  rw [lowers] at filled opens closes ⊢
  rw [mem_lowerName (by decide)] at opens closes
  have inner : ∀ c ∈ parts.place.1, isInner c = true := by
    intro c member
    obtain ⟨among, other⟩ := cutOut c member
    obtain ⟨-, ends, dropped⟩ := made c among
    have plain : isConfusable c = false :=
      forall_ascii (p := fun c => isConfusable c = false) (by decide) (small c member)
    have outside : (c == '@' || c == '[' || c == ']') = false := by
      simpa using ⟨⟨other, ne_of_mem_of_not_mem member opens⟩, ne_of_mem_of_not_mem member closes⟩
    rw [isInner, stays, ends, plain, dropped, outside]
    rfl
  -- What a character in lower case is like is found by trying all of ASCII.
  have kept : ∀ code < 128, isInner (Char.ofNat code) = true → isInner (Char.ofNat code).toLower = true := by
    decide
  have low : ∀ code < 128, (Char.ofNat code).toLower.toNat < 128 := by decide
  refine ⟨filled, forall_lowerName fun c member => ?_, fun colon => ?_, ?_⟩
  · exact ⟨inner c member, forall_ascii (p := fun c => isInner c = true → isInner c.toLower = true) kept
      (small c member) (inner c member)⟩
  · exact checkBracketed_lowerName (brackets ((mem_lowerName (by decide)).mp colon))
  · rw [lowered_eq_lowerName, lowerName_lowerName]
    exact forall_lowerName fun c member =>
      ⟨small c member, forall_ascii (p := fun c => c.toLower.toNat < 128) low (small c member)⟩

/-- A text of ASCII is refused, or is read as an endpoint that can be dialled. What was read is read again from
the bundle that is written for it, unless its host holds a bracket. -/
theorem read_stable {text scheme : String} (ascii : ∀ c ∈ text.toList, c.toNat < 128)
    (valid : isScheme scheme.toList = true) :
    (∃ flaw, read text scheme = .error flaw) ∨ ∃ endpoint, read text scheme = .ok endpoint ∧
      endpoint.secret.value.length = 16 ∧ endpoint.host ≠ "" ∧ 1 ≤ endpoint.port ∧ endpoint.port ≤ 65535 ∧
      ('[' ∉ endpoint.host.toList → ']' ∉ endpoint.host.toList →
        read (write endpoint scheme) scheme = .ok endpoint) := by
  cases accepted : read text scheme with
  | error flaw => exact .inl ⟨flaw, rfl⟩
  | ok endpoint =>
    obtain ⟨parts, cut, named, port, numbered, same⟩ := of_read accepted
    obtain ⟨filled, host⟩ := host_of_read named
    obtain ⟨positive, bound⟩ := port_of_read numbered
    have letters : endpoint.host.toList = parts.host := by rw [host, String.toList_ofList]
    refine .inr ⟨endpoint, rfl, endpoint.secret.size_eq, ?_, by omega, by omega, fun opens closes => ?_⟩
    · intro empty
      rw [empty] at letters
      exact filled letters.symm
    · have stripped : ∀ c ∈ strip text.toList, c.toNat < 128 := fun c member =>
        ascii c (mem_of_mem_strip member)
      rw [letters] at opens closes
      have fits : Fits endpoint.host.toList := letters ▸ fits_of_split stripped cut filled opens closes
      have whole : endpoint = ⟨endpoint.host, (port : Int), endpoint.secret⟩ := by rw [← same]
      have again := @read_write_of_fits endpoint.host scheme port endpoint.secret [] [] valid fits
        positive bound (by simp) (by simp)
      rw [← whole] at again
      simpa using again

/-- Blanks, a line break inside, capitals, the older alphabet, padding, bits beyond the last byte, a password,
leading zeros, a path, a query and a fragment are all gone from what is written. -/
theorem read_stable_zone :
    let text := "\t PGP+transfer://+_+_+_+_+_+_+_+_+_+_+_=:pass@[FE\n80::AB%Eth0]:0080/path?query#part \r\n"
    let endpoint : Endpoint := ⟨"fe80::ab%Eth0", 80, ⟨[251, 255, 191, 251, 255, 191, 251, 255, 191, 251, 255,
      191, 251, 255, 191, 251], rfl⟩⟩
    read text "Pgp+Transfer" = .ok endpoint ∧
      write endpoint "Pgp+Transfer" = "Pgp+Transfer://-_-_-_-_-_-_-_-_-_-_-w@[fe80::ab%Eth0]:80" ∧
      read (write endpoint "Pgp+Transfer") "Pgp+Transfer" = .ok endpoint := by
  intro text endpoint
  have accepted : read text "Pgp+Transfer" = .ok endpoint := by decide
  have ascii : text.toList.all (fun c => decide (c.toNat < 128)) = true := by decide
  have plain : ∀ c ∈ text.toList, c.toNat < 128 := by simpa only [List.all_eq_true, decide_eq_true_eq] using ascii
  refine ⟨accepted, by decide, ?_⟩
  obtain ⟨flaw, refused⟩ | ⟨other, same, -, -, -, -, again⟩ :=
    @read_stable text "Pgp+Transfer" plain (by decide)
  · cases refused.symm.trans accepted
  · obtain rfl := Except.ok.inj (same.symm.trans accepted)
    exact again (by decide) (by decide)

end Bundle

end Handover
