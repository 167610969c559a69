import Handover.Address.Search

/-! What a search for an address finds, and by which steps. It finds the first usable one of all candidates.
Those on record are asked for exactly if the probe has given no usable one, and whichever candidate the search
stops at, the socket of the probe is closed once, and before the records are asked for. -/

set_option autoImplicit false

namespace Handover

/-- The text of a candidate without its zone; of version six in upper case. -/
def Family.shown (family : Family) (candidate : String) : String :=
  match family with
  | .inet => String.ofList (Text.before '%' candidate.toList)
  | .inet6 => String.ofList ((Text.before '%' candidate.toList).map Char.toUpper)

namespace Surroundings

/-! ## Candidates that are usable -/

/-- A candidate is usable if it is an address, apart from its zone, and one that does not lead back to the
device or nowhere. -/
def Usable (candidate : String) : Prop :=
  ∃ parsed, Address.parse? (Text.before '%' candidate.toList) = some parsed ∧
    parsed.isLoopback = false ∧ parsed.isUnspecified = false

variable {family : Family} {candidate address : String}

theorem usable?_of_usable (family : Family) (usable : Usable candidate) :
    usable? family candidate = some (family.shown candidate) := by
  obtain ⟨parsed, read, loopback, unspecified⟩ := usable
  have isUsable : parsed.isUsable = true := by simp [Address.isUsable, loopback, unspecified]
  unfold usable?
  cases family <;> simp [read, isUsable, Family.shown]

theorem usable_of_usable? (found : usable? family candidate = some address) : Usable candidate := by
  unfold usable? at found
  dsimp only at found
  split at found
  · cases found
  · next parsed read =>
    split at found
    · next usable =>
      obtain ⟨loopback, unspecified⟩ : parsed.isLoopback = false ∧ parsed.isUnspecified = false := by
        simpa [Address.isUsable] using usable
      exact ⟨parsed, read, loopback, unspecified⟩
    · cases found

theorem usable?_eq_none_iff (family : Family) : usable? family candidate = none ↔ ¬ Usable candidate := by
  constructor
  · intro none usable
    cases none.symm.trans (usable?_of_usable family usable)
  · intro unusable
    exact Option.eq_none_iff_forall_ne_some.mpr fun address found => unusable (usable_of_usable? found)

theorem shown_ne_empty (usable : Usable candidate) : family.shown candidate ≠ "" := by
  obtain ⟨parsed, read, -⟩ := usable
  have filled : Text.before '%' candidate.toList ≠ [] := by
    intro empty
    have unread : Address.parse? [] = none := by decide
    rw [empty, unread] at read
    cases read
  intro empty
  refine filled ?_
  have chars := congrArg String.toList empty
  cases family <;> simpa [Family.shown] using chars

namespace Candidates

/-! ## What is found -/

def texts : Candidates → List String
  | ended _ | failed _ _ => []
  | offer _ candidate _ rest => candidate :: rest.texts

def Finishes : Candidates → Prop
  | ended _ => True
  | failed _ _ => False
  | offer _ _ _ rest => rest.Finishes

variable {first : List Step} {c : Candidates}

@[simp] theorem texts_after : (c.after first).texts = c.texts := by
  cases c <;> rfl

@[simp] theorem finishes_after : (c.after first).Finishes ↔ c.Finishes := by
  cases c <;> rfl

@[simp] theorem texts_ofList (addresses : List String) : (ofList addresses).texts = addresses := by
  induction addresses with
  | nil => rfl
  | cons address rest ih => rw [ofList, texts, ih]

@[simp] theorem finishes_ofList (addresses : List String) : (ofList addresses).Finishes := by
  induction addresses with
  | nil => trivial
  | cons address rest ih => exact ih

/-- A search answers with the first usable candidate, and with the empty text when there is none. -/
theorem answer_search (finishes : c.Finishes) :
    (c.search family).1.answer = .ok ((c.texts.findSome? (usable? family)).getD "") := by
  induction c with
  | ended steps => rfl
  | failed steps f => cases finishes
  | offer steps candidate release rest ih =>
    rw [search, texts, List.findSome?_cons]
    cases usable? family candidate with
    | some address => rfl
    | none => exact ih finishes

/-! ## By which steps -/

theorem steps_after : ((c.after first).search family).2 = first ++ (c.search family).2 := by
  cases c with
  | ended | failed => rfl
  | offer steps candidate release rest =>
    rw [after, search, search]
    cases usable? family candidate <;> simp

theorem steps_ofList (addresses : List String) : ((ofList addresses).search family).2 = [] := by
  induction addresses with
  | nil => rfl
  | cons candidate rest ih =>
    rw [ofList, search]
    cases usable? family candidate with
    | some address => rfl
    | none => exact ih

end Candidates

variable {s : Surroundings}

/-- Wherever a search among those on record stops, they have been asked for once. -/
theorem steps_recorded : ((s.recorded family).search family).2 = [.askRecords s.hostname family] := by
  unfold recorded
  cases s.records with
  | ok addresses =>
    dsimp only
    rw [Candidates.steps_after, Candidates.steps_ofList]
    rfl
  | error f => cases system : f.isSystem <;> simp [system, Candidates.search]

/-- The steps of a probe, up to the closing of its socket. -/
def probing (family : Family) : List Step :=
  [.openProbe family, .direct (target family).1 (target family).2, .closeProbe]

theorem steps_of_usable (probe : s.probe = .ok candidate) (usable : Usable candidate) :
    (s.search family).2 = probing family := by
  simp [search, candidates, probe, Candidates.search, usable?_of_usable family usable, probing]

theorem steps_of_unusable (unusable : ∀ candidate, s.probe = .ok candidate → ¬ Usable candidate)
    (calm : ∀ f, s.probe = .error f → f.isSystem = true) :
    (s.search family).2 = probing family ++ [.askRecords s.hostname family] := by
  unfold search candidates
  cases probe : s.probe with
  | ok candidate =>
    have none : usable? family candidate = none := (usable?_eq_none_iff family).mpr (unusable candidate probe)
    simp [Candidates.search, none, Candidates.steps_after, steps_recorded, probing]
  | error f => simp [calm f probe, Candidates.steps_after, steps_recorded, probing]

/-! ## The search -/

/-- All candidates there are: the one of the probe, if there is one, and those on record. -/
def known (s : Surroundings) : List String := s.probe.toOption.toList ++ s.records.toOption.getD []

/-- Faults of the probe and of the records are faults of input and output. -/
structure Calm (s : Surroundings) : Prop where
  probe : ∀ f, s.probe = .error f → f.isSystem = true
  records : ∀ f, s.records = .error f → f.isSystem = true

theorem Calm.recorded (calm : s.Calm) (family : Family) :
    (s.recorded family).Finishes ∧ (s.recorded family).texts = s.records.toOption.getD [] := by
  unfold Surroundings.recorded
  cases records : s.records with
  | ok addresses => simp [Except.toOption]
  | error f => simp [calm.records f records, Candidates.Finishes, Candidates.texts, Except.toOption]

theorem Calm.candidates (calm : s.Calm) (family : Family) :
    (s.candidates family).Finishes ∧ (s.candidates family).texts = s.known := by
  obtain ⟨finishes, texts⟩ := calm.recorded family
  unfold Surroundings.candidates known
  cases probe : s.probe with
  | ok candidate =>
    simp [Candidates.Finishes, Candidates.texts, finishes, texts, Except.toOption]
  | error f => simp [calm.probe f probe, finishes, texts, Except.toOption]

theorem Calm.answer (calm : s.Calm) :
    (s.search family).1.answer = .ok ((s.known.findSome? (usable? family)).getD "") := by
  obtain ⟨finishes, texts⟩ := calm.candidates family
  rw [search, Candidates.answer_search finishes, texts]

theorem findSome?_eq_none_iff (family : Family) {texts : List String} :
    texts.findSome? (usable? family) = none ↔ ∀ candidate ∈ texts, ¬ Usable candidate := by
  simp only [List.findSome?_eq_none_iff, usable?_eq_none_iff]

theorem findSome?_of_first {before after : List String} (unusable : ∀ other ∈ before, ¬ Usable other)
    (usable : Usable candidate) :
    (before ++ candidate :: after).findSome? (usable? family) = some (family.shown candidate) := by
  rw [List.findSome?_append, (findSome?_eq_none_iff family).mpr unusable, Option.none_or, List.findSome?_cons,
    usable?_of_usable family usable]

theorem ne_empty_of_findSome? {texts : List String} (found : texts.findSome? (usable? family) = some address) :
    address ≠ "" := by
  obtain ⟨candidate, -, usable⟩ := List.exists_of_findSome?_eq_some found
  have shown := usable?_of_usable family (usable_of_usable? usable)
  obtain rfl := Option.some.inj (usable.symm.trans shown)
  exact shown_ne_empty (usable_of_usable? usable)

theorem Calm.steps (calm : s.Calm) (family : Family) :
    (∃ candidate, s.probe = .ok candidate ∧ Usable candidate) ∧ (s.search family).2 = probing family ∨
      (∀ candidate, s.probe = .ok candidate → ¬ Usable candidate) ∧
        (s.search family).2 = probing family ++ [.askRecords s.hostname family] := by
  by_cases usable : ∃ candidate, s.probe = .ok candidate ∧ Usable candidate
  · obtain ⟨candidate, probe, usable⟩ := usable
    exact .inl ⟨⟨candidate, probe, usable⟩, steps_of_usable probe usable⟩
  · have unusable : ∀ candidate, s.probe = .ok candidate → ¬ Usable candidate :=
      fun candidate probe found => usable ⟨candidate, probe, found⟩
    exact .inr ⟨unusable, steps_of_unusable unusable calm.probe⟩

/-- A search answers with the first usable candidate of the probe and the records, shown as its family
is, and with the empty text if there is none; it asks for the records exactly if the probe has given no
usable candidate; and it closes the probe's socket once, and before it asks for them. -/
theorem search_exact (family : Family) (calm : s.Calm) :
    let (finding, steps) := s.search family
    (∀ before candidate after, s.known = before ++ candidate :: after → (∀ other ∈ before, ¬ Usable other) →
        Usable candidate → finding.answer = .ok (family.shown candidate)) ∧
      (finding.answer = .ok "" ↔ ∀ candidate ∈ s.known, ¬ Usable candidate) ∧
      (.askRecords s.hostname family ∈ steps ↔ ∀ candidate, s.probe = .ok candidate → ¬ Usable candidate) ∧
      steps.count .closeProbe = 1 ∧
      ∀ hostname other, .askRecords hostname other ∈ steps → hostname = s.hostname ∧ other = family ∧
        List.Sublist [.closeProbe, .askRecords hostname other] steps := by
  dsimp only
  refine ⟨fun before candidate after split unusable usable => ?_, ?_, ?_⟩
  · rw [calm.answer, split, findSome?_of_first unusable usable]
    rfl
  · rw [calm.answer, ← findSome?_eq_none_iff family]
    cases found : s.known.findSome? (usable? family) with
    | none => simp
    | some address => simpa using ne_empty_of_findSome? found
  · obtain ⟨⟨candidate, probe, usable⟩, steps⟩ | ⟨unusable, steps⟩ := calm.steps family
    · rw [steps]
      refine ⟨?_, rfl, fun hostname other asked => ?_⟩
      · have used : ¬ ∀ candidate, s.probe = .ok candidate → ¬ Usable candidate :=
          fun unusable => unusable candidate probe usable
        simp [probing, used]
      · simp [probing] at asked
    · rw [steps]
      refine ⟨by simpa using unusable, rfl, fun hostname other asked => ?_⟩
      obtain ⟨rfl, rfl⟩ : hostname = s.hostname ∧ other = family := by simpa [probing] using asked
      exact ⟨rfl, rfl, by simp [probing]⟩

/-- A device whose probe is bound to its own loopback address, with a link address on record. -/
def linkOnly : Surroundings := ⟨.ok "::1", .ok ["::", "fe80::abcd%wlan0", "2001:db8::7"], "device"⟩

/-- The link address is shown without its zone, in upper case. -/
theorem search_exact_linkOnly :
    (linkOnly.search .inet6).1.answer = .ok "FE80::ABCD" ∧
      .askRecords "device" .inet6 ∈ (linkOnly.search .inet6).2 := by
  have calm : linkOnly.Calm := ⟨nofun, nofun⟩
  have unusable : ∀ other ∈ ["::1", "::"], ¬ Usable other := by
    intro other member
    rw [← usable?_eq_none_iff .inet6]
    obtain rfl | rfl : other = "::1" ∨ other = "::" := by simpa using member
    all_goals decide
  have usable : Usable "fe80::abcd%wlan0" := ⟨.v6 0xfe80000000000000000000000000abcd, by decide, rfl, rfl⟩
  obtain ⟨first, -, asked, -⟩ := search_exact .inet6 calm
  refine ⟨first ["::1", "::"] "fe80::abcd%wlan0" ["2001:db8::7"] rfl unusable usable, asked.mpr ?_⟩
  intro candidate probe
  cases probe
  exact unusable _ (by simp)

end Surroundings

end Handover
