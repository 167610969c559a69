import Handover.Proofs.Bundle.Reading
import Handover.Proofs.Rehearsal.Observers
import Handover.Proofs.Session.Failing
import Handover.Proofs.Session.Steady

/-! What a listener advertises. The host of its bundle is the one that its settings name or else the one that
the search for an address answered with, and the port is the one that its socket answered with. Such a bundle
is read back, except that a search which finds nothing answers with an empty host. -/

set_option autoImplicit false

namespace Handover

namespace Session

variable {s u : Session}

/-! ## On the way to the bundle -/

/-- The host is looked for or known, and not yet told. -/
def Point.prepares : Point → Bool
  | .findingAddress | .readingPort _ | .announcing _ => true
  | _ => false

theorem Ends.prepares (ends : Ends s u) : u.point.prepares = false := by
  have ended := ends.hand
  cases here : u.point <;> rw [here] at ended <;> first | rfl | cases ended

theorem Accepts.prepares (accepts : Accepts s u) : u.point.prepares = false := by
  cases accepts with
  | stops _ retires => exact retires.ends.prepares
  | waits => rfl

theorem Secures.prepares {setup : Setup} (secures : Secures s setup u) : u.point.prepares = false := by
  cases secures <;> rfl

theorem HandsOver.prepares (hands : HandsOver s u) : u.point.prepares = false := by
  cases hands with
  | closes => rfl
  | secures _ secures => exact secures.prepares

theorem Adopts.prepares {socket : Socket} (adopts : Adopts s socket u) : u.point.prepares = false := by
  cases adopts with
  | stops _ retires => exact (Retires.ends retires).prepares
  | goesOn => rfl

theorem Begins.prepares (begins : Begins s u) : u.point.prepares = false := by
  cases begins with
  | stops _ retires => exact retires.ends.prepares
  | crashes _ _ _ finishes => exact finishes.ends.prepares
  | listens | dials => rfl

theorem Polls.prepares {reply : Reply} (polls : Polls s reply u) (standing : Standing s)
    (after : Standing u) : u.point.prepares = false := by
  have past := (standing.tells_polls polls).past (by rw [polls.up standing]; decide)
  -- The phase of a point on the way to the bundle is an earlier one.
  cases here : u.point with
  | findingAddress | readingPort | announcing =>
    rw [after.phase_eq here rfl] at past
    exact absurd past (by decide)
  | _ => rfl

theorem Closes.prepares {reply : Reply} (closes : Closes s reply u) : u.point.prepares = false := by
  have carries := (Passes.closes closes).carries
  rw [closes.hand_eq] at carries
  have ended := carries.of_ended
  cases here : u.point <;> rw [here] at ended <;> first | rfl | cases ended

inductive Prepares (s : Session) : Reply → Session → Prop where
  | given {host : String} : s.settings.advertised = some host →
      Prepares s .done { s with listening := true, point := .readingPort host }
  | searches : s.settings.advertised = none →
      Prepares s .done { s with listening := true, point := .findingAddress }
  | found {host : String} : s.point = .findingAddress →
      Prepares s (.address host) { s with point := .readingPort host }
  | announces {host : String} {port : Int} : s.point = .readingPort host →
      Prepares s (.port port) { s with
        phase := .listening
        point := .announcing (Bundle.write ⟨host, port, s.secret⟩ s.settings.scheme) }

theorem Passes.prepares {reply : Reply} (passes : Passes s reply u) (standing : Standing s)
    (after : Standing u) : u.point.prepares = false ∨ Prepares s reply u := by
  cases passes with
  | polls polls => exact .inl (polls.prepares standing after)
  | closes closes => exact .inl closes.prepares
  | opens opens =>
    cases opens with
    | bound | shut | refused | named => exact .inl rfl
    | listens _ listens =>
      cases listens with
      | stops _ retires => exact .inl (Retires.ends retires).prepares
      | advertises _ given => exact .inr (.given given)
      | searches _ missing => exact .inr (.searches missing)
    | found here => exact .inr (.found here)
    | announces here => exact .inr (.announces here)
    | announced _ accepts => exact .inl accepts.prepares
    | waited _ _ accepts => exact .inl accepts.prepares
    | accepted _ hands => exact .inl hands.prepares
    | closed _ secures => exact .inl secures.prepares
    | dialled _ secures => exact .inl secures.prepares
    | secured _ adopts => exact .inl adopts.prepares
    | broken _ _ fails => exact .inl fails.ends.prepares
    | abandoned _ fails => exact .inl fails.ends.prepares
    | unclosed _ fails => exact .inl fails.ends.prepares
    | unnamed _ finishes => exact .inl finishes.ends.prepares
    | unheard _ _ _ fails => exact .inl fails.ends.prepares
    | unreached _ fails => exact .inl fails.ends.prepares

/-! ## Where the bundle comes from -/

/-- A host for the bundle: the one that is named, or else one that a search answered with. -/
inductive Chosen (settings : Settings) (answers : List (Request × Reply)) (host : String) : Prop where
  | given : settings.advertised = some host → Chosen settings answers host
  | found : settings.advertised = none → (.findAddress, .address host) ∈ answers →
      Chosen settings answers host

/-- A bundle that holds the secret, a host for it and a port that the socket answered with. -/
def Announced (plan : Plan) (answers : List (Request × Reply)) (bundle : String) : Prop :=
  ∃ host port, Chosen plan.settings answers host ∧ (.boundPort, .port port) ∈ answers ∧
    bundle = Bundle.write ⟨host, port, plan.secret⟩ plan.settings.scheme

/-- What is to be advertised goes back to the settings and the answers so far. -/
structure Sourced (plan : Plan) (answers : List (Request × Reply)) (s : Session) : Prop where
  secret : s.secret = plan.secret
  settings : s.settings = plan.settings
  searching : s.point = .findingAddress → plan.settings.advertised = none
  chosen : ∀ host, s.point = .readingPort host → Chosen plan.settings answers host
  announced : ∀ bundle, s.point = .announcing bundle → Announced plan answers bundle

variable {plan : Plan} {answers : List (Request × Reply)}

theorem Chosen.more {host : String} (chosen : Chosen plan.settings answers host)
    (later : List (Request × Reply)) : Chosen plan.settings (answers ++ later) host := by
  cases chosen with
  | given named => exact .given named
  | found missing member => exact .found missing (List.mem_append_left later member)

theorem Announced.more {bundle : String} (announced : Announced plan answers bundle)
    (later : List (Request × Reply)) : Announced plan (answers ++ later) bundle := by
  obtain ⟨host, port, chosen, member, written⟩ := announced
  exact ⟨host, port, chosen.more later, List.mem_append_left later member, written⟩

namespace Sourced

theorem start (plan : Plan) : Sourced plan [] plan.session := ⟨rfl, rfl, nofun, nofun, nofun⟩

theorem of_idle (secret : u.secret = plan.secret) (settings : u.settings = plan.settings)
    (idle : u.point.prepares = false) : Sourced plan answers u where
  secret := secret
  settings := settings
  searching := fun here => by simp [here, Point.prepares] at idle
  chosen := fun host here => by simp [here, Point.prepares] at idle
  announced := fun bundle here => by simp [here, Point.prepares] at idle

theorem called (sourced : Sourced plan answers s) {m : Move} (called : Called s m u)
    (later : List (Request × Reply)) : Sourced plan (answers ++ later) u where
  secret := called.secret.trans sourced.secret
  settings := called.settings.trans sourced.settings
  searching := fun here => sourced.searching (called.point ▸ here)
  chosen := fun host here => (sourced.chosen host (called.point ▸ here)).more later
  announced := fun bundle here => (sourced.announced bundle (called.point ▸ here)).more later

theorem prepares (sourced : Sourced plan answers s) {request : Request} {reply : Reply}
    (prepares : Prepares s reply u) (asked : s.request = some request) :
    Sourced plan (answers ++ [(request, reply)]) u := by
  cases prepares with
  | given named =>
    rw [sourced.settings] at named
    refine ⟨sourced.secret, sourced.settings, fun same => ?_, fun host same => ?_, fun bundle same => ?_⟩
    · cases same
    · cases same
      exact .given named
    · cases same
  | searches missing =>
    refine ⟨sourced.secret, sourced.settings, fun _ => sourced.settings ▸ missing, fun host same => ?_,
      fun bundle same => ?_⟩
    · cases same
    · cases same
  | found here =>
    obtain rfl : .findAddress = request := by simpa [Session.request, here] using asked
    refine ⟨sourced.secret, sourced.settings, fun same => ?_, fun host same => ?_, fun bundle same => ?_⟩
    · cases same
    · cases same
      exact .found (sourced.searching here) (by simp)
    · cases same
  | @announces host port here =>
    obtain rfl : .boundPort = request := by simpa [Session.request, here] using asked
    refine ⟨sourced.secret, sourced.settings, fun same => ?_, fun host same => ?_, fun bundle same => ?_⟩
    · cases same
    · cases same
    · cases same
      refine ⟨host, port, (sourced.chosen host here).more _, by simp, ?_⟩
      rw [sourced.secret, sourced.settings]

theorem step (sourced : Sourced plan answers s) (standing : Standing s) (m : Move) :
    Sourced plan (answers ++ (s.answered m).toList) (s.step m).session := by
  have moves := step_moves standing.safe m
  have after := standing.step m
  generalize (s.step m).session = u at moves after
  cases moves with
  | called _ called => exact sourced.called called _
  | begins _ begins =>
    exact .of_idle ((congrArg Steady.secret begins.steady).trans sourced.secret)
      ((congrArg Steady.settings begins.steady).trans sourced.settings) begins.prepares
  | passes heeded passes =>
    obtain ⟨request, asked, fits⟩ := heeds_answer_iff.mp heeded
    rw [answered_eq_some.mpr ⟨rfl, asked, fits⟩]
    obtain idle | prepares := passes.prepares standing after
    · exact .of_idle ((congrArg Steady.secret passes.steady).trans sourced.secret)
        ((congrArg Steady.settings passes.steady).trans sourced.settings) idle
    · exact sourced.prepares prepares asked

end Sourced

theorem phase_of_listening {role : Role} {before after : Phase} {bundle : String}
    (tells : Tells role before after (some (.listening bundle))) : after = .listening := by
  cases tells with
  | announces => rfl
  | transfers transfer => cases transfer
  | ends _ ending => cases ending

/-- A bundle is told where it is announced: no final event is of that kind. -/
theorem Sourced.tells {m : Move} {bundle : String} (standing : Standing s)
    (holding : Holding (s.step m).session) (sourced : Sourced plan answers (s.step m).session)
    (now : s.toldBy m = some (.listening bundle)) : Announced plan answers bundle := by
  have phase := phase_of_listening (now ▸ standing.tells_step m)
  have told : (s.step m).session.told = some (.listening bundle) := by
    rw [toldBy] at now
    split at now
    · exact now
    · cases now
  refine sourced.announced bundle ?_
  cases here : (s.step m).session.point with
  | reportingEnd event failed =>
    have ended := holding.reporting event failed here
    simp [phase, Phase.isTerminal] at ended
  | announcing written => simpa [Session.told, Session.request, here, Request.event?] using told
  | _ => simp [Session.told, Session.request, here, Request.event?] at told

theorem announced_history (plan : Plan) (moves : List Move) :
    ∀ bundle, .listening bundle ∈ (plan.session.history moves).events →
      Announced plan (plan.session.transcript moves) bundle := by
  have ledger := history_induction (s := plan.session)
    (fun s met => (Standing s ∧ Holding s) ∧
      Sourced plan (met.filterMap fun met => met.1.answered met.2) s ∧
      ∀ bundle, .listening bundle ∈ met.flatMap (fun met => (met.1.toldBy met.2).toList) →
        Announced plan (met.filterMap fun met => met.1.answered met.2) bundle)
    ⟨⟨plan.standing, plan.holding⟩, .start plan, nofun⟩
    (fun before met m ⟨⟨standing, holding⟩, sourced, told⟩ => by
      have next := sourced.step standing m
      have held := holding.step standing.safe m
      have more : (met ++ [(before, m)]).filterMap (fun met => met.1.answered met.2) =
          met.filterMap (fun met => met.1.answered met.2) ++ (before.answered m).toList := by
        rw [List.filterMap_append]
        rfl
      rw [more]
      refine ⟨⟨standing.step m, held⟩, next, fun bundle member => ?_⟩
      rw [List.flatMap_append, List.flatMap_singleton, List.mem_append, Option.mem_toList] at member
      obtain earlier | now := member
      · exact (told bundle earlier).more _
      · exact next.tells standing held now) moves
  rw [events_history]
  exact ledger.2.2

end Session

/-! ## What a search finds -/

namespace Surroundings

theorem parsed_of_usable {candidate address : String} (usable : usable? .inet candidate = some address) :
    (∃ parsed, Address.parse? address.toList = some parsed) ∧ '%' ∉ address.toList := by
  have unzoned : '%' ∉ Text.before '%' candidate.toList := fun member => by
    simpa using List.mem_takeWhile_imp member
  unfold usable? at usable
  dsimp only at usable
  split at usable
  · cases usable
  · next parsed read =>
    split at usable
    · cases usable
      rw [String.toList_ofList]
      exact ⟨⟨parsed, read⟩, unzoned⟩
    · cases usable

theorem usable_of_found {s : Surroundings} {address : String}
    (found : (s.search .inet).1 = .found address) : ∃ candidate, usable? .inet candidate = some address := by
  unfold search at found
  generalize s.candidates .inet = offered at found
  induction offered with
  | ended | failed => cases found
  | offer steps candidate release rest ih =>
    rw [Candidates.search] at found
    cases usable : usable? .inet candidate with
    | some other =>
      obtain rfl : other = address := by simpa [usable] using found
      exact ⟨candidate, usable⟩
    | none => exact ih (by simpa [usable] using found)

end Surroundings

theorem Rehearsal.Stage.findAddress_fst (w : Stage) :
    w.findAddress.1 = match (w.surroundings.search .inet).1 with
      | .found address => .address address
      | .nothing => .address ""
      | .failed f => .fault f := by
  unfold findAddress
  generalize w.surroundings.search .inet = search
  obtain ⟨finding, steps⟩ := search
  cases finding <;> rfl

/-! ## The bundle read back -/

namespace Bundle

variable {scheme : String} {secret : Secret} {port : Int}

theorem read_of_sited {host : String} (valid : Uri.isScheme scheme.toList = true)
    (sited : Sited host.toList) (range : 1 ≤ port ∧ port ≤ 65535) :
    read (write ⟨host, port, secret⟩ scheme) scheme =
      if (Uri.lowered host.toList).isEmpty then .error .noHost
      else .ok ⟨String.ofList (Uri.lowered host.toList), port, secret⟩ := by
  obtain ⟨number, rfl⟩ := Int.eq_ofNat_of_zero_le (show 0 ≤ port by omega)
  have none : ∀ c ∈ ([] : List Char), Text.isBlank c = true := nofun
  have bare := @read_write_of_sited host scheme number secret [] [] valid sited (by omega) (by omega) none none
  simpa using bare

theorem read_of_fits {host : String} (valid : Uri.isScheme scheme.toList = true)
    (fits : Fits host.toList) (range : 1 ≤ port ∧ port ≤ 65535) :
    read (write ⟨host, port, secret⟩ scheme) scheme = .ok ⟨host, port, secret⟩ := by
  rw [read_of_sited valid fits.sited range, fits.lowered, if_neg (by simpa using fits.filled),
    String.ofList_toList]

/-- An address that was found is read in lower case. -/
theorem read_of_found {s : Surroundings} {host : String} (valid : Uri.isScheme scheme.toList = true)
    (found : (s.search .inet).1 = .found host) (range : 1 ≤ port ∧ port ≤ 65535) :
    read (write ⟨host, port, secret⟩ scheme) scheme =
      .ok ⟨String.ofList (host.toList.map Char.toLower), port, secret⟩ := by
  obtain ⟨candidate, usable⟩ := Surroundings.usable_of_found found
  obtain ⟨⟨parsed, read⟩, unzoned⟩ := Surroundings.parsed_of_usable usable
  obtain ⟨sited, lowered, filled⟩ := sited_of_parsed read unzoned
  rw [read_of_sited valid sited range, lowered, if_neg (by simpa using filled)]

theorem read_of_nothing (valid : Uri.isScheme scheme.toList = true)
    (range : 1 ≤ port ∧ port ≤ 65535) :
    read (write ⟨"", port, secret⟩ scheme) scheme = .error .noHost := by
  have sited : Sited "".toList := ⟨by simp, by simp⟩
  rw [read_of_sited valid sited range]
  rfl

end Bundle

namespace Session

/-- A bundle that a listener tells of is read back with its secret, the port that its socket answered with
and the host that it advertises, unless it has searched for an address and found none. -/
theorem listening_read (secret : Secret) (settings : Settings) (ownThread : Bool)
    (provider : Option Transport.Provider) (moves : List Move)
    (valid : Uri.isScheme settings.scheme.toList = true)
    (named : ∀ host, settings.advertiseHost = some host → Bundle.Portable host.toList)
    (searched : ∀ reply, (.findAddress, reply) ∈
      (Plan.listener secret settings ownThread provider).session.transcript moves →
        ∃ w : Rehearsal.Stage, w.findAddress.1 = reply)
    (range : ∀ port, (.boundPort, .port port) ∈
      (Plan.listener secret settings ownThread provider).session.transcript moves →
        1 ≤ port ∧ port ≤ 65535)
    {bundle : String} (told : .listening bundle ∈
      ((Plan.listener secret settings ownThread provider).session.history moves).events) :
    let answers := (Plan.listener secret settings ownThread provider).session.transcript moves
    ∃ port, (.boundPort, .port port) ∈ answers ∧
      ((∃ host, settings.advertiseHost = some host ∧
          Bundle.read bundle settings.scheme = .ok ⟨host, port, secret⟩) ∨
        settings.advertiseHost = none ∧ ∃ w : Rehearsal.Stage, (.findAddress, w.findAddress.1) ∈ answers ∧
          ((∃ host, (w.surroundings.search .inet).1 = .found host ∧ Bundle.read bundle settings.scheme =
              .ok ⟨String.ofList (host.toList.map Char.toLower), port, secret⟩) ∨
            (w.surroundings.search .inet).1 = .nothing ∧
              Bundle.read bundle settings.scheme = .error .noHost)) := by
  obtain ⟨host, port, chosen, bound, rfl⟩ := announced_history _ moves bundle told
  refine ⟨port, bound, ?_⟩
  have range := range port bound
  cases chosen with
  | given advertised =>
    obtain ⟨given, -⟩ := Option.filter_eq_some_iff.mp advertised
    exact .inl ⟨host, given, Bundle.read_of_fits valid (named host given).fits range⟩
  | found missing answered =>
    have unnamed : settings.advertiseHost = none := by
      cases given : settings.advertiseHost with
      | none => rfl
      | some other =>
        have filled := (named other given).fits.filled
        have kept : settings.advertised = some other := by
          rw [Settings.advertised, given]
          simpa [Option.filter] using filled
        cases kept.symm.trans missing
    obtain ⟨w, same⟩ := searched _ answered
    refine .inr ⟨unnamed, w, same ▸ answered, ?_⟩
    rw [w.findAddress_fst] at same
    cases finding : (w.surroundings.search .inet).1 with
    | found address =>
      obtain rfl : address = host := by simpa [finding] using same
      exact .inl ⟨address, rfl, Bundle.read_of_found valid finding range⟩
    | nothing =>
      obtain rfl : "" = host := by simpa [finding] using same
      exact .inr ⟨rfl, Bundle.read_of_nothing valid range⟩
    | failed f => simp [finding] at same

/-- On a device without an address, a listener that is not given a host tells of a bundle that cannot be
read. -/
theorem listening_read_unfound :
    let lost : Rehearsal.Stage :=
      { Rehearsal.Stage.plainStage with surroundings := ⟨.error ⟨.system, "unreachable"⟩, .ok [], "localhost"⟩ }
    let moves := [.start, .run, .answer .done, .answer .done, .answer lost.findAddress.1, .answer (.port 40000)]
    let bundle := Bundle.write ⟨"", 40000, Plan.plainListener.secret⟩ Bundle.defaultScheme
    bundle = "pgp+transfer://AAAAAAAAAAAAAAAAAAAAAA@:40000" ∧
      .listening bundle ∈ (Plan.plainListener.session.history moves).events ∧
      Bundle.read bundle Bundle.defaultScheme = .error .noHost := by
  intro lost moves bundle
  have told : .listening bundle ∈ (Plan.plainListener.session.history moves).events := by
    have events : (Plan.plainListener.session.history moves).events = [.listening bundle] := rfl
    simp [events]
  have answers : Plan.plainListener.session.transcript moves =
      [(.bind "0.0.0.0" 1336, .done), (.setTimeout .listener Settings.defaultReadTimeout, .done),
        (.findAddress, .address ""), (.boundPort, .port 40000)] := rfl
  have searched : ∀ reply, (.findAddress, reply) ∈ Plan.plainListener.session.transcript moves →
      reply = .address "" := by
    intro reply member
    simpa [answers] using member
  have range : ∀ port, (.boundPort, .port port) ∈ Plan.plainListener.session.transcript moves →
      1 ≤ port ∧ port ≤ 65535 := by
    intro port member
    obtain rfl : port = 40000 := by simpa [answers] using member
    decide
  obtain ⟨port, -, ⟨host, named, -⟩ | ⟨-, w, answered, ⟨host, found, -⟩ | ⟨-, refused⟩⟩⟩ :=
    listening_read ⟨List.replicate 16 0, rfl⟩ .default false none moves (by decide) nofun
      (fun reply member => ⟨lost, (searched reply member).symm⟩) range told
  · cases named
  · -- A host that is found is not empty.
    have reply := searched _ answered
    rw [w.findAddress_fst, found] at reply
    obtain rfl : host = "" := by simpa using reply
    obtain ⟨candidate, usable⟩ := Surroundings.usable_of_found found
    obtain ⟨⟨parsed, read⟩, -⟩ := Surroundings.parsed_of_usable usable
    have empty : Address.parse? "".toList = none := by decide
    cases empty.symm.trans read
  · exact ⟨by decide, told, refused⟩

end Session

end Handover
