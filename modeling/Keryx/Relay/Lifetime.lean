import Keryx.Relay.Discovery

/-! How long a registration lasts, and which lifetimes can be kept. -/

namespace Keryx.Relay
open Keryx.Core Proto Relational Session RegistryState SkillRegistry

/-- The peer is still registered, as it was and for as long. -/
def Registration.Undegraded (registration : Registration) (after : RegistryState) : Prop :=
  ∃ later, after.nodes.find registration.peerId = some later ∧ later.skills = registration.skills ∧
    later.protocolFeatures = registration.protocolFeatures ∧ later.name = registration.name ∧
    later.description = registration.description ∧ registration.expiresAt ≤ later.expiresAt

def Registration.announced (defaultTtl : Duration) (clock : Clock) (registration : Registration) : Registration :=
  { registration with
    name := registration.peerId.value
    expiresAt := clock.instant 2 + defaultTtl
    expiresAtUnixMs := clock.unixMs 1 + millisU64 defaultTtl
    updatedAtUnixMs := clock.unixMs 1 }

/-- The node is let in, the relay has a registry, and the registry can compute when the registration is to expire. -/
structure RelayHealthService.Announces (service : RelayHealthService) (defaultTtl : Duration) (clock : Clock)
    (request : RegisterNodeRequest) (peer : PeerId) : Prop where
  accepted : registeringNode service request = .ok peer.value
  recorded : service.registry.isSome = true
  bounded : clock.instant 2 + defaultTtl ≤ maxInstant

section
variable {defaultTtl : Duration} {clock : Clock} {state : RegistryState} {registration : Registration}

theorem refreshed_blank (current : String) : refreshed "" current = current := by
  unfold refreshed
  split
  · rename_i either
    exact (either.resolve_left fun blank => blank rfl).symm
  · rfl

theorem upsertNode_announces (found : state.nodes.find registration.peerId = some registration)
    (unexpired : clock.instant 0 < registration.expiresAt) :
    upsertNode defaultTtl clock registration.peerId registration.peerId.value "" none state =
      if clock.instant 2 + defaultTtl ≤ maxInstant then
        (.ok (), (purgeExpiredLocked (clock.instant 0) state).insertRegistration
          (registration.announced defaultTtl clock))
      else (.error .instantOverflow, purgeExpiredLocked (clock.instant 0) state) := by
  have named : refreshed registration.peerId.value registration.name = registration.peerId.value := by
    refine if_pos (.inl ?_)
    rw [trim_value]
    exact registration.peerId.value_ne_empty
  unfold upsertNode upsertWith purgeExpired
  rw [amend_bind, observe_bind, find_purge_unexpired found unexpired]
  unfold instantAfter
  simp only [Option.getD_none]
  split
  · simp only [attempt_bind, named, refreshed_blank]
    rfl
  · rfl

theorem registerNodeSkills_found {service : RelayHealthService} {request : RegisterNodeRequest} {id : ProtoId}
    (asked : request.nodeId = some id) (own : trim id.value = registration.peerId.value)
    (found : state.nodes.find registration.peerId = some registration)
    (unexpired : ∀ reading, clock.instant reading < registration.expiresAt) :
    let after := registerNodeSkills service defaultTtl clock request state
    (¬ service.Announces defaultTtl clock request registration.peerId ∧
        after.2.nodes.find registration.peerId = some registration) ∨
      service.Announces defaultTtl clock request registration.peerId ∧
        after.2.nodes.find registration.peerId = (some (registration.announced defaultTtl clock)).filter
          fun registration => clock.instant 3 < registration.expiresAt := by
  intro after
  have shape : after = registerNodeSkills service defaultTtl clock request state := rfl
  clear_value after
  unfold registerNodeSkills at shape
  rw [attempt_bind] at shape
  cases accepted : registeringNode service request with
  | error failure =>
    rw [accepted] at shape
    subst shape
    exact .inl ⟨fun announces => (nomatch accepted.symm.trans announces.accepted), found⟩
  | ok nodeId =>
    have same : nodeId = registration.peerId.value := by
      simp only [registeringNode, except_bind_ok, requirePresent_ok, Option.filter_eq_some_iff,
        Option.map_eq_some_iff, except_pure_ok] at accepted
      obtain ⟨_, ⟨⟨other, given, rfl⟩, _⟩, _, _, _, _, _, _, rfl⟩ := accepted
      rw [asked] at given
      cases given
      exact own
    subst same
    rw [accepted] at shape
    simp only [Except.mapError] at shape
    split at shape
    · rename_i present
      have parsed : parseRegistryPeerId registration.peerId.value = .ok registration.peerId := by
        rw [parseRegistryPeerId, trim_value, validateIdentifier_value]
        rfl
      rw [parsed, attempt_bind] at shape
      simp only at shape
      rw [bind_apply, report, upsertNode_announces found (unexpired 0)] at shape
      by_cases bounded : clock.instant 2 + defaultTtl ≤ maxInstant
      · rw [if_pos bounded] at shape
        subst shape
        refine .inr ⟨⟨accepted, present, bounded⟩, ?_⟩
        refine (find_purgeExpiredLocked (clock.instant 3) registration.peerId _).trans ?_
        exact congrArg _ ((find_insertRegistration _ registration.peerId _).trans (if_pos rfl))
      · rw [if_neg bounded] at shape
        subst shape
        exact .inl ⟨fun announces => bounded announces.bounded,
          find_purge_unexpired found (unexpired 0)⟩
    · rename_i absent
      subst shape
      exact .inl ⟨fun announces => absent announces.recorded, found⟩

/-- An announcement takes nothing from a registration, unless it renames the peer or shortens its time. -/
theorem announcing_spares_registration (service : RelayHealthService) (request : RegisterNodeRequest) (id : ProtoId)
    (asked : request.nodeId = some id) (own : trim id.value = registration.peerId.value)
    (found : state.nodes.find registration.peerId = some registration)
    (unexpired : ∀ reading, clock.instant reading < registration.expiresAt) :
    registration.Undegraded (registerNodeSkills service defaultTtl clock request state).2 ↔
      (service.Announces defaultTtl clock request registration.peerId →
        registration.name = registration.peerId.value ∧ registration.expiresAt ≤ clock.instant 2 + defaultTtl) := by
  rcases registerNodeSkills_found asked own found unexpired with ⟨idle, still⟩ | ⟨done, replaced⟩
  · exact iff_of_true ⟨registration, still, rfl, rfl, rfl, rfl, le_refl _⟩ fun reached => absurd reached idle
  · rw [forall_prop_of_true done]
    constructor
    · rintro ⟨later, present, _, _, name, _, expires⟩
      rw [replaced, Option.filter_eq_some_iff] at present
      cases present.1
      exact ⟨name.symm, expires⟩
    · rintro ⟨name, expires⟩
      refine ⟨registration.announced defaultTtl clock, ?_, rfl, rfl, name.symm, rfl, expires⟩
      rw [replaced, Option.filter_some]
      exact if_pos (decide_eq_true (lt_of_lt_of_le (unexpired 3) expires))

end

def edgeAuth : NodeTokenAuth := ⟨Table.empty.put (.literal "edge" (.refl true), "token-0123456789"), []⟩

def edgeMetadata : Metadata := ⟨some (.text "edge"), some (.text "token-0123456789")⟩

def announcedService : RelayHealthService := ⟨some fun _ => [], some edgeAuth⟩

def workerRegistration : Registration :=
  { skilledRegistration with name := "worker", expiresAt := fromSecs 3600 }

/-- The peer loses its name, and most of its time. -/
theorem announcing_renames_and_shortens :
    midnight.instant 0 < workerRegistration.expiresAt ∧
      (registerNodeSkills announcedService defaultRegistrationTtl midnight ⟨some ⟨"edge"⟩, "token-0123456789"⟩
        (empty.insertRegistration workerRegistration)).1 = .ok true ∧
      (registerNodeSkills announcedService defaultRegistrationTtl midnight ⟨some ⟨"edge"⟩, "token-0123456789"⟩
        (empty.insertRegistration workerRegistration)).2.nodes.find workerRegistration.peerId =
          some { workerRegistration with name := "edge", expiresAt := fromSecs 300, expiresAtUnixMs := 300000 } :=
  ⟨by decide, rfl, by decide⟩

theorem announcing_again_spares_registration :
    skilledRegistration.Undegraded (registerNodeSkills announcedService defaultRegistrationTtl midnight
      ⟨some ⟨"edge"⟩, "token-0123456789"⟩ (empty.insertRegistration skilledRegistration)).2 :=
  (announcing_spares_registration announcedService ⟨some ⟨"edge"⟩, "token-0123456789"⟩ ⟨"edge"⟩ rfl (by decide)
    ((find_insertRegistration skilledRegistration _ _).trans (if_pos rfl))
    (fun _ => show (0 : Int) < 300 by decide)).mpr fun _ => ⟨rfl, by decide⟩

def RegisterSkillsRequest.lifetime (defaultTtl : Duration) (request : RegisterSkillsRequest) : Duration :=
  if request.ttlSeconds = 0 then defaultTtl else fromSecs request.ttlSeconds.toNat

/-- Every reading of the one call comes before every reading of the other. -/
def Clock.Before (earlier later : Clock) : Prop := ∀ reading other, earlier.instant reading ≤ later.instant other

/-- The wall clock has advanced by as many milliseconds as a lifetime has lost. -/
def InStep (startMs nowMs : UInt64) (lifetime : Duration) (elapsed : Int) : Prop :=
  (nowMs.toNat : Int) - startMs.toNat = (lifetime : Int) / 1000000 - (lifetime - elapsed) / 1000000

section
variable {defaultTtl : Duration} {clock look : Clock} {state : RegistryState} {peer : PeerId}

theorem wrapped_report {nowMs : UInt64} {remaining expected : Nat}
    (bounded : nowMs.toNat + remaining < 2 ^ 64 + expected) :
    (nowMs.toInt64 + .ofNat remaining).toInt = expected ↔ expected < 2 ^ 63 ∧ nowMs.toNat + remaining = expected := by
  have first : nowMs.toInt64.toInt = Int.bmod nowMs.toNat (2 ^ 64) := BitVec.toInt_eq_toNat_bmod _
  have second : (Int64.ofNat remaining).toInt = Int.bmod remaining (2 ^ 64) := Int64.toInt_ofNat'
  have sum : (nowMs.toInt64 + .ofNat remaining).toInt = Int.bmod (nowMs.toNat + remaining : Nat) (2 ^ 64) := by
    rw [Int64.toInt_add, first, second, Int.bmod_add_bmod, Int.add_bmod_bmod, Int.natCast_add]
  have word := nowMs.toNat_lt
  rw [sum, Int.bmod_def]
  split
  · omega
  · omega

theorem remaining_le {start now : Int} {ttl : Nat} (later : start ≤ now) :
    (start + ttl - now).toNat / 1000000 ≤ ttl / 1000000 := by
  omega

theorem reported_iff {registration : Registration} {now start : Int} {startMs nowMs : UInt64} {ttl : Nat}
    (expires : registration.expiresAt = start + ttl) (later : start ≤ now) :
    (registrationToProto now nowMs registration).expiresAt.toInt = (startMs.toNat + ttl / 1000000 : Nat) ↔
      startMs.toNat + ttl / 1000000 < 2 ^ 63 ∧
        if now ≤ start + ttl then InStep startMs nowMs ttl (now - start) else startMs.toNat + ttl / 1000000 = 0 := by
  unfold registrationToProto InStep
  rw [expires]
  simp only
  by_cases early : now ≤ start + ttl
  · rw [if_pos early, if_pos early]
    have word := nowMs.toNat_lt
    have less := @remaining_le start now ttl later
    rw [wrapped_report (by omega)]
    omega
  · rw [if_neg early, if_neg early]
    generalize startMs.toNat + ttl / 1000000 = expected
    show (0 : Int) = expected ↔ _
    omega

theorem recorded_iff {startMs : UInt64} {ttl : Duration} :
    (startMs + millisU64 ttl).toNat = startMs.toNat + ttl / 1000000 ↔ startMs.toNat + ttl / 1000000 < 2 ^ 64 := by
  have word := startMs.toNat_lt
  rw [millisU64, UInt64.toNat_add, UInt64.toNat_ofNat']
  generalize ttl / 1000000 = ms
  omega

theorem Spares.seen {acting : PeerId → Prop} {before after : RegistryState} (spares : Spares acting clock before after)
    (idle : ¬ acting peer) (earlier : clock.Before look) :
    (after.nodes.find peer).filter (fun registration => look.instant 0 < registration.expiresAt) =
      (before.nodes.find peer).filter fun registration => look.instant 0 < registration.expiresAt := by
  rcases spares peer idle with same | ⟨gone, registration, reading, found, expired⟩
  · rw [same]
  · have late := le_trans expired (earlier reading 0)
    rw [gone, found, Option.filter_none, Option.filter_some_neg]
    rw [decide_eq_false_iff_not]
    exact not_lt.mpr late

theorem run_seen {events : List TimedEvent} (idle : ∀ timed ∈ events, ¬ timed.event.ActsFor peer)
    (earlier : ∀ timed ∈ events, timed.clock.Before look) :
    ((Run.run (RegistryState.step defaultTtl) state events).nodes.find peer).filter
        (fun registration => look.instant 0 < registration.expiresAt) =
      (state.nodes.find peer).filter fun registration => look.instant 0 < registration.expiresAt := by
  induction events generalizing state with
  | nil => rfl
  | cons timed events ih =>
    refine (ih (fun other among => idle other (List.mem_cons_of_mem timed among))
      fun other among => earlier other (List.mem_cons_of_mem timed among)).trans ?_
    exact (step_spares defaultTtl state timed).seen (idle timed List.mem_cons_self) (earlier timed List.mem_cons_self)

theorem discovered_every : discovered none [] 0 state =
    state.nodes.rows.mergeSort (fun left right => left.peerId.value ≤ right.peerId.value) := by
  simp [discovered]

variable {service : RegistryRpcService} {metadata : Metadata} {request : RegisterSkillsRequest}

/-- The registration that the request asks for. -/
def RegisterSkillsRequest.registration (request : RegisterSkillsRequest) (defaultTtl : Duration) (clock : Clock)
    (peer : PeerId) : Registration where
  peerId := peer
  skills := request.skills.map fun skill => ⟨skill.skillId, skill.description, skill.tags⟩
  name := request.name
  description := request.description
  protocolFeatures := request.protocolFeatures
  expiresAt := clock.instant 0 + request.lifetime defaultTtl
  expiresAtUnixMs := clock.unixMs 0 + millisU64 (request.lifetime defaultTtl)
  updatedAtUnixMs := clock.unixMs 0

theorem registerSkills_apply (authenticated : service.authenticateMutation metadata request.peerId = .ok peer) :
    service.registerSkills defaultTtl clock metadata request state =
      if clock.instant 0 + request.lifetime defaultTtl ≤ maxInstant then
        (.ok true, (service.syncRegistryMetric (clock.instant 2) ((purgeExpiredLocked (clock.instant 1)
          state).insertRegistration (request.registration defaultTtl clock peer))).2)
      else (.error (.panicked .instantOverflow), state) := by
  have lifetime : (if request.ttlSeconds = 0 then none else some (fromSecs request.ttlSeconds.toNat)).getD defaultTtl =
      request.lifetime defaultTtl := by
    unfold RegisterSkillsRequest.lifetime
    split
    · rfl
    · rfl
  unfold RegistryRpcService.registerSkills registerWithFeatures registrationFor instantAfter
  rw [authenticated, attempt_bind, lifetime]
  simp only [Except.mapError]
  split
  · unfold RegistryRpcService.syncRegistryMetric
    split
    · rfl
    · rfl
  · rfl

end

/-- The reader is told of the peer at the place. -/
def Shows (answers : List ProtoRegistration) (peer : PeerId) (place : Nat) (answer : ProtoRegistration) : Prop :=
  answers[place]? = some answer ∧ answer.peerId = peer.value

/-- The registration is made, and what readers are told of it is exact. -/
structure Represented (defaultTtl : Duration) (clock look : Clock) (request : RegisterSkillsRequest) (peer : PeerId)
    (outcome : Except RpcFailure Bool) (answers : List ProtoRegistration) : Prop where
  completes : outcome = .ok true
  recorded : (request.registration defaultTtl clock peer).expiresAtUnixMs.toNat =
    (clock.unixMs 0).toNat + request.lifetime defaultTtl / 1000000
  visible : (∃ place answer, Shows answers peer place answer) ↔
    look.instant 0 < clock.instant 0 + request.lifetime defaultTtl
  reported : ∀ place answer, Shows answers peer place answer →
    answer.expiresAt.toInt = ((clock.unixMs 0).toNat + request.lifetime defaultTtl / 1000000 : Nat)

/-- How many registrations a reader is told of before the peer's. -/
def RegistryState.placeOf (now : Instant) (peer : PeerId) (state : RegistryState) : Nat :=
  ((purgeExpiredLocked now state).nodes.rows.filter (·.peerId.value < peer.value)).length

/-- The end of the lifetime is an instant and a number of milliseconds, and a reader in time has clocks that are in
step; one whose clock has passed the end meanwhile reports none. -/
structure Representable (defaultTtl : Duration) (clock look : Clock) (request : RegisterSkillsRequest) (place : Nat) :
    Prop where
  instant : clock.instant 0 + request.lifetime defaultTtl ≤ maxInstant
  millis : (clock.unixMs 0).toNat + request.lifetime defaultTtl / 1000000 < 2 ^ 64
  agreed : look.instant 0 < clock.instant 0 + request.lifetime defaultTtl →
    (clock.unixMs 0).toNat + request.lifetime defaultTtl / 1000000 < 2 ^ 63 ∧
      if look.instant (place + 1) ≤ clock.instant 0 + request.lifetime defaultTtl then
        InStep (clock.unixMs 0) (look.unixMs place) (request.lifetime defaultTtl)
          (look.instant (place + 1) - clock.instant 0)
      else (clock.unixMs 0).toNat + request.lifetime defaultTtl / 1000000 = 0

theorem shows_iff {look : Clock} {state : RegistryState} {registration : Registration} {peer : PeerId}
    {answers : List ProtoRegistration} (own : registration.peerId = peer)
    (seen : (state.nodes.find peer).filter (fun registration => look.instant 0 < registration.expiresAt) =
      (some registration).filter fun registration => look.instant 0 < registration.expiresAt)
    (read : (discoverBySkill look ⟨"", [], 0⟩ state).1 = .ok answers) :
    ((∃ place answer, Shows answers peer place answer) ↔ look.instant 0 < registration.expiresAt) ∧
      ∀ place answer, Shows answers peer place answer → place = state.placeOf (look.instant 0) peer ∧
        answer = registrationToProto (look.instant (place + 1)) (look.unixMs place) registration := by
  have told : answers = (discovered none [] 0
      (purgeExpiredLocked (look.instant 0) state)).mapIdx fun place registration =>
        registrationToProto (look.instant (place + 1)) (look.unixMs place) registration := by
    cases read
    rfl
  rw [discovered_every] at told
  rw [← find_purgeExpiredLocked] at seen
  have placed : ∀ place answer, Shows answers peer place answer → look.instant 0 < registration.expiresAt ∧
      place = state.placeOf (look.instant 0) peer ∧
        answer = registrationToProto (look.instant (place + 1)) (look.unixMs place) registration := by
    rintro place answer ⟨shown, named⟩
    rw [told, List.getElem?_mapIdx, Option.map_eq_some_iff] at shown
    obtain ⟨found, listed, rfl⟩ := shown
    have ranked := place_sorted listed
    have present := Table.mem_rows.mp (List.mem_mergeSort.mp (List.mem_of_getElem? listed))
    rw [Identifier.eq_of_value named, seen, Option.filter_eq_some_iff, decide_eq_true_eq] at present
    cases present.1
    rw [own] at ranked
    exact ⟨present.2, ranked, rfl⟩
  refine ⟨⟨fun ⟨place, answer, shown⟩ => (placed place answer shown).1, ?_⟩,
    fun place answer shown => (placed place answer shown).2⟩
  intro unexpired
  rw [Option.filter_some, if_pos (decide_eq_true unexpired), ← own] at seen
  obtain ⟨place, listed⟩ := List.mem_iff_getElem?.mp (List.mem_mergeSort.mpr (Table.mem_rows.mpr seen))
  refine ⟨place, registrationToProto (look.instant (place + 1)) (look.unixMs place) registration, ?_, ?_⟩
  · rw [told, List.getElem?_mapIdx, listed, Option.map_some]
  · rw [← own]
    rfl

/-- A later read completes, and the lifetime is kept and reported to the millisecond exactly if its end is
representable. -/
theorem lifetime_represented_iff (service : RegistryRpcService) (defaultTtl : Duration) (clock look : Clock)
    (metadata : Metadata) (request : RegisterSkillsRequest) (peer : PeerId) (state : RegistryState)
    (events : List TimedEvent) (authenticated : service.authenticateMutation metadata request.peerId = .ok peer)
    (idle : ∀ timed ∈ events, ¬ timed.event.ActsFor peer) (earlier : ∀ timed ∈ events, timed.clock.Before look)
    (before : clock.Before look) :
    let met := Run.run (RegistryState.step defaultTtl)
      (service.registerSkills defaultTtl clock metadata request state).2 events
    ∃ answers, (discoverBySkill look ⟨"", [], 0⟩ met).1 = .ok answers ∧
      (Represented defaultTtl clock look request peer
          (service.registerSkills defaultTtl clock metadata request state).1 answers ↔
        Representable defaultTtl clock look request (met.placeOf (look.instant 0) peer)) := by
  intro met
  obtain ⟨answers, read⟩ : ∃ answers, (discoverBySkill look ⟨"", [], 0⟩ met).1 = .ok answers := ⟨_, rfl⟩
  refine ⟨answers, read, ?_⟩
  have applied : service.registerSkills defaultTtl clock metadata request state = _ :=
    registerSkills_apply authenticated
  by_cases fits : clock.instant 0 + request.lifetime defaultTtl ≤ maxInstant
  · rw [if_pos fits] at applied
    have completes : (service.registerSkills defaultTtl clock metadata request state).1 = .ok true :=
      congrArg Prod.fst applied
    have counted := @syncRegistryMetric_leads (fun _ => False) clock service 2 ((purgeExpiredLocked
      (clock.instant 1) state).insertRegistration (request.registration defaultTtl clock peer))
    have kept := @Spares.seen clock look peer _ _ _ counted not_false before
    have own : peer = (request.registration defaultTtl clock peer).peerId := rfl
    rw [← show (service.registerSkills defaultTtl clock metadata request state).2 = _ from congrArg Prod.snd applied,
      find_insertRegistration, if_pos own] at kept
    obtain ⟨visible, placed⟩ := shows_iff own.symm ((run_seen idle earlier).trans kept) read
    constructor
    · rintro ⟨_, recorded, _, reported⟩
      refine ⟨fits, recorded_iff.mp recorded, ?_⟩
      intro early
      obtain ⟨place, answer, shown⟩ := visible.mpr early
      obtain ⟨rfl, told⟩ := placed place answer shown
      have exactly := reported _ answer shown
      rw [told] at exactly
      exact (reported_iff rfl (before 0 _)).mp exactly
    · rintro ⟨_, millis, agreed⟩
      refine ⟨completes, recorded_iff.mpr millis, visible, ?_⟩
      intro place answer shown
      obtain ⟨rfl, told⟩ := placed place answer shown
      rw [told]
      exact (reported_iff rfl (before 0 _)).mpr (agreed (visible.mp ⟨_, answer, shown⟩))
  · rw [applied, if_neg fits]
    exact iff_of_false (fun represented => nomatch represented.completes) fun representable =>
      fits representable.instant

/-- A lifetime of as many seconds as fit the field ends after the last instant. -/
theorem registering_for_ever_panics :
    (RegistryRpcService.authenticateMutation ⟨true, some edgeAuth⟩ edgeMetadata "edge").isOk ∧
      (RegistryRpcService.registerSkills ⟨true, some edgeAuth⟩ defaultRegistrationTtl midnight edgeMetadata
        ⟨"edge", [], "", "", 18446744073709551615, []⟩ empty).1 =
          .error (.panicked .instantOverflow) :=
  ⟨by decide, rfl⟩

def minuteRequest : RegisterSkillsRequest := ⟨"edge", [], "", "", 60, []⟩

/-- The edge registers beside another peer, which comes before it. -/
def minuteRegistered : Except RpcFailure Bool × RegistryState :=
  RegistryRpcService.registerSkills ⟨true, some edgeAuth⟩ defaultRegistrationTtl midnight edgeMetadata minuteRequest
    (empty.insertRegistration { workerRegistration with peerId := .literal "cloud" (.refl true) })

def thirtySeconds : Clock := ⟨fun _ => fromSecs 30, fun _ => 30000⟩

theorem minute_is_represented :
    minuteRegistered.2.placeOf 0 skilllessRegistration.peerId = 1 ∧
      ∃ answers, (discoverBySkill thirtySeconds ⟨"", [], 0⟩
          (Run.run (RegistryState.step defaultRegistrationTtl) minuteRegistered.2 [⟨.purge, midnight⟩])).1 = .ok answers ∧
        Represented defaultRegistrationTtl midnight thirtySeconds minuteRequest skilllessRegistration.peerId
          minuteRegistered.1 answers := by
  have before : midnight.Before thirtySeconds := fun _ _ => show (0 : Int) ≤ 30000000000 by decide
  obtain ⟨answers, read, represented⟩ := lifetime_represented_iff ⟨true, some edgeAuth⟩ defaultRegistrationTtl midnight
    thirtySeconds edgeMetadata minuteRequest skilllessRegistration.peerId _ [⟨.purge, midnight⟩] rfl
    (List.forall_mem_singleton.mpr id) (List.forall_mem_singleton.mpr before) before
  exact ⟨by decide, answers, read, represented.mpr
    ⟨by decide, by decide, fun _ => ⟨by decide, (if_pos (by decide)).mpr rfl⟩⟩⟩

end Keryx.Relay
