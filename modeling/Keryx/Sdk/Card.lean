import Keryx.Relay.Discovery

/-! How the Python SDK looks an agent card up: in the first page of all registrations. -/

namespace Keryx.Sdk
open Keryx.Core Relational Relay Relay.RegistryState Relay.SkillRegistry

structure AgentCard where
  name : String
  description : String
  skills : List SkillInfo
  peerId : String
  protocolFeatures : List String

def cardRequest : DiscoverBySkillRequest := ⟨"", [], 100⟩

def getCard (peerId : String) (registrations : List ProtoRegistration) : Except String AgentCard :=
  match registrations.find? (·.peerId = peerId) with
  | none => .error s!"No agent card for peer {peerId}"
  | some registration =>
    if registration.skills.any (·.tags.contains "") then .error "Skill tags must be a list of non-empty strings"
    else .ok
      { name := if registration.name = "" then registration.peerId else registration.name
        description := registration.description
        skills := registration.skills
        peerId := registration.peerId
        protocolFeatures := registration.protocolFeatures }

def shownPage (clock : Clock) (listed : List Registration) : List ProtoRegistration :=
  listed.mapIdx fun place registration =>
    registrationToProto (clock.instant (place + 1)) (clock.unixMs place) registration

theorem discovered_all (state : RegistryState) :
    discovered none [] 100 state =
      (state.nodes.rows.mergeSort (fun left right => left.peerId.value ≤ right.peerId.value)).take 100 := by
  simp [discovered]

section
variable {state : RegistryState} {registration : Registration} {listed : List Registration} {clock : Clock}

theorem discovered_stored : ∀ other ∈ discovered none [] 100 state, state.nodes.find other.peerId = some other := by
  intro other member
  rw [discovered_all] at member
  exact Table.mem_rows.mp (List.mem_mergeSort.mp (List.mem_of_mem_take member))

theorem mem_discovered_all (found : state.nodes.find registration.peerId = some registration) :
    registration ∈ discovered none [] 100 state ↔
      (state.nodes.rows.filter (·.peerId.value < registration.peerId.value)).length < 100 := by
  obtain ⟨place, listed⟩ := List.mem_iff_getElem?.mp (List.mem_mergeSort.mpr (Table.mem_rows.mpr found))
  rw [discovered_all, ← place_sorted listed]
  constructor
  · intro taken
    obtain ⟨other, again⟩ := List.mem_iff_getElem?.mp taken
    rw [List.getElem?_take] at again
    split at again
    · rename_i early
      rwa [place_sorted listed, ← place_sorted again]
    · cases again
  · intro early
    exact List.mem_iff_getElem?.mpr ⟨place, (List.getElem?_take_of_lt early).trans listed⟩

/-- The registration as a card shows it. -/
def AgentCard.Shows (card : AgentCard) (registration : Registration) : Prop :=
  card.skills = registration.skills.map (fun skill => ⟨skill.skillId, skill.description, skill.tags⟩) ∧
    card.protocolFeatures = registration.protocolFeatures

theorem getCard_shown (stored : ∀ other ∈ listed, state.nodes.find other.peerId = some other)
    (found : state.nodes.find registration.peerId = some registration) :
    (∃ card, getCard registration.peerId.value (shownPage clock listed) = .ok card ∧ card.Shows registration) ↔
      registration ∈ listed ∧ ∀ skill ∈ registration.skills, "" ∉ skill.tags := by
  have shown : ∀ proto, (shownPage clock listed).find? (·.peerId = registration.peerId.value) = some proto →
      registration ∈ listed ∧ ∃ now nowMs, proto = registrationToProto now nowMs registration := by
    intro proto sought
    have named := List.find?_some sought
    obtain ⟨place, bound, rfl⟩ := List.mem_mapIdx.mp (List.mem_of_find?_eq_some sought)
    have other := stored _ (List.getElem_mem bound)
    rw [Identifier.eq_of_value (show listed[place].peerId.value = _ from of_decide_eq_true named), found] at other
    have same := Option.some.inj other
    rw [same]
    exact ⟨List.getElem_mem bound, _, _, rfl⟩
  have untagged : ∀ now nowMs, (registrationToProto now nowMs registration).skills.any (·.tags.contains "") = true ↔
      ¬ ∀ skill ∈ registration.skills, "" ∉ skill.tags := by
    simp [registrationToProto]
  unfold getCard
  constructor
  · rintro ⟨card, got, _⟩
    split at got
    · cases got
    · rename_i proto sought
      obtain ⟨member, now, nowMs, rfl⟩ := shown proto sought
      refine ⟨member, ?_⟩
      by_contra tagged
      rw [if_pos ((untagged now nowMs).mpr tagged)] at got
      cases got
  · rintro ⟨member, plain⟩
    obtain ⟨place, bound, same⟩ := List.mem_iff_getElem.mp member
    have present : ((shownPage clock listed).find? (·.peerId = registration.peerId.value)).isSome = true :=
      List.find?_isSome.mpr ⟨_, List.mem_mapIdx.mpr ⟨place, bound, rfl⟩,
        decide_eq_true (congrArg (fun listed : Registration => listed.peerId.value) same)⟩
    obtain ⟨proto, sought⟩ := Option.isSome_iff_exists.mp present
    obtain ⟨_, now, nowMs, rfl⟩ := shown proto sought
    rw [sought]
    simp only
    rw [if_neg fun tagged => (untagged now nowMs).mp tagged plain]
    exact ⟨_, rfl, rfl, rfl⟩

end

/-- A registered agent has its card found exactly if fewer than a hundred registrations come before its own and no tag
of its skills is empty. -/
theorem agent_card_found_iff (clock : Clock) (state : RegistryState) (registration : Registration)
    (found : state.nodes.find registration.peerId = some registration)
    (unexpired : clock.instant 0 < registration.expiresAt) :
    (∃ page card, (discoverBySkill clock cardRequest state).1 = .ok page ∧
        getCard registration.peerId.value page = .ok card ∧ card.Shows registration) ↔
      ((purgeExpiredLocked (clock.instant 0) state).nodes.rows.filter
          (·.peerId.value < registration.peerId.value)).length < 100 ∧
        ∀ skill ∈ registration.skills, "" ∉ skill.tags := by
  have kept := find_purge_unexpired found unexpired
  have answered : (discoverBySkill clock cardRequest state).1 = .ok (shownPage clock
    (discovered none [] 100 (purgeExpiredLocked (clock.instant 0) state))) := rfl
  rw [← mem_discovered_all kept, ← getCard_shown discovered_stored kept, answered]
  constructor
  · rintro ⟨page, card, shown, got⟩
    cases shown
    exact ⟨card, got⟩
  · rintro ⟨card, got⟩
    exact ⟨_, card, rfl, got⟩

/-- The card shows both skills, and the other peer comes before it in the page. -/
theorem echo_card_found :
    (twoPeers.nodes.rows.filter (·.peerId.value < "edge")).length = 1 ∧ ∃ page card,
      (discoverBySkill midnight cardRequest twoPeers).1 = .ok page ∧ getCard "edge" page = .ok card ∧
        card.Shows twoSkills :=
  ⟨by decide, (agent_card_found_iff midnight twoPeers twoSkills
    ((find_insertRegistration twoSkills _ _).trans (if_pos rfl)) (by decide)).mpr (by decide)⟩

def untaggedRegistration : Registration := { skilllessRegistration with skills := [⟨"echo", "", [""]⟩] }

/-- The only agent has an empty tag, and no card. -/
theorem empty_tag_hides_card :
    (empty.insertRegistration untaggedRegistration).nodes.find untaggedRegistration.peerId =
        some untaggedRegistration ∧ midnight.instant 0 < untaggedRegistration.expiresAt ∧
      ¬ ∃ page card,
        (discoverBySkill midnight cardRequest (empty.insertRegistration untaggedRegistration)).1 =
            .ok page ∧ getCard "edge" page = .ok card ∧ card.Shows untaggedRegistration := by
  have kept : (purgeExpiredLocked (midnight.instant 0) (empty.insertRegistration
      untaggedRegistration)).nodes.find untaggedRegistration.peerId = some untaggedRegistration := by decide
  refine ⟨by decide, by decide, ?_⟩
  rintro ⟨page, card, answered, got⟩
  cases answered
  have plain := ((getCard_shown discovered_stored kept).mp ⟨card, got⟩).2
  exact absurd plain (by decide)

end Keryx.Sdk
