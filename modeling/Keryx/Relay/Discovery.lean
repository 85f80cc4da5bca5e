import Keryx.Relay.RegistryService

/-! What discovery finds: the skill index is the inverse of the registrations, whatever is done to them. -/

namespace Keryx.Relay
open Keryx.Core Relational Session SkillRegistry

def Registration.Offers (registration : Registration) (skillId : String) : Prop :=
  trim skillId ≠ "" ∧ ∃ skill ∈ registration.skills, skill.skillId = skillId

namespace RegistryState

def listedPeers (index : HashMap String (List PeerId)) (skillId : String) : List PeerId :=
  ((index.find skillId).map Prod.snd).getD []

/-- A peer is listed under the skills it offers, once under each. -/
structure Indexed (state : RegistryState) : Prop where
  listed : ∀ skillId peer, peer ∈ listedPeers state.skillIndex skillId ↔
    ∃ registration, state.nodes.find peer = some registration ∧ registration.Offers skillId
  distinct : ∀ skillId, (listedPeers state.skillIndex skillId).Nodup

section
variable {state : RegistryState} {peerId : PeerId}

theorem empty_indexed : empty.Indexed where
  listed := fun _ _ => iff_of_false List.not_mem_nil fun ⟨_, found, _⟩ => by cases found
  distinct := fun _ => List.nodup_nil

theorem listedPeers_removePeer {registration : Registration} (found : state.nodes.find peerId = some registration)
    (skillId : String) :
    listedPeers (removePeer peerId state).2.skillIndex skillId =
      (listedPeers state.skillIndex skillId).erase peerId := by
  unfold removePeer listedPeers
  rw [found]
  simp only
  rw [Table.find_keep, Table.find_revise]
  cases state.skillIndex.find skillId with
  | none => rfl
  | some row =>
    rw [Option.map_some, Option.map_some, Option.getD_some, Option.filter_some]
    split
    · rfl
    · rename_i emptied
      rw [decide_eq_true_eq, not_not] at emptied
      exact emptied.symm

theorem Indexed.removePeer (indexed : state.Indexed) (peerId : PeerId) : (removePeer peerId state).2.Indexed := by
  cases found : state.nodes.find peerId with
  | none =>
    have same : (RegistryState.removePeer peerId state).2 = state := by
      unfold RegistryState.removePeer
      rw [found]
    rw [same]
    exact indexed
  | some registration =>
    constructor
    · intro skillId peer
      rw [listedPeers_removePeer found, (indexed.distinct skillId).mem_erase_iff, indexed.listed, find_removePeer]
      split
      · rename_i same
        refine iff_of_false (fun gone => gone.1 same) ?_
        rintro ⟨_, gone, _⟩
        cases gone
      · rename_i different
        exact and_iff_right different
    · intro skillId
      rw [listedPeers_removePeer found]
      exact (indexed.distinct skillId).erase peerId

theorem Indexed.purge (indexed : state.Indexed) (now : Instant) : (purgeExpiredLocked now state).Indexed := by
  unfold purgeExpiredLocked
  simp only
  generalize (state.nodes.rows.filter _).map Registration.peerId = expired
  induction expired generalizing state with
  | nil => exact indexed
  | cons peerId expired ih => exact ih (indexed.removePeer peerId)

variable {index : HashMap String (List PeerId)}

theorem mem_indexSkill {skill : StoredSkill} {skillId : String} {peer : PeerId} :
    peer ∈ listedPeers (indexSkill peerId index skill) skillId ↔
      peer ∈ listedPeers index skillId ∨
        peer = peerId ∧ trim skillId ≠ "" ∧ skill.skillId = skillId := by
  unfold indexSkill listedPeers
  split
  · rename_i blank
    refine ⟨.inl, fun either => either.resolve_right ?_⟩
    rintro ⟨_, named, rfl⟩
    exact named blank
  · rename_i named
    rw [Table.find_put]
    split
    · rename_i same
      subst same
      rw [Option.map_some, Option.getD_some, List.mem_insert_iff, or_comm]
      exact or_congr_right ⟨fun own => ⟨own, named, rfl⟩, And.left⟩
    · rename_i different
      exact ⟨.inl, fun either => either.resolve_right fun own => different own.2.2.symm⟩

theorem nodup_indexSkill (distinct : ∀ skillId, (listedPeers index skillId).Nodup) (skill : StoredSkill)
    (skillId : String) : (listedPeers (indexSkill peerId index skill) skillId).Nodup := by
  unfold indexSkill listedPeers
  split
  · exact distinct skillId
  · rw [Table.find_put]
    split
    · exact (distinct skill.skillId).insert
    · exact distinct skillId

theorem foldl_indexSkill (skills : List StoredSkill)
    (distinct : ∀ skillId, (listedPeers index skillId).Nodup) (skillId : String) (peer : PeerId) :
    (peer ∈ listedPeers (skills.foldl (indexSkill peerId) index) skillId ↔
        peer ∈ listedPeers index skillId ∨
          peer = peerId ∧ trim skillId ≠ "" ∧ ∃ skill ∈ skills, skill.skillId = skillId) ∧
      (listedPeers (skills.foldl (indexSkill peerId) index) skillId).Nodup := by
  induction skills generalizing index with
  | nil =>
    refine ⟨⟨.inl, fun either => either.resolve_right ?_⟩, distinct skillId⟩
    rintro ⟨_, _, _, member, _⟩
    exact List.not_mem_nil member
  | cons skill skills ih =>
    obtain ⟨members, once⟩ := ih (nodup_indexSkill distinct skill)
    refine ⟨members.trans ?_, once⟩
    rw [mem_indexSkill, or_assoc]
    refine or_congr_right ?_
    rw [List.exists_mem_cons_iff, and_or_left, and_or_left]

theorem Indexed.insertRegistration (indexed : state.Indexed) (registration : Registration) :
    (insertRegistration registration state).Indexed := by
  have removed := indexed.removePeer registration.peerId
  constructor
  · intro skillId peer
    refine (foldl_indexSkill registration.skills removed.distinct skillId peer).1.trans ?_
    have earlier := removed.listed skillId peer
    rw [find_removePeer] at earlier
    rw [find_insertRegistration]
    refine (or_congr_left earlier).trans ?_
    split
    · rename_i same
      constructor
      · rintro (⟨_, gone, _⟩ | ⟨_, offers⟩)
        · cases gone
        · exact ⟨registration, rfl, offers⟩
      · rintro ⟨_, found, offers⟩
        cases found
        exact .inr ⟨same, offers⟩
    · rename_i different
      exact ⟨fun either => either.resolve_right fun own => different own.1, .inl⟩
  · exact fun skillId => (foldl_indexSkill registration.skills removed.distinct skillId registration.peerId).2

end

/-- The calls that change the registry. -/
inductive Change where
  | register (peerId : PeerId) (skills : List StoredSkill) (name description : String) (protocolFeatures : List String)
      (ttl : Option Duration)
  | upsertNode (peerId : PeerId) (name description : String) (ttl : Option Duration)
  | addSkills (peerId : PeerId) (skills : List StoredSkill) (name description : String) (ttl : Option Duration)
  | unregister (peerId : PeerId) (skillIds : List String)
  | purge

def change (defaultTtl : Duration) (state : RegistryState) (timed : Change × Clock) : RegistryState :=
  match timed.1 with
  | .register peerId skills name description protocolFeatures ttl =>
    (registerWithFeatures defaultTtl timed.2 peerId skills name description protocolFeatures ttl state).2
  | .upsertNode peerId name description ttl =>
    (upsertNode defaultTtl timed.2 peerId name description ttl state).2
  | .addSkills peerId skills name description ttl =>
    (addSkills defaultTtl timed.2 peerId skills name description ttl state).2
  | .unregister peerId skillIds => (unregister timed.2 peerId skillIds state).2
  | .purge => (purgeExpired (timed.2.instant 0) state).2

def KeepsIndex (before after : RegistryState) : Prop := before.Indexed → after.Indexed

theorem KeepsIndex.refl (state : RegistryState) : KeepsIndex state state := id

theorem KeepsIndex.trans (first second third : RegistryState) (starts : KeepsIndex first second)
    (goesOn : KeepsIndex second third) : KeepsIndex first third := goesOn ∘ starts

end RegistryState

open RegistryState

section
variable {clock : Clock} {peerId : PeerId}

theorem purge_keeps (now : Instant) : Leads KeepsIndex (purgeExpired now) :=
  fun _ indexed => indexed.purge now

theorem insert_keeps (registration : Registration) :
    Leads KeepsIndex (amend (insertRegistration registration) : RegistryCall Unit) :=
  fun _ indexed => indexed.insertRegistration registration

theorem upsertWith_keeps (merge : List StoredSkill → List StoredSkill) (defaultTtl : Duration)
    (name description : String) (ttl : Option Duration) :
    Leads KeepsIndex (upsertWith merge defaultTtl clock peerId name description ttl) := by
  refine leads_bind KeepsIndex.trans (purge_keeps _) fun _ => leads_observe_bind fun state => ?_
  refine leads_attempt_bind KeepsIndex.refl fun registration _ => ?_
  exact leads_attempt_bind KeepsIndex.refl fun expiresAt _ => insert_keeps _

theorem unregister_keeps (skillIds : List String) : Leads KeepsIndex (unregister clock peerId skillIds) := by
  have done : Leads KeepsIndex (pure true : RegistryCall Bool) := leads_pure KeepsIndex.refl true
  refine leads_bind KeepsIndex.trans (purge_keeps _) fun _ => leads_observe_bind fun state => ?_
  cases state.nodes.find peerId with
  | none =>
    simp only
    split
    · exact leads_bind KeepsIndex.trans (purge_keeps _) fun _ => done
    · exact leads_pure KeepsIndex.refl false
  | some registration =>
    simp only
    split
    · exact leads_bind KeepsIndex.trans (fun _ indexed => indexed.removePeer peerId) fun _ => done
    · exact leads_bind KeepsIndex.trans (insert_keeps _) fun _ =>
        leads_bind KeepsIndex.trans (purge_keeps _) fun _ => done

theorem change_indexed (defaultTtl : Duration) (state : RegistryState) (timed : Change × Clock)
    (indexed : state.Indexed) : (state.change defaultTtl timed).Indexed := by
  obtain ⟨change, clock⟩ := timed
  cases change with
  | register peerId skills name description protocolFeatures ttl =>
    have registers : Leads KeepsIndex
        (registerWithFeatures defaultTtl clock peerId skills name description protocolFeatures ttl) := by
      refine leads_attempt_bind KeepsIndex.refl fun registration _ => ?_
      exact leads_bind KeepsIndex.trans (purge_keeps _) fun _ => insert_keeps _
    exact registers state indexed
  | upsertNode peerId name description ttl => exact upsertWith_keeps id defaultTtl name description ttl state indexed
  | addSkills peerId skills name description ttl =>
    have adds : Leads KeepsIndex (addSkills defaultTtl clock peerId skills name description ttl) := by
      unfold addSkills
      split
      · exact upsertWith_keeps id defaultTtl name description ttl
      · exact upsertWith_keeps _ defaultTtl name description ttl
    exact adds state indexed
  | unregister peerId skillIds => exact unregister_keeps skillIds state indexed
  | purge => exact indexed.purge _

theorem run_indexed (defaultTtl : Duration) (changes : List (Change × Clock)) :
    (Run.run (RegistryState.change defaultTtl) RegistryState.empty changes).Indexed :=
  Run.always RegistryState.Indexed (change_indexed defaultTtl) empty_indexed changes

end

/-- One skill has the id and every tag. -/
def Registration.Answers (registration : Registration) (skillId : String) (tags : List String) : Prop :=
  ∃ skill ∈ registration.skills, skill.skillId = skillId ∧ ∀ tag ∈ tags, tag ∈ skill.tags

instance (registration : Registration) (skillId : String) (tags : List String) :
    Decidable (registration.Answers skillId tags) :=
  inferInstanceAs (Decidable (∃ skill ∈ registration.skills, skill.skillId = skillId ∧ ∀ tag ∈ tags, tag ∈ skill.tags))

/-- The registrations that answer, by peer id, up to a limit unless it is zero. -/
def RegistryState.scan (now : Instant) (skillId : String) (tags : List String) (limit : Nat) (state : RegistryState) :
    List Registration :=
  let found := (state.nodes.rows.filter fun registration =>
      now < registration.expiresAt ∧ registration.Answers skillId tags).mergeSort
    (fun left right => left.peerId.value ≤ right.peerId.value)
  if limit = 0 then found else found.take limit

variable {registration : Registration}

theorem registrationMatches_iff {skillId : String} (named : skillId ≠ "") (tags : List String) :
    registrationMatches registration (some skillId) tags = true ↔ registration.Answers skillId tags := by
  simp [registrationMatches, Registration.Answers, named]

theorem sorted_pairwise (registrations : List Registration) :
    (registrations.mergeSort (fun left right => left.peerId.value ≤ right.peerId.value)).Pairwise
      (fun left right => left.peerId.value ≤ right.peerId.value) := by
  have pairs := @List.pairwise_mergeSort _
    (fun left right : Registration => decide (left.peerId.value ≤ right.peerId.value))
    (fun first second third before after => by
      rw [decide_eq_true_eq] at before after ⊢
      exact le_trans before after)
    (fun first second => by
      rw [Bool.or_eq_true, decide_eq_true_eq, decide_eq_true_eq]
      exact le_total _ _) registrations
  exact pairs.imp of_decide_eq_true

/-- In a list in strict order, as many stand before a member as are less. -/
theorem place_of_ordered {α β : Type} [LinearOrder β] {key : α → β} {list : List α} {member : α} {place : Nat}
    (ordered : list.Pairwise fun left right => key left < key right) (listed : list[place]? = some member) :
    place = (list.filter (fun other => key other < key member)).length := by
  induction list generalizing place with
  | nil => cases listed
  | cons head tail ih =>
    obtain ⟨least, rest⟩ := List.pairwise_cons.mp ordered
    cases place with
    | zero =>
      cases listed
      have none : (member :: tail).filter (fun other => key other < key member) = [] := by
        refine List.filter_eq_nil_iff.mpr fun other found => ?_
        rw [decide_eq_true_eq]
        rcases List.mem_cons.mp found with rfl | later
        · exact lt_irrefl _
        · exact (least other later).asymm
      rw [none, List.length_nil]
    | succ place =>
      rw [List.getElem?_cons_succ] at listed
      rw [List.filter_cons, if_pos (decide_eq_true (least member (List.mem_of_getElem? listed))), List.length_cons,
        ← ih rest listed]

theorem place_sorted {nodes : Table Registration.peerId} {place : Nat}
    (listed : (nodes.rows.mergeSort (fun left right => left.peerId.value ≤ right.peerId.value))[place]? =
      some registration) :
    place = (nodes.rows.filter (·.peerId.value < registration.peerId.value)).length := by
  have perm := List.mergeSort_perm nodes.rows (fun left right => left.peerId.value ≤ right.peerId.value)
  have distinct : (nodes.rows.map fun stored => stored.peerId.value).Nodup := by
    have values := nodes.unique.map fun _ _ => Identifier.eq_of_value
    rw [List.map_map] at values
    exact values
  have strict := (sorted_pairwise nodes.rows).and (List.pairwise_map.mp ((perm.map _).nodup_iff.mpr distinct))
  have ordered := strict.imp fun both => lt_of_le_of_ne both.1 both.2
  rw [place_of_ordered ordered listed, (perm.filter _).length_eq]

theorem sort_eq_of_perm {found scanned : List Registration} {nodes : Table Registration.peerId}
    (stored : ∀ registration ∈ found, registration ∈ nodes.rows) (perm : found.Perm scanned) :
    found.mergeSort (fun left right => left.peerId.value ≤ right.peerId.value) =
      scanned.mergeSort (fun left right => left.peerId.value ≤ right.peerId.value) := by
  refine List.Perm.eq_of_pairwise ?_ (sorted_pairwise found) (sorted_pairwise scanned)
    ((List.mergeSort_perm _ _).trans (perm.trans (List.mergeSort_perm _ _).symm))
  intro first second member memberToo before after
  have one := stored first (List.mem_mergeSort.mp member)
  have other := stored second (perm.mem_iff.mpr (List.mem_mergeSort.mp memberToo))
  have peers : first.peerId = second.peerId := Identifier.eq_of_value (le_antisymm before after)
  have found := Table.mem_rows.mp one
  rw [peers, Table.mem_rows.mp other] at found
  exact (Option.some.inj found).symm

section
variable {state : RegistryState} {skillId : String}

theorem mem_candidates (indexed : state.Indexed) (named : trim skillId ≠ "") {tags : List String}
    {registration : Registration} :
    registration ∈ ((listedPeers state.skillIndex skillId).filterMap state.nodes.find).filter
        (fun registration => registrationMatches registration (some skillId) tags) ↔
      state.nodes.find registration.peerId = some registration ∧ registration.Answers skillId tags := by
  have nonempty : skillId ≠ "" := by
    rintro rfl
    exact named rfl
  rw [List.mem_filter, List.mem_filterMap, registrationMatches_iff nonempty]
  refine and_congr_left fun answers => ?_
  constructor
  · rintro ⟨peer, _, found⟩
    rw [Table.find_key found]
    exact found
  · intro found
    obtain ⟨skill, offered, same, _⟩ := answers
    have listed := (indexed.listed skillId registration.peerId).mpr ⟨registration, found, named, skill, offered, same⟩
    exact ⟨registration.peerId, listed, found⟩

theorem nodup_candidates (indexed : state.Indexed) (tags : List String) :
    (((listedPeers state.skillIndex skillId).filterMap state.nodes.find).filter
      (fun registration => registrationMatches registration (some skillId) tags)).Nodup := by
  refine List.Nodup.filter _ (List.Nodup.filterMap ?_ (indexed.distinct skillId))
  intro peer other registration found foundToo
  exact (Table.find_key found).symm.trans (Table.find_key foundToo)

end

/-- The index finds what a look at every registration would find. -/
theorem discovery_equals_scan (defaultTtl : Duration) (changes : List (RegistryState.Change × Clock)) (clock : Clock)
    (skillId : String) (named : trim skillId ≠ "") (tags : List String) (limit : Nat) :
    let state := Run.run (change defaultTtl) empty changes
    (discover clock (some skillId) tags limit state).1 =
      .ok (state.scan (clock.instant 0) skillId tags limit) := by
  intro state
  have indexed := (run_indexed defaultTtl changes).purge (clock.instant 0)
  have nonempty : skillId ≠ "" := by
    rintro rfl
    exact named rfl
  have live : ∀ registration : Registration,
      (purgeExpiredLocked (clock.instant 0) state).nodes.find registration.peerId = some registration ∧
          registration.Answers skillId tags ↔
        registration ∈ state.nodes.rows.filter fun registration =>
          clock.instant 0 < registration.expiresAt ∧ registration.Answers skillId tags := by
    intro registration
    rw [find_purgeExpiredLocked, Option.filter_eq_some_iff, decide_eq_true_eq, List.mem_filter,
      decide_eq_true_eq, Table.mem_rows, and_assoc]
  have members := fun registration => (mem_candidates indexed named).trans (live registration)
  have perm := (List.perm_ext_iff_of_nodup (nodup_candidates indexed tags)
    (List.Nodup.filter _ state.nodes.unique.of_map)).mpr members
  have stored := fun registration listed => (List.mem_filter.mp ((members registration).mp listed)).1
  unfold scan
  rw [← sort_eq_of_perm stored perm]
  show Except.ok (discovered (some skillId) tags limit
    (purgeExpiredLocked (clock.instant 0) state)) = _
  unfold discovered
  rw [Option.filter_some, if_pos (decide_eq_true nonempty)]
  rfl

def midnight : Clock := ⟨fun _ => 0, fun _ => 0⟩

/-- Two peers register the skill, and one of them registers again with another in its place. -/
def replacedSkills : List (RegistryState.Change × Clock) :=
  [(.register (.literal "edge" (.refl true)) [⟨"echo", "", []⟩] "edge" "" [] none, midnight),
    (.register (.literal "cloud" (.refl true)) [⟨"sum", "", []⟩, ⟨"echo", "", []⟩] "cloud" "" [] none, midnight),
    (.register (.literal "edge" (.refl true)) [⟨"translate", "", []⟩] "edge" "" [] none, midnight)]

theorem discovery_of_echo_equals_scan :
    ∃ found, (discover midnight (some "echo") [] 0
        (Run.run (change defaultRegistrationTtl) empty replacedSkills)).1 = .ok [found] ∧
      found.peerId.value = "cloud" := by
  refine ⟨_, (discovery_equals_scan defaultRegistrationTtl replacedSkills midnight "echo" (by decide) [] 0).trans
    (congrArg Except.ok (List.mergeSort_singleton _)), ?_⟩
  rfl

def Registration.without (registration : Registration) (skillIds : List String) : List StoredSkill :=
  registration.skills.filter fun skill => !skillIds.any (· = skill.skillId)

/-- The named skills are gone, and the peer with them if it had no others. -/
structure RegistryState.Withdrawn (clock : Clock) (skillIds : List String) (registration : Registration)
    (before after : RegistryState) : Prop where
  kept : after.nodes.find registration.peerId =
    if registration.skills ≠ [] ∧ registration.without skillIds = [] then none
    else some { registration with skills := registration.without skillIds, updatedAtUnixMs := clock.unixMs 0 }
  others : Spares (· = registration.peerId) clock before after
  index : before.Indexed → after.Indexed

theorem find_unregister {clock : Clock} {skillIds : List String} {state : RegistryState}
    (found : state.nodes.find registration.peerId = some registration)
    (unexpired : ∀ reading, clock.instant reading < registration.expiresAt) (named : skillIds ≠ []) :
    (unregister clock registration.peerId skillIds state).2.nodes.find registration.peerId =
      if registration.without skillIds = [] then none
      else some { registration with skills := registration.without skillIds, updatedAtUnixMs := clock.unixMs 0 } := by
  unfold unregister purgeExpired
  rw [amend_bind, observe_bind, find_purge_unexpired found (unexpired 0)]
  simp only [named, false_or]
  rw [← Registration.without]
  split
  · exact (find_removePeer registration.peerId registration.peerId _).trans (if_pos rfl)
  · let reduced : Registration :=
      { registration with skills := registration.without skillIds, updatedAtUnixMs := clock.unixMs 0 }
    have inserted := find_insertRegistration reduced reduced.peerId
      (purgeExpiredLocked (clock.instant 0) state)
    rw [if_pos rfl] at inserted
    exact find_purge_unexpired inserted (unexpired 1)

/-- A withdrawal takes the named skills and nothing else, unless the peer had no skills. -/
theorem unregister_withdraws_named_skills (clock : Clock) (state : RegistryState) (registration : Registration)
    (skillIds : List String) (found : state.nodes.find registration.peerId = some registration)
    (unexpired : ∀ reading, clock.instant reading < registration.expiresAt) (named : skillIds ≠ []) :
    RegistryState.Withdrawn clock skillIds registration state
        (unregister clock registration.peerId skillIds state).2 ↔ registration.skills ≠ [] := by
  have after := find_unregister found unexpired named
  constructor
  · intro withdrawn bare
    have gone : registration.without skillIds = [] := by
      unfold Registration.without
      rw [bare, List.filter_nil]
    rw [withdrawn.kept, if_pos gone, if_neg fun both => both.1 bare] at after
    cases after
  · intro skilled
    refine ⟨?_, @unregister_leads (· = registration.peerId) clock _ rfl skillIds state, unregister_keeps skillIds state⟩
    rw [after]
    exact if_congr (and_iff_right skilled).symm rfl rfl

def skilllessRegistration : Registration where
  peerId := .literal "edge" (.refl true)
  skills := []
  name := "edge"
  description := ""
  protocolFeatures := ["absolute_deadlines_v1"]
  expiresAt := 300
  expiresAtUnixMs := 300
  updatedAtUnixMs := 0

def skilllessRegistry : RegistryState := empty.insertRegistration skilllessRegistration

/-- The peer has no skill of the name, and is dropped with its features. -/
theorem unregister_drops_skillless_peer :
    skilllessRegistry.nodes.find skilllessRegistration.peerId = some skilllessRegistration ∧
      midnight.instant 0 < skilllessRegistration.expiresAt ∧
      (∀ skill ∈ skilllessRegistration.skills, skill.skillId ≠ "echo") ∧
      (unregister midnight skilllessRegistration.peerId ["echo"] skilllessRegistry).2.nodes.find
        skilllessRegistration.peerId = none := by
  decide

def skilledRegistration : Registration := { skilllessRegistration with skills := [⟨"echo", "", []⟩] }

def twoSkills : Registration := { skilllessRegistration with skills := [⟨"echo", "", []⟩, ⟨"sum", "", []⟩] }

def twoPeers : RegistryState :=
  (empty.insertRegistration { skilledRegistration with peerId := .literal "cloud" (.refl true) })
    |>.insertRegistration twoSkills

theorem unregister_withdraws_echo :
    twoSkills.without ["echo"] = [⟨"sum", "", []⟩] ∧
      RegistryState.Withdrawn midnight ["echo"] twoSkills twoPeers
        (unregister midnight twoSkills.peerId ["echo"] twoPeers).2 :=
  ⟨by decide, (unregister_withdraws_named_skills midnight _ twoSkills ["echo"]
    ((find_insertRegistration twoSkills _ _).trans (if_pos rfl))
    (fun _ => show (0 : Int) < 300 by decide) (by decide)).mpr (by decide)⟩

end Keryx.Relay
