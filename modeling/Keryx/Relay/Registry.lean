import Keryx.Relay.Runtime

/-! The skill registry of the relay: who is registered, with which skills, and for how long.
The readings of the clocks are given with a call, in nanoseconds. A call that fails has panicked. -/

namespace Keryx.Relay
open Keryx.Core Relational

abbrev Instant := Int

abbrev Duration := Nat

structure Clock where
  instant : Nat → Instant
  unixMs : Nat → UInt64

inductive Panicked where
  | instantOverflow
deriving DecidableEq, Repr

def fromSecs (seconds : Nat) : Duration := seconds * 1000000000

/-- The seconds of an instant are a signed word. -/
def maxInstant : Instant := 2 ^ 63 * 1000000000 - 1

def instantAfter (now : Instant) (ttl : Duration) : Except Panicked Instant :=
  if now + ttl ≤ maxInstant then .ok (now + ttl) else .error .instantOverflow

def millisU64 (duration : Duration) : UInt64 := .ofNat (min (duration / 1000000) (2 ^ 64 - 1))

def defaultRegistrationTtl : Duration := fromSecs 300

structure StoredSkill where
  skillId : String
  description : String
  tags : List String
deriving DecidableEq

structure Registration where
  peerId : PeerId
  skills : List StoredSkill
  name : String
  description : String
  protocolFeatures : List String
  expiresAt : Instant
  expiresAtUnixMs : UInt64
  updatedAtUnixMs : UInt64
deriving DecidableEq

structure RegistryState where
  nodes : Table Registration.peerId
  skillIndex : HashMap String (List PeerId)

namespace RegistryState

def empty : RegistryState := ⟨.empty, .empty⟩

def removePeer (peerId : PeerId) (state : RegistryState) : Option Registration × RegistryState :=
  match state.nodes.find peerId with
  | none => (none, state)
  | some removed =>
    (some removed,
      { nodes := state.nodes.keep (fun registration => registration.peerId ≠ peerId)
        skillIndex := (state.skillIndex.revise (fun row => (row.1, row.2.erase peerId)) fun _ => rfl).keep
          (fun row => row.2 ≠ []) })

def indexSkill (peerId : PeerId) (index : HashMap String (List PeerId)) (skill : StoredSkill) :
    HashMap String (List PeerId) :=
  if trim skill.skillId = "" then index
  else index.put (skill.skillId, (((index.find skill.skillId).map (·.2)).getD []).insert peerId)

def insertRegistration (registration : Registration) (state : RegistryState) : RegistryState :=
  let removed := (removePeer registration.peerId state).2
  { nodes := removed.nodes.put registration
    skillIndex := registration.skills.foldl (indexSkill registration.peerId) removed.skillIndex }

def purgeExpiredLocked (now : Instant) (state : RegistryState) : RegistryState :=
  let expired := (state.nodes.rows.filter (fun registration => registration.expiresAt ≤ now)).map Registration.peerId
  expired.foldl (fun state peerId => (removePeer peerId state).2) state

end RegistryState

def registrationMatches (registration : Registration) (skillId : Option String) (tags : List String) : Bool :=
  registration.skills.any fun skill =>
    skillId.all (fun want => want = "" || skill.skillId = want) && tags.all (fun tag => skill.tags.any (· = tag))

/-- Skills that are merged replace those under their id; blank ones are passed over. -/
def mergeSkills (existing incoming : List StoredSkill) : List StoredSkill :=
  incoming.foldl
    (fun existing skill =>
      if trim skill.skillId = "" then existing
      else if existing.any (·.skillId = skill.skillId) then
        existing.modify (existing.findIdx (·.skillId = skill.skillId)) (fun _ => skill)
      else existing ++ [skill])
    existing

abbrev RegistryCall := Session RegistryState Panicked

namespace SkillRegistry
open RegistryState Session

def purgeExpired (now : Instant) : RegistryCall Unit := amend (purgeExpiredLocked now)

def registrationFor (defaultTtl : Duration) (nowMs : UInt64) (now : Instant) (peerId : PeerId)
    (skills : List StoredSkill) (name description : String) (ttl : Option Duration) : Except Panicked Registration := do
  let expiresAt ← instantAfter now (ttl.getD defaultTtl)
  return { peerId, skills, name, description, protocolFeatures := [], expiresAt,
           expiresAtUnixMs := nowMs + millisU64 (ttl.getD defaultTtl), updatedAtUnixMs := nowMs }

def registerWithFeatures (defaultTtl : Duration) (clock : Clock) (peerId : PeerId) (skills : List StoredSkill)
    (name description : String) (protocolFeatures : List String) (ttl : Option Duration) : RegistryCall Unit := do
  let registration ← attempt
    (registrationFor defaultTtl (clock.unixMs 0) (clock.instant 0) peerId skills name description ttl)
  purgeExpired (clock.instant 1)
  amend (insertRegistration { registration with protocolFeatures })

def refreshed (text current : String) : String := if trim text ≠ "" ∨ current = "" then text else current

def upsertWith (change : List StoredSkill → List StoredSkill) (defaultTtl : Duration) (clock : Clock) (peerId : PeerId)
    (name description : String) (ttl : Option Duration) : RegistryCall Unit := do
  purgeExpired (clock.instant 0)
  let existing ← observe fun state => state.nodes.find peerId
  let registration ← attempt (match existing with
    | some registration => .ok registration
    | none => registrationFor defaultTtl (clock.unixMs 0) (clock.instant 1) peerId [] "" "" ttl)
  let expiresAt ← attempt (instantAfter (clock.instant 2) (ttl.getD defaultTtl))
  amend (insertRegistration { registration with
    expiresAt
    expiresAtUnixMs := clock.unixMs 1 + millisU64 (ttl.getD defaultTtl)
    updatedAtUnixMs := clock.unixMs 1
    name := refreshed name registration.name
    description := refreshed description registration.description
    skills := change registration.skills })

def upsertNode := upsertWith id

def addSkills (defaultTtl : Duration) (clock : Clock) (peerId : PeerId) (skills : List StoredSkill)
    (name description : String) (ttl : Option Duration) : RegistryCall Unit :=
  if skills = [] then upsertNode defaultTtl clock peerId name description ttl
  else upsertWith (fun existing => mergeSkills existing skills) defaultTtl clock peerId name description ttl

/-- Takes skills away from a peer, or the peer if none is named or none is left. -/
def unregister (clock : Clock) (peerId : PeerId) (skillIds : List String) : RegistryCall Bool := do
  purgeExpired (clock.instant 0)
  let existing ← observe fun state => state.nodes.find peerId
  match existing with
  | none =>
    -- Nothing was removed; an empty list of skills is answered like a peer that was there.
    if skillIds = [] then
      purgeExpired (clock.instant 1)
      return true
    else return false
  | some registration =>
    let skills := registration.skills.filter (fun skill => !skillIds.any (· = skill.skillId))
    if skillIds = [] ∨ skills = [] then
      amend fun state => (removePeer peerId state).2
      return true
    else
      amend (insertRegistration { registration with skills, updatedAtUnixMs := clock.unixMs 0 })
      purgeExpired (clock.instant 1)
      return true

def discovered (skillId : Option String) (tags : List String) (limit : Nat) (state : RegistryState) :
    List Registration :=
  let found := match skillId.filter (· ≠ "") with
    | some want =>
      ((((state.skillIndex.find want).map Prod.snd).getD []).filterMap state.nodes.find).filter
        (fun registration => registrationMatches registration (some want) tags)
    | none => state.nodes.rows.filter fun registration => tags = [] ∨ registrationMatches registration none tags
  let sorted := found.mergeSort (fun left right => left.peerId.value ≤ right.peerId.value)
  if limit = 0 then sorted else sorted.take limit

def discover (clock : Clock) (skillId : Option String) (tags : List String) (limit : Nat) :
    RegistryCall (List Registration) := do
  purgeExpired (clock.instant 0)
  observe (discovered skillId tags limit)

def get (clock : Clock) (peerId : PeerId) : RegistryCall (Option Registration) := do
  purgeExpired (clock.instant 0)
  observe fun state => state.nodes.find peerId

def protocolFeatures (clock : Clock) (peerId : PeerId) : RegistryCall (List String) := do
  let registration ← get clock peerId
  return (registration.map (·.protocolFeatures)).getD []

def registrationCount (now : Instant) : RegistryCall Nat := do
  purgeExpired now
  observe fun state => state.nodes.rows.length

/-- A gossip message is decoded and dropped. -/
def applyGossipBytes (decodes : Bytes → Except String Unit) (payload : Bytes) : Except String Unit :=
  (decodes payload).mapError fun error => s!"decode registry gossip: {error}"

end SkillRegistry

section
variable {state : RegistryState} {peerId : PeerId} {registration : Registration}

namespace RegistryState

theorem find_removePeer (peerId other : PeerId) (state : RegistryState) :
    (removePeer peerId state).2.nodes.find other = if other = peerId then none else state.nodes.find other := by
  unfold removePeer
  cases found : state.nodes.find peerId with
  | none =>
    show state.nodes.find other = _
    split
    · rename_i same
      rw [same]
      exact found
    · rfl
  | some removed =>
    show (state.nodes.keep _).find other = _
    rw [Table.find_keep]
    by_cases same : other = peerId
    · rw [if_pos same, same, found, Option.filter_some_neg]
      rw [decide_eq_false_iff_not, not_not]
      exact Table.find_key found
    · rw [if_neg same]
      cases present : state.nodes.find other with
      | none => rfl
      | some kept =>
        have apart : kept.peerId ≠ peerId := by
          rw [Table.find_key present]
          exact same
        exact Option.filter_some_pos (decide_eq_true apart)

theorem find_insertRegistration (registration : Registration) (other : PeerId) (state : RegistryState) :
    (insertRegistration registration state).nodes.find other =
      if other = registration.peerId then some registration else state.nodes.find other := by
  show ((removePeer registration.peerId state).2.nodes.put registration).find other = _
  rw [Table.find_put, find_removePeer]
  split
  · rfl
  · rfl

theorem find_removeAll (peers : List PeerId) (other : PeerId) (state : RegistryState) :
    (peers.foldl (fun state peerId => (removePeer peerId state).2) state).nodes.find other =
      if other ∈ peers then none else state.nodes.find other := by
  induction peers generalizing state with
  | nil => rw [List.foldl_nil, if_neg List.not_mem_nil]
  | cons peerId peers ih =>
    rw [List.foldl_cons, ih, find_removePeer]
    by_cases later : other ∈ peers
    · rw [if_pos later, if_pos (List.mem_cons_of_mem _ later)]
    · rw [if_neg later]
      by_cases same : other = peerId
      · rw [if_pos same, if_pos (List.mem_cons.mpr (.inl same))]
      · rw [if_neg same, if_neg (List.not_mem_cons_of_ne_of_not_mem same later)]

theorem find_purgeExpiredLocked (now : Instant) (other : PeerId) (state : RegistryState) :
    (purgeExpiredLocked now state).nodes.find other =
      (state.nodes.find other).filter (fun registration => now < registration.expiresAt) := by
  unfold purgeExpiredLocked
  simp only
  rw [find_removeAll]
  have listed : other ∈ (state.nodes.rows.filter (fun registration => registration.expiresAt ≤ now)).map
      Registration.peerId ↔ ∃ registration, state.nodes.find other = some registration ∧ registration.expiresAt ≤ now := by
    constructor
    · intro member
      obtain ⟨registration, kept, rfl⟩ := List.mem_map.mp member
      obtain ⟨present, expired⟩ := List.mem_filter.mp kept
      exact ⟨registration, Table.find_of_mem present, of_decide_eq_true expired⟩
    · intro found
      obtain ⟨registration, found, expired⟩ := found
      exact List.mem_map.mpr ⟨registration, List.mem_filter.mpr ⟨Table.find_mem found, decide_eq_true expired⟩,
        Table.find_key found⟩
  cases found : state.nodes.find other with
  | none =>
    rw [if_neg ?_]
    · rfl
    · intro member
      obtain ⟨registration, present, _⟩ := listed.mp member
      rw [found] at present
      cases present
  | some registration =>
    by_cases expired : registration.expiresAt ≤ now
    · rw [if_pos (listed.mpr ⟨registration, found, expired⟩), Option.filter_some_neg]
      rw [decide_eq_false_iff_not]
      exact Int.not_lt.mpr expired
    · have lives : now < registration.expiresAt := Int.not_le.mp expired
      rw [if_neg ?_, Option.filter_some, if_pos (decide_eq_true lives)]
      intro member
      obtain ⟨other, present, late⟩ := listed.mp member
      rw [found] at present
      cases present
      exact expired late

theorem find_purge_unexpired {now : Instant} (found : state.nodes.find registration.peerId = some registration)
    (unexpired : now < registration.expiresAt) :
    (purgeExpiredLocked now state).nodes.find registration.peerId = some registration := by
  rw [find_purgeExpiredLocked, found, Option.filter_some, if_pos (decide_eq_true unexpired)]

end RegistryState

end

end Keryx.Relay
