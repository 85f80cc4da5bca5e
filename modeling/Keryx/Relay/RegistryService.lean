import Keryx.Relay.Registry
import Keryx.Relay.Service

/-! The calls that reach the registry, and who may change which registration. -/

namespace Keryx.Relay
open Keryx.Core Proto Relational Session SkillRegistry
open Daemon (Status)

/-- A call is refused with a status, or its handler panics. -/
inductive RpcFailure where
  | status (status : Status)
  | panicked (panicked : Panicked)

abbrev RegistryRpc := Session RegistryState RpcFailure

/-- The tokens are those in force when the call comes. -/
structure RegistryRpcService where
  metrics : Bool
  nodeAuth : Option NodeTokenAuth

structure SkillInfo where
  skillId : String
  description : String
  tags : List String

structure RegisterSkillsRequest where
  peerId : String
  skills : List SkillInfo
  name : String
  description : String
  ttlSeconds : UInt64
  protocolFeatures : List String

structure UnregisterSkillsRequest where
  peerId : String
  skillIds : List String

structure DiscoverBySkillRequest where
  skillId : String
  tags : List String
  limit : UInt32

structure ProtoRegistration where
  peerId : String
  skills : List SkillInfo
  name : String
  description : String
  expiresAt : Int64
  protocolFeatures : List String

def requireThat (condition : Prop) [Decidable condition] (status : Status) : Except Status Unit :=
  if condition then .ok () else .error status

theorem requireThat_ok {condition : Prop} [Decidable condition] {status : Status} {value : Unit} :
    requireThat condition status = .ok value ↔ condition := by
  unfold requireThat
  split
  · rename_i holds
    exact iff_of_true rfl holds
  · rename_i fails
    exact iff_of_false nofun fails

namespace RegistryRpcService

variable (service : RegistryRpcService)

def authenticateMutation (metadata : Metadata) (claimedPeerId : String) :
    Except Status PeerId := do
  let auth ← orElseStatus (unauthenticated "registry mutation requires node authentication") service.nodeAuth
  let metadataNodeId ← orElseStatus (unauthenticated "node id metadata is required")
    (((metadata.nodeId.bind MetadataValue.toStr).map trim).filter (· ≠ ""))
  let nodeId ← (validateIdentifier .nodeId metadataNodeId).mapError fun _ =>
    unauthenticated "invalid node identity metadata"
  let token := metadata.nodeToken.bind MetadataValue.toStr
  authenticated (auth.authenticateOptional nodeId token)
  requireThat (trim claimedPeerId ≠ "") (.invalidArgument "peer id is required")
  requireThat (metadataNodeId = trim claimedPeerId)
    ⟨.permissionDenied, "claimed peer id does not match authenticated node metadata"⟩
  (validateIdentifier .peerId metadataNodeId).mapError fun _ => unauthenticated "invalid node identity metadata"

/-- The size of the registry is read for the metrics, if there are any. -/
def syncRegistryMetric (now : Instant) : RegistryCall Unit :=
  if service.metrics then do
    let _ ← registrationCount now
    return ()
  else return ()

def registerSkills (defaultTtl : Duration) (clock : Clock) (metadata : Metadata)
    (request : RegisterSkillsRequest) : RegistryRpc Bool := do
  let peerId ← attempt ((service.authenticateMutation metadata request.peerId).mapError .status)
  let skills := request.skills.map fun skill => ⟨skill.skillId, skill.description, skill.tags⟩
  let ttl := if request.ttlSeconds = 0 then none else some (fromSecs request.ttlSeconds.toNat)
  report .panicked (registerWithFeatures defaultTtl clock peerId skills request.name request.description
    request.protocolFeatures ttl)
  report .panicked (service.syncRegistryMetric (clock.instant 2))
  return true

def unregisterSkills (clock : Clock) (metadata : Metadata) (request : UnregisterSkillsRequest) : RegistryRpc Bool := do
  let peerId ← attempt ((service.authenticateMutation metadata request.peerId).mapError .status)
  let _ ← report .panicked (unregister clock peerId request.skillIds)
  report .panicked (service.syncRegistryMetric (clock.instant 2))
  return true

end RegistryRpcService

def registrationToProto (now : Instant) (nowMs : UInt64) (registration : Registration) : ProtoRegistration where
  peerId := registration.peerId.value
  skills := registration.skills.map fun skill => ⟨skill.skillId, skill.description, skill.tags⟩
  name := registration.name
  description := registration.description
  expiresAt :=
    if now ≤ registration.expiresAt then nowMs.toInt64 + .ofNat ((registration.expiresAt - now).toNat / 1000000) else 0
  protocolFeatures := registration.protocolFeatures

def discoverBySkill (clock : Clock) (request : DiscoverBySkillRequest) : RegistryRpc (List ProtoRegistration) := do
  let skillId := if request.skillId = "" then none else some request.skillId
  let found ← report .panicked (discover clock skillId request.tags request.limit.toNat)
  return found.mapIdx fun place registration =>
    registrationToProto (clock.instant (place + 1)) (clock.unixMs place) registration

def registerNodeSkills (service : RelayHealthService) (defaultTtl : Duration) (clock : Clock)
    (request : RegisterNodeRequest) : RegistryRpc Bool := do
  let nodeId ← attempt ((registeringNode service request).mapError .status)
  if service.registry.isSome then do
    let peerId ← attempt ((parseRegistryPeerId nodeId).mapError .status)
    report .panicked (upsertNode defaultTtl clock peerId nodeId "" none)
    let _ ← report .panicked (registrationCount (clock.instant 3))
    return true
  else return true

/-- A message on the gossip topic. The registry is counted after one that could be decoded. -/
def receiveGossip (decodes : Bytes → Except String Unit) (clock : Clock) (payload : Bytes) : RegistryCall Unit :=
  match applyGossipBytes decodes payload with
  | .error _ => return ()
  | .ok _ => do
    let _ ← registrationCount (clock.instant 0)
    return ()

inductive RegistryEvent where
  | registerNode (service : RelayHealthService) (request : RegisterNodeRequest)
  | registerSkills (service : RegistryRpcService) (metadata : Metadata) (request : RegisterSkillsRequest)
  | unregisterSkills (service : RegistryRpcService) (metadata : Metadata) (request : UnregisterSkillsRequest)
  | discoverBySkill (request : DiscoverBySkillRequest)
  | gossip (decodes : Bytes → Except String Unit) (payload : Bytes)
  /-- The relay looks up what the destination of a publication has registered. -/
  | protocolFeatures (peerId : PeerId)
  /-- The registry is swept, or counted. -/
  | purge

structure TimedEvent where
  event : RegistryEvent
  clock : Clock

def RegistryState.step (defaultTtl : Duration) (state : RegistryState) (timed : TimedEvent) : RegistryState :=
  match timed.event with
  | .registerNode service request => (registerNodeSkills service defaultTtl timed.clock request state).2
  | .registerSkills service metadata request =>
    (service.registerSkills defaultTtl timed.clock metadata request state).2
  | .unregisterSkills service metadata request => (service.unregisterSkills timed.clock metadata request state).2
  | .discoverBySkill request => (Relay.discoverBySkill timed.clock request state).2
  | .gossip decodes payload => (receiveGossip decodes timed.clock payload state).2
  | .protocolFeatures peerId => (protocolFeatures timed.clock peerId state).2
  | .purge => (purgeExpired (timed.clock.instant 0) state).2

def TokenOf (nodeAuth : Option NodeTokenAuth) (peer : PeerId) (token : String) : Prop :=
  ∃ auth nodeId, nodeAuth = some auth ∧ nodeId.value = peer.value ∧ nodeId ∉ auth.revokedNodes ∧
    auth.tokens.find nodeId = some (nodeId, token)

/-- The metadata names the peer and shows its token. -/
def Shown (nodeAuth : Option NodeTokenAuth) (metadata : Metadata) (peer : PeerId) : Prop :=
  ∃ token, TokenOf nodeAuth peer token ∧ metadata.nodeToken = some (.text token) ∧
    ∃ value, metadata.nodeId = some (.text value) ∧ trim value = peer.value

/-- The call names the peer and presents its token. -/
def RegistryEvent.ActsFor (peer : PeerId) : RegistryEvent → Prop
  | .registerNode service request =>
    TokenOf service.nodeAuth peer (trim request.token) ∧ ∃ id, request.nodeId = some id ∧ trim id.value = peer.value
  | .registerSkills service metadata request =>
    Shown service.nodeAuth metadata peer ∧ trim request.peerId = peer.value
  | .unregisterSkills service metadata request =>
    Shown service.nodeAuth metadata peer ∧ trim request.peerId = peer.value
  | _ => False

/-- A registration that nobody acts for stays, or is gone because its time has come. -/
def Spares (acting : PeerId → Prop) (clock : Clock) (before after : RegistryState) : Prop :=
  ∀ peer, ¬ acting peer → after.nodes.find peer = before.nodes.find peer ∨
    after.nodes.find peer = none ∧ ∃ registration reading, before.nodes.find peer = some registration ∧
      registration.expiresAt ≤ clock.instant reading

section
variable {acting : PeerId → Prop} {clock : Clock} {peerId : PeerId}

theorem Spares.refl (state : RegistryState) : Spares acting clock state state := fun _ _ => .inl rfl

theorem Spares.trans (first second third : RegistryState) (starts : Spares acting clock first second)
    (goesOn : Spares acting clock second third) : Spares acting clock first third := by
  intro peer idle
  rcases starts peer idle with same | ⟨gone, registration, reading, found, expired⟩
  · rcases goesOn peer idle with sameToo | ⟨gone, registration, reading, found, expired⟩
    · exact .inl (sameToo.trans same)
    · rw [same] at found
      exact .inr ⟨gone, registration, reading, found, expired⟩
  · rcases goesOn peer idle with same | ⟨_, _, _, present, _⟩
    · exact .inr ⟨same.trans gone, registration, reading, found, expired⟩
    · rw [gone] at present
      cases present

theorem purgeExpired_leads (reading : Nat) : Leads (Spares acting clock) (purgeExpired (clock.instant reading)) := by
  intro state peer _
  have purged : (purgeExpired (clock.instant reading) state).2.nodes.find peer = _ :=
    RegistryState.find_purgeExpiredLocked (clock.instant reading) peer state
  cases found : state.nodes.find peer with
  | none =>
    rw [found] at purged
    exact .inl purged
  | some registration =>
    rw [found, Option.filter_some] at purged
    by_cases expired : registration.expiresAt ≤ clock.instant reading
    · have late : ¬ clock.instant reading < registration.expiresAt := Int.not_lt.mpr expired
      rw [decide_eq_false late, if_neg Bool.false_ne_true] at purged
      exact .inr ⟨purged, registration, reading, rfl, expired⟩
    · rw [if_pos (decide_eq_true (Int.not_le.mp expired))] at purged
      exact .inl purged

theorem insertRegistration_leads {registration : Registration} (acts : acting registration.peerId) :
    Leads (Spares acting clock) (amend (RegistryState.insertRegistration registration) : RegistryCall Unit) := by
  intro state peer idle
  refine .inl ((RegistryState.find_insertRegistration registration peer state).trans (if_neg ?_))
  intro same
  subst same
  exact idle acts

theorem removePeer_leads (acts : acting peerId) :
    Leads (Spares acting clock) (amend fun state => (RegistryState.removePeer peerId state).2 : RegistryCall Unit) := by
  intro state peer idle
  refine .inl ((RegistryState.find_removePeer peerId peer state).trans (if_neg ?_))
  intro same
  subst same
  exact idle acts

theorem registrationCount_leads (reading : Nat) :
    Leads (Spares acting clock) (registrationCount (clock.instant reading)) :=
  leads_bind Spares.trans (purgeExpired_leads reading) fun _ => leads_observe Spares.refl _

theorem registrationFor_peerId {defaultTtl : Duration} {nowMs : UInt64} {now : Instant} {skills : List StoredSkill}
    {name description : String} {ttl : Option Duration} {registration : Registration}
    (made : registrationFor defaultTtl nowMs now peerId skills name description ttl = .ok registration) :
    registration.peerId = peerId := by
  obtain ⟨expiresAt, _, same⟩ := except_bind_ok.mp made
  rw [← except_pure_ok.mp same]

theorem registerWithFeatures_leads (acts : acting peerId) (defaultTtl : Duration) (skills : List StoredSkill)
    (name description : String) (protocolFeatures : List String) (ttl : Option Duration) :
    Leads (Spares acting clock)
      (registerWithFeatures defaultTtl clock peerId skills name description protocolFeatures ttl) := by
  refine leads_attempt_bind Spares.refl fun registration made => ?_
  refine leads_bind Spares.trans (purgeExpired_leads 1) fun _ => insertRegistration_leads ?_
  rw [← registrationFor_peerId made] at acts
  exact acts

theorem upsertWith_leads (acts : acting peerId) (change : List StoredSkill → List StoredSkill) (defaultTtl : Duration)
    (name description : String) (ttl : Option Duration) :
    Leads (Spares acting clock) (upsertWith change defaultTtl clock peerId name description ttl) := by
  refine leads_bind Spares.trans (purgeExpired_leads 0) fun _ => ?_
  refine leads_observe_bind fun state => ?_
  refine leads_attempt_bind Spares.refl fun registration made => ?_
  refine leads_attempt_bind Spares.refl fun expiresAt _ => insertRegistration_leads ?_
  have own : registration.peerId = peerId := by
    cases found : state.nodes.find peerId with
    | none =>
      rw [found] at made
      exact registrationFor_peerId made
    | some existing =>
      rw [found] at made
      cases made
      exact Table.find_key found
  rw [← own] at acts
  exact acts

theorem unregister_leads (acts : acting peerId) (skillIds : List String) :
    Leads (Spares acting clock) (unregister clock peerId skillIds) := by
  have done : Leads (Spares acting clock) (pure true : RegistryCall Bool) := leads_pure Spares.refl true
  refine leads_bind Spares.trans (purgeExpired_leads 0) fun _ => ?_
  refine leads_observe_bind fun state => ?_
  cases found : state.nodes.find peerId with
  | none =>
    simp only
    split
    · exact leads_bind Spares.trans (purgeExpired_leads 1) fun _ => done
    · exact leads_pure Spares.refl false
  | some registration =>
    simp only
    split
    · exact leads_bind Spares.trans (removePeer_leads acts) fun _ => done
    · refine leads_bind Spares.trans (insertRegistration_leads ?_) fun _ =>
        leads_bind Spares.trans (purgeExpired_leads 1) fun _ => done
      rw [← Table.find_key found] at acts
      exact acts

theorem syncRegistryMetric_leads (service : RegistryRpcService) (reading : Nat) :
    Leads (Spares acting clock) (service.syncRegistryMetric (clock.instant reading)) := by
  unfold RegistryRpcService.syncRegistryMetric
  split
  · exact leads_bind Spares.trans (registrationCount_leads reading) fun _ => leads_pure Spares.refl ()
  · exact leads_pure Spares.refl ()

theorem authenticateMutation_shown {service : RegistryRpcService} {metadata : Metadata} {claimed : String}
    (success : service.authenticateMutation metadata claimed = .ok peerId) :
    Shown service.nodeAuth metadata peerId ∧ trim claimed = peerId.value := by
  simp only [RegistryRpcService.authenticateMutation, except_bind_ok, orElseStatus_ok, Option.filter_eq_some_iff,
    Option.map_eq_some_iff, except_mapError_ok, authenticated, requireThat_ok] at success
  obtain ⟨auth, configured, _, ⟨⟨value, read, rfl⟩, _⟩, nodeId, parsed, _, accepted, _, _, _, same, valid⟩ := success
  obtain ⟨allowed, token, expected, presented⟩ := NodeTokenAuth.authenticateOptional_ok.mp accepted
  have own : peerId.value = trim value := (validateIdentifier_trim valid).trans (trim_trim value)
  have named : nodeId.value = peerId.value := by
    rw [own]
    exact (validateIdentifier_trim parsed).trans (trim_trim value)
  refine ⟨⟨token, ⟨auth, nodeId, configured, named, allowed, expected⟩, toStr_some presented, value, toStr_some read,
    own.symm⟩, ?_⟩
  rw [own]
  exact same.symm

theorem registeringNode_acts {service : RelayHealthService} {request : RegisterNodeRequest} {nodeId : String}
    (accepted : registeringNode service request = .ok nodeId) (valid : parseRegistryPeerId nodeId = .ok peerId) :
    (RegistryEvent.registerNode service request).ActsFor peerId := by
  simp only [registeringNode, RelayHealthService.configuredAuth, except_bind_ok, except_pure_ok, orElseStatus_ok,
    requirePresent_ok, Option.filter_eq_some_iff, Option.map_eq_some_iff, nodeIdOf, except_mapError_ok, authenticated,
    NodeTokenAuth.authenticate] at accepted
  simp only [parseRegistryPeerId, except_mapError_ok] at valid
  obtain ⟨_, ⟨⟨id, given, rfl⟩, _⟩, auth, ⟨configured, _⟩, parsed, identified, _, accepted, rfl⟩ := accepted
  obtain ⟨allowed, token, expected, presented⟩ := NodeTokenAuth.authenticateOptional_ok.mp accepted
  have own : peerId.value = trim id.value := by
    rw [validateIdentifier_trim valid, trim_trim, trim_trim]
  have named : parsed.value = peerId.value := by
    rw [own, validateIdentifier_trim identified, trim_trim]
  rw [← Option.some.inj presented] at expected
  exact ⟨⟨auth, parsed, configured, named, allowed, expected⟩, id, given, own.symm⟩

theorem registerNodeSkills_leads (service : RelayHealthService) (defaultTtl : Duration) (request : RegisterNodeRequest) :
    Leads (Spares (fun peer => (RegistryEvent.registerNode service request).ActsFor peer) clock)
      (registerNodeSkills service defaultTtl clock request) := by
  refine leads_attempt_bind Spares.refl fun nodeId accepted => ?_
  split
  · refine leads_attempt_bind Spares.refl fun peerId valid => ?_
    have acts := registeringNode_acts (except_mapError_ok.mp accepted) (except_mapError_ok.mp valid)
    refine leads_bind Spares.trans (leads_report _ (upsertWith_leads acts id defaultTtl nodeId "" none)) fun _ => ?_
    exact leads_bind Spares.trans (leads_report _ (registrationCount_leads 3)) fun _ => leads_pure Spares.refl true
  · exact leads_pure Spares.refl true

theorem registerSkills_leads (service : RegistryRpcService) (defaultTtl : Duration) (metadata : Metadata)
    (request : RegisterSkillsRequest) :
    Leads (Spares (fun peer => (RegistryEvent.registerSkills service metadata request).ActsFor peer) clock)
      (service.registerSkills defaultTtl clock metadata request) := by
  refine leads_attempt_bind Spares.refl fun peerId accepted => ?_
  have acts := authenticateMutation_shown (except_mapError_ok.mp accepted)
  refine leads_bind Spares.trans (leads_report _ (registerWithFeatures_leads acts defaultTtl _ _ _ _ _)) fun _ => ?_
  exact leads_bind Spares.trans (leads_report _ (syncRegistryMetric_leads service 2)) fun _ => leads_pure Spares.refl true

theorem unregisterSkills_leads (service : RegistryRpcService) (metadata : Metadata)
    (request : UnregisterSkillsRequest) :
    Leads (Spares (fun peer => (RegistryEvent.unregisterSkills service metadata request).ActsFor peer) clock)
      (service.unregisterSkills clock metadata request) := by
  refine leads_attempt_bind Spares.refl fun peerId accepted => ?_
  have acts := authenticateMutation_shown (except_mapError_ok.mp accepted)
  refine leads_bind Spares.trans (leads_report _ (unregister_leads acts request.skillIds)) fun _ => ?_
  exact leads_bind Spares.trans (leads_report _ (syncRegistryMetric_leads service 2)) fun _ => leads_pure Spares.refl true

theorem receiveGossip_leads (decodes : Bytes → Except String Unit) (payload : Bytes) :
    Leads (Spares acting clock) (receiveGossip decodes clock payload) := by
  unfold receiveGossip
  split
  · exact leads_pure Spares.refl ()
  · exact leads_bind Spares.trans (registrationCount_leads 0) fun _ => leads_pure Spares.refl ()

theorem step_spares (defaultTtl : Duration) (state : RegistryState) (timed : TimedEvent) :
    Spares (fun peer => timed.event.ActsFor peer) timed.clock state (state.step defaultTtl timed) := by
  obtain ⟨event, clock⟩ := timed
  cases event with
  | registerNode service request => exact registerNodeSkills_leads service defaultTtl request state
  | registerSkills service metadata request => exact registerSkills_leads service defaultTtl metadata request state
  | unregisterSkills service metadata request => exact unregisterSkills_leads service metadata request state
  | discoverBySkill request =>
    have discovers : Leads (Spares (fun _ => False) clock) (Relay.discoverBySkill clock request) := by
      refine leads_bind Spares.trans (leads_report _ ?_) fun _ => leads_pure Spares.refl _
      exact leads_bind Spares.trans (purgeExpired_leads 0) fun _ => leads_observe Spares.refl _
    exact discovers state
  | gossip decodes payload => exact receiveGossip_leads decodes payload state
  | protocolFeatures peerId =>
    have reads : Leads (Spares (fun _ => False) clock) (protocolFeatures clock peerId) := by
      refine leads_bind Spares.trans ?_ fun _ => leads_pure Spares.refl _
      exact leads_bind Spares.trans (purgeExpired_leads 0) fun _ => leads_observe Spares.refl _
    exact reads state
  | purge => exact purgeExpired_leads 0 state

end

/-- What an event may do to the registrations. -/
structure RegistryState.Owned (timed : TimedEvent) (before after : RegistryState) : Prop where
  written : ∀ peer registration, after.nodes.find peer = some registration →
    before.nodes.find peer ≠ some registration → timed.event.ActsFor peer
  removed : ∀ peer registration, before.nodes.find peer = some registration → after.nodes.find peer = none →
    timed.event.ActsFor peer ∨ ∃ reading, registration.expiresAt ≤ timed.clock.instant reading
  gossiped : ∀ decodes payload, timed.event = .gossip decodes payload →
    ∀ peer registration, after.nodes.find peer = some registration → before.nodes.find peer = some registration

theorem step_owned_by_caller (defaultTtl : Duration) (state : RegistryState) (timed : TimedEvent) :
    state.Owned timed (state.step defaultTtl timed) := by
  have spared := step_spares defaultTtl state timed
  have written : ∀ peer registration, (state.step defaultTtl timed).nodes.find peer = some registration →
      state.nodes.find peer ≠ some registration → timed.event.ActsFor peer := by
    intro peer registration present changed
    by_contra idle
    rcases spared peer idle with same | ⟨gone, _⟩
    · exact changed (same.symm.trans present)
    · rw [gone] at present
      cases present
  refine ⟨written, ?_, ?_⟩
  · intro peer registration present gone
    by_cases acts : timed.event.ActsFor peer
    · exact .inl acts
    rcases spared peer acts with same | ⟨_, earlier, reading, found, expired⟩
    · rw [same, present] at gone
      cases gone
    · rw [present] at found
      cases found
      exact .inr ⟨reading, expired⟩
  · intro decodes payload gossip peer registration present
    by_contra changed
    have acts := written peer registration present changed
    rw [gossip] at acts
    exact acts

/-- A registration is written only by a call that presents its peer's token and names the peer, and goes only
by such a call or at its time. -/
theorem registrations_are_owned (defaultTtl : Duration) (start : RegistryState) (events : List TimedEvent) :
    Run.Along (RegistryState.step defaultTtl)
        (fun state timed => state.Owned timed (state.step defaultTtl timed)) start events ∧
      (∀ peer registration,
        (Run.run (RegistryState.step defaultTtl) start events).nodes.find peer = some registration →
          start.nodes.find peer = some registration ∨ ∃ timed ∈ events, timed.event.ActsFor peer) ∧
      ∀ peer registration, start.nodes.find peer = some registration →
        (Run.run (RegistryState.step defaultTtl) start events).nodes.find peer = some registration ∨
          ∃ timed ∈ events, timed.event.ActsFor peer ∨
            ∃ reading, registration.expiresAt ≤ timed.clock.instant reading := by
  refine ⟨Run.along_trivial (step_owned_by_caller defaultTtl) start events, ?_, ?_⟩
  · intro peer registration
    induction events generalizing start with
    | nil => exact .inl
    | cons timed events ih =>
      intro present
      rcases ih _ present with earlier | ⟨later, among, acts⟩
      · by_cases same : start.nodes.find peer = some registration
        · exact .inl same
        · have acts := (step_owned_by_caller defaultTtl start timed).written peer registration earlier same
          exact .inr ⟨timed, List.mem_cons_self, acts⟩
      · exact .inr ⟨later, List.mem_cons_of_mem timed among, acts⟩
  · intro peer registration
    induction events generalizing start with
    | nil => exact .inl
    | cons timed events ih =>
      intro present
      have owned := step_owned_by_caller defaultTtl start timed
      cases found : (start.step defaultTtl timed).nodes.find peer with
      | none => exact .inr ⟨timed, List.mem_cons_self, owned.removed peer registration present found⟩
      | some kept =>
        by_cases same : kept = registration
        · rw [same] at found
          rcases ih _ found with still | ⟨later, among, reason⟩
          · exact .inl still
          · exact .inr ⟨later, List.mem_cons_of_mem timed among, reason⟩
        · have acts : timed.event.ActsFor peer := by
            refine owned.written peer kept found ?_
            rw [present]
            exact fun other => same (Option.some.inj other).symm
          exact .inr ⟨timed, List.mem_cons_self, .inl acts⟩

end Keryx.Relay
