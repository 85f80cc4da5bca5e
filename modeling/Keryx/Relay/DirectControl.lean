import Keryx.Relay.Isolation
import Keryx.Relay.RegistryService

/-! Nodes that take direct control and no work: what the relay publishes to them nevertheless. -/

namespace Keryx.Relay
open Keryx.Core Proto Relational Session
open Daemon (Status)

def directControlFeatures : List String :=
  [nodescaleIdentityBindFeature, nodescaleIdentityBindV2Feature, nodescaleIdentityChallengeFeature,
    nodescaleIdentityChallengeV2Feature, fleetObservationPublishFeature]

/-- The features that a registry has of each peer at a time. -/
def RegistryState.advertised (registry : RegistryState) (now : Instant) (peer : PeerId) : List String :=
  ((SkillRegistry.protocolFeatures ⟨fun _ => now, fun _ => 0⟩ peer registry).1.toOption).getD []

/-- The call fails and stores no frame for the node. -/
structure Refused {α : Type} (node : String) (call : Call α) (state : ServiceState) : Prop where
  failed : (call state).1.isOk = false
  mailbox : (call state).2.relay.mailbox node = state.relay.mailbox node

/-- Every publication that is sent to a peer is refused, whoever sends it. -/
structure RefusesWork (features : PeerId → List String) (peer : PeerId) : Prop where
  task : ∀ nodeAuth ids nowMs metadata (request : PublishTaskRequest) task target state, request.task = some task →
    publicationTarget request task = .ok target → parseRegistryPeerId target = .ok peer →
    Refused target (publishTaskCall ⟨some features, nodeAuth⟩ ids nowMs metadata request) state
  result : ∀ nodeAuth ids metadata (request : PublishResultRequest) target state,
    trim request.targetNodeId = target → parseRegistryPeerId target = .ok peer →
    Refused target (publishResultCall ⟨some features, nodeAuth⟩ ids metadata request) state

section
variable {registry : RegistryState} {registration : Registration} {now : Instant} {peer : PeerId}
  {features : PeerId → List String} {target : String} {service : RelayHealthService} {metadata : Metadata}

theorem advertised_current (found : registry.nodes.find peer = some registration)
    (current : now < registration.expiresAt) : registry.advertised now peer = registration.protocolFeatures := by
  show (((RegistryState.purgeExpiredLocked now registry).nodes.find peer).map _).getD [] = _
  rw [RegistryState.find_purgeExpiredLocked, found, Option.filter_some, if_pos (decide_eq_true current)]
  rfl

theorem rejected_destination (names : parseRegistryPeerId target = .ok peer)
    (bind : nodescaleIdentityBindFeature ∈ features peer) (idle : daemonTaskConsumerFeature ∉ features peer)
    (nodeAuth : Option NodeTokenAuth) :
    RelayHealthService.rejectDirectControlOnlyDestination ⟨some features, nodeAuth⟩ target =
      .error (missingFeature target daemonTaskConsumerFeature) := by
  unfold RelayHealthService.rejectDirectControlOnlyDestination
  simp only [names]
  exact if_pos ⟨bind, idle⟩

theorem Refused.of_attempt {α β : Type} {outcome : Except Status α} {rest : α → Call β} {state : ServiceState}
    (failed : ∀ value, outcome ≠ .ok value) : Refused target (attempt outcome >>= rest) state := by
  cases outcome with
  | error status => exact ⟨rfl, rfl⟩
  | ok value => exact absurd rfl (failed value)

theorem refusesWork_of_bind (bind : nodescaleIdentityBindFeature ∈ features peer)
    (idle : daemonTaskConsumerFeature ∉ features peer) : RefusesWork features peer where
  task := by
    intro nodeAuth ids nowMs metadata request task target state given targets names
    apply Refused.of_attempt
    rintro ⟨source, published, destination, taskId⟩ success
    obtain ⟨_, same, addressed, allowed⟩ := taskPublication_ok success
    cases given.symm.trans same
    cases targets.symm.trans addressed
    rw [rejected_destination names bind idle] at allowed
    cases allowed
  result := by
    intro nodeAuth ids metadata request target state targets names
    apply Refused.of_attempt
    rintro ⟨source, published, destination⟩ success
    obtain ⟨_, _, addressed, allowed⟩ := resultPublication_ok success
    rw [addressed, targets, rejected_destination names bind idle] at allowed
    cases allowed

def publisherAuth : NodeTokenAuth :=
  ⟨Table.empty.put (⟨"origin", by decide, by decide, by decide⟩, "token-9876543210"), []⟩

def publisherMetadata : Metadata := ⟨some (.text "origin"), some (.text "token-9876543210")⟩

def publishedResult : TaskResultEnvelope := ⟨1, some ⟨"task-1"⟩, none, 1, "origin", 0, 0, "", .empty, []⟩

theorem parseRegistryPeerId_value (peer : PeerId) : parseRegistryPeerId peer.value = .ok peer := by
  rw [parseRegistryPeerId, trim_value, validateIdentifier_value]
  rfl

theorem publisher_authenticated (registry : Option (PeerId → List String)) :
    RelayHealthService.authenticateRequest ⟨registry, some publisherAuth⟩ publisherMetadata "origin" =
      .ok "origin" := by
  have alone : RelayHealthService.authenticateRequest ⟨none, some publisherAuth⟩ publisherMetadata "origin" =
      .ok "origin" := by decide +kernel
  exact alone

theorem empty_stores (target : String) (frame : RelayFrame) (generic : frame.hasExactlyOneGenericPayload = true)
    (keyed : frame.key ≠ "") : (routeFrameWaitingForAck target frame .empty).1 = (.mailboxed, some 0) := by
  have single : frame.hasExactlyOneRelayPayload = true := (Bool.and_eq_true_iff.mp generic).1
  simp only [routeFrameWaitingForAck, generic, routeFrameLocked, single, keyed]
  rfl

theorem publishResult_accepted (unbound : nodescaleIdentityBindFeature ∉ features peer) :
    (publishResultCall ⟨some features, some publisherAuth⟩ default publisherMetadata
      ⟨some publishedResult, peer.value, "origin"⟩ .empty).1.isOk = true := by
  have published : resultPublication ⟨some features, some publisherAuth⟩ publisherMetadata
      ⟨some publishedResult, peer.value, "origin"⟩ = .ok ("origin", publishedResult, peer.value) := by
    have names : parseRegistryPeerId peer.value = .ok peer := parseRegistryPeerId_value peer
    have target : requiredNodeValue peer.value "target_node_id" = .ok peer.value := by
      rw [requiredNodeValue, trim_value, if_neg peer.value_ne_empty]
    have allowed : RelayHealthService.rejectDirectControlOnlyDestination ⟨some features, some publisherAuth⟩ peer.value =
        .ok () := by
      unfold RelayHealthService.rejectDirectControlOnlyDestination
      simp only [names]
      exact if_neg fun only => unbound only.1
    have identified : (publishedResult.taskId.map fun id => trim id.value).filter (· ≠ "") = some "task-1" := by
      decide +kernel
    simp only [resultPublication, publisher_authenticated, target, allowed, requirePresent, except_ok_bind, identified,
      Option.isNone_some, Bool.false_eq_true, if_false]
    rfl
  unfold publishResultCall
  rw [attempt_bind, published]
  simp only [newRelayFrameId_bind, routeHeldFrame, onRelay_bind]
  have identified : FrameIds.id default ServiceState.empty.issued = "f" := rfl
  have fresh : ServiceState.empty.relay = PeerState.empty := rfl
  have keyed : trim "f" ≠ "" := by decide +kernel
  have stored := empty_stores peer.value
    { frameId := "f", result := some publishedResult, authenticatedSourceNodeId := "origin",
      destinationNodeId := peer.value } rfl keyed
  rw [identified, fresh, stored]
  rfl

/-- A node that takes direct control and no tasks is spared publications exactly if it advertises the first version of
the identity bind. -/
theorem work_refused_iff (registry : RegistryState) (now : Instant) (registration : Registration)
    (found : registry.nodes.find registration.peerId = some registration) (current : now < registration.expiresAt)
    (idle : daemonTaskConsumerFeature ∉ registration.protocolFeatures) :
    RefusesWork (registry.advertised now) registration.peerId ↔
      nodescaleIdentityBindFeature ∈ registration.protocolFeatures := by
  have features := advertised_current found current
  rw [← features] at idle ⊢
  refine ⟨fun refuses => ?_, fun bind => refusesWork_of_bind bind idle⟩
  by_contra unbound
  have refused := refuses.result (some publisherAuth) default publisherMetadata
    ⟨some publishedResult, registration.peerId.value, "origin"⟩ registration.peerId.value .empty (trim_value _)
    (parseRegistryPeerId_value _)
  have accepted := publishResult_accepted unbound
  rw [refused.failed] at accepted
  cases accepted

end

def edgeWith (protocolFeatures : List String) : Registration :=
  ⟨.literal "edge" (.refl true), [], "", "", protocolFeatures, 1, 0, 0⟩

/-- A result and its frame reach a node that takes binds of the second version only. -/
theorem bindV2_node_gets_work :
    let registration := edgeWith [nodescaleIdentityBindV2Feature]
    let registry := RegistryState.empty.insertRegistration registration
    let publishes := publishResultCall ⟨some (registry.advertised 0), some publisherAuth⟩ default publisherMetadata
      ⟨some publishedResult, "edge", "origin"⟩ .empty
    registry.nodes.find registration.peerId = some registration ∧ 0 < registration.expiresAt ∧
      (∃ feature ∈ directControlFeatures, feature ∈ registration.protocolFeatures) ∧
      daemonTaskConsumerFeature ∉ registration.protocolFeatures ∧ publishes.1.isOk = true ∧
      (publishes.2.relay.mailbox "edge").length = 1 := by
  decide +kernel

/-- A node that takes binds of the first version gets no work. -/
theorem bind_node_refuses_work :
    RefusesWork ((RegistryState.empty.insertRegistration (edgeWith [nodescaleIdentityBindFeature])).advertised 0)
      (edgeWith [nodescaleIdentityBindFeature]).peerId :=
  (work_refused_iff _ 0 (edgeWith [nodescaleIdentityBindFeature]) (by decide +kernel) (by decide) (by decide)).mpr
    (List.mem_singleton.mpr rfl)

end Keryx.Relay
