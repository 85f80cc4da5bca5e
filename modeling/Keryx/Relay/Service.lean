import Keryx.Relay.Ledger
import Keryx.Relay.Auth
import Keryx.Relay.Control

/-! The calls of the relay service: who may make them, and what they ask of the shared state. -/

namespace Keryx.Relay
open Keryx.Core Proto Relational Concurrent
open Daemon (Status)
open Session (attempt)

/-- The ids of the frames, `relay-frame-` and a random UUID each: none of them is given out twice. -/
structure FrameIds where
  id : Nat → String
  distinct : Function.Injective id
  clean : ∀ number, Clean (id number)

instance : Inhabited FrameIds where
  default :=
    { id := fun number => String.ofList (List.replicate (number + 1) 'f')
      distinct := by
        intro first second same
        have lengths := congrArg List.length (String.ofList_injective same)
        rw [List.length_replicate, List.length_replicate] at lengths
        omega
      clean := by
        intro number
        constructor
        · intro empty
          have none := congrArg String.toList empty
          rw [String.toList_ofList] at none
          cases none
        · have allowed : (List.replicate (number + 1) 'f').all isAllowedIdChar = true := by
            rw [List.all_replicate, if_neg (Nat.succ_ne_zero number)]
            decide
          rw [trim, String.toList_ofList, trimChars_of_allowed allowed] }

def PeerState.answers (state : PeerState) : Option ControlKind → List Nat
  | none => state.acknowledgements.delivered.map Prod.fst
  | some _ => state.completions.delivered.map Prod.fst

/-- What a publisher waits for, with the channel it listens on. -/
structure Awaited where
  kind : Option ControlKind
  receiver : Nat
deriving DecidableEq

inductive WaitProgress where
  | waiting
  | answered (reply : Except Status Unit)
  | dropped

structure PendingFrameOwnership where
  sourceNodeId : String
  destinationNodeId : String
  frameId : String
  awaited : Awaited
  progress : WaitProgress

structure Connection where
  nodeId : String
  generation : UInt64
  ended : Bool

structure ServiceState where
  relay : PeerState
  issued : Nat
  pending : List PendingFrameOwnership
  connections : List Connection

def ServiceState.empty : ServiceState := ⟨.empty, 0, [], []⟩

abbrev Call (α : Type) := Session ServiceState Status α

def onRelay {α : Type} (call : PeerState → α × PeerState) : Call α := fun state =>
  (.ok (call state.relay).1, { state with relay := (call state.relay).2 })

theorem onRelay_bind {α β : Type} (call : PeerState → α × PeerState) (rest : α → Call β) (state : ServiceState) :
    (onRelay call >>= rest) state = rest (call state.relay).1 { state with relay := (call state.relay).2 } := rfl

def newRelayFrameId (ids : FrameIds) : Call String := fun state =>
  (.ok (ids.id state.issued), { state with issued := state.issued + 1 })

theorem newRelayFrameId_bind {β : Type} (ids : FrameIds) (rest : String → Call β) (state : ServiceState) :
    (newRelayFrameId ids >>= rest) state = rest (ids.id state.issued) { state with issued := state.issued + 1 } := rfl

def absoluteDeadlinesFeature : String := "absolute_deadlines_v1"

def resultArtifactBytesFeature : String := "result_artifact_bytes_v1"

def daemonTaskConsumerFeature : String := "daemon_task_consumer_v1"

def nodescaleIdentityBindFeature : String := "nodescale_identity_bind_v1"

def nodescaleIdentityChallengeFeature : String := "nodescale.identity.challenge.v1"

def nodescaleIdentityBindV2Feature : String := "nodescale_identity_bind_v2"

def nodescaleIdentityChallengeV2Feature : String := "nodescale.identity.challenge.v2"

def fleetObservationPublishFeature : String := "fleet.observation.publish.v1"

def sourceFeaturesMetadataKey : String := "keryx.authenticated_source_protocol_features"

def targetNodeMetadataKeys : List String :=
  ["target_node_id", "target_node", "recipient_node_id", "recipient_node", "destination_node_id", "destination_node",
    "node_id", "keryx.target_node_id"]

def parseRegistryPeerId (value : String) : Except Status PeerId :=
  (validateIdentifier .peerId (trim value)).mapError fun error =>
    .invalidArgument s!"node id is not a valid registry peer id: {Daemon.validationText error}"

def requiredNodeValue (value field : String) : Except Status String :=
  if trim value = "" then .error (.invalidArgument s!"{field} is required") else .ok (trim value)

def missingFeature (destinationNodeId feature : String) : Status :=
  .failedPrecondition s!"destination {destinationNodeId} does not advertise protocol feature {feature}"

namespace RelayHealthService

def rejectDirectControlOnlyDestination (service : RelayHealthService) (destinationNodeId : String) :
    Except Status Unit :=
  match service.registry with
  | none => .ok ()
  | some protocolFeatures => do
    let peerId ← parseRegistryPeerId destinationNodeId
    if nodescaleIdentityBindFeature ∈ protocolFeatures peerId ∧ daemonTaskConsumerFeature ∉ protocolFeatures peerId then
      throw (missingFeature destinationNodeId daemonTaskConsumerFeature)

def requireDestinationFeature (service : RelayHealthService) (destinationNodeId feature : String) :
    Except Status Unit := do
  let protocolFeatures ← orElseStatus
    (.failedPrecondition s!"destination protocol feature {feature} is unavailable without registry state")
    service.registry
  let peerId ← parseRegistryPeerId destinationNodeId
  if feature ∉ protocolFeatures peerId then throw (missingFeature destinationNodeId feature)

end RelayHealthService

def targetNodeIdFromTask (task : TaskEnvelope) : Except Status String :=
  let keys := ", ".intercalate targetNodeMetadataKeys
  orElseStatus (.invalidArgument s!"task metadata must include one of: {keys}")
    (((targetNodeMetadataKeys.findSome? fun key => (task.metadata.find key).map (·.2)).map trim).filter (· ≠ ""))

def ensureFrameRouted : FrameDelivery → Except Status Unit
  | .delivered | .mailboxed => .ok ()
  | .rejectedDuplicate => .error ⟨.alreadyExists, "relay frame identity already exists"⟩
  | .rejectedCapacity => .error ⟨.resourceExhausted, "relay frame capacity reached"⟩
  | .rejectedInvalid => .error (.invalidArgument "relay frame identity is required")

structure RegisterNodeRequest where
  nodeId : Option ProtoId
  token : String

variable (service : RelayHealthService)

def registeringNode (request : RegisterNodeRequest) : Except Status String := do
  let nodeId ← requirePresent ((request.nodeId.map fun id => trim id.value).filter (· ≠ ""))
    "RegisterNode requires node_id"
  let auth ← service.configuredAuth
  let parsed ← nodeIdOf nodeId
  authenticated (auth.authenticate parsed (trim request.token))
  return nodeId

def registerNodeCall (request : RegisterNodeRequest) : Call Bool := do
  let nodeId ← attempt (registeringNode service request)
  onRelay fun relay => ((), registerNode nodeId relay)
  -- What the registry itself records of the node is not modelled.
  attempt (if service.registry.isSome then (parseRegistryPeerId nodeId).map fun _ => () else .ok ())
  return true

variable (metadata : Metadata)

def connectingNode : Except Status String := do
  let nodeId ← nodeIdFromMetadata metadata
  service.authenticateRequest metadata nodeId

def openConnection (nodeId : String) (generation : UInt64) : Call Unit := fun state =>
  (.ok (), { state with connections := state.connections ++ [⟨nodeId, generation, false⟩] })

def connectNodeCall : Call Nat := do
  let nodeId ← attempt (connectingNode service metadata)
  let (pendingCount, generation) ← onRelay (connectNode nodeId)
  openConnection nodeId generation
  return pendingCount

inductive Inbound where
  | frame | failed | ended
deriving DecidableEq

def receiveOnlyStatus : Status :=
  .failedPrecondition "ConnectNode is receive-only; publish through authenticated PublishTask or PublishResult"

def Inbound.disconnect (next : Inbound) (nodeId : String) (generation : UInt64) (relay : PeerState) : PeerState :=
  match next with
  | .frame => disconnectNodeWithStatusIfCurrent nodeId generation receiveOnlyStatus relay
  | .failed | .ended => disconnectNodeIfCurrent nodeId generation relay

/-- The first frame that a node sends, or the end of its stream, ends the connection. -/
def endConnection (index : Nat) (next : Inbound) (state : ServiceState) : ServiceState :=
  match state.connections[index]? with
  | none => state
  | some connection =>
    if connection.ended then state
    else
      { state with
        connections := state.connections.set index { connection with ended := true }
        relay := next.disconnect connection.nodeId connection.generation state.relay }

def jsonEscape (ch : Char) : List Char :=
  if ch = '"' then ['\\', '"']
  else if ch = '\\' then ['\\', '\\']
  else if ch.toNat = 8 then ['\\', 'b']
  else if ch.toNat = 9 then ['\\', 't']
  else if ch.toNat = 10 then ['\\', 'n']
  else if ch.toNat = 12 then ['\\', 'f']
  else if ch.toNat = 13 then ['\\', 'r']
  else if ch.toNat < 32 then
    ['\\', 'u', '0', '0', Nat.digitChar (ch.toNat / 16), Nat.digitChar (ch.toNat % 16)]
  else [ch]

def jsonTexts (texts : List String) : String :=
  "[" ++ ",".intercalate (texts.map fun text => "\"" ++ String.ofList (text.toList.flatMap jsonEscape) ++ "\"") ++ "]"

structure PublishTaskRequest where
  task : Option TaskEnvelope
  targetNodeId : String
  sourceNodeId : String

structure PublishTaskResponse where
  taskId : Option ProtoId
  frameId : String
  authenticatedSourcePeerId : String
  acceptedDestinationPeerId : String
  acceptedRoute : String
  acceptedAtMs : Int

/-- What makes two publications the same one. -/
def canonicalTaskPublicationIdentity (task : TaskEnvelope) : TaskEnvelope :=
  { task with metadata := task.metadata.keep (fun row => row.1 ≠ sourceFeaturesMetadataKey) }

/-- The task as its destination gets it, with the features that its source has registered. -/
def deliveredTask (sourcePeerId : PeerId) (task : TaskEnvelope) : TaskEnvelope :=
  let sourceFeatures := (service.registry.map fun protocolFeatures => protocolFeatures sourcePeerId).getD []
  { task with metadata := task.metadata.put (sourceFeaturesMetadataKey, jsonTexts sourceFeatures) }

def publishTaskReceipt : PublishedTaskDelivery → Except Status PublishedTaskReceipt
  | .new receipt _ | .retry receipt => .ok receipt
  | .conflict => .error ⟨.alreadyExists, "task identity was already accepted with a different envelope"⟩
  | .rejectedCapacity => .error ⟨.resourceExhausted, "relay task or frame identity table is at capacity"⟩
  | .rejectedInvalid => .error (.invalidArgument "PublishTask frame must not contain typed direct control")

def publicationTarget (request : PublishTaskRequest) (task : TaskEnvelope) : Except Status String :=
  if trim request.targetNodeId = "" then targetNodeIdFromTask task else .ok (trim request.targetNodeId)

/-- What PublishTask is to publish for whom, and where. -/
def taskPublication (request : PublishTaskRequest) :
    Except Status (String × TaskEnvelope × String × ProtoId) := do
  let sourceNodeId ← service.authenticateRequest metadata request.sourceNodeId
  let task ← requirePresent request.task "PublishTask requires task"
  let targetNodeId ← publicationTarget request task
  service.rejectDirectControlOnlyDestination targetNodeId
  if 0 < task.deadlineMs then service.requireDestinationFeature targetNodeId absoluteDeadlinesFeature
  let taskId ← requirePresent task.taskId "PublishTask requires task.task_id"
  refuseIf (trim taskId.value = "") "PublishTask requires non-empty task.task_id"
  return (sourceNodeId, task, targetNodeId, taskId)

def publishTaskCall (ids : FrameIds) (nowMs : Int) (metadata : Metadata)
    (request : PublishTaskRequest) : Call PublishTaskResponse := do
  let (sourceNodeId, task, targetNodeId, taskId) ← attempt (taskPublication service metadata request)
  let frameId ← newRelayFrameId ids
  let sourcePeerId ← attempt ((validateIdentifier .peerId sourceNodeId).mapError fun error =>
    unauthenticated (Daemon.validationText error))
  let delivered := deliveredTask service sourcePeerId task
  let delivery ← onRelay (publishTaskFrame sourceNodeId targetNodeId (trim taskId.value)
    (canonicalTaskPublicationIdentity task) delivered
    { frameId, task := some delivered, authenticatedSourceNodeId := sourceNodeId, destinationNodeId := targetNodeId }
    ⟨frameId, nowMs⟩)
  let receipt ← attempt (publishTaskReceipt delivery)
  return { taskId := some taskId, frameId := receipt.frameId, authenticatedSourcePeerId := sourceNodeId,
           acceptedDestinationPeerId := targetNodeId, acceptedRoute := "relay", acceptedAtMs := receipt.acceptedAtMs }

def holdFrame (sourceNodeId destinationNodeId frameId : String) (awaited : Option Awaited) (lacking : String) :
    Call Nat := fun state =>
  match awaited with
  | none =>
    (.error ⟨.internal, lacking⟩, { state with relay := abandonFrame destinationNodeId frameId state.relay })
  | some awaited =>
    (.ok state.pending.length,
      { state with
        pending := state.pending ++ [⟨sourceNodeId, destinationNodeId, frameId, awaited, .waiting⟩] })

/-- Routes a frame that somebody is to acknowledge or complete, and holds it for its publisher. -/
def routeHeldFrame (kind : Option ControlKind) (sourceNodeId destinationNodeId frameId lacking : String)
    (route : PeerState → (FrameDelivery × Option Nat) × PeerState) : Call Nat := do
  let (delivery, receiver) ← onRelay route
  attempt (ensureFrameRouted delivery)
  holdFrame sourceNodeId destinationNodeId frameId (receiver.map (Awaited.mk kind)) lacking

structure PublishResultRequest where
  result : Option TaskResultEnvelope
  targetNodeId : String
  sourceNodeId : String

def resultPublication (request : PublishResultRequest) :
    Except Status (String × TaskResultEnvelope × String) := do
  if service.nodeAuth.isNone then throw (unauthenticated "terminal results require configured node authentication")
  let sourceNodeId ← service.authenticateRequest metadata request.sourceNodeId
  let result ← requirePresent request.result "PublishResult requires result"
  let targetNodeId ← requiredNodeValue request.targetNodeId "target_node_id"
  service.rejectDirectControlOnlyDestination targetNodeId
  if result.outputArtifacts.any (fun artifact => artifact.contentPresent || !artifact.content.isEmpty) then
    service.requireDestinationFeature targetNodeId resultArtifactBytesFeature
  let _ ← requirePresent ((result.taskId.map fun id => trim id.value).filter (· ≠ ""))
    "PublishResult requires result.task_id"
  return (sourceNodeId, result, targetNodeId)

/-- Answers with the place of the call among those that wait. -/
def publishResultCall (ids : FrameIds) (metadata : Metadata) (request : PublishResultRequest) : Call Nat := do
  let (sourceNodeId, result, targetNodeId) ← attempt (resultPublication service metadata request)
  let frameId ← newRelayFrameId ids
  routeHeldFrame none sourceNodeId targetNodeId frameId "accepted result frame lacks acknowledgement state"
    (routeFrameWaitingForAck targetNodeId
      { frameId, result := some result, authenticatedSourceNodeId := sourceNodeId, destinationNodeId := targetNodeId })

/-- What is asked of a typed control and of its destination, and where it stands in a frame. -/
structure ControlPublication (α : Type) where
  kind : ControlKind
  validate : α → Except Status Unit
  feature : String
  fill : α → RelayFrame → RelayFrame
  filled : ∀ operation frame, (fill operation frame).frameId = frame.frameId ∧
    (fill operation frame).authenticatedSourceNodeId = frame.authenticatedSourceNodeId
  lacking : String

def controlPublication {α : Type} (control : ControlPublication α) (service : RelayHealthService)
    (metadata : Metadata) (operation : Option α) (targetNodeId : String) : Except Status (String × α × String) := do
  let sourceNodeId ← service.authenticateMetadataOnly metadata
  let targetNodeId ← requiredNodeValue targetNodeId "target_node_id"
  let operation ← requirePresent operation "operation is required"
  control.validate operation
  service.requireDestinationFeature targetNodeId control.feature
  return (sourceNodeId, operation, targetNodeId)

def publishControlCall {α : Type} (control : ControlPublication α) (service : RelayHealthService) (ids : FrameIds)
    (metadata : Metadata) (operation : Option α) (targetNodeId : String) : Call Nat := do
  let (sourceNodeId, operation, targetNodeId) ←
    attempt (controlPublication control service metadata operation targetNodeId)
  let frameId ← newRelayFrameId ids
  routeHeldFrame (some control.kind) sourceNodeId targetNodeId frameId control.lacking
    (routeControlWaitingForCompletion control.kind targetNodeId
      (control.fill operation { frameId, authenticatedSourceNodeId := sourceNodeId, destinationNodeId := targetNodeId }))

def publishNodescaleIdentityBind : ControlPublication NodescaleIdentityBindV1 where
  kind := .bind
  validate := validateNodescaleIdentityBind
  feature := nodescaleIdentityBindFeature
  fill := fun operation frame => { frame with nodescaleIdentityBindV1 := some operation }
  filled := fun _ _ => ⟨rfl, rfl⟩
  lacking := "accepted direct control frame lacks completion state"

def publishNodescaleIdentityBindV2 : ControlPublication NodescaleIdentityBindV2 where
  kind := .bind
  validate := validateNodescaleIdentityBindV2
  feature := nodescaleIdentityBindV2Feature
  fill := fun operation frame => { frame with nodescaleIdentityBindV2 := some operation }
  filled := fun _ _ => ⟨rfl, rfl⟩
  lacking := "accepted direct control frame lacks completion state"

def publishNodescaleIdentityChallenge : ControlPublication NodescaleIdentityChallengeV1 where
  kind := .challenge
  validate := validateNodescaleIdentityChallenge
  feature := nodescaleIdentityChallengeFeature
  fill := fun operation frame => { frame with nodescaleIdentityChallengeV1 := some operation }
  filled := fun _ _ => ⟨rfl, rfl⟩
  lacking := "accepted challenge control frame lacks completion state"

def publishNodescaleIdentityChallengeV2 : ControlPublication NodescaleIdentityChallengeV2 where
  kind := .challenge
  validate := validateNodescaleIdentityChallengeV2
  feature := nodescaleIdentityChallengeV2Feature
  fill := fun operation frame => { frame with nodescaleIdentityChallengeV2 := some operation }
  filled := fun _ _ => ⟨rfl, rfl⟩
  lacking := "accepted challenge control frame lacks completion state"

def publishFleetObservation (nowMs deadlineMs : Int64) : ControlPublication FleetObservationPublishV1 where
  kind := .fleetObservation
  validate := fun operation => do
    validateFleetObservationPublish operation
    validateFleetObservationDeadline nowMs deadlineMs
  feature := fleetObservationPublishFeature
  fill := fun operation frame => { frame with fleetObservationPublishV1 := some operation }
  filled := fun _ _ => ⟨rfl, rfl⟩
  lacking := "accepted Fleet observation frame lacks completion state"

structure ControlResult (α : Type) where
  kind : ControlKind
  validate : α → Except Status Unit
  dispatch : α → LocalTypedControlDispatch
  named : String

def controlResult {α : Type} (control : ControlResult α) (service : RelayHealthService) (metadata : Metadata)
    (frameId : String) (result : Option α) : Except Status (String × String × α) := do
  let destination ← service.authenticateMetadataOnly metadata
  let frameId ← requiredNodeValue frameId "frame_id"
  let result ← requirePresent result "result is required"
  control.validate result
  return (destination, frameId, result)

def ControlResult.answer {α : Type} (control : ControlResult α) : DirectControlCompletion → Except Status Bool
  | .accepted => .ok true
  | .wrongDestination => .error ⟨.permissionDenied, s!"authenticated node does not own the {control.named}"⟩
  | .unknownFrame => .error (.failedPrecondition s!"{control.named} is unknown or already completed")

def completeControlCall {α : Type} (control : ControlResult α) (service : RelayHealthService) (metadata : Metadata)
    (frameId : String) (result : Option α) : Call Bool := do
  let (destination, frameId, result) ← attempt (controlResult control service metadata frameId result)
  let completion ← onRelay (completeControl control.kind destination frameId (control.dispatch result))
  attempt (control.answer completion)

def nodescaleIdentityBindResult : ControlResult NodescaleIdentityBindResult where
  kind := .bind
  validate := validateNodescaleIdentityBindResult
  dispatch := .bind
  named := "direct control frame"

def nodescaleIdentityChallengeResult : ControlResult NodescaleIdentityChallengeResult where
  kind := .challenge
  validate := validateNodescaleIdentityChallengeResult
  dispatch := .challenge
  named := "challenge control frame"

def fleetObservationResult : ControlResult FleetObservationPublishResultV1 where
  kind := .fleetObservation
  validate := validateFleetObservationResult
  dispatch := .fleetObservation
  named := "Fleet observation frame"

def ackFrameCall (frameId : String) : Call Bool := do
  let nodeId ← attempt (connectingNode service metadata)
  match ← onRelay (ackFrame nodeId frameId) with
  | .accepted => return true
  | .wrongDestination => attempt (.error ⟨.permissionDenied, "authenticated node does not own the relay frame"⟩)
  | .unknownFrame => return false

/-- The legacy call, which never acknowledges anything. -/
def ackTaskCall : Call Bool := do
  let _ ← attempt (connectingNode service metadata)
  attempt (.error (.failedPrecondition
    "legacy task acknowledgement cannot prove relay frame ownership; use AckFrame"))

def Awaited.delivered (relay : PeerState) (awaited : Awaited) : Bool := awaited.receiver ∈ relay.answers awaited.kind

/-- Nobody is left who could answer. -/
def Awaited.closed (relay : PeerState) (awaited : Awaited) : Bool :=
  !(relay.waiters awaited.kind).rows.any (·.2 = awaited.receiver)

def Awaited.closedStatus (awaited : Awaited) : Status :=
  ⟨.unavailable,
    match awaited.kind with
    | none => "relay restarted before destination acknowledged result frame"
    | some .bind => "relay restarted before destination completed direct control"
    | some .challenge => "relay restarted before destination completed challenge control"
    | some .fleetObservation => "relay restarted before destination completed Fleet observation control"⟩

def Awaited.elapsedStatus (awaited : Awaited) : Status :=
  ⟨.deadlineExceeded,
    match awaited.kind with
    | none => "destination did not acknowledge result frame before retry deadline"
    | some .bind => "destination did not complete direct control before retry deadline"
    | some .challenge => "destination did not complete challenge control before retry deadline"
    | some .fleetObservation => "destination did not complete Fleet observation control before deadline"⟩

/-- A waiting call is looked at, its time is over, or its client goes away. -/
inductive WaitEnd where
  | polled | elapsed | dropped
deriving DecidableEq

/-- What becomes of a call that waits, if anything does. -/
def PendingFrameOwnership.ends (pending : PendingFrameOwnership) (relay : PeerState) : WaitEnd → Option WaitProgress
  | .dropped => some .dropped
  | ending =>
    if pending.awaited.delivered relay then some (.answered (.ok ()))
    else if pending.awaited.closed relay then some (.answered (.error pending.awaited.closedStatus))
    -- The receiver is looked at first, so an answer that is there when the time is over still counts.
    else if ending = .elapsed then some (.answered (.error pending.awaited.elapsedStatus))
    else none

def WaitProgress.succeeded : WaitProgress → Bool
  | .answered (.ok _) => true
  | _ => false

/-- A call that ends without success gives its frame up. -/
def endWait (index : Nat) (ending : WaitEnd) (state : ServiceState) : ServiceState :=
  match state.pending[index]? with
  | none => state
  | some pending =>
    match pending.progress with
    | .waiting =>
      match pending.ends state.relay ending with
      | none => state
      | some progress =>
        { state with
          pending := state.pending.set index { pending with progress }
          relay :=
            if progress.succeeded then state.relay
            else abandonFrame pending.destinationNodeId pending.frameId state.relay }
    | _ => state

inductive ServiceEvent where
  | registerNode (service : RelayHealthService) (request : RegisterNodeRequest)
  | connectNode (service : RelayHealthService) (metadata : Metadata)
  | endConnection (index : Nat) (next : Inbound)
  | publishTask (service : RelayHealthService) (nowMs : Int) (metadata : Metadata) (request : PublishTaskRequest)
  | publishResult (service : RelayHealthService) (metadata : Metadata) (request : PublishResultRequest)
  | publishNodescaleIdentityBind (service : RelayHealthService) (metadata : Metadata)
      (operation : Option NodescaleIdentityBindV1) (targetNodeId : String)
  | publishNodescaleIdentityBindV2 (service : RelayHealthService) (metadata : Metadata)
      (operation : Option NodescaleIdentityBindV2) (targetNodeId : String)
  | publishNodescaleIdentityChallenge (service : RelayHealthService) (metadata : Metadata)
      (operation : Option NodescaleIdentityChallengeV1) (targetNodeId : String)
  | publishNodescaleIdentityChallengeV2 (service : RelayHealthService) (metadata : Metadata)
      (operation : Option NodescaleIdentityChallengeV2) (targetNodeId : String)
  | publishFleetObservation (service : RelayHealthService) (nowMs deadlineMs : Int64) (metadata : Metadata)
      (operation : Option FleetObservationPublishV1) (targetNodeId : String)
  | completeNodescaleIdentityBind (service : RelayHealthService) (metadata : Metadata) (frameId : String)
      (result : Option NodescaleIdentityBindResult)
  | completeNodescaleIdentityChallenge (service : RelayHealthService) (metadata : Metadata) (frameId : String)
      (result : Option NodescaleIdentityChallengeResult)
  | completeFleetObservation (service : RelayHealthService) (metadata : Metadata) (frameId : String)
      (result : Option FleetObservationPublishResultV1)
  | ackFrame (service : RelayHealthService) (metadata : Metadata) (frameId : String)
  | ackTask (service : RelayHealthService) (metadata : Metadata)
  | endWait (index : Nat) (ending : WaitEnd)
  | takeItem (stream : Nat)
  | closeStream (stream : Nat)

def ServiceState.step (ids : FrameIds) (state : ServiceState) : ServiceEvent → ServiceState
  | .registerNode service request => (registerNodeCall service request state).2
  | .connectNode service metadata => (connectNodeCall service metadata state).2
  | .endConnection index next => Relay.endConnection index next state
  | .publishTask service nowMs metadata request => (publishTaskCall service ids nowMs metadata request state).2
  | .publishResult service metadata request => (publishResultCall service ids metadata request state).2
  | .publishNodescaleIdentityBind service metadata operation targetNodeId =>
    (publishControlCall Relay.publishNodescaleIdentityBind service ids metadata operation targetNodeId state).2
  | .publishNodescaleIdentityBindV2 service metadata operation targetNodeId =>
    (publishControlCall Relay.publishNodescaleIdentityBindV2 service ids metadata operation targetNodeId state).2
  | .publishNodescaleIdentityChallenge service metadata operation targetNodeId =>
    (publishControlCall Relay.publishNodescaleIdentityChallenge service ids metadata operation targetNodeId state).2
  | .publishNodescaleIdentityChallengeV2 service metadata operation targetNodeId =>
    (publishControlCall Relay.publishNodescaleIdentityChallengeV2 service ids metadata operation targetNodeId state).2
  | .publishFleetObservation service nowMs deadlineMs metadata operation targetNodeId =>
    (publishControlCall (Relay.publishFleetObservation nowMs deadlineMs) service ids metadata operation targetNodeId
      state).2
  | .completeNodescaleIdentityBind service metadata frameId result =>
    (completeControlCall nodescaleIdentityBindResult service metadata frameId result state).2
  | .completeNodescaleIdentityChallenge service metadata frameId result =>
    (completeControlCall nodescaleIdentityChallengeResult service metadata frameId result state).2
  | .completeFleetObservation service metadata frameId result =>
    (completeControlCall fleetObservationResult service metadata frameId result state).2
  | .ackFrame service metadata frameId => (ackFrameCall service metadata frameId state).2
  | .ackTask service metadata => (ackTaskCall service metadata state).2
  | .endWait index ending => Relay.endWait index ending state
  | .takeItem stream => { state with relay := Relay.takeItem stream state.relay }
  | .closeStream stream => { state with relay := Relay.closeStream stream state.relay }

end Keryx.Relay
