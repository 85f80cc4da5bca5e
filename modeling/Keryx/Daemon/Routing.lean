import Keryx.Daemon.Worker
import Keryx.Daemon.Submit

/-! The router: its policy, the local and the relay route, and the request that sends a task. -/

namespace Keryx.Daemon
open Keryx.Core Store Proto Relational
open Session (amend attempt consult observe report settle transact within)

inductive RoutingError where
  | unknownPeer (peerId : String)
  | timeout (peerId : String)
  | relayUnavailable
  | relayFailed (peerId reason : String)
  | policyDenied (reason : String)
  | invalidEnvelope (reason : String)
  | store (error : StoreError)
  | validation (error : ValidationError)
deriving DecidableEq

def secretMarkers : List String := ["token", "secret", "password", "authorization", "bearer"]

def redactSegment (segment : List Char) : String :=
  if secretMarkers.any (fun marker => marker.toList <:+: segment.map Char.toLower) then
    if '=' ∈ segment then String.ofList (segment.takeWhile (· ≠ '=')) ++ "=<redacted>"
    else if ':' ∈ segment then String.ofList (segment.takeWhile (· ≠ ':')) ++ ":<redacted>"
    else "<redacted>"
  else String.ofList segment

def redactSecrets (input : String) : String :=
  " ".intercalate (((input.toList.splitOnP isWhitespace).filter (· ≠ [])).map redactSegment)

def routingErrorToStatus : RoutingError → Status
  | .unknownPeer peerId => ⟨.notFound, s!"unknown peer: {peerId}"⟩
  | .timeout peerId => ⟨.deadlineExceeded, s!"delivery timed out for peer {peerId}"⟩
  | .relayUnavailable => ⟨.unavailable, "relay is not connected"⟩
  | .relayFailed peerId reason =>
    if peerId = "" then .invalidArgument (redactSecrets reason)
    else ⟨.unavailable, "relay delivery failed for " ++ peerId ++ ": " ++ redactSecrets reason⟩
  | .policyDenied reason => ⟨.permissionDenied, redactSecrets reason⟩
  | .invalidEnvelope reason => .invalidArgument reason
  | .store error => storeErrorToStatus error
  | .validation error => .invalidArgument (validationText error)

inductive RoutingPolicyPermission where
  | allow | deny | approvalRequired
deriving DecidableEq

structure RoutingPolicyDecision where
  permission : RoutingPolicyPermission
  capabilityId : Option String
  reason : String
deriving DecidableEq

structure RoutingPolicy where
  defaultPermission : RoutingPolicyPermission
  capabilityPermissions : Table (Prod.fst : String × RoutingPolicyPermission → String)

def capabilityMetadataKeys : List String :=
  ["keryx.capability_id", "capability_id", "capability", "skill_id", "skill"]

variable (envelope : TaskEnvelope)

def envelopeCapabilityId : Option String :=
  capabilityMetadataKeys.findSome? fun key =>
    ((envelope.metadata.find key).map (fun entry => trim entry.2)).filter (· ≠ "")

def RoutingPolicy.evaluate (policy : RoutingPolicy) (envelope : TaskEnvelope) : RoutingPolicyDecision :=
  let capabilityId := envelopeCapabilityId envelope
  let named := capabilityId.getD "<unspecified>"
  match ((capabilityId.bind policy.capabilityPermissions.find).map Prod.snd).getD policy.defaultPermission with
  | .allow => ⟨.allow, capabilityId, "capability allowed by routing policy"⟩
  | .deny => ⟨.deny, capabilityId, s!"capability {named} denied by routing policy"⟩
  | .approvalRequired => ⟨.approvalRequired, capabilityId, s!"capability {named} requires approval"⟩

structure RoutingAuditEvent where
  taskId : TaskId
  targetPeerId : PeerId
  capabilityId : Option String
  decision : RoutingPolicyPermission
  reason : String
deriving DecidableEq

def RoutingAuditEvent.new (taskId : TaskId) (targetPeerId : PeerId) (decision : RoutingPolicyDecision) :
    RoutingAuditEvent where
  taskId := taskId
  targetPeerId := targetPeerId
  capabilityId := decision.capabilityId.map redactSecrets
  decision := decision.permission
  reason := redactSecrets decision.reason

structure RelayRouteReceipt where
  taskId : TaskId
  frameId : String
  authenticatedSourcePeerId : PeerId
  acceptedDestinationPeerId : PeerId
  acceptedRoute : String
  acceptedAtMs : Int
deriving DecidableEq

/-- How a call to the publisher ends within its time. -/
inductive Delivery where
  | accepted (receipt : RelayRouteReceipt)
  | failed (error : RoutingError)
  | elapsed

structure RelayTaskPublisher where
  isConfigured : Bool
  deliverTask : PeerId → TaskEnvelope → Nat → Delivery

structure PeerDirectory where
  localPeerId : PeerId
  connectedPeers : List String
  relayRoutablePeers : List String

def PeerDirectory.isConnected (peers : PeerDirectory) (peerId : PeerId) : Bool :=
  peerId = peers.localPeerId || peerId.value ∈ peers.connectedPeers

def PeerDirectory.isRoutable (peers : PeerDirectory) (peerId : PeerId) : Bool :=
  peers.isConnected peerId || peerId.value ∈ peers.relayRoutablePeers

structure TaskRouter where
  peers : PeerDirectory
  publisher : RelayTaskPublisher
  policy : RoutingPolicy
  defaultTimeoutMs : Nat

/-- The store, the audit events, and the calls made to the publisher. -/
structure RouterState where
  db : Sqlite.Db
  auditEvents : List RoutingAuditEvent
  published : List (PeerId × TaskEnvelope)

def RouterState.withDb (db : Sqlite.Db) (state : RouterState) : RouterState := { state with db }

def storing {α : Type} (session : Session Sqlite.Db StoreError α) : Session RouterState RoutingError α :=
  report .store (within RouterState.db RouterState.withDb session)

inductive DeliveryRoute where
  | local | relay | awaitingApproval
deriving DecidableEq

def DeliveryRoute.asStr : DeliveryRoute → String
  | .local => "local"
  | .relay => "relay"
  | .awaitingApproval => "awaiting_approval"

structure SendTaskOutcome where
  taskId : TaskId
  status : String
  routedTo : PeerId
  route : DeliveryRoute
  relayReceipt : Option RelayRouteReceipt

def parseEnvelopeTaskId : Except RoutingError TaskId :=
  match envelope.taskId.filter (fun id => trim id.value ≠ "") with
  | none => .error (.relayFailed "" "envelope.task_id is required")
  | some id => (validateIdentifier .taskId (trim id.value)).mapError .validation

def parseEnvelopeIdempotencyKey : Except RoutingError (Option IdempotencyKey) :=
  match envelope.idempotencyKey.filter (fun key => trim key.value ≠ "") with
  | none => .ok none
  | some key => ((validateIdentifier .idempotencyKey (trim key.value)).map some).mapError (.store ∘ .validation)

def routingDeadline : Except RoutingError (Option Int) :=
  if envelope.deadlineMs.toInt < 0 then
    .error (.invalidEnvelope "deadline_ms must be zero or a positive Unix epoch timestamp")
  else .ok (if 0 < envelope.deadlineMs.toInt then some envelope.deadlineMs.toInt else none)

def acceptLocalTask : Session RouterState RoutingError (TaskId × String) := do
  let taskId ← attempt (parseEnvelopeTaskId envelope)
  let idempotencyKey ← attempt (parseEnvelopeIdempotencyKey envelope)
  let deadlineMs ← attempt (routingDeadline envelope)
  let accepted ← storing (transact (Sqlite.acceptTask (acceptedRecord taskId idempotencyKey deadlineMs)))
  pure (taskId, taskStatusLabel accepted.status)

/-- The order a hash map is iterated in once an entry has been inserted. -/
structure MapOrder where
  arrange : StringMap → StringMap
  same : ∀ map, SameMap (arrange map) map

def MapOrder.unchanged : MapOrder := ⟨fun map => map, fun _ => .refl _⟩

def supportedProtocolFeatures : List String := ["absolute_deadlines_v1", "result_artifact_bytes_v1"]

/-- The JSON text of a list of texts that need no escapes. -/
def jsonTextList (texts : List String) : String :=
  "[" ++ ",".intercalate (texts.map (fun text => "\"" ++ text ++ "\"")) ++ "]"

def withSourceFeatures (order : MapOrder) (envelope : TaskEnvelope) : TaskEnvelope :=
  { envelope with
    metadata :=
      order.arrange
        (envelope.metadata.put (authenticatedSourceFeaturesMetadataKey, jsonTextList supportedProtocolFeatures)) }

/-- Whether the store already holds this very intent to deliver. Any other task of that id is an error. -/
def existingIntent (localPeerId targetPeerId : PeerId) (record : TaskRecord) (encodedEnvelope : Bytes)
    (db : Sqlite.Db) : StoreResult Bool :=
  match db.getTask record.id with
  | .ok existing => do
    demand (existing = record) (.taskAlreadyExists record.id)
    let stored ← db.getTaskEnvelope record.id
    demand (stored.encodedEnvelope = encodedEnvelope) (.taskEnvelopeConflict record.id)
    let context ← db.getTransportContext record.id
    demand (context.expectedExecutorPeerId = some targetPeerId ∧ context.destinationPeerId = targetPeerId)
      (.transportContextConflict record.id)
    demand (context.authenticatedSenderPeerId = some localPeerId) (.transportContextConflict record.id)
    return true
  | .error (.taskNotFound _) => .ok false
  | .error error => .error error

def intentContext (localPeerId targetPeerId : PeerId) (taskId : TaskId) (nowMs : Int) : TaskTransportContextRecord where
  taskId := taskId
  authenticatedSenderPeerId := some localPeerId
  expectedExecutorPeerId := some targetPeerId
  destinationPeerId := targetPeerId
  relayFrameId := none
  receivedAtMs := nowMs

/-- The task is stored before the relay is called, once. -/
def storeIntent (localPeerId targetPeerId : PeerId) (record : TaskRecord) (encodedEnvelope : Bytes) (nowMs : Int) :
    Session Sqlite.Db StoreError Unit := do
  let existing ← consult (existingIntent localPeerId targetPeerId record encodedEnvelope)
  if existing then pure ()
  else
    let envelope : TaskEnvelopeRecord := { taskId := record.id, encodedEnvelope, receivedAtMs := nowMs }
    let context := intentContext localPeerId targetPeerId record.id nowMs
    let _ ← transact (Sqlite.acceptTaskWithEnvelopeAndContext record envelope context)
    pure ()

def normalizeTimeout (timeoutMs : Int) (defaultTimeoutMs : Nat) : Nat :=
  if timeoutMs ≤ 0 then defaultTimeoutMs else timeoutMs.toNat

def RouterState.publish (targetPeerId : PeerId) (envelope : TaskEnvelope) (state : RouterState) : RouterState :=
  { state with published := state.published ++ [(targetPeerId, envelope)] }

def publishTask (router : TaskRouter) (taskId : TaskId) (targetPeerId : PeerId) (envelope : TaskEnvelope)
    (timeoutMs : Int) : Session RouterState RoutingError SendTaskOutcome := do
  amend (RouterState.publish targetPeerId envelope)
  match router.publisher.deliverTask targetPeerId envelope (normalizeTimeout timeoutMs router.defaultTimeoutMs) with
  | .accepted receipt =>
    let _ ← storing (transact (Sqlite.recordRelayReceipt taskId receipt.authenticatedSourcePeerId
      receipt.acceptedDestinationPeerId receipt.frameId receipt.acceptedAtMs))
    pure { taskId, status := "relay_accepted", routedTo := targetPeerId, route := .relay, relayReceipt := some receipt }
  | .failed error => attempt (.error error)
  | .elapsed => attempt (.error (.timeout targetPeerId.value))

def routeOverRelay (router : TaskRouter) (order : MapOrder) (nowMs : Int) (taskId : TaskId) (deadlineMs : Option Int)
    (targetPeerId : PeerId) (envelope : TaskEnvelope) (timeoutMs : Int) :
    Session RouterState RoutingError SendTaskOutcome := do
  let carried := withSourceFeatures order envelope
  attempt
    (if router.peers.isRoutable targetPeerId || router.publisher.isConfigured then .ok ()
    else .error (.unknownPeer targetPeerId.value))
  let idempotencyKey ← attempt (parseEnvelopeIdempotencyKey carried)
  storing (storeIntent router.peers.localPeerId targetPeerId (acceptedRecord taskId idempotencyKey deadlineMs)
    carried.encodeToVec nowMs)
  publishTask router taskId targetPeerId carried timeoutMs

def RouterState.recordAuditEvent (event : RoutingAuditEvent) (state : RouterState) : RouterState :=
  { state with auditEvents := state.auditEvents ++ [event] }

def TaskRouter.sendTask (router : TaskRouter) (order : MapOrder) (nowMs : Int) (targetPeerId : PeerId)
    (envelope : TaskEnvelope) (timeoutMs : Int) : Session RouterState RoutingError SendTaskOutcome := do
  let taskId ← attempt (parseEnvelopeTaskId envelope)
  let deadlineMs ← attempt (routingDeadline envelope)
  let decision := router.policy.evaluate envelope
  let event := RoutingAuditEvent.new taskId targetPeerId decision
  amend (RouterState.recordAuditEvent event)
  match decision.permission with
  | .deny => attempt (.error (.policyDenied event.reason))
  | .approvalRequired =>
    pure { taskId, status := "awaiting_approval", routedTo := targetPeerId, route := .awaitingApproval,
           relayReceipt := none }
  | .allow =>
    if targetPeerId = router.peers.localPeerId then
      let (accepted, status) ← acceptLocalTask envelope
      pure { taskId := accepted, status, routedTo := targetPeerId, route := .local, relayReceipt := none }
    else routeOverRelay router order nowMs taskId deadlineMs targetPeerId envelope timeoutMs

structure SendTaskRequest where
  targetPeerId : String
  envelope : Option TaskEnvelope
  timeoutMs : Int64

structure SendTaskResponse where
  taskId : Option ProtoId
  status : String
  routedTo : String
  deliveryRoute : String
  relayFrameId : String
  authenticatedSourcePeerId : String
  acceptedDestinationPeerId : String
  acceptedRoute : String
  acceptedAtMs : Int
deriving DecidableEq

def sendTaskResponse (outcome : SendTaskOutcome) : SendTaskResponse where
  taskId := some (protoId outcome.taskId)
  status := outcome.status
  routedTo := outcome.routedTo.value
  deliveryRoute := outcome.route.asStr
  relayFrameId := (outcome.relayReceipt.map (·.frameId)).getD ""
  authenticatedSourcePeerId := (outcome.relayReceipt.map (·.authenticatedSourcePeerId.value)).getD ""
  acceptedDestinationPeerId := (outcome.relayReceipt.map (·.acceptedDestinationPeerId.value)).getD ""
  acceptedRoute := (outcome.relayReceipt.map (·.acceptedRoute)).getD ""
  acceptedAtMs := (outcome.relayReceipt.map (·.acceptedAtMs)).getD 0

def parseTargetPeerId (targetPeerId : String) : Except Status PeerId :=
  if trim targetPeerId = "" then .error (.invalidArgument "target_peer_id is required")
  else invalidValue (validateIdentifier .peerId (trim targetPeerId))

def sendSubmission (config : Config) (request : SendTaskRequest) : Except Status (TaskEnvelope × PeerId) := do
  let envelope ← requireEnvelope request.envelope
  let targetPeerId ← parseTargetPeerId request.targetPeerId
  (config.limits.checkEnvelopeBytes envelope.encodedLen).mapError limitExceededToStatus
  return (envelope, targetPeerId)

def checkLocalRoom (config : Config) (targetPeerId : PeerId) (state : RouterState) : Except Status Unit :=
  if targetPeerId = config.localPeerId then
    (config.limits.checkPendingTasks (state.db.countTasksByStatus .pending)).mapError limitExceededToStatus
  else .ok ()

/-- A daemon with its router, whose directory is built from the daemon's configuration. -/
structure RoutingRuntime extends Runtime where
  router : TaskRouter
  sameLocalPeer : router.peers.localPeerId = config.localPeerId

def sendTask (runtime : RoutingRuntime) (authorization : Option String) (order : MapOrder) (nowMs : Int)
    (request : SendTaskRequest) : Session RouterState Status SendTaskResponse := do
  attempt (enter runtime.toRuntime authorization)
  let (envelope, targetPeerId) ← attempt (sendSubmission runtime.config request)
  consult (checkLocalRoom runtime.config targetPeerId)
  let outcome ←
    report routingErrorToStatus
      (runtime.router.sendTask order nowMs targetPeerId envelope request.timeoutMs.toInt)
  pure (sendTaskResponse outcome)

end Keryx.Daemon
