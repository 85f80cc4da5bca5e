import Keryx.Daemon.Delivery
import Keryx.Daemon.Submit
import Keryx.Relay.Node

/-! The way of a result from the store of its executor to the store of its origin.
A request may be served late, more than once or never, its answer may be lost, and the relay may start anew with
nothing. -/

namespace Keryx.Relay
open Keryx.Core Proto Relational Concurrent
open Daemon

def nodeAuthMetadata (nodeId : String) (token : Option String) : Metadata := ⟨some (.text nodeId), token.map .text⟩

structure DeliveryWorker where
  registryPeerId : String
  nodeToken : Option String
  retryDelayMs : String → Nat → Int

def publishResultFailureIsPermanent : Code → Bool
  | .invalidArgument | .unauthenticated | .permissionDenied | .notFound | .alreadyExists | .failedPrecondition
  | .outOfRange | .unimplemented | .dataLoss => true
  | _ => false

def maxResultDeliveryAttempts : Nat := 10

def resultDeliveryFailureShouldDeadLetter (code : Code) (attemptCount : Nat) : Bool :=
  publishResultFailureIsPermanent code || maxResultDeliveryAttempts ≤ attemptCount + 1

namespace DeliveryWorker
variable (worker : DeliveryWorker)

def workerId : String := "edge-" ++ worker.registryPeerId

def metadata : Metadata := nodeAuthMetadata worker.registryPeerId worker.nodeToken

def claimRequest : ClaimNextResultDeliveryRequest := ⟨worker.workerId, 30000⟩

variable (delivery : ClaimNextResultDeliveryResponse)

def publishRequest : PublishResultRequest :=
  ⟨delivery.result, delivery.targetPeerId, worker.registryPeerId⟩

def ackRequest : AckResultDeliveryRequest :=
  ⟨delivery.deliveryId, worker.workerId, delivery.leaseExpiresAtMs⟩

def failRequest (error : Status) : FailResultDeliveryRequest where
  deliveryId := delivery.deliveryId
  workerId := worker.workerId
  errorReason := error.message
  retryDelayMs := worker.retryDelayMs delivery.deliveryId delivery.attemptCount
  deadLetter := resultDeliveryFailureShouldDeadLetter error.code delivery.attemptCount
  leaseExpiresAtMs := delivery.leaseExpiresAtMs

end DeliveryWorker

inductive PublishProgress where
  | sent
  | waiting (place : Nat)
  | answered (reply : Except Status Unit)

structure PublishCall where
  delivery : ClaimNextResultDeliveryResponse
  progress : PublishProgress

/-- What the worker tells its daemon about a delivery. -/
inductive DeliveryReport where
  | ack (request : AckResultDeliveryRequest)
  | fail (request : FailResultDeliveryRequest)

inductive WorkerPhase where
  | ready
  | publishing (call : Nat)
  | reporting

structure StreamNode where
  registryPeerId : String
  nodeToken : Option String
  dispatch : RelayFrame → LocalTypedControlDispatch

def StreamNode.metadata (node : StreamNode) : Metadata := nodeAuthMetadata node.registryPeerId node.nodeToken

inductive EdgeRequest where
  | complete (frameId : String) (result : LocalTypedControlDispatch)
  | ackFrame (frameId : String)

def EdgeRequest.event (service : RelayHealthService) (metadata : Metadata) : EdgeRequest → ServiceEvent
  | .complete frameId (.bind result) => .completeNodescaleIdentityBind service metadata frameId (some result)
  | .complete frameId (.challenge result) => .completeNodescaleIdentityChallenge service metadata frameId (some result)
  | .complete frameId (.fleetObservation result) => .completeFleetObservation service metadata frameId (some result)
  | .ackFrame frameId => .ackFrame service metadata frameId

def EdgeRequest.serve (service : RelayHealthService) (metadata : Metadata) : EdgeRequest → Call Bool
  | .complete frameId (.bind result) =>
    completeControlCall nodescaleIdentityBindResult service metadata frameId (some result)
  | .complete frameId (.challenge result) =>
    completeControlCall nodescaleIdentityChallengeResult service metadata frameId (some result)
  | .complete frameId (.fleetObservation result) =>
    completeControlCall fleetObservationResult service metadata frameId (some result)
  | .ackFrame frameId => ackFrameCall service metadata frameId

structure EdgeCall where
  request : EdgeRequest
  reply : Option (Except Status Bool)

inductive EdgePhase where
  | disconnected
  | listening
  | handling (frame : RelayFrame)
  | handled (frame : RelayFrame)
  | answering (call : Nat)

/-- The stream is the one of the running relay, if it is; what was sent on it may arrive later still. -/
structure Edge where
  phase : EdgePhase
  stream : Option Nat
  inbox : List (Except Status RelayFrame)
  calls : List EdgeCall

namespace Edge

def disconnect (edge : Edge) : Edge := { edge with phase := .disconnected, stream := none, inbox := [] }

def ask (request : EdgeRequest) (edge : Edge) : Edge :=
  { edge with phase := .answering edge.calls.length, calls := edge.calls ++ [⟨request, none⟩] }

def look (node : StreamNode) (frame : RelayFrame) (edge : Edge) : Edge :=
  if !frame.hasExactlyOneRelayPayload then edge.disconnect
  else match typedControl frame with
    | none => { edge with phase := .handling frame }
    | some _ =>
      if frame.destinationNodeId ≠ node.registryPeerId then edge.disconnect
      else edge.ask (.complete frame.frameId (node.dispatch frame))

def next (node : StreamNode) (edge : Edge) : Edge :=
  match edge.phase, edge.inbox with
  | .listening, .ok frame :: inbox => { edge with inbox }.look node frame
  | .listening, .error _ :: _ => edge.disconnect
  | _, _ => edge

def acknowledge (edge : Edge) : Edge :=
  match edge.phase with
  | .handled frame => edge.ask (.ackFrame frame.frameId)
  | _ => edge

def resume (edge : Edge) : Edge :=
  match edge.phase with
  | .answering call =>
    match edge.calls[call]?.bind EdgeCall.reply with
    | some (.ok _) => { edge with phase := .listening }
    | some (.error _) => edge.disconnect
    | none => edge
  | _ => edge

end Edge

def submission (frame : RelayFrame) (task : TaskEnvelope) : SubmitRemoteTaskRequest :=
  ⟨some task, frame.authenticatedSourceNodeId, frame.destinationNodeId, frame.frameId⟩

def ingestion (frame : RelayFrame) (result : TaskResultEnvelope) : IngestRemoteResultRequest :=
  ⟨some result, frame.authenticatedSourceNodeId, frame.destinationNodeId⟩

/-- Ingests that the origin answered with success are kept with their answers. -/
structure DeliveryState where
  executor : Store.Sqlite.Db
  worker : WorkerPhase
  publications : List PublishCall
  reports : List DeliveryReport
  relay : ServiceState
  edge : Edge
  origin : Store.Sqlite.Db
  ingested : List (IngestRemoteResultRequest × IngestRemoteResultResponse)

def DeliveryState.initial (origin : Store.Sqlite.Db) : DeliveryState where
  executor := .empty
  worker := .ready
  publications := []
  reports := []
  relay := .empty
  edge := ⟨.disconnected, none, [], []⟩
  origin
  ingested := []

/-- How a daemon takes a request: its configuration, what the caller is authorized by, and the time. -/
structure Admission where
  runtime : Runtime
  authorization : Option String
  nowMs : Int

inductive DeliveryEvent where
  /-- Anything else that happens at the executor. -/
  | executor (op : Store.Sqlite.Op)
  /-- Anything else that happens at the origin. -/
  | origin (op : Store.Sqlite.Op)
  /-- Anything else that happens at the relay. -/
  | relay (event : ServiceEvent)
  | restartRelay (seen : Status)
  | claimDelivery (admission : Admission)
  | servePublication (call : Nat) (service : RelayHealthService)
  | answerPublication (call : Nat)
  | finishPublication
  /-- The worker gives the publication up, or its answer is lost. -/
  | losePublication (seen : Status)
  | serveReport (report : Nat) (admission : Admission)
  /-- The worker turns to the next delivery, or is started again. -/
  | resumeWorker
  | connectEdge (service : RelayHealthService)
  | transmit
  | nextFrame
  | serveFrame (admission : Admission)
  | acknowledgeFrame
  | serveEdgeCall (call : Nat) (service : RelayHealthService)
  | resumeEdge
  /-- Anything that fails ends the connection. -/
  | failEdge

namespace DeliveryState
variable (ids : FrameIds) (worker : DeliveryWorker) (node : StreamNode)

/-- The relay gives out no id again, and whoever waited for it sees a failure. -/
def restartRelay (seen : Status) (state : DeliveryState) : DeliveryState :=
  { state with
    relay := { ServiceState.empty with issued := state.relay.issued }
    publications := state.publications.map fun call =>
      match call.progress with
      | .waiting _ => { call with progress := .answered (.error seen) }
      | _ => call
    edge := { state.edge with stream := none } }

def claimDelivery [Decoders] (admission : Admission) (state : DeliveryState) : DeliveryState :=
  match state.worker with
  | .ready =>
    match claimNextResultDelivery admission.runtime admission.authorization admission.nowMs worker.claimRequest
        state.executor with
    | (.ok delivery, executor) =>
      if delivery.hasDelivery then
        { state with
          executor
          publications := state.publications ++ [⟨delivery, .sent⟩]
          worker := .publishing state.publications.length }
      else { state with executor }
    | (.error _, executor) => { state with executor }
  | _ => state

def servePublication (place : Nat) (service : RelayHealthService) (state : DeliveryState) : DeliveryState :=
  match state.publications[place]? with
  | some ⟨delivery, .sent⟩ =>
    match publishResultCall service ids worker.metadata (worker.publishRequest delivery) state.relay with
    | (.ok held, relay) => { state with relay, publications := state.publications.set place ⟨delivery, .waiting held⟩ }
    | (.error status, relay) =>
      { state with relay, publications := state.publications.set place ⟨delivery, .answered (.error status)⟩ }
  | _ => state

def answerPublication (place : Nat) (state : DeliveryState) : DeliveryState :=
  match state.publications[place]? with
  | some ⟨delivery, .waiting held⟩ =>
    match state.relay.pending[held]?.map PendingFrameOwnership.progress with
    | some (.answered reply) =>
      { state with publications := state.publications.set place ⟨delivery, .answered reply⟩ }
    | _ => state
  | _ => state

def report (report : DeliveryReport) (state : DeliveryState) : DeliveryState :=
  { state with worker := .reporting, reports := state.reports ++ [report] }

def finishPublication (state : DeliveryState) : DeliveryState :=
  match state.worker with
  | .publishing call =>
    match state.publications[call]? with
    | some ⟨delivery, .answered (.ok ())⟩ => state.report (.ack (worker.ackRequest delivery))
    | some ⟨delivery, .answered (.error error)⟩ => state.report (.fail (worker.failRequest delivery error))
    | _ => state
  | _ => state

def losePublication (seen : Status) (state : DeliveryState) : DeliveryState :=
  match state.worker with
  | .publishing call =>
    match state.publications[call]? with
    | some ⟨delivery, _⟩ => state.report (.fail (worker.failRequest delivery seen))
    | none => state
  | _ => state

def serveReport (place : Nat) (admission : Admission) (state : DeliveryState) : DeliveryState :=
  match state.reports[place]? with
  | some (.ack request) =>
    { state with
      executor := (ackResultDelivery admission.runtime admission.authorization admission.nowMs request state.executor).2 }
  | some (.fail request) =>
    { state with
      executor :=
        (failResultDelivery admission.runtime admission.authorization admission.nowMs request state.executor).2 }
  | none => state

def connectEdge (service : RelayHealthService) (state : DeliveryState) : DeliveryState :=
  match state.edge.phase with
  | .disconnected =>
    match connectNodeCall service node.metadata state.relay with
    | (.ok _, relay) =>
      { state with
        relay
        edge := { state.edge with phase := .listening, stream := some state.relay.relay.streamCount, inbox := [] } }
    | (.error _, relay) => { state with relay }
  | _ => state

def transmit (state : DeliveryState) : DeliveryState :=
  match state.edge.stream with
  | none => state
  | some stream =>
    match (state.relay.relay.streams stream).waiting with
    | [] => state
    | item :: _ =>
      { state with
        relay := { state.relay with relay := takeItem stream state.relay.relay }
        edge := { state.edge with inbox := state.edge.inbox ++ [item] } }

/-- The daemon of the origin answers for the frame that the loop is at. -/
def serveFrame [Decoders] [Sha256] (admission : Admission) (state : DeliveryState) : DeliveryState :=
  match state.edge.phase with
  | .handling frame =>
    match frame.task, frame.result with
    | some task, _ =>
      match submitRemoteTask admission.runtime admission.authorization admission.nowMs (submission frame task)
          state.origin with
      | (.ok _, origin) => { state with origin, edge := { state.edge with phase := .handled frame } }
      | (.error _, origin) => { state with origin, edge := state.edge.disconnect }
    | none, some result =>
      match ingestRemoteResult admission.runtime admission.authorization (ingestion frame result) state.origin with
      | (.ok response, origin) =>
        { state with
          origin
          edge := { state.edge with phase := .handled frame }
          ingested := state.ingested ++ [(ingestion frame result, response)] }
      | (.error _, origin) => { state with origin, edge := state.edge.disconnect }
    | none, none => { state with edge := state.edge.disconnect }
  | _ => state

def serveEdgeCall (place : Nat) (service : RelayHealthService) (state : DeliveryState) : DeliveryState :=
  match state.edge.calls[place]? with
  | none => state
  | some call =>
    let (reply, relay) := call.request.serve service node.metadata state.relay
    { state with
      relay
      edge := { state.edge with calls := state.edge.calls.set place { call with reply := some reply } } }

def step [Decoders] [Sha256] (state : DeliveryState) : DeliveryEvent → DeliveryState
  | .executor op => { state with executor := Store.Sqlite.step state.executor op }
  | .origin op => { state with origin := Store.Sqlite.step state.origin op }
  | .relay event => { state with relay := state.relay.step ids event }
  | .restartRelay seen => state.restartRelay seen
  | .claimDelivery admission => state.claimDelivery worker admission
  | .servePublication place service => state.servePublication ids worker place service
  | .answerPublication place => state.answerPublication place
  | .finishPublication => state.finishPublication worker
  | .losePublication seen => state.losePublication worker seen
  | .serveReport place admission => state.serveReport place admission
  | .resumeWorker => { state with worker := .ready }
  | .connectEdge service => state.connectEdge node service
  | .transmit => state.transmit
  | .nextFrame => { state with edge := state.edge.next node }
  | .serveFrame admission => state.serveFrame admission
  | .acknowledgeFrame => { state with edge := state.edge.acknowledge }
  | .serveEdgeCall place service => state.serveEdgeCall node place service
  | .resumeEdge => { state with edge := state.edge.resume }
  | .failEdge => { state with edge := state.edge.disconnect }

end DeliveryState

end Keryx.Relay
