import Keryx.Daemon.Lease
import Keryx.Daemon.Submit

/-! Tasks that arrive from the relay and that the daemon accepts itself. -/

namespace Keryx.Daemon
open Keryx.Core Store Proto Relational

structure IncomingRelayTask where
  frameId : String
  senderNodeId : String
  envelope : TaskEnvelope

structure IncomingDispatchConfig where
  localWorkerId : Option AgentId
  leaseDurationMs : Int
deriving DecidableEq

def invalidText {α : Type} (outcome : Except ValidationError α) : Except String α := outcome.mapError validationText

def incomingTaskId (envelope : TaskEnvelope) : Except String TaskId :=
  match envelope.taskId.filter (fun id => trim id.value ≠ "") with
  | none => .error "envelope.task_id is required"
  | some id => invalidText (validateIdentifier .taskId (trim id.value))

def incomingIdempotencyKey (envelope : TaskEnvelope) : Except String (Option IdempotencyKey) :=
  match envelope.idempotencyKey.filter (fun key => trim key.value ≠ "") with
  | none => .ok none
  | some key => invalidText ((validateIdentifier .idempotencyKey (trim key.value)).map some)

def incomingDeadline (envelope : TaskEnvelope) : Except String (Option Int) :=
  if envelope.deadlineMs.toInt < 0 then .error "deadline_ms must be zero or a positive Unix epoch timestamp"
  else .ok (if 0 < envelope.deadlineMs.toInt then some envelope.deadlineMs.toInt else none)

/-- The rows that an incoming task asks for. It is bound to the local peer. -/
def incomingSubmission (config : Config) (nowMs : Int) (incoming : IncomingRelayTask) :
    Except String (TaskRecord × TaskEnvelopeRecord × TaskTransportContextRecord) := do
  let taskId ← incomingTaskId incoming.envelope
  let idempotencyKey ← incomingIdempotencyKey incoming.envelope
  let deadlineMs ← incomingDeadline incoming.envelope
  let sender ← invalidText (validateIdentifier .peerId incoming.senderNodeId)
  return (acceptedRecord taskId idempotencyKey deadlineMs,
    { taskId, encodedEnvelope := incoming.envelope.encodeToVec, receivedAtMs := nowMs },
    { taskId, authenticatedSenderPeerId := some sender, expectedExecutorPeerId := some config.localPeerId,
      destinationPeerId := config.localPeerId, relayFrameId := some incoming.frameId, receivedAtMs := nowMs })

/-- The lease for the configured worker. The source panics where no id can be built. -/
def dispatchLease (config : Config) (dispatch : IncomingDispatchConfig) (workerId : AgentId) (leasedAtMs : Int)
    (taskId : TaskId) : Except ValidationError LeaseRecord := do
  let durationMs := if dispatch.leaseDurationMs ≤ 0 then config.leaseDefaultTtlMs else dispatch.leaseDurationMs
  let leaseId ← newLeaseId taskId leasedAtMs
  return { leaseId, taskId, workerId := some workerId, leasedAtMs,
           expiresAtMs := saturatingAddI64 leasedAtMs durationMs }

end Keryx.Daemon
