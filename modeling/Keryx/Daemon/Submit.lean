import Keryx.Daemon.Status
import Keryx.Store.Sqlite.Queries

/-! The requests that submit a task to the local daemon. -/

namespace Keryx.Daemon
open Keryx.Core Store Proto Relational
open Session (attempt observe report transact)

structure SubmitTaskRequest where
  envelope : Option TaskEnvelope

structure SubmitRemoteTaskRequest where
  envelope : Option TaskEnvelope
  authenticatedSenderPeerId : String
  destinationPeerId : String
  relayFrameId : String

structure SubmitTaskResponse where
  taskId : Option ProtoId
  status : String
deriving DecidableEq

def requireEnvelope (envelope : Option TaskEnvelope) : Except Status TaskEnvelope :=
  match envelope with
  | some envelope => .ok envelope
  | none => .error (.invalidArgument "envelope is required")

theorem requireEnvelope_ok {envelope : Option TaskEnvelope} {submitted : TaskEnvelope} :
    requireEnvelope envelope = .ok submitted ↔ envelope = some submitted := by
  cases envelope <;> simp [requireEnvelope]

def acceptedRecord (taskId : TaskId) (idempotencyKey : Option IdempotencyKey) (deadlineMs : Option Int) : TaskRecord :=
  { TaskRecord.new taskId .pending idempotencyKey with deadlineMs }

def submitTaskResponse (accepted : TaskRecord) : SubmitTaskResponse :=
  { taskId := some (protoId accepted.id), status := taskStatusLabel accepted.status }

def checkRoom (limits : LimitsConfig) (incoming : Nat) (db : Sqlite.Db) : StoreResult Unit := do
  validated (limits.checkPendingTasks (db.countTasksByStatus .pending))
  validated (limits.checkRetainedEnvelopeBytes db.retainedTaskEnvelopeBytes incoming)

def acceptPendingTaskWithEnvelopeBackpressure (config : Config) (record : TaskRecord) (envelope : TaskEnvelopeRecord) :
    Session Sqlite.Db StoreError TaskRecord := do
  attempt (validated (config.limits.checkEnvelopeBytes envelope.encodedEnvelope.length))
  Session.consult (checkRoom config.limits envelope.encodedEnvelope.length)
  transact (Sqlite.acceptTaskWithEnvelope record envelope)

/-- A task that is already stored passes without the limits. -/
def acceptPendingRemoteTaskWithBackpressure (config : Config) (record : TaskRecord) (envelope : TaskEnvelopeRecord)
    (context : TaskTransportContextRecord) : Session Sqlite.Db StoreError TaskRecord := do
  attempt (validated (config.limits.checkEnvelopeBytes envelope.encodedEnvelope.length))
  let existing ← observe (Sqlite.Db.getTask record.id)
  match existing with
  | .ok _ => transact (Sqlite.acceptTaskWithEnvelopeAndContext record envelope context)
  | .error (.taskNotFound _) =>
    Session.consult (checkRoom config.limits envelope.encodedEnvelope.length)
    transact (Sqlite.acceptTaskWithEnvelopeAndContext record envelope context)
  | .error error => attempt (.error error)

section
variable {config : Config} {record accepted : TaskRecord} {envelope : TaskEnvelopeRecord} {db after : Sqlite.Db}

theorem acceptPendingTaskWithEnvelopeBackpressure_ok :
    acceptPendingTaskWithEnvelopeBackpressure config record envelope db = (.ok accepted, after) ↔
      config.limits.checkEnvelopeBytes envelope.encodedEnvelope.length = .ok () ∧
        checkRoom config.limits envelope.encodedEnvelope.length db = .ok () ∧
        Sqlite.acceptTaskWithEnvelope record envelope db = .ok (accepted, after) := by
  simp only [acceptPendingTaskWithEnvelopeBackpressure, Session.attempt_bind_ok, Session.consult_bind_ok,
    Session.transact_ok, validated_ok, Unique.exists_iff]

theorem acceptPendingRemoteTaskWithBackpressure_ok {context : TaskTransportContextRecord} :
    acceptPendingRemoteTaskWithBackpressure config record envelope context db = (.ok accepted, after) ↔
      config.limits.checkEnvelopeBytes envelope.encodedEnvelope.length = .ok () ∧
        (db.tasks.find record.id = none → checkRoom config.limits envelope.encodedEnvelope.length db = .ok ()) ∧
        Sqlite.acceptTaskWithEnvelopeAndContext record envelope context db = .ok (accepted, after) := by
  simp only [acceptPendingRemoteTaskWithBackpressure, Session.attempt_bind_ok, Session.observe_bind, validated_ok,
    Sqlite.Db.getTask]
  cases present : db.tasks.find record.id with
  | some existing =>
    simp only [Sqlite.found, Session.transact_ok, reduceCtorEq, false_implies, true_and, Unique.exists_iff]
  | none =>
    simp only [Sqlite.found, Session.consult_bind_ok, Session.transact_ok, forall_const, Unique.exists_iff]

end

def localSubmission (config : Config) (nowMs : Int) (request : SubmitTaskRequest) :
    Except Status (TaskRecord × TaskEnvelopeRecord) := do
  let envelope ← requireEnvelope request.envelope
  let taskId ← parseRequiredTaskId envelope.taskId
  let idempotencyKey ← parseOptionalIdempotencyKey envelope.idempotencyKey
  (config.limits.checkEnvelopeBytes envelope.encodedLen).mapError limitExceededToStatus
  let deadlineMs ← deadlineFromEnvelope envelope
  return (acceptedRecord taskId idempotencyKey deadlineMs,
    { taskId, encodedEnvelope := envelope.encodeToVec, receivedAtMs := nowMs })

theorem localSubmission_ok {config : Config} {nowMs : Int} {request : SubmitTaskRequest}
    {rows : TaskRecord × TaskEnvelopeRecord} :
    localSubmission config nowMs request = .ok rows ↔
      ∃ submitted taskId key deadlineMs, request.envelope = some submitted ∧
        parseRequiredTaskId submitted.taskId = .ok taskId ∧
        parseOptionalIdempotencyKey submitted.idempotencyKey = .ok key ∧
        config.limits.checkEnvelopeBytes submitted.encodedLen = .ok () ∧ deadlineFromEnvelope submitted = .ok deadlineMs ∧
        (acceptedRecord taskId key deadlineMs,
          { taskId, encodedEnvelope := submitted.encodeToVec, receivedAtMs := nowMs }) = rows := by
  simp only [localSubmission, except_bind_ok, except_pure_ok, requireEnvelope_ok, except_mapError_ok,
    Unique.exists_iff, exists_and_left]

def submitTask (runtime : Runtime) (authorization : Option String) (nowMs : Int) (request : SubmitTaskRequest) :
    Rpc SubmitTaskResponse := do
  attempt (enter runtime authorization)
  let (record, envelope) ← attempt (localSubmission runtime.config nowMs request)
  let accepted ← report storeErrorToStatus (acceptPendingTaskWithEnvelopeBackpressure runtime.config record envelope)
  pure (submitTaskResponse accepted)

theorem submitTask_ok {runtime : Runtime} {authorization : Option String} {nowMs : Int} {request : SubmitTaskRequest}
    {db after : Sqlite.Db} {response : SubmitTaskResponse} :
    submitTask runtime authorization nowMs request db = (.ok response, after) ↔
      enter runtime authorization = .ok () ∧ ∃ record envelope accepted,
        localSubmission runtime.config nowMs request = .ok (record, envelope) ∧
        acceptPendingTaskWithEnvelopeBackpressure runtime.config record envelope db = (.ok accepted, after) ∧
        submitTaskResponse accepted = response := by
  simp only [submitTask, Session.attempt_bind_ok, Session.report_bind_ok, Session.pure_apply, Prod.mk.injEq,
    Except.ok.injEq, Unique.exists_iff, Prod.exists, exists_eq_right_right, exists_and_left]

def SubmitRemoteTaskRequest.sender (request : SubmitRemoteTaskRequest) : Except ValidationError PeerId :=
  validateIdentifier .peerId (trim request.authenticatedSenderPeerId)

def SubmitRemoteTaskRequest.destination (request : SubmitRemoteTaskRequest) : Except ValidationError PeerId :=
  validateIdentifier .peerId (trim request.destinationPeerId)

def remoteSubmission (config : Config) (nowMs : Int) (request : SubmitRemoteTaskRequest) :
    Except Status (TaskRecord × TaskEnvelopeRecord × TaskTransportContextRecord) := do
  let envelope ← requireEnvelope request.envelope
  let taskId ← parseRequiredTaskId envelope.taskId
  let sender ← invalidValue request.sender
  let destination ← invalidValue request.destination
  if destination ≠ config.localPeerId then
    throw ⟨.permissionDenied, "remote task destination does not match local peer"⟩
  let idempotencyKey ← parseOptionalIdempotencyKey envelope.idempotencyKey
  let deadlineMs ← deadlineFromEnvelope envelope
  return (acceptedRecord taskId idempotencyKey deadlineMs,
    { taskId, encodedEnvelope := envelope.encodeToVec, receivedAtMs := nowMs },
    { taskId, authenticatedSenderPeerId := some sender, expectedExecutorPeerId := none,
      destinationPeerId := destination, relayFrameId := some request.relayFrameId, receivedAtMs := nowMs })

theorem remoteSubmission_ok {config : Config} {nowMs : Int} {request : SubmitRemoteTaskRequest}
    {rows : TaskRecord × TaskEnvelopeRecord × TaskTransportContextRecord} :
    remoteSubmission config nowMs request = .ok rows ↔
      ∃ submitted taskId sender key deadlineMs, request.envelope = some submitted ∧
        parseRequiredTaskId submitted.taskId = .ok taskId ∧ request.sender = .ok sender ∧
        request.destination = .ok config.localPeerId ∧ parseOptionalIdempotencyKey submitted.idempotencyKey = .ok key ∧
        deadlineFromEnvelope submitted = .ok deadlineMs ∧
        (acceptedRecord taskId key deadlineMs,
          { taskId, encodedEnvelope := submitted.encodeToVec, receivedAtMs := nowMs },
          { taskId, authenticatedSenderPeerId := some sender, expectedExecutorPeerId := none,
            destinationPeerId := config.localPeerId, relayFrameId := some request.relayFrameId,
            receivedAtMs := nowMs }) = rows := by
  simp only [remoteSubmission, except_bind_ok, requireEnvelope_ok, invalidValue, except_mapError_ok]
  constructor
  · rintro ⟨submitted, given, taskId, named, sender, sent, destination, arrives, success⟩
    split at success
    · cases success
    · rename_i near
      have here : destination = config.localPeerId := not_not.mp near
      subst here
      simp only [except_bind_ok, except_pure_ok] at success
      obtain ⟨key, keyed, deadlineMs, due, same⟩ := success
      exact ⟨submitted, taskId, sender, key, deadlineMs, given, named, sent, arrives, keyed, due, same⟩
  · rintro ⟨submitted, taskId, sender, key, deadlineMs, given, named, sent, arrives, keyed, due, same⟩
    refine ⟨submitted, given, taskId, named, sender, sent, config.localPeerId, arrives, ?_⟩
    simp only [ne_eq, not_true_eq_false, if_false, except_bind_ok, except_pure_ok]
    exact ⟨key, keyed, deadlineMs, due, same⟩

def submitRemoteTask (runtime : Runtime) (authorization : Option String) (nowMs : Int)
    (request : SubmitRemoteTaskRequest) : Rpc SubmitTaskResponse := do
  attempt (enter runtime authorization)
  let (record, envelope, context) ← attempt (remoteSubmission runtime.config nowMs request)
  let accepted ←
    report storeErrorToStatus (acceptPendingRemoteTaskWithBackpressure runtime.config record envelope context)
  pure (submitTaskResponse accepted)

theorem submitRemoteTask_ok {runtime : Runtime} {authorization : Option String} {nowMs : Int}
    {request : SubmitRemoteTaskRequest} {db after : Sqlite.Db} {response : SubmitTaskResponse} :
    submitRemoteTask runtime authorization nowMs request db = (.ok response, after) ↔
      enter runtime authorization = .ok () ∧ ∃ record envelope context accepted,
        remoteSubmission runtime.config nowMs request = .ok (record, envelope, context) ∧
        acceptPendingRemoteTaskWithBackpressure runtime.config record envelope context db = (.ok accepted, after) ∧
        submitTaskResponse accepted = response := by
  simp only [submitRemoteTask, Session.attempt_bind_ok, Session.report_bind_ok, Session.pure_apply, Prod.mk.injEq,
    Except.ok.injEq, Unique.exists_iff, Prod.exists, exists_eq_right_right, exists_and_left]

end Keryx.Daemon
