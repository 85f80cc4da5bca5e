import Keryx.Daemon.Status
import Keryx.Store.Sqlite.Queries

/-! The requests of a worker that holds a lease. -/

namespace Keryx.Daemon
open Keryx.Core Store Proto Relational
open Session (attempt observe consult settle)

structure HeartbeatRequest where
  taskId : Option ProtoId
  leaseId : Option ProtoId
  workerId : Option ProtoId
  leaseDurationMs : Int64

structure HeartbeatResponse where
  leaseId : Option ProtoId
  expiresAtMs : Int

structure TaskArtifact where
  path : String
  mediaType : String
  metadata : StringMap
  content : Bytes
  byteLen : UInt64
  sha256 : String
  contentPresent : Bool
deriving DecidableEq

structure CompleteTaskRequest where
  taskId : Option ProtoId
  leaseId : Option ProtoId
  workerId : Option ProtoId
  durationMs : Int64
  resultMetadata : StringMap
  outputArtifacts : List TaskArtifact

structure CompleteTaskResponse where
  taskId : Option ProtoId
  status : String
  durationMs : Int64
  resultMetadata : StringMap
  outputArtifacts : List TaskArtifact
deriving DecidableEq

structure FailTaskRequest where
  taskId : Option ProtoId
  leaseId : Option ProtoId
  workerId : Option ProtoId
  durationMs : Int64
  errorReason : String
  failureMetadata : StringMap

structure FailTaskResponse where
  taskId : Option ProtoId
  status : String
  durationMs : Int64
  errorReason : String
  failureMetadata : StringMap
  retryCount : Nat
  deadLettered : Bool

structure CancelTaskRequest where
  taskId : Option ProtoId
  reason : String
  metadata : StringMap
  leaseId : Option ProtoId
  workerId : Option ProtoId

structure CancelTaskResponse where
  taskId : Option ProtoId
  status : String
  reason : String
  canceled : Bool

def normalizeLeaseDurationMs (durationMs : Int) (config : Config) : Int :=
  if durationMs ≤ 0 then config.leaseDefaultTtlMs else durationMs

def heartbeat (runtime : Runtime) (authorization : Option String) (nowMs : Int) (request : HeartbeatRequest) :
    Rpc HeartbeatResponse := do
  attempt (enter runtime authorization)
  let taskId ← attempt (parseRequiredTaskId request.taskId)
  let leaseId ← attempt (parseRequiredLeaseId request.leaseId)
  let workerId ← attempt (parseRequiredAgentId request.workerId)
  let leaseDurationMs := normalizeLeaseDurationMs request.leaseDurationMs.toInt runtime.config
  let newExpiresAtMs := saturatingAddI64 nowMs leaseDurationMs
  let renewed ← inStore (Sqlite.renewLease taskId leaseId workerId nowMs newExpiresAtMs)
  pure { leaseId := some (protoId renewed.leaseId), expiresAtMs := renewed.expiresAtMs }

def parseLowercaseDigest (value : String) : Except Status Digest := do
  let digest ← invalidValue (Digest.new value)
  if value ≠ digest.value then
    throw (.invalidArgument "artifact sha256 must be lowercase hexadecimal without surrounding whitespace")
  return digest

theorem parseLowercaseDigest_ok {value : String} {digest : Digest} (parsed : parseLowercaseDigest value = .ok digest) :
    digest.value = value := by
  obtain ⟨candidate, _, checked⟩ := except_bind_ok.mp parsed
  by_cases same : value = candidate.value
  · rw [if_neg (not_not.mpr same)] at checked
    cases checked
    exact same.symm
  · rw [if_pos same] at checked
    cases checked

def artifactLimitExceeded : Status := ⟨.resourceExhausted, "result artifact bytes exceed cross-node limit"⟩

def TaskArtifact.withContent (artifact : TaskArtifact) (digest : Digest) : ResultArtifact where
  path := artifact.path
  mediaType := artifact.mediaType
  metadata := artifact.metadata
  artifactId := none
  sha256 := digest.value
  byteLen := artifact.byteLen
  content := artifact.content
  contentPresent := true

def TaskArtifact.descriptor (artifact : TaskArtifact) : ResultArtifact where
  path := artifact.path
  mediaType := artifact.mediaType
  metadata := artifact.metadata
  artifactId := none
  sha256 := ""
  byteLen := 0
  content := []
  contentPresent := false

/-- The loop over the artifacts, with the bytes seen so far and the artifacts already accepted. -/
def validateArtifactsFrom [Sha256] (aggregateLen : Nat) (hasContent : Bool) (result : List ResultArtifact) :
    List TaskArtifact → Except Status (List ResultArtifact × Bool)
  | [] => .ok (result, hasContent)
  | artifact :: artifacts =>
    if artifact.contentPresent then do
      let declaredDigest ← parseLowercaseDigest artifact.sha256
      let actualLen := artifact.content.length
      if artifact.byteLen.toNat ≠ actualLen then
        throw (.invalidArgument "artifact byte_len does not match content length")
      if declaredDigest ≠ Digest.compute artifact.content then
        throw (.invalidArgument "artifact sha256 does not match content")
      -- The bound on the sum is below the largest 64-bit number, so the overflow check adds nothing.
      if maxCrossNodeResultArtifactBytes < aggregateLen + actualLen then throw artifactLimitExceeded
      validateArtifactsFrom (aggregateLen + actualLen) true
        (result ++ [artifact.withContent declaredDigest]) artifacts
    else if artifact.content ≠ [] ∨ artifact.sha256 ≠ "" ∨ artifact.byteLen ≠ 0 then
      .error (.invalidArgument "descriptor-only artifact must not include content, sha256, or byte_len")
    else
      validateArtifactsFrom aggregateLen hasContent (result ++ [artifact.descriptor]) artifacts

def validateWorkerResultArtifacts [Sha256] (artifacts : List TaskArtifact) :
    Except Status (List ResultArtifact × Bool) :=
  validateArtifactsFrom 0 false [] artifacts

def returnPeerForTask (taskId : TaskId) (db : Sqlite.Db) : Option PeerId :=
  (db.transportContexts.find taskId).bind (·.authenticatedSenderPeerId)

def authenticatedSourceFeaturesMetadataKey : String := "keryx.authenticated_source_protocol_features"

def resultArtifactBytesFeature : String := "result_artifact_bytes_v1"

section
variable [Decoders]

def authenticatedSourceFeaturesForTask (taskId : TaskId) (db : Sqlite.Db) : Except Status (List String) := do
  let record ← (db.getTaskEnvelope taskId).mapError storeErrorToStatus
  let envelope ← (Decoders.taskEnvelope record.encodedEnvelope).mapError
    (fun error => .dataLoss ("invalid stored task envelope: " ++ error))
  match envelope.metadata.find authenticatedSourceFeaturesMetadataKey with
  | none => return []
  | some entry =>
    (Decoders.textList entry.2).mapError
      (fun error => .dataLoss ("invalid authenticated source feature snapshot: " ++ error))

/-- A peer that is to receive bytes must have announced that it takes them. -/
def ensureReturnPeerTakesContent (taskId : TaskId) (hasContent : Bool) (db : Sqlite.Db) : Except Status Unit :=
  match hasContent, returnPeerForTask taskId db with
  | true, some returnPeerId => do
    let sourceFeatures ← authenticatedSourceFeaturesForTask taskId db
    if resultArtifactBytesFeature ∉ sourceFeatures then
      throw (.failedPrecondition
        (s!"destination peer {returnPeerId.value} did not advertise protocol feature " ++
          s!"{resultArtifactBytesFeature} when the task was accepted"))
  | _, _ => .ok ()

def storedCorrelationId (taskId : TaskId) (db : Sqlite.Db) : Option ProtoId :=
  ((db.envelopes.find taskId).bind (fun record => (Decoders.taskEnvelope record.encodedEnvelope).toOption)).bind
    (·.correlationId)

variable [Sha256]

def buildTerminalResult (executor : PeerId) (taskId : TaskId) (outcome : TerminalOutcome) (durationMs : Int64)
    (errorReason : String) (resultMetadata : StringMap) (artifacts : List TaskArtifact) (nowMs : Int)
    (db : Sqlite.Db) : Except Status TaskResultEnvelope := do
  let (outputArtifacts, hasContent) ← validateWorkerResultArtifacts artifacts
  return {
    protocolVersion := if hasContent then 2 else 1
    taskId := some (protoId taskId)
    correlationId := storedCorrelationId taskId db
    outcome := outcome.asI32
    executorPeerId := executor.value
    durationMs
    completedAtMs := Int64.ofInt nowMs
    errorReason
    resultMetadata
    outputArtifacts }

def terminalResultRecord (config : Config) (taskId : TaskId) (terminalStatus : TaskStatus)
    (result : TaskResultEnvelope) (db : Sqlite.Db) : TerminalResultRecord :=
  { taskId, encodedResult := result.encodeToVec, terminalStatus, returnPeerId := returnPeerForTask taskId db,
    executorPeerId := config.localPeerId, createdAtMs := result.completedAtMs.toInt }

def completeTask (runtime : Runtime) (authorization : Option String) (nowMs : Int) (request : CompleteTaskRequest) :
    Rpc CompleteTaskResponse := do
  attempt (enter runtime authorization)
  let taskId ← attempt (parseRequiredTaskId request.taskId)
  let leaseId ← attempt (parseRequiredLeaseId request.leaseId)
  let workerId ← attempt (parseRequiredAgentId request.workerId)
  let (_, hasContent) ← attempt (validateWorkerResultArtifacts request.outputArtifacts)
  consult (ensureReturnPeerTakesContent taskId hasContent)
  let result ← consult (buildTerminalResult runtime.config.localPeerId taskId .completed request.durationMs ""
    request.resultMetadata request.outputArtifacts nowMs)
  let stored ← observe (terminalResultRecord runtime.config taskId .completed result)
  let task ← inStore (Sqlite.completeTaskWithResult taskId leaseId workerId stored)
  pure {
    taskId := some (protoId task.id)
    status := taskStatusLabel task.status
    durationMs := request.durationMs
    resultMetadata := request.resultMetadata
    outputArtifacts := request.outputArtifacts }

def failTask (runtime : Runtime) (authorization : Option String) (nowMs : Int) (request : FailTaskRequest) :
    Rpc FailTaskResponse := do
  attempt (enter runtime authorization)
  let taskId ← attempt (parseRequiredTaskId request.taskId)
  let leaseId ← attempt (parseRequiredLeaseId request.leaseId)
  let workerId ← attempt (parseRequiredAgentId request.workerId)
  let result ← consult (buildTerminalResult runtime.config.localPeerId taskId .failed request.durationMs
    request.errorReason request.failureMetadata [] nowMs)
  let stored ← observe (terminalResultRecord runtime.config taskId .failed result)
  let task ← inStore (Sqlite.failTaskWithResult taskId leaseId workerId request.errorReason
    runtime.config.failRetryPolicy stored)
  pure {
    taskId := some (protoId task.id)
    status := taskStatusLabel task.status
    durationMs := request.durationMs
    errorReason := request.errorReason
    failureMetadata := request.failureMetadata
    retryCount := task.retryCount
    deadLettered := task.deadLettered }

end

def normalizedCancelReason (reason : String) : String :=
  if trim reason = "" then "canceled by request" else trim reason

structure Cancellation where
  taskId : TaskId
  leaseId : Option LeaseId
  workerId : Option AgentId
  reason : String
  metadata : StringMap

def parseCancellation (runtime : Runtime) (authorization : Option String) (request : CancelTaskRequest) :
    Except Status Cancellation := do
  enter runtime authorization
  let taskId ← parseRequiredTaskId request.taskId
  let leaseId ← parseOptionalLeaseId request.leaseId
  let workerId ← parseOptionalAgentId request.workerId
  return { taskId, leaseId, workerId, reason := normalizedCancelReason request.reason, metadata := request.metadata }

def Cancellation.result (cancellation : Cancellation) (config : Config) (nowMs : Int) : TaskResultEnvelope where
  protocolVersion := 2
  taskId := some (protoId cancellation.taskId)
  correlationId := none
  outcome := TerminalOutcome.canceled.asI32
  executorPeerId := config.localPeerId.value
  durationMs := 0
  completedAtMs := Int64.ofInt nowMs
  errorReason := cancellation.reason
  resultMetadata := cancellation.metadata
  outputArtifacts := []

def canceledResponse (taskId : TaskId) (reason : String) : CancelTaskResponse where
  taskId := some (protoId taskId)
  status := "canceled"
  reason := reason
  canceled := true

/-- A task that another executor is expected to run is not canceled here. -/
def ensureLocalCancellation (config : Config) (taskId : TaskId) (db : Sqlite.Db) : Except Status Unit :=
  let expected := (db.transportContexts.find taskId).bind (·.expectedExecutorPeerId)
  if expected.all (fun peer => peer = config.localPeerId) then .ok ()
  else .error (.failedPrecondition "cross-node cancellation is unavailable; remote-target tasks fail closed")

section
variable [Decoders]

/-- The answer that a stored cancellation gives to every further request. -/
def existingCanceledResponse (taskId : TaskId) (db : Sqlite.Db) : Except Status (Option CancelTaskResponse) :=
  match db.terminalResults.find taskId with
  | none => .ok none
  | some stored => do
    let result ← (Decoders.taskResultEnvelope stored.encodedResult).mapError
      (fun error => .dataLoss (s!"stored terminal result for task {taskId.value} is invalid: " ++ error))
    if result.outcome ≠ TerminalOutcome.canceled.asI32 then return none
    return some (canceledResponse taskId result.errorReason)

def cancelTask (runtime : Runtime) (authorization : Option String) (nowMs : Int) (request : CancelTaskRequest) :
    Rpc CancelTaskResponse := do
  let cancellation ← attempt (parseCancellation runtime authorization request)
  consult (ensureLocalCancellation runtime.config cancellation.taskId)
  let existing ← consult (existingCanceledResponse cancellation.taskId)
  match existing with
  | some response => pure response
  | none =>
    let stored ← observe
      (terminalResultRecord runtime.config cancellation.taskId .failed (cancellation.result runtime.config nowMs))
    let outcome ← settle (Sqlite.cancelTaskWithResult cancellation.taskId cancellation.leaseId cancellation.workerId
      nowMs stored)
    match outcome with
    | .ok task => pure (canceledResponse task.id cancellation.reason)
    | .error error =>
      let repeated ← observe (existingCanceledResponse cancellation.taskId)
      match repeated with
      | .ok (some response) => pure response
      | _ => attempt (.error (storeErrorToStatus error))

end

end Keryx.Daemon
