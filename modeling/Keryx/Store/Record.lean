import Keryx.Core.Task
import Keryx.Core.Artifact

/-! Rows of the task store, its errors, and the checks its operations share. -/

namespace Keryx.Store
open Keryx.Core

structure TaskRecord where
  id : TaskId
  status : TaskStatus
  idempotencyKey : Option IdempotencyKey
  deadlineMs : Option Int
  retryCount : Nat
  deadLettered : Bool
  deadLetterReason : Option String
deriving DecidableEq

def TaskRecord.new (id : TaskId) (status : TaskStatus) (idempotencyKey : Option IdempotencyKey) : TaskRecord :=
  { id, status, idempotencyKey, deadlineMs := none, retryCount := 0, deadLettered := false,
    deadLetterReason := none }

variable (task : TaskRecord)

def TaskRecord.retried : TaskRecord :=
  { task with
    status := .pending, retryCount := saturatingAddU32 task.retryCount 1, deadLettered := false
    deadLetterReason := none }

def TaskRecord.exhausted (reason : String) : TaskRecord :=
  { task with
    status := .failed, retryCount := saturatingAddU32 task.retryCount 1, deadLettered := true
    deadLetterReason := some reason }

structure TaskEnvelopeRecord where
  taskId : TaskId
  encodedEnvelope : Bytes
  receivedAtMs : Int
deriving DecidableEq

structure PendingTaskEnvelope where
  task : TaskRecord
  envelope : TaskEnvelopeRecord
deriving DecidableEq

structure TaskEventRecord where
  taskId : TaskId
  sequence : Nat
  eventType : KeryxEventType
  fromStatus : Option TaskStatus
  toStatus : TaskStatus
deriving DecidableEq

structure LeaseRecord where
  leaseId : LeaseId
  taskId : TaskId
  workerId : Option AgentId
  leasedAtMs : Int
  expiresAtMs : Int
deriving DecidableEq

structure RecoveryReport where
  recoveredTasks : List TaskRecord
  cleanedTerminalLeases : Nat
  corruptedTasks : List TaskId
deriving DecidableEq

structure ArtifactRecord where
  artifactId : ArtifactId
  taskId : TaskId
  digest : Digest
  mediaType : String
  byteLen : Nat
  inlined : Bool
  createdAt : String
deriving DecidableEq

structure TaskTransportContextRecord where
  taskId : TaskId
  authenticatedSenderPeerId : Option PeerId
  expectedExecutorPeerId : Option PeerId
  destinationPeerId : PeerId
  relayFrameId : Option String
  receivedAtMs : Int
deriving DecidableEq

structure TerminalResultRecord where
  taskId : TaskId
  encodedResult : Bytes
  terminalStatus : TaskStatus
  returnPeerId : Option PeerId
  executorPeerId : PeerId
  createdAtMs : Int
deriving DecidableEq

/-- An artifact of a remote result with the bytes that arrived for it. -/
structure OriginResultArtifact where
  ordinal : Nat
  artifactMeta : ArtifactMeta
  content : Bytes
deriving DecidableEq

inductive ResultDeliveryState where
  | pending | leased | delivered | deadLettered
deriving DecidableEq, Repr

structure ResultOutboxRecord where
  deliveryId : String
  taskId : TaskId
  targetPeerId : PeerId
  state : ResultDeliveryState
  attemptCount : Nat
  nextAttemptAtMs : Int
  leaseOwner : Option String
  leaseExpiresAtMs : Option Int
  lastError : Option String
  createdAtMs : Int
  updatedAtMs : Int
deriving DecidableEq

inductive RemoteResultTerminalReason where
  | deadlineExpired | canceled
deriving DecidableEq, Repr

inductive RemoteResultIngestOutcome where
  | applied (task : TaskRecord)
  | duplicate (task : TaskRecord)
  | settledTerminal (task : TaskRecord) (reason : RemoteResultTerminalReason)
      (canonicalResult : Option TerminalResultRecord)
deriving DecidableEq

inductive StoreError where
  | taskNotFound (taskId : TaskId)
  | taskAlreadyExists (taskId : TaskId)
  | artifactNotFound (artifactId : ArtifactId)
  | artifactTooLarge (byteLen limitBytes : Nat)
  | digestMismatch (expected actual : String)
  | artifactLengthMismatch (declared actual : Nat)
  | originResultArtifactIdMismatch (taskId : TaskId) (ordinal : Nat)
  | originResultArtifactOrdinalMismatch (expected actual : Nat)
  | originResultArtifactTaskMismatch (taskId artifactTaskId : TaskId)
  | originResultArtifactConflict (artifactId : ArtifactId)
  | idempotencyConflict (key : IdempotencyKey) (existingTaskId : TaskId)
  | taskEnvelopeNotFound (taskId : TaskId)
  | taskEnvelopeMismatch (taskId envelopeTaskId : TaskId)
  | taskEnvelopeConflict (taskId : TaskId)
  | transportContextNotFound (taskId : TaskId)
  | transportContextConflict (taskId : TaskId)
  | taskExecutorMismatch (taskId : TaskId) (expected actual : PeerId)
  | transportContextTaskMismatch (taskId contextTaskId : TaskId)
  | terminalResultNotFound (taskId : TaskId)
  | terminalResultConflict (taskId : TaskId)
  | terminalResultTaskMismatch (taskId resultTaskId : TaskId)
  | terminalResultNotTerminal (taskId : TaskId)
  | resultDeliveryLeaseMismatch (deliveryId : String)
  | remoteResultExecutorMismatch (taskId : TaskId) (expected actual : PeerId)
  | remoteResultTerminalArtifactsRejected (taskId : TaskId) (reason : RemoteResultTerminalReason)
  | validation (error : ValidationError)
  | unrepairedCorruption (corruptedTasks : List TaskId)
  | corruptEventStream (taskId : TaskId)
  | leaseNotFound (taskId : TaskId)
  | leaseConflict (taskId : TaskId)
  | taskDeadlineExpired (taskId : TaskId) (deadlineMs attemptedLeaseAtMs : Int)
  | cancellationLeaseProofRequired (taskId : TaskId)
  | leaseMismatch (taskId : TaskId) (leaseId : LeaseId)
  | leaseOwnerMismatch (taskId : TaskId) (workerId : AgentId)
  | leaseOwnerMissing (taskId : TaskId) (leaseId : LeaseId)
  | invalidLeaseExpiry (leaseId : LeaseId) (currentExpiresAtMs requestedExpiresAtMs nowMs : Int)
  | database (message : String)
deriving DecidableEq

abbrev StoreResult (α : Type) := Except StoreError α

def validated {α : Type} (outcome : Except ValidationError α) : StoreResult α :=
  outcome.mapError .validation

@[simp] theorem validated_ok {α : Type} {outcome : Except ValidationError α} {value : α} :
    validated outcome = .ok value ↔ outcome = .ok value := by
  cases outcome <;> simp [validated, Except.mapError]

def demand (condition : Prop) [Decidable condition] (failure : StoreError) : StoreResult Unit :=
  if condition then .ok () else .error failure

@[simp] theorem demand_ok {condition : Prop} [Decidable condition] {failure : StoreError} {done : Unit} :
    demand condition failure = .ok done ↔ condition := by
  unfold demand
  split <;> simp_all

@[simp] def validateAcceptedTaskStatus : StoreResult Unit :=
  demand (task.status = .pending) (.validation (.invalidTaskTransition .pending task.status))

@[simp] def ensurePendingAccept : StoreResult Unit :=
  demand (task.status = .pending) (.validation (.invalidTaskTransition task.status .pending))

@[simp] def ensureMatchingEnvelopeTaskId (envelope : TaskEnvelopeRecord) : StoreResult Unit :=
  demand (task.id = envelope.taskId) (.taskEnvelopeMismatch task.id envelope.taskId)

@[simp] def ensureMatchingTaskId (taskId : TaskId) (lease : LeaseRecord) : StoreResult Unit :=
  demand (lease.taskId = taskId)
    (.database ("lease task id mismatch: expected " ++ taskId.value ++ ", got " ++ lease.taskId.value))

@[simp] def ensureLeaseHasOwner (lease : LeaseRecord) : StoreResult Unit :=
  demand (lease.workerId.isSome = true) (.leaseOwnerMissing lease.taskId lease.leaseId)

@[simp] def requireStatus (current required : TaskStatus) : StoreResult Unit :=
  demand (current = required)
    (.validation (if current.isTerminal then .terminalTaskTransition current required
      else .invalidTaskTransition current required))

@[simp] def ensureMatchingLeaseId (taskId : TaskId) (active : LeaseRecord) (leaseId : LeaseId) : StoreResult Unit :=
  demand (active.leaseId = leaseId) (.leaseMismatch taskId leaseId)

@[simp] def ensureMatchingWorkerId (taskId : TaskId) (active : LeaseRecord) (workerId : AgentId) : StoreResult Unit :=
  demand (active.workerId = some workerId)
    (if active.workerId.isSome then .leaseOwnerMismatch taskId workerId else .leaseOwnerMissing taskId active.leaseId)

@[simp] def ensureValidLeaseExpiry (active : LeaseRecord) (nowMs newExpiresAtMs : Int) : StoreResult Unit :=
  demand (nowMs < active.expiresAtMs ∧ nowMs < newExpiresAtMs ∧ active.expiresAtMs < newExpiresAtMs)
    (.invalidLeaseExpiry active.leaseId active.expiresAtMs newExpiresAtMs nowMs)

@[simp] def ensureActiveLeaseUnexpired (active : LeaseRecord) (nowMs : Int) : StoreResult Unit :=
  ensureValidLeaseExpiry active nowMs (saturatingAddI64 active.expiresAtMs 1)

def validateDeadlineTransition (fromStatus : TaskStatus) : StoreResult Unit :=
  match fromStatus with
  | .pending | .running => .ok ()
  | .completed | .failed => .error (.validation (.terminalTaskTransition fromStatus .failed))

inductive LegacyAppendPlan where
  | lifecycle (transition : TaskTransition)
  | operational (eventType : KeryxEventType) (status : TaskStatus)
deriving DecidableEq

def planLegacyEventAppend (fromStatus : TaskStatus) (legacyEvent : LegacyEventType) : StoreResult LegacyAppendPlan :=
  match normalizeLegacyTransition fromStatus legacyEvent with
  | some transition => .ok (.lifecycle transition)
  | none =>
    if isValidOperationalLegacy fromStatus legacyEvent then
      .ok (.operational legacyEvent.asKeryxEventType fromStatus)
    else .error (.validation (.invalidTaskTransition fromStatus fromStatus))

variable (result : TerminalResultRecord)

@[simp] def TerminalResultRecord.validate : StoreResult Unit :=
  demand (result.terminalStatus.isTerminal = true) (.terminalResultNotTerminal result.taskId)

def ensureResultTask (taskId : TaskId) : StoreResult Unit := do
  result.validate
  demand (result.taskId = taskId) (.terminalResultTaskMismatch taskId result.taskId)

@[simp] def ensureContextTask (context : TaskTransportContextRecord) (taskId : TaskId) : StoreResult Unit :=
  demand (context.taskId = taskId) (.transportContextTaskMismatch taskId context.taskId)

def sameDeliveredEnvelope (left right : TaskEnvelopeRecord) : Bool :=
  left.taskId = right.taskId && left.encodedEnvelope = right.encodedEnvelope

def sameTransportIdentity (left right : TaskTransportContextRecord) : Bool :=
  left.taskId = right.taskId && left.authenticatedSenderPeerId = right.authenticatedSenderPeerId &&
    left.expectedExecutorPeerId = right.expectedExecutorPeerId && left.destinationPeerId = right.destinationPeerId

def deliveryId (taskId : TaskId) : String := "result-" ++ taskId.value

def makeOutbox : Option ResultOutboxRecord :=
  result.returnPeerId.map fun target =>
    { deliveryId := deliveryId result.taskId, taskId := result.taskId, targetPeerId := target, state := .pending,
      attemptCount := 0, nextAttemptAtMs := result.createdAtMs, leaseOwner := none, leaseExpiresAtMs := none,
      lastError := none, createdAtMs := result.createdAtMs, updatedAtMs := result.createdAtMs }

def artifactRecordFromMeta (source : ArtifactMeta) (digest : Digest) (byteLen : Nat) : ArtifactRecord :=
  { artifactId := source.artifactId, taskId := source.taskId, digest, mediaType := source.mediaType, byteLen,
    inlined := shouldInline byteLen, createdAt := source.createdAt }

@[simp] theorem validateDeadlineTransition_ok {fromStatus : TaskStatus} {done : Unit} :
    validateDeadlineTransition fromStatus = .ok done ↔ fromStatus.isTerminal = false := by
  cases fromStatus <;> simp [validateDeadlineTransition, TaskStatus.isTerminal]

@[simp] theorem ensureResultTask_ok {result : TerminalResultRecord} {taskId : TaskId} {done : Unit} :
    ensureResultTask result taskId = .ok done ↔ result.terminalStatus.isTerminal = true ∧ result.taskId = taskId := by
  by_cases terminal : result.terminalStatus.isTerminal = true <;> by_cases same : result.taskId = taskId <;>
    simp [ensureResultTask, demand, terminal, same, bind, Except.bind]

theorem planLegacyEventAppend_cases {fromStatus : TaskStatus} {legacyEvent : LegacyEventType} {plan : LegacyAppendPlan}
    (planned : planLegacyEventAppend fromStatus legacyEvent = .ok plan) :
    (∃ transition, plan = .lifecycle transition ∧
        validateTransition fromStatus transition.toStatus = .ok transition) ∨
      (fromStatus = .pending ∧ legacyEvent = .taskApprovalDenied ∧
        plan = .lifecycle ⟨.pending, .failed, .taskFailed⟩) ∨
      (isValidOperationalLegacy fromStatus legacyEvent = true ∧
        plan = .operational legacyEvent.asKeryxEventType fromStatus) := by
  unfold planLegacyEventAppend at planned
  split at planned
  · rename_i transition normalized
    cases planned
    rcases normalizeLegacyTransition_cases normalized with ⟨_, legal⟩ | ⟨rfl, rfl, rfl⟩
    · exact Or.inl ⟨transition, rfl, legal⟩
    · exact Or.inr (Or.inl ⟨rfl, rfl, rfl⟩)
  · split at planned
    · rename_i valid
      cases planned
      exact Or.inr (Or.inr ⟨valid, rfl⟩)
    · cases planned

end Keryx.Store
