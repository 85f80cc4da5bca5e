import Keryx.Store.Sqlite.Operations

/-! Terminal results, transport contexts and the ingest of remote results. -/

namespace Keryx.Store.Sqlite
open Keryx.Core Relational Relational.Transaction

variable (taskId : TaskId)

/-- The proofs a caller must bring to cancel a running task. -/
def ensureCancellationProof (status : TaskStatus) (leaseId : Option LeaseId)
    (workerId : Option AgentId) (nowMs : Int) : Tx Unit :=
  if status = .running then do
    let active ← fetchActiveLease taskId
    let leaseId ← require leaseId (.cancellationLeaseProofRequired taskId)
    let workerId ← require workerId (.cancellationLeaseProofRequired taskId)
    check (ensureMatchingLeaseId taskId active leaseId)
    check (ensureMatchingWorkerId taskId active workerId)
    check (ensureActiveLeaseUnexpired active nowMs)
  else pure ()

def cancelTaskWithResult (leaseId : Option LeaseId) (workerId : Option AgentId) (nowMs : Int)
    (result : TerminalResultRecord) : Tx TaskRecord := do
  check (ensureResultTask result taskId)
  check result.validate
  let task ← fetchTask taskId
  ensureCancellationProof taskId task.status leaseId workerId nowMs
  let transition ← check (validated (validateCancelTransition task.status))
  let existing ← query (fun db => db.terminalResults.find taskId)
  ensure (existing = none) (.terminalResultConflict taskId)
  ensure (result.terminalStatus = transition.toStatus) (.terminalResultNotTerminal taskId)
  let sequence ← query (Db.nextSequence taskId)
  execute (Db.deactivateLeaseForTask taskId)
  execute (Db.updateTaskStatus taskId transition.toStatus)
  insertEvent taskId sequence transition.eventType (some transition.fromStatus) transition.toStatus
  execute (Db.insertTerminalResultAndOutbox result)
  fetchTask taskId

def completeTaskWithResult (leaseId : LeaseId) (workerId : AgentId)
    (result : TerminalResultRecord) : Tx TaskRecord := do
  check (ensureResultTask result taskId)
  let existing ← query (fun db => db.terminalResults.find taskId)
  match existing with
  | some existing =>
    if existing = result then fetchTask taskId else reject (.terminalResultConflict taskId)
  | none =>
    let task ← fetchTask taskId
    let updated ←
      finishTaskInTx taskId leaseId workerId .completed task.retryCount task.deadLettered task.deadLetterReason
    execute (Db.insertTerminalResultAndOutbox result)
    pure updated

def failTaskWithResult (leaseId : LeaseId) (workerId : AgentId) (errorReason : String)
    (policy : RetryPolicy) (result : TerminalResultRecord) : Tx TaskRecord := do
  check (ensureResultTask result taskId)
  let existing ← query (fun db => db.terminalResults.find taskId)
  match existing with
  | some existing =>
    if existing = result then fetchTask taskId else reject (.terminalResultConflict taskId)
  | none =>
    let task ← fetchTask taskId
    let _ ← fetchOwnedLease taskId leaseId workerId
    if policy.maxRetries = 0 then
      let updated ← finishTaskInTx taskId leaseId workerId .failed task.retryCount false none
      execute (Db.insertTerminalResultAndOutbox result)
      pure updated
    else if policy.shouldRetryAfterFailure task.retryCount then retryTaskInTx taskId task
    else
      let updated ← deadLetterTaskInTx taskId task errorReason
      execute (Db.insertTerminalResultAndOutbox result)
      pure updated

def putTransportContext (context : TaskTransportContextRecord) : Tx TaskTransportContextRecord := do
  let _ ← fetchTask context.taskId
  let existing ← query (fun db => db.transportContexts.find context.taskId)
  match existing with
  | some existing =>
    if existing = context then pure existing else reject (.transportContextConflict context.taskId)
  | none =>
    execute (Db.insertTransportContext context)
    pure context

/-- Whether a stored receipt lets another one in, and whether it is the same one. -/
def receiptAdmits (context : TaskTransportContextRecord) (authenticatedSourcePeerId : PeerId) (frameId : String)
    (acceptedAtMs : Int) : StoreResult Bool :=
  match context.relayFrameId with
  | none => .ok false
  | some existingFrameId =>
    if existingFrameId = frameId ∧ context.authenticatedSenderPeerId = some authenticatedSourcePeerId ∧
        context.receivedAtMs = acceptedAtMs then .ok true
    else if context.authenticatedSenderPeerId ≠ some authenticatedSourcePeerId then
      .error (.transportContextConflict context.taskId)
    else .ok false

def recordRelayReceipt (authenticatedSourcePeerId acceptedDestinationPeerId : PeerId)
    (relayFrameId : String) (acceptedAtMs : Int) : Tx TaskTransportContextRecord := do
  let frameId := trim relayFrameId
  ensure (frameId ≠ "") (.transportContextConflict taskId)
  let stored ← query (fun db => db.transportContexts.find taskId)
  let context ← require stored (.transportContextNotFound taskId)
  ensure (context.expectedExecutorPeerId = some acceptedDestinationPeerId ∧
      context.destinationPeerId = acceptedDestinationPeerId) (.transportContextConflict taskId)
  let same ← check (receiptAdmits context authenticatedSourcePeerId frameId acceptedAtMs)
  if same then pure context
  else
    let updated : TaskTransportContextRecord :=
      { context with
        authenticatedSenderPeerId := some authenticatedSourcePeerId
        relayFrameId := some frameId
        receivedAtMs := acceptedAtMs }
    execute (Db.insertTransportContext updated)
    pure updated

end Keryx.Store.Sqlite
