import Keryx.Store.Sqlite.State

/-! The task operations of the SQLite store, each the body of one transaction. -/

namespace Keryx.Store.Sqlite
open Keryx.Core Relational Relational.Transaction

variable (task : TaskRecord)

def Db.idempotencyRow (db : Db) : Option IdempotencyRow :=
  task.idempotencyKey.bind db.idempotencyKeys.find

def insertAcceptedTask : Tx Unit := do
  execute (Db.insertTask task)
  execute (Db.insertIdempotencyKey task.idempotencyKey task.id)
  insertEvent task.id 1 .taskAccepted none task.status

def Db.insertAccepted (db : Db) : Db :=
  ((db.insertTask task).insertIdempotencyKey task.idempotencyKey task.id).appendEvent task.id .taskAccepted none
    task.status

@[simp] theorem insertAcceptedTask_bind {α : Type} {db : Db} {task : TaskRecord} {rest : Unit → Tx α}
    {result : α × Db} :
    (insertAcceptedTask task >>= rest) db = .ok result ↔
      1 = db.nextSequence task.id ∧ rest () (db.insertAccepted task) = .ok result := by
  simp [insertAcceptedTask, bind_assoc, Db.insertAccepted]

def acceptTask : Tx TaskRecord := do
  check (validateAcceptedTaskStatus task)
  check (ensurePendingAccept task)
  let keyRow ← query (Db.idempotencyRow task)
  match keyRow with
  | some row =>
    let existing ← fetchTask row.taskId
    if existing = task then pure existing else reject (.idempotencyConflict row.key row.taskId)
  | none =>
    let existing ← query (fun db => db.tasks.find task.id)
    ensure (existing = none) (.taskAlreadyExists task.id)
    insertAcceptedTask task
    pure task

def acceptTaskWithEnvelope (envelope : TaskEnvelopeRecord) : Tx TaskRecord := do
  check (validateAcceptedTaskStatus task)
  check (ensurePendingAccept task)
  check (ensureMatchingEnvelopeTaskId task envelope)
  let keyRow ← query (Db.idempotencyRow task)
  match keyRow with
  | some row =>
    let existing ← fetchTask row.taskId
    if existing = task then
      let existingEnvelope ← query (fun db => db.envelopes.find row.taskId)
      ensure (existingEnvelope = some envelope) (.taskEnvelopeConflict row.taskId)
      pure existing
    else reject (.idempotencyConflict row.key row.taskId)
  | none =>
    let existing ← query (fun db => db.tasks.find task.id)
    ensure (existing = none) (.taskAlreadyExists task.id)
    insertAcceptedTask task
    execute (Db.insertEnvelope envelope)
    pure task

/-- A redelivery under another relay frame replaces the frame id and its time. -/
def Db.updateRelayFrame (context : TaskTransportContextRecord) (db : Db) : Db :=
  { db with
    transportContexts :=
      db.transportContexts.update context.taskId
        (fun stored =>
          if stored.relayFrameId ≠ context.relayFrameId then
            { stored with relayFrameId := context.relayFrameId, receivedAtMs := context.receivedAtMs }
          else stored)
        (fun stored => by split <;> rfl) }

def acceptTaskWithEnvelopeAndContext (envelope : TaskEnvelopeRecord)
    (context : TaskTransportContextRecord) : Tx TaskRecord := do
  check (validateAcceptedTaskStatus task)
  check (ensurePendingAccept task)
  check (ensureMatchingEnvelopeTaskId task envelope)
  check (ensureContextTask context task.id)
  let existing ← query (fun db => db.tasks.find task.id)
  match existing with
  | some existing =>
    let existingEnvelope ← query (fun db => db.envelopes.find task.id)
    let existingContext ← query (fun db => db.transportContexts.find task.id)
    ensure (existing = task ∧ existingEnvelope.any (fun stored => sameDeliveredEnvelope stored envelope) ∧
        existingContext.any (fun stored => sameTransportIdentity stored context))
      (.transportContextConflict task.id)
    execute (Db.updateRelayFrame context)
    pure existing
  | none =>
    let keyRow ← query (Db.idempotencyRow task)
    match keyRow with
    | some row => reject (.idempotencyConflict row.key row.taskId)
    | none =>
      insertAcceptedTask task
      execute (Db.insertEnvelope envelope)
      execute (Db.insertTransportContext context)
      pure task

variable (taskId : TaskId)

/-- The executor a task is bound to must be the local peer, when the caller names one. -/
def ensureLocalExecutor (context : Option TaskTransportContextRecord)
    (localPeerId : Option PeerId) : StoreResult Unit :=
  match localPeerId, context.bind (·.expectedExecutorPeerId) with
  | some localPeer, some expected =>
    if expected = localPeer then .ok () else .error (.taskExecutorMismatch taskId expected localPeer)
  | _, _ => .ok ()

/-- A lease past the deadline commits the time-out and still reports an error. -/
def leaseTaskWithPeerGuard (lease : LeaseRecord) (localPeerId : Option PeerId) :
    Tx (StoreResult TaskRecord) := do
  check (ensureMatchingTaskId taskId lease)
  check (ensureLeaseHasOwner lease)
  let context ← query (fun db => db.transportContexts.find taskId)
  check (ensureLocalExecutor taskId context localPeerId)
  let task ← fetchTask taskId
  let active ← query (fun db => db.activeLease taskId)
  ensure (active = none) (.leaseConflict taskId)
  match task.deadlineMs.filter (· ≤ lease.leasedAtMs) with
  | some deadlineMs =>
    check (validateDeadlineTransition task.status)
    let sequence ← query (Db.nextSequence taskId)
    execute (Db.updateTaskStatus taskId .failed)
    insertEvent taskId sequence .taskTimedOut (some task.status) .failed
    pure (.error (.taskDeadlineExpired taskId deadlineMs lease.leasedAtMs))
  | none =>
    let transition ← check (validated (validateTransition task.status .running))
    let sequence ← query (Db.nextSequence taskId)
    execute (Db.replaceLease lease)
    execute (Db.updateTaskStatus taskId .running)
    insertEvent taskId sequence transition.eventType (some transition.fromStatus) transition.toStatus
    let updated ← fetchTask taskId
    pure (.ok updated)

def renewLease (taskId : TaskId) (leaseId : LeaseId) (workerId : AgentId) (nowMs newExpiresAtMs : Int) :
    Tx LeaseRecord := do
  let task ← fetchTask taskId
  check (requireStatus task.status .running)
  let active ← fetchActiveLease taskId
  check (ensureMatchingLeaseId taskId active leaseId)
  check (ensureMatchingWorkerId taskId active workerId)
  check (ensureValidLeaseExpiry active nowMs newExpiresAtMs)
  execute (Db.renewLease taskId leaseId workerId newExpiresAtMs)
  pure { active with expiresAtMs := newExpiresAtMs }

variable (leaseId : LeaseId) (workerId : AgentId)

def finishTaskInTx (toStatus : TaskStatus)
    (retryCount : Nat) (deadLettered : Bool) (deadLetterReason : Option String) : Tx TaskRecord := do
  let task ← fetchTask taskId
  let active ← fetchActiveLease taskId
  check (ensureMatchingLeaseId taskId active leaseId)
  check (ensureMatchingWorkerId taskId active workerId)
  let transition ← check (validated (validateTransition task.status toStatus))
  let sequence ← query (Db.nextSequence taskId)
  execute (Db.deactivateLeaseForTask taskId)
  execute (Db.updateTaskMetadata taskId toStatus retryCount deadLettered deadLetterReason)
  insertEvent taskId sequence transition.eventType (some transition.fromStatus) transition.toStatus
  fetchTask taskId

def retryTaskInTx (task : TaskRecord) : Tx TaskRecord := do
  check (requireStatus task.status .running)
  let retryCount := saturatingAddU32 task.retryCount 1
  let sequence ← query (Db.nextSequence taskId)
  execute (Db.deactivateLeaseForTask taskId)
  execute (Db.updateTaskMetadata taskId .pending retryCount false none)
  insertEvent taskId sequence .recoveryAction (some .running) .pending
  fetchTask taskId

def deadLetterTaskInTx (task : TaskRecord) (reason : String) : Tx TaskRecord := do
  check (requireStatus task.status .running)
  let retryCount := saturatingAddU32 task.retryCount 1
  let transition ← check (validated (validateTransition task.status .failed))
  let sequence ← query (Db.nextSequence taskId)
  execute (Db.deactivateLeaseForTask taskId)
  execute (Db.updateTaskMetadata taskId .failed retryCount true (some reason))
  insertEvent taskId sequence .taskDeadLettered (some transition.fromStatus) transition.toStatus
  fetchTask taskId

def completeTask : Tx TaskRecord := do
  let task ← fetchTask taskId
  finishTaskInTx taskId leaseId workerId .completed task.retryCount task.deadLettered task.deadLetterReason

/-- The active lease, once the caller has shown that it is theirs. -/
def fetchOwnedLease : Tx LeaseRecord := do
  let active ← fetchActiveLease taskId
  check (ensureMatchingLeaseId taskId active leaseId)
  check (ensureMatchingWorkerId taskId active workerId)
  pure active

def failTask (errorReason : String) (policy : RetryPolicy) : Tx TaskRecord := do
  let task ← fetchTask taskId
  let _ ← fetchOwnedLease taskId leaseId workerId
  check (requireStatus task.status .running)
  if policy.maxRetries = 0 then
    finishTaskInTx taskId leaseId workerId .failed task.retryCount false none
  else if policy.shouldRetryAfterFailure task.retryCount then retryTaskInTx taskId task
  else deadLetterTaskInTx taskId task errorReason

def retryTask : Tx TaskRecord := do
  let task ← fetchTask taskId
  let _ ← fetchOwnedLease taskId leaseId workerId
  retryTaskInTx taskId task

def deadLetterTask (reason : String) :
    Tx TaskRecord := do
  let task ← fetchTask taskId
  let _ ← fetchOwnedLease taskId leaseId workerId
  deadLetterTaskInTx taskId task reason

/-- A running task is canceled only while its lease has not expired. -/
def ensureRunningLeaseUnexpired (status : TaskStatus) (nowMs : Int) : Tx Unit :=
  if status = .running then do
    let active ← fetchActiveLease taskId
    check (ensureActiveLeaseUnexpired active nowMs)
  else pure ()

def cancelTask (nowMs : Int) : Tx TaskRecord := do
  let task ← fetchTask taskId
  if task.status.isTerminal then pure task
  else
    ensureRunningLeaseUnexpired taskId task.status nowMs
    let transition ← check (validated (validateCancelTransition task.status))
    let sequence ← query (Db.nextSequence taskId)
    execute (Db.deactivateLeaseForTask taskId)
    execute (Db.updateTaskStatus taskId transition.toStatus)
    insertEvent taskId sequence transition.eventType (some transition.fromStatus) transition.toStatus
    fetchTask taskId

def Db.deactivateLeaseIfTerminal (toStatus : TaskStatus) (db : Db) : Db :=
  if toStatus.isTerminal then db.deactivateLeaseForTask taskId else db

def transitionTask (toStatus : TaskStatus) : Tx TaskRecord := do
  let task ← fetchTask taskId
  let transition ← check (validated (validateTransition task.status toStatus))
  let sequence ← query (Db.nextSequence taskId)
  execute (Db.deactivateLeaseIfTerminal taskId toStatus)
  execute (Db.updateTaskStatus taskId toStatus)
  insertEvent taskId sequence transition.eventType (some transition.fromStatus) transition.toStatus
  fetchTask taskId

def acceptLegacyEvent (eventType : KeryxEventType) : Tx TaskRecord := do
  let legacyEvent ← require (LegacyEventType.fromKeryxEventType eventType)
    (.validation (.invalidTaskTransition .pending .pending))
  let task ← fetchTask taskId
  let plan ← check (planLegacyEventAppend task.status legacyEvent)
  let sequence ← query (Db.nextSequence taskId)
  match plan with
  | .lifecycle transition =>
    execute (Db.deactivateLeaseIfTerminal taskId transition.toStatus)
    execute (Db.updateTaskStatus taskId transition.toStatus)
    insertEvent taskId sequence transition.eventType (some transition.fromStatus) transition.toStatus
    fetchTask taskId
  | .operational preserved status =>
    insertEvent taskId sequence preserved (some status) status
    fetchTask taskId

/-- `ORDER BY` a time, then the text of a task id. -/
def orderedBy {α : Type} (time : α → Int) (taskId : α → TaskId) (rows : List α) : List α :=
  rows.insertionSort (fun left right =>
    time left < time right ∨ (time left = time right ∧ (taskId left).value ≤ (taskId right).value))

theorem orderedBy_perm {α : Type} (time : α → Int) (owner : α → TaskId) (rows : List α) :
    (orderedBy time owner rows).Perm rows :=
  List.perm_insertionSort _ _

def limited {α : Type} (limit : Option Nat) (rows : List α) : List α :=
  match limit with
  | some count => rows.take count
  | none => rows

def Db.expiredTasks (nowMs : Int) (db : Db) : List TaskRecord :=
  orderedBy (fun task => task.deadlineMs.getD 0) TaskRecord.id
    (db.tasks.rows.filter (fun task => task.deadlineMs.any (· ≤ nowMs) && !task.status.isTerminal))

def failExpiredTasks : List TaskRecord → Tx (List TaskRecord)
  | [] => pure []
  | task :: tasks => do
    check (validateDeadlineTransition task.status)
    let sequence ← query (Db.nextSequence task.id)
    execute (Db.deactivateLeaseForTask task.id)
    execute (Db.updateTaskStatus task.id .failed)
    insertEvent task.id sequence .taskTimedOut (some task.status) .failed
    let failed ← failExpiredTasks tasks
    pure ({ task with status := .failed } :: failed)

def failExpiredDeadlines (nowMs : Int) (limit : Option Nat) : Tx (List TaskRecord) := do
  let rows ← query (Db.expiredTasks nowMs)
  failExpiredTasks (limited limit rows)

def Db.staleLeases (nowMs : Int) (db : Db) : List LeaseRecord :=
  orderedBy LeaseRecord.expiresAtMs LeaseRecord.taskId
    ((db.leases.rows.filter (fun row => row.active && row.lease.expiresAtMs ≤ nowMs)).map (·.lease))

def recoverLeases : List LeaseRecord → Tx RecoveryReport
  | [] => pure { recoveredTasks := [], cleanedTerminalLeases := 0, corruptedTasks := [] }
  | lease :: leases => do
    let task ← query (fun db => db.tasks.find lease.taskId)
    execute (Db.deactivateLeaseForTask lease.taskId)
    match task with
    | none => recoverLeases leases
    | some task =>
      -- For a status that recovery keeps, the source only touches `updated_at`.
      execute (Db.updateTaskStatus lease.taskId (recoveredStatus task.status))
      let sequence ← query (Db.nextSequence lease.taskId)
      insertEvent lease.taskId sequence .recoveryAction (some task.status) (recoveredStatus task.status)
      let report ← recoverLeases leases
      if task.status = .running then
        pure { report with recoveredTasks := { task with status := .pending } :: report.recoveredTasks }
      else if task.status.isTerminal then
        pure { report with cleanedTerminalLeases := report.cleanedTerminalLeases + 1 }
      else pure report

def Db.isCorrupt (db : Db) (task : TaskRecord) : Bool :=
  match replayTaskFromSnapshotAndEvents task (db.eventsForTask task.id) with
  | .error (.corruptEventStream _) => true
  | _ => false

/-- The corrupt tasks `ORDER BY task_id`. -/
def Db.corruptTasks (db : Db) : List TaskId :=
  ((db.tasks.rows.insertionSort (fun left right => left.id.value ≤ right.id.value)).filter db.isCorrupt).map (·.id)

def recoverStaleLeases (nowMs : Int) (limit : Option Nat) : Tx RecoveryReport := do
  let rows ← query (Db.staleLeases nowMs)
  let report ← recoverLeases (limited limit rows)
  let corruptedTasks ← query Db.corruptTasks
  pure { report with corruptedTasks }

end Keryx.Store.Sqlite
