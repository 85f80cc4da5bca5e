import Keryx.Store.Sqlite.Step

/-! The in-memory store.
Each operation makes its checks before its first write; the deadline sweep alone checks between writes and returns the
state it has reached. -/

namespace Keryx.Store.Memory
open Keryx.Core Relational Relational.Transaction
open Sqlite (IdempotencyRow orderedBy limited ensureLocalExecutor Op)

structure State where
  tasks : Table TaskRecord.id
  events : Journal TaskEventRecord.taskId TaskEventRecord.sequence
  idempotency : Table IdempotencyRow.key
  leases : Table LeaseRecord.taskId
  envelopes : Table TaskEnvelopeRecord.taskId
  transportContexts : Table TaskTransportContextRecord.taskId
  terminalResults : Table TerminalResultRecord.taskId
  resultOutbox : Table ResultOutboxRecord.deliveryId

def State.empty : State :=
  { tasks := .empty, events := .empty, idempotency := .empty, leases := .empty, envelopes := .empty,
    transportContexts := .empty, terminalResults := .empty, resultOutbox := .empty }

abbrev Mutation (α : Type) := Transaction State StoreError α

open State

variable (taskId : TaskId)

def getTask : Mutation TaskRecord := do
  let row ← query (fun state => state.tasks.find taskId)
  require row (.taskNotFound taskId)

def getLease : Mutation LeaseRecord := do
  let row ← query (fun state => state.leases.find taskId)
  require row (.leaseNotFound taskId)

/-- The sequence number is one more than the number of events the task has. -/
def State.appendEvent (eventType : KeryxEventType) (fromStatus : Option TaskStatus)
    (toStatus : TaskStatus) (state : State) : State :=
  { state with
    events :=
      state.events.append
        { taskId, sequence := (state.events.stream taskId).length + 1, eventType, fromStatus, toStatus }
        (state.events.next_eq taskId).symm }

variable (task : TaskRecord)

def State.insertTask (state : State) : State := { state with tasks := state.tasks.put task }

def State.removeLease (state : State) : State :=
  { state with leases := state.leases.keep (fun lease => lease.taskId ≠ taskId) }

def State.insertLease (lease : LeaseRecord) (state : State) : State := { state with leases := state.leases.put lease }

def State.insertIdempotency (key : Option IdempotencyKey) (taskId : TaskId) (state : State) : State :=
  match key with
  | some key => { state with idempotency := state.idempotency.put { key, taskId } }
  | none => state

def State.insertEnvelope (envelope : TaskEnvelopeRecord) (state : State) : State :=
  { state with envelopes := state.envelopes.put envelope }

variable (context : TaskTransportContextRecord)

def State.insertTransportContext (state : State) : State :=
  { state with transportContexts := state.transportContexts.put context }

def State.insertTerminalResult (result : TerminalResultRecord) (state : State) : State :=
  let stored := { state with terminalResults := state.terminalResults.put result }
  match makeOutbox result with
  | some outbox => { stored with resultOutbox := stored.resultOutbox.put outbox }
  | none => stored

def State.idempotencyRow (state : State) : Option IdempotencyRow :=
  task.idempotencyKey.bind state.idempotency.find

def insertAcceptedTask : Mutation Unit := do
  execute (insertIdempotency task.idempotencyKey task.id)
  execute (appendEvent task.id .taskAccepted none task.status)
  execute (insertTask task)

def acceptTask : Mutation TaskRecord := do
  check (ensurePendingAccept task)
  let keyRow ← query (idempotencyRow task)
  match keyRow with
  | some row =>
    let stored ← query (fun state => state.tasks.find row.taskId)
    let existing ← require stored (.corruptEventStream row.taskId)
    if existing = task then pure existing else reject (.idempotencyConflict row.key row.taskId)
  | none =>
    let existing ← query (fun state => state.tasks.find task.id)
    ensure (existing = none) (.taskAlreadyExists task.id)
    insertAcceptedTask task
    pure task

def acceptTaskWithEnvelope (envelope : TaskEnvelopeRecord) : Mutation TaskRecord := do
  check (validateAcceptedTaskStatus task)
  check (ensurePendingAccept task)
  check (ensureMatchingEnvelopeTaskId task envelope)
  let keyRow ← query (idempotencyRow task)
  match keyRow with
  | some row =>
    let stored ← query (fun state => state.tasks.find row.taskId)
    let existing ← require stored (.corruptEventStream row.taskId)
    if existing = task then
      let existingEnvelope ← query (fun state => state.envelopes.find row.taskId)
      ensure (existingEnvelope = some envelope) (.taskEnvelopeConflict row.taskId)
      pure existing
    else reject (.idempotencyConflict row.key row.taskId)
  | none =>
    let existing ← query (fun state => state.tasks.find task.id)
    ensure (existing = none) (.taskAlreadyExists task.id)
    insertAcceptedTask task
    execute (insertEnvelope envelope)
    pure task

/-- A redelivery under another relay frame replaces the whole context. -/
def State.updateRelayFrame (state : State) : State :=
  if (state.transportContexts.find context.taskId).any (fun stored => stored.relayFrameId ≠ context.relayFrameId) then
    state.insertTransportContext context
  else state

def acceptTaskWithEnvelopeAndContext (envelope : TaskEnvelopeRecord)
    (context : TaskTransportContextRecord) : Mutation TaskRecord := do
  check (validateAcceptedTaskStatus task)
  check (ensurePendingAccept task)
  check (ensureMatchingEnvelopeTaskId task envelope)
  check (ensureContextTask context task.id)
  let existing ← query (fun state => state.tasks.find task.id)
  match existing with
  | some existing =>
    let existingEnvelope ← query (fun state => state.envelopes.find task.id)
    let existingContext ← query (fun state => state.transportContexts.find task.id)
    ensure (existing = task ∧ existingEnvelope.any (fun stored => sameDeliveredEnvelope stored envelope) ∧
        existingContext.any (fun stored => sameTransportIdentity stored context))
      (.transportContextConflict task.id)
    execute (updateRelayFrame context)
    pure existing
  | none =>
    let keyRow ← query (idempotencyRow task)
    match keyRow with
    | some row => reject (.idempotencyConflict row.key row.taskId)
    | none =>
      insertAcceptedTask task
      execute (insertEnvelope envelope)
      execute (insertTransportContext context)
      pure task

def leaseTaskWithPeerGuard (lease : LeaseRecord) (localPeerId : Option PeerId) :
    Mutation (StoreResult TaskRecord) := do
  let context ← query (fun state => state.transportContexts.find taskId)
  check (ensureLocalExecutor taskId context localPeerId)
  check (ensureMatchingTaskId taskId lease)
  check (ensureLeaseHasOwner lease)
  let task ← getTask taskId
  let active ← query (fun state => state.leases.find taskId)
  ensure (active = none) (.leaseConflict taskId)
  match task.deadlineMs.filter (· ≤ lease.leasedAtMs) with
  | some deadlineMs =>
    check (validateDeadlineTransition task.status)
    execute (appendEvent taskId .taskTimedOut (some task.status) .failed)
    execute (insertTask { task with status := .failed })
    pure (.error (.taskDeadlineExpired taskId deadlineMs lease.leasedAtMs))
  | none =>
    let transition ← check (validated (validateTransition task.status .running))
    execute (insertLease lease)
    execute (appendEvent taskId transition.eventType (some transition.fromStatus) transition.toStatus)
    execute (insertTask { task with status := .running })
    pure (.ok { task with status := .running })

variable (leaseId : LeaseId) (workerId : AgentId)

def renewLease (nowMs newExpiresAtMs : Int) :
    Mutation LeaseRecord := do
  let task ← getTask taskId
  check (requireStatus task.status .running)
  let active ← getLease taskId
  check (ensureMatchingLeaseId taskId active leaseId)
  check (ensureMatchingWorkerId taskId active workerId)
  check (ensureValidLeaseExpiry active nowMs newExpiresAtMs)
  execute (insertLease { active with expiresAtMs := newExpiresAtMs })
  pure { active with expiresAtMs := newExpiresAtMs }

def finishTaskInState (toStatus : TaskStatus)
    (retryCount : Nat) (deadLettered : Bool) (deadLetterReason : Option String) : Mutation TaskRecord := do
  let task ← getTask taskId
  let active ← getLease taskId
  check (ensureMatchingLeaseId taskId active leaseId)
  check (ensureMatchingWorkerId taskId active workerId)
  let transition ← check (validated (validateTransition task.status toStatus))
  let updated := { task with status := toStatus, retryCount, deadLettered, deadLetterReason }
  execute (removeLease taskId)
  execute (appendEvent taskId transition.eventType (some transition.fromStatus) transition.toStatus)
  execute (insertTask updated)
  pure updated

/-- Unlike the SQLite store, the dead-letter fields stay as they are. -/
def retryTaskInState (active : LeaseRecord) (task : TaskRecord) : Mutation TaskRecord := do
  check (ensureMatchingLeaseId taskId active active.leaseId)
  check (requireStatus task.status .running)
  let updated := { task with status := .pending, retryCount := saturatingAddU32 task.retryCount 1 }
  execute (removeLease taskId)
  execute (appendEvent taskId .recoveryAction (some .running) .pending)
  execute (insertTask updated)
  pure updated

def deadLetterTaskInState (active : LeaseRecord) (task : TaskRecord) (reason : String) :
    Mutation TaskRecord := do
  check (ensureMatchingLeaseId taskId active active.leaseId)
  check (requireStatus task.status .running)
  let transition ← check (validated (validateTransition task.status .failed))
  let updated := task.exhausted reason
  execute (removeLease taskId)
  execute (appendEvent taskId .taskDeadLettered (some transition.fromStatus) transition.toStatus)
  execute (insertTask updated)
  pure updated

def completeTask : Mutation TaskRecord := do
  let task ← getTask taskId
  finishTaskInState taskId leaseId workerId .completed task.retryCount task.deadLettered task.deadLetterReason

def getOwnedLease : Mutation LeaseRecord := do
  let active ← getLease taskId
  check (ensureMatchingLeaseId taskId active leaseId)
  check (ensureMatchingWorkerId taskId active workerId)
  pure active

def failTask (errorReason : String) (policy : RetryPolicy) : Mutation TaskRecord := do
  let task ← getTask taskId
  let active ← getOwnedLease taskId leaseId workerId
  check (requireStatus task.status .running)
  if policy.maxRetries = 0 then finishTaskInState taskId leaseId workerId .failed task.retryCount false none
  else if policy.shouldRetryAfterFailure task.retryCount then retryTaskInState taskId active task
  else deadLetterTaskInState taskId active task errorReason

def retryTask : Mutation TaskRecord := do
  let task ← getTask taskId
  let active ← getOwnedLease taskId leaseId workerId
  retryTaskInState taskId active task

def deadLetterTask (reason : String) :
    Mutation TaskRecord := do
  let task ← getTask taskId
  let active ← getOwnedLease taskId leaseId workerId
  deadLetterTaskInState taskId active task reason

def ensureRunningLeaseUnexpired (status : TaskStatus) (nowMs : Int) : Mutation Unit :=
  if status = .running then do
    let active ← getLease taskId
    check (ensureActiveLeaseUnexpired active nowMs)
  else pure ()

def cancelTask (nowMs : Int) : Mutation TaskRecord := do
  let task ← getTask taskId
  if task.status.isTerminal then pure task
  else
    ensureRunningLeaseUnexpired taskId task.status nowMs
    let transition ← check (validated (validateCancelTransition task.status))
    let updated := { task with status := transition.toStatus }
    execute (removeLease taskId)
    execute (appendEvent taskId transition.eventType (some transition.fromStatus) transition.toStatus)
    execute (insertTask updated)
    pure updated

def ensureCancellationProof (status : TaskStatus) (leaseId : Option LeaseId)
    (workerId : Option AgentId) (nowMs : Int) : Mutation Unit :=
  if status = .running then do
    let active ← getLease taskId
    let leaseId ← require leaseId (.cancellationLeaseProofRequired taskId)
    let workerId ← require workerId (.cancellationLeaseProofRequired taskId)
    check (ensureMatchingLeaseId taskId active leaseId)
    check (ensureMatchingWorkerId taskId active workerId)
    check (ensureActiveLeaseUnexpired active nowMs)
  else pure ()

def cancelTaskWithResult (leaseId : Option LeaseId) (workerId : Option AgentId) (nowMs : Int)
    (result : TerminalResultRecord) : Mutation TaskRecord := do
  check (ensureResultTask result taskId)
  check result.validate
  let task ← getTask taskId
  ensureCancellationProof taskId task.status leaseId workerId nowMs
  let transition ← check (validated (validateCancelTransition task.status))
  let existing ← query (fun state => state.terminalResults.find taskId)
  ensure (existing = none) (.terminalResultConflict taskId)
  ensure (result.terminalStatus = transition.toStatus) (.terminalResultNotTerminal taskId)
  let updated := { task with status := transition.toStatus }
  execute (removeLease taskId)
  execute (appendEvent taskId transition.eventType (some transition.fromStatus) transition.toStatus)
  execute (insertTask updated)
  execute (insertTerminalResult result)
  pure updated

def completeTaskWithResult (result : TerminalResultRecord) : Mutation TaskRecord := do
  check (ensureResultTask result taskId)
  let existing ← query (fun state => state.terminalResults.find taskId)
  match existing with
  | some existing => if existing = result then getTask taskId else reject (.terminalResultConflict taskId)
  | none =>
    let task ← getTask taskId
    let updated ←
      finishTaskInState taskId leaseId workerId .completed task.retryCount task.deadLettered task.deadLetterReason
    execute (insertTerminalResult result)
    pure updated

def failTaskWithResult (errorReason : String)
    (policy : RetryPolicy) (result : TerminalResultRecord) : Mutation TaskRecord := do
  check (ensureResultTask result taskId)
  let existing ← query (fun state => state.terminalResults.find taskId)
  match existing with
  | some existing => if existing = result then getTask taskId else reject (.terminalResultConflict taskId)
  | none =>
    let task ← getTask taskId
    let active ← getOwnedLease taskId leaseId workerId
    if policy.maxRetries = 0 then
      let updated ← finishTaskInState taskId leaseId workerId .failed task.retryCount false none
      execute (insertTerminalResult result)
      pure updated
    else if policy.shouldRetryAfterFailure task.retryCount then retryTaskInState taskId active task
    else
      let updated ← deadLetterTaskInState taskId active task errorReason
      execute (insertTerminalResult result)
      pure updated

def putTransportContext : Mutation TaskTransportContextRecord := do
  let _ ← getTask context.taskId
  let existing ← query (fun state => state.transportContexts.find context.taskId)
  match existing with
  | some existing =>
    if existing = context then pure existing else reject (.transportContextConflict context.taskId)
  | none =>
    execute (insertTransportContext context)
    pure context

def State.removeLeaseIfTerminal (toStatus : TaskStatus) (state : State) : State :=
  if toStatus.isTerminal then state.removeLease taskId else state

def transitionTask (toStatus : TaskStatus) : Mutation TaskRecord := do
  let task ← getTask taskId
  let transition ← check (validated (validateTransition task.status toStatus))
  let updated := { task with status := toStatus }
  execute (removeLeaseIfTerminal taskId toStatus)
  execute (appendEvent taskId transition.eventType (some transition.fromStatus) transition.toStatus)
  execute (insertTask updated)
  pure updated

def acceptLegacyEvent (eventType : KeryxEventType) : Mutation TaskRecord := do
  let legacyEvent ← require (LegacyEventType.fromKeryxEventType eventType)
    (.validation (.invalidTaskTransition .pending .pending))
  let task ← getTask taskId
  let plan ← check (planLegacyEventAppend task.status legacyEvent)
  match plan with
  | .lifecycle transition =>
    let updated := { task with status := transition.toStatus }
    execute (removeLeaseIfTerminal taskId transition.toStatus)
    execute (appendEvent taskId transition.eventType (some transition.fromStatus) transition.toStatus)
    execute (insertTask updated)
    pure updated
  | .operational preserved status =>
    execute (appendEvent taskId preserved (some status) status)
    pure task

def State.expiredTasks (nowMs : Int) (state : State) : List TaskId :=
  (orderedBy (fun task => task.deadlineMs.getD 0) TaskRecord.id
    (state.tasks.rows.filter (fun task => !task.status.isTerminal && task.deadlineMs.any (· ≤ nowMs)))).map (·.id)

def failExpiredTasks : List TaskId → State → StoreResult (List TaskRecord) × State
  | [], state => (.ok [], state)
  | taskId :: taskIds, state =>
    match state.tasks.find taskId with
    | none => (.error (.taskNotFound taskId), state)
    | some task =>
      match validateDeadlineTransition task.status with
      | .error failure => (.error failure, state)
      | .ok _ =>
        let updated := { task with status := .failed }
        let (failed, after) := failExpiredTasks taskIds
          (((state.removeLease taskId).appendEvent taskId .taskTimedOut (some task.status) .failed).insertTask updated)
        (failed.map (updated :: ·), after)

def failExpiredDeadlines (nowMs : Int) (limit : Option Nat) (state : State) : StoreResult (List TaskRecord) × State :=
  failExpiredTasks (limited limit (state.expiredTasks nowMs)) state

def State.staleLeases (nowMs : Int) (state : State) : List LeaseRecord :=
  orderedBy LeaseRecord.expiresAtMs LeaseRecord.taskId
    (state.leases.rows.filter (fun lease => lease.expiresAtMs ≤ nowMs))

def recoverLeases : List LeaseRecord → Mutation RecoveryReport
  | [] => pure { recoveredTasks := [], cleanedTerminalLeases := 0, corruptedTasks := [] }
  | lease :: leases => do
    execute (removeLease lease.taskId)
    let task ← query (fun state => state.tasks.find lease.taskId)
    match task with
    | none => recoverLeases leases
    | some task =>
      let updated := { task with status := recoveredStatus task.status }
      execute (appendEvent lease.taskId .recoveryAction (some task.status) updated.status)
      execute (insertTask updated)
      let report ← recoverLeases leases
      if task.status = .running then
        pure { report with recoveredTasks := updated :: report.recoveredTasks }
      else if task.status.isTerminal then
        pure { report with cleanedTerminalLeases := report.cleanedTerminalLeases + 1 }
      else pure report

/-- A stored task without events is corrupt as well. -/
def State.isCorrupt (state : State) (task : TaskRecord) : Bool :=
  match state.events.stream task.id with
  | [] => true
  | events =>
    match replayTaskFromSnapshotAndEvents task events with
    | .error (.corruptEventStream _) => true
    | _ => false

def State.corruptTasks (state : State) : List TaskId :=
  ((state.tasks.rows.insertionSort (fun left right => left.id.value ≤ right.id.value)).filter state.isCorrupt).map
    (·.id)

def recoverStaleLeases (nowMs : Int) (limit : Option Nat) : Mutation RecoveryReport := do
  let rows ← query (staleLeases nowMs)
  let report ← recoverLeases (limited limit rows)
  let corruptedTasks ← query corruptTasks
  pure { report with corruptedTasks }

def replayTask : Mutation TaskRecord := do
  let snapshot ← getTask taskId
  let events ← query (fun state => state.events.stream taskId)
  ensure (events ≠ []) (.corruptEventStream taskId)
  check (replayTaskFromSnapshotAndEvents snapshot events)

/-- The store has no remote results, deliveries or relay receipts, and artifacts are left out. -/
def step (state : State) : Op → State
  | .acceptTask task => (commit (acceptTask task) state).2
  | .acceptTaskWithEnvelope task envelope => (commit (acceptTaskWithEnvelope task envelope) state).2
  | .acceptTaskWithEnvelopeAndContext task envelope context =>
    (commit (acceptTaskWithEnvelopeAndContext task envelope context) state).2
  | .leaseTask taskId lease => (commit (leaseTaskWithPeerGuard taskId lease none) state).2
  | .leaseTaskForPeer taskId lease localPeerId => (commit (leaseTaskWithPeerGuard taskId lease (some localPeerId)) state).2
  | .renewLease taskId leaseId workerId nowMs newExpiresAtMs =>
    (commit (renewLease taskId leaseId workerId nowMs newExpiresAtMs) state).2
  | .completeTask taskId leaseId workerId => (commit (completeTask taskId leaseId workerId) state).2
  | .completeTaskWithResult taskId leaseId workerId result =>
    (commit (completeTaskWithResult taskId leaseId workerId result) state).2
  | .failTask taskId leaseId workerId errorReason policy =>
    (commit (failTask taskId leaseId workerId errorReason policy) state).2
  | .failTaskWithResult taskId leaseId workerId errorReason policy result =>
    (commit (failTaskWithResult taskId leaseId workerId errorReason policy result) state).2
  | .retryTask taskId leaseId workerId => (commit (retryTask taskId leaseId workerId) state).2
  | .deadLetterTask taskId leaseId workerId reason => (commit (deadLetterTask taskId leaseId workerId reason) state).2
  | .cancelTask taskId nowMs => (commit (cancelTask taskId nowMs) state).2
  | .cancelTaskWithResult taskId leaseId workerId nowMs result =>
    (commit (cancelTaskWithResult taskId leaseId workerId nowMs result) state).2
  | .failExpiredDeadlines nowMs limit => (failExpiredDeadlines nowMs limit state).2
  | .recoverStaleLeases nowMs limit => (commit (recoverStaleLeases nowMs limit) state).2
  | .transitionTask taskId toStatus => (commit (transitionTask taskId toStatus) state).2
  | .acceptLegacyEvent taskId eventType => (commit (acceptLegacyEvent taskId eventType) state).2
  | .putTransportContext context => (commit (putTransportContext context) state).2
  | _ => state

end Keryx.Store.Memory
