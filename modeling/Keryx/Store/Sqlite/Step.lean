import Keryx.Store.Sqlite.Artifacts
import Keryx.Store.Sqlite.Outbox
import Keryx.Relational.Run

/-! The SQLite store as a machine: one input for each operation with its arguments. -/

namespace Keryx.Store.Sqlite
open Keryx.Core Relational Relational.Transaction

inductive Op where
  | acceptTask (task : TaskRecord)
  | acceptTaskWithEnvelope (task : TaskRecord) (envelope : TaskEnvelopeRecord)
  | acceptTaskWithEnvelopeAndContext (task : TaskRecord) (envelope : TaskEnvelopeRecord)
      (context : TaskTransportContextRecord)
  | leaseTask (taskId : TaskId) (lease : LeaseRecord)
  | leaseTaskForPeer (taskId : TaskId) (lease : LeaseRecord) (localPeerId : PeerId)
  | renewLease (taskId : TaskId) (leaseId : LeaseId) (workerId : AgentId) (nowMs newExpiresAtMs : Int)
  | completeTask (taskId : TaskId) (leaseId : LeaseId) (workerId : AgentId)
  | completeTaskWithResult (taskId : TaskId) (leaseId : LeaseId) (workerId : AgentId) (result : TerminalResultRecord)
  | failTask (taskId : TaskId) (leaseId : LeaseId) (workerId : AgentId) (errorReason : String) (policy : RetryPolicy)
  | failTaskWithResult (taskId : TaskId) (leaseId : LeaseId) (workerId : AgentId) (errorReason : String)
      (policy : RetryPolicy) (result : TerminalResultRecord)
  | retryTask (taskId : TaskId) (leaseId : LeaseId) (workerId : AgentId)
  | deadLetterTask (taskId : TaskId) (leaseId : LeaseId) (workerId : AgentId) (reason : String)
  | cancelTask (taskId : TaskId) (nowMs : Int)
  | cancelTaskWithResult (taskId : TaskId) (leaseId : Option LeaseId) (workerId : Option AgentId) (nowMs : Int)
      (result : TerminalResultRecord)
  | failExpiredDeadlines (nowMs : Int) (limit : Option Nat)
  | recoverStaleLeases (nowMs : Int) (limit : Option Nat)
  | transitionTask (taskId : TaskId) (toStatus : TaskStatus)
  | acceptLegacyEvent (taskId : TaskId) (eventType : KeryxEventType)
  | ingestRemoteResultWithArtifacts (result : TerminalResultRecord) (artifacts : List OriginResultArtifact)
      (authenticatedExecutorPeerId : PeerId)
  | putTransportContext (context : TaskTransportContextRecord)
  | recordRelayReceipt (taskId : TaskId) (authenticatedSourcePeerId acceptedDestinationPeerId : PeerId)
      (relayFrameId : String) (acceptedAtMs : Int)
  | claimNextResultDelivery (workerId : String) (nowMs leaseDurationMs : Int)
  | ackResultDelivery (deliveryId workerId : String) (leaseExpiresAtMs nowMs : Int)
  | failResultDelivery (deliveryId workerId : String) (leaseExpiresAtMs nowMs retryAtMs : Int) (error : String)
      (deadLetter : Bool)
  | putArtifact (source : ArtifactMeta) (content : Bytes)
  | deleteArtifact (artifactId : ArtifactId)

/-- The result of leasing: an expired deadline is an error of a transaction that committed. -/
def leaseOutcome (outcome : StoreResult (StoreResult TaskRecord) × Db) : StoreResult TaskRecord × Db :=
  (outcome.1.bind id, outcome.2)

def leaseTask (taskId : TaskId) (lease : LeaseRecord) (db : Db) : StoreResult TaskRecord × Db :=
  leaseOutcome (commit (leaseTaskWithPeerGuard taskId lease none) db)

def leaseTaskForPeer (taskId : TaskId) (lease : LeaseRecord) (localPeerId : PeerId) (db : Db) :
    StoreResult TaskRecord × Db :=
  leaseOutcome (commit (leaseTaskWithPeerGuard taskId lease (some localPeerId)) db)

def step [Sha256] (db : Db) : Op → Db
  | .acceptTask task => (commit (acceptTask task) db).2
  | .acceptTaskWithEnvelope task envelope => (commit (acceptTaskWithEnvelope task envelope) db).2
  | .acceptTaskWithEnvelopeAndContext task envelope context =>
    (commit (acceptTaskWithEnvelopeAndContext task envelope context) db).2
  | .leaseTask taskId lease => (leaseTask taskId lease db).2
  | .leaseTaskForPeer taskId lease localPeerId => (leaseTaskForPeer taskId lease localPeerId db).2
  | .renewLease taskId leaseId workerId nowMs newExpiresAtMs =>
    (commit (renewLease taskId leaseId workerId nowMs newExpiresAtMs) db).2
  | .completeTask taskId leaseId workerId => (commit (completeTask taskId leaseId workerId) db).2
  | .completeTaskWithResult taskId leaseId workerId result =>
    (commit (completeTaskWithResult taskId leaseId workerId result) db).2
  | .failTask taskId leaseId workerId errorReason policy =>
    (commit (failTask taskId leaseId workerId errorReason policy) db).2
  | .failTaskWithResult taskId leaseId workerId errorReason policy result =>
    (commit (failTaskWithResult taskId leaseId workerId errorReason policy result) db).2
  | .retryTask taskId leaseId workerId => (commit (retryTask taskId leaseId workerId) db).2
  | .deadLetterTask taskId leaseId workerId reason => (commit (deadLetterTask taskId leaseId workerId reason) db).2
  | .cancelTask taskId nowMs => (commit (cancelTask taskId nowMs) db).2
  | .cancelTaskWithResult taskId leaseId workerId nowMs result =>
    (commit (cancelTaskWithResult taskId leaseId workerId nowMs result) db).2
  | .failExpiredDeadlines nowMs limit => (commit (failExpiredDeadlines nowMs limit) db).2
  | .recoverStaleLeases nowMs limit => (commit (recoverStaleLeases nowMs limit) db).2
  | .transitionTask taskId toStatus => (commit (transitionTask taskId toStatus) db).2
  | .acceptLegacyEvent taskId eventType => (commit (acceptLegacyEvent taskId eventType) db).2
  | .ingestRemoteResultWithArtifacts result artifacts authenticatedExecutorPeerId =>
    (ingestRemoteResultWithArtifacts result artifacts authenticatedExecutorPeerId db).2
  | .putTransportContext context => (commit (putTransportContext context) db).2
  | .recordRelayReceipt taskId source destination relayFrameId acceptedAtMs =>
    (commit (recordRelayReceipt taskId source destination relayFrameId acceptedAtMs) db).2
  | .claimNextResultDelivery workerId nowMs leaseDurationMs =>
    (commit (claimNextResultDelivery workerId nowMs leaseDurationMs) db).2
  | .ackResultDelivery deliveryId workerId leaseExpiresAtMs nowMs =>
    (commit (ackResultDelivery deliveryId workerId leaseExpiresAtMs nowMs) db).2
  | .failResultDelivery deliveryId workerId leaseExpiresAtMs nowMs retryAtMs error deadLetter =>
    (commit (failResultDelivery deliveryId workerId leaseExpiresAtMs nowMs retryAtMs error deadLetter) db).2
  | .putArtifact source content => (putArtifact source content db).2
  | .deleteArtifact artifactId => (deleteArtifact artifactId db).2

def Db.cell (db : Db) (taskId : TaskId) : Lifecycle.Cell :=
  { record := db.tasks.find taskId
    log := db.events.stream taskId
    lease := db.activeLease taskId
    result := db.terminalResults.find taskId }

open Lifecycle (Cell)

@[simp] theorem cell_record (db : Db) (taskId : TaskId) : (db.cell taskId).record = db.tasks.find taskId := rfl

@[simp] theorem cell_log (db : Db) (taskId : TaskId) : (db.cell taskId).log = db.events.stream taskId := rfl

@[simp] theorem cell_lease (db : Db) (taskId : TaskId) : (db.cell taskId).lease = db.activeLease taskId := rfl

@[simp] theorem cell_result (db : Db) (taskId : TaskId) : (db.cell taskId).result = db.terminalResults.find taskId := rfl

variable {db : Db} {taskId other : TaskId}

theorem cell_updateTaskStatus (status : TaskStatus) :
    (db.updateTaskStatus taskId status).cell other =
      if other = taskId then
        { db.cell other with record := (db.tasks.find other).map (fun task => { task with status }) }
      else db.cell other := by
  simp only [Db.cell, Db.updateTaskStatus, Table.find_update, Db.activeLease]
  split <;> rfl

theorem cell_updateTaskMetadata (status : TaskStatus) (retryCount : Nat) (deadLettered : Bool)
    (deadLetterReason : Option String) :
    (db.updateTaskMetadata taskId status retryCount deadLettered deadLetterReason).cell other =
      if other = taskId then
        { db.cell other with
          record := (db.tasks.find other).map
            (fun task => { task with status, retryCount, deadLettered, deadLetterReason }) }
      else db.cell other := by
  simp only [Db.cell, Db.updateTaskMetadata, Table.find_update, Db.activeLease]
  split <;> rfl

theorem cell_appendEvent (eventType : KeryxEventType) (fromStatus : Option TaskStatus) (toStatus : TaskStatus) :
    (db.appendEvent taskId eventType fromStatus toStatus).cell other =
      if other = taskId then
        { db.cell other with log := (db.cell other).append taskId eventType fromStatus toStatus }
      else db.cell other := by
  simp only [Db.cell, Db.appendEvent, Journal.stream_append, Db.activeLease, Cell.append, Journal.next_eq]
  split
  · rename_i same
    subst same
    rfl
  · simp

theorem cell_deactivateLeaseForTask :
    (db.deactivateLeaseForTask taskId).cell other =
      if other = taskId then { db.cell other with lease := none } else db.cell other := by
  simp only [Db.cell, Db.deactivateLeaseForTask, Db.activeLease, Table.find_update]
  split
  · cases db.leases.find other <;> simp
  · rfl

theorem cell_insertTask (task : TaskRecord) :
    (db.insertTask task).cell other =
      if other = task.id then { db.cell other with record := some task } else db.cell other := by
  simp only [Db.cell, Db.insertTask, Table.find_put, Db.activeLease]
  split <;> rfl

theorem cell_insertIdempotencyKey (key : Option IdempotencyKey) :
    (db.insertIdempotencyKey key taskId).cell other = db.cell other := by
  cases key <;> rfl

theorem cell_insertTerminalResultOnly (result : TerminalResultRecord) :
    (db.insertTerminalResultOnly result).cell other =
      if other = result.taskId then { db.cell other with result := some result } else db.cell other := by
  simp only [Db.cell, Db.insertTerminalResultOnly, Table.find_put, Db.activeLease]
  split <;> rfl

theorem cell_insertTerminalResultAndOutbox (result : TerminalResultRecord) :
    (db.insertTerminalResultAndOutbox result).cell other =
      if other = result.taskId then { db.cell other with result := some result } else db.cell other := by
  rw [← cell_insertTerminalResultOnly]
  unfold Db.insertTerminalResultAndOutbox
  cases makeOutbox result <;> rfl

theorem cell_replaceLease (lease : LeaseRecord) :
    (db.replaceLease lease).cell lease.taskId = { db.cell lease.taskId with lease := some lease } := by
  have found := Table.find_put_self (db.leases.keep (fun row => row.lease.leaseId ≠ lease.leaseId))
    { lease, active := true }
  simp only at found
  simp only [Db.cell, Db.replaceLease, Db.activeLease, found]
  rfl

theorem cell_replaceLease_ne (lease : LeaseRecord) (different : other ≠ lease.taskId) :
    (db.replaceLease lease).cell other = db.cell other ∨
      (db.replaceLease lease).cell other = { db.cell other with lease := none } := by
  have found := Table.find_put_ne (db.leases.keep (fun row => row.lease.leaseId ≠ lease.leaseId))
    { lease, active := true } different
  simp only [Db.cell, Db.replaceLease, Db.activeLease, found, Table.find_keep]
  cases db.leases.find other with
  | none => exact Or.inl rfl
  | some row =>
    by_cases taken : row.lease.leaseId = lease.leaseId
    · exact Or.inr (by simp [Option.filter, taken])
    · exact Or.inl (by simp [Option.filter, taken])

theorem cell_renewLease {leaseId : LeaseId} {workerId : AgentId} {active : LeaseRecord} (expiresAtMs : Int)
    (held : db.activeLease taskId = some active) (sameLease : active.leaseId = leaseId)
    (sameWorker : active.workerId = some workerId) :
    (db.renewLease taskId leaseId workerId expiresAtMs).cell other =
      if other = taskId then { db.cell other with lease := some { active with expiresAtMs } } else db.cell other := by
  simp only [Db.cell, Db.renewLease, Db.activeLease, Table.find_update]
  split
  · rename_i same
    subst same
    obtain ⟨row, found, rfl⟩ := Option.map_eq_some_iff.mp held
    obtain ⟨stored, on⟩ := Option.filter_eq_some_iff.mp found
    simp [stored, sameLease, sameWorker]
  · rfl

end Keryx.Store.Sqlite
