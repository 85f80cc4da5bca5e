import Keryx.Relational.Table
import Keryx.Relational.Journal
import Keryx.Store.Lifecycle

/-! The SQLite database of the task store: its tables, its blob directory and the statements its operations execute.
-/

namespace Keryx.Store.Sqlite
open Keryx.Core Relational Relational.Transaction

structure LeaseRow where
  lease : LeaseRecord
  active : Bool
deriving DecidableEq

structure IdempotencyRow where
  key : IdempotencyKey
  taskId : TaskId
deriving DecidableEq

structure ArtifactRow where
  record : ArtifactRecord
  inlineBlob : Option Bytes
deriving DecidableEq

structure BlobRow where
  digest : Digest
  refCount : Nat
  byteLen : Nat
deriving DecidableEq

structure BlobFile where
  digest : Digest
  content : Bytes
deriving DecidableEq

structure Db where
  tasks : Table TaskRecord.id
  events : Journal TaskEventRecord.taskId TaskEventRecord.sequence
  leases : Table (fun row : LeaseRow => row.lease.taskId)
  idempotencyKeys : Table IdempotencyRow.key
  envelopes : Table TaskEnvelopeRecord.taskId
  transportContexts : Table TaskTransportContextRecord.taskId
  terminalResults : Table TerminalResultRecord.taskId
  resultOutbox : Table ResultOutboxRecord.deliveryId
  artifacts : Table (fun row : ArtifactRow => row.record.artifactId)
  blobs : Table BlobRow.digest
  blobFiles : Table BlobFile.digest

def Db.empty : Db :=
  { tasks := .empty, events := .empty, leases := .empty, idempotencyKeys := .empty, envelopes := .empty,
    transportContexts := .empty, terminalResults := .empty, resultOutbox := .empty, artifacts := .empty,
    blobs := .empty, blobFiles := .empty }

abbrev Tx (α : Type) := Transaction Db StoreError α

def Db.activeLease (db : Db) (taskId : TaskId) : Option LeaseRecord :=
  ((db.leases.find taskId).filter (·.active)).map (·.lease)

/-- The events of a task `ORDER BY sequence`. -/
def Db.eventsForTask (db : Db) (taskId : TaskId) : List TaskEventRecord := db.events.ordered taskId

def Db.nextSequence (taskId : TaskId) (db : Db) : Nat := db.events.next taskId

def fetchTask (taskId : TaskId) : Tx TaskRecord := do
  let row ← query (fun db => db.tasks.find taskId)
  require row (.taskNotFound taskId)

def fetchActiveLease (taskId : TaskId) : Tx LeaseRecord := do
  let row ← query (fun db => db.activeLease taskId)
  require row (.leaseNotFound taskId)

def Db.updateTaskStatus (taskId : TaskId) (status : TaskStatus) (db : Db) : Db :=
  { db with tasks := db.tasks.update taskId (fun task => { task with status }) (fun _ => rfl) }

def Db.updateTaskMetadata (taskId : TaskId) (status : TaskStatus) (retryCount : Nat) (deadLettered : Bool)
    (deadLetterReason : Option String) (db : Db) : Db :=
  { db with
    tasks :=
      db.tasks.update taskId (fun task => { task with status, retryCount, deadLettered, deadLetterReason })
        (fun _ => rfl) }

def Db.deactivateLeaseForTask (taskId : TaskId) (db : Db) : Db :=
  { db with leases := db.leases.update taskId (fun row => { row with active := false }) (fun _ => rfl) }

/-- `INSERT OR REPLACE`: rows that share the lease id or the task id make room for the new row. -/
def Db.replaceLease (lease : LeaseRecord) (db : Db) : Db :=
  { db with
    leases :=
      (db.leases.keep (fun row => row.lease.leaseId ≠ lease.leaseId)).put { lease, active := true } }

def Db.renewLease (taskId : TaskId) (leaseId : LeaseId) (workerId : AgentId) (expiresAtMs : Int) (db : Db) : Db :=
  { db with
    leases :=
      db.leases.update taskId
        (fun row =>
          if row.lease.leaseId = leaseId ∧ row.lease.workerId = some workerId then
            { lease := { row.lease with expiresAtMs }, active := true }
          else row)
        (fun row => by split <;> rfl) }

def Db.insertTask (task : TaskRecord) (db : Db) : Db := { db with tasks := db.tasks.put task }

def Db.insertIdempotencyKey (key : Option IdempotencyKey) (taskId : TaskId) (db : Db) : Db :=
  match key with
  | some key => { db with idempotencyKeys := db.idempotencyKeys.put { key, taskId } }
  | none => db

def Db.insertEnvelope (envelope : TaskEnvelopeRecord) (db : Db) : Db :=
  { db with envelopes := db.envelopes.put envelope }

def Db.insertTransportContext (context : TaskTransportContextRecord) (db : Db) : Db :=
  { db with transportContexts := db.transportContexts.put context }

def Db.insertTerminalResultOnly (result : TerminalResultRecord) (db : Db) : Db :=
  { db with terminalResults := db.terminalResults.put result }

def Db.insertTerminalResultAndOutbox (result : TerminalResultRecord) (db : Db) : Db :=
  let stored := db.insertTerminalResultOnly result
  match makeOutbox result with
  | some outbox => { stored with resultOutbox := stored.resultOutbox.put outbox }
  | none => stored

def Db.appendEvent (taskId : TaskId) (eventType : KeryxEventType) (fromStatus : Option TaskStatus)
    (toStatus : TaskStatus) (db : Db) : Db :=
  { db with
    events :=
      db.events.append { taskId, sequence := db.events.next taskId, eventType, fromStatus, toStatus } rfl }

/-- The stored numbers of a task are 1, …, n, so a number other than the next one is taken. -/
def insertEvent (taskId : TaskId) (sequence : Nat) (eventType : KeryxEventType) (fromStatus : Option TaskStatus)
    (toStatus : TaskStatus) : Tx Unit := do
  let next ← query (Db.nextSequence taskId)
  ensure (sequence = next) (.database "UNIQUE constraint failed: task_events.task_id, task_events.sequence")
  execute (Db.appendEvent taskId eventType fromStatus toStatus)

variable {α : Type} {db : Db} {taskId : TaskId}

@[simp] theorem fetchTask_bind {rest : TaskRecord → Tx α} {result : α × Db} :
    (fetchTask taskId >>= rest) db = .ok result ↔
      ∃ task, db.tasks.find taskId = some task ∧ rest task db = .ok result := by
  simp [fetchTask]

@[simp] theorem fetchTask_ok {result : TaskRecord × Db} :
    fetchTask taskId db = .ok result ↔ db.tasks.find taskId = some result.1 ∧ db = result.2 := by
  simp [fetchTask, require_ok]

@[simp] theorem fetchActiveLease_bind {rest : LeaseRecord → Tx α} {result : α × Db} :
    (fetchActiveLease taskId >>= rest) db = .ok result ↔
      ∃ lease, db.activeLease taskId = some lease ∧ rest lease db = .ok result := by
  simp [fetchActiveLease]

theorem activeLease_taskId {lease : LeaseRecord} (held : db.activeLease taskId = some lease) :
    lease.taskId = taskId := by
  obtain ⟨row, kept, rfl⟩ := Option.map_eq_some_iff.mp held
  have found : db.leases.find taskId = some row := (Option.filter_eq_some_iff.mp kept).1
  have owner := Table.find_key found
  exact owner

variable {sequence : Nat} {eventType : KeryxEventType} {fromStatus : Option TaskStatus} {toStatus : TaskStatus}

@[simp] theorem insertEvent_bind {rest : Unit → Tx α} {result : α × Db} :
    (insertEvent taskId sequence eventType fromStatus toStatus >>= rest) db = .ok result ↔
      sequence = db.nextSequence taskId ∧
        rest () (db.appendEvent taskId eventType fromStatus toStatus) = .ok result := by
  simp [insertEvent]

theorem run_fetchTask {rest : TaskRecord → Tx α} {task : TaskRecord} (present : db.tasks.find taskId = some task) :
    (fetchTask taskId >>= rest) db = rest task db := by
  unfold fetchTask
  rw [bind_assoc, run_query, run_require present]

theorem run_insertEvent {rest : Unit → Tx α} (next : sequence = db.nextSequence taskId) :
    (insertEvent taskId sequence eventType fromStatus toStatus >>= rest) db =
      rest () (db.appendEvent taskId eventType fromStatus toStatus) := by
  unfold insertEvent
  rw [bind_assoc, run_query, bind_assoc, run_ensure next, run_execute]

variable {other : TaskId} (db)

@[simp] theorem nextSequence_updateTaskStatus (status : TaskStatus) :
    (db.updateTaskStatus taskId status).nextSequence other = db.nextSequence other := rfl

@[simp] theorem nextSequence_updateTaskMetadata (status : TaskStatus) (retryCount : Nat) (deadLettered : Bool)
    (deadLetterReason : Option String) :
    (db.updateTaskMetadata taskId status retryCount deadLettered deadLetterReason).nextSequence other =
      db.nextSequence other := rfl

@[simp] theorem nextSequence_deactivateLeaseForTask :
    (db.deactivateLeaseForTask taskId).nextSequence other = db.nextSequence other := rfl

@[simp] theorem nextSequence_replaceLease (lease : LeaseRecord) :
    (db.replaceLease lease).nextSequence other = db.nextSequence other := rfl

@[simp] theorem nextSequence_insertTask (task : TaskRecord) :
    (db.insertTask task).nextSequence other = db.nextSequence other := rfl

@[simp] theorem nextSequence_insertIdempotencyKey (key : Option IdempotencyKey) :
    (db.insertIdempotencyKey key taskId).nextSequence other = db.nextSequence other := by
  cases key <;> rfl

@[simp] theorem tasks_replaceLease (lease : LeaseRecord) : (db.replaceLease lease).tasks = db.tasks := rfl

@[simp] theorem tasks_deactivateLeaseForTask : (db.deactivateLeaseForTask taskId).tasks = db.tasks := rfl

@[simp] theorem tasks_appendEvent : (db.appendEvent taskId eventType fromStatus toStatus).tasks = db.tasks := rfl

end Keryx.Store.Sqlite
