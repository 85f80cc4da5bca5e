import Keryx.Store.Sqlite.Operations

/-! The reads of the SQLite store. -/

namespace Keryx.Store.Sqlite
open Keryx.Core Relational

def found {α : Type} (row : Option α) (missing : StoreError) : StoreResult α :=
  match row with
  | some value => .ok value
  | none => .error missing

@[simp] theorem found_ok {α : Type} {row : Option α} {missing : StoreError} {value : α} :
    found row missing = .ok value ↔ row = some value := by
  cases row <;> simp [found]

def Db.getTask (taskId : TaskId) (db : Db) : StoreResult TaskRecord :=
  found (db.tasks.find taskId) (.taskNotFound taskId)

def Db.getTaskEnvelope (taskId : TaskId) (db : Db) : StoreResult TaskEnvelopeRecord :=
  found (db.envelopes.find taskId) (.taskEnvelopeNotFound taskId)

def Db.getTransportContext (taskId : TaskId) (db : Db) : StoreResult TaskTransportContextRecord :=
  found (db.transportContexts.find taskId) (.transportContextNotFound taskId)

def Db.countTasksByStatus (status : TaskStatus) (db : Db) : Nat :=
  (db.tasks.rows.filter (fun task => task.status = status)).length

def Db.retainedTaskEnvelopeBytes (db : Db) : Nat :=
  (db.envelopes.rows.map (fun envelope => envelope.encodedEnvelope.length)).sum

/-- A task with its envelope, where no other executor is expected. -/
def Db.offered (localPeerId : PeerId) (db : Db) (task : TaskRecord) : Option PendingTaskEnvelope :=
  let expected := (db.transportContexts.find task.id).bind (·.expectedExecutorPeerId)
  if expected.all (fun peer => peer = localPeerId) then
    (db.envelopes.find task.id).map (fun envelope => { task, envelope })
  else none

def Db.claimable (localPeerId : PeerId) (db : Db) (task : TaskRecord) : Option PendingTaskEnvelope :=
  if task.status = .pending then db.offered localPeerId task else none

def Db.claimablePendingTaskEnvelopes (localPeerId : PeerId) (limit : Nat) (db : Db) : List PendingTaskEnvelope :=
  (orderedBy (fun row : PendingTaskEnvelope => row.envelope.receivedAtMs) (fun row => row.task.id)
    (db.tasks.rows.filterMap (db.claimable localPeerId))).take limit

theorem mem_claimablePendingTaskEnvelopes {localPeerId : PeerId} {limit : Nat} {db : Db} {task : TaskRecord}
    {row : PendingTaskEnvelope} (room : db.tasks.rows.length ≤ limit) (present : db.tasks.find task.id = some task)
    (claimable : db.claimable localPeerId task = some row) :
    row ∈ db.claimablePendingTaskEnvelopes localPeerId limit := by
  have candidates := orderedBy_perm (fun row : PendingTaskEnvelope => row.envelope.receivedAtMs) (fun row => row.task.id)
    (db.tasks.rows.filterMap (db.claimable localPeerId))
  have few : (db.tasks.rows.filterMap (db.claimable localPeerId)).length ≤ limit :=
    (List.length_filterMap_le _ _).trans room
  rw [Db.claimablePendingTaskEnvelopes, List.take_of_length_le (candidates.length_eq ▸ few), candidates.mem_iff]
  exact List.mem_filterMap.mpr ⟨task, Table.find_mem present, claimable⟩

def statusToStr : TaskStatus → String
  | .pending => "pending"
  | .running => "running"
  | .completed => "completed"
  | .failed => "failed"

def strToStatus : String → StoreResult TaskStatus
  | "created" | "accepted" | "queued" | "pending" => .ok .pending
  | "awaiting_approval" =>
    .error (.database "legacy awaiting_approval task status requires explicit approval migration")
  | "leased" | "awaiting_input" | "running" => .ok .running
  | "completed" => .ok .completed
  | "failed" | "canceled" | "timed_out" | "rejected" | "dead_lettered" => .ok .failed
  | other => .error (.database s!"unknown task status: {other}")

/-- A store with the texts of its status column. Readers decode a text, while queries compare it. -/
structure StoredDb extends Db where
  text : TaskId → String
  decodes : ∀ task ∈ tasks.rows, strToStatus (text task.id) = .ok task.status

namespace StoredDb
variable (stored : StoredDb)

def countTasksByStatus (status : TaskStatus) : Nat :=
  (stored.tasks.rows.filter (fun task => stored.text task.id = statusToStr status)).length

def claimable (localPeerId : PeerId) (task : TaskRecord) : Option PendingTaskEnvelope :=
  if stored.text task.id = "pending" then stored.offered localPeerId task else none

def claimablePendingTaskEnvelopes (localPeerId : PeerId) (limit : Nat) : List PendingTaskEnvelope :=
  (orderedBy (fun row : PendingTaskEnvelope => row.envelope.receivedAtMs) (fun row => row.task.id)
    (stored.tasks.rows.filterMap (stored.claimable localPeerId))).take limit

/-- The tasks of the deadline sweep. -/
def expiredTasks (nowMs : Int) : List TaskRecord :=
  orderedBy (fun task => task.deadlineMs.getD 0) TaskRecord.id
    (stored.tasks.rows.filter (fun task =>
      task.deadlineMs.any (· ≤ nowMs) && stored.text task.id ∈ ["pending", "running"]))

/-- The queries select by the status that readers see. -/
structure FiltersAgree : Prop where
  counted : ∀ status, stored.countTasksByStatus status = stored.toDb.countTasksByStatus status
  claimed : ∀ localPeerId limit, stored.claimablePendingTaskEnvelopes localPeerId limit =
    stored.toDb.claimablePendingTaskEnvelopes localPeerId limit
  swept : ∀ nowMs limit, limited limit (stored.expiredTasks nowMs) = limited limit (stored.toDb.expiredTasks nowMs)

theorem status_of_text {task : TaskRecord} (listed : task ∈ stored.tasks.rows) {status : TaskStatus}
    (written : stored.text task.id = statusToStr status) : task.status = status := by
  have decoded := stored.decodes task listed
  rw [written] at decoded
  cases status <;> exact (Except.ok.inj decoded).symm

end StoredDb

theorem statusToStr_inj {left right : TaskStatus} : statusToStr left = statusToStr right ↔ left = right := by
  cases left <;> cases right <;> decide

/-- The queries agree with the readers exactly if every text is one that the store itself writes. -/
theorem status_filters_agree_iff (stored : StoredDb) :
    stored.FiltersAgree ↔ ∀ task ∈ stored.tasks.rows, stored.text task.id = statusToStr task.status := by
  constructor
  · -- What is counted by its text has the status, so an equal count leaves no task out.
    rintro ⟨counted, _, _⟩ task member
    have chosen : stored.tasks.rows.filter (fun other => stored.text other.id = statusToStr task.status) =
        (stored.tasks.rows.filter (·.status = task.status)).filter
          (fun other => stored.text other.id = statusToStr task.status) := by
      rw [List.filter_filter]
      refine List.filter_congr fun other listed => ?_
      rw [← Bool.decide_and, decide_eq_decide, iff_self_and]
      exact stored.status_of_text listed
    have counts := counted task.status
    rw [StoredDb.countTasksByStatus, chosen, Db.countTasksByStatus, List.length_filter_eq_length_iff] at counts
    exact of_decide_eq_true (counts task (List.mem_filter.mpr ⟨member, decide_eq_true rfl⟩))
  · intro canonical
    have written : ∀ task ∈ stored.tasks.rows, ∀ status, stored.text task.id = statusToStr status ↔ task.status = status := by
      intro task listed status
      rw [canonical task listed, statusToStr_inj]
    refine ⟨fun status => ?_, fun localPeerId limit => ?_, fun nowMs limit => congrArg (limited limit) ?_⟩
    · refine congrArg List.length (List.filter_congr fun task listed => ?_)
      exact decide_eq_decide.mpr (written task listed status)
    · refine congrArg (fun rows => (orderedBy _ _ rows).take limit) (List.filterMap_congr fun task listed => ?_)
      exact if_congr (written task listed .pending) rfl rfl
    · refine congrArg (orderedBy _ _) (List.filter_congr fun task listed => ?_)
      rw [canonical task listed]
      cases task.status <;> rfl

def dueTask : TaskRecord :=
  { TaskRecord.new (.literal "task-1" (.refl true)) .pending none with deadlineMs := some 5 }

/-- The task was queued under an old name. -/
def queuedStore : StoredDb where
  toDb := { Db.empty with tasks := Db.empty.tasks.put dueTask, envelopes := Db.empty.envelopes.put ⟨dueTask.id, [], 0⟩ }
  text := fun _ => "queued"
  decodes := by decide

/-- It is read as pending, and every query misses it. -/
theorem queued_task_missed :
    queuedStore.countTasksByStatus .pending ≠ queuedStore.toDb.countTasksByStatus .pending ∧
      queuedStore.claimablePendingTaskEnvelopes (.literal "edge" (.refl true)) 1 ≠
        queuedStore.toDb.claimablePendingTaskEnvelopes (.literal "edge" (.refl true)) 1 ∧
      queuedStore.expiredTasks 5 ≠ queuedStore.toDb.expiredTasks 5 := by
  decide

end Keryx.Store.Sqlite
