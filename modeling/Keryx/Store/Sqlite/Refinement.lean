import Keryx.Store.Sqlite.Step
import Keryx.Store.Sqlite.Spec
import Keryx.Store.Safety

/-! The SQLite store refines the lifecycle machine.
Each operation takes every task through transitions that the operation permits. -/

namespace Keryx.Store.Sqlite
open Keryx.Core Relational Relational.Transaction Lifecycle

/-- The transitions an operation may take on a task. -/
def Op.permits (taskId : TaskId) (op : Op) (action : Action) : Prop :=
  match op with
  | .acceptTask task | .acceptTaskWithEnvelope task _ | .acceptTaskWithEnvelopeAndContext task _ _ =>
    action = .accept task
  | .leaseTask owner lease | .leaseTaskForPeer owner lease _ =>
    (taskId = owner ∧ (action = .lease lease ∨ action = .advance .timeOut false none)) ∨
      (taskId ≠ owner ∧ action = .evict)
  | .renewLease owner _ _ _ newExpiresAtMs => taskId = owner ∧ action = .renew newExpiresAtMs
  | .completeTask owner _ _ => taskId = owner ∧ action = .advance .complete false none
  | .completeTaskWithResult owner _ _ result => taskId = owner ∧ action = .advance .complete false (some result)
  | .failTask owner _ _ errorReason _ =>
    taskId = owner ∧ (action = .advance .failCleared false none ∨ action = .advance .retry false none ∨
      action = .advance (.deadLetter errorReason) false none ∨ action = .advance .requeue false none)
  | .failTaskWithResult owner _ _ errorReason _ result =>
    taskId = owner ∧ (action = .advance .failCleared false (some result) ∨ action = .advance .retry false none ∨
      action = .advance (.deadLetter errorReason) false (some result) ∨ action = .advance .requeue false none)
  | .retryTask owner _ _ =>
    taskId = owner ∧ (action = .advance .retry false none ∨ action = .advance .requeue false none)
  | .deadLetterTask owner _ _ reason => taskId = owner ∧ action = .advance (.deadLetter reason) false none
  | .cancelTask owner _ => taskId = owner ∧ action = .advance .cancel false none
  | .cancelTaskWithResult owner _ _ _ result => taskId = owner ∧ action = .advance .cancel false (some result)
  | .failExpiredDeadlines _ _ => action = .advance .timeOut false none
  | .recoverStaleLeases _ _ => action = .advance .recover false none ∨ action = .evict
  | .transitionTask owner _ =>
    taskId = owner ∧ (action = .advance .start true none ∨ action = .advance .complete false none ∨
      action = .advance .fail false none)
  | .acceptLegacyEvent owner eventType =>
    taskId = owner ∧ (action = .advance .start true none ∨ action = .advance .complete false none ∨
      action = .advance .fail false none ∨ (∃ preserved, action = .advance (.operational preserved) true none) ∨
      (eventType = .taskApprovalDenied ∧ action = .advance .deny false none))
  | .ingestRemoteResultWithArtifacts result _ _ =>
    taskId = result.taskId ∧ (action = .advance .start true none ∨ action = .advance .complete true (some result) ∨
      action = .advance .fail true (some result))
  | _ => False

/-- Every task of the database evolves by permitted transitions. -/
abbrev Db.Evolves (permits : TaskId → Action → Prop) (before after : Db) : Prop :=
  Refines permits before.cell after.cell

variable {permits : TaskId → Action → Prop} {db after : Db} {taskId : TaskId} {change : Change}
  {task changed : TaskRecord} {eventType : KeryxEventType} {keepsLease : Bool}

theorem insertAccepted_evolves {task : TaskRecord} (pending : task.status = .pending)
    (fresh : db.tasks.find task.id = none) (first : 1 = db.nextSequence task.id)
    (permitted : permits task.id (.accept task)) : db.Evolves permits (db.insertAccepted task) := by
  have silent : db.events.stream task.id = [] := by
    rw [Db.nextSequence, Journal.next_eq] at first
    exact List.eq_nil_of_length_eq_zero (by omega)
  apply Refines.once permitted
  · have accepted : Lifecycle.Step task.id (.accept task) (db.cell task.id) _ := .accept rfl fresh silent pending
    simpa [Db.insertAccepted, cell_appendEvent, cell_insertIdempotencyKey, cell_insertTask, pending, Cell.append]
      using accepted
  · intro other different
    simp [Db.insertAccepted, cell_appendEvent, cell_insertIdempotencyKey, cell_insertTask, different]

theorem Db.Accepts.evolves {task : TaskRecord} {held : Prop} {again add : Db → Db} {result : TaskRecord × Db}
    (accepts : db.Accepts task held again add result) (pending : task.status = .pending)
    (permitted : permits task.id (.accept task)) (repeated : ∀ other, (again db).cell other = db.cell other)
    (added : ∀ stored other, (add stored).cell other = stored.cell other) : db.Evolves permits result.2 := by
  cases accepts with
  | known present same => exact .same repeated
  | stored fresh unowned first =>
    exact (insertAccepted_evolves pending fresh first permitted).trans (.same (added _))

theorem leaseTaskWithPeerGuard_evolves {lease : LeaseRecord} {localPeerId : Option PeerId}
    {value : StoreResult TaskRecord} (leased : permits taskId (.lease lease))
    (timedOut : permits taskId (.advance .timeOut false none))
    (evicted : ∀ other, other ≠ taskId → permits other .evict)
    (success : leaseTaskWithPeerGuard taskId lease localPeerId db = .ok (value, after)) : db.Evolves permits after := by
  simp [leaseTaskWithPeerGuard, -bind_pure_comp] at success
  obtain ⟨rfl, _, _, task, present, free, success⟩ := success
  cases overdue : task.deadlineMs.filter (· ≤ lease.leasedAtMs) with
  | some deadlineMs =>
    simp [overdue, -bind_pure_comp] at success
    obtain ⟨unfinished, _, rfl⟩ := success
    apply Refines.advance timedOut present (.timeOut unfinished)
    intro other
    by_cases same : other = lease.taskId
    · subst same
      simp [cell_appendEvent, cell_updateTaskStatus, advancedCell, Cell.append, present, free]
    · simp [cell_appendEvent, cell_updateTaskStatus, same]
  | none =>
    simp [overdue, -bind_pure_comp] at success
    obtain ⟨transition, legal, _, _, _, rfl⟩ := success
    rcases validateTransition_cases legal with ⟨pending, _, rfl⟩ | ⟨_, impossible, _⟩ | ⟨_, impossible, _⟩
    · intro other
      by_cases same : other = lease.taskId
      · subst same
        have step : Lifecycle.Step lease.taskId (.lease lease) (db.cell lease.taskId) _ := .lease present pending free
        refine Lifecycle.Evolves.once leased ?_
        simpa [cell_appendEvent, cell_updateTaskStatus, cell_replaceLease, present, Cell.append] using step
      · simp only [cell_appendEvent, cell_updateTaskStatus, if_neg same]
        rcases cell_replaceLease_ne lease same with kept | lost
        · rw [kept]
          exact Lifecycle.Evolves.refl _
        · rw [lost]
          exact Lifecycle.Evolves.once (evicted other same) .evict
    · cases impossible
    · cases impossible

theorem renewLease_evolves {leaseId : LeaseId} {workerId : AgentId} {nowMs newExpiresAtMs : Int} {value : LeaseRecord}
    (permitted : permits taskId (.renew newExpiresAtMs))
    (success : renewLease taskId leaseId workerId nowMs newExpiresAtMs db = .ok (value, after)) :
    db.Evolves permits after := by
  simp [renewLease, -bind_pure_comp] at success
  obtain ⟨task, present, running, active, held, sameLease, sameWorker, _, _, rfl⟩ := success
  have cells : ∀ other, (db.renewLease taskId leaseId workerId newExpiresAtMs).cell other = if other = taskId then _ else _ :=
    fun _ => cell_renewLease newExpiresAtMs held sameLease sameWorker
  apply Refines.once permitted
  · rw [cells, if_pos rfl]
    exact .renew present running held
  · intro other different
    rw [cells, if_neg different]

theorem cell_closed (present : db.tasks.find taskId = some task) (same : Rewrites task changed) (other : TaskId) :
    (db.closed taskId changed eventType task.status).cell other =
      if other = taskId then advancedCell taskId (db.cell other) task changed eventType false none
      else db.cell other := by
  by_cases owner : other = taskId
  · subst owner
    simp [Db.closed, cell_appendEvent, cell_updateTaskMetadata, cell_deactivateLeaseForTask, advancedCell, Cell.append,
      present, ← same]
  · simp [Db.closed, cell_appendEvent, cell_updateTaskMetadata, cell_deactivateLeaseForTask, owner]

variable {leaseId : LeaseId} {workerId : AgentId} {value : TaskRecord} {changes : TaskRecord → Change}

theorem closed_evolves (permitted : permits taskId (.advance change false none))
    (present : db.tasks.find taskId = some task) (applies : Changes change task changed eventType) :
    db.Evolves permits (db.closed taskId changed eventType task.status) :=
  .advance permitted present applies (cell_closed present applies.rewrites)

theorem Db.Closes.evolves (closes : db.Closes taskId leaseId workerId changes (value, after))
    (permitted : ∀ {task changed eventType}, Changes (changes task) task changed eventType →
      permits taskId (.advance (changes task) false none)) : db.Evolves permits after := by
  obtain ⟨_, task, present, _, _, applies, same⟩ := closes
  cases same
  exact closed_evolves (permitted applies) present applies

theorem Db.Concludes.evolves {result : TerminalResultRecord}
    (concludes : db.Concludes taskId leaseId workerId changes result (value, after)) (owner : result.taskId = taskId)
    (requeued : ∀ {task changed eventType}, Changes (changes task) task changed eventType →
      changed.status.isTerminal = false → permits taskId (.advance (changes task) false none))
    (ended : ∀ {task changed eventType}, Changes (changes task) task changed eventType →
      changed.status.isTerminal = true → permits taskId (.advance (changes task) false (some result))) :
    db.Evolves permits after := by
  subst owner
  cases concludes with
  | repeated => exact Refines.refl
  | @taken task changed eventType unsettled owns present running applies =>
    unfold Db.concluded
    split
    · rename_i ends
      refine Refines.settle (ended applies ends) present applies unsettled (by rw [running]; rfl) ends fun other => ?_
      rw [cell_insertTerminalResultAndOutbox, cell_closed present applies.rewrites]
      split <;> rfl
    · rename_i unended
      exact closed_evolves (requeued applies (Bool.eq_false_of_not_eq_true unended)) present applies

/-- The database after a lease is released or kept, and a new status and its event are written. -/
def Db.moved (taskId : TaskId) (keepsLease : Bool) (eventType : KeryxEventType) (fromStatus toStatus : TaskStatus)
    (db : Db) : Db :=
  ((if keepsLease then db else db.deactivateLeaseForTask taskId).updateTaskStatus taskId toStatus).appendEvent taskId
    eventType (some fromStatus) toStatus

theorem cell_moved (keepsLease : Bool) (eventType : KeryxEventType) (present : db.tasks.find taskId = some task)
    (toStatus : TaskStatus) (other : TaskId) :
    (db.moved taskId keepsLease eventType task.status toStatus).cell other =
      if other = taskId then
        advancedCell taskId (db.cell other) task { task with status := toStatus } eventType keepsLease none
      else db.cell other := by
  by_cases owner : other = taskId
  · subst owner
    cases keepsLease <;>
      simp [Db.moved, cell_appendEvent, cell_updateTaskStatus, cell_deactivateLeaseForTask, advancedCell, Cell.append,
        present]
  · cases keepsLease <;>
      simp [Db.moved, cell_appendEvent, cell_updateTaskStatus, cell_deactivateLeaseForTask, owner]

theorem moved_evolves {toStatus : TaskStatus} (permitted : permits taskId (.advance change keepsLease none))
    (present : db.tasks.find taskId = some task)
    (applies : Changes change task { task with status := toStatus } eventType) :
    db.Evolves permits (db.moved taskId keepsLease eventType task.status toStatus) :=
  .advance permitted present applies (cell_moved keepsLease eventType present toStatus)

end Keryx.Store.Sqlite
