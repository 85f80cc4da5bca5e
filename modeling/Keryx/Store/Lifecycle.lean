import Keryx.Store.Replay
import Keryx.Relational.Transaction

/-! The lifecycle of one task, as an abstract machine.
A cell holds everything a store keeps about one task, and a transition is one kind of write. -/

namespace Keryx.Store.Lifecycle
open Keryx.Core

/-- The record, event log, active lease and terminal result of one task. -/
structure Cell where
  record : Option TaskRecord
  log : List TaskEventRecord
  lease : Option LeaseRecord
  result : Option TerminalResultRecord
deriving DecidableEq

def Cell.empty : Cell := { record := none, log := [], lease := none, result := none }

/-- The ways an accepted task's record changes. -/
inductive Change where
  | start | complete | fail | failCleared | retry | requeue | deadLetter (reason : String) | cancel | timeOut
  | recover | operational (eventType : KeryxEventType) | deny
deriving DecidableEq

/-- What each change requires of the record, the record it leaves and the event that reports it. -/
inductive Changes : Change → TaskRecord → TaskRecord → KeryxEventType → Prop
  | start {task : TaskRecord} (pending : task.status = .pending) :
      Changes .start task { task with status := .running } .taskStarted
  | complete {task : TaskRecord} (running : task.status = .running) :
      Changes .complete task { task with status := .completed } .taskCompleted
  | fail {task : TaskRecord} (running : task.status = .running) :
      Changes .fail task { task with status := .failed } .taskFailed
  | failCleared {task : TaskRecord} (running : task.status = .running) :
      Changes .failCleared task
        { task with status := .failed, deadLettered := false, deadLetterReason := none } .taskFailed
  | retry {task : TaskRecord} (running : task.status = .running) :
      Changes .retry task
        { task with
          status := .pending, retryCount := saturatingAddU32 task.retryCount 1, deadLettered := false
          deadLetterReason := none } .recoveryAction
  | requeue {task : TaskRecord} (running : task.status = .running) :
      Changes .requeue task
        { task with status := .pending, retryCount := saturatingAddU32 task.retryCount 1 } .recoveryAction
  | deadLetter {task : TaskRecord} {reason : String} (running : task.status = .running) :
      Changes (.deadLetter reason) task
        { task with
          status := .failed, retryCount := saturatingAddU32 task.retryCount 1, deadLettered := true
          deadLetterReason := some reason } .taskDeadLettered
  | cancel {task : TaskRecord} (unfinished : task.status.isTerminal = false) :
      Changes .cancel task { task with status := .failed } .taskCanceled
  | timeOut {task : TaskRecord} (unfinished : task.status.isTerminal = false) :
      Changes .timeOut task { task with status := .failed } .taskTimedOut
  | recover {task : TaskRecord} :
      Changes .recover task { task with status := recoveredStatus task.status } .recoveryAction
  | operational {task : TaskRecord} {eventType : KeryxEventType}
      (replayable : isReplayableOperationalLegacyEvent eventType = true)
      (unfinished : task.status.isTerminal = false) : Changes (.operational eventType) task task eventType
  | deny {task : TaskRecord} (pending : task.status = .pending) :
      Changes .deny task { task with status := .failed } .taskFailed

section
variable {change : Change} {task changed : TaskRecord} {eventType : KeryxEventType}

/-- The identity of the task, its key and its deadline are the same. -/
abbrev Rewrites (task changed : TaskRecord) : Prop :=
  changed = { task with
    status := changed.status, retryCount := changed.retryCount, deadLettered := changed.deadLettered
    deadLetterReason := changed.deadLetterReason }

theorem Changes.rewrites (applies : Changes change task changed eventType) : Rewrites task changed := by
  cases applies <;> rfl

/-- What becomes of a task whose failure is reported. -/
def failureChange (policy : RetryPolicy) (reason : String) (task : TaskRecord) : Change :=
  if policy.maxRetries = 0 then .failCleared
  else if policy.shouldRetryAfterFailure task.retryCount then .retry
  else .deadLetter reason

theorem Changes.of_failure {policy : RetryPolicy} {reason : String}
    (applies : Changes (failureChange policy reason task) task changed eventType) :
    task.status = .running ∧
      ((policy.maxRetries = 0 ∧ failureChange policy reason task = .failCleared ∧
          changed = { task with status := .failed, deadLettered := false, deadLetterReason := none }) ∨
        (policy.shouldRetryAfterFailure task.retryCount = true ∧ failureChange policy reason task = .retry ∧
          changed = task.retried) ∨
        (policy.shouldRetryAfterFailure task.retryCount = false ∧ failureChange policy reason task = .deadLetter reason ∧
          changed = task.exhausted reason)) := by
  generalize chosen : failureChange policy reason task = kind at applies ⊢
  unfold failureChange at chosen
  split at chosen
  · rename_i final
    subst chosen
    cases applies with
    | failCleared running => exact ⟨running, .inl ⟨final, rfl, rfl⟩⟩
  split at chosen
  · rename_i left
    subst chosen
    cases applies with
    | retry running => exact ⟨running, .inr (.inl ⟨left, rfl, rfl⟩)⟩
  · rename_i used
    subst chosen
    cases applies with
    | deadLetter running => exact ⟨running, .inr (.inr ⟨Bool.eq_false_of_not_eq_true used, rfl, rfl⟩)⟩

theorem failureChange_applies (policy : RetryPolicy) (reason : String) (running : task.status = .running) :
    ∃ changed eventType, Changes (failureChange policy reason task) task changed eventType := by
  unfold failureChange
  split
  · exact ⟨_, _, .failCleared running⟩
  split
  · exact ⟨_, _, .retry running⟩
  · exact ⟨_, _, .deadLetter running⟩

end

/-- An `advance` changes the record and logs the change, keeps or drops the active lease, and may store a terminal
result. -/
inductive Action where
  | accept (task : TaskRecord)
  | lease (lease : LeaseRecord)
  | renew (expiresAtMs : Int)
  | evict
  | advance (change : Change) (keepsLease : Bool) (result : Option TerminalResultRecord)
deriving DecidableEq

def Cell.append (cell : Cell) (taskId : TaskId) (eventType : KeryxEventType) (fromStatus : Option TaskStatus)
    (toStatus : TaskStatus) : List TaskEventRecord :=
  cell.log ++ [{ taskId, sequence := cell.log.length + 1, eventType, fromStatus, toStatus }]

inductive Step (taskId : TaskId) : Action → Cell → Cell → Prop
  | accept {cell : Cell} {task : TaskRecord} (owner : task.id = taskId) (fresh : cell.record = none)
      (silent : cell.log = []) (pending : task.status = .pending) :
      Step taskId (.accept task) cell
        { cell with record := some task, log := cell.append taskId .taskAccepted none .pending }
  | lease {cell : Cell} {task : TaskRecord} {lease : LeaseRecord} (present : cell.record = some task)
      (pending : task.status = .pending) (free : cell.lease = none) :
      Step taskId (.lease lease) cell
        { cell with
          record := some { task with status := .running }
          log := cell.append taskId .taskStarted (some .pending) .running
          lease := some lease }
  | renew {cell : Cell} {task : TaskRecord} {lease : LeaseRecord} {expiresAtMs : Int}
      (present : cell.record = some task) (running : task.status = .running) (held : cell.lease = some lease) :
      Step taskId (.renew expiresAtMs) cell { cell with lease := some { lease with expiresAtMs } }
  | evict {cell : Cell} : Step taskId .evict cell { cell with lease := none }
  | advance {cell : Cell} {task changed : TaskRecord} {eventType : KeryxEventType} {change : Change}
      {keepsLease : Bool} (present : cell.record = some task) (applies : Changes change task changed eventType) :
      Step taskId (.advance change keepsLease none) cell
        { cell with
          record := some changed
          log := cell.append taskId eventType (some task.status) changed.status
          lease := if keepsLease then cell.lease else none }
  | settle {cell : Cell} {task changed : TaskRecord} {eventType : KeryxEventType} {change : Change}
      {keepsLease : Bool} {result : TerminalResultRecord} (present : cell.record = some task)
      (applies : Changes change task changed eventType) (unsettled : cell.result = none)
      (unfinished : task.status.isTerminal = false) (ends : changed.status.isTerminal = true) :
      Step taskId (.advance change keepsLease (some result)) cell
        { record := some changed
          log := cell.append taskId eventType (some task.status) changed.status
          lease := if keepsLease then cell.lease else none
          result := some result }

/-- Finitely many transitions, each of a permitted kind. -/
def Evolves (taskId : TaskId) (permits : Action → Prop) : Cell → Cell → Prop :=
  Relation.ReflTransGen (fun before after => ∃ action, permits action ∧ Step taskId action before after)

theorem Evolves.refl {taskId : TaskId} {permits : Action → Prop} (cell : Cell) : Evolves taskId permits cell cell :=
  Relation.ReflTransGen.refl

theorem Evolves.trans {taskId : TaskId} {permits : Action → Prop} {first second third : Cell}
    (earlier : Evolves taskId permits first second) (later : Evolves taskId permits second third) :
    Evolves taskId permits first third :=
  Relation.ReflTransGen.trans earlier later

theorem Evolves.once {taskId : TaskId} {permits : Action → Prop} {before after : Cell} {action : Action}
    (permitted : permits action) (step : Step taskId action before after) : Evolves taskId permits before after :=
  Relation.ReflTransGen.single ⟨action, permitted, step⟩

theorem Evolves.invariant {taskId : TaskId} {permits : Action → Prop} (property : Cell → Prop)
    (kept : ∀ action before after, permits action → Step taskId action before after → property before → property after)
    {before after : Cell} (evolves : Evolves taskId permits before after) (initial : property before) :
    property after := by
  induction evolves with
  | refl => exact initial
  | tail _ last ih =>
    obtain ⟨action, permitted, step⟩ := last
    exact kept action _ _ permitted step ih

/-- Every task of a store evolves by permitted transitions. A store is seen as a cell for each task. -/
def Refines (permits : TaskId → Action → Prop) (before after : TaskId → Cell) : Prop :=
  ∀ taskId, Evolves taskId (permits taskId) (before taskId) (after taskId)

variable {permits : TaskId → Action → Prop} {before after : TaskId → Cell} {taskId : TaskId}

theorem Refines.refl : Refines permits before before := fun _ => Evolves.refl _

theorem Refines.trans {middle : TaskId → Cell} (first : Refines permits before middle)
    (second : Refines permits middle after) : Refines permits before after :=
  fun taskId => (first taskId).trans (second taskId)

theorem Refines.same (cells : ∀ taskId, after taskId = before taskId) : Refines permits before after := by
  intro taskId
  rw [cells]
  exact Evolves.refl _

theorem Refines.mono {broader : TaskId → Action → Prop} (refines : Refines permits before after)
    (wider : ∀ taskId action, permits taskId action → broader taskId action) : Refines broader before after := by
  intro taskId
  refine Relation.ReflTransGen.mono ?_ _ _ (refines taskId)
  rintro earlier later ⟨action, permitted, step⟩
  exact ⟨action, wider taskId action permitted, step⟩

theorem Refines.once {action : Action} (permitted : permits taskId action)
    (step : Step taskId action (before taskId) (after taskId))
    (frame : ∀ other, other ≠ taskId → after other = before other) : Refines permits before after := by
  intro other
  by_cases same : other = taskId
  · subst same
    exact Evolves.once permitted step
  · rw [frame other same]
    exact Evolves.refl _

/-- The cell of a task that advances, in place of its old one. -/
def advancedCell (taskId : TaskId) (cell : Cell) (task changed : TaskRecord) (eventType : KeryxEventType)
    (keepsLease : Bool) (result : Option TerminalResultRecord) : Cell :=
  { record := some changed
    log := cell.append taskId eventType (some task.status) changed.status
    lease := if keepsLease then cell.lease else none
    result := result.or cell.result }

variable {change : Change} {task changed : TaskRecord} {eventType : KeryxEventType} {keepsLease : Bool}

theorem Refines.advance (permitted : permits taskId (.advance change keepsLease none))
    (present : (before taskId).record = some task) (applies : Changes change task changed eventType)
    (cells : ∀ other, after other =
      if other = taskId then advancedCell taskId (before other) task changed eventType keepsLease none
      else before other) : Refines permits before after := by
  apply Refines.once permitted
  · rw [cells, if_pos rfl]
    exact .advance present applies
  · intro other different
    rw [cells, if_neg different]

theorem Refines.settle {result : TerminalResultRecord}
    (permitted : permits taskId (.advance change keepsLease (some result)))
    (present : (before taskId).record = some task) (applies : Changes change task changed eventType)
    (unsettled : (before taskId).result = none) (unfinished : task.status.isTerminal = false)
    (ends : changed.status.isTerminal = true)
    (cells : ∀ other, after other =
      if other = taskId then advancedCell taskId (before other) task changed eventType keepsLease (some result)
      else before other) : Refines permits before after := by
  apply Refines.once permitted
  · rw [cells, if_pos rfl]
    exact .settle present applies unsettled unfinished ends
  · intro other different
    rw [cells, if_neg different]

open Relational in
theorem Refines.commit {σ ε α : Type} (cells : σ → TaskId → Cell) {transaction : Transaction σ ε α} {state : σ}
    (refines : ∀ value after, transaction state = .ok (value, after) → Refines permits (cells state) (cells after)) :
    Refines permits (cells state) (cells (Transaction.commit transaction state).2) := by
  rcases Transaction.commit_cases transaction state with ⟨failure, failed⟩ | ⟨value, after, success, committed⟩
  · rw [failed]
    exact Refines.refl
  · rw [committed]
    exact refines value after success

theorem Refines.invariant (property : TaskId → Cell → Prop) (refines : Refines permits before after)
    (kept : ∀ taskId action earlier later, permits taskId action → Step taskId action earlier later →
      property taskId earlier → property taskId later)
    (initial : ∀ taskId, property taskId (before taskId)) (taskId : TaskId) : property taskId (after taskId) :=
  (refines taskId).invariant (property taskId) (kept taskId) (initial taskId)

end Keryx.Store.Lifecycle
