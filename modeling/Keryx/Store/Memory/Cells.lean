import Keryx.Store.Memory.Operations
import Keryx.Store.Sqlite.Simulation

/-! What the writes of the in-memory store do to the cell of a task. -/

namespace Keryx.Store.Memory
open Keryx.Core Relational Relational.Transaction Lifecycle

def State.cell (state : State) (taskId : TaskId) : Cell :=
  { record := state.tasks.find taskId
    log := state.events.stream taskId
    lease := state.leases.find taskId
    result := state.terminalResults.find taskId }

/-- A task that is not stored has no events. -/
def State.Quiet (state : State) : Prop := ∀ taskId, state.tasks.find taskId = none → state.events.stream taskId = []

abbrev State.Evolves (permits : TaskId → Action → Prop) (before after : State) : Prop :=
  Refines permits before.cell after.cell

section
variable {state after : State} {taskId other : TaskId}

theorem cell_appendEvent (eventType : KeryxEventType) (fromStatus : Option TaskStatus) (toStatus : TaskStatus) :
    (state.appendEvent taskId eventType fromStatus toStatus).cell other =
      if other = taskId then
        { state.cell other with log := (state.cell other).append taskId eventType fromStatus toStatus }
      else state.cell other := by
  simp only [State.cell, State.appendEvent, Journal.stream_append, Cell.append]
  split
  · rename_i same
    subst same
    rfl
  · simp

theorem cell_insertTask (task : TaskRecord) :
    (state.insertTask task).cell other =
      if other = task.id then { state.cell other with record := some task } else state.cell other := by
  simp only [State.cell, State.insertTask, Table.find_put]
  split <;> rfl

theorem cell_removeLease :
    (state.removeLease taskId).cell other =
      if other = taskId then { state.cell other with lease := none } else state.cell other := by
  simp only [State.cell, State.removeLease, Table.find_keep]
  cases held : state.leases.find other with
  | none => split <;> rfl
  | some lease =>
    have owner : lease.taskId = other := Table.find_key held
    split
    · rename_i same
      simp [owner, same]
    · rename_i different
      simp [owner, different]

theorem cell_insertLease (lease : LeaseRecord) :
    (state.insertLease lease).cell other =
      if other = lease.taskId then { state.cell other with lease := some lease } else state.cell other := by
  simp only [State.cell, State.insertLease, Table.find_put]
  split <;> rfl

theorem cell_insertIdempotency (key : Option IdempotencyKey) :
    (state.insertIdempotency key taskId).cell other = state.cell other := by
  cases key <;> rfl

theorem cell_insertTerminalResult (result : TerminalResultRecord) :
    (state.insertTerminalResult result).cell other =
      if other = result.taskId then { state.cell other with result := some result } else state.cell other := by
  have stored : ({ state with terminalResults := state.terminalResults.put result } : State).cell other =
      if other = result.taskId then { state.cell other with result := some result } else state.cell other := by
    simp only [State.cell, Table.find_put]
    split <;> rfl
  unfold State.insertTerminalResult
  cases makeOutbox result with
  | none => exact stored
  | some outbox => exact stored

@[simp] theorem getTask_bind {α : Type} {rest : TaskRecord → Mutation α} {result : α × State} :
    (getTask taskId >>= rest) state = .ok result ↔
      ∃ task, state.tasks.find taskId = some task ∧ rest task state = .ok result := by
  simp [getTask]

@[simp] theorem getTask_ok {result : TaskRecord × State} :
    getTask taskId state = .ok result ↔ state.tasks.find taskId = some result.1 ∧ state = result.2 := by
  simp [getTask]

@[simp] theorem getLease_bind {α : Type} {rest : LeaseRecord → Mutation α} {result : α × State} :
    (getLease taskId >>= rest) state = .ok result ↔
      ∃ lease, state.leases.find taskId = some lease ∧ rest lease state = .ok result := by
  simp [getLease]

theorem getOwnedLease_bind {α : Type} {leaseId : LeaseId} {workerId : AgentId} {rest : LeaseRecord → Mutation α}
    {result : α × State} :
    (getOwnedLease taskId leaseId workerId >>= rest) state = .ok result ↔
      ∃ active, state.leases.find taskId = some active ∧ active.leaseId = leaseId ∧ active.workerId = some workerId ∧
        rest active state = .ok result := by
  simp [getOwnedLease, bind_assoc]

end

variable {state : State} {taskId : TaskId} {task updated : TaskRecord} {eventType : KeryxEventType}

/-- The state after a lease is removed or kept, an event is appended and the record is written. -/
def State.written (taskId : TaskId) (keepsLease : Bool) (eventType : KeryxEventType) (fromStatus : TaskStatus)
    (updated : TaskRecord) (state : State) : State :=
  ((if keepsLease then state else state.removeLease taskId).appendEvent taskId eventType (some fromStatus)
    updated.status).insertTask updated

theorem cell_written (keepsLease : Bool) (eventType : KeryxEventType) (owner : updated.id = taskId) (other : TaskId) :
    (state.written taskId keepsLease eventType task.status updated).cell other =
      if other = taskId then advancedCell taskId (state.cell other) task updated eventType keepsLease none
      else state.cell other := by
  unfold State.written
  rw [cell_insertTask, cell_appendEvent, owner]
  by_cases same : other = taskId
  · subst same
    cases keepsLease <;> simp [cell_removeLease, advancedCell, Cell.append]
  · cases keepsLease <;> simp [cell_removeLease, same]

theorem written_removeLeaseIfTerminal {toStatus fromStatus : TaskStatus} :
    ((state.removeLeaseIfTerminal taskId toStatus).appendEvent taskId eventType (some fromStatus) toStatus).insertTask
        { task with status := toStatus } =
      state.written taskId (!toStatus.isTerminal) eventType fromStatus { task with status := toStatus } := by
  unfold State.removeLeaseIfTerminal State.written
  cases toStatus.isTerminal <;> rfl

end Keryx.Store.Memory
