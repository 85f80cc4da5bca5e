import Keryx.Daemon.Claim
import Keryx.Store.DeadLetter

/-! When a running task can be canceled. -/

namespace Keryx.Daemon
open Keryx.Core Store Store.Sqlite Relational Relational.Transaction

section
variable {db : Db} {taskId : TaskId} {task : TaskRecord} {active : LeaseRecord} {workerId : AgentId} {nowMs : Int}
  {result : TerminalResultRecord}

/-- The last expiry of all cannot be renewed. -/
theorem ensureActiveLeaseUnexpired_iff (low : i64Min ≤ active.expiresAtMs) (high : active.expiresAtMs ≤ i64Max) :
    ensureActiveLeaseUnexpired active nowMs = .ok () ↔ nowMs < active.expiresAtMs ∧ active.expiresAtMs ≠ i64Max := by
  rw [ensureActiveLeaseUnexpired, ensureValidLeaseExpiry, demand_ok, saturatingAddI64]
  unfold i64Min i64Max at *
  omega

theorem find_canceled (present : db.tasks.find taskId = some task) :
    ((db.deactivateLeaseForTask taskId).updateTaskStatus taskId .failed).tasks.find taskId =
      some { task with status := .failed } := by
  simp only [Db.updateTaskStatus, Table.find_update, if_true]
  rw [show (db.deactivateLeaseForTask taskId).tasks.find taskId = some task from present]
  rfl

theorem cancelTask_succeeds_iff (present : db.tasks.find taskId = some task) (running : task.status = .running)
    (held : db.activeLease taskId = some active) :
    (∃ done, Sqlite.cancelTask taskId nowMs db = .ok done) ↔ ensureActiveLeaseUnexpired active nowMs = .ok () := by
  have unfinished : TaskStatus.running.isTerminal = false := rfl
  simp only [Sqlite.cancelTask, fetchTask_bind, present, Option.some.injEq, exists_eq_left', unfinished,
    Bool.false_eq_true, if_false, ensureRunningLeaseUnexpired_bind, running, held, true_implies, exists_and_left]
  refine and_iff_left ?_
  simp only [check_bind, validated_ok, validateCancelTransition_ok, query_bind, execute_bind, insertEvent_bind,
    fetchTask_ok]
  exact ⟨(_, _), _, ⟨rfl, rfl⟩, rfl, find_canceled present, rfl⟩

theorem cancelTaskWithResult_succeeds_iff (present : db.tasks.find taskId = some task) (running : task.status = .running)
    (held : db.activeLease taskId = some active) (worker : active.workerId = some workerId)
    (unsettled : db.terminalResults.find taskId = none) (own : result.taskId = taskId)
    (failed : result.terminalStatus = .failed) :
    (∃ done, cancelTaskWithResult taskId (some active.leaseId) (some workerId) nowMs result db = .ok done) ↔
      ensureActiveLeaseUnexpired active nowMs = .ok () := by
  have valid : result.terminalStatus.isTerminal = true := by rw [failed]; rfl
  simp only [cancelTaskWithResult, check_bind, ensureResultTask_ok, own, TerminalResultRecord.validate, demand_ok, valid,
    and_self, exists_const, fetchTask_bind, present, Option.some.injEq, exists_eq_left', ensureCancellationProof_bind,
    held, running, true_implies, worker, exists_and_left, true_and]
  refine and_iff_left ?_
  simp only [validated_ok, validateCancelTransition_ok, query_bind, ensure_bind, execute_bind, insertEvent_bind,
    fetchTask_ok]
  refine ⟨(_, _), _, ⟨rfl, rfl⟩, unsettled, failed, rfl, (Eq.trans ?_ (find_canceled present)), rfl⟩
  unfold Db.insertTerminalResultAndOutbox
  cases makeOutbox result <;> rfl

end

/-- A cancellation succeeds while the lease is live and only then, unless the lease expires at the end of time. -/
theorem live_task_canceled_iff [Sha256] (history : List Op) (taskId : TaskId) (task : TaskRecord) (active : LeaseRecord)
    (workerId : AgentId) (now expiry : Int64) (result : TerminalResultRecord) :
    ∀ db, db = Run.run step Db.empty history → db.tasks.find taskId = some task → task.status = .running →
      db.activeLease taskId = some active → active.workerId = some workerId → active.expiresAtMs = expiry.toInt →
      result.taskId = taskId → result.terminalStatus = .failed →
      ((((∃ done, Sqlite.cancelTask taskId now.toInt db = .ok done) ↔ now < expiry) ∧
        ((∃ done, cancelTaskWithResult taskId (some active.leaseId) (some workerId) now.toInt result db = .ok done) ↔
          now < expiry)) ↔ ¬ (expiry = Int64.maxValue ∧ now < expiry)) := by
  rintro db rfl present running held worker expires own failed
  have unsettled := unsettled_of_running (run_settled history _) present running
  have low := expiry.le_toInt
  have high := expiry.toInt_le
  have order : now < expiry ↔ now.toInt < active.expiresAtMs := by rw [expires, Int64.lt_iff_toInt_lt]
  have last : expiry = Int64.maxValue ↔ active.expiresAtMs = i64Max := by
    rw [expires, ← Int64.toInt_inj]
    rfl
  rw [← expires] at low high
  have live : ensureActiveLeaseUnexpired active now.toInt = .ok () ↔ _ := ensureActiveLeaseUnexpired_iff low high
  rw [cancelTask_succeeds_iff present running held,
    cancelTaskWithResult_succeeds_iff present running held worker unsettled own failed, live, and_self, order, last]
  tauto

/-- The sample task, claimed for as long as a request can ask for. -/
def claimedForGood : Db :=
  (claimTask sampleRuntime none 0 5 ⟨some (protoId sampleTask), some ⟨"worker-1"⟩, Int64.maxValue⟩
    (Run.run (@step default) Db.empty [.acceptTask (TaskRecord.new sampleTask .pending none)])).2

theorem endless_lease_not_canceled :
    ∃ active workerId result, claimedForGood.tasks.find sampleTask = some (TaskRecord.new sampleTask .running none) ∧
      claimedForGood.activeLease sampleTask = some active ∧ active.workerId = some workerId ∧ 6 < active.expiresAtMs ∧
      result.taskId = sampleTask ∧ result.terminalStatus = .failed ∧
      (Sqlite.cancelTask sampleTask 6 claimedForGood).isOk = false ∧
      (cancelTaskWithResult sampleTask (some active.leaseId) (some workerId) 6 result claimedForGood).isOk = false :=
  ⟨⟨⟨"lease-task-1-5", by decide, by decide, by decide⟩, sampleTask, some sampleWorker, 5, i64Max⟩, sampleWorker,
    ⟨sampleTask, [], .failed, none, samplePeer, 0⟩, by decide +kernel, by decide +kernel, rfl, by decide, rfl, rfl,
    by decide +kernel, by decide +kernel⟩

/-- A lease of the usual length can be canceled before it expires. -/
theorem sample_lease_canceled :
    ∃ done, Sqlite.cancelTask sampleTask 6 (Run.run (@step default) Db.empty leasedSample) = .ok done := by
  have exact := @live_task_canceled_iff default leasedSample sampleTask (TaskRecord.new sampleTask .running none)
    sampleLease sampleWorker 6 10 ⟨sampleTask, [], .failed, none, samplePeer, 0⟩ _ rfl (by decide) rfl (by decide) rfl
    (by decide) rfl rfl
  exact (exact.mpr (by decide)).1.mpr (by decide)

end Keryx.Daemon
