import Keryx.Store.Memory.Refinement
import Keryx.Store.Sqlite.Budget

/-! When the stores dead-letter a task: a failure is measured against the retries alone. -/

namespace Keryx.Store
open Keryx.Core Lifecycle Relational Relational.Transaction
open Sqlite (sampleTask sampleLease Op)

/-- What is seen of a reported failure: its answer, and the record that the store has then. -/
structure FailureReport where
  answer : StoreResult TaskRecord
  stored : Option TaskRecord

namespace FailureReport
variable {σ : Type} {report : FailureReport} {policy : RetryPolicy} {before : TaskRecord}

def of (tasks : σ → Table TaskRecord.id) (taskId : TaskId) (outcome : StoreResult TaskRecord × σ) : FailureReport :=
  ⟨outcome.1, (tasks outcome.2).find taskId⟩

def DeadLetters (report : FailureReport) : Prop :=
  ∃ task, report = ⟨.ok task, some task⟩ ∧ task.status = .failed ∧ task.deadLettered = true

def Requeues (report : FailureReport) (before : TaskRecord) : Prop :=
  ∃ task, report = ⟨.ok task, some task⟩ ∧ task.status = .pending ∧
    task.retryCount = saturatingAddU32 before.retryCount 1

/-- The task is dead-lettered exactly when the policy says so, and goes back to the queue otherwise. -/
structure Honours (report : FailureReport) (policy : RetryPolicy) (before : TaskRecord) : Prop where
  deadLetters : report.DeadLetters ↔ policy.shouldDeadLetterAfterFailure before.retryCount = true
  requeues : report.Requeues before ↔ policy.shouldDeadLetterAfterFailure before.retryCount = false

/-- What the stores do: they look at the retries that are left. -/
structure Spends (report : FailureReport) (policy : RetryPolicy) (before : TaskRecord) : Prop where
  left : policy.shouldRetryAfterFailure before.retryCount = true → report.Requeues before
  used : policy.shouldRetryAfterFailure before.retryCount = false → report.DeadLetters

theorem Requeues.alive (requeues : report.Requeues before) : ¬ report.DeadLetters := by
  rintro ⟨task, rfl, failed, _⟩
  obtain ⟨other, same, pending, _⟩ := requeues
  cases same
  rw [pending] at failed
  cases failed

theorem Spends.honours_iff (spends : report.Spends policy before) (positive : 1 ≤ policy.maxRetries) :
    report.Honours policy before ↔ policy.ReachesThresholdLast before.retryCount := by
  rw [RetryPolicy.reachesThresholdLast_iff positive]
  cases left : policy.shouldRetryAfterFailure before.retryCount with
  | true =>
    have requeues := spends.left left
    refine ⟨fun honours => honours.requeues.mp requeues, ?_⟩
    intro alive
    exact ⟨iff_of_false requeues.alive (by rw [alive]; decide), iff_of_true requeues alive⟩
  | false =>
    have deadLetters := spends.used left
    refine ⟨fun honours => honours.deadLetters.mp deadLetters, ?_⟩
    intro dead
    exact ⟨iff_of_true deadLetters dead, iff_of_false (fun requeues => requeues.alive deadLetters) (by rw [dead]; decide)⟩

end FailureReport

theorem unsettled_of_running {cell : Cell} {task : TaskRecord} (settled : Settled cell) (present : cell.record = some task)
    (running : task.status = .running) : cell.result = none := by
  cases stored : cell.result with
  | none => rfl
  | some result =>
    obtain ⟨other, found, terminal⟩ := settled (by rw [stored]; rfl)
    cases present.symm.trans found
    rw [running] at terminal
    cases terminal

open FailureReport

variable {policy : RetryPolicy} {taskId : TaskId} {leaseId : LeaseId} {workerId : AgentId} {errorReason : String}
  {result : TerminalResultRecord} {task : TaskRecord}

namespace Sqlite
variable {db : Db}

theorem spends_of_reports {transaction : Tx TaskRecord} (reports : Ensures (Reports taskId policy db) transaction db)
    (succeeds : ∃ outcome, transaction db = .ok outcome) (present : db.tasks.find taskId = some task)
    (unsettled : db.terminalResults.find taskId = none) :
    (of Db.tasks taskId (commit transaction db)).Spends policy task := by
  obtain ⟨⟨value, after⟩, success⟩ := succeeds
  rcases reports value after success with ⟨other, found, _, reported, stored⟩ | ⟨settled, _⟩
  · cases present.symm.trans found
    rw [commit_ok success, of, stored]
    cases reported with
    | requeued left => exact ⟨fun _ => ⟨task.retried, rfl, rfl, rfl⟩, fun used => absurd (left.symm.trans used) nofun⟩
    | exhausted reason used =>
      exact ⟨fun left => absurd (left.symm.trans used) nofun, fun _ => ⟨task.exhausted reason, rfl, rfl, rfl⟩⟩
  · rw [unsettled] at settled
    cases settled

theorem failTask_succeeds (present : db.tasks.find taskId = some task) (running : task.status = .running)
    (owns : db.Owns taskId leaseId workerId) (errorReason : String) :
    ∃ outcome, failTask taskId leaseId workerId errorReason policy db = .ok outcome := by
  obtain ⟨changed, eventType, applies⟩ := failureChange_applies policy errorReason running
  exact ⟨_, failTask_ok.mpr ⟨owns, task, present, changed, eventType, applies, rfl⟩⟩

end Sqlite

namespace Memory
variable {state : State}

def State.Owns (state : State) (taskId : TaskId) (leaseId : LeaseId) (workerId : AgentId) : Prop :=
  ∃ active, state.leases.find taskId = some active ∧ active.leaseId = leaseId ∧ active.workerId = some workerId

theorem retryTaskInState_running (running : task.status = .running) (owner : task.id = taskId) (active : LeaseRecord) :
    ∃ record after, retryTaskInState taskId active task state = .ok (record, after) ∧
      after.tasks.find taskId = some record ∧ record.status = .pending ∧
        record.retryCount = saturatingAddU32 task.retryCount 1 := by
  simp only [retryTaskInState, check_bind, ensureMatchingLeaseId, requireStatus, demand_ok, running, exists_const,
    true_and, execute_bind, pure_ok]
  refine ⟨_, _, rfl, ?_, rfl, rfl⟩
  rw [← owner]
  exact Table.find_put_self _ _

theorem deadLetterTaskInState_running (running : task.status = .running) (owner : task.id = taskId)
    (active : LeaseRecord) :
    ∃ record after, deadLetterTaskInState taskId active task errorReason state = .ok (record, after) ∧
      after.tasks.find taskId = some record ∧ record.status = .failed ∧ record.deadLettered = true := by
  simp only [deadLetterTaskInState, check_bind, ensureMatchingLeaseId, requireStatus, demand_ok, running, exists_const,
    true_and, execute_bind, pure_ok, validated_ok]
  refine ⟨task.exhausted errorReason, _, ⟨_, rfl, rfl⟩, ?_, rfl, rfl⟩
  rw [← owner]
  exact Table.find_put_self _ _

theorem spends_of_choice {report last : Mutation TaskRecord} (active : LeaseRecord) (running : task.status = .running)
    (owner : task.id = taskId)
    (entered : ∀ {outcome}, report state = .ok outcome ↔ (if policy.shouldRetryAfterFailure task.retryCount then
      retryTaskInState taskId active task else last) state = .ok outcome)
    (ends : ∃ record after, last state = .ok (record, after) ∧ after.tasks.find taskId = some record ∧
      record.status = .failed ∧ record.deadLettered = true) :
    (of State.tasks taskId (commit report state)).Spends policy task := by
  constructor
  · intro left
    obtain ⟨record, after, success, stored, requeued⟩ := @retryTaskInState_running _ _ state running owner active
    rw [commit_ok (entered.mpr ((congrFun (if_pos left) state).trans success)), of, stored]
    exact ⟨record, rfl, requeued⟩
  · intro used
    obtain ⟨record, after, success, stored, dead⟩ := ends
    rw [commit_ok (entered.mpr (by rw [used]; exact success)), of, stored]
    exact ⟨record, rfl, dead⟩

theorem failTask_spends (present : state.tasks.find taskId = some task) (running : task.status = .running)
    (owns : state.Owns taskId leaseId workerId) (positive : policy.maxRetries ≠ 0) :
    (of State.tasks taskId (commit (failTask taskId leaseId workerId errorReason policy) state)).Spends policy task := by
  obtain ⟨active, held, sameLease, sameWorker⟩ := owns
  have owner : task.id = taskId := Table.find_key present
  refine spends_of_choice active running owner ?_
    (@deadLetterTaskInState_running _ errorReason _ state running owner active)
  intro outcome
  simp only [failTask, getTask_bind, getOwnedLease_bind, check_bind, requireStatus, demand_ok, present, held,
    Option.some.injEq, exists_eq_left', sameLease, sameWorker, running, exists_const, true_and, if_neg positive]

theorem failTaskWithResult_spends (present : state.tasks.find taskId = some task) (running : task.status = .running)
    (owns : state.Owns taskId leaseId workerId) (positive : policy.maxRetries ≠ 0)
    (fits : ensureResultTask result taskId = .ok ()) (unsettled : state.terminalResults.find taskId = none) :
    (of State.tasks taskId (commit (failTaskWithResult taskId leaseId workerId errorReason policy result) state)).Spends
      policy task := by
  obtain ⟨active, held, sameLease, sameWorker⟩ := owns
  have owner : task.id = taskId := Table.find_key present
  obtain ⟨record, after, success, stored, dead⟩ :=
    @deadLetterTaskInState_running _ errorReason _ state running owner active
  have kept : (after.insertTerminalResult result).tasks.find taskId = some record := by
    unfold State.insertTerminalResult
    split
    · exact stored
    · exact stored
  have settles : (deadLetterTaskInState taskId active task errorReason >>= fun updated => do
      execute (State.insertTerminalResult result)
      pure updated) state = .ok (record, after.insertTerminalResult result) := bind_ok.mpr ⟨_, _, success, rfl⟩
  refine spends_of_choice active running owner ?_ ⟨record, _, settles, kept, dead⟩
  intro outcome
  simp only [failTaskWithResult, check_bind, query_bind, fits, exists_const, unsettled, getTask_bind,
    getOwnedLease_bind, present, held, Option.some.injEq, exists_eq_left', sameLease, sameWorker, true_and,
    if_neg positive]

theorem run_settled (history : List Op) : Settled ((Run.run step State.empty history).cell taskId) := by
  refine (Run.always (fun state : State => state.Quiet ∧ Settled (state.cell taskId)) ?_
    ⟨fun _ _ => rfl, fun stored => by cases stored⟩ history).2
  rintro state op ⟨quiet, settled⟩
  exact ⟨step_quiet quiet op,
    (step_refines quiet op taskId).invariant Settled (fun _ _ _ _ step => step.settled) settled⟩

end Memory

/-- The report honours the policy where the threshold does not come before the retries are used up, and only there. -/
def HonouredIff (policy : RetryPolicy) (task : TaskRecord) (report : FailureReport) : Prop :=
  report.Honours policy task ↔ policy.ReachesThresholdLast task.retryCount

/-- None of the four implementations looks at the threshold. -/
theorem threshold_honoured_iff [Sha256] (policy : RetryPolicy) (positive : 1 ≤ policy.maxRetries) (taskId : TaskId)
    (leaseId : LeaseId) (workerId : AgentId) (errorReason : String) (result : TerminalResultRecord)
    (fits : ensureResultTask result taskId = .ok ()) (task : TaskRecord) (running : task.status = .running)
    (history : List Op) :
    (∀ db, db = Run.run Sqlite.step Sqlite.Db.empty history → db.tasks.find taskId = some task →
      db.Owns taskId leaseId workerId →
      HonouredIff policy task
          (of Sqlite.Db.tasks taskId (commit (Sqlite.failTask taskId leaseId workerId errorReason policy) db)) ∧
        HonouredIff policy task (of Sqlite.Db.tasks taskId
          (commit (Sqlite.failTaskWithResult taskId leaseId workerId errorReason policy result) db))) ∧
      ∀ state, state = Run.run Memory.step Memory.State.empty history → state.tasks.find taskId = some task →
        state.Owns taskId leaseId workerId →
        HonouredIff policy task
            (of Memory.State.tasks taskId (commit (Memory.failTask taskId leaseId workerId errorReason policy) state)) ∧
          HonouredIff policy task (of Memory.State.tasks taskId
            (commit (Memory.failTaskWithResult taskId leaseId workerId errorReason policy result) state)) := by
  have nonzero : policy.maxRetries ≠ 0 := by omega
  constructor
  · rintro db rfl present owns
    have unsettled : (Run.run Sqlite.step Sqlite.Db.empty history).terminalResults.find taskId = none :=
      unsettled_of_running (Sqlite.run_settled history taskId) present running
    obtain ⟨ends, owner⟩ := ensureResultTask_ok.mp fits
    constructor
    · apply FailureReport.Spends.honours_iff _ positive
      have succeeds := @Sqlite.failTask_succeeds policy _ _ _ _ _ present running owns errorReason
      exact Sqlite.spends_of_reports (Sqlite.failTask_reports nonzero) succeeds present unsettled
    · apply FailureReport.Spends.honours_iff _ positive
      have takes : (Run.run Sqlite.step Sqlite.Db.empty history).TakesResult taskId result := by
        rw [Sqlite.Db.TakesResult, unsettled]
        exact ⟨task, present, running⟩
      have succeeds := (@Sqlite.failTaskWithResult_takes _ _ _ _ _ errorReason policy _ owns present ends owner).mpr takes
      exact Sqlite.spends_of_reports (Sqlite.failTaskWithResult_reports nonzero) succeeds present unsettled
  · rintro state rfl present owns
    have unsettled := unsettled_of_running (Memory.run_settled history) present running
    exact ⟨(Memory.failTask_spends present running owns nonzero).honours_iff positive,
      (Memory.failTaskWithResult_spends present running owns nonzero fits unsettled).honours_iff positive⟩

def leasedSample : List Op :=
  [.acceptTask (TaskRecord.new sampleTask .pending none), .leaseTask sampleTask sampleLease]

theorem leasedSample_owned : (Run.run (@Sqlite.step default) Sqlite.Db.empty leasedSample).Owns sampleTask
    sampleLease.leaseId ⟨"worker-1", by decide, by decide, by decide⟩ :=
  ⟨sampleLease, by decide, rfl, rfl⟩

/-- A task is to be dead-lettered by its first failure, and is retried. -/
theorem early_threshold_ignored :
    ¬ ∀ (policy : RetryPolicy) (history : List Op) (taskId : TaskId) (leaseId : LeaseId) (workerId : AgentId)
        (task : TaskRecord), 1 ≤ policy.maxRetries →
      (Run.run (@Sqlite.step default) Sqlite.Db.empty history).tasks.find taskId = some task → task.status = .running →
      (Run.run (@Sqlite.step default) Sqlite.Db.empty history).Owns taskId leaseId workerId →
      (of Sqlite.Db.tasks taskId (commit (Sqlite.failTask taskId leaseId workerId "failed" policy)
        (Run.run (@Sqlite.step default) Sqlite.Db.empty history))).Honours policy task := by
  intro every
  have honours := every ⟨3, 0, 1⟩ leasedSample sampleTask sampleLease.leaseId _
    (TaskRecord.new sampleTask .running none) (by decide) (by decide) rfl leasedSample_owned
  obtain ⟨task, same, failed, _⟩ := honours.deadLetters.mpr (by decide)
  have requeued : (of Sqlite.Db.tasks sampleTask (commit (Sqlite.failTask sampleTask
      sampleLease.leaseId ⟨"worker-1", by decide, by decide, by decide⟩ "failed" ⟨3, 0, 1⟩)
      (Run.run (@Sqlite.step default) Sqlite.Db.empty leasedSample))).stored.map TaskRecord.status = some .pending := by
    decide
  rw [same] at requeued
  rw [Option.map_some, failed] at requeued
  cases requeued

/-- The default policy has its threshold where the retries end. -/
theorem default_threshold_honoured :
    (of Sqlite.Db.tasks sampleTask (commit (Sqlite.failTask sampleTask sampleLease.leaseId
      ⟨"worker-1", by decide, by decide, by decide⟩ "failed" .default)
      (Run.run (@Sqlite.step default) Sqlite.Db.empty leasedSample))).Honours .default
        (TaskRecord.new sampleTask .running none) :=
  ((@threshold_honoured_iff default .default (by decide) sampleTask sampleLease.leaseId _ "failed"
    ⟨sampleTask, [], .failed, none, Sqlite.samplePeer, 0⟩ rfl (TaskRecord.new sampleTask .running none) rfl
    leasedSample).1 _ rfl (by decide) leasedSample_owned).1.mpr (by decide)

end Keryx.Store
