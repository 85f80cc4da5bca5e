import Keryx.Daemon.Worker
import Keryx.Store.Sqlite.Runs

/-! What the daemon lets the holder of an expired lease do. -/

namespace Keryx.Daemon
open Keryx.Core Store Store.Sqlite Proto Relational Relational.Run Relational.Transaction
open Session (Refuses attempt_refuses consult_refuses observe_refuses perform_refuses)

inductive WorkerRequest where
  | heartbeat (request : HeartbeatRequest)
  | completeTask (request : CompleteTaskRequest)
  | failTask (request : FailTaskRequest)
  | cancelTask (request : CancelTaskRequest)

def WorkerRequest.Presents (lease : LeaseRecord) (worker : AgentId) : WorkerRequest → Prop
  | .heartbeat request =>
    parseRequiredTaskId request.taskId = .ok lease.taskId ∧ parseRequiredLeaseId request.leaseId = .ok lease.leaseId ∧
      parseRequiredAgentId request.workerId = .ok worker
  | .completeTask request =>
    parseRequiredTaskId request.taskId = .ok lease.taskId ∧ parseRequiredLeaseId request.leaseId = .ok lease.leaseId ∧
      parseRequiredAgentId request.workerId = .ok worker
  | .failTask request =>
    parseRequiredTaskId request.taskId = .ok lease.taskId ∧ parseRequiredLeaseId request.leaseId = .ok lease.leaseId ∧
      parseRequiredAgentId request.workerId = .ok worker
  | .cancelTask request =>
    parseRequiredTaskId request.taskId = .ok lease.taskId ∧
      parseOptionalLeaseId request.leaseId = .ok (some lease.leaseId) ∧
      parseOptionalAgentId request.workerId = .ok (some worker)

section
variable [Sha256] [Decoders]

/-- The daemon answers with an error and its database is as it was. -/
def WorkerRequest.Refused (runtime : Runtime) (authorization : Option String) (nowMs : Int) (db : Db) :
    WorkerRequest → Prop
  | .heartbeat request => Refuses (Daemon.heartbeat runtime authorization nowMs request) db
  | .completeTask request => Refuses (Daemon.completeTask runtime authorization nowMs request) db
  | .failTask request => Refuses (Daemon.failTask runtime authorization nowMs request) db
  | .cancelTask request => Refuses (Daemon.cancelTask runtime authorization nowMs request) db

/-- Everything but the age of the lease speaks for the request. A cancellation is repeated, never made. -/
def WorkerRequest.Acceptable (runtime : Runtime) (authorization : Option String) (nowMs : Int) (db : Db)
    (taskId : TaskId) : WorkerRequest → Prop
  | .heartbeat _ => False
  | .completeTask request =>
    enter runtime authorization = .ok () ∧
      (∃ accepted hasContent, validateWorkerResultArtifacts request.outputArtifacts = .ok (accepted, hasContent) ∧
        ensureReturnPeerTakesContent taskId hasContent db = .ok ()) ∧
      ∃ result, buildTerminalResult runtime.config.localPeerId taskId .completed request.durationMs ""
          request.resultMetadata request.outputArtifacts nowMs db = .ok result ∧
        db.TakesResult taskId (terminalResultRecord runtime.config taskId .completed result db)
  | .failTask request =>
    enter runtime authorization = .ok () ∧
      ∃ result, buildTerminalResult runtime.config.localPeerId taskId .failed request.durationMs request.errorReason
          request.failureMetadata [] nowMs db = .ok result ∧
        db.TakesResult taskId (terminalResultRecord runtime.config taskId .failed result db)
  | .cancelTask _ =>
    enter runtime authorization = .ok () ∧ ensureLocalCancellation runtime.config taskId db = .ok () ∧
      ∃ response, existingCanceledResponse taskId db = .ok (some response)

end

variable {db : Db} {taskId : TaskId} {lease : LeaseRecord} {worker : AgentId} {task : TaskRecord} {nowMs : Int}

theorem renewLease_expired (held : db.activeLease taskId = some lease) (expired : lease.expiresAtMs ≤ nowMs)
    {leaseId : LeaseId} {newExpiresAtMs : Int} {result : LeaseRecord × Db} :
    Sqlite.renewLease taskId leaseId worker nowMs newExpiresAtMs db ≠ .ok result := by
  intro success
  simp only [Sqlite.renewLease, fetchTask_bind, check_bind, fetchActiveLease_bind, ensureValidLeaseExpiry,
    demand_ok] at success
  obtain ⟨task, _, _, _, active, found, _, _, _, _, _, ⟨live, _⟩, _⟩ := success
  cases held.symm.trans found
  omega

theorem cancelTaskWithResult_expired (held : db.activeLease taskId = some lease) (expired : lease.expiresAtMs ≤ nowMs)
    (present : db.tasks.find taskId = some task) (unqueued : task.status ≠ .pending) {leaseId : Option LeaseId}
    {workerId : Option AgentId} {stored : TerminalResultRecord} {result : TaskRecord × Db} :
    Sqlite.cancelTaskWithResult taskId leaseId workerId nowMs stored db ≠ .ok result := by
  intro success
  simp only [Sqlite.cancelTaskWithResult, check_bind, fetchTask_bind, ensureCancellationProof_bind, validated_ok,
    validateCancelTransition_ok] at success
  obtain ⟨_, _, _, _, _, found, proves, transition, ⟨unfinished, _⟩, _⟩ := success
  cases present.symm.trans found
  have running : task.status = .running := by
    cases status : task.status with
    | pending => exact absurd status unqueued
    | running => rfl
    | completed => rw [status] at unfinished; cases unfinished
    | failed => rw [status] at unfinished; cases unfinished
  obtain ⟨active, _, _, holds, _, _, _, _, live⟩ := proves running
  cases held.symm.trans holds
  simp only [ensureActiveLeaseUnexpired, ensureValidLeaseExpiry, demand_ok] at live
  omega

variable {runtime : Runtime} {authorization : Option String}

theorem heartbeat_expired {request : HeartbeatRequest} (held : db.activeLease lease.taskId = some lease)
    (expired : lease.expiresAtMs ≤ nowMs) (named : parseRequiredTaskId request.taskId = .ok lease.taskId) :
    Refuses (Daemon.heartbeat runtime authorization nowMs request) db := by
  simp only [Daemon.heartbeat, attempt_refuses, inStore, perform_refuses]
  intro _ _ taskId parsed leaseId _ workerId _ result
  cases named.symm.trans parsed
  exact renewLease_expired held expired

section
variable [Sha256] [Decoders]

theorem completeTask_refuses {request : CompleteTaskRequest} (owns : db.Owns lease.taskId lease.leaseId worker)
    (present : db.tasks.find lease.taskId = some task)
    (presents : (WorkerRequest.completeTask request).Presents lease worker) :
    Refuses (Daemon.completeTask runtime authorization nowMs request) db ↔
      ¬ (WorkerRequest.completeTask request).Acceptable runtime authorization nowMs db lease.taskId := by
  obtain ⟨namesTask, namesLease, namesWorker⟩ := presents
  simp only [Daemon.completeTask, attempt_refuses, consult_refuses, observe_refuses, inStore, perform_refuses]
  constructor
  · rintro refuses ⟨entered, ⟨accepted, hasContent, valid, ready⟩, result, built, taken⟩
    obtain ⟨outcome, success⟩ := (completeTaskWithResult_takes owns present rfl rfl).mpr taken
    exact refuses () entered _ namesTask _ namesLease _ namesWorker _ valid () ready result built outcome success
  · intro unacceptable _ entered taskId parsedTask leaseId parsedLease workerId parsedWorker content valid _ ready result
      built outcome success
    cases namesTask.symm.trans parsedTask
    cases namesLease.symm.trans parsedLease
    cases namesWorker.symm.trans parsedWorker
    exact unacceptable ⟨entered, ⟨content.1, content.2, valid, ready⟩, result, built,
      (completeTaskWithResult_takes owns present rfl rfl).mp ⟨outcome, success⟩⟩

theorem failTask_refuses {request : FailTaskRequest} (owns : db.Owns lease.taskId lease.leaseId worker)
    (present : db.tasks.find lease.taskId = some task)
    (presents : (WorkerRequest.failTask request).Presents lease worker) :
    Refuses (Daemon.failTask runtime authorization nowMs request) db ↔
      ¬ (WorkerRequest.failTask request).Acceptable runtime authorization nowMs db lease.taskId := by
  obtain ⟨namesTask, namesLease, namesWorker⟩ := presents
  simp only [Daemon.failTask, attempt_refuses, consult_refuses, observe_refuses, inStore, perform_refuses]
  constructor
  · rintro refuses ⟨entered, result, built, taken⟩
    obtain ⟨outcome, success⟩ := (failTaskWithResult_takes owns present rfl rfl).mpr taken
    exact refuses () entered _ namesTask _ namesLease _ namesWorker result built outcome success
  · intro unacceptable _ entered taskId parsedTask leaseId parsedLease workerId parsedWorker result built outcome success
    cases namesTask.symm.trans parsedTask
    cases namesLease.symm.trans parsedLease
    cases namesWorker.symm.trans parsedWorker
    exact unacceptable ⟨entered, result, built, (failTaskWithResult_takes owns present rfl rfl).mp ⟨outcome, success⟩⟩

theorem cancelTask_refuses {request : CancelTaskRequest} (held : db.activeLease lease.taskId = some lease)
    (expired : lease.expiresAtMs ≤ nowMs) (present : db.tasks.find lease.taskId = some task)
    (unqueued : task.status ≠ .pending) (presents : (WorkerRequest.cancelTask request).Presents lease worker) :
    Refuses (Daemon.cancelTask runtime authorization nowMs request) db ↔
      ¬ (WorkerRequest.cancelTask request).Acceptable runtime authorization nowMs db lease.taskId := by
  obtain ⟨namesTask, namesLease, namesWorker⟩ := presents
  have parsed : ∀ cancellation, parseCancellation runtime authorization request = .ok cancellation →
      enter runtime authorization = .ok () ∧ cancellation.taskId = lease.taskId := by
    intro cancellation parsed
    simp only [parseCancellation, except_bind_ok, namesTask] at parsed
    obtain ⟨_, entered, _, ⟨⟩, _, _, _, _, ⟨⟩⟩ := parsed
    exact ⟨entered, rfl⟩
  simp only [Daemon.cancelTask, attempt_refuses, consult_refuses]
  constructor
  · rintro refuses ⟨entered, allowed, response, existing⟩
    have answered := refuses _ (by rw [parseCancellation, entered, namesTask, namesLease, namesWorker]; rfl) () allowed
      _ existing
    exact Session.pure_refuses response answered
  · intro unacceptable cancellation accepted _ allowed existing found
    obtain ⟨entered, same⟩ := parsed cancellation accepted
    rw [same] at allowed found
    cases existing with
    | some response => exact absurd ⟨entered, allowed, response, found⟩ unacceptable
    | none =>
      -- The store refuses the cancellation, and the second look finds what the first one found.
      simp only [observe_refuses]
      rw [same]
      rcases commit_cases (Sqlite.cancelTaskWithResult lease.taskId _ _ nowMs _) db with
        ⟨failure, failed⟩ | ⟨outcome, after, success, _⟩
      · rw [Session.settle_refuses failed]
        simp only [observe_refuses, found]
        exact ⟨_, rfl⟩
      · exact absurd success (cancelTaskWithResult_expired held expired present unqueued)

/-- The holder of an expired lease is refused exactly where the request fails for another reason. -/
theorem expired_lease_refused_iff (runtime : Runtime) (authorization : Option String) (ops : List Op) (nowMs : Int)
    (request : WorkerRequest) (taskId : TaskId) (lease : LeaseRecord) (worker : AgentId)
    (held : (run step Db.empty ops).activeLease taskId = some lease) (owned : lease.workerId = some worker)
    (expired : lease.expiresAtMs ≤ nowMs) (presents : request.Presents lease worker) :
    request.Refused runtime authorization nowMs (run step Db.empty ops) ↔
      ¬ request.Acceptable runtime authorization nowMs (run step Db.empty ops) taskId := by
  have owner : lease.taskId = taskId := activeLease_taskId held
  subst owner
  obtain ⟨task, present, unqueued⟩ := run_claimed ops lease.taskId lease held
  have owns : (run step Db.empty ops).Owns lease.taskId lease.leaseId worker := ⟨lease, held, rfl, owned⟩
  cases request with
  | heartbeat request => exact iff_of_true (heartbeat_expired held expired presents.1) not_false
  | completeTask request => exact completeTask_refuses owns present presents
  | failTask request => exact failTask_refuses owns present presents
  | cancelTask request => exact cancelTask_refuses held expired present unqueued presents

end

def leaseHolder : AgentId := .literal "worker-1" (.refl true)

def leasedRun : List Op := [.acceptTask (TaskRecord.new sampleTask .pending none), .leaseTask sampleTask sampleLease]

def sampleHeartbeat : HeartbeatRequest where
  taskId := some (protoId sampleTask)
  leaseId := some (protoId sampleLease.leaseId)
  workerId := some (protoId leaseHolder)
  leaseDurationMs := 1000

theorem expired_heartbeat_refused :
    @WorkerRequest.Refused default default sampleRuntime none 20 (run (@step default) Db.empty leasedRun)
      (.heartbeat sampleHeartbeat) :=
  (@expired_lease_refused_iff default default sampleRuntime none leasedRun 20 (.heartbeat sampleHeartbeat) sampleTask
    sampleLease leaseHolder (by decide) rfl (by decide)
    ⟨parseRequiredId_protoId _ _, parseRequiredId_protoId _ _, parseRequiredId_protoId _ _⟩).mpr not_false

def sampleCompletion : CompleteTaskRequest where
  taskId := some (protoId sampleTask)
  leaseId := some (protoId sampleLease.leaseId)
  workerId := some (protoId leaseHolder)
  durationMs := 0
  resultMetadata := inOrder
  outputArtifacts := [⟨"out", "text/plain", .empty, [7], 1, (default : Digest).value, true⟩]

/-- The worker completes the task ten milliseconds after its lease has expired. -/
theorem expired_lease_completes_task :
    ¬ ∀ (ops : List Op) (nowMs : Int) (request : WorkerRequest) (taskId : TaskId) (lease : LeaseRecord)
        (worker : AgentId), (run (@step default) Db.empty ops).activeLease taskId = some lease →
      lease.workerId = some worker → lease.expiresAtMs ≤ nowMs → request.Presents lease worker →
      @WorkerRequest.Refused default default sampleRuntime none nowMs (run (@step default) Db.empty ops) request := by
  intro every
  obtain ⟨failure, failed⟩ := every leasedRun 20 (.completeTask sampleCompletion) sampleTask sampleLease leaseHolder
    (by decide) rfl (by decide)
    ⟨parseRequiredId_protoId _ _, parseRequiredId_protoId _ _, parseRequiredId_protoId _ _⟩
  have completed : (@Daemon.completeTask default default sampleRuntime none 20 sampleCompletion
      (run (@step default) Db.empty leasedRun)).1.isOk = true := by decide
  rw [failed] at completed
  cases completed

end Keryx.Daemon
