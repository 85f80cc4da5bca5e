import Keryx.Daemon.ClaimNext
import Keryx.Daemon.Incoming

/-! The claim of a task by its id, and the lease ids that claims generate. -/

namespace Keryx.Daemon
open Keryx.Core Store Proto Relational
open Session (attempt report)

structure ClaimTaskRequest where
  taskId : Option ProtoId
  workerId : Option ProtoId
  leaseDurationMs : Int64

structure ClaimTaskResponse where
  taskId : Option ProtoId
  leaseId : Option ProtoId
  workerId : Option ProtoId
  leasedAtMs : Int
  expiresAtMs : Int
  status : String
  retryCount : Nat
  deadLettered : Bool

/-- A claim is refused with a status, or its handler panics. -/
inductive ClaimFailure where
  | refused (status : Status)
  | panicked (cause : ValidationError)

/-- The part of a claim that comes before its lease. -/
def claimedNames (runtime : Runtime) (authorization : Option String) (sweptAtMs : Int) (request : ClaimTaskRequest) :
    Rpc (TaskId × AgentId) := do
  attempt (enter runtime authorization)
  let taskId ← attempt (parseRequiredTaskId request.taskId)
  let workerId ← attempt (parseRequiredAgentId request.workerId)
  let _ ← inStore (Sqlite.failExpiredDeadlines sweptAtMs none)
  pure (taskId, workerId)

def claimTask (runtime : Runtime) (authorization : Option String) (sweptAtMs leasedAtMs : Int)
    (request : ClaimTaskRequest) : Session Sqlite.Db ClaimFailure ClaimTaskResponse := do
  let names ← report .refused (claimedNames runtime authorization sweptAtMs request)
  let durationMs := normalizeLeaseDurationMs request.leaseDurationMs.toInt runtime.config
  let expiresAtMs := saturatingAddI64 leasedAtMs durationMs
  let leaseId ← attempt ((newLeaseId names.1 leasedAtMs).mapError .panicked)
  let lease : LeaseRecord := { leaseId, taskId := names.1, workerId := some names.2, leasedAtMs, expiresAtMs }
  let task ← report (fun error => .refused (storeErrorToStatus error))
    (Sqlite.leaseTaskForPeer names.1 lease runtime.config.localPeerId)
  pure
    { taskId := some (protoId task.id), leaseId := some (protoId leaseId), workerId := some (protoId names.2),
      leasedAtMs, expiresAtMs, status := taskStatusLabel task.status, retryCount := task.retryCount,
      deadLettered := task.deadLettered }

variable {taskId : TaskId} {leasedAtMs : Int} {db : Sqlite.Db}

theorem granted_ne_panicked {cause : ValidationError}
    (session : Session Sqlite.Db StoreError TaskRecord) (answer : TaskRecord → ClaimTaskResponse) :
    ((report (fun error => ClaimFailure.refused (storeErrorToStatus error)) session >>=
      fun task => pure (answer task)) db).1 ≠ .error (.panicked cause) := by
  rw [Session.bind_apply]
  unfold report
  rcases session db with ⟨error | task, after⟩
  · simp [Except.mapError]
  · simp [Except.mapError]

theorem claimTask_panics {runtime : Runtime} {authorization : Option String} {sweptAtMs : Int}
    {request : ClaimTaskRequest} {cause : ValidationError} :
    (claimTask runtime authorization sweptAtMs leasedAtMs request db).1 = .error (.panicked cause) ↔
      ∃ names, (claimedNames runtime authorization sweptAtMs request db).1 = .ok names ∧
        newLeaseId names.1 leasedAtMs = .error cause := by
  unfold claimTask
  rw [Session.bind_apply]
  rcases begun : claimedNames runtime authorization sweptAtMs request db with ⟨status | names, swept⟩
  · simp [report, begun, Except.mapError]
  · simp only [report, begun, Except.mapError, Session.attempt_bind]
    cases named : newLeaseId names.1 leasedAtMs with
    | error failure => simp [named]
    | ok leaseId =>
      constructor
      · intro panics
        exact absurd panics (granted_ne_panicked _ _)
      · intro reached
        obtain ⟨_, same, failed⟩ := reached
        cases same
        rw [named] at failed
        cases failed

/-- The prefix, the task id and the time of issue are short enough for an id. -/
def LeaseIdFits (taskId : TaskId) (leasedAtMs : Int) : Prop :=
  taskId.value.toList.length + (toString leasedAtMs).toList.length + 7 ≤ maxIdLen

theorem newLeaseId_ok_iff :
    (∃ leaseId, newLeaseId taskId leasedAtMs = .ok leaseId) ↔ LeaseIdFits taskId leasedAtMs := by
  have length : ("lease-" ++ taskId.value ++ "-" ++ toString leasedAtMs).toList.length =
      taskId.value.toList.length + (toString leasedAtMs).toList.length + 7 := by
    simp only [String.toList_append, List.length_append]
    have start : "lease-".toList.length = 6 := by decide
    have separator : "-".toList.length = 1 := by decide
    omega
  constructor
  · intro issued
    obtain ⟨leaseId, issued⟩ := issued
    have bounded := leaseId.bounded
    rw [newLeaseId_value issued, length] at bounded
    exact bounded
  · intro fits
    have allowed : ("lease-" ++ taskId.value ++ "-" ++ toString leasedAtMs).toList.all isAllowedIdChar = true := by
      simp only [String.toList_append, List.all_append, taskId.allowed, isAllowedIdChar_toString, Bool.and_true]
      decide
    have present : ("lease-" ++ taskId.value ++ "-" ++ toString leasedAtMs).toList ≠ [] := by
      apply List.ne_nil_of_length_pos
      omega
    have bounded : ("lease-" ++ taskId.value ++ "-" ++ toString leasedAtMs).toList.length ≤ maxIdLen := by
      rw [length]
      exact fits
    exact ⟨⟨_, present, bounded, allowed⟩, validateIdentifier_value ⟨_, present, bounded, allowed⟩⟩

theorem separator_notMem (n : Nat) : '-' ∉ (toString (n : Int)).toList := by
  intro member
  have digit : '-' ∈ n.repr.toList := member
  rw [Nat.toList_repr] at digit
  have isDigit := Nat.isDigit_of_mem_toDigits (by decide) (by decide) digit
  revert isDigit
  decide

theorem split_last {α : Type} {separator : α} {front front' back back' : List α} (alone : separator ∉ back)
    (alone' : separator ∉ back') (same : front ++ ([separator] ++ back) = front' ++ ([separator] ++ back')) :
    front = front' ∧ back = back' := by
  rcases List.append_eq_append_iff.mp same with ⟨between, whole, rest⟩ | ⟨between, whole, rest⟩
  · cases between with
    | nil =>
      rw [List.append_nil] at whole
      exact ⟨whole.symm, (List.cons.inj rest).2⟩
    | cons head between =>
      have inside : back = between ++ ([separator] ++ back') := (List.cons.inj rest).2
      rw [inside] at alone
      exact absurd (List.mem_append_right between List.mem_cons_self) alone
  · cases between with
    | nil =>
      rw [List.append_nil] at whole
      exact ⟨whole, (List.cons.inj rest).2.symm⟩
    | cons head between =>
      have inside : back' = between ++ ([separator] ++ back) := (List.cons.inj rest).2
      rw [inside] at alone'
      exact absurd (List.mem_append_right between List.mem_cons_self) alone'

theorem newLeaseId_pair {other : TaskId} {time : Int} {leaseId : LeaseId} (since : 0 ≤ leasedAtMs) (later : 0 ≤ time)
    (first : newLeaseId taskId leasedAtMs = .ok leaseId) (second : newLeaseId other time = .ok leaseId) :
    taskId = other ∧ leasedAtMs = time := by
  obtain ⟨early, rfl⟩ := Int.eq_ofNat_of_zero_le since
  obtain ⟨late, rfl⟩ := Int.eq_ofNat_of_zero_le later
  have same := congrArg String.toList ((newLeaseId_value first).symm.trans (newLeaseId_value second))
  simp only [String.toList_append, List.append_assoc, List.append_cancel_left_eq] at same
  have separator : "-".toList = ['-'] := by decide
  rw [separator] at same
  obtain ⟨tasks, times⟩ := split_last (separator_notMem early) (separator_notMem late) same
  exact ⟨Identifier.eq_of_value (String.toList_inj.mp tasks), Int.repr_inj.mp (String.toList_inj.mp times)⟩

/-- The lease id for a task at some time is valid: the task can be claimed by its id or as the next one and dispatched
without a panic. -/
structure LeaseNamed (taskId : TaskId) (leasedAtMs : Int) : Prop where
  named : ∃ leaseId, newLeaseId taskId leasedAtMs = .ok leaseId
  claims : ∀ runtime authorization sweptAtMs request db cause, parseRequiredTaskId request.taskId = .ok taskId →
    (claimTask runtime authorization sweptAtMs leasedAtMs request db).1 ≠ .error (.panicked cause)
  scans : ∀ (_ : Decoders) claimant candidate db, candidate.task.id = taskId →
    (attemptClaim claimant candidate leasedAtMs db).1 ≠ .failed ⟨.internal, "daemon-generated lease id is valid"⟩
  dispatches : ∀ config dispatch workerId, ∃ lease, dispatchLease config dispatch workerId leasedAtMs taskId = .ok lease

theorem take_front {front : String} (long : 3 ≤ front.toList.length) (back : String) :
    (front ++ back).toList.take 3 = front.toList.take 3 := by
  rw [String.toList_append, List.take_append_of_le_length long]

theorem storeErrorToStatus_ne_panic (error : StoreError) :
    storeErrorToStatus error ≠ ⟨.internal, "daemon-generated lease id is valid"⟩ := by
  intro same
  have code := congrArg Status.code same
  have begins := congrArg (fun status : Status => status.message.toList.take 3) same
  cases error with
  | database message =>
    have front := (take_front (by decide) message).symm.trans begins
    revert front
    decide
  | unrepairedCorruption corruptedTasks =>
    have front := (take_front (by decide) (corruptedTasksText corruptedTasks)).symm.trans begins
    revert front
    decide
  | validation failure =>
    cases failure <;> cases code
  | _ => cases code

theorem attemptClaim_ne_panic [Decoders] {claimant : Claimant} {candidate : PendingTaskEnvelope}
    {leaseId : LeaseId} (issued : newLeaseId candidate.task.id leasedAtMs = .ok leaseId) :
    (attemptClaim claimant candidate leasedAtMs db).1 ≠
      .failed ⟨.internal, "daemon-generated lease id is valid"⟩ := by
  unfold attemptClaim
  cases Decoders.taskEnvelope candidate.envelope.encodedEnvelope with
  | error failure =>
    intro same
    cases congrArg Status.code (ClaimAttempt.failed.inj same)
  | ok envelope =>
    simp only [issued]
    split
    · intro same
      cases same
    · rcases Sqlite.leaseTaskForPeer candidate.task.id (claimant.lease candidate.task.id leaseId leasedAtMs)
        claimant.localPeerId db with ⟨failure | task, after⟩
      · simp only
        split
        · intro same
          cases same
        · intro same
          exact storeErrorToStatus_ne_panic failure (ClaimAttempt.failed.inj same)
      · intro same
        cases same

theorem claimedNames_taskId {runtime : Runtime} {authorization : Option String} {sweptAtMs : Int}
    {request : ClaimTaskRequest} {names : TaskId × AgentId} (parsed : parseRequiredTaskId request.taskId = .ok taskId)
    (begun : (claimedNames runtime authorization sweptAtMs request db).1 = .ok names) : names.1 = taskId := by
  have reached : claimedNames runtime authorization sweptAtMs request db =
      (.ok names, (claimedNames runtime authorization sweptAtMs request db).2) := Prod.ext begun rfl
  unfold claimedNames at reached
  obtain ⟨_, _, reached⟩ := Session.attempt_bind_ok.mp reached
  obtain ⟨named, given, reached⟩ := Session.attempt_bind_ok.mp reached
  obtain ⟨workerId, _, reached⟩ := Session.attempt_bind_ok.mp reached
  obtain ⟨_, _, _, answered⟩ := Session.bind_ok.mp reached
  have same : (named, workerId) = names := Except.ok.inj (Prod.mk.inj answered).1
  rw [given] at parsed
  rw [← same]
  exact Except.ok.inj parsed

/-- A lease gets a valid id exactly if the task's leaves room for the time, and no two leases share one. -/
theorem lease_ids_valid_iff (taskId : TaskId) (leasedAtMs : Int) (since : 0 ≤ leasedAtMs) :
    (LeaseNamed taskId leasedAtMs ↔ LeaseIdFits taskId leasedAtMs) ∧
      ∀ other time leaseId, 0 ≤ time → newLeaseId taskId leasedAtMs = .ok leaseId →
        newLeaseId other time = .ok leaseId → taskId = other ∧ leasedAtMs = time := by
  refine ⟨⟨fun valid => newLeaseId_ok_iff.mp valid.named, fun fits => ?_⟩, ?_⟩
  · obtain ⟨leaseId, issued⟩ := newLeaseId_ok_iff.mpr fits
    refine ⟨⟨leaseId, issued⟩, ?_, ?_, ?_⟩
    · intro runtime authorization sweptAtMs request db cause parsed panics
      obtain ⟨names, begun, failed⟩ := claimTask_panics.mp panics
      rw [claimedNames_taskId parsed begun, issued] at failed
      cases failed
    · intro decoders claimant candidate db owner
      subst owner
      exact attemptClaim_ne_panic issued
    · intro config dispatch workerId
      exact ⟨_, except_bind_ok.mpr ⟨leaseId, issued, rfl⟩⟩
  · intro other time leaseId later first second
    exact newLeaseId_pair since later first second

/-- The sample task is claimed at a time of thirteen digits. -/
theorem sample_lease_id_valid : LeaseNamed Sqlite.sampleTask 1700000000000 := by
  have fits : LeaseIdFits Sqlite.sampleTask 1700000000000 := by
    have name : Sqlite.sampleTask.value.toList.length = 6 := by decide
    have time : (toString (1700000000000 : Int)).toList.length = 13 := by decide
    unfold LeaseIdFits
    rw [name, time]
    decide
  exact (lease_ids_valid_iff Sqlite.sampleTask 1700000000000 (by decide)).1.mpr fits

def longTask : TaskId where
  value := String.ofList (List.replicate maxIdLen 'a')
  present := by simp [maxIdLen]
  bounded := by simp
  allowed := by simp [isAllowedIdChar]

/-- A claim of the long task panics. -/
theorem long_task_claim_panics :
    (∃ cause, (claimTask sampleRuntime none 0 1700000000000 ⟨some (protoId longTask), some ⟨"worker-1"⟩, 0⟩
      Sqlite.Db.empty).1 = .error (.panicked cause)) ∧ ¬ LeaseNamed longTask 1700000000000 := by
  have unnamed : ¬ ∃ leaseId, newLeaseId longTask 1700000000000 = .ok leaseId := by
    rw [newLeaseId_ok_iff]
    have length : longTask.value.toList.length = 128 := by simp [longTask, maxIdLen]
    unfold LeaseIdFits
    rw [length]
    unfold maxIdLen
    omega
  constructor
  · cases failed : newLeaseId longTask 1700000000000 with
    | ok leaseId => exact absurd ⟨leaseId, failed⟩ unnamed
    | error cause =>
      refine ⟨cause, claimTask_panics.mpr ⟨(longTask, sampleWorker), ?_, failed⟩⟩
      have entered : enter sampleRuntime none = .ok () := rfl
      have task : parseRequiredTaskId (some (protoId longTask)) = .ok longTask := parseRequiredId_protoId _ longTask
      have worker : parseRequiredAgentId (some ⟨"worker-1"⟩) = .ok sampleWorker := parseRequiredId_protoId _ sampleWorker
      unfold claimedNames
      rw [Session.attempt_bind, entered]
      simp only [task, worker, Session.bind_apply]
      rfl
  · intro valid
    exact unnamed valid.named

end Keryx.Daemon
