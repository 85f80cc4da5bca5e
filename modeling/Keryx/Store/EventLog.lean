import Keryx.Store.Memory.Refinement

/-! Agreement of the event log with the task records, in both stores.
One event keeps a log from replaying: the denied approval of a pending task. -/

namespace Keryx.Store.Sqlite
open Keryx.Core Relational Relational.Run Relational.Transaction Lifecycle

/-- An accepted record is a new one, with any deadline. -/
def Op.AcceptsNew : Op → Prop
  | .acceptTask task | .acceptTaskWithEnvelope task _ | .acceptTaskWithEnvelopeAndContext task _ _ =>
    ∃ id status idempotencyKey deadlineMs, task = { TaskRecord.new id status idempotencyKey with deadlineMs }
  | _ => True

/-- The operation denies the approval of a pending task. -/
def Op.DeniesPending (db : Db) (op : Op) : Prop :=
  ∃ taskId task, op = .acceptLegacyEvent taskId .taskApprovalDenied ∧ db.tasks.find taskId = some task ∧
    task.status = .pending

def Db.Replays (db : Db) : Prop :=
  ∀ task ∈ db.tasks.rows, ∃ rebuilt, replayTaskFromSnapshotAndEvents task (db.eventsForTask task.id) = .ok rebuilt

def Db.Consistent (db : Db) : Prop := ∀ taskId, Lifecycle.Consistent taskId (db.cell taskId)

variable {db after : Db} {taskId : TaskId} {op : Op} {action : Action}

theorem Db.Consistent.replays (consistent : db.Consistent) : db.Replays := by
  intro task member
  rw [Db.eventsForTask, Journal.ordered_eq]
  exact (consistent task.id task (db.tasks.find_of_mem member)).replay

theorem Db.Consistent.empty : Db.empty.Consistent := by
  intro taskId task present
  cases present

theorem permits_replayable (fresh : op.AcceptsNew) (ordinary : ∀ owner, op ≠ .acceptLegacyEvent owner .taskApprovalDenied)
    (permitted : op.permits taskId action) : action.Replayable := by
  cases op with
  | acceptTask task =>
    obtain ⟨_, _, _, _, rfl⟩ := fresh
    rw [permitted, replayable_accept]
    rfl
  | acceptTaskWithEnvelope task envelope =>
    obtain ⟨_, _, _, _, rfl⟩ := fresh
    rw [permitted, replayable_accept]
    rfl
  | acceptTaskWithEnvelopeAndContext task envelope context =>
    obtain ⟨_, _, _, _, rfl⟩ := fresh
    rw [permitted, replayable_accept]
    rfl
  | _ => grind [Op.permits, replayable_lease, replayable_renew, replayable_evict, replayable_advance]

theorem step_consistent [Sha256] (consistent : db.Consistent) (fresh : op.AcceptsNew) (granted : ¬ op.DeniesPending db) :
    (step db op).Consistent := by
  intro taskId
  by_cases denies : ∃ owner, op = .acceptLegacyEvent owner .taskApprovalDenied
  · obtain ⟨owner, rfl⟩ := denies
    have evolves : db.Evolves (fun _ action => action.Replayable)
        (step db (.acceptLegacyEvent owner .taskApprovalDenied)) := by
      refine .commit Db.cell fun _ _ => acceptLegacyEvent_evolves (by simp) (by simp) (by simp) (by simp) ?_
      intro _ pending
      obtain ⟨task, present, pending⟩ := pending
      exact absurd ⟨owner, task, rfl, present, pending⟩ granted
    exact (evolves taskId).invariant (Lifecycle.Consistent taskId)
      (fun _ _ _ permitted step kept => step.consistent kept permitted) (consistent taskId)
  · refine (step_refines db op taskId).invariant (Lifecycle.Consistent taskId) ?_ (consistent taskId)
    intro action before after permitted step kept
    exact step.consistent kept (permits_replayable fresh (fun owner same => denies ⟨owner, same⟩) permitted)

theorem acceptLegacyEvent_denies [Sha256] {task : TaskRecord} (present : db.tasks.find taskId = some task)
    (pending : task.status = .pending) :
    step db (.acceptLegacyEvent taskId .taskApprovalDenied) = db.moved taskId false .taskFailed task.status .failed := by
  have found : (db.moved taskId false .taskFailed .pending .failed).tasks.find taskId =
      some { task with status := .failed } := by
    have cell := congrArg Cell.record (cell_moved false .taskFailed present .failed taskId)
    rw [if_pos rfl] at cell
    rw [pending] at cell
    exact cell
  have success : acceptLegacyEvent taskId .taskApprovalDenied db =
      .ok ({ task with status := .failed }, db.moved taskId false .taskFailed .pending .failed) := by
    simp only [acceptLegacyEvent, require_bind, fetchTask_bind, check_bind, query_bind]
    refine ⟨.taskApprovalDenied, rfl, task, present, .lifecycle ⟨.pending, .failed, .taskFailed⟩, ?_, ?_⟩
    · rw [pending]
      rfl
    · simp only [execute_bind, insertEvent_bind, fetchTask_ok]
      exact ⟨rfl, found, rfl⟩
  rw [step, commit_ok success, pending]

theorem step_denied [Sha256] (consistent : db.Consistent) (denies : op.DeniesPending db) : ¬ (step db op).Replays := by
  obtain ⟨taskId, task, rfl, present, pending⟩ := denies
  have owner : task.id = taskId := Table.find_key present
  subst owner
  have cell := cell_moved false .taskFailed present .failed task.id
  rw [if_pos rfl, ← acceptLegacyEvent_denies present pending] at cell
  have stored := congrArg Cell.record cell
  have log := congrArg Cell.log cell
  intro replays
  obtain ⟨rebuilt, success⟩ := replays _ (Table.find_mem stored)
  rw [Db.eventsForTask, Journal.ordered_eq] at success
  exact (consistent task.id task present).denied (.deny pending) ⟨rebuilt, (congrArg _ log).symm.trans success⟩

theorem Db.Replays.corruptTasks (replays : db.Replays) : db.corruptTasks = [] := by
  unfold Db.corruptTasks
  rw [List.map_eq_nil_iff, List.filter_eq_nil_iff]
  intro task member
  obtain ⟨rebuilt, success⟩ := replays task ((List.mem_insertionSort _).mp member)
  simp [Db.isCorrupt, success]

theorem recoverLeases_total (leases : List LeaseRecord) (db : Db) : ∃ outcome, recoverLeases leases db = .ok outcome := by
  induction leases generalizing db with
  | nil => exact ⟨_, rfl⟩
  | cons lease leases ih =>
    simp only [recoverLeases, query_bind, execute_bind]
    cases stored : db.tasks.find lease.taskId with
    | none => exact ih _
    | some task =>
      obtain ⟨⟨report, middle⟩, success⟩ := ih (db.moved lease.taskId false .recoveryAction task.status
        (recoveredStatus task.status))
      simp only [execute_bind, query_bind, insertEvent_bind]
      by_cases running : task.status = .running
      · exact ⟨_, trivial, bind_ok.mpr ⟨report, middle, success, by rw [if_pos running]; rfl⟩⟩
      · by_cases finished : task.status.isTerminal = true
        · exact ⟨_, trivial, bind_ok.mpr ⟨report, middle, success, by rw [if_neg running, if_pos finished]; rfl⟩⟩
        · exact ⟨_, trivial, bind_ok.mpr ⟨report, middle, success, by rw [if_neg running, if_neg finished]; rfl⟩⟩

theorem recoverStaleLeases_total (nowMs : Int) (limit : Option Nat) (db : Db) :
    ∃ outcome, recoverStaleLeases nowMs limit db = .ok outcome := by
  obtain ⟨⟨report, after⟩, success⟩ := recoverLeases_total (limited limit (db.staleLeases nowMs)) db
  simp only [recoverStaleLeases, query_bind]
  exact ⟨_, bind_ok.mpr ⟨report, after, success, rfl⟩⟩

theorem Db.Consistent.recovers {nowMs : Int} {limit : Option Nat} {report : RecoveryReport} (consistent : db.Consistent)
    (success : recoverStaleLeases nowMs limit db = .ok (report, after)) : report.corruptedTasks = [] := by
  have evolves : db.Evolves (fun _ action => action.Replayable) after :=
    recoverStaleLeases_evolves (fun _ => replayable_advance.mpr Change.noConfusion) (fun _ => replayable_evict) success
  have recovered : after.Consistent := fun taskId =>
    (evolves taskId).invariant (Lifecycle.Consistent taskId) (fun _ _ _ permitted step kept => step.consistent kept permitted)
      (consistent taskId)
  simp only [recoverStaleLeases, query_bind] at success
  obtain ⟨report, middle, _, ending⟩ := bind_ok.mp success
  rw [query_bind, pure_ok] at ending
  obtain ⟨rfl, rfl⟩ := Prod.mk.inj ending
  exact recovered.replays.corruptTasks

end Keryx.Store.Sqlite

namespace Keryx.Store.Memory
open Keryx.Core Relational Relational.Transaction Lifecycle
open Sqlite (Op permits_replayable)

def DeniesPending (state : State) (op : Op) : Prop :=
  ∃ taskId task, op = .acceptLegacyEvent taskId .taskApprovalDenied ∧ state.tasks.find taskId = some task ∧
    task.status = .pending

def State.Replays (state : State) : Prop :=
  ∀ task ∈ state.tasks.rows, ∃ rebuilt, replayTask task.id state = .ok (rebuilt, state)

/-- Every stored task agrees with its log, and no other task has one. -/
structure State.Consistent (state : State) : Prop where
  logs : ∀ taskId, Lifecycle.Consistent taskId (state.cell taskId)
  quiet : state.Quiet

variable {state after : State} {taskId : TaskId} {op : Op} {task : TaskRecord}

theorem State.Consistent.empty : State.empty.Consistent := by
  refine ⟨?_, fun _ _ => rfl⟩
  intro taskId task present
  cases present

theorem replayTask_ok (present : state.tasks.find taskId = some task) {rebuilt : TaskRecord} :
    replayTask taskId state = .ok (rebuilt, state) ↔
      replayTaskFromSnapshotAndEvents task (state.events.stream taskId) = .ok rebuilt := by
  simp only [replayTask, getTask_bind, query_bind, ensure_bind, check_ok, present, Option.some.injEq, exists_eq_left',
    and_true]
  refine ⟨fun both => both.2, fun success => ⟨?_, success⟩⟩
  intro silent
  rw [silent] at success
  cases success

theorem State.Consistent.replays (consistent : state.Consistent) : state.Replays := by
  intro task member
  have present := state.tasks.find_of_mem member
  obtain ⟨rebuilt, success⟩ := (consistent.logs task.id task present).replay
  exact ⟨rebuilt, (replayTask_ok present).mpr success⟩

theorem replays_of_matches {db : Sqlite.Db} (same : Matches state db) (replays : state.Replays) : db.Replays := by
  intro task member
  have present := (same.tasks task.id).trans (db.tasks.find_of_mem member)
  obtain ⟨rebuilt, success⟩ := replays task (Table.find_mem present)
  rw [replayTask_ok present, same.events, ← Journal.ordered_eq] at success
  exact ⟨rebuilt, success⟩

theorem State.Consistent.database (consistent : state.Consistent) : state.database.Consistent := by
  intro taskId
  rw [← (matches_database state).cells]
  exact consistent.logs taskId

theorem legacy_matches (taskId : TaskId) (eventType : KeryxEventType) :
    Matches (step state (.acceptLegacyEvent taskId eventType))
      (@Sqlite.step default state.database (.acceptLegacyEvent taskId eventType)) :=
  ((acceptLegacyEvent_agrees (matches_database state)).commit (matches_database state)).2

theorem step_consistent (consistent : state.Consistent) (fresh : op.AcceptsNew) (granted : ¬ DeniesPending state op) :
    (step state op).Consistent := by
  refine ⟨?_, step_quiet consistent.quiet op⟩
  by_cases denies : ∃ owner, op = .acceptLegacyEvent owner .taskApprovalDenied
  · obtain ⟨owner, rfl⟩ := denies
    intro taskId
    rw [(legacy_matches owner .taskApprovalDenied).cells]
    exact @Sqlite.step_consistent _ _ default consistent.database fresh granted taskId
  · refine (step_refines consistent.quiet op).invariant Lifecycle.Consistent ?_ consistent.logs
    intro taskId action before after permitted step kept
    exact step.consistent kept (permits_replayable fresh (fun owner same => denies ⟨owner, same⟩) permitted)

theorem step_denied (consistent : state.Consistent) (denies : DeniesPending state op) : ¬ (step state op).Replays := by
  have broken := @Sqlite.step_denied _ _ default consistent.database denies
  obtain ⟨taskId, task, rfl, _, _⟩ := denies
  intro replays
  exact broken (replays_of_matches (legacy_matches taskId .taskApprovalDenied) replays)

theorem State.Consistent.recovers {nowMs : Int} {limit : Option Nat} {report : RecoveryReport}
    (consistent : state.Consistent) (success : recoverStaleLeases nowMs limit state = .ok (report, after)) :
    report.corruptedTasks = [] := by
  have agree : Agree Matches (recoverStaleLeases nowMs limit state)
      (Sqlite.recoverStaleLeases nowMs limit state.database) := recoverStaleLeases_agrees (matches_database state)
  obtain ⟨⟨recovered, final⟩, swept⟩ := Sqlite.recoverStaleLeases_total nowMs limit state.database
  rw [success, swept] at agree
  rw [agree.1]
  exact consistent.database.recovers swept

end Keryx.Store.Memory
