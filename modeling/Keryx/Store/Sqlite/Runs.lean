import Keryx.Store.Sqlite.Simulation

/-! What holds across whole runs of the SQLite store. -/

namespace Keryx.Store.Sqlite
open Keryx.Core Relational Relational.Run Relational.Transaction Lifecycle

section
variable [Sha256]

theorem run_absorbs (db : Db) (ops : List Op) (taskId : TaskId) :
    Absorbs (db.cell taskId) ((run step db ops).cell taskId) :=
  Run.related (fun before after : Db => Absorbs (before.cell taskId) (after.cell taskId)) (fun _ => Absorbs.refl _)
    (fun _ _ _ => Absorbs.trans) (fun db op => (step_refines db op taskId).absorbs) db ops

/-- Events are never lost, and a terminal task keeps its record and its result. -/
theorem run_keeps_terminal_tasks (db : Db) (ops : List Op) (taskId : TaskId) :
    db.eventsForTask taskId <+: (run step db ops).eventsForTask taskId ∧
      ((run step db ops).eventsForTask taskId).map (·.sequence) =
        List.range' 1 ((run step db ops).eventsForTask taskId).length ∧
      ∀ task, db.tasks.find taskId = some task → task.status.isTerminal = true →
        (run step db ops).tasks.find taskId = some task ∧
          (run step db ops).terminalResults.find taskId = db.terminalResults.find taskId ∧
          ∃ extra, (run step db ops).eventsForTask taskId = db.eventsForTask taskId ++ extra ∧
            ∀ event ∈ extra, event.eventType = .recoveryAction ∧ event.fromStatus = some task.status ∧
              event.toStatus = task.status := by
  have absorbs := run_absorbs db ops taskId
  simp only [Db.eventsForTask, Journal.ordered_eq]
  exact ⟨absorbs.grows, Journal.positions _ taskId, absorbs.keeps⟩

end

def sampleTask : TaskId := ⟨"task-1", by decide, by decide, by decide⟩

def sampleLease : LeaseRecord where
  leaseId := ⟨"lease-1", by decide, by decide, by decide⟩
  taskId := sampleTask
  workerId := some ⟨"worker-1", by decide, by decide, by decide⟩
  leasedAtMs := 0
  expiresAtMs := 10

def completedRun : List Op :=
  [.acceptTask (TaskRecord.new sampleTask .pending none), .leaseTask sampleTask sampleLease,
    .completeTask sampleTask sampleLease.leaseId ⟨"worker-1", by decide, by decide, by decide⟩]

theorem run_keeps_completed_sample :
    (run (@step default) (run (@step default) Db.empty completedRun) [.recoverStaleLeases 20 none]).tasks.find
      sampleTask = some (TaskRecord.new sampleTask .completed none) :=
  ((@run_keeps_terminal_tasks default (run (@step default) Db.empty completedRun) [.recoverStaleLeases 20 none]
    sampleTask).2.2 (TaskRecord.new sampleTask .completed none) (by decide) (by decide)).1

theorem permits_releases {taskId : TaskId} {op : Op} {action : Action}
    (ordinary : ∀ result artifacts executor, op ≠ .ingestRemoteResultWithArtifacts result artifacts executor)
    (permitted : op.permits taskId action) : action.Releases := by
  intro change result same
  subst same
  cases op with
  | ingestRemoteResultWithArtifacts result artifacts executor => exact absurd rfl (ordinary result artifacts executor)
  | acceptLegacyEvent owner eventType =>
    simp only [Op.permits, Action.advance.injEq, Bool.true_eq_false, and_false, false_and, false_or, or_false,
      true_and] at permitted
    rcases permitted.2 with ⟨start, _⟩ | ⟨preserved, operational, _⟩
    · exact Or.inl start
    · exact Or.inr ⟨preserved, operational⟩
  | _ => simp_all [Op.permits]

theorem permits_keepsClaim {taskId : TaskId} {op : Op} {action : Action} (permitted : op.permits taskId action) :
    action.KeepsClaim := by
  intro change result same
  subst same
  cases op with
  | transitionTask owner toStatus =>
    rcases permitted with ⟨_, same | same | same⟩ <;> cases same
    exact ⟨nofun, nofun, nofun⟩
  | acceptLegacyEvent owner eventType =>
    rcases permitted with ⟨_, same | same | same | ⟨_, same⟩ | ⟨_, same⟩⟩ <;> cases same <;> exact ⟨nofun, nofun, nofun⟩
  | ingestRemoteResultWithArtifacts received artifacts executor =>
    rcases permitted with ⟨_, same | same | same⟩ <;> cases same <;> exact ⟨nofun, nofun, nofun⟩
  | _ => simp_all [Op.permits]

/-- A remote result from the executor a task is bound to finds no active lease. -/
def Op.MeetsNoLease (db : Db) (op : Op) : Prop :=
  ∀ result artifacts executor context, op = .ingestRemoteResultWithArtifacts result artifacts executor →
    db.transportContexts.find result.taskId = some context → context.expectedExecutorPeerId = some executor →
    db.activeLease result.taskId = none

def Db.Coupled (db : Db) : Prop :=
  ∀ taskId lease, db.activeLease taskId = some lease →
    ∃ task, db.tasks.find taskId = some task ∧ task.status = .running

section
variable [Sha256]

theorem ingest_unbound {db : Db} {result : TerminalResultRecord} {artifacts : List OriginResultArtifact}
    {executor : PeerId}
    (unbound : ¬ ∃ context, db.transportContexts.find result.taskId = some context ∧
      context.expectedExecutorPeerId = some executor) :
    (ingestRemoteResultWithArtifacts result artifacts executor db).2 = db := by
  unfold ingestRemoteResultWithArtifacts
  split
  · rfl
  · rfl
  · rename_i task records inspected
    obtain ⟨⟨_, presented⟩, _⟩ := inspectRemoteResult_write inspected
    exact absurd presented.bound unbound

theorem step_coupled {db : Db} {op : Op} (coupled : db.Coupled) (meets : op.MeetsNoLease db) :
    (step db op).Coupled := by
  intro taskId
  have refined := step_refines db op taskId
  by_cases ingests : ∃ result artifacts executor, op = .ingestRemoteResultWithArtifacts result artifacts executor
  · obtain ⟨result, artifacts, executor, rfl⟩ := ingests
    by_cases bound : ∃ context, db.transportContexts.find result.taskId = some context ∧
        context.expectedExecutorPeerId = some executor
    · -- The write keeps whatever lease it finds, and it finds none.
      obtain ⟨context, found, executes⟩ := bound
      have free := meets result artifacts executor context rfl found executes
      by_cases owner : taskId = result.taskId
      · subst owner
        have still : (step db (.ingestRemoteResultWithArtifacts result artifacts executor)).activeLease result.taskId =
            none := by
          apply refined.invariant (fun cell => cell.lease = none)
            (fun action before after permitted step => step.unleased ?_) free
          rintro lease rfl
          simp [Op.permits] at permitted
        intro lease held
        rw [still] at held
        cases held
      · exact refined.invariant Lifecycle.Coupled (fun _ _ _ permitted => absurd permitted.1 owner) (coupled taskId)
    · rw [step, ingest_unbound bound]
      exact coupled taskId
  · apply refined.invariant Lifecycle.Coupled (fun _ _ _ permitted step kept => step.coupled kept ?_) (coupled taskId)
    exact permits_releases (fun result artifacts executor same => ingests ⟨result, artifacts, executor, same⟩) permitted

/-- A task with an active lease is running, as long as no result from elsewhere meets a lease. -/
theorem run_couples_leases (ops : List Op) (allowed : Along step (fun db op => op.MeetsNoLease db) Db.empty ops) :
    Throughout step Db.Coupled Db.empty ops := by
  intro passed earlier
  obtain ⟨rest, rfl⟩ := earlier
  refine Run.invariant (fun _ _ => step_coupled) ?_ (along_append.mp allowed).1
  intro taskId lease held
  cases held

theorem run_claimed (ops : List Op) (taskId : TaskId) : Claimed ((run step Db.empty ops).cell taskId) :=
  run_cell Claimed nofun (fun permitted step kept => step.claimed kept (permits_keepsClaim permitted)) ops

theorem run_settled (ops : List Op) (taskId : TaskId) : Lifecycle.Settled ((run step Db.empty ops).cell taskId) :=
  run_cell Lifecycle.Settled nofun (fun _ step => step.settled) ops

end

def samplePeer : PeerId := .literal "edge" (.refl true)

def acceptForPeer : Op :=
  .acceptTaskWithEnvelopeAndContext (TaskRecord.new sampleTask .pending none) ⟨sampleTask, [1], 0⟩
    ⟨sampleTask, none, some samplePeer, samplePeer, none, 0⟩

def ingestCompletion : Op :=
  .ingestRemoteResultWithArtifacts ⟨sampleTask, [2], .completed, none, samplePeer, 5⟩ [] samplePeer

/-- A result that arrives without a lease in its way. -/
theorem run_couples_unleased_ingest :
    Throughout (@step default) Db.Coupled Db.empty [acceptForPeer, ingestCompletion] := by
  apply @run_couples_leases default
  refine ⟨?_, ?_, trivial⟩
  · intro result artifacts executor context same
    cases same
  · intro result artifacts executor context same _ _
    cases same
    decide

/-- The local worker leases the task and the result of the same peer is ingested: the task is completed
and the worker still owns it. -/
theorem ingest_keeps_lease_of_completed_task : ¬ ∀ ops, Throughout (@step default) Db.Coupled Db.empty ops := by
  intro every
  have coupled := every [acceptForPeer, .leaseTaskForPeer sampleTask sampleLease samplePeer, ingestCompletion]
    _ (List.prefix_refl _)
  obtain ⟨task, present, running⟩ := coupled sampleTask sampleLease (by decide)
  have completed : (run (@step default) Db.empty
      [acceptForPeer, .leaseTaskForPeer sampleTask sampleLease samplePeer, ingestCompletion]).tasks.find sampleTask =
      some (TaskRecord.new sampleTask .completed none) := by decide
  cases present.symm.trans completed
  cases running

section
variable {db : Db} {taskId other : TaskId} {lease : LeaseRecord}

/-- A failed attempt changes no lease, and any other no active lease of another task. -/
def LeasesLocally (taskId : TaskId) (lease : LeaseRecord) (db : Db) : Prop :=
  ((leaseTask taskId lease db).1.isOk = false → (leaseTask taskId lease db).2.leases = db.leases) ∧
    ((leaseTask taskId lease db).1.isOk = true →
      ∀ other, other ≠ taskId → (leaseTask taskId lease db).2.activeLease other = db.activeLease other)

/-- No other task has an active lease under this id. -/
def Db.Unshared (taskId : TaskId) (leaseId : LeaseId) (db : Db) : Prop :=
  ∀ other held, other ≠ taskId → db.activeLease other = some held → held.leaseId ≠ leaseId

/-- The task waits and is not overdue, nobody holds it, and the lease names it and a worker. -/
structure Db.Grants (taskId : TaskId) (lease : LeaseRecord) (db : Db) : Prop where
  owner : lease.taskId = taskId
  owned : lease.workerId.isSome = true
  free : db.activeLease taskId = none
  waits : ∃ task, db.tasks.find taskId = some task ∧ task.status = .pending ∧
    task.deadlineMs.filter (· ≤ lease.leasedAtMs) = none

theorem activeLease_replaceLease_ne (different : other ≠ lease.taskId) :
    (db.replaceLease lease).activeLease other =
      (db.activeLease other).filter (fun held => held.leaseId ≠ lease.leaseId) := by
  have found := Table.find_put_ne (db.leases.keep (fun row => row.lease.leaseId ≠ lease.leaseId))
    { lease, active := true } different
  unfold Db.replaceLease Db.activeLease
  rw [found, Table.find_keep]
  cases db.leases.find other with
  | none => rfl
  | some row =>
    obtain ⟨held, active⟩ := row
    by_cases taken : held.leaseId = lease.leaseId <;> cases active <;> simp [Option.filter, taken]

theorem leaseTaskWithPeerGuard_leases {localPeerId : Option PeerId} {value : StoreResult TaskRecord} {after : Db}
    (success : leaseTaskWithPeerGuard taskId lease localPeerId db = .ok (value, after)) :
    (value.isOk = false ∧ after.leases = db.leases) ∨
      (value.isOk = true ∧ db.Grants taskId lease ∧ after.leases = (db.replaceLease lease).leases) := by
  simp [leaseTaskWithPeerGuard, -bind_pure_comp] at success
  obtain ⟨owner, owned, _, task, present, free, success⟩ := success
  cases overdue : task.deadlineMs.filter (· ≤ lease.leasedAtMs) with
  | some deadlineMs =>
    simp [overdue, -bind_pure_comp] at success
    obtain ⟨_, rfl, rfl⟩ := success
    exact .inl ⟨rfl, rfl⟩
  | none =>
    simp [overdue, -bind_pure_comp] at success
    obtain ⟨transition, valid, updated, _, rfl, rfl⟩ := success
    have status : task.status = .pending := by
      rcases validateTransition_cases valid with same | same | same <;> simp_all
    exact .inr ⟨rfl, ⟨owner, owned, free, task, present, status, overdue⟩, rfl⟩

theorem find_leased {task : TaskRecord} (present : db.tasks.find taskId = some task) :
    (((db.replaceLease lease).updateTaskStatus taskId .running).appendEvent taskId .taskStarted
      (some .pending) .running).tasks.find taskId = some { task with status := .running } := by
  show (db.tasks.update taskId (fun task => { task with status := .running }) fun _ => rfl).find taskId = _
  rw [Table.find_update, if_pos rfl, present]
  rfl

theorem leaseTask_isOk : (leaseTask taskId lease db).1.isOk = true ↔ db.Grants taskId lease := by
  constructor
  · intro granted
    unfold leaseTask at granted
    rcases commit_cases (leaseTaskWithPeerGuard taskId lease none) db with
      ⟨failure, failed⟩ | ⟨value, after, success, committed⟩
    · rw [failed] at granted
      cases granted
    · rw [committed] at granted
      rcases leaseTaskWithPeerGuard_leases success with ⟨refused, _⟩ | ⟨_, grants, _⟩
      · cases value <;> contradiction
      · exact grants
  · rintro ⟨rfl, owned, free, task, present, status, overdue⟩
    have matching : ensureMatchingTaskId lease.taskId lease = .ok () := demand_ok.mpr rfl
    have held : ensureLeaseHasOwner lease = .ok () := demand_ok.mpr owned
    have anywhere : ensureLocalExecutor lease.taskId (db.transportContexts.find lease.taskId) none = .ok () := rfl
    have legal : validated (validateTransition task.status .running) = .ok ⟨.pending, .running, .taskStarted⟩ := by
      rw [status]
      rfl
    unfold leaseTask commit leaseTaskWithPeerGuard
    rw [run_check matching, run_check held, run_query, run_check anywhere, run_fetchTask present,
      run_query, run_ensure free]
    simp only [overdue]
    rw [run_check legal, run_query, run_execute, run_execute, run_insertEvent]
    · rw [run_fetchTask (find_leased present)]
      rfl
    · rfl

theorem activeLease_congr {after : Db} (same : after.leases = db.leases) (taskId : TaskId) :
    after.activeLease taskId = db.activeLease taskId := by
  unfold Db.activeLease
  rw [same]

/-- Leasing is local exactly if it is refused or no other task has an active lease under the same id. -/
theorem leases_locally_iff (db : Db) (taskId : TaskId) (lease : LeaseRecord) :
    LeasesLocally taskId lease db ↔ (db.Grants taskId lease → db.Unshared taskId lease.leaseId) := by
  rw [← leaseTask_isOk]
  unfold LeasesLocally leaseTask
  rcases commit_cases (leaseTaskWithPeerGuard taskId lease none) db with
    ⟨failure, failed⟩ | ⟨value, after, success, committed⟩
  · rw [failed]
    exact ⟨fun _ granted => absurd granted Bool.false_ne_true, fun _ => ⟨fun _ => rfl, nofun⟩⟩
  rw [committed]
  rcases leaseTaskWithPeerGuard_leases success with ⟨refused, kept⟩ | ⟨granted, ⟨rfl, _, _, _⟩, replaced⟩
  · cases value with
    | ok updated => cases refused
    | error failure => exact ⟨fun _ => nofun, fun _ => ⟨fun _ => kept, nofun⟩⟩
  · cases value with
    | error failure => cases granted
    | ok updated =>
      have read : ∀ other, other ≠ lease.taskId → after.activeLease other =
          (db.activeLease other).filter (fun held => held.leaseId ≠ lease.leaseId) := by
        intro other different
        rw [activeLease_congr replaced, activeLease_replaceLease_ne different]
      constructor
      · intro keeps _ other held different holds
        have stays := (read other different).symm.trans (keeps.2 rfl other different)
        rw [holds, Option.filter_eq_some_iff] at stays
        exact of_decide_eq_true stays.2
      · intro unshared
        refine ⟨nofun, ?_⟩
        intro _ other different
        show after.activeLease other = _
        rw [read other different]
        cases holds : db.activeLease other with
        | none => rfl
        | some held =>
          exact Option.filter_eq_some_iff.mpr ⟨rfl, decide_eq_true (unshared rfl other held different holds)⟩

end

def borrowedLease : LeaseRecord :=
  { sampleLease with taskId := ⟨"task-2", by decide, by decide, by decide⟩ }

def twoPendingTasks : List Op :=
  [.acceptTask (TaskRecord.new sampleTask .pending none), .acceptTask (TaskRecord.new borrowedLease.taskId .pending none)]

/-- Another task is accepted and leased, and the deadlines are swept. -/
def otherWork : List Op :=
  [.acceptTask (TaskRecord.new borrowedLease.taskId .pending none), .leaseTask borrowedLease.taskId borrowedLease,
    .failExpiredDeadlines 5 none]

theorem borrowed_lease_id_ends_lease :
    ¬ ∀ ops taskId lease, LeasesLocally taskId lease (run (@step default) Db.empty ops) := by
  intro every
  have keeps := (every (twoPendingTasks ++ [.leaseTask sampleTask sampleLease]) borrowedLease.taskId borrowedLease).2
    (by decide) sampleTask (by decide)
  have held : (run (@step default) Db.empty (twoPendingTasks ++ [.leaseTask sampleTask sampleLease])).activeLease
      sampleTask = some sampleLease := by decide
  have lost : (leaseTask borrowedLease.taskId borrowedLease (run (@step default) Db.empty
      (twoPendingTasks ++ [.leaseTask sampleTask sampleLease]))).2.activeLease sampleTask = none := by decide
  rw [held, lost] at keeps
  cases keeps

end Keryx.Store.Sqlite
