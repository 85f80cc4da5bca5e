import Keryx.Store.Sqlite.Simulation

/-! Lease fencing in the SQLite store: a lease identity enters a task by a granted lease only. -/

namespace Keryx.Store.Sqlite
open Keryx.Core Relational Relational.Run Relational.Transaction Lifecycle

def Op.grant (taskId : TaskId) (db : Db) : Op → Option LeaseRecord
  | .leaseTask owner lease => if owner = taskId ∧ (Sqlite.leaseTask owner lease db).1.isOk then some lease else none
  | .leaseTaskForPeer owner lease localPeerId =>
    if owner = taskId ∧ (Sqlite.leaseTaskForPeer owner lease localPeerId db).1.isOk then some lease else none
  | _ => none

def granted [Sha256] (taskId : TaskId) : Db → List Op → List LeaseRecord
  | _, [] => []
  | db, op :: ops => (op.grant taskId db).toList ++ granted taskId (step db op) ops

theorem granted_append [Sha256] {taskId : TaskId} (db : Db) (first second : List Op) :
    granted taskId db (first ++ second) = granted taskId db first ++ granted taskId (run step db first) second := by
  induction first generalizing db with
  | nil => rfl
  | cons op ops ih => simp only [List.cons_append, granted, ih, run_cons, List.append_assoc]

variable {db after : Db} {taskId : TaskId} {leaseId : LeaseId} {workerId : AgentId}

theorem leaseTaskWithPeerGuard_active {lease active : LeaseRecord} {localPeerId : Option PeerId}
    {value : StoreResult TaskRecord} (success : leaseTaskWithPeerGuard taskId lease localPeerId db = .ok (value, after))
    (held : after.activeLease taskId = some active) : active = lease ∧ value.isOk = true := by
  simp [leaseTaskWithPeerGuard, -bind_pure_comp] at success
  obtain ⟨rfl, _, _, task, present, free, success⟩ := success
  cases overdue : task.deadlineMs.filter (· ≤ lease.leasedAtMs) with
  | some deadlineMs =>
    simp [overdue, -bind_pure_comp] at success
    obtain ⟨_, _, rfl⟩ := success
    cases free.symm.trans held
  | none =>
    simp [overdue, -bind_pure_comp] at success
    obtain ⟨transition, _, updated, _, rfl, rfl⟩ := success
    have leased : ((db.replaceLease lease).cell lease.taskId).lease = some lease := by rw [cell_replaceLease]
    cases leased.symm.trans held
    exact ⟨rfl, rfl⟩

theorem leased_active {lease active : LeaseRecord} {localPeerId : Option PeerId}
    (held : (leaseOutcome (commit (leaseTaskWithPeerGuard taskId lease localPeerId) db)).2.activeLease taskId =
      some active) :
    db.activeLease taskId = some active ∨
      (active = lease ∧ (leaseOutcome (commit (leaseTaskWithPeerGuard taskId lease localPeerId) db)).1.isOk = true) := by
  rcases commit_cases (leaseTaskWithPeerGuard taskId lease localPeerId) db with
    ⟨failure, failed⟩ | ⟨value, after, success, committed⟩
  · rw [failed] at held
    exact Or.inl held
  · rw [committed] at held ⊢
    obtain ⟨same, granted⟩ := leaseTaskWithPeerGuard_active success held
    refine Or.inr ⟨same, ?_⟩
    cases value with
    | error failure => cases granted
    | ok updated => rfl

theorem permits_lease {op : Op} {lease : LeaseRecord} (permitted : op.permits taskId (.lease lease)) :
    op = .leaseTask taskId lease ∨ ∃ localPeerId, op = .leaseTaskForPeer taskId lease localPeerId := by
  cases op <;> simp_all [Op.permits]

theorem step_leaseId [Sha256] {op : Op} {active : LeaseRecord} (held : (step db op).activeLease taskId = some active) :
    (∃ earlier, db.activeLease taskId = some earlier ∧ earlier.leaseId = active.leaseId) ∨
      op.grant taskId db = some active := by
  by_cases leases : ∃ lease, op = .leaseTask taskId lease ∨ ∃ localPeerId, op = .leaseTaskForPeer taskId lease localPeerId
  · obtain ⟨lease, rfl | ⟨localPeerId, rfl⟩⟩ := leases
    all_goals
      rcases leased_active held with kept | ⟨rfl, granted⟩
      · exact Or.inl ⟨active, kept, rfl⟩
      · exact Or.inr (if_pos ⟨rfl, granted⟩)
  · refine Or.inl ((step_refines db op taskId).invariant (fun cell => ∀ lease, cell.lease = some lease →
      ∃ earlier, db.activeLease taskId = some earlier ∧ earlier.leaseId = lease.leaseId) ?_ ?_ active held)
    · intro action before after permitted step kept lease present
      rcases step.leaseId present with ⟨earlier, stood, same⟩ | rfl
      · obtain ⟨first, begun, agrees⟩ := kept earlier stood
        exact ⟨first, begun, agrees.trans same⟩
      · exact absurd ⟨lease, permits_lease permitted⟩ leases
    · intro lease present
      exact ⟨lease, present, rfl⟩

theorem run_leaseId [Sha256] {ops : List Op} {active : LeaseRecord}
    (held : (run step db ops).activeLease taskId = some active) :
    (∃ earlier, db.activeLease taskId = some earlier ∧ earlier.leaseId = active.leaseId) ∨
      ∃ lease ∈ granted taskId db ops, lease.leaseId = active.leaseId := by
  induction ops generalizing db with
  | nil => exact Or.inl ⟨active, held, rfl⟩
  | cons op ops ih =>
    rcases ih held with ⟨middle, stood, same⟩ | ⟨lease, member, same⟩
    · rcases step_leaseId stood with ⟨earlier, begun, agrees⟩ | fresh
      · exact Or.inl ⟨earlier, begun, agrees.trans same⟩
      · exact Or.inr ⟨middle, List.mem_append_left _ (Option.mem_toList.mpr fresh), same⟩
    · exact Or.inr ⟨lease, List.mem_append_right _ member, same⟩

/-- The operation is one of a lease holder, and names this lease of this task. -/
inductive Op.Presents (taskId : TaskId) (leaseId : LeaseId) (workerId : AgentId) : Op → Prop
  | renewLease (nowMs newExpiresAtMs : Int) : Presents taskId leaseId workerId
      (.renewLease taskId leaseId workerId nowMs newExpiresAtMs)
  | completeTask : Presents taskId leaseId workerId (.completeTask taskId leaseId workerId)
  | completeTaskWithResult (result : TerminalResultRecord) : Presents taskId leaseId workerId
      (.completeTaskWithResult taskId leaseId workerId result)
  | failTask (errorReason : String) (policy : RetryPolicy) : Presents taskId leaseId workerId
      (.failTask taskId leaseId workerId errorReason policy)
  | failTaskWithResult (errorReason : String) (policy : RetryPolicy) (result : TerminalResultRecord) :
      Presents taskId leaseId workerId (.failTaskWithResult taskId leaseId workerId errorReason policy result)
  | retryTask : Presents taskId leaseId workerId (.retryTask taskId leaseId workerId)
  | deadLetterTask (reason : String) : Presents taskId leaseId workerId
      (.deadLetterTask taskId leaseId workerId reason)
  | cancelTaskWithResult (nowMs : Int) (result : TerminalResultRecord) : Presents taskId leaseId workerId
      (.cancelTaskWithResult taskId (some leaseId) (some workerId) nowMs result)

theorem not_owns (stale : ∀ active, db.activeLease taskId = some active → active.leaseId ≠ leaseId) :
    ¬ db.Owns taskId leaseId workerId :=
  fun ⟨active, held, same, _⟩ => stale active held same

theorem Db.Concludes.unowned {change : TaskRecord → Change} {terminal : TerminalResultRecord} {value : TaskRecord}
    (concludes : db.Concludes taskId leaseId workerId change terminal (value, after))
    (foreign : ¬ db.Owns taskId leaseId workerId) : after = db := by
  cases concludes with
  | repeated => rfl
  | taken _ owns => exact absurd owns foreign

theorem step_presents_stale [Sha256] {op : Op} {task : TaskRecord} (presents : op.Presents taskId leaseId workerId)
    (present : db.tasks.find taskId = some task) (running : task.status = .running)
    (stale : ∀ active, db.activeLease taskId = some active → active.leaseId ≠ leaseId) : step db op = db := by
  cases presents with
  | renewLease nowMs newExpiresAtMs =>
    apply commit_unchanged
    intro value after success
    simp only [renewLease, fetchTask_bind, check_bind, fetchActiveLease_bind, ensureMatchingLeaseId, demand_ok] at success
    obtain ⟨_, _, _, _, active, held, _, same, _⟩ := success
    exact absurd same (stale active held)
  | completeTask =>
    exact commit_unchanged fun value after success => absurd (completeTask_ok.mp success).owns (not_owns stale)
  | completeTaskWithResult result =>
    exact commit_unchanged fun value after success => (completeTaskWithResult_ok.mp success).2.unowned (not_owns stale)
  | failTask errorReason policy =>
    exact commit_unchanged fun value after success => absurd (failTask_ok.mp success).owns (not_owns stale)
  | failTaskWithResult errorReason policy result =>
    exact commit_unchanged fun value after success => (failTaskWithResult_ok.mp success).2.unowned (not_owns stale)
  | retryTask =>
    exact commit_unchanged fun value after success => absurd (retryTask_ok.mp success).owns (not_owns stale)
  | deadLetterTask reason =>
    exact commit_unchanged fun value after success => absurd (deadLetterTask_ok.mp success).owns (not_owns stale)
  | cancelTaskWithResult nowMs result =>
    apply commit_unchanged
    intro value after success
    simp only [cancelTaskWithResult, check_bind, fetchTask_bind, ensureCancellationProof_bind] at success
    obtain ⟨_, _, _, _, stored, found, proved, _⟩ := success
    cases present.symm.trans found
    obtain ⟨active, leaseId, workerId, held, named, _, same, _⟩ := proved running
    cases named
    exact absurd same (stale active held)

end Keryx.Store.Sqlite
