import Mathlib
import Keryx.Store.Sqlite.Fencing
import Keryx.Store.Sqlite.Runs

/-! Leases as the daemon issues them, and what a worker with a released lease can still do. -/

namespace Keryx.Daemon
open Keryx.Core Store Store.Sqlite Relational Relational.Run

/-- The source panics where the result is an error. -/
def newLeaseId (taskId : TaskId) (leasedAtMs : Int) : Except ValidationError LeaseId :=
  validateIdentifier .leaseId ("lease-" ++ taskId.value ++ "-" ++ toString leasedAtMs)

theorem isAllowedIdChar_digits (n : Nat) : n.repr.toList.all isAllowedIdChar = true := by
  rw [Nat.toList_repr, List.all_eq_true]
  intro ch member
  have digit := Nat.isDigit_of_mem_toDigits (by decide) (by decide) member
  simp [isAllowedIdChar, Char.isAlphanum, digit]

theorem isAllowedIdChar_toString (value : Int) : (toString value).toList.all isAllowedIdChar = true := by
  cases value with
  | ofNat n => exact isAllowedIdChar_digits n
  | negSucc n =>
    show ("-" ++ (n + 1).repr).toList.all isAllowedIdChar = true
    rw [String.toList_append, List.all_append, isAllowedIdChar_digits]
    decide

theorem newLeaseId_value {taskId : TaskId} {leasedAtMs : Int} {leaseId : LeaseId}
    (issued : newLeaseId taskId leasedAtMs = .ok leaseId) :
    leaseId.value = "lease-" ++ taskId.value ++ "-" ++ toString leasedAtMs := by
  have allowed : ("lease-" ++ taskId.value ++ "-" ++ toString leasedAtMs).toList.all isAllowedIdChar = true := by
    simp only [String.toList_append, List.all_append, taskId.allowed, isAllowedIdChar_toString, Bool.and_true]
    decide
  have same : trim ("lease-" ++ taskId.value ++ "-" ++ toString leasedAtMs) =
      "lease-" ++ taskId.value ++ "-" ++ toString leasedAtMs := by
    rw [trim, trimChars_of_allowed allowed, String.ofList_toList]
  unfold newLeaseId validateIdentifier at issued
  simp only [same, allowed] at issued
  split at issued
  · cases issued
  · split at issued
    · cases issued
      rfl
    · cases issued

theorem newLeaseId_inj {taskId : TaskId} {first second : Int} {leaseId : LeaseId}
    (early : newLeaseId taskId first = .ok leaseId) (late : newLeaseId taskId second = .ok leaseId) :
    first = second := by
  have same := (newLeaseId_value early).symm.trans (newLeaseId_value late)
  have digits : first.repr = second.repr := by
    have chars := congrArg String.toList same
    simp only [String.toList_append, List.append_cancel_left_eq] at chars
    exact String.toList_inj.mp chars
  exact Int.repr_inj.mp digits

/-- Where leases carry the ids the daemon gives them, at distinct times, no operation that presents a lease which is
no longer active changes a row while the task is running. -/
theorem released_lease_is_fenced [Sha256] (past released later : List Op) (taskId : TaskId) (leaseId : LeaseId)
    (workerId : AgentId)
    (issued : ∀ lease ∈ granted taskId Db.empty (past ++ released ++ later),
      newLeaseId taskId lease.leasedAtMs = .ok lease.leaseId)
    (distinct : ((granted taskId Db.empty (past ++ released ++ later)).map (·.leasedAtMs)).Nodup)
    (held : ∃ active, (run step Db.empty past).activeLease taskId = some active ∧ active.leaseId = leaseId ∧
      active.workerId = some workerId)
    (freed : ∀ active, (run step Db.empty (past ++ released)).activeLease taskId = some active →
      active.leaseId ≠ leaseId)
    (task : TaskRecord) (present : (run step Db.empty (past ++ released ++ later)).tasks.find taskId = some task)
    (running : task.status = .running) (op : Op) (presents : op.Presents taskId leaseId workerId) :
    step (run step Db.empty (past ++ released ++ later)) op = run step Db.empty (past ++ released ++ later) := by
  apply step_presents_stale presents present running
  intro active current same
  rw [granted_append] at issued distinct
  -- The first grant of the id lies in the past.
  obtain ⟨owned, holds, named, _⟩ := held
  have first : ∃ lease ∈ granted taskId Db.empty (past ++ released), lease.leaseId = leaseId := by
    rcases run_leaseId holds with ⟨earlier, absent, _⟩ | ⟨lease, member, agrees⟩
    · cases absent
    · rw [granted_append]
      exact ⟨lease, List.mem_append_left _ member, agrees.trans named⟩
  obtain ⟨lease, member, agrees⟩ := first
  -- Had the id come back, it would have been granted again, and at the same time.
  rw [run_append] at current
  rcases run_leaseId current with ⟨earlier, stood, kept⟩ | ⟨again, regranted, renamed⟩
  · exact freed earlier stood (kept.trans same)
  · have early := issued lease (List.mem_append_left _ member)
    have late := issued again (List.mem_append_right _ regranted)
    rw [agrees] at early
    rw [renamed, same] at late
    have time := newLeaseId_inj early late
    rw [List.map_append, List.nodup_append] at distinct
    exact distinct.2.2 _ (List.mem_map_of_mem member) _ (List.mem_map_of_mem regranted) time

def leaseIssuedAt (leasedAtMs : Int) (leaseId : LeaseId) : LeaseRecord :=
  { sampleLease with leaseId, leasedAtMs, expiresAtMs := leasedAtMs + 10 }

def firstLease : LeaseId := ⟨"lease-task-1-0", by decide, by decide, by decide⟩

def secondLease : LeaseId := ⟨"lease-task-1-20", by decide, by decide, by decide⟩

def sampleWorker : AgentId := .literal "worker-1" (.refl true)

/-- The lease expires and is recovered, and the same worker leases the task again. -/
def leasedOnce : List Op :=
  [.acceptTask (TaskRecord.new sampleTask .pending none), .leaseTask sampleTask (leaseIssuedAt 0 firstLease)]

def leasedAgain : List Op := [.leaseTask sampleTask (leaseIssuedAt 20 secondLease)]

theorem recovered_lease_is_fenced :
    @step default (run (@step default) Db.empty (leasedOnce ++ [.recoverStaleLeases 10 none] ++ leasedAgain))
        (.completeTask sampleTask firstLease sampleWorker) =
      run (@step default) Db.empty (leasedOnce ++ [.recoverStaleLeases 10 none] ++ leasedAgain) := by
  have freed : (run (@step default) Db.empty (leasedOnce ++ [.recoverStaleLeases 10 none])).activeLease sampleTask =
      none := by decide
  refine @released_lease_is_fenced default leasedOnce [.recoverStaleLeases 10 none] leasedAgain sampleTask firstLease
    sampleWorker (by decide) (by decide) ⟨leaseIssuedAt 0 firstLease, by decide⟩ ?_
    (TaskRecord.new sampleTask .running none) (by decide) rfl _ .completeTask
  intro active current
  cases freed.symm.trans current

end Keryx.Daemon
