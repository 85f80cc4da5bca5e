import Keryx.Store.EventLog

/-! Startup of the daemon, and the stores it refuses. -/

namespace Keryx.Daemon
open Keryx.Core Store Relational Relational.Run Relational.Transaction
open Sqlite (Db Op step sampleTask)

/-- The recovery commits before its report is looked at. -/
def startup (startupRecoveryNowMs : Int) (db : Db) : StoreResult RecoveryReport × Db :=
  match commit (Sqlite.recoverStaleLeases startupRecoveryNowMs none) db with
  | (.error failure, after) => (.error failure, after)
  | (.ok recovery, after) =>
    if 0 < recovery.corruptedTasks.length then (.error (.unrepairedCorruption recovery.corruptedTasks), after)
    else (.ok recovery, after)

/-- Every task replays, recovery reports no corrupt task and startup is not refused. -/
structure Sound (db : Db) : Prop where
  replays : db.Replays
  recovers : ∀ nowMs limit report after, Sqlite.recoverStaleLeases nowMs limit db = .ok (report, after) →
    report.corruptedTasks = []
  starts : ∀ nowMs corrupted, (startup nowMs db).1 ≠ .error (.unrepairedCorruption corrupted)

/-- The same of the in-memory store, which no daemon starts on. -/
structure MemorySound (state : Memory.State) : Prop where
  replays : state.Replays
  recovers : ∀ nowMs limit report after, Memory.recoverStaleLeases nowMs limit state = .ok (report, after) →
    report.corruptedTasks = []

theorem sound_of_consistent {db : Db} (consistent : db.Consistent) : Sound db where
  replays := consistent.replays
  recovers := fun _ _ _ _ => consistent.recovers
  starts := by
    intro nowMs corrupted
    obtain ⟨⟨report, after⟩, success⟩ := Sqlite.recoverStaleLeases_total nowMs none db
    have clean := consistent.recovers success
    unfold startup
    rw [commit_ok success]
    simp [clean]

theorem memorySound_of_consistent {state : Memory.State} (consistent : state.Consistent) : MemorySound state where
  replays := consistent.replays
  recovers := fun _ _ _ _ => consistent.recovers

/-- Every log replays in every state of a run, and startup is never refused, exactly when no step denies the approval
of a pending task. -/
theorem logs_replay_iff_no_pending_denied [Sha256] (ops : List Op) (fresh : ∀ op ∈ ops, op.AcceptsNew) :
    (Throughout step Sound Db.empty ops ↔ Along step (fun db op => ¬ op.DeniesPending db) Db.empty ops) ∧
      (Throughout Memory.step MemorySound .empty ops ↔
        Along Memory.step (fun state op => ¬ Memory.DeniesPending state op) .empty ops) := by
  constructor
  · refine throughout_iff Db.Consistent (fun _ => sound_of_consistent) ?_ ?_ Db.Consistent.empty fresh
    · intro db op new consistent granted
      exact Sqlite.step_consistent consistent new granted
    · intro db op _ consistent denies sound
      exact Sqlite.step_denied consistent (not_not.mp denies) sound.replays
  · refine throughout_iff Memory.State.Consistent (fun _ => memorySound_of_consistent) ?_ ?_
      Memory.State.Consistent.empty fresh
    · intro state op new consistent granted
      exact Memory.step_consistent consistent new granted
    · intro state op _ consistent denies sound
      exact Memory.step_denied consistent (not_not.mp denies) sound.replays

def acceptSample : Op := .acceptTask (TaskRecord.new sampleTask .pending none)

/-- A run that grants the approval instead. -/
theorem logs_replay_when_granted :
    Throughout (@step default) Sound Db.empty [acceptSample, .acceptLegacyEvent sampleTask .taskApprovalGranted] := by
  refine (@logs_replay_iff_no_pending_denied default _ ?_).1.mpr ⟨?_, ?_, trivial⟩
  · intro op member
    rcases List.mem_pair.mp member with rfl | rfl
    · exact ⟨sampleTask, .pending, none, none, rfl⟩
    · trivial
  · rintro ⟨taskId, task, same, _⟩
    cases same
  · rintro ⟨taskId, task, same, _⟩
    cases same

/-- Accepting a task and denying its approval corrupts its log, and the next startup is refused. -/
theorem denied_approval_corrupts_log :
    ¬ ∀ ops : List Op, (∀ op ∈ ops, op.AcceptsNew) → Throughout (@step default) Sound Db.empty ops := by
  intro every
  have sound := every [acceptSample, .acceptLegacyEvent sampleTask .taskApprovalDenied] ?_ _ (List.prefix_refl _)
  · have refused : (startup 0 (run (@step default) Db.empty
        [acceptSample, .acceptLegacyEvent sampleTask .taskApprovalDenied])).1 =
        .error (.unrepairedCorruption [sampleTask]) := by decide
    exact sound.starts 0 [sampleTask] refused
  · intro op member
    rcases List.mem_pair.mp member with rfl | rfl
    · exact ⟨sampleTask, .pending, none, none, rfl⟩
    · trivial

end Keryx.Daemon
