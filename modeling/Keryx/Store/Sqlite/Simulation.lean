import Keryx.Store.Sqlite.Refinement
import Keryx.Store.Sqlite.Frame
import Keryx.Store.Sqlite.Inspection

/-! The remaining operations, and the SQLite store as a whole, refine the lifecycle machine. -/

namespace Keryx.Store.Sqlite
open Keryx.Core Relational Relational.Transaction Lifecycle

variable {permits : TaskId → Action → Prop} {db after : Db} {taskId : TaskId} {value task : TaskRecord} {nowMs : Int}

theorem cancelTask_evolves (permitted : permits taskId (.advance .cancel false none))
    (success : cancelTask taskId nowMs db = .ok (value, after)) : db.Evolves permits after := by
  simp only [cancelTask, fetchTask_bind] at success
  obtain ⟨task, present, success⟩ := success
  by_cases finished : task.status.isTerminal = true
  · rw [if_pos finished, pure_ok] at success
    cases success
    exact Refines.refl
  · rw [if_neg finished, ensureRunningLeaseUnexpired_bind] at success
    simp only [check_bind, validated_ok, validateCancelTransition_ok, query_bind, execute_bind, insertEvent_bind,
      fetchTask_ok] at success
    obtain ⟨_, transition, ⟨unfinished, rfl⟩, _, _, rfl⟩ := success
    exact moved_evolves permitted present (.cancel unfinished)

variable {result : TerminalResultRecord}

theorem cancelTaskWithResult_cells {leaseId : Option LeaseId} {workerId : Option AgentId}
    (success : cancelTaskWithResult taskId leaseId workerId nowMs result db = .ok (value, after)) :
    ∃ task, db.tasks.find taskId = some task ∧ task.status.isTerminal = false ∧
      db.terminalResults.find taskId = none ∧ after.tasks.find taskId = some value ∧
      ∀ other, after.cell other =
        if other = taskId then
          advancedCell taskId (db.cell other) task { task with status := .failed } .taskCanceled false (some result)
        else db.cell other := by
  simp only [cancelTaskWithResult, check_bind, fetchTask_bind, ensureCancellationProof_bind, ensureResultTask_ok,
    validated_ok, validateCancelTransition_ok, query_bind, ensure_bind, execute_bind, insertEvent_bind,
    fetchTask_ok] at success
  obtain ⟨_, ⟨_, rfl⟩, _, _, task, present, _, transition, ⟨unfinished, rfl⟩, unsettled, _, _, returned, rfl⟩ :=
    success
  refine ⟨task, present, unfinished, unsettled, returned, ?_⟩
  intro other
  rw [cell_insertTerminalResultAndOutbox]
  have moved := cell_moved false .taskCanceled present .failed other
  simp only [Db.moved, Bool.false_eq_true, if_false] at moved
  rw [moved]
  split <;> rfl

theorem cancelTaskWithResult_evolves {leaseId : Option LeaseId} {workerId : Option AgentId}
    (permitted : permits taskId (.advance .cancel false (some result)))
    (success : cancelTaskWithResult taskId leaseId workerId nowMs result db = .ok (value, after)) :
    db.Evolves permits after := by
  obtain ⟨task, present, unfinished, unsettled, _, cells⟩ := cancelTaskWithResult_cells success
  exact Refines.settle permitted present (.cancel unfinished) unsettled unfinished rfl cells

theorem transition_evolves {toStatus : TaskStatus} {transition : TaskTransition}
    (started : permits taskId (.advance .start true none)) (completed : permits taskId (.advance .complete false none))
    (failed : permits taskId (.advance .fail false none)) (present : db.tasks.find taskId = some task)
    (legal : validateTransition task.status toStatus = .ok transition) :
    db.Evolves permits (db.moved taskId (!toStatus.isTerminal) transition.eventType task.status toStatus) := by
  rcases validateTransition_cases legal with ⟨pending, rfl, rfl⟩ | ⟨running, rfl, rfl⟩ | ⟨running, rfl, rfl⟩
  · exact moved_evolves started present (.start pending)
  · exact moved_evolves completed present (.complete running)
  · exact moved_evolves failed present (.fail running)

theorem moved_deactivateLeaseIfTerminal {toStatus fromStatus : TaskStatus} {eventType : KeryxEventType} :
    ((db.deactivateLeaseIfTerminal taskId toStatus).updateTaskStatus taskId toStatus).appendEvent taskId eventType
        (some fromStatus) toStatus = db.moved taskId (!toStatus.isTerminal) eventType fromStatus toStatus := by
  unfold Db.deactivateLeaseIfTerminal Db.moved
  cases toStatus.isTerminal <;> rfl

theorem transitionTask_evolves {toStatus : TaskStatus} (started : permits taskId (.advance .start true none))
    (completed : permits taskId (.advance .complete false none)) (failed : permits taskId (.advance .fail false none))
    (success : transitionTask taskId toStatus db = .ok (value, after)) : db.Evolves permits after := by
  simp only [transitionTask, fetchTask_bind, check_bind, validated_ok, query_bind, execute_bind, insertEvent_bind,
    fetchTask_ok] at success
  obtain ⟨task, present, transition, legal, _, _, rfl⟩ := success
  rw [(validateTransition_moves legal).1, (validateTransition_moves legal).2, moved_deactivateLeaseIfTerminal]
  exact transition_evolves started completed failed present legal

theorem isReplayableOperationalLegacyEvent_of_valid {fromStatus : TaskStatus} {legacyEvent : LegacyEventType}
    (valid : isValidOperationalLegacy fromStatus legacyEvent = true) :
    isReplayableOperationalLegacyEvent legacyEvent.asKeryxEventType = true := by
  cases fromStatus <;> cases legacyEvent <;> first | rfl | cases valid

theorem acceptLegacyEvent_evolves {eventType : KeryxEventType} (started : permits taskId (.advance .start true none))
    (completed : permits taskId (.advance .complete false none)) (failed : permits taskId (.advance .fail false none))
    (preserved : ∀ preserved, permits taskId (.advance (.operational preserved) true none))
    (denied : eventType = .taskApprovalDenied → (∃ task, db.tasks.find taskId = some task ∧ task.status = .pending) →
      permits taskId (.advance .deny false none))
    (success : acceptLegacyEvent taskId eventType db = .ok (value, after)) : db.Evolves permits after := by
  simp only [acceptLegacyEvent, require_bind, fetchTask_bind, check_bind, query_bind,
    LegacyEventType.fromKeryxEventType_some] at success
  obtain ⟨legacyEvent, rfl, task, present, plan, planned, success⟩ := success
  rcases planLegacyEventAppend_cases planned with ⟨transition, rfl, legal⟩ | ⟨pending, rfl, rfl⟩ | ⟨valid, rfl⟩
  · simp only [execute_bind, insertEvent_bind, fetchTask_ok] at success
    obtain ⟨_, _, rfl⟩ := success
    rw [(validateTransition_moves legal).1, moved_deactivateLeaseIfTerminal]
    exact transition_evolves started completed failed present legal
  · simp only [execute_bind, insertEvent_bind, fetchTask_ok] at success
    obtain ⟨_, _, rfl⟩ := success
    rw [moved_deactivateLeaseIfTerminal, ← pending]
    exact moved_evolves (denied rfl ⟨task, present, pending⟩) present (.deny pending)
  · simp only [insertEvent_bind, fetchTask_ok] at success
    obtain ⟨_, _, rfl⟩ := success
    apply Refines.advance (preserved _) present
      (.operational (isReplayableOperationalLegacyEvent_of_valid valid) (isValidOperationalLegacy_not_terminal valid))
    intro other
    rw [cell_appendEvent]
    by_cases owner : other = taskId
    · subst owner
      simp [advancedCell, Cell.append, present]
    · simp [owner]

theorem failExpiredTasks_evolves {tasks failed : List TaskRecord}
    (permitted : ∀ taskId, permits taskId (.advance .timeOut false none)) (distinct : (tasks.map TaskRecord.id).Nodup)
    (stored : ∀ task ∈ tasks, db.tasks.find task.id = some task)
    (success : failExpiredTasks tasks db = .ok (failed, after)) : db.Evolves permits after := by
  induction tasks generalizing db failed with
  | nil =>
    cases success
    exact Refines.refl
  | cons task tasks ih =>
    simp only [failExpiredTasks, check_bind, validateDeadlineTransition_ok, query_bind, execute_bind,
      insertEvent_bind] at success
    obtain ⟨_, unfinished, _, success⟩ := success
    obtain ⟨rest, middle, remaining, ending⟩ := bind_ok.mp success
    obtain ⟨_, rfl⟩ := Prod.mk.inj (pure_ok.mp ending)
    obtain ⟨fresh, distinct⟩ := List.nodup_cons.mp distinct
    have present := stored task List.mem_cons_self
    have first := moved_evolves (permitted task.id) present (.timeOut unfinished)
    refine first.trans (ih distinct ?_ remaining)
    intro other member
    have different : other.id ≠ task.id := fun same => fresh (same ▸ List.mem_map_of_mem member)
    have kept := congrArg Cell.record (cell_moved false .taskTimedOut present .failed other.id)
    rw [if_neg different] at kept
    exact kept.trans (stored other (List.mem_cons_of_mem _ member))

theorem limited_sublist {α : Type} (limit : Option Nat) (rows : List α) : (limited limit rows).Sublist rows := by
  cases limit with
  | none => exact List.Sublist.refl _
  | some count => exact List.take_sublist _ _

theorem failExpiredDeadlines_evolves {limit : Option Nat} {failed : List TaskRecord}
    (permitted : ∀ taskId, permits taskId (.advance .timeOut false none))
    (success : failExpiredDeadlines nowMs limit db = .ok (failed, after)) : db.Evolves permits after := by
  simp only [failExpiredDeadlines, query_bind] at success
  have swept := limited_sublist limit (db.expiredTasks nowMs)
  have sorted := orderedBy_perm (fun task : TaskRecord => task.deadlineMs.getD 0) TaskRecord.id
    (db.tasks.rows.filter (fun task => task.deadlineMs.any (· ≤ nowMs) && !task.status.isTerminal))
  apply failExpiredTasks_evolves permitted _ _ success
  · have distinct := (sorted.map TaskRecord.id).nodup_iff.mpr
      (db.tasks.unique.sublist (List.filter_sublist.map TaskRecord.id))
    exact distinct.sublist (swept.map TaskRecord.id)
  · intro task member
    exact db.tasks.find_of_mem (List.mem_of_mem_filter (sorted.mem_iff.mp (swept.subset member)))

theorem failExpiredTasks_succeeds {tasks : List TaskRecord} (unfinished : ∀ task ∈ tasks, task.status.isTerminal = false)
    (db : Db) :
    ∃ failed after, failExpiredTasks tasks db = .ok (failed, after) ∧ after.envelopes = db.envelopes ∧
      after.transportContexts = db.transportContexts ∧
      ∀ other, other ∉ tasks.map TaskRecord.id → after.cell other = db.cell other := by
  induction tasks generalizing db with
  | nil => exact ⟨[], db, rfl, rfl, rfl, fun _ _ => rfl⟩
  | cons task tasks ih =>
    obtain ⟨failed, after, swept, envelopes, contexts, kept⟩ := ih (fun other member => unfinished other (.tail _ member))
      (((db.deactivateLeaseForTask task.id).updateTaskStatus task.id .failed).appendEvent task.id .taskTimedOut
        (some task.status) .failed)
    refine ⟨{ task with status := .failed } :: failed, after, ?_, envelopes, contexts, ?_⟩
    · simp only [failExpiredTasks, check_bind, validateDeadlineTransition_ok, query_bind, execute_bind,
        insertEvent_bind]
      refine ⟨(), unfinished task List.mem_cons_self, rfl, ?_⟩
      exact bind_ok.mpr ⟨failed, after, swept, rfl⟩
    · intro other absent
      rw [List.map_cons, List.mem_cons, not_or] at absent
      rw [kept other absent.2, cell_appendEvent, if_neg absent.1, cell_updateTaskStatus, if_neg absent.1,
        cell_deactivateLeaseForTask, if_neg absent.1]

theorem failExpiredDeadlines_succeeds (nowMs : Int) (limit : Option Nat) (db : Db) :
    ∃ failed after, failExpiredDeadlines nowMs limit db = .ok (failed, after) ∧ after.envelopes = db.envelopes ∧
      after.transportContexts = db.transportContexts ∧
      ∀ other, (∀ task, db.tasks.find other = some task → task.deadlineMs.any (· ≤ nowMs) = false) →
        after.cell other = db.cell other := by
  have swept := (limited_sublist limit (db.expiredTasks nowMs)).subset
  have due : ∀ task ∈ limited limit (db.expiredTasks nowMs), task ∈ db.tasks.rows ∧
      task.deadlineMs.any (· ≤ nowMs) = true ∧ task.status.isTerminal = false := by
    intro task member
    have listed := List.mem_filter.mp ((orderedBy_perm _ _ _).mem_iff.mp (swept member))
    rw [Bool.and_eq_true, Bool.not_eq_true'] at listed
    exact listed
  obtain ⟨failed, after, success, envelopes, contexts, kept⟩ :=
    failExpiredTasks_succeeds (fun task member => (due task member).2.2) db
  refine ⟨failed, after, success, envelopes, contexts, ?_⟩
  intro other punctual
  apply kept
  intro member
  obtain ⟨task, listed, rfl⟩ := List.mem_map.mp member
  obtain ⟨stored, overdue, _⟩ := due task listed
  rw [punctual task (db.tasks.find_of_mem stored)] at overdue
  cases overdue

theorem recoverLeases_evolves {leases : List LeaseRecord} {report : RecoveryReport}
    (recovered : ∀ taskId, permits taskId (.advance .recover false none)) (evicted : ∀ taskId, permits taskId .evict)
    (success : recoverLeases leases db = .ok (report, after)) : db.Evolves permits after := by
  induction leases generalizing db report with
  | nil =>
    cases success
    exact Refines.refl
  | cons lease leases ih =>
    simp only [recoverLeases, query_bind, execute_bind] at success
    cases stored : db.tasks.find lease.taskId with
    | none =>
      simp only [stored] at success
      refine Refines.trans (Refines.once (evicted lease.taskId) ?_ ?_) (ih success)
      · rw [cell_deactivateLeaseForTask, if_pos rfl]
        exact .evict
      · intro other different
        rw [cell_deactivateLeaseForTask, if_neg different]
    | some task =>
      simp only [stored, execute_bind, query_bind, insertEvent_bind] at success
      obtain ⟨rest, middle, remaining, ending⟩ := bind_ok.mp success.2
      have unchanged : middle = after := by
        split at ending
        · exact (Prod.mk.inj (pure_ok.mp ending)).2
        · split at ending <;> exact (Prod.mk.inj (pure_ok.mp ending)).2
      subst unchanged
      exact (moved_evolves (recovered lease.taskId) stored .recover).trans (ih remaining)

theorem recoverStaleLeases_evolves {limit : Option Nat} {report : RecoveryReport}
    (recovered : ∀ taskId, permits taskId (.advance .recover false none)) (evicted : ∀ taskId, permits taskId .evict)
    (success : recoverStaleLeases nowMs limit db = .ok (report, after)) : db.Evolves permits after := by
  simp only [recoverStaleLeases, query_bind] at success
  obtain ⟨report, middle, swept, ending⟩ := bind_ok.mp success
  rw [query_bind, pure_ok] at ending
  obtain ⟨_, rfl⟩ := Prod.mk.inj ending
  exact recoverLeases_evolves recovered evicted swept

def Db.ledger (db : Db) := (db.tasks, db.events, db.leases, db.terminalResults)

theorem cell_of_ledger (same : after.ledger = db.ledger) (other : TaskId) : after.cell other = db.cell other := by
  simp only [Db.ledger, Prod.mk.injEq] at same
  obtain ⟨tasks, events, leases, results⟩ := same
  simp only [Db.cell, Db.activeLease, tasks, events, leases, results]

theorem cell_of_beyondArtifacts (same : after.beyondArtifacts = db.beyondArtifacts) (other : TaskId) :
    after.cell other = db.cell other :=
  cell_of_ledger (congrArg Db.ledger same) other

theorem startIfPending_evolves {status : TaskStatus} (started : permits taskId (.advance .start true none))
    (present : db.tasks.find taskId = some task) (success : startIfPending taskId task.status db = .ok (status, after)) :
    db.Evolves permits after ∧ after.tasks.find taskId = some { task with status } ∧
      after.terminalResults = db.terminalResults := by
  unfold startIfPending at success
  by_cases pending : task.status = .pending
  · rw [if_pos pending] at success
    simp only [query_bind, execute_bind, insertEvent_bind, pure_ok] at success
    obtain ⟨rfl, rfl⟩ := Prod.mk.inj success.2
    have found := congrArg Cell.record (cell_moved true .taskStarted present .running taskId)
    rw [if_pos rfl] at found
    refine ⟨?_, found, rfl⟩
    rw [← pending]
    exact moved_evolves started present (.start pending)
  · rw [if_neg pending, pure_ok] at success
    obtain ⟨rfl, rfl⟩ := Prod.mk.inj success
    exact ⟨Refines.refl, present, rfl⟩

theorem applyRemoteResult_evolves
    {pairs : List (OriginResultArtifact × ArtifactRecord)} (started : permits result.taskId (.advance .start true none))
    (completed : result.terminalStatus = .completed → permits result.taskId (.advance .complete true (some result)))
    (failed : result.terminalStatus = .failed → permits result.taskId (.advance .fail true (some result)))
    (terminal : result.terminalStatus.isTerminal = true) (present : db.tasks.find result.taskId = some task)
    (unsettled : db.terminalResults.find result.taskId = none)
    (success : applyRemoteResult result task pairs db = .ok (value, after)) : db.Evolves permits after := by
  obtain ⟨status, middle, begun, success⟩ := bind_ok.mp success
  obtain ⟨evolves, found, results⟩ := startIfPending_evolves started present begun
  simp only [check_bind, validated_ok, query_bind, execute_bind, insertEvent_bind] at success
  obtain ⟨transition, legal, _, success⟩ := success
  obtain ⟨_, stored, written, success⟩ := bind_ok.mp success
  simp only [execute_bind, fetchTask_ok] at success
  obtain ⟨_, rfl⟩ := success
  refine evolves.trans ?_
  have cells : ∀ other, (Db.insertTerminalResultOnly result stored).cell other =
      if other = result.taskId then
        advancedCell result.taskId (middle.cell other) { task with status } { task with status := result.terminalStatus }
          transition.eventType true (some result)
      else middle.cell other := by
    intro other
    rw [(validateTransition_moves legal).1, (validateTransition_moves legal).2] at written
    have moved := cell_moved true transition.eventType found result.terminalStatus other
    rw [cell_insertTerminalResultOnly,
      (cell_of_beyondArtifacts (preserves_insertOriginArtifacts _ _ _ _ written) other).trans moved]
    split <;> rfl
  rw [← results] at unsettled
  rcases validateTransition_cases legal with ⟨_, impossible, _⟩ | ⟨running, ended, rfl⟩ | ⟨running, ended, rfl⟩
  · rw [impossible] at terminal
    cases terminal
  · rw [ended] at cells
    exact Refines.settle (completed ended) found (.complete running) unsettled (by rw [running]; rfl) rfl cells
  · rw [ended] at cells
    exact Refines.settle (failed ended) found (.fail running) unsettled (by rw [running]; rfl) rfl cells

theorem ingestRemoteResultWithArtifacts_evolves [Sha256] {artifacts : List OriginResultArtifact} {executor : PeerId}
    (started : permits result.taskId (.advance .start true none))
    (completed : result.terminalStatus = .completed → permits result.taskId (.advance .complete true (some result)))
    (failed : result.terminalStatus = .failed → permits result.taskId (.advance .fail true (some result))) :
    db.Evolves permits (ingestRemoteResultWithArtifacts result artifacts executor db).2 := by
  unfold ingestRemoteResultWithArtifacts
  split
  · exact Refines.refl
  · exact Refines.refl
  · rename_i task records inspected
    obtain ⟨⟨_, presented⟩, unsettled, _⟩ := inspectRemoteResult_write inspected
    have unchanged := beyondArtifacts_prepareBlobs (artifacts.zip records) [] db
    split
    · rename_i prepared written failure blobs
      rw [blobs] at unchanged
      exact .same (cell_of_beyondArtifacts unchanged)
    · rename_i prepared written blobs
      rw [blobs] at unchanged
      have cells := cell_of_beyondArtifacts unchanged
      split
      · exact .same cells
      · rename_i updated after success
        have evolves := applyRemoteResult_evolves started completed failed presented.terminal
          ((congrArg Cell.record (cells result.taskId)).trans presented.present)
          ((congrArg Cell.result (cells result.taskId)).trans unsettled) success
        exact Refines.trans (.same cells) evolves

theorem evolves_beyondOutbox {α : Type} {transaction : Tx α} (kept : Preserves Db.beyondOutbox transaction) (db : Db) :
    db.Evolves permits (commit transaction db).2 := by
  have same := congrArg Db.ledger (preserves_commit kept db)
  exact .same (cell_of_ledger same)

theorem evolves_beyondContexts {α : Type} {transaction : Tx α} (kept : Preserves Db.beyondContexts transaction)
    (db : Db) : db.Evolves permits (commit transaction db).2 := by
  have same := congrArg Db.ledger (preserves_commit kept db)
  exact .same (cell_of_ledger same)

theorem step_refines [Sha256] (db : Db) (op : Op) : db.Evolves (fun taskId => op.permits taskId) (step db op) := by
  cases op with
  | acceptTask task =>
    refine .commit Db.cell fun _ _ success => ?_
    obtain ⟨pending, accepts⟩ := acceptTask_ok success
    exact accepts.evolves pending rfl (fun _ => rfl) fun _ _ => rfl
  | acceptTaskWithEnvelope task envelope =>
    refine .commit Db.cell fun _ _ success => ?_
    obtain ⟨pending, _, accepts⟩ := acceptTaskWithEnvelope_ok.mp success
    exact accepts.evolves pending rfl (fun _ => rfl) fun _ _ => rfl
  | acceptTaskWithEnvelopeAndContext task envelope context =>
    refine .commit Db.cell fun _ _ success => ?_
    obtain ⟨pending, _, _, accepts⟩ := acceptTaskWithEnvelopeAndContext_ok.mp success
    exact accepts.evolves pending rfl (fun _ => rfl) fun _ _ => rfl
  | leaseTask owner lease =>
    exact .commit Db.cell fun _ _ => leaseTaskWithPeerGuard_evolves (.inl ⟨rfl, .inl rfl⟩) (.inl ⟨rfl, .inr rfl⟩)
      fun _ different => .inr ⟨different, rfl⟩
  | leaseTaskForPeer owner lease localPeerId =>
    exact .commit Db.cell fun _ _ => leaseTaskWithPeerGuard_evolves (.inl ⟨rfl, .inl rfl⟩) (.inl ⟨rfl, .inr rfl⟩)
      fun _ different => .inr ⟨different, rfl⟩
  | renewLease => exact .commit Db.cell fun _ _ => renewLease_evolves ⟨rfl, rfl⟩
  | completeTask => exact .commit Db.cell fun _ _ success => (completeTask_ok.mp success).evolves fun _ => ⟨rfl, rfl⟩
  | completeTaskWithResult =>
    refine .commit Db.cell fun _ _ success => ?_
    obtain ⟨⟨_, owner⟩, concludes⟩ := completeTaskWithResult_ok.mp success
    exact concludes.evolves owner (fun applies unended => by cases applies; cases unended) fun _ _ => ⟨rfl, rfl⟩
  | failTask =>
    refine .commit Db.cell fun _ _ success => (failTask_ok.mp success).evolves fun applies => ⟨rfl, ?_⟩
    rcases applies.of_failure with ⟨_, ⟨_, same, _⟩ | ⟨_, same, _⟩ | ⟨_, same, _⟩⟩
    · exact .inl (by rw [same])
    · exact .inr (.inl (by rw [same]))
    · exact .inr (.inr (.inl (by rw [same])))
  | failTaskWithResult =>
    refine .commit Db.cell fun _ _ success => ?_
    obtain ⟨⟨_, owner⟩, concludes⟩ := failTaskWithResult_ok.mp success
    refine concludes.evolves owner (fun applies ends => ⟨rfl, ?_⟩) fun applies ends => ⟨rfl, ?_⟩
    · rcases applies.of_failure with ⟨_, ⟨_, _, rfl⟩ | ⟨_, same, _⟩ | ⟨_, _, rfl⟩⟩
      · cases ends
      · exact .inr (.inl (by rw [same]))
      · cases ends
    · rcases applies.of_failure with ⟨_, ⟨_, same, _⟩ | ⟨_, _, rfl⟩ | ⟨_, same, _⟩⟩
      · exact .inl (by rw [same])
      · cases ends
      · exact .inr (.inr (.inl (by rw [same])))
  | retryTask => exact .commit Db.cell fun _ _ success => (retryTask_ok.mp success).evolves fun _ => ⟨rfl, .inl rfl⟩
  | deadLetterTask => exact .commit Db.cell fun _ _ success => (deadLetterTask_ok.mp success).evolves fun _ => ⟨rfl, rfl⟩
  | cancelTask => exact .commit Db.cell fun _ _ => cancelTask_evolves ⟨rfl, rfl⟩
  | cancelTaskWithResult => exact .commit Db.cell fun _ _ => cancelTaskWithResult_evolves ⟨rfl, rfl⟩
  | failExpiredDeadlines => exact .commit Db.cell fun _ _ => failExpiredDeadlines_evolves fun _ => rfl
  | recoverStaleLeases => exact .commit Db.cell fun _ _ => recoverStaleLeases_evolves (fun _ => .inl rfl) fun _ => .inr rfl
  | transitionTask =>
    exact .commit Db.cell fun _ _ => transitionTask_evolves ⟨rfl, .inl rfl⟩ ⟨rfl, .inr (.inl rfl)⟩ ⟨rfl, .inr (.inr rfl)⟩
  | acceptLegacyEvent =>
    exact .commit Db.cell fun _ _ => acceptLegacyEvent_evolves ⟨rfl, .inl rfl⟩ ⟨rfl, .inr (.inl rfl)⟩
      ⟨rfl, .inr (.inr (.inl rfl))⟩ (fun preserved => ⟨rfl, .inr (.inr (.inr (.inl ⟨preserved, rfl⟩)))⟩)
      fun denial _ => ⟨rfl, .inr (.inr (.inr (.inr ⟨denial, rfl⟩)))⟩
  | ingestRemoteResultWithArtifacts =>
    exact ingestRemoteResultWithArtifacts_evolves ⟨rfl, .inl rfl⟩ (fun _ => ⟨rfl, .inr (.inl rfl)⟩)
      fun _ => ⟨rfl, .inr (.inr rfl)⟩
  | putTransportContext => exact evolves_beyondContexts (preserves_putTransportContext _) db
  | recordRelayReceipt => exact evolves_beyondContexts (preserves_recordRelayReceipt _ _ _ _) db
  | claimNextResultDelivery => exact evolves_beyondOutbox (preserves_claimNextResultDelivery _ _ _) db
  | ackResultDelivery => exact evolves_beyondOutbox (preserves_ackResultDelivery _ _ _ _) db
  | failResultDelivery => exact evolves_beyondOutbox (preserves_failResultDelivery _ _ _ _ _ _ _) db
  | putArtifact source content => exact .same (cell_of_beyondArtifacts (beyondArtifacts_putArtifact source content db))
  | deleteArtifact artifactId => exact .same (cell_of_beyondArtifacts (beyondArtifacts_deleteArtifact artifactId db))

/-- What every transition of the machine keeps holds of every task after every run. -/
theorem run_cell [Sha256] (invariant : Cell → Prop) {taskId : TaskId} (initial : invariant (Db.empty.cell taskId))
    (kept : ∀ {op : Op} {action before after}, op.permits taskId action → Step taskId action before after →
      invariant before → invariant after) (ops : List Op) : invariant ((Run.run step Db.empty ops).cell taskId) :=
  Run.always (fun db => invariant (db.cell taskId))
    (fun db op => (step_refines db op taskId).invariant invariant fun _ _ _ => kept) initial ops

end Keryx.Store.Sqlite
