import Keryx.Relational.Agreement
import Keryx.Store.Memory.Cells
import Keryx.Store.Sqlite.Runs
import Mathlib.Data.Prod.Lex

/-! The in-memory store and the SQLite store, operation by operation. -/

namespace Keryx.Store
open Keryx.Core Relational Relational.Transaction Lifecycle
open Sqlite (run_insertEvent Tx Db limited)

/-- Both stores have the same cell for every task, and the same rows about how tasks were accepted. -/
structure Matches (state : Memory.State) (db : Db) : Prop where
  cells : ∀ taskId, state.cell taskId = db.cell taskId
  idempotency : ∀ key, state.idempotency.find key = db.idempotencyKeys.find key
  envelopes : ∀ taskId, state.envelopes.find taskId = db.envelopes.find taskId
  contexts : ∀ taskId, state.transportContexts.find taskId = db.transportContexts.find taskId

variable {state : Memory.State} {db : Db}

namespace Matches

theorem empty : Matches .empty .empty := ⟨fun _ => rfl, fun _ => rfl, fun _ => rfl, fun _ => rfl⟩

variable (same : Matches state db)
include same

theorem tasks (taskId : TaskId) : state.tasks.find taskId = db.tasks.find taskId :=
  congrArg Cell.record (same.cells taskId)

theorem events (taskId : TaskId) : state.events.stream taskId = db.events.stream taskId :=
  congrArg Cell.log (same.cells taskId)

theorem leases (taskId : TaskId) : state.leases.find taskId = db.activeLease taskId :=
  congrArg Cell.lease (same.cells taskId)

theorem idempotencyRow (task : TaskRecord) : state.idempotencyRow task = db.idempotencyRow task := by
  unfold Memory.State.idempotencyRow Db.idempotencyRow
  cases task.idempotencyKey with
  | none => rfl
  | some key => exact same.idempotency key

theorem recelled {after : Memory.State} {final : Db} (cells : ∀ taskId, after.cell taskId = final.cell taskId)
    (kept : after.idempotency = state.idempotency ∧ after.envelopes = state.envelopes ∧
      after.transportContexts = state.transportContexts)
    (still : final.idempotencyKeys = db.idempotencyKeys ∧ final.envelopes = db.envelopes ∧
      final.transportContexts = db.transportContexts) : Matches after final := by
  refine ⟨cells, fun key => ?_, fun taskId => ?_, fun taskId => ?_⟩
  · rw [kept.1, still.1]
    exact same.idempotency key
  · rw [kept.2.1, still.2.1]
    exact same.envelopes taskId
  · rw [kept.2.2, still.2.2]
    exact same.contexts taskId

end Matches

/-- A task that is not stored has no events. -/
def Sqlite.Db.Quiet (db : Db) : Prop := ∀ taskId, db.tasks.find taskId = none → db.events.stream taskId = []

/-- A task that is still to be finished was not given up. -/
def Lifecycle.Cell.Alive (cell : Cell) : Prop :=
  ∀ task, cell.record = some task → task.status.isTerminal = false →
    task.deadLettered = false ∧ task.deadLetterReason = none

variable {taskId : TaskId} {task : TaskRecord}

theorem find_moved (present : db.tasks.find taskId = some task) (keepsLease : Bool) (eventType : KeryxEventType)
    (toStatus : TaskStatus) :
    (db.moved taskId keepsLease eventType task.status toStatus).tasks.find taskId =
      some { task with status := toStatus } := by
  have cell := Sqlite.cell_moved keepsLease eventType present toStatus taskId
  rw [if_pos rfl] at cell
  exact congrArg Cell.record cell

theorem nextSequence_ending (toStatus : TaskStatus) : db.nextSequence taskId =
    ((db.deactivateLeaseIfTerminal taskId toStatus).updateTaskStatus taskId toStatus).nextSequence taskId := by
  unfold Db.deactivateLeaseIfTerminal
  split
  · rfl
  · rfl

theorem nextSequence_closing (status : TaskStatus) (retryCount : Nat) (deadLettered : Bool)
    (deadLetterReason : Option String) : db.nextSequence taskId =
    ((db.deactivateLeaseForTask taskId).updateTaskMetadata taskId status retryCount deadLettered
      deadLetterReason).nextSequence taskId := rfl

theorem orderedBy_eq {α : Type} {time : α → Int} {owner : α → TaskId} {left right : List α} (rows : left.Perm right)
    (apart : ∀ one ∈ left, ∀ other ∈ left, owner one = owner other → one = other) :
    Sqlite.orderedBy time owner left = Sqlite.orderedBy time owner right := by
  have lexed : ∀ one other : α,
      time one < time other ∨ (time one = time other ∧ (owner one).value ≤ (owner other).value) ↔
        toLex (time one, (owner one).value) ≤ toLex (time other, (owner other).value) := by
    intro one other
    rw [Prod.Lex.toLex_le_toLex]
  have total : Std.Total (fun one other : α =>
      time one < time other ∨ (time one = time other ∧ (owner one).value ≤ (owner other).value)) := by
    simp only [lexed]
    exact ⟨fun _ _ => le_total _ _⟩
  have trans : IsTrans α (fun one other : α =>
      time one < time other ∨ (time one = time other ∧ (owner one).value ≤ (owner other).value)) := by
    simp only [lexed]
    exact ⟨fun _ _ _ => le_trans⟩
  refine insertionSort_perm rows ?_
  intro one first other second forward backward
  apply apart one first other second
  rw [lexed] at forward backward
  exact Identifier.eq_of_value (Prod.mk.inj (toLex.injective (le_antisymm forward backward))).2

theorem limited_map {α β : Type} (limit : Option Nat) (change : α → β) (rows : List α) :
    limited limit (rows.map change) = (limited limit rows).map change := by
  cases limit with
  | none => rfl
  | some count => exact (List.map_take ..).symm

theorem activeLease_some {lease : LeaseRecord} :
    db.activeLease taskId = some lease ↔ ∃ row, db.leases.find taskId = some row ∧ row.active = true ∧ row.lease = lease := by
  simp only [Db.activeLease, Option.map_eq_some_iff, Option.filter_eq_some_iff, and_assoc]

section
variable {α : Type} {related : Memory.State → Db → Prop} {leaseId : LeaseId} {workerId : AgentId}
  (same : Matches state db)
include same

theorem agree_stored {failure : StoreError} {first : TaskRecord → Memory.Mutation α} {second : TaskRecord → Tx α}
    (rest : ∀ task, state.tasks.find taskId = some task → db.tasks.find taskId = some task →
      Agree related (first task state) (second task db)) :
    Agree related ((require (state.tasks.find taskId) failure >>= first) state)
      ((Sqlite.fetchTask taskId >>= second) db) := by
  have rows := same.tasks taskId
  have agree : Agree related ((require (state.tasks.find taskId) failure >>= first) state)
      ((require (db.tasks.find taskId) (StoreError.taskNotFound taskId) >>= second) db) :=
    agree_require rows fun task found => rest task found (rows.symm.trans found)
  exact agree

theorem agree_task {first : TaskRecord → Memory.Mutation α} {second : TaskRecord → Tx α}
    (rest : ∀ task, state.tasks.find taskId = some task → db.tasks.find taskId = some task →
      Agree related (first task state) (second task db)) :
    Agree related ((Memory.getTask taskId >>= first) state) ((Sqlite.fetchTask taskId >>= second) db) :=
  agree_stored same rest

variable {first : LeaseRecord → Memory.Mutation α}

theorem agree_lease {second : LeaseRecord → Tx α}
    (rest : ∀ lease, state.leases.find taskId = some lease → db.activeLease taskId = some lease →
      Agree related (first lease state) (second lease db)) :
    Agree related ((Memory.getLease taskId >>= first) state) ((Sqlite.fetchActiveLease taskId >>= second) db) := by
  have rows := same.leases taskId
  have agree : Agree related
      ((require (state.leases.find taskId) (StoreError.leaseNotFound taskId) >>= first) state)
      ((require (db.activeLease taskId) (StoreError.leaseNotFound taskId) >>= second) db) :=
    agree_require rows fun lease found => rest lease found (rows.symm.trans found)
  exact agree

theorem matches_insertIdempotency (key : Option IdempotencyKey) (taskId : TaskId) :
    Matches (state.insertIdempotency key taskId) (db.insertIdempotencyKey key taskId) := by
  cases key with
  | none => exact same
  | some own => exact ⟨same.cells, Table.find_put_congr same.idempotency ⟨own, taskId⟩, same.envelopes, same.contexts⟩

theorem matches_accepted (task : TaskRecord) :
    Matches (((state.insertIdempotency task.idempotencyKey task.id).appendEvent task.id .taskAccepted none
      task.status).insertTask task) (db.insertAccepted task) := by
  refine (matches_insertIdempotency same task.idempotencyKey task.id).recelled (fun taskId => ?_) ⟨rfl, rfl, rfl⟩ ?_
  · simp only [Db.insertAccepted, Memory.cell_insertTask, Memory.cell_appendEvent, Memory.cell_insertIdempotency,
      Sqlite.cell_appendEvent, Sqlite.cell_insertIdempotencyKey, Sqlite.cell_insertTask, same.cells]
    split
    · rfl
    · rfl
  · unfold Db.insertAccepted
    cases task.idempotencyKey with
    | none => exact ⟨rfl, rfl, rfl⟩
    | some own => exact ⟨rfl, rfl, rfl⟩

theorem agree_insertAccepted {task : TaskRecord} {first : Unit → Memory.Mutation α} {second : Unit → Tx α}
    (quiet : db.Quiet) (absent : db.tasks.find task.id = none)
    (rest : ∀ after final, Matches after final → Agree related (first () after) (second () final)) :
    Agree related ((Memory.insertAcceptedTask task >>= first) state)
      ((Sqlite.insertAcceptedTask task >>= second) db) := by
  have next : db.nextSequence task.id = 1 := by
    rw [Db.nextSequence, Journal.next_eq, quiet task.id absent]
    rfl
  have unused : 1 = ((db.insertTask task).insertIdempotencyKey task.idempotencyKey task.id).nextSequence task.id := by
    rw [Sqlite.nextSequence_insertIdempotencyKey, Sqlite.nextSequence_insertTask, next]
  simp only [Memory.insertAcceptedTask, Sqlite.insertAcceptedTask, Sqlite.insertEvent, bind_assoc]
  rw [run_execute, run_execute, run_execute, run_execute, run_execute, run_query, run_ensure unused, run_execute]
  exact rest _ _ (matches_accepted same task)

theorem acceptTask_agrees {task : TaskRecord} (quiet : db.Quiet) :
    Agree Matches (Memory.acceptTask task state) (Sqlite.acceptTask task db) := by
  unfold Memory.acceptTask Sqlite.acceptTask
  by_cases pending : task.status = .pending
  · have accepted : ensurePendingAccept task = .ok () := if_pos pending
    have valid : validateAcceptedTaskStatus task = .ok () := if_pos pending
    rw [run_check accepted, run_check valid, run_check accepted, run_query, run_query, same.idempotencyRow]
    cases db.idempotencyRow task with
    | some row =>
      simp only
      rw [run_query]
      apply agree_stored same
      intro existing _ _
      split
      · exact agree_pure same
      · trivial
    | none =>
      simp only
      rw [run_query, run_query]
      apply agree_ensure (by rw [same.tasks])
      intro absent
      rw [same.tasks] at absent
      apply agree_insertAccepted same quiet absent
      intro after final states
      exact agree_pure states
  · have refused : ensurePendingAccept task = .error _ := if_neg pending
    have unaccepted : validateAcceptedTaskStatus task = .error _ := if_neg pending
    rw [run_check_error refused, run_check_error unaccepted]
    trivial

theorem matches_insertEnvelope (envelope : TaskEnvelopeRecord) :
    Matches (state.insertEnvelope envelope) (db.insertEnvelope envelope) :=
  ⟨same.cells, same.idempotency, Table.find_put_congr same.envelopes envelope, same.contexts⟩

theorem matches_insertTransportContext (context : TaskTransportContextRecord) :
    Matches (state.insertTransportContext context) (db.insertTransportContext context) :=
  ⟨same.cells, same.idempotency, same.envelopes, Table.find_put_congr same.contexts context⟩

theorem acceptTaskWithEnvelope_agrees {task : TaskRecord} {envelope : TaskEnvelopeRecord} (quiet : db.Quiet) :
    Agree Matches (Memory.acceptTaskWithEnvelope task envelope state) (Sqlite.acceptTaskWithEnvelope task envelope db) := by
  unfold Memory.acceptTaskWithEnvelope Sqlite.acceptTaskWithEnvelope
  iterate 3
    apply agree_check
    intro _ _
  rw [run_query, run_query, same.idempotencyRow]
  cases db.idempotencyRow task with
  | some row =>
    simp only
    rw [run_query]
    apply agree_stored same
    intro existing _ _
    split
    · rw [run_query, run_query]
      apply agree_ensure (by rw [same.envelopes])
      intro _
      exact agree_pure same
    · trivial
  | none =>
    simp only
    rw [run_query, run_query]
    apply agree_ensure (by rw [same.tasks])
    intro absent
    rw [same.tasks] at absent
    apply agree_insertAccepted same quiet absent
    intro after final states
    rw [run_execute, run_execute]
    exact agree_pure (matches_insertEnvelope states envelope)

theorem matches_updateRelayFrame {context : TaskTransportContextRecord}
    (identical : (db.transportContexts.find context.taskId).any (fun stored => sameTransportIdentity stored context)) :
    Matches (state.updateRelayFrame context) (db.updateRelayFrame context) := by
  unfold Memory.State.updateRelayFrame Db.updateRelayFrame
  rw [same.contexts]
  cases found : db.transportContexts.find context.taskId with
  | none =>
    rw [found] at identical
    cases identical
  | some stored =>
    rw [found] at identical
    simp only [Option.any_some, sameTransportIdentity, Bool.and_eq_true, decide_eq_true_eq] at identical
    obtain ⟨⟨⟨owner, sender⟩, executor⟩, destination⟩ := identical
    have updated : ∀ taskId, ((db.updateRelayFrame context).transportContexts).find taskId =
        if taskId = context.taskId then
          (db.transportContexts.find taskId).map fun stored =>
            if stored.relayFrameId ≠ context.relayFrameId then
              { stored with relayFrameId := context.relayFrameId, receivedAtMs := context.receivedAtMs }
            else stored
        else db.transportContexts.find taskId := by
      intro taskId
      unfold Db.updateRelayFrame
      rw [Table.find_update]
    refine ⟨?_, ?_, ?_, fun taskId => ?_⟩
    · split <;> exact same.cells
    · split <;> exact same.idempotency
    · split <;> exact same.envelopes
    · refine Eq.trans ?_ (updated taskId).symm
      by_cases moved : stored.relayFrameId ≠ context.relayFrameId
      · have replaced := Table.find_put state.transportContexts context taskId
        rw [if_pos (by simpa using moved)]
        show (state.transportContexts.put context).find taskId = _
        rw [replaced]
        split
        · rename_i own
          rw [own, found, Option.map_some, if_pos moved, owner, sender, executor, destination]
        · exact same.contexts taskId
      · rw [if_neg (by simpa using moved), same.contexts]
        split
        · rename_i own
          rw [own, found, Option.map_some, if_neg moved]
        · rfl

theorem acceptTaskWithEnvelopeAndContext_agrees {task : TaskRecord} {envelope : TaskEnvelopeRecord}
    {context : TaskTransportContextRecord} (quiet : db.Quiet) :
    Agree Matches (Memory.acceptTaskWithEnvelopeAndContext task envelope context state)
      (Sqlite.acceptTaskWithEnvelopeAndContext task envelope context db) := by
  unfold Memory.acceptTaskWithEnvelopeAndContext Sqlite.acceptTaskWithEnvelopeAndContext
  iterate 3
    apply agree_check
    intro _ _
  apply agree_check
  intro _ owned
  have owner : context.taskId = task.id := demand_ok.mp owned
  rw [run_query, run_query, same.tasks]
  cases known : db.tasks.find task.id with
  | some existing =>
    simp only
    rw [run_query, run_query, run_query, run_query, same.envelopes, same.contexts]
    apply agree_ensure Iff.rfl
    rintro ⟨_, _, identical⟩
    rw [run_execute, run_execute]
    rw [← owner] at identical
    exact agree_pure (matches_updateRelayFrame same identical)
  | none =>
    simp only
    rw [run_query, run_query, same.idempotencyRow]
    cases db.idempotencyRow task with
    | some row => trivial
    | none =>
      simp only
      apply agree_insertAccepted same quiet known
      intro after final states
      rw [run_execute, run_execute, run_execute, run_execute]
      exact agree_pure (matches_insertTransportContext (matches_insertEnvelope states envelope) context)

theorem matches_moved (present : db.tasks.find taskId = some task) (keepsLease : Bool)
    (eventType : KeryxEventType) (toStatus : TaskStatus) :
    Matches (state.written taskId keepsLease eventType task.status { task with status := toStatus })
      (db.moved taskId keepsLease eventType task.status toStatus) := by
  have own : task.id = taskId := Table.find_key present
  have owner : ({ task with status := toStatus } : TaskRecord).id = taskId := own
  refine same.recelled ?_ ?_ ?_
  · intro other
    rw [Memory.cell_written keepsLease eventType owner, Sqlite.cell_moved keepsLease eventType present, same.cells]
  all_goals
    cases keepsLease with
    | true => exact ⟨rfl, rfl, rfl⟩
    | false => exact ⟨rfl, rfl, rfl⟩

theorem matches_closed {changed : TaskRecord} (present : db.tasks.find taskId = some task)
    (eventType : KeryxEventType) (rewrites : Rewrites task changed) :
    Matches (state.written taskId false eventType task.status changed)
      (db.closed taskId changed eventType task.status) := by
  have own : task.id = taskId := Table.find_key present
  have owner : changed.id = taskId := by
    rw [rewrites]
    exact own
  refine same.recelled ?_ ⟨rfl, rfl, rfl⟩ ⟨rfl, rfl, rfl⟩
  intro other
  rw [Memory.cell_written false eventType owner, Sqlite.cell_closed present rewrites, same.cells]

theorem agree_moved (present : db.tasks.find taskId = some task) (keepsLease : Bool)
    (eventType : KeryxEventType) (toStatus : TaskStatus) :
    Agree Matches
      ((pure { task with status := toStatus } : Memory.Mutation TaskRecord)
        (state.written taskId keepsLease eventType task.status { task with status := toStatus }))
      (Sqlite.fetchTask taskId (db.moved taskId keepsLease eventType task.status toStatus)) :=
  agree_fetched (find_moved present keepsLease eventType toStatus)
    (matches_moved same present keepsLease eventType toStatus)

theorem transitionTask_agrees {toStatus : TaskStatus} :
    Agree Matches (Memory.transitionTask taskId toStatus state) (Sqlite.transitionTask taskId toStatus db) := by
  unfold Memory.transitionTask Sqlite.transitionTask
  apply agree_task same
  intro task _ present
  apply agree_check
  intro transition legal
  have moves := validateTransition_moves (validated_ok.mp legal)
  rw [run_query, run_execute, run_execute, run_execute, run_execute, run_execute,
    run_insertEvent (nextSequence_ending toStatus), moves.1, moves.2, Memory.written_removeLeaseIfTerminal,
    Sqlite.moved_deactivateLeaseIfTerminal]
  exact agree_moved same present _ _ _

theorem acceptLegacyEvent_agrees {eventType : KeryxEventType} :
    Agree Matches (Memory.acceptLegacyEvent taskId eventType state) (Sqlite.acceptLegacyEvent taskId eventType db) := by
  unfold Memory.acceptLegacyEvent Sqlite.acceptLegacyEvent
  apply agree_require rfl
  intro legacyEvent _
  apply agree_task same
  intro task _ present
  apply agree_check
  intro plan planned
  rw [run_query]
  cases plan with
  | lifecycle transition =>
    have starts : transition.fromStatus = task.status := by
      rcases planLegacyEventAppend_cases planned with ⟨_, equal, legal⟩ | ⟨pending, _, equal⟩ | ⟨_, equal⟩
      · cases equal
        exact (validateTransition_moves legal).1
      · cases equal
        exact pending.symm
      · cases equal
    simp only
    rw [run_execute, run_execute, run_execute, run_execute, run_execute,
      run_insertEvent (nextSequence_ending transition.toStatus), starts, Memory.written_removeLeaseIfTerminal,
      Sqlite.moved_deactivateLeaseIfTerminal]
    exact agree_moved same present _ _ _
  | operational preserved status =>
    simp only
    rw [run_execute, run_insertEvent rfl]
    refine agree_fetched present (same.recelled ?_ ⟨rfl, rfl, rfl⟩ ⟨rfl, rfl, rfl⟩)
    intro other
    rw [Memory.cell_appendEvent, Sqlite.cell_appendEvent, same.cells]

theorem agree_closed {changed : TaskRecord} (present : db.tasks.find taskId = some task)
    (eventType : KeryxEventType) (rewrites : Rewrites task changed) :
    Agree Matches
      ((pure changed : Memory.Mutation TaskRecord) (state.written taskId false eventType task.status changed))
      (Sqlite.fetchTask taskId (db.closed taskId changed eventType task.status)) :=
  agree_fetched (Sqlite.find_closed present eventType rewrites) (matches_closed same present eventType rewrites)

theorem finishTaskInState_agrees {toStatus : TaskStatus} {retryCount : Nat} {deadLettered : Bool}
    {deadLetterReason : Option String} :
    Agree Matches
      (Memory.finishTaskInState taskId leaseId workerId toStatus retryCount deadLettered deadLetterReason state)
      (Sqlite.finishTaskInTx taskId leaseId workerId toStatus retryCount deadLettered deadLetterReason db) := by
  unfold Memory.finishTaskInState Sqlite.finishTaskInTx
  apply agree_task same
  intro task _ present
  apply agree_lease same
  intro active _ _
  apply agree_check
  intro _ _
  apply agree_check
  intro _ _
  apply agree_check
  intro transition legal
  have moves := validateTransition_moves (validated_ok.mp legal)
  rw [run_query, run_execute, run_execute, run_execute, run_execute, run_execute,
    run_insertEvent (nextSequence_closing _ _ _ _), moves.1, moves.2]
  exact agree_closed same present _ rfl

theorem completeTask_agrees :
    Agree Matches (Memory.completeTask taskId leaseId workerId state) (Sqlite.completeTask taskId leaseId workerId db) := by
  unfold Memory.completeTask Sqlite.completeTask
  apply agree_task same
  intro task _ _
  exact finishTaskInState_agrees same

theorem retryTaskInState_agrees {active : LeaseRecord} (present : db.tasks.find taskId = some task)
    (alive : (db.cell taskId).Alive) :
    Agree Matches (Memory.retryTaskInState taskId active task state) (Sqlite.retryTaskInTx taskId task db) := by
  unfold Memory.retryTaskInState Sqlite.retryTaskInTx
  rw [run_check (show ensureMatchingLeaseId taskId active active.leaseId = .ok () from if_pos rfl)]
  apply agree_check
  intro _ required
  have running : task.status = .running := demand_ok.mp required
  obtain ⟨unmarked, unexplained⟩ := alive task present (by rw [running]; rfl)
  have retried : ({ task with status := .pending, retryCount := saturatingAddU32 task.retryCount 1 } : TaskRecord) =
      task.retried := by
    rw [TaskRecord.retried, ← unmarked, ← unexplained]
  rw [run_query, run_execute, run_execute, run_execute, run_execute, run_execute,
    run_insertEvent (nextSequence_closing _ _ _ _), retried]
  have agree := agree_closed same present .recoveryAction (show task.retried = _ from rfl)
  rw [running] at agree
  exact agree

theorem deadLetterTaskInState_agrees {active : LeaseRecord} {reason : String}
    (present : db.tasks.find taskId = some task) :
    Agree Matches (Memory.deadLetterTaskInState taskId active task reason state)
      (Sqlite.deadLetterTaskInTx taskId task reason db) := by
  unfold Memory.deadLetterTaskInState Sqlite.deadLetterTaskInTx
  rw [run_check (show ensureMatchingLeaseId taskId active active.leaseId = .ok () from if_pos rfl)]
  apply agree_check
  intro _ _
  apply agree_check
  intro transition legal
  have moves := validateTransition_moves (validated_ok.mp legal)
  rw [run_query, run_execute, run_execute, run_execute, run_execute, run_execute,
    run_insertEvent (nextSequence_closing _ _ _ _), moves.1, moves.2]
  exact agree_closed same present .taskDeadLettered (show task.exhausted reason = _ from rfl)

theorem agree_owned {second : LeaseRecord → Tx α}
    (rest : ∀ active, Agree related (first active state) (second active db)) :
    Agree related ((Memory.getOwnedLease taskId leaseId workerId >>= first) state)
      ((Sqlite.fetchOwnedLease taskId leaseId workerId >>= second) db) := by
  unfold Memory.getOwnedLease Sqlite.fetchOwnedLease
  simp only [bind_assoc]
  apply agree_lease same
  intro active _ _
  apply agree_check
  intro _ _
  apply agree_check
  intro _ _
  exact rest active

theorem failTask_agrees {errorReason : String} {policy : RetryPolicy} (alive : (db.cell taskId).Alive) :
    Agree Matches (Memory.failTask taskId leaseId workerId errorReason policy state)
      (Sqlite.failTask taskId leaseId workerId errorReason policy db) := by
  unfold Memory.failTask Sqlite.failTask
  apply agree_task same
  intro task _ present
  apply agree_owned same
  intro active
  apply agree_check
  intro _ _
  split
  · exact finishTaskInState_agrees same
  · split
    · exact retryTaskInState_agrees same present alive
    · exact deadLetterTaskInState_agrees same present

theorem retryTask_agrees (alive : (db.cell taskId).Alive) :
    Agree Matches (Memory.retryTask taskId leaseId workerId state) (Sqlite.retryTask taskId leaseId workerId db) := by
  unfold Memory.retryTask Sqlite.retryTask
  apply agree_task same
  intro task _ present
  apply agree_owned same
  intro active
  exact retryTaskInState_agrees same present alive

theorem deadLetterTask_agrees {reason : String} :
    Agree Matches (Memory.deadLetterTask taskId leaseId workerId reason state)
      (Sqlite.deadLetterTask taskId leaseId workerId reason db) := by
  unfold Memory.deadLetterTask Sqlite.deadLetterTask
  apply agree_task same
  intro task _ present
  apply agree_owned same
  intro active
  exact deadLetterTaskInState_agrees same present

theorem agree_unexpired {status : TaskStatus} {nowMs : Int} {first : Unit → Memory.Mutation α} {second : Unit → Tx α}
    (rest : Agree related (first () state) (second () db)) :
    Agree related ((Memory.ensureRunningLeaseUnexpired taskId status nowMs >>= first) state)
      ((Sqlite.ensureRunningLeaseUnexpired taskId status nowMs >>= second) db) := by
  unfold Memory.ensureRunningLeaseUnexpired Sqlite.ensureRunningLeaseUnexpired
  by_cases running : status = .running
  · rw [if_pos running, if_pos running]
    simp only [bind_assoc]
    apply agree_lease same
    intro active _ _
    apply agree_check
    intro _ _
    exact rest
  · rw [if_neg running, if_neg running, pure_bind, pure_bind]
    exact rest

theorem cancelTask_agrees {nowMs : Int} :
    Agree Matches (Memory.cancelTask taskId nowMs state) (Sqlite.cancelTask taskId nowMs db) := by
  unfold Memory.cancelTask Sqlite.cancelTask
  apply agree_task same
  intro task _ present
  split
  · exact agree_pure same
  · apply agree_unexpired same
    apply agree_check
    intro transition legal
    obtain ⟨_, rfl⟩ := validateCancelTransition_ok.mp (validated_ok.mp legal)
    rw [run_query, run_execute, run_execute, run_execute, run_execute, run_execute, run_insertEvent]
    · exact agree_moved same present false _ _
    · rfl

theorem matches_insertLease {lease : LeaseRecord}
    (unshared : db.Unshared lease.taskId lease.leaseId) : Matches (state.insertLease lease) (db.replaceLease lease) := by
  refine same.recelled ?_ ⟨rfl, rfl, rfl⟩ ⟨rfl, rfl, rfl⟩
  intro other
  rw [Memory.cell_insertLease]
  by_cases owner : other = lease.taskId
  · rw [if_pos owner, owner, Sqlite.cell_replaceLease, same.cells]
  · have kept : (db.replaceLease lease).activeLease other = db.activeLease other := by
      rw [Sqlite.activeLease_replaceLease_ne owner]
      cases held : db.activeLease other with
      | none => rfl
      | some active => exact Option.filter_some_pos (by simpa using unshared other active owner held)
    rw [if_neg owner, same.cells]
    unfold Db.cell
    rw [kept]
    rfl

theorem leaseTaskWithPeerGuard_agrees {lease : LeaseRecord} {localPeerId : Option PeerId}
    (unshared : lease.taskId = taskId → db.Unshared lease.taskId lease.leaseId) :
    Agree Matches (Memory.leaseTaskWithPeerGuard taskId lease localPeerId state)
      (Sqlite.leaseTaskWithPeerGuard taskId lease localPeerId db) := by
  unfold Memory.leaseTaskWithPeerGuard Sqlite.leaseTaskWithPeerGuard
  rw [run_query, same.contexts]
  cases executor : Sqlite.ensureLocalExecutor taskId (db.transportContexts.find taskId) localPeerId with
  | error failure =>
    -- The in-memory store asks for the executor first, the SQLite store last of the three.
    rw [run_check_error rfl]
    cases matching : ensureMatchingTaskId taskId lease with
    | error fault =>
      rw [run_check_error rfl]
      trivial
    | ok _ =>
      rw [run_check rfl]
      cases owned : ensureLeaseHasOwner lease with
      | error fault =>
        rw [run_check_error rfl]
        trivial
      | ok _ =>
        rw [run_check rfl, run_query, run_check_error executor]
        trivial
  | ok _ =>
    rw [run_check rfl]
    apply agree_check
    intro _ matching
    have owner : lease.taskId = taskId := demand_ok.mp matching
    apply agree_check
    intro _ _
    rw [run_query, run_check executor]
    apply agree_task same
    intro task _ present
    rw [run_query, run_query, same.leases]
    apply agree_ensure Iff.rfl
    intro _
    cases task.deadlineMs.filter (· ≤ lease.leasedAtMs) with
    | some deadlineMs =>
      apply agree_check
      intro _ _
      rw [run_query, run_execute, run_execute, run_execute, run_insertEvent]
      · exact agree_pure (matches_moved same present true .taskTimedOut .failed)
      · rfl
    | none =>
      apply agree_check
      intro transition legal
      have moves := validateTransition_moves (validated_ok.mp legal)
      have leased := matches_insertLease same (unshared owner)
      have found : (db.replaceLease lease).tasks.find taskId = some task := present
      rw [run_query, run_execute, run_execute, run_execute, run_execute, run_execute, run_insertEvent, moves.1, moves.2]
      · have written : (((db.replaceLease lease).updateTaskStatus taskId .running).appendEvent taskId
            transition.eventType (some task.status) .running).tasks.find taskId = some { task with status := .running } :=
          find_moved found true transition.eventType .running
        rw [Sqlite.run_fetchTask written]
        exact agree_pure (matches_moved leased found true transition.eventType .running)
      · rfl

theorem renewLease_agrees {nowMs newExpiresAtMs : Int} :
    Agree Matches (Memory.renewLease taskId leaseId workerId nowMs newExpiresAtMs state)
      (Sqlite.renewLease taskId leaseId workerId nowMs newExpiresAtMs db) := by
  unfold Memory.renewLease Sqlite.renewLease
  apply agree_task same
  intro task _ _
  apply agree_check
  intro _ _
  apply agree_lease same
  intro active _ held
  apply agree_check
  intro _ sameLease
  apply agree_check
  intro _ sameWorker
  apply agree_check
  intro _ _
  rw [run_execute, run_execute]
  refine agree_pure (same.recelled ?_ ⟨rfl, rfl, rfl⟩ ⟨rfl, rfl, rfl⟩)
  intro other
  have owner : active.taskId = taskId := Sqlite.activeLease_taskId held
  rw [Memory.cell_insertLease, Sqlite.cell_renewLease newExpiresAtMs held (demand_ok.mp sameLease)
    (demand_ok.mp sameWorker), same.cells, owner]

theorem taskRows_perm : state.tasks.rows.Perm db.tasks.rows := Table.rows_perm same.tasks

theorem expiredTasks_eq (nowMs : Int) : state.expiredTasks nowMs = (db.expiredTasks nowMs).map TaskRecord.id := by
  have condition : (fun task : TaskRecord => !task.status.isTerminal && task.deadlineMs.any (· ≤ nowMs)) =
      (fun task : TaskRecord => task.deadlineMs.any (· ≤ nowMs) && !task.status.isTerminal) := by
    funext task
    exact Bool.and_comm _ _
  unfold Memory.State.expiredTasks Db.expiredTasks
  rw [condition]
  congr 1
  apply orderedBy_eq ((taskRows_perm same).filter _)
  intro one first other second owner
  exact List.inj_on_of_nodup_map state.tasks.unique (List.mem_of_mem_filter first) (List.mem_of_mem_filter second) owner

theorem failExpiredTasks_agrees {tasks : List TaskRecord}
    (distinct : (tasks.map TaskRecord.id).Nodup) (stored : ∀ task ∈ tasks, db.tasks.find task.id = some task)
    (unfinished : ∀ task ∈ tasks, task.status.isTerminal = false) :
    ∃ failed after final, Memory.failExpiredTasks (tasks.map TaskRecord.id) state = (.ok failed, after) ∧
      Sqlite.failExpiredTasks tasks db = .ok (failed, final) ∧ Matches after final := by
  induction tasks generalizing state db with
  | nil => exact ⟨[], state, db, rfl, rfl, same⟩
  | cons task tasks ih =>
    obtain ⟨fresh, apart⟩ := List.nodup_cons.mp distinct
    have present := stored task List.mem_cons_self
    have overdue : validateDeadlineTransition task.status = .ok () :=
      validateDeadlineTransition_ok.mpr (unfinished task List.mem_cons_self)
    have kept : ∀ other ∈ tasks,
        (db.moved task.id false .taskTimedOut task.status .failed).tasks.find other.id = some other := by
      intro other member
      have different : other.id ≠ task.id := fun owner => fresh (owner ▸ List.mem_map_of_mem member)
      have cell := congrArg Cell.record (Sqlite.cell_moved false .taskTimedOut present .failed other.id)
      rw [if_neg different] at cell
      exact cell.trans (stored other (List.mem_cons_of_mem _ member))
    obtain ⟨failed, after, final, swept, committed, states⟩ :=
      ih (matches_moved same present false .taskTimedOut .failed) apart kept
        (fun other member => unfinished other (List.mem_cons_of_mem _ member))
    refine ⟨{ task with status := .failed } :: failed, after, final, ?_, ?_, states⟩
    · have head : Memory.failExpiredTasks (task.id :: tasks.map TaskRecord.id) state =
          ((Memory.failExpiredTasks (tasks.map TaskRecord.id)
              (state.written task.id false .taskTimedOut task.status { task with status := .failed })).1.map
            ({ task with status := .failed } :: ·),
          (Memory.failExpiredTasks (tasks.map TaskRecord.id)
            (state.written task.id false .taskTimedOut task.status { task with status := .failed })).2) := by
        simp only [Memory.failExpiredTasks, (same.tasks task.id).trans present, overdue]
        rfl
      rw [List.map_cons, head, swept]
      rfl
    · rw [Sqlite.failExpiredTasks, run_check overdue, run_query, run_execute, run_execute, run_insertEvent]
      · exact bind_ok.mpr ⟨failed, final, committed, rfl⟩
      · rfl

theorem failExpiredDeadlines_agrees {nowMs : Int} {limit : Option Nat} :
    SameOutcome (Memory.failExpiredDeadlines nowMs limit state).1
        (commit (Sqlite.failExpiredDeadlines nowMs limit) db).1 ∧
      Matches (Memory.failExpiredDeadlines nowMs limit state).2
        (commit (Sqlite.failExpiredDeadlines nowMs limit) db).2 := by
  have swept := Sqlite.limited_sublist limit (db.expiredTasks nowMs)
  have sorted := Sqlite.orderedBy_perm (fun task : TaskRecord => task.deadlineMs.getD 0) TaskRecord.id
    (db.tasks.rows.filter (fun task => task.deadlineMs.any (· ≤ nowMs) && !task.status.isTerminal))
  have distinct : ((limited limit (db.expiredTasks nowMs)).map TaskRecord.id).Nodup := by
    have rows := (sorted.map TaskRecord.id).nodup_iff.mpr
      (db.tasks.unique.sublist (List.filter_sublist.map TaskRecord.id))
    exact rows.sublist (swept.map TaskRecord.id)
  have listed : ∀ task ∈ limited limit (db.expiredTasks nowMs),
      db.tasks.find task.id = some task ∧ task.status.isTerminal = false := by
    intro task member
    have row := List.mem_filter.mp (sorted.mem_iff.mp (swept.subset member))
    rw [Bool.and_eq_true, Bool.not_eq_true'] at row
    exact ⟨db.tasks.find_of_mem row.1, row.2.2⟩
  obtain ⟨failed, after, final, first, second, states⟩ := failExpiredTasks_agrees same distinct
    (fun task member => (listed task member).1) (fun task member => (listed task member).2)
  have memory : Memory.failExpiredDeadlines nowMs limit state = (.ok failed, after) := by
    rw [Memory.failExpiredDeadlines, expiredTasks_eq same, limited_map]
    exact first
  have sqlite : commit (Sqlite.failExpiredDeadlines nowMs limit) db = (.ok failed, final) := by
    have run : Sqlite.failExpiredDeadlines nowMs limit db = .ok (failed, final) := second
    simp only [commit, run]
  rw [memory, sqlite]
  exact ⟨rfl, states⟩

theorem leaseRows_perm : state.leases.rows.Perm ((db.leases.rows.filter (·.active)).map (·.lease)) := by
  have distinct : (((db.leases.rows.filter (·.active)).map (·.lease)).map LeaseRecord.taskId).Nodup := by
    rw [List.map_map]
    exact db.leases.unique.sublist (List.filter_sublist.map _)
  refine (List.perm_ext_iff_of_nodup (List.Nodup.of_map _ state.leases.unique) (List.Nodup.of_map _ distinct)).mpr ?_
  intro lease
  rw [Table.mem_rows, same.leases, activeLease_some, List.mem_map]
  constructor
  · intro held
    obtain ⟨row, found, active, rfl⟩ := held
    exact ⟨row, List.mem_filter.mpr ⟨Table.find_mem found, active⟩, rfl⟩
  · intro held
    obtain ⟨row, listed, rfl⟩ := held
    obtain ⟨member, active⟩ := List.mem_filter.mp listed
    exact ⟨row, db.leases.find_of_mem member, active, rfl⟩

theorem staleLeases_eq (nowMs : Int) : state.staleLeases nowMs = db.staleLeases nowMs := by
  have rows := (leaseRows_perm same).filter (fun lease : LeaseRecord => lease.expiresAtMs ≤ nowMs)
  rw [List.filter_map, List.filter_filter] at rows
  have condition : (fun row : Sqlite.LeaseRow => (decide (row.lease.expiresAtMs ≤ nowMs)) && row.active) =
      (fun row => row.active && decide (row.lease.expiresAtMs ≤ nowMs)) := by
    funext row
    exact Bool.and_comm _ _
  apply orderedBy_eq
  · rw [← condition]
    exact rows
  · intro one first other second owner
    exact List.inj_on_of_nodup_map state.leases.unique (List.mem_of_mem_filter first) (List.mem_of_mem_filter second)
      owner

theorem matches_evicted (owner : TaskId) : Matches (state.removeLease owner) (db.deactivateLeaseForTask owner) := by
  refine same.recelled ?_ ⟨rfl, rfl, rfl⟩ ⟨rfl, rfl, rfl⟩
  intro other
  rw [Memory.cell_removeLease, Sqlite.cell_deactivateLeaseForTask, same.cells]

theorem recoverLeases_agrees {leases : List LeaseRecord} :
    Agree Matches (Memory.recoverLeases leases state) (Sqlite.recoverLeases leases db) := by
  induction leases generalizing state db with
  | nil => exact agree_pure same
  | cons lease leases ih =>
    rw [Memory.recoverLeases, Sqlite.recoverLeases, run_execute, run_query, run_query, run_execute]
    have rows : (state.removeLease lease.taskId).tasks.find lease.taskId = db.tasks.find lease.taskId :=
      same.tasks lease.taskId
    rw [rows]
    cases present : db.tasks.find lease.taskId with
    | none => exact ih (matches_evicted same lease.taskId)
    | some task =>
      simp only []
      rw [run_execute, run_execute, run_execute, run_query, run_insertEvent]
      · apply agree_bind (ih (matches_moved same present false .recoveryAction (recoveredStatus task.status)))
        intro report after final states
        by_cases running : task.status = .running
        · rw [if_pos running, if_pos running, running]
          exact agree_pure states
        · rw [if_neg running, if_neg running]
          split
          · exact agree_pure states
          · exact agree_pure states
      · rfl

theorem isCorrupt_eq (task : TaskRecord) : state.isCorrupt task = db.isCorrupt task := by
  have log : db.eventsForTask task.id = state.events.stream task.id :=
    (db.events.ordered_eq task.id).trans (same.events task.id).symm
  unfold Memory.State.isCorrupt Db.isCorrupt
  rw [log]
  cases state.events.stream task.id with
  | nil => rfl
  | cons event events => rfl

theorem corruptTasks_eq : state.corruptTasks = db.corruptTasks := by
  have total : Std.Total (fun left right : TaskRecord => left.id.value ≤ right.id.value) :=
    ⟨fun left right => le_total left.id.value right.id.value⟩
  have trans : IsTrans TaskRecord (fun left right : TaskRecord => left.id.value ≤ right.id.value) :=
    ⟨fun _ _ _ => le_trans⟩
  have sorted : state.tasks.rows.insertionSort (fun left right => left.id.value ≤ right.id.value) =
      db.tasks.rows.insertionSort (fun left right => left.id.value ≤ right.id.value) := by
    apply insertionSort_perm (taskRows_perm same)
    intro one first other second forward backward
    have owner := Identifier.eq_of_value (le_antisymm forward backward)
    exact List.inj_on_of_nodup_map state.tasks.unique first second owner
  unfold Memory.State.corruptTasks Db.corruptTasks
  rw [sorted, show state.isCorrupt = db.isCorrupt from funext (isCorrupt_eq same)]

theorem recoverStaleLeases_agrees {nowMs : Int} {limit : Option Nat} :
    Agree Matches (Memory.recoverStaleLeases nowMs limit state) (Sqlite.recoverStaleLeases nowMs limit db) := by
  rw [Memory.recoverStaleLeases, Sqlite.recoverStaleLeases, run_query, run_query, staleLeases_eq same]
  apply agree_bind (recoverLeases_agrees same)
  intro report after final states
  rw [run_query, run_query, corruptTasks_eq states]
  exact agree_pure states

end

end Keryx.Store
