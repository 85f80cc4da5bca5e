import Keryx.Store.Sqlite.Results

/-! When acceptance and the operations of a lease holder succeed, and the database they leave. -/

namespace Keryx.Store.Sqlite
open Keryx.Core Relational Relational.Transaction Lifecycle

/-- The caller's lease and worker are those of the task's active lease. -/
def Db.Owns (db : Db) (taskId : TaskId) (leaseId : LeaseId) (workerId : AgentId) : Prop :=
  ∃ active, db.activeLease taskId = some active ∧ active.leaseId = leaseId ∧ active.workerId = some workerId

/-- The database after a released lease, a rewritten record and its event. -/
def Db.closed (taskId : TaskId) (changed : TaskRecord) (eventType : KeryxEventType) (fromStatus : TaskStatus) (db : Db) :
    Db :=
  (((db.deactivateLeaseForTask taskId).updateTaskMetadata taskId changed.status changed.retryCount changed.deadLettered
    changed.deadLetterReason).appendEvent taskId eventType (some fromStatus) changed.status)

/-- The lease is released and the task changed. -/
def Db.Changed (change : Change) (taskId : TaskId) (task : TaskRecord) (db : Db) (result : TaskRecord × Db) : Prop :=
  ∃ value eventType, Changes change task value eventType ∧ result = (value, db.closed taskId value eventType task.status)

variable {db : Db} {taskId : TaskId} {leaseId : LeaseId} {workerId : AgentId} {result : TaskRecord × Db}

theorem find_updateTaskMetadata {task : TaskRecord} (present : db.tasks.find taskId = some task) (status : TaskStatus)
    (retryCount : Nat) (deadLettered : Bool) (deadLetterReason : Option String) :
    (db.updateTaskMetadata taskId status retryCount deadLettered deadLetterReason).tasks.find taskId =
      some { task with status, retryCount, deadLettered, deadLetterReason } := by
  simp [Db.updateTaskMetadata, Table.find_update, present]

theorem find_closed {task changed : TaskRecord} {fromStatus : TaskStatus} (present : db.tasks.find taskId = some task)
    (eventType : KeryxEventType) (same : Rewrites task changed) :
    (db.closed taskId changed eventType fromStatus).tasks.find taskId = some changed := by
  rw [same]
  exact find_updateTaskMetadata present _ _ _ _

theorem find_insertTerminalResultAndOutbox (result : TerminalResultRecord) :
    (db.insertTerminalResultAndOutbox result).tasks.find taskId = db.tasks.find taskId := by
  unfold Db.insertTerminalResultAndOutbox
  cases makeOutbox result <;> rfl

theorem fetchOwnedLease_bind {α : Type} {rest : LeaseRecord → Tx α} {result : α × Db} :
    (fetchOwnedLease taskId leaseId workerId >>= rest) db = .ok result ↔
      ∃ active, db.activeLease taskId = some active ∧ active.leaseId = leaseId ∧ active.workerId = some workerId ∧
        rest active db = .ok result := by
  simp [fetchOwnedLease, bind_assoc]

theorem fetchOwnedLease_owns {α : Type} {rest : Tx α} {result : α × Db} :
    (fetchOwnedLease taskId leaseId workerId >>= fun _ => rest) db = .ok result ↔
      db.Owns taskId leaseId workerId ∧ rest db = .ok result := by
  simp only [fetchOwnedLease_bind, Db.Owns, ← exists_and_right, and_assoc]

theorem finishTaskInTx_ok {toStatus : TaskStatus} {retryCount : Nat} {deadLettered : Bool}
    {deadLetterReason : Option String} :
    finishTaskInTx taskId leaseId workerId toStatus retryCount deadLettered deadLetterReason db = .ok result ↔
      db.Owns taskId leaseId workerId ∧ ∃ task transition, db.tasks.find taskId = some task ∧
        validateTransition task.status toStatus = .ok transition ∧
        result = ({ task with status := toStatus, retryCount, deadLettered, deadLetterReason },
          db.closed taskId { task with status := toStatus, retryCount, deadLettered, deadLetterReason }
            transition.eventType task.status) := by
  obtain ⟨value, after⟩ := result
  simp only [finishTaskInTx, fetchTask_bind, fetchActiveLease_bind, check_bind, query_bind, execute_bind,
    insertEvent_bind, fetchTask_ok, validated_ok, ensureMatchingLeaseId, ensureMatchingWorkerId, demand_ok]
  constructor
  · rintro ⟨task, present, active, held, ⟨_, sameLease, _, sameWorker, transition, legal, _, found, rfl⟩⟩
    refine ⟨⟨active, held, sameLease, sameWorker⟩, task, transition, present, legal, ?_⟩
    have same : value = _ := Option.some.inj (found.symm.trans (find_updateTaskMetadata present _ _ _ _))
    rw [same, Db.closed, (validateTransition_moves legal).1, (validateTransition_moves legal).2]
  · rintro ⟨⟨active, held, sameLease, sameWorker⟩, task, transition, present, legal, same⟩
    obtain ⟨rfl, rfl⟩ := Prod.mk.inj same
    refine ⟨task, present, active, held, (), sameLease, (), sameWorker, transition, legal, rfl, ?_, ?_⟩
    · exact find_updateTaskMetadata present _ _ _ _
    · rw [Db.closed, (validateTransition_moves legal).1, (validateTransition_moves legal).2]

variable {task : TaskRecord}

theorem validateTransition_running {status toStatus : TaskStatus} (ends : toStatus.isTerminal = true) :
    (∃ transition, validateTransition status toStatus = .ok transition) ↔ status = .running := by
  constructor
  · rintro ⟨transition, legal⟩
    rcases validateTransition_cases legal with ⟨_, rfl, _⟩ | ⟨running, _⟩ | ⟨running, _⟩
    · cases ends
    · exact running
    · exact running
  · rintro rfl
    cases toStatus with
    | completed => exact ⟨_, rfl⟩
    | failed => exact ⟨_, rfl⟩
    | _ => cases ends

theorem finishTaskInTx_completed (owns : db.Owns taskId leaseId workerId) (present : db.tasks.find taskId = some task) :
    finishTaskInTx taskId leaseId workerId .completed task.retryCount task.deadLettered task.deadLetterReason db =
      .ok result ↔ db.Changed .complete taskId task result := by
  rw [finishTaskInTx_ok]
  constructor
  · rintro ⟨_, _, transition, found, legal, rfl⟩
    cases present.symm.trans found
    have running := (validateTransition_running rfl).mp ⟨transition, legal⟩
    rw [running] at legal
    cases legal
    exact ⟨_, _, .complete running, rfl⟩
  · rintro ⟨_, _, applies, rfl⟩
    cases applies with
    | complete running => exact ⟨owns, task, ⟨.running, .completed, .taskCompleted⟩, present, by rw [running]; rfl, rfl⟩

theorem finishTaskInTx_failed (owns : db.Owns taskId leaseId workerId) (present : db.tasks.find taskId = some task) :
    finishTaskInTx taskId leaseId workerId .failed task.retryCount false none db = .ok result ↔
      db.Changed .failCleared taskId task result := by
  rw [finishTaskInTx_ok]
  constructor
  · rintro ⟨_, _, transition, found, legal, rfl⟩
    cases present.symm.trans found
    have running := (validateTransition_running rfl).mp ⟨transition, legal⟩
    rw [running] at legal
    cases legal
    exact ⟨_, _, .failCleared running, rfl⟩
  · rintro ⟨_, _, applies, rfl⟩
    cases applies with
    | failCleared running => exact ⟨owns, task, ⟨.running, .failed, .taskFailed⟩, present, by rw [running]; rfl, rfl⟩

theorem retryTaskInTx_ok (present : db.tasks.find taskId = some task) :
    retryTaskInTx taskId task db = .ok result ↔ db.Changed .retry taskId task result := by
  obtain ⟨value, after⟩ := result
  have found : ((db.deactivateLeaseForTask taskId).updateTaskMetadata taskId .pending
      (saturatingAddU32 task.retryCount 1) false none).tasks.find taskId = some task.retried :=
    find_updateTaskMetadata present _ _ _ _
  simp only [retryTaskInTx, check_bind, query_bind, execute_bind, insertEvent_bind, fetchTask_ok, requireStatus,
    demand_ok, tasks_appendEvent, found]
  constructor
  · rintro ⟨_, running, _, same, rfl⟩
    cases same
    exact ⟨_, _, .retry running, by rw [Db.closed, running]; rfl⟩
  · rintro ⟨_, _, applies, same⟩
    obtain ⟨rfl, rfl⟩ := Prod.mk.inj same
    cases applies with
    | retry running => exact ⟨(), running, rfl, rfl, by rw [Db.closed, running]⟩

theorem deadLetterTaskInTx_ok {reason : String} (present : db.tasks.find taskId = some task) :
    deadLetterTaskInTx taskId task reason db = .ok result ↔ db.Changed (.deadLetter reason) taskId task result := by
  obtain ⟨value, after⟩ := result
  have found : ((db.deactivateLeaseForTask taskId).updateTaskMetadata taskId .failed
      (saturatingAddU32 task.retryCount 1) true (some reason)).tasks.find taskId = some (task.exhausted reason) :=
    find_updateTaskMetadata present _ _ _ _
  simp only [deadLetterTaskInTx, check_bind, query_bind, execute_bind, insertEvent_bind, fetchTask_ok, requireStatus,
    demand_ok, validated_ok, tasks_appendEvent, found]
  constructor
  · rintro ⟨_, running, transition, legal, _, same, rfl⟩
    cases same
    refine ⟨_, _, .deadLetter running, ?_⟩
    rw [Db.closed, (validateTransition_moves legal).1, (validateTransition_moves legal).2]
    rfl
  · rintro ⟨_, _, applies, same⟩
    obtain ⟨rfl, rfl⟩ := Prod.mk.inj same
    cases applies with
    | deadLetter running =>
      exact ⟨(), running, ⟨.running, .failed, .taskFailed⟩, by rw [running]; rfl, rfl, rfl, by rw [Db.closed, running]⟩

/-- The holder of the lease reports, and the task changes as the change for it says. -/
structure Db.Closes (taskId : TaskId) (leaseId : LeaseId) (workerId : AgentId) (change : TaskRecord → Change) (db : Db)
    (result : TaskRecord × Db) : Prop where
  owns : db.Owns taskId leaseId workerId
  changed : ∃ task, db.tasks.find taskId = some task ∧ db.Changed (change task) taskId task result

theorem completeTask_ok :
    completeTask taskId leaseId workerId db = .ok result ↔ db.Closes taskId leaseId workerId (fun _ => .complete) result := by
  simp only [completeTask, fetchTask_bind]
  constructor
  · rintro ⟨task, present, success⟩
    have owns := (finishTaskInTx_ok.mp success).1
    exact ⟨owns, task, present, (finishTaskInTx_completed owns present).mp success⟩
  · rintro ⟨owns, task, present, changed⟩
    exact ⟨task, present, (finishTaskInTx_completed owns present).mpr changed⟩

variable {errorReason : String} {policy : RetryPolicy} {change : TaskRecord → Change}

theorem owned_ok {report : TaskRecord → Tx TaskRecord}
    (changes : db.Owns taskId leaseId workerId → ∀ task, db.tasks.find taskId = some task →
      (report task db = .ok result ↔ db.Changed (change task) taskId task result)) :
    (do let task ← fetchTask taskId
        let _ ← fetchOwnedLease taskId leaseId workerId
        report task) db = .ok result ↔ db.Closes taskId leaseId workerId change result := by
  simp only [fetchTask_bind, fetchOwnedLease_owns]
  constructor
  · rintro ⟨task, present, owns, success⟩
    exact ⟨owns, task, present, (changes owns task present).mp success⟩
  · rintro ⟨owns, task, present, changed⟩
    exact ⟨task, present, owns, (changes owns task present).mpr changed⟩

theorem retryTask_ok :
    retryTask taskId leaseId workerId db = .ok result ↔ db.Closes taskId leaseId workerId (fun _ => .retry) result :=
  owned_ok fun _ _ present => retryTaskInTx_ok present

theorem deadLetterTask_ok :
    deadLetterTask taskId leaseId workerId errorReason db = .ok result ↔
      db.Closes taskId leaseId workerId (fun _ => .deadLetter errorReason) result :=
  owned_ok fun _ _ present => deadLetterTaskInTx_ok present

theorem failTask_ok :
    failTask taskId leaseId workerId errorReason policy db = .ok result ↔
      db.Closes taskId leaseId workerId (failureChange policy errorReason) result := by
  refine owned_ok fun owns task present => ?_
  have fails : (if policy.maxRetries = 0 then finishTaskInTx taskId leaseId workerId .failed task.retryCount false none
      else if policy.shouldRetryAfterFailure task.retryCount then retryTaskInTx taskId task
      else deadLetterTaskInTx taskId task errorReason) db = .ok result ↔
        db.Changed (failureChange policy errorReason task) taskId task result := by
    unfold failureChange
    split
    · exact finishTaskInTx_failed owns present
    split
    · exact retryTaskInTx_ok present
    · exact deadLetterTaskInTx_ok present
  simp only [check_bind, requireStatus, demand_ok, exists_const, fails]
  refine and_iff_right_of_imp ?_
  rintro ⟨_, _, applies, _⟩
  exact applies.of_failure.1

theorem ensureRunningLeaseUnexpired_bind {α : Type} {status : TaskStatus} {nowMs : Int} {rest : Unit → Tx α}
    {result : α × Db} :
    (ensureRunningLeaseUnexpired taskId status nowMs >>= rest) db = .ok result ↔
      (status = .running →
          ∃ active, db.activeLease taskId = some active ∧ ensureActiveLeaseUnexpired active nowMs = .ok ()) ∧
        rest () db = .ok result := by
  unfold ensureRunningLeaseUnexpired
  by_cases running : status = .running
  · simp only [running, if_true, forall_const, bind_assoc, fetchActiveLease_bind, check_bind, ← exists_and_right,
      and_assoc, Unique.exists_iff, PUnit.default_eq_unit]
  · simp [running]

theorem ensureCancellationProof_bind {α : Type} {status : TaskStatus} {lease : Option LeaseId}
    {worker : Option AgentId} {nowMs : Int} {rest : Unit → Tx α} {result : α × Db} :
    (ensureCancellationProof taskId status lease worker nowMs >>= rest) db = .ok result ↔
      (status = .running → ∃ active leaseId workerId, db.activeLease taskId = some active ∧ lease = some leaseId ∧
          worker = some workerId ∧ active.leaseId = leaseId ∧ active.workerId = some workerId ∧
          ensureActiveLeaseUnexpired active nowMs = .ok ()) ∧
        rest () db = .ok result := by
  unfold ensureCancellationProof
  by_cases running : status = .running
  · simp only [running, if_true, forall_const, bind_assoc, fetchActiveLease_bind, check_bind, require_bind,
      ensureMatchingLeaseId, ensureMatchingWorkerId, demand_ok, Unique.exists_iff, PUnit.default_eq_unit]
    constructor
    · rintro ⟨active, held, leaseId, sameLease, workerId, sameWorker, owned, worked, live, success⟩
      exact ⟨⟨active, leaseId, workerId, held, sameLease, sameWorker, owned, worked, live⟩, success⟩
    · rintro ⟨⟨active, leaseId, workerId, held, sameLease, sameWorker, owned, worked, live⟩, success⟩
      exact ⟨active, held, leaseId, sameLease, workerId, sameWorker, owned, worked, live, success⟩
  · simp [running]

variable {terminal stored : TerminalResultRecord} {value : TaskRecord} {after : Db}

/-- The result is stored if the task has ended. -/
def Db.concluded (terminal : TerminalResultRecord) (value : TaskRecord) (db : Db) : Db :=
  if value.status.isTerminal then db.insertTerminalResultAndOutbox terminal else db

/-- The same result is stored already, or the holder of the lease changes the task. -/
inductive Db.Concludes (taskId : TaskId) (leaseId : LeaseId) (workerId : AgentId) (change : TaskRecord → Change)
    (terminal : TerminalResultRecord) (db : Db) : TaskRecord × Db → Prop
  | repeated {value : TaskRecord} (stored : db.terminalResults.find taskId = some terminal)
      (present : db.tasks.find taskId = some value) : Concludes taskId leaseId workerId change terminal db (value, db)
  | taken {task value : TaskRecord} {eventType : KeryxEventType} (unsettled : db.terminalResults.find taskId = none)
      (owns : db.Owns taskId leaseId workerId) (present : db.tasks.find taskId = some task)
      (running : task.status = .running) (applies : Changes (change task) task value eventType) :
      Concludes taskId leaseId workerId change terminal db
        (value, (db.closed taskId value eventType task.status).concluded terminal value)

theorem settling_ok {outcome : Tx TaskRecord} {kind : Change}
    (changes : ∀ result, outcome db = .ok result ↔ db.Changed kind taskId task result)
    (ends : ∀ value eventType, Changes kind task value eventType → value.status.isTerminal = true) :
    (do let updated ← outcome
        execute (Db.insertTerminalResultAndOutbox terminal)
        pure updated) db = .ok (value, after) ↔
      ∃ middle, db.Changed kind taskId task (value, middle) ∧ after = middle.concluded terminal value := by
  have stores : ∀ middle, db.Changed kind taskId task (value, middle) →
      middle.concluded terminal value = middle.insertTerminalResultAndOutbox terminal := by
    rintro middle ⟨_, eventType, applies, same⟩
    cases same
    exact if_pos (ends _ _ applies)
  simp only [bind_ok, execute_ok, pure_ok]
  constructor
  · rintro ⟨updated, middle, success, _, stored, written, same⟩
    cases written
    cases same
    have changed := (changes _).mp success
    exact ⟨middle, changed, (stores middle changed).symm⟩
  · rintro ⟨middle, changed, rfl⟩
    exact ⟨value, middle, (changes _).mpr changed, (), _, rfl, by rw [stores middle changed]⟩

theorem reporting_ok {report : TaskRecord → Tx TaskRecord}
    (running : ∀ {task value eventType}, Changes (change task) task value eventType → task.status = .running)
    (takes : ∀ task, db.tasks.find taskId = some task → (report task db = .ok (value, after) ↔
      db.Owns taskId leaseId workerId ∧ ∃ middle, db.Changed (change task) taskId task (value, middle) ∧
        after = middle.concluded terminal value)) :
    (do check (ensureResultTask terminal taskId)
        let existing ← query (fun db : Db => db.terminalResults.find taskId)
        match existing with
        | some existing => if existing = terminal then fetchTask taskId else reject (.terminalResultConflict taskId)
        | none => fetchTask taskId >>= report) db = .ok (value, after) ↔
      (terminal.terminalStatus.isTerminal = true ∧ terminal.taskId = taskId) ∧
        db.Concludes taskId leaseId workerId change terminal (value, after) := by
  simp only [check_bind, query_bind, ensureResultTask_ok, exists_const]
  refine and_congr_right fun _ => ?_
  cases existing : db.terminalResults.find taskId with
  | some stored =>
    by_cases same : stored = terminal
    · simp only [same, if_true, fetchTask_ok]
      rw [same] at existing
      constructor
      · rintro ⟨present, rfl⟩
        exact .repeated existing present
      · intro concludes
        cases concludes with
        | repeated _ present => exact ⟨present, rfl⟩
        | taken unsettled => cases existing.symm.trans unsettled
    · simp only [same, if_false]
      refine iff_of_false (by rintro ⟨⟩) fun concludes => ?_
      cases concludes with
      | repeated found => exact same (Option.some.inj (existing.symm.trans found))
      | taken unsettled => cases existing.symm.trans unsettled
  | none =>
    simp only [fetchTask_bind]
    constructor
    · rintro ⟨task, present, success⟩
      obtain ⟨owns, middle, ⟨_, _, applies, same⟩, rfl⟩ := (takes task present).mp success
      obtain ⟨rfl, rfl⟩ := Prod.mk.inj same
      exact .taken existing owns present (running applies) applies
    · intro concludes
      cases concludes with
      | repeated found => cases existing.symm.trans found
      | taken _ owns present _ applies =>
        exact ⟨_, present, (takes _ present).mpr ⟨owns, _, ⟨_, _, applies, rfl⟩, rfl⟩⟩

theorem completeTaskWithResult_ok :
    completeTaskWithResult taskId leaseId workerId terminal db = .ok (value, after) ↔
      (terminal.terminalStatus.isTerminal = true ∧ terminal.taskId = taskId) ∧
        db.Concludes taskId leaseId workerId (fun _ => .complete) terminal (value, after) := by
  refine reporting_ok (fun applies => by cases applies; assumption) fun task present => ?_
  by_cases owns : db.Owns taskId leaseId workerId
  · rw [settling_ok (fun _ => finishTaskInTx_completed owns present) fun _ _ applies => by cases applies; rfl]
    exact (and_iff_right owns).symm
  · refine iff_of_false (fun success => ?_) fun both => owns both.1
    obtain ⟨_, _, finished, _⟩ := bind_ok.mp success
    exact owns (finishTaskInTx_ok.mp finished).1

theorem failTaskWithResult_ok :
    failTaskWithResult taskId leaseId workerId errorReason policy terminal db = .ok (value, after) ↔
      (terminal.terminalStatus.isTerminal = true ∧ terminal.taskId = taskId) ∧
        db.Concludes taskId leaseId workerId (failureChange policy errorReason) terminal (value, after) := by
  refine reporting_ok (fun applies => applies.of_failure.1) fun task present => ?_
  refine fetchOwnedLease_owns.trans (and_congr_right fun owns => ?_)
  unfold failureChange
  split
  · exact settling_ok (fun _ => finishTaskInTx_failed owns present) fun _ _ applies => by cases applies; rfl
  split
  · rw [retryTaskInTx_ok present]
    constructor
    · rintro ⟨_, _, applies, same⟩
      cases applies with
      | retry running =>
        cases same
        exact ⟨_, ⟨_, _, .retry running, rfl⟩, rfl⟩
    · rintro ⟨middle, ⟨_, _, applies, same⟩, rfl⟩
      cases applies with
      | retry running =>
        cases same
        exact ⟨_, _, .retry running, rfl⟩
  · exact settling_ok (fun _ => deadLetterTaskInTx_ok present) fun _ _ applies => by cases applies; rfl

/-- The database holds the same outcome already, or the task runs without any. -/
def Db.TakesResult (db : Db) (taskId : TaskId) (result : TerminalResultRecord) : Prop :=
  match db.terminalResults.find taskId with
  | some stored => stored = result
  | none => ∃ task, db.tasks.find taskId = some task ∧ task.status = .running

theorem concludes_takes (owns : db.Owns taskId leaseId workerId) (present : db.tasks.find taskId = some task)
    (changes : task.status = .running → ∃ value eventType, Changes (change task) task value eventType) :
    (∃ value after, db.Concludes taskId leaseId workerId change terminal (value, after)) ↔
      db.TakesResult taskId terminal := by
  unfold Db.TakesResult
  cases existing : db.terminalResults.find taskId with
  | some stored =>
    constructor
    · rintro ⟨_, _, concludes⟩
      cases concludes with
      | repeated found => exact Option.some.inj (existing.symm.trans found)
      | taken unsettled => cases existing.symm.trans unsettled
    · rintro rfl
      exact ⟨_, _, .repeated existing present⟩
  | none =>
    constructor
    · rintro ⟨_, _, concludes⟩
      cases concludes with
      | repeated found => cases existing.symm.trans found
      | taken _ _ present running => exact ⟨_, present, running⟩
    · rintro ⟨stored, found, running⟩
      cases present.symm.trans found
      obtain ⟨value, eventType, applies⟩ := changes running
      exact ⟨_, _, .taken existing owns present running applies⟩

theorem completeTaskWithResult_takes (owns : db.Owns taskId leaseId workerId)
    (present : db.tasks.find taskId = some task) (ends : terminal.terminalStatus.isTerminal = true)
    (owner : terminal.taskId = taskId) :
    (∃ outcome, completeTaskWithResult taskId leaseId workerId terminal db = .ok outcome) ↔
      db.TakesResult taskId terminal := by
  simp only [Prod.exists, completeTaskWithResult_ok, ends, owner, and_self, true_and]
  exact concludes_takes owns present fun running => ⟨_, _, .complete running⟩

theorem failTaskWithResult_takes (owns : db.Owns taskId leaseId workerId) (present : db.tasks.find taskId = some task)
    (ends : terminal.terminalStatus.isTerminal = true) (owner : terminal.taskId = taskId) :
    (∃ outcome, failTaskWithResult taskId leaseId workerId errorReason policy terminal db = .ok outcome) ↔
      db.TakesResult taskId terminal := by
  simp only [Prod.exists, failTaskWithResult_ok, ends, owner, and_self, true_and]
  exact concludes_takes owns present (failureChange_applies policy errorReason)

/-- The task is stored with this result, which ended it now or was there before. -/
structure Db.Records (taskId : TaskId) (terminal : TerminalResultRecord) (db : Db) (value : TaskRecord) (after : Db) :
    Prop where
  known : (db.tasks.find taskId).isSome
  stored : after.terminalResults.find taskId = some terminal
  present : after.tasks.find taskId = some value
  ended : value.status.isTerminal = true ∨ after = db

theorem Db.Concludes.records (concludes : db.Concludes taskId leaseId workerId change terminal (value, after))
    (owner : terminal.taskId = taskId)
    (ended : ∀ {task eventType}, Changes (change task) task value eventType → value.status.isTerminal = true) :
    db.Records taskId terminal value after := by
  cases concludes with
  | repeated stored present => exact ⟨by rw [present]; rfl, stored, present, .inr rfl⟩
  | taken unsettled owns present running applies =>
    rw [Db.concluded, if_pos (ended applies)]
    refine ⟨by rw [present]; rfl, ?_, ?_, .inl (ended applies)⟩
    · subst owner
      unfold Db.insertTerminalResultAndOutbox
      split <;> exact Table.find_put_self _ _
    · rw [find_insertTerminalResultAndOutbox]
      exact find_closed present _ applies.rewrites

theorem concludes_again (found : db.terminalResults.find taskId = some stored)
    (present : db.tasks.find taskId = some task) :
    db.Concludes taskId leaseId workerId change terminal result ↔ stored = terminal ∧ result = (task, db) := by
  constructor
  · intro concludes
    cases concludes with
    | repeated same known =>
      cases present.symm.trans known
      exact ⟨Option.some.inj (found.symm.trans same), rfl⟩
    | taken unsettled => cases found.symm.trans unsettled
  · rintro ⟨rfl, rfl⟩
    exact .repeated found present

/-- The task was there, with what the caller holds of it, or is stored now. -/
inductive Db.Accepts (task : TaskRecord) (held : Prop) (again add : Db → Db) (db : Db) : TaskRecord × Db → Prop
  | known (present : db.tasks.find task.id = some task) (same : held) : Accepts task held again add db (task, again db)
  | stored (fresh : db.tasks.find task.id = none) (unowned : db.idempotencyRow task = none)
      (first : 1 = db.nextSequence task.id) : Accepts task held again add db (task, add (db.insertAccepted task))

section
variable {task : TaskRecord} {envelope : TaskEnvelopeRecord} {context : TaskTransportContextRecord}

/-- The key of a task is taken by the task itself. -/
def Db.OwnsKey (task : TaskRecord) (db : Db) : Prop := ∃ row, db.idempotencyRow task = some row ∧ row.taskId = task.id

theorem acceptTask_ok (success : acceptTask task db = .ok result) :
    task.status = .pending ∧ db.Accepts task (db.OwnsKey task) id id result := by
  simp only [acceptTask, check_bind, validateAcceptedTaskStatus, demand_ok, query_bind] at success
  obtain ⟨_, pending, _, _, success⟩ := success
  refine ⟨pending, ?_⟩
  cases owned : db.idempotencyRow task with
  | some row =>
    simp only [owned, fetchTask_bind] at success
    obtain ⟨existing, present, success⟩ := success
    split at success
    · rename_i same
      have owner : existing.id = row.taskId := Table.find_key present
      subst same
      rw [← pure_ok.mp success]
      exact .known (owner ▸ present) ⟨row, owned, owner.symm⟩
    · simp at success
  | none =>
    simp only [owned, query_bind, ensure_bind, insertAcceptedTask_bind, pure_ok] at success
    obtain ⟨fresh, first, rfl⟩ := success
    exact .stored fresh owned first

theorem acceptTaskWithEnvelope_ok : acceptTaskWithEnvelope task envelope db = .ok result ↔
    task.status = .pending ∧ task.id = envelope.taskId ∧
      db.Accepts task (db.OwnsKey task ∧ db.envelopes.find task.id = some envelope) id (Db.insertEnvelope envelope)
        result := by
  simp only [acceptTaskWithEnvelope, check_bind, validateAcceptedTaskStatus, ensurePendingAccept,
    ensureMatchingEnvelopeTaskId, demand_ok, query_bind, exists_const]
  constructor
  · rintro ⟨pending, _, owner, success⟩
    refine ⟨pending, owner, ?_⟩
    cases owned : db.idempotencyRow task with
    | some row =>
      simp only [owned, fetchTask_bind] at success
      obtain ⟨existing, present, success⟩ := success
      split at success
      · rename_i same
        simp only [query_bind, ensure_bind, pure_ok] at success
        obtain ⟨enveloped, rfl⟩ := success
        have named : existing.id = row.taskId := Table.find_key present
        subst same
        rw [← named] at present enveloped
        exact .known present ⟨⟨row, owned, named.symm⟩, enveloped⟩
      · simp at success
    | none =>
      simp only [owned, query_bind, ensure_bind, insertAcceptedTask_bind, execute_bind, pure_ok] at success
      obtain ⟨fresh, first, rfl⟩ := success
      exact .stored fresh owned first
  · rintro ⟨pending, owner, accepts⟩
    refine ⟨pending, pending, owner, ?_⟩
    cases accepts with
    | known present same =>
      obtain ⟨⟨row, owned, named⟩, enveloped⟩ := same
      rw [← named] at present enveloped
      simp only [owned, fetchTask_bind]
      refine ⟨task, present, ?_⟩
      simp only [if_true, query_bind, ensure_bind, pure_ok]
      exact ⟨enveloped, rfl⟩
    | stored fresh unowned first =>
      simp only [unowned, query_bind, ensure_bind, insertAcceptedTask_bind, execute_bind, pure_ok]
      exact ⟨fresh, first, trivial⟩

theorem acceptTaskWithEnvelopeAndContext_ok : acceptTaskWithEnvelopeAndContext task envelope context db = .ok result ↔
    task.status = .pending ∧ task.id = envelope.taskId ∧ context.taskId = task.id ∧
      db.Accepts task
        ((db.envelopes.find task.id).any (fun stored => sameDeliveredEnvelope stored envelope) ∧
          (db.transportContexts.find task.id).any (fun stored => sameTransportIdentity stored context))
        (Db.updateRelayFrame context) (fun stored => (stored.insertEnvelope envelope).insertTransportContext context)
        result := by
  simp only [acceptTaskWithEnvelopeAndContext, check_bind, validateAcceptedTaskStatus, ensurePendingAccept,
    ensureMatchingEnvelopeTaskId, ensureContextTask, demand_ok, query_bind, exists_const]
  constructor
  · rintro ⟨pending, _, ownsEnvelope, ownsContext, success⟩
    refine ⟨pending, ownsEnvelope, ownsContext, ?_⟩
    cases known : db.tasks.find task.id with
    | some existing =>
      simp only [known, query_bind, ensure_bind, execute_bind, pure_ok] at success
      obtain ⟨⟨rfl, delivered⟩, rfl⟩ := success
      exact .known known delivered
    | none =>
      simp only [known, query_bind] at success
      cases owned : db.idempotencyRow task with
      | some row => simp [owned] at success
      | none =>
        simp only [owned, insertAcceptedTask_bind, execute_bind, pure_ok] at success
        obtain ⟨first, rfl⟩ := success
        exact .stored known owned first
  · rintro ⟨pending, ownsEnvelope, ownsContext, accepts⟩
    refine ⟨pending, pending, ownsEnvelope, ownsContext, ?_⟩
    cases accepts with
    | known present same =>
      simp only [present, query_bind, ensure_bind, execute_bind, pure_ok]
      exact ⟨⟨trivial, same⟩, trivial⟩
    | stored fresh unowned first =>
      simp only [fresh, unowned, query_bind, insertAcceptedTask_bind, execute_bind, pure_ok]
      exact ⟨first, trivial⟩

end

end Keryx.Store.Sqlite
