import Keryx.Store.Sqlite.Runs

/-! The retry budget of a task.
Reported failures use it up; a recovered lease, which requeues by the same kind of event, does not. -/

namespace Keryx.Store.Sqlite
open Keryx.Core Relational Relational.Transaction Lifecycle

def Op.failure (taskId : TaskId) : Op → Option (Tx TaskRecord)
  | .failTask owner leaseId workerId errorReason policy =>
    if owner = taskId then some (Sqlite.failTask taskId leaseId workerId errorReason policy) else none
  | .failTaskWithResult owner leaseId workerId errorReason policy result =>
    if owner = taskId then some (Sqlite.failTaskWithResult taskId leaseId workerId errorReason policy result) else none
  | _ => none

def Db.failedTo (taskId : TaskId) (db : Db) (op : Op) : Option TaskRecord :=
  match op.failure taskId with
  | none => none
  | some transaction =>
    if (db.tasks.find taskId).any (·.status = .running) then (commit transaction db).1.toOption else none

def recordsFailure (taskId : TaskId) (db : Db) (op : Op) : Bool := (db.failedTo taskId op).isSome

def requeues (taskId : TaskId) (db : Db) (op : Op) : Bool := (db.failedTo taskId op).any (·.status = .pending)

/-- The task is accepted as a new one, its failures are reported under the policy, and it is requeued or given up only
by such a report. -/
def Op.Under (taskId : TaskId) (policy : RetryPolicy) : Op → Prop
  | .acceptTask task | .acceptTaskWithEnvelope task _ | .acceptTaskWithEnvelopeAndContext task _ _ =>
    task.id = taskId → task.retryCount = 0 ∧ task.deadLettered = false
  | .failTask owner _ _ _ given | .failTaskWithResult owner _ _ _ given _ => owner = taskId → given = policy
  | .retryTask owner _ _ | .deadLetterTask owner _ _ _ => owner ≠ taskId
  | _ => True

/-- What the record of a task says after some failures, of which some requeued it. -/
structure Spent (maxRetries failures requeued : Nat) (cell : Cell) : Prop where
  absent : cell.record = none → failures = 0 ∧ requeued = 0
  alive : ∀ task, cell.record = some task → task.deadLettered = false →
    failures = task.retryCount ∧ requeued = task.retryCount ∧ task.retryCount ≤ maxRetries
  dead : ∀ task, cell.record = some task → task.deadLettered = true →
    failures = maxRetries + 1 ∧ requeued = maxRetries ∧ task.retryCount = maxRetries + 1 ∧ task.status.isTerminal = true

variable {maxRetries failures requeued : Nat} {taskId : TaskId} {op : Op} {db : Db} {policy : RetryPolicy}

def Unreported (change : Change) : Prop :=
  change ≠ .failCleared ∧ change ≠ .retry ∧ change ≠ .requeue ∧ ∀ reason, change ≠ .deadLetter reason

theorem Unreported.keeps {change : Change} {task changed : TaskRecord} {eventType : KeryxEventType}
    (unreported : Unreported change) (applies : Changes change task changed eventType) :
    changed.retryCount = task.retryCount ∧ changed.deadLettered = task.deadLettered := by
  obtain ⟨cleared, retried, requeue, given⟩ := unreported
  cases applies with
  | failCleared running => exact absurd rfl cleared
  | retry running => exact absurd rfl retried
  | requeue running => exact absurd rfl requeue
  | deadLetter running => exact absurd rfl (given _)
  | _ => exact ⟨rfl, rfl⟩

def Neutral (taskId : TaskId) (action : Action) : Prop :=
  (∀ task, action = .accept task → task.id = taskId → task.retryCount = 0 ∧ task.deadLettered = false) ∧
    ∀ change keepsLease result, action = .advance change keepsLease result → Unreported change

variable {before after : Cell}

theorem Spent.changed {task changed : TaskRecord} (spent : Spent maxRetries failures requeued before)
    (present : before.record = some task) (kept : after.record = some changed)
    (retryCount : changed.retryCount = task.retryCount) (deadLettered : changed.deadLettered = task.deadLettered)
    (ended : task.status.isTerminal = true → changed.status.isTerminal = true) :
    Spent maxRetries failures requeued after := by
  refine ⟨?_, ?_, ?_⟩
  · intro none
    rw [kept] at none
    cases none
  · intro other same alive
    rw [kept] at same
    cases same
    rw [retryCount]
    exact spent.alive task present (deadLettered ▸ alive)
  · intro other same dead
    rw [kept] at same
    cases same
    obtain ⟨failed, requeues, count, terminal⟩ := spent.dead task present (deadLettered ▸ dead)
    exact ⟨failed, requeues, retryCount.trans count, ended terminal⟩

theorem Spent.step {action : Action} (spent : Spent maxRetries failures requeued before)
    (neutral : Neutral taskId action) (step : Lifecycle.Step taskId action before after) :
    Spent maxRetries failures requeued after := by
  cases step with
  | accept owner fresh silent pending =>
    obtain ⟨none, never⟩ := spent.absent fresh
    obtain ⟨count, alive⟩ := neutral.1 _ rfl owner
    refine ⟨?_, ?_, ?_⟩
    · intro impossible
      cases impossible
    · intro task same _
      cases same
      rw [count]
      exact ⟨none, never, Nat.zero_le _⟩
    · intro task same dead
      cases same
      rw [alive] at dead
      cases dead
  | lease present pending free =>
    refine spent.changed present rfl rfl rfl ?_
    intro terminal
    rw [pending] at terminal
    cases terminal
  | renew present running held => exact ⟨spent.absent, spent.alive, spent.dead⟩
  | evict => exact ⟨spent.absent, spent.alive, spent.dead⟩
  | advance present applies =>
    obtain ⟨count, marks⟩ := (neutral.2 _ _ _ rfl).keeps applies
    exact spent.changed present rfl count marks fun terminal => by
      obtain ⟨same, _⟩ := applies.terminal terminal
      rw [same]
      exact terminal
  | settle present applies unsettled unfinished ends =>
    obtain ⟨count, marks⟩ := (neutral.2 _ _ _ rfl).keeps applies
    exact spent.changed present rfl count marks fun _ => ends

theorem permits_neutral {action : Action} (under : op.Under taskId policy) (silent : op.failure taskId = none)
    (permitted : op.permits taskId action) : Neutral taskId action := by
  cases op with
  | acceptTask task =>
    cases permitted
    exact ⟨fun other same owner => by cases same; exact under owner, fun _ _ _ same => by cases same⟩
  | acceptTaskWithEnvelope task envelope =>
    cases permitted
    exact ⟨fun other same owner => by cases same; exact under owner, fun _ _ _ same => by cases same⟩
  | acceptTaskWithEnvelopeAndContext task envelope context =>
    cases permitted
    exact ⟨fun other same owner => by cases same; exact under owner, fun _ _ _ same => by cases same⟩
  | failTask owner leaseId workerId errorReason given =>
    rw [Op.failure, if_pos permitted.1.symm] at silent
    cases silent
  | failTaskWithResult owner leaseId workerId errorReason given result =>
    rw [Op.failure, if_pos permitted.1.symm] at silent
    cases silent
  | retryTask owner leaseId workerId => exact absurd permitted.1.symm under
  | deadLetterTask owner leaseId workerId reason => exact absurd permitted.1.symm under
  | _ => grind [Op.permits, Neutral, Unreported]

/-- A failure of the running task that a call records. -/
inductive FailureTaken (policy : RetryPolicy) (task : TaskRecord) : TaskRecord → Prop
  | requeued (left : policy.shouldRetryAfterFailure task.retryCount = true) : FailureTaken policy task task.retried
  | exhausted (reason : String) (used : policy.shouldRetryAfterFailure task.retryCount = false) :
      FailureTaken policy task (task.exhausted reason)

/-- A failure report that succeeds finds the task running and records the failure, or finds a result stored and writes
nothing. -/
def Reports (taskId : TaskId) (policy : RetryPolicy) (db : Db) (value : TaskRecord) (after : Db) : Prop :=
  (∃ task, db.tasks.find taskId = some task ∧ task.status = .running ∧ FailureTaken policy task value ∧
      after.tasks.find taskId = some value) ∨
    ((db.terminalResults.find taskId).isSome ∧ after = db)

theorem FailureTaken.of_failure {task value : TaskRecord} {reason : String} {eventType : KeryxEventType}
    (applies : Changes (failureChange policy reason task) task value eventType) (positive : policy.maxRetries ≠ 0) :
    FailureTaken policy task value := by
  rcases applies.of_failure with ⟨_, ⟨final, _⟩ | ⟨left, _, rfl⟩ | ⟨used, _, rfl⟩⟩
  · exact absurd final positive
  · exact .requeued left
  · exact .exhausted reason used

theorem failTask_reports {leaseId : LeaseId} {workerId : AgentId} {errorReason : String}
    (positive : policy.maxRetries ≠ 0) :
    Ensures (Reports taskId policy db) (failTask taskId leaseId workerId errorReason policy) db := by
  intro value after success
  obtain ⟨_, task, present, _, eventType, applies, same⟩ := failTask_ok.mp success
  cases same
  exact .inl ⟨task, present, applies.of_failure.1, .of_failure applies positive, find_closed present _ applies.rewrites⟩

theorem failTaskWithResult_reports {leaseId : LeaseId} {workerId : AgentId} {errorReason : String}
    {result : TerminalResultRecord} (positive : policy.maxRetries ≠ 0) :
    Ensures (Reports taskId policy db) (failTaskWithResult taskId leaseId workerId errorReason policy result) db := by
  intro value after success
  obtain ⟨_, concludes⟩ := failTaskWithResult_ok.mp success
  cases concludes with
  | repeated stored => exact .inr ⟨by rw [stored]; rfl, rfl⟩
  | @taken task value eventType unsettled owns present running applies =>
    have found := @find_closed db taskId task value task.status present eventType applies.rewrites
    refine .inl ⟨task, present, running, .of_failure applies positive, ?_⟩
    unfold Db.concluded
    split
    · rw [find_insertTerminalResultAndOutbox]
      exact found
    · exact found

theorem failure_reports {transaction : Tx TaskRecord} (under : op.Under taskId policy)
    (positive : policy.maxRetries ≠ 0) (reports : op.failure taskId = some transaction) :
    Ensures (Reports taskId policy db) transaction db := by
  cases op with
  | failTask owner leaseId workerId errorReason given =>
    by_cases own : owner = taskId
    · rw [Op.failure, if_pos own] at reports
      cases reports
      cases under own
      exact failTask_reports positive
    · rw [Op.failure, if_neg own] at reports
      cases reports
  | failTaskWithResult owner leaseId workerId errorReason given result =>
    by_cases own : owner = taskId
    · rw [Op.failure, if_pos own] at reports
      cases reports
      cases under own
      exact failTaskWithResult_reports positive
    · rw [Op.failure, if_neg own] at reports
      cases reports
  | _ => cases reports

theorem Spent.reported {task value : TaskRecord} (below : policy.maxRetries < u32Max)
    (spent : Spent policy.maxRetries failures requeued before) (present : before.record = some task)
    (running : task.status = .running) (reported : FailureTaken policy task value) (found : after.record = some value) :
    Spent policy.maxRetries (failures + 1) (requeued + if value.status = .pending then 1 else 0) after := by
  have alive : task.deadLettered = false := by
    cases marked : task.deadLettered with
    | false => rfl
    | true =>
      have terminal := (spent.dead task present marked).2.2.2
      rw [running] at terminal
      cases terminal
  obtain ⟨failed, queued, bounded⟩ := spent.alive task present alive
  have next : saturatingAddU32 task.retryCount 1 = task.retryCount + 1 := Nat.min_eq_left (by omega)
  have absent : after.record = none → failures + 1 = 0 ∧ (requeued + if value.status = .pending then 1 else 0) = 0 := by
    intro none
    rw [found] at none
    cases none
  cases reported with
  | requeued left =>
    simp only [RetryPolicy.shouldRetryAfterFailure, next, Bool.and_eq_true, decide_eq_true_eq] at left
    refine ⟨absent, ?_, ?_⟩
    · intro other same _
      rw [found] at same
      cases same
      simp only [TaskRecord.retried, next, if_true]
      omega
    · intro other same dead
      rw [found] at same
      cases same
      cases dead
  | exhausted reason used =>
    simp only [RetryPolicy.shouldRetryAfterFailure, next, Bool.and_eq_false_iff, decide_eq_false_iff_not] at used
    refine ⟨absent, ?_, ?_⟩
    · intro other same undead
      rw [found] at same
      cases same
      cases undead
    · intro other same _
      rw [found] at same
      cases same
      refine ⟨?_, ?_, ?_, rfl⟩
      · omega
      · simp only [TaskRecord.exhausted, reduceCtorEq, if_false]
        omega
      · simp only [TaskRecord.exhausted, next]
        omega

section
variable [Sha256]

theorem step_failure {transaction : Tx TaskRecord} (reports : op.failure taskId = some transaction) :
    step db op = (commit transaction db).2 := by
  cases op with
  | failTask owner leaseId workerId errorReason given =>
    by_cases own : owner = taskId
    · rw [Op.failure, if_pos own] at reports
      cases reports
      cases own
      rfl
    · rw [Op.failure, if_neg own] at reports
      cases reports
  | failTaskWithResult owner leaseId workerId errorReason given result =>
    by_cases own : owner = taskId
    · rw [Op.failure, if_pos own] at reports
      cases reports
      cases own
      rfl
    · rw [Op.failure, if_neg own] at reports
      cases reports
  | _ => cases reports

theorem failedTo_cases {transaction : Tx TaskRecord} (under : op.Under taskId policy) (positive : policy.maxRetries ≠ 0)
    (settled : Lifecycle.Settled (db.cell taskId)) (reports : op.failure taskId = some transaction) :
    (db.failedTo taskId op = none ∧ (step db op).tasks.find taskId = db.tasks.find taskId) ∨
      ∃ task value, db.tasks.find taskId = some task ∧ task.status = .running ∧ db.failedTo taskId op = some value ∧
        FailureTaken policy task value ∧ (step db op).tasks.find taskId = some value := by
  have ensures : Ensures (Reports taskId policy db) transaction db := failure_reports under positive reports
  rw [step_failure reports]
  simp only [Db.failedTo, reports]
  rcases commit_cases transaction db with ⟨failure, failed⟩ | ⟨value, after, success, committed⟩
  · rw [failed]
    left
    refine ⟨?_, rfl⟩
    split <;> rfl
  · rw [committed]
    rcases ensures value after success with ⟨task, present, running, reported, found⟩ | ⟨stored, same⟩
    · right
      refine ⟨task, value, present, running, ?_, reported, found⟩
      rw [present]
      simp only [Option.any_some, running, decide_true, if_true]
      rfl
    · left
      obtain ⟨task, present, terminal⟩ := settled stored
      have found : db.tasks.find taskId = some task := present
      have ended : task.status ≠ .running := by
        intro running
        rw [running] at terminal
        cases terminal
      refine ⟨?_, by rw [same]⟩
      rw [found]
      simp only [Option.any_some, ended, decide_false, Bool.false_eq_true, if_false]

/-- The counters of a run, and the state of its task. -/
def Db.SpentIn (taskId : TaskId) (maxRetries : Nat) (ops : List Op) (db : Db) : Prop :=
  Spent maxRetries (Run.tally step (recordsFailure taskId) Db.empty ops) (Run.tally step (requeues taskId) Db.empty ops)
      (db.cell taskId) ∧ Lifecycle.Settled (db.cell taskId)

theorem step_spent (positive : policy.maxRetries ≠ 0) (below : policy.maxRetries < u32Max)
    (under : op.Under taskId policy) (settled : Lifecycle.Settled (db.cell taskId))
    (spent : Spent policy.maxRetries failures requeued (db.cell taskId)) :
    Spent policy.maxRetries (failures + if recordsFailure taskId db op then 1 else 0)
      (requeued + if requeues taskId db op then 1 else 0) ((step db op).cell taskId) := by
  cases reports : op.failure taskId with
  | none =>
    have silent : db.failedTo taskId op = none := by simp only [Db.failedTo, reports]
    simp only [recordsFailure, requeues, silent, Option.isSome_none, Option.any_none, Bool.false_eq_true, if_false,
      Nat.add_zero]
    apply (step_refines db op taskId).invariant (Spent policy.maxRetries failures requeued) _ spent
    intro action before after permitted step spent
    exact spent.step (permits_neutral under reports permitted) step
  | some transaction =>
    rcases failedTo_cases under positive settled reports with
      ⟨silent, kept⟩ | ⟨task, value, present, running, failed, reported, found⟩
    · simp only [recordsFailure, requeues, silent, Option.isSome_none, Option.any_none, Bool.false_eq_true, if_false,
        Nat.add_zero]
      have same : ((step db op).cell taskId).record = (db.cell taskId).record := kept
      exact ⟨same ▸ spent.absent, same ▸ spent.alive, same ▸ spent.dead⟩
    · have recorded : ((step db op).cell taskId).record = some value := found
      have next := spent.reported below present running reported recorded
      simp only [recordsFailure, requeues, failed, Option.isSome_some, Option.any_some, if_true, decide_eq_true_eq]
      exact next

theorem run_spent (positive : policy.maxRetries ≠ 0) (below : policy.maxRetries < u32Max) {ops : List Op}
    (under : ∀ op ∈ ops, op.Under taskId policy) :
    (Run.run step Db.empty ops).SpentIn taskId policy.maxRetries ops := by
  apply Run.traced (Db.SpentIn taskId policy.maxRetries)
  · refine ⟨⟨fun _ => ⟨rfl, rfl⟩, ?_, ?_⟩, ?_⟩
    · intro task present
      cases present
    · intro task present
      cases present
    · intro stored
      cases stored
  · intro passed op earlier reached
    obtain ⟨spent, settled⟩ := reached
    have allowed := under op (earlier.subset (List.mem_append_right passed List.mem_cons_self))
    refine ⟨?_, ?_⟩
    · rw [Run.tally_snoc, Run.tally_snoc]
      exact step_spent positive below allowed settled spent
    · apply (step_refines _ op taskId).invariant Lifecycle.Settled _ settled
      exact fun _ _ _ _ step => step.settled

theorem recovery_keeps_retryCount (db : Db) (nowMs : Int) (limit : Option Nat) (taskId : TaskId) :
    ((step db (.recoverStaleLeases nowMs limit)).tasks.find taskId).map (·.retryCount) =
      (db.tasks.find taskId).map (·.retryCount) := by
  apply (step_refines db (.recoverStaleLeases nowMs limit) taskId).invariant
    (fun cell => cell.record.map (·.retryCount) = (db.tasks.find taskId).map (·.retryCount)) _ rfl
  intro action before after permitted step same
  rcases permitted with rfl | rfl
  · cases step with
    | advance present applies =>
      cases applies
      rw [present] at same
      exact same
  · cases step
    exact same

/-- What the budget promises of a task after a run. -/
structure Budgeted (taskId : TaskId) (maxRetries : Nat) (ops : List Op) (db : Db) : Prop where
  requeued : Run.tally step (requeues taskId) Db.empty ops ≤ maxRetries
  counted : ∀ task, db.tasks.find taskId = some task → task.deadLettered = false → task.retryCount ≤ maxRetries
  exhausted : ∀ task, db.tasks.find taskId = some task →
    (task.deadLettered = true ↔ Run.tally step (recordsFailure taskId) Db.empty ops = maxRetries + 1)
  last : ∀ task, db.tasks.find taskId = some task → task.deadLettered = true → task.retryCount = maxRetries + 1
  recovers : ∀ nowMs limit, ((step db (.recoverStaleLeases nowMs limit)).tasks.find taskId).map (·.retryCount) =
    (db.tasks.find taskId).map (·.retryCount)

/-- A task is requeued as often as the policy allows, and the failure after that is its last. -/
theorem retry_budget (taskId : TaskId) (policy : RetryPolicy) (ops : List Op) (positive : 1 ≤ policy.maxRetries)
    (below : policy.maxRetries < u32Max) (under : ∀ op ∈ ops, op.Under taskId policy) :
    Budgeted taskId policy.maxRetries ops (Run.run step Db.empty ops) := by
  obtain ⟨spent, _⟩ := run_spent (Nat.one_le_iff_ne_zero.mp positive) below under
  refine ⟨?_, fun task present alive => (spent.alive task present alive).2.2, ?_,
    fun task present dead => (spent.dead task present dead).2.2.1, fun nowMs limit => recovery_keeps_retryCount _ _ _ _⟩
  · cases found : ((Run.run step Db.empty ops).cell taskId).record with
    | none =>
      have never := (spent.absent found).2
      omega
    | some task =>
      cases marked : task.deadLettered with
      | false =>
        obtain ⟨_, queued, bounded⟩ := spent.alive task found marked
        omega
      | true =>
        obtain ⟨_, queued, _⟩ := spent.dead task found marked
        omega
  · intro task present
    constructor
    · intro dead
      exact (spent.dead task present dead).1
    · intro failures
      cases marked : task.deadLettered with
      | true => rfl
      | false =>
        obtain ⟨failed, _, bounded⟩ := spent.alive task present marked
        omega

end

def oneRetry : RetryPolicy := { maxRetries := 1, backoffMs := 0, deadLetterAfter := 2 }

def twoFailures : List Op :=
  let attempt : List Op :=
    [.leaseTask sampleTask sampleLease,
      .failTask sampleTask sampleLease.leaseId (.literal "worker-1" (.refl true)) "failed" oneRetry]
  .acceptTask (TaskRecord.new sampleTask .pending none) :: (attempt ++ attempt)

theorem second_failure_exhausts :
    @Budgeted default sampleTask 1 twoFailures (Run.run (@step default) Db.empty twoFailures) ∧
      ((Run.run (@step default) Db.empty twoFailures).tasks.find sampleTask).map (·.deadLettered) = some true := by
  refine ⟨@retry_budget default sampleTask oneRetry twoFailures (by decide) (by decide) ?_, by decide⟩
  intro op member
  simp only [twoFailures, List.mem_cons, List.mem_append, List.not_mem_nil, or_false] at member
  rcases member with rfl | (rfl | rfl) | rfl | rfl
  · exact fun _ => ⟨rfl, rfl⟩
  · trivial
  · exact fun _ => rfl
  · trivial
  · exact fun _ => rfl

end Keryx.Store.Sqlite
