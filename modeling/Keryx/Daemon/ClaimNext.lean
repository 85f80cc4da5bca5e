import Keryx.Daemon.ClaimFilter
import Keryx.Daemon.Lease

/-! How a worker claims the next task: a scan of the store, then one attempt after the other, while other requests go
on. -/

namespace Keryx.Daemon
open Keryx.Core Store Proto Relational Relational.Run Relational.Transaction
open Sqlite (sampleTask ensureLocalExecutor leaseTaskForPeer)
open Sqlite (Db Op step)
open Session (amend observe)

structure ClaimNextTaskResponse where
  hasTask : Bool
  envelope : Option TaskEnvelope
  taskId : Option ProtoId
  leaseId : Option ProtoId
  workerId : Option ProtoId
  leasedAtMs : Int
  expiresAtMs : Int
  status : String
  retryCount : Nat
  deadLettered : Bool
  senderPeerId : String

def claimNextScanLimit : Nat := 256

structure Claimant where
  localPeerId : PeerId
  workerId : AgentId
  acceptedSkillIds : Finset String
  acceptedCapabilityIds : Finset String
  leaseDurationMs : Int

def Claimant.accepts (claimant : Claimant) (envelope : TaskEnvelope) : Bool :=
  envelopeMatchesClaimFilters envelope claimant.acceptedSkillIds claimant.acceptedCapabilityIds

/-- What the clock says and what others do to the store while a claim runs. Attempts are counted from zero. -/
structure Surroundings where
  sweptAtMs : Int
  beforeScan : List Op
  beforeAttempt : Nat → List Op
  attemptedAtMs : Nat → Int
  beforeAnswer : List Op

def movesOn : StoreError → Bool
  | .leaseConflict _ | .taskNotFound _ | .validation (.invalidTaskTransition _ _) => true
  | _ => false

inductive ClaimAttempt where
  | passed
  | leased (envelope : TaskEnvelope) (lease : LeaseRecord) (task : TaskRecord)
  | failed (status : Status)

def Claimant.lease (claimant : Claimant) (taskId : TaskId) (leaseId : LeaseId) (leasedAtMs : Int) : LeaseRecord where
  leaseId := leaseId
  taskId := taskId
  workerId := some claimant.workerId
  leasedAtMs := leasedAtMs
  expiresAtMs := saturatingAddI64 leasedAtMs claimant.leaseDurationMs

def attemptClaim [Decoders] (claimant : Claimant) (candidate : PendingTaskEnvelope) (leasedAtMs : Int) (db : Db) :
    ClaimAttempt × Db :=
  match Decoders.taskEnvelope candidate.envelope.encodedEnvelope with
  | .error error =>
    (.failed (.dataLoss s!"stored envelope for task {candidate.task.id.value} is invalid: {error}"), db)
  | .ok envelope =>
    if !claimant.accepts envelope then (.passed, db)
    else match newLeaseId candidate.task.id leasedAtMs with
      -- The source panics, and the request ends without an answer of the daemon's.
      | .error _ => (.failed ⟨.internal, "daemon-generated lease id is valid"⟩, db)
      | .ok leaseId =>
        let lease := claimant.lease candidate.task.id leaseId leasedAtMs
        match leaseTaskForPeer candidate.task.id lease claimant.localPeerId db with
        | (.ok task, after) => (.leased envelope lease task, after)
        | (.error error, after) =>
          (if movesOn error then .passed else .failed (storeErrorToStatus error), after)

def claimNextTaskResponse (claimant : Claimant) (envelope : TaskEnvelope) (lease : LeaseRecord) (task : TaskRecord)
    (db : Db) : ClaimNextTaskResponse where
  hasTask := true
  envelope := some envelope
  taskId := some (protoId task.id)
  leaseId := some (protoId lease.leaseId)
  workerId := some (protoId claimant.workerId)
  leasedAtMs := lease.leasedAtMs
  expiresAtMs := lease.expiresAtMs
  status := taskStatusLabel task.status
  retryCount := task.retryCount
  deadLettered := task.deadLettered
  senderPeerId :=
    (((db.transportContexts.find task.id).bind (·.authenticatedSenderPeerId)).map (·.value)).getD ""

section
variable [Decoders] [Sha256]

def claimFirst (claimant : Claimant) (surroundings : Surroundings) :
    Nat → List PendingTaskEnvelope → Rpc (Option ClaimNextTaskResponse)
  | _, [], db => (.ok none, db)
  | turn, candidate :: candidates, db =>
    match attemptClaim claimant candidate (surroundings.attemptedAtMs turn)
        (run step db (surroundings.beforeAttempt turn)) with
    | (.passed, after) => claimFirst claimant surroundings (turn + 1) candidates after
    | (.failed status, after) => (.error status, after)
    | (.leased envelope lease task, after) =>
      let answering := run step after surroundings.beforeAnswer
      (.ok (some (claimNextTaskResponse claimant envelope lease task answering)), answering)

def tryClaimNextTask (claimant : Claimant) (surroundings : Surroundings) : Rpc (Option ClaimNextTaskResponse) := do
  let _ ← inStore (Sqlite.failExpiredDeadlines surroundings.sweptAtMs none)
  amend fun db => run step db surroundings.beforeScan
  let candidates ← observe (Db.claimablePendingTaskEnvelopes claimant.localPeerId claimNextScanLimit)
  claimFirst claimant surroundings 0 candidates

end

def BoundHere (localPeerId : PeerId) (taskId : TaskId) (db : Db) : Prop :=
  ∀ executor, (db.transportContexts.find taskId).bind (·.expectedExecutorPeerId) = some executor →
    executor = localPeerId

def Open (localPeerId : PeerId) (taskId : TaskId) (nowMs : Int) (db : Db) : Prop :=
  BoundHere localPeerId taskId db ∧ db.activeLease taskId = none ∧
    ∃ task, db.tasks.find taskId = some task ∧ task.status = .pending ∧ task.deadlineMs.any (· ≤ nowMs) = false

/-- The task has been taken or removed, and is neither finished nor due. -/
def Gone (localPeerId : PeerId) (taskId : TaskId) (nowMs : Int) (db : Db) : Prop :=
  BoundHere localPeerId taskId db ∧ (db.tasks.find taskId = none ∨
    ∃ task, db.tasks.find taskId = some task ∧ ((db.activeLease taskId).isSome = true ∨
      task.status = .running ∧ task.deadlineMs.any (· ≤ nowMs) = false))

section
variable {db : Db} {taskId : TaskId} {localPeerId : PeerId} {lease : LeaseRecord}

theorem ensureLocalExecutor_iff :
    ensureLocalExecutor taskId (db.transportContexts.find taskId) (some localPeerId) = .ok () ↔
      BoundHere localPeerId taskId db := by
  unfold ensureLocalExecutor BoundHere
  cases (db.transportContexts.find taskId).bind (·.expectedExecutorPeerId) with
  | none => simp
  | some executor =>
    by_cases same : executor = localPeerId
    · simp [same]
    · simp [same]

theorem ensureLocalExecutor_error {failure : StoreError}
    (fails : ensureLocalExecutor taskId (db.transportContexts.find taskId) (some localPeerId) = .error failure) :
    ¬ BoundHere localPeerId taskId db ∧ movesOn failure = false := by
  constructor
  · intro bound
    cases fails.symm.trans (ensureLocalExecutor_iff.mpr bound)
  · unfold ensureLocalExecutor at fails
    split at fails
    · split at fails
      · cases fails
      · cases fails
        rfl
    · cases fails

/-- With a lease, with the news that the task is gone, or with another error. -/
inductive LeaseEnds (localPeerId : PeerId) (taskId : TaskId) (nowMs : Int) (db : Db) :
    StoreResult TaskRecord × Db → Prop
  | leased (opened : Open localPeerId taskId nowMs db) (updated : TaskRecord) (after : Db) :
      LeaseEnds localPeerId taskId nowMs db (.ok updated, after)
  | missed (gone : Gone localPeerId taskId nowMs db) (failure : StoreError) (mild : movesOn failure = true) :
      LeaseEnds localPeerId taskId nowMs db (.error failure, db)
  | refused (closed : ¬ Open localPeerId taskId nowMs db) (stays : ¬ Gone localPeerId taskId nowMs db)
      (failure : StoreError) (after : Db) (hard : movesOn failure = false) :
      LeaseEnds localPeerId taskId nowMs db (.error failure, after)

theorem open_iff {task : TaskRecord} (bound : BoundHere localPeerId taskId db)
    (present : db.tasks.find taskId = some task) (active : db.activeLease taskId = none) (nowMs : Int) :
    Open localPeerId taskId nowMs db ↔ task.status = .pending ∧ task.deadlineMs.any (· ≤ nowMs) = false := by
  unfold Open
  simp only [bound, active, present, true_and, Option.some.injEq, exists_eq_left']

theorem gone_iff {task : TaskRecord} (bound : BoundHere localPeerId taskId db)
    (present : db.tasks.find taskId = some task) (active : db.activeLease taskId = none) (nowMs : Int) :
    Gone localPeerId taskId nowMs db ↔ task.status = .running ∧ task.deadlineMs.any (· ≤ nowMs) = false := by
  unfold Gone
  simp only [bound, active, present, true_and, Option.some.injEq, exists_eq_left', reduceCtorEq, false_or,
    Option.isSome_none, Bool.false_eq_true]

theorem validateDeadlineTransition_hard {status : TaskStatus} {failure : StoreError}
    (refused : validateDeadlineTransition status = .error failure) : movesOn failure = false := by
  unfold validateDeadlineTransition at refused
  split at refused
  · cases refused
  · cases refused
  · cases refused
    rfl
  · cases refused
    rfl

theorem leaseTaskForPeer_ends (owner : lease.taskId = taskId) (owned : lease.workerId.isSome = true)
    (localPeerId : PeerId) (db : Db) :
    LeaseEnds localPeerId taskId lease.leasedAtMs db (leaseTaskForPeer taskId lease localPeerId db) := by
  have matching : ensureMatchingTaskId taskId lease = .ok () := demand_ok.mpr owner
  have held : ensureLeaseHasOwner lease = .ok () := demand_ok.mpr owned
  unfold leaseTaskForPeer commit Sqlite.leaseTaskWithPeerGuard
  rw [run_check matching, run_check held, run_query]
  cases executor : ensureLocalExecutor taskId (db.transportContexts.find taskId) (some localPeerId) with
  | error failure =>
    rw [run_check_error rfl]
    obtain ⟨elsewhere, final⟩ := ensureLocalExecutor_error executor
    exact .refused (fun opened => elsewhere opened.1) (fun gone => elsewhere gone.1) failure db final
  | ok done =>
  have bound := ensureLocalExecutor_iff.mp executor
  rw [run_check rfl]
  cases present : db.tasks.find taskId with
  | none =>
    unfold Sqlite.fetchTask
    rw [bind_assoc, run_query, run_require_none present]
    exact .missed ⟨bound, .inl present⟩ (.taskNotFound taskId) rfl
  | some task =>
  rw [Sqlite.run_fetchTask present, run_query]
  cases active : db.activeLease taskId with
  | some holder =>
    rw [run_ensure_not nofun]
    exact .missed ⟨bound, .inr ⟨task, present, .inl (by rw [active]; rfl)⟩⟩ (.leaseConflict taskId) rfl
  | none =>
  rw [run_ensure rfl]
  have opened := open_iff bound present active lease.leasedAtMs
  have gone := gone_iff bound present active lease.leasedAtMs
  cases overdue : task.deadlineMs.filter (· ≤ lease.leasedAtMs) with
  | some deadlineMs =>
    obtain ⟨due, late⟩ := Option.filter_eq_some_iff.mp overdue
    have any : task.deadlineMs.any (· ≤ lease.leasedAtMs) = true := by
      rw [due]
      exact late
    simp only [any, reduceCtorEq, and_false, iff_false] at opened gone
    cases deadline : validateDeadlineTransition task.status with
    | error failure => exact .refused opened gone failure db (validateDeadlineTransition_hard deadline)
    | ok valid =>
      simp only
      rw [run_check rfl, run_query, run_execute, Sqlite.run_insertEvent]
      · exact .refused opened gone _ _ rfl
      · rfl
  | none =>
    have any : task.deadlineMs.any (· ≤ lease.leasedAtMs) = false := by
      cases due : task.deadlineMs with
      | none => rfl
      | some deadlineMs =>
        rw [due, Option.filter_eq_none_iff] at overdue
        exact Bool.eq_false_iff.mpr (overdue deadlineMs rfl)
    simp only [any, and_true] at opened gone
    cases status : task.status with
    | running => exact .missed (gone.mpr status) (.validation (.invalidTaskTransition .running .running)) rfl
    | completed =>
      rw [status] at opened gone
      exact .refused (nofun ∘ opened.mp) (nofun ∘ gone.mp) (.validation (.terminalTaskTransition .completed .running)) db rfl
    | failed =>
      rw [status] at opened gone
      exact .refused (nofun ∘ opened.mp) (nofun ∘ gone.mp) (.validation (.terminalTaskTransition .failed .running)) db rfl
    | pending =>
      have legal : validated (validateTransition .pending .running) = .ok ⟨.pending, .running, .taskStarted⟩ := rfl
      simp only
      rw [run_check legal, run_query, run_execute, run_execute, Sqlite.run_insertEvent]
      · rw [Sqlite.run_fetchTask (Sqlite.find_leased present)]
        exact .leased (opened.mpr status) _ _
      · rfl

end

section
variable [Decoders] {claimant : Claimant} {candidate : PendingTaskEnvelope} {nowMs : Int} {db : Db}

/-- The worker wants the candidate, and can be given a lease for it. -/
def Wanted (claimant : Claimant) (candidate : PendingTaskEnvelope) (nowMs : Int) : Prop :=
  (∃ envelope, Decoders.taskEnvelope candidate.envelope.encodedEnvelope = .ok envelope ∧
    claimant.accepts envelope = true) ∧ ∃ leaseId, newLeaseId candidate.task.id nowMs = .ok leaseId

def Unwanted (claimant : Claimant) (candidate : PendingTaskEnvelope) : Prop :=
  ∃ envelope, Decoders.taskEnvelope candidate.envelope.encodedEnvelope = .ok envelope ∧
    claimant.accepts envelope = false

def Leasable (claimant : Claimant) (candidate : PendingTaskEnvelope) (nowMs : Int) (db : Db) : Prop :=
  Wanted claimant candidate nowMs ∧ Open claimant.localPeerId candidate.task.id nowMs db

def PassedOver (claimant : Claimant) (candidate : PendingTaskEnvelope) (nowMs : Int) (db : Db) : Prop :=
  Unwanted claimant candidate ∨
    Wanted claimant candidate nowMs ∧ Gone claimant.localPeerId candidate.task.id nowMs db

theorem Leasable.not_passedOver (leasable : Leasable claimant candidate nowMs db) :
    ¬ PassedOver claimant candidate nowMs db := by
  obtain ⟨⟨⟨envelope, decoded, accepted⟩, _⟩, _, free, task, present, pending, _⟩ := leasable
  rintro (⟨other, read, refused⟩ | ⟨_, _, absent | ⟨stored, found, held | ⟨running, _⟩⟩⟩)
  · cases decoded.symm.trans read
    rw [accepted] at refused
    cases refused
  · rw [present] at absent
    cases absent
  · rw [free] at held
    cases held
  · cases present.symm.trans found
    rw [pending] at running
    cases running

theorem attemptClaim_outcome (claimant : Claimant) (candidate : PendingTaskEnvelope) (nowMs : Int) (db : Db) :
    (Leasable claimant candidate nowMs db ∧ ∃ envelope lease task after,
        attemptClaim claimant candidate nowMs db = (.leased envelope lease task, after)) ∨
      (PassedOver claimant candidate nowMs db ∧ attemptClaim claimant candidate nowMs db = (.passed, db)) ∨
      (¬ Leasable claimant candidate nowMs db ∧ ¬ PassedOver claimant candidate nowMs db ∧
        ∃ status after, attemptClaim claimant candidate nowMs db = (.failed status, after)) := by
  unfold attemptClaim Leasable PassedOver Wanted Unwanted
  cases decoded : Decoders.taskEnvelope candidate.envelope.encodedEnvelope with
  | error error =>
    refine .inr (.inr ⟨?_, ?_, _, db, rfl⟩)
    · rintro ⟨⟨⟨_, read, _⟩, _⟩, _⟩
      cases read
    · rintro (⟨_, read, _⟩ | ⟨⟨⟨_, read, _⟩, _⟩, _⟩)
      · cases read
      · cases read
  | ok envelope =>
    simp only [Except.ok.injEq, exists_eq_left']
    cases accepted : claimant.accepts envelope with
    | false => exact .inr (.inl ⟨.inl rfl, rfl⟩)
    | true =>
      simp only [Bool.not_true, Bool.false_eq_true, if_false, reduceCtorEq, false_or, true_and]
      cases named : newLeaseId candidate.task.id nowMs with
      | error error =>
        refine .inr (.inr ⟨?_, ?_, _, db, rfl⟩)
        · rintro ⟨⟨_, issued⟩, _⟩
          cases issued
        · rintro ⟨⟨_, issued⟩, _⟩
          cases issued
      | ok leaseId =>
        have issued : ∃ other, Except.ok (ε := ValidationError) leaseId = .ok other := ⟨leaseId, rfl⟩
        simp only [issued, true_and]
        have ends := @leaseTaskForPeer_ends candidate.task.id (claimant.lease candidate.task.id leaseId nowMs) rfl rfl
          claimant.localPeerId db
        generalize leaseTaskForPeer candidate.task.id _ claimant.localPeerId db = outcome at ends ⊢
        cases ends with
        | leased opened task after =>
          exact .inl ⟨opened, envelope, claimant.lease candidate.task.id leaseId nowMs, task, after, rfl⟩
        | missed gone failure mild => exact .inr (.inl ⟨gone, by simp only [mild, if_true]⟩)
        | refused closed stays failure after hard =>
          refine .inr (.inr ⟨closed, stays, storeErrorToStatus failure, after, ?_⟩)
          simp only [hard, Bool.false_eq_true, if_false]

end

/-- The rows that a claim reads about a task are the same. -/
structure Alike (taskId : TaskId) (before after : Db) : Prop where
  record : after.tasks.find taskId = before.tasks.find taskId
  envelope : after.envelopes.find taskId = before.envelopes.find taskId
  context : after.transportContexts.find taskId = before.transportContexts.find taskId
  lease : after.activeLease taskId = before.activeLease taskId

theorem Alike.refl (taskId : TaskId) (db : Db) : Alike taskId db db := ⟨rfl, rfl, rfl, rfl⟩

theorem Alike.trans {taskId : TaskId} {before middle after : Db} (first : Alike taskId before middle)
    (second : Alike taskId middle after) : Alike taskId before after where
  record := second.record.trans first.record
  envelope := second.envelope.trans first.envelope
  context := second.context.trans first.context
  lease := second.lease.trans first.lease

section
variable [Sha256] {surroundings : Surroundings} {db : Db}

def Surroundings.later (surroundings : Surroundings) (turn count : Nat) (db : Db) : Db :=
  run step db ((List.range' turn (count + 1)).flatMap surroundings.beforeAttempt)

theorem later_zero (turn : Nat) : surroundings.later turn 0 db = run step db (surroundings.beforeAttempt turn) := by
  unfold Surroundings.later
  rw [List.range'_succ, List.flatMap_cons, List.range'_zero, List.flatMap_nil, List.append_nil]

theorem later_succ (turn count : Nat) :
    surroundings.later turn (count + 1) db =
      surroundings.later (turn + 1) count (run step db (surroundings.beforeAttempt turn)) := by
  unfold Surroundings.later
  rw [List.range'_succ, List.flatMap_cons, run_append]

variable [Decoders] {claimant : Claimant}

/-- Some candidate can be leased at its turn, and those before it are passed over at theirs. -/
def Finds (claimant : Claimant) (surroundings : Surroundings) (turn : Nat) (candidates : List PendingTaskEnvelope)
    (db : Db) : Prop :=
  ∃ front candidate back, candidates = front ++ candidate :: back ∧
    (∀ index earlier, front[index]? = some earlier →
      PassedOver claimant earlier (surroundings.attemptedAtMs (turn + index)) (surroundings.later turn index db)) ∧
    Leasable claimant candidate (surroundings.attemptedAtMs (turn + front.length))
      (surroundings.later turn front.length db)

theorem finds_cons {turn : Nat} {candidate : PendingTaskEnvelope} {candidates : List PendingTaskEnvelope} :
    Finds claimant surroundings turn (candidate :: candidates) db ↔
      Leasable claimant candidate (surroundings.attemptedAtMs turn)
          (run step db (surroundings.beforeAttempt turn)) ∨
        PassedOver claimant candidate (surroundings.attemptedAtMs turn)
            (run step db (surroundings.beforeAttempt turn)) ∧
          Finds claimant surroundings (turn + 1) candidates (run step db (surroundings.beforeAttempt turn)) := by
  constructor
  · rintro ⟨front, found, back, split, passed, leasable⟩
    cases front with
    | nil =>
      cases split
      rw [List.length_nil, Nat.add_zero, later_zero] at leasable
      exact .inl leasable
    | cons first front =>
      cases split
      have here := passed 0 candidate rfl
      rw [Nat.add_zero, later_zero] at here
      refine .inr ⟨here, front, found, back, rfl, ?_, ?_⟩
      · intro index earlier member
        have there := passed (index + 1) earlier member
        rw [later_succ, Nat.add_comm index 1, ← Nat.add_assoc] at there
        exact there
      · rw [List.length_cons, later_succ, Nat.add_comm front.length 1, ← Nat.add_assoc] at leasable
        exact leasable
  · rintro (leasable | ⟨here, front, found, back, rfl, passed, leasable⟩)
    · refine ⟨[], candidate, candidates, rfl, nofun, ?_⟩
      rw [List.length_nil, Nat.add_zero, later_zero]
      exact leasable
    · refine ⟨candidate :: front, found, back, rfl, ?_, ?_⟩
      · intro index earlier member
        cases index with
        | zero =>
          cases member
          rw [Nat.add_zero, later_zero]
          exact here
        | succ index =>
          rw [later_succ, Nat.add_comm index 1, ← Nat.add_assoc]
          exact passed index earlier member
      · rw [List.length_cons, later_succ, Nat.add_comm front.length 1, ← Nat.add_assoc]
        exact leasable

theorem claimFirst_found (turn : Nat) (candidates : List PendingTaskEnvelope) (db : Db) :
    (∃ response after, claimFirst claimant surroundings turn candidates db = (.ok (some response), after)) ↔
      Finds claimant surroundings turn candidates db := by
  induction candidates generalizing turn db with
  | nil =>
    constructor
    · rintro ⟨_, _, found⟩
      cases found
    · rintro ⟨front, _, _, split, _⟩
      cases front <;> cases split
  | cons candidate candidates ih =>
    rw [finds_cons]
    unfold claimFirst
    rcases attemptClaim_outcome claimant candidate (surroundings.attemptedAtMs turn)
      (run step db (surroundings.beforeAttempt turn)) with ⟨leasable, envelope, lease, task, after, leased⟩ |
      ⟨passed, moved⟩ | ⟨closed, stays, status, after, failed⟩
    · rw [leased]
      exact ⟨fun _ => .inl leasable, fun _ => ⟨_, _, rfl⟩⟩
    · rw [moved]
      refine (ih (turn + 1) _).trans ⟨fun found => .inr ⟨passed, found⟩, ?_⟩
      rintro (leasable | ⟨_, found⟩)
      · exact absurd passed leasable.not_passedOver
      · exact found
    · rw [failed]
      constructor
      · rintro ⟨_, _, found⟩
        cases found
      · rintro (leasable | ⟨passed, _⟩)
        · exact absurd leasable closed
        · exact absurd passed stays

def Surroundings.swept (surroundings : Surroundings) (db : Db) : Db :=
  (commit (Sqlite.failExpiredDeadlines surroundings.sweptAtMs none) db).2

def Surroundings.scanned (surroundings : Surroundings) (db : Db) : Db :=
  run step (surroundings.swept db) surroundings.beforeScan

def Claimant.scan (claimant : Claimant) (surroundings : Surroundings) (db : Db) : List PendingTaskEnvelope :=
  (surroundings.scanned db).claimablePendingTaskEnvelopes claimant.localPeerId claimNextScanLimit

theorem tryClaimNextTask_eq (claimant : Claimant) (surroundings : Surroundings) (db : Db) :
    tryClaimNextTask claimant surroundings db =
      claimFirst claimant surroundings 0 (claimant.scan surroundings db) (surroundings.scanned db) := by
  obtain ⟨failed, after, success, _⟩ := Sqlite.failExpiredDeadlines_succeeds surroundings.sweptAtMs none db
  unfold tryClaimNextTask inStore Claimant.scan Surroundings.scanned Surroundings.swept
  rw [Session.bind_apply, Session.perform, commit_ok success]
  rfl

/-- Nobody else touches the task while the claim runs. -/
def Surroundings.LeavesAlone (surroundings : Surroundings) (taskId : TaskId) (db : Db) : Prop :=
  Alike taskId (surroundings.swept db) (surroundings.scanned db) ∧
    ∀ turn, Alike taskId (surroundings.scanned db) (surroundings.later 0 turn (surroundings.scanned db))

/-- A pending task that this worker could be given, throughout the claim. -/
structure Available (claimant : Claimant) (surroundings : Surroundings) (task : TaskRecord)
    (envelope : TaskEnvelopeRecord) (db : Db) : Prop where
  present : db.tasks.find task.id = some task
  pending : task.status = .pending
  enveloped : db.envelopes.find task.id = some envelope
  accepted : ∃ decoded, Decoders.taskEnvelope envelope.encodedEnvelope = .ok decoded ∧
    claimant.accepts decoded = true
  bound : BoundHere claimant.localPeerId task.id db
  free : db.activeLease task.id = none
  unexpired : task.deadlineMs.any (· ≤ surroundings.sweptAtMs) = false
  staysUnexpired : ∀ turn, task.deadlineMs.any (· ≤ surroundings.attemptedAtMs turn) = false
  untouched : surroundings.LeavesAlone task.id db

theorem Available.swept {task : TaskRecord} {envelope : TaskEnvelopeRecord}
    (available : Available claimant surroundings task envelope db) : Alike task.id db (surroundings.swept db) := by
  obtain ⟨failed, after, success, envelopes, contexts, kept⟩ :=
    Sqlite.failExpiredDeadlines_succeeds surroundings.sweptAtMs none db
  have same : after.cell task.id = db.cell task.id := by
    apply kept
    intro stored found
    cases available.present.symm.trans found
    exact available.unexpired
  have committed : surroundings.swept db = after := by
    unfold Surroundings.swept
    rw [commit_ok success]
  rw [committed]
  exact ⟨congrArg Lifecycle.Cell.record same, by rw [envelopes], by rw [contexts], congrArg Lifecycle.Cell.lease same⟩

theorem Available.opened {task : TaskRecord} {envelope : TaskEnvelopeRecord}
    (available : Available claimant surroundings task envelope db) (turn : Nat) :
    Open claimant.localPeerId task.id (surroundings.attemptedAtMs turn)
      (surroundings.later 0 turn (surroundings.scanned db)) := by
  have alike := (available.swept.trans available.untouched.1).trans (available.untouched.2 turn)
  refine ⟨?_, alike.lease.trans available.free, task, alike.record.trans available.present, available.pending,
    available.staysUnexpired turn⟩
  intro executor expected
  rw [alike.context] at expected
  exact available.bound executor expected

end

/-- A claim returns a leased task exactly if one of its candidates can be leased at its turn and those before it are
passed over. -/
theorem work_is_found_iff [Decoders] [Sha256] (claimant : Claimant) (surroundings : Surroundings) (db : Db)
    (task : TaskRecord) (envelope : TaskEnvelopeRecord) (available : Available claimant surroundings task envelope db) :
    ((∃ response after, tryClaimNextTask claimant surroundings db = (.ok (some response), after)) ↔
        Finds claimant surroundings 0 (claimant.scan surroundings db) (surroundings.scanned db)) ∧
      ∀ front back, claimant.scan surroundings db = front ++ ⟨task, envelope⟩ :: back →
        (∃ leaseId, newLeaseId task.id (surroundings.attemptedAtMs front.length) = .ok leaseId) →
        Leasable claimant ⟨task, envelope⟩ (surroundings.attemptedAtMs front.length)
          (surroundings.later 0 front.length (surroundings.scanned db)) := by
  constructor
  · rw [tryClaimNextTask_eq]
    exact claimFirst_found 0 _ _
  · intro front back _ named
    exact ⟨⟨available.accepted, named⟩, available.opened front.length⟩

abbrev plainDecoders : Decoders where
  taskEnvelope := fun _ => .ok sampleEnvelope
  taskResultEnvelope := fun _ => .error ""
  textList := fun _ => .error ""

def anyWork : Claimant where
  localPeerId := Sqlite.samplePeer
  workerId := sampleWorker
  acceptedSkillIds := ∅
  acceptedCapabilityIds := ∅
  leaseDurationMs := 1000

/-- Nobody else is there, but for what is done before the first attempt. -/
def soleClaim (beforeFirst : List Op) : Surroundings where
  sweptAtMs := 1
  beforeScan := []
  beforeAttempt := fun turn => if turn = 0 then beforeFirst else []
  attemptedAtMs := fun _ => 2
  beforeAnswer := []

def laterTask : TaskId := .literal "task-2" (.refl true)

def laterEnvelope : TaskEnvelopeRecord := ⟨laterTask, [], 5⟩

def waitingTasks : Db :=
  run (@step default) Db.empty
    [.acceptTaskWithEnvelope (TaskRecord.new sampleTask .pending none) ⟨sampleTask, [], 4⟩,
      .acceptTaskWithEnvelope (TaskRecord.new laterTask .pending none) laterEnvelope]

theorem later_soleClaim (beforeFirst : List Op) (turn : Nat) (db : Db) :
    @Surroundings.later default (soleClaim beforeFirst) 0 turn db = run (@step default) db beforeFirst := by
  have quiet : ∀ count start, (List.range' (start + 1) count).flatMap (soleClaim beforeFirst).beforeAttempt = [] := by
    intro count
    induction count with
    | zero => exact fun _ => rfl
    | succ count ih =>
      intro start
      rw [List.range'_succ, List.flatMap_cons, ih (start + 1)]
      rfl
  unfold Surroundings.later
  rw [List.range'_succ, List.flatMap_cons, quiet turn 0]
  show run (@step default) db (beforeFirst ++ []) = _
  rw [List.append_nil]

theorem firstTask_available : @Available default plainDecoders anyWork (soleClaim [])
    (TaskRecord.new sampleTask .pending none) ⟨sampleTask, [], 4⟩ waitingTasks := by
  refine @Available.mk default plainDecoders _ _ _ _ _ (by decide) rfl (by decide) ⟨sampleEnvelope, rfl, by decide⟩ ?_
    (by decide) (by decide) (fun _ => rfl) ⟨.refl _ _, fun turn => ?_⟩
  · intro executor expected
    cases expected
  · rw [later_soleClaim]
    exact .refl _ _

theorem first_task_found :
    ∃ response after, @tryClaimNextTask plainDecoders default anyWork (soleClaim []) waitingTasks =
      (.ok (some response), after) := by
  have found := @work_is_found_iff plainDecoders default anyWork (soleClaim []) waitingTasks _ _ firstTask_available
  have scanned : @Claimant.scan default anyWork (soleClaim []) waitingTasks =
      [] ++ [⟨TaskRecord.new sampleTask .pending none, ⟨sampleTask, [], 4⟩⟩,
        ⟨TaskRecord.new laterTask .pending none, laterEnvelope⟩] := by decide
  have leasable := found.2 [] _ scanned ⟨⟨"lease-task-1-2", by decide, by decide, by decide⟩, by decide⟩
  exact found.1.mpr ⟨[], _, _, scanned, nofun, leasable⟩

theorem laterTask_available : @Available default plainDecoders anyWork
    (soleClaim [.cancelTask sampleTask 2]) (TaskRecord.new laterTask .pending none) laterEnvelope waitingTasks := by
  refine @Available.mk default plainDecoders _ _ _ _ _ (by decide) rfl (by decide) ⟨sampleEnvelope, rfl, by decide⟩ ?_
    (by decide) (by decide) (fun _ => rfl) ⟨.refl _ _, fun turn => ?_⟩
  · intro executor expected
    cases expected
  · rw [later_soleClaim]
    exact ⟨by decide, by decide, by decide, by decide⟩

/-- The older of two tasks is canceled while a worker claims, who then gets an error. -/
theorem canceled_candidate_hides_work :
    ¬ ∀ (claimant : Claimant) (surroundings : Surroundings) (db : Db) (task : TaskRecord)
        (envelope : TaskEnvelopeRecord), @Available default plainDecoders claimant surroundings task envelope db →
      ∃ response after, @tryClaimNextTask plainDecoders default claimant surroundings db =
        (.ok (some response), after) := by
  intro every
  obtain ⟨response, after, found⟩ := every anyWork (soleClaim [.cancelTask sampleTask 2]) waitingTasks _ _
    laterTask_available
  have failed : (@tryClaimNextTask plainDecoders default anyWork (soleClaim [.cancelTask sampleTask 2])
      waitingTasks).1.isOk = false := by decide
  rw [found] at failed
  cases failed

end Keryx.Daemon
