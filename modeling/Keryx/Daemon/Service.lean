import Keryx.Daemon.Claim
import Keryx.Daemon.Ingest
import Keryx.Daemon.Resend
import Keryx.Daemon.Startup
import Keryx.Store.Sqlite.Keys
import Keryx.Store.Sqlite.Returns

/-! The daemon as one machine.
Whatever is asked of it, the daemon moves its store by a few operations only, and what these keep holds in every
state that it reaches. -/

namespace Keryx.Daemon
open Keryx.Core Store Proto Relational Relational.Run Relational.Transaction
open Sqlite (Db Op step)
open Session (Leads leads_attempt_bind leads_bind leads_observe_bind leads_report)

/-- The operations that the daemon asks of its store, with what it fills in itself. -/
def Issued : Op → Prop
  | .acceptTask task | .acceptTaskWithEnvelope task _ | .acceptTaskWithEnvelopeAndContext task _ _ =>
    ∃ taskId key deadlineMs, task = acceptedRecord taskId key deadlineMs
  | .completeTaskWithResult _ _ _ result => result.terminalStatus = .completed
  | .failTaskWithResult _ _ _ _ _ result | .cancelTaskWithResult _ _ _ _ result => result.terminalStatus = .failed
  | .ingestRemoteResultWithArtifacts result _ _ => result.returnPeerId = none
  | .leaseTaskForPeer .. | .renewLease .. | .failExpiredDeadlines .. | .recoverStaleLeases .. | .recordRelayReceipt ..
  | .claimNextResultDelivery .. | .ackResultDelivery .. | .failResultDelivery .. | .putArtifact ..
  | .deleteArtifact .. => True
  | _ => False

/-- What goes on while a claim runs is other requests' doing. -/
structure Company extends Surroundings where
  scanned : ∀ op ∈ beforeScan, Issued op
  attempted : ∀ turn, ∀ op ∈ beforeAttempt turn, Issued op
  answered : ∀ op ∈ beforeAnswer, Issued op

section
variable [Sha256]

def Reaches (before after : Db) : Prop := ∃ ops, (∀ op ∈ ops, Issued op) ∧ after = run step before ops

/-- However the session ends, it has moved the store by operations of the daemon. -/
def Moves {σ ε α : Type} (part : σ → Db) (session : Session σ ε α) : Prop :=
  Leads (fun before after => Reaches (part before) (part after)) session

theorem Reaches.refl (db : Db) : Reaches db db := ⟨[], by simp, rfl⟩

theorem Reaches.trans {first second third : Db} (earlier : Reaches first second) (later : Reaches second third) :
    Reaches first third := by
  obtain ⟨begun, issued, rfl⟩ := earlier
  obtain ⟨ended, issuedToo, rfl⟩ := later
  exact ⟨begun ++ ended, List.forall_mem_append.mpr ⟨issued, issuedToo⟩, (run_append _ _ _).symm⟩

namespace Moves
variable {σ ε ε' α β : Type} {part : σ → Db} {session : Session σ ε α} {rest : α → Session σ ε β}

theorem store {session : Session Db ε α} (op : Op) (same : ∀ db, (session db).2 = step db op)
    (issued : Issued op) : Moves id session :=
  fun db => ⟨[op], List.forall_mem_singleton.mpr issued, same db⟩

theorem next (first : Moves part session) (goesOn : ∀ value, Moves part (rest value)) :
    Moves part (session >>= rest) := by
  refine leads_bind ?_ first goesOn
  exact fun _ _ _ => Reaches.trans

theorem attempt (outcome : Except ε α) : Moves part (Session.attempt outcome) := fun _ => .refl _

theorem answer (value : α) : Moves part (pure value : Session σ ε α) := fun _ => .refl _

theorem check {outcome : Except ε α} (goesOn : ∀ value, outcome = .ok value → Moves part (rest value)) :
    Moves part (Session.attempt outcome >>= rest) :=
  leads_attempt_bind (fun _ => .refl _) goesOn

theorem consult {read : σ → Except ε α} (goesOn : ∀ value, Moves part (rest value)) :
    Moves part (Session.consult read >>= rest) :=
  next (fun _ => .refl _) goesOn

theorem observe {read : σ → α} (goesOn : ∀ state, Moves part (rest (read state))) :
    Moves part (Session.observe read >>= rest) :=
  leads_observe_bind goesOn

theorem report {change : ε → ε'} (moves : Moves part session) : Moves part (Session.report change session) :=
  leads_report change moves

theorem amend {write : σ → σ} (moved : ∀ state, Reaches (part state) (part (write state))) :
    Moves part (Session.amend write : Session σ ε Unit) :=
  moved

theorem storing {session : Session Db StoreError α} (moves : Moves id session) :
    Moves RouterState.db (Daemon.storing session) :=
  fun state => moves state.db

end Moves

section
variable {runtime : Runtime} {authorization : Option String} {nowMs : Int}

theorem heartbeat_moves (request) : Moves id (heartbeat runtime authorization nowMs request) := by
  iterate 4 refine .check fun _ _ => ?_
  exact .next (.store (.renewLease ..) (fun _ => rfl) trivial) fun _ => .answer _

theorem claimTask_moves (leasedAtMs request) : Moves id (claimTask runtime authorization nowMs leasedAtMs request) := by
  have names : Moves id (claimedNames runtime authorization nowMs request) := by
    iterate 3 refine .check fun _ _ => ?_
    exact .next (.store (.failExpiredDeadlines ..) (fun _ => rfl) trivial) fun _ => .answer _
  refine .next names.report fun _ => .check fun _ _ => ?_
  exact .next (.store (.leaseTaskForPeer ..) (fun _ => rfl) trivial) fun _ => .answer _

theorem submitTask_moves (request) : Moves id (submitTask runtime authorization nowMs request) := by
  refine .check fun _ _ => .check ?_
  rintro ⟨record, envelope⟩ asked
  obtain ⟨_, taskId, key, deadlineMs, _, _, _, _, _, same⟩ := localSubmission_ok.mp asked
  obtain ⟨rfl, _⟩ := Prod.mk.inj same
  refine .next (.report (.check fun _ _ => .consult fun _ => ?_)) fun _ => .answer _
  exact .store (.acceptTaskWithEnvelope ..) (fun _ => rfl) ⟨taskId, key, deadlineMs, rfl⟩

theorem submitRemoteTask_moves (request) : Moves id (submitRemoteTask runtime authorization nowMs request) := by
  refine .check fun _ _ => .check ?_
  rintro ⟨record, envelope, context⟩ asked
  obtain ⟨_, taskId, _, key, deadlineMs, _, _, _, _, _, _, same⟩ := remoteSubmission_ok.mp asked
  cases same
  refine .next (.report (.check fun _ _ => .observe fun db => ?_)) fun _ => .answer _
  split
  on_goal 2 => refine .consult fun _ => ?_
  on_goal 3 => exact .attempt _
  all_goals exact .store (.acceptTaskWithEnvelopeAndContext ..) (fun _ => rfl) ⟨taskId, key, deadlineMs, rfl⟩

variable [Decoders]

theorem completeTask_moves (request) : Moves id (completeTask runtime authorization nowMs request) := by
  iterate 5 refine .check fun _ _ => ?_
  refine .consult fun _ => .consult fun result => .observe fun db => ?_
  exact .next (.store (.completeTaskWithResult ..) (fun _ => rfl) rfl) fun _ => .answer _

theorem failTask_moves (request) : Moves id (failTask runtime authorization nowMs request) := by
  iterate 4 refine .check fun _ _ => ?_
  refine .consult fun result => .observe fun db => ?_
  exact .next (.store (.failTaskWithResult ..) (fun _ => rfl) rfl) fun _ => .answer _

theorem cancelTask_moves (request) : Moves id (cancelTask runtime authorization nowMs request) := by
  refine .check fun _ _ => .consult fun _ => .consult fun existing => ?_
  cases existing with
  | some response => exact .answer response
  | none =>
    refine .observe fun db => .next (.store (.cancelTaskWithResult ..) (fun _ => rfl) rfl) fun outcome => ?_
    cases outcome with
    | ok task => exact .answer _
    | error error =>
      refine .observe fun db => ?_
      split
      · exact .answer _
      · exact .attempt _

theorem ingestRemoteResult_moves (request) : Moves id (ingestRemoteResult runtime authorization request) := by
  refine .check fun _ _ => .check fun received accepted => ?_
  obtain ⟨_, _, _, _, _, _, _, _, record⟩ := receiveRemoteResult_ok.mp accepted
  refine .next (.report (.store (.ingestRemoteResultWithArtifacts ..) (fun _ => rfl) ?_)) fun _ =>
    .check fun _ _ => .answer _
  rw [record]
  rfl

variable {claimant : Claimant}

theorem attemptClaim_reaches (candidate leasedAtMs db) :
    Reaches db (attemptClaim claimant candidate leasedAtMs db).2 := by
  unfold attemptClaim
  iterate 3
    split
    · exact .refl db
  · rename_i leaseId _
    have leased := Moves.store (.leaseTaskForPeer candidate.task.id
      (claimant.lease candidate.task.id leaseId leasedAtMs) claimant.localPeerId) (fun _ => rfl) trivial db
    dsimp only
    split <;> rename_i outcome <;> rw [outcome] at leased <;> exact leased

theorem claimFirst_moves (company : Company) (turn candidates) :
    Moves id (claimFirst claimant company.toSurroundings turn candidates) := by
  induction candidates generalizing turn with
  | nil => exact fun db => .refl db
  | cons candidate candidates ih =>
    intro db
    have attempted : Reaches db (attemptClaim claimant candidate (company.attemptedAtMs turn)
        (run step db (company.beforeAttempt turn))).2 :=
      .trans ⟨_, company.attempted turn, rfl⟩ (attemptClaim_reaches candidate _ _)
    unfold claimFirst
    split <;> rename_i outcome <;> rw [outcome] at attempted
    · exact attempted.trans (ih (turn + 1) _)
    · exact attempted
    · exact attempted.trans ⟨_, company.answered, rfl⟩

theorem tryClaimNextTask_moves (company : Company) : Moves id (tryClaimNextTask claimant company.toSurroundings) :=
  .next (.store (.failExpiredDeadlines ..) (fun _ => rfl) trivial) fun _ =>
    .next (.amend fun _ => ⟨_, company.scanned, rfl⟩) fun _ => .observe fun _ => claimFirst_moves company 0 _

end

theorem routeOverRelay_moves (router order nowMs taskId deadlineMs targetPeerId envelope timeoutMs) :
    Moves RouterState.db (routeOverRelay router order nowMs taskId deadlineMs targetPeerId envelope timeoutMs) := by
  refine .check fun _ _ => .check fun key _ => .next (.storing ?_) fun _ => .next (.amend fun _ => .refl _) fun _ => ?_
  · refine .consult fun existing => ?_
    split
    · exact .answer _
    · exact .next (.store (.acceptTaskWithEnvelopeAndContext ..) (fun _ => rfl) ⟨_, _, _, rfl⟩) fun _ => .answer _
  · split
    · exact .next (.storing (.store (.recordRelayReceipt ..) (fun _ => rfl) trivial)) fun _ => .answer _
    · exact .attempt _
    · exact .attempt _

theorem sendTask_moves {runtime : RoutingRuntime} {authorization order nowMs} (request) :
    Moves RouterState.db (sendTask runtime authorization order nowMs request) := by
  refine .check fun _ _ => .check fun submitted _ => .consult fun _ => .next (.report ?_) fun _ => .answer _
  refine .check fun _ _ => .check fun _ _ => .next (.amend fun _ => .refl _) fun _ => ?_
  split
  · exact .attempt _
  · exact .answer _
  · split
    · refine .next ?_ fun _ => .answer _
      iterate 3 refine .check fun _ _ => ?_
      exact .next (.storing (.store (.acceptTask ..) (fun _ => rfl) ⟨_, _, _, rfl⟩)) fun _ => .answer _
    · exact routeOverRelay_moves _ _ _ _ _ _ _ _

/-- What a daemon does: it serves requests, and meanwhile makes transactions of its own, when it starts and in its
loops. -/
inductive Call where
  | meanwhile (op : Op) (issued : Issued op)
  | submitTask (request : SubmitTaskRequest)
  | submitRemoteTask (request : SubmitRemoteTaskRequest)
  | sendTask (order : MapOrder) (request : SendTaskRequest)
  | claimTask (leasedAtMs : Int) (request : ClaimTaskRequest)
  | claimNextTask (claimant : Claimant) (company : Company)
  | heartbeat (request : HeartbeatRequest)
  | completeTask (request : CompleteTaskRequest)
  | failTask (request : FailTaskRequest)
  | cancelTask (request : CancelTaskRequest)
  | ingestRemoteResult (request : IngestRemoteResultRequest)

structure Request where
  authorization : Option String
  nowMs : Int
  call : Call

def RouterState.left {ε α : Type} (state : RouterState) (session : Session Db ε α) : RouterState :=
  state.withDb (session state.db).2

variable [Decoders] (runtime : RoutingRuntime)

/-- The state that a request leaves, whatever its answer. -/
def serve (state : RouterState) : Request → RouterState
  | ⟨authorization, nowMs, call⟩ =>
    let own := runtime.toRuntime
    match call with
    | .meanwhile op _ => state.withDb (step state.db op)
    | .submitTask request => state.left (submitTask own authorization nowMs request)
    | .submitRemoteTask request => state.left (submitRemoteTask own authorization nowMs request)
    | .sendTask order request => (sendTask runtime authorization order nowMs request state).2
    | .claimTask leasedAtMs request => state.left (claimTask own authorization nowMs leasedAtMs request)
    | .claimNextTask claimant company => state.left (tryClaimNextTask claimant company.toSurroundings)
    | .heartbeat request => state.left (heartbeat own authorization nowMs request)
    | .completeTask request => state.left (completeTask own authorization nowMs request)
    | .failTask request => state.left (failTask own authorization nowMs request)
    | .cancelTask request => state.left (cancelTask own authorization nowMs request)
    | .ingestRemoteResult request => state.left (ingestRemoteResult own authorization request)

theorem serve_reaches (state : RouterState) (request : Request) :
    Reaches state.db (serve runtime state request).db := by
  obtain ⟨authorization, nowMs, call⟩ := request
  cases call with
  | meanwhile op issued => exact ⟨[op], List.forall_mem_singleton.mpr issued, rfl⟩
  | submitTask request => exact submitTask_moves request state.db
  | submitRemoteTask request => exact submitRemoteTask_moves request state.db
  | sendTask order request => exact sendTask_moves request state
  | claimTask leasedAtMs request => exact claimTask_moves leasedAtMs request state.db
  | claimNextTask claimant company => exact tryClaimNextTask_moves company state.db
  | heartbeat request => exact heartbeat_moves request state.db
  | completeTask request => exact completeTask_moves request state.db
  | failTask request => exact failTask_moves request state.db
  | cancelTask request => exact cancelTask_moves request state.db
  | ingestRemoteResult request => exact ingestRemoteResult_moves request state.db

theorem run_reaches (state : RouterState) (requests : List Request) :
    Reaches state.db (run (serve runtime) state requests).db :=
  Run.related (fun before after : RouterState => Reaches before.db after.db) (fun _ => .refl _)
    (fun _ _ _ => Reaches.trans) (serve_reaches runtime) state requests

end

section
variable {op : Op}

theorem Issued.daemonBuilt (issued : Issued op) : op.DaemonBuilt := by
  cases op with
  | completeTaskWithResult | failTaskWithResult | cancelTaskWithResult | ingestRemoteResultWithArtifacts => exact issued
  | _ => trivial

theorem Issued.acceptsNew (issued : Issued op) : op.AcceptsNew := by
  cases op with
  | acceptTask | acceptTaskWithEnvelope | acceptTaskWithEnvelopeAndContext =>
    obtain ⟨taskId, key, deadlineMs, rfl⟩ := issued
    exact ⟨taskId, .pending, key, deadlineMs, rfl⟩
  | _ => trivial

theorem Issued.grants (issued : Issued op) (db : Db) : ¬ op.DeniesPending db := by
  rintro ⟨taskId, task, rfl, _⟩
  exact issued

end

/-- The store invariants that the daemon's operations keep hold in every state of a daemon. -/
theorem run_keeps [Sha256] [Decoders] {runtime : RoutingRuntime} (property : Db → Prop) (initial : property .empty)
    (kept : ∀ db op, property db → Issued op → property (step db op))
    (requests : List Request) : property (run (serve runtime) ⟨.empty, [], []⟩ requests).db := by
  obtain ⟨ops, issued, reached⟩ := run_reaches runtime ⟨.empty, [], []⟩ requests
  rw [reached]
  exact Run.invariant kept initial (Run.along_of_mem _ issued)

/-- Whatever is asked of the daemon, its store is sound and nothing was accepted twice. -/
theorem daemon_states_are_sound [Sha256] [Decoders] (runtime : RoutingRuntime) (requests : List Request) :
    let db := (run (serve runtime) ⟨.empty, [], []⟩ requests).db
    Sound db ∧ Sqlite.Accounted db ∧ db.KeysExact ∧
      ∀ taskId, (db.tasks.find taskId).isSome → Lifecycle.acceptances (db.eventsForTask taskId) = 1 := by
  refine ⟨sound_of_consistent (run_keeps _ .empty ?_ requests), ?_⟩
  · intro db op consistent own
    exact Sqlite.step_consistent consistent own.acceptsNew (own.grants db)
  · obtain ⟨ops, issued, reached⟩ := run_reaches runtime ⟨.empty, [], []⟩ requests
    rw [reached]
    exact ⟨Sqlite.run_accounted ops fun op member => (issued op member).daemonBuilt, Sqlite.run_keysExact ops,
      Sqlite.run_accepted_once ops⟩

/-- A rival leases the older of two tasks while a worker claims. -/
def rivalCompany : Company where
  toSurroundings := soleClaim [.leaseTaskForPeer Sqlite.sampleTask Sqlite.sampleLease Sqlite.samplePeer]
  scanned := List.forall_mem_nil _
  attempted turn := by
    cases turn with
    | zero => exact List.forall_mem_singleton.mpr trivial
    | succ => exact List.forall_mem_nil _
  answered := List.forall_mem_nil _

-- The worker goes on to the other task.
example : ((run (@serve default plainDecoders relayNode) ⟨waitingTasks, [], []⟩
    [⟨none, 2, .claimNextTask anyWork rivalCompany⟩]).db.activeLease laterTask).bind (·.workerId) =
      some sampleWorker := by
  decide

/-- What was accepted stays, logs only grow, and a task that ended stays as it ended, whatever is asked later. -/
theorem daemon_forgets_nothing [Sha256] [Decoders] (runtime : RoutingRuntime) (state : RouterState)
    (requests : List Request) :
    state.db.Persists (run (serve runtime) state requests).db ∧
      ∀ taskId, Lifecycle.Absorbs (state.db.cell taskId) ((run (serve runtime) state requests).db.cell taskId) := by
  obtain ⟨ops, _, reached⟩ := run_reaches runtime state requests
  rw [reached]
  exact ⟨Sqlite.run_persists state.db ops, Sqlite.run_absorbs state.db ops⟩

section
open Lifecycle

def TimedOut (cell : Cell) : Prop := ∃ event ∈ cell.log, event.eventType = .taskTimedOut

/-- A task has a result or has timed out exactly if it has ended, and never both. -/
structure Explained (cell : Cell) : Prop where
  absent : cell.record = none → cell.result = none
  ended : ∀ task, cell.record = some task →
    (task.status.isTerminal = true ↔ cell.result.isSome ∨ TimedOut cell) ∧ (TimedOut cell → cell.result = none)

/-- Without a result a task ends by its deadline only. -/
def Explains : Action → Prop
  | .advance change _ none => change ∈ [.start, .retry, .requeue, .recover, .timeOut]
  | .advance change _ (some _) => change ≠ .timeOut
  | _ => True

variable {op : Op} {taskId : TaskId} {action : Action} {before after : Cell}

theorem Issued.explains (issued : Issued op) (permitted : op.permits taskId action) : Explains action := by
  cases action with
  | advance change keepsLease result =>
    cases op <;> simp only [Sqlite.Op.permits, Issued, Action.advance.injEq, reduceCtorEq] at permitted issued <;>
      cases result <;> simp only [Explains] <;> grind
  | _ => trivial

theorem recovered_terminal (status : TaskStatus) : (recoveredStatus status).isTerminal = status.isTerminal := by
  cases status <;> rfl

theorem timedOut_append {cell : Cell} {eventType : KeryxEventType} {fromStatus : Option TaskStatus}
    {toStatus : TaskStatus} {record lease result} :
    TimedOut ⟨record, cell.append taskId eventType fromStatus toStatus, lease, result⟩ ↔
      TimedOut cell ∨ eventType = .taskTimedOut := by
  simp [TimedOut, Cell.append, or_and_right, exists_or]

theorem Explained.step (explained : Explained before) (explains : Explains action)
    (step : Lifecycle.Step taskId action before after) : Explained after := by
  obtain ⟨absent, ended⟩ := explained
  cases step with
  | evict => exact ⟨absent, ended⟩
  | renew present running held => exact ⟨absent, ended⟩
  | accept owner fresh silent pending =>
    refine ⟨by simp, ?_⟩
    simp [TimedOut, Cell.append, TaskStatus.isTerminal, pending, absent fresh, silent]
  | lease present pending free =>
    have facts := ended _ present
    refine ⟨by simp, ?_⟩
    simp_all [timedOut_append, TaskStatus.isTerminal]
  | advance present applies =>
    have facts := ended _ present
    refine ⟨by simp, ?_⟩
    cases applies <;> simp_all [Explains, timedOut_append, recovered_terminal] <;> simp_all [TaskStatus.isTerminal]
  | settle present applies unsettled unfinished ends =>
    have facts := ended _ present
    refine ⟨by simp, ?_⟩
    cases applies <;> simp_all [Explains, timedOut_append, TaskStatus.isTerminal]

/-- In every state of the daemon a task has ended exactly if it has a result or was timed out, and never for both. -/
theorem ended_tasks_are_explained [Sha256] [Decoders] (runtime : RoutingRuntime) (requests : List Request)
    (taskId : TaskId) : Explained ((run (serve runtime) ⟨.empty, [], []⟩ requests).db.cell taskId) := by
  refine run_keeps (fun db => Explained (db.cell taskId)) ⟨fun _ => rfl, fun _ present => by cases present⟩ ?_ requests
  intro db op explained own
  exact (Sqlite.step_refines db op taskId).invariant Explained
    (fun _ _ _ permitted step kept => kept.step (own.explains permitted) step) explained

end

end Keryx.Daemon
