import Keryx.Store.EventLog

/-! The in-memory store and the SQLite store along whole runs of the calls that both of them have. -/

namespace Keryx.Store
open Keryx.Core Relational Relational.Transaction Lifecycle

inductive Call where
  | acceptTask (task : TaskRecord)
  | acceptTaskWithEnvelope (task : TaskRecord) (envelope : TaskEnvelopeRecord)
  | acceptTaskWithEnvelopeAndContext (task : TaskRecord) (envelope : TaskEnvelopeRecord)
      (context : TaskTransportContextRecord)
  | leaseTask (taskId : TaskId) (lease : LeaseRecord)
  | leaseTaskForPeer (taskId : TaskId) (lease : LeaseRecord) (localPeerId : PeerId)
  | renewLease (taskId : TaskId) (leaseId : LeaseId) (workerId : AgentId) (nowMs newExpiresAtMs : Int)
  | completeTask (taskId : TaskId) (leaseId : LeaseId) (workerId : AgentId)
  | failTask (taskId : TaskId) (leaseId : LeaseId) (workerId : AgentId) (errorReason : String) (policy : RetryPolicy)
  | retryTask (taskId : TaskId) (leaseId : LeaseId) (workerId : AgentId)
  | deadLetterTask (taskId : TaskId) (leaseId : LeaseId) (workerId : AgentId) (reason : String)
  | cancelTask (taskId : TaskId) (nowMs : Int)
  | failExpiredDeadlines (nowMs : Int) (limit : Option Nat)
  | recoverStaleLeases (nowMs : Int) (limit : Option Nat)
  | acceptLegacyEvent (taskId : TaskId) (eventType : KeryxEventType)
  | transitionTask (taskId : TaskId) (toStatus : TaskStatus)

def Call.toOp : Call → Sqlite.Op
  | .acceptTask task => .acceptTask task
  | .acceptTaskWithEnvelope task envelope => .acceptTaskWithEnvelope task envelope
  | .acceptTaskWithEnvelopeAndContext task envelope context => .acceptTaskWithEnvelopeAndContext task envelope context
  | .leaseTask taskId lease => .leaseTask taskId lease
  | .leaseTaskForPeer taskId lease localPeerId => .leaseTaskForPeer taskId lease localPeerId
  | .renewLease taskId leaseId workerId nowMs newExpiresAtMs => .renewLease taskId leaseId workerId nowMs newExpiresAtMs
  | .completeTask taskId leaseId workerId => .completeTask taskId leaseId workerId
  | .failTask taskId leaseId workerId errorReason policy => .failTask taskId leaseId workerId errorReason policy
  | .retryTask taskId leaseId workerId => .retryTask taskId leaseId workerId
  | .deadLetterTask taskId leaseId workerId reason => .deadLetterTask taskId leaseId workerId reason
  | .cancelTask taskId nowMs => .cancelTask taskId nowMs
  | .failExpiredDeadlines nowMs limit => .failExpiredDeadlines nowMs limit
  | .recoverStaleLeases nowMs limit => .recoverStaleLeases nowMs limit
  | .acceptLegacyEvent taskId eventType => .acceptLegacyEvent taskId eventType
  | .transitionTask taskId toStatus => .transitionTask taskId toStatus

inductive Reply where
  | task (task : TaskRecord)
  | lease (lease : LeaseRecord)
  | deadlines (failedTasks : List TaskRecord)
  | recovery (report : RecoveryReport)
deriving DecidableEq

def replied {σ α : Type} (wrap : α → Reply) (outcome : StoreResult α × σ) : StoreResult Reply × σ :=
  (outcome.1.map wrap, outcome.2)

/-- An expired deadline is an error of an attempt to lease that was carried out. -/
def leased {σ : Type} (outcome : StoreResult (StoreResult TaskRecord) × σ) : StoreResult Reply × σ :=
  replied .task (outcome.1.bind id, outcome.2)

namespace Memory

def respond : Call → State → StoreResult Reply × State
  | .acceptTask task, state => replied .task (commit (acceptTask task) state)
  | .acceptTaskWithEnvelope task envelope, state => replied .task (commit (acceptTaskWithEnvelope task envelope) state)
  | .acceptTaskWithEnvelopeAndContext task envelope context, state =>
    replied .task (commit (acceptTaskWithEnvelopeAndContext task envelope context) state)
  | .leaseTask taskId lease, state => leased (commit (leaseTaskWithPeerGuard taskId lease none) state)
  | .leaseTaskForPeer taskId lease localPeerId, state =>
    leased (commit (leaseTaskWithPeerGuard taskId lease (some localPeerId)) state)
  | .renewLease taskId leaseId workerId nowMs newExpiresAtMs, state =>
    replied .lease (commit (renewLease taskId leaseId workerId nowMs newExpiresAtMs) state)
  | .completeTask taskId leaseId workerId, state => replied .task (commit (completeTask taskId leaseId workerId) state)
  | .failTask taskId leaseId workerId errorReason policy, state =>
    replied .task (commit (failTask taskId leaseId workerId errorReason policy) state)
  | .retryTask taskId leaseId workerId, state => replied .task (commit (retryTask taskId leaseId workerId) state)
  | .deadLetterTask taskId leaseId workerId reason, state =>
    replied .task (commit (deadLetterTask taskId leaseId workerId reason) state)
  | .cancelTask taskId nowMs, state => replied .task (commit (cancelTask taskId nowMs) state)
  | .failExpiredDeadlines nowMs limit, state => replied .deadlines (failExpiredDeadlines nowMs limit state)
  | .recoverStaleLeases nowMs limit, state => replied .recovery (commit (recoverStaleLeases nowMs limit) state)
  | .acceptLegacyEvent taskId eventType, state => replied .task (commit (acceptLegacyEvent taskId eventType) state)
  | .transitionTask taskId toStatus, state => replied .task (commit (transitionTask taskId toStatus) state)

theorem respond_state (call : Call) (state : State) : (respond call state).2 = step state call.toOp := by
  cases call <;> rfl

end Memory

namespace Sqlite

def respond : Call → Db → StoreResult Reply × Db
  | .acceptTask task, db => replied .task (commit (acceptTask task) db)
  | .acceptTaskWithEnvelope task envelope, db => replied .task (commit (acceptTaskWithEnvelope task envelope) db)
  | .acceptTaskWithEnvelopeAndContext task envelope context, db =>
    replied .task (commit (acceptTaskWithEnvelopeAndContext task envelope context) db)
  | .leaseTask taskId lease, db => replied .task (leaseTask taskId lease db)
  | .leaseTaskForPeer taskId lease localPeerId, db => replied .task (leaseTaskForPeer taskId lease localPeerId db)
  | .renewLease taskId leaseId workerId nowMs newExpiresAtMs, db =>
    replied .lease (commit (renewLease taskId leaseId workerId nowMs newExpiresAtMs) db)
  | .completeTask taskId leaseId workerId, db => replied .task (commit (completeTask taskId leaseId workerId) db)
  | .failTask taskId leaseId workerId errorReason policy, db =>
    replied .task (commit (failTask taskId leaseId workerId errorReason policy) db)
  | .retryTask taskId leaseId workerId, db => replied .task (commit (retryTask taskId leaseId workerId) db)
  | .deadLetterTask taskId leaseId workerId reason, db =>
    replied .task (commit (deadLetterTask taskId leaseId workerId reason) db)
  | .cancelTask taskId nowMs, db => replied .task (commit (cancelTask taskId nowMs) db)
  | .failExpiredDeadlines nowMs limit, db => replied .deadlines (commit (failExpiredDeadlines nowMs limit) db)
  | .recoverStaleLeases nowMs limit, db => replied .recovery (commit (recoverStaleLeases nowMs limit) db)
  | .acceptLegacyEvent taskId eventType, db => replied .task (commit (acceptLegacyEvent taskId eventType) db)
  | .transitionTask taskId toStatus, db => replied .task (commit (transitionTask taskId toStatus) db)

theorem respond_state [Sha256] (call : Call) (db : Db) : (respond call db).2 = step db call.toOp := by
  cases call <;> rfl

end Sqlite

/-- The lease that a call grants when it succeeds. -/
def Call.granted : Call → Option LeaseRecord
  | .leaseTask taskId lease | .leaseTaskForPeer taskId lease _ => if lease.taskId = taskId then some lease else none
  | _ => none

/-- No lease id is used for two tasks. -/
def LeaseIdsApart (calls : List Call) : Prop :=
  ∀ one ∈ calls, ∀ other ∈ calls, ∀ lease ∈ one.granted, ∀ again ∈ other.granted,
    lease.leaseId = again.leaseId → lease.taskId = again.taskId

variable {state : Memory.State} {db : Sqlite.Db} {taskId : TaskId} {calls : List Call} {call : Call}

/-- What the states of a run have beyond their agreement. -/
structure Sane (calls : List Call) (taskId : TaskId) (cell : Cell) : Prop where
  quiet : cell.record = none → cell.log = []
  alive : cell.Alive
  issued : ∀ lease, cell.lease = some lease →
    ∃ call ∈ calls, ∃ given, (call = .leaseTask taskId given ∨ ∃ peer, call = .leaseTaskForPeer taskId given peer) ∧
      given.leaseId = lease.leaseId ∧ given.taskId = lease.taskId

theorem permits_accept {op : Sqlite.Op} {task : TaskRecord} (fresh : op.AcceptsNew)
    (permitted : op.permits taskId (.accept task)) : task.deadLettered = false ∧ task.deadLetterReason = none := by
  cases op with
  | acceptTask accepted =>
    obtain ⟨_, _, _, _, rfl⟩ := fresh
    cases permitted
    exact ⟨rfl, rfl⟩
  | acceptTaskWithEnvelope accepted envelope =>
    obtain ⟨_, _, _, _, rfl⟩ := fresh
    cases permitted
    exact ⟨rfl, rfl⟩
  | acceptTaskWithEnvelopeAndContext accepted envelope context =>
    obtain ⟨_, _, _, _, rfl⟩ := fresh
    cases permitted
    exact ⟨rfl, rfl⟩
  | _ => simp [Sqlite.Op.permits] at permitted

theorem permits_lease {lease : LeaseRecord} (permitted : call.toOp.permits taskId (.lease lease)) :
    call = .leaseTask taskId lease ∨ ∃ peer, call = .leaseTaskForPeer taskId lease peer := by
  cases call with
  | leaseTask owner given =>
    simp [Call.toOp, Sqlite.Op.permits] at permitted
    obtain ⟨rfl, rfl⟩ := permitted
    exact .inl rfl
  | leaseTaskForPeer owner given localPeerId =>
    simp [Call.toOp, Sqlite.Op.permits] at permitted
    obtain ⟨rfl, rfl⟩ := permitted
    exact .inr ⟨localPeerId, rfl⟩
  | _ => simp [Call.toOp, Sqlite.Op.permits] at permitted

theorem changes_alive {change : Change} {task changed : TaskRecord} {eventType : KeryxEventType}
    (applies : Changes change task changed eventType)
    (alive : task.status.isTerminal = false → task.deadLettered = false ∧ task.deadLetterReason = none)
    (unfinished : changed.status.isTerminal = false) : changed.deadLettered = false ∧ changed.deadLetterReason = none := by
  cases applies with
  | start pending => exact alive (by rw [pending]; rfl)
  | complete running => cases unfinished
  | fail running => cases unfinished
  | failCleared running => cases unfinished
  | retry running => exact ⟨rfl, rfl⟩
  | requeue running => exact alive (by rw [running]; rfl)
  | deadLetter running => cases unfinished
  | cancel _ => cases unfinished
  | timeOut _ => cases unfinished
  | recover =>
    apply alive
    cases status : task.status with
    | pending => rfl
    | running => rfl
    | completed =>
      rw [status] at unfinished
      cases unfinished
    | failed =>
      rw [status] at unfinished
      cases unfinished
  | operational replayable _ => exact alive unfinished
  | deny pending => cases unfinished

theorem Sane.empty : Sane calls taskId .empty := by
  refine ⟨fun _ => rfl, ?_, ?_⟩
  · intro task present
    cases present
  · intro lease held
    cases held

theorem Sane.step {action : Action} {before after : Cell} (sane : Sane calls taskId before) (member : call ∈ calls)
    (fresh : call.toOp.AcceptsNew) (permitted : call.toOp.permits taskId action)
    (step : Step taskId action before after) : Sane calls taskId after := by
  have advanced : ∀ {task changed : TaskRecord} {change : Change} {eventType : KeryxEventType},
      before.record = some task → Changes change task changed eventType →
      ∀ other, some changed = some other → other.status.isTerminal = false →
        other.deadLettered = false ∧ other.deadLetterReason = none := by
    intro task changed change eventType present applies other same unfinished
    cases same
    exact changes_alive applies (sane.alive task present) unfinished
  have kept : ∀ (keepsLease : Bool) (lease : LeaseRecord), (if keepsLease then before.lease else none) = some lease →
      before.lease = some lease := by
    intro keepsLease lease held
    cases keepsLease with
    | true => exact held
    | false => cases held
  cases step with
  | accept owner absent silent pending =>
    refine ⟨?_, ?_, sane.issued⟩
    · intro none
      cases none
    · intro other same _
      cases same
      exact permits_accept fresh permitted
  | lease present pending free =>
    refine ⟨?_, advanced present (.start pending), ?_⟩
    · intro none
      cases none
    · intro held same
      cases same
      exact ⟨call, member, _, permits_lease permitted, rfl, rfl⟩
  | renew present running held =>
    have given := sane.issued _ held
    refine ⟨sane.quiet, sane.alive, ?_⟩
    intro renewed same
    cases same
    exact given
  | evict =>
    refine ⟨sane.quiet, sane.alive, ?_⟩
    intro lease held
    cases held
  | advance present applies =>
    refine ⟨?_, advanced present applies, ?_⟩
    · intro none
      cases none
    · intro lease held
      exact sane.issued lease (kept _ lease held)
  | settle present applies unsettled unfinished ends =>
    refine ⟨?_, advanced present applies, ?_⟩
    · intro none
      cases none
    · intro lease held
      exact sane.issued lease (kept _ lease held)

/-- The relation that calls keep between the two stores. -/
structure Lockstep (calls : List Call) (state : Memory.State) (db : Sqlite.Db) : Prop where
  same : Matches state db
  sane : ∀ taskId, Sane calls taskId (db.cell taskId)

theorem Lockstep.unshared {lease : LeaseRecord} (lockstep : Lockstep calls state db) (apart : LeaseIdsApart calls)
    (member : call ∈ calls) (grants : call.granted = some lease) : db.Unshared lease.taskId lease.leaseId := by
  intro other held different active taken
  obtain ⟨earlier, listed, given, leases, leaseId, owner⟩ := (lockstep.sane other).issued held active
  have own : given.taskId = other := owner.trans (Sqlite.activeLease_taskId active)
  have granted : earlier.granted = some given := by
    rcases leases with rfl | ⟨peer, rfl⟩
    · exact if_pos own
    · exact if_pos own
  apply different
  rw [← own]
  exact apart earlier listed call member given granted lease grants (leaseId.trans taken)

/-- Corresponding replies and matching states. -/
def Parallel (left : StoreResult Reply × Memory.State) (right : StoreResult Reply × Sqlite.Db) : Prop :=
  SameOutcome left.1 right.1 ∧ Matches left.2 right.2

theorem parallel_commit {α : Type} {wrap : α → Reply} {first : Memory.Mutation α} {second : Sqlite.Tx α}
    (same : Matches state db) (agree : Agree Matches (first state) (second db)) :
    Parallel (replied wrap (commit first state)) (replied wrap (commit second db)) := by
  obtain ⟨outcomes, states⟩ := agree.commit same
  exact ⟨outcomes.map wrap, states⟩

theorem parallel_lease {first : Memory.Mutation (StoreResult TaskRecord)} {second : Sqlite.Tx (StoreResult TaskRecord)}
    (same : Matches state db) (agree : Agree Matches (first state) (second db)) :
    Parallel (leased (commit first state)) (replied .task (Sqlite.leaseOutcome (commit second db))) := by
  obtain ⟨outcomes, states⟩ := agree.commit same
  exact ⟨outcomes.join.map Reply.task, states⟩

theorem respond_parallel (lockstep : Lockstep calls state db) (apart : LeaseIdsApart calls) (member : call ∈ calls) :
    Parallel (Memory.respond call state) (Sqlite.respond call db) := by
  have same := lockstep.same
  have quiet : db.Quiet := fun taskId => (lockstep.sane taskId).quiet
  have alive := fun taskId => (lockstep.sane taskId).alive
  have unshared : ∀ {lease : LeaseRecord}, call.granted = some lease → db.Unshared lease.taskId lease.leaseId :=
    fun grants => lockstep.unshared apart member grants
  cases call with
  | acceptTask task => exact parallel_commit same (acceptTask_agrees same quiet)
  | acceptTaskWithEnvelope task envelope => exact parallel_commit same (acceptTaskWithEnvelope_agrees same quiet)
  | acceptTaskWithEnvelopeAndContext task envelope context =>
    exact parallel_commit same (acceptTaskWithEnvelopeAndContext_agrees same quiet)
  | leaseTask taskId lease =>
    exact parallel_lease same (leaseTaskWithPeerGuard_agrees same fun owner => unshared (if_pos owner))
  | leaseTaskForPeer taskId lease localPeerId =>
    exact parallel_lease same (leaseTaskWithPeerGuard_agrees same fun owner => unshared (if_pos owner))
  | renewLease taskId leaseId workerId nowMs newExpiresAtMs => exact parallel_commit same (renewLease_agrees same)
  | completeTask taskId leaseId workerId => exact parallel_commit same (completeTask_agrees same)
  | failTask taskId leaseId workerId errorReason policy =>
    exact parallel_commit same (failTask_agrees same (alive taskId))
  | retryTask taskId leaseId workerId => exact parallel_commit same (retryTask_agrees same (alive taskId))
  | deadLetterTask taskId leaseId workerId reason => exact parallel_commit same (deadLetterTask_agrees same)
  | cancelTask taskId nowMs => exact parallel_commit same (cancelTask_agrees same)
  | failExpiredDeadlines nowMs limit =>
    obtain ⟨outcomes, states⟩ := failExpiredDeadlines_agrees same
    exact ⟨outcomes.map Reply.deadlines, states⟩
  | recoverStaleLeases nowMs limit => exact parallel_commit same (recoverStaleLeases_agrees same)
  | acceptLegacyEvent taskId eventType => exact parallel_commit same (acceptLegacyEvent_agrees same)
  | transitionTask taskId toStatus => exact parallel_commit same (transitionTask_agrees same)

theorem respond_lockstep (lockstep : Lockstep calls state db) (apart : LeaseIdsApart calls) (member : call ∈ calls)
    (fresh : call.toOp.AcceptsNew) :
    SameOutcome (Memory.respond call state).1 (Sqlite.respond call db).1 ∧
      Lockstep calls (Memory.respond call state).2 (Sqlite.respond call db).2 := by
  obtain ⟨outcomes, states⟩ := respond_parallel lockstep apart member
  refine ⟨outcomes, states, ?_⟩
  intro taskId
  rw [@Sqlite.respond_state default]
  apply (@Sqlite.step_refines default db call.toOp taskId).invariant (Sane calls taskId) _ (lockstep.sane taskId)
  intro action before after permitted step sane
  exact sane.step member fresh permitted step

/-- What the two stores show of themselves: the records, the event lists and the active leases. -/
structure Alike (state : Memory.State) (db : Sqlite.Db) : Prop where
  tasks : ∀ taskId, state.tasks.find taskId = db.tasks.find taskId
  events : ∀ taskId, state.events.stream taskId = db.eventsForTask taskId
  leases : ∀ taskId, state.leases.find taskId = db.activeLease taskId

/-- The two stores answer the same calls alike, and end alike. -/
theorem stores_equivalent {calls : List Call} (fresh : ∀ call ∈ calls, call.toOp.AcceptsNew)
    (apart : LeaseIdsApart calls) :
    List.Forall₂ SameOutcome (Run.answers Memory.respond .empty calls) (Run.answers Sqlite.respond .empty calls) ∧
      Alike (Run.run (fun state call => (Memory.respond call state).2) .empty calls)
        (Run.run (fun db call => (Sqlite.respond call db).2) .empty calls) := by
  have initial : Lockstep calls .empty .empty := ⟨.empty, fun _ => .empty⟩
  have matched : ∀ call state db, call ∈ calls → Lockstep calls state db →
      SameOutcome (Memory.respond call state).1 (Sqlite.respond call db).1 ∧
        Lockstep calls (Memory.respond call state).2 (Sqlite.respond call db).2 :=
    fun call state db member lockstep => respond_lockstep lockstep apart member (fresh call member)
  obtain ⟨outcomes, final⟩ := Run.simulate matched initial (fun _ member => member)
  refine ⟨outcomes, final.same.tasks, ?_, final.same.leases⟩
  intro taskId
  exact (final.same.events taskId).trans (Journal.ordered_eq _ taskId).symm

/-- A task is accepted and leased, and its lease is recovered. -/
theorem recovery_equivalent :
    let taskId : TaskId := ⟨"task-1", by decide, by decide, by decide⟩
    let lease : LeaseRecord :=
      { leaseId := ⟨"lease-1", by decide, by decide, by decide⟩, taskId
        workerId := some ⟨"worker-1", by decide, by decide, by decide⟩, leasedAtMs := 0, expiresAtMs := 10 }
    let calls : List Call :=
      [.acceptTask (TaskRecord.new taskId .pending none), .leaseTask taskId lease, .recoverStaleLeases 20 none]
    List.Forall₂ SameOutcome (Run.answers Memory.respond .empty calls) (Run.answers Sqlite.respond .empty calls) ∧
      Alike (Run.run (fun state call => (Memory.respond call state).2) .empty calls)
        (Run.run (fun db call => (Sqlite.respond call db).2) .empty calls) := by
  intro taskId lease calls
  apply stores_equivalent
  · intro call member
    simp only [calls, List.mem_cons, List.not_mem_nil, or_false] at member
    rcases member with rfl | rfl | rfl
    · exact ⟨taskId, .pending, none, none, rfl⟩
    · trivial
    · trivial
  · have only : ∀ call ∈ calls, ∀ given ∈ call.granted, given = lease := by
      intro call member given grants
      simp only [calls, List.mem_cons, List.not_mem_nil, or_false] at member
      rcases member with rfl | rfl | rfl
      · cases grants
      · exact (Option.some.inj grants).symm
      · cases grants
    intro one first other second given grants again regrants _
    rw [only one first given grants, only other second again regrants]

end Keryx.Store
