import Keryx.Daemon.Incoming
import Keryx.Daemon.Dispatch

/-! The requests that store new tasks, interleaved.
Most take a lock for their steps; a task that is sent to another peer is stored without it. -/

namespace Keryx.Daemon
open Keryx.Core Store Store.Sqlite Proto Relational Relational.Run Relational.Transaction

/-- A task on its way into the store, with what is to be stored of it. -/
inductive Entry where
  | submitted (record : TaskRecord) (envelope : TaskEnvelopeRecord)
  | remote (record : TaskRecord) (envelope : TaskEnvelopeRecord) (context : TaskTransportContextRecord)
      (lease : Option LeaseRecord)
  | sentHere (record : TaskRecord)
  | sentOn (localPeerId targetPeerId : PeerId) (record : TaskRecord) (envelope : TaskEnvelopeRecord)

@[simp] def Entry.record : Entry → TaskRecord
  | .submitted record _ => record
  | .remote record _ _ _ => record
  | .sentHere record => record
  | .sentOn _ _ record _ => record

@[simp] def Entry.bytes : Entry → Nat
  | .submitted _ envelope => envelope.encodedEnvelope.length
  | .remote _ envelope _ _ => envelope.encodedEnvelope.length
  | .sentHere _ => 0
  | .sentOn _ _ _ envelope => envelope.encodedEnvelope.length

@[simp] def Entry.accept : Entry → Tx TaskRecord
  | .submitted record envelope => acceptTaskWithEnvelope record envelope
  | .remote record envelope context _ => acceptTaskWithEnvelopeAndContext record envelope context
  | .sentHere record => acceptTask record
  | .sentOn localPeerId targetPeerId record envelope =>
    acceptTaskWithEnvelopeAndContext record envelope
      (intentContext localPeerId targetPeerId record.id envelope.receivedAtMs)

@[simp] def Entry.lease : Entry → Option LeaseRecord
  | .remote _ _ _ lease => lease
  | _ => none

inductive Arrival where
  | submitTask (authorization : Option String) (nowMs : Int) (request : SubmitTaskRequest)
  | submitRemoteTask (authorization : Option String) (nowMs : Int) (request : SubmitRemoteTaskRequest)
  | incomingTask (dispatch : IncomingDispatchConfig) (nowMs leasedAtMs : Int) (incoming : IncomingRelayTask)
  | sendTask (authorization : Option String) (order : MapOrder) (nowMs : Int) (request : SendTaskRequest)

def checkSize (config : Config) (envelope : TaskEnvelopeRecord) : Except Status Unit :=
  (validated (config.limits.checkEnvelopeBytes envelope.encodedEnvelope.length)).mapError storeErrorToStatus

def submitEntry (runtime : Runtime) (authorization : Option String) (nowMs : Int) (request : SubmitTaskRequest) :
    Except Status Entry := do
  enter runtime authorization
  let (record, envelope) ← localSubmission runtime.config nowMs request
  checkSize runtime.config envelope
  return .submitted record envelope

def submitRemoteEntry (runtime : Runtime) (authorization : Option String) (nowMs : Int)
    (request : SubmitRemoteTaskRequest) : Except Status Entry := do
  enter runtime authorization
  let (record, envelope, context) ← remoteSubmission runtime.config nowMs request
  checkSize runtime.config envelope
  return .remote record envelope context none

/-- What becomes of an incoming task that is not refused at once. -/
def incomingEntry (runtime : Runtime) (allowlist : String → Bool) (dispatch : IncomingDispatchConfig)
    (nowMs leasedAtMs : Int) (incoming : IncomingRelayTask) : Option Entry :=
  if runtime.shuttingDown || !allowlist incoming.senderNodeId then none
  else
    match incomingSubmission runtime.config nowMs incoming with
    | .error _ => none
    | .ok (record, envelope, context) =>
      match checkSize runtime.config envelope with
      | .error _ => none
      | .ok _ =>
        some (.remote record envelope context (dispatch.localWorkerId.bind fun workerId =>
          (dispatchLease runtime.config dispatch workerId leasedAtMs record.id).toOption))

/-- What the router is to store, once the policy allows it. -/
def routeEntry (router : TaskRouter) (order : MapOrder) (nowMs : Int) (targetPeerId : PeerId)
    (envelope : TaskEnvelope) : Except RoutingError (Option Entry) := do
  let taskId ← parseEnvelopeTaskId envelope
  let deadlineMs ← routingDeadline envelope
  match (router.policy.evaluate envelope).permission with
  | .deny | .approvalRequired => return none
  | .allow =>
    if targetPeerId = router.peers.localPeerId then
      let idempotencyKey ← parseEnvelopeIdempotencyKey envelope
      return some (.sentHere (acceptedRecord taskId idempotencyKey deadlineMs))
    else if !(router.peers.isRoutable targetPeerId || router.publisher.isConfigured) then return none
    else
      let carried := withSourceFeatures order envelope
      let idempotencyKey ← parseEnvelopeIdempotencyKey carried
      return some (.sentOn router.peers.localPeerId targetPeerId (acceptedRecord taskId idempotencyKey deadlineMs)
        { taskId, encodedEnvelope := carried.encodeToVec, receivedAtMs := nowMs })

def sendEntry (runtime : RoutingRuntime) (authorization : Option String) (order : MapOrder) (nowMs : Int)
    (request : SendTaskRequest) : Except Status (Option Entry) := do
  enter runtime.toRuntime authorization
  let (envelope, targetPeerId) ← sendSubmission runtime.config request
  (routeEntry runtime.router order nowMs targetPeerId envelope).mapError routingErrorToStatus

/-- What is left of a request when its own checks are done; they do not look at the store. -/
def Arrival.entry (runtime : RoutingRuntime) (allowlist : String → Bool) : Arrival → Option Entry
  | .submitTask authorization nowMs request => (submitEntry runtime.toRuntime authorization nowMs request).toOption
  | .submitRemoteTask authorization nowMs request =>
    (submitRemoteEntry runtime.toRuntime authorization nowMs request).toOption
  | .incomingTask dispatch nowMs leasedAtMs incoming =>
    incomingEntry runtime.toRuntime allowlist dispatch nowMs leasedAtMs incoming
  | .sendTask authorization order nowMs request => (sendEntry runtime authorization order nowMs request).toOption.join

inductive Phase where
  | waiting | looking | counting | measuring | admitted | replaying | intending | sending | leasing | done
deriving DecidableEq

@[simp] def Phase.holds : Phase → Bool
  | .looking | .counting | .measuring | .admitted | .replaying => true
  | _ => false

structure Pass where
  entry : Entry
  phase : Phase

@[simp] def Entry.start : Entry → Phase
  | .sentOn _ _ _ _ => .intending
  | _ => .waiting

/-- Relayed tasks are looked up first. -/
@[simp] def Entry.afterLock : Entry → Phase
  | .remote _ _ _ _ => .looking
  | _ => .counting

/-- The bytes are measured where an envelope is stored. -/
@[simp] def Entry.afterCount : Entry → Phase
  | .sentHere _ => .admitted
  | _ => .measuring

/-- An incoming task is leased next, where a worker is configured. -/
def Entry.afterInsert (entry : Entry) (outcome : StoreResult TaskRecord) : Phase :=
  if outcome.isOk && entry.lease.isSome then .leasing else .done

theorem Entry.afterInsert_holds (entry : Entry) (outcome : StoreResult TaskRecord) :
    (entry.afterInsert outcome).holds = false := by
  unfold Entry.afterInsert
  split <;> rfl

def Pass.read (config : Config) (db : Db) (pass : Pass) : Phase :=
  match pass.phase with
  | .looking => if (db.tasks.find pass.entry.record.id).isSome then .replaying else .counting
  | .counting =>
    if (config.limits.checkPendingTasks (db.countTasksByStatus .pending)).isOk then pass.entry.afterCount else .done
  | .measuring =>
    if (config.limits.checkRetainedEnvelopeBytes db.retainedTaskEnvelopeBytes pass.entry.bytes).isOk then .admitted
    else .done
  | .intending =>
    match pass.entry with
    | .sentOn localPeerId targetPeerId record envelope =>
      match existingIntent localPeerId targetPeerId record envelope.encodedEnvelope db with
      | .ok false => .sending
      | _ => .done
    | _ => .done
  | phase => phase

structure Gate where
  db : Db
  holder : Option Nat
  passes : List Pass

def Gate.empty : Gate := { db := .empty, holder := none, passes := [] }

/-- A pass goes to its next phase, and gives the lock back with the last phase that needs it. -/
def Gate.move (gate : Gate) (index : Nat) (pass : Pass) (phase : Phase) : Gate :=
  { gate with
    passes := gate.passes.set index { pass with phase }
    holder := if gate.holder = some index ∧ phase.holds = false then none else gate.holder }

inductive GateOp where
  | arrive (arrival : Arrival)
  | advance (index : Nat)

def Gate.advance (config : Config) (gate : Gate) (index : Nat) (pass : Pass) : Gate :=
  match pass.phase with
  | .waiting =>
    if gate.holder = none then { gate.move index pass pass.entry.afterLock with holder := some index } else gate
  | .looking | .counting | .measuring | .intending => gate.move index pass (pass.read config gate.db)
  | .admitted | .replaying | .sending =>
    { gate.move index pass (pass.entry.afterInsert (commit pass.entry.accept gate.db).1) with
      db := (commit pass.entry.accept gate.db).2 }
  | .leasing =>
    match pass.entry.lease with
    | some lease =>
      { gate.move index pass .done with
        db := (leaseTaskForPeer pass.entry.record.id lease config.localPeerId gate.db).2 }
    | none => gate.move index pass .done
  | .done => gate

def Gate.step (runtime : RoutingRuntime) (allowlist : String → Bool) (gate : Gate) : GateOp → Gate
  | .arrive arrival =>
    match arrival.entry runtime allowlist with
    | none => gate
    | some entry => { gate with passes := gate.passes ++ [{ entry, phase := entry.start }] }
  | .advance index =>
    match gate.passes[index]? with
    | none => gate
    | some pass => gate.advance runtime.config index pass

/-- The store is as it was, or it holds one more task and at most so many more bytes. -/
def Grows (record : TaskRecord) (bytes : Nat) (db after : Db) : Prop :=
  after.tasks = db.tasks ∧ after.envelopes = db.envelopes ∨
    db.tasks.find record.id = none ∧ after.tasks = db.tasks.put record ∧
      (after.envelopes = db.envelopes ∨
        ∃ envelope, after.envelopes = db.envelopes.put envelope ∧ envelope.encodedEnvelope.length = bytes)

theorem insertAccepted_tables (task : TaskRecord) (db : Db) :
    (db.insertAccepted task).tasks = db.tasks.put task ∧ (db.insertAccepted task).envelopes = db.envelopes := by
  cases keyed : task.idempotencyKey <;> simp [Db.insertAccepted, Db.insertIdempotencyKey, keyed, Db.appendEvent,
    Db.insertTask]

theorem accepts_grows {record : TaskRecord} {held : Prop} {again add : Db → Db} {result : TaskRecord × Db}
    {bytes : Nat} (accepts : db.Accepts record held again add result)
    (repeated : (again db).tasks = db.tasks ∧ (again db).envelopes = db.envelopes)
    (added : ∀ stored, (add stored).tasks = stored.tasks ∧ ((add stored).envelopes = stored.envelopes ∨
      ∃ envelope, (add stored).envelopes = stored.envelopes.put envelope ∧ envelope.encodedEnvelope.length = bytes)) :
    Grows record bytes db result.2 := by
  cases accepts with
  | known present same => exact .inl repeated
  | stored fresh unowned first =>
    obtain ⟨tasks, envelopes⟩ := insertAccepted_tables record db
    obtain ⟨sameTasks, enveloped⟩ := added (db.insertAccepted record)
    rw [tasks] at sameTasks
    rw [envelopes] at enveloped
    exact .inr ⟨fresh, sameTasks, enveloped⟩

theorem Entry.accept_grows (entry : Entry) (db : Db) :
    Grows entry.record entry.bytes db (commit entry.accept db).2 := by
  refine ensures_commit (fun _ _ success => ?_) (.inl ⟨rfl, rfl⟩)
  cases entry with
  | submitted record envelope =>
    exact accepts_grows (acceptTaskWithEnvelope_ok.mp success).2.2 ⟨rfl, rfl⟩ fun _ => ⟨rfl, .inr ⟨envelope, rfl, rfl⟩⟩
  | sentHere record => exact accepts_grows (acceptTask_ok success).2 ⟨rfl, rfl⟩ fun _ => ⟨rfl, .inl rfl⟩
  | remote record envelope | sentOn localPeerId targetPeerId record envelope =>
    exact accepts_grows (acceptTaskWithEnvelopeAndContext_ok.mp success).2.2.2 ⟨rfl, rfl⟩ fun _ =>
      ⟨rfl, .inr ⟨envelope, rfl, rfl⟩⟩

theorem countTasksByStatus_put (record : TaskRecord) (tasks : Table TaskRecord.id) :
    ((tasks.put record).rows.filter (fun task => task.status = .pending)).length ≤
      (tasks.rows.filter (fun task => task.status = .pending)).length + 1 := by
  have counted := Table.countP_put tasks record (fun task => decide (task.status = .pending))
  have one : [record].countP (fun task => decide (task.status = .pending)) ≤ 1 := List.countP_le_length
  simp only [List.countP_eq_length_filter] at counted one
  omega

theorem retainedBytes_put (envelope : TaskEnvelopeRecord) (envelopes : Table TaskEnvelopeRecord.taskId) :
    ((envelopes.put envelope).rows.map (fun stored => stored.encodedEnvelope.length)).sum ≤
      (envelopes.rows.map (fun stored => stored.encodedEnvelope.length)).sum + envelope.encodedEnvelope.length := by
  show (((envelopes.rows.filter _) ++ [envelope]).map (fun stored => stored.encodedEnvelope.length)).sum ≤ _
  rw [List.map_append, List.sum_append, List.map_singleton, List.sum_singleton]
  have fewer : ((envelopes.rows.filter (fun other => decide (other.taskId ≠ envelope.taskId))).map
      fun stored => stored.encodedEnvelope.length).sum ≤
        (envelopes.rows.map fun stored => stored.encodedEnvelope.length).sum :=
    (List.filter_sublist.map _).sum_le_sum fun _ _ => Nat.zero_le _
  omega

/-- No more tasks are pending, the envelopes are the same, and no task is gone. -/
structure Relieves (db after : Db) : Prop where
  pending : after.countTasksByStatus .pending ≤ db.countTasksByStatus .pending
  envelopes : after.envelopes = db.envelopes
  kept : ∀ taskId, (db.tasks.find taskId).isSome → (after.tasks.find taskId).isSome

theorem relieves_updateTaskStatus {after : Db} (db : Db) (taskId : TaskId) {status : TaskStatus}
    (started : status ≠ .pending) (tasks : after.tasks = (db.updateTaskStatus taskId status).tasks)
    (envelopes : after.envelopes = db.envelopes) : Relieves db after where
  pending := by
    unfold Db.countTasksByStatus
    rw [tasks]
    show ((db.tasks.rows.map _).filter _).length ≤ _
    rw [← List.countP_eq_length_filter, ← List.countP_eq_length_filter, List.countP_map]
    apply List.countP_mono_left
    intro task _ pending
    simp only [Function.comp_apply] at pending
    split at pending
    · exact absurd (of_decide_eq_true pending) started
    · exact pending
  envelopes := envelopes
  kept := by
    intro other present
    rw [tasks, Db.updateTaskStatus, Table.find_update]
    split
    · simpa using present
    · exact present

theorem leaseTaskForPeer_relieves (taskId : TaskId) (lease : LeaseRecord) (localPeerId : PeerId) (db : Db) :
    Relieves db (leaseTaskForPeer taskId lease localPeerId db).2 := by
  have unchanged : Relieves db db := ⟨Nat.le_refl _, rfl, fun _ present => present⟩
  show Relieves db (commit (leaseTaskWithPeerGuard taskId lease (some localPeerId)) db).2
  apply ensures_commit _ unchanged
  simp only [leaseTaskWithPeerGuard, ensures_check_bind, ensures_query_bind, ensures_fetchTask_bind, ensures_ensure_bind]
  intro _ _ _ _ _ _ task _ _
  split
  · simp only [ensures_check_bind, ensures_query_bind, ensures_execute_bind, ensures_insertEvent_bind, ensures_pure]
    intro _ _ _
    exact relieves_updateTaskStatus db taskId (by decide) rfl rfl
  · simp only [ensures_check_bind, ensures_query_bind, ensures_execute_bind, ensures_insertEvent_bind,
      ensures_fetchTask_bind, ensures_pure]
    intro _ _ _ _ _
    exact relieves_updateTaskStatus db taskId (by decide) rfl rfl

theorem isOk_unless {ε α : Type} {refused : Prop} [Decidable refused] {failure : ε} {value : α} :
    (if refused then .error failure else .ok value : Except ε α).isOk = true ↔ ¬ refused := by
  split <;> simp_all [Except.isOk, Except.toBool]

def HasRoom (limits : LimitsConfig) (db : Db) : Prop :=
  0 < limits.maxPendingTasks → db.countTasksByStatus .pending < limits.maxPendingTasks

def HasBytes (limits : LimitsConfig) (bytes : Nat) (db : Db) : Prop :=
  0 < limits.maxRetainedEnvelopeBytes → db.retainedTaskEnvelopeBytes + bytes ≤ limits.maxRetainedEnvelopeBytes

/-- The store is within its limits; a limit of zero is none. -/
structure Bounded (limits : LimitsConfig) (db : Db) : Prop where
  pending : 0 < limits.maxPendingTasks → db.countTasksByStatus .pending ≤ limits.maxPendingTasks
  bytes : 0 < limits.maxRetainedEnvelopeBytes → db.retainedTaskEnvelopeBytes ≤ limits.maxRetainedEnvelopeBytes

section
variable {limits : LimitsConfig} {db after : Db} {bytes : Nat} {gate : Gate} {index : Nat} {pass : Pass}

theorem checkPendingTasks_isOk :
    (limits.checkPendingTasks (db.countTasksByStatus .pending)).isOk = true ↔ HasRoom limits db := by
  unfold LimitsConfig.checkPendingTasks HasRoom
  rw [isOk_unless]
  omega

theorem checkRetainedEnvelopeBytes_isOk (fits : db.retainedTaskEnvelopeBytes + bytes ≤ u64Max) :
    (limits.checkRetainedEnvelopeBytes db.retainedTaskEnvelopeBytes bytes).isOk = true ↔ HasBytes limits bytes db := by
  unfold LimitsConfig.checkRetainedEnvelopeBytes HasBytes saturatingAddU64
  simp only [Nat.min_eq_left fits]
  rw [isOk_unless]
  omega

theorem Grows.bounded {record : TaskRecord} (grows : Grows record bytes db after) (room : HasRoom limits db)
    (enough : HasBytes limits bytes db) : Bounded limits after := by
  unfold HasRoom HasBytes at *
  unfold Db.countTasksByStatus Db.retainedTaskEnvelopeBytes at *
  rcases grows with ⟨tasks, envelopes⟩ | ⟨_, tasks, envelopes⟩
  · constructor
    · intro limited
      unfold Db.countTasksByStatus
      rw [tasks]
      exact Nat.le_of_lt (room limited)
    · intro limited
      unfold Db.retainedTaskEnvelopeBytes
      rw [envelopes]
      have fits := enough limited
      omega
  · have more := countTasksByStatus_put record db.tasks
    constructor
    · intro limited
      unfold Db.countTasksByStatus
      rw [tasks]
      have free := room limited
      omega
    · intro limited
      unfold Db.retainedTaskEnvelopeBytes
      have fits := enough limited
      rcases envelopes with same | ⟨envelope, added, rfl⟩
      · rw [same]
        omega
      · rw [added]
        exact (retainedBytes_put envelope db.envelopes).trans fits

/-- What a pass has found out about the store, and relies on. -/
def Pass.Sound (limits : LimitsConfig) (db : Db) (pass : Pass) : Prop :=
  match pass.phase with
  | .measuring => HasRoom limits db
  | .admitted => HasRoom limits db ∧ HasBytes limits pass.entry.bytes db
  | .replaying => (db.tasks.find pass.entry.record.id).isSome
  | _ => True

/-- A pass in a phase that needs the lock has it, and what it relies on is true. -/
def Pass.Safe (limits : LimitsConfig) (gate : Gate) (index : Nat) (pass : Pass) : Prop :=
  (pass.phase.holds = true → gate.holder = some index) ∧ pass.Sound limits gate.db

structure Guarded (limits : LimitsConfig) (gate : Gate) : Prop where
  bounded : Bounded limits gate.db
  safe : ∀ (index : Nat) (pass : Pass), gate.passes[index]? = some pass → pass.Safe limits gate index

theorem Pass.safe_of_free (free : pass.phase.holds = false) : pass.Safe limits gate index := by
  obtain ⟨entry, phase⟩ := pass
  cases phase with
  | looking | counting | measuring | admitted | replaying => cases free
  | _ => exact ⟨nofun, trivial⟩

theorem Pass.Sound.of_tables (sound : pass.Sound limits db) (tasks : after.tasks = db.tasks)
    (envelopes : after.envelopes = db.envelopes) : pass.Sound limits after := by
  unfold Pass.Sound HasRoom HasBytes Db.countTasksByStatus Db.retainedTaskEnvelopeBytes at *
  rw [tasks, envelopes]
  exact sound

theorem Pass.Sound.relieved (sound : pass.Sound limits db) (relieves : Relieves db after) : pass.Sound limits after := by
  have roomy : HasRoom limits db → HasRoom limits after :=
    fun room limited => Nat.lt_of_le_of_lt relieves.pending (room limited)
  obtain ⟨entry, phase⟩ := pass
  cases phase with
  | measuring => exact roomy sound
  | admitted =>
    refine ⟨roomy sound.1, ?_⟩
    unfold HasBytes Db.retainedTaskEnvelopeBytes
    rw [relieves.envelopes]
    exact sound.2
  | replaying => exact relieves.kept _ sound
  | _ => trivial

theorem Bounded.relieved (bounded : Bounded limits db) (relieves : Relieves db after) : Bounded limits after where
  pending := fun limited => relieves.pending.trans (bounded.pending limited)
  bytes := by
    unfold Db.retainedTaskEnvelopeBytes
    rw [relieves.envelopes]
    exact bounded.bytes

theorem move_passes {phase : Phase} {other : Nat} {found : Pass}
    (listed : (gate.move index pass phase).passes[other]? = some found) :
    other = index ∧ found = { pass with phase } ∨ other ≠ index ∧ gate.passes[other]? = some found := by
  unfold Gate.move at listed
  rw [List.getElem?_set] at listed
  split at listed
  · rename_i same
    split at listed
    · cases listed
      exact .inl ⟨same.symm, rfl⟩
    · cases listed
  · rename_i different
    exact .inr ⟨fun same => different same.symm, listed⟩

theorem Guarded.move (guarded : Guarded limits gate) {phase : Phase}
    (safe : Pass.Safe limits gate index { pass with phase }) : Guarded limits (gate.move index pass phase) := by
  refine ⟨guarded.bounded, fun other found listed => ?_⟩
  have holder : (gate.move index pass phase).holder =
    if gate.holder = some index ∧ phase.holds = false then none else gate.holder := rfl
  rcases move_passes listed with ⟨rfl, rfl⟩ | ⟨different, listed⟩
  · refine ⟨fun holds => ?_, safe.2⟩
    rw [holder, if_neg (fun gives => by rw [gives.2] at holds; cases holds)]
    exact safe.1 holds
  · obtain ⟨exclusive, sound⟩ := guarded.safe other found listed
    refine ⟨fun holds => ?_, sound⟩
    rw [holder, if_neg (fun gives => different (Option.some.inj ((exclusive holds).symm.trans gives.1)))]
    exact exclusive holds

theorem Guarded.write (guarded : Guarded limits gate) (bounded : Bounded limits after)
    (sound : ∀ (index : Nat) (pass : Pass), gate.passes[index]? = some pass → pass.phase.holds = true →
      pass.Sound limits after) : Guarded limits { gate with db := after } := by
  refine ⟨bounded, fun index pass listed => ?_⟩
  cases holds : pass.phase.holds with
  | true => exact ⟨(guarded.safe index pass listed).1, sound index pass listed holds⟩
  | false => exact Pass.safe_of_free holds

/-- A pass may not store a new task without the lock and without room for it. Besides, the sum that is measured fits
its word. -/
def Gate.Admits (limits : LimitsConfig) (gate : Gate) : GateOp → Prop
  | .arrive _ => True
  | .advance index => ∀ pass, gate.passes[index]? = some pass →
    (pass.phase = .measuring → gate.db.retainedTaskEnvelopeBytes + pass.entry.bytes ≤ u64Max) ∧
    (pass.phase = .sending → gate.db.tasks.find pass.entry.record.id = none →
      gate.holder = none ∧ HasRoom limits gate.db ∧ HasBytes limits pass.entry.bytes gate.db)

instance : Decidable (HasRoom limits db) :=
  inferInstanceAs (Decidable (0 < limits.maxPendingTasks → _))

instance : Decidable (HasBytes limits bytes db) :=
  inferInstanceAs (Decidable (0 < limits.maxRetainedEnvelopeBytes → _))

instance (op : GateOp) : Decidable (gate.Admits limits op) :=
  match op with
  | .arrive _ => .isTrue trivial
  | .advance index =>
    match listed : gate.passes[index]? with
    | none => .isTrue fun pass found => by rw [listed] at found; cases found
    | some pass =>
      decidable_of_iff
        ((pass.phase = .measuring → gate.db.retainedTaskEnvelopeBytes + pass.entry.bytes ≤ u64Max) ∧
          (pass.phase = .sending → gate.db.tasks.find pass.entry.record.id = none →
            gate.holder = none ∧ HasRoom limits gate.db ∧ HasBytes limits pass.entry.bytes gate.db))
        (by simp only [Gate.Admits, listed, Option.some.injEq, forall_eq'])

theorem Guarded.insert (guarded : Guarded limits gate) (listed : gate.passes[index]? = some pass) {phase : Phase}
    (gives : phase.holds = false)
    (admitted : gate.db.tasks.find pass.entry.record.id = none → (gate.holder = some index ∨ gate.holder = none) ∧
      HasRoom limits gate.db ∧ HasBytes limits pass.entry.bytes gate.db) :
    Guarded limits { gate.move index pass phase with db := (commit pass.entry.accept gate.db).2 } := by
  have moved : Guarded limits (gate.move index pass phase) :=
    guarded.move (Pass.safe_of_free gives)
  have grows := pass.entry.accept_grows gate.db
  by_cases fresh : gate.db.tasks.find pass.entry.record.id = none
  · obtain ⟨holder, room, enough⟩ := admitted fresh
    apply moved.write (grows.bounded room enough)
    -- Nobody else has the lock.
    intro other found listedLater holds
    rcases move_passes listedLater with ⟨rfl, rfl⟩ | ⟨different, earlier⟩
    · rw [gives] at holds
      cases holds
    · have owner := (guarded.safe other found earlier).1 holds
      rcases holder with mine | free
      · exact absurd (Option.some.inj (owner.symm.trans mine)) different
      · rw [owner] at free
        cases free
  · obtain ⟨tasks, envelopes⟩ : (commit pass.entry.accept gate.db).2.tasks = gate.db.tasks ∧
        (commit pass.entry.accept gate.db).2.envelopes = gate.db.envelopes := by
      rcases grows with same | ⟨absent, _⟩
      · exact same
      · exact absurd absent fresh
    have bounded := guarded.bounded
    apply moved.write
    · constructor
      · unfold Db.countTasksByStatus
        rw [tasks]
        exact bounded.pending
      · unfold Db.retainedTaskEnvelopeBytes
        rw [envelopes]
        exact bounded.bytes
    · intro other found listedLater _
      exact (moved.safe other found listedLater).2.of_tables tasks envelopes

theorem Guarded.read {config : Config} (guarded : Guarded config.limits gate) (listed : gate.passes[index]? = some pass)
    (fits : pass.phase = .measuring → gate.db.retainedTaskEnvelopeBytes + pass.entry.bytes ≤ u64Max) :
    Pass.Sound config.limits gate.db { pass with phase := pass.read config gate.db } := by
  have sound := (guarded.safe index pass listed).2
  obtain ⟨entry, phase⟩ := pass
  cases phase with
  | looking =>
    unfold Pass.read
    simp only
    split
    · rename_i stored
      exact stored
    · trivial
  | counting =>
    unfold Pass.read
    simp only
    split
    · rename_i counted
      have room := checkPendingTasks_isOk.mp counted
      cases entry with
      | sentHere record => exact ⟨room, guarded.bounded.bytes⟩
      | submitted record envelope => exact room
      | remote record envelope context lease => exact room
      | sentOn localPeerId targetPeerId record envelope => exact room
    · trivial
  | measuring =>
    unfold Pass.read
    simp only
    split
    · rename_i measured
      exact ⟨sound, (checkRetainedEnvelopeBytes_isOk (fits rfl)).mp measured⟩
    · trivial
  | intending =>
    refine (@Pass.safe_of_free _ gate index _ ?_).2
    unfold Pass.read
    cases entry with
    | sentOn localPeerId targetPeerId record envelope =>
      simp only
      split <;> rfl
    | _ => rfl
  | _ => exact sound

theorem Pass.read_holds {config : Config} (holds : (pass.read config db).holds = true) : pass.phase.holds = true := by
  obtain ⟨entry, phase⟩ := pass
  cases phase with
  | intending =>
    unfold Pass.read at holds
    cases entry with
    | sentOn localPeerId targetPeerId record envelope =>
      simp only at holds
      split at holds <;> cases holds
    | _ => cases holds
  | looking => rfl
  | counting => rfl
  | measuring => rfl
  | _ => exact holds

theorem advance_guarded {config : Config} (guarded : Guarded config.limits gate)
    (listed : gate.passes[index]? = some pass) (admits : gate.Admits config.limits (.advance index)) :
    Guarded config.limits (gate.advance config index pass) := by
  obtain ⟨fits, free⟩ := admits pass listed
  obtain ⟨holder, sound⟩ := guarded.safe index pass listed
  have reads : Guarded config.limits (gate.move index pass (pass.read config gate.db)) :=
    guarded.move ⟨fun holds => holder (Pass.read_holds holds), guarded.read listed fits⟩
  unfold Gate.advance
  unfold Pass.Sound at sound
  cases reached : pass.phase with
  | waiting =>
    simp only
    split
    · rename_i unlocked
      refine ⟨guarded.bounded, fun other found later => ?_⟩
      rcases move_passes later with ⟨rfl, rfl⟩ | ⟨_, earlier⟩
      · refine ⟨fun _ => rfl, ?_⟩
        cases entered : pass.entry <;> trivial
      · obtain ⟨exclusive, sound⟩ := guarded.safe other found earlier
        refine ⟨fun holds => ?_, sound⟩
        have owner := exclusive holds
        rw [unlocked] at owner
        cases owner
    · exact guarded
  | looking => exact reads
  | counting => exact reads
  | measuring => exact reads
  | intending => exact reads
  | admitted =>
    rw [reached] at sound holder
    exact guarded.insert listed (Entry.afterInsert_holds _ _) (fun _ => ⟨.inl (holder rfl), sound⟩)
  | replaying =>
    rw [reached] at sound
    refine guarded.insert listed (Entry.afterInsert_holds _ _) (fun absent => ?_)
    rw [absent] at sound
    cases sound
  | sending =>
    refine guarded.insert listed (Entry.afterInsert_holds _ _) (fun absent => ?_)
    obtain ⟨unlocked, room⟩ := free reached absent
    exact ⟨.inr unlocked, room⟩
  | leasing =>
    have moved : Guarded config.limits (gate.move index pass .done) := guarded.move ⟨nofun, trivial⟩
    cases leased : pass.entry.lease with
    | none => exact moved
    | some lease =>
      have relieves := leaseTaskForPeer_relieves pass.entry.record.id lease config.localPeerId gate.db
      apply moved.write (guarded.bounded.relieved relieves)
      intro other found later _
      exact (moved.safe other found later).2.relieved relieves
  | done => exact guarded

theorem Guarded.arrive (guarded : Guarded limits gate) (entry : Entry) :
    Guarded limits { gate with passes := gate.passes ++ [{ entry, phase := entry.start }] } := by
  have starts : entry.start.holds = false := by cases entry <;> rfl
  refine ⟨guarded.bounded, fun index pass listed => ?_⟩
  rw [List.getElem?_append] at listed
  split at listed
  · exact guarded.safe index pass listed
  · rw [List.mem_singleton.mp (List.mem_of_getElem? listed)]
    exact Pass.safe_of_free starts

theorem step_guarded (runtime : RoutingRuntime) (allowlist : String → Bool) (gate : Gate) (op : GateOp)
    (guarded : Guarded runtime.config.limits gate) (admits : gate.Admits runtime.config.limits op) :
    Guarded runtime.config.limits (gate.step runtime allowlist op) := by
  cases op with
  | arrive arrival =>
    unfold Gate.step
    simp only
    split
    · exact guarded
    · exact guarded.arrive _
  | advance index =>
    unfold Gate.step
    simp only
    split
    · exact guarded
    · rename_i pass listed
      exact advance_guarded guarded listed admits

theorem Guarded.empty (limits : LimitsConfig) : Guarded limits Gate.empty where
  bounded := ⟨fun _ => Nat.zero_le limits.maxPendingTasks, fun _ => Nat.zero_le limits.maxRetainedEnvelopeBytes⟩
  safe := by
    intro index pass listed
    rw [Gate.empty, List.getElem?_nil] at listed
    cases listed

end

/-- The store stays within its limits if no task that is sent to another peer is stored without the room and the lock
that the other requests need. -/
theorem limits_hold_if_sent_tasks_have_room (runtime : RoutingRuntime) (allowlist : String → Bool) (ops : List GateOp)
    (admitted : Along (Gate.step runtime allowlist) (Gate.Admits runtime.config.limits) .empty ops) :
    Throughout (Gate.step runtime allowlist) (fun gate => Bounded runtime.config.limits gate.db) .empty ops := by
  intro passed earlier
  have guarded := Run.throughout_of_along (step_guarded runtime allowlist) (Guarded.empty runtime.config.limits) admitted
  exact (guarded passed earlier).bounded

def tightNode : RoutingRuntime where
  toRuntime := { sampleRuntime with
    config := { sampleRuntime.config with limits := { LimitsConfig.default with maxPendingTasks := 1 } } }
  router := relayNode.router
  sameLocalPeer := rfl

def secondEnvelope : TaskEnvelope := { sampleEnvelope with taskId := some ⟨"task-2"⟩, idempotencyKey := some ⟨"key-2"⟩ }

def secondSentTask : SendTaskRequest := { sentTask "origin" with envelope := some secondEnvelope }

def twoSubmissions : List GateOp :=
  [.arrive (.submitTask none 1 localTask), .arrive (.submitTask none 2 ⟨some secondEnvelope⟩),
    .advance 0, .advance 1, .advance 0, .advance 0, .advance 0, .advance 1, .advance 1]

def twoSentTasks : List GateOp :=
  [.arrive (.sendTask none .unchanged 1 (sentTask "origin")), .advance 0, .advance 0,
    .arrive (.sendTask none .unchanged 2 secondSentTask), .advance 1, .advance 1]

theorem submissions_stay_within_limit :
    Along (Gate.step tightNode (fun _ => false)) (Gate.Admits tightNode.config.limits) .empty twoSubmissions ∧
      Throughout (Gate.step tightNode (fun _ => false)) (fun gate => Bounded tightNode.config.limits gate.db) .empty
        twoSubmissions := by
  have admitted : Along (Gate.step tightNode (fun _ => false)) (Gate.Admits tightNode.config.limits) .empty
      twoSubmissions := by decide
  exact ⟨admitted, limits_hold_if_sent_tasks_have_room tightNode (fun _ => false) twoSubmissions admitted⟩

theorem sent_tasks_exceed_limit :
    ¬ ∀ (runtime : RoutingRuntime) (allowlist : String → Bool) (ops : List GateOp),
      Throughout (Gate.step runtime allowlist) (fun gate => Bounded runtime.config.limits gate.db) .empty ops := by
  intro every
  have bounded := every tightNode (fun _ => false) twoSentTasks twoSentTasks (List.prefix_refl _)
  have two : (run (Gate.step tightNode (fun _ => false)) .empty twoSentTasks).db.countTasksByStatus .pending = 2 := by
    decide
  have limited := bounded.pending (by decide)
  rw [two] at limited
  exact absurd limited (by decide)

end Keryx.Daemon
