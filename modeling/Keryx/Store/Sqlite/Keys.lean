import Keryx.Store.Sqlite.Intake

/-! The table of idempotency keys. It repeats what the task records say, row by row. -/

namespace Keryx.Store.Sqlite
open Keryx.Core Relational Relational.Transaction Lifecycle

def Db.KeysExact (db : Db) : Prop :=
  ∀ key taskId, db.idempotencyKeys.find key = some { key, taskId } ↔
    ∃ task, db.tasks.find taskId = some task ∧ task.idempotencyKey = some key

variable {db after : Db} {taskId : TaskId} {op : Op} {task : TaskRecord}

def Db.keyOf (db : Db) (taskId : TaskId) : Option IdempotencyKey := (db.tasks.find taskId).bind (·.idempotencyKey)

theorem keysExact_iff :
    db.KeysExact ↔ ∀ key taskId, db.idempotencyKeys.find key = some { key, taskId } ↔ db.keyOf taskId = some key := by
  simp only [Db.KeysExact, Db.keyOf, Option.bind_eq_some_iff]

theorem changes_idempotencyKey {change : Change} {changed : TaskRecord} {eventType : KeryxEventType}
    (applies : Changes change task changed eventType) : changed.idempotencyKey = task.idempotencyKey := by
  cases applies <;> rfl

theorem cellStep_idempotencyKey {action : Action} {before later : Cell} (step : Lifecycle.Step taskId action before later)
    (accepts : ∀ accepted, action ≠ .accept accepted) :
    later.record.bind (·.idempotencyKey) = before.record.bind (·.idempotencyKey) := by
  cases step with
  | accept => exact absurd rfl (accepts _)
  | lease present pending free =>
    rw [present]
    rfl
  | renew present running held => rfl
  | evict => rfl
  | advance present applies =>
    rw [present]
    exact changes_idempotencyKey applies
  | settle present applies unsettled unfinished ends =>
    rw [present]
    exact changes_idempotencyKey applies

theorem permits_not_accept {action : Action} (accepts : op.accepts = false) (permitted : op.permits taskId action)
    (accepted : TaskRecord) : action ≠ .accept accepted := by
  intro same
  subst same
  cases op with
  | acceptTask task => cases accepts
  | acceptTaskWithEnvelope task envelope => cases accepts
  | acceptTaskWithEnvelopeAndContext task envelope context => cases accepts
  | _ => simp [Op.permits] at permitted

section
variable [Sha256]

theorem step_keyOf (accepts : op.accepts = false) (taskId : TaskId) : (step db op).keyOf taskId = db.keyOf taskId := by
  apply (step_refines db op taskId).invariant (fun cell => cell.record.bind (·.idempotencyKey) = db.keyOf taskId) _ rfl
  intro action before later permitted step same
  rw [cellStep_idempotencyKey step (permits_not_accept accepts permitted)]
  exact same

theorem step_idempotencyKeys (accepts : op.accepts = false) : (step db op).idempotencyKeys = db.idempotencyKeys := by
  cases step_effect db op with
  | tasks same =>
    have kept := congrArg Db.idempotencyKeys same
    exact kept
  | intake accepting _ =>
    rw [accepting] at accepts
    cases accepts
  | contexts _ same =>
    have kept := congrArg Db.idempotencyKeys same
    exact kept
  | result result _ settles =>
    have kept := congrArg Db.idempotencyKeys settles.beyondResults
    exact kept
  | outbox _ same =>
    have kept := congrArg Db.idempotencyKeys same
    exact kept
  | artifacts _ same =>
    have kept := congrArg Db.idempotencyKeys same
    exact kept
  | ingest result artifacts executor asks _ =>
    subst asks
    rcases ingest_beyond result artifacts executor db with same | ⟨_, same⟩
    · have kept := congrArg Db.idempotencyKeys same
      exact kept
    · have kept := congrArg Db.idempotencyKeys same
      exact kept

end

/-- An acceptance adds a new task and its unused key. -/
structure Db.TakesIn (db : Db) (task : TaskRecord) (after : Db) : Prop where
  fresh : db.tasks.find task.id = none
  unowned : db.idempotencyRow task = none
  tasks : after.tasks = (db.insertAccepted task).tasks
  keys : after.idempotencyKeys = (db.insertAccepted task).idempotencyKeys

theorem keyOf_insertAccepted (task : TaskRecord) (db : Db) (taskId : TaskId) :
    (db.insertAccepted task).keyOf taskId = if taskId = task.id then task.idempotencyKey else db.keyOf taskId := by
  have found : (db.insertAccepted task).tasks.find taskId = if taskId = task.id then some task else db.tasks.find taskId := by
    unfold Db.insertAccepted Db.insertIdempotencyKey
    split <;> exact Table.find_put _ _ _
  unfold Db.keyOf
  rw [found]
  split <;> rfl

theorem find_insertAccepted (task : TaskRecord) (db : Db) (key : IdempotencyKey) :
    (db.insertAccepted task).idempotencyKeys.find key =
      if task.idempotencyKey = some key then some { key, taskId := task.id } else db.idempotencyKeys.find key := by
  cases given : task.idempotencyKey with
  | none => simp [Db.insertAccepted, Db.insertIdempotencyKey, given, Db.appendEvent, Db.insertTask]
  | some own =>
    have found := Table.find_put db.idempotencyKeys ⟨own, task.id⟩ key
    simp only [Db.insertAccepted, Db.insertIdempotencyKey, given, Db.appendEvent, Db.insertTask, found]
    by_cases same : key = own
    · subst same
      simp
    · have other : own ≠ key := fun again => same again.symm
      simp [same, other]

theorem keysExact_takesIn (agree : db.KeysExact) (takes : db.TakesIn task after) : after.KeysExact := by
  rw [keysExact_iff] at agree ⊢
  intro key owner
  have keys : after.idempotencyKeys.find key = (db.insertAccepted task).idempotencyKeys.find key := by rw [takes.keys]
  have tasks : after.keyOf owner = (db.insertAccepted task).keyOf owner := by
    unfold Db.keyOf
    rw [takes.tasks]
  rw [keys, tasks, find_insertAccepted, keyOf_insertAccepted]
  by_cases own : owner = task.id
  · subst own
    by_cases carried : task.idempotencyKey = some key
    · simp [carried]
    · -- A task that is not stored has no key, so its row cannot be there.
      have absent : db.keyOf task.id ≠ some key := by
        unfold Db.keyOf
        rw [takes.fresh]
        intro known
        cases known
      rw [if_neg carried, if_pos rfl, agree]
      exact ⟨fun known => absurd known absent, fun known => absurd known carried⟩
  · rw [if_neg own]
    by_cases carried : task.idempotencyKey = some key
    · have unknown : db.idempotencyKeys.find key = none := by
        have unowned := takes.unowned
        rw [Db.idempotencyRow, carried] at unowned
        exact unowned
      rw [if_pos carried, ← agree, unknown]
      constructor
      · intro same
        exact absurd (congrArg IdempotencyRow.taskId (Option.some.inj same)).symm own
      · intro known
        cases known
    · rw [if_neg carried]
      exact agree key owner

theorem keysExact_kept (agree : db.KeysExact) (records : ∀ taskId, after.keyOf taskId = db.keyOf taskId)
    (keys : after.idempotencyKeys = db.idempotencyKeys) : after.KeysExact := by
  rw [keysExact_iff] at agree ⊢
  intro key taskId
  rw [keys, records]
  exact agree key taskId

theorem Db.Accepts.keysExact {held : Prop} {again add : Db → Db} {result : TaskRecord × Db} (agree : db.KeysExact)
    (accepts : db.Accepts task held again add result)
    (repeated : (again db).tasks = db.tasks ∧ (again db).idempotencyKeys = db.idempotencyKeys)
    (added : ∀ stored, (add stored).tasks = stored.tasks ∧ (add stored).idempotencyKeys = stored.idempotencyKeys) :
    result.2.KeysExact := by
  cases accepts with
  | known present same =>
    apply keysExact_kept agree _ repeated.2
    intro taskId
    show (again db).keyOf taskId = _
    unfold Db.keyOf
    rw [repeated.1]
  | stored fresh unowned first => exact keysExact_takesIn agree ⟨fresh, unowned, (added _).1, (added _).2⟩

section
variable [Sha256]

theorem step_keysExact (agree : db.KeysExact) (op : Op) : (step db op).KeysExact := by
  cases accepts : op.accepts with
  | false => exact keysExact_kept agree (step_keyOf accepts) (step_idempotencyKeys accepts)
  | true =>
    cases op with
    | acceptTask task =>
      exact ensures_commit (fun _ _ success => (acceptTask_ok success).2.keysExact agree ⟨rfl, rfl⟩ fun _ => ⟨rfl, rfl⟩) agree
    | acceptTaskWithEnvelope task envelope =>
      refine ensures_commit (fun _ _ success => ?_) agree
      exact (acceptTaskWithEnvelope_ok.mp success).2.2.keysExact agree ⟨rfl, rfl⟩ fun _ => ⟨rfl, rfl⟩
    | acceptTaskWithEnvelopeAndContext task envelope context =>
      refine ensures_commit (fun _ _ success => ?_) agree
      exact (acceptTaskWithEnvelopeAndContext_ok.mp success).2.2.2.keysExact agree ⟨rfl, rfl⟩ fun _ => ⟨rfl, rfl⟩
    | _ => cases accepts

theorem run_keysExact (ops : List Op) : (Run.run step Db.empty ops).KeysExact := by
  have start : Db.empty.KeysExact := by
    intro key taskId
    constructor
    · intro known
      cases known
    · intro known
      obtain ⟨task, present, _⟩ := known
      cases present
  exact Run.always Db.KeysExact (fun _ op agree => step_keysExact agree op) start ops

def Op.acceptance : Op → Option (Tx TaskRecord)
  | .acceptTask task => some (Sqlite.acceptTask task)
  | .acceptTaskWithEnvelope task envelope => some (Sqlite.acceptTaskWithEnvelope task envelope)
  | .acceptTaskWithEnvelopeAndContext task envelope context =>
    some (Sqlite.acceptTaskWithEnvelopeAndContext task envelope context)
  | _ => none

theorem step_acceptance {transaction : Tx TaskRecord} (accepts : op.acceptance = some transaction) :
    step db op = (commit transaction db).2 := by
  cases op with
  | acceptTask task =>
    cases accepts
    rfl
  | acceptTaskWithEnvelope task envelope =>
    cases accepts
    rfl
  | acceptTaskWithEnvelopeAndContext task envelope context =>
    cases accepts
    rfl
  | _ => cases accepts

/-- A key leads to a task iff the record of the task carries it. So no key belongs to two tasks, and a rejected
acceptance leaves none. -/
theorem idempotency_keys_exact (ops : List Op) :
    (Run.run step Db.empty ops).KeysExact ∧
      (∀ key one other, (Run.run step Db.empty ops).keyOf one = some key →
        (Run.run step Db.empty ops).keyOf other = some key → one = other) ∧
      ∀ op transaction, op.acceptance = some transaction →
        (commit transaction (Run.run step Db.empty ops)).1.isOk = false →
        (step (Run.run step Db.empty ops) op).idempotencyKeys = (Run.run step Db.empty ops).idempotencyKeys := by
  have agree := run_keysExact ops
  refine ⟨agree, ?_, ?_⟩
  · intro key one other first second
    have known := (keysExact_iff.mp agree key one).mpr first
    rw [(keysExact_iff.mp agree key other).mpr second] at known
    exact (congrArg IdempotencyRow.taskId (Option.some.inj known)).symm
  · intro op transaction accepts rejected
    rw [step_acceptance accepts]
    rcases commit_cases transaction (Run.run step Db.empty ops) with ⟨failure, failed⟩ | ⟨value, after, _, committed⟩
    · rw [failed]
    · rw [committed] at rejected
      cases rejected

end

end Keryx.Store.Sqlite
