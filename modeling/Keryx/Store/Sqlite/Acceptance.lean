import Keryx.Store.Sqlite.Intake

/-! What an acceptance stores, and when it is granted again. -/

namespace Keryx.Store.Sqlite
open Keryx.Core Relational Relational.Transaction

variable {db after : Db} {task : TaskRecord} {envelope : TaskEnvelopeRecord} {context : TaskTransportContextRecord}
  {key : IdempotencyKey}

/-- The database holds the task with this very envelope, and the key of the task names it. -/
structure Db.Holds (task : TaskRecord) (envelope : TaskEnvelopeRecord) (db : Db) : Prop where
  recorded : db.tasks.find task.id = some task
  enveloped : db.envelopes.find task.id = some envelope
  keyed : ∀ key, task.idempotencyKey = some key → db.idempotencyKeys.find key = some { key, taskId := task.id }

theorem acceptTaskWithEnvelope_stores (task : TaskRecord) (envelope : TaskEnvelopeRecord) (db : Db) :
    Ensures (fun accepted after => accepted = task ∧ after.Holds task envelope)
      (acceptTaskWithEnvelope task envelope) db := by
  intro accepted after success
  obtain ⟨_, owner, accepts⟩ := acceptTaskWithEnvelope_ok.mp success
  cases accepts with
  | known present same =>
    obtain ⟨⟨row, owned, named⟩, enveloped⟩ := same
    refine ⟨rfl, present, enveloped, fun key keyed => ?_⟩
    rw [Db.idempotencyRow, keyed, Option.bind_some] at owned
    have name : row.key = key := Table.find_key owned
    show db.idempotencyKeys.find key = _
    rw [owned, ← name, ← named]
  | stored fresh unowned first =>
    refine ⟨rfl, tasks_insertAccepted, ?_, fun key keyed => ?_⟩
    · rw [owner]
      exact Table.find_put_self _ _
    · simp only [Db.insertEnvelope, Db.insertAccepted, Db.insertIdempotencyKey, keyed, Db.appendEvent]
      exact Table.find_put_self _ _

theorem preserves_acceptTaskWithEnvelope (task : TaskRecord) (envelope : TaskEnvelopeRecord) :
    Preserves Db.transportContexts (acceptTaskWithEnvelope task envelope) := by
  intro db accepted after success
  cases (acceptTaskWithEnvelope_ok.mp success).2.2 with
  | known present same => rfl
  | stored fresh unowned first => exact transportContexts_insertAccepted db task

theorem acceptTaskWithEnvelope_again (pending : task.status = .pending) (owner : task.id = envelope.taskId)
    (keyed : task.idempotencyKey = some key)
    (known : db.idempotencyKeys.find key = some { key, taskId := task.id }) {result : TaskRecord × Db} :
    acceptTaskWithEnvelope task envelope db = .ok result ↔
      db.tasks.find task.id = some task ∧ db.envelopes.find task.id = some envelope ∧ result = (task, db) := by
  have owned : db.idempotencyRow task = some { key, taskId := task.id } := by
    rw [Db.idempotencyRow, keyed, Option.bind_some, known]
  rw [acceptTaskWithEnvelope_ok]
  constructor
  · rintro ⟨_, _, accepts⟩
    cases accepts with
    | known present same => exact ⟨present, same.2, rfl⟩
    | stored fresh unowned first => cases owned.symm.trans unowned
  · rintro ⟨present, enveloped, rfl⟩
    exact ⟨pending, owner, .known present ⟨⟨_, owned, rfl⟩, enveloped⟩⟩

/-- The database holds the bytes of this envelope, and the route of this context, for the task. -/
def Db.Delivered (taskId : TaskId) (envelope : TaskEnvelopeRecord) (context : TaskTransportContextRecord) (db : Db) :
    Prop :=
  (db.envelopes.find taskId).any (fun stored => sameDeliveredEnvelope stored envelope) ∧
    (db.transportContexts.find taskId).any (fun stored => sameTransportIdentity stored context)

theorem delivered_updateRelayFrame {taskId : TaskId} (delivered : db.Delivered taskId envelope context) :
    (db.updateRelayFrame context).Delivered taskId envelope context := by
  obtain ⟨enveloped, routed⟩ := delivered
  refine ⟨enveloped, ?_⟩
  obtain ⟨stored, found, same⟩ := (Option.any_eq_true _ _).mp routed
  simp only [Db.updateRelayFrame, Table.find_update, found, Option.map_some]
  split
  · rw [Option.any_some]
    split
    · exact same
    · exact same
  · exact same

theorem acceptTaskWithEnvelopeAndContext_stores (task : TaskRecord) (envelope : TaskEnvelopeRecord)
    (context : TaskTransportContextRecord) (db : Db) :
    Ensures (fun accepted after => accepted = task ∧ after.tasks.find task.id = some task ∧
        after.Delivered task.id envelope context)
      (acceptTaskWithEnvelopeAndContext task envelope context) db := by
  intro accepted after success
  obtain ⟨_, ownsEnvelope, ownsContext, accepts⟩ := acceptTaskWithEnvelopeAndContext_ok.mp success
  cases accepts with
  | known present delivered => exact ⟨rfl, present, delivered_updateRelayFrame delivered⟩
  | stored fresh unowned first =>
    refine ⟨rfl, tasks_insertAccepted, ?_, ?_⟩
    · rw [ownsEnvelope]
      simp [Db.insertTransportContext, Db.insertEnvelope, sameDeliveredEnvelope]
    · rw [← ownsContext]
      simp [Db.insertTransportContext, sameTransportIdentity]

theorem acceptTaskWithEnvelopeAndContext_again {existing : TaskRecord} (pending : task.status = .pending)
    (ownsEnvelope : task.id = envelope.taskId) (ownsContext : context.taskId = task.id)
    (present : db.tasks.find task.id = some existing) {result : TaskRecord × Db} :
    acceptTaskWithEnvelopeAndContext task envelope context db = .ok result ↔
      existing = task ∧ db.Delivered task.id envelope context ∧ result = (task, db.updateRelayFrame context) := by
  rw [acceptTaskWithEnvelopeAndContext_ok]
  constructor
  · rintro ⟨_, _, _, accepts⟩
    cases accepts with
    | known found delivered => exact ⟨Option.some.inj (present.symm.trans found), delivered, rfl⟩
    | stored fresh unowned first => cases present.symm.trans fresh
  · rintro ⟨rfl, delivered, rfl⟩
    exact ⟨pending, ownsEnvelope, ownsContext, .known present delivered⟩

theorem Db.Persists.delivered {taskId : TaskId} (persists : db.Persists after)
    (present : (db.tasks.find taskId).isSome) (unbound : context.expectedExecutorPeerId = none)
    (delivered : db.Delivered taskId envelope context) : after.Delivered taskId envelope context := by
  obtain ⟨enveloped, routed⟩ := delivered
  obtain ⟨stored, found, same⟩ := (Option.any_eq_true _ _).mp routed
  obtain ⟨later, kept, executor, destination, sender⟩ := persists.2.context taskId stored present found
  refine ⟨?_, ?_⟩
  · rw [persists.2.envelope taskId present]
    exact enveloped
  · have owner : stored.taskId = taskId := Table.find_key found
    have laterOwner : later.taskId = taskId := Table.find_key kept
    simp only [sameTransportIdentity, Bool.and_eq_true, decide_eq_true_eq] at same
    obtain ⟨⟨⟨names, sends⟩, expects⟩, arrives⟩ := same
    simp [kept, sameTransportIdentity, laterOwner, ← names, owner, executor, destination, expects, ← sends, arrives,
      sender (expects.trans unbound)]

end Keryx.Store.Sqlite
