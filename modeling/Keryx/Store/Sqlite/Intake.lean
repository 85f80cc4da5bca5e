import Keryx.Store.Sqlite.Effects

/-! What the acceptance of a task stores besides the task: its envelope, its transport context and its idempotency
key. -/

namespace Keryx.Store.Sqlite
open Keryx.Core Relational Relational.Transaction
open Lifecycle (acceptances AcceptedOnce)

/-- The tables that only an acceptance, or a report about the transport, writes. -/
def Db.intake (db : Db) := (db.envelopes, db.transportContexts, db.idempotencyKeys)

variable {taskId : TaskId}

/-- The same executor and destination and, where any executor may run the task, the same sender. -/
def SameRoute (stored later : TaskTransportContextRecord) : Prop :=
  later.expectedExecutorPeerId = stored.expectedExecutorPeerId ∧ later.destinationPeerId = stored.destinationPeerId ∧
    (stored.expectedExecutorPeerId = none → later.authenticatedSenderPeerId = stored.authenticatedSenderPeerId)

/-- For the tasks it holds, the database keeps envelopes, routes and keys. -/
structure Db.Retains (before after : Db) : Prop where
  envelope : ∀ taskId, (before.tasks.find taskId).isSome → after.envelopes.find taskId = before.envelopes.find taskId
  context : ∀ taskId stored, (before.tasks.find taskId).isSome → before.transportContexts.find taskId = some stored →
    ∃ later, after.transportContexts.find taskId = some later ∧ SameRoute stored later
  key : ∀ key row, before.idempotencyKeys.find key = some row → after.idempotencyKeys.find key = some row
  owned : ∀ taskId, (after.transportContexts.find taskId).isSome →
    (before.transportContexts.find taskId).isSome ∨ (after.tasks.find taskId).isSome

variable {db after : Db}

theorem SameRoute.refl (stored : TaskTransportContextRecord) : SameRoute stored stored := ⟨rfl, rfl, fun _ => rfl⟩

theorem Db.Retains.of_intake (same : after.intake = db.intake) : db.Retains after := by
  simp only [Db.intake, Prod.mk.injEq] at same
  obtain ⟨envelopes, contexts, keys⟩ := same
  refine ⟨fun taskId _ => by rw [envelopes], fun taskId stored _ found => ?_, fun key row found => by rw [keys, found],
    fun taskId known => .inl (contexts ▸ known)⟩
  exact ⟨stored, by rw [contexts, found], .refl stored⟩

theorem Db.Retains.refl (db : Db) : db.Retains db := .of_intake rfl

theorem tasks_insertAccepted {task : TaskRecord} : (db.insertAccepted task).tasks.find task.id = some task := by
  unfold Db.insertAccepted Db.insertIdempotencyKey
  split <;> exact Table.find_put_self _ _

theorem transportContexts_insertAccepted (db : Db) (task : TaskRecord) :
    (db.insertAccepted task).transportContexts = db.transportContexts := by
  cases owned : task.idempotencyKey <;> simp [Db.insertAccepted, Db.insertIdempotencyKey, owned, Db.appendEvent,
    Db.insertTask]

theorem retains_insertAccepted {task : TaskRecord} (unowned : db.idempotencyRow task = none) :
    db.Retains (db.insertAccepted task) := by
  have contexts := transportContexts_insertAccepted db task
  refine ⟨fun taskId _ => ?_, fun taskId stored _ found => ⟨stored, by rw [contexts, found], .refl stored⟩,
    fun key row found => ?_, fun taskId known => .inl (contexts ▸ known)⟩
  · cases owned : task.idempotencyKey <;> simp [Db.insertAccepted, Db.insertIdempotencyKey, owned, Db.appendEvent,
      Db.insertTask]
  · cases owned : task.idempotencyKey with
    | none => simpa [Db.insertAccepted, Db.insertIdempotencyKey, owned, Db.appendEvent, Db.insertTask] using found
    | some own =>
      have different : key ≠ own := by
        rintro rfl
        simp [Db.idempotencyRow, owned, found] at unowned
      simp only [Db.insertAccepted, Db.insertIdempotencyKey, owned, Db.appendEvent, Db.insertTask]
      rw [Table.find_put_ne _ _ different, found]

theorem Db.Retains.insertEnvelope {envelope : TaskEnvelopeRecord} (retains : db.Retains after)
    (fresh : db.tasks.find envelope.taskId = none) : db.Retains (after.insertEnvelope envelope) := by
  refine ⟨fun taskId present => ?_, retains.context, retains.key, retains.owned⟩
  have different : taskId ≠ envelope.taskId := by
    rintro rfl
    rw [fresh] at present
    cases present
  rw [Db.insertEnvelope, Table.find_put_ne _ _ different]
  exact retains.envelope taskId present

theorem Db.Retains.insertTransportContext {context : TaskTransportContextRecord} (retains : db.Retains after)
    (fresh : db.tasks.find context.taskId = none) (stored : (after.tasks.find context.taskId).isSome) :
    db.Retains (after.insertTransportContext context) := by
  refine ⟨retains.envelope, fun taskId route present found => ?_, retains.key, fun taskId known => ?_⟩
  · have different : taskId ≠ context.taskId := by
      rintro rfl
      rw [fresh] at present
      cases present
    rw [Db.insertTransportContext, Table.find_put_ne _ _ different]
    exact retains.context taskId route present found
  · by_cases own : taskId = context.taskId
    · exact .inr (own ▸ stored)
    · rw [Db.insertTransportContext, Table.find_put_ne _ _ own] at known
      exact retains.owned taskId known

theorem Db.Accepts.retains {task : TaskRecord} {held : Prop} {again add : Db → Db} {result : TaskRecord × Db}
    (accepts : db.Accepts task held again add result) (repeated : db.Retains (again db))
    (added : db.tasks.find task.id = none → db.Retains (db.insertAccepted task) →
      db.Retains (add (db.insertAccepted task))) : db.Retains result.2 := by
  cases accepts with
  | known present same => exact repeated
  | stored fresh unowned first => exact added fresh (retains_insertAccepted unowned)

theorem retains_updateRelayFrame (context : TaskTransportContextRecord) (db : Db) :
    db.Retains (db.updateRelayFrame context) := by
  refine ⟨fun _ _ => rfl, fun taskId stored _ found => ?_, fun _ _ kept => kept, fun taskId known => ?_⟩
  · simp only [Db.updateRelayFrame, Table.find_update, found, Option.map_some]
    split
    · refine ⟨_, rfl, ?_⟩
      split
      · exact ⟨rfl, rfl, fun _ => rfl⟩
      · exact .refl stored
    · exact ⟨stored, rfl, .refl stored⟩
  · simp only [Db.updateRelayFrame, Table.find_update] at known
    split at known
    · exact .inl (by simpa using known)
    · exact .inl known

theorem retains_putTransportContext (context : TaskTransportContextRecord) (db : Db) :
    Ensures (fun _ after => db.Retains after) (putTransportContext context) db := by
  simp only [putTransportContext, ensures_fetchTask_bind, ensures_query_bind]
  intro task present
  split
  · simp [Db.Retains.refl]
  · rename_i absent
    simp only [ensures_execute_bind, ensures_pure]
    refine ⟨fun _ _ => rfl, fun taskId stored _ found => ?_, fun _ _ kept => kept, fun taskId known => ?_⟩
    · have different : taskId ≠ context.taskId := by
        rintro rfl
        rw [absent] at found
        cases found
      exact ⟨stored, (Table.find_put_ne _ _ different).trans found, .refl stored⟩
    · by_cases own : taskId = context.taskId
      · exact .inr (own ▸ Option.isSome_iff_exists.mpr ⟨task, present⟩)
      · rw [Db.insertTransportContext, Table.find_put_ne _ _ own] at known
        exact .inl known

theorem retains_recordRelayReceipt (source destination : PeerId) (frameId : String) (acceptedAtMs : Int) (db : Db) :
    Ensures (fun _ after => db.Retains after) (recordRelayReceipt taskId source destination frameId acceptedAtMs) db := by
  simp only [recordRelayReceipt, ensures_ensure_bind, ensures_query_bind, ensures_require_bind, ensures_check_bind]
  intro _ context present accepted same _
  simp only [ensures_ite, ensures_pure, ensures_execute_bind]
  refine ⟨fun _ => .refl db, fun _ => ⟨fun _ _ => rfl, fun taskId stored _ found => ?_, fun _ _ kept => kept,
    fun taskId known => .inl ?_⟩⟩
  · have owner : context.taskId = _ := Table.find_key present
    by_cases own : taskId = context.taskId
    · subst own
      rw [owner, present] at found
      cases found
      refine ⟨_, Table.find_put_self _ _, rfl, rfl, fun unbound => ?_⟩
      rw [accepted.1] at unbound
      cases unbound
    · refine ⟨stored, ?_, .refl stored⟩
      rw [Db.insertTransportContext, Table.find_put_ne]
      · exact found
      · exact own
  · have owner : context.taskId = _ := Table.find_key present
    by_cases own : taskId = context.taskId
    · rw [own, owner, present]
      rfl
    · rw [Db.insertTransportContext, Table.find_put_ne] at known
      · exact known
      · exact own

theorem retains_commit {α : Type} {transaction : Tx α}
    (retains : Ensures (fun _ after => db.Retains after) transaction db) : db.Retains (commit transaction db).2 :=
  ensures_commit retains (.refl db)

/-- Tasks, and what their acceptance stored, outlast every run. -/
def Db.Persists (before after : Db) : Prop :=
  (∀ taskId, (before.tasks.find taskId).isSome → (after.tasks.find taskId).isSome) ∧ before.Retains after

theorem Db.Persists.trans {first second third : Db} (earlier : first.Persists second) (later : second.Persists third) :
    first.Persists third := by
  obtain ⟨recorded, retained⟩ := earlier
  obtain ⟨stillRecorded, stillRetained⟩ := later
  refine ⟨fun taskId present => stillRecorded taskId (recorded taskId present), ?_, ?_, ?_, ?_⟩
  · intro taskId present
    rw [stillRetained.envelope taskId (recorded taskId present), retained.envelope taskId present]
  · intro taskId stored present found
    obtain ⟨middle, kept, executor, destination, sender⟩ := retained.context taskId stored present found
    obtain ⟨last, stillKept, executorToo, destinationToo, senderToo⟩ :=
      stillRetained.context taskId middle (recorded taskId present) kept
    refine ⟨last, stillKept, executorToo.trans executor, destinationToo.trans destination, fun unbound => ?_⟩
    exact (senderToo (executor.trans unbound)).trans (sender unbound)
  · intro key row found
    exact stillRetained.key key row (retained.key key row found)
  · intro taskId known
    rcases stillRetained.owned taskId known with earlier | stored
    · exact (retained.owned taskId earlier).imp_right (stillRecorded taskId)
    · exact .inr stored

section
variable [Sha256]

theorem step_retains (db : Db) (op : Op) : db.Retains (step db op) := by
  cases step_effect db op with
  | tasks same =>
    have kept := congrArg Db.intake same
    exact .of_intake kept
  | intake accepts _ =>
    cases op with
    | acceptTask task =>
      exact retains_commit fun _ _ success => (acceptTask_ok success).2.retains (.refl db) fun _ kept => kept
    | acceptTaskWithEnvelope task envelope =>
      refine retains_commit fun _ _ success => ?_
      obtain ⟨_, owner, accepts⟩ := acceptTaskWithEnvelope_ok.mp success
      exact accepts.retains (.refl db) fun fresh kept => kept.insertEnvelope (owner ▸ fresh)
    | acceptTaskWithEnvelopeAndContext task envelope context =>
      refine retains_commit fun _ _ success => ?_
      obtain ⟨_, ownsEnvelope, ownsContext, accepts⟩ := acceptTaskWithEnvelopeAndContext_ok.mp success
      refine accepts.retains (retains_updateRelayFrame context db) fun fresh kept => ?_
      have recorded : ((db.insertAccepted task).tasks.find context.taskId).isSome := by
        rw [ownsContext, tasks_insertAccepted]
        rfl
      exact (kept.insertEnvelope (ownsEnvelope ▸ fresh)).insertTransportContext (ownsContext ▸ fresh) recorded
    | _ => cases accepts
  | contexts routes _ =>
    cases op with
    | putTransportContext context => exact retains_commit (retains_putTransportContext context db)
    | recordRelayReceipt taskId source destination frameId acceptedAtMs =>
      exact retains_commit (retains_recordRelayReceipt source destination frameId acceptedAtMs db)
    | _ => cases routes
  | result result _ settles =>
    have kept := congrArg Db.intake settles.beyondResults
    exact .of_intake kept
  | outbox _ same =>
    have kept := congrArg Db.intake same
    exact .of_intake kept
  | artifacts _ same =>
    have kept := congrArg Db.intake same
    exact .of_intake kept
  | ingest result artifacts executor asks _ =>
    subst asks
    rcases ingest_beyond result artifacts executor db with same | ⟨_, same⟩
    · have kept := congrArg Db.intake same
      exact .of_intake kept
    · have kept := congrArg Db.intake same
      exact .of_intake kept

theorem step_recorded (db : Db) (op : Op) (taskId : TaskId) (present : (db.tasks.find taskId).isSome) :
    ((step db op).tasks.find taskId).isSome := by
  apply (step_refines db op taskId).invariant (fun cell => cell.record.isSome) _ present
  exact fun _ _ _ _ step => step.recorded

theorem run_persists (db : Db) (ops : List Op) : db.Persists (Run.run step db ops) :=
  Run.related Db.Persists (fun db => ⟨fun _ present => present, .refl db⟩) (fun _ _ _ => Db.Persists.trans)
    (fun db op => ⟨step_recorded db op, step_retains db op⟩) db ops

theorem run_accepted_once (ops : List Op) (taskId : TaskId)
    (present : ((Run.run step Db.empty ops).tasks.find taskId).isSome) :
    acceptances ((Run.run step Db.empty ops).eventsForTask taskId) = 1 := by
  have once : AcceptedOnce ((Run.run step Db.empty ops).cell taskId) :=
    run_cell AcceptedOnce (fun known => by cases known) (fun _ step => step.acceptedOnce) ops
  rw [Db.eventsForTask, Journal.ordered_eq]
  exact once present

theorem run_contexts_owned (ops : List Op) (taskId : TaskId)
    (known : ((Run.run step Db.empty ops).transportContexts.find taskId).isSome) :
    ((Run.run step Db.empty ops).tasks.find taskId).isSome := by
  rcases (run_persists Db.empty ops).2.owned taskId known with absent | stored
  · cases absent
  · exact stored

end

end Keryx.Store.Sqlite
