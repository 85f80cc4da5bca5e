import Keryx.Daemon.Submit
import Keryx.Store.Sqlite.Acceptance
import Keryx.Store.Sqlite.Runs

/-! Tasks that arrive a second time. -/

namespace Keryx.Daemon
open Keryx.Core Store Store.Sqlite Proto Relational Relational.Run Relational.Transaction

theorem protoId_inj {kind : IdKind} {left right : Identifier kind} (same : protoId left = protoId right) :
    left = right :=
  Identifier.eq_of_value (congrArg ProtoId.value same)

/-- The request is granted, and neither the log nor any task changes. -/
def RedeliverySafe (runtime : Runtime) (authorization : Option String) (nowMs : Int) (request : SubmitRemoteTaskRequest)
    (db : Db) : Prop :=
  ∃ response after, submitRemoteTask runtime authorization nowMs request db = (.ok response, after) ∧
    after.events = db.events ∧ after.tasks = db.tasks

theorem sameEnvelope_of_sameBytes {left right : Option TaskEnvelope}
    (same : left.map TaskEnvelope.encodeToVec = right.map TaskEnvelope.encodeToVec) : left = right :=
  Option.map_injective (fun _ _ => TaskEnvelope.encodeToVec_inj) same

variable {authorization : Option String} {request : SubmitRemoteTaskRequest} {runtime : Runtime} {nowMs : Int}

theorem submitRemoteTask_stores {before accepted : Db} {response : SubmitTaskResponse}
    (success : submitRemoteTask runtime authorization nowMs request before = (.ok response, accepted)) :
    ∃ record envelope context, remoteSubmission runtime.config nowMs request = .ok (record, envelope, context) ∧
      runtime.config.limits.checkEnvelopeBytes envelope.encodedEnvelope.length = .ok () ∧
      response = submitTaskResponse record ∧ accepted.tasks.find record.id = some record ∧
      accepted.Delivered record.id envelope context := by
  obtain ⟨_, record, envelope, context, stored, asked, taken, rfl⟩ := submitRemoteTask_ok.mp success
  obtain ⟨small, _, taken⟩ := acceptPendingRemoteTaskWithBackpressure_ok.mp taken
  obtain ⟨rfl, recorded, delivered⟩ := acceptTaskWithEnvelopeAndContext_stores _ _ _ _ _ _ taken
  exact ⟨stored, envelope, context, asked, small, rfl, recorded, delivered⟩

variable {envelope : TaskEnvelopeRecord} {context : TaskTransportContextRecord} {record : TaskRecord}

theorem remoteSubmission_again {config : Config} {firstMs laterMs : Int} {first second : SubmitRemoteTaskRequest}
    (asked : remoteSubmission config firstMs first = .ok (record, envelope, context))
    (sameSender : second.sender = first.sender) (sameDestination : second.destination = first.destination)
    (sameEnvelope : second.envelope = first.envelope) :
    remoteSubmission config laterMs second =
      .ok (record, { envelope with receivedAtMs := laterMs },
        { context with relayFrameId := some second.relayFrameId, receivedAtMs := laterMs }) := by
  obtain ⟨submitted, taskId, sender, key, deadlineMs, given, named, sent, arrives, keyed, due, same⟩ :=
    remoteSubmission_ok.mp asked
  obtain ⟨rfl, rfl, rfl⟩ : _ ∧ _ ∧ _ := by simpa only [Prod.mk.injEq] using same
  rw [remoteSubmission_ok]
  exact ⟨submitted, taskId, sender, key, deadlineMs, sameEnvelope.trans given, named, sameSender.trans sent,
    sameDestination.trans arrives, keyed, due, rfl⟩

theorem remoteSubmission_owns {config : Config}
    (asked : remoteSubmission config nowMs request = .ok (record, envelope, context)) :
    record.status = .pending ∧ record.id = envelope.taskId ∧ context.taskId = record.id ∧
      context.expectedExecutorPeerId = none := by
  obtain ⟨_, _, _, _, _, _, _, _, _, _, _, same⟩ := remoteSubmission_ok.mp asked
  obtain ⟨rfl, rfl, rfl⟩ : _ ∧ _ ∧ _ := by simpa only [Prod.mk.injEq] using same
  exact ⟨rfl, rfl, rfl, rfl⟩

theorem submitRemoteTask_again {db : Db} {record existing : TaskRecord} (entered : enter runtime authorization = .ok ())
    (asked : remoteSubmission runtime.config nowMs request = .ok (record, envelope, context))
    (small : runtime.config.limits.checkEnvelopeBytes envelope.encodedEnvelope.length = .ok ())
    (present : db.tasks.find record.id = some existing) (delivered : db.Delivered record.id envelope context) :
    RedeliverySafe runtime authorization nowMs request db ↔ existing = record := by
  obtain ⟨pending, ownsEnvelope, ownsContext, _⟩ := remoteSubmission_owns asked
  constructor
  · rintro ⟨response, after, success, _⟩
    obtain ⟨_, _, _, _, stored, asks, taken, _⟩ := submitRemoteTask_ok.mp success
    cases asked.symm.trans asks
    obtain ⟨_, _, taken⟩ := acceptPendingRemoteTaskWithBackpressure_ok.mp taken
    exact ((acceptTaskWithEnvelopeAndContext_again pending ownsEnvelope ownsContext present).mp taken).1
  · rintro rfl
    have taken := (acceptTaskWithEnvelopeAndContext_again pending ownsEnvelope ownsContext present).mpr
      ⟨rfl, delivered, rfl⟩
    refine ⟨submitTaskResponse existing, db.updateRelayFrame context, ?_, rfl, rfl⟩
    refine submitRemoteTask_ok.mpr ⟨entered, existing, envelope, context, existing, asked, ?_, rfl⟩
    rw [acceptPendingRemoteTaskWithBackpressure_ok, present]
    exact ⟨small, nofun, taken⟩

/-- A relayed task is taken again exactly as long as its record is the one that was accepted. -/
theorem redelivery_safe_iff_record_unchanged [Sha256] (runtime : Runtime) (authorization again : Option String)
    (firstMs laterMs : Int) (first second : SubmitRemoteTaskRequest) (before accepted : Db)
    (response : SubmitTaskResponse) (taskId : TaskId) (ops : List Op)
    (submitted : submitRemoteTask runtime authorization firstMs first before = (.ok response, accepted))
    (named : response.taskId = some (protoId taskId)) (entered : enter runtime again = .ok ())
    (sameSender : second.sender = first.sender) (sameDestination : second.destination = first.destination)
    (sameBytes : second.envelope.map TaskEnvelope.encodeToVec = first.envelope.map TaskEnvelope.encodeToVec) :
    RedeliverySafe runtime again laterMs second (run step accepted ops) ↔
      (run step accepted ops).tasks.find taskId = accepted.tasks.find taskId := by
  obtain ⟨record, envelope, context, asked, small, rfl, recorded, delivered⟩ := submitRemoteTask_stores submitted
  have identified : record.id = taskId := protoId_inj (Option.some.inj named)
  subst identified
  have askedAgain : remoteSubmission runtime.config laterMs second = _ :=
    remoteSubmission_again asked sameSender sameDestination (sameEnvelope_of_sameBytes sameBytes)
  obtain ⟨_, _, _, unbound⟩ := remoteSubmission_owns asked
  have persists := run_persists accepted ops
  have known : (accepted.tasks.find record.id).isSome := by rw [recorded]; rfl
  have stillDelivered := persists.delivered known unbound delivered
  obtain ⟨existing, present⟩ := Option.isSome_iff_exists.mp (persists.1 record.id known)
  rw [submitRemoteTask_again entered askedAgain small present stillDelivered, present, recorded, Option.some.injEq]

def sampleEnvelope : TaskEnvelope where
  taskId := some (protoId sampleTask)
  correlationId := none
  idempotencyKey := some ⟨"key-1"⟩
  status := 0
  messages := []
  metadata := inOrder
  deadlineMs := 0

def relayedTask (frameId : String) : SubmitRemoteTaskRequest where
  envelope := some sampleEnvelope
  authenticatedSenderPeerId := "origin"
  destinationPeerId := "edge"
  relayFrameId := frameId

def relayedState : Db := (submitRemoteTask sampleRuntime none 1 (relayedTask "frame-1") Db.empty).2

def relayedResponse : SubmitTaskResponse := { taskId := some (protoId sampleTask), status := "pending" }

theorem relayedState_reached :
    submitRemoteTask sampleRuntime none 1 (relayedTask "frame-1") Db.empty = (.ok relayedResponse, relayedState) :=
  Prod.ext (by decide) rfl

theorem fresh_redelivery_safe :
    RedeliverySafe sampleRuntime none 2 (relayedTask "frame-2") (run (@step default) relayedState otherWork) :=
  (@redelivery_safe_iff_record_unchanged default sampleRuntime none none 1 2 (relayedTask "frame-1")
    (relayedTask "frame-2") Db.empty relayedState relayedResponse sampleTask otherWork relayedState_reached rfl rfl
    rfl rfl rfl).mpr (by decide)

/-- The relay delivers its frame again after a worker has claimed the task. -/
theorem claimed_redelivery_refused :
    ¬ ∀ (firstMs laterMs : Int) (first second : SubmitRemoteTaskRequest) (before accepted : Db)
        (response : SubmitTaskResponse) (ops : List Op),
      submitRemoteTask sampleRuntime none firstMs first before = (.ok response, accepted) →
      second.sender = first.sender → second.destination = first.destination →
      second.envelope.map TaskEnvelope.encodeToVec = first.envelope.map TaskEnvelope.encodeToVec →
      RedeliverySafe sampleRuntime none laterMs second (run (@step default) accepted ops) := by
  intro every
  obtain ⟨response, after, success, _⟩ := every 1 2 (relayedTask "frame-1") (relayedTask "frame-1") Db.empty
    relayedState relayedResponse [.leaseTaskForPeer sampleTask sampleLease samplePeer] relayedState_reached rfl rfl rfl
  have refused : (submitRemoteTask sampleRuntime none 2 (relayedTask "frame-1")
      (run (@step default) relayedState [.leaseTaskForPeer sampleTask sampleLease samplePeer])).1 =
      .error (storeErrorToStatus (.transportContextConflict sampleTask)) := by decide
  rw [success] at refused
  cases refused

/-- The request gets the answer the task got before, and the log stays as it is. -/
def ResubmissionAnswered (runtime : Runtime) (authorization : Option String) (nowMs : Int) (request : SubmitTaskRequest)
    (response : SubmitTaskResponse) (db : Db) : Prop :=
  ∃ after, submitTask runtime authorization nowMs request db = (.ok response, after) ∧ after.events = db.events

theorem submitTask_stores {request : SubmitTaskRequest} {before accepted : Db} {response : SubmitTaskResponse}
    (success : submitTask runtime authorization nowMs request before = (.ok response, accepted)) :
    ∃ record envelope, localSubmission runtime.config nowMs request = .ok (record, envelope) ∧
      response = submitTaskResponse record ∧ accepted.Holds record envelope := by
  obtain ⟨_, record, envelope, stored, asked, taken, rfl⟩ := submitTask_ok.mp success
  obtain ⟨_, _, taken⟩ := acceptPendingTaskWithEnvelopeBackpressure_ok.mp taken
  obtain ⟨rfl, holds⟩ := acceptTaskWithEnvelope_stores _ _ _ _ _ taken
  exact ⟨stored, envelope, asked, rfl, holds⟩

theorem localSubmission_again {config : Config} {firstMs laterMs : Int} {first second : SubmitTaskRequest}
    {envelope resent : TaskEnvelope} {stored : TaskEnvelopeRecord}
    (asked : localSubmission config firstMs first = .ok (record, stored)) (carried : first.envelope = some envelope)
    (resends : second.envelope = some resent) (same : resent.Same envelope) {rows : TaskRecord × TaskEnvelopeRecord} :
    localSubmission config laterMs second = .ok rows ↔
      config.limits.checkEnvelopeBytes resent.encodedLen = .ok () ∧
        rows = (record, { taskId := record.id, encodedEnvelope := resent.encodeToVec, receivedAtMs := laterMs }) := by
  obtain ⟨submitted, taskId, key, deadlineMs, given, named, keyed, _, due, rows⟩ := localSubmission_ok.mp asked
  cases carried.symm.trans given
  cases rows
  have dueAgain : deadlineFromEnvelope resent = .ok deadlineMs := by
    rw [deadlineFromEnvelope, same.deadlineMs]
    exact due
  rw [localSubmission_ok]
  constructor
  · rintro ⟨other, otherId, otherKey, otherDeadline, givenToo, namedToo, keyedToo, small, dueToo, rfl⟩
    cases resends.symm.trans givenToo
    rw [same.taskId, named] at namedToo
    rw [same.idempotencyKey, keyed] at keyedToo
    cases namedToo
    cases keyedToo
    cases dueAgain.symm.trans dueToo
    exact ⟨small, rfl⟩
  · rintro ⟨small, rfl⟩
    exact ⟨resent, taskId, key, deadlineMs, resends, by rw [same.taskId, named], by rw [same.idempotencyKey, keyed],
      small, dueAgain, rfl⟩

theorem submitTask_again {request : SubmitTaskRequest} {db : Db} {key : IdempotencyKey}
    (entered : enter runtime authorization = .ok ()) (keyed : record.idempotencyKey = some key)
    (known : db.idempotencyKeys.find key = some { key, taskId := record.id })
    (pending : record.status = .pending) (owner : record.id = envelope.taskId)
    (asked : localSubmission runtime.config nowMs request = .ok (record, envelope)) :
    ResubmissionAnswered runtime authorization nowMs request (submitTaskResponse record) db ↔
      runtime.config.limits.checkEnvelopeBytes envelope.encodedEnvelope.length = .ok () ∧
        checkRoom runtime.config.limits envelope.encodedEnvelope.length db = .ok () ∧
        db.tasks.find record.id = some record ∧ db.envelopes.find record.id = some envelope := by
  constructor
  · rintro ⟨after, success, _⟩
    obtain ⟨_, _, _, stored, asks, taken, _⟩ := submitTask_ok.mp success
    cases asked.symm.trans asks
    obtain ⟨small, room, taken⟩ := acceptPendingTaskWithEnvelopeBackpressure_ok.mp taken
    obtain ⟨recorded, enveloped, _⟩ := (acceptTaskWithEnvelope_again pending owner keyed known).mp taken
    exact ⟨small, room, recorded, enveloped⟩
  · rintro ⟨small, room, recorded, enveloped⟩
    have taken := (acceptTaskWithEnvelope_again pending owner keyed known).mpr ⟨recorded, enveloped, rfl⟩
    refine ⟨db, submitTask_ok.mpr ⟨entered, record, envelope, record, asked, ?_, rfl⟩, rfl⟩
    exact acceptPendingTaskWithEnvelopeBackpressure_ok.mpr ⟨small, room, taken⟩

/-- A task sent again is answered exactly within the same millisecond, with the same bytes, before the record changes
and while there is room for one more task. -/
theorem resubmission_answered_iff [Sha256] (runtime : Runtime) (authorization again : Option String)
    (firstMs laterMs : Int) (first second : SubmitTaskRequest) (envelope resent : TaskEnvelope) (before accepted : Db)
    (response : SubmitTaskResponse) (taskId : TaskId) (key : IdempotencyKey) (ops : List Op)
    (submitted : submitTask runtime authorization firstMs first before = (.ok response, accepted))
    (named : response.taskId = some (protoId taskId)) (entered : enter runtime again = .ok ())
    (carried : first.envelope = some envelope)
    (carriesKey : parseOptionalIdempotencyKey envelope.idempotencyKey = .ok (some key))
    (resends : second.envelope = some resent) (same : resent.Same envelope) :
    ResubmissionAnswered runtime again laterMs second response (run step accepted ops) ↔
      laterMs = firstMs ∧ resent.encodeToVec = envelope.encodeToVec ∧
        (run step accepted ops).tasks.find taskId = accepted.tasks.find taskId ∧
        checkRoom runtime.config.limits resent.encodedLen (run step accepted ops) = .ok () := by
  obtain ⟨record, stored, asked, rfl, holds⟩ := submitTask_stores submitted
  have identified : record.id = taskId := protoId_inj (Option.some.inj named)
  subst identified
  obtain ⟨_, _, _, _, given, _, keyed, small, _, rows⟩ := localSubmission_ok.mp asked
  cases carried.symm.trans given
  cases carriesKey.symm.trans keyed
  cases rows
  have persists := run_persists accepted ops
  have known := persists.2.key key _ (holds.keyed key rfl)
  have kept := persists.2.envelope _ (Option.isSome_iff_exists.mpr ⟨_, holds.recorded⟩)
  rw [holds.recorded]
  constructor
  · intro answered
    obtain ⟨_, success, _⟩ := id answered
    obtain ⟨_, _, _, _, asks, _, _⟩ := submitTask_ok.mp success
    obtain ⟨_, rows⟩ := (localSubmission_again asked carried resends same).mp asks
    cases rows
    obtain ⟨_, room, recorded, enveloped⟩ := (submitTask_again entered rfl known rfl rfl asks).mp answered
    have rewritten := Option.some.inj (enveloped.symm.trans (kept.trans holds.enveloped))
    simp only [TaskEnvelopeRecord.mk.injEq] at rewritten
    exact ⟨rewritten.2.2, rewritten.2.1, recorded, room⟩
  · rintro ⟨rfl, sameBytes, recorded, room⟩
    have smallAgain : runtime.config.limits.checkEnvelopeBytes resent.encodedLen = .ok () := by
      rw [TaskEnvelope.encodedLen, sameBytes]
      exact small
    have asks : localSubmission runtime.config laterMs second = _ :=
      (localSubmission_again asked carried resends same).mpr ⟨smallAgain, rfl⟩
    refine (submitTask_again entered rfl known rfl rfl asks).mpr ⟨smallAgain, room, recorded, ?_⟩
    rw [sameBytes]
    exact kept.trans holds.enveloped

def localTask : SubmitTaskRequest := ⟨some sampleEnvelope⟩

def sampleKey : IdempotencyKey := ⟨"key-1", by decide, by decide, by decide⟩

def submittedState : Db := (submitTask sampleRuntime none 1 localTask Db.empty).2

theorem submittedState_reached :
    submitTask sampleRuntime none 1 localTask Db.empty = (.ok relayedResponse, submittedState) :=
  Prod.ext (by decide) rfl

theorem prompt_resubmission_answered :
    ResubmissionAnswered sampleRuntime none 1 localTask relayedResponse (run (@step default) submittedState otherWork) :=
  (@resubmission_answered_iff default sampleRuntime none none 1 1 localTask localTask sampleEnvelope sampleEnvelope
    Db.empty submittedState relayedResponse sampleTask sampleKey otherWork submittedState_reached rfl rfl rfl
    (by decide) rfl (.refl sampleEnvelope)).mpr ⟨rfl, rfl, by decide, by decide⟩

/-- One millisecond later the same request is an envelope conflict. -/
theorem later_resubmission_refused :
    ¬ ∀ (firstMs laterMs : Int) (request : SubmitTaskRequest) (envelope : TaskEnvelope) (before accepted : Db)
        (response : SubmitTaskResponse) (taskId : TaskId) (key : IdempotencyKey) (ops : List Op) (task : TaskRecord),
      submitTask sampleRuntime none firstMs request before = (.ok response, accepted) →
      response.taskId = some (protoId taskId) → request.envelope = some envelope →
      parseOptionalIdempotencyKey envelope.idempotencyKey = .ok (some key) → firstMs ≤ laterMs →
      (run (@step default) accepted ops).tasks.find taskId = some task → task.status = .pending →
      ResubmissionAnswered sampleRuntime none laterMs request response (run (@step default) accepted ops) := by
  intro every
  obtain ⟨after, success, _⟩ := every 1 2 localTask sampleEnvelope Db.empty submittedState relayedResponse sampleTask
    sampleKey [] (TaskRecord.new sampleTask .pending (some sampleKey)) submittedState_reached rfl rfl (by decide)
    (by decide) (by decide) rfl
  have refused : (submitTask sampleRuntime none 2 localTask (run (@step default) submittedState [])).1 =
      .error (storeErrorToStatus (.taskEnvelopeConflict sampleTask)) := by decide
  rw [success] at refused
  cases refused

end Keryx.Daemon
