import Keryx.Relational.Postcondition
import Keryx.Store.Sqlite.Step
import Keryx.Store.Sqlite.Spec

/-! What the operations on artifacts, result deliveries and transport contexts leave alone. -/

namespace Keryx.Store.Sqlite
open Keryx.Core Relational Relational.Transaction

variable {taskId : TaskId} {db after : Db}

section
variable {α : Type} {post : α → Db → Prop}

@[simp] theorem ensures_fetchTask {post : TaskRecord → Db → Prop} :
    Ensures post (fetchTask taskId) db ↔ ∀ task, db.tasks.find taskId = some task → post task db := by
  simp [fetchTask]

@[simp] theorem ensures_fetchTask_bind {rest : TaskRecord → Tx α} :
    Ensures post (fetchTask taskId >>= rest) db ↔
      ∀ task, db.tasks.find taskId = some task → Ensures post (rest task) db := by
  simp [fetchTask]

@[simp] theorem ensures_fetchActiveLease_bind {rest : LeaseRecord → Tx α} :
    Ensures post (fetchActiveLease taskId >>= rest) db ↔
      ∀ lease, db.activeLease taskId = some lease → Ensures post (rest lease) db := by
  simp [fetchActiveLease]

variable {sequence : Nat} {eventType : KeryxEventType} {fromStatus : Option TaskStatus} {toStatus : TaskStatus}

@[simp] theorem ensures_insertEvent {post : Unit → Db → Prop} :
    Ensures post (insertEvent taskId sequence eventType fromStatus toStatus) db ↔
      (sequence = db.nextSequence taskId → post () (db.appendEvent taskId eventType fromStatus toStatus)) := by
  simp [insertEvent]

@[simp] theorem ensures_insertEvent_bind {rest : Unit → Tx α} :
    Ensures post (insertEvent taskId sequence eventType fromStatus toStatus >>= rest) db ↔
      (sequence = db.nextSequence taskId →
        Ensures post (rest ()) (db.appendEvent taskId eventType fromStatus toStatus)) := by
  simp [insertEvent]

end

def Db.beyondTasks (db : Db) : Db := { db with tasks := .empty, events := .empty, leases := .empty }

def Db.beyondResults (db : Db) : Db := { db.beyondTasks with terminalResults := .empty, resultOutbox := .empty }

def Db.beyondIntake (db : Db) : Db :=
  { db.beyondTasks with idempotencyKeys := .empty, envelopes := .empty, transportContexts := .empty }

section
variable {leaseId : LeaseId} {workerId : AgentId}

@[simp] theorem beyondTasks_updateTaskStatus (status : TaskStatus) (db : Db) :
    (db.updateTaskStatus taskId status).beyondTasks = db.beyondTasks := rfl

@[simp] theorem beyondTasks_updateTaskMetadata (status : TaskStatus) (retryCount : Nat) (deadLettered : Bool)
    (deadLetterReason : Option String) (db : Db) :
    (db.updateTaskMetadata taskId status retryCount deadLettered deadLetterReason).beyondTasks = db.beyondTasks := rfl

@[simp] theorem beyondTasks_deactivateLeaseForTask (db : Db) :
    (db.deactivateLeaseForTask taskId).beyondTasks = db.beyondTasks := rfl

@[simp] theorem beyondTasks_deactivateLeaseIfTerminal (toStatus : TaskStatus) (db : Db) :
    (db.deactivateLeaseIfTerminal taskId toStatus).beyondTasks = db.beyondTasks := by
  unfold Db.deactivateLeaseIfTerminal
  split <;> rfl

@[simp] theorem beyondTasks_replaceLease (lease : LeaseRecord) (db : Db) :
    (db.replaceLease lease).beyondTasks = db.beyondTasks := rfl

@[simp] theorem beyondTasks_renewLease (expiresAtMs : Int) (db : Db) :
    (db.renewLease taskId leaseId workerId expiresAtMs).beyondTasks = db.beyondTasks := rfl

@[simp] theorem beyondTasks_appendEvent (eventType : KeryxEventType) (fromStatus : Option TaskStatus)
    (toStatus : TaskStatus) (db : Db) :
    (db.appendEvent taskId eventType fromStatus toStatus).beyondTasks = db.beyondTasks := rfl

@[simp] theorem beyondTasks_closed (changed : TaskRecord) (eventType : KeryxEventType) (fromStatus : TaskStatus)
    (db : Db) : (db.closed taskId changed eventType fromStatus).beyondTasks = db.beyondTasks := rfl

theorem preserves_renewLease (nowMs newExpiresAtMs : Int) :
    Preserves Db.beyondTasks (renewLease taskId leaseId workerId nowMs newExpiresAtMs) := by
  simp [Preserves, renewLease]

theorem preserves_leaseTaskWithPeerGuard (lease : LeaseRecord) (localPeerId : Option PeerId) :
    Preserves Db.beyondTasks (leaseTaskWithPeerGuard taskId lease localPeerId) := by
  intro db
  simp only [leaseTaskWithPeerGuard, ensures_check_bind, ensures_query_bind, ensures_fetchTask_bind, ensures_ensure_bind]
  intro _ _ _ _ _ _ task present free
  split <;> simp

theorem Db.Closes.beyondTasks {change : TaskRecord → Lifecycle.Change} {value : TaskRecord}
    (closes : db.Closes taskId leaseId workerId change (value, after)) : after.beyondTasks = db.beyondTasks := by
  obtain ⟨_, _, _, _, _, _, same⟩ := closes
  cases same
  rfl

theorem preserves_cancelTask (nowMs : Int) : Preserves Db.beyondTasks (cancelTask taskId nowMs) := by
  simp [Preserves, cancelTask, ensureRunningLeaseUnexpired]

theorem preserves_transitionTask (toStatus : TaskStatus) : Preserves Db.beyondTasks (transitionTask taskId toStatus) := by
  simp [Preserves, transitionTask]

theorem preserves_acceptLegacyEvent (eventType : KeryxEventType) :
    Preserves Db.beyondTasks (acceptLegacyEvent taskId eventType) := by
  intro db
  simp only [acceptLegacyEvent, ensures_require_bind, ensures_fetchTask_bind, ensures_check_bind, ensures_query_bind]
  intro legacyEvent _ task _ plan _
  cases plan <;> simp

theorem preserves_failExpiredTasks (tasks : List TaskRecord) : Preserves Db.beyondTasks (failExpiredTasks tasks) := by
  induction tasks with
  | nil => simp [Preserves, failExpiredTasks]
  | cons task tasks ih =>
    intro db
    simp only [failExpiredTasks, ensures_check_bind, ensures_query_bind, ensures_execute_bind, ensures_insertEvent_bind]
    intro _ _ _
    exact preserves_bind ih (fun _ => by simp [Preserves]) _

theorem preserves_failExpiredDeadlines (nowMs : Int) (limit : Option Nat) :
    Preserves Db.beyondTasks (failExpiredDeadlines nowMs limit) := fun db => preserves_failExpiredTasks _ db

theorem preserves_recoverLeases (leases : List LeaseRecord) : Preserves Db.beyondTasks (recoverLeases leases) := by
  induction leases with
  | nil => simp [Preserves, recoverLeases]
  | cons lease leases ih =>
    intro db
    simp only [recoverLeases, ensures_query_bind, ensures_execute_bind]
    split
    · exact ih _
    · simp only [ensures_execute_bind, ensures_query_bind, ensures_insertEvent_bind]
      intro _
      exact preserves_bind ih (fun _ => by simp [Preserves]) _

theorem preserves_recoverStaleLeases (nowMs : Int) (limit : Option Nat) :
    Preserves Db.beyondTasks (recoverStaleLeases nowMs limit) := by
  intro db
  rw [recoverStaleLeases, ensures_query_bind]
  refine preserves_bind (preserves_recoverLeases _) (fun _ => ?_) db
  simp [Preserves]

/-- Nothing beyond the tasks has changed, or this result is new, with the row that is to deliver it. -/
def Db.Settles (result : TerminalResultRecord) (db after : Db) : Prop :=
  after.beyondTasks = db.beyondTasks ∨
    (db.terminalResults.find result.taskId = none ∧
      after.beyondTasks = (db.insertTerminalResultAndOutbox result).beyondTasks)

theorem beyondTasks_insertTerminalResultAndOutbox (result : TerminalResultRecord) (db : Db) :
    (db.insertTerminalResultAndOutbox result).beyondTasks = db.beyondTasks.insertTerminalResultAndOutbox result := by
  unfold Db.insertTerminalResultAndOutbox
  cases makeOutbox result <;> rfl

theorem Db.Concludes.settles {change : TaskRecord → Lifecycle.Change} {result : TerminalResultRecord}
    {value : TaskRecord} (concludes : db.Concludes taskId leaseId workerId change result (value, after))
    (owner : result.taskId = taskId) : db.Settles result after := by
  subst owner
  cases concludes with
  | repeated => exact .inl rfl
  | taken unsettled =>
    unfold Db.concluded
    split
    · refine .inr ⟨unsettled, ?_⟩
      rw [beyondTasks_insertTerminalResultAndOutbox, beyondTasks_insertTerminalResultAndOutbox, beyondTasks_closed]
    · exact .inl rfl

theorem settles_completeTaskWithResult (result : TerminalResultRecord) (db : Db) :
    Ensures (fun _ after => db.Settles result after) (completeTaskWithResult taskId leaseId workerId result) db := by
  intro value after success
  obtain ⟨⟨_, owner⟩, concludes⟩ := completeTaskWithResult_ok.mp success
  exact concludes.settles owner

theorem settles_failTaskWithResult (errorReason : String) (policy : RetryPolicy) (result : TerminalResultRecord)
    (db : Db) :
    Ensures (fun _ after => db.Settles result after)
      (failTaskWithResult taskId leaseId workerId errorReason policy result) db := by
  intro value after success
  obtain ⟨⟨_, owner⟩, concludes⟩ := failTaskWithResult_ok.mp success
  exact concludes.settles owner

theorem settles_cancelTaskWithResult (lease : Option LeaseId) (worker : Option AgentId) (nowMs : Int)
    (result : TerminalResultRecord) (db : Db) :
    Ensures (fun _ after => db.Settles result after) (cancelTaskWithResult taskId lease worker nowMs result) db := by
  intro value after success
  simp only [cancelTaskWithResult, check_bind, fetchTask_bind, ensureCancellationProof_bind, ensureResultTask_ok,
    validated_ok, query_bind, ensure_bind, execute_bind, insertEvent_bind, fetchTask_ok] at success
  obtain ⟨_, ⟨_, rfl⟩, _, _, task, _, _, transition, _, unsettled, _, _, _, rfl⟩ := success
  refine .inr ⟨unsettled, ?_⟩
  rw [beyondTasks_insertTerminalResultAndOutbox, beyondTasks_insertTerminalResultAndOutbox]
  rfl

theorem Db.Settles.beyondResults {result : TerminalResultRecord} (settles : db.Settles result after) :
    after.beyondResults = db.beyondResults := by
  rcases settles with same | ⟨_, same⟩
  · have kept := congrArg Db.beyondResults same
    exact kept
  · have kept := congrArg Db.beyondResults same
    have inserted : (db.insertTerminalResultAndOutbox result).beyondResults = db.beyondResults := by
      unfold Db.insertTerminalResultAndOutbox
      cases makeOutbox result <;> rfl
    exact kept.trans inserted

end

theorem beyondIntake_insertAccepted (task : TaskRecord) (db : Db) :
    (db.insertAccepted task).beyondIntake = db.beyondIntake := by
  unfold Db.insertAccepted Db.insertIdempotencyKey
  split <;> rfl

theorem Db.Accepts.beyondIntake {task : TaskRecord} {held : Prop} {again add : Db → Db} {result : TaskRecord × Db}
    (accepts : db.Accepts task held again add result) (repeated : (again db).beyondIntake = db.beyondIntake)
    (added : ∀ stored, (add stored).beyondIntake = stored.beyondIntake) : result.2.beyondIntake = db.beyondIntake := by
  cases accepts with
  | known present same => exact repeated
  | stored fresh unowned first => exact (added _).trans (beyondIntake_insertAccepted task db)

def Db.beyondArtifacts (db : Db) : Db := { db with artifacts := .empty, blobs := .empty, blobFiles := .empty }

section
variable [Sha256]

theorem beyondArtifacts_prepareBlobWrite {digest : Digest} {content : Bytes} {write : PreparedBlobWrite}
    (prepared : prepareBlobWrite digest content db = .ok (write, after)) :
    after.beyondArtifacts = db.beyondArtifacts := by
  unfold prepareBlobWrite writeNewBlobFile at prepared
  grind [Db.beyondArtifacts]

theorem beyondArtifacts_prepareBlobs (pairs : List (OriginResultArtifact × ArtifactRecord))
    (prepared : List PreparedBlobWrite) (db : Db) :
    (prepareBlobs pairs prepared db).2.1.beyondArtifacts = db.beyondArtifacts := by
  induction pairs generalizing prepared db with
  | nil => rfl
  | cons pair pairs ih =>
    unfold prepareBlobs
    split
    · exact ih _ _
    · split
      · rfl
      · rename_i write written success
        rw [ih, beyondArtifacts_prepareBlobWrite success]

end

theorem beyondArtifacts_incrementBlobRef (digest : Digest) (byteLen : Nat) (db : Db) :
    (db.incrementBlobRef digest byteLen).beyondArtifacts = db.beyondArtifacts := by
  unfold Db.incrementBlobRef
  split <;> rfl

theorem beyondArtifacts_dropBlobAssociation (digest : Digest) (db : Db) :
    (db.dropBlobAssociation digest).beyondArtifacts = db.beyondArtifacts := by
  unfold Db.dropBlobAssociation Db.decrementBlobRef
  grind [Db.beyondArtifacts, Db.finalizeBlobCleanup]

theorem beyondArtifacts_putArtifact [Sha256] (source : ArtifactMeta) (content : Bytes) (db : Db) :
    (putArtifact source content db).2.beyondArtifacts = db.beyondArtifacts := by
  unfold putArtifact
  grind [beyondArtifacts_dropBlobAssociation, beyondArtifacts_incrementBlobRef, beyondArtifacts_prepareBlobWrite,
    Db.putArtifactRow, Db.beyondArtifacts]

theorem beyondArtifacts_deleteArtifact (artifactId : ArtifactId) (db : Db) :
    (deleteArtifact artifactId db).2.beyondArtifacts = db.beyondArtifacts := by
  unfold deleteArtifact
  grind [beyondArtifacts_dropBlobAssociation, Db.beyondArtifacts]

theorem preserves_insertOriginArtifacts (pairs : List (OriginResultArtifact × ArtifactRecord)) :
    Preserves Db.beyondArtifacts (insertOriginArtifacts pairs) := by
  induction pairs with
  | nil => simp [Preserves, insertOriginArtifacts]
  | cons pair pairs ih =>
    intro db
    simp only [insertOriginArtifacts, ensures_execute_bind, ensures_query_bind, ensures_ensure_bind]
    intro _ value after ended
    rw [ih _ value after ended]
    show (if pair.2.inlined then db else db.incrementBlobRef pair.2.digest pair.2.byteLen).beyondArtifacts = _
    split
    · rfl
    · exact beyondArtifacts_incrementBlobRef _ _ _

theorem applyRemoteResult_inserts {result : TerminalResultRecord} {task value : TaskRecord}
    {pairs : List (OriginResultArtifact × ArtifactRecord)}
    (success : applyRemoteResult result task pairs db = .ok (value, after)) :
    ∃ moved archived, moved.beyondTasks = db.beyondTasks ∧ insertOriginArtifacts pairs moved = .ok ((), archived) ∧
      after = archived.insertTerminalResultOnly result := by
  have starts : Preserves Db.beyondTasks (startIfPending result.taskId task.status) := by
    simp [Preserves, startIfPending]
  obtain ⟨status, started, begun, success⟩ := bind_ok.mp success
  simp only [check_bind, query_bind, execute_bind, insertEvent_bind] at success
  obtain ⟨transition, _, _, success⟩ := success
  obtain ⟨_, archived, inserted, success⟩ := bind_ok.mp success
  simp only [execute_bind, fetchTask_ok] at success
  refine ⟨_, archived, ?_, inserted, success.2.symm⟩
  exact starts db status started begun

def Db.beyondOutbox (db : Db) : Db := { db with resultOutbox := .empty }

theorem preserves_claimNextResultDelivery (workerId : String) (nowMs leaseDurationMs : Int) :
    Preserves Db.beyondOutbox (claimNextResultDelivery workerId nowMs leaseDurationMs) := by
  intro db
  simp only [claimNextResultDelivery, ensures_execute_bind, ensures_query_bind]
  split
  · simp [Db.expireDeliveries, Db.beyondOutbox]
  · simp [Db.expireDeliveries, Db.putOutbox, Db.beyondOutbox]

theorem preserves_fetchHeldDelivery (deliveryId workerId : String) (leaseExpiresAtMs nowMs : Int) :
    Preserves Db.beyondOutbox (fetchHeldDelivery deliveryId workerId leaseExpiresAtMs nowMs) := by
  simp [Preserves, fetchHeldDelivery]

theorem preserves_ackResultDelivery (deliveryId workerId : String) (leaseExpiresAtMs nowMs : Int) :
    Preserves Db.beyondOutbox (ackResultDelivery deliveryId workerId leaseExpiresAtMs nowMs) :=
  preserves_bind (preserves_fetchHeldDelivery _ _ _ _) fun _ => by simp [Preserves, Db.putOutbox, Db.beyondOutbox]

theorem preserves_failResultDelivery (deliveryId workerId : String) (leaseExpiresAtMs nowMs retryAtMs : Int)
    (error : String) (deadLetter : Bool) :
    Preserves Db.beyondOutbox
      (failResultDelivery deliveryId workerId leaseExpiresAtMs nowMs retryAtMs error deadLetter) :=
  preserves_bind (preserves_fetchHeldDelivery _ _ _ _) fun _ => by simp [Preserves, Db.putOutbox, Db.beyondOutbox]

def Db.beyondContexts (db : Db) : Db := { db with transportContexts := .empty }

theorem preserves_putTransportContext (context : TaskTransportContextRecord) :
    Preserves Db.beyondContexts (putTransportContext context) := by
  intro db
  simp only [putTransportContext, ensures_fetchTask_bind, ensures_query_bind]
  intro _ _
  split
  · simp
  · simp [Db.insertTransportContext, Db.beyondContexts]

theorem preserves_recordRelayReceipt (authenticatedSourcePeerId acceptedDestinationPeerId : PeerId)
    (relayFrameId : String) (acceptedAtMs : Int) :
    Preserves Db.beyondContexts
      (recordRelayReceipt taskId authenticatedSourcePeerId acceptedDestinationPeerId relayFrameId acceptedAtMs) := by
  simp [Preserves, recordRelayReceipt, Db.insertTransportContext, Db.beyondContexts]

end Keryx.Store.Sqlite
