import Keryx.Store.Sqlite.Simulation

/-! What a step can do, as far as whole tables are concerned. -/

namespace Keryx.Store.Sqlite
open Keryx.Core Relational Relational.Transaction

def Op.settles : Op → Option TerminalResultRecord
  | .completeTaskWithResult _ _ _ result => some result
  | .failTaskWithResult _ _ _ _ _ result => some result
  | .cancelTaskWithResult _ _ _ _ result => some result
  | _ => none

def Op.ingests : Op → Option TerminalResultRecord
  | .ingestRemoteResultWithArtifacts result _ _ => some result
  | _ => none

def Op.delivers : Op → Bool
  | .claimNextResultDelivery _ _ _ => true
  | .ackResultDelivery _ _ _ _ => true
  | .failResultDelivery _ _ _ _ _ _ _ => true
  | _ => false

def Op.accepts : Op → Bool
  | .acceptTask _ => true
  | .acceptTaskWithEnvelope _ _ => true
  | .acceptTaskWithEnvelopeAndContext _ _ _ => true
  | _ => false

def Op.routes : Op → Bool
  | .putTransportContext _ => true
  | .recordRelayReceipt _ _ _ _ _ => true
  | _ => false

def Op.archives : Op → Bool
  | .putArtifact _ _ => true
  | .deleteArtifact _ => true
  | _ => false

variable {db after : Db}

/-- The tables that an operation leaves alone. -/
inductive Effect [Sha256] (db : Db) (op : Op) (after : Db) : Prop
  | tasks (same : after.beyondTasks = db.beyondTasks)
  | intake (accepts : op.accepts = true) (same : after.beyondIntake = db.beyondIntake)
  | contexts (routes : op.routes = true) (same : after.beyondContexts = db.beyondContexts)
  | result (result : TerminalResultRecord) (brings : op.settles = some result) (settles : db.Settles result after)
  | outbox (delivers : op.delivers = true) (same : after.beyondOutbox = db.beyondOutbox)
  | artifacts (archives : op.archives = true) (same : after.beyondArtifacts = db.beyondArtifacts)
  | ingest (result : TerminalResultRecord) (artifacts : List OriginResultArtifact) (executor : PeerId)
      (asks : op = .ingestRemoteResultWithArtifacts result artifacts executor)
      (same : after = (ingestRemoteResultWithArtifacts result artifacts executor db).2)

section
variable [Sha256]

theorem Effect.of_preserves {α : Type} {op : Op} {transaction : Tx α} (kept : Preserves Db.beyondTasks transaction) :
    Effect db op (commit transaction db).2 :=
  .tasks (preserves_commit kept db)

theorem Effect.of_intake {α : Type} {op : Op} {transaction : Tx α} (accepts : op.accepts = true)
    (kept : ∀ {result}, transaction db = .ok result → result.2.beyondIntake = db.beyondIntake) :
    Effect db op (commit transaction db).2 :=
  .intake accepts (@ensures_commit _ _ _ db (fun after => after.beyondIntake = db.beyondIntake) transaction
    (fun _ _ success => kept success) rfl)

theorem Effect.of_settles {α : Type} {op : Op} {transaction : Tx α} {result : TerminalResultRecord}
    (brings : op.settles = some result) (settles : Ensures (fun _ after => db.Settles result after) transaction db) :
    Effect db op (commit transaction db).2 :=
  .result result brings (ensures_commit settles (.inl rfl))

theorem step_effect (db : Db) (op : Op) : Effect db op (step db op) := by
  cases op with
  | acceptTask task => exact .of_intake rfl fun success => (acceptTask_ok success).2.beyondIntake rfl fun _ => rfl
  | acceptTaskWithEnvelope task envelope =>
    exact .of_intake rfl fun success => (acceptTaskWithEnvelope_ok.mp success).2.2.beyondIntake rfl fun _ => rfl
  | acceptTaskWithEnvelopeAndContext task envelope context =>
    exact .of_intake rfl fun success =>
      (acceptTaskWithEnvelopeAndContext_ok.mp success).2.2.2.beyondIntake rfl fun _ => rfl
  | leaseTask => exact .of_preserves (preserves_leaseTaskWithPeerGuard _ _)
  | leaseTaskForPeer => exact .of_preserves (preserves_leaseTaskWithPeerGuard _ _)
  | renewLease => exact .of_preserves (preserves_renewLease _ _)
  | completeTask => exact .of_preserves fun _ _ _ success => (completeTask_ok.mp success).beyondTasks
  | completeTaskWithResult => exact .of_settles rfl (settles_completeTaskWithResult _ db)
  | failTask => exact .of_preserves fun _ _ _ success => (failTask_ok.mp success).beyondTasks
  | failTaskWithResult => exact .of_settles rfl (settles_failTaskWithResult _ _ _ db)
  | retryTask => exact .of_preserves fun _ _ _ success => (retryTask_ok.mp success).beyondTasks
  | deadLetterTask => exact .of_preserves fun _ _ _ success => (deadLetterTask_ok.mp success).beyondTasks
  | cancelTask => exact .of_preserves (preserves_cancelTask _)
  | cancelTaskWithResult => exact .of_settles rfl (settles_cancelTaskWithResult _ _ _ _ db)
  | failExpiredDeadlines => exact .of_preserves (preserves_failExpiredDeadlines _ _)
  | recoverStaleLeases => exact .of_preserves (preserves_recoverStaleLeases _ _)
  | transitionTask => exact .of_preserves (preserves_transitionTask _)
  | acceptLegacyEvent => exact .of_preserves (preserves_acceptLegacyEvent _)
  | ingestRemoteResultWithArtifacts result artifacts executor => exact .ingest result artifacts executor rfl rfl
  | putTransportContext => exact .contexts rfl (preserves_commit (preserves_putTransportContext _) db)
  | recordRelayReceipt => exact .contexts rfl (preserves_commit (preserves_recordRelayReceipt _ _ _ _) db)
  | claimNextResultDelivery => exact .outbox rfl (preserves_commit (preserves_claimNextResultDelivery _ _ _) db)
  | ackResultDelivery => exact .outbox rfl (preserves_commit (preserves_ackResultDelivery _ _ _ _) db)
  | failResultDelivery => exact .outbox rfl (preserves_commit (preserves_failResultDelivery _ _ _ _ _ _ _) db)
  | putArtifact source content => exact .artifacts rfl (beyondArtifacts_putArtifact source content db)
  | deleteArtifact artifactId => exact .artifacts rfl (beyondArtifacts_deleteArtifact artifactId db)

def Db.archive (db : Db) := (db.artifacts, db.blobs, db.blobFiles)

theorem step_archive (db : Db) {op : Op} (idle : op.archives = false) (foreign : op.ingests = none) :
    (step db op).archive = db.archive := by
  cases step_effect db op with
  | tasks same =>
    have kept := congrArg Db.archive same
    exact kept
  | intake _ same =>
    have kept := congrArg Db.archive same
    exact kept
  | contexts _ same =>
    have kept := congrArg Db.archive same
    exact kept
  | result _ _ settles =>
    have kept := congrArg Db.archive settles.beyondResults
    exact kept
  | outbox _ same =>
    have kept := congrArg Db.archive same
    exact kept
  | artifacts archives =>
    rw [idle] at archives
    cases archives
  | ingest _ _ _ asks =>
    subst asks
    cases foreign

variable {result : TerminalResultRecord} {artifacts : List OriginResultArtifact} {executor : PeerId}

/-- How an ingest ends, and the database it leaves. -/
inductive Ingested (result : TerminalResultRecord) (artifacts : List OriginResultArtifact) (executor : PeerId) (db : Db) :
    StoreResult RemoteResultIngestOutcome × Db → Prop
  | refused (failure : StoreError) (inspected : inspectRemoteResult result artifacts executor db = .error failure) :
      Ingested result artifacts executor db (.error failure, db)
  | answered (outcome : RemoteResultIngestOutcome)
      (inspected : inspectRemoteResult result artifacts executor db = .ok (.inl outcome)) :
      Ingested result artifacts executor db (.ok outcome, db)
  | rolledBack (failure : StoreError) (task : TaskRecord) (records : List ArtifactRecord)
      (prepared : List PreparedBlobWrite) (written : Db) (stopped : Option StoreError)
      (inspected : inspectRemoteResult result artifacts executor db = .ok (.inr (task, records)))
      (prepares : prepareBlobs (artifacts.zip records) [] db = (prepared, written, stopped)) :
      Ingested result artifacts executor db (.error failure, rollbackPreparedBlobWrites prepared written)
  | applied (task : TaskRecord) (records : List ArtifactRecord) (prepared : List PreparedBlobWrite) (written : Db)
      (updated : TaskRecord) (after : Db)
      (inspected : inspectRemoteResult result artifacts executor db = .ok (.inr (task, records)))
      (prepares : prepareBlobs (artifacts.zip records) [] db = (prepared, written, none))
      (applies : applyRemoteResult result task (artifacts.zip records) written = .ok (updated, after)) :
      Ingested result artifacts executor db (.ok (.applied updated), after)

theorem ingest_cases (result : TerminalResultRecord) (artifacts : List OriginResultArtifact) (executor : PeerId) (db : Db) :
    Ingested result artifacts executor db (ingestRemoteResultWithArtifacts result artifacts executor db) := by
  unfold ingestRemoteResultWithArtifacts
  split
  · rename_i failure inspected
    exact .refused failure inspected
  · rename_i outcome inspected
    exact .answered outcome inspected
  · rename_i task records inspected
    split
    · rename_i prepared written failure prepares
      exact .rolledBack failure task records prepared written (some failure) inspected prepares
    · rename_i prepared written prepares
      split
      · rename_i failure _
        exact .rolledBack failure task records prepared written none inspected prepares
      · rename_i updated after applies
        exact .applied task records prepared written updated after inspected prepares applies

theorem prepares_beyondArtifacts {pairs : List (OriginResultArtifact × ArtifactRecord)} {prepared : List PreparedBlobWrite}
    {written : Db} {stopped : Option StoreError} (prepares : prepareBlobs pairs [] db = (prepared, written, stopped)) :
    written.beyondArtifacts = db.beyondArtifacts := by
  have kept := beyondArtifacts_prepareBlobs pairs [] db
  rwa [prepares] at kept

theorem ingest_beyond (result : TerminalResultRecord) (artifacts : List OriginResultArtifact) (executor : PeerId) (db : Db) :
    (ingestRemoteResultWithArtifacts result artifacts executor db).2.beyondArtifacts = db.beyondArtifacts ∨
      (db.terminalResults.find result.taskId = none ∧
        (ingestRemoteResultWithArtifacts result artifacts executor db).2.beyondTasks.beyondArtifacts =
          (db.insertTerminalResultOnly result).beyondTasks.beyondArtifacts) := by
  have ended := ingest_cases result artifacts executor db
  generalize ingestRemoteResultWithArtifacts result artifacts executor db = outcome at ended
  cases ended with
  | refused => exact .inl rfl
  | answered => exact .inl rfl
  | rolledBack failure task records prepared written stopped inspected prepares =>
    have kept := prepares_beyondArtifacts prepares
    exact .inl kept
  | applied task records prepared written updated after inspected prepares applies =>
    obtain ⟨_, unsettled, _⟩ := inspectRemoteResult_write inspected
    obtain ⟨moved, archived, beyond, inserted, rfl⟩ := applyRemoteResult_inserts applies
    have files := congrArg Db.beyondTasks (prepares_beyondArtifacts prepares)
    have kept := congrArg Db.beyondTasks (preserves_insertOriginArtifacts _ moved () archived inserted)
    have same : archived.beyondTasks.beyondArtifacts = db.beyondTasks.beyondArtifacts :=
      kept.trans ((congrArg Db.beyondArtifacts beyond).trans files)
    refine .inr ⟨unsettled, ?_⟩
    exact congrArg (Db.insertTerminalResultOnly result) same

end

end Keryx.Store.Sqlite
