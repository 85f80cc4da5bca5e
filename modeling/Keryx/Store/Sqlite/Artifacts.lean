import Keryx.Store.Sqlite.Results

/-! Artifacts, their blob files, and the ingest of a remote result with the artifacts it carries. -/

namespace Keryx.Store.Sqlite
open Keryx.Core Relational Relational.Transaction

variable (digest : Digest)

def readVerifiedBlob [Sha256] (byteLen : Nat) (db : Db) : StoreResult Bytes :=
  match db.blobFiles.find digest with
  | none => .error (.database "No such file or directory (os error 2)")
  | some file =>
    if file.content.length ≠ byteLen then
      .error (.database ("blob " ++ digest.value ++ " has byte length " ++ toString file.content.length ++
        ", expected " ++ toString byteLen))
    else if Digest.compute file.content ≠ digest then
      .error (.digestMismatch digest.value (Digest.compute file.content).value)
    else .ok file.content

def writeNewBlobFile (content : Bytes) (db : Db) : StoreResult Db :=
  match db.blobFiles.find digest with
  | some _ => .error (.database "File exists (os error 17)")
  | none => .ok { db with blobFiles := db.blobFiles.put { digest, content } }

structure PreparedBlobWrite where
  digest : Digest
  removeOnRollback : Bool
deriving DecidableEq

/-- A tracked blob must be intact or missing; a missing or untracked one is written. -/
def prepareBlobWrite [Sha256] (content : Bytes) (db : Db) : StoreResult (PreparedBlobWrite × Db) :=
  let tracked := (db.blobs.find digest).isSome
  let prepared : PreparedBlobWrite := { digest, removeOnRollback := !tracked }
  if tracked ∧ (db.blobFiles.find digest).isSome then
    match readVerifiedBlob digest content.length db with
    | .error failure => .error failure
    | .ok existing =>
      if existing = content then .ok (prepared, db)
      else .error (.digestMismatch digest.value (Digest.compute existing).value)
  else
    match writeNewBlobFile digest content db with
    | .error failure => .error failure
    | .ok written => .ok (prepared, written)

def rollbackPreparedBlobWrites (prepared : List PreparedBlobWrite) (db : Db) : Db :=
  { db with
    blobFiles := db.blobFiles.keep (fun file =>
      !prepared.any (fun write => write.removeOnRollback && write.digest = file.digest)) }

def Db.incrementBlobRef (byteLen : Nat) (db : Db) : Db :=
  match db.blobs.find digest with
  | some row => { db with blobs := db.blobs.put { row with refCount := row.refCount + 1, byteLen } }
  | none => { db with blobs := db.blobs.put { digest, refCount := 1, byteLen } }

/-- Writes each blob once for its digest. On failure the error comes with the writes made so far. -/
def prepareBlobs [Sha256] : List (OriginResultArtifact × ArtifactRecord) → List PreparedBlobWrite → Db →
    List PreparedBlobWrite × Db × Option StoreError
  | [], prepared, db => (prepared, db, none)
  | (artifact, record) :: pairs, prepared, db =>
    if record.inlined ∨ prepared.any (fun write => write.digest = record.digest) then
      prepareBlobs pairs prepared db
    else
      match prepareBlobWrite record.digest artifact.content db with
      | .error failure => (prepared, db, some failure)
      | .ok (write, written) => prepareBlobs pairs (prepared ++ [write]) written

def getArtifact [Sha256] (artifactId : ArtifactId) (db : Db) : StoreResult (ArtifactRecord × Bytes) :=
  match db.artifacts.find artifactId with
  | none => .error (.artifactNotFound artifactId)
  | some row =>
    if row.record.inlined then
      match row.inlineBlob with
      | some content => .ok (row.record, content)
      | none => .error (.artifactNotFound artifactId)
    else
      match readVerifiedBlob row.record.digest row.record.byteLen db with
      | .ok content => .ok (row.record, content)
      | .error failure => .error failure

def shouldDropBlobAssociation (existing replacement : ArtifactRecord) : Bool :=
  !existing.inlined && (replacement.inlined || existing.digest ≠ replacement.digest)

def shouldWriteBlobAssociation (existing : Option ArtifactRecord) (replacement : ArtifactRecord) : Bool :=
  !replacement.inlined && (existing.map (fun stored => stored.inlined || stored.digest ≠ replacement.digest)).getD true

/-- Drops one reference. The flag tells that the last one is gone and the blob is to be cleaned up. -/
def Db.decrementBlobRef (db : Db) : Bool × Db :=
  match db.blobs.find digest with
  | none => (false, db)
  | some row =>
    if 1 < row.refCount then (false, { db with blobs := db.blobs.put { row with refCount := row.refCount - 1 } })
    else (true, { db with blobs := db.blobs.put { row with refCount := 0 } })

/-- Removes the file, then the row unless it is referenced again. -/
def Db.finalizeBlobCleanup (db : Db) : Db :=
  { db with
    blobFiles := db.blobFiles.keep (fun file => file.digest ≠ digest)
    blobs := db.blobs.keep (fun row => !(row.digest = digest && row.refCount = 0)) }

/-- Gives up a blob association: the reference, and with the last one the file. -/
def Db.dropBlobAssociation (db : Db) : Db :=
  let (last, after) := db.decrementBlobRef digest
  if last then after.finalizeBlobCleanup digest else after

def maxBlobBytes : Nat := 256 * 1024 * 1024

def Db.putArtifactRow (record : ArtifactRecord) (content : Bytes) (db : Db) : Db :=
  { db with
    artifacts := db.artifacts.put { record, inlineBlob := if record.inlined then some content else none } }

def putArtifact [Sha256] (source : ArtifactMeta) (content : Bytes) (db : Db) : StoreResult ArtifactRecord × Db :=
  let computed := Digest.compute content
  let record := artifactRecordFromMeta source computed content.length
  if maxBlobBytes < content.length then (.error (.artifactTooLarge content.length maxBlobBytes), db)
  else if computed ≠ source.digest then (.error (.digestMismatch source.digest.value computed.value), db)
  else if db.tasks.find record.taskId = none then (.error (.taskNotFound record.taskId), db)
  else
    let existing := (db.artifacts.find record.artifactId).map (·.record)
    if shouldWriteBlobAssociation existing record then
      match prepareBlobWrite record.digest content db with
      | .error failure => (.error failure, db)
      | .ok (_, written) =>
        let counted := written.incrementBlobRef record.digest content.length
        let stored := counted.putArtifactRow record content
        match existing.filter (fun old => shouldDropBlobAssociation old record) with
        | some old => (.ok record, stored.dropBlobAssociation old.digest)
        | none => (.ok record, stored)
    else
      let stored := db.putArtifactRow record content
      match existing.filter (fun old => shouldDropBlobAssociation old record) with
      | some old => (.ok record, stored.dropBlobAssociation old.digest)
      | none => (.ok record, stored)

def deleteArtifact (artifactId : ArtifactId) (db : Db) : StoreResult Unit × Db :=
  match db.artifacts.find artifactId with
  | none => (.error (.artifactNotFound artifactId), db)
  | some row =>
    let removed := { db with artifacts := db.artifacts.keep (fun other => other.record.artifactId ≠ artifactId) }
    if row.record.inlined then (.ok (), removed)
    else (.ok (), removed.dropBlobAssociation row.record.digest)

def validateOriginResultArtifacts [Sha256] (taskId : TaskId) : Nat → Nat → List OriginResultArtifact →
    StoreResult (List ArtifactRecord)
  | _, _, [] => .ok []
  | aggregateLen, nextMinimumOrdinal, artifact :: artifacts =>
    let source := artifact.artifactMeta
    let actualLen := artifact.content.length
    let actualDigest := Digest.compute artifact.content
    if artifact.ordinal < nextMinimumOrdinal then
      .error (.originResultArtifactOrdinalMismatch nextMinimumOrdinal artifact.ordinal)
    else if u32Max < artifact.ordinal + 1 then
      .error (.originResultArtifactOrdinalMismatch artifact.ordinal artifact.ordinal)
    else if source.taskId ≠ taskId then .error (.originResultArtifactTaskMismatch taskId source.taskId)
    else if source.artifactId ≠ originResultArtifactId taskId artifact.ordinal then
      .error (.originResultArtifactIdMismatch taskId artifact.ordinal)
    else if source.byteLen ≠ actualLen then .error (.artifactLengthMismatch source.byteLen actualLen)
    else if source.digest ≠ actualDigest then .error (.digestMismatch source.digest.value actualDigest.value)
    else if u64Max < aggregateLen + actualLen then
      .error (.artifactTooLarge u64Max maxCrossNodeResultArtifactBytes)
    else if maxCrossNodeResultArtifactBytes < aggregateLen + actualLen then
      .error (.artifactTooLarge (aggregateLen + actualLen) maxCrossNodeResultArtifactBytes)
    else
      match validateOriginResultArtifacts taskId (aggregateLen + actualLen) (artifact.ordinal + 1) artifacts with
      | .error failure => .error failure
      | .ok records => .ok (artifactRecordFromMeta source actualDigest actualLen :: records)

def terminalReasonOf (events : List TaskEventRecord) : Option RemoteResultTerminalReason :=
  events.reverse.findSome? fun event =>
    match event.eventType with
    | .taskTimedOut => some .deadlineExpired
    | .taskCanceled => some .canceled
    | _ => none

/-- Why a failed task failed, from a log that must replay. -/
def remoteResultTerminalReason (task : TaskRecord) (db : Db) : StoreResult (Option RemoteResultTerminalReason) :=
  if task.status ≠ .failed then .ok none
  else
    match replayTaskFromSnapshotAndEvents task (db.eventsForTask task.id) with
    | .error failure => .error failure
    | .ok _ => .ok (terminalReasonOf (db.eventsForTask task.id))

def Db.artifactsForTask (taskId : TaskId) (db : Db) : List ArtifactRecord :=
  (db.artifacts.rows.map (·.record)).filter (fun record => record.taskId = taskId)

variable [Sha256] (result : TerminalResultRecord)

/-- A duplicate is confirmed by its artifact rows and then by their bytes. -/
def confirmDuplicate (task : TaskRecord) (artifacts : List OriginResultArtifact)
    (records : List ArtifactRecord) (db : Db) : StoreResult RemoteResultIngestOutcome :=
  let stored := db.artifactsForTask result.taskId
  if stored.length ≠ records.length ∨ stored.any (fun row => !records.contains row) then
    .error (.terminalResultConflict result.taskId)
  else
    let bytes := artifacts.map fun artifact =>
      match getArtifact artifact.artifactMeta.artifactId db with
      | .error failure => some failure
      | .ok (_, persisted) =>
        if persisted = artifact.content then none
        else some (.originResultArtifactConflict artifact.artifactMeta.artifactId)
    match bytes.findSome? id with
    | some failure => .error failure
    | none => .ok (.duplicate task)

def settlementReason (terminalReason : Option RemoteResultTerminalReason)
    (existing : Option TerminalResultRecord) : Option RemoteResultTerminalReason :=
  match terminalReason, existing with
  | some .deadlineExpired, none => some .deadlineExpired
  | some .canceled, some _ => some .canceled
  | _, _ => none

/-- The outcome that needs no write, or the task and artifact rows to write. -/
def inspectRemoteResult (artifacts : List OriginResultArtifact) (authenticatedExecutorPeerId : PeerId) (db : Db) :
    StoreResult (RemoteResultIngestOutcome ⊕ (TaskRecord × List ArtifactRecord)) := do
  result.validate
  if result.executorPeerId ≠ authenticatedExecutorPeerId then
    .error (.remoteResultExecutorMismatch result.taskId authenticatedExecutorPeerId result.executorPeerId)
  else
    let records ← validateOriginResultArtifacts result.taskId 0 0 artifacts
    match db.transportContexts.find result.taskId with
    | none => .error (.transportContextNotFound result.taskId)
    | some context =>
      if context.expectedExecutorPeerId ≠ some authenticatedExecutorPeerId then
        .error (.remoteResultExecutorMismatch result.taskId
          (context.expectedExecutorPeerId.getD context.destinationPeerId) authenticatedExecutorPeerId)
      else
        match db.tasks.find result.taskId with
        | none => .error (.taskNotFound result.taskId)
        | some task =>
          let terminalReason ← remoteResultTerminalReason task db
          let existing := db.terminalResults.find result.taskId
          if terminalReason = none ∧ existing = some result then
            (confirmDuplicate result task artifacts records db).map .inl
          else
            match records.find? (fun record => (db.artifacts.find record.artifactId).isSome) with
            | some record => .error (.originResultArtifactConflict record.artifactId)
            | none =>
              match settlementReason terminalReason existing with
              | some reason =>
                if records ≠ [] then .error (.remoteResultTerminalArtifactsRejected result.taskId reason)
                else .ok (.inl (.settledTerminal task reason existing))
              | none =>
                if existing.isSome then .error (.terminalResultConflict result.taskId)
                else .ok (.inr (task, records))

def startIfPending (taskId : TaskId) (status : TaskStatus) : Tx TaskStatus :=
  if status = .pending then do
    let sequence ← query (Db.nextSequence taskId)
    execute (Db.updateTaskStatus taskId .running)
    insertEvent taskId sequence .taskStarted (some .pending) .running
    pure .running
  else pure status

def insertOriginArtifacts : List (OriginResultArtifact × ArtifactRecord) → Tx Unit
  | [] => pure ()
  | (artifact, record) :: pairs => do
    execute (fun db => if record.inlined then db else db.incrementBlobRef record.digest record.byteLen)
    let existing ← query (fun db => db.artifacts.find record.artifactId)
    ensure (existing = none) (.database "UNIQUE constraint failed: artifacts.artifact_id")
    execute (Db.putArtifactRow record artifact.content)
    insertOriginArtifacts pairs

/-- The write of a remote result. It moves a pending task through running, and leaves leases alone. -/
def applyRemoteResult (task : TaskRecord) (pairs : List (OriginResultArtifact × ArtifactRecord)) : Tx TaskRecord := do
  let status ← startIfPending result.taskId task.status
  let transition ← check (validated (validateTransition status result.terminalStatus))
  let sequence ← query (Db.nextSequence result.taskId)
  execute (Db.updateTaskStatus result.taskId result.terminalStatus)
  insertEvent result.taskId sequence transition.eventType (some transition.fromStatus) transition.toStatus
  insertOriginArtifacts pairs
  execute (Db.insertTerminalResultOnly result)
  fetchTask result.taskId

def ingestRemoteResultWithArtifacts (artifacts : List OriginResultArtifact)
    (authenticatedExecutorPeerId : PeerId) (db : Db) : StoreResult RemoteResultIngestOutcome × Db :=
  match inspectRemoteResult result artifacts authenticatedExecutorPeerId db with
  | .error failure => (.error failure, db)
  | .ok (.inl outcome) => (.ok outcome, db)
  | .ok (.inr (task, records)) =>
    match prepareBlobs (artifacts.zip records) [] db with
    | (prepared, written, some failure) => (.error failure, rollbackPreparedBlobWrites prepared written)
    | (prepared, written, none) =>
      match applyRemoteResult result task (artifacts.zip records) written with
      | .error failure => (.error failure, rollbackPreparedBlobWrites prepared written)
      | .ok (updated, after) => (.ok (.applied updated), after)

end Keryx.Store.Sqlite
