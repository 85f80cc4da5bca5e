import Keryx.Store.Sqlite.Effects

/-! Blobs and the artifacts that refer to them, counted by transactions and cleaned up after them. -/

namespace Keryx.Store.Sqlite
open Keryx.Core Relational Relational.Transaction Relational.Run

def refersTo (digest : Digest) (record : ArtifactRecord) : Bool :=
  !record.inlined && record.digest = digest

def Db.references (digest : Digest) (db : Db) : Nat :=
  db.artifacts.rows.countP (fun row => refersTo digest row.record)

/-- The count of a blob: zero where the table has no row. -/
def Db.refCount (digest : Digest) (db : Db) : Nat := ((db.blobs.find digest).map (·.refCount)).getD 0

def Counted (db : Db) : Prop := ∀ digest, db.refCount digest = db.references digest

variable {db after : Db} {digest other : Digest} {record : ArtifactRecord}

theorem Counted.of_tables (counted : Counted db) (artifacts : after.artifacts = db.artifacts)
    (blobs : after.blobs = db.blobs) : Counted after := by
  intro digest
  unfold Db.refCount Db.references
  rw [artifacts, blobs]
  exact counted digest

theorem refCount_incrementBlobRef (digest other : Digest) (byteLen : Nat) (db : Db) :
    (db.incrementBlobRef digest byteLen).refCount other = db.refCount other + (decide (digest = other)).toNat := by
  unfold Db.refCount Db.incrementBlobRef
  by_cases same : digest = other
  · subst same
    cases found : db.blobs.find digest with
    | none => simp
    | some row =>
      have key : row.digest = digest := Table.find_key found
      simp [key]
  · have different : ¬ other = digest := fun equal => same equal.symm
    cases found : db.blobs.find digest with
    | none => simp [Table.find_put, same, different]
    | some row =>
      have key : row.digest = digest := Table.find_key found
      simp [Table.find_put, key, same, different]

theorem refCount_decrementBlobRef (digest other : Digest) (db : Db) :
    (db.decrementBlobRef digest).2.refCount other = db.refCount other - (decide (digest = other)).toNat := by
  unfold Db.decrementBlobRef
  cases found : db.blobs.find digest with
  | none =>
    by_cases same : digest = other
    · subst same
      simp [Db.refCount, found]
    · simp [same]
  | some row =>
    have key : row.digest = digest := Table.find_key found
    by_cases same : digest = other
    · subst same
      simp only
      split
      · simp [Db.refCount, key, found]
      · simp [Db.refCount, key, found]
        omega
    · have different : ¬ other = digest := fun equal => same equal.symm
      simp only
      split <;> simp [Db.refCount, Table.find_put, key, same, different]

theorem references_putArtifactRow (record : ArtifactRecord) (content : Bytes) (digest : Digest) (db : Db) :
    (db.putArtifactRow record content).references digest +
        (((db.artifacts.find record.artifactId).map (·.record)).any (refersTo digest)).toNat =
      db.references digest + (refersTo digest record).toNat := by
  have counted := Table.countP_put db.artifacts ⟨record, if record.inlined then some content else none⟩
    (fun row => refersTo digest row.record)
  have new : [(⟨record, if record.inlined then some content else none⟩ : ArtifactRow)].countP
      (fun row => refersTo digest row.record) = (refersTo digest record).toNat := by
    cases refers : refersTo digest record <;> simp [refers]
  have old : (db.artifacts.find record.artifactId).toList.countP (fun row => refersTo digest row.record) =
      (((db.artifacts.find record.artifactId).map (·.record)).any (refersTo digest)).toNat := by
    cases db.artifacts.find record.artifactId with
    | none => rfl
    | some row => cases refers : refersTo digest row.record <;> simp [refers]
  rw [new] at counted
  rw [← old]
  exact counted

theorem association_balance (existing : Option ArtifactRecord) (record : ArtifactRecord) (digest : Digest) :
    (shouldWriteBlobAssociation existing record && decide (record.digest = digest)).toNat +
        (existing.any (refersTo digest)).toNat =
      (refersTo digest record).toNat +
        (existing.any (fun old => shouldDropBlobAssociation old record && decide (old.digest = digest))).toNat := by
  unfold shouldWriteBlobAssociation shouldDropBlobAssociation refersTo
  cases existing with
  | none => simp
  | some old =>
    cases oldInlined : old.inlined <;> cases newInlined : record.inlined <;>
      by_cases same : old.digest = record.digest <;> by_cases own : record.digest = digest <;>
      by_cases former : old.digest = digest <;> simp_all

/-- Takes a reference to the blob of the new record, where the stored one has none. -/
def associateBlob [Sha256] (existing : Option ArtifactRecord) (record : ArtifactRecord) (content : Bytes) (db : Db) :
    StoreResult Db :=
  if shouldWriteBlobAssociation existing record then
    match prepareBlobWrite record.digest content db with
    | .error failure => .error failure
    | .ok (_, written) => .ok (written.incrementBlobRef record.digest content.length)
  else .ok db

/-- Gives up the reference of the old record, and reports the digest if it was the last one. -/
def Db.releaseBlob (old : Option ArtifactRecord) (db : Db) : Option Digest × Db :=
  match old with
  | none => (none, db)
  | some old =>
    let (last, after) := db.decrementBlobRef old.digest
    (if last then some old.digest else none, after)

def Db.cleanUp (cleanup : Option Digest) (db : Db) : Db :=
  match cleanup with
  | none => db
  | some digest => db.finalizeBlobCleanup digest

/-- The write of an artifact up to its commit, with the digest that is left to clean up. -/
def putArtifactInTx [Sha256] (source : ArtifactMeta) (content : Bytes) (db : Db) :
    StoreResult ArtifactRecord × Option Digest × Db :=
  let computed := Digest.compute content
  let record := artifactRecordFromMeta source computed content.length
  if maxBlobBytes < content.length then (.error (.artifactTooLarge content.length maxBlobBytes), none, db)
  else if computed ≠ source.digest then
    (.error (.digestMismatch source.digest.value computed.value), none, db)
  else if db.tasks.find record.taskId = none then (.error (.taskNotFound record.taskId), none, db)
  else
    let existing := (db.artifacts.find record.artifactId).map (·.record)
    match associateBlob existing record content db with
    | .error failure => (.error failure, none, db)
    | .ok counted =>
      (.ok record, (counted.putArtifactRow record content).releaseBlob
        (existing.filter (fun old => shouldDropBlobAssociation old record)))

def deleteArtifactInTx (artifactId : ArtifactId) (db : Db) : StoreResult Unit × Option Digest × Db :=
  match db.artifacts.find artifactId with
  | none => (.error (.artifactNotFound artifactId), none, db)
  | some row =>
    let removed := { db with artifacts := db.artifacts.keep (fun other => other.record.artifactId ≠ artifactId) }
    (.ok (), removed.releaseBlob (if row.record.inlined then none else some row.record))

theorem cleanUp_releaseBlob (old : ArtifactRecord) (db : Db) :
    (db.releaseBlob (some old)).2.cleanUp (db.releaseBlob (some old)).1 = db.dropBlobAssociation old.digest := by
  unfold Db.releaseBlob Db.dropBlobAssociation
  simp only
  cases (db.decrementBlobRef old.digest).1 <;> rfl

theorem putArtifact_cleansUp [Sha256] (source : ArtifactMeta) (content : Bytes) (db : Db) :
    putArtifact source content db =
      ((putArtifactInTx source content db).1,
        (putArtifactInTx source content db).2.2.cleanUp (putArtifactInTx source content db).2.1) := by
  unfold putArtifact putArtifactInTx associateBlob
  simp only
  by_cases large : maxBlobBytes < content.length
  · simp only [if_pos large, Db.cleanUp]
  by_cases corrupt : Digest.compute content ≠ source.digest
  · simp only [if_neg large, if_pos corrupt, Db.cleanUp]
  by_cases unknown : db.tasks.find (artifactRecordFromMeta source (Digest.compute content) content.length).taskId = none
  · simp only [if_neg large, if_neg corrupt, if_pos unknown, Db.cleanUp]
  simp only [if_neg large, if_neg corrupt, if_neg unknown]
  generalize artifactRecordFromMeta source (Digest.compute content) content.length = record
  generalize (db.artifacts.find record.artifactId).map (·.record) = existing
  cases dropped : existing.filter (fun old => shouldDropBlobAssociation old record) with
  | none =>
    cases shouldWriteBlobAssociation existing record with
    | false => rfl
    | true => cases prepareBlobWrite record.digest content db <;> rfl
  | some old =>
    cases shouldWriteBlobAssociation existing record with
    | false => exact congrArg (Prod.mk _) (cleanUp_releaseBlob old (db.putArtifactRow record content)).symm
    | true =>
      cases prepareBlobWrite record.digest content db with
      | error failure => rfl
      | ok written => exact congrArg (Prod.mk _) (cleanUp_releaseBlob old _).symm

theorem deleteArtifact_cleansUp (artifactId : ArtifactId) (db : Db) :
    deleteArtifact artifactId db =
      ((deleteArtifactInTx artifactId db).1,
        (deleteArtifactInTx artifactId db).2.2.cleanUp (deleteArtifactInTx artifactId db).2.1) := by
  unfold deleteArtifact deleteArtifactInTx
  cases db.artifacts.find artifactId with
  | none => rfl
  | some row =>
    cases inlined : row.record.inlined with
    | true => simp [Db.releaseBlob, Db.cleanUp, inlined]
    | false => simp [cleanUp_releaseBlob, inlined]

/-- The database without the files next to it. -/
def Db.beyondFiles (db : Db) : Db := { db with blobFiles := .empty }

theorem Counted.of_beyondFiles (counted : Counted db) (same : after.beyondFiles = db.beyondFiles) : Counted after := by
  have artifacts := congrArg Db.artifacts same
  have blobs := congrArg Db.blobs same
  exact counted.of_tables artifacts blobs

theorem count_leaves (record : ArtifactRecord) (db : Db) :
    (if record.inlined then db else db.incrementBlobRef record.digest record.byteLen).blobFiles = db.blobFiles ∧
      (if record.inlined then db else db.incrementBlobRef record.digest record.byteLen).artifacts = db.artifacts := by
  split
  · exact ⟨rfl, rfl⟩
  · unfold Db.incrementBlobRef
    split
    · exact ⟨rfl, rfl⟩
    · exact ⟨rfl, rfl⟩

theorem artifacts_decrementBlobRef (digest : Digest) (db : Db) : (db.decrementBlobRef digest).2.artifacts = db.artifacts := by
  unfold Db.decrementBlobRef
  split
  · rfl
  · split <;> rfl

theorem artifacts_releaseBlob (old : Option ArtifactRecord) (db : Db) : (db.releaseBlob old).2.artifacts = db.artifacts := by
  cases old with
  | none => rfl
  | some old => exact artifacts_decrementBlobRef old.digest db

theorem refCount_releaseBlob (old : Option ArtifactRecord) (digest : Digest) (db : Db) :
    (db.releaseBlob old).2.refCount digest = db.refCount digest - (old.any (fun old => old.digest = digest)).toNat := by
  cases old with
  | none => rfl
  | some old => exact refCount_decrementBlobRef old.digest digest db

theorem counted_deleteArtifactInTx (artifactId : ArtifactId) (counted : Counted db) :
    Counted (deleteArtifactInTx artifactId db).2.2 := by
  unfold deleteArtifactInTx
  cases found : db.artifacts.find artifactId with
  | none => exact counted
  | some row =>
    intro digest
    have before := counted digest
    have remain := Table.countP_keep db.artifacts artifactId (fun row => refersTo digest row.record)
    have own : (db.artifacts.find artifactId).toList.countP (fun row => refersTo digest row.record) =
        ((if row.record.inlined then none else some row.record).any (fun old => decide (old.digest = digest))).toNat := by
      rw [found]
      unfold refersTo
      cases inlined : row.record.inlined <;> by_cases same : row.record.digest = digest <;> simp [inlined, same]
    rw [own] at remain
    rw [refCount_releaseBlob, Db.references, artifacts_releaseBlob]
    unfold Db.references at before
    change db.refCount digest - _ = (db.artifacts.keep _).rows.countP _
    omega

theorem counted_insertOriginArtifacts (pairs : List (OriginResultArtifact × ArtifactRecord)) {done : Unit}
    (counted : Counted db) (inserted : insertOriginArtifacts pairs db = .ok (done, after)) : Counted after := by
  induction pairs generalizing db with
  | nil =>
    cases inserted
    exact counted
  | cons pair pairs ih =>
    obtain ⟨artifact, record⟩ := pair
    simp only [insertOriginArtifacts, execute_bind, query_bind, ensure_bind] at inserted
    obtain ⟨absent, rest⟩ := inserted
    refine ih ?_ rest
    intro digest
    have before := counted digest
    have rows := references_putArtifactRow record artifact.content digest
      (if record.inlined then db else db.incrementBlobRef record.digest record.byteLen)
    have taken : (if record.inlined then db else db.incrementBlobRef record.digest record.byteLen).refCount digest =
        db.refCount digest + (refersTo digest record).toNat := by
      unfold refersTo
      cases record.inlined with
      | true => rfl
      | false => exact refCount_incrementBlobRef record.digest digest record.byteLen db
    have sameRows : (if record.inlined then db else db.incrementBlobRef record.digest record.byteLen).references digest =
        db.references digest := by
      cases record.inlined with
      | true => rfl
      | false =>
        unfold Db.incrementBlobRef
        simp only [Bool.false_eq_true, if_false]
        split <;> rfl
    have sameCount : (Db.putArtifactRow record artifact.content
        (if record.inlined then db else db.incrementBlobRef record.digest record.byteLen)).refCount digest =
        (if record.inlined then db else db.incrementBlobRef record.digest record.byteLen).refCount digest := rfl
    rw [absent] at rows
    simp only [Option.map_none, Option.any_none, Bool.toNat_false] at rows
    omega

section
variable [Sha256]

theorem beyondFiles_prepareBlobWrite {content : Bytes} {write : PreparedBlobWrite}
    (prepared : prepareBlobWrite digest content db = .ok (write, after)) : after.beyondFiles = db.beyondFiles := by
  unfold prepareBlobWrite writeNewBlobFile at prepared
  grind [Db.beyondFiles]

theorem beyondFiles_prepareBlobs (pairs : List (OriginResultArtifact × ArtifactRecord))
    (prepared : List PreparedBlobWrite) (db : Db) :
    (prepareBlobs pairs prepared db).2.1.beyondFiles = db.beyondFiles := by
  induction pairs generalizing prepared db with
  | nil => rfl
  | cons pair pairs ih =>
    unfold prepareBlobs
    split
    · exact ih _ _
    · split
      · rfl
      · rename_i write written success
        rw [ih, beyondFiles_prepareBlobWrite success]

theorem counted_associateBlob {existing : Option ArtifactRecord} {content : Bytes}
    (associated : associateBlob existing record content db = .ok after) :
    after.artifacts = db.artifacts ∧ ∀ digest, after.refCount digest =
      db.refCount digest + (shouldWriteBlobAssociation existing record && decide (record.digest = digest)).toNat := by
  unfold associateBlob at associated
  cases writes : shouldWriteBlobAssociation existing record with
  | false =>
    rw [writes] at associated
    cases associated
    exact ⟨rfl, fun _ => rfl⟩
  | true =>
    rw [writes, if_pos rfl] at associated
    cases prepared : prepareBlobWrite record.digest content db with
    | error failure =>
      rw [prepared] at associated
      cases associated
    | ok pair =>
      obtain ⟨write, written⟩ := pair
      rw [prepared] at associated
      cases associated
      have same := beyondFiles_prepareBlobWrite prepared
      have artifacts := congrArg Db.artifacts same
      have blobs := congrArg Db.blobs same
      refine ⟨?_, fun digest => ?_⟩
      · refine Eq.trans ?_ artifacts
        unfold Db.incrementBlobRef
        split <;> rfl
      · rw [refCount_incrementBlobRef, Bool.true_and]
        unfold Db.refCount
        change written.blobs = db.blobs at blobs
        rw [blobs]

theorem counted_putArtifactInTx (source : ArtifactMeta) (content : Bytes) (counted : Counted db) :
    Counted (putArtifactInTx source content db).2.2 := by
  unfold putArtifactInTx
  simp only
  iterate 3
    split
    · exact counted
  generalize artifactRecordFromMeta source (Digest.compute content) content.length = record
  split
  · exact counted
  · rename_i associated done
    obtain ⟨artifacts, counts⟩ := counted_associateBlob done
    intro digest
    have before := counted digest
    have taken := counts digest
    have balance := association_balance ((db.artifacts.find record.artifactId).map (·.record)) record digest
    have rows := references_putArtifactRow record content digest associated
    have sameReferences : associated.references digest = db.references digest := by rw [Db.references, artifacts]; rfl
    have sameCount : (associated.putArtifactRow record content).refCount digest = associated.refCount digest := rfl
    have dropped : ∀ (stored : Option ArtifactRecord),
        (stored.filter (fun old => shouldDropBlobAssociation old record)).any (fun old => decide (old.digest = digest)) =
          stored.any (fun old => shouldDropBlobAssociation old record && decide (old.digest = digest)) := by
      intro stored
      cases stored with
      | none => rfl
      | some old => cases drops : shouldDropBlobAssociation old record <;> simp [Option.filter, drops]
    have sameRows : ((associated.putArtifactRow record content).releaseBlob
        (((db.artifacts.find record.artifactId).map (·.record)).filter
          (fun old => shouldDropBlobAssociation old record))).2.references digest =
        (associated.putArtifactRow record content).references digest := by
      rw [Db.references, artifacts_releaseBlob]
      rfl
    rw [artifacts] at rows
    rw [refCount_releaseBlob, sameRows, dropped]
    omega

theorem counted_ingest (result : TerminalResultRecord) (artifacts : List OriginResultArtifact) (executor : PeerId)
    (counted : Counted db) : Counted (ingestRemoteResultWithArtifacts result artifacts executor db).2 := by
  have ended := ingest_cases result artifacts executor db
  generalize ingestRemoteResultWithArtifacts result artifacts executor db = outcome at ended
  cases ended with
  | refused => exact counted
  | answered => exact counted
  | rolledBack failure task records prepared written stopped inspected prepares =>
    have same := beyondFiles_prepareBlobs (artifacts.zip records) [] db
    rw [prepares] at same
    exact counted.of_beyondFiles same
  | applied task records prepared written updated after inspected prepares applies =>
    have same := beyondFiles_prepareBlobs (artifacts.zip records) [] db
    rw [prepares] at same
    obtain ⟨moved, archived, beyond, inserted, rfl⟩ := applyRemoteResult_inserts applies
    have artifactRows := congrArg Db.artifacts beyond
    have blobs := congrArg Db.blobs beyond
    have start : Counted moved := (counted.of_beyondFiles same).of_tables artifactRows blobs
    exact (counted_insertOriginArtifacts _ start inserted).of_tables rfl rfl

end

/-- A cleanup that a committed transaction has left. It removes the file first and the row after it. -/
structure Cleanup where
  digest : Digest
  fileRemoved : Bool
deriving DecidableEq

/-- A database that several callers share, and the cleanups that their calls still owe. -/
structure Shared where
  db : Db
  cleanups : List Cleanup

inductive SharedOp where
  | putArtifact (source : ArtifactMeta) (content : Bytes)
  | deleteArtifact (artifactId : ArtifactId)
  | ingestRemoteResultWithArtifacts (result : TerminalResultRecord) (artifacts : List OriginResultArtifact)
      (authenticatedExecutorPeerId : PeerId)
  | cleanUp (index : Nat)
  | store (op : Op)

def Shared.empty : Shared := { db := .empty, cleanups := [] }

def Shared.owing (shared : Shared) (after : Option Digest × Db) : Shared :=
  { db := after.2, cleanups := shared.cleanups ++ after.1.toList.map (fun digest => { digest, fileRemoved := false }) }

def Db.removeBlobFile (digest : Digest) (db : Db) : Db :=
  { db with blobFiles := db.blobFiles.keep (fun file => file.digest ≠ digest) }

/-- `DELETE FROM blobs WHERE digest = ? AND ref_count = 0` -/
def Db.deleteUnreferencedBlob (digest : Digest) (db : Db) : Db :=
  { db with blobs := db.blobs.keep (fun row => !(row.digest = digest && row.refCount = 0)) }

/-- One step of one caller: a whole transaction, or the next step of a cleanup. -/
def Shared.step [Sha256] (shared : Shared) : SharedOp → Shared
  | .putArtifact source content => shared.owing (putArtifactInTx source content shared.db).2
  | .deleteArtifact artifactId => shared.owing (deleteArtifactInTx artifactId shared.db).2
  | .ingestRemoteResultWithArtifacts result artifacts authenticatedExecutorPeerId =>
    { shared with
      db := (Sqlite.ingestRemoteResultWithArtifacts result artifacts authenticatedExecutorPeerId shared.db).2 }
  | .cleanUp index =>
    match shared.cleanups[index]? with
    | none => shared
    | some cleanup =>
      if cleanup.fileRemoved then
        { db := shared.db.deleteUnreferencedBlob cleanup.digest, cleanups := shared.cleanups.eraseIdx index }
      else
        { db := shared.db.removeBlobFile cleanup.digest
          cleanups := shared.cleanups.set index { cleanup with fileRemoved := true } }
  | .store op => { shared with db := Sqlite.step shared.db op }

theorem counted_deleteUnreferencedBlob (digest : Digest) (counted : Counted db) :
    Counted (db.deleteUnreferencedBlob digest) := by
  intro other
  rw [Db.references]
  refine Eq.trans ?_ (counted other)
  unfold Db.refCount Db.deleteUnreferencedBlob
  simp only [Table.find_keep]
  cases db.blobs.find other with
  | none => rfl
  | some row =>
    by_cases unused : row.digest = digest ∧ row.refCount = 0
    · simp [Option.filter, unused]
    · simp [Option.filter, not_and_or.mp unused]

theorem counted_cleanUp (cleanup : Option Digest) (counted : Counted db) : Counted (db.cleanUp cleanup) := by
  cases cleanup with
  | none => exact counted
  | some digest => exact counted_deleteUnreferencedBlob digest (counted.of_tables rfl rfl)

theorem Counted.of_archive (counted : Counted db) (same : after.archive = db.archive) : Counted after := by
  obtain ⟨artifacts, rest⟩ := Prod.mk.inj same
  obtain ⟨blobs, _⟩ := Prod.mk.inj rest
  exact counted.of_tables artifacts blobs

section
variable [Sha256]

theorem step_counted (db : Db) (op : Op) (counted : Counted db) : Counted (step db op) := by
  cases op with
  | putArtifact source content =>
    show Counted (putArtifact source content db).2
    rw [putArtifact_cleansUp]
    exact counted_cleanUp _ (counted_putArtifactInTx source content counted)
  | deleteArtifact artifactId =>
    show Counted (deleteArtifact artifactId db).2
    rw [deleteArtifact_cleansUp]
    exact counted_cleanUp _ (counted_deleteArtifactInTx artifactId counted)
  | ingestRemoteResultWithArtifacts result artifacts executor => exact counted_ingest result artifacts executor counted
  | _ => exact counted.of_archive (step_archive db rfl rfl)

theorem shared_counted (shared : Shared) (op : SharedOp) (counted : Counted shared.db) :
    Counted (shared.step op).db := by
  cases op with
  | putArtifact source content => exact counted_putArtifactInTx source content counted
  | deleteArtifact artifactId => exact counted_deleteArtifactInTx artifactId counted
  | ingestRemoteResultWithArtifacts result artifacts executor => exact counted_ingest result artifacts executor counted
  | store op => exact step_counted shared.db op counted
  | cleanUp index =>
    unfold Shared.step
    simp only
    split
    · exact counted
    · split
      · exact counted_deleteUnreferencedBlob _ counted
      · exact counted.of_tables rfl rfl

/-- Every row of the blobs table counts the artifacts that refer to it, and a digest without a row has no such
artifact. -/
theorem blob_references_are_counted (ops : List SharedOp) :
    (∀ row ∈ (run Shared.step .empty ops).db.blobs.rows,
      row.refCount = (run Shared.step .empty ops).db.references row.digest) ∧
    ∀ digest, (run Shared.step .empty ops).db.blobs.find digest = none →
      (run Shared.step .empty ops).db.references digest = 0 := by
  have counted : Counted (run Shared.step .empty ops).db :=
    Run.always (fun shared : Shared => Counted shared.db) shared_counted (fun _ => rfl) ops
  refine ⟨fun row member => ?_, fun digest absent => ?_⟩
  · have count := counted row.digest
    have found : (run Shared.step .empty ops).db.blobs.find row.digest = some row := Table.find_of_mem member
    rw [Db.refCount, found] at count
    exact count
  · have count := counted digest
    rw [Db.refCount, absent] at count
    exact count.symm

end

end Keryx.Store.Sqlite
