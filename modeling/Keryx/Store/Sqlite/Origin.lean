import Keryx.Store.Sqlite.Ingest

/-! The bytes of an artifact: who keeps them, and who replaces them. -/

namespace Keryx.Store.Sqlite
open Keryx.Core Relational Relational.Transaction Relational.Run

variable {db after : Db} {artifactId : ArtifactId} {digest : Digest} {byteLen : Nat} {file : BlobFile} {row : ArtifactRow}

theorem references_pos (found : db.artifacts.find artifactId = some row) (refers : refersTo digest row.record = true) :
    0 < db.references digest :=
  List.countP_pos_iff.mpr ⟨row, Table.find_mem found, refers⟩

theorem blobFiles_decrementBlobRef (digest : Digest) (db : Db) :
    (db.decrementBlobRef digest).2.blobFiles = db.blobFiles := by
  unfold Db.decrementBlobRef
  split
  · rfl
  · split <;> rfl

theorem blobFiles_releaseBlob (old : Option ArtifactRecord) (db : Db) :
    (db.releaseBlob old).2.blobFiles = db.blobFiles := by
  cases old with
  | none => rfl
  | some old => exact blobFiles_decrementBlobRef old.digest db

theorem refCount_last (last : (db.decrementBlobRef digest).1 = true) :
    (db.decrementBlobRef digest).2.refCount digest = 0 := by
  unfold Db.decrementBlobRef at last ⊢
  cases found : db.blobs.find digest with
  | none =>
    simp only [found] at last
    cases last
  | some counted =>
    have key : counted.digest = digest := Table.find_key found
    simp only [found] at last ⊢
    split at last
    · cases last
    · rename_i single
      rw [if_neg single]
      simp [Db.refCount, ← key]

theorem refCount_released (old : Option ArtifactRecord) (last : (db.releaseBlob old).1 = some digest) :
    (db.releaseBlob old).2.refCount digest = 0 := by
  cases old with
  | none => cases last
  | some old =>
    unfold Db.releaseBlob at last ⊢
    simp only at last ⊢
    split at last
    · rename_i gone
      cases last
      exact refCount_last gone
    · cases last

theorem cleanUp_keeps_file {cleanup : Option Digest} (counted : Counted db)
    (unused : ∀ digest, cleanup = some digest → db.refCount digest = 0) (referenced : 0 < db.references digest)
    (found : db.blobFiles.find digest = some file) : (db.cleanUp cleanup).blobFiles.find digest = some file := by
  cases cleanup with
  | none => exact found
  | some cleaned =>
    have different : file.digest ≠ cleaned := by
      intro same
      have key : file.digest = digest := Table.find_key found
      have none := unused cleaned rfl
      rw [← same, key, counted digest] at none
      omega
    unfold Db.cleanUp Db.finalizeBlobCleanup
    simp only [Table.find_keep, found]
    exact Option.filter_some_pos (decide_eq_true different)

theorem artifacts_cleanUp (cleanup : Option Digest) (db : Db) : (db.cleanUp cleanup).artifacts = db.artifacts := by
  cases cleanup <;> rfl

section
variable [Sha256] {source : ArtifactMeta} {content : Bytes} {record : ArtifactRecord} {cleanup : Option Digest}

/-- What the write of an artifact has done when it commits. -/
structure Put (source : ArtifactMeta) (content : Bytes) (db : Db) (record : ArtifactRecord) (cleanup : Option Digest)
    (after : Db) : Prop where
  described : record = artifactRecordFromMeta source (Digest.compute content) content.length
  artifacts : after.artifacts = db.artifacts.put { record, inlineBlob := if record.inlined then some content else none }
  kept : ∀ digest file, db.blobFiles.find digest = some file → after.blobFiles.find digest = some file
  written : shouldWriteBlobAssociation ((db.artifacts.find record.artifactId).map (·.record)) record = true →
    after.blobFiles.find record.digest = some { digest := record.digest, content }
  unused : ∀ digest, cleanup = some digest → after.refCount digest = 0

theorem associateBlob_files {existing : Option ArtifactRecord}
    (associated : associateBlob existing record content db = .ok after) :
    (∀ digest file, db.blobFiles.find digest = some file → after.blobFiles.find digest = some file) ∧
      (shouldWriteBlobAssociation existing record = true →
        after.blobFiles.find record.digest = some { digest := record.digest, content }) := by
  unfold associateBlob at associated
  by_cases writes : shouldWriteBlobAssociation existing record = true
  · rw [if_pos writes] at associated
    cases prepared : prepareBlobWrite record.digest content db with
    | error failure =>
      rw [prepared] at associated
      cases associated
    | ok pair =>
      obtain ⟨write, written⟩ := pair
      rw [prepared] at associated
      cases associated
      have files : (written.incrementBlobRef record.digest content.length).blobFiles = written.blobFiles := by
        unfold Db.incrementBlobRef
        split <;> rfl
      rw [files]
      exact ⟨fun digest file found => prepareBlobWrite_keeps_file found prepared, fun _ => prepareBlobWrite_file prepared⟩
  · rw [if_neg writes] at associated
    cases associated
    exact ⟨fun _ _ found => found, fun contrary => absurd contrary writes⟩

theorem putArtifactInTx_cases (source : ArtifactMeta) (content : Bytes) (db : Db) :
    (∃ failure, putArtifactInTx source content db = (.error failure, none, db)) ∨
      ∃ record cleanup after, putArtifactInTx source content db = (.ok record, cleanup, after) ∧
        Put source content db record cleanup after := by
  unfold putArtifactInTx
  simp only
  iterate 3
    split
    · exact .inl ⟨_, rfl⟩
  generalize described : artifactRecordFromMeta source (Digest.compute content) content.length = record
  split
  · exact .inl ⟨_, rfl⟩
  · rename_i associated done
    obtain ⟨artifacts, _⟩ := counted_associateBlob done
    obtain ⟨kept, written⟩ := associateBlob_files done
    generalize dropped : ((db.artifacts.find record.artifactId).map (·.record)).filter
      (fun old => shouldDropBlobAssociation old record) = old
    refine .inr ⟨record, ((associated.putArtifactRow record content).releaseBlob old).1,
      ((associated.putArtifactRow record content).releaseBlob old).2, rfl, described.symm, ?_, fun digest file found => ?_,
      fun writes => ?_, fun digest last => ?_⟩
    · rw [artifacts_releaseBlob, Db.putArtifactRow, artifacts]
    · rw [blobFiles_releaseBlob]
      exact kept digest file found
    · rw [blobFiles_releaseBlob]
      exact written writes
    · exact refCount_released _ last

theorem getArtifact_ok {bytes : Bytes} :
    getArtifact artifactId db = .ok (record, bytes) ↔
      ∃ row, db.artifacts.find artifactId = some row ∧ row.record = record ∧
        if record.inlined then row.inlineBlob = some bytes
        else readVerifiedBlob record.digest record.byteLen db = .ok bytes := by
  unfold getArtifact
  cases found : db.artifacts.find artifactId with
  | none => simp
  | some row =>
    simp only [Option.some.injEq, exists_eq_left']
    by_cases inlined : row.record.inlined = true
    · rw [if_pos inlined]
      cases row.inlineBlob with
      | none =>
        refine iff_of_false nofun ?_
        rintro ⟨rfl, stored⟩
        rw [if_pos inlined] at stored
        cases stored
      | some content =>
        constructor
        · intro same
          cases same
          exact ⟨rfl, by rw [if_pos inlined]⟩
        · rintro ⟨rfl, stored⟩
          rw [if_pos inlined] at stored
          cases stored
          rfl
    · rw [if_neg inlined]
      cases verified : readVerifiedBlob row.record.digest row.record.byteLen db with
      | error failure =>
        refine iff_of_false nofun ?_
        rintro ⟨rfl, stored⟩
        rw [if_neg inlined, verified] at stored
        cases stored
      | ok content =>
        constructor
        · intro same
          cases same
          exact ⟨rfl, by rw [if_neg inlined, verified]⟩
        · rintro ⟨rfl, stored⟩
          rw [if_neg inlined, verified] at stored
          cases stored
          rfl

/-- The artifact reads back as bytes of this digest and this length. -/
def Db.Bears (artifactId : ArtifactId) (digest : Digest) (byteLen : Nat) (db : Db) : Prop :=
  ∃ record bytes, getArtifact artifactId db = .ok (record, bytes) ∧ record.digest = digest ∧ record.byteLen = byteLen ∧
    Digest.compute bytes = digest ∧ bytes.length = byteLen

theorem bears_iff : db.Bears artifactId digest byteLen ↔
    ∃ row bytes, db.artifacts.find artifactId = some row ∧ row.record.digest = digest ∧ row.record.byteLen = byteLen ∧
      Digest.compute bytes = digest ∧ bytes.length = byteLen ∧
        if row.record.inlined then row.inlineBlob = some bytes
        else db.blobFiles.find digest = some { digest, content := bytes } := by
  constructor
  · rintro ⟨record, bytes, read, rfl, rfl, hashed, sized⟩
    obtain ⟨row, found, rfl, stored⟩ := getArtifact_ok.mp read
    refine ⟨row, bytes, found, rfl, rfl, hashed, sized, ?_⟩
    split
    · rename_i inlined
      rwa [if_pos inlined] at stored
    · rename_i inlined
      rw [if_neg inlined] at stored
      exact (readVerifiedBlob_ok.mp stored).1
  · rintro ⟨row, bytes, found, rfl, rfl, hashed, sized, stored⟩
    refine ⟨row.record, bytes, getArtifact_ok.mpr ⟨row, found, rfl, ?_⟩, rfl, rfl, hashed, sized⟩
    split
    · rename_i inlined
      rwa [if_pos inlined] at stored
    · rename_i inlined
      rw [if_neg inlined] at stored
      exact readVerifiedBlob_ok.mpr ⟨stored, sized, hashed⟩

theorem Db.Bears.of_kept (bears : db.Bears artifactId digest byteLen)
    (rows : after.artifacts.find artifactId = db.artifacts.find artifactId)
    (files : ∀ file, 0 < after.references digest → db.blobFiles.find digest = some file →
      after.blobFiles.find digest = some file) : after.Bears artifactId digest byteLen := by
  obtain ⟨row, bytes, found, digested, counted, hashed, sized, stored⟩ := bears_iff.mp bears
  rw [← rows] at found
  refine bears_iff.mpr ⟨row, bytes, found, digested, counted, hashed, sized, ?_⟩
  split
  · rename_i inlined
    rwa [if_pos inlined] at stored
  · rename_i inlined
    rw [if_neg inlined] at stored
    have refers : refersTo digest row.record = true := by simp [refersTo, inlined, digested]
    exact files _ (references_pos found refers) stored

theorem Db.Bears.of_archive (bears : db.Bears artifactId digest byteLen) (same : after.archive = db.archive) :
    after.Bears artifactId digest byteLen := by
  obtain ⟨rows, rest⟩ := Prod.mk.inj same
  obtain ⟨_, files⟩ := Prod.mk.inj rest
  refine bears.of_kept (congrArg (fun table => Table.find table artifactId) rows) (fun file _ found => ?_)
  rw [files]
  exact found

/-- The operation does not delete the artifact, and gives it no bytes of another digest or length. -/
def Op.Spares (artifactId : ArtifactId) (sha256 : String) (byteLen : Nat) : Op → Prop
  | .putArtifact source content =>
    source.artifactId = artifactId → (Digest.compute content).value = sha256 ∧ content.length = byteLen
  | .deleteArtifact deleted => deleted ≠ artifactId
  | _ => True

theorem Put.bears (put : Put source content db record cleanup after) (named : source.artifactId = artifactId)
    (hashed : Digest.compute content = digest) (sized : content.length = byteLen)
    (bears : db.Bears artifactId digest byteLen) : after.Bears artifactId digest byteLen := by
  obtain ⟨described, artifacts, kept, written, _⟩ := put
  have owner : record.artifactId = artifactId := by rw [described]; exact named
  have digested : record.digest = digest := by rw [described]; exact hashed
  have counts : record.byteLen = byteLen := by rw [described]; exact sized
  have found : after.artifacts.find artifactId =
      some { record, inlineBlob := if record.inlined then some content else none } := by
    rw [artifacts, ← owner]
    exact Table.find_put_self db.artifacts _
  rw [bears_iff]
  by_cases inlined : record.inlined = true
  · refine ⟨_, content, found, digested, counts, hashed, sized, ?_⟩
    simp only [inlined, if_true]
  by_cases writes : shouldWriteBlobAssociation ((db.artifacts.find record.artifactId).map (·.record)) record = true
  · refine ⟨_, content, found, digested, counts, hashed, sized, ?_⟩
    rw [if_neg inlined, ← digested]
    exact written writes
  · obtain ⟨row, bytes, present, formerDigest, _, formerHashed, formerSized, stored⟩ := bears_iff.mp bears
    have apart : row.record.inlined = false := by
      rw [owner, present] at writes
      cases former : row.record.inlined with
      | false => rfl
      | true => simp [shouldWriteBlobAssociation, inlined, former] at writes
    rw [apart] at stored
    refine ⟨_, bytes, found, digested, counts, formerHashed, formerSized, ?_⟩
    rw [if_neg inlined]
    exact kept digest _ stored

theorem putArtifact_bears (counted : Counted db) (bears : db.Bears artifactId digest byteLen)
    (spares : (Op.putArtifact source content).Spares artifactId digest.value byteLen) :
    (putArtifact source content db).2.Bears artifactId digest byteLen := by
  have balanced := counted_putArtifactInTx source content counted
  rw [putArtifact_cleansUp]
  rcases putArtifactInTx_cases source content db with ⟨failure, failed⟩ | ⟨record, cleanup, stored, done, put⟩
  · rw [failed]
    exact bears
  · rw [done] at balanced ⊢
    have intact : stored.Bears artifactId digest byteLen := by
      by_cases named : source.artifactId = artifactId
      · obtain ⟨hashed, sized⟩ := spares named
        exact put.bears named (Digest.ext hashed) sized bears
      · refine bears.of_kept ?_ (fun file _ found => put.kept digest file found)
        rw [put.artifacts]
        apply Table.find_put_ne
        rw [put.described]
        exact fun same => named same.symm
    refine intact.of_kept (by rw [artifacts_cleanUp]) (fun file referenced found => ?_)
    rw [Db.references, artifacts_cleanUp] at referenced
    exact cleanUp_keeps_file balanced put.unused referenced found

theorem deleteArtifact_bears {deleted : ArtifactId} (counted : Counted db) (bears : db.Bears artifactId digest byteLen)
    (different : deleted ≠ artifactId) : (deleteArtifact deleted db).2.Bears artifactId digest byteLen := by
  have balanced := counted_deleteArtifactInTx deleted counted
  rw [deleteArtifact_cleansUp]
  unfold deleteArtifactInTx at balanced ⊢
  cases found : db.artifacts.find deleted with
  | none => exact bears
  | some row =>
    simp only [found] at balanced ⊢
    generalize dropped : (if row.record.inlined = true then none else some row.record) = old at balanced ⊢
    have intact : (Db.releaseBlob old { db with
        artifacts := db.artifacts.keep (fun other => other.record.artifactId ≠ deleted) }).2.Bears
        artifactId digest byteLen := by
      refine bears.of_kept ?_ (fun file _ found => ?_)
      · rw [artifacts_releaseBlob, Table.find_keep]
        cases present : db.artifacts.find artifactId with
        | none => rfl
        | some kept =>
          have key := Table.find_key present
          exact Option.filter_some_pos (by simp [key, different.symm])
      · rw [blobFiles_releaseBlob]
        exact found
    refine intact.of_kept (by rw [artifacts_cleanUp]) (fun file referenced found => ?_)
    rw [Db.references, artifacts_cleanUp] at referenced
    exact cleanUp_keeps_file balanced (fun _ last => refCount_released old last) referenced found

def originRecord (artifact : OriginResultArtifact) : ArtifactRecord :=
  artifactRecordFromMeta artifact.artifactMeta (Digest.compute artifact.content) artifact.content.length

def originRow (artifact : OriginResultArtifact) : ArtifactRow where
  record := originRecord artifact
  inlineBlob := if (originRecord artifact).inlined then some artifact.content else none

variable {artifacts : List OriginResultArtifact} {records : List ArtifactRecord}

theorem validateOriginResultArtifacts_ok {taskId : TaskId} {aggregateLen nextMinimumOrdinal : Nat}
    (valid : validateOriginResultArtifacts taskId aggregateLen nextMinimumOrdinal artifacts = .ok records) :
    records = artifacts.map originRecord ∧ ∀ artifact ∈ artifacts, artifact.artifactMeta.taskId = taskId := by
  induction artifacts generalizing aggregateLen nextMinimumOrdinal records with
  | nil =>
    cases valid
    exact ⟨rfl, by simp⟩
  | cons artifact artifacts ih =>
    unfold validateOriginResultArtifacts at valid
    simp only at valid
    iterate 3
      split at valid
      · cases valid
    rename_i owner
    iterate 6
      split at valid
      · cases valid
    rename_i rest checked
    cases valid
    obtain ⟨rfl, owned⟩ := ih checked
    refine ⟨rfl, fun other member => ?_⟩
    rcases List.mem_cons.mp member with rfl | later
    · exact not_not.mp owner
    · exact owned other later

theorem zip_originRecord (artifacts : List OriginResultArtifact) :
    artifacts.zip (artifacts.map originRecord) = artifacts.map fun artifact => (artifact, originRecord artifact) := by
  induction artifacts with
  | nil => rfl
  | cons artifact artifacts ih => exact congrArg (List.cons _) ih

theorem insertOriginArtifacts_appends {done : Unit}
    (inserted : insertOriginArtifacts (artifacts.map fun artifact => (artifact, originRecord artifact)) db =
      .ok (done, after)) :
    after.blobFiles = db.blobFiles ∧ after.artifacts.rows = db.artifacts.rows ++ artifacts.map originRow := by
  induction artifacts generalizing db with
  | nil =>
    cases inserted
    exact ⟨rfl, (List.append_nil _).symm⟩
  | cons artifact artifacts ih =>
    simp only [List.map_cons, insertOriginArtifacts, execute_bind, query_bind, ensure_bind] at inserted
    obtain ⟨absent, rest⟩ := inserted
    obtain ⟨files, rows⟩ := ih rest
    obtain ⟨sameFiles, sameRows⟩ := count_leaves (originRecord artifact) db
    refine ⟨files.trans sameFiles, ?_⟩
    rw [rows, Db.putArtifactRow]
    simp only [sameRows] at absent ⊢
    rw [Table.rows_put_new absent, List.append_assoc]
    rfl

variable {artifact : OriginResultArtifact}

theorem prepareBlobs_writes {prepared final : List PreparedBlobWrite}
    (done : prepareBlobs (artifacts.map fun artifact => (artifact, originRecord artifact)) prepared db =
      (final, after, none)) (member : artifact ∈ artifacts) (apart : (originRecord artifact).inlined = false) :
    (∃ write ∈ prepared, write.digest = (originRecord artifact).digest) ∨
      ∃ other ∈ artifacts, after.blobFiles.find (originRecord artifact).digest =
          some { digest := (originRecord artifact).digest, content := other.content } ∧
        Digest.compute other.content = (originRecord artifact).digest ∧ (originRecord other).inlined = false := by
  induction artifacts generalizing prepared db with
  | nil => cases member
  | cons head tail ih =>
    rw [List.map_cons, prepareBlobs] at done
    split at done
    · rename_i skipped
      rcases List.mem_cons.mp member with rfl | later
      · rcases skipped with inlined | known
        · rw [apart] at inlined
          cases inlined
        · obtain ⟨write, listed, same⟩ := List.any_eq_true.mp known
          exact .inl ⟨write, listed, of_decide_eq_true same⟩
      · rcases ih done later with known | ⟨other, listed, found⟩
        · exact .inl known
        · exact .inr ⟨other, List.mem_cons_of_mem head listed, found⟩
    · rename_i needed
      split at done
      · cases done
      · rename_i write written success
        have headApart : (originRecord head).inlined = false := by
          by_contra inlined
          exact needed (.inl ((Bool.not_eq_false _).mp inlined))
        have kept := prepareBlobs_keeps_file (tail.map fun artifact => (artifact, originRecord artifact))
          (prepared ++ [write]) (prepareBlobWrite_file success)
        rw [done] at kept
        have own : (originRecord head).digest = (originRecord artifact).digest →
            ∃ other ∈ head :: tail, after.blobFiles.find (originRecord artifact).digest =
                some { digest := (originRecord artifact).digest, content := other.content } ∧
              Digest.compute other.content = (originRecord artifact).digest ∧ (originRecord other).inlined = false := by
          intro same
          rw [same] at kept
          exact ⟨head, List.mem_cons_self, kept, same, headApart⟩
        rcases List.mem_cons.mp member with rfl | later
        · exact .inr (own rfl)
        · rcases ih done later with ⟨known, listed, same⟩ | ⟨other, listed, found⟩
          · rcases List.mem_append.mp listed with earlier | last
            · exact .inl ⟨known, earlier, same⟩
            · rw [List.mem_singleton.mp last, (prepareBlobWrite_ok success).1] at same
              exact .inr (own same)
          · exact .inr ⟨other, List.mem_cons_of_mem head listed, found⟩

variable {result : TerminalResultRecord} {executor : PeerId}

/-- What an applied result leaves in the archive. -/
structure Archives (artifacts : List OriginResultArtifact) (db after : Db) : Prop where
  rows : after.artifacts.rows = db.artifacts.rows ++ artifacts.map originRow
  kept : ∀ digest file, db.blobFiles.find digest = some file → after.blobFiles.find digest = some file
  filed : ∀ artifact ∈ artifacts, (originRecord artifact).inlined = false →
    ∃ other ∈ artifacts, after.blobFiles.find (originRecord artifact).digest =
        some { digest := (originRecord artifact).digest, content := other.content } ∧
      Digest.compute other.content = (originRecord artifact).digest ∧ (originRecord other).inlined = false

theorem applied_archives {task updated : TaskRecord} {prepared : List PreparedBlobWrite} {written : Db}
    (inspected : inspectRemoteResult result artifacts executor db = .ok (.inr (task, records)))
    (prepares : prepareBlobs (artifacts.zip records) [] db = (prepared, written, none))
    (applies : applyRemoteResult result task (artifacts.zip records) written = .ok (updated, after)) :
    Archives artifacts db after := by
  obtain ⟨⟨_, presented⟩, _⟩ := inspectRemoteResult_write inspected
  obtain ⟨rfl, _⟩ := validateOriginResultArtifacts_ok presented.valid
  rw [zip_originRecord] at prepares applies
  obtain ⟨moved, archived, beyond, inserted, rfl⟩ := applyRemoteResult_inserts applies
  obtain ⟨files, rows⟩ := insertOriginArtifacts_appends inserted
  have movedFiles : moved.blobFiles = written.blobFiles := by
    have same := congrArg Db.blobFiles beyond
    exact same
  have movedRows : moved.artifacts = db.artifacts := by
    have same := congrArg Db.artifacts beyond
    have tables := beyondFiles_prepareBlobs (artifacts.map fun artifact => (artifact, originRecord artifact)) [] db
    rw [prepares] at tables
    have unwritten := congrArg Db.artifacts tables
    exact same.trans unwritten
  have finalFiles : (archived.insertTerminalResultOnly result).blobFiles = written.blobFiles := files.trans movedFiles
  refine ⟨?_, fun digest file found => ?_, fun artifact member apart => ?_⟩
  · rw [← movedRows]
    exact rows
  · have kept := prepareBlobs_keeps_file (artifacts.map fun artifact => (artifact, originRecord artifact)) [] found
    rw [prepares] at kept
    rw [finalFiles]
    exact kept
  · rcases prepareBlobs_writes prepares member apart with ⟨write, listed, _⟩ | filed
    · cases listed
    · rw [finalFiles]
      exact filed

theorem ingest_archives {task : TaskRecord}
    (applied : (ingestRemoteResultWithArtifacts result artifacts executor db).1 = .ok (.applied task)) :
    Archives artifacts db (ingestRemoteResultWithArtifacts result artifacts executor db).2 := by
  obtain ⟨_, _, _, _, inspected, prepares, applies⟩ := ingest_writes applied
  exact applied_archives inspected prepares applies

theorem Archives.find_kept (archives : Archives artifacts db after) (found : db.artifacts.find artifactId = some row) :
    after.artifacts.find artifactId = some row := by
  have member : row ∈ after.artifacts.rows := by
    rw [archives.rows]
    exact List.mem_append_left _ (Table.find_mem found)
  have kept := Table.find_of_mem member
  rwa [Table.find_key found] at kept

theorem Archives.find_new (archives : Archives artifacts db after) (member : artifact ∈ artifacts) :
    after.artifacts.find artifact.artifactMeta.artifactId = some (originRow artifact) := by
  have listed : originRow artifact ∈ after.artifacts.rows := by
    rw [archives.rows]
    exact List.mem_append_right _ (List.mem_map_of_mem member)
  exact Table.find_of_mem listed

/-- No two of the artifacts that are stored in files have the same digest and different bytes. -/
def Collisionless (artifacts : List OriginResultArtifact) : Prop :=
  ∀ one ∈ artifacts, ∀ other ∈ artifacts, maxInlineArtifactBytes < one.content.length →
    maxInlineArtifactBytes < other.content.length → Digest.compute one.content = Digest.compute other.content →
    one.content = other.content

theorem inlined_originRecord :
    (originRecord artifact).inlined = false ↔ maxInlineArtifactBytes < artifact.content.length := by
  show decide (artifact.content.length ≤ maxInlineArtifactBytes) = false ↔ _
  rw [decide_eq_false_iff_not, Nat.not_le]

theorem Archives.reads (archives : Archives artifacts db after)
    (distinct : Collisionless artifacts) (member : artifact ∈ artifacts) :
    getArtifact artifact.artifactMeta.artifactId after = .ok (originRecord artifact, artifact.content) := by
  refine getArtifact_ok.mpr ⟨originRow artifact, archives.find_new member, rfl, ?_⟩
  split
  · rename_i inlined
    exact if_pos inlined
  · rename_i apart
    have filed : (originRecord artifact).inlined = false := (Bool.not_eq_true _).mp apart
    obtain ⟨other, listed, found, hashed, otherFiled⟩ := archives.filed artifact member filed
    have same := distinct artifact member other listed (inlined_originRecord.mp filed)
      (inlined_originRecord.mp otherFiled) hashed.symm
    rw [← same] at found hashed
    exact readVerifiedBlob_ok.mpr ⟨found, rfl, hashed⟩

theorem ingest_bears (result : TerminalResultRecord) (artifacts : List OriginResultArtifact) (executor : PeerId)
    (bears : db.Bears artifactId digest byteLen) :
    (ingestRemoteResultWithArtifacts result artifacts executor db).2.Bears artifactId digest byteLen := by
  have ended := ingest_cases result artifacts executor db
  generalize ingestRemoteResultWithArtifacts result artifacts executor db = outcome at ended
  cases ended with
  | refused => exact bears
  | answered => exact bears
  | rolledBack failure task records prepared written stopped inspected prepares =>
    have done := prepareBlobs_prepares _ (Prepares.nil db) prepares
    have rows := congrArg Db.artifacts done.tables
    refine bears.of_kept (congrArg (fun table => Table.find table artifactId) rows) (fun file _ found => ?_)
    have kept := prepareBlobs_keeps_file (artifacts.zip records) [] found
    rw [prepares] at kept
    exact done.rolledBack_kept found kept
  | applied task records prepared written updated after inspected prepares applies =>
    have archives := applied_archives inspected prepares applies
    obtain ⟨row, _, found, _⟩ := bears_iff.mp bears
    refine bears.of_kept ?_ (fun file _ present => archives.kept digest file present)
    rw [found]
    exact archives.find_kept found

theorem step_bears {op : Op} (counted : Counted db) (bears : db.Bears artifactId digest byteLen)
    (spares : op.Spares artifactId digest.value byteLen) : (step db op).Bears artifactId digest byteLen := by
  cases op with
  | putArtifact source content => exact putArtifact_bears counted bears spares
  | deleteArtifact deleted => exact deleteArtifact_bears counted bears spares
  | ingestRemoteResultWithArtifacts result artifacts executor => exact ingest_bears result artifacts executor bears
  | _ => exact bears.of_archive (step_archive db rfl rfl)

theorem run_counted (ops : List Op) : Counted (run step Db.empty ops) :=
  Run.always Counted step_counted (fun _ => rfl) ops

theorem run_bears (ops : List Op) (counted : Counted db) (bears : db.Bears artifactId digest byteLen)
    (spared : ∀ op ∈ ops, op.Spares artifactId digest.value byteLen) :
    (run step db ops).Bears artifactId digest byteLen := by
  have kept : ∀ (db : Db) (op : Op), Counted db ∧ db.Bears artifactId digest byteLen →
      op.Spares artifactId digest.value byteLen → Counted (step db op) ∧ (step db op).Bears artifactId digest byteLen :=
    fun db op holds spares => ⟨step_counted db op holds.1, step_bears holds.1 holds.2 spares⟩
  exact (Run.invariant kept ⟨counted, bears⟩ (Run.along_of_mem db spared)).2

end

end Keryx.Store.Sqlite
