import Keryx.Store.Sqlite.Backing

/-! Artifacts and crashes: a crash keeps the marks that a write has made on the disk so far. -/

namespace Keryx.Store.Sqlite
open Keryx.Core Relational Relational.Transaction Relational.Run

inductive DiskStep where
  | createFile (digest : Digest)
  | writeByte (digest : Digest) (byte : UInt8)
  | commit (tables : Db)
  | removeFile (digest : Digest)
  | deleteRow (digest : Digest)

def durable (disk : Db) : DiskStep → Db
  | .createFile digest => { disk with blobFiles := disk.blobFiles.put { digest, content := [] } }
  | .writeByte digest byte =>
    { disk with
      blobFiles := disk.blobFiles.update digest (fun file => { file with content := file.content ++ [byte] })
        (fun _ => rfl) }
  | .commit tables => { tables with blobFiles := disk.blobFiles }
  | .removeFile digest => disk.removeBlobFile digest
  | .deleteRow digest => disk.deleteUnreferencedBlob digest

def cleanupSteps (cleanup : Option Digest) : List DiskStep :=
  cleanup.toList.flatMap (fun digest => [.removeFile digest, .deleteRow digest])

section
variable [Sha256]

/-- A file is written for a reference that is new, where there is none yet. -/
def blobFileSteps (source : ArtifactMeta) (content : Bytes) (db : Db) : List DiskStep :=
  let record := artifactRecordFromMeta source (Digest.compute content) content.length
  if shouldWriteBlobAssociation ((db.artifacts.find record.artifactId).map (·.record)) record ∧
      db.blobFiles.find record.digest = none then
    .createFile record.digest :: content.map (.writeByte record.digest)
  else []

def putArtifactSteps (source : ArtifactMeta) (content : Bytes) (db : Db) : List DiskStep :=
  match putArtifactInTx source content db with
  | (.error _, _, _) => []
  | (.ok _, cleanup, stored) =>
    blobFileSteps source content db ++ .commit stored :: cleanupSteps cleanup

/-- What a restart finds when the call was interrupted after so many of its steps. -/
def interrupted (source : ArtifactMeta) (content : Bytes) (reached : Nat) (db : Db) : Db :=
  run durable db ((putArtifactSteps source content db).take reached)

end

theorem run_writeByte (digest : Digest) (written bytes : Bytes) (disk : Db) :
    run durable { disk with blobFiles := disk.blobFiles.put { digest, content := written } }
        (bytes.map (DiskStep.writeByte digest)) =
      { disk with blobFiles := disk.blobFiles.put { digest, content := written ++ bytes } } := by
  induction bytes generalizing written with
  | nil => rw [List.append_nil, List.map_nil, run_nil]
  | cons byte bytes ih =>
    rw [List.map_cons, run_cons]
    have first : durable { disk with blobFiles := disk.blobFiles.put { digest, content := written } }
        (.writeByte digest byte) =
        { disk with blobFiles := disk.blobFiles.put { digest, content := written ++ [byte] } } :=
      congrArg (fun files => { disk with blobFiles := files })
        (Table.update_put disk.blobFiles { digest, content := written } _ _)
    rw [first, ih, List.append_assoc]
    rfl

def rowOf (source : ArtifactMeta) (content : Bytes) : ArtifactRow where
  record := recordOf source content
  inlineBlob := if (recordOf source content).inlined then some content else none

def takesReference (source : ArtifactMeta) (content : Bytes) (db : Db) : Bool :=
  shouldWriteBlobAssociation ((db.artifacts.find source.artifactId).map (·.record)) (recordOf source content)

def Db.HasFile (digest : Digest) (content : Bytes) (db : Db) : Prop :=
  db.blobFiles.find digest = some { digest, content }

variable {source : ArtifactMeta} {content : Bytes} {db after : Db}

theorem tasks_incrementBlobRef (digest : Digest) (byteLen : Nat) (db : Db) :
    (db.incrementBlobRef digest byteLen).tasks = db.tasks ∧
      (db.incrementBlobRef digest byteLen).artifacts = db.artifacts ∧
      (db.incrementBlobRef digest byteLen).blobFiles = db.blobFiles := by
  unfold Db.incrementBlobRef
  split <;> exact ⟨rfl, rfl, rfl⟩

theorem tasks_releaseBlob (old : Option ArtifactRecord) (db : Db) : (db.releaseBlob old).2.tasks = db.tasks := by
  cases old with
  | none => rfl
  | some old =>
    show (db.decrementBlobRef old.digest).2.tasks = db.tasks
    unfold Db.decrementBlobRef
    split
    · rfl
    · split <;> rfl

theorem releaseBlob_foreign {existing : Option ArtifactRecord} {record : ArtifactRecord} (apart : record.inlined = false)
    (db : Db) : (db.releaseBlob (existing.filter (fun old => shouldDropBlobAssociation old record))).1 ≠
      some record.digest := by
  cases dropped : existing.filter (fun old => shouldDropBlobAssociation old record) with
  | none => exact nofun
  | some old =>
    have drops := (Option.filter_eq_some_iff.mp dropped).2
    have different : old.digest ≠ record.digest := by
      simp only [shouldDropBlobAssociation, apart, Bool.false_or, Bool.and_eq_true, decide_eq_true_eq] at drops
      exact drops.2
    unfold Db.releaseBlob
    simp only
    split
    · intro same
      exact different (Option.some.inj same)
    · exact nofun

theorem blobFiles_cleanUp {cleanup : Option Digest} {digest : Digest} (foreign : cleanup ≠ some digest) (db : Db) :
    (db.cleanUp cleanup).blobFiles.find digest = db.blobFiles.find digest := by
  cases cleanup with
  | none => rfl
  | some cleaned =>
    unfold Db.cleanUp Db.finalizeBlobCleanup
    rw [Table.find_keep]
    cases found : db.blobFiles.find digest with
    | none => rfl
    | some file =>
      have key : file.digest = digest := Table.find_key found
      apply Option.filter_some_pos
      rw [key]
      exact decide_eq_true fun same => foreign (congrArg some same.symm)

/-- The file that the bytes are to be kept in is missing, or there with these bytes. -/
def Fits (source : ArtifactMeta) (content : Bytes) (db : Db) : Prop :=
  if takesReference source content db then
    db.blobFiles.find source.digest = none ∨
      (db.blobs.find source.digest).isSome = true ∧ db.HasFile source.digest content
  else db.HasFile source.digest content

def writesFile (source : ArtifactMeta) (content : Bytes) (db : Db) : Prop :=
  takesReference source content db = true ∧ db.blobFiles.find source.digest = none

instance : Decidable (writesFile source content db) := instDecidableAnd

/-- What a call that commits leaves: the row, its file, and perhaps a digest to clean up. -/
structure Stored (source : ArtifactMeta) (content : Bytes) (db : Db) (cleanup : Option Digest) (after : Db) : Prop where
  tasks : after.tasks = db.tasks
  artifacts : after.artifacts = db.artifacts.put (rowOf source content)
  files : after.blobFiles =
    if writesFile source content db then db.blobFiles.put { digest := source.digest, content } else db.blobFiles
  foreign : (recordOf source content).inlined = false → cleanup ≠ some source.digest

theorem apart_of_takesReference (takes : takesReference source content db = true) :
    (recordOf source content).inlined = false := by
  unfold takesReference shouldWriteBlobAssociation at takes
  cases inlined : (recordOf source content).inlined with
  | false => rfl
  | true =>
    rw [inlined] at takes
    cases takes

theorem Stored.hasFile_iff {cleanup : Option Digest} (stored : Stored source content db cleanup after)
    (ready : takesReference source content db = true → Fits source content db) :
    after.HasFile source.digest content ↔ Fits source content db := by
  unfold Db.HasFile
  rw [stored.files]
  cases takes : takesReference source content db with
  | false =>
    rw [if_neg (fun writes => by rw [writesFile, takes] at writes; cases writes.1), Fits, takes]
    rfl
  | true =>
    refine iff_of_true ?_ (ready takes)
    have fits := ready takes
    rw [Fits, if_pos takes] at fits
    rcases fits with missing | ⟨_, present⟩
    · rw [if_pos ⟨takes, missing⟩]
      exact Table.find_put_self db.blobFiles { digest := source.digest, content }
    · rw [if_neg (fun writes => by rw [writesFile, present] at writes; cases writes.2)]
      exact present

theorem cleanupSteps_frame (cleanup : Option Digest) (count : Nat) (after : Db) :
    (run durable after ((cleanupSteps cleanup).take count)).tasks = after.tasks ∧
      (run durable after ((cleanupSteps cleanup).take count)).artifacts = after.artifacts ∧
      ∀ digest, cleanup ≠ some digest →
        (run durable after ((cleanupSteps cleanup).take count)).blobFiles.find digest = after.blobFiles.find digest := by
  cases cleanup with
  | none =>
    rw [show (cleanupSteps none).take count = [] from List.take_nil]
    exact ⟨rfl, rfl, fun _ _ => rfl⟩
  | some cleaned =>
    have removed : ∀ digest, some cleaned ≠ some digest →
        (after.cleanUp (some cleaned)).blobFiles.find digest = after.blobFiles.find digest :=
      fun digest foreign => blobFiles_cleanUp foreign after
    match count with
    | 0 => exact ⟨rfl, rfl, fun _ _ => rfl⟩
    | 1 => exact ⟨rfl, rfl, removed⟩
    | count + 2 =>
      have both : (cleanupSteps (some cleaned)).take (count + 2) = cleanupSteps (some cleaned) :=
        List.take_of_length_le (Nat.le_add_left 2 count)
      rw [both]
      exact ⟨rfl, rfl, removed⟩

theorem run_cleanupSteps (cleanup : Option Digest) (after : Db) :
    run durable after (cleanupSteps cleanup) = after.cleanUp cleanup := by
  cases cleanup <;> rfl

section
variable [Sha256]

/-- The call succeeds and the artifact reads back as the bytes that were given. -/
def Stores (source : ArtifactMeta) (content : Bytes) (db : Db) : Prop :=
  ∃ record after, putArtifact source content db = (.ok record, after) ∧
    getArtifact source.artifactId after = .ok (record, content)

theorem associateBlob_succeeds {existing : Option ArtifactRecord} {record : ArtifactRecord}
    (hashed : Digest.compute content = record.digest) (writes : shouldWriteBlobAssociation existing record = true) :
    (∃ counted, associateBlob existing record content db = .ok counted) ↔
      db.blobFiles.find record.digest = none ∨
        (db.blobs.find record.digest).isSome = true ∧ db.HasFile record.digest content := by
  unfold associateBlob
  rw [if_pos writes]
  constructor
  · intro succeeds
    obtain ⟨counted, success⟩ := succeeds
    cases prepared : prepareBlobWrite record.digest content db with
    | error failure =>
      rw [prepared] at success
      cases success
    | ok pair =>
      obtain ⟨_, ⟨tracked, present, _⟩ | ⟨missing, _⟩⟩ := prepareBlobWrite_ok prepared
      · exact .inr ⟨tracked, present⟩
      · exact .inl missing
  · intro ready
    rcases ready with missing | ⟨tracked, present⟩
    · rw [prepareBlobWrite_missing missing]
      exact ⟨_, rfl⟩
    · rw [prepareBlobWrite_present hashed tracked present]
      exact ⟨_, rfl⟩

theorem associateBlob_unchanged {existing : Option ArtifactRecord} {record : ArtifactRecord}
    (keeps : shouldWriteBlobAssociation existing record = false) :
    associateBlob existing record content db = .ok db := by
  unfold associateBlob
  rw [keeps]
  rfl

theorem associateBlob_tables (hashed : Digest.compute content = source.digest) {counted : Db}
    (associated : associateBlob ((db.artifacts.find source.artifactId).map (·.record)) (recordOf source content)
      content db = .ok counted) :
    counted.tasks = db.tasks ∧ counted.artifacts = db.artifacts ∧ counted.blobFiles =
      if writesFile source content db then db.blobFiles.put { digest := source.digest, content } else db.blobFiles := by
  cases takes : takesReference source content db with
  | false =>
    rw [associateBlob_unchanged takes] at associated
    cases associated
    rw [if_neg (fun writes => by rw [writesFile, takes] at writes; cases writes.1)]
    exact ⟨rfl, rfl, rfl⟩
  | true =>
    have ready := (associateBlob_succeeds hashed takes).mp ⟨counted, associated⟩
    unfold associateBlob at associated
    unfold takesReference at takes
    rw [if_pos takes] at associated
    have digested : (recordOf source content).digest = source.digest := rfl
    rw [digested] at associated ready
    rcases ready with missing | ⟨tracked, present⟩
    · rw [prepareBlobWrite_missing missing] at associated
      cases associated
      rw [if_pos ⟨takes, missing⟩]
      exact tasks_incrementBlobRef _ _ _
    · rw [prepareBlobWrite_present hashed tracked present] at associated
      cases associated
      rw [if_neg (fun writes => by rw [writesFile, present] at writes; cases writes.2)]
      exact tasks_incrementBlobRef _ _ _

theorem putArtifactInTx_outcome (valid : Valid source content db) :
    (∃ cleanup after, putArtifactInTx source content db = (.ok (recordOf source content), cleanup, after) ∧
        Stored source content db cleanup after ∧ (takesReference source content db = true → Fits source content db)) ∨
      ∃ failure, putArtifactInTx source content db = (.error failure, none, db) ∧
        takesReference source content db = true ∧ ¬ Fits source content db := by
  rw [putArtifactInTx_valid valid]
  cases associated : associateBlob ((db.artifacts.find source.artifactId).map (·.record)) (recordOf source content)
      content db with
  | error failure =>
    have takes : takesReference source content db = true := by
      by_contra keeps
      rw [associateBlob_unchanged ((Bool.not_eq_true _).mp keeps)] at associated
      cases associated
    refine .inr ⟨failure, rfl, takes, ?_⟩
    intro fits
    rw [Fits, if_pos takes] at fits
    have digested : Digest.compute content = (recordOf source content).digest := valid.hashed
    obtain ⟨counted, success⟩ := (associateBlob_succeeds digested takes).mpr fits
    rw [associated] at success
    cases success
  | ok counted =>
    obtain ⟨tasks, artifacts, files⟩ := associateBlob_tables valid.hashed associated
    generalize dropped : ((db.artifacts.find source.artifactId).map (·.record)).filter
      (fun old => shouldDropBlobAssociation old (recordOf source content)) = old
    refine .inl ⟨((counted.putArtifactRow (recordOf source content) content).releaseBlob old).1,
      ((counted.putArtifactRow (recordOf source content) content).releaseBlob old).2, rfl, ⟨?_, ?_, ?_, ?_⟩, ?_⟩
    · rw [tasks_releaseBlob]
      exact tasks
    · rw [artifacts_releaseBlob, Db.putArtifactRow, artifacts]
      rfl
    · rw [blobFiles_releaseBlob]
      exact files
    · intro apart
      rw [← dropped]
      exact releaseBlob_foreign apart _
    · intro takes
      rw [Fits, if_pos takes]
      exact (associateBlob_succeeds valid.hashed takes).mp ⟨counted, associated⟩

theorem reads_iff {final : Db} (hashed : Digest.compute content = source.digest)
    (found : final.artifacts.find source.artifactId = some (rowOf source content)) :
    getArtifact source.artifactId final = .ok (recordOf source content, content) ↔
      (recordOf source content).inlined = true ∨ final.HasFile source.digest content := by
  constructor
  · intro reads
    obtain ⟨row, present, _, kept⟩ := getArtifact_ok.mp reads
    cases inlined : (recordOf source content).inlined with
    | true => exact .inl rfl
    | false =>
      rw [inlined, if_neg Bool.false_ne_true] at kept
      exact .inr (readVerifiedBlob_ok.mp kept).1
  · intro available
    refine getArtifact_ok.mpr ⟨rowOf source content, found, rfl, ?_⟩
    split
    · rename_i inlined
      exact if_pos inlined
    · rename_i apart
      rcases available with inlined | present
      · exact absurd inlined apart
      · exact readVerifiedBlob_ok.mpr ⟨present, rfl, hashed⟩

variable {cleanup : Option Digest}

theorem Stored.reads_iff {final : Db} (stored : Stored source content db cleanup after)
    (hashed : Digest.compute content = source.digest)
    (ready : takesReference source content db = true → Fits source content db)
    (rows : final.artifacts = after.artifacts)
    (files : (recordOf source content).inlined = false →
      final.blobFiles.find source.digest = after.blobFiles.find source.digest) :
    getArtifact source.artifactId final = .ok (recordOf source content, content) ↔
      (recordOf source content).inlined = true ∨ Fits source content db := by
  have found : final.artifacts.find source.artifactId = some (rowOf source content) := by
    rw [rows, stored.artifacts]
    exact Table.find_put_self db.artifacts (rowOf source content)
  rw [Sqlite.reads_iff hashed found, ← stored.hasFile_iff ready]
  cases inlined : (recordOf source content).inlined with
  | true => exact iff_of_true (.inl rfl) (.inl rfl)
  | false =>
    unfold Db.HasFile
    rw [files inlined]

theorem stores_iff (valid : Valid source content db) :
    Stores source content db ↔ (recordOf source content).inlined = true ∨ Fits source content db := by
  unfold Stores
  rw [putArtifact_cleansUp]
  rcases putArtifactInTx_outcome valid with ⟨cleanup, after, done, stored, ready⟩ | ⟨failure, failed, takes, unfit⟩
  · rw [done, ← stored.reads_iff valid.hashed ready (artifacts_cleanUp cleanup after)
      (fun apart => blobFiles_cleanUp (stored.foreign apart) after)]
    constructor
    · intro stores
      obtain ⟨record, final, same, reads⟩ := stores
      cases same
      exact reads
    · intro reads
      exact ⟨_, _, rfl, reads⟩
  · rw [failed]
    refine iff_of_false ?_ ?_
    · intro stores
      obtain ⟨record, after, done, _⟩ := stores
      cases done
    · intro fits
      rcases fits with inlined | fits
      · rw [apart_of_takesReference takes] at inlined
        cases inlined
      · exact unfit fits

theorem blobFileSteps_eq (hashed : Digest.compute content = source.digest) :
    blobFileSteps source content db =
      if writesFile source content db then
        .createFile source.digest :: content.map (DiskStep.writeByte source.digest)
      else [] := by
  unfold blobFileSteps
  rw [hashed]
  rfl

theorem run_blobFileSteps (hashed : Digest.compute content = source.digest) (writes : writesFile source content db)
    (count : Nat) :
    run durable db ((blobFileSteps source content db).take (count + 1)) =
      { db with blobFiles := db.blobFiles.put { digest := source.digest, content := content.take count } } := by
  rw [blobFileSteps_eq hashed, if_pos writes, List.take_succ_cons, run_cons, ← List.map_take]
  exact run_writeByte source.digest [] (content.take count) db

theorem blobFileSteps_done (hashed : Digest.compute content = source.digest)
    (stored : Stored source content db cleanup after) :
    durable (run durable db (blobFileSteps source content db)) (.commit after) = after := by
  have files : (run durable db (blobFileSteps source content db)).blobFiles = after.blobFiles := by
    rw [stored.files]
    by_cases writes : writesFile source content db
    · have all : (blobFileSteps source content db).take (content.length + 1) = blobFileSteps source content db := by
        apply List.take_of_length_le
        rw [blobFileSteps_eq hashed, if_pos writes, List.length_cons, List.length_map]
      rw [← all, run_blobFileSteps hashed writes, List.take_length, if_pos writes]
    · rw [blobFileSteps_eq hashed, if_neg writes, if_neg writes]
      rfl
  show { after with blobFiles := (run durable db (blobFileSteps source content db)).blobFiles } = after
  rw [files]

/-- All durable steps together are the call. -/
theorem run_putArtifactSteps (valid : Valid source content db) :
    run durable db (putArtifactSteps source content db) = (putArtifact source content db).2 := by
  rw [putArtifact_cleansUp]
  unfold putArtifactSteps
  rcases putArtifactInTx_outcome valid with ⟨cleanup, after, done, stored, _⟩ | ⟨failure, failed, _, _⟩
  · simp only [done]
    rw [run_append, run_cons, blobFileSteps_done valid.hashed stored, run_cleanupSteps]
  · simp only [failed]
    rfl

/-- The crash leaves a new file that is incomplete or not tracked. -/
def LeavesTornFile (source : ArtifactMeta) (content : Bytes) (reached : Nat) (db : Db) : Prop :=
  writesFile source content db ∧ 0 < reached ∧ reached ≤ content.length + 1 ∧
    ¬ ((db.blobs.find source.digest).isSome = true ∧ reached = content.length + 1)

theorem stores_torn_iff (valid : Valid source content db) (writes : writesFile source content db) {count : Nat}
    (bounded : count ≤ content.length) :
    Stores source content
        { db with blobFiles := db.blobFiles.put { digest := source.digest, content := content.take count } } ↔
      (db.blobs.find source.digest).isSome = true ∧ count = content.length := by
  have torn : Valid source content
      { db with blobFiles := db.blobFiles.put { digest := source.digest, content := content.take count } } :=
    ⟨valid.bounded, valid.hashed, valid.stored⟩
  have found : (db.blobFiles.put { digest := source.digest, content := content.take count }).find source.digest =
      some { digest := source.digest, content := content.take count } := Table.find_put_self db.blobFiles _
  have takes : takesReference source content
      { db with blobFiles := db.blobFiles.put { digest := source.digest, content := content.take count } } = true := writes.1
  rw [stores_iff torn, apart_of_takesReference writes.1, Fits, if_pos takes]
  show _ ∨ (db.blobFiles.put { digest := source.digest, content := content.take count }).find source.digest = none ∨
    _ ∧ (db.blobFiles.put { digest := source.digest, content := content.take count }).find source.digest = _ ↔ _
  rw [found]
  simp only [Bool.false_eq_true, false_or, reduceCtorEq, Option.some.injEq, BlobFile.mk.injEq, true_and,
    List.take_eq_self_iff]
  constructor
  · intro both
    exact ⟨both.1, by omega⟩
  · intro both
    exact ⟨both.1, by omega⟩

theorem stores_committed_iff (valid : Valid source content db) {final : Db}
    (stored : Stored source content db cleanup after)
    (ready : takesReference source content db = true → Fits source content db) (tasks : final.tasks = after.tasks)
    (rows : final.artifacts = after.artifacts)
    (files : ∀ digest, cleanup ≠ some digest → final.blobFiles.find digest = after.blobFiles.find digest) :
    Stores source content final ↔ Stores source content db := by
  have again : Valid source content final := by
    refine ⟨valid.bounded, valid.hashed, ?_⟩
    rw [tasks, stored.tasks]
    exact valid.stored
  rw [stores_iff again, stores_iff valid]
  cases inlined : (recordOf source content).inlined with
  | true => exact iff_of_true (.inl rfl) (.inl rfl)
  | false =>
    have keeps : takesReference source content final = false := by
      have found : final.artifacts.find source.artifactId = some (rowOf source content) := by
        rw [rows, stored.artifacts]
        exact Table.find_put_self db.artifacts (rowOf source content)
      unfold takesReference shouldWriteBlobAssociation
      rw [found]
      simp [rowOf, inlined]
    rw [← stored.hasFile_iff ready, Fits, keeps, if_neg Bool.false_ne_true]
    unfold Db.HasFile
    rw [files source.digest (stored.foreign inlined)]

/-- After a crash the repeated call stores the artifact exactly if it is kept inline or its file fits, and the crash
did not leave a torn file. -/
theorem repeated_put_stores_iff (source : ArtifactMeta) (content : Bytes) (reached : Nat) (db : Db)
    (valid : Valid source content db) :
    Stores source content (interrupted source content reached db) ↔
      ((recordOf source content).inlined = true ∨ Fits source content db) ∧
        ¬ LeavesTornFile source content reached db := by
  rw [← stores_iff valid]
  unfold interrupted putArtifactSteps
  rcases putArtifactInTx_outcome valid with ⟨cleanup, after, done, stored, ready⟩ | ⟨failure, failed, takes, unfit⟩
  · simp only [done]
    by_cases early : reached ≤ (blobFileSteps source content db).length
    · rw [List.take_append_of_le_length early]
      by_cases writes : writesFile source content db
      · rw [blobFileSteps_eq valid.hashed, if_pos writes, List.length_cons, List.length_map] at early
        cases reached with
        | zero =>
          have whole : ¬ LeavesTornFile source content 0 db := fun torn => Nat.lt_irrefl 0 torn.2.1
          exact (and_iff_left whole).symm
        | succ count =>
          rw [run_blobFileSteps valid.hashed writes, stores_torn_iff valid writes (by omega)]
          have stores : Stores source content db := by
            rw [stores_iff valid, Fits, if_pos writes.1]
            exact .inr (.inl writes.2)
          rw [and_iff_right stores, LeavesTornFile]
          simp only [writes, Nat.zero_lt_succ, early, true_and, not_not, Nat.add_right_cancel_iff]
      · have whole : ¬ LeavesTornFile source content reached db := fun torn => writes torn.1
        rw [blobFileSteps_eq valid.hashed, if_neg writes, List.take_nil]
        exact (and_iff_left whole).symm
    · have late := Nat.lt_of_not_le early
      obtain ⟨beyond, rfl⟩ := Nat.exists_eq_add_of_lt late
      have whole : ¬ LeavesTornFile source content ((blobFileSteps source content db).length + beyond + 1) db := by
        intro torn
        have bounded := torn.2.2.1
        rw [blobFileSteps_eq valid.hashed, if_pos torn.1, List.length_cons, List.length_map] at bounded
        omega
      rw [and_iff_left whole, Nat.add_assoc, List.take_length_add_append, List.take_succ_cons, run_append, run_cons,
        blobFileSteps_done valid.hashed stored]
      obtain ⟨tasks, rows, files⟩ := cleanupSteps_frame cleanup beyond after
      exact stores_committed_iff valid stored ready tasks rows files
  · simp only [failed, List.take_nil, run_nil]
    have never : ¬ Stores source content db := by
      rw [stores_iff valid, apart_of_takesReference takes]
      simpa using unfit
    exact iff_of_false never fun both => never both.1

end

theorem largeArtifact_writes (artifactId : ArtifactId) {content : Bytes} (sized : content.length = 65537) :
    writesFile (largeArtifact artifactId) content taskStored := by
  refine ⟨?_, rfl⟩
  unfold takesReference recordOf
  rw [sized]
  rfl

theorem largeArtifact_fits (artifactId : ArtifactId) {content : Bytes} (sized : content.length = 65537) :
    (recordOf (largeArtifact artifactId) content).inlined = true ∨
      Fits (largeArtifact artifactId) content taskStored := by
  rw [Fits, if_pos (largeArtifact_writes artifactId sized).1]
  exact .inr (.inl rfl)

theorem large_put_in_steps :
    run durable taskStored (@putArtifactSteps default (largeArtifact firstArtifact) largeContent taskStored) =
      (@putArtifact default (largeArtifact firstArtifact) largeContent taskStored).2 :=
  @run_putArtifactSteps _ _ _ default (largeArtifact_valid firstArtifact List.length_replicate rfl)

/-- The large artifact is there after a crash that follows the commit. -/
theorem large_put_survives_commit :
    @Stores default (largeArtifact firstArtifact) largeContent
      (@interrupted default (largeArtifact firstArtifact) largeContent 65539 taskStored) := by
  have sized : largeContent.length = 65537 := List.length_replicate
  refine (@repeated_put_stores_iff default _ _ 65539 taskStored (largeArtifact_valid firstArtifact sized rfl)).mpr
    ⟨largeArtifact_fits firstArtifact sized, ?_⟩
  intro torn
  have bounded := torn.2.2.1
  rw [sized] at bounded
  omega

/-- A crash right before the commit leaves a file that the repeated call refuses to write over. -/
theorem large_put_blocked_by_own_file :
    ¬ ∀ (source : ArtifactMeta) (content : Bytes) (reached : Nat) (db : Db), @Valid default source content db →
      @Stores default source content db → @Stores default source content (@interrupted default source content reached db) := by
  intro every
  have sized : largeContent.length = 65537 := List.length_replicate
  have valid := largeArtifact_valid firstArtifact sized rfl
  have writes := largeArtifact_writes firstArtifact sized
  have hashed : @Digest.compute default largeContent = (largeArtifact firstArtifact).digest := rfl
  have stores := every _ _ (65537 + 1) _ valid
    ((@stores_iff _ _ _ default valid).mpr (largeArtifact_fits firstArtifact sized))
  have length : (@blobFileSteps default (largeArtifact firstArtifact) largeContent taskStored).length = 65538 := by
    rw [@blobFileSteps_eq _ _ _ default hashed, if_pos writes, List.length_cons, List.length_map, sized]
  unfold interrupted putArtifactSteps at stores
  rw [largeArtifact_stored firstArtifact sized] at stores
  simp only at stores
  rw [List.take_append_of_le_length (by rw [length]), @run_blobFileSteps _ _ _ default hashed writes,
    @stores_torn_iff _ _ _ default valid writes _ (by rw [sized])] at stores
  cases stores.1

end Keryx.Store.Sqlite
