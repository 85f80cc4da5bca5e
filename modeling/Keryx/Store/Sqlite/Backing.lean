import Keryx.Store.Sqlite.Origin

/-! The files behind artifacts, however callers are interleaved.
A cleanup removes its file in a step of its own. -/

namespace Keryx.Store.Sqlite
open Keryx.Core Relational Relational.Transaction Relational.Run

variable {db after : Db}

theorem references_of_row {row : ArtifactRow} (member : row ∈ db.artifacts.rows) (apart : row.record.inlined = false) :
    0 < db.references row.record.digest :=
  references_pos (Table.find_of_mem member) (by simp [refersTo, apart])

theorem kept_association {existing : Option ArtifactRecord} {record : ArtifactRecord} (apart : record.inlined = false)
    (kept : shouldWriteBlobAssociation existing record = false) :
    ∃ old, existing = some old ∧ old.inlined = false ∧ old.digest = record.digest := by
  unfold shouldWriteBlobAssociation at kept
  cases existing with
  | none => simp [apart] at kept
  | some old => exact ⟨old, rfl, by simpa [apart] using kept⟩

/-- The bytes that an operation brings. -/
def Op.contents : Op → List Bytes
  | .putArtifact _ content => [content]
  | .ingestRemoteResultWithArtifacts _ artifacts _ => artifacts.map (·.content)
  | _ => []

def SharedOp.contents : SharedOp → List Bytes
  | .putArtifact _ content => [content]
  | .ingestRemoteResultWithArtifacts _ artifacts _ => artifacts.map (·.content)
  | .store op => op.contents
  | _ => []

/-- A cleanup that is about to remove its file finds that nothing refers to it. -/
def RemovesUnreferenced (shared : Shared) : SharedOp → Prop
  | .cleanUp index => ∀ cleanup, shared.cleanups[index]? = some cleanup → cleanup.fileRemoved = false →
    shared.db.references cleanup.digest = 0
  | _ => True

section
variable [Sha256] {known : Bytes → Prop}

def Distinguished (known : Bytes → Prop) : Prop :=
  ∀ one other, known one → known other → Digest.compute one = Digest.compute other → one = other

/-- The content has the digest of the record, and its length unless digests collide. -/
structure Backs (known : Bytes → Prop) (record : ArtifactRecord) (content : Bytes) : Prop where
  presented : known content
  hashed : Digest.compute content = record.digest
  sized : Distinguished known → content.length = record.byteLen

def Backed (known : Bytes → Prop) (db : Db) : Prop :=
  ∀ row ∈ db.artifacts.rows, row.record.inlined = false →
    ∃ content, db.blobFiles.find row.record.digest = some { digest := row.record.digest, content } ∧
      Backs known row.record content

theorem Backed.empty : Backed known Db.empty := by
  intro row member
  cases member

theorem Backed.of_kept (backed : Backed known db) (rows : ∀ row ∈ after.artifacts.rows, row ∈ db.artifacts.rows)
    (files : ∀ digest file, 0 < after.references digest → db.blobFiles.find digest = some file →
      after.blobFiles.find digest = some file) : Backed known after := by
  intro row member apart
  obtain ⟨content, found, backs⟩ := backed row (rows row member) apart
  exact ⟨content, files _ _ (references_of_row member apart) found, backs⟩

theorem Backed.of_archive (backed : Backed known db) (same : after.archive = db.archive) : Backed known after := by
  obtain ⟨rows, rest⟩ := Prod.mk.inj same
  obtain ⟨_, files⟩ := Prod.mk.inj rest
  apply backed.of_kept
  · intro row member
    rwa [rows] at member
  · intro digest file _ found
    rwa [files]

theorem Put.backed {source : ArtifactMeta} {content : Bytes} {record : ArtifactRecord} {cleanup : Option Digest}
    (put : Put source content db record cleanup after) (presented : known content) (backed : Backed known db) :
    Backed known after := by
  obtain ⟨described, artifacts, kept, written, _⟩ := put
  intro row member apart
  rw [artifacts] at member
  rcases List.mem_append.mp member with older | last
  · obtain ⟨earlier, found, backs⟩ := backed row (List.mem_of_mem_filter older) apart
    exact ⟨earlier, kept _ _ found, backs⟩
  · rw [List.mem_singleton.mp last] at apart ⊢
    cases writes : shouldWriteBlobAssociation ((db.artifacts.find record.artifactId).map (·.record)) record with
    | true => exact ⟨content, written writes, presented, by rw [described]; rfl, fun _ => by rw [described]; rfl⟩
    | false =>
      obtain ⟨old, existing, oldApart, sameDigest⟩ := kept_association apart writes
      obtain ⟨former, found, rfl⟩ := Option.map_eq_some_iff.mp existing
      obtain ⟨earlier, file, backs⟩ := backed former (Table.find_mem found) oldApart
      rw [sameDigest] at file
      refine ⟨earlier, kept _ _ file, backs.presented, backs.hashed.trans sameDigest, ?_⟩
      intro distinguished
      have hashed : Digest.compute earlier = Digest.compute content := by
        rw [backs.hashed, sameDigest, described]
        rfl
      rw [distinguished earlier content backs.presented presented hashed, described]
      rfl

theorem putArtifactInTx_backed {source : ArtifactMeta} {content : Bytes} (presented : known content)
    (backed : Backed known db) : Backed known (putArtifactInTx source content db).2.2 := by
  rcases putArtifactInTx_cases source content db with ⟨failure, failed⟩ | ⟨record, cleanup, stored, done, put⟩
  · rw [failed]
    exact backed
  · rw [done]
    exact put.backed presented backed

theorem deleteArtifactInTx_backed (artifactId : ArtifactId) (backed : Backed known db) :
    Backed known (deleteArtifactInTx artifactId db).2.2 := by
  unfold deleteArtifactInTx
  cases db.artifacts.find artifactId with
  | none => exact backed
  | some row =>
    apply backed.of_kept
    · intro other member
      rw [artifacts_releaseBlob] at member
      exact List.mem_of_mem_filter member
    · intro digest file _ found
      rw [blobFiles_releaseBlob]
      exact found

theorem ingest_backed (result : TerminalResultRecord) (artifacts : List OriginResultArtifact) (executor : PeerId)
    (presented : ∀ artifact ∈ artifacts, known artifact.content) (backed : Backed known db) :
    Backed known (ingestRemoteResultWithArtifacts result artifacts executor db).2 := by
  have ended := ingest_cases result artifacts executor db
  generalize ingestRemoteResultWithArtifacts result artifacts executor db = outcome at ended
  cases ended with
  | refused => exact backed
  | answered => exact backed
  | rolledBack failure task records prepared written stopped inspected prepares =>
    have done := prepareBlobs_prepares _ (Prepares.nil db) prepares
    have rows := congrArg Db.artifacts done.tables
    change written.artifacts = db.artifacts at rows
    apply backed.of_kept
    · intro row member
      rw [← rows]
      exact member
    · intro digest file _ found
      have kept := prepareBlobs_keeps_file (artifacts.zip records) [] found
      rw [prepares] at kept
      exact done.rolledBack_kept found kept
  | applied task records prepared written updated after inspected prepares applies =>
    have archives := applied_archives inspected prepares applies
    intro row member apart
    rw [archives.rows] at member
    rcases List.mem_append.mp member with older | new
    · obtain ⟨earlier, found, backs⟩ := backed row older apart
      exact ⟨earlier, archives.kept _ _ found, backs⟩
    · obtain ⟨artifact, listed, rfl⟩ := List.mem_map.mp new
      obtain ⟨other, otherListed, found, hashed, _⟩ := archives.filed artifact listed apart
      refine ⟨other.content, found, presented other otherListed, hashed, ?_⟩
      intro distinguished
      rw [distinguished _ _ (presented other otherListed) (presented artifact listed) hashed]
      rfl

theorem Backed.cleanUp {cleanup : Option Digest} (backed : Backed known db) (counted : Counted db)
    (unused : ∀ digest, cleanup = some digest → db.refCount digest = 0) : Backed known (db.cleanUp cleanup) := by
  apply backed.of_kept
  · intro row member
    rwa [artifacts_cleanUp] at member
  · intro digest file referenced found
    rw [Db.references, artifacts_cleanUp] at referenced
    exact cleanUp_keeps_file counted unused referenced found

theorem step_backed (op : Op) (presented : ∀ content ∈ op.contents, known content) (counted : Counted db)
    (backed : Backed known db) : Backed known (step db op) := by
  cases op with
  | putArtifact source content =>
    show Backed known (putArtifact source content db).2
    rw [putArtifact_cleansUp]
    have stored : Backed known (putArtifactInTx source content db).2.2 :=
      putArtifactInTx_backed (presented content (List.mem_singleton_self content)) backed
    apply stored.cleanUp (counted_putArtifactInTx source content counted)
    rcases putArtifactInTx_cases source content db with ⟨failure, failed⟩ | ⟨record, cleanup, stored, done, put⟩
    · rw [failed]
      nofun
    · rw [done]
      exact put.unused
  | deleteArtifact artifactId =>
    show Backed known (deleteArtifact artifactId db).2
    rw [deleteArtifact_cleansUp]
    apply (deleteArtifactInTx_backed artifactId backed).cleanUp (counted_deleteArtifactInTx artifactId counted)
    intro digest last
    unfold deleteArtifactInTx at last ⊢
    cases found : db.artifacts.find artifactId with
    | none =>
      rw [found] at last
      cases last
    | some row =>
      rw [found] at last
      exact refCount_released _ last
  | ingestRemoteResultWithArtifacts result artifacts executor =>
    apply ingest_backed result artifacts executor _ backed
    intro artifact member
    exact presented artifact.content (List.mem_map_of_mem member)
  | _ => exact backed.of_archive (step_archive db rfl rfl)

theorem step_cleanUp_file {shared : Shared} {index : Nat} {cleanup : Cleanup}
    (owed : shared.cleanups[index]? = some cleanup) (pending : cleanup.fileRemoved = false) :
    shared.step (.cleanUp index) =
      { db := shared.db.removeBlobFile cleanup.digest
        cleanups := shared.cleanups.set index { cleanup with fileRemoved := true } } := by
  simp [Shared.step, owed, pending]

theorem shared_backed (shared : Shared) (op : SharedOp) (counted : Counted shared.db) (backed : Backed known shared.db)
    (unreferenced : RemovesUnreferenced shared op) (presented : ∀ content ∈ op.contents, known content) :
    Backed known (shared.step op).db := by
  cases op with
  | putArtifact source content => exact putArtifactInTx_backed (presented content (List.mem_singleton_self content)) backed
  | deleteArtifact artifactId => exact deleteArtifactInTx_backed artifactId backed
  | ingestRemoteResultWithArtifacts result artifacts executor =>
    apply ingest_backed result artifacts executor _ backed
    intro artifact member
    exact presented artifact.content (List.mem_map_of_mem member)
  | store op => exact step_backed op presented counted backed
  | cleanUp index =>
    cases owed : shared.cleanups[index]? with
    | none =>
      simp only [Shared.step, owed]
      exact backed
    | some cleanup =>
      cases removed : cleanup.fileRemoved with
      | true =>
        simp only [Shared.step, owed, removed, if_true]
        exact backed.of_kept (fun _ member => member) (fun _ _ _ found => found)
      | false =>
        rw [step_cleanUp_file owed removed]
        refine backed.of_kept (fun _ member => member) ?_
        intro digest file referenced found
        have key : file.digest = digest := Table.find_key found
        refine Table.find_keep_some.mpr ⟨found, decide_eq_true ?_⟩
        intro same
        have unused := unreferenced cleanup owed removed
        rw [← same, key] at unused
        exact absurd unused (Nat.pos_iff_ne_zero.mp referenced)

/-- Every artifact that is not stored inline has a file with bytes of its digest. -/
def BytesKept (db : Db) : Prop :=
  ∀ row ∈ db.artifacts.rows, row.record.inlined = false →
    ∃ content, db.blobFiles.find row.record.digest = some { digest := row.record.digest, content } ∧
      Digest.compute content = row.record.digest

def Readable (db : Db) : Prop :=
  ∀ row ∈ db.artifacts.rows, row.record.inlined = false →
    ∃ content, getArtifact row.record.artifactId db = .ok (row.record, content)

theorem Backed.bytesKept (backed : Backed known db) : BytesKept db := by
  intro row member apart
  obtain ⟨content, found, backs⟩ := backed row member apart
  exact ⟨content, found, backs.hashed⟩

theorem Backed.readable (backed : Backed known db) (distinguished : Distinguished known) : Readable db := by
  intro row member apart
  obtain ⟨content, found, backs⟩ := backed row member apart
  refine ⟨content, getArtifact_ok.mpr ⟨row, Table.find_of_mem member, rfl, ?_⟩⟩
  rw [if_neg (by simp [apart])]
  exact readVerifiedBlob_ok.mpr ⟨found, backs.sized distinguished, backs.hashed⟩

theorem removal_loses_bytes (shared : Shared) (op : SharedOp) (referenced : ¬ RemovesUnreferenced shared op) :
    ¬ BytesKept (shared.step op).db := by
  cases op with
  | cleanUp index =>
    simp only [RemovesUnreferenced, not_forall] at referenced
    obtain ⟨cleanup, owed, pending, used⟩ := referenced
    rw [step_cleanUp_file owed pending]
    intro kept
    obtain ⟨row, member, refers⟩ := List.countP_pos_iff.mp (Nat.pos_of_ne_zero used)
    simp only [refersTo, Bool.and_eq_true, Bool.not_eq_true', decide_eq_true_eq] at refers
    obtain ⟨content, found, _⟩ := kept row member refers.1
    have remains := (Table.find_keep_some.mp found).2
    rw [refers.2] at remains
    exact of_decide_eq_true remains rfl
  | _ => exact absurd trivial referenced

theorem shared_kept (known : Bytes → Prop) (shared : Shared) (op : SharedOp)
    (holds : Counted shared.db ∧ Backed known shared.db)
    (allowed : RemovesUnreferenced shared op ∧ ∀ content ∈ op.contents, known content) :
    Counted (shared.step op).db ∧ Backed known (shared.step op).db :=
  ⟨shared_counted shared op holds.1, shared_backed shared op holds.1 holds.2 allowed.1 allowed.2⟩

/-- The bytes of every artifact are in its file throughout exactly if no cleanup removes a file that a row refers to.
Every artifact then reads back, unless two contents have the same digest. -/
theorem bytes_kept_iff (ops : List SharedOp) :
    (Throughout Shared.step (fun shared => BytesKept shared.db) .empty ops ↔
        Along Shared.step RemovesUnreferenced .empty ops) ∧
      (Along Shared.step RemovesUnreferenced .empty ops → Distinguished (· ∈ ops.flatMap SharedOp.contents) →
        Throughout Shared.step (fun shared => Readable shared.db) .empty ops) := by
  constructor
  · refine Run.throughout_iff (fun shared : Shared => Counted shared.db ∧ Backed (fun _ => True) shared.db)
      (fun shared holds => holds.2.bytesKept) ?_ ?_ ⟨fun _ => rfl, Backed.empty⟩ (fun _ _ => trivial)
    · intro shared op _ holds allowed
      exact shared_kept _ shared op holds ⟨allowed, fun _ _ => trivial⟩
    · intro shared op _ _ refused
      exact removal_loses_bytes shared op refused
  · intro allowed distinguished passed earlier
    have brought : ∀ op ∈ ops, ∀ content ∈ op.contents, content ∈ ops.flatMap SharedOp.contents :=
      fun op member content listed => List.mem_flatMap.mpr ⟨op, member, listed⟩
    have backed := Run.throughout_of_along (shared_kept (· ∈ ops.flatMap SharedOp.contents)) ⟨fun _ => rfl, Backed.empty⟩
      (Run.along_and_mem allowed brought) passed earlier
    exact backed.2.readable distinguished

end

def recordOf (source : ArtifactMeta) (content : Bytes) : ArtifactRecord :=
  artifactRecordFromMeta source source.digest content.length

section
variable [Sha256] {source : ArtifactMeta} {content : Bytes} {digest : Digest}

theorem prepareBlobWrite_missing (missing : db.blobFiles.find digest = none) :
    prepareBlobWrite digest content db =
      .ok ({ digest, removeOnRollback := !(db.blobs.find digest).isSome },
        { db with blobFiles := db.blobFiles.put { digest, content } }) := by
  simp [prepareBlobWrite, writeNewBlobFile, missing]

theorem prepareBlobWrite_present (hashed : Digest.compute content = digest)
    (tracked : (db.blobs.find digest).isSome = true) (present : db.blobFiles.find digest = some { digest, content }) :
    prepareBlobWrite digest content db = .ok ({ digest, removeOnRollback := false }, db) := by
  have verified := readVerifiedBlob_ok.mpr ⟨present, rfl, hashed⟩
  simp [prepareBlobWrite, tracked, present, verified]

/-- The artifact is not too large, has the digest it is said to have, and its task is known. -/
structure Valid (source : ArtifactMeta) (content : Bytes) (db : Db) : Prop where
  bounded : content.length ≤ maxBlobBytes
  hashed : Digest.compute content = source.digest
  stored : db.tasks.find source.taskId ≠ none

theorem putArtifactInTx_valid (valid : Valid source content db) :
    putArtifactInTx source content db =
      match associateBlob ((db.artifacts.find source.artifactId).map (·.record)) (recordOf source content) content db with
      | .error failure => (.error failure, none, db)
      | .ok counted =>
        (.ok (recordOf source content), (counted.putArtifactRow (recordOf source content) content).releaseBlob
          (((db.artifacts.find source.artifactId).map (·.record)).filter
            (fun old => shouldDropBlobAssociation old (recordOf source content)))) := by
  obtain ⟨bounded, hashed, stored⟩ := valid
  unfold putArtifactInTx
  simp only [hashed]
  rw [if_neg (Nat.not_lt.mpr bounded), if_neg (not_not.mpr rfl)]
  exact if_neg stored

end

def largeContent : Bytes := List.replicate 65537 0

def firstArtifact : ArtifactId := ⟨"artifact-1", by decide, by decide, by decide⟩

def secondArtifact : ArtifactId := ⟨"artifact-2", by decide, by decide, by decide⟩

def largeArtifact (artifactId : ArtifactId) : ArtifactMeta :=
  { artifactId, taskId := sampleTask, digest := default, mediaType := defaultMediaType, byteLen := 65537,
    inlined := false, createdAt := "" }

/-- The digest of a deleted artifact is stored again before the cleanup of the deletion has run. -/
def lateRemoval : List SharedOp :=
  [.store (.acceptTask (TaskRecord.new sampleTask .pending none)),
    .putArtifact (largeArtifact firstArtifact) largeContent, .deleteArtifact firstArtifact,
    .putArtifact (largeArtifact secondArtifact) largeContent, .cleanUp 0, .cleanUp 0]

def taskStored : Db := run (@step default) .empty [.acceptTask (TaskRecord.new sampleTask .pending none)]

def largeRecord (artifactId : ArtifactId) : ArtifactRecord :=
  artifactRecordFromMeta (largeArtifact artifactId) default 65537

def largeStored (artifactId : ArtifactId) (content : Bytes) : Db :=
  { taskStored with
    artifacts := Table.empty.put ⟨largeRecord artifactId, none⟩
    blobs := Table.empty.put ⟨default, 1, 65537⟩
    blobFiles := Table.empty.put ⟨default, content⟩ }

def largeDeleted (content : Bytes) : Db :=
  { taskStored with
    blobs := Table.empty.put ⟨default, 0, 65537⟩
    blobFiles := Table.empty.put ⟨default, content⟩ }

section
variable {content : Bytes} (artifactId : ArtifactId) (sized : content.length = 65537)
include sized

theorem largeArtifact_valid {db : Db} (stored : db.tasks = taskStored.tasks) :
    @Valid default (largeArtifact artifactId) content db := by
  refine @Valid.mk default _ _ _ ?_ rfl ?_
  · rw [sized]
    decide
  · rw [stored]
    show taskStored.tasks.find sampleTask ≠ none
    decide

theorem largeArtifact_stored :
    @putArtifactInTx default (largeArtifact artifactId) content taskStored =
      (.ok (largeRecord artifactId), none, largeStored artifactId content) := by
  rw [@putArtifactInTx_valid taskStored default _ _ (largeArtifact_valid artifactId sized rfl)]
  simp only [associateBlob, recordOf, sized]
  rw [if_pos (by rfl), @prepareBlobWrite_missing taskStored default content _ rfl]
  rfl

theorem largeArtifact_stored_again :
    @putArtifactInTx default (largeArtifact artifactId) content (largeDeleted content) =
      (.ok (largeRecord artifactId), none, largeStored artifactId content) := by
  rw [@putArtifactInTx_valid (largeDeleted content) default _ _ (largeArtifact_valid artifactId sized rfl)]
  simp only [associateBlob, recordOf, sized]
  rw [if_pos (by rfl), @prepareBlobWrite_present (largeDeleted content) default content
    (artifactRecordFromMeta (largeArtifact artifactId) (largeArtifact artifactId).digest 65537).digest rfl rfl rfl]
  rfl

end

theorem lateRemoval_ends : run (@Shared.step default) .empty lateRemoval =
    { db := { largeStored secondArtifact largeContent with blobFiles := .empty }, cleanups := [] } := by
  have sized : largeContent.length = 65537 := List.length_replicate
  have put : @Shared.step default { db := taskStored, cleanups := [] }
      (.putArtifact (largeArtifact firstArtifact) largeContent) =
      { db := largeStored firstArtifact largeContent, cleanups := [] } := by
    simp only [Shared.step, largeArtifact_stored firstArtifact sized]
    rfl
  have again : @Shared.step default
      { db := largeDeleted largeContent, cleanups := [{ digest := default, fileRemoved := false }] }
      (.putArtifact (largeArtifact secondArtifact) largeContent) =
      { db := largeStored secondArtifact largeContent
        cleanups := [{ digest := default, fileRemoved := false }] } := by
    simp only [Shared.step, largeArtifact_stored_again secondArtifact sized]
    rfl
  simp only [lateRemoval, run_cons, run_nil]
  show @Shared.step default (@Shared.step default (@Shared.step default (@Shared.step default (@Shared.step default
    { db := taskStored, cleanups := [] } _) _) _) _) _ = _
  rw [put]
  show @Shared.step default (@Shared.step default (@Shared.step default
    { db := largeDeleted largeContent, cleanups := [{ digest := default, fileRemoved := false }] } _) _) _ = _
  rw [again]
  rfl

theorem late_removal_loses_bytes :
    ¬ ∀ ops, (run (@Shared.step default) .empty ops).cleanups = [] →
      @BytesKept default (run (@Shared.step default) .empty ops).db := by
  intro every
  obtain ⟨content, found, _⟩ := every lateRemoval (by rw [lateRemoval_ends]) ⟨largeRecord secondArtifact, none⟩
    (by rw [lateRemoval_ends]; exact List.mem_singleton_self _) rfl
  rw [lateRemoval_ends] at found
  cases found

end Keryx.Store.Sqlite
