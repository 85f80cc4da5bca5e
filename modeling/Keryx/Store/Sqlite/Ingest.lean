import Keryx.Store.Sqlite.Blobs
import Keryx.Store.Sqlite.Runs
import Keryx.Store.Sqlite.Settlement

/-! The ingest of remote results: who may write, how often, and what a failure leaves. -/

namespace Keryx.Store.Sqlite
open Keryx.Core Relational Relational.Transaction Relational.Run

variable {db written after : Db} {digest : Digest} {content : Bytes} {prepared : List PreparedBlobWrite}
  {write : PreparedBlobWrite}

/-- The files written so far are for digests that were untracked, or are tracked. -/
structure Prepares (db : Db) (prepared : List PreparedBlobWrite) (written : Db) : Prop where
  tables : written.beyondFiles = db.beyondFiles
  untouched : ∀ digest, (∀ write ∈ prepared, write.digest ≠ digest) →
    written.blobFiles.find digest = db.blobFiles.find digest
  flagged : ∀ write ∈ prepared, write.removeOnRollback = true ↔ db.blobs.find write.digest = none
  fresh : ∀ write ∈ prepared, db.blobs.find write.digest = none → db.blobFiles.find write.digest = none

theorem Prepares.nil (db : Db) : Prepares db [] db := ⟨rfl, fun _ _ => rfl, by simp, by simp⟩

theorem Prepares.rolledBack (prepares : Prepares db prepared written) (untracked : db.blobs.find digest = none) :
    (rollbackPreparedBlobWrites prepared written).blobFiles.find digest = db.blobFiles.find digest := by
  obtain ⟨_, untouched, flagged, fresh⟩ := prepares
  unfold rollbackPreparedBlobWrites
  simp only [Table.find_keep]
  by_cases touched : ∃ write ∈ prepared, write.digest = digest
  · obtain ⟨write, member, rfl⟩ := touched
    have removes := (flagged write member).mpr untracked
    rw [fresh write member untracked]
    cases found : written.blobFiles.find write.digest with
    | none => rfl
    | some file =>
      have key : file.digest = write.digest := Table.find_key found
      refine Option.filter_some_neg ?_
      rw [Bool.not_eq_false', List.any_eq_true]
      exact ⟨write, member, by simp [removes, key]⟩
  · have clear : ∀ write ∈ prepared, write.digest ≠ digest := fun write member same => touched ⟨write, member, same⟩
    rw [untouched digest clear]
    cases found : db.blobFiles.find digest with
    | none => rfl
    | some file =>
      have key : file.digest = digest := Table.find_key found
      refine Option.filter_some_pos ?_
      simp only [Bool.not_eq_true', List.any_eq_false]
      intro write member
      simp [key, clear write member]

theorem Prepares.rolledBack_kept {file : BlobFile} (prepares : Prepares db prepared written)
    (found : db.blobFiles.find digest = some file) (kept : written.blobFiles.find digest = some file) :
    (rollbackPreparedBlobWrites prepared written).blobFiles.find digest = some file := by
  obtain ⟨_, _, flagged, fresh⟩ := prepares
  have key : file.digest = digest := Table.find_key found
  unfold rollbackPreparedBlobWrites
  simp only [Table.find_keep, kept]
  refine Option.filter_some_pos ?_
  rw [Bool.not_eq_true', List.any_eq_false]
  intro write member removed
  obtain ⟨removes, same⟩ := Bool.and_eq_true_iff.mp removed
  have named : write.digest = digest := (of_decide_eq_true same).trans key
  have missing := fresh write member ((flagged write member).mp removes)
  rw [named, found] at missing
  cases missing

section
variable [Sha256]

theorem readVerifiedBlob_ok {byteLen : Nat} :
    readVerifiedBlob digest byteLen db = .ok content ↔
      db.blobFiles.find digest = some { digest, content } ∧ content.length = byteLen ∧ Digest.compute content = digest := by
  unfold readVerifiedBlob
  cases found : db.blobFiles.find digest with
  | none => simp
  | some file =>
    have key : file.digest = digest := Table.find_key found
    obtain ⟨stored, bytes⟩ := file
    subst key
    simp only
    by_cases short : bytes.length = byteLen
    · by_cases intact : Digest.compute bytes = stored
      · rw [if_neg (not_not.mpr short), if_neg (not_not.mpr intact)]
        constructor
        · intro same
          cases same
          exact ⟨rfl, short, intact⟩
        · rintro ⟨same, _⟩
          cases same
          rfl
      · rw [if_neg (not_not.mpr short), if_pos intact]
        refine iff_of_false nofun ?_
        rintro ⟨same, _, computed⟩
        cases same
        exact intact computed
    · rw [if_pos short]
      refine iff_of_false nofun ?_
      rintro ⟨same, sized, _⟩
      cases same
      exact short sized

theorem prepareBlobWrite_ok (success : prepareBlobWrite digest content db = .ok (write, after)) :
    write = { digest, removeOnRollback := !(db.blobs.find digest).isSome } ∧
      ((db.blobs.find digest).isSome ∧ db.blobFiles.find digest = some { digest, content } ∧ after = db ∨
        db.blobFiles.find digest = none ∧ after = { db with blobFiles := db.blobFiles.put { digest, content } }) := by
  unfold prepareBlobWrite at success
  simp only at success
  split at success
  · rename_i tracked
    split at success
    · cases success
    · rename_i existing verified
      split at success
      · rename_i same
        subst same
        cases success
        exact ⟨rfl, .inl ⟨tracked.1, (readVerifiedBlob_ok.mp verified).1, rfl⟩⟩
      · cases success
  · unfold writeNewBlobFile at success
    cases found : db.blobFiles.find digest with
    | none =>
      rw [found] at success
      cases success
      exact ⟨rfl, .inr ⟨rfl, rfl⟩⟩
    | some file =>
      rw [found] at success
      cases success

theorem prepareBlobWrite_file (success : prepareBlobWrite digest content db = .ok (write, after)) :
    after.blobFiles.find digest = some { digest, content } := by
  obtain ⟨_, ⟨_, found, rfl⟩ | ⟨_, rfl⟩⟩ := prepareBlobWrite_ok success
  · exact found
  · exact Table.find_put_self db.blobFiles { digest, content }

theorem prepareBlobWrite_keeps_file {other : Digest} {file : BlobFile} (found : db.blobFiles.find other = some file)
    (success : prepareBlobWrite digest content db = .ok (write, after)) : after.blobFiles.find other = some file := by
  obtain ⟨_, ⟨_, _, rfl⟩ | ⟨missing, rfl⟩⟩ := prepareBlobWrite_ok success
  · exact found
  · have different : other ≠ digest := by
      rintro rfl
      rw [missing] at found
      cases found
    exact (Table.find_put_ne _ _ different).trans found

theorem prepareBlobs_keeps_file {file : BlobFile} (pairs : List (OriginResultArtifact × ArtifactRecord))
    (prepared : List PreparedBlobWrite) (found : db.blobFiles.find digest = some file) :
    (prepareBlobs pairs prepared db).2.1.blobFiles.find digest = some file := by
  induction pairs generalizing prepared db with
  | nil => exact found
  | cons pair pairs ih =>
    unfold prepareBlobs
    split
    · exact ih prepared found
    · split
      · exact found
      · rename_i write written success
        exact ih (prepared ++ [write]) (prepareBlobWrite_keeps_file found success)

theorem Prepares.next (prepares : Prepares db prepared written) (first : ∀ write ∈ prepared, write.digest ≠ digest)
    (success : prepareBlobWrite digest content written = .ok (write, after)) :
    Prepares db (prepared ++ [write]) after := by
  obtain ⟨tables, untouched, flagged, fresh⟩ := prepares
  obtain ⟨rfl, files⟩ := prepareBlobWrite_ok success
  have blobs := congrArg Db.blobs tables
  change written.blobs = db.blobs at blobs
  refine ⟨(beyondFiles_prepareBlobWrite success).trans tables, fun other clear => ?_, fun write member => ?_,
    fun write member => ?_⟩
  · have earlier := untouched other fun write member => clear write (List.mem_append_left _ member)
    have different : other ≠ digest := fun same => clear _ (List.mem_append_right _ (List.mem_singleton_self _)) same.symm
    rcases files with ⟨_, _, rfl⟩ | ⟨_, rfl⟩
    · exact earlier
    · exact (Table.find_put_ne _ _ different).trans earlier
  · rcases List.mem_append.mp member with earlier | last
    · exact flagged write earlier
    · rw [List.mem_singleton.mp last, blobs]
      simp
  · rcases List.mem_append.mp member with earlier | last
    · exact fresh write earlier
    · rw [List.mem_singleton.mp last]
      intro untracked
      rw [← untouched digest first]
      rcases files with ⟨tracked, _⟩ | ⟨missing, _⟩
      · rw [blobs, untracked] at tracked
        cases tracked
      · exact missing

theorem prepareBlobs_prepares (pairs : List (OriginResultArtifact × ArtifactRecord)) {final : List PreparedBlobWrite}
    {stopped : Option StoreError} (prepares : Prepares db prepared written)
    (done : prepareBlobs pairs prepared written = (final, after, stopped)) : Prepares db final after := by
  induction pairs generalizing prepared written with
  | nil =>
    cases done
    exact prepares
  | cons pair pairs ih =>
    unfold prepareBlobs at done
    split at done
    · exact ih prepares done
    · rename_i needed
      split at done
      · cases done
        exact prepares
      · rename_i write next success
        refine ih (prepares.next ?_ success) done
        intro earlier member same
        apply needed
        exact .inr (List.any_eq_true.mpr ⟨earlier, member, decide_eq_true same⟩)

variable {result : TerminalResultRecord} {artifacts : List OriginResultArtifact} {executor : PeerId}

theorem ingest_writes {task : TaskRecord}
    (applied : (ingestRemoteResultWithArtifacts result artifacts executor db).1 = .ok (.applied task)) :
    ∃ stored records prepared written,
      inspectRemoteResult result artifacts executor db = .ok (.inr (stored, records)) ∧
        prepareBlobs (artifacts.zip records) [] db = (prepared, written, none) ∧
        applyRemoteResult result stored (artifacts.zip records) written =
          .ok (task, (ingestRemoteResultWithArtifacts result artifacts executor db).2) := by
  have ended := ingest_cases result artifacts executor db
  generalize ingestRemoteResultWithArtifacts result artifacts executor db = outcome at ended applied
  cases ended with
  | refused => cases applied
  | answered outcome inspected =>
    cases applied
    exact absurd rfl (inspected_answer inspected task)
  | rolledBack => cases applied
  | applied stored records prepared written updated after inspected prepares applies =>
    cases applied
    exact ⟨stored, records, prepared, written, inspected, prepares, applies⟩

theorem ingest_applied {task : TaskRecord}
    (applied : (ingestRemoteResultWithArtifacts result artifacts executor db).1 = .ok (.applied task)) :
    db.terminalResults.find result.taskId = none ∧
      (ingestRemoteResultWithArtifacts result artifacts executor db).2.terminalResults.find result.taskId =
        some result := by
  obtain ⟨stored, records, prepared, written, inspected, _, applies⟩ := ingest_writes applied
  obtain ⟨_, unsettled, _⟩ := inspectRemoteResult_write inspected
  obtain ⟨moved, archived, _, _, same⟩ := applyRemoteResult_inserts applies
  rw [same]
  exact ⟨unsettled, Table.find_put_self _ _⟩

/-- An ingest writes for the executor that the task is bound to alone, applies one result for a task in its whole
history, and leaves every table as it was where it applies none. -/
theorem ingest_authorized_once_atomic (result : TerminalResultRecord) (artifacts : List OriginResultArtifact)
    (executor : PeerId) (db : Db) :
    ((ingestRemoteResultWithArtifacts result artifacts executor db).2 ≠ db →
      result.executorPeerId = executor ∧ ∃ context, db.transportContexts.find result.taskId = some context ∧
        context.expectedExecutorPeerId = some executor) ∧
    (∀ task, (ingestRemoteResultWithArtifacts result artifacts executor db).1 = .ok (.applied task) →
      ∀ ops later carried presenter, later.taskId = result.taskId → ∀ other,
        (ingestRemoteResultWithArtifacts later carried presenter
          (run step (ingestRemoteResultWithArtifacts result artifacts executor db).2 ops)).1 ≠ .ok (.applied other)) ∧
    ((∀ task, (ingestRemoteResultWithArtifacts result artifacts executor db).1 ≠ .ok (.applied task)) →
      (ingestRemoteResultWithArtifacts result artifacts executor db).2.beyondFiles = db.beyondFiles ∧
        ∀ digest, db.blobs.find digest = none →
          (ingestRemoteResultWithArtifacts result artifacts executor db).2.blobFiles.find digest =
            db.blobFiles.find digest) := by
  refine ⟨?_, ?_, ?_⟩
  · intro changed
    have ended := ingest_cases result artifacts executor db
    generalize ingestRemoteResultWithArtifacts result artifacts executor db = outcome at ended changed
    cases ended with
    | refused => exact absurd rfl changed
    | answered => exact absurd rfl changed
    | rolledBack failure task records prepared written stopped inspected prepares =>
      obtain ⟨⟨_, presented⟩, _⟩ := inspectRemoteResult_write inspected
      exact ⟨presented.executes, presented.bound⟩
    | applied task records prepared written updated after inspected prepares applies =>
      obtain ⟨⟨_, presented⟩, _⟩ := inspectRemoteResult_write inspected
      exact ⟨presented.executes, presented.bound⟩
  · intro task applied ops later carried presenter sameTask other again
    have stored := run_keeps_result _ ops (ingest_applied applied).2
    have absent := (ingest_applied again).1
    rw [sameTask, stored] at absent
    cases absent
  · intro unapplied
    have ended := ingest_cases result artifacts executor db
    generalize ingestRemoteResultWithArtifacts result artifacts executor db = outcome at ended unapplied
    cases ended with
    | refused => exact ⟨rfl, fun _ _ => rfl⟩
    | answered => exact ⟨rfl, fun _ _ => rfl⟩
    | rolledBack failure task records prepared written stopped inspected prepares =>
      have done := prepareBlobs_prepares _ (Prepares.nil db) prepares
      exact ⟨done.tables, fun digest untracked => done.rolledBack untracked⟩
    | applied task records prepared written updated after => exact absurd rfl (unapplied updated)

end

/-- The result of the sample is applied, and not once more. -/
theorem sample_ingested_once :
    (@ingestRemoteResultWithArtifacts default ⟨sampleTask, [2], .completed, none, samplePeer, 5⟩ [] samplePeer
      (run (@step default) Db.empty [acceptForPeer, ingestCompletion])).1 ≠
      .ok (.applied (TaskRecord.new sampleTask .completed none)) :=
  (@ingest_authorized_once_atomic default ⟨sampleTask, [2], .completed, none, samplePeer, 5⟩ [] samplePeer
    (run (@step default) Db.empty [acceptForPeer])).2.1 (TaskRecord.new sampleTask .completed none) (by decide) []
    ⟨sampleTask, [2], .completed, none, samplePeer, 5⟩ [] samplePeer rfl (TaskRecord.new sampleTask .completed none)

end Keryx.Store.Sqlite
