import Keryx.Store.Sqlite.Duplicates

/-! A remote result that its origin waits for is applied, and its artifacts can be read. -/

namespace Keryx.Store.Sqlite
open Keryx.Core Relational Relational.Transaction

theorem startIfPending_succeeds {db : Db} {taskId : TaskId} {task : TaskRecord} (unfinished : task.status.isTerminal = false)
    (found : db.tasks.find taskId = some task) :
    ∃ started, startIfPending taskId task.status db = .ok (.running, started) ∧
      started.artifacts = db.artifacts ∧ ∃ running, started.tasks.find taskId = some running := by
  unfold startIfPending
  cases status : task.status with
  | pending =>
    rw [if_pos rfl]
    refine ⟨((db.updateTaskStatus taskId .running).appendEvent taskId .taskStarted (some .pending) .running), ?_, rfl,
      { task with status := .running }, ?_⟩
    · simp only [query_bind, execute_bind, insertEvent_bind, pure_ok, and_true]
      rfl
    · simp only [Db.appendEvent, Db.updateTaskStatus, Table.find_update, if_true, found, Option.map_some]
  | running =>
    rw [if_neg (by decide)]
    exact ⟨db, rfl, rfl, task, found⟩
  | completed =>
    rw [status] at unfinished
    cases unfinished
  | failed =>
    rw [status] at unfinished
    cases unfinished

section
variable [Sha256] {db after : Db} {artifact : OriginResultArtifact} {artifacts : List OriginResultArtifact}
  {result : TerminalResultRecord} {executor : PeerId}

/-- There is no file for the bytes yet, or a tracked one that holds them. -/
def Db.TakesBlob (artifact : OriginResultArtifact) (db : Db) : Prop :=
  db.blobFiles.find (originRecord artifact).digest = none ∨
    (db.blobs.find (originRecord artifact).digest).isSome ∧
      db.blobFiles.find (originRecord artifact).digest = some ⟨(originRecord artifact).digest, artifact.content⟩

theorem prepareBlobWrite_succeeds (takes : db.TakesBlob artifact) :
    ∃ write written, prepareBlobWrite (originRecord artifact).digest artifact.content db = .ok (write, written) ∧
      write.digest = (originRecord artifact).digest ∧ written.blobs = db.blobs ∧
      ∀ digest, digest ≠ (originRecord artifact).digest → written.blobFiles.find digest = db.blobFiles.find digest := by
  unfold prepareBlobWrite
  simp only
  rcases takes with missing | ⟨tracked, found⟩
  · rw [if_neg (by rw [missing]; simp)]
    unfold writeNewBlobFile
    rw [missing]
    refine ⟨_, _, rfl, rfl, rfl, ?_⟩
    intro digest different
    exact Table.find_put_ne db.blobFiles ⟨(originRecord artifact).digest, artifact.content⟩ different
  · rw [if_pos ⟨tracked, by rw [found]; rfl⟩]
    have read : readVerifiedBlob (originRecord artifact).digest artifact.content.length db = .ok artifact.content :=
      readVerifiedBlob_ok.mpr ⟨found, rfl, rfl⟩
    rw [read]
    simp only [if_true]
    exact ⟨_, _, rfl, rfl, rfl, fun _ _ => rfl⟩

theorem prepareBlobs_succeeds (prepared : List PreparedBlobWrite)
    (takes : ∀ artifact ∈ artifacts, (originRecord artifact).inlined = false →
      (∀ write ∈ prepared, write.digest ≠ (originRecord artifact).digest) → db.TakesBlob artifact) :
    ∃ final written, prepareBlobs (artifacts.map fun artifact => (artifact, originRecord artifact)) prepared db =
      (final, written, none) := by
  induction artifacts generalizing prepared db with
  | nil => exact ⟨prepared, db, rfl⟩
  | cons artifact artifacts ih =>
    obtain ⟨first, rest⟩ := List.forall_mem_cons.mp takes
    rw [List.map_cons, prepareBlobs]
    split
    · exact ih prepared rest
    · rename_i needed
      obtain ⟨apart, fresh⟩ := not_or.mp needed
      have unprepared : ∀ write ∈ prepared, write.digest ≠ (originRecord artifact).digest := by
        intro write member same
        exact fresh (List.any_eq_true.mpr ⟨write, member, decide_eq_true same⟩)
      obtain ⟨write, written, success, named, blobs, others⟩ :=
        prepareBlobWrite_succeeds (first ((Bool.not_eq_true _).mp apart) unprepared)
      rw [success]
      apply ih
      -- The digests that are still to come are not the one that was just written.
      intro later member filed untouched
      have different : (originRecord later).digest ≠ (originRecord artifact).digest := by
        intro same
        exact untouched write (List.mem_append_right _ (List.mem_singleton_self _)) (named.trans same.symm)
      have ready := rest later member filed fun write listed => untouched write (List.mem_append_left _ listed)
      unfold Db.TakesBlob at ready ⊢
      rw [others _ different, blobs]
      exact ready

theorem insertOriginArtifacts_succeeds
    (free : ∀ artifact ∈ artifacts, db.artifacts.find artifact.artifactMeta.artifactId = none)
    (distinct : (artifacts.map (·.artifactMeta.artifactId)).Nodup) :
    ∃ after, insertOriginArtifacts (artifacts.map fun artifact => (artifact, originRecord artifact)) db =
      .ok ((), after) := by
  induction artifacts generalizing db with
  | nil => exact ⟨db, rfl⟩
  | cons artifact artifacts ih =>
    obtain ⟨absent, rest⟩ := List.forall_mem_cons.mp free
    obtain ⟨apart, distinct⟩ := List.nodup_cons.mp distinct
    simp only [List.map_cons, insertOriginArtifacts, execute_bind, query_bind, ensure_bind]
    have same := (count_leaves (originRecord artifact) db).2
    have inserts : ∀ later ∈ artifacts,
        (((if (originRecord artifact).inlined then db
          else db.incrementBlobRef (originRecord artifact).digest (originRecord artifact).byteLen).putArtifactRow
            (originRecord artifact) artifact.content).artifacts).find later.artifactMeta.artifactId = none := by
      intro later member
      have different : later.artifactMeta.artifactId ≠ artifact.artifactMeta.artifactId := by
        intro equal
        exact apart (List.mem_map.mpr ⟨later, member, equal⟩)
      have kept := Table.find_put_ne db.artifacts (originRow artifact) different
      unfold Db.putArtifactRow
      rw [same]
      exact kept.trans (rest later member)
    obtain ⟨after, inserted⟩ := ih inserts distinct
    refine ⟨after, ?_, inserted⟩
    rw [same]
    exact absent

/-- The task is bound to its executor and unfinished, and there is room for the artifacts under their ids, which
SHA-256 keeps apart. -/
structure Awaits (result : TerminalResultRecord) (artifacts : List OriginResultArtifact) (executor : PeerId) (db : Db) :
    Prop where
  terminal : result.terminalStatus.isTerminal = true
  executes : result.executorPeerId = executor
  bound : ∃ context, db.transportContexts.find result.taskId = some context ∧
    context.expectedExecutorPeerId = some executor
  unfinished : ∃ task, db.tasks.find result.taskId = some task ∧ task.status.isTerminal = false
  unanswered : db.terminalResults.find result.taskId = none
  free : ∀ artifact ∈ artifacts, db.artifacts.find artifact.artifactMeta.artifactId = none
  distinct : (artifacts.map (·.artifactMeta.artifactId)).Nodup
  files : ∀ artifact ∈ artifacts, maxInlineArtifactBytes < artifact.content.length → db.TakesBlob artifact

theorem applyRemoteResult_succeeds {task : TaskRecord} (terminal : result.terminalStatus.isTerminal = true)
    (unfinished : task.status.isTerminal = false) (found : db.tasks.find result.taskId = some task)
    (free : ∀ artifact ∈ artifacts, db.artifacts.find artifact.artifactMeta.artifactId = none)
    (distinct : (artifacts.map (·.artifactMeta.artifactId)).Nodup) :
    ∃ updated after, applyRemoteResult result task (artifacts.map fun artifact => (artifact, originRecord artifact)) db =
      .ok (updated, after) := by
  obtain ⟨started, begins, rows, running, present⟩ := startIfPending_succeeds unfinished found
  obtain ⟨transition, legal⟩ := (validateTransition_running terminal).mpr rfl
  have moved : ∀ artifact ∈ artifacts,
      ((started.updateTaskStatus result.taskId result.terminalStatus).appendEvent result.taskId transition.eventType
        (some transition.fromStatus) transition.toStatus).artifacts.find artifact.artifactMeta.artifactId = none := by
    intro artifact member
    show started.artifacts.find _ = none
    rw [rows]
    exact free artifact member
  obtain ⟨archived, inserted⟩ := insertOriginArtifacts_succeeds moved distinct
  have kept := congrArg Db.tasks (preserves_insertOriginArtifacts _ _ _ _ inserted)
  have there : ∃ updated, archived.tasks.find result.taskId = some updated := by
    change archived.tasks = (started.updateTaskStatus result.taskId result.terminalStatus).tasks at kept
    rw [kept]
    simp only [Db.updateTaskStatus, Table.find_update, if_true, present, Option.map_some]
    exact ⟨_, rfl⟩
  obtain ⟨updated, listed⟩ := there
  refine ⟨updated, archived.insertTerminalResultOnly result, ?_⟩
  apply bind_ok.mpr
  refine ⟨.running, started, begins, ?_⟩
  simp only [check_bind, validated_ok, query_bind, execute_bind, insertEvent_bind]
  refine ⟨transition, legal, rfl, ?_⟩
  exact bind_ok.mpr ⟨(), archived, inserted, by simp only [execute_bind, fetchTask_ok, and_true]; exact listed⟩

theorem ingest_applies {records : List ArtifactRecord} (awaits : Awaits result artifacts executor db)
    (valid : validateOriginResultArtifacts result.taskId 0 0 artifacts = .ok records) :
    ∃ task, (ingestRemoteResultWithArtifacts result artifacts executor db).1 = .ok (.applied task) := by
  obtain ⟨task, present, unfinished⟩ := awaits.unfinished
  obtain ⟨rfl, _⟩ := validateOriginResultArtifacts_ok valid
  have unfailed : task.status ≠ .failed := by
    intro failed
    rw [failed] at unfinished
    cases unfinished
  have presented : Presented result artifacts executor db task (artifacts.map originRecord) none :=
    ⟨awaits.terminal, awaits.executes, valid, awaits.bound, present, remoteResultTerminalReason_unfailed unfailed⟩
  have absent : (artifacts.map originRecord).find? (fun record => (db.artifacts.find record.artifactId).isSome) =
      none := by
    rw [List.find?_eq_none]
    intro record listed
    obtain ⟨artifact, member, rfl⟩ := List.mem_map.mp listed
    have free := awaits.free artifact member
    change db.artifacts.find (originRecord artifact).artifactId = none at free
    rw [free]
    decide
  have weighs : inspectRemoteResult result artifacts executor db = .ok (.inr (task, artifacts.map originRecord)) := by
    rw [presented.inspected]
    unfold weighRemoteResult
    simp only [awaits.unanswered, absent]
    rfl
  obtain ⟨final, written, prepares⟩ := prepareBlobs_succeeds [] (fun artifact member filed _ =>
    awaits.files artifact member (inlined_originRecord.mp filed))
  have tables := beyondFiles_prepareBlobs (artifacts.map fun artifact => (artifact, originRecord artifact)) [] db
  rw [prepares] at tables
  have rows := congrArg Db.artifacts tables
  have tasks := congrArg Db.tasks tables
  change written.artifacts = db.artifacts at rows
  change written.tasks = db.tasks at tasks
  obtain ⟨updated, after, applies⟩ := @applyRemoteResult_succeeds _ written artifacts result task awaits.terminal unfinished
    (by rw [tasks]; exact present) (by rw [rows]; exact awaits.free) awaits.distinct
  refine ⟨updated, ?_⟩
  unfold ingestRemoteResultWithArtifacts
  rw [weighs]
  simp only [zip_originRecord, prepares, applies]

end

end Keryx.Store.Sqlite
