import Keryx.Store.Sqlite.Origin
import Keryx.Store.Sqlite.Intake

/-! A remote result that is delivered again. -/

namespace Keryx.Store.Sqlite
open Keryx.Core Relational Relational.Transaction Relational.Run Lifecycle

variable {db after : Db} {taskId : TaskId}

theorem terminalReasonOf_none {events : List TaskEventRecord} :
    terminalReasonOf events = none ↔ ∀ event ∈ events, ¬ Interrupts event := by
  unfold terminalReasonOf
  rw [List.findSome?_eq_none_iff]
  simp only [List.mem_reverse]
  refine forall₂_congr fun event _ => ?_
  unfold Interrupts
  cases event.eventType <;> simp

theorem remoteResultTerminalReason_unfailed {task : TaskRecord} (unfailed : task.status ≠ .failed) :
    remoteResultTerminalReason task db = .ok none := by
  unfold remoteResultTerminalReason
  exact if_pos unfailed

theorem remoteResultTerminalReason_clear {task : TaskRecord} {cause : Option RemoteResultTerminalReason}
    (owner : task.id = taskId) (clear : terminalReasonOf (db.eventsForTask taskId) = none) :
    remoteResultTerminalReason task db = .ok cause ↔
      cause = none ∧ (task.status = .failed →
        ∃ rebuilt, replayTaskFromSnapshotAndEvents task (db.eventsForTask taskId) = .ok rebuilt) := by
  subst owner
  by_cases failed : task.status = .failed
  · rw [remoteResultTerminalReason, if_neg (not_not.mpr failed)]
    cases replayTaskFromSnapshotAndEvents task (db.eventsForTask task.id) with
    | error failure => simp [failed]
    | ok value =>
      simp only [clear, failed, true_implies, Except.ok.injEq, exists_eq', and_true]
      exact eq_comm
  · rw [remoteResultTerminalReason_unfailed failed]
    simp only [failed, false_implies, and_true, Except.ok.injEq]
    exact eq_comm

theorem applyRemoteResult_ends {result : TerminalResultRecord} {task value : TaskRecord}
    {pairs : List (OriginResultArtifact × ArtifactRecord)} (terminal : result.terminalStatus.isTerminal = true)
    (present : db.tasks.find result.taskId = some task)
    (success : applyRemoteResult result task pairs db = .ok (value, after)) :
    task.status.isTerminal = false ∧ after.tasks.find result.taskId = some value ∧
      value = { task with status := result.terminalStatus } := by
  obtain ⟨status, middle, begun, success⟩ := bind_ok.mp success
  have begins : db.Evolves (fun _ _ => True) middle ∧ middle.tasks.find result.taskId = some { task with status } ∧
      middle.terminalResults = db.terminalResults := startIfPending_evolves trivial present begun
  obtain ⟨_, found, _⟩ := begins
  simp only [check_bind, validated_ok, query_bind, execute_bind, insertEvent_bind] at success
  obtain ⟨transition, legal, _, success⟩ := success
  obtain ⟨_, stored, written, success⟩ := bind_ok.mp success
  simp only [execute_bind, fetchTask_ok] at success
  obtain ⟨read, rfl⟩ := success
  have tasks := congrArg Db.tasks (preserves_insertOriginArtifacts _ _ _ _ written)
  change stored.tasks = (middle.updateTaskStatus result.taskId result.terminalStatus).tasks at tasks
  change stored.tasks.find _ = _ at read
  have moved := read
  simp only [tasks, Db.updateTaskStatus, Table.find_update, if_true, found, Option.map_some] at moved
  refine ⟨?_, read, (Option.some.inj moved).symm⟩
  have running : status = .running := by
    rcases validateTransition_cases legal with ⟨_, impossible, _⟩ | ⟨running, _⟩ | ⟨running, _⟩
    · rw [impossible] at terminal
      cases terminal
    · exact running
    · exact running
  unfold startIfPending at begun
  by_cases pending : task.status = .pending
  · rw [pending]
    rfl
  · rw [if_neg pending, pure_ok] at begun
    obtain ⟨same, _⟩ := Prod.mk.inj begun
    rw [same, running]
    rfl

section
variable [Sha256] {result : TerminalResultRecord} {artifacts : List OriginResultArtifact} {executor : PeerId}

theorem run_failedByInterrupt (ops : List Op) (taskId : TaskId) :
    FailedByInterrupt ((run step Db.empty ops).cell taskId) :=
  run_cell FailedByInterrupt (fun _ member => by cases member) (fun _ step => step.failedByInterrupt) ops

variable {task : TaskRecord}

theorem ingest_ends_task
    (applied : (ingestRemoteResultWithArtifacts result artifacts executor db).1 = .ok (.applied task)) :
    (∃ before records, Presented result artifacts executor db before records none ∧ before.status.isTerminal = false) ∧
      (ingestRemoteResultWithArtifacts result artifacts executor db).2.tasks.find result.taskId = some task ∧
      task.status = result.terminalStatus ∧ task.id = result.taskId := by
  obtain ⟨stored, records, prepared, written, inspected, prepares, applies⟩ := ingest_writes applied
  obtain ⟨⟨reason, presented⟩, _, _⟩ := inspectRemoteResult_write inspected
  have tasks := congrArg Db.tasks (prepares_beyondArtifacts prepares)
  have present : written.tasks.find result.taskId = some stored := by
    change written.tasks = db.tasks at tasks
    rw [tasks, presented.present]
  obtain ⟨unfinished, found, rfl⟩ := applyRemoteResult_ends presented.terminal present applies
  have owner : stored.id = result.taskId := Table.find_key presented.present
  have unfailed : stored.status ≠ .failed := by
    intro failed
    rw [failed] at unfinished
    cases unfinished
  have none : reason = none :=
    Except.ok.inj (presented.replays.symm.trans (remoteResultTerminalReason_unfailed unfailed))
  subst none
  exact ⟨⟨stored, records, presented, unfinished⟩, found, rfl, owner⟩

theorem ingest_duplicate {same : TaskRecord} :
    ingestRemoteResultWithArtifacts result artifacts executor db = (.ok (.duplicate same), db) ↔
      inspectRemoteResult result artifacts executor db = .ok (.inl (.duplicate same)) := by
  constructor
  · intro duplicate
    have ended := ingest_cases result artifacts executor db
    rw [duplicate] at ended
    cases ended with
    | answered _ inspected => exact inspected
  · intro inspected
    unfold ingestRemoteResultWithArtifacts
    rw [inspected]

def ingestingRun (history : List Op) (result : TerminalResultRecord) (artifacts : List OriginResultArtifact)
    (executor : PeerId) (later : List Op) : List Op :=
  history ++ .ingestRemoteResultWithArtifacts result artifacts executor :: later

theorem run_ingestingRun (history later : List Op) :
    run step Db.empty (ingestingRun history result artifacts executor later) =
      run step (ingestRemoteResultWithArtifacts result artifacts executor (run step Db.empty history)).2 later := by
  rw [ingestingRun, run_append, run_cons]
  rfl

theorem ingest_uninterrupted (clear : ∀ event ∈ (db.cell result.taskId).log, ¬ Interrupts event) :
    ∀ event ∈ ((ingestRemoteResultWithArtifacts result artifacts executor db).2.cell result.taskId).log,
      ¬ Interrupts event := by
  have evolves := step_refines db (.ingestRemoteResultWithArtifacts result artifacts executor) result.taskId
  refine evolves.invariant (fun cell => ∀ event ∈ cell.log, ¬ Interrupts event) ?_ clear
  intro action before after permitted step clear event member
  have appended : ∀ (eventType : KeryxEventType) (fromStatus : Option TaskStatus) (toStatus : TaskStatus),
      ¬ (eventType = .taskTimedOut ∨ eventType = .taskCanceled) →
      event ∈ before.append result.taskId eventType fromStatus toStatus → ¬ Interrupts event := by
    intro eventType fromStatus toStatus plain member
    rcases List.mem_append.mp member with earlier | last
    · exact clear event earlier
    · rw [List.mem_singleton.mp last]
      exact plain
  obtain ⟨_, rfl | rfl | rfl⟩ := permitted
  · cases step with
    | advance found applies =>
      cases applies
      exact appended _ _ _ (by rintro (same | same) <;> cases same) member
  all_goals
    cases step with
    | settle found applies unsettled unfinished ends =>
      cases applies
      exact appended _ _ _ (by rintro (same | same) <;> cases same) member

/-- What stays of an applied result. -/
theorem ingest_remains (history later : List Op)
    (applied : (ingestRemoteResultWithArtifacts result artifacts executor (run step Db.empty history)).1 =
      .ok (.applied task)) :
    (run step Db.empty (ingestingRun history result artifacts executor later)).tasks.find result.taskId = some task ∧
      terminalReasonOf ((run step Db.empty (ingestingRun history result artifacts executor later)).eventsForTask
        result.taskId) = none ∧
      (∃ context, (run step Db.empty (ingestingRun history result artifacts executor later)).transportContexts.find
        result.taskId = some context ∧ context.expectedExecutorPeerId = some executor) ∧
      (run step Db.empty (ingestingRun history result artifacts executor later)).terminalResults.find result.taskId =
        some result := by
  obtain ⟨⟨before, records, presented, unfinished⟩, found, status, owner⟩ := ingest_ends_task applied
  have terminal : task.status.isTerminal = true := by
    rw [status]
    exact presented.terminal
  have absorbs := run_absorbs (ingestRemoteResultWithArtifacts result artifacts executor (run step Db.empty history)).2
    later result.taskId
  obtain ⟨kept, _, extra, log, recovers⟩ := absorbs.keeps task found terminal
  rw [run_ingestingRun]
  refine ⟨kept, ?_, ?_, run_keeps_result _ later (ingest_applied applied).2⟩
  · rw [Db.eventsForTask, Journal.ordered_eq, terminalReasonOf_none]
    have clear : ∀ event ∈ ((run step Db.empty history).cell result.taskId).log, ¬ Interrupts event := by
      intro event member interrupts
      obtain ⟨failed, stored, isFailed⟩ := run_failedByInterrupt history result.taskId event member interrupts
      cases presented.present.symm.trans stored
      rw [isFailed] at unfinished
      cases unfinished
    intro event member
    rw [← cell_log, log] at member
    rcases List.mem_append.mp member with earlier | later
    · exact ingest_uninterrupted clear event earlier
    · obtain ⟨recovery, _⟩ := recovers event later
      rintro (same | same) <;> rw [recovery] at same <;> cases same
  · obtain ⟨context, bound, expects⟩ := presented.bound
    have persists := run_persists (run step Db.empty history)
      (.ingestRemoteResultWithArtifacts result artifacts executor :: later)
    have present : ((run step Db.empty history).tasks.find result.taskId).isSome := by
      rw [presented.present]
      rfl
    obtain ⟨stored, routed, executes, _⟩ := persists.2.context result.taskId context present bound
    exact ⟨stored, routed, executes.trans expects⟩

theorem ingest_repeats {outcome : RemoteResultIngestOutcome} (history later : List Op)
    (applied : (ingestRemoteResultWithArtifacts result artifacts executor (run step Db.empty history)).1 =
      .ok (.applied task)) :
    ingestRemoteResultWithArtifacts result artifacts executor
        (run step Db.empty (ingestingRun history result artifacts executor later)) =
          (.ok outcome, run step Db.empty (ingestingRun history result artifacts executor later)) ↔
      outcome = .duplicate task ∧
        (∃ records, validateOriginResultArtifacts result.taskId 0 0 artifacts = .ok records ∧
          Confirms result artifacts records (run step Db.empty (ingestingRun history result artifacts executor later))) ∧
        (result.terminalStatus = .failed → ∃ rebuilt, replayTaskFromSnapshotAndEvents task
          ((run step Db.empty (ingestingRun history result artifacts executor later)).eventsForTask result.taskId) =
            .ok rebuilt) := by
  obtain ⟨⟨before, records, firstPresented, _⟩, _, status, owner⟩ := ingest_ends_task applied
  obtain ⟨found, reason, bound, stored⟩ := ingest_remains history later applied
  generalize run step Db.empty (ingestingRun history result artifacts executor later) = db at found reason bound stored ⊢
  constructor
  · intro answered
    have inspected : inspectRemoteResult result artifacts executor db = .ok (.inl outcome) := by
      have ended := ingest_cases result artifacts executor db
      rw [answered] at ended
      cases ended with
      | answered _ inspected => exact inspected
      | applied task records prepared written updated after inspected =>
        have absent := (inspectRemoteResult_write inspected).2.1
        rw [stored] at absent
        cases absent
    rcases inspected_answers inspected with
      ⟨_, listed, presented, _, confirms, rfl⟩ | ⟨_, _, _, presented, _⟩
    · cases found.symm.trans presented.present
      obtain ⟨_, replayed⟩ := (remoteResultTerminalReason_clear owner reason).mp presented.replays
      rw [status] at replayed
      exact ⟨rfl, ⟨listed, presented.valid, confirms⟩, replayed⟩
    · cases found.symm.trans presented.present
      cases ((remoteResultTerminalReason_clear owner reason).mp presented.replays).1
  · rintro ⟨rfl, ⟨listed, valid, confirms⟩, replays⟩
    rw [← status] at replays
    have uninterrupted := (remoteResultTerminalReason_clear owner reason).mpr ⟨rfl, replays⟩
    refine ingest_duplicate.mpr (inspectRemoteResult_duplicate.mpr ⟨listed, ?_, stored, confirms⟩)
    exact ⟨firstPresented.terminal, firstPresented.executes, valid, bound, found, uninterrupted⟩

/-- An applied result is found a duplicate exactly while the artifacts of its task are those it brought, with their
bytes, and the log of a failed task replays. -/
theorem redelivery_is_duplicate_iff (history later : List Op) (result : TerminalResultRecord)
    (artifacts : List OriginResultArtifact) (executor : PeerId) (task : TaskRecord)
    (applied : (ingestRemoteResultWithArtifacts result artifacts executor (run step Db.empty history)).1 =
      .ok (.applied task)) :
    (∃ same, ingestRemoteResultWithArtifacts result artifacts executor
        (run step Db.empty (ingestingRun history result artifacts executor later)) =
          (.ok (.duplicate same), run step Db.empty (ingestingRun history result artifacts executor later))) ↔
      (∃ records, validateOriginResultArtifacts result.taskId 0 0 artifacts = .ok records ∧
        Confirms result artifacts records (run step Db.empty (ingestingRun history result artifacts executor later))) ∧
      (result.terminalStatus = .failed → ∃ rebuilt, replayTaskFromSnapshotAndEvents task
        ((run step Db.empty (ingestingRun history result artifacts executor later)).eventsForTask result.taskId) =
          .ok rebuilt) := by
  constructor
  · rintro ⟨same, duplicate⟩
    exact ((ingest_repeats history later applied).mp duplicate).2
  · intro condition
    exact ⟨task, (ingest_repeats history later applied).mpr ⟨rfl, condition⟩⟩

def Db.ReplaysTask (taskId : TaskId) (db : Db) : Prop :=
  ∃ task, db.tasks.find taskId = some task ∧
    ∃ rebuilt, replayTaskFromSnapshotAndEvents task (db.eventsForTask taskId) = .ok rebuilt

theorem ingest_replaysTask (result : TerminalResultRecord) (artifacts : List OriginResultArtifact) (executor : PeerId)
    (db : Db) :
    (ingestRemoteResultWithArtifacts result artifacts executor db).2.ReplaysTask result.taskId ↔
      db.ReplaysTask result.taskId := by
  have replays (db : Db) : db.ReplaysTask result.taskId ↔ (db.cell result.taskId).Replays := by
    unfold Db.ReplaysTask Db.eventsForTask Cell.Replays
    rw [Journal.ordered_eq]
    exact Iff.rfl
  have evolves := step_refines db (.ingestRemoteResultWithArtifacts result artifacts executor) result.taskId
  have kept := evolves.invariant
    (fun cell => cell.Owned result.taskId ∧ (cell.Replays ↔ (db.cell result.taskId).Replays)) ?_
    ⟨fun task found => Table.find_key found, Iff.rfl⟩
  · rw [replays, replays]
    exact kept.2
  · intro action before after permitted step holds
    obtain ⟨owned, same⟩ := holds
    obtain ⟨_, rfl | rfl | rfl⟩ := permitted
    · obtain ⟨still, steps⟩ := step.replays_iff (.inl rfl) owned
      exact ⟨still, steps.trans same⟩
    · obtain ⟨still, steps⟩ := step.replays_iff (.inr (.inl rfl)) owned
      exact ⟨still, steps.trans same⟩
    · obtain ⟨still, steps⟩ := step.replays_iff (.inr (.inr rfl)) owned
      exact ⟨still, steps.trans same⟩

theorem confirms_applied
    (applied : (ingestRemoteResultWithArtifacts result artifacts executor db).1 = .ok (.applied task)) :
    (∃ records, validateOriginResultArtifacts result.taskId 0 0 artifacts = .ok records ∧
      Confirms result artifacts records (ingestRemoteResultWithArtifacts result artifacts executor db).2) ↔
      db.artifactsForTask result.taskId = [] ∧ Collisionless artifacts := by
  have archives := ingest_archives applied
  obtain ⟨⟨_, records, presented, _⟩, _⟩ := ingest_ends_task applied
  obtain ⟨rfl, owned⟩ := validateOriginResultArtifacts_ok presented.valid
  generalize (ingestRemoteResultWithArtifacts result artifacts executor db).2 = after at archives ⊢
  have listed : after.artifactsForTask result.taskId =
      db.artifactsForTask result.taskId ++ artifacts.map originRecord := by
    have own : (artifacts.map originRecord).filter (fun record => decide (record.taskId = result.taskId)) =
        artifacts.map originRecord := by
      refine List.filter_eq_self.mpr fun record member => ?_
      obtain ⟨artifact, present, rfl⟩ := List.mem_map.mp member
      exact decide_eq_true (owned artifact present)
    have records : (artifacts.map originRow).map (·.record) = artifacts.map originRecord := by
      rw [List.map_map]
      rfl
    rw [Db.artifactsForTask, archives.rows, List.map_append, List.filter_append, records, own]
    rfl
  constructor
  · rintro ⟨records, valid, counted, _, bytes⟩
    cases presented.valid.symm.trans valid
    rw [listed, List.length_append] at counted
    refine ⟨List.length_eq_zero_iff.mp (by omega), ?_⟩
    have file : ∀ artifact ∈ artifacts, maxInlineArtifactBytes < artifact.content.length →
        after.blobFiles.find (Digest.compute artifact.content) =
          some { digest := Digest.compute artifact.content, content := artifact.content } := by
      intro artifact member large
      obtain ⟨record, read⟩ := bytes artifact member
      obtain ⟨row, found, rfl, stored⟩ := getArtifact_ok.mp read
      cases (archives.find_new member).symm.trans found
      rw [originRow, inlined_originRecord.mpr large] at stored
      exact (readVerifiedBlob_ok.mp stored).1
    intro one first other second large alsoLarge same
    have stored := file one first large
    rw [same, file other second alsoLarge] at stored
    exact (BlobFile.mk.inj (Option.some.inj stored)).2.symm
  · rintro ⟨none, distinct⟩
    rw [none, List.nil_append] at listed
    refine ⟨_, presented.valid, ?_, ?_, fun artifact member => ⟨_, archives.reads distinct member⟩⟩
    · rw [listed]
    · rw [listed]
      exact fun _ member => member

def Db.EndedOtherwise (taskId : TaskId) (db : Db) : Prop :=
  ∃ task reason, db.tasks.find taskId = some task ∧ remoteResultTerminalReason task db = .ok (some reason)

theorem Presented.not_endedOtherwise {records : List ArtifactRecord}
    (presented : Presented result artifacts executor db task records none) : ¬ db.EndedOtherwise result.taskId := by
  rintro ⟨other, reason, found, replays⟩
  cases presented.present.symm.trans found
  rw [presented.replays] at replays
  cases replays

theorem ingest_settles {reason : RemoteResultTerminalReason} {canonical : Option TerminalResultRecord}
    (settled : ingestRemoteResultWithArtifacts result artifacts executor db =
      (.ok (.settledTerminal task reason canonical), after)) : db.EndedOtherwise result.taskId := by
  have ended := ingest_cases result artifacts executor db
  rw [settled] at ended
  cases ended with
  | answered _ inspected =>
    rcases inspected_answers inspected with ⟨_, _, _, _, _, contrary⟩ | ⟨stored, records, cause, presented, _⟩
    · cases contrary
    · exact ⟨stored, cause, presented.present, presented.replays⟩

/-- What a result needs besides its own bytes to be a duplicate of the one that is written now. -/
structure Repeatable (result : TerminalResultRecord) (artifacts : List OriginResultArtifact) (db : Db) : Prop where
  alone : db.artifactsForTask result.taskId = []
  distinct : Collisionless artifacts
  replays : result.terminalStatus = .failed → db.ReplaysTask result.taskId

theorem ingest_conflict {bytes : Bytes} {answer : RemoteResultIngestOutcome}
    (stored : db.terminalResults.find result.taskId = some result) (differs : bytes ≠ result.encodedResult)
    (ends : ∀ task, db.tasks.find result.taskId = some task → ∀ reason, remoteResultTerminalReason task db = .ok reason →
      reason = none) :
    ingestRemoteResultWithArtifacts { result with encodedResult := bytes } artifacts executor db ≠ (.ok answer, db) := by
  intro answered
  have different : result ≠ { result with encodedResult := bytes } :=
    fun same => differs (congrArg TerminalResultRecord.encodedResult same).symm
  have refused : ∀ outcome,
      inspectRemoteResult { result with encodedResult := bytes } artifacts executor db ≠ .ok outcome := by
    intro outcome inspected
    obtain ⟨task, records, reason, presented⟩ := inspected_presented inspected
    rw [presented.inspected, ends task presented.present reason presented.replays] at inspected
    have known : db.terminalResults.find ({ result with encodedResult := bytes } : TerminalResultRecord).taskId =
        some result := stored
    exact weigh_conflict known different inspected
  have ended := ingest_cases { result with encodedResult := bytes } artifacts executor db
  rw [answered] at ended
  cases ended with
  | answered _ inspected => exact refused _ inspected
  | applied task records prepared written updated after inspected => exact refused _ inspected

theorem ingest_twice {bytes : Bytes} {outcome answer : RemoteResultIngestOutcome} (history : List Op)
    (first : ingestRemoteResultWithArtifacts result artifacts executor (run step Db.empty history) =
      (.ok outcome, after)) :
    ingestRemoteResultWithArtifacts { result with encodedResult := bytes } artifacts executor after =
        (.ok answer, after) ↔
      ((run step Db.empty history).EndedOtherwise result.taskId ∧ answer = outcome) ∨
        (bytes = result.encodedResult ∧
          ((run step Db.empty history).terminalResults.find result.taskId = none →
            Repeatable result artifacts (run step Db.empty history)) ∧
          ∃ task, (outcome = .applied task ∨ outcome = .duplicate task) ∧ answer = .duplicate task) := by
  have ended := ingest_cases result artifacts executor (run step Db.empty history)
  rw [first] at ended
  cases ended with
  | answered outcome inspected =>
    rcases inspected_answers inspected with ⟨task, records, presented, stored, _, rfl⟩ |
      ⟨task, records, cause, presented, rfl⟩
    · have unended := presented.not_endedOtherwise
      by_cases same : bytes = result.encodedResult
      · subst same
        rw [first]
        simp only [unended, false_and, false_or, true_and, stored, reduceCtorEq, false_implies,
          RemoteResultIngestOutcome.duplicate.injEq, exists_eq_left', Prod.mk.injEq, Except.ok.injEq, and_true]
        exact eq_comm
      · refine iff_of_false (ingest_conflict stored same ?_) ?_
        · intro other found reason replays
          cases presented.present.symm.trans found
          exact (Except.ok.inj (presented.replays.symm.trans replays)).symm
        · rintro (⟨ended, _⟩ | ⟨equal, _⟩)
          · exact unended ended
          · exact same equal
    · have again : ingestRemoteResultWithArtifacts { result with encodedResult := bytes } artifacts executor
          (run step Db.empty history) = (.ok (.settledTerminal task cause
            ((run step Db.empty history).terminalResults.find result.taskId)), run step Db.empty history) := by
        rw [presented.inspected] at inspected
        unfold ingestRemoteResultWithArtifacts
        rw [presented.of_bytes.inspected, weigh_settled, inspected]
      have ended : (run step Db.empty history).EndedOtherwise result.taskId :=
        ⟨task, cause, presented.present, presented.replays⟩
      rw [again]
      simp only [ended, true_and, reduceCtorEq, or_self, false_and, exists_false, and_false, or_false, Prod.mk.injEq,
        Except.ok.injEq, and_true]
      exact eq_comm
  | applied stored records prepared written updated after inspected =>
    have applied : (ingestRemoteResultWithArtifacts result artifacts executor (run step Db.empty history)).1 =
        .ok (.applied updated) := by rw [first]
    have last : run step Db.empty (ingestingRun history result artifacts executor []) = after := by
      rw [run_ingestingRun, first]
      rfl
    obtain ⟨found, reason, _, kept⟩ := ingest_remains history [] applied
    obtain ⟨⟨before, listed, presented, _⟩, _, status, owner⟩ := ingest_ends_task applied
    have unended := presented.not_endedOtherwise
    have unsettled := (ingest_applied applied).1
    rw [last] at found reason kept
    by_cases same : bytes = result.encodedResult
    · subst same
      have repeats := @ingest_repeats _ result artifacts executor updated answer history [] applied
      have confirms := confirms_applied applied
      have replays := ingest_replaysTask result artifacts executor (run step Db.empty history)
      rw [last] at repeats
      rw [first] at confirms replays
      have replayed : (∃ rebuilt, replayTaskFromSnapshotAndEvents updated (after.eventsForTask result.taskId) =
          .ok rebuilt) ↔ after.ReplaysTask result.taskId := by
        unfold Db.ReplaysTask
        rw [found]
        simp only [Option.some.injEq, exists_eq_left']
      refine repeats.trans ?_
      rw [confirms, replayed, replays]
      simp only [unended, false_and, false_or, true_and, unsettled, true_implies, reduceCtorEq, or_false,
        RemoteResultIngestOutcome.applied.injEq, exists_eq_left']
      constructor
      · rintro ⟨rfl, ⟨alone, distinct⟩, replays⟩
        exact ⟨⟨alone, distinct, replays⟩, rfl⟩
      · rintro ⟨⟨alone, distinct, replays⟩, rfl⟩
        exact ⟨rfl, ⟨alone, distinct⟩, replays⟩
    · refine iff_of_false (ingest_conflict kept same ?_) ?_
      · intro task present cause replays
        cases found.symm.trans present
        exact ((remoteResultTerminalReason_clear owner reason).mp replays).1
      · rintro (⟨ended, _⟩ | ⟨equal, _⟩)
        · exact unended ended
        · exact same equal

end

def sampleResult : TerminalResultRecord := ⟨sampleTask, [2], .completed, none, samplePeer, 5⟩

def broughtArtifact : OriginResultArtifact :=
  ⟨0, ⟨@originResultArtifactId default sampleTask 0, sampleTask, default, "text/plain", 1, true, "0"⟩, [7]⟩

def sampleArtifact : ArtifactMeta :=
  ⟨.literal "artifact-1" (.refl true), sampleTask, default, "text/plain", 1, true, "0"⟩

/-- Another artifact of the task came and went since the result. -/
def redelivered : Db :=
  run (@step default) Db.empty (ingestingRun [acceptForPeer] sampleResult [broughtArtifact] samplePeer
    [.putArtifact sampleArtifact [7], .deleteArtifact sampleArtifact.artifactId])

theorem sample_redelivered :
    ∃ same, @ingestRemoteResultWithArtifacts default sampleResult [broughtArtifact] samplePeer redelivered =
      (.ok (.duplicate same), redelivered) := by
  refine (@redelivery_is_duplicate_iff default [acceptForPeer] _ sampleResult [broughtArtifact] samplePeer
    (TaskRecord.new sampleTask .completed none) (by decide)).mpr ⟨⟨_, rfl, ?_⟩, by nofun⟩
  exact @Confirms.mk default _ _ _ _ (by decide) (by decide) (List.forall_mem_singleton.mpr ⟨_, rfl⟩)

/-- One more artifact for the task, and the repeated result is a conflict. -/
theorem redelivery_conflicts_after_put :
    ¬ ∀ (history later : List Op) (result : TerminalResultRecord) (artifacts : List OriginResultArtifact)
        (executor : PeerId) (task : TaskRecord),
      (@ingestRemoteResultWithArtifacts default result artifacts executor (run (@step default) Db.empty history)).1 =
        .ok (.applied task) →
      ∃ same, @ingestRemoteResultWithArtifacts default result artifacts executor
          (run (@step default) Db.empty (ingestingRun history result artifacts executor later)) =
        (.ok (.duplicate same),
          run (@step default) Db.empty (ingestingRun history result artifacts executor later)) := by
  intro every
  obtain ⟨same, duplicate⟩ := every [acceptForPeer] [.putArtifact sampleArtifact [7]] sampleResult [] samplePeer
    (TaskRecord.new sampleTask .completed none) (by decide)
  have conflict : (@ingestRemoteResultWithArtifacts default sampleResult [] samplePeer (run (@step default) Db.empty
      (ingestingRun [acceptForPeer] sampleResult [] samplePeer [.putArtifact sampleArtifact [7]]))).1 =
        .error (.terminalResultConflict sampleTask) := by decide
  rw [duplicate] at conflict
  cases conflict

end Keryx.Store.Sqlite
