import Keryx.Store.Sqlite.Artifacts

/-! The inspection of a remote result: who may present it, and what becomes of it. -/

namespace Keryx.Store.Sqlite
open Keryx.Core Relational Relational.Transaction

theorem settlementReason_some {reason : Option RemoteResultTerminalReason} {cause : RemoteResultTerminalReason}
    {existing : Option TerminalResultRecord} (settles : settlementReason reason existing = some cause) :
    reason = some cause := by
  unfold settlementReason at settles
  split at settles <;> cases settles <;> rfl

section
variable [Sha256] {db : Db} {result : TerminalResultRecord} {artifacts : List OriginResultArtifact} {executor : PeerId}
  {task : TaskRecord} {records : List ArtifactRecord} {reason : Option RemoteResultTerminalReason}

/-- The executor is the one the task is bound to, and the artifacts are in order. -/
structure Presented (result : TerminalResultRecord) (artifacts : List OriginResultArtifact) (executor : PeerId) (db : Db)
    (task : TaskRecord) (records : List ArtifactRecord) (reason : Option RemoteResultTerminalReason) : Prop where
  terminal : result.terminalStatus.isTerminal = true
  executes : result.executorPeerId = executor
  valid : validateOriginResultArtifacts result.taskId 0 0 artifacts = .ok records
  bound : ∃ context, db.transportContexts.find result.taskId = some context ∧
    context.expectedExecutorPeerId = some executor
  present : db.tasks.find result.taskId = some task
  replays : remoteResultTerminalReason task db = .ok reason

/-- What becomes of a result that may be presented. -/
def weighRemoteResult (result : TerminalResultRecord) (artifacts : List OriginResultArtifact) (task : TaskRecord)
    (records : List ArtifactRecord) (reason : Option RemoteResultTerminalReason) (db : Db) :
    StoreResult (RemoteResultIngestOutcome ⊕ (TaskRecord × List ArtifactRecord)) :=
  let existing := db.terminalResults.find result.taskId
  if reason = none ∧ existing = some result then (confirmDuplicate result task artifacts records db).map .inl
  else
    match records.find? (fun record => (db.artifacts.find record.artifactId).isSome) with
    | some record => .error (.originResultArtifactConflict record.artifactId)
    | none =>
      match settlementReason reason existing with
      | some reason =>
        if records ≠ [] then .error (.remoteResultTerminalArtifactsRejected result.taskId reason)
        else .ok (.inl (.settledTerminal task reason existing))
      | none =>
        if existing.isSome then .error (.terminalResultConflict result.taskId)
        else .ok (.inr (task, records))

theorem Presented.inspected (presented : Presented result artifacts executor db task records reason) :
    inspectRemoteResult result artifacts executor db = weighRemoteResult result artifacts task records reason db := by
  obtain ⟨terminal, executes, valid, ⟨context, bound, expects⟩, present, replays⟩ := presented
  unfold inspectRemoteResult
  rw [TerminalResultRecord.validate, demand, if_pos terminal]
  simp only [bind, Except.bind, executes, ne_eq, not_true_eq_false, if_false, valid, bound, expects, present, replays]
  rfl

variable {answer : RemoteResultIngestOutcome ⊕ (TaskRecord × List ArtifactRecord)}

theorem inspected_presented (inspected : inspectRemoteResult result artifacts executor db = .ok answer) :
    ∃ task records reason, Presented result artifacts executor db task records reason := by
  simp only [inspectRemoteResult, bind, Except.bind] at inspected
  split at inspected
  · cases inspected
  rename_i valid
  split at inspected
  · cases inspected
  rename_i executes
  split at inspected
  · cases inspected
  rename_i records ordered
  split at inspected
  · cases inspected
  rename_i context bound
  split at inspected
  · cases inspected
  rename_i expects
  split at inspected
  · cases inspected
  rename_i task present
  split at inspected
  · cases inspected
  rename_i reason replays
  exact ⟨task, records, reason, demand_ok.mp valid, not_not.mp executes, ordered, ⟨context, bound, not_not.mp expects⟩,
    present, replays⟩

theorem inspectRemoteResult_write
    (inspected : inspectRemoteResult result artifacts executor db = .ok (.inr (task, records))) :
    (∃ reason, Presented result artifacts executor db task records reason) ∧
      db.terminalResults.find result.taskId = none ∧
      ∀ record ∈ records, db.artifacts.find record.artifactId = none := by
  obtain ⟨stored, described, reason, presented⟩ := inspected_presented inspected
  rw [presented.inspected, weighRemoteResult] at inspected
  split at inspected
  · unfold Except.map at inspected
    split at inspected <;> cases inspected
  split at inspected
  · cases inspected
  rename_i fresh
  split at inspected
  · split at inspected <;> cases inspected
  split at inspected
  · cases inspected
  rename_i unsettled
  cases inspected
  refine ⟨⟨reason, presented⟩, Option.not_isSome_iff_eq_none.mp unsettled, fun record member => ?_⟩
  have absent := List.find?_eq_none.mp fresh record member
  exact Option.not_isSome_iff_eq_none.mp absent

/-- The stored artifacts of the task are those of the result, and so are their bytes. -/
structure Confirms (result : TerminalResultRecord) (artifacts : List OriginResultArtifact)
    (records : List ArtifactRecord) (db : Db) : Prop where
  counted : (db.artifactsForTask result.taskId).length = records.length
  listed : ∀ row ∈ db.artifactsForTask result.taskId, row ∈ records
  bytes : ∀ artifact ∈ artifacts, ∃ record, getArtifact artifact.artifactMeta.artifactId db = .ok (record, artifact.content)

variable {outcome : RemoteResultIngestOutcome}

theorem confirmDuplicate_ok :
    confirmDuplicate result task artifacts records db = .ok outcome ↔
      outcome = .duplicate task ∧ Confirms result artifacts records db := by
  unfold confirmDuplicate
  simp only
  by_cases rows : (db.artifactsForTask result.taskId).length ≠ records.length ∨
      (db.artifactsForTask result.taskId).any (fun row => !records.contains row) = true
  · rw [if_pos rows]
    refine iff_of_false (by rintro ⟨⟩) ?_
    rintro ⟨_, confirms⟩
    rcases rows with uncounted | unlisted
    · exact uncounted confirms.counted
    · obtain ⟨row, member, missing⟩ := List.any_eq_true.mp unlisted
      simp [confirms.listed row member] at missing
  · rw [if_neg rows]
    obtain ⟨counted, listed⟩ := not_or.mp rows
    have same : ∀ row ∈ db.artifactsForTask result.taskId, row ∈ records := by
      intro row member
      by_contra missing
      exact listed (List.any_eq_true.mpr ⟨row, member, by simpa using missing⟩)
    split
    · rename_i failure first
      refine iff_of_false (by rintro ⟨⟩) ?_
      rintro ⟨_, confirms⟩
      obtain ⟨entry, member, found⟩ := List.exists_of_findSome?_eq_some first
      obtain ⟨artifact, listed, rfl⟩ := List.mem_map.mp member
      obtain ⟨record, read⟩ := confirms.bytes artifact listed
      simp [read] at found
    · rename_i first
      constructor
      · intro success
        cases success
        refine ⟨rfl, not_not.mp counted, same, fun artifact member => ?_⟩
        have clear := List.findSome?_eq_none_iff.mp first _ (List.mem_map_of_mem member)
        cases read : getArtifact artifact.artifactMeta.artifactId db with
        | error failure => simp [read] at clear
        | ok pair =>
          obtain ⟨record, persisted⟩ := pair
          by_cases equal : persisted = artifact.content
          · exact ⟨record, by rw [equal]⟩
          · simp [read, equal] at clear
      · rintro ⟨rfl, _⟩
        rfl

theorem inspected_answers (inspected : inspectRemoteResult result artifacts executor db = .ok (.inl outcome)) :
    (∃ task records, Presented result artifacts executor db task records none ∧
        db.terminalResults.find result.taskId = some result ∧ Confirms result artifacts records db ∧
        outcome = .duplicate task) ∨
      ∃ task records cause, Presented result artifacts executor db task records (some cause) ∧
        outcome = .settledTerminal task cause (db.terminalResults.find result.taskId) := by
  obtain ⟨task, records, reason, presented⟩ := inspected_presented inspected
  rw [presented.inspected, weighRemoteResult] at inspected
  split at inspected
  · rename_i known
    obtain ⟨rfl, existing⟩ := known
    cases confirmed : confirmDuplicate result task artifacts records db with
    | error failure =>
      rw [confirmed] at inspected
      cases inspected
    | ok answer =>
      rw [confirmed] at inspected
      cases inspected
      obtain ⟨duplicate, confirms⟩ := confirmDuplicate_ok.mp confirmed
      exact .inl ⟨task, records, presented, existing, confirms, duplicate⟩
  split at inspected
  · cases inspected
  split at inspected
  · rename_i cause settles
    rw [settlementReason_some settles] at presented
    split at inspected
    · cases inspected
    · cases inspected
      exact .inr ⟨task, records, cause, presented, rfl⟩
  split at inspected <;> cases inspected

theorem inspectRemoteResult_duplicate :
    inspectRemoteResult result artifacts executor db = .ok (.inl (.duplicate task)) ↔
      ∃ records, Presented result artifacts executor db task records none ∧
        db.terminalResults.find result.taskId = some result ∧ Confirms result artifacts records db := by
  constructor
  · intro inspected
    rcases inspected_answers inspected with ⟨_, records, presented, existing, confirms, same⟩ | ⟨_, _, _, _, same⟩
    · cases same
      exact ⟨records, presented, existing, confirms⟩
    · cases same
  · rintro ⟨records, presented, existing, confirms⟩
    have confirmed : confirmDuplicate result task artifacts records db = .ok (.duplicate task) :=
      confirmDuplicate_ok.mpr ⟨rfl, confirms⟩
    rw [presented.inspected, weighRemoteResult, if_pos ⟨rfl, existing⟩, confirmed]
    rfl

theorem inspected_answer (inspected : inspectRemoteResult result artifacts executor db = .ok (.inl outcome))
    (applied : TaskRecord) : outcome ≠ .applied applied := by
  rcases inspected_answers inspected with ⟨_, _, _, _, _, rfl⟩ | ⟨_, _, _, _, rfl⟩
  · nofun
  · nofun

variable {bytes : Bytes}

theorem Presented.of_bytes (presented : Presented result artifacts executor db task records reason) :
    Presented { result with encodedResult := bytes } artifacts executor db task records reason :=
  ⟨presented.terminal, presented.executes, presented.valid, presented.bound, presented.present, presented.replays⟩

theorem weigh_settled (cause : RemoteResultTerminalReason) :
    weighRemoteResult { result with encodedResult := bytes } artifacts task records (some cause) db =
      weighRemoteResult result artifacts task records (some cause) db := by
  unfold weighRemoteResult
  simp only [reduceCtorEq, false_and, if_false]

theorem weigh_conflict {existing : TerminalResultRecord}
    (stored : db.terminalResults.find result.taskId = some existing) (differs : existing ≠ result) :
    weighRemoteResult result artifacts task records none db ≠ .ok answer := by
  unfold weighRemoteResult
  simp only [stored, Option.some.injEq, differs, and_false, if_false, settlementReason, Option.isSome_some, if_true]
  split
  · rintro ⟨⟩
  · rintro ⟨⟩

end

end Keryx.Store.Sqlite
