import Keryx.Daemon.Expiry
import Keryx.Store.Sqlite.Intake
import Keryx.Store.Sqlite.Settlement

/-! The report of a worker whose answer was lost, sent again. -/

namespace Keryx.Daemon
open Keryx.Core Store Store.Sqlite Proto Relational Relational.Run Relational.Transaction

structure TaskArtifact.Same (left right : TaskArtifact) : Prop where
  fields : right = { left with metadata := right.metadata }
  metadata : SameMap left.metadata right.metadata

structure CompleteTaskRequest.Same (left right : CompleteTaskRequest) : Prop where
  fields : right = { left with resultMetadata := right.resultMetadata, outputArtifacts := right.outputArtifacts }
  resultMetadata : SameMap left.resultMetadata right.resultMetadata
  outputArtifacts : List.Forall₂ TaskArtifact.Same left.outputArtifacts right.outputArtifacts

structure FailTaskRequest.Same (left right : FailTaskRequest) : Prop where
  fields : right = { left with failureMetadata := right.failureMetadata }
  failureMetadata : SameMap left.failureMetadata right.failureMetadata

def TaskArtifact.toResult (artifact : TaskArtifact) : ResultArtifact where
  path := artifact.path
  mediaType := artifact.mediaType
  metadata := artifact.metadata
  artifactId := none
  sha256 := artifact.sha256
  byteLen := artifact.byteLen
  content := artifact.content
  contentPresent := artifact.contentPresent

theorem TaskArtifact.toResult_inj {left right : TaskArtifact} (same : left.toResult = right.toResult) : left = right := by
  cases left; cases right
  simp only [TaskArtifact.toResult, ResultArtifact.mk.injEq] at same
  obtain ⟨path, mediaType, metadata, _, sha256, byteLen, content, contentPresent⟩ := same
  simp only [TaskArtifact.mk.injEq]
  exact ⟨path, mediaType, metadata, content, byteLen, sha256, contentPresent⟩

theorem TaskArtifact.withContent_eq {artifact : TaskArtifact} {digest : Digest} (present : artifact.contentPresent = true)
    (parsed : parseLowercaseDigest artifact.sha256 = .ok digest) : artifact.withContent digest = artifact.toResult := by
  rw [TaskArtifact.withContent, parseLowercaseDigest_ok parsed, TaskArtifact.toResult, present]

theorem TaskArtifact.descriptor_eq {artifact : TaskArtifact} (absent : artifact.contentPresent = false)
    (empty : artifact.content = []) (unhashed : artifact.sha256 = "") (unsized : artifact.byteLen = 0) :
    artifact.descriptor = artifact.toResult := by
  rw [TaskArtifact.descriptor, TaskArtifact.toResult, empty, unhashed, unsized, absent]

section
variable [Sha256]

def TaskArtifact.Accepted (aggregateLen : Nat) (artifact : TaskArtifact) : Prop :=
  if artifact.contentPresent then
    parseLowercaseDigest artifact.sha256 = .ok (Digest.compute artifact.content) ∧
      artifact.byteLen.toNat = artifact.content.length ∧
      aggregateLen + artifact.content.length ≤ maxCrossNodeResultArtifactBytes
  else artifact.content = [] ∧ artifact.sha256 = "" ∧ artifact.byteLen = 0

variable {artifact other : TaskArtifact} {artifacts others : List TaskArtifact} {aggregateLen : Nat}
  {hasContent content : Bool} {result accepted : List ResultArtifact} {answer : List ResultArtifact × Bool}

theorem TaskArtifact.Same.sound (same : artifact.Same other) (valid : artifact.Accepted aggregateLen) :
    other.Accepted aggregateLen := by
  rw [same.fields]
  exact valid

theorem validateArtifactsFrom_cons :
    validateArtifactsFrom aggregateLen hasContent result (artifact :: artifacts) = .ok answer ↔
      artifact.Accepted aggregateLen ∧
        validateArtifactsFrom (aggregateLen + artifact.content.length) (hasContent || artifact.contentPresent)
          (result ++ [artifact.toResult]) artifacts = .ok answer := by
  rw [validateArtifactsFrom, TaskArtifact.Accepted]
  by_cases present : artifact.contentPresent = true
  · rw [if_pos present, if_pos present, present, Bool.or_true, except_bind_ok]
    constructor
    · rintro ⟨digest, parsed, valid⟩
      by_cases sized : artifact.byteLen.toNat = artifact.content.length
      · rw [if_neg (not_not.mpr sized)] at valid
        by_cases hashed : digest = Digest.compute artifact.content
        · rw [if_neg (not_not.mpr hashed)] at valid
          by_cases large : maxCrossNodeResultArtifactBytes < aggregateLen + artifact.content.length
          · rw [if_pos large] at valid
            cases valid
          · rw [if_neg large] at valid
            rw [TaskArtifact.withContent_eq present parsed] at valid
            rw [hashed] at parsed
            exact ⟨⟨parsed, sized, Nat.le_of_not_lt large⟩, valid⟩
        · rw [if_pos hashed] at valid
          cases valid
      · rw [if_pos sized] at valid
        cases valid
    · rintro ⟨⟨parsed, sized, small⟩, valid⟩
      refine ⟨Digest.compute artifact.content, parsed, ?_⟩
      rw [if_neg (not_not.mpr sized), if_neg (not_not.mpr rfl), if_neg (Nat.not_lt.mpr small),
        TaskArtifact.withContent_eq present parsed]
      exact valid
  · have absent := (Bool.not_eq_true _).mp present
    rw [if_neg present, if_neg present, absent, Bool.or_false]
    constructor
    · intro valid
      split at valid
      · cases valid
      · rename_i bare
        simp only [ne_eq, not_or, not_not] at bare
        obtain ⟨empty, unhashed, unsized⟩ := bare
        rw [TaskArtifact.descriptor_eq absent empty unhashed unsized] at valid
        rw [empty]
        exact ⟨⟨rfl, unhashed, unsized⟩, valid⟩
    · rintro ⟨⟨empty, unhashed, unsized⟩, valid⟩
      have bare : ¬(artifact.content ≠ [] ∨ artifact.sha256 ≠ "" ∨ artifact.byteLen ≠ 0) := by
        simp only [ne_eq, not_or, not_not]
        exact ⟨empty, unhashed, unsized⟩
      rw [if_neg bare, TaskArtifact.descriptor_eq absent empty unhashed unsized]
      rw [empty] at valid
      exact valid

theorem validateArtifactsFrom_ok
    (valid : validateArtifactsFrom aggregateLen hasContent result artifacts = .ok (accepted, content)) :
    accepted = result ++ artifacts.map TaskArtifact.toResult := by
  induction artifacts generalizing aggregateLen hasContent result with
  | nil =>
    cases valid
    exact (List.append_nil _).symm
  | cons artifact artifacts ih =>
    obtain ⟨_, valid⟩ := validateArtifactsFrom_cons.mp valid
    rw [ih valid, List.append_assoc]
    rfl

theorem validateArtifactsFrom_same (same : List.Forall₂ TaskArtifact.Same artifacts others) (other : List ResultArtifact)
    (valid : validateArtifactsFrom aggregateLen hasContent result artifacts = .ok (accepted, content)) :
    ∃ again, validateArtifactsFrom aggregateLen hasContent other others = .ok (again, content) := by
  induction same generalizing aggregateLen hasContent result other with
  | nil =>
    cases valid
    exact ⟨other, rfl⟩
  | @cons artifact repeated artifacts others first _ ih =>
    obtain ⟨sound, valid⟩ := validateArtifactsFrom_cons.mp valid
    obtain ⟨again, loop⟩ := ih (other ++ [repeated.toResult]) valid
    refine ⟨again, validateArtifactsFrom_cons.mpr ⟨first.sound sound, ?_⟩⟩
    have sizes : repeated.content = artifact.content := by rw [first.fields]
    have flags : repeated.contentPresent = artifact.contentPresent := by rw [first.fields]
    rw [sizes, flags]
    exact loop

theorem validateWorkerResultArtifacts_ok (valid : validateWorkerResultArtifacts artifacts = .ok (accepted, content)) :
    accepted = artifacts.map TaskArtifact.toResult :=
  validateArtifactsFrom_ok valid

theorem validateWorkerResultArtifacts_same (same : List.Forall₂ TaskArtifact.Same artifacts others)
    (valid : validateWorkerResultArtifacts artifacts = .ok (accepted, content)) :
    validateWorkerResultArtifacts others = .ok (others.map TaskArtifact.toResult, content) := by
  obtain ⟨again, repeated⟩ := validateArtifactsFrom_same same [] valid
  have stored := validateWorkerResultArtifacts_ok repeated
  rw [stored] at repeated
  exact repeated

variable [Decoders] {executor : PeerId} {config : Config} {taskId : TaskId} {outcome : TerminalOutcome}
  {durationMs : Int64} {errorReason : String} {metadata repeatedMetadata : StringMap} {nowMs laterMs : Int}
  {before db : Db} {status : TaskStatus} {report : TaskResultEnvelope}

theorem buildTerminalResult_ok :
    buildTerminalResult executor taskId outcome durationMs errorReason metadata artifacts nowMs db = .ok report ↔
      ∃ content, validateWorkerResultArtifacts artifacts = .ok (artifacts.map TaskArtifact.toResult, content) ∧
        report = ⟨if content then 2 else 1, some (protoId taskId), storedCorrelationId taskId db, outcome.asI32,
          executor.value, durationMs, Int64.ofInt nowMs, errorReason, metadata, artifacts.map TaskArtifact.toResult⟩ := by
  unfold buildTerminalResult
  rw [except_bind_ok]
  constructor
  · rintro ⟨⟨accepted, content⟩, valid, built⟩
    cases validateWorkerResultArtifacts_ok valid
    exact ⟨content, valid, (except_pure_ok.mp built).symm⟩
  · rintro ⟨content, valid, rfl⟩
    exact ⟨_, valid, rfl⟩

theorem terminalResultRecord_again (same : List.Forall₂ TaskArtifact.Same artifacts others)
    (correlation : storedCorrelationId taskId db = storedCorrelationId taskId before)
    (built : buildTerminalResult executor taskId outcome durationMs errorReason metadata artifacts nowMs before =
      .ok report) :
    ∃ again, buildTerminalResult executor taskId outcome durationMs errorReason repeatedMetadata others laterMs db =
        .ok again ∧
      (terminalResultRecord config taskId status report before = terminalResultRecord config taskId status again db ↔
        Int64.ofInt laterMs = Int64.ofInt nowMs ∧ (repeatedMetadata = metadata ∧ others = artifacts) ∧
          returnPeerForTask taskId db = returnPeerForTask taskId before) := by
  obtain ⟨content, valid, rfl⟩ := buildTerminalResult_ok.mp built
  have repeated := validateWorkerResultArtifacts_same same valid
  refine ⟨_, buildTerminalResult_ok.mpr ⟨content, repeated, rfl⟩, ?_⟩
  constructor
  · intro equal
    simp only [terminalResultRecord, TerminalResultRecord.mk.injEq] at equal
    obtain ⟨_, encoded, _, peer, _⟩ := equal
    have messages := TaskResultEnvelope.encodeToVec_inj encoded
    simp only [TaskResultEnvelope.mk.injEq] at messages
    obtain ⟨_, _, _, _, _, _, clock, _, sameMetadata, sameArtifacts⟩ := messages
    have listed := List.map_injective_iff.mpr (fun _ _ => TaskArtifact.toResult_inj) sameArtifacts
    exact ⟨clock.symm, ⟨sameMetadata.symm, listed.symm⟩, peer.symm⟩
  · rintro ⟨clock, ⟨rfl, rfl⟩, peer⟩
    rw [terminalResultRecord, terminalResultRecord, clock, correlation, peer]

omit [Decoders] in
theorem recorded_kept (history later : List Op) (op : Op) {terminal : TerminalResultRecord} {value : TaskRecord}
    {after : Db} (stepped : step (run step Db.empty history) op = after)
    (recorded : (run step Db.empty history).Records taskId terminal value after) :
    (run step after later).terminalResults.find taskId = some terminal ∧
      (run step after later).tasks.find taskId = some value ∧
      (run step after later).envelopes.find taskId = (run step Db.empty history).envelopes.find taskId := by
  subst stepped
  have settled := run_settled history taskId
  have ends : value.status.isTerminal = true := by
    rcases recorded.ended with ends | unchanged
    · exact ends
    · have stored := recorded.stored
      have present := recorded.present
      rw [unchanged] at stored present
      obtain ⟨task, found, ends⟩ := settled (Option.isSome_of_mem stored)
      cases found.symm.trans present
      exact ends
  refine ⟨run_keeps_result _ later recorded.stored, ?_, ?_⟩
  · exact (run_absorbs (step (run step Db.empty history) op) later taskId).keeps value recorded.present ends |>.1
  · exact (run_persists (run step Db.empty history) (op :: later)).2.envelope taskId recorded.known

variable {runtime : Runtime} {authorization : Option String} {after : Db}

theorem completeTask_ok {request : CompleteTaskRequest} {response : CompleteTaskResponse} :
    completeTask runtime authorization nowMs request db = (.ok response, after) ↔
      enter runtime authorization = .ok () ∧ ∃ taskId, parseRequiredTaskId request.taskId = .ok taskId ∧
        ∃ leaseId, parseRequiredLeaseId request.leaseId = .ok leaseId ∧
        ∃ workerId, parseRequiredAgentId request.workerId = .ok workerId ∧
        ∃ checked, validateWorkerResultArtifacts request.outputArtifacts = .ok checked ∧
        ensureReturnPeerTakesContent taskId checked.2 db = .ok () ∧
        ∃ report, buildTerminalResult runtime.config.localPeerId taskId .completed request.durationMs ""
          request.resultMetadata request.outputArtifacts nowMs db = .ok report ∧
        ∃ task, Sqlite.completeTaskWithResult taskId leaseId workerId
          (terminalResultRecord runtime.config taskId .completed report db) db = .ok (task, after) ∧
        ⟨some (protoId task.id), taskStatusLabel task.status, request.durationMs, request.resultMetadata,
          request.outputArtifacts⟩ = response := by
  simp only [completeTask, inStore, Session.attempt_bind_ok, Session.consult_bind_ok, Session.observe_bind,
    Session.perform_bind_ok, Session.pure_apply, Prod.mk.injEq, Except.ok.injEq, Unique.exists_iff,
    exists_eq_right_right]

theorem failTask_ok {request : FailTaskRequest} {response : FailTaskResponse} :
    failTask runtime authorization nowMs request db = (.ok response, after) ↔
      enter runtime authorization = .ok () ∧ ∃ taskId, parseRequiredTaskId request.taskId = .ok taskId ∧
        ∃ leaseId, parseRequiredLeaseId request.leaseId = .ok leaseId ∧
        ∃ workerId, parseRequiredAgentId request.workerId = .ok workerId ∧
        ∃ report, buildTerminalResult runtime.config.localPeerId taskId .failed request.durationMs request.errorReason
          request.failureMetadata [] nowMs db = .ok report ∧
        ∃ task, Sqlite.failTaskWithResult taskId leaseId workerId request.errorReason runtime.config.failRetryPolicy
          (terminalResultRecord runtime.config taskId .failed report db) db = .ok (task, after) ∧
        ⟨some (protoId task.id), taskStatusLabel task.status, request.durationMs, request.errorReason,
          request.failureMetadata, task.retryCount, task.deadLettered⟩ = response := by
  simp only [failTask, inStore, Session.attempt_bind_ok, Session.consult_bind_ok, Session.observe_bind,
    Session.perform_bind_ok, Session.pure_apply, Prod.mk.injEq, Except.ok.injEq, Unique.exists_iff,
    exists_eq_right_right]

omit [Sha256] in
theorem storedCorrelationId_kept (kept : db.envelopes.find taskId = before.envelopes.find taskId) :
    storedCorrelationId taskId db = storedCorrelationId taskId before := by
  unfold storedCorrelationId
  rw [kept]

omit [Sha256] in
theorem ensureReturnPeerTakesContent_kept (kept : db.envelopes.find taskId = before.envelopes.find taskId)
    (peer : returnPeerForTask taskId db = returnPeerForTask taskId before) :
    ensureReturnPeerTakesContent taskId content db = ensureReturnPeerTakesContent taskId content before := by
  unfold ensureReturnPeerTakesContent authenticatedSourceFeaturesForTask Db.getTaskEnvelope
  rw [kept, peer]

variable {history later : List Op}

/-- A completion sent again is answered exactly if it is stored as the first one was. -/
theorem completeTask_again {first second : CompleteTaskRequest} {response : CompleteTaskResponse}
    (same : first.Same second) (named : parseRequiredTaskId first.taskId = .ok taskId)
    (success : completeTask runtime authorization nowMs first (run step Db.empty history) = (.ok response, after)) :
    (∃ again, completeTask runtime authorization laterMs second (run step after later) =
        (.ok again, run step after later) ∧ again.status = response.status) ↔
      Int64.ofInt laterMs = Int64.ofInt nowMs ∧ second = first ∧
        returnPeerForTask taskId (run step after later) = returnPeerForTask taskId (run step Db.empty history) := by
  obtain ⟨fields, _, sameArtifacts⟩ := same
  generalize second.resultMetadata = metadata, second.outputArtifacts = artifacts at fields sameArtifacts
  subst fields
  obtain ⟨entered, _, task, leaseId, lease, workerId, worker, ⟨accepted, content⟩, valid, takes, report, built, value,
    finished, rfl⟩ := completeTask_ok.mp success
  cases task.symm.trans named
  have recorded := (completeTaskWithResult_ok.mp finished).2.records rfl fun applies => by cases applies; rfl
  obtain ⟨stored, present, envelope⟩ := recorded_kept history later (.completeTaskWithResult taskId leaseId workerId _)
    (congrArg Prod.snd (commit_ok finished)) recorded
  generalize run step after later = db at stored present envelope ⊢
  obtain ⟨again, rebuilt, equal⟩ := @terminalResultRecord_again _ _ _ _ _ runtime.config _ _ _ _ _ metadata _ laterMs _ _
    .completed _ sameArtifacts (storedCorrelationId_kept envelope) built
  have repeated := validateWorkerResultArtifacts_same sameArtifacts valid
  have whole : metadata = first.resultMetadata ∧ artifacts = first.outputArtifacts ↔
      { first with resultMetadata := metadata, outputArtifacts := artifacts } = first := by
    constructor
    · rintro ⟨rfl, rfl⟩
      rfl
    · intro same
      exact ⟨congrArg CompleteTaskRequest.resultMetadata same, congrArg CompleteTaskRequest.outputArtifacts same⟩
  rw [whole] at equal
  rw [← equal]
  constructor
  · rintro ⟨_, answered, _⟩
    obtain ⟨_, _, task, _, _, _, _, _, _, _, report', built', _, finished', _⟩ := completeTask_ok.mp answered
    cases task.symm.trans named
    cases built'.symm.trans rebuilt
    exact ((concludes_again stored present).mp (completeTaskWithResult_ok.mp finished').2).1
  · intro unchanged
    obtain ⟨_, _, peer⟩ := equal.mp unchanged
    refine ⟨_, completeTask_ok.mpr ⟨entered, taskId, named, leaseId, lease, workerId, worker, _, repeated, ?_, again,
      rebuilt, value, ?_, rfl⟩, rfl⟩
    · rw [ensureReturnPeerTakesContent_kept envelope peer]
      exact takes
    · exact completeTaskWithResult_ok.mpr ⟨⟨rfl, rfl⟩, (concludes_again stored present).mpr ⟨unchanged, rfl⟩⟩

omit [Sha256] [Decoders] in
theorem isTerminal_of_label_failed {status : TaskStatus} (failed : taskStatusLabel status = "failed") :
    status.isTerminal = true := by
  cases status <;> first | rfl | exact absurd failed (by decide)

theorem failTask_again {first second : FailTaskRequest} {response : FailTaskResponse}
    (same : first.Same second) (named : parseRequiredTaskId first.taskId = .ok taskId)
    (success : failTask runtime authorization nowMs first (run step Db.empty history) = (.ok response, after))
    (failed : response.status = "failed") :
    (∃ again, failTask runtime authorization laterMs second (run step after later) =
        (.ok again, run step after later) ∧ again.status = response.status) ↔
      Int64.ofInt laterMs = Int64.ofInt nowMs ∧ second = first ∧
        returnPeerForTask taskId (run step after later) = returnPeerForTask taskId (run step Db.empty history) := by
  obtain ⟨fields, _⟩ := same
  generalize second.failureMetadata = metadata at fields
  subst fields
  obtain ⟨entered, _, task, leaseId, lease, workerId, worker, report, built, value, finished, rfl⟩ :=
    failTask_ok.mp success
  cases task.symm.trans named
  have recorded := (failTaskWithResult_ok.mp finished).2.records rfl fun _ => isTerminal_of_label_failed failed
  obtain ⟨stored, present, envelope⟩ := recorded_kept history later (.failTaskWithResult taskId leaseId workerId _ _ _)
    (congrArg Prod.snd (commit_ok finished)) recorded
  generalize run step after later = db at stored present envelope ⊢
  obtain ⟨again, rebuilt, equal⟩ := @terminalResultRecord_again _ _ _ _ _ runtime.config _ _ _ _ _ metadata _ laterMs _ _
    .failed _ .nil (storedCorrelationId_kept envelope) built
  have whole : metadata = first.failureMetadata ∧ ([] : List TaskArtifact) = [] ↔
      { first with failureMetadata := metadata } = first := by
    constructor
    · rintro ⟨rfl, _⟩
      rfl
    · exact fun same => ⟨congrArg FailTaskRequest.failureMetadata same, rfl⟩
  rw [whole] at equal
  rw [← equal]
  constructor
  · rintro ⟨_, answered, _⟩
    obtain ⟨_, _, task, _, _, _, _, report', built', _, finished', _⟩ := failTask_ok.mp answered
    cases task.symm.trans named
    cases built'.symm.trans rebuilt
    exact ((concludes_again stored present).mp (failTaskWithResult_ok.mp finished').2).1
  · intro unchanged
    refine ⟨_, failTask_ok.mpr ⟨entered, taskId, named, leaseId, lease, workerId, worker, again, rebuilt, value, ?_,
      rfl⟩, rfl⟩
    exact failTaskWithResult_ok.mpr ⟨⟨rfl, rfl⟩, (concludes_again stored present).mpr ⟨unchanged, rfl⟩⟩

end

section
variable [Decoders] [Sha256]

/-- A report that is sent again is answered as before and changes nothing exactly if the clock reads the same
millisecond, the maps come in the same order and the same peer waits for the result. -/
theorem repeated_report_answered_iff (history later : List Op) (runtime : Runtime) (authorization : Option String)
    (nowMs laterMs : Int) (taskId : TaskId) (after : Db) :
    (∀ (first second : CompleteTaskRequest) (response : CompleteTaskResponse), first.Same second →
      parseRequiredTaskId first.taskId = .ok taskId →
      completeTask runtime authorization nowMs first (run step Db.empty history) = (.ok response, after) →
      ((∃ again, completeTask runtime authorization laterMs second (run step after later) =
          (.ok again, run step after later) ∧ again.status = response.status) ↔
        Int64.ofInt laterMs = Int64.ofInt nowMs ∧ second = first ∧
          returnPeerForTask taskId (run step after later) = returnPeerForTask taskId (run step Db.empty history))) ∧
    (∀ (first second : FailTaskRequest) (response : FailTaskResponse), first.Same second →
      parseRequiredTaskId first.taskId = .ok taskId →
      failTask runtime authorization nowMs first (run step Db.empty history) = (.ok response, after) →
      response.status = "failed" →
      ((∃ again, failTask runtime authorization laterMs second (run step after later) =
          (.ok again, run step after later) ∧ again.status = response.status) ↔
        Int64.ofInt laterMs = Int64.ofInt nowMs ∧ second = first ∧
          returnPeerForTask taskId (run step after later) = returnPeerForTask taskId (run step Db.empty history))) :=
  ⟨fun _ _ _ same named success => completeTask_again same named success,
    fun _ _ _ same named success failed => failTask_again same named success failed⟩

end

def completedState : Db :=
  (@completeTask default default sampleRuntime none 1 sampleCompletion (run (@step default) Db.empty leasedRun)).2

theorem completedState_answered :
    @completeTask default default sampleRuntime none 1 sampleCompletion (run (@step default) Db.empty leasedRun) =
      (.ok ⟨some (protoId sampleTask), "completed", 0, inOrder, sampleCompletion.outputArtifacts⟩, completedState) := by
  have answered : (@completeTask default default sampleRuntime none 1 sampleCompletion
      (run (@step default) Db.empty leasedRun)).1 =
        .ok ⟨some (protoId sampleTask), "completed", 0, inOrder, sampleCompletion.outputArtifacts⟩ := by decide +kernel
  rw [← answered]
  rfl

theorem sample_completion_repeated :
    ∃ again, @completeTask default default sampleRuntime none 1 sampleCompletion
        (run (@step default) completedState otherWork) =
      (.ok again, run (@step default) completedState otherWork) ∧ again.status = "completed" :=
  ((@repeated_report_answered_iff default default leasedRun otherWork sampleRuntime none 1 1 sampleTask
    completedState).1 sampleCompletion sampleCompletion _ ⟨rfl, .refl _, .cons ⟨rfl, .refl _⟩ .nil⟩
    (parseRequiredId_protoId _ _) completedState_answered).mpr ⟨rfl, rfl, by decide +kernel⟩

/-- A millisecond later the same completion is refused. -/
theorem later_completion_refused :
    ¬ ∀ (history : List Op) (runtime : Runtime) (authorization : Option String) (nowMs laterMs : Int), nowMs ≤ laterMs →
      ∀ (request : CompleteTaskRequest) (response : CompleteTaskResponse) (after : Db),
        @completeTask default default runtime authorization nowMs request (run (@step default) Db.empty history) =
          (.ok response, after) →
        ∃ again, @completeTask default default runtime authorization laterMs request after = (.ok again, after) ∧
          again.status = response.status := by
  intro every
  obtain ⟨again, answered, _⟩ := every leasedRun sampleRuntime none 1 2 (by decide) sampleCompletion _ completedState
    completedState_answered
  have refused : (@completeTask default default sampleRuntime none 2 sampleCompletion completedState).1.isOk = false := by
    decide +kernel
  rw [answered] at refused
  cases refused

end Keryx.Daemon
