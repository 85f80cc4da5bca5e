import Keryx.Daemon.Worker

/-! The request that hands the origin of a task the result of a remote executor. -/

namespace Keryx.Daemon
open Keryx.Core Store Proto Relational
open Session (attempt report)

structure IngestRemoteResultRequest where
  result : Option TaskResultEnvelope
  authenticatedExecutorPeerId : String
  destinationPeerId : String

structure IngestRemoteResultResponse where
  taskId : Option ProtoId
  status : String
deriving DecidableEq

def TerminalOutcome.tryFrom (value : Int32) : Option TerminalOutcome :=
  [.unspecified, .completed, .failed, .canceled, .timedOut, .rejected].find? (fun outcome => outcome.asI32 = value)

def terminalOutcomeStatus (outcome : Int32) : Except Status TaskStatus :=
  match (TerminalOutcome.tryFrom outcome).getD .unspecified with
  | .completed => .ok .completed
  | .failed | .canceled | .timedOut | .rejected => .ok .failed
  | .unspecified => .error (.invalidArgument "terminal outcome is required")

section
variable [Sha256]

def descriptorOf (taskId : TaskId) (index : Nat) (artifact : ResultArtifact) : ResultArtifact :=
  { artifact with artifactId := some (protoId (originResultArtifactId taskId index)), content := [], contentPresent := false }

def storedArtifact (taskId : TaskId) (completedAtMs : Int64) (index : Nat) (artifact : ResultArtifact) :
    OriginResultArtifact where
  ordinal := index
  artifactMeta :=
    { artifactId := originResultArtifactId taskId index
      taskId
      digest := Digest.compute artifact.content
      mediaType := normalizeMediaType artifact.mediaType
      byteLen := artifact.content.length
      inlined := shouldInline artifact.content.length
      createdAt := toString completedAtMs.toInt }
  content := artifact.content

/-- One turn of the loop: the descriptor that stays, and the artifact to store. -/
def canonicalizeArtifact (taskId : TaskId) (completedAtMs : Int64) (index aggregateLen : Nat)
    (artifact : ResultArtifact) : Except Status (ResultArtifact × Option OriginResultArtifact) :=
  if artifact.artifactId.isSome then
    .error (.invalidArgument "result artifact_id is origin-assigned and must be absent on ingest")
  else if u32Max < index then .error (.invalidArgument "result artifact ordinal exceeds u32 range")
  else if artifact.contentPresent then do
    let digest ← parseLowercaseDigest artifact.sha256
    if artifact.byteLen.toNat ≠ artifact.content.length then
      throw (.invalidArgument "artifact byte_len does not match content length")
    if digest ≠ Digest.compute artifact.content then
      throw (.invalidArgument "artifact sha256 does not match content")
    -- The bound on the sum is below the largest 64-bit number, so the overflow check adds nothing.
    if maxCrossNodeResultArtifactBytes < aggregateLen + artifact.content.length then throw artifactLimitExceeded
    return ({ descriptorOf taskId index artifact with sha256 := digest.value },
      some (storedArtifact taskId completedAtMs index artifact))
  else if artifact.content ≠ [] ∨ artifact.sha256 ≠ "" ∨ artifact.byteLen ≠ 0 then
    .error (.invalidArgument "descriptor-only artifact must not include content, sha256, or byte_len")
  else .ok (descriptorOf taskId index artifact, none)

def canonicalizeArtifactsFrom (taskId : TaskId) (completedAtMs : Int64) : Nat → Nat → List ResultArtifact →
    Except Status (List ResultArtifact × List OriginResultArtifact)
  | _, _, [] => .ok ([], [])
  | index, aggregateLen, artifact :: artifacts => do
    let (descriptor, stored) ← canonicalizeArtifact taskId completedAtMs index aggregateLen artifact
    let (descriptors, later) ←
      canonicalizeArtifactsFrom taskId completedAtMs (index + 1) (aggregateLen + artifact.content.length) artifacts
    return (descriptor :: descriptors, stored.toList ++ later)

def canonicalizeOriginResultArtifacts (taskId : TaskId) (result : TaskResultEnvelope) :
    Except Status (TaskResultEnvelope × List OriginResultArtifact) :=
  if result.outputArtifacts.any (·.contentPresent) && result.protocolVersion < 2 then
    .error (.failedPrecondition "byte-bearing result artifacts require protocol_version >= 2")
  else do
    let (outputArtifacts, stored) ←
      canonicalizeArtifactsFrom taskId result.completedAtMs 0 0 result.outputArtifacts
    return ({ result with outputArtifacts }, stored)

variable {taskId : TaskId} {completedAtMs : Int64} {index aggregateLen : Nat} {artifact descriptor : ResultArtifact}
  {stored : Option OriginResultArtifact}

theorem canonicalizeArtifact_ok
    (accepted : canonicalizeArtifact taskId completedAtMs index aggregateLen artifact = .ok (descriptor, stored)) :
    descriptor = descriptorOf taskId index artifact ∧
      (artifact.sha256 = "" ∧ stored = none ∨
        artifact.sha256 = (Digest.compute artifact.content).value ∧ artifact.byteLen.toNat = artifact.content.length ∧
          stored = some (storedArtifact taskId completedAtMs index artifact)) := by
  unfold canonicalizeArtifact at accepted
  split at accepted
  · cases accepted
  split at accepted
  · cases accepted
  split at accepted
  · obtain ⟨digest, parsed, accepted⟩ := except_bind_ok.mp accepted
    have text := parseLowercaseDigest_ok parsed
    by_cases sized : artifact.byteLen.toNat = artifact.content.length
    · rw [if_neg (not_not.mpr sized)] at accepted
      by_cases hashed : digest = Digest.compute artifact.content
      · rw [if_neg (not_not.mpr hashed)] at accepted
        by_cases large : maxCrossNodeResultArtifactBytes < aggregateLen + artifact.content.length
        · rw [if_pos large] at accepted
          cases accepted
        · rw [if_neg large] at accepted
          cases accepted
          refine ⟨?_, .inr ⟨?_, sized, rfl⟩⟩
          · rw [text]
            rfl
          · rw [← hashed, text]
      · rw [if_pos hashed] at accepted
        cases accepted
    · rw [if_pos sized] at accepted
      cases accepted
  split at accepted
  · cases accepted
  · rename_i bare
    cases accepted
    obtain ⟨_, bare⟩ := not_or.mp bare
    obtain ⟨unhashed, _⟩ := not_or.mp bare
    exact ⟨rfl, .inl ⟨not_not.mp unhashed, rfl⟩⟩

variable {artifacts others descriptors : List ResultArtifact} {later : List OriginResultArtifact}

theorem canonicalizeArtifactsFrom_cons :
    canonicalizeArtifactsFrom taskId completedAtMs index aggregateLen (artifact :: artifacts) = .ok (descriptors, later) ↔
      ∃ descriptor stored rest others,
        canonicalizeArtifact taskId completedAtMs index aggregateLen artifact = .ok (descriptor, stored) ∧
        canonicalizeArtifactsFrom taskId completedAtMs (index + 1) (aggregateLen + artifact.content.length) artifacts =
          .ok (rest, others) ∧
        descriptors = descriptor :: rest ∧ later = stored.toList ++ others := by
  rw [canonicalizeArtifactsFrom, except_bind_ok]
  constructor
  · rintro ⟨⟨descriptor, stored⟩, first, accepted⟩
    obtain ⟨⟨rest, others⟩, loop, accepted⟩ := except_bind_ok.mp accepted
    cases accepted
    exact ⟨descriptor, stored, rest, others, first, loop, rfl, rfl⟩
  · rintro ⟨descriptor, stored, rest, others, first, loop, rfl, rfl⟩
    exact ⟨(descriptor, stored), first, except_bind_ok.mpr ⟨(rest, others), loop, rfl⟩⟩

theorem canonicalizeArtifactsFrom_stored {offset : Nat}
    (accepted : canonicalizeArtifactsFrom taskId completedAtMs index aggregateLen artifacts = .ok (descriptors, later))
    (listed : descriptors[offset]? = some descriptor) (recorded : descriptor.sha256 ≠ "") :
    ∃ artifact ∈ later, artifact.artifactMeta.artifactId = originResultArtifactId taskId (index + offset) ∧
      descriptor.artifactId = some (protoId (originResultArtifactId taskId (index + offset))) ∧
      (Digest.compute artifact.content).value = descriptor.sha256 ∧
      artifact.content.length = descriptor.byteLen.toNat := by
  induction artifacts generalizing index aggregateLen descriptors later offset with
  | nil =>
    cases accepted
    cases listed
  | cons artifact artifacts ih =>
    obtain ⟨first, stored, rest, others, turn, loop, rfl, rfl⟩ := canonicalizeArtifactsFrom_cons.mp accepted
    cases offset with
    | zero =>
      cases listed
      obtain ⟨rfl, ⟨bare, _⟩ | ⟨hashed, sized, rfl⟩⟩ := canonicalizeArtifact_ok turn
      · exact absurd bare recorded
      · exact ⟨storedArtifact taskId completedAtMs index artifact, List.mem_cons_self, rfl, rfl, hashed.symm, sized.symm⟩
    | succ offset =>
      obtain ⟨kept, member, found⟩ := ih loop listed
      rw [Nat.add_right_comm, Nat.add_assoc] at found
      exact ⟨kept, List.mem_append_right _ member, found⟩

theorem canonicalizeArtifact_metadata (metadata : StringMap) :
    canonicalizeArtifact taskId completedAtMs index aggregateLen { artifact with metadata } =
      (canonicalizeArtifact taskId completedAtMs index aggregateLen artifact).map
        (fun answer => ({ answer.1 with metadata }, answer.2)) := by
  unfold canonicalizeArtifact
  simp only
  split
  · rfl
  split
  · rfl
  split
  · cases parseLowercaseDigest artifact.sha256 with
    | error failure => rfl
    | ok digest =>
      simp only [bind, Except.bind]
      split
      · rfl
      split
      · rfl
      split
      · rfl
      · rfl
  split
  · rfl
  · rfl

theorem canonicalizeArtifact_same {other : ResultArtifact} (same : artifact.Same other)
    (accepted : canonicalizeArtifact taskId completedAtMs index aggregateLen artifact = .ok (descriptor, stored)) :
    canonicalizeArtifact taskId completedAtMs index aggregateLen other =
      .ok ({ descriptor with metadata := other.metadata }, stored) := by
  rw [same.fields, canonicalizeArtifact_metadata, accepted]
  rfl

theorem canonicalizeArtifactsFrom_same (same : List.Forall₂ ResultArtifact.Same artifacts others)
    (accepted : canonicalizeArtifactsFrom taskId completedAtMs index aggregateLen artifacts = .ok (descriptors, later)) :
    ∃ redescribed, canonicalizeArtifactsFrom taskId completedAtMs index aggregateLen others = .ok (redescribed, later) ∧
      (redescribed = descriptors → others = artifacts) := by
  induction same generalizing index aggregateLen descriptors later with
  | nil =>
    cases accepted
    exact ⟨[], rfl, fun _ => rfl⟩
  | @cons artifact other artifacts others first rest ih =>
    obtain ⟨descriptor, stored, descriptors, kept, turn, loop, rfl, rfl⟩ := canonicalizeArtifactsFrom_cons.mp accepted
    obtain ⟨redescribed, again, differ⟩ := ih loop
    have content : other.content = artifact.content := by rw [first.fields]
    refine ⟨{ descriptor with metadata := other.metadata } :: redescribed, canonicalizeArtifactsFrom_cons.mpr
      ⟨_, stored, redescribed, kept, canonicalizeArtifact_same first turn, ?_, rfl, rfl⟩, fun equal => ?_⟩
    · rw [content]
      exact again
    · obtain ⟨head, tail⟩ := List.cons.inj equal
      obtain ⟨rfl, _⟩ := canonicalizeArtifact_ok turn
      have metadata := congrArg ResultArtifact.metadata head
      change other.metadata = artifact.metadata at metadata
      rw [differ tail, first.fields, metadata]

variable {result again : TaskResultEnvelope} {envelope : TaskResultEnvelope}

theorem canonicalizeOriginResultArtifacts_ok
    (accepted : canonicalizeOriginResultArtifacts taskId result = .ok (envelope, later)) :
    ∃ outputArtifacts, canonicalizeArtifactsFrom taskId result.completedAtMs 0 0 result.outputArtifacts =
      .ok (outputArtifacts, later) ∧ envelope = { result with outputArtifacts } := by
  unfold canonicalizeOriginResultArtifacts at accepted
  split at accepted
  · cases accepted
  · obtain ⟨⟨outputArtifacts, stored⟩, loop, accepted⟩ := except_bind_ok.mp accepted
    cases accepted
    exact ⟨outputArtifacts, loop, rfl⟩

theorem canonicalizeOriginResultArtifacts_same (same : result.Same again)
    (accepted : canonicalizeOriginResultArtifacts taskId result = .ok (envelope, later)) :
    ∃ other, canonicalizeOriginResultArtifacts taskId again = .ok (other, later) ∧
      (other = envelope → again = result) ∧ other.completedAtMs = envelope.completedAtMs := by
  obtain ⟨outputArtifacts, loop, rfl⟩ := canonicalizeOriginResultArtifacts_ok accepted
  obtain ⟨redescribed, repeated, differ⟩ := canonicalizeArtifactsFrom_same same.outputArtifacts loop
  have version : again.protocolVersion = result.protocolVersion := by rw [same.fields]
  have completed : again.completedAtMs = result.completedAtMs := by rw [same.fields]
  have content := any_contentPresent_same same.outputArtifacts
  refine ⟨{ again with outputArtifacts := redescribed }, ?_, fun equal => ?_, completed⟩
  · unfold canonicalizeOriginResultArtifacts at accepted ⊢
    rw [content, version, completed]
    split
    · rename_i old
      rw [if_pos old] at accepted
      cases accepted
    · rw [repeated]
      rfl
  · have metadata := congrArg TaskResultEnvelope.resultMetadata equal
    have descriptors := congrArg TaskResultEnvelope.outputArtifacts equal
    change again.resultMetadata = result.resultMetadata at metadata
    rw [same.fields, metadata, differ descriptors]

end

structure RemoteResult where
  envelope : TaskResultEnvelope
  record : TerminalResultRecord
  artifacts : List OriginResultArtifact
  executor : PeerId

def requireResult (result : Option TaskResultEnvelope) : Except Status TaskResultEnvelope :=
  match result with
  | some result => .ok result
  | none => .error (.invalidArgument "result is required")

theorem requireResult_ok {result : Option TaskResultEnvelope} {received : TaskResultEnvelope} :
    requireResult result = .ok received ↔ result = some received := by
  cases result <;> simp [requireResult]

def receiveRemoteResult [Sha256] (config : Config) (request : IngestRemoteResultRequest) :
    Except Status RemoteResult := do
  let result ← requireResult request.result
  let taskId ← parseRequiredTaskId result.taskId
  let executor ← invalidValue (validateIdentifier .peerId (trim request.authenticatedExecutorPeerId))
  if trim request.destinationPeerId ≠ config.localPeerId.value then
    throw ⟨.permissionDenied, "result destination does not match local peer"⟩
  let envelopeExecutor ← invalidValue (validateIdentifier .peerId (trim result.executorPeerId))
  if envelopeExecutor ≠ executor then
    throw ⟨.permissionDenied, "result executor does not match authenticated executor"⟩
  let terminalStatus ← terminalOutcomeStatus result.outcome
  let (envelope, artifacts) ← canonicalizeOriginResultArtifacts taskId result
  return {
    envelope
    record :=
      { taskId
        encodedResult := envelope.encodeToVec
        terminalStatus
        returnPeerId := none
        executorPeerId := executor
        createdAtMs := envelope.completedAtMs.toInt }
    artifacts
    executor }

section
variable [Sha256] {config : Config} {request : IngestRemoteResultRequest} {received : RemoteResult}

theorem receiveRemoteResult_ok :
    receiveRemoteResult config request = .ok received ↔
      ∃ result, request.result = some result ∧ parseRequiredTaskId result.taskId = .ok received.record.taskId ∧
        invalidValue (validateIdentifier .peerId (trim request.authenticatedExecutorPeerId)) = .ok received.executor ∧
        trim request.destinationPeerId = config.localPeerId.value ∧
        invalidValue (validateIdentifier .peerId (trim result.executorPeerId)) = .ok received.executor ∧
        terminalOutcomeStatus result.outcome = .ok received.record.terminalStatus ∧
        canonicalizeOriginResultArtifacts received.record.taskId result = .ok (received.envelope, received.artifacts) ∧
        received.record =
          { taskId := received.record.taskId
            encodedResult := received.envelope.encodeToVec
            terminalStatus := received.record.terminalStatus
            returnPeerId := none
            executorPeerId := received.executor
            createdAtMs := received.envelope.completedAtMs.toInt } := by
  unfold receiveRemoteResult
  rw [except_bind_ok]
  constructor
  · rintro ⟨result, required, accepted⟩
    obtain ⟨taskId, named, accepted⟩ := except_bind_ok.mp accepted
    obtain ⟨executor, authenticated, accepted⟩ := except_bind_ok.mp accepted
    by_cases arrives : trim request.destinationPeerId = config.localPeerId.value
    · rw [if_neg (not_not.mpr arrives)] at accepted
      obtain ⟨declared, executes, accepted⟩ := except_bind_ok.mp accepted
      by_cases same : declared = executor
      · rw [if_neg (not_not.mpr same)] at accepted
        obtain ⟨status, ends, accepted⟩ := except_bind_ok.mp accepted
        obtain ⟨⟨envelope, artifacts⟩, canonical, accepted⟩ := except_bind_ok.mp accepted
        cases accepted
        subst same
        exact ⟨result, requireResult_ok.mp required, named, authenticated, arrives, executes, ends, canonical, rfl⟩
      · rw [if_pos same] at accepted
        cases accepted
    · rw [if_pos arrives] at accepted
      cases accepted
  · rintro ⟨result, required, named, authenticated, arrives, executes, ends, canonical, record⟩
    refine ⟨result, requireResult_ok.mpr required, ?_⟩
    rw [named, authenticated]
    simp only [bind, Except.bind, arrives, ne_eq, not_true_eq_false, if_false, executes, ends, canonical]
    obtain ⟨envelope, stored, artifacts, executor⟩ := received
    simp only at record ⊢
    rw [record]
    rfl

theorem receiveRemoteResult_same {result again : TaskResultEnvelope} (same : result.Same again)
    (accepted : receiveRemoteResult config { request with result := some result } = .ok received) :
    ∃ other : TaskResultEnvelope, receiveRemoteResult config { request with result := some again } =
        .ok { received with envelope := other, record := { received.record with encodedResult := other.encodeToVec } } ∧
      (other.encodeToVec = received.record.encodedResult → again = result) := by
  obtain ⟨message, required, named, authenticated, arrives, executes, ends, canonical, record⟩ :=
    receiveRemoteResult_ok.mp accepted
  cases required
  obtain ⟨other, repeated, differ, completed⟩ := canonicalizeOriginResultArtifacts_same same canonical
  have taskId : again.taskId = result.taskId := by rw [same.fields]
  have executor : again.executorPeerId = result.executorPeerId := by rw [same.fields]
  have outcome : again.outcome = result.outcome := by rw [same.fields]
  refine ⟨other, receiveRemoteResult_ok.mpr ⟨again, rfl, ?_, authenticated, arrives, ?_, ?_, repeated, ?_⟩, ?_⟩
  · rw [taskId]
    exact named
  · rw [executor]
    exact executes
  · rw [outcome]
    exact ends
  · rw [record, completed]
  · intro bytes
    rw [record] at bytes
    exact differ (TaskResultEnvelope.encodeToVec_inj bytes)

end

def validateCanceledSettlement [Decoders] (taskId : TaskId) (record : TerminalResultRecord) : Except Status Unit := do
  let envelope ← (Decoders.taskResultEnvelope record.encodedResult).mapError
    (fun _ => .dataLoss "canceled task has a corrupt terminal result")
  if envelope.taskId ≠ some (protoId taskId) then
    throw (.dataLoss "canceled terminal result has mismatched task identity")
  if TerminalOutcome.tryFrom envelope.outcome ≠ some .canceled then
    throw (.dataLoss "canceled task has a non-canceled canonical result")
  if envelope.executorPeerId ≠ record.executorPeerId.value then
    throw (.dataLoss "canceled terminal result has mismatched executor identity")
  if envelope.outputArtifacts ≠ [] then
    throw (.dataLoss "canceled terminal result unexpectedly references artifacts")

def validateTerminalResultSettlement [Decoders] (taskId : TaskId) (reason : RemoteResultTerminalReason)
    (canonicalResult : Option TerminalResultRecord) : Except Status Unit :=
  match reason, canonicalResult with
  | .deadlineExpired, none => .ok ()
  | .deadlineExpired, some _ =>
    .error (.dataLoss "deadline-expired task unexpectedly has a canonical terminal result")
  | .canceled, none => .error (.dataLoss "canceled task is missing its canonical terminal result")
  | .canceled, some record => validateCanceledSettlement taskId record

def ingestedTask [Decoders] (taskId : TaskId) : RemoteResultIngestOutcome → Except Status TaskRecord
  | .applied task | .duplicate task => .ok task
  | .settledTerminal task reason canonicalResult => do
    validateTerminalResultSettlement taskId reason canonicalResult
    return task

def RemoteResult.ingest [Sha256] (received : RemoteResult) : Session Sqlite.Db StoreError RemoteResultIngestOutcome :=
  Sqlite.ingestRemoteResultWithArtifacts received.record received.artifacts received.executor

def ingestRemoteResult [Decoders] [Sha256] (runtime : Runtime) (authorization : Option String)
    (request : IngestRemoteResultRequest) : Rpc IngestRemoteResultResponse := do
  attempt (enter runtime authorization)
  let received ← attempt (receiveRemoteResult runtime.config request)
  let outcome ← report storeErrorToStatus received.ingest
  let task ← attempt (ingestedTask received.record.taskId outcome)
  pure { taskId := some (protoId received.record.taskId), status := taskStatusLabel task.status }

theorem ingestRemoteResult_ok [Decoders] [Sha256] {runtime : Runtime} {authorization : Option String}
    {request : IngestRemoteResultRequest} {response : IngestRemoteResultResponse} {db after : Sqlite.Db} :
    ingestRemoteResult runtime authorization request db = (.ok response, after) ↔
      enter runtime authorization = .ok () ∧
        ∃ received outcome task, receiveRemoteResult runtime.config request = .ok received ∧
          Sqlite.ingestRemoteResultWithArtifacts received.record received.artifacts received.executor db =
            (.ok outcome, after) ∧
          ingestedTask received.record.taskId outcome = .ok task ∧
          response = { taskId := some (protoId received.record.taskId), status := taskStatusLabel task.status } := by
  simp only [ingestRemoteResult, Session.attempt_bind_ok, Session.report_bind_ok, Session.pure_apply, Prod.mk.injEq,
    Except.ok.injEq]
  constructor
  · rintro ⟨_, entered, received, accepted, outcome, middle, ingested, task, ended, rfl, rfl⟩
    exact ⟨entered, received, outcome, task, accepted, ingested, ended, rfl⟩
  · rintro ⟨entered, received, outcome, task, accepted, ingested, ended, rfl⟩
    exact ⟨(), entered, received, accepted, outcome, after, ingested, task, ended, rfl, rfl⟩

end Keryx.Daemon
