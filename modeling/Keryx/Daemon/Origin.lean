import Keryx.Daemon.Ingest
import Keryx.Store.Sqlite.Duplicates

/-! What the origin of a task keeps of a remote result, and its answer to the same result delivered again. -/

namespace Keryx.Daemon
open Keryx.Core Store Store.Sqlite Proto Relational Relational.Run

def RemoteResult.ingestedIn (received : RemoteResult) (history later : List Op) : List Op :=
  ingestingRun history received.record received.artifacts received.executor later

section
variable [Sha256]

/-- The bytes that a stored result records read back as long as nobody deletes the artifact or stores other bytes
under its id. -/
theorem recorded_artifacts_read_back (history later : List Op) (config : Config) (request : IngestRemoteResultRequest)
    (received : RemoteResult) (task : TaskRecord) (index : Nat) (descriptor : ResultArtifact)
    (accepted : receiveRemoteResult config request = .ok received)
    (applied : (ingestRemoteResultWithArtifacts received.record received.artifacts received.executor
      (run step Db.empty history)).1 = .ok (.applied task))
    (distinct : Collisionless received.artifacts)
    (listed : received.envelope.outputArtifacts[index]? = some descriptor) (recorded : descriptor.sha256 ≠ "")
    (spared : ∀ op ∈ later, op.Spares (originResultArtifactId received.record.taskId index) descriptor.sha256
      descriptor.byteLen.toNat) :
    (∃ stored, (run step Db.empty (received.ingestedIn history later)).terminalResults.find received.record.taskId =
        some stored ∧ stored.encodedResult = received.envelope.encodeToVec) ∧
      descriptor.artifactId = some (protoId (originResultArtifactId received.record.taskId index)) ∧
      ∃ record bytes, getArtifact (originResultArtifactId received.record.taskId index)
          (run step Db.empty (received.ingestedIn history later)) = .ok (record, bytes) ∧
        (Digest.compute bytes).value = descriptor.sha256 ∧ bytes.length = descriptor.byteLen.toNat := by
  obtain ⟨result, _, _, _, _, _, _, canonical, record⟩ := receiveRemoteResult_ok.mp accepted
  obtain ⟨outputArtifacts, loop, envelope⟩ := canonicalizeOriginResultArtifacts_ok canonical
  rw [envelope] at listed
  obtain ⟨artifact, member, named, assigned, hashed, sized⟩ := canonicalizeArtifactsFrom_stored loop listed recorded
  rw [Nat.zero_add] at named assigned
  have archives := ingest_archives applied
  have read := archives.reads distinct member
  rw [named] at read
  have bears : (ingestRemoteResultWithArtifacts received.record received.artifacts received.executor
      (run step Db.empty history)).2.Bears (originResultArtifactId received.record.taskId index)
      (Digest.compute artifact.content) descriptor.byteLen.toNat :=
    ⟨_, _, read, rfl, sized, rfl, sized⟩
  rw [← hashed] at spared
  have counted := counted_ingest received.record received.artifacts received.executor (run_counted history)
  obtain ⟨final, bytes, found, _, _, digest, length⟩ := run_bears later counted bears spared
  refine ⟨⟨received.record, (ingest_remains history later applied).2.2.2, ?_⟩, assigned, final, bytes, ?_, ?_, length⟩
  · rw [record]
  · rw [RemoteResult.ingestedIn, run_ingestingRun]
    exact found
  · rw [digest, hashed]

end

def sampleResult : TaskResultEnvelope where
  protocolVersion := 2
  taskId := some (protoId sampleTask)
  correlationId := none
  outcome := TerminalOutcome.completed.asI32
  executorPeerId := samplePeer.value
  durationMs := 1
  completedAtMs := 5
  errorReason := ""
  resultMetadata := inOrder
  outputArtifacts :=
    [{ path := "out"
       mediaType := "text/plain"
       metadata := .empty
       artifactId := none
       sha256 := (default : Digest).value
       byteLen := 1
       content := [7]
       contentPresent := true }]

def sampleIngest : IngestRemoteResultRequest := ⟨some sampleResult, "edge", "edge"⟩

def sampleStored : TaskResultEnvelope :=
  { sampleResult with outputArtifacts := sampleResult.outputArtifacts.map (@descriptorOf default sampleTask 0) }

def sampleReceived : RemoteResult where
  envelope := sampleStored
  record := ⟨sampleTask, sampleStored.encodeToVec, .completed, none, samplePeer, 5⟩
  artifacts := sampleResult.outputArtifacts.map (@storedArtifact default sampleTask 5 0)
  executor := samplePeer

set_option maxRecDepth 4000 in
theorem sampleReceived_accepted : @receiveRemoteResult default sampleRuntime.config sampleIngest = .ok sampleReceived := rfl

theorem sampleReceived_collisionless : @Collisionless default sampleReceived.artifacts := by
  intro one first other second _ _ _
  rw [List.mem_singleton.mp first, List.mem_singleton.mp second]

/-- Another artifact is stored, and the output reads back. -/
theorem sample_artifact_reads_back :
    ∃ record bytes, @getArtifact default (@originResultArtifactId default sampleTask 0)
        (run (@step default) Db.empty (sampleReceived.ingestedIn [acceptForPeer] [.putArtifact sampleArtifact [7, 8]])) =
          .ok (record, bytes) ∧
      (@Digest.compute default bytes).value = (default : Digest).value ∧ bytes.length = 1 :=
  (@recorded_artifacts_read_back default [acceptForPeer] [.putArtifact sampleArtifact [7, 8]] sampleRuntime.config
    sampleIngest sampleReceived (TaskRecord.new sampleTask .completed none) 0 _ sampleReceived_accepted (by decide)
    sampleReceived_collisionless rfl (by decide) (by
      intro op member
      rw [List.mem_singleton.mp member]
      exact fun named => absurd named (by decide))).2.2

def replacement : ArtifactMeta :=
  { sampleArtifact with artifactId := @originResultArtifactId default sampleTask 0 }

/-- A client stores two bytes under the id of the output, and the recorded byte is gone. -/
theorem recorded_artifact_replaced :
    ¬ ∀ (history later : List Op) (config : Config) (request : IngestRemoteResultRequest) (received : RemoteResult)
        (task : TaskRecord) (index : Nat) (descriptor : ResultArtifact),
      @receiveRemoteResult default config request = .ok received →
      (@ingestRemoteResultWithArtifacts default received.record received.artifacts received.executor
        (run (@step default) Db.empty history)).1 = .ok (.applied task) →
      @Collisionless default received.artifacts → received.envelope.outputArtifacts[index]? = some descriptor →
      descriptor.sha256 ≠ "" →
      (∀ op ∈ later, op ≠ .deleteArtifact (@originResultArtifactId default received.record.taskId index)) →
      ∃ record bytes, @getArtifact default (@originResultArtifactId default received.record.taskId index)
          (run (@step default) Db.empty (received.ingestedIn history later)) = .ok (record, bytes) ∧
        (@Digest.compute default bytes).value = descriptor.sha256 ∧ bytes.length = descriptor.byteLen.toNat := by
  intro every
  obtain ⟨record, bytes, read, _, sized⟩ := every [acceptForPeer] [.putArtifact replacement [8, 9]] sampleRuntime.config
    sampleIngest sampleReceived (TaskRecord.new sampleTask .completed none) 0 _ sampleReceived_accepted (by decide)
    sampleReceived_collisionless rfl (by decide) (by
      intro op member
      rw [List.mem_singleton.mp member]
      nofun)
  have replaced : (@getArtifact default (@originResultArtifactId default sampleTask 0) (run (@step default) Db.empty
      (sampleReceived.ingestedIn [acceptForPeer] [.putArtifact replacement [8, 9]]))).map Prod.snd = .ok [8, 9] := by
    decide
  change @getArtifact default (@originResultArtifactId default sampleTask 0) _ = _ at read
  rw [read] at replaced
  cases replaced
  cases sized

section
variable [Decoders] [Sha256]

/-- A second delivery is answered exactly if the task had ended otherwise, or the maps come out in the same order and
the first one found the task without artifacts and with a log that replays. -/
theorem result_redelivery_answered_iff (history : List Op) (runtime : Runtime) (authorization : Option String)
    (request : IngestRemoteResultRequest) (first second : TaskResultEnvelope) (same : first.Same second)
    (received : RemoteResult) (response : IngestRemoteResultResponse) (after : Db)
    (accepted : receiveRemoteResult runtime.config { request with result := some first } = .ok received)
    (ingested : ingestRemoteResult runtime authorization { request with result := some first }
      (run step Db.empty history) = (.ok response, after)) :
    (∃ again, ingestRemoteResult runtime authorization { request with result := some second } after =
        (.ok again, after)) ↔
      (run step Db.empty history).EndedOtherwise received.record.taskId ∨
        (second = first ∧ ((run step Db.empty history).terminalResults.find received.record.taskId = none →
          Repeatable received.record received.artifacts (run step Db.empty history))) := by
  obtain ⟨entered, own, outcome, task, parsed, stored, ended, _⟩ := ingestRemoteResult_ok.mp ingested
  cases accepted.symm.trans parsed
  obtain ⟨other, repeated, differ⟩ := receiveRemoteResult_same same accepted
  have bytes : other.encodeToVec = received.record.encodedResult ↔ second = first := by
    refine ⟨differ, fun equal => ?_⟩
    rw [equal, accepted] at repeated
    exact (congrArg (fun received => received.record.encodedResult) (Except.ok.inj repeated)).symm
  rw [← bytes]
  constructor
  · rintro ⟨again, success⟩
    obtain ⟨_, _, answer, answered, parsedAgain, repeats, _, _⟩ := ingestRemoteResult_ok.mp success
    cases repeated.symm.trans parsedAgain
    rcases (ingest_twice history stored).mp repeats with ⟨otherwise, _⟩ | ⟨equal, repeatable, _⟩
    · exact .inl otherwise
    · exact .inr ⟨equal, repeatable⟩
  · intro condition
    have repeats : ∃ answer answered, ingestRemoteResultWithArtifacts
        { received.record with encodedResult := other.encodeToVec } received.artifacts received.executor after =
          (.ok answer, after) ∧ ingestedTask received.record.taskId answer = .ok answered := by
      rcases condition with otherwise | ⟨equal, repeatable⟩
      · exact ⟨outcome, task, (ingest_twice history stored).mpr (.inl ⟨otherwise, rfl⟩), ended⟩
      · cases outcome with
        | applied written =>
          exact ⟨.duplicate written, written,
            (ingest_twice history stored).mpr (.inr ⟨equal, repeatable, written, .inl rfl, rfl⟩), rfl⟩
        | duplicate known =>
          exact ⟨.duplicate known, known,
            (ingest_twice history stored).mpr (.inr ⟨equal, repeatable, known, .inr rfl, rfl⟩), rfl⟩
        | settledTerminal settled reason canonical =>
          have otherwise := ingest_settles stored
          exact ⟨_, task, (ingest_twice history stored).mpr (.inl ⟨otherwise, rfl⟩), ended⟩
    obtain ⟨answer, answered, success, ends⟩ := repeats
    exact ⟨_, ingestRemoteResult_ok.mpr ⟨entered, _, answer, answered, repeated, success, ends, rfl⟩⟩

end

def originAfter (result : TaskResultEnvelope) : Db :=
  (@ingestRemoteResult default default sampleRuntime none { sampleIngest with result := some result }
    (run (@step default) Db.empty [acceptForPeer])).2

theorem originAfter_answered {result : TaskResultEnvelope} {response : IngestRemoteResultResponse}
    (answered : (@ingestRemoteResult default default sampleRuntime none { sampleIngest with result := some result }
      (run (@step default) Db.empty [acceptForPeer])).1 = .ok response) :
    @ingestRemoteResult default default sampleRuntime none { sampleIngest with result := some result }
      (run (@step default) Db.empty [acceptForPeer]) = (.ok response, originAfter result) := by
  rw [← answered]
  rfl

theorem sample_result_redelivered :
    ∃ again, @ingestRemoteResult default default sampleRuntime none sampleIngest (originAfter sampleResult) =
      (.ok again, originAfter sampleResult) := by
  have answered := @originAfter_answered sampleResult ⟨some (protoId sampleTask), "completed"⟩ (by decide +kernel)
  refine (@result_redelivery_answered_iff default default [acceptForPeer] sampleRuntime none sampleIngest sampleResult
    sampleResult (.refl sampleResult) sampleReceived _ (originAfter sampleResult) sampleReceived_accepted
    answered).mpr (.inr ⟨rfl, fun _ => ?_⟩)
  exact @Repeatable.mk default _ _ _ (by decide) sampleReceived_collisionless nofun

def describedResult (resultMetadata : StringMap) : TaskResultEnvelope :=
  { sampleResult with resultMetadata, outputArtifacts := [] }

def reordered : StringMap := ⟨[("b", "2"), ("a", "1")], by decide⟩

/-- The two entries come out in the other order, and the second delivery is a conflict. -/
theorem reordered_result_refused :
    ¬ ∀ (history : List Op) (runtime : Runtime) (authorization : Option String) (request : IngestRemoteResultRequest)
        (first second : TaskResultEnvelope), first.Same second →
      ∀ response after, @ingestRemoteResult default default runtime authorization { request with result := some first }
          (run (@step default) Db.empty history) = (.ok response, after) →
        ∃ again, @ingestRemoteResult default default runtime authorization { request with result := some second } after =
          (.ok again, after) := by
  intro every
  have same : (describedResult inOrder).Same (describedResult reordered) :=
    ⟨rfl, List.Perm.swap _ _ _, .nil⟩
  have answered := @originAfter_answered (describedResult inOrder) ⟨some (protoId sampleTask), "completed"⟩
    (by decide +kernel)
  obtain ⟨again, success⟩ := every [acceptForPeer] sampleRuntime none sampleIngest (describedResult inOrder)
    (describedResult reordered) same _ (originAfter (describedResult inOrder)) answered
  have conflict : (@ingestRemoteResult default default sampleRuntime none
      { sampleIngest with result := some (describedResult reordered) } (originAfter (describedResult inOrder))).1 =
      .error (storeErrorToStatus (.terminalResultConflict sampleTask)) := by decide +kernel
  rw [success] at conflict
  cases conflict

end Keryx.Daemon
