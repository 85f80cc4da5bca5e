import Keryx.Daemon.Ingest
import Keryx.Sdk.Artifact
import Keryx.Store.Sqlite.Arrival

/-! Artifacts of a result on their way from the worker's program to the store of the origin. -/

namespace Keryx.Daemon
open Keryx.Core Store Proto Relational
open Sqlite (sampleTask samplePeer Db validateOriginResultArtifacts)

def totalBytes (artifacts : List TaskArtifact) : Nat := (artifacts.map (·.content.length)).sum

theorem totalBytes_cons (artifact : TaskArtifact) (artifacts : List TaskArtifact) :
    totalBytes (artifact :: artifacts) = artifact.content.length + totalBytes artifacts := List.sum_cons

theorem parseLowercaseDigest_value (digest : Digest) : parseLowercaseDigest digest.value = .ok digest := by
  unfold parseLowercaseDigest
  rw [digest.new_value]
  exact except_bind_ok.mpr ⟨digest, rfl, if_neg (not_not.mpr rfl)⟩

theorem parseLowercaseDigest_iff {value : String} {digest : Digest} :
    parseLowercaseDigest value = .ok digest ↔ value = digest.value := by
  constructor
  · intro parsed
    exact (parseLowercaseDigest_ok parsed).symm
  · intro same
    rw [same]
    exact parseLowercaseDigest_value digest

theorem terminalOutcomeStatus_of_specified {outcome : TerminalOutcome} (specified : outcome ≠ .unspecified) :
    ∃ status, terminalOutcomeStatus outcome.asI32 = .ok status := by
  cases outcome with
  | unspecified => exact absurd rfl specified
  | completed => exact ⟨.completed, rfl⟩
  | failed => exact ⟨.failed, rfl⟩
  | canceled => exact ⟨.failed, rfl⟩
  | timedOut => exact ⟨.failed, rfl⟩
  | rejected => exact ⟨.failed, rfl⟩

section
variable [Sha256]

/-- The digest and the length are those of the bytes, and none is declared without bytes. -/
def TaskArtifact.Declares (artifact : TaskArtifact) : Prop :=
  if artifact.contentPresent then
    artifact.sha256 = (Digest.compute artifact.content).value ∧ artifact.byteLen.toNat = artifact.content.length
  else artifact.content = [] ∧ artifact.sha256 = "" ∧ artifact.byteLen = 0

variable {artifact : TaskArtifact} {artifacts : List TaskArtifact} {aggregateLen : Nat}

theorem TaskArtifact.accepted_iff (within : aggregateLen ≤ maxCrossNodeResultArtifactBytes) :
    artifact.Accepted aggregateLen ↔
      artifact.Declares ∧ aggregateLen + artifact.content.length ≤ maxCrossNodeResultArtifactBytes := by
  unfold TaskArtifact.Accepted TaskArtifact.Declares
  split
  · rw [parseLowercaseDigest_iff, and_assoc]
  · constructor
    · intro bare
      refine ⟨bare, ?_⟩
      rw [bare.1]
      exact within
    · intro bare
      exact bare.1

theorem validateArtifactsFrom_iff (hasContent : Bool) (result : List ResultArtifact)
    (within : aggregateLen ≤ maxCrossNodeResultArtifactBytes) :
    (∃ answer, validateArtifactsFrom aggregateLen hasContent result artifacts = .ok answer) ↔
      (∀ artifact ∈ artifacts, artifact.Declares) ∧
        aggregateLen + totalBytes artifacts ≤ maxCrossNodeResultArtifactBytes := by
  induction artifacts generalizing aggregateLen hasContent result with
  | nil =>
    constructor
    · intro _
      exact ⟨fun _ member => absurd member List.not_mem_nil, within⟩
    · intro _
      exact ⟨_, rfl⟩
  | cons artifact artifacts ih =>
    rw [totalBytes_cons, List.forall_mem_cons]
    constructor
    · rintro ⟨answer, valid⟩
      obtain ⟨accepted, valid⟩ := validateArtifactsFrom_cons.mp valid
      obtain ⟨declares, small⟩ := (TaskArtifact.accepted_iff within).mp accepted
      obtain ⟨rest, bounded⟩ := (ih _ _ small).mp ⟨answer, valid⟩
      refine ⟨⟨declares, rest⟩, ?_⟩
      omega
    · rintro ⟨⟨declares, rest⟩, bounded⟩
      have small : aggregateLen + artifact.content.length ≤ maxCrossNodeResultArtifactBytes := by omega
      obtain ⟨answer, valid⟩ := (ih (hasContent || artifact.contentPresent) (result ++ [artifact.toResult]) small).mpr
        ⟨rest, by omega⟩
      exact ⟨answer, validateArtifactsFrom_cons.mpr ⟨(TaskArtifact.accepted_iff within).mpr ⟨declares, small⟩, valid⟩⟩

theorem validateArtifactsFrom_hasContent {hasContent content : Bool} {result accepted : List ResultArtifact}
    (valid : validateArtifactsFrom aggregateLen hasContent result artifacts = .ok (accepted, content)) :
    content = (hasContent || artifacts.any (·.contentPresent)) := by
  induction artifacts generalizing aggregateLen hasContent result with
  | nil =>
    cases valid
    exact (Bool.or_false _).symm
  | cons artifact artifacts ih =>
    obtain ⟨_, valid⟩ := validateArtifactsFrom_cons.mp valid
    rw [ih valid, List.any_cons, Bool.or_assoc]

theorem validateWorkerResultArtifacts_error
    (wrong : maxCrossNodeResultArtifactBytes < totalBytes artifacts ∨ ∃ artifact ∈ artifacts, ¬artifact.Declares) :
    ∃ status, validateWorkerResultArtifacts artifacts = .error status := by
  cases answer : validateWorkerResultArtifacts artifacts with
  | error status => exact ⟨status, rfl⟩
  | ok accepted =>
    obtain ⟨declares, bounded⟩ := (validateArtifactsFrom_iff false [] (Nat.zero_le _)).mp ⟨accepted, answer⟩
    rcases wrong with large | ⟨artifact, member, undeclared⟩
    · omega
    · exact absurd (declares artifact member) undeclared

variable {taskId : TaskId} {completedAtMs : Int64} {index : Nat}

/-- What the origin stores of the artifact at a position: nothing if there are no bytes. -/
def TaskArtifact.kept (taskId : TaskId) (completedAtMs : Int64) (index : Nat) (artifact : TaskArtifact) :
    Option OriginResultArtifact :=
  if artifact.contentPresent then some (storedArtifact taskId completedAtMs index artifact.toResult) else none

theorem canonicalizeArtifact_declares (declares : artifact.Declares) (few : index ≤ u32Max)
    (small : aggregateLen + artifact.content.length ≤ maxCrossNodeResultArtifactBytes) :
    canonicalizeArtifact taskId completedAtMs index aggregateLen artifact.toResult =
      .ok (descriptorOf taskId index artifact.toResult, artifact.kept taskId completedAtMs index) := by
  have unassigned : ¬artifact.toResult.artifactId.isSome = true := by
    intro assigned
    cases assigned
  unfold canonicalizeArtifact TaskArtifact.kept
  rw [if_neg unassigned, if_neg (Nat.not_lt.mpr few)]
  unfold TaskArtifact.Declares at declares
  by_cases present : artifact.contentPresent = true
  · rw [if_pos present] at declares ⊢
    have hashed : artifact.toResult.sha256 = (Digest.compute artifact.content).value := declares.1
    have sized : artifact.toResult.byteLen.toNat = artifact.toResult.content.length := declares.2
    have same : ¬Digest.compute artifact.content ≠ Digest.compute artifact.toResult.content := not_not.mpr rfl
    have bounded : ¬maxCrossNodeResultArtifactBytes < aggregateLen + artifact.toResult.content.length :=
      Nat.not_lt.mpr small
    have shown : artifact.toResult.contentPresent = true := present
    have parsed : parseLowercaseDigest artifact.toResult.sha256 = .ok (Digest.compute artifact.content) :=
      parseLowercaseDigest_iff.mpr hashed
    rw [if_pos shown, parsed]
    apply except_bind_ok.mpr
    refine ⟨_, rfl, ?_⟩
    rw [if_neg (not_not.mpr sized), if_neg same, if_neg bounded, ← hashed]
    rfl
  · rw [if_neg present] at declares ⊢
    have hidden : ¬artifact.toResult.contentPresent = true := present
    have bare : ¬(artifact.toResult.content ≠ [] ∨ artifact.toResult.sha256 ≠ "" ∨ artifact.toResult.byteLen ≠ 0) := by
      simp only [ne_eq, not_or, not_not]
      exact declares
    rw [if_neg hidden, if_neg bare]

/-- What the origin makes of a list whose first artifact stands at the given position. -/
structure Canonical (taskId : TaskId) (completedAtMs : Int64) (index aggregateLen : Nat) (artifacts : List TaskArtifact)
    (descriptors : List ResultArtifact) (stored : List OriginResultArtifact) : Prop where
  described : ∀ offset artifact, artifacts[offset]? = some artifact →
    descriptors[offset]? = some (descriptorOf taskId (index + offset) artifact.toResult)
  keeps : ∀ offset artifact, artifacts[offset]? = some artifact → artifact.contentPresent = true →
    storedArtifact taskId completedAtMs (index + offset) artifact.toResult ∈ stored
  valid : ∀ next ≤ index, ∃ records, validateOriginResultArtifacts taskId aggregateLen next stored = .ok records

theorem validateOriginResultArtifacts_cons {artifact : ResultArtifact} {stored : List OriginResultArtifact} {next : Nat}
    {records : List ArtifactRecord} (ordered : next ≤ index) (few : index + 1 ≤ u32Max)
    (small : aggregateLen + artifact.content.length ≤ maxCrossNodeResultArtifactBytes)
    (rest : validateOriginResultArtifacts taskId (aggregateLen + artifact.content.length) (index + 1) stored =
      .ok records) :
    ∃ more, validateOriginResultArtifacts taskId aggregateLen next
      (storedArtifact taskId completedAtMs index artifact :: stored) = .ok more := by
  have counted : ¬u64Max < aggregateLen + artifact.content.length := by
    have bound : maxCrossNodeResultArtifactBytes ≤ u64Max := by decide
    omega
  refine ⟨artifactRecordFromMeta (storedArtifact taskId completedAtMs index artifact).artifactMeta
    (Digest.compute artifact.content) artifact.content.length :: records, ?_⟩
  rw [validateOriginResultArtifacts]
  simp only [storedArtifact, Nat.not_lt.mpr ordered, Nat.not_lt.mpr few, Nat.not_lt.mpr small, counted, ne_eq, not_true,
    if_false, rest]

theorem canonicalizeArtifactsFrom_declares (declares : ∀ artifact ∈ artifacts, artifact.Declares)
    (few : index + artifacts.length ≤ u32Max)
    (small : aggregateLen + totalBytes artifacts ≤ maxCrossNodeResultArtifactBytes) :
    ∃ descriptors stored, canonicalizeArtifactsFrom taskId completedAtMs index aggregateLen
        (artifacts.map TaskArtifact.toResult) = .ok (descriptors, stored) ∧
      descriptors.length = artifacts.length ∧
      Canonical taskId completedAtMs index aggregateLen artifacts descriptors stored := by
  induction artifacts generalizing index aggregateLen with
  | nil =>
    refine ⟨[], [], rfl, rfl, ?_, ?_, ?_⟩
    · intro offset artifact listed
      cases listed
    · intro offset artifact listed
      cases listed
    · intro next _
      exact ⟨[], rfl⟩
  | cons artifact artifacts ih =>
    obtain ⟨first, rest⟩ := List.forall_mem_cons.mp declares
    rw [totalBytes_cons] at small
    have count : (artifact :: artifacts).length = artifacts.length + 1 := rfl
    have fits : aggregateLen + artifact.content.length ≤ maxCrossNodeResultArtifactBytes := by omega
    obtain ⟨descriptors, stored, loop, length, canonical⟩ :=
      @ih (aggregateLen + artifact.content.length) (index + 1) rest (by omega) (by omega)
    have turn : canonicalizeArtifact taskId completedAtMs index aggregateLen artifact.toResult = _ :=
      canonicalizeArtifact_declares first (by omega) fits
    refine ⟨descriptorOf taskId index artifact.toResult :: descriptors,
      (artifact.kept taskId completedAtMs index).toList ++ stored, ?_, congrArg Nat.succ length, ?_, ?_, ?_⟩
    · exact canonicalizeArtifactsFrom_cons.mpr ⟨_, _, descriptors, stored, turn, loop, rfl, rfl⟩
    · intro offset other listed
      cases offset with
      | zero =>
        cases listed
        rfl
      | succ offset =>
        have found := canonical.described offset other listed
        rwa [Nat.add_right_comm, Nat.add_assoc] at found
    · intro offset other listed present
      cases offset with
      | zero =>
        cases listed
        unfold TaskArtifact.kept
        rw [if_pos present]
        exact List.mem_cons_self
      | succ offset =>
        have found := canonical.keeps offset other listed present
        rw [Nat.add_right_comm, Nat.add_assoc] at found
        exact List.mem_append_right _ found
    · intro next ordered
      unfold TaskArtifact.kept
      by_cases present : artifact.contentPresent = true
      · rw [if_pos present]
        obtain ⟨records, valid⟩ := canonical.valid (index + 1) (Nat.le_refl _)
        exact validateOriginResultArtifacts_cons ordered (by omega) fits valid
      · -- An artifact without bytes adds nothing to the sum and leaves a gap in the ordinals.
        have empty : artifact.content = [] := by
          unfold TaskArtifact.Declares at first
          rw [if_neg present] at first
          exact first.1
        have valid := canonical.valid next (Nat.le_succ_of_le ordered)
        rw [empty] at valid
        rw [if_neg present]
        exact valid

theorem canonicalizeArtifactsFrom_few {results descriptors : List ResultArtifact} {stored : List OriginResultArtifact}
    (accepted : canonicalizeArtifactsFrom taskId completedAtMs index aggregateLen results = .ok (descriptors, stored))
    {offset : Nat} (within : offset < results.length) : index + offset ≤ u32Max := by
  induction results generalizing index aggregateLen descriptors stored offset with
  | nil => cases within
  | cons result results ih =>
    obtain ⟨first, kept, rest, others, turn, loop, _, _⟩ := canonicalizeArtifactsFrom_cons.mp accepted
    cases offset with
    | zero =>
      apply Nat.le_of_not_lt
      intro beyond
      rw [Nat.add_zero] at beyond
      unfold canonicalizeArtifact at turn
      split at turn
      · cases turn
      · cases turn
    | succ offset =>
      have later := ih loop (Nat.lt_of_succ_lt_succ within)
      omega

theorem sent_declares {source : Sdk.TaskArtifact} (sent : source.Sent artifact) : artifact.Declares := by
  unfold TaskArtifact.Declares
  have content := sent.content
  have hashed := sent.sha256
  have sized := sent.byteLen
  rw [sent.contentPresent]
  cases bytes : source.content with
  | some written =>
    rw [bytes] at hashed
    exact ⟨hashed, sized⟩
  | none =>
    rw [bytes] at content hashed
    refine ⟨content, hashed, ?_⟩
    rw [content] at sized
    exact UInt64.toNat_inj.mp sized

/-- Each artifact has its descriptor, and one without bytes has all it came with. -/
structure Described (taskId : TaskId) (sources : List Sdk.TaskArtifact) (descriptors : List ResultArtifact) : Prop where
  count : descriptors.length = sources.length
  bare : ∀ (index : Nat) (source : Sdk.TaskArtifact), sources[index]? = some source → source.content = none →
    descriptors[index]? = some
      { path := source.path
        mediaType := source.mediaType
        metadata := source.metadata
        artifactId := some (protoId (originResultArtifactId taskId index))
        sha256 := ""
        byteLen := 0
        content := []
        contentPresent := false }

/-- The origin has the bytes of every artifact under the id of its position, and the result itself. -/
structure Landed (taskId : TaskId) (sources : List Sdk.TaskArtifact) (canonical : TaskResultEnvelope) (db : Db) :
    Prop where
  result : ∃ record, db.terminalResults.find taskId = some record ∧ record.encodedResult = canonical.encodeToVec
  bytes : ∀ (index : Nat) (source : Sdk.TaskArtifact) (content : Bytes), sources[index]? = some source →
    source.content = some content →
      ∃ record, Sqlite.getArtifact (originResultArtifactId taskId index) db = .ok (record, content) ∧
        record.digest = Digest.compute content ∧ record.byteLen = content.length

/-- The envelope comes in the name of its executor to the node it is meant for. -/
structure Addressed (runtime : Runtime) (authorization : Option String) (request : IngestRemoteResultRequest)
    (executor : PeerId) (envelope : TaskResultEnvelope) : Prop where
  entered : enter runtime authorization = .ok ()
  carries : request.result = some envelope
  authenticated : trim request.authenticatedExecutorPeerId = executor.value
  destined : trim request.destinationPeerId = runtime.config.localPeerId.value

variable {sources : List Sdk.TaskArtifact}

theorem getElem?_sent {source : Sdk.TaskArtifact}
    (sent : List.Forall₂ Sdk.TaskArtifact.Sent sources artifacts) {offset : Nat}
    (listed : sources[offset]? = some source) : ∃ artifact, artifacts[offset]? = some artifact ∧ source.Sent artifact := by
  induction sent generalizing offset with
  | nil => cases listed
  | cons first rest ih =>
    cases offset with
    | zero =>
      cases listed
      exact ⟨_, rfl, first⟩
    | succ offset => exact ih listed

theorem sent_all_declare
    (sent : List.Forall₂ Sdk.TaskArtifact.Sent sources artifacts) : ∀ artifact ∈ artifacts, artifact.Declares := by
  induction sent with
  | nil =>
    intro artifact member
    cases member
  | cons first rest ih => exact List.forall_mem_cons.mpr ⟨sent_declares first, ih⟩

theorem canonical_described {descriptors : List ResultArtifact} {stored : List OriginResultArtifact}
    (sent : List.Forall₂ Sdk.TaskArtifact.Sent sources artifacts) (count : descriptors.length = artifacts.length)
    (canonical : Canonical taskId completedAtMs 0 0 artifacts descriptors stored) :
    Described taskId sources descriptors := by
  refine ⟨count.trans sent.length_eq.symm, ?_⟩
  intro index source listed bare
  obtain ⟨artifact, found, same⟩ := getElem?_sent sent listed
  have described := canonical.described index artifact found
  rw [Nat.zero_add] at described
  rw [described]
  have declares := sent_declares same
  unfold TaskArtifact.Declares at declares
  rw [same.contentPresent, bare] at declares
  obtain ⟨_, unhashed, unsized⟩ := declares
  simp only [descriptorOf, TaskArtifact.toResult, same.path, same.mediaType, same.metadata, unhashed, unsized]

theorem canonical_landed {descriptors : List ResultArtifact} {stored : List OriginResultArtifact}
    {envelope : TaskResultEnvelope} {record : TerminalResultRecord} {executor : PeerId} {origin : Db}
    {task : TaskRecord} (sent : List.Forall₂ Sdk.TaskArtifact.Sent sources artifacts)
    (canonical : Canonical taskId completedAtMs 0 0 artifacts descriptors stored) (named : record.taskId = taskId)
    (encoded : record.encodedResult = envelope.encodeToVec) (distinct : Sqlite.Collisionless stored)
    (applied : (Sqlite.ingestRemoteResultWithArtifacts record stored executor origin).1 = .ok (.applied task)) :
    Landed taskId sources envelope (Sqlite.ingestRemoteResultWithArtifacts record stored executor origin).2 := by
  constructor
  · refine ⟨record, ?_, encoded⟩
    rw [← named]
    exact (Sqlite.ingest_applied applied).2
  · intro index source content listed written
    obtain ⟨artifact, found, same⟩ := getElem?_sent sent listed
    have bytes := same.content
    have present := same.contentPresent
    rw [written] at bytes present
    have kept := canonical.keeps index artifact found present
    rw [Nat.zero_add] at kept
    have read := (Sqlite.ingest_archives applied).reads distinct kept
    change Sqlite.getArtifact (originResultArtifactId taskId index) _ = .ok (_, artifact.content) at read
    change artifact.content = content at bytes
    rw [bytes] at read
    refine ⟨_, read, ?_, ?_⟩
    · show Digest.compute artifact.content = _
      rw [bytes]
    · show artifact.content.length = _
      rw [bytes]

variable {executor : PeerId} {envelope canonical : TaskResultEnvelope} {stored : List OriginResultArtifact}

theorem addressed_received {runtime : Runtime} {authorization : Option String} {request : IngestRemoteResultRequest}
    {status : TaskStatus} (addressed : Addressed runtime authorization request executor envelope)
    (named : envelope.taskId = some (protoId taskId)) (executes : envelope.executorPeerId = executor.value)
    (ends : terminalOutcomeStatus envelope.outcome = .ok status)
    (accepted : canonicalizeOriginResultArtifacts taskId envelope = .ok (canonical, stored)) :
    receiveRemoteResult runtime.config request =
      .ok ⟨canonical, ⟨taskId, canonical.encodeToVec, status, none, executor, canonical.completedAtMs.toInt⟩, stored,
        executor⟩ := by
  have peer : invalidValue (validateIdentifier .peerId executor.value) = .ok executor := by
    rw [validateIdentifier_value]
    rfl
  apply receiveRemoteResult_ok.mpr
  refine ⟨envelope, addressed.carries, ?_, ?_, addressed.destined, ?_, ends, accepted, rfl⟩
  · rw [named]
    exact parseRequiredId_protoId _ taskId
  · rw [addressed.authenticated]
    exact peer
  · rw [executes, trim_value]
    exact peer

variable [Decoders] {outcome : TerminalOutcome} {durationMs : Int64} {errorReason : String} {metadata : StringMap}
  {nowMs : Int} {db : Db}

theorem built_canonicalized (declares : ∀ artifact ∈ artifacts, artifact.Declares) (few : artifacts.length ≤ u32Max)
    (small : totalBytes artifacts ≤ maxCrossNodeResultArtifactBytes) :
    ∃ envelope descriptors stored,
      buildTerminalResult executor taskId outcome durationMs errorReason metadata artifacts nowMs db = .ok envelope ∧
      canonicalizeOriginResultArtifacts taskId envelope = .ok ({ envelope with outputArtifacts := descriptors }, stored) ∧
      descriptors.length = artifacts.length ∧
      Canonical taskId envelope.completedAtMs 0 0 artifacts descriptors stored ∧
      envelope.taskId = some (protoId taskId) ∧ envelope.executorPeerId = executor.value ∧
      envelope.outcome = outcome.asI32 := by
  have within : 0 + totalBytes artifacts ≤ maxCrossNodeResultArtifactBytes := by omega
  obtain ⟨⟨accepted, content⟩, valid⟩ := (validateArtifactsFrom_iff false [] (Nat.zero_le _)).mpr ⟨declares, within⟩
  obtain rfl := validateWorkerResultArtifacts_ok valid
  have flagged := validateArtifactsFrom_hasContent valid
  obtain ⟨descriptors, stored, loop, count, canonical⟩ :=
    @canonicalizeArtifactsFrom_declares _ artifacts 0 taskId (Int64.ofInt nowMs) 0 declares (by omega) within
  refine ⟨_, descriptors, stored, buildTerminalResult_ok.mpr ⟨content, valid, rfl⟩, ?_, count, canonical, rfl, rfl, rfl⟩
  have gate : ((artifacts.map TaskArtifact.toResult).any (·.contentPresent) &&
      decide ((if content then (2 : UInt32) else 1) < 2)) = false := by
    have same : (artifacts.map TaskArtifact.toResult).any (·.contentPresent) = content := by
      rw [flagged, List.any_map, Bool.false_or]
      rfl
    rw [same]
    cases content with
    | true => rfl
    | false => rfl
  unfold canonicalizeOriginResultArtifacts
  rw [if_neg (by rw [gate]; decide)]
  exact except_bind_ok.mpr ⟨_, loop, rfl⟩

/-- What the SDK sends within the limits arrives at the origin with its bytes; what declares its bytes wrongly or
exceeds the limit does not leave the worker's node. -/
theorem result_artifacts_cross_nodes :
    (∀ (sources : List Sdk.TaskArtifact) (artifacts : List TaskArtifact), Sdk.toProtos sources = .ok artifacts →
      totalBytes artifacts ≤ maxCrossNodeResultArtifactBytes → artifacts.length ≤ u32Max →
      ∀ (executor : PeerId) (taskId : TaskId) (outcome : TerminalOutcome) (durationMs : Int64) (errorReason : String)
        (metadata : StringMap) (nowMs : Int) (db : Db), outcome ≠ .unspecified →
      ∃ envelope canonical stored records,
        buildTerminalResult executor taskId outcome durationMs errorReason metadata artifacts nowMs db = .ok envelope ∧
        canonicalizeOriginResultArtifacts taskId envelope = .ok (canonical, stored) ∧
        validateOriginResultArtifacts taskId 0 0 stored = .ok records ∧
        Described taskId sources canonical.outputArtifacts ∧
        ∀ (runtime : Runtime) (authorization : Option String) (request : IngestRemoteResultRequest),
          Addressed runtime authorization request executor envelope →
          ∃ received, receiveRemoteResult runtime.config request = .ok received ∧ received.artifacts = stored ∧
            ∀ origin, Sqlite.Awaits received.record stored executor origin → Sqlite.Collisionless stored →
              ∃ response after, ingestRemoteResult runtime authorization request origin = (.ok response, after) ∧
                Landed taskId sources canonical after) ∧
    ∀ artifacts : List TaskArtifact,
      (maxCrossNodeResultArtifactBytes < totalBytes artifacts ∨ ∃ artifact ∈ artifacts, ¬artifact.Declares) →
      ∃ status, validateWorkerResultArtifacts artifacts = .error status := by
  refine ⟨?_, fun artifacts wrong => validateWorkerResultArtifacts_error wrong⟩
  intro sources artifacts produced small few executor taskId outcome durationMs errorReason metadata nowMs db specified
  have sent := Sdk.toProtos_sent produced
  obtain ⟨envelope, descriptors, stored, built, accepted, count, canonical, named, executes, ended⟩ :=
    built_canonicalized (sent_all_declare sent) few small
  obtain ⟨records, valid⟩ := canonical.valid 0 (Nat.le_refl 0)
  obtain ⟨status, ends⟩ := terminalOutcomeStatus_of_specified specified
  rw [← ended] at ends
  refine ⟨envelope, _, stored, records, built, accepted, valid, canonical_described sent count canonical, ?_⟩
  intro runtime authorization request addressed
  have received := addressed_received addressed named executes ends accepted
  refine ⟨_, received, rfl, ?_⟩
  intro origin awaits distinct
  obtain ⟨task, applied⟩ := Sqlite.ingest_applies awaits valid
  have landed := canonical_landed sent canonical rfl rfl distinct applied
  refine ⟨_, _, ingestRemoteResult_ok.mpr ⟨addressed.entered, _, .applied task, task, received, ?_, ?_, rfl⟩, landed⟩
  · exact Prod.ext applied rfl
  · rfl

end

def twoOutputs : List Sdk.TaskArtifact :=
  [⟨"out", "text/plain", .empty, some [1, 2, 3], none, none⟩, ⟨"log", "text/plain", .empty, none, none, none⟩]

def sentOutputs : List TaskArtifact :=
  [⟨"out", "text/plain", .empty, [1, 2, 3], 3, (default : Digest).value, true⟩,
    ⟨"log", "text/plain", .empty, [], 0, "", false⟩]

def sentEnvelope : TaskResultEnvelope :=
  ⟨2, some (protoId sampleTask), none, TerminalOutcome.completed.asI32, "edge", 1, 5, "", .empty,
    sentOutputs.map TaskArtifact.toResult⟩

def landedEnvelope : TaskResultEnvelope :=
  { sentEnvelope with outputArtifacts :=
      [@descriptorOf default sampleTask 0 ⟨"out", "text/plain", .empty, none, (default : Digest).value, 3, [], true⟩,
        @descriptorOf default sampleTask 1 ⟨"log", "text/plain", .empty, none, "", 0, [], false⟩] }

def waitingOrigin : Db := Relational.Run.run (@Sqlite.step default) Db.empty [Sqlite.acceptForPeer]

set_option maxRecDepth 4000 in
theorem two_outputs_land :
    @Sdk.toProtos default twoOutputs = .ok sentOutputs ∧
      ∃ response after, @ingestRemoteResult default default sampleRuntime none ⟨some sentEnvelope, "edge", "edge"⟩
          waitingOrigin = (.ok response, after) ∧
        @Landed default sampleTask twoOutputs landedEnvelope after := by
  have produced : @Sdk.toProtos default twoOutputs = .ok sentOutputs := rfl
  obtain ⟨envelope, canonical, stored, records, built, accepted, _, _, lands⟩ :=
    (@result_artifacts_cross_nodes default default).1 twoOutputs sentOutputs produced (by decide) (by decide)
      samplePeer sampleTask .completed 1 "" .empty 5 Db.empty (by decide)
  have envelopes : sentEnvelope = envelope := Except.ok.inj built
  subst envelopes
  have canonicals : (landedEnvelope, [@storedArtifact default sampleTask 5 0
      ⟨"out", "text/plain", .empty, none, "", 3, [1, 2, 3], true⟩]) = (canonical, stored) := Except.ok.inj accepted
  cases canonicals
  obtain ⟨received, receives, _, ends⟩ := lands sampleRuntime none ⟨some sentEnvelope, "edge", "edge"⟩
    ⟨rfl, rfl, rfl, rfl⟩
  have records : RemoteResult.mk landedEnvelope
      ⟨sampleTask, landedEnvelope.encodeToVec, .completed, none, samplePeer, 5⟩ _ samplePeer =
        received := Except.ok.inj receives
  subst records
  refine ⟨produced, ends waitingOrigin ?_ ?_⟩
  · refine @Sqlite.Awaits.mk default _ _ _ _ rfl rfl ⟨_, rfl, rfl⟩ ⟨_, rfl, rfl⟩ rfl ?_ (List.nodup_singleton _) ?_
    · intro artifact member
      rw [List.mem_singleton.mp member]
      rfl
    · intro artifact member large
      rw [List.mem_singleton.mp member] at large
      exact absurd large (by decide)
  · intro one first other second _ _ _
    rw [List.mem_singleton.mp first, List.mem_singleton.mp second]

def bareOutput : Sdk.TaskArtifact := ⟨"log", "text/plain", .empty, none, none, none⟩

def bareArtifact : TaskArtifact := ⟨"log", "text/plain", .empty, [], 0, "", false⟩

theorem toProtos_replicate (count : Nat) :
    @Sdk.toProtos default (List.replicate count bareOutput) = .ok (List.replicate count bareArtifact) := by
  induction count with
  | zero => rfl
  | succ count ih =>
    unfold Sdk.toProtos at ih ⊢
    rw [List.replicate_succ, List.mapM_cons, ih]
    rfl

theorem totalBytes_replicate (count : Nat) : totalBytes (List.replicate count bareArtifact) = 0 := by
  induction count with
  | zero => rfl
  | succ count ih =>
    rw [List.replicate_succ, totalBytes_cons, ih]
    rfl

theorem outputs_beyond_positions_refused :
    ¬ ∀ (sources : List Sdk.TaskArtifact) (artifacts : List TaskArtifact), @Sdk.toProtos default sources = .ok artifacts →
      totalBytes artifacts ≤ maxCrossNodeResultArtifactBytes →
      ∃ envelope canonical stored,
        @buildTerminalResult default default samplePeer sampleTask .completed 1 "" .empty artifacts 5
          Db.empty = .ok envelope ∧
        @canonicalizeOriginResultArtifacts default sampleTask envelope = .ok (canonical, stored) := by
  intro every
  obtain ⟨count, many⟩ : ∃ count, u32Max + 1 < count := ⟨u32Max + 2, Nat.lt_succ_self _⟩
  obtain ⟨envelope, canonical, stored, built, accepted⟩ := every (List.replicate count bareOutput) _
    (toProtos_replicate _) (by rw [totalBytes_replicate]; exact Nat.zero_le _)
  obtain ⟨content, _, rfl⟩ := (@buildTerminalResult_ok default _ default _ _ _ _ _ _ _ _ _).mp built
  obtain ⟨descriptors, loop, _⟩ := @canonicalizeOriginResultArtifacts_ok default _ _ _ _ accepted
  have within : u32Max + 1 < ((List.replicate count bareArtifact).map TaskArtifact.toResult).length := by
    rw [List.length_map, List.length_replicate]
    exact many
  have bounded := @canonicalizeArtifactsFrom_few default _ _ _ _ _ _ _ loop _ within
  omega

end Keryx.Daemon
