import Keryx.Relational.Session
import Keryx.Proto.Messages
import Keryx.Store.Sqlite.Step

/-! What every request of the daemon shares: status codes, admission, identifiers and the report of a store error. -/

namespace Keryx.Daemon
open Keryx.Core Store Proto Relational

inductive Code where
  | ok | cancelled | unknown | invalidArgument | deadlineExceeded | notFound | alreadyExists | permissionDenied
  | resourceExhausted | failedPrecondition | aborted | outOfRange | unimplemented | internal | unavailable | dataLoss
  | unauthenticated
deriving DecidableEq, Repr

structure Status where
  code : Code
  message : String
deriving DecidableEq, Repr

def taskStatusDebug : TaskStatus → String
  | .pending => "Pending"
  | .running => "Running"
  | .completed => "Completed"
  | .failed => "Failed"

/-- The characters that are written by number: controls, blanks other than the space, formats, combining marks and
private characters. Of the tables of the standard library these are the common blocks. -/
def isUnprintable (ch : Char) : Bool :=
  [(0, 0x1f), (0x7f, 0xa0), (0xad, 0xad), (0x300, 0x36f), (0x2000, 0x200f), (0x2028, 0x202f), (0x205f, 0x206f),
    (0x3000, 0x3000), (0xe000, 0xf8ff), (0xfe00, 0xfe0f), (0xfeff, 0xfeff), (0xfff0, 0xfffb), (0xe0000, 0x10ffff)].any
      fun block => block.1 ≤ ch.toNat && ch.toNat ≤ block.2

def escapeDebug : Char → List Char
  | '\x00' => ['\\', '0']
  | '\t' => ['\\', 't']
  | '\r' => ['\\', 'r']
  | '\n' => ['\\', 'n']
  | '"' => ['\\', '"']
  | '\\' => ['\\', '\\']
  | ch =>
    if isUnprintable ch then "\\u\x7b".toList ++ Nat.toDigits 16 ch.toNat ++ "\x7d".toList else [ch]

def debugText (value : String) : String := "\"" ++ String.ofList (value.toList.flatMap escapeDebug) ++ "\""

def validationText : ValidationError → String
  | .missingIdValue kind => s!"missing {kind.name} value"
  | .invalidIdValue kind value => s!"invalid {kind.name} value: {debugText value}"
  | .artifactTooLarge byteLen limitBytes => s!"artifact too large: {byteLen} bytes exceeds limit of {limitBytes}"
  | .invalidDigest value => s!"invalid digest: {value}"
  | .artifactNotFound value => s!"artifact not found: {value}"
  | .limitExceeded kind current max => s!"limit exceeded: {kind.asStr} current={current} max={max}"
  | .invalidTaskTransition fromStatus toStatus =>
    s!"invalid task state transition: {taskStatusDebug fromStatus} -> {taskStatusDebug toStatus}"
  | .cancelNotApplicable status => s!"task cancellation is not applicable for status: {taskStatusDebug status}"
  | .terminalTaskTransition fromStatus toStatus =>
    s!"terminal task state cannot transition: {taskStatusDebug fromStatus} -> {taskStatusDebug toStatus}"

def terminalReasonText : RemoteResultTerminalReason → String
  | .deadlineExpired => "deadline_expired"
  | .canceled => "canceled"

def corruptedTasksText (tasks : List TaskId) : String :=
  "[" ++ String.intercalate ", " (tasks.map (fun task => "TaskId(" ++ debugText task.value ++ ")")) ++ "]"

def Status.invalidArgument (message : String) : Status := ⟨.invalidArgument, message⟩

def Status.failedPrecondition (message : String) : Status := ⟨.failedPrecondition, message⟩

def Status.dataLoss (message : String) : Status := ⟨.dataLoss, message⟩

def invalidValue {α : Type} (outcome : Except ValidationError α) : Except Status α :=
  outcome.mapError (fun error => .invalidArgument (validationText error))

def storeErrorToStatus : StoreError → Status
  | .taskNotFound taskId => ⟨.notFound, s!"task not found: {taskId.value}"⟩
  | .taskAlreadyExists taskId => ⟨.alreadyExists, s!"task already exists: {taskId.value}"⟩
  | .taskEnvelopeNotFound taskId => ⟨.notFound, s!"task envelope not found: {taskId.value}"⟩
  | .taskEnvelopeMismatch taskId envelopeTaskId =>
    .failedPrecondition s!"task envelope id {envelopeTaskId.value} does not match task {taskId.value}"
  | .taskEnvelopeConflict taskId =>
    ⟨.alreadyExists, s!"task envelope conflicts with the stored envelope for task {taskId.value}"⟩
  | .transportContextNotFound taskId => ⟨.notFound, s!"transport context not found for task {taskId.value}"⟩
  | .transportContextConflict taskId => ⟨.alreadyExists, s!"transport context conflicts for task {taskId.value}"⟩
  | .taskExecutorMismatch taskId expected actual =>
    .failedPrecondition s!"task {taskId.value} targets executor {expected.value}, not local peer {actual.value}"
  | .transportContextTaskMismatch taskId contextTaskId =>
    .failedPrecondition s!"transport context task {contextTaskId.value} does not match task {taskId.value}"
  | .terminalResultNotFound taskId => ⟨.notFound, s!"terminal result not found for task {taskId.value}"⟩
  | .terminalResultConflict taskId => ⟨.alreadyExists, s!"terminal result conflicts for task {taskId.value}"⟩
  | .terminalResultTaskMismatch taskId resultTaskId =>
    .failedPrecondition s!"terminal result task {resultTaskId.value} does not match task {taskId.value}"
  | .terminalResultNotTerminal taskId =>
    .failedPrecondition s!"terminal result for task {taskId.value} is not terminal"
  | .resultDeliveryLeaseMismatch deliveryId => ⟨.permissionDenied, s!"result delivery lease mismatch: {deliveryId}"⟩
  | .remoteResultExecutorMismatch taskId expected actual =>
    ⟨.permissionDenied,
      s!"remote result executor mismatch for task {taskId.value}: expected {expected.value}, got {actual.value}"⟩
  | .remoteResultTerminalArtifactsRejected taskId reason =>
    .failedPrecondition
      (s!"remote result for task {taskId.value} carries artifacts that cannot settle terminal reason " ++
        terminalReasonText reason)
  | .artifactNotFound artifactId => ⟨.notFound, s!"artifact not found: {artifactId.value}"⟩
  | .idempotencyConflict key existingTaskId =>
    ⟨.alreadyExists, s!"idempotency key {key.value} already belongs to task {existingTaskId.value}"⟩
  | .validation (.limitExceeded kind current max) =>
    ⟨.resourceExhausted, "validation failed: " ++ validationText (.limitExceeded kind current max)⟩
  | .validation error => .failedPrecondition (validationText error)
  | .corruptEventStream taskId => .dataLoss s!"corrupt event stream for task {taskId.value}"
  | .leaseNotFound taskId => ⟨.notFound, s!"lease not found for task {taskId.value}"⟩
  | .leaseConflict taskId => ⟨.aborted, s!"task {taskId.value} already has an active lease"⟩
  | .taskDeadlineExpired taskId deadlineMs attemptedLeaseAtMs =>
    .failedPrecondition
      (s!"task deadline expired: task={taskId.value} deadline_ms={deadlineMs} " ++
        s!"attempted_lease_at_ms={attemptedLeaseAtMs}")
  | .cancellationLeaseProofRequired taskId =>
    ⟨.permissionDenied, s!"running task cancellation requires active lease ownership proof for {taskId.value}"⟩
  | .leaseMismatch taskId leaseId => ⟨.permissionDenied, s!"lease {leaseId.value} does not own task {taskId.value}"⟩
  | .leaseOwnerMismatch taskId workerId =>
    ⟨.permissionDenied, s!"worker {workerId.value} does not own active lease for task {taskId.value}"⟩
  | .leaseOwnerMissing taskId leaseId =>
    .failedPrecondition s!"lease {leaseId.value} for task {taskId.value} is missing a worker owner"
  | .artifactTooLarge byteLen limitBytes =>
    ⟨.resourceExhausted, s!"artifact too large: {byteLen} bytes exceeds {limitBytes}"⟩
  | .artifactLengthMismatch declared actual =>
    .invalidArgument s!"artifact length mismatch: declared {declared}, actual {actual}"
  | .digestMismatch expected actual => .invalidArgument s!"digest mismatch: expected {expected}, computed {actual}"
  | .originResultArtifactIdMismatch taskId ordinal =>
    .invalidArgument s!"origin result artifact id mismatch for task {taskId.value} ordinal {ordinal}"
  | .originResultArtifactOrdinalMismatch expected actual =>
    .invalidArgument s!"origin result artifact ordinal mismatch: expected {expected}, got {actual}"
  | .originResultArtifactTaskMismatch taskId artifactTaskId =>
    .invalidArgument s!"origin result artifact task mismatch: expected {taskId.value}, got {artifactTaskId.value}"
  | .originResultArtifactConflict artifactId =>
    ⟨.alreadyExists, s!"origin result artifact conflict: {artifactId.value}"⟩
  | .invalidLeaseExpiry leaseId currentExpiresAtMs requestedExpiresAtMs nowMs =>
    .invalidArgument
      (s!"invalid lease expiry for {leaseId.value}: requested={requestedExpiresAtMs}, " ++
        s!"current={currentExpiresAtMs}, now={nowMs}")
  | .unrepairedCorruption corruptedTasks =>
    ⟨.internal, s!"startup recovery found unrepaired corruption in tasks: {corruptedTasksText corruptedTasks}"⟩
  | .database message => ⟨.internal, s!"database error: {message}"⟩

def limitExceededToStatus (error : ValidationError) : Status := storeErrorToStatus (.validation error)

def parseRequiredId (kind : IdKind) (field : String) (id : Option ProtoId) : Except Status (Identifier kind) :=
  match id.filter (fun id => trim id.value ≠ "") with
  | none => .error (.invalidArgument (field ++ " is required"))
  | some id => invalidValue (validateIdentifier kind (trim id.value))

def parseRequiredTaskId (id : Option ProtoId) : Except Status TaskId := parseRequiredId .taskId "task_id" id

def parseRequiredAgentId (id : Option ProtoId) : Except Status AgentId := parseRequiredId .agentId "worker_id" id

def parseRequiredLeaseId (id : Option ProtoId) : Except Status LeaseId := parseRequiredId .leaseId "lease_id" id

def parseOptionalAgentId (id : Option ProtoId) : Except Status (Option AgentId) :=
  match id with
  | none => .ok none
  | some id => (parseRequiredAgentId (some id)).map some

def parseOptionalLeaseId (id : Option ProtoId) : Except Status (Option LeaseId) :=
  match id with
  | none => .ok none
  | some id => (parseRequiredLeaseId (some id)).map some

def parseOptionalIdempotencyKey (key : Option ProtoId) : Except Status (Option IdempotencyKey) :=
  match key.filter (fun key => trim key.value ≠ "") with
  | none => .ok none
  | some key => invalidValue ((validateIdentifier .idempotencyKey (trim key.value)).map some)

def protoId {kind : IdKind} (id : Identifier kind) : ProtoId := ⟨id.value⟩

theorem parseRequiredId_protoId {kind : IdKind} (field : String) (id : Identifier kind) :
    parseRequiredId kind field (some (protoId id)) = .ok id := by
  have nonblank : trim (protoId id).value ≠ "" := by
    rw [protoId, trim_value]
    exact id.value_ne_empty
  simp only [parseRequiredId, Option.filter_some, nonblank, ne_eq, not_false_eq_true, decide_true, if_true]
  rw [protoId, trim_value, validateIdentifier_value]
  rfl

def taskStatusLabel : TaskStatus → String
  | .pending => "pending"
  | .running => "running"
  | .completed => "completed"
  | .failed => "failed"

def deadlineFromEnvelope (envelope : TaskEnvelope) : Except Status (Option Int) :=
  if envelope.deadlineMs.toInt < 0 then
    .error (.invalidArgument "deadline_ms must be zero or a positive Unix epoch timestamp")
  else .ok (if 0 < envelope.deadlineMs.toInt then some envelope.deadlineMs.toInt else none)

structure Config where
  localPeerId : PeerId
  limits : LimitsConfig
  leaseDefaultTtlMs : Int
  failRetryPolicy : RetryPolicy
  daemonRpcToken : Option String
deriving DecidableEq

/-- A running daemon, as far as a request can see it. -/
structure Runtime where
  config : Config
  shuttingDown : Bool
deriving DecidableEq

/-- The decoders of the libraries the daemon is built with: protobuf messages and JSON lists of texts. -/
class Decoders where
  taskEnvelope : Bytes → Except String TaskEnvelope
  taskResultEnvelope : Bytes → Except String TaskResultEnvelope
  textList : String → Except String (List String)

instance : Inhabited Decoders where
  default := ⟨fun _ => .error "", fun _ => .error "", fun _ => .error ""⟩

abbrev Rpc (α : Type) := Session Sqlite.Db Status α

def inStore {α : Type} (operation : Sqlite.Tx α) : Rpc α := Session.perform storeErrorToStatus operation

def tokenDifference : Bytes → Bytes → UInt8
  | [], [] => 0
  | left :: lefts, [] => left ||| tokenDifference lefts []
  | [], right :: rights => right ||| tokenDifference [] rights
  | left :: lefts, right :: rights => (left ^^^ right) ||| tokenDifference lefts rights

def constantTimeTokenEq (left right : Bytes) : Bool := left.length = right.length && tokenDifference left right = 0

def bearerPrefix : String := "Bearer "

/-- The authorization header must carry the daemon's token, when it has one. -/
def authorizeDaemonRequest (config : Config) (authorization : Option String) : Except Status Unit :=
  match config.daemonRpcToken with
  | none => .ok ()
  | some expected =>
    match authorization.filter (fun raw => bearerPrefix.toList <+: raw.toList ∧ raw ≠ bearerPrefix) with
    | none => .error ⟨.unauthenticated, "daemon RPC bearer token is required"⟩
    | some raw =>
      let supplied := Protobuf.utf8 (String.ofList (raw.toList.drop bearerPrefix.length))
      if constantTimeTokenEq (Protobuf.utf8 expected) supplied then .ok ()
      else .error ⟨.permissionDenied, "daemon RPC bearer token is invalid"⟩

def enter (runtime : Runtime) (authorization : Option String) : Except Status Unit :=
  if runtime.shuttingDown then .error ⟨.unavailable, "daemon is shutting down"⟩
  else authorizeDaemonRequest runtime.config authorization

def sampleRuntime : Runtime where
  config :=
    { localPeerId := ⟨"edge", by decide, by decide, by decide⟩
      limits := .default
      leaseDefaultTtlMs := 300000
      failRetryPolicy := .default
      daemonRpcToken := none }
  shuttingDown := false

def inOrder : StringMap := ⟨[("a", "1"), ("b", "2")], by decide⟩

end Keryx.Daemon
