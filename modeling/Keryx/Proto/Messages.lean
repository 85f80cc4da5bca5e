import Keryx.Protobuf.Wire
import Keryx.Relational.Table
import Keryx.Core.Artifact

/-! The protobuf messages that the daemon stores, and the bytes it stores for them.
The rows of a map stand in the order that iterating over the hash map yields. -/

namespace Keryx.Proto
open Keryx.Core Relational
open Protobuf hiding Bytes

abbrev StringMap := Table (Prod.fst : String × String → String)

/-- An identifier message, whose only field is its text. -/
structure ProtoId where
  value : String
deriving DecidableEq

structure TaskMessagePart where
  mediaType : String
  text : String
  raw : Bytes
  metadata : StringMap

structure TaskMessage where
  parts : List TaskMessagePart
  metadata : StringMap

structure TaskEnvelope where
  taskId : Option ProtoId
  correlationId : Option ProtoId
  idempotencyKey : Option ProtoId
  status : Int32
  messages : List TaskMessage
  metadata : StringMap
  deadlineMs : Int64

inductive TerminalOutcome where
  | unspecified | completed | failed | canceled | timedOut | rejected
deriving DecidableEq, Repr

def TerminalOutcome.asI32 : TerminalOutcome → Int32
  | .unspecified => 0
  | .completed => 1
  | .failed => 2
  | .canceled => 3
  | .timedOut => 4
  | .rejected => 5

structure ResultArtifact where
  path : String
  mediaType : String
  metadata : StringMap
  artifactId : Option ProtoId
  sha256 : String
  byteLen : UInt64
  content : Bytes
  contentPresent : Bool

structure TaskResultEnvelope where
  protocolVersion : UInt32
  taskId : Option ProtoId
  correlationId : Option ProtoId
  outcome : Int32
  executorPeerId : String
  durationMs : Int64
  completedAtMs : Int64
  errorReason : String
  resultMetadata : StringMap
  outputArtifacts : List ResultArtifact

def ProtoId.slots (id : ProtoId) : List (List Payload) := [stringSlot id.value]

def TaskMessagePart.slots (part : TaskMessagePart) : List (List Payload) :=
  [stringSlot part.mediaType, stringSlot part.text, bytesSlot part.raw, mapSlot part.metadata.rows]

def TaskMessage.slots (message : TaskMessage) : List (List Payload) :=
  [repeatedSlot (message.parts.map TaskMessagePart.slots), mapSlot message.metadata.rows]

def TaskEnvelope.slots (envelope : TaskEnvelope) : List (List Payload) :=
  [messageSlot (envelope.taskId.map ProtoId.slots), messageSlot (envelope.correlationId.map ProtoId.slots),
    messageSlot (envelope.idempotencyKey.map ProtoId.slots), enumSlot envelope.status,
    repeatedSlot (envelope.messages.map TaskMessage.slots), mapSlot envelope.metadata.rows,
    int64Slot envelope.deadlineMs]

def TaskEnvelope.encodeToVec (envelope : TaskEnvelope) : Bytes := encodeMessage envelope.slots

def TaskEnvelope.encodedLen (envelope : TaskEnvelope) : Nat := envelope.encodeToVec.length

def ResultArtifact.slots (artifact : ResultArtifact) : List (List Payload) :=
  [stringSlot artifact.path, stringSlot artifact.mediaType, mapSlot artifact.metadata.rows,
    messageSlot (artifact.artifactId.map ProtoId.slots), stringSlot artifact.sha256, uint64Slot artifact.byteLen,
    bytesSlot artifact.content, boolSlot artifact.contentPresent]

def TaskResultEnvelope.slots (result : TaskResultEnvelope) : List (List Payload) :=
  [uint64Slot result.protocolVersion.toUInt64, messageSlot (result.taskId.map ProtoId.slots),
    messageSlot (result.correlationId.map ProtoId.slots), enumSlot result.outcome, stringSlot result.executorPeerId,
    int64Slot result.durationMs, int64Slot result.completedAtMs, stringSlot result.errorReason,
    mapSlot result.resultMetadata.rows, repeatedSlot (result.outputArtifacts.map ResultArtifact.slots)]

def TaskResultEnvelope.encodeToVec (result : TaskResultEnvelope) : Bytes := encodeMessage result.slots

theorem ProtoId.slots_inj (left right : ProtoId) (same : left.slots = right.slots) : left = right := by
  cases left; cases right
  exact congrArg ProtoId.mk (stringSlot_inj (List.cons.inj same).1)

theorem TaskMessagePart.slots_inj (left right : TaskMessagePart) (same : left.slots = right.slots) : left = right := by
  simp only [TaskMessagePart.slots, List.cons.injEq, and_true] at same
  obtain ⟨mediaType, text, raw, metadata⟩ := same
  cases left; cases right
  simp only [TaskMessagePart.mk.injEq]
  exact ⟨stringSlot_inj mediaType, stringSlot_inj text, bytesSlot_inj raw, Table.ext (mapSlot_inj metadata)⟩

theorem TaskMessage.slots_inj (left right : TaskMessage) (same : left.slots = right.slots) : left = right := by
  simp only [TaskMessage.slots, List.cons.injEq, and_true] at same
  obtain ⟨parts, metadata⟩ := same
  cases left; cases right
  simp only [TaskMessage.mk.injEq]
  exact ⟨repeatedSlot_inj (fun _ _ => rfl) TaskMessagePart.slots_inj parts, Table.ext (mapSlot_inj metadata)⟩

theorem protoId_slot_inj {left right : Option ProtoId}
    (same : messageSlot (left.map ProtoId.slots) = messageSlot (right.map ProtoId.slots)) : left = right :=
  messageSlot_inj (fun _ _ => rfl) ProtoId.slots_inj same

/-- Equal bytes come from equal envelopes, down to the iteration order of their maps. -/
theorem TaskEnvelope.encodeToVec_inj {left right : TaskEnvelope} (same : left.encodeToVec = right.encodeToVec) :
    left = right := by
  have slots : left.slots = right.slots := encodeMessage_inj rfl same
  simp only [TaskEnvelope.slots, List.cons.injEq, and_true] at slots
  obtain ⟨taskId, correlationId, idempotencyKey, status, messages, metadata, deadlineMs⟩ := slots
  cases left; cases right
  simp only [TaskEnvelope.mk.injEq]
  exact ⟨protoId_slot_inj taskId, protoId_slot_inj correlationId, protoId_slot_inj idempotencyKey, enumSlot_inj status,
    repeatedSlot_inj (fun _ _ => rfl) TaskMessage.slots_inj messages, Table.ext (mapSlot_inj metadata),
    int64Slot_inj deadlineMs⟩

theorem ResultArtifact.slots_inj (left right : ResultArtifact) (same : left.slots = right.slots) : left = right := by
  simp only [ResultArtifact.slots, List.cons.injEq, and_true] at same
  obtain ⟨path, mediaType, metadata, artifactId, sha256, byteLen, content, contentPresent⟩ := same
  cases left; cases right
  simp only [ResultArtifact.mk.injEq]
  exact ⟨stringSlot_inj path, stringSlot_inj mediaType, Table.ext (mapSlot_inj metadata), protoId_slot_inj artifactId,
    stringSlot_inj sha256, uint64Slot_inj byteLen, bytesSlot_inj content, boolSlot_inj contentPresent⟩

theorem TaskResultEnvelope.encodeToVec_inj {left right : TaskResultEnvelope}
    (same : left.encodeToVec = right.encodeToVec) : left = right := by
  have slots : left.slots = right.slots := encodeMessage_inj rfl same
  simp only [TaskResultEnvelope.slots, List.cons.injEq, and_true] at slots
  obtain ⟨version, taskId, correlationId, outcome, executor, durationMs, completedAtMs, errorReason, metadata,
    artifacts⟩ := slots
  cases left; cases right
  simp only [TaskResultEnvelope.mk.injEq]
  exact ⟨UInt32.toUInt64_inj.mp (uint64Slot_inj version), protoId_slot_inj taskId, protoId_slot_inj correlationId,
    enumSlot_inj outcome, stringSlot_inj executor, int64Slot_inj durationMs, int64Slot_inj completedAtMs,
    stringSlot_inj errorReason, Table.ext (mapSlot_inj metadata),
    repeatedSlot_inj (fun _ _ => rfl) ResultArtifact.slots_inj artifacts⟩

/-- Two hash maps with the same entries. -/
def SameMap (left right : StringMap) : Prop := left.rows.Perm right.rows

structure TaskMessagePart.Same (left right : TaskMessagePart) : Prop where
  mediaType : left.mediaType = right.mediaType
  text : left.text = right.text
  raw : left.raw = right.raw
  metadata : SameMap left.metadata right.metadata

structure TaskMessage.Same (left right : TaskMessage) : Prop where
  parts : List.Forall₂ TaskMessagePart.Same left.parts right.parts
  metadata : SameMap left.metadata right.metadata

structure TaskEnvelope.Same (left right : TaskEnvelope) : Prop where
  taskId : left.taskId = right.taskId
  correlationId : left.correlationId = right.correlationId
  idempotencyKey : left.idempotencyKey = right.idempotencyKey
  status : left.status = right.status
  messages : List.Forall₂ TaskMessage.Same left.messages right.messages
  metadata : SameMap left.metadata right.metadata
  deadlineMs : left.deadlineMs = right.deadlineMs

instance (left right : StringMap) : Decidable (SameMap left right) :=
  inferInstanceAs (Decidable (left.rows.Perm right.rows))

instance : DecidableRel TaskMessagePart.Same := fun left right =>
  decidable_of_iff (left.mediaType = right.mediaType ∧ left.text = right.text ∧ left.raw = right.raw ∧
      SameMap left.metadata right.metadata)
    ⟨fun ⟨mediaType, text, raw, metadata⟩ => ⟨mediaType, text, raw, metadata⟩,
      fun same => ⟨same.mediaType, same.text, same.raw, same.metadata⟩⟩

instance : DecidableRel TaskMessage.Same := fun left right =>
  decidable_of_iff (List.Forall₂ TaskMessagePart.Same left.parts right.parts ∧ SameMap left.metadata right.metadata)
    ⟨fun ⟨parts, metadata⟩ => ⟨parts, metadata⟩, fun same => ⟨same.parts, same.metadata⟩⟩

instance : DecidableRel TaskEnvelope.Same := fun left right =>
  decidable_of_iff (left.taskId = right.taskId ∧ left.correlationId = right.correlationId ∧
      left.idempotencyKey = right.idempotencyKey ∧ left.status = right.status ∧
      List.Forall₂ TaskMessage.Same left.messages right.messages ∧ SameMap left.metadata right.metadata ∧
      left.deadlineMs = right.deadlineMs)
    ⟨fun ⟨taskId, correlationId, idempotencyKey, status, messages, metadata, deadlineMs⟩ =>
        ⟨taskId, correlationId, idempotencyKey, status, messages, metadata, deadlineMs⟩,
      fun same => ⟨same.taskId, same.correlationId, same.idempotencyKey, same.status, same.messages, same.metadata,
        same.deadlineMs⟩⟩

/-- Two decodings of one artifact, which differ in the order of its metadata at most. -/
structure ResultArtifact.Same (left right : ResultArtifact) : Prop where
  fields : right = { left with metadata := right.metadata }
  metadata : SameMap left.metadata right.metadata

structure TaskResultEnvelope.Same (left right : TaskResultEnvelope) : Prop where
  fields : right =
    { left with resultMetadata := right.resultMetadata, outputArtifacts := right.outputArtifacts }
  resultMetadata : SameMap left.resultMetadata right.resultMetadata
  outputArtifacts : List.Forall₂ ResultArtifact.Same left.outputArtifacts right.outputArtifacts

theorem any_contentPresent_same {left right : List ResultArtifact}
    (same : List.Forall₂ ResultArtifact.Same left right) :
    right.any (·.contentPresent) = left.any (·.contentPresent) := by
  induction same with
  | nil => rfl
  | cons first _ ih => rw [List.any_cons, List.any_cons, first.fields, ih]

theorem TaskMessagePart.Same.refl (part : TaskMessagePart) : part.Same part := ⟨rfl, rfl, rfl, .refl _⟩

theorem TaskMessage.Same.refl (message : TaskMessage) : message.Same message :=
  ⟨List.forall₂_same.mpr fun part _ => .refl part, .refl _⟩

theorem TaskEnvelope.Same.refl (envelope : TaskEnvelope) : envelope.Same envelope :=
  ⟨rfl, rfl, rfl, rfl, List.forall₂_same.mpr fun message _ => .refl message, .refl _, rfl⟩

theorem ResultArtifact.Same.refl (artifact : ResultArtifact) : artifact.Same artifact := ⟨rfl, .refl _⟩

theorem TaskResultEnvelope.Same.refl (result : TaskResultEnvelope) : result.Same result :=
  ⟨rfl, .refl _, List.forall₂_same.mpr fun artifact _ => .refl artifact⟩

theorem TaskMessagePart.Same.length {left right : TaskMessagePart} (same : left.Same right) :
    (encodeMessage left.slots).length = (encodeMessage right.slots).length := by
  apply length_encodeMessage
  rw [TaskMessagePart.slots, TaskMessagePart.slots, same.mediaType, same.text, same.raw]
  exact .cons (.refl _) (.cons (.refl _) (.cons (.refl _) (.cons (sameSize_mapSlot same.metadata) .nil)))

theorem TaskMessage.Same.length {left right : TaskMessage} (same : left.Same right) :
    (encodeMessage left.slots).length = (encodeMessage right.slots).length := by
  apply length_encodeMessage
  have parts : SameSize (repeatedSlot (left.parts.map TaskMessagePart.slots))
      (repeatedSlot (right.parts.map TaskMessagePart.slots)) := by
    apply sameSize_repeatedSlot
    rw [List.forall₂_map_left_iff, List.forall₂_map_right_iff]
    exact same.parts.imp fun _ _ => TaskMessagePart.Same.length
  exact .cons parts (.cons (sameSize_mapSlot same.metadata) .nil)

theorem TaskEnvelope.Same.encodedLen {left right : TaskEnvelope} (same : left.Same right) :
    left.encodedLen = right.encodedLen := by
  apply length_encodeMessage
  have messages : SameSize (repeatedSlot (left.messages.map TaskMessage.slots))
      (repeatedSlot (right.messages.map TaskMessage.slots)) := by
    apply sameSize_repeatedSlot
    rw [List.forall₂_map_left_iff, List.forall₂_map_right_iff]
    exact same.messages.imp fun _ _ => TaskMessage.Same.length
  rw [TaskEnvelope.slots, TaskEnvelope.slots, same.taskId, same.correlationId, same.idempotencyKey, same.status,
    same.deadlineMs]
  exact .cons (.refl _) (.cons (.refl _) (.cons (.refl _) (.cons (.refl _) (.cons messages
    (.cons (sameSize_mapSlot same.metadata) (.cons (.refl _) .nil))))))

theorem SameMap.find {left right : StringMap} (same : SameMap left right) (key : String) :
    left.find key = right.find key := by
  cases found : left.find key with
  | none =>
    rw [Table.find_none] at found
    refine (Table.find_none.mpr ?_).symm
    intro row member
    exact found row (same.symm.subset member)
  | some row =>
    have there := Table.find_of_mem (same.subset (Table.find_mem found))
    rw [Table.find_key found] at there
    exact there.symm

end Keryx.Proto
