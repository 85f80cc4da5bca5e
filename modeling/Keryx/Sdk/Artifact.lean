import Keryx.Daemon.Completion

/-! The artifacts of the Python SDK, and the messages it makes of them. -/

namespace Keryx.Sdk
open Keryx.Core Store Proto Relational

/-- An output of a task as a worker's program describes it, with its bytes or without. -/
structure TaskArtifact where
  path : String
  mediaType : String
  metadata : StringMap
  content : Option Bytes
  sha256 : Option String
  byteLen : Option Int

structure ValueError where
  message : String
deriving DecidableEq

/-- A mapping with the fields of an artifact. A key may be missing, and its value may be none. -/
structure ArtifactMapping where
  path : Option (Option String)
  mediaType : Option (Option String)
  metadata : Option (Option StringMap)
  content : Option (Option Bytes)
  sha256 : Option (Option String)
  byteLen : Option (Option Int)

def defaultMediaType : String := "application/octet-stream"

/-- The path has no default, and a message leaves out a text or a map that is none. -/
def ArtifactMapping.construct (mapping : ArtifactMapping) : Option TaskArtifact :=
  mapping.path.map fun path =>
    { path := path.getD ""
      mediaType := (mapping.mediaType.getD (some defaultMediaType)).getD ""
      metadata := mapping.metadata.join.getD .empty
      content := mapping.content.join
      sha256 := mapping.sha256.join
      byteLen := mapping.byteLen.join }

theorem mediaType_sent (given : Option (Option String)) :
    (given.join.filter (· ≠ "")).getD defaultMediaType = (given.getD (some defaultMediaType)).getD "" ↔
      (given.getD (some defaultMediaType)).getD "" ≠ "" := by
  rcases given with _ | _ | mediaType
  · decide
  · decide
  · show ((some mediaType).filter (· ≠ "")).getD defaultMediaType = mediaType ↔ mediaType ≠ ""
    by_cases blank : mediaType = ""
    · rw [blank]
      decide
    · rw [Option.filter_some, if_pos (decide_eq_true blank)]
      exact iff_of_true rfl blank

section
variable [Sha256]

def TaskArtifact.toProto (artifact : TaskArtifact) : Except ValueError Daemon.TaskArtifact :=
  match artifact.content with
  | none =>
    if artifact.sha256.isSome ∨ artifact.byteLen.isSome then
      .error ⟨"descriptor-only artifacts cannot declare digest or byte_len"⟩
    else
      .ok
        { path := artifact.path
          mediaType := artifact.mediaType
          metadata := artifact.metadata
          content := []
          byteLen := 0
          sha256 := ""
          contentPresent := false }
  | some content =>
    let computedSha256 := (Digest.compute content).value
    let computedByteLen := content.length
    if artifact.sha256.any (· ≠ computedSha256) then .error ⟨"TaskArtifact.sha256 does not match content"⟩
    else if artifact.byteLen.any (· ≠ (computedByteLen : Int)) then .error ⟨"TaskArtifact.byte_len does not match content"⟩
    -- The field of the message has 64 bits.
    else if u64Max < computedByteLen then .error ⟨s!"Value out of range: {computedByteLen}"⟩
    else
      .ok
        { path := artifact.path
          mediaType := artifact.mediaType
          metadata := artifact.metadata
          content
          byteLen := UInt64.ofNat computedByteLen
          sha256 := computedSha256
          contentPresent := true }

/-- What is sent says of its bytes what is true of them. -/
structure TaskArtifact.Sent (source : TaskArtifact) (artifact : Daemon.TaskArtifact) : Prop where
  path : artifact.path = source.path
  mediaType : artifact.mediaType = source.mediaType
  metadata : artifact.metadata = source.metadata
  content : artifact.content = source.content.getD []
  contentPresent : artifact.contentPresent = source.content.isSome
  sha256 : artifact.sha256 = if source.content.isSome then (Digest.compute artifact.content).value else ""
  byteLen : artifact.byteLen.toNat = artifact.content.length

theorem toProto_sent {source : TaskArtifact} {artifact : Daemon.TaskArtifact}
    (produced : source.toProto = .ok artifact) : source.Sent artifact := by
  unfold TaskArtifact.toProto at produced
  split at produced
  · rename_i bare
    split at produced
    · cases produced
    · cases produced
      constructor
      all_goals simp [bare]
  · rename_i content bytes
    simp only at produced
    iterate 3
      split at produced
      · cases produced
    rename_i fits
    cases produced
    constructor
    all_goals simp [bytes]
    have bound : u64Max = 2 ^ 64 - 1 := rfl
    omega

def toProtos (sources : List TaskArtifact) : Except ValueError (List Daemon.TaskArtifact) :=
  sources.mapM TaskArtifact.toProto

theorem toProtos_sent {sources : List TaskArtifact} {artifacts : List Daemon.TaskArtifact}
    (produced : toProtos sources = .ok artifacts) : List.Forall₂ TaskArtifact.Sent sources artifacts := by
  unfold toProtos at produced
  induction sources generalizing artifacts with
  | nil =>
    cases produced
    exact .nil
  | cons source sources ih =>
    rw [List.mapM_cons] at produced
    obtain ⟨first, made, produced⟩ := except_bind_ok.mp produced
    obtain ⟨rest, loop, produced⟩ := except_bind_ok.mp produced
    cases produced
    exact .cons (toProto_sent made) (ih loop)

inductive OutputArtifact where
  | object (artifact : TaskArtifact)
  | mapping (entries : ArtifactMapping)

def artifactProto : OutputArtifact → Except ValueError Daemon.TaskArtifact
  | .object artifact => artifact.toProto
  | .mapping entries =>
    TaskArtifact.toProto
      { path := entries.path.join.getD ""
        mediaType := (entries.mediaType.join.filter (· ≠ "")).getD defaultMediaType
        metadata := entries.metadata.join.getD .empty
        content := none
        sha256 := none
        byteLen := none }

/-- A mapping is sent as the artifact that it describes exactly if it has no bytes and its media type is not blank. -/
theorem mapping_sent_as_object_iff (entries : ArtifactMapping) (artifact : TaskArtifact) (message : Daemon.TaskArtifact)
    (constructed : entries.construct = some artifact) (converted : artifactProto (.object artifact) = .ok message) :
    artifactProto (.mapping entries) = .ok message ↔ artifact.content = none ∧ artifact.mediaType ≠ "" := by
  obtain ⟨path, given, rfl⟩ := Option.map_eq_some_iff.mp constructed
  rw [← mediaType_sent entries.mediaType]
  show Except.ok _ = Except.ok message ↔ _
  rw [Except.ok.injEq, given]
  constructor
  · rintro rfl
    have sent := toProto_sent converted
    have bare := Option.isSome_eq_false_iff.mp sent.contentPresent.symm
    exact ⟨Option.isNone_iff_eq_none.mp bare, sent.mediaType⟩
  · rintro ⟨bare, same⟩
    change entries.content.join = none at bare
    simp only [artifactProto, TaskArtifact.toProto, bare] at converted
    split at converted
    · cases converted
    · cases converted
      rw [same]
      rfl

end

def loggedMapping (content : Option Bytes) : ArtifactMapping :=
  ⟨some (some "log"), some (some "text/plain"), none, some content, none, none⟩

theorem bare_mapping_sent_as_object :
    (loggedMapping none).construct = some ⟨"log", "text/plain", .empty, none, none, none⟩ ∧
      @artifactProto default (.mapping (loggedMapping none)) =
        .ok ⟨"log", "text/plain", .empty, [], 0, "", false⟩ :=
  ⟨rfl, (@mapping_sent_as_object_iff default (loggedMapping none) _ _ rfl rfl).mpr ⟨rfl, by decide⟩⟩

/-- The byte of a mapping is not sent. -/
theorem mapping_loses_content :
    (loggedMapping (some [1])).construct = some ⟨"log", "text/plain", .empty, some [1], none, none⟩ ∧
      @artifactProto default (.mapping (loggedMapping (some [1]))) ≠
        @artifactProto default (.object ⟨"log", "text/plain", .empty, some [1], none, none⟩) := by
  refine ⟨rfl, ?_⟩
  intro same
  cases same

end Keryx.Sdk
