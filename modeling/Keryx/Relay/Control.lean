import Keryx.Proto.Relay
import Keryx.Daemon.Status

/-! What the relay asks of a typed control and of its result before it takes them on. -/

namespace Keryx.Relay
open Keryx.Core Proto Relational
open Daemon (Status)

def maxDirectControlIdBytes : Nat := 256

def maxDirectControlNonceBytes : Nat := 512

def maxDirectControlSecretBytes : Nat := 512

def maxDirectControlReasonBytes : Nat := 512

def maxFleetObservationJsonBytes : Nat := 64 * 1024

def maxFleetObservationControlBytes : Nat := 128 * 1024

def maxFleetObservationDeadlineMs : Int := 30000

/-- A text with its name and its bound in bytes. -/
structure BoundedText where
  name : String
  value : String
  maximum : Nat

def identifierText (name value : String) : BoundedText := ⟨name, value, maxDirectControlIdBytes⟩

def BoundedText.require (field : BoundedText) : Except Status Unit :=
  if trim field.value = "" ∨ field.maximum < field.value.utf8ByteSize then
    .error (.invalidArgument s!"{field.name} must be non-empty and at most {field.maximum} bytes")
  else .ok ()

def BoundedText.bound (field : BoundedText) : Except Status Unit :=
  if field.maximum < field.value.utf8ByteSize then
    .error (.invalidArgument s!"{field.name} exceeds {field.maximum} bytes")
  else .ok ()

def refuseIf (condition : Prop) [Decidable condition] (message : String) : Except Status Unit :=
  if condition then .error (.invalidArgument message) else .ok ()

def requirePresent {α : Type} (value : Option α) (message : String) : Except Status α :=
  match value with
  | none => .error (.invalidArgument message)
  | some value => .ok value

theorem requirePresent_ok {α : Type} {value : Option α} {message : String} {result : α} :
    requirePresent value message = .ok result ↔ value = some result := by
  cases value <;> simp [requirePresent]

def validateNodescaleIdentityBind (operation : NodescaleIdentityBindV1) : Except Status Unit := do
  [identifierText "operation_id" operation.operationId, identifierText "network_id" operation.networkId,
    identifierText "device_id" operation.deviceId, identifierText "join_session_id" operation.joinSessionId,
    ⟨"binding_nonce", operation.bindingNonce, maxDirectControlNonceBytes⟩,
    identifierText "agent_version" operation.agentVersion].forM BoundedText.require
  refuseIf (operation.bindingGeneration = 0) "binding_generation must be positive"

def validateNodescaleIdentityBindV2 (operation : NodescaleIdentityBindV2) : Except Status Unit := do
  [identifierText "operation_id" operation.operationId, identifierText "network_id" operation.networkId,
    identifierText "device_id" operation.deviceId, identifierText "provider_binding_id" operation.providerBindingId,
    ⟨"binding_nonce", operation.bindingNonce, maxDirectControlNonceBytes⟩,
    identifierText "agent_version" operation.agentVersion].forM BoundedText.require
  refuseIf (operation.bindingGeneration = 0) "binding_generation must be positive"

def validateNodescaleIdentityChallenge (operation : NodescaleIdentityChallengeV1) : Except Status Unit :=
  [identifierText "operation_id" operation.operationId, identifierText "network_id" operation.networkId,
    identifierText "device_id" operation.deviceId, identifierText "join_session_id" operation.joinSessionId,
    identifierText "agent_version" operation.agentVersion].forM BoundedText.require

def validateNodescaleIdentityChallengeV2 (operation : NodescaleIdentityChallengeV2) : Except Status Unit :=
  [identifierText "operation_id" operation.operationId, identifierText "network_id" operation.networkId,
    identifierText "device_id" operation.deviceId, identifierText "provider_binding_id" operation.providerBindingId,
    identifierText "agent_version" operation.agentVersion].forM BoundedText.require

def validateFleetObservationSelector (selector : FleetObservationSelectorV1) : Except Status Unit :=
  [identifierText "source" selector.source, identifierText "network_id" selector.networkId,
    identifierText "device_id" selector.deviceId].forM BoundedText.require

def validateFleetObservationAuthorityEpoch (epoch : FleetObservationAuthorityEpochV1) : Except Status Unit := do
  [identifierText "binding_id" epoch.bindingId,
    identifierText "authenticated_peer_id" epoch.authenticatedPeerId].forM BoundedText.require
  refuseIf (epoch.bindingGeneration = 0 ∨ epoch.projectionGeneration = 0)
    "authority epoch generations must be positive"

def validateFleetObservationPublish (operation : FleetObservationPublishV1) : Except Status Unit := do
  if maxFleetObservationControlBytes < operation.encodedLen then
    throw ⟨.resourceExhausted, "Fleet observation control exceeds the bounded payload limit"⟩
  match operation.request with
  | some (.acquire acquire) =>
    validateFleetObservationSelector (← requirePresent acquire.selector "acquire selector is required")
  | some (.publish sample) =>
    validateFleetObservationSelector (← requirePresent sample.selector "publish selector is required")
    validateFleetObservationAuthorityEpoch
      (← requirePresent sample.authorityEpoch "publish authority_epoch is required")
    refuseIf (sample.observationJson = [] ∨ maxFleetObservationJsonBytes < sample.observationJson.length ∨
      sample.sampleBytes ≠ []) "observation_json must be non-empty and opaque sample_bytes are unsupported"
  | none => throw (.invalidArgument "Fleet observation request variant is required")

def validateFleetObservationDeadline (nowMs deadlineMs : Int64) : Except Status Unit :=
  let remaining := deadlineMs.toInt - nowMs.toInt
  if remaining < Int64.minValue.toInt ∨ Int64.maxValue.toInt < remaining then
    .error (.invalidArgument "Fleet observation deadline is outside the supported range")
  else if remaining ≤ 0 then .error ⟨.deadlineExceeded, "Fleet observation deadline has expired"⟩
  else if maxFleetObservationDeadlineMs < remaining then
    .error (.invalidArgument "Fleet observation deadline exceeds the bounded control window")
  else .ok ()

inductive BindDisposition where
  | unspecified | active | alreadyConfirmed | rejected
deriving DecidableEq, Repr

def BindDisposition.tryFrom (value : Int32) : Option BindDisposition :=
  if value = 0 then some .unspecified
  else if value = 1 then some .active
  else if value = 2 then some .alreadyConfirmed
  else if value = 3 then some .rejected
  else none

inductive ChallengeDisposition where
  | unspecified | issued | rejected
deriving DecidableEq, Repr

def ChallengeDisposition.tryFrom (value : Int32) : Option ChallengeDisposition :=
  if value = 0 then some .unspecified
  else if value = 1 then some .issued
  else if value = 2 then some .rejected
  else none

inductive FleetObservationPublishDisposition where
  | unspecified | acquired | published | alreadyRecorded | rejected
deriving DecidableEq, Repr

def FleetObservationPublishDisposition.tryFrom (value : Int32) : Option FleetObservationPublishDisposition :=
  if value = 0 then some .unspecified
  else if value = 1 then some .acquired
  else if value = 2 then some .published
  else if value = 3 then some .alreadyRecorded
  else if value = 4 then some .rejected
  else none

def validateNodescaleIdentityBindResult (result : NodescaleIdentityBindResult) : Except Status Unit := do
  let disposition ← requirePresent (BindDisposition.tryFrom result.disposition)
    "invalid nodescale identity bind disposition"
  refuseIf (disposition = .unspecified) "nodescale identity bind disposition is required"
  [⟨"binding_id", result.bindingId, maxDirectControlReasonBytes⟩, ⟨"reason", result.reason, maxDirectControlReasonBytes⟩,
    ⟨"code", result.code, maxDirectControlReasonBytes⟩].forM BoundedText.bound
  match disposition with
  | .active | .alreadyConfirmed =>
    refuseIf (result.accepted = false ∨ trim result.bindingId = "" ∨ result.generation = 0 ∨ result.revision = 0 ∨
      result.reason ≠ "" ∨ result.code ≠ "")
      ("accepted direct control result requires binding identity, positive generation/revision, and no rejection " ++
        "details")
  | .rejected =>
    refuseIf (result.accepted = true ∨ result.bindingId ≠ "" ∨ result.generation ≠ 0 ∨ result.revision ≠ 0)
      "rejected direct control result must not claim an active binding"
  | .unspecified => throw (.invalidArgument "nodescale identity bind disposition is required")

def validateNodescaleIdentityChallengeResult (result : NodescaleIdentityChallengeResult) : Except Status Unit := do
  let disposition ← requirePresent (ChallengeDisposition.tryFrom result.disposition)
    "invalid nodescale identity challenge disposition"
  refuseIf (disposition = .unspecified) "nodescale identity challenge disposition is required"
  [⟨"challenge_id", result.challengeId, maxDirectControlIdBytes⟩,
    ⟨"challenge_secret", result.challengeSecret, maxDirectControlSecretBytes⟩,
    ⟨"reason", result.reason, maxDirectControlReasonBytes⟩,
    ⟨"code", result.code, maxDirectControlReasonBytes⟩].forM BoundedText.bound
  match disposition with
  | .issued =>
    refuseIf (result.accepted = false ∨ trim result.challengeId = "" ∨ trim result.challengeSecret = "" ∨
      result.bindingGeneration = 0 ∨ result.expiresAtUnixMs = 0 ∨ result.reason ≠ "" ∨ result.code ≠ "")
      "issued challenge requires secret, identity, positive fences, and no rejection details"
  | .rejected =>
    refuseIf (result.accepted = true ∨ result.challengeId ≠ "" ∨ result.challengeSecret ≠ "" ∨
      result.bindingGeneration ≠ 0 ∨ result.expiresAtUnixMs ≠ 0)
      "rejected challenge must not claim active challenge material"
  | .unspecified => pure ()

def validateFleetObservationResult (result : FleetObservationPublishResultV1) : Except Status Unit := do
  if maxFleetObservationControlBytes < result.encodedLen then
    throw ⟨.resourceExhausted, "Fleet observation result exceeds the bounded payload limit"⟩
  let disposition ← requirePresent (FleetObservationPublishDisposition.tryFrom result.disposition)
    "invalid Fleet observation disposition"
  refuseIf (disposition = .unspecified) "Fleet observation disposition is required"
  refuseIf (maxDirectControlReasonBytes < result.reason.utf8ByteSize ∨
    maxDirectControlReasonBytes < result.code.utf8ByteSize) "Fleet observation result details exceed bounds"
  match disposition with
  | .acquired =>
    refuseIf (result.accepted = false) "acquired result must be accepted"
    validateFleetObservationAuthorityEpoch
      (← requirePresent result.authorityEpoch "acquired result requires an authority epoch")
  | .published | .alreadyRecorded =>
    refuseIf (result.accepted = false) "successful publication disposition must be accepted"
  | .rejected => refuseIf (result.accepted = true) "rejected publication cannot be accepted"
  | .unspecified => pure ()

end Keryx.Relay
