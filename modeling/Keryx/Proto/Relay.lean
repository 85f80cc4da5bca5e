import Keryx.Proto.Messages

/-! The messages that the relay carries: frames, and the results of typed controls. -/

namespace Keryx.Proto
open Keryx.Core
open Protobuf hiding Bytes

structure NodescaleIdentityBindV1 where
  operationId : String
  networkId : String
  deviceId : String
  joinSessionId : String
  bindingNonce : String
  bindingGeneration : UInt64
  agentVersion : String
deriving DecidableEq

structure NodescaleIdentityBindV2 where
  operationId : String
  networkId : String
  deviceId : String
  providerBindingId : String
  bindingNonce : String
  bindingGeneration : UInt64
  agentVersion : String
deriving DecidableEq

structure NodescaleIdentityChallengeV1 where
  operationId : String
  networkId : String
  deviceId : String
  joinSessionId : String
  agentVersion : String
deriving DecidableEq

structure NodescaleIdentityChallengeV2 where
  operationId : String
  networkId : String
  deviceId : String
  providerBindingId : String
  agentVersion : String
deriving DecidableEq

structure FleetObservationSelectorV1 where
  source : String
  networkId : String
  deviceId : String
deriving DecidableEq

structure FleetObservationAuthorityEpochV1 where
  bindingId : String
  authenticatedPeerId : String
  bindingGeneration : UInt64
  projectionGeneration : UInt64
deriving DecidableEq

structure FleetObservationAcquireV1 where
  selector : Option FleetObservationSelectorV1
deriving DecidableEq

structure FleetObservationSampleV1 where
  selector : Option FleetObservationSelectorV1
  authorityEpoch : Option FleetObservationAuthorityEpochV1
  observationJson : Bytes
  sampleBytes : Bytes
deriving DecidableEq

inductive FleetObservationRequest where
  | acquire (operation : FleetObservationAcquireV1)
  | publish (operation : FleetObservationSampleV1)
deriving DecidableEq

structure FleetObservationPublishV1 where
  request : Option FleetObservationRequest
deriving DecidableEq

structure NodescaleIdentityBindResult where
  disposition : Int32
  accepted : Bool
  bindingId : String
  generation : UInt64
  revision : UInt64
  reason : String
  code : String
deriving DecidableEq

structure NodescaleIdentityChallengeResult where
  disposition : Int32
  accepted : Bool
  challengeId : String
  challengeSecret : String
  bindingGeneration : UInt64
  expiresAtUnixMs : UInt64
  reason : String
  code : String
deriving DecidableEq

structure FleetObservationPublishResultV1 where
  disposition : Int32
  accepted : Bool
  authorityEpoch : Option FleetObservationAuthorityEpochV1
  reason : String
  code : String
deriving DecidableEq

def FleetObservationSelectorV1.slots (selector : FleetObservationSelectorV1) : List (List Payload) :=
  [stringSlot selector.source, stringSlot selector.networkId, stringSlot selector.deviceId]

def FleetObservationAuthorityEpochV1.slots (epoch : FleetObservationAuthorityEpochV1) : List (List Payload) :=
  [stringSlot epoch.bindingId, stringSlot epoch.authenticatedPeerId, uint64Slot epoch.bindingGeneration,
    uint64Slot epoch.projectionGeneration]

def FleetObservationAcquireV1.slots (acquire : FleetObservationAcquireV1) : List (List Payload) :=
  [messageSlot (acquire.selector.map FleetObservationSelectorV1.slots)]

def FleetObservationSampleV1.slots (sample : FleetObservationSampleV1) : List (List Payload) :=
  [messageSlot (sample.selector.map FleetObservationSelectorV1.slots),
    messageSlot (sample.authorityEpoch.map FleetObservationAuthorityEpochV1.slots), bytesSlot sample.observationJson,
    bytesSlot sample.sampleBytes]

/-- One of two fields, which is written even if its message is empty. -/
def FleetObservationPublishV1.slots (operation : FleetObservationPublishV1) : List (List Payload) :=
  match operation.request with
  | none => []
  | some (.acquire acquire) => [messageSlot (some acquire.slots)]
  | some (.publish sample) => [[], messageSlot (some sample.slots)]

def FleetObservationPublishV1.encodedLen (operation : FleetObservationPublishV1) : Nat :=
  (encodeMessage operation.slots).length

def FleetObservationPublishResultV1.slots (result : FleetObservationPublishResultV1) : List (List Payload) :=
  [enumSlot result.disposition, boolSlot result.accepted,
    messageSlot (result.authorityEpoch.map FleetObservationAuthorityEpochV1.slots), stringSlot result.reason,
    stringSlot result.code]

def FleetObservationPublishResultV1.encodedLen (result : FleetObservationPublishResultV1) : Nat :=
  (encodeMessage result.slots).length

structure RelayFrame where
  frameId : String
  task : Option TaskEnvelope := none
  result : Option TaskResultEnvelope := none
  authenticatedSourceNodeId : String
  destinationNodeId : String
  nodescaleIdentityBindV1 : Option NodescaleIdentityBindV1 := none
  nodescaleIdentityChallengeV1 : Option NodescaleIdentityChallengeV1 := none
  nodescaleIdentityBindV2 : Option NodescaleIdentityBindV2 := none
  nodescaleIdentityChallengeV2 : Option NodescaleIdentityChallengeV2 := none
  fleetObservationPublishV1 : Option FleetObservationPublishV1 := none

namespace RelayFrame

/-- The identity under which the relay owns the frame. -/
def key (frame : RelayFrame) : String := trim frame.frameId

def payloadCount (frame : RelayFrame) : Nat :=
  frame.task.isSome.toNat + frame.result.isSome.toNat + frame.nodescaleIdentityBindV1.isSome.toNat +
    frame.nodescaleIdentityChallengeV1.isSome.toNat + frame.nodescaleIdentityBindV2.isSome.toNat +
    frame.nodescaleIdentityChallengeV2.isSome.toNat + frame.fleetObservationPublishV1.isSome.toNat

def hasExactlyOneRelayPayload (frame : RelayFrame) : Bool := frame.payloadCount = 1

def hasExactlyOneGenericPayload (frame : RelayFrame) : Bool :=
  frame.hasExactlyOneRelayPayload && (frame.task.isSome || frame.result.isSome)

end RelayFrame

end Keryx.Proto
