import Mathlib.Data.Finset.Card
import Keryx.Concurrent.Channel
import Keryx.Proto.Relay
import Keryx.Daemon.Status

/-! The shared state of the relay process and what each call does to it under the lock.
A sender is the number of the channel it writes to. -/

namespace Keryx.Relay
open Keryx.Core Proto Relational Concurrent
open Daemon (Status)

inductive FrameDelivery where
  | delivered | mailboxed | rejectedDuplicate | rejectedCapacity | rejectedInvalid
deriving DecidableEq, Repr

def FrameDelivery.isRouted : FrameDelivery → Bool
  | .delivered | .mailboxed => true
  | _ => false

inductive FrameAcknowledgement where
  | accepted | wrongDestination | unknownFrame
deriving DecidableEq, Repr

inductive DirectControlCompletion where
  | accepted | wrongDestination | unknownFrame
deriving DecidableEq, Repr

structure PublishedTaskReceipt where
  frameId : String
  acceptedAtMs : Int
deriving DecidableEq

inductive PublishedTaskIdentity where
  | new (receipt : PublishedTaskReceipt)
  | retry (receipt : PublishedTaskReceipt)
  | conflict
  | rejectedCapacity
deriving DecidableEq

inductive PublishedTaskDelivery where
  | new (receipt : PublishedTaskReceipt) (delivery : FrameDelivery)
  | retry (receipt : PublishedTaskReceipt)
  | conflict
  | rejectedCapacity
  | rejectedInvalid
deriving DecidableEq

/-- The typed controls, each with waiters and results of its own. -/
inductive ControlKind where
  | bind | challenge | fleetObservation
deriving DecidableEq, Repr

inductive LocalTypedControlDispatch where
  | bind (result : NodescaleIdentityBindResult)
  | challenge (result : NodescaleIdentityChallengeResult)
  | fleetObservation (result : FleetObservationPublishResultV1)
deriving DecidableEq

abbrev FrameKey := String × String

abbrev TaskPublishKey := String × String × String

abbrev HashMap (κ ν : Type) := Table (Prod.fst : κ × ν → κ)

structure PublishedTaskRecord where
  envelope : TaskEnvelope
  receipt : PublishedTaskReceipt
  acknowledged : Bool

structure ConnectedNode where
  generation : UInt64
  sender : Nat
deriving DecidableEq

structure PeerState where
  registered : Finset String
  connectedNodes : HashMap String ConnectedNode
  nextConnectionGeneration : UInt64
  mailboxes : HashMap String (List RelayFrame)
  frameDestinations : Finset FrameKey
  acknowledgedFrames : Finset FrameKey
  acknowledgedFrameOrder : List FrameKey
  publishedTasks : HashMap TaskPublishKey PublishedTaskRecord
  publishedFrameIndex : HashMap FrameKey TaskPublishKey
  acknowledgedPublishedTaskOrder : List TaskPublishKey
  frameAckWaiters : HashMap FrameKey Nat
  controlWaiters : ControlKind → HashMap FrameKey Nat
  tasksRouted : Nat
  -- The channels that the senders above write to.
  streams : Nat → Channel (Except Status RelayFrame)
  streamCount : Nat
  acknowledgements : Oneshots Unit
  completions : Oneshots LocalTypedControlDispatch

def maxTrackedFrames : Nat := 8192

def maxRecentAcknowledgements : Nat := 8192

def maxRetainedPublishedTasks : Nat := 8192

def relayStreamBuffer : Nat := maxTrackedFrames

namespace PeerState

def empty : PeerState where
  registered := ∅
  connectedNodes := .empty
  nextConnectionGeneration := 0
  mailboxes := .empty
  frameDestinations := ∅
  acknowledgedFrames := ∅
  acknowledgedFrameOrder := []
  publishedTasks := .empty
  publishedFrameIndex := .empty
  acknowledgedPublishedTaskOrder := []
  frameAckWaiters := .empty
  controlWaiters := fun _ => .empty
  tasksRouted := 0
  streams := fun _ => (Channel.create 0).close
  streamCount := 0
  acknowledgements := .none
  completions := .none

def mailbox (state : PeerState) (nodeId : String) : List RelayFrame := ((state.mailboxes.find nodeId).map (·.2)).getD []

def retainMailbox (state : PeerState) (nodeId : String) (condition : RelayFrame → Bool) : PeerState :=
  { state with mailboxes := state.mailboxes.update nodeId (fun row => (row.1, row.2.filter condition)) fun _ => rfl }

def removeControlWaiter (state : PeerState) (kind : ControlKind) (key : FrameKey) : PeerState :=
  { state with controlWaiters :=
      Function.update state.controlWaiters kind ((state.controlWaiters kind).keep (fun row => row.1 ≠ key)) }

end PeerState

variable (nodeId : String)

def registerNode (state : PeerState) : PeerState :=
  { state with
    registered := insert nodeId state.registered
    mailboxes := if (state.mailboxes.find nodeId).isSome then state.mailboxes else state.mailboxes.put (nodeId, []) }

def isAcked (destinationNodeId : String) (frame : RelayFrame) (acknowledged : Finset FrameKey) : Bool :=
  frame.key ≠ "" ∧ (destinationNodeId, frame.key) ∈ acknowledged

/-- Replays what the node has not acknowledged. A stream that does not take all of it is not attached. -/
def connectNodeFenced (sender : Nat) (state : PeerState) : (Nat × UInt64) × PeerState :=
  let generation := max (state.nextConnectionGeneration + 1) 1
  let pending := (state.mailbox nodeId).filter (fun frame => !isAcked nodeId frame state.acknowledgedFrames)
  let ((replayed, streamOpen), stream) := (state.streams sender).trySendAll (pending.map .ok)
  ((replayed, generation),
    { state with
      nextConnectionGeneration := generation
      registered := insert nodeId state.registered
      streams := Function.update state.streams sender stream
      connectedNodes :=
        if streamOpen then state.connectedNodes.put (nodeId, ⟨generation, sender⟩) else state.connectedNodes })

/-- The stream a service call opens for an authenticated node. -/
def connectNode (state : PeerState) : (Nat × UInt64) × PeerState :=
  connectNodeFenced nodeId state.streamCount
    { state with
      streams := Function.update state.streams state.streamCount (Channel.create relayStreamBuffer)
      streamCount := state.streamCount + 1 }

def abandonFleetObservationDestination (destinationNodeId : String) (state : PeerState) : PeerState :=
  let keys := ((state.controlWaiters .fleetObservation).rows.map Prod.fst).filter (·.1 = destinationNodeId)
  { state with
    controlWaiters := Function.update state.controlWaiters .fleetObservation
      ((state.controlWaiters .fleetObservation).keep (fun row => row.1 ∉ keys))
    frameDestinations := state.frameDestinations.filter (· ∉ keys) }.retainMailbox destinationNodeId
      (·.fleetObservationPublishV1.isNone)

def dropConnection (state : PeerState) : PeerState :=
  abandonFleetObservationDestination nodeId
    { state with connectedNodes := state.connectedNodes.keep (fun row => row.1 ≠ nodeId) }

def sendStatus (sender : Nat) (status : Status) (state : PeerState) : PeerState :=
  match (state.streams sender).trySend (.error status) with
  | .ok stream => { state with streams := Function.update state.streams sender stream }
  | .error _ => state

def disconnectNode (state : PeerState) : PeerState :=
  if (state.connectedNodes.find nodeId).isSome then dropConnection nodeId state else state

def disconnectNodeIfCurrent (generation : UInt64) (state : PeerState) : PeerState :=
  if (state.connectedNodes.find nodeId).any (·.2.generation = generation) then dropConnection nodeId state else state

def disconnectNodeWithStatus (status : Status) (state : PeerState) : PeerState :=
  match state.connectedNodes.find nodeId with
  | some (_, connected) => sendStatus connected.sender status (dropConnection nodeId state)
  | none => state

def disconnectNodeWithStatusIfCurrent (generation : UInt64) (status : Status) (state : PeerState) : PeerState :=
  match state.connectedNodes.find nodeId with
  | some (_, connected) =>
    if connected.generation = generation then sendStatus connected.sender status (dropConnection nodeId state)
    else state
  | none => state

variable (targetNodeId : String) (frame : RelayFrame)

/-- Owns the frame for its destination, stores it, and sends it on if the node is connected. -/
def routeFrameLocked (state : PeerState) : FrameDelivery × PeerState :=
  if !frame.hasExactlyOneRelayPayload then (.rejectedInvalid, state)
  else if frame.key = "" then (.rejectedInvalid, state)
  else if (targetNodeId, frame.key) ∈ state.frameDestinations ∨ (targetNodeId, frame.key) ∈ state.acknowledgedFrames then
    (.rejectedDuplicate, state)
  else if maxTrackedFrames ≤ state.frameDestinations.card ∨ maxTrackedFrames ≤ (state.mailbox targetNodeId).length then
    (.rejectedCapacity, state)
  else
    let stored := { state with
      frameDestinations := insert (targetNodeId, frame.key) state.frameDestinations
      registered := insert targetNodeId state.registered
      mailboxes := state.mailboxes.put (targetNodeId, state.mailbox targetNodeId ++ [frame]) }
    match state.connectedNodes.find targetNodeId with
    | none => (.mailboxed, stored)
    | some (_, connected) =>
      match (state.streams connected.sender).trySend (.ok frame) with
      | .ok stream => (.delivered, { stored with streams := Function.update state.streams connected.sender stream })
      | .error .full => (.mailboxed, stored)
      | .error .closed =>
        (.mailboxed, { stored with connectedNodes := state.connectedNodes.keep (fun row => row.1 ≠ targetNodeId) })

def countRouted (delivery : FrameDelivery) (state : PeerState) : PeerState :=
  if delivery.isRouted then { state with tasksRouted := state.tasksRouted + 1 } else state

def routeFrame (state : PeerState) : FrameDelivery × PeerState :=
  if !frame.hasExactlyOneGenericPayload then (.rejectedInvalid, state)
  else
    let (delivery, state) := routeFrameLocked targetNodeId frame state
    (delivery, countRouted delivery state)

/-- Also installs a waiter, which stays until the destination acknowledges the frame. -/
def routeFrameWaitingForAck (state : PeerState) : (FrameDelivery × Option Nat) × PeerState :=
  if !frame.hasExactlyOneGenericPayload then ((.rejectedInvalid, none), state)
  else
    let (delivery, state) := routeFrameLocked targetNodeId frame state
    if delivery.isRouted then
      let (receiver, acknowledgements) := state.acknowledgements.create
      ((delivery, some receiver),
        { state with
          acknowledgements
          frameAckWaiters := state.frameAckWaiters.put ((targetNodeId, frame.key), receiver)
          tasksRouted := state.tasksRouted + 1 })
    else ((delivery, none), state)

def typedDirectControlTargetMatchesFrameDestination : Bool :=
  trim targetNodeId ≠ "" ∧ (trim frame.destinationNodeId = "" ∨ targetNodeId = frame.destinationNodeId)

def ControlKind.fits : ControlKind → RelayFrame → Bool
  | .bind, frame =>
    frame.nodescaleIdentityBindV1.isSome.toNat + frame.nodescaleIdentityBindV2.isSome.toNat = 1 ∧
      frame.nodescaleIdentityChallengeV1.isNone ∧ frame.nodescaleIdentityChallengeV2.isNone ∧ frame.task.isNone ∧
      frame.result.isNone
  | .challenge, frame =>
    frame.nodescaleIdentityChallengeV1.isSome.toNat + frame.nodescaleIdentityChallengeV2.isSome.toNat = 1 ∧
      frame.nodescaleIdentityBindV1.isNone ∧ frame.nodescaleIdentityBindV2.isNone ∧ frame.task.isNone ∧
      frame.result.isNone
  | .fleetObservation, frame =>
    frame.fleetObservationPublishV1.isSome ∧ frame.task.isNone ∧ frame.result.isNone ∧
      frame.nodescaleIdentityBindV1.isNone ∧ frame.nodescaleIdentityChallengeV1.isNone ∧
      frame.nodescaleIdentityBindV2.isNone ∧ frame.nodescaleIdentityChallengeV2.isNone

def routeControlWaitingForCompletion (kind : ControlKind) (targetNodeId : String) (frame : RelayFrame)
    (state : PeerState) : (FrameDelivery × Option Nat) × PeerState :=
  if !typedDirectControlTargetMatchesFrameDestination targetNodeId frame || !kind.fits frame then
    ((.rejectedInvalid, none), state)
  else
    let (delivery, state) := routeFrameLocked targetNodeId frame state
    if delivery.isRouted then
      let (receiver, completions) := state.completions.create
      ((delivery, some receiver),
        { state with
          completions
          controlWaiters := Function.update state.controlWaiters kind
            ((state.controlWaiters kind).put ((targetNodeId, frame.key), receiver)) })
    else ((delivery, none), state)

def routeNodescaleIdentityBindWaitingForCompletion := routeControlWaitingForCompletion .bind

def routeNodescaleIdentityChallengeWaitingForCompletion := routeControlWaitingForCompletion .challenge

def routeFleetObservationWaitingForCompletion := routeControlWaitingForCompletion .fleetObservation

/-- Settles the waiter of a control, for its destination only. -/
def completeControl (kind : ControlKind) (destinationNodeId frameId : String) (result : LocalTypedControlDispatch)
    (state : PeerState) : DirectControlCompletion × PeerState :=
  let key := (trim destinationNodeId, trim frameId)
  if key.1 = "" ∨ key.2 = "" then (.unknownFrame, state)
  else match (state.controlWaiters kind).find key with
    | none =>
      if (state.controlWaiters kind).rows.any (fun row => row.1.2 = key.2) then (.wrongDestination, state)
      else (.unknownFrame, state)
    | some (_, waiter) =>
      let removed := state.removeControlWaiter kind key
      if key ∉ state.frameDestinations then (.unknownFrame, removed)
      else
        (.accepted,
          { removed with
            frameDestinations := state.frameDestinations.erase key
            completions := state.completions.send waiter result }.retainMailbox key.1 (·.key ≠ key.2))

def completeNodescaleIdentityBind (destinationNodeId frameId : String) (result : NodescaleIdentityBindResult) :=
  completeControl .bind destinationNodeId frameId (.bind result)

def completeNodescaleIdentityChallenge (destinationNodeId frameId : String) (result : NodescaleIdentityChallengeResult) :=
  completeControl .challenge destinationNodeId frameId (.challenge result)

def completeFleetObservation (destinationNodeId frameId : String) (result : FleetObservationPublishResultV1) :=
  completeControl .fleetObservation destinationNodeId frameId (.fleetObservation result)

def abandonFrame (destinationNodeId frameId : String) (state : PeerState) : PeerState :=
  let key := (destinationNodeId, frameId)
  { state with
    frameAckWaiters := state.frameAckWaiters.keep (fun row => row.1 ≠ key)
    controlWaiters := fun kind => (state.controlWaiters kind).keep (fun row => row.1 ≠ key)
    frameDestinations := state.frameDestinations.erase key }.retainMailbox destinationNodeId (·.key ≠ frameId)

def expireAcknowledgements : List FrameKey → Finset FrameKey → List FrameKey × Finset FrameKey
  | [], acknowledged => ([], acknowledged)
  | expired :: order, acknowledged =>
    if maxRecentAcknowledgements < (expired :: order).length then
      expireAcknowledgements order (acknowledged.erase expired)
    else (expired :: order, acknowledged)

def rememberAcknowledgement (key : FrameKey) (state : PeerState) : PeerState :=
  let order := if key ∈ state.acknowledgedFrames then state.acknowledgedFrameOrder
    else state.acknowledgedFrameOrder ++ [key]
  let (order, acknowledged) := expireAcknowledgements order (insert key state.acknowledgedFrames)
  { state with acknowledgedFrameOrder := order, acknowledgedFrames := acknowledged }

def markPublishedTaskAcknowledged (key : FrameKey) (state : PeerState) : PeerState :=
  match state.publishedFrameIndex.find key with
  | none => state
  | some (_, taskKey) =>
    match state.publishedTasks.find taskKey with
    | none => state
    | some (_, record) =>
      if record.acknowledged then state
      else
        { state with
          publishedTasks := state.publishedTasks.put (taskKey, { record with acknowledged := true })
          acknowledgedPublishedTaskOrder := state.acknowledgedPublishedTaskOrder ++ [taskKey] }

def settleAckWaiter (key : FrameKey) (state : PeerState) : PeerState :=
  match state.frameAckWaiters.find key with
  | none => state
  | some (_, waiter) =>
    { state with
      frameAckWaiters := state.frameAckWaiters.keep (fun row => row.1 ≠ key)
      acknowledgements := state.acknowledgements.send waiter () }

/-- A frame of a typed control is not acknowledged, and one that was acknowledged lately is again. -/
def ackFrame (destinationNodeId frameId : String) (state : PeerState) : FrameAcknowledgement × PeerState :=
  let key := (trim destinationNodeId, trim frameId)
  if key.1 = "" ∨ key.2 = "" then (.unknownFrame, state)
  else if ∃ kind ∈ [ControlKind.bind, .challenge, .fleetObservation], ((state.controlWaiters kind).find key).isSome then
    (.unknownFrame, state)
  else if key ∈ state.acknowledgedFrames then (.accepted, state)
  else if key ∉ state.frameDestinations then
    if ∃ known ∈ state.frameDestinations, known.2 = key.2 then (.wrongDestination, state) else (.unknownFrame, state)
  else
    let released := { state with
      frameDestinations := state.frameDestinations.erase key
      mailboxes := state.mailboxes.update key.1 (fun row => (row.1, row.2.eraseP (·.key = key.2))) fun _ => rfl }
    (.accepted, markPublishedTaskAcknowledged key (settleAckWaiter key (rememberAcknowledgement key released)))

def isExactTaskFrame (task : TaskEnvelope) : Bool :=
  frame.hasExactlyOneRelayPayload && frame.task.any (fun carried => carried.Same task)

def expirePublishedTask (expired : TaskPublishKey) (state : PeerState) : PeerState :=
  match state.publishedTasks.find expired with
  | none => state
  | some (_, record) =>
    { state with
      publishedTasks := state.publishedTasks.keep (fun row => row.1 ≠ expired)
      publishedFrameIndex := state.publishedFrameIndex.keep (fun row => row.1 ≠ (expired.2.1, record.receipt.frameId)) }

/-- Forgets acknowledged tasks, oldest first, until there is room for another. -/
def makeRoomForTask : List TaskPublishKey → PeerState → Bool × PeerState
  | order, state =>
    if state.publishedTasks.rows.length < maxRetainedPublishedTasks then
      (true, { state with acknowledgedPublishedTaskOrder := order })
    else match order with
      | [] => (false, { state with acknowledgedPublishedTaskOrder := [] })
      | expired :: order => makeRoomForTask order (expirePublishedTask expired state)

def recordPublishedTask (taskKey : TaskPublishKey) (envelope : TaskEnvelope) (receipt : PublishedTaskReceipt)
    (state : PeerState) : PeerState :=
  { state with
    publishedFrameIndex := state.publishedFrameIndex.put ((taskKey.2.1, receipt.frameId), taskKey)
    publishedTasks := state.publishedTasks.put (taskKey, ⟨envelope, receipt, false⟩) }

def publishTaskFrame (sourceNodeId destinationNodeId taskId : String) (identityTask routedTask : TaskEnvelope)
    (frame : RelayFrame) (proposedReceipt : PublishedTaskReceipt) (state : PeerState) :
    PublishedTaskDelivery × PeerState :=
  let taskKey := (sourceNodeId, destinationNodeId, taskId)
  let frameKey := (destinationNodeId, proposedReceipt.frameId)
  if !isExactTaskFrame frame routedTask then (.rejectedInvalid, state)
  else match state.publishedTasks.find taskKey with
    | some (_, existing) =>
      if existing.envelope.Same identityTask then (.retry existing.receipt, state) else (.conflict, state)
    | none =>
      if frameKey ∈ state.frameDestinations ∨ frameKey ∈ state.acknowledgedFrames ∨
          maxTrackedFrames ≤ state.frameDestinations.card ∨ trim proposedReceipt.frameId = "" ∨
          maxTrackedFrames ≤ (state.mailbox destinationNodeId).length then
        (.rejectedCapacity, state)
      else match makeRoomForTask state.acknowledgedPublishedTaskOrder state with
        | (false, state) => (.rejectedCapacity, state)
        | (true, state) =>
          let (delivery, state) :=
            routeFrameLocked destinationNodeId frame (recordPublishedTask taskKey identityTask proposedReceipt state)
          (.new proposedReceipt delivery, { state with tasksRouted := state.tasksRouted + 1 })

def classifyPublishedTask (sourceNodeId destinationNodeId taskId : String) (task : TaskEnvelope)
    (proposedReceipt : PublishedTaskReceipt) (state : PeerState) : PublishedTaskIdentity × PeerState :=
  let taskKey := (sourceNodeId, destinationNodeId, taskId)
  match state.publishedTasks.find taskKey with
  | some (_, existing) =>
    if existing.envelope.Same task then (.retry existing.receipt, state) else (.conflict, state)
  | none =>
    match makeRoomForTask state.acknowledgedPublishedTaskOrder state with
    | (false, state) => (.rejectedCapacity, state)
    | (true, state) => (.new proposedReceipt, recordPublishedTask taskKey task proposedReceipt state)

def forgetPublishedTask (sourceNodeId destinationNodeId taskId frameId : String) (state : PeerState) : PeerState :=
  let taskKey := (sourceNodeId, destinationNodeId, taskId)
  let removable := (state.publishedTasks.find taskKey).any (fun row =>
    row.2.receipt.frameId = frameId ∧ !row.2.acknowledged ∧ (destinationNodeId, frameId) ∉ state.frameDestinations)
  if removable then
    { state with
      publishedTasks := state.publishedTasks.keep (fun row => row.1 ≠ taskKey)
      publishedFrameIndex := state.publishedFrameIndex.keep (fun row => row.1 ≠ (destinationNodeId, frameId)) }
  else state

end Keryx.Relay
