import Keryx.Relay.Runtime

/-! The calls of the relay as steps on its state, and what a step does to the frames it holds. -/

namespace Keryx.Relay
open Keryx.Core Proto Relational Concurrent
open Daemon (Status)

inductive RelayOp where
  | registerNode (nodeId : String)
  | connectNode (nodeId : String)
  | disconnectNode (nodeId : String)
  | disconnectNodeIfCurrent (nodeId : String) (generation : UInt64)
  | disconnectNodeWithStatus (nodeId : String) (status : Status)
  | disconnectNodeWithStatusIfCurrent (nodeId : String) (generation : UInt64) (status : Status)
  | routeFrame (targetNodeId : String) (frame : RelayFrame)
  | routeFrameWaitingForAck (targetNodeId : String) (frame : RelayFrame)
  | routeControl (kind : ControlKind) (targetNodeId : String) (frame : RelayFrame)
  | completeControl (kind : ControlKind) (destinationNodeId frameId : String) (result : LocalTypedControlDispatch)
  | abandonFrame (destinationNodeId frameId : String)
  | ackFrame (destinationNodeId frameId : String)
  | publishTaskFrame (sourceNodeId destinationNodeId taskId : String) (identityTask routedTask : TaskEnvelope)
      (frame : RelayFrame) (proposedReceipt : PublishedTaskReceipt)
  | classifyPublishedTask (sourceNodeId destinationNodeId taskId : String) (task : TaskEnvelope)
      (proposedReceipt : PublishedTaskReceipt)
  | forgetPublishedTask (sourceNodeId destinationNodeId taskId frameId : String)
  /-- The receiver of a stream takes an item. -/
  | takeItem (stream : Nat)
  /-- The receiver of a stream goes away. -/
  | closeStream (stream : Nat)

def takeItem (stream : Nat) (state : PeerState) : PeerState :=
  { state with streams := Function.update state.streams stream (state.streams stream).take }

def closeStream (stream : Nat) (state : PeerState) : PeerState :=
  { state with streams := Function.update state.streams stream (state.streams stream).close }

def step (state : PeerState) : RelayOp → PeerState
  | .registerNode nodeId => registerNode nodeId state
  | .connectNode nodeId => (connectNode nodeId state).2
  | .disconnectNode nodeId => disconnectNode nodeId state
  | .disconnectNodeIfCurrent nodeId generation => disconnectNodeIfCurrent nodeId generation state
  | .disconnectNodeWithStatus nodeId status => disconnectNodeWithStatus nodeId status state
  | .disconnectNodeWithStatusIfCurrent nodeId generation status =>
    disconnectNodeWithStatusIfCurrent nodeId generation status state
  | .routeFrame targetNodeId frame => (routeFrame targetNodeId frame state).2
  | .routeFrameWaitingForAck targetNodeId frame => (routeFrameWaitingForAck targetNodeId frame state).2
  | .routeControl kind targetNodeId frame => (routeControlWaitingForCompletion kind targetNodeId frame state).2
  | .completeControl kind destinationNodeId frameId result =>
    (completeControl kind destinationNodeId frameId result state).2
  | .abandonFrame destinationNodeId frameId => abandonFrame destinationNodeId frameId state
  | .ackFrame destinationNodeId frameId => (ackFrame destinationNodeId frameId state).2
  | .publishTaskFrame sourceNodeId destinationNodeId taskId identityTask routedTask frame proposedReceipt =>
    (publishTaskFrame sourceNodeId destinationNodeId taskId identityTask routedTask frame proposedReceipt state).2
  | .classifyPublishedTask sourceNodeId destinationNodeId taskId task proposedReceipt =>
    (classifyPublishedTask sourceNodeId destinationNodeId taskId task proposedReceipt state).2
  | .forgetPublishedTask sourceNodeId destinationNodeId taskId frameId =>
    forgetPublishedTask sourceNodeId destinationNodeId taskId frameId state
  | .takeItem stream => takeItem stream state
  | .closeStream stream => closeStream stream state

/-- Those who wait for acknowledgements, or for the completion of one kind of typed control. -/
def PeerState.waiters (state : PeerState) : Option ControlKind → HashMap FrameKey Nat
  | none => state.frameAckWaiters
  | some kind => state.controlWaiters kind

def PeerState.opened (state : PeerState) : Option ControlKind → Nat
  | none => state.acknowledgements.created
  | some _ => state.completions.created

/-- Puts a waiter down for a frame, if anybody waits. -/
def PeerState.await (state : PeerState) (key : FrameKey) : Option (Option ControlKind) → PeerState
  | none => state
  | some none =>
    { state with
      acknowledgements := state.acknowledgements.create.2
      frameAckWaiters := state.frameAckWaiters.put (key, state.acknowledgements.created) }
  | some (some kind) =>
    { state with
      completions := state.completions.create.2
      controlWaiters := Function.update state.controlWaiters kind
        ((state.controlWaiters kind).put (key, state.completions.created)) }

def isGeneric (frame : RelayFrame) : Bool := frame.task.isSome || frame.result.isSome

namespace RelayOp

def carries : RelayOp → Option (String × RelayFrame)
  | .routeFrame target frame | .routeFrameWaitingForAck target frame | .routeControl _ target frame
  | .publishTaskFrame _ target _ _ _ frame _ => some (target, frame)
  | _ => none

/-- What somebody waits for once the frame is accepted, if anybody does. -/
def awaits : RelayOp → Option (Option ControlKind)
  | .routeFrameWaitingForAck _ _ => some none
  | .routeControl kind _ _ => some (some kind)
  | _ => none

def registers : RelayOp → Option TaskPublishKey
  | .publishTaskFrame source destination taskId _ _ _ _ => some (source, destination, taskId)
  | .classifyPublishedTask source destination taskId _ _ => some (source, destination, taskId)
  | _ => none

def receipt : RelayOp → Option PublishedTaskReceipt
  | .publishTaskFrame _ _ _ _ _ _ proposedReceipt | .classifyPublishedTask _ _ _ _ proposedReceipt => some proposedReceipt
  | _ => none

def suits (op : RelayOp) (frame : RelayFrame) : Bool :=
  match op.awaits with
  | some (some kind) => kind.fits frame
  | _ => isGeneric frame

def disconnects : RelayOp → Option String
  | .disconnectNode nodeId | .disconnectNodeIfCurrent nodeId _ | .disconnectNodeWithStatus nodeId _
  | .disconnectNodeWithStatusIfCurrent nodeId _ _ => some nodeId
  | _ => none

end RelayOp

/-- The checks that every frame passes before it is stored. -/
def PeerState.takes (state : PeerState) (target : String) (frame : RelayFrame) : Bool :=
  frame.hasExactlyOneRelayPayload ∧ frame.key ≠ "" ∧ (target, frame.key) ∉ state.frameDestinations ∧
    (target, frame.key) ∉ state.acknowledgedFrames ∧ state.frameDestinations.card < maxTrackedFrames ∧
    (state.mailbox target).length < maxTrackedFrames

/-- The checks of each call that brings a frame. -/
def PeerState.passes (state : PeerState) : RelayOp → Bool
  | .routeFrame target frame | .routeFrameWaitingForAck target frame =>
    frame.hasExactlyOneGenericPayload && state.takes target frame
  | .routeControl kind target frame =>
    typedDirectControlTargetMatchesFrameDestination target frame && kind.fits frame && state.takes target frame
  | .publishTaskFrame source destination taskId _ routedTask frame receipt =>
    isExactTaskFrame frame routedTask ∧ state.publishedTasks.find (source, destination, taskId) = none ∧
      (destination, receipt.frameId) ∉ state.frameDestinations ∧
      (destination, receipt.frameId) ∉ state.acknowledgedFrames ∧ trim receipt.frameId ≠ "" ∧
      (makeRoomForTask state.acknowledgedPublishedTaskOrder state).1 ∧ state.takes destination frame
  | _ => false

/-- The frame that a call brings in, where it is accepted. -/
def PeerState.admits (state : PeerState) (op : RelayOp) : Option (String × RelayFrame) :=
  if state.passes op then op.carries else none

/-- The state that a frame comes into: a task is put on record first. -/
def PeerState.booked (state : PeerState) : RelayOp → PeerState
  | .publishTaskFrame source destination taskId identityTask _ _ receipt =>
    recordPublishedTask (source, destination, taskId) identityTask receipt
      (makeRoomForTask state.acknowledgedPublishedTaskOrder state).2
  | _ => state

/-- Only what is remembered of published tasks differs, and how many tasks were routed. -/
def Rebooked (before after : PeerState) : Prop :=
  ∃ publishedTasks publishedFrameIndex acknowledgedPublishedTaskOrder tasksRouted, after = { before with
    publishedTasks
    publishedFrameIndex
    acknowledgedPublishedTaskOrder
    tasksRouted }

inductive Pushed (target : String) (frame : RelayFrame) (connected : ConnectedNode) (before after : PeerState) : Prop
  | sent (stream : Channel (Except Status RelayFrame))
      (taken : (before.streams connected.sender).trySend (.ok frame) = .ok stream)
      (kept : after.connectedNodes = before.connectedNodes)
      (streams : after.streams = Function.update before.streams connected.sender stream)
  | full (refused : (before.streams connected.sender).trySend (.ok frame) = .error .full)
      (kept : after.connectedNodes = before.connectedNodes) (streams : after.streams = before.streams)
  | closed (refused : (before.streams connected.sender).trySend (.ok frame) = .error .closed)
      (dropped : after.connectedNodes = before.connectedNodes.keep (fun row => row.1 ≠ target))
      (streams : after.streams = before.streams)

/-- A frame arrives: it is stored, and pushed to its node if that is connected. -/
structure Arrives (target : String) (frame : RelayFrame) (before after : PeerState) : Prop where
  mailbox : after.mailbox = Function.update before.mailbox target (before.mailbox target ++ [frame])
  count : after.streamCount = before.streamCount
  offline : before.connectedNodes.find target = none →
    after.connectedNodes = before.connectedNodes ∧ after.streams = before.streams
  online : ∀ connected, before.connectedNodes.find target = some (target, connected) →
    Pushed target frame connected before after

structure Holdings where
  mailbox : String → List RelayFrame
  owned : Finset FrameKey
  acknowledged : Finset FrameKey
  control : ControlKind → HashMap FrameKey Nat

def PeerState.holdings (state : PeerState) : Holdings :=
  ⟨state.mailbox, state.frameDestinations, state.acknowledgedFrames, state.controlWaiters⟩

namespace Holdings

/-- The frame of a key is gone, with its ownership and the waiters that are left out of the new ones. -/
def release (holdings : Holdings) (key : FrameKey) (control : ControlKind → HashMap FrameKey Nat) : Holdings :=
  { holdings with
    mailbox := Function.update holdings.mailbox key.1 ((holdings.mailbox key.1).filter (·.key ≠ key.2))
    owned := holdings.owned.erase key
    control }

def withoutWaiter (holdings : Holdings) (kind : ControlKind) (key : FrameKey) : ControlKind → HashMap FrameKey Nat :=
  Function.update holdings.control kind ((holdings.control kind).keep (fun row => row.1 ≠ key))

def fleetKeys (holdings : Holdings) (node : String) : List FrameKey :=
  ((holdings.control .fleetObservation).rows.map Prod.fst).filter (·.1 = node)

end Holdings

/-- The calls that leave somebody waiting for their frame. -/
def RelayOp.awaiting : Option ControlKind → String → RelayFrame → RelayOp
  | none, target, frame => .routeFrameWaitingForAck target frame
  | some kind, target, frame => .routeControl kind target frame

def routeAwaited : Option ControlKind → String → RelayFrame → PeerState → (FrameDelivery × Option Nat) × PeerState
  | none => routeFrameWaitingForAck
  | some kind => routeControlWaitingForCompletion kind

section
variable {state after : PeerState} {target : String} {frame : RelayFrame}

theorem mailbox_put (state : PeerState) (node : String) (frames : List RelayFrame) :
    ({ state with mailboxes := state.mailboxes.put (node, frames) } : PeerState).mailbox =
      Function.update state.mailbox node frames := by
  funext other
  show (((state.mailboxes.put (node, frames)).find other).map (·.2)).getD [] = _
  rw [Table.find_put]
  by_cases same : other = node
  · subst same
    rw [if_pos rfl, Function.update_self]
    rfl
  · rw [if_neg same, Function.update_of_ne same]
    rfl

theorem mailbox_update (state : PeerState) (node : String) (change : List RelayFrame → List RelayFrame)
    (nothing : change [] = []) :
    ({ state with mailboxes := state.mailboxes.update node (fun row => (row.1, change row.2)) fun _ => rfl } :
      PeerState).mailbox = Function.update state.mailbox node (change (state.mailbox node)) := by
  funext other
  show (((state.mailboxes.update node (fun row => (row.1, change row.2)) fun _ => rfl).find other).map (·.2)).getD [] = _
  rw [Table.find_update]
  by_cases same : other = node
  · subst same
    rw [if_pos rfl, Function.update_self]
    unfold PeerState.mailbox
    cases state.mailboxes.find other with
    | none => exact nothing.symm
    | some row => rfl
  · rw [if_neg same, Function.update_of_ne same]
    rfl

theorem mailbox_retainMailbox (state : PeerState) (node : String) (condition : RelayFrame → Bool) :
    (state.retainMailbox node condition).mailbox =
      Function.update state.mailbox node ((state.mailbox node).filter condition) :=
  mailbox_update state node (List.filter condition) rfl

theorem sent_update {streams : Nat → Channel (Except Status RelayFrame)} {sender : Nat}
    {stream : Channel (Except Status RelayFrame)} {new : Except Status RelayFrame → Prop}
    (grows : ∀ item ∈ stream.sent, item ∈ (streams sender).sent ∨ new item) (number : Nat)
    (item : Except Status RelayFrame) (member : item ∈ (Function.update streams sender stream number).sent) :
    item ∈ (streams number).sent ∨ new item := by
  by_cases same : number = sender
  · subst same
    rw [Function.update_self] at member
    exact grows item member
  · rw [Function.update_of_ne same] at member
    exact .inl member

theorem sent_trySend {item : Except Status RelayFrame} {channel stream : Channel (Except Status RelayFrame)}
    (success : channel.trySend item = .ok stream) : ∀ other ∈ stream.sent, other ∈ channel.sent ∨ other = item := by
  intro other member
  rw [Channel.trySend_ok success] at member
  rcases List.mem_append.mp member with earlier | new
  · exact .inl earlier
  · exact .inr (List.mem_singleton.mp new)

/-- The frame is accepted: it is new, there is room, and it is stored and at most sent on. -/
structure Routed (target : String) (frame : RelayFrame) (before after : PeerState) : Prop where
  payload : frame.hasExactlyOneRelayPayload = true
  named : frame.key ≠ ""
  unowned : (target, frame.key) ∉ before.frameDestinations
  unacknowledged : (target, frame.key) ∉ before.acknowledgedFrames
  tracked : before.frameDestinations.card < maxTrackedFrames
  room : (before.mailbox target).length < maxTrackedFrames
  stored : ∃ connectedNodes streams, after = { before with
    frameDestinations := insert (target, frame.key) before.frameDestinations
    registered := insert target before.registered
    mailboxes := before.mailboxes.put (target, before.mailbox target ++ [frame])
    connectedNodes
    streams } ∧
    ∀ stream item, item ∈ (streams stream).sent → item ∈ (before.streams stream).sent ∨ item = .ok frame

theorem routeFrameLocked_cases (target : String) (frame : RelayFrame) (state : PeerState) :
    ((routeFrameLocked target frame state).1.isRouted = false ∧ (routeFrameLocked target frame state).2 = state) ∨
      ((routeFrameLocked target frame state).1.isRouted = true ∧
        Routed target frame state (routeFrameLocked target frame state).2 ∧
        Arrives target frame state (routeFrameLocked target frame state).2) := by
  unfold routeFrameLocked
  split
  · exact .inl ⟨rfl, rfl⟩
  rename_i payload
  split
  · exact .inl ⟨rfl, rfl⟩
  rename_i named
  split
  · exact .inl ⟨rfl, rfl⟩
  rename_i fresh
  split
  · exact .inl ⟨rfl, rfl⟩
  rename_i fits
  obtain ⟨unowned, unacknowledged⟩ := not_or.mp fresh
  obtain ⟨tracked, room⟩ := not_or.mp fits
  have routed : ∀ connectedNodes (streams : Nat → Channel (Except Status RelayFrame)),
      (∀ stream item, item ∈ (streams stream).sent → item ∈ (state.streams stream).sent ∨ item = .ok frame) →
      Routed target frame state { state with
        frameDestinations := insert (target, frame.key) state.frameDestinations
        registered := insert target state.registered
        mailboxes := state.mailboxes.put (target, state.mailbox target ++ [frame])
        connectedNodes
        streams } := by
    intro connectedNodes streams sent
    have valid : frame.hasExactlyOneRelayPayload = true := by
      rw [Bool.not_eq_true, Bool.not_eq_false'] at payload
      exact payload
    exact ⟨valid, named, unowned, unacknowledged, Nat.lt_of_not_le tracked, Nat.lt_of_not_le room,
      connectedNodes, streams, rfl, sent⟩
  have stored := mailbox_put state target (state.mailbox target ++ [frame])
  refine .inr ?_
  simp only
  cases found : state.connectedNodes.find target with
  | none =>
    refine ⟨rfl, routed state.connectedNodes state.streams fun _ _ => .inl, stored, rfl, fun _ => ⟨rfl, rfl⟩, ?_⟩
    intro connected present
    rw [found] at present
    cases present
  | some row =>
    obtain ⟨own, connected⟩ := row
    have arrives : ∀ {after : PeerState},
        after.mailbox = Function.update state.mailbox target (state.mailbox target ++ [frame]) →
        after.streamCount = state.streamCount → Pushed target frame connected state after →
        Arrives target frame state after := by
      intro after stored count pushed
      refine ⟨stored, count, ?_, ?_⟩
      · rw [found]
        rintro ⟨⟩
      · rw [found]
        intro other present
        cases present
        exact pushed
    simp only
    split
    · rename_i stream success
      exact ⟨rfl, routed state.connectedNodes _ (sent_update (sent_trySend success)),
        arrives stored rfl (.sent stream success rfl rfl)⟩
    · rename_i refused
      exact ⟨rfl, routed state.connectedNodes state.streams fun _ _ => .inl,
        arrives stored rfl (.full refused rfl rfl)⟩
    · rename_i refused
      exact ⟨rfl, routed _ state.streams fun _ _ => .inl, arrives stored rfl (.closed refused rfl rfl)⟩

theorem routeFrameLocked_isRouted (target : String) (frame : RelayFrame) (state : PeerState) :
    (routeFrameLocked target frame state).1.isRouted = state.takes target frame := by
  unfold routeFrameLocked PeerState.takes
  split_ifs with payload named known full
  all_goals grind [FrameDelivery.isRouted]

/-- A call has brought its frame in, and whoever waits for the frame is in place. -/
structure Admitted (op : RelayOp) (target : String) (frame : RelayFrame) (state after : PeerState) : Prop where
  suits : op.suits frame = true
  routed : ∃ routed tasksRouted, Routed target frame (state.booked op) routed ∧
    Arrives target frame (state.booked op) routed ∧
    after = { routed.await (target, frame.key) op.awaits with tasksRouted }

/-- What is left of a node's connection: all of it, if the call means another, or nothing. -/
inductive Disconnected (node : String) (state : PeerState) : PeerState → Prop
  | kept : Disconnected node state state
  | dropped : Disconnected node state (dropConnection node state)
  | told (connected : ConnectedNode) (status : Status) (stream : Channel (Except Status RelayFrame))
      (found : state.connectedNodes.find node = some (node, connected))
      (sent : (state.streams connected.sender).trySend (.error status) = .ok stream) :
      Disconnected node state
        { dropConnection node state with streams := Function.update state.streams connected.sender stream }

theorem Rebooked.refl (state : PeerState) : Rebooked state state := ⟨_, _, _, _, rfl⟩

theorem Rebooked.trans {middle : PeerState} (first : Rebooked state middle) (second : Rebooked middle after) :
    Rebooked state after := by
  obtain ⟨_, _, _, _, rfl⟩ := first
  obtain ⟨_, _, _, _, rfl⟩ := second
  exact ⟨_, _, _, _, rfl⟩

theorem Rebooked.takes (rebooked : Rebooked state after) (target : String) (frame : RelayFrame) :
    after.takes target frame = state.takes target frame := by
  obtain ⟨_, _, _, _, rfl⟩ := rebooked
  rfl

theorem Rebooked.holdings (rebooked : Rebooked state after) : after.holdings = state.holdings := by
  obtain ⟨_, _, _, _, rfl⟩ := rebooked
  rfl

theorem expirePublishedTask_rebooked (expired : TaskPublishKey) (state : PeerState) :
    Rebooked state (expirePublishedTask expired state) := by
  unfold expirePublishedTask
  split
  · exact .refl state
  · exact ⟨_, _, _, _, rfl⟩

theorem makeRoomForTask_rebooked (order : List TaskPublishKey) (state : PeerState) :
    Rebooked state (makeRoomForTask order state).2 := by
  induction order generalizing state with
  | nil =>
    unfold makeRoomForTask
    split
    · exact ⟨_, _, _, _, rfl⟩
    · exact ⟨_, _, _, _, rfl⟩
  | cons expired order ih =>
    unfold makeRoomForTask
    split
    · exact ⟨_, _, _, _, rfl⟩
    · exact (expirePublishedTask_rebooked expired state).trans (ih _)

theorem booked_rebooked (op : RelayOp) (state : PeerState) : Rebooked state (state.booked op) := by
  cases op with
  | publishTaskFrame source destination taskId identityTask routedTask frame receipt =>
    exact (makeRoomForTask_rebooked _ state).trans ⟨_, _, _, _, rfl⟩
  | _ => exact .refl state

variable {op : RelayOp}

theorem booked_unregistered (unregistered : op.registers = none) : state.booked op = state := by
  cases op <;> first | rfl | cases unregistered

theorem unregistered_of_awaits {kind : Option ControlKind} (awaited : op.awaits = some kind) : op.registers = none := by
  cases op <;> first | rfl | cases awaited

theorem markPublishedTaskAcknowledged_rebooked (key : FrameKey) (state : PeerState) :
    Rebooked state (markPublishedTaskAcknowledged key state) := by
  unfold markPublishedTaskAcknowledged
  iterate 3
    split
    · exact .refl state
  · exact ⟨_, _, _, _, rfl⟩

theorem classifyPublishedTask_rebooked (source destination taskId : String) (task : TaskEnvelope)
    (receipt : PublishedTaskReceipt) (state : PeerState) :
    Rebooked state (classifyPublishedTask source destination taskId task receipt state).2 := by
  have room := makeRoomForTask_rebooked state.acknowledgedPublishedTaskOrder state
  unfold classifyPublishedTask
  simp only
  split
  · split
    · exact .refl state
    · exact .refl state
  split
  · rename_i cleared full
    rw [full] at room
    exact room
  · rename_i cleared fits
    rw [fits] at room
    exact room.trans ⟨_, _, _, _, rfl⟩

theorem forgetPublishedTask_rebooked (source destination taskId frameId : String) (state : PeerState) :
    Rebooked state (forgetPublishedTask source destination taskId frameId state) := by
  unfold forgetPublishedTask
  simp only
  split
  · exact ⟨_, _, _, _, rfl⟩
  · exact .refl state

theorem publishTaskFrame_cases (source destination taskId : String) (identityTask routedTask : TaskEnvelope)
    (frame : RelayFrame) (receipt : PublishedTaskReceipt) (state : PeerState) :
    state.passes (.publishTaskFrame source destination taskId identityTask routedTask frame receipt) = false ∧
        ((publishTaskFrame source destination taskId identityTask routedTask frame receipt state).2 = state ∨
          makeRoomForTask state.acknowledgedPublishedTaskOrder state =
            (false, (publishTaskFrame source destination taskId identityTask routedTask frame receipt state).2)) ∨
      frame.task.isSome = true ∧
        state.passes (.publishTaskFrame source destination taskId identityTask routedTask frame receipt) =
          state.takes destination frame ∧
        (receipt.frameId = frame.key → frame.key ≠ "" → state.takes destination frame = true) ∧
        publishTaskFrame source destination taskId identityTask routedTask frame receipt state =
          (let routed := routeFrameLocked destination frame (state.booked
            (.publishTaskFrame source destination taskId identityTask routedTask frame receipt))
          (.new receipt routed.1, { routed.2 with tasksRouted := routed.2.tasksRouted + 1 })) := by
  unfold publishTaskFrame PeerState.passes
  simp only
  split
  · rename_i inexact
    exact .inl ⟨by grind, .inl rfl⟩
  rename_i exactly
  split
  · rename_i found
    exact .inl ⟨by grind, by split <;> exact .inl rfl⟩
  rename_i fresh
  split
  · rename_i refused
    exact .inl ⟨by grind [PeerState.takes], .inl rfl⟩
  rename_i free
  split
  · rename_i cleared full
    exact .inl ⟨by grind, .inr full⟩
  · rename_i cleared fits
    simp only [isExactTaskFrame, Bool.not_eq_true, Bool.not_eq_false', Bool.and_eq_true] at exactly
    obtain ⟨carried, task, _⟩ := (Option.any_eq_true _ _).mp exactly.2
    refine .inr ⟨Option.isSome_of_mem task, by grind [isExactTaskFrame], by grind [PeerState.takes], ?_⟩
    rw [PeerState.booked, fits]

theorem Routed.leaves (routed : Routed target frame state after) :
    after.acknowledgedFrameOrder = state.acknowledgedFrameOrder ∧ after.frameAckWaiters = state.frameAckWaiters ∧
      after.controlWaiters = state.controlWaiters ∧ after.acknowledgements = state.acknowledgements ∧
      after.completions = state.completions := by
  obtain ⟨_, _, rfl, _⟩ := routed.stored
  exact ⟨rfl, rfl, rfl, rfl, rfl⟩

theorem awaiting_carries (kind : Option ControlKind) :
    (RelayOp.awaiting kind target frame).carries = some (target, frame) ∧
      (RelayOp.awaiting kind target frame).awaits = some kind := by
  cases kind <;> exact ⟨rfl, rfl⟩

theorem step_awaiting (kind : Option ControlKind) :
    step state (.awaiting kind target frame) = (routeAwaited kind target frame state).2 := by
  cases kind <;> rfl

theorem routeAwaited_cases (kind : Option ControlKind) (target : String) (frame : RelayFrame) (state : PeerState) :
    state.admits (.awaiting kind target frame) = none ∧ (routeAwaited kind target frame state).1.1.isRouted = false ∧
        (routeAwaited kind target frame state).1.2 = none ∧ step state (.awaiting kind target frame) = state ∨
      state.admits (.awaiting kind target frame) = some (target, frame) ∧
        (routeAwaited kind target frame state).1.2 = some (state.opened kind) ∧
        Admitted (.awaiting kind target frame) target frame state (step state (.awaiting kind target frame)) := by
  cases kind with
  | none =>
    simp only [routeAwaited, RelayOp.awaiting, PeerState.admits, PeerState.passes, step, routeFrameWaitingForAck,
      ← routeFrameLocked_isRouted]
    cases payload : frame.hasExactlyOneGenericPayload with
    | false => exact .inl ⟨rfl, rfl, rfl, rfl⟩
    | true =>
      rcases routeFrameLocked_cases target frame state with ⟨refused, unchanged⟩ | ⟨accepted, routed, arrives⟩
      · simp only [refused, unchanged]
        exact .inl ⟨rfl, refused, rfl, rfl⟩
      · simp only [accepted]
        obtain ⟨_, _, _, acknowledgements, _⟩ := routed.leaves
        exact .inr ⟨rfl, congrArg (fun oneshots : Oneshots _ => some oneshots.created) acknowledgements,
          ((Bool.and_eq_true _ _).mp payload).2, _, _, routed, arrives, rfl⟩
  | some kind =>
    simp only [routeAwaited, RelayOp.awaiting, PeerState.admits, PeerState.passes, step,
      routeControlWaitingForCompletion, ← Bool.not_and, ← routeFrameLocked_isRouted]
    cases meets : typedDirectControlTargetMatchesFrameDestination target frame && kind.fits frame with
    | false => exact .inl ⟨rfl, rfl, rfl, rfl⟩
    | true =>
      rcases routeFrameLocked_cases target frame state with ⟨refused, unchanged⟩ | ⟨accepted, routed, arrives⟩
      · simp only [refused, unchanged]
        exact .inl ⟨rfl, refused, rfl, rfl⟩
      · simp only [accepted]
        obtain ⟨_, _, _, _, completions⟩ := routed.leaves
        exact .inr ⟨rfl, congrArg (fun oneshots : Oneshots _ => some oneshots.created) completions,
          ((Bool.and_eq_true _ _).mp meets).2, _, _, routed, arrives, rfl⟩

theorem awaiting_routes (kind : Option ControlKind) (target : String) (frame : RelayFrame) (state : PeerState) :
    let op := RelayOp.awaiting kind target frame
    state.admits op = none ∧ Rebooked state (step state op) ∧ (op.registers = none → step state op = state) ∨
      state.admits op = some (target, frame) ∧ Admitted op target frame state (step state op) := by
  rcases routeAwaited_cases kind target frame state with ⟨refused, _, _, unchanged⟩ | ⟨admits, _, admitted⟩
  · refine .inl ⟨refused, ?_, fun _ => unchanged⟩
    rw [unchanged]
    exact .refl state
  · exact .inr ⟨admits, admitted⟩

theorem step_routes (carries : op.carries = some (target, frame)) (state : PeerState) :
    state.admits op = none ∧ Rebooked state (step state op) ∧ (op.registers = none → step state op = state) ∨
      state.admits op = some (target, frame) ∧ Admitted op target frame state (step state op) := by
  cases op with
  | routeFrame target frame =>
    cases carries
    simp only [PeerState.admits, PeerState.passes, step, routeFrame, ← routeFrameLocked_isRouted]
    cases payload : frame.hasExactlyOneGenericPayload with
    | false => exact .inl ⟨rfl, .refl state, fun _ => rfl⟩
    | true =>
      rcases routeFrameLocked_cases target frame state with ⟨refused, unchanged⟩ | ⟨accepted, routed, arrives⟩
      · simp only [countRouted, refused, unchanged]
        exact .inl ⟨rfl, .refl state, fun _ => rfl⟩
      · simp only [countRouted, accepted]
        exact .inr ⟨rfl, ((Bool.and_eq_true _ _).mp payload).2, _, _, routed, arrives, rfl⟩
  | routeFrameWaitingForAck target frame =>
    cases carries
    exact awaiting_routes none target frame state
  | routeControl kind target frame =>
    cases carries
    exact awaiting_routes (some kind) target frame state
  | publishTaskFrame source destination taskId identityTask routedTask frame receipt =>
    cases carries
    have booked := booked_rebooked (.publishTaskFrame source target taskId identityTask routedTask frame receipt) state
    have same := booked.takes target frame
    simp only [PeerState.admits, step]
    rcases publishTaskFrame_cases source target taskId identityTask routedTask frame receipt state with
      ⟨refused, unchanged | cleared⟩ | ⟨task, passes, _, published⟩
    · rw [refused, unchanged]
      exact .inl ⟨rfl, .refl state, nofun⟩
    · have room := makeRoomForTask_rebooked state.acknowledgedPublishedTaskOrder state
      rw [cleared] at room
      rw [refused]
      exact .inl ⟨rfl, room, nofun⟩
    · rw [published, passes, ← same, ← routeFrameLocked_isRouted]
      rcases routeFrameLocked_cases target frame (state.booked
          (.publishTaskFrame source target taskId identityTask routedTask frame receipt)) with
        ⟨refused, unchanged⟩ | ⟨accepted, routed, arrives⟩
      · simp only [refused, unchanged]
        exact .inl ⟨rfl, booked.trans ⟨_, _, _, _, rfl⟩, nofun⟩
      · simp only [accepted]
        have suits : isGeneric frame = true := by rw [isGeneric, task, Bool.true_or]
        exact .inr ⟨rfl, suits, _, _, routed, arrives, rfl⟩
  | _ => cases carries

theorem step_disconnected {node : String} (disconnects : op.disconnects = some node) (state : PeerState) :
    Disconnected node state (step state op) := by
  have told : ∀ (connected : ConnectedNode) (status : Status),
      state.connectedNodes.find node = some (node, connected) →
      Disconnected node state (sendStatus connected.sender status (dropConnection node state)) := by
    intro connected status found
    unfold sendStatus
    split
    · rename_i stream sent
      exact .told connected status stream found sent
    · exact .dropped
  cases op with
  | disconnectNode nodeId =>
    cases disconnects
    simp only [step, disconnectNode]
    split
    · exact .dropped
    · exact .kept
  | disconnectNodeIfCurrent nodeId generation =>
    cases disconnects
    simp only [step, disconnectNodeIfCurrent]
    split
    · exact .dropped
    · exact .kept
  | disconnectNodeWithStatus nodeId status =>
    cases disconnects
    simp only [step, disconnectNodeWithStatus]
    split
    · rename_i own connected found
      obtain rfl : own = node := Table.find_key found
      exact told connected status found
    · exact .kept
  | disconnectNodeWithStatusIfCurrent nodeId generation status =>
    cases disconnects
    simp only [step, disconnectNodeWithStatusIfCurrent]
    split
    · rename_i own connected found
      obtain rfl : own = node := Table.find_key found
      split
      · exact told connected status found
      · exact .kept
    · exact .kept
  | _ => cases disconnects

theorem Routed.holdings_eq (routed : Routed target frame state after) :
    after.holdings =
      { mailbox := Function.update state.mailbox target (state.mailbox target ++ [frame])
        owned := insert (target, frame.key) state.frameDestinations
        acknowledged := state.acknowledgedFrames
        control := state.controlWaiters } := by
  obtain ⟨connectedNodes, streams, rfl, _⟩ := routed.stored
  rw [← mailbox_put]
  rfl

/-- A frame that was accepted is in its place, and so is whoever waits for it. -/
structure Placed (op : RelayOp) (target : String) (frame : RelayFrame) (before after : PeerState) : Prop where
  suits : op.suits frame = true
  payload : frame.hasExactlyOneRelayPayload = true
  named : frame.key ≠ ""
  unowned : (target, frame.key) ∉ before.frameDestinations
  unacknowledged : (target, frame.key) ∉ before.acknowledgedFrames
  tracked : before.frameDestinations.card < maxTrackedFrames
  room : (before.mailbox target).length < maxTrackedFrames
  mailbox : after.mailbox = Function.update before.mailbox target (before.mailbox target ++ [frame])
  owned : after.frameDestinations = insert (target, frame.key) before.frameDestinations
  acknowledged : after.acknowledgedFrames = before.acknowledgedFrames
  ackOrder : after.acknowledgedFrameOrder = before.acknowledgedFrameOrder
  waiters : ∀ kind, after.waiters kind = if op.awaits = some kind then
    (before.waiters kind).put ((target, frame.key), before.opened kind) else before.waiters kind
  opened : ∀ kind, after.opened kind =
    if op.awaits.map Option.isSome = some kind.isSome then before.opened kind + 1 else before.opened kind
  acknowledgements : after.acknowledgements.delivered = before.acknowledgements.delivered
  completions : after.completions.delivered = before.completions.delivered

theorem PeerState.opened_eq (acknowledgements : after.acknowledgements = state.acknowledgements)
    (completions : after.completions = state.completions) (kind : Option ControlKind) :
    after.opened kind = state.opened kind := by
  cases kind with
  | none => exact congrArg Oneshots.created acknowledgements
  | some kind => exact congrArg Oneshots.created completions

theorem await_waiters (state : PeerState) (key : FrameKey) (awaits : Option (Option ControlKind))
    (kind : Option ControlKind) :
    (state.await key awaits).waiters kind =
      if awaits = some kind then (state.waiters kind).put (key, state.opened kind) else state.waiters kind := by
  rcases awaits with _ | _ | control
  · rfl
  · cases kind <;> rfl
  · cases kind with
    | none => rfl
    | some kind =>
      show Function.update state.controlWaiters control _ kind = _
      by_cases same : control = kind
      · subst same
        rw [Function.update_self, if_pos rfl]
        rfl
      · rw [Function.update_of_ne (fun equal => same equal.symm), if_neg]
        · rfl
        · intro equal
          exact same (Option.some.inj (Option.some.inj equal))

theorem Admitted.places (admitted : Admitted op target frame state after) : Placed op target frame state after := by
  have suits := admitted.suits
  obtain ⟨routed, count, accepted, _, rfl⟩ := admitted.routed
  obtain ⟨ackOrder, ackWaiters, controlWaiters, acknowledgements, completions⟩ := accepted.leaves
  have held := accepted.holdings_eq
  obtain ⟨payload, named, unowned, unacknowledged, tracked, room, _⟩ := accepted
  obtain ⟨_, _, _, _, booked⟩ := booked_rebooked op state
  have waiters : ∀ kind, routed.waiters kind = state.waiters kind := by
    intro kind
    rw [booked] at ackWaiters controlWaiters
    cases kind with
    | none => exact ackWaiters
    | some kind => exact congrFun controlWaiters kind
  rw [booked] at held unowned unacknowledged tracked room ackOrder acknowledgements completions
  have opened : ∀ kind, routed.opened kind = state.opened kind := PeerState.opened_eq acknowledgements completions
  refine ⟨suits, payload, named, unowned, unacknowledged, tracked, room, ?_, ?_, ?_, ?_, ?_, ?_, ?_, ?_⟩
  · refine Eq.trans ?_ (congrArg Holdings.mailbox held)
    rcases op.awaits with _ | _ | _ <;> rfl
  · refine Eq.trans ?_ (congrArg Holdings.owned held)
    rcases op.awaits with _ | _ | _ <;> rfl
  · refine Eq.trans ?_ (congrArg Holdings.acknowledged held)
    rcases op.awaits with _ | _ | _ <;> rfl
  · refine Eq.trans ?_ ackOrder
    rcases op.awaits with _ | _ | _ <;> rfl
  · intro kind
    rw [← waiters, ← opened]
    exact await_waiters routed (target, frame.key) op.awaits kind
  · intro kind
    rw [← opened]
    rcases op.awaits with _ | _ | _ <;> cases kind <;> rfl
  · refine Eq.trans ?_ (congrArg Oneshots.delivered acknowledgements)
    rcases op.awaits with _ | _ | _ <;> rfl
  · refine Eq.trans ?_ (congrArg Oneshots.delivered completions)
    rcases op.awaits with _ | _ | _ <;> rfl

theorem routeAwaited_places {kind : Option ControlKind} {waiter : Nat}
    (installed : (routeAwaited kind target frame state).1.2 = some waiter) :
    waiter = state.opened kind ∧
      ((routeAwaited kind target frame state).2.waiters kind).find (target, frame.key) =
        some ((target, frame.key), waiter) := by
  obtain ⟨_, awaited⟩ := @awaiting_carries target frame kind
  rcases routeAwaited_cases kind target frame state with ⟨_, _, none, _⟩ | ⟨_, receiver, admitted⟩
  · rw [none] at installed
    cases installed
  rw [receiver] at installed
  cases installed
  rw [← step_awaiting, admitted.places.waiters, if_pos awaited]
  exact ⟨rfl, Table.find_put_self _ ((target, frame.key), _)⟩

theorem settleAckWaiter_settles (key : FrameKey) (state : PeerState) :
    ∃ frameAckWaiters acknowledgements, settleAckWaiter key state = { state with frameAckWaiters, acknowledgements } := by
  unfold settleAckWaiter
  split
  · exact ⟨_, _, rfl⟩
  · exact ⟨_, _, rfl⟩

theorem holdings_registerNode (node : String) (state : PeerState) :
    (registerNode node state).holdings = state.holdings := by
  unfold registerNode
  cases found : state.mailboxes.find node with
  | some row => rfl
  | none =>
    have empty : state.mailbox node = [] := by
      unfold PeerState.mailbox
      rw [found]
      rfl
    have mailbox := mailbox_put state node []
    rw [← empty, Function.update_eq_self] at mailbox
    unfold PeerState.holdings
    simp only [Option.isSome_none, Bool.false_eq_true, if_false, Holdings.mk.injEq, and_true]
    rw [← empty]
    exact mailbox

theorem expireAcknowledgements_subset (order : List FrameKey) (acknowledged : Finset FrameKey) :
    (expireAcknowledgements order acknowledged).2 ⊆ acknowledged := by
  induction order generalizing acknowledged with
  | nil => exact Finset.Subset.refl _
  | cons expired order ih =>
    unfold expireAcknowledgements
    split
    · exact (ih _).trans (Finset.erase_subset _ _)
    · exact Finset.Subset.refl _

def acknowledgeFrame (key : FrameKey) (state : PeerState) : PeerState :=
  markPublishedTaskAcknowledged key (settleAckWaiter key (rememberAcknowledgement key { state with
    frameDestinations := state.frameDestinations.erase key
    mailboxes := state.mailboxes.update key.1 (fun row => (row.1, row.2.eraseP (·.key = key.2))) fun _ => rfl }))

theorem acknowledgeFrame_holdings (key : FrameKey) (state : PeerState) :
    ∃ acknowledged, acknowledged ⊆ insert key state.acknowledgedFrames ∧
      (acknowledgeFrame key state).holdings =
        { mailbox := Function.update state.mailbox key.1 ((state.mailbox key.1).eraseP (·.key = key.2))
          owned := state.frameDestinations.erase key
          acknowledged
          control := state.controlWaiters } := by
  unfold acknowledgeFrame
  rw [(markPublishedTaskAcknowledged_rebooked _ _).holdings]
  obtain ⟨_, _, settled⟩ := settleAckWaiter_settles key (rememberAcknowledgement key { state with
    frameDestinations := state.frameDestinations.erase key
    mailboxes := state.mailboxes.update key.1 (fun row => (row.1, row.2.eraseP (·.key = key.2))) fun _ => rfl })
  have mailbox := mailbox_update state key.1 (List.eraseP (·.key = key.2)) rfl
  rw [settled, ← mailbox]
  exact ⟨_, expireAcknowledgements_subset _ _, rfl⟩

theorem ackFrame_cases (destination frameId : String) (state : PeerState) :
    (ackFrame destination frameId state).2 = state ∨
      ((∀ kind, (state.controlWaiters kind).find (trim destination, trim frameId) = none) ∧
        (trim destination, trim frameId) ∈ state.frameDestinations ∧
        ackFrame destination frameId state = (.accepted, acknowledgeFrame (trim destination, trim frameId) state)) := by
  unfold ackFrame
  simp only
  split
  · exact .inl rfl
  split
  · exact .inl rfl
  rename_i uncontrolled
  split
  · exact .inl rfl
  split
  · split
    · exact .inl rfl
    · exact .inl rfl
  rename_i owned
  refine .inr ⟨?_, not_not.mp owned, rfl⟩
  intro kind
  cases found : (state.controlWaiters kind).find (trim destination, trim frameId) with
  | none => rfl
  | some row =>
    refine absurd ⟨kind, ?_, Option.isSome_of_mem found⟩ uncontrolled
    cases kind <;> decide

theorem ackFrame_owned {destination frameId : String} (node : trim destination ≠ "") (named : trim frameId ≠ "")
    (free : ∀ kind, (state.controlWaiters kind).find (trim destination, trim frameId) = none)
    (fresh : (trim destination, trim frameId) ∉ state.acknowledgedFrames)
    (owned : (trim destination, trim frameId) ∈ state.frameDestinations) :
    ackFrame destination frameId state = (.accepted, acknowledgeFrame (trim destination, trim frameId) state) := by
  have unwaited : ¬ ∃ kind ∈ [ControlKind.bind, .challenge, .fleetObservation],
      ((state.controlWaiters kind).find (trim destination, trim frameId)).isSome := by
    intro waiting
    obtain ⟨kind, _, waits⟩ := waiting
    rw [free kind] at waits
    cases waits
  unfold ackFrame
  simp only
  rw [if_neg (not_or.mpr ⟨node, named⟩), if_neg unwaited, if_neg fresh, if_neg (not_not.mpr owned)]
  rfl

end

end Keryx.Relay
