import Keryx.Relay.Streams

/-! The generations of connections: whoever lost a stream does not take a later one down. -/

namespace Keryx.Relay
open Relational Concurrent
open Daemon (Status)

/-- The stream of a node is opened on a channel in whatever condition, or another call is made. -/
inductive ConnectionOp where
  | connect (nodeId : String) (channel : Channel (Except Status Proto.RelayFrame))
  | call (op : RelayOp)

def ConnectionOp.opens : ConnectionOp → Option (String × Channel (Except Status Proto.RelayFrame))
  | .connect nodeId channel => some (nodeId, channel)
  | .call (.connectNode nodeId) => some (nodeId, .create relayStreamBuffer)
  | .call _ => none

def connectOn (nodeId : String) (channel : Channel (Except Status Proto.RelayFrame)) (state : PeerState) :
    (Nat × UInt64) × PeerState :=
  connectNodeFenced nodeId state.streamCount
    { state with
      streams := Function.update state.streams state.streamCount channel
      streamCount := state.streamCount + 1 }

def connectionStep (state : PeerState) : ConnectionOp → PeerState
  | .connect nodeId channel => (connectOn nodeId channel state).2
  | .call op => step state op

/-- The generation that a call hands out. -/
def ConnectionOp.handsOut (state : PeerState) (op : ConnectionOp) : List UInt64 :=
  op.opens.toList.map fun opened => (connectOn opened.1 opened.2 state).1.2

/-- The generation of a connection counts the streams that were opened up to its own. -/
structure PeerState.Fenced (state : PeerState) : Prop where
  next : state.nextConnectionGeneration.toNat = state.streamCount
  current : ∀ node row, state.connectedNodes.find node = some row → row.2.generation.toNat = row.2.sender + 1

section
variable {state : PeerState} {op : ConnectionOp} {node : String} {channel : Channel (Except Status Proto.RelayFrame)}

theorem connectionStep_opens (opens : op.opens = some (node, channel)) :
    connectionStep state op = (connectOn node channel state).2 := by
  unfold ConnectionOp.opens at opens
  split at opens <;> cases opens <;> rfl

theorem routeFrameLocked_generation (target : String) (frame : Proto.RelayFrame) (state : PeerState) :
    (routeFrameLocked target frame state).2.nextConnectionGeneration = state.nextConnectionGeneration := by
  rcases routeFrameLocked_cases target frame state with ⟨_, unchanged⟩ | ⟨_, routed, _⟩
  · rw [unchanged]
  · obtain ⟨connectedNodes, streams, stored, _⟩ := routed.stored
    rw [stored]

theorem step_generation (op : RelayOp) (silent : ConnectionOp.opens (.call op) = none) :
    (step state op).nextConnectionGeneration = state.nextConnectionGeneration := by
  have routes := routeFrameLocked_generation
  have room : ∀ order state, (makeRoomForTask order state).2.nextConnectionGeneration = state.nextConnectionGeneration := by
    intro order state
    obtain ⟨_, _, _, _, cleared⟩ := makeRoomForTask_rebooked order state
    rw [cleared]
  cases op with
  | ackFrame destination frameId =>
    have answers := ackFrame_cases destination frameId state
    grind [step, acknowledgeFrame, markPublishedTaskAcknowledged, settleAckWaiter, rememberAcknowledgement]
  | _ =>
    grind [step, ConnectionOp.opens, registerNode, disconnectNode, disconnectNodeIfCurrent, disconnectNodeWithStatus,
      disconnectNodeWithStatusIfCurrent, dropConnection, abandonFleetObservationDestination, sendStatus,
      PeerState.retainMailbox, routeFrame, countRouted, routeFrameWaitingForAck, routeControlWaitingForCompletion,
      completeControl, PeerState.removeControlWaiter, abandonFrame, publishTaskFrame, recordPublishedTask,
      classifyPublishedTask, forgetPublishedTask, takeItem, closeStream]

theorem connectOn_cases (node : String) (channel : Channel (Except Status Proto.RelayFrame)) (fenced : state.Fenced)
    (few : state.streamCount + 1 < 2 ^ 64) :
    ∃ generation : UInt64, generation.toNat = state.streamCount + 1 ∧ (connectOn node channel state).1.2 = generation ∧
      (connectOn node channel state).2.nextConnectionGeneration = generation ∧
      (connectOn node channel state).2.streamCount = state.streamCount + 1 ∧
      ((connectOn node channel state).2.connectedNodes = state.connectedNodes ∨
        (connectOn node channel state).2.connectedNodes =
          state.connectedNodes.put (node, ⟨generation, state.streamCount⟩)) := by
  have number : (max (state.nextConnectionGeneration + 1) 1).toNat = state.streamCount + 1 := by
    have sum : (state.nextConnectionGeneration + 1).toNat = state.streamCount + 1 := by
      rw [UInt64.toNat_add, fenced.next]
      exact Nat.mod_eq_of_lt few
    show (if state.nextConnectionGeneration + 1 ≤ 1 then 1 else state.nextConnectionGeneration + 1).toNat = _
    split
    · rename_i least
      rw [UInt64.le_iff_toNat_le, sum] at least
      exact (Nat.le_antisymm least (Nat.le_add_left 1 _)).symm
    · exact sum
  refine ⟨_, number, rfl, rfl, rfl, ?_⟩
  unfold connectOn connectNodeFenced
  simp only
  split
  · exact .inr rfl
  · exact .inl rfl

theorem PeerState.Fenced.kept (fenced : state.Fenced) (op : ConnectionOp)
    (few : state.streamCount + op.opens.toList.length < 2 ^ 64) :
    (connectionStep state op).Fenced ∧
      (connectionStep state op).streamCount = state.streamCount + op.opens.toList.length := by
  cases opens : op.opens with
  | some opened =>
    obtain ⟨node, channel⟩ := opened
    rw [opens] at few
    obtain ⟨generation, number, _, next, count, connected⟩ := connectOn_cases node channel fenced few
    rw [connectionStep_opens opens]
    refine ⟨⟨by rw [next, count, number], ?_⟩, count⟩
    intro other row found
    rcases connected with same | attached
    · rw [same] at found
      exact fenced.current other row found
    · rw [attached] at found
      rw [Table.find_put] at found
      split at found
      · cases found
        exact number
      · exact fenced.current other row found
  | none =>
    cases op with
    | connect node channel => cases opens
    | call op =>
      have aside : (∀ node row, (step state op).connectedNodes.find node = some row →
          state.connectedNodes.find node = some row) ∧ (step state op).streamCount = state.streamCount := by
        rcases step_flows state op with ⟨node, rfl⟩ | flows
        · cases opens
        · cases admitted : state.admits op with
          | none =>
            rw [admitted] at flows
            exact ⟨Eased.connected flows, Eased.count flows⟩
          | some arrival =>
            rw [admitted] at flows
            exact ⟨fun _ _ => Arrives.connected flows, Arrives.count flows⟩
      refine ⟨⟨?_, fun node row found => fenced.current node row (aside.1 node row found)⟩, aside.2⟩
      show (step state op).nextConnectionGeneration.toNat = (step state op).streamCount
      rw [step_generation op opens, aside.2, fenced.next]

theorem handsOut_number (fenced : state.Fenced) (few : state.streamCount + op.opens.toList.length < 2 ^ 64) :
    (op.handsOut state).map UInt64.toNat = List.range' (1 + state.streamCount) op.opens.toList.length := by
  unfold ConnectionOp.handsOut
  cases opens : op.opens with
  | none => rfl
  | some opened =>
    rw [opens] at few
    obtain ⟨generation, number, given, _⟩ := connectOn_cases opened.1 opened.2 fenced few
    rw [Option.toList_some, List.map_singleton, List.map_singleton, given, number, Nat.add_comm]
    rfl

/-- The generations that were handed out count the streams. -/
structure HandedOut (ops : List ConnectionOp) (state : PeerState) : Prop where
  fenced : state.Fenced
  count : state.streamCount = (ops.filterMap ConnectionOp.opens).length
  numbers : (Run.collect connectionStep ConnectionOp.handsOut PeerState.empty ops).map UInt64.toNat =
    List.range' 1 state.streamCount

theorem run_handedOut (ops : List ConnectionOp) (few : (ops.filterMap ConnectionOp.opens).length < 2 ^ 64) :
    HandedOut ops (Run.run connectionStep PeerState.empty ops) := by
  apply Run.traced HandedOut
  · exact ⟨⟨rfl, nofun⟩, rfl, rfl⟩
  intro passed op earlier handed
  have length := filterMap_append_singleton ConnectionOp.opens passed op
  have fewer := (earlier.filterMap ConnectionOp.opens).length_le
  rw [length, List.length_append, ← handed.count] at fewer
  obtain ⟨fenced, count⟩ := handed.fenced.kept op (Nat.lt_of_le_of_lt fewer few)
  refine ⟨fenced, by rw [count, length, List.length_append, handed.count], ?_⟩
  rw [Run.collect_snoc, List.map_append, handed.numbers,
    handsOut_number handed.fenced (Nat.lt_of_le_of_lt fewer few), List.range'_append_1, count]

theorem stale_disconnect_unchanged {generation : UInt64} (status : Status)
    (stale : ∀ row, state.connectedNodes.find node = some row → row.2.generation ≠ generation) :
    disconnectNodeIfCurrent node generation state = state ∧
      disconnectNodeWithStatusIfCurrent node generation status state = state := by
  unfold disconnectNodeIfCurrent disconnectNodeWithStatusIfCurrent
  cases found : state.connectedNodes.find node with
  | none => exact ⟨rfl, rfl⟩
  | some row => exact ⟨if_neg (by simpa using stale row found), if_neg (stale row found)⟩

end

/-- Whoever opened a stream that is not the one its node is connected by changes nothing by a disconnect. -/
theorem stale_owner_changes_nothing (ops : List ConnectionOp)
    (few : (ops.filterMap ConnectionOp.opens).length < 2 ^ 64) :
    (Run.collect connectionStep ConnectionOp.handsOut PeerState.empty ops).Nodup ∧
      ∀ earlier op later node channel, ops = earlier ++ op :: later → op.opens = some (node, channel) →
        let opening := Run.run connectionStep PeerState.empty earlier
        let state := Run.run connectionStep PeerState.empty ops
        (∀ row, state.connectedNodes.find node = some row → row.2.sender ≠ opening.streamCount) →
        ∀ status,
          disconnectNodeIfCurrent node (connectOn node channel opening).1.2 state = state ∧
            disconnectNodeWithStatusIfCurrent node (connectOn node channel opening).1.2 status state = state := by
  have handed := run_handedOut ops few
  refine ⟨List.Nodup.of_map UInt64.toNat (by rw [handed.numbers]; exact List.nodup_range'), ?_⟩
  rintro earlier op later node channel rfl opens opening state replaced status
  rw [List.filterMap_append, List.filterMap_cons_some opens, List.length_append, List.length_cons] at few
  have before := run_handedOut earlier (by omega)
  obtain ⟨generation, number, given, _⟩ := connectOn_cases node channel before.fenced (by rw [before.count]; omega)
  apply stale_disconnect_unchanged
  intro row found same
  have current := handed.fenced.current node row found
  apply replaced row found
  rw [same, given, number] at current
  exact Nat.succ.inj current.symm

/-- A stream whose receiver is gone is not attached, and its owner does not take the older one down. -/
theorem closed_stream_owner_changes_nothing :
    let state := Run.run connectionStep PeerState.empty
      [.call (.connectNode "edge"), .call (.routeFrame "edge" resultFrame), .connect "edge" (Channel.create 1).close]
    state.connectedNodes.find "edge" = some ("edge", ⟨1, 0⟩) ∧ disconnectNodeIfCurrent "edge" 2 state = state := by
  have attached : (Run.run connectionStep PeerState.empty [.call (.connectNode "edge"),
      .call (.routeFrame "edge" resultFrame), .connect "edge" (Channel.create 1).close]).connectedNodes.find "edge" =
      some ("edge", ⟨1, 0⟩) := by decide
  refine ⟨attached, ((stale_owner_changes_nothing _ (by decide)).2
    [.call (.connectNode "edge"), .call (.routeFrame "edge" resultFrame)] (.connect "edge" (Channel.create 1).close) []
    "edge" (Channel.create 1).close rfl rfl ?_ ⟨.internal, ""⟩).1⟩
  intro row found
  cases attached.symm.trans found
  decide

end Keryx.Relay
