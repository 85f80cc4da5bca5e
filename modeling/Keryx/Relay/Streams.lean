import Keryx.Relay.Confinement

/-! What reaches the streams of the connected nodes. -/

namespace Keryx.Relay
open Keryx.Core Proto Relational Concurrent
open Daemon (Status)

/-- No frame arrives, and what is said on a stream is only why its node was disconnected. -/
structure Eased (before after : PeerState) : Prop where
  mailbox : ∀ node, (after.mailbox node).Sublist (before.mailbox node)
  connected : ∀ node row, after.connectedNodes.find node = some row → before.connectedNodes.find node = some row
  count : after.streamCount = before.streamCount
  streams : ∀ number, (after.streams number).sent = (before.streams number).sent ∨
    ∃ status node connected, before.connectedNodes.find node = some (node, connected) ∧ connected.sender = number ∧
      (after.streams number).sent = (before.streams number).sent ++ [.error status]

section
variable {state before after : PeerState} {target : String} {frame : RelayFrame}

theorem Eased.refl (state : PeerState) : Eased state state where
  mailbox := fun _ => .refl _
  connected := fun _ _ => id
  count := rfl
  streams := fun _ => .inl rfl

theorem Eased.aside (mailbox : ∀ node, (after.mailbox node).Sublist (before.mailbox node))
    (connected : after.connectedNodes = before.connectedNodes) (streams : after.streams = before.streams)
    (count : after.streamCount = before.streamCount) : Eased before after where
  mailbox := mailbox
  connected := by
    intro node row found
    rw [← connected]
    exact found
  count := count
  streams := fun number => .inl (by rw [streams])

theorem Eased.of_holdings (holdings : after.holdings = before.holdings)
    (connected : after.connectedNodes = before.connectedNodes) (streams : after.streams = before.streams)
    (count : after.streamCount = before.streamCount) : Eased before after := by
  apply Eased.aside _ connected streams count
  have same : after.mailbox = before.mailbox := congrArg Holdings.mailbox holdings
  rw [same]
  exact fun _ => .refl _

theorem retainMailbox_sublist (node : String) (condition : RelayFrame → Bool) (state : PeerState) (place : String) :
    ((state.retainMailbox node condition).mailbox place).Sublist (state.mailbox place) := by
  rw [mailbox_retainMailbox]
  exact update_sublist List.filter_sublist place

theorem dropConnection_eased (node : String) (state : PeerState) : Eased state (dropConnection node state) where
  mailbox := retainMailbox_sublist node _ _
  connected := fun _ _ found => (Table.find_keep_some.mp found).1
  count := rfl
  streams := fun _ => .inl rfl

variable {node : String}

theorem Disconnected.eased (disconnected : Disconnected node state after) : Eased state after := by
  have dropped := dropConnection_eased node state
  cases disconnected with
  | kept => exact .refl state
  | dropped => exact dropped
  | told connected status stream found sent =>
    refine ⟨dropped.mailbox, dropped.connected, dropped.count, ?_⟩
    intro number
    simp only
    by_cases same : number = connected.sender
    · subst same
      rw [Function.update_self, Channel.trySend_ok sent]
      exact .inr ⟨status, node, connected, found, rfl, rfl⟩
    · rw [Function.update_of_ne same]
      exact .inl rfl

theorem Rebooked.eased (rebooked : Rebooked state after) : Eased state after := by
  obtain ⟨_, _, _, _, rfl⟩ := rebooked
  exact .aside (fun _ => .refl _) rfl rfl rfl

theorem takeItem_eased (number : Nat) (state : PeerState) : Eased state (takeItem number state) where
  mailbox := fun _ => .refl _
  connected := fun _ _ => id
  count := rfl
  streams := by
    intro other
    left
    unfold takeItem
    simp only
    by_cases same : other = number
    · subst same
      rw [Function.update_self]
      unfold Channel.take
      split
      · rfl
      · rfl
    · rw [Function.update_of_ne same]

theorem closeStream_eased (number : Nat) (state : PeerState) : Eased state (closeStream number state) where
  mailbox := fun _ => .refl _
  connected := fun _ _ => id
  count := rfl
  streams := by
    intro other
    left
    unfold closeStream
    simp only
    by_cases same : other = number
    · subst same
      rw [Function.update_self]
      rfl
    · rw [Function.update_of_ne same]

theorem Arrives.congr {left right : PeerState} (arrives : Arrives target frame before after)
    (mailboxes : left.mailbox = before.mailbox) (connected : left.connectedNodes = before.connectedNodes)
    (streams : left.streams = before.streams) (count : left.streamCount = before.streamCount)
    (mailboxesAfter : right.mailbox = after.mailbox) (connectedAfter : right.connectedNodes = after.connectedNodes)
    (streamsAfter : right.streams = after.streams) (countAfter : right.streamCount = after.streamCount) :
    Arrives target frame left right where
  mailbox := by rw [mailboxesAfter, mailboxes, arrives.mailbox]
  count := by rw [countAfter, count, arrives.count]
  offline := by
    rw [connected, streams, connectedAfter, streamsAfter]
    exact arrives.offline
  online := by
    intro node found
    rw [connected] at found
    cases arrives.online node found with
    | sent stream taken kept sent =>
      refine .sent stream ?_ ?_ ?_
      · rw [streams]
        exact taken
      · rw [connectedAfter, connected, kept]
      · rw [streamsAfter, streams, sent]
    | full refused kept same =>
      refine .full ?_ ?_ ?_
      · rw [streams]
        exact refused
      · rw [connectedAfter, connected, kept]
      · rw [streamsAfter, streams, same]
    | closed refused dropped same =>
      refine .closed ?_ ?_ ?_
      · rw [streams]
        exact refused
      · rw [connectedAfter, connected, dropped]
      · rw [streamsAfter, streams, same]

variable {op : RelayOp}

theorem Admitted.arrives (admitted : Admitted op target frame state after) : Arrives target frame state after := by
  obtain ⟨routed, count, _, arrives, rfl⟩ := admitted.routed
  obtain ⟨_, _, _, _, booked⟩ := booked_rebooked op state
  rw [booked] at arrives
  refine arrives.congr rfl rfl rfl rfl ?_ ?_ ?_ ?_ <;> rcases op.awaits with _ | _ | _ <;> rfl

/-- A call brings its frame in, or nothing. -/
def Flows (state : PeerState) (admitted : Option (String × RelayFrame)) (after : PeerState) : Prop :=
  match admitted with
  | some (target, frame) => Arrives target frame state after
  | none => Eased state after

theorem carried_flows (carries : op.carries = some (target, frame)) (state : PeerState) :
    Flows state (state.admits op) (step state op) := by
  rcases step_routes carries state with ⟨refused, rebooked, _⟩ | ⟨admits, admitted⟩
  · rw [refused]
    exact rebooked.eased
  · rw [admits]
    exact admitted.arrives

theorem completeControl_eased (kind : ControlKind) (destination frameId : String) (result : LocalTypedControlDispatch)
    (state : PeerState) : Eased state (completeControl kind destination frameId result state).2 := by
  unfold completeControl
  simp only
  split
  · exact Eased.refl state
  split
  · split
    · exact Eased.refl state
    · exact Eased.refl state
  split
  · exact Eased.aside (fun _ => .refl _) rfl rfl rfl
  · exact Eased.aside (retainMailbox_sublist _ _ _) rfl rfl rfl

theorem acknowledgeFrame_aside (key : FrameKey) (state : PeerState) :
    (acknowledgeFrame key state).connectedNodes = state.connectedNodes ∧
      (acknowledgeFrame key state).streams = state.streams ∧
      (acknowledgeFrame key state).streamCount = state.streamCount := by
  obtain ⟨_, _, settled⟩ := settleAckWaiter_settles key (releaseFrame key state)
  obtain ⟨_, _, _, _, marked⟩ := markPublishedTaskAcknowledged_rebooked key (settleAckWaiter key (releaseFrame key state))
  have same : acknowledgeFrame key state = _ := marked
  rw [same, settled]
  exact ⟨rfl, rfl, rfl⟩

theorem acknowledgeFrame_eased (key : FrameKey) (state : PeerState) : Eased state (acknowledgeFrame key state) := by
  obtain ⟨connected, streams, count⟩ := acknowledgeFrame_aside key state
  obtain ⟨acknowledged, _, holdings⟩ := acknowledgeFrame_holdings key state
  apply Eased.aside _ connected streams count
  have mailbox : (acknowledgeFrame key state).mailbox =
      Function.update state.mailbox key.1 ((state.mailbox key.1).eraseP (·.key = key.2)) :=
    congrArg Holdings.mailbox holdings
  rw [mailbox]
  exact update_sublist List.eraseP_sublist

theorem ackFrame_eased (destination frameId : String) (state : PeerState) :
    Eased state (ackFrame destination frameId state).2 := by
  rcases ackFrame_cases destination frameId state with unchanged | ⟨_, _, accepted⟩
  · rw [unchanged]
    exact Eased.refl state
  · rw [accepted]
    exact acknowledgeFrame_eased (trim destination, trim frameId) state

theorem step_flows (state : PeerState) (op : RelayOp) :
    (∃ node, op = .connectNode node) ∨ Flows state (state.admits op) (step state op) := by
  cases op with
  | connectNode nodeId => exact .inl ⟨nodeId, rfl⟩
  | registerNode nodeId => exact .inr (Eased.of_holdings (holdings_registerNode nodeId state) rfl rfl rfl)
  | disconnectNode nodeId => exact .inr (step_disconnected rfl state).eased
  | disconnectNodeIfCurrent nodeId generation => exact .inr (step_disconnected rfl state).eased
  | disconnectNodeWithStatus nodeId status => exact .inr (step_disconnected rfl state).eased
  | disconnectNodeWithStatusIfCurrent nodeId generation status => exact .inr (step_disconnected rfl state).eased
  | routeFrame target frame => exact .inr (carried_flows rfl state)
  | routeFrameWaitingForAck target frame => exact .inr (carried_flows rfl state)
  | routeControl kind target frame => exact .inr (carried_flows rfl state)
  | completeControl kind destination frameId result =>
    exact .inr (completeControl_eased kind destination frameId result state)
  | abandonFrame destination frameId =>
    exact .inr (Eased.aside (retainMailbox_sublist _ _ _) rfl rfl rfl)
  | ackFrame destination frameId => exact .inr (ackFrame_eased destination frameId state)
  | publishTaskFrame source destination taskId identityTask routedTask frame receipt =>
    exact .inr (carried_flows rfl state)
  | classifyPublishedTask source destination taskId task receipt =>
    exact .inr (classifyPublishedTask_rebooked source destination taskId task receipt state).eased
  | forgetPublishedTask source destination taskId frameId =>
    exact .inr (forgetPublishedTask_rebooked source destination taskId frameId state).eased
  | takeItem stream => exact .inr (takeItem_eased stream state)
  | closeStream stream => exact .inr (closeStream_eased stream state)

/-- What a node finds on the stream that is opened for it. -/
structure Opened (node : String) (before after : PeerState) : Prop where
  mailbox : after.mailbox = before.mailbox
  count : after.streamCount = before.streamCount + 1
  connected : ∃ generation,
    after.connectedNodes = before.connectedNodes.put (node, ⟨generation, before.streamCount⟩)
  others : ∀ number, number ≠ before.streamCount → after.streams number = before.streams number
  replayed : after.streams before.streamCount = ⟨relayStreamBuffer, (before.mailbox node).map .ok, 0, false⟩

theorem Holdings.Sound.not_acked (sound : state.holdings.Sound) (stored : frame ∈ state.mailbox node) :
    isAcked node frame state.acknowledgedFrames = false := by
  have unacknowledged := sound.unacknowledged _ (sound.owned node frame stored)
  unfold isAcked
  rw [decide_eq_false_iff_not]
  exact fun acked => unacknowledged acked.2

/-- The buffer of a stream has room for a whole mailbox, so every stream is attached. -/
theorem connectNode_opened (node : String) (sound : state.holdings.Sound) :
    Opened node state (connectNode node state).2 := by
  have all : (state.mailbox node).filter (fun frame => !isAcked node frame state.acknowledgedFrames) =
      state.mailbox node := by
    rw [List.filter_eq_self]
    intro frame member
    rw [sound.not_acked member]
    rfl
  have fits : ((Channel.create relayStreamBuffer).trySendAll
      ((state.mailbox node).map (.ok : RelayFrame → Except Status RelayFrame))) =
      (((state.mailbox node).length, true), ⟨relayStreamBuffer, (state.mailbox node).map .ok, 0, false⟩) := by
    rw [Channel.trySendAll_fits rfl]
    · rw [List.length_map]
      rfl
    · rw [List.length_map]
      have bound := sound.bounded node
      change (state.mailbox node).length ≤ maxTrackedFrames at bound
      show 0 + (state.mailbox node).length ≤ maxTrackedFrames
      omega
    · exact Nat.zero_le _
  unfold connectNode connectNodeFenced
  have same : ({ state with
      streams := Function.update state.streams state.streamCount (Channel.create relayStreamBuffer)
      streamCount := state.streamCount + 1 } : PeerState).mailbox = state.mailbox := rfl
  simp only [same, all, Function.update_self, fits, if_true]
  refine ⟨rfl, rfl, ⟨_, rfl⟩, ?_, ?_⟩
  · intro number different
    simp only
    rw [Function.update_of_ne different, Function.update_of_ne different]
  · simp only
    rw [Function.update_self]

/-- Every frame that a connected node has not acknowledged is on its stream, taken or not. -/
def PeerState.SentAll (state : PeerState) : Prop :=
  ∀ node connected, state.connectedNodes.find node = some (node, connected) → ∀ frame ∈ state.mailbox node,
    isAcked node frame state.acknowledgedFrames = false → .ok frame ∈ (state.streams connected.sender).sent

/-- A frame is accepted for a connected node whose stream is full, and stays behind. -/
def PeerState.Overflows (state : PeerState) (op : RelayOp) : Prop :=
  ∃ target frame connected, state.admits op = some (target, frame) ∧
    state.connectedNodes.find target = some (target, connected) ∧
    (state.streams connected.sender).trySend (.ok frame) = .error .full ∧
    .ok frame ∉ (state.streams connected.sender).sent

/-- Besides, the streams in use are among those that were opened. -/
structure PeerState.Supplied (state : PeerState) : Prop where
  attended : state.Attended
  opened : ∀ node connected, state.connectedNodes.find node = some (node, connected) →
    connected.sender < state.streamCount
  sent : ∀ node connected, state.connectedNodes.find node = some (node, connected) → ∀ frame ∈ state.mailbox node,
    .ok frame ∈ (state.streams connected.sender).sent

theorem PeerState.Supplied.sentAll (supplied : state.Supplied) : state.SentAll :=
  fun node connected found frame stored _ => supplied.sent node connected found frame stored

theorem Eased.sent {item : Except Status RelayFrame} {number : Nat} (eased : Eased before after)
    (earlier : item ∈ (before.streams number).sent) : item ∈ (after.streams number).sent := by
  rcases eased.streams number with same | ⟨status, _, _, _, _, grown⟩
  · rw [same]
    exact earlier
  · rw [grown]
    exact List.mem_append_left _ earlier

theorem PeerState.Supplied.eased (supplied : before.Supplied) (eased : Eased before after)
    (attended : after.Attended) : after.Supplied where
  attended := attended
  opened := by
    intro node connected found
    rw [eased.count]
    exact supplied.opened node connected (eased.connected _ _ found)
  sent := by
    intro node connected found frame stored
    exact eased.sent (supplied.sent node connected (eased.connected _ _ found) frame ((eased.mailbox node).subset stored))

theorem PeerState.Supplied.opens (supplied : before.Supplied) (opened : Opened node before after)
    (attended : after.Attended) : after.Supplied := by
  obtain ⟨generation, connectedNodes⟩ := opened.connected
  refine ⟨attended, ?_, ?_⟩
  · intro other connected found
    rw [opened.count]
    rw [connectedNodes] at found
    by_cases same : other = node
    · subst same
      rw [Table.find_put_self before.connectedNodes (other, ⟨generation, before.streamCount⟩)] at found
      cases found
      exact Nat.lt_succ_self _
    · rw [Table.find_put_ne before.connectedNodes _ same] at found
      exact Nat.lt_succ_of_lt (supplied.opened other connected found)
  · intro other connected found frame stored
    rw [opened.mailbox] at stored
    rw [connectedNodes] at found
    by_cases same : other = node
    · subst same
      rw [Table.find_put_self before.connectedNodes (other, ⟨generation, before.streamCount⟩)] at found
      cases found
      rw [opened.replayed]
      exact List.mem_map_of_mem stored
    · rw [Table.find_put_ne before.connectedNodes _ same] at found
      have earlier := supplied.opened other connected found
      rw [opened.others _ (Nat.ne_of_lt earlier)]
      exact supplied.sent other connected found frame stored

theorem Arrives.stored {new : RelayFrame} (arrives : Arrives target frame before after)
    (stored : new ∈ after.mailbox node) : new ∈ before.mailbox node ∨ (node = target ∧ new = frame) := by
  rw [arrives.mailbox] at stored
  by_cases same : node = target
  · subst same
    rw [Function.update_self, List.mem_append, List.mem_singleton] at stored
    exact stored.imp_right fun new => ⟨rfl, new⟩
  · rw [Function.update_of_ne same] at stored
    exact .inl stored

theorem Arrives.pushed (arrives : Arrives target frame before after) :
    (before.connectedNodes.find target = none ∧ after.connectedNodes = before.connectedNodes ∧
        after.streams = before.streams) ∨
      ∃ connected, before.connectedNodes.find target = some (target, connected) ∧
        Pushed target frame connected before after := by
  cases found : before.connectedNodes.find target with
  | none => exact .inl ⟨rfl, arrives.offline found⟩
  | some row =>
    obtain ⟨own, connected⟩ := row
    obtain rfl : own = target := Table.find_key found
    exact .inr ⟨connected, rfl, arrives.online connected found⟩

theorem Arrives.connected {row : String × ConnectedNode} (arrives : Arrives target frame before after)
    (found : after.connectedNodes.find node = some row) : before.connectedNodes.find node = some row := by
  rcases arrives.pushed with ⟨_, kept, _⟩ | ⟨connected, _, pushed⟩
  · rw [← kept]
    exact found
  · cases pushed with
    | sent stream taken kept streams =>
      rw [← kept]
      exact found
    | full refused kept streams =>
      rw [← kept]
      exact found
    | closed refused dropped streams =>
      rw [dropped] at found
      exact (Table.find_keep_some.mp found).1

theorem Arrives.said (arrives : Arrives target frame before after) (number : Nat) :
    (after.streams number).sent = (before.streams number).sent ∨
      ∃ connected, before.connectedNodes.find target = some (target, connected) ∧ connected.sender = number ∧
        (after.streams number).sent = (before.streams number).sent ++ [.ok frame] := by
  rcases arrives.pushed with ⟨_, _, streams⟩ | ⟨connected, found, pushed⟩
  · rw [streams]
    exact .inl rfl
  · cases pushed with
    | sent stream taken kept streams =>
      rw [streams]
      by_cases same : number = connected.sender
      · subst same
        rw [Function.update_self, Channel.trySend_ok taken]
        exact .inr ⟨connected, found, rfl, rfl⟩
      · rw [Function.update_of_ne same]
        exact .inl rfl
    | full refused kept streams =>
      rw [streams]
      exact .inl rfl
    | closed refused dropped streams =>
      rw [streams]
      exact .inl rfl

theorem Arrives.sent {item : Except Status RelayFrame} {number : Nat} (arrives : Arrives target frame before after)
    (earlier : item ∈ (before.streams number).sent) : item ∈ (after.streams number).sent := by
  rcases arrives.said number with same | ⟨_, _, _, grown⟩
  · rw [same]
    exact earlier
  · rw [grown]
    exact List.mem_append_left _ earlier

theorem PeerState.Supplied.arrives (supplied : before.Supplied) (arrives : Arrives target frame before after)
    (attended : after.Attended)
    (room : ∀ connected, before.connectedNodes.find target = some (target, connected) →
      (before.streams connected.sender).trySend (.ok frame) = .error .full →
      .ok frame ∈ (before.streams connected.sender).sent) : after.Supplied := by
  refine ⟨attended, ?_, ?_⟩
  · intro node connected found
    rw [arrives.count]
    exact supplied.opened node connected (arrives.connected found)
  · intro node connected found new stored
    have earlier := arrives.connected found
    rcases arrives.stored stored with old | ⟨rfl, rfl⟩
    · exact arrives.sent (supplied.sent node connected earlier new old)
    · cases arrives.online connected earlier with
      | sent stream taken kept streams =>
        rw [streams, Function.update_self, Channel.trySend_ok taken]
        exact List.mem_append_right _ (List.mem_singleton_self _)
      | full refused kept streams =>
        rw [streams]
        exact room connected earlier refused
      | closed refused dropped streams =>
        rw [dropped] at found
        exact absurd rfl (of_decide_eq_true (Table.find_keep_some.mp found).2)

theorem PeerState.Supplied.kept (supplied : state.Supplied) (room : ¬ state.Overflows op) :
    (step state op).Supplied := by
  have attended := step_attended supplied.attended op
  rcases step_flows state op with ⟨node, rfl⟩ | flows
  · exact supplied.opens (connectNode_opened node supplied.attended.sound) attended
  cases admitted : state.admits op with
  | none =>
    rw [admitted] at flows
    exact supplied.eased flows attended
  | some arrival =>
    obtain ⟨target, frame⟩ := arrival
    rw [admitted] at flows
    apply supplied.arrives flows attended
    intro connected found full
    by_contra missing
    exact room ⟨target, frame, connected, admitted, found, full, missing⟩

theorem PeerState.Overflows.breaks (overflows : state.Overflows op) (attended : state.Attended) :
    ¬ (step state op).SentAll := by
  obtain ⟨target, frame, connected, admitted, found, full, missing⟩ := overflows
  have sound := (step_attended attended op).sound
  rcases step_flows state op with ⟨node, rfl⟩ | flows
  · cases admitted
  rw [admitted] at flows
  change Arrives target frame state (step state op) at flows
  cases flows.online connected found with
  | sent stream taken kept streams =>
    rw [full] at taken
    cases taken
  | closed refused dropped streams =>
    rw [full] at refused
    cases refused
  | full refused kept streams =>
    intro sentAll
    have stored : frame ∈ (step state op).mailbox target := by
      rw [flows.mailbox, Function.update_self]
      exact List.mem_append_right _ (List.mem_singleton_self _)
    have still : (step state op).connectedNodes.find target = some (target, connected) := by
      rw [kept]
      exact found
    have reached := sentAll target connected still frame stored (sound.not_acked stored)
    rw [streams] at reached
    exact missing reached

end

theorem empty_supplied : PeerState.empty.Supplied where
  attended := empty_attended
  opened := fun _ _ found => by cases found
  sent := fun _ _ found => by cases found

/-- Connected nodes are sent everything exactly as long as no frame is accepted for a node whose stream is full. -/
theorem connected_nodes_sent_all_iff (ops : List RelayOp) :
    Run.Throughout step PeerState.SentAll PeerState.empty ops ↔
      Run.Along step (fun state op => ¬ state.Overflows op) PeerState.empty ops := by
  refine Run.throughout_iff PeerState.Supplied (fun _ => PeerState.Supplied.sentAll) ?_ ?_ empty_supplied
    (fun _ _ => trivial)
  · intro state op _ supplied room
    exact supplied.kept room
  · intro state op _ supplied overflows
    exact (not_not.mp overflows).breaks supplied.attended

section

def numberedResult (number : Nat) : RelayFrame :=
  { resultFrame with frameId := (default : FrameIds).id number, destinationNodeId := "edge" }

def timedOutResult (number : Nat) : List RelayOp :=
  [.routeFrameWaitingForAck "edge" (numberedResult number), .abandonFrame "edge" ((default : FrameIds).id number)]

def stalledNode (rounds : Nat) : List RelayOp := .connectNode "edge" :: (List.range rounds).flatMap timedOutResult

/-- The results have left the mailbox and stay on the stream. -/
structure Stalled (rounds : Nat) (state : PeerState) : Prop where
  connected : ∃ generation, state.connectedNodes.find "edge" = some ("edge", ⟨generation, 0⟩)
  mailbox : state.mailbox "edge" = []
  owned : state.frameDestinations = ∅
  acknowledged : state.acknowledgedFrames = ∅
  stream : state.streams 0 = ⟨maxTrackedFrames, (List.range rounds).map fun number => .ok (numberedResult number), 0, false⟩

theorem numberedResult_key (number : Nat) : (numberedResult number).key = (default : FrameIds).id number :=
  ((default : FrameIds).clean number).2

variable {rounds : Nat} {state : PeerState}

theorem Stalled.admits (stalled : Stalled rounds state) (number : Nat) :
    state.admits (.routeFrameWaitingForAck "edge" (numberedResult number)) = some ("edge", numberedResult number) := by
  have named : (numberedResult number).key ≠ "" := by
    rw [numberedResult_key]
    exact ((default : FrameIds).clean number).1
  have takes : state.takes "edge" (numberedResult number) = true := by
    rw [PeerState.takes, stalled.owned, stalled.acknowledged, stalled.mailbox, decide_eq_true_eq]
    exact ⟨rfl, named, Finset.notMem_empty _, Finset.notMem_empty _, by decide, by decide⟩
  rw [PeerState.admits, PeerState.passes, takes]
  rfl

theorem Stalled.waiting (stalled : Stalled rounds state) : (state.streams 0).waiting.length = rounds := by
  rw [stalled.stream]
  simp [Channel.waiting]

theorem Stalled.routed (stalled : Stalled rounds state) (number : Nat) :
    (step state (.routeFrameWaitingForAck "edge" (numberedResult number))).holdings =
      { mailbox := Function.update state.mailbox "edge" [numberedResult number]
        owned := {("edge", (default : FrameIds).id number)}
        acknowledged := ∅
        control := state.controlWaiters } := by
  have admitted := stalled.admits number
  have carries : (RelayOp.routeFrameWaitingForAck "edge" (numberedResult number)).carries =
    some ("edge", numberedResult number) := rfl
  rcases step_routes carries state with ⟨refused, _⟩ | ⟨_, admission⟩
  · rw [refused] at admitted
    cases admitted
  · have placed := admission.places
    have control : (step state (.routeFrameWaitingForAck "edge" (numberedResult number))).controlWaiters =
        state.controlWaiters := funext fun kind => placed.waiters (some kind)
    unfold PeerState.holdings
    rw [placed.mailbox, placed.owned, placed.acknowledged, control, stalled.mailbox, stalled.owned, stalled.acknowledged,
      numberedResult_key]
    rfl

theorem Stalled.sent (stalled : Stalled rounds state) (room : rounds < maxTrackedFrames) :
    (step state (.routeFrameWaitingForAck "edge" (numberedResult rounds))).connectedNodes = state.connectedNodes ∧
      (step state (.routeFrameWaitingForAck "edge" (numberedResult rounds))).streams 0 =
        ⟨maxTrackedFrames, (List.range (rounds + 1)).map fun number => .ok (numberedResult number), 0, false⟩ := by
  obtain ⟨generation, connected⟩ := stalled.connected
  have sends : (state.streams 0).trySend (.ok (numberedResult rounds)) = .ok
      ⟨maxTrackedFrames, (List.range (rounds + 1)).map fun number => .ok (numberedResult number), 0, false⟩ := by
    have waiting := stalled.waiting
    unfold Channel.trySend
    rw [waiting, stalled.stream, if_neg Bool.false_ne_true, if_neg (Nat.not_le_of_lt room), List.range_succ,
      List.map_append]
    rfl
  have arrives : Flows state _ (step state (.routeFrameWaitingForAck "edge" (numberedResult rounds))) :=
    carried_flows rfl state
  rw [stalled.admits rounds] at arrives
  have pushed := Arrives.online arrives ⟨generation, 0⟩ connected
  generalize step state (.routeFrameWaitingForAck "edge" (numberedResult rounds)) = middle at pushed
  cases pushed with
  | full refused _ _ =>
    rw [sends] at refused
    cases refused
  | closed refused _ _ =>
    rw [sends] at refused
    cases refused
  | sent stream taken kept streams =>
    rw [sends] at taken
    refine ⟨kept, ?_⟩
    rw [streams, Function.update_self]
    exact (Except.ok.inj taken).symm

theorem abandonFrame_stalled {middle : PeerState} {number : Nat}
    (holdings : middle.holdings =
      { mailbox := Function.update state.mailbox "edge" [numberedResult number]
        owned := {("edge", (default : FrameIds).id number)}
        acknowledged := ∅
        control := state.controlWaiters }) :
    (abandonFrame "edge" ((default : FrameIds).id number) middle).mailbox "edge" = [] ∧
      (abandonFrame "edge" ((default : FrameIds).id number) middle).frameDestinations = ∅ ∧
      (abandonFrame "edge" ((default : FrameIds).id number) middle).acknowledgedFrames = ∅ := by
  have released := abandonFrame_holdings "edge" ((default : FrameIds).id number) middle
  rw [holdings] at released
  refine ⟨?_, ?_, congrArg Holdings.acknowledged released⟩
  · have mailbox := congrFun (congrArg Holdings.mailbox released) "edge"
    refine mailbox.trans ?_
    simp [Holdings.release, numberedResult_key]
  · refine (congrArg Holdings.owned released).trans ?_
    simp [Holdings.release]

theorem Stalled.round (stalled : Stalled rounds state) (room : rounds < maxTrackedFrames) :
    Stalled (rounds + 1) (Run.run step state (timedOutResult rounds)) := by
  have holdings := stalled.routed rounds
  obtain ⟨kept, stream⟩ := stalled.sent room
  show Stalled (rounds + 1) (abandonFrame "edge" ((default : FrameIds).id rounds)
    (step state (.routeFrameWaitingForAck "edge" (numberedResult rounds))))
  generalize step state (.routeFrameWaitingForAck "edge" (numberedResult rounds)) = middle at holdings kept stream ⊢
  obtain ⟨generation, connected⟩ := stalled.connected
  obtain ⟨mailbox, owned, acknowledged⟩ := abandonFrame_stalled holdings
  refine ⟨⟨generation, ?_⟩, mailbox, owned, acknowledged, stream⟩
  show middle.connectedNodes.find "edge" = _
  rw [kept]
  exact connected

theorem Stalled.overflows (stalled : Stalled rounds state) (full : maxTrackedFrames ≤ rounds) :
    state.Overflows (.routeFrameWaitingForAck "edge" (numberedResult rounds)) := by
  obtain ⟨generation, connected⟩ := stalled.connected
  refine ⟨"edge", numberedResult rounds, ⟨generation, 0⟩, stalled.admits _, connected, ?_, ?_⟩
  · have waiting := stalled.waiting
    unfold Channel.trySend
    rw [waiting, stalled.stream, if_neg Bool.false_ne_true, if_pos full]
  · rw [stalled.stream]
    intro sent
    obtain ⟨number, member, same⟩ := List.mem_map.mp sent
    have ids : (default : FrameIds).id number = (default : FrameIds).id rounds :=
      congrArg RelayFrame.frameId (Except.ok.inj same)
    have equal := (default : FrameIds).distinct ids
    have below := List.mem_range.mp member
    omega

theorem stalledNode_stalled (rounds : Nat) (room : rounds ≤ maxTrackedFrames) :
    Stalled rounds (Run.run step PeerState.empty (stalledNode rounds)) := by
  induction rounds with
  | zero =>
    refine ⟨⟨1, ?_⟩, ?_, ?_, ?_, ?_⟩
    · decide
    · rfl
    · rfl
    · rfl
    · rfl
  | succ rounds ih =>
    have earlier := ih (by omega)
    have grown : stalledNode (rounds + 1) = stalledNode rounds ++ timedOutResult rounds := by
      simp [stalledNode, List.range_succ]
    rw [grown, Run.run_append]
    exact earlier.round (by omega)

theorem stalledNode_misses (rounds : Nat) (full : rounds = maxTrackedFrames) :
    ¬ (Run.run step PeerState.empty
      (stalledNode rounds ++ [.routeFrameWaitingForAck "edge" (numberedResult rounds)])).SentAll := by
  have stalled := stalledNode_stalled rounds full.le
  have breaks := (stalled.overflows full.ge).breaks (run_attended _)
  rw [Run.run_append]
  exact breaks

/-- After 8192 results that timed out, the next one is accepted and stored for the node but not sent on. -/
theorem stalled_node_misses_result : ¬ ∀ ops : List RelayOp, (Run.run step PeerState.empty ops).SentAll :=
  fun every => stalledNode_misses maxTrackedFrames rfl (every _)

end

end Keryx.Relay
