import Keryx.Relay.Streams

/-! What becomes of the requests to a node whose stream is lost. -/

namespace Keryx.Relay
open Proto Relational Concurrent

/-- The node was connected and is not any more. -/
def Loses (node : String) (before after : PeerState) : Prop :=
  (before.connectedNodes.find node).isSome = true ∧ after.connectedNodes.find node = none

/-- The fleet requests of the node are abandoned, and every other frame stays. -/
structure LossHandled (node : String) (before after : PeerState) : Prop where
  waiters : ∀ key row, key.1 = node → (before.waiters (some .fleetObservation)).find key = some row →
    (after.waiters (some .fleetObservation)).find key = none ∧ key ∉ after.frameDestinations
  frames : ∀ frame ∈ before.mailbox node, frame.fleetObservationPublishV1.isSome = true →
    frame ∉ after.mailbox node ∧ (node, frame.key) ∉ after.frameDestinations
  others : ∀ other, other ≠ node → after.mailbox other = before.mailbox other
  kept : (before.mailbox node).filter (·.fleetObservationPublishV1.isNone) <+: after.mailbox node
  spared : ∀ other, ∀ frame ∈ before.mailbox other, (other = node → frame.fleetObservationPublishV1.isNone = true) →
    (other, frame.key) ∈ after.frameDestinations ∧
      ∀ kind, (after.waiters kind).find (other, frame.key) = (before.waiters kind).find (other, frame.key)

section
variable {before after : PeerState} {node target : String} {frame : RelayFrame} {op : RelayOp}

theorem find_keep_other {connectedNodes : HashMap String ConnectedNode} {other : String}
    (present : (connectedNodes.find node).isSome = true)
    (lost : (connectedNodes.keep (fun row => row.1 ≠ other)).find node = none) : node = other := by
  obtain ⟨row, found⟩ := Option.isSome_iff_exists.mp present
  by_contra different
  rw [Table.find_keep, found, Option.filter_some_pos] at lost
  · cases lost
  · rw [Table.find_key found]
    exact decide_eq_true different

theorem Arrives.lost (arrives : Arrives target frame before after) (loses : Loses node before after) : node = target := by
  obtain ⟨present, lost⟩ := loses
  have changed : after.connectedNodes ≠ before.connectedNodes := by
    intro same
    rw [same] at lost
    rw [lost] at present
    cases present
  cases found : before.connectedNodes.find target with
  | none => exact absurd (arrives.offline found).1 changed
  | some row =>
    obtain ⟨other, connected⟩ := row
    cases Table.find_key found
    cases arrives.online connected found with
    | sent stream taken kept streams => exact absurd kept changed
    | full refused kept streams => exact absurd kept changed
    | closed refused dropped streams =>
      rw [dropped] at lost
      exact find_keep_other present lost

theorem Disconnected.lost {other : String} (disconnected : Disconnected other before after)
    (loses : Loses node before after) : node = other := by
  obtain ⟨present, lost⟩ := loses
  cases disconnected with
  | kept =>
    rw [lost] at present
    cases present
  | dropped => exact find_keep_other present lost
  | told connected status stream found sent => exact find_keep_other present lost

theorem step_connected (disconnects : op.disconnects = none) (carries : op.carries = none) (sound : before.holdings.Sound)
    (present : (before.connectedNodes.find node).isSome = true) :
    ((step before op).connectedNodes.find node).isSome = true := by
  cases op with
  | connectNode nodeId =>
    obtain ⟨generation, connected⟩ := (connectNode_opened nodeId sound).connected
    have opened : (step before (.connectNode nodeId)).connectedNodes = _ := connected
    rw [opened, Table.find_put]
    split
    · rfl
    · exact present
  | completeControl kind destination frameId result =>
    show ((completeControl kind destination frameId result before).2.connectedNodes.find node).isSome = true
    rcases completeControl_cases kind destination frameId result sound with unchanged | ⟨row, _, settled⟩
    · rw [unchanged]
      exact present
    · rw [settled]
      exact present
  | ackFrame destination frameId =>
    show ((ackFrame destination frameId before).2.connectedNodes.find node).isSome = true
    rcases ackFrame_cases destination frameId before with unchanged | ⟨_, _, accepted⟩
    · rw [unchanged]
      exact present
    · rw [accepted, (acknowledgeFrame_aside _ before).1]
      exact present
  | classifyPublishedTask source destination taskId task receipt =>
    obtain ⟨_, _, _, _, same⟩ := classifyPublishedTask_rebooked source destination taskId task receipt before
    have after : step before (.classifyPublishedTask source destination taskId task receipt) = _ := same
    rw [after]
    exact present
  | forgetPublishedTask source destination taskId frameId =>
    obtain ⟨_, _, _, _, same⟩ := forgetPublishedTask_rebooked source destination taskId frameId before
    have after : step before (.forgetPublishedTask source destination taskId frameId) = _ := same
    rw [after]
    exact present
  | registerNode nodeId => exact present
  | abandonFrame destination frameId => exact present
  | takeItem stream => exact present
  | closeStream stream => exact present
  | _ => first | (cases disconnects; done) | cases carries

theorem step_lost (sound : before.holdings.Sound) (loses : Loses node before (step before op)) :
    op.disconnects = some node ∧ Disconnected node before (step before op) ∨
      op.disconnects = none ∧ ∃ frame, Placed op node frame before (step before op) := by
  cases disconnects : op.disconnects with
  | some other =>
    have disconnected := step_disconnected disconnects before
    cases disconnected.lost loses
    exact .inl ⟨rfl, disconnected⟩
  | none =>
    refine .inr ⟨rfl, ?_⟩
    cases carries : op.carries with
    | none =>
      have present := step_connected disconnects carries sound loses.1
      rw [loses.2] at present
      cases present
    | some carried =>
      obtain ⟨target, frame⟩ := carried
      rcases step_routes carries before with ⟨_, rebooked, _⟩ | ⟨_, admitted⟩
      · obtain ⟨present, lost⟩ := loses
        obtain ⟨_, _, _, _, same⟩ := rebooked
        rw [same] at lost
        rw [lost] at present
        cases present
      · cases admitted.arrives.lost loses
        exact ⟨frame, admitted.places⟩

theorem dropConnection_handled (node : String) (attended : before.Attended) :
    LossHandled node before (dropConnection node before) := by
  have sound := attended.sound
  have mailbox : (dropConnection node before).mailbox = Function.update before.mailbox node
      ((before.mailbox node).filter (·.fleetObservationPublishV1.isNone)) := mailbox_retainMailbox _ node _
  have lets := dropConnection_lets node attended
  have leaves : ∀ key, key ∈ before.holdings.fleetKeys node →
      ((dropConnection node before).waiters (some .fleetObservation)).find key = none ∧
        key ∉ (dropConnection node before).frameDestinations := by
    intro key fleet
    refine ⟨?_, fun owned => ((lets.owned key).mp owned).2 fleet⟩
    rw [Option.eq_none_iff_forall_ne_some]
    exact fun row found => ((lets.waiters _ _ _).mp found).2 fleet
  refine ⟨?_, ?_, ?_, ?_, ?_⟩
  · intro key row place found
    exact leaves key (mem_fleetKeys.mpr ⟨⟨row, found⟩, place⟩)
  · intro frame stored fleet
    have gone : (node, frame.key) ∈ before.holdings.fleetKeys node :=
      mem_fleetKeys.mpr ⟨attended.observed node frame stored fleet, rfl⟩
    exact ⟨fun stays => ((lets.mailbox node frame).mp stays).2 gone, (leaves _ gone).2⟩
  · intro other different
    rw [mailbox, Function.update_of_ne different]
  · rw [mailbox, Function.update_self]
  · intro other frame stored plain
    have outside : (other, frame.key) ∉ before.holdings.fleetKeys node := by
      intro fleet
      obtain ⟨⟨row, found⟩, same⟩ := mem_fleetKeys.mp fleet
      obtain ⟨waited, kept, equal, fits⟩ := sound.controlled .fleetObservation _ row found
      cases sound.frame_unique kept stored equal
      exact (ControlKind.fits_fleet (sound.payload other _ stored) fits).mp (plain same) rfl
    refine ⟨(lets.owned _).mpr ⟨sound.owned other frame stored, outside⟩, fun kind => ?_⟩
    apply Option.ext
    intro row
    rw [lets.waiters]
    exact and_iff_left outside

theorem Placed.handled (placed : Placed op node frame before after) (attended : before.Attended) :
    LossHandled node before after ↔
      ∀ pending ∈ before.mailbox node, pending.fleetObservationPublishV1.isNone = true := by
  have mailbox : after.mailbox node = before.mailbox node ++ [frame] := by
    rw [placed.mailbox, Function.update_self]
  constructor
  · intro handled pending stored
    by_contra fleet
    rw [Option.isNone_iff_eq_none] at fleet
    apply (handled.frames pending stored (Option.isSome_iff_ne_none.mpr fleet)).1
    rw [mailbox]
    exact List.mem_append_left _ stored
  · intro idle
    refine ⟨?_, ?_, ?_, ?_, ?_⟩
    · intro key row place found
      obtain ⟨pending, stored, _, fits⟩ := attended.sound.controlled .fleetObservation key row found
      subst place
      exact absurd rfl ((ControlKind.fits_fleet (attended.sound.payload _ _ stored) fits).mp (idle pending stored))
    · intro pending stored fleet
      rw [Option.isNone_iff_eq_none.mp (idle pending stored)] at fleet
      cases fleet
    · intro other different
      rw [placed.mailbox, Function.update_of_ne different]
    · rw [mailbox, List.filter_eq_self.mpr idle]
      exact List.prefix_append _ _
    · intro other stored member _
      have owned := attended.sound.owned other stored member
      refine ⟨by rw [placed.owned]; exact Finset.mem_insert_of_mem owned, fun kind => ?_⟩
      have different : (other, stored.key) ≠ (node, frame.key) := by
        intro same
        rw [same] at owned
        exact placed.unowned owned
      rw [placed.waiters]
      split
      · exact Table.find_put_ne _ ((node, frame.key), _) different
      · rfl

end

/-- Every step that loses the stream of a node abandons its requests, if it is a disconnect or none is pending; a
frame that finds the stream closed does not. -/
theorem loss_handled_iff (ops : List RelayOp) (op : RelayOp) (node : String) :
    let before := Run.run step PeerState.empty ops
    Loses node before (step before op) →
      (LossHandled node before (step before op) ↔
        op.disconnects = some node ∨
          ∀ pending ∈ before.mailbox node, pending.fleetObservationPublishV1.isNone = true) := by
  intro before loses
  have attended := run_attended ops
  rcases step_lost attended.sound loses with ⟨disconnects, disconnected⟩ | ⟨connected, frame, placed⟩
  · refine iff_of_true ?_ (.inl disconnects)
    have handled := dropConnection_handled node attended
    obtain ⟨present, lost⟩ := loses
    generalize step before op = after at disconnected lost ⊢
    cases disconnected with
    | kept =>
      rw [lost] at present
      cases present
    | dropped => exact handled
    | told connected status stream found sent =>
      exact ⟨handled.waiters, handled.frames, handled.others, handled.kept, handled.spared⟩
  · rw [placed.handled attended, connected]
    exact ⟨.inr, fun either => either.resolve_left nofun⟩

def fleetFrame : RelayFrame where
  frameId := "relay-frame-4"
  fleetObservationPublishV1 := some ⟨none⟩
  authenticatedSourceNodeId := "origin"
  destinationNodeId := "edge"

def observing : List RelayOp := [.connectNode "edge", .routeControl .fleetObservation "edge" fleetFrame]

/-- The result finds the stream closed, and the fleet request before it stays pending. -/
theorem closed_stream_keeps_request :
    let before := Run.run step PeerState.empty (observing ++ [.closeStream 0])
    let after := step before (.routeFrame "edge" resultFrame)
    (before.connectedNodes.find "edge").isSome = true ∧ after.connectedNodes.find "edge" = none ∧
      (before.mailbox "edge").map (·.frameId) = ["relay-frame-4"] ∧
      (after.mailbox "edge").map (·.frameId) = ["relay-frame-4", "relay-frame-2"] ∧
      ("edge", "relay-frame-4") ∈ after.frameDestinations ∧
      ((after.controlWaiters .fleetObservation).find ("edge", "relay-frame-4")).isSome = true := by
  decide +kernel

/-- A disconnect abandons the request. -/
theorem disconnect_abandons_request :
    LossHandled "edge" (Run.run step PeerState.empty observing)
      (step (Run.run step PeerState.empty observing) (.disconnectNode "edge")) :=
  (loss_handled_iff observing (.disconnectNode "edge") "edge" (by constructor <;> decide +kernel)).mpr (.inl rfl)

end Keryx.Relay
