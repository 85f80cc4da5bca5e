import Keryx.Relay.Streams

/-! The stream loop of an edge node: it hands each frame on, answers the relay, and reconnects when anything fails. -/

namespace Keryx.Relay
open Keryx.Core Proto Relational Concurrent
open Daemon (Status)

/-- What its daemon says to a task or result frame and its handlers to a control. -/
structure EdgeNode where
  registryPeerId : String
  verdict : RelayFrame → Except Status Unit
  dispatch : RelayFrame → Except Status LocalTypedControlDispatch
  trimmed : trim registryPeerId = registryPeerId
  named : registryPeerId ≠ ""

def typedControl (frame : RelayFrame) : Option ControlKind :=
  if frame.fleetObservationPublishV1.isSome then some .fleetObservation
  else if frame.nodescaleIdentityChallengeV1.isSome ∨ frame.nodescaleIdentityChallengeV2.isSome then some .challenge
  else if frame.nodescaleIdentityBindV1.isSome ∨ frame.nodescaleIdentityBindV2.isSome then some .bind
  else none

def completionContext : ControlKind → String
  | .bind => "keryx node stream: relay direct-control completion failed"
  | .challenge => "keryx node stream: relay challenge completion failed"
  | .fleetObservation => "keryx node stream: relay Fleet observation completion failed"

def daemonContext (frame : RelayFrame) : String :=
  if frame.task.isSome then "keryx node stream: daemon SubmitRemoteTask failed"
  else "keryx node stream: daemon IngestRemoteResult failed"

/-- The frames its daemon was given, those it could acknowledge, and how it ended. -/
structure StreamOutcome where
  submitted : List RelayFrame
  acknowledged : List RelayFrame
  failure : Option String
  relay : PeerState

namespace EdgeNode

/-- Answers a typed control, which the daemon never sees. -/
def completeTypedControl (edge : EdgeNode) (kind : ControlKind) (frame : RelayFrame) (relay : PeerState) :
    Except String Unit × PeerState :=
  if frame.destinationNodeId ≠ edge.registryPeerId then
    (.error "typed direct control frame destination does not match the registered local node", relay)
  else match edge.dispatch frame with
    | .error _ => (.error (completionContext kind), relay)
    | .ok result =>
      match completeControl kind edge.registryPeerId frame.frameId result relay with
      | (.accepted, relay) => (.ok (), relay)
      | (_, relay) => (.error (completionContext kind), relay)

/-- The loop over the items of a stream. The first failure ends it. -/
def streamLoop (edge : EdgeNode) (stream : Nat) : List (Except Status RelayFrame) → PeerState → StreamOutcome
  | [], relay => ⟨[], [], none, relay⟩
  | .error _ :: _, relay => ⟨[], [], some "keryx node stream: relay frame failed", takeItem stream relay⟩
  | .ok frame :: items, relay =>
    let relay := takeItem stream relay
    if !frame.hasExactlyOneRelayPayload then
      ⟨[], [], some "relay frame must carry exactly one payload kind", relay⟩
    else match typedControl frame with
      | some kind =>
        match edge.completeTypedControl kind frame relay with
        | (.error failure, relay) => ⟨[], [], some failure, relay⟩
        | (.ok (), relay) => edge.streamLoop stream items relay
      | none =>
        match edge.verdict frame with
        | .error _ => ⟨[frame], [], some (daemonContext frame), relay⟩
        | .ok () =>
          match ackFrame edge.registryPeerId frame.frameId relay with
          | (.wrongDestination, relay) => ⟨[frame], [], some "keryx node stream: relay AckFrame failed", relay⟩
          | (.unknownFrame, relay) =>
            let rest := edge.streamLoop stream items relay
            { rest with submitted := frame :: rest.submitted }
          | (.accepted, relay) =>
            let rest := edge.streamLoop stream items relay
            { rest with submitted := frame :: rest.submitted, acknowledged := frame :: rest.acknowledged }

/-- One session: the relay replays on connect, the loop runs, and the stream goes away. -/
def runRelayStream (edge : EdgeNode) (relay : PeerState) : StreamOutcome :=
  let ((_, generation), connected) := connectNode edge.registryPeerId relay
  let outcome := edge.streamLoop relay.streamCount (connected.streams relay.streamCount).waiting connected
  { outcome with
    relay := disconnectNodeIfCurrent edge.registryPeerId generation (closeStream relay.streamCount outcome.relay) }

def superviseRelayStream (edge : EdgeNode) : Nat → PeerState → StreamOutcome
  | 0, relay => ⟨[], [], none, relay⟩
  | sessions + 1, relay =>
    let first := edge.runRelayStream relay
    let rest := edge.superviseRelayStream sessions first.relay
    { rest with submitted := first.submitted ++ rest.submitted, acknowledged := first.acknowledged ++ rest.acknowledged }

def Accepts (edge : EdgeNode) (frame : RelayFrame) : Prop := edge.verdict frame = .ok ()

instance (edge : EdgeNode) (frame : RelayFrame) : Decidable (edge.Accepts frame) :=
  match found : edge.verdict frame with
  | .ok () => isTrue found
  | .error _ => isFalse fun accepted => by cases found.symm.trans accepted

end EdgeNode

section
variable {edge : EdgeNode} {relay : PeerState} {frame : RelayFrame} {stream : Nat}

theorem generic_payload (generic : frame.hasExactlyOneGenericPayload = true) :
    frame.hasExactlyOneRelayPayload = true ∧ typedControl frame = none ∧
      frame.fleetObservationPublishV1.isNone = true := by
  rw [RelayFrame.hasExactlyOneGenericPayload, Bool.and_eq_true] at generic
  obtain ⟨payload, carries⟩ := generic
  have one := payloadCount_one payload
  unfold RelayFrame.payloadCount at one
  rw [Bool.or_eq_true] at carries
  have taken : 1 ≤ frame.task.isSome.toNat + frame.result.isSome.toNat := by
    rcases carries with task | result
    · rw [task, Bool.toNat_true]
      omega
    · rw [result, Bool.toNat_true]
      omega
  have absent : ∀ present : Bool, present.toNat = 0 → present = false := by decide
  have bindV1 := absent frame.nodescaleIdentityBindV1.isSome (by omega)
  have challengeV1 := absent frame.nodescaleIdentityChallengeV1.isSome (by omega)
  have bindV2 := absent frame.nodescaleIdentityBindV2.isSome (by omega)
  have challengeV2 := absent frame.nodescaleIdentityChallengeV2.isSome (by omega)
  have fleet := absent frame.fleetObservationPublishV1.isSome (by omega)
  refine ⟨payload, ?_, ?_⟩
  · simp [typedControl, bindV1, challengeV1, bindV2, challengeV2, fleet]
  · rw [← Option.not_isSome, fleet]
    rfl

theorem PeerState.Attended.generic_uncontrolled (attended : relay.Attended) {node : String}
    (stored : frame ∈ relay.mailbox node) (generic : frame.hasExactlyOneGenericPayload = true) (kind : ControlKind) :
    (relay.controlWaiters kind).find (node, frame.key) = none := by
  cases found : (relay.controlWaiters kind).find (node, frame.key) with
  | none => rfl
  | some row =>
    obtain ⟨other, storedToo, same, fits⟩ := attended.sound.controlled kind _ row found
    cases attended.sound.frame_unique storedToo stored same
    obtain ⟨task, result⟩ := ControlKind.fits_generic fits
    rw [RelayFrame.hasExactlyOneGenericPayload, task, result] at generic
    simp at generic

theorem ackFrame_stored (attended : relay.Attended) (stored : frame ∈ relay.mailbox edge.registryPeerId)
    (generic : frame.hasExactlyOneGenericPayload = true) :
    ackFrame edge.registryPeerId frame.frameId relay =
      (.accepted, acknowledgeFrame (edge.registryPeerId, frame.key) relay) := by
  have sound := attended.sound
  have owned : (edge.registryPeerId, frame.key) ∈ relay.frameDestinations := sound.owned _ frame stored
  have accepted := @ackFrame_owned relay edge.registryPeerId frame.frameId
  rw [edge.trimmed] at accepted
  exact accepted edge.named (sound.named _ frame stored) (attended.generic_uncontrolled stored generic)
    (sound.unacknowledged _ owned) owned

variable {frames : List RelayFrame}

theorem streamLoop_mailbox (attended : relay.Attended) (held : relay.mailbox edge.registryPeerId = frames)
    (generic : ∀ frame ∈ frames, frame.hasExactlyOneGenericPayload = true) :
    (edge.streamLoop stream (frames.map .ok) relay).acknowledged = frames.takeWhile edge.Accepts ∧
      (edge.streamLoop stream (frames.map .ok) relay).submitted =
        frames.takeWhile edge.Accepts ++ (frames.dropWhile edge.Accepts).take 1 ∧
      (edge.streamLoop stream (frames.map .ok) relay).relay.mailbox edge.registryPeerId =
        frames.dropWhile edge.Accepts ∧
      (edge.streamLoop stream (frames.map .ok) relay).relay.Attended := by
  induction frames generalizing relay with
  | nil => exact ⟨rfl, rfl, held, attended⟩
  | cons frame frames ih =>
    obtain ⟨payload, control, _⟩ := generic_payload (generic frame List.mem_cons_self)
    rw [List.map_cons, EdgeNode.streamLoop]
    simp only [payload, Bool.not_true, Bool.false_eq_true, if_false, control]
    cases verdict : edge.verdict frame with
    | error status =>
      have rejected : ¬ edge.Accepts frame := by
        intro accepted
        cases verdict.symm.trans accepted
      rw [List.takeWhile_cons_of_neg (by simp [rejected]), List.dropWhile_cons_of_neg (by simp [rejected])]
      exact ⟨rfl, rfl, held, step_attended attended (.takeItem stream)⟩
    | ok answer =>
      have accepted : edge.Accepts frame := verdict
      rw [List.takeWhile_cons_of_pos (by simp [accepted]), List.dropWhile_cons_of_pos (by simp [accepted])]
      have taken : (takeItem stream relay).Attended := step_attended attended (.takeItem stream)
      have stored : frame ∈ (takeItem stream relay).mailbox edge.registryPeerId := by
        show frame ∈ relay.mailbox edge.registryPeerId
        rw [held]
        exact List.mem_cons_self
      have answer := ackFrame_stored taken stored (generic frame List.mem_cons_self)
      simp only [answer]
      have settled : (acknowledgeFrame (edge.registryPeerId, frame.key) (takeItem stream relay)).Attended := by
        have acknowledged : (ackFrame edge.registryPeerId frame.frameId (takeItem stream relay)).2.Attended :=
          step_attended taken (.ackFrame edge.registryPeerId frame.frameId)
        rw [answer] at acknowledged
        exact acknowledged
      have left : (acknowledgeFrame (edge.registryPeerId, frame.key) (takeItem stream relay)).mailbox
          edge.registryPeerId = frames := by
        obtain ⟨_, _, same⟩ := acknowledgeFrame_holdings (edge.registryPeerId, frame.key) (takeItem stream relay)
        have mailbox := congrArg (fun holdings => holdings.mailbox edge.registryPeerId) same
        simp only [Function.update_self] at mailbox
        show (acknowledgeFrame (edge.registryPeerId, frame.key) (takeItem stream relay)).holdings.mailbox _ = _
        rw [mailbox]
        show (relay.mailbox edge.registryPeerId).eraseP (·.key = frame.key) = frames
        rw [held, List.eraseP_cons_of_pos (by simp)]
      obtain ⟨acknowledgedRest, submittedRest, mailboxRest, attendedRest⟩ :=
        ih settled left fun other member => generic other (List.mem_cons_of_mem _ member)
      exact ⟨congrArg (frame :: ·) acknowledgedRest, congrArg (frame :: ·) submittedRest, mailboxRest, attendedRest⟩

theorem mailbox_disconnectNodeIfCurrent {node : String} {generation : UInt64}
    (generic : ∀ frame ∈ relay.mailbox node, frame.hasExactlyOneGenericPayload = true) :
    (disconnectNodeIfCurrent node generation relay).mailbox node = relay.mailbox node := by
  unfold disconnectNodeIfCurrent
  split
  · unfold dropConnection abandonFleetObservationDestination
    rw [mailbox_retainMailbox, Function.update_self]
    show (relay.mailbox node).filter _ = relay.mailbox node
    rw [List.filter_eq_self]
    intro frame stored
    obtain ⟨_, _, fleet⟩ := generic_payload (generic frame stored)
    exact fleet
  · rfl

theorem runRelayStream_mailbox (attended : relay.Attended) (held : relay.mailbox edge.registryPeerId = frames)
    (generic : ∀ frame ∈ frames, frame.hasExactlyOneGenericPayload = true) :
    (edge.runRelayStream relay).acknowledged = frames.takeWhile edge.Accepts ∧
      (edge.runRelayStream relay).submitted =
        frames.takeWhile edge.Accepts ++ (frames.dropWhile edge.Accepts).take 1 ∧
      (edge.runRelayStream relay).relay.mailbox edge.registryPeerId = frames.dropWhile edge.Accepts ∧
      (edge.runRelayStream relay).relay.Attended := by
  have connected : (connectNode edge.registryPeerId relay).2.Attended :=
    step_attended attended (.connectNode edge.registryPeerId)
  have opened := (connectNode_opened edge.registryPeerId attended.sound).replayed
  have replayed : ((connectNode edge.registryPeerId relay).2.streams relay.streamCount).waiting = frames.map .ok := by
    rw [opened, held]
    rfl
  obtain ⟨acknowledged, submitted, mailbox, attendedAfter⟩ :=
    @streamLoop_mailbox edge _ relay.streamCount frames connected held generic
  unfold EdgeNode.runRelayStream
  simp only [replayed]
  refine ⟨acknowledged, submitted, ?_, ?_⟩
  · rw [mailbox_disconnectNodeIfCurrent]
    · exact mailbox
    · intro frame stored
      change frame ∈ (edge.streamLoop relay.streamCount (frames.map .ok)
        (connectNode edge.registryPeerId relay).2).relay.mailbox edge.registryPeerId at stored
      rw [mailbox] at stored
      exact generic frame ((List.dropWhile_sublist _).subset stored)
  · exact step_attended (step_attended attendedAfter (.closeStream relay.streamCount))
      (.disconnectNodeIfCurrent edge.registryPeerId (connectNode edge.registryPeerId relay).1.2)

theorem takeWhile_dropWhile {accepts : RelayFrame → Bool} : (frames.dropWhile accepts).takeWhile accepts = [] := by
  induction frames with
  | nil => rfl
  | cons frame frames ih =>
    cases accepted : accepts frame with
    | true => rw [List.dropWhile_cons_of_pos accepted, ih]
    | false =>
      rw [List.dropWhile_cons_of_neg (by simp [accepted]), List.takeWhile_cons_of_neg (by simp [accepted])]

theorem superviseRelayStream_mailbox (attended : relay.Attended) (held : relay.mailbox edge.registryPeerId = frames)
    (generic : ∀ frame ∈ frames, frame.hasExactlyOneGenericPayload = true) (sessions : Nat) :
    (∀ frame ∈ (edge.superviseRelayStream sessions relay).acknowledged, frame ∈ frames.takeWhile edge.Accepts) ∧
      ∀ frame ∈ (edge.superviseRelayStream sessions relay).submitted,
        frame ∈ frames.takeWhile edge.Accepts ++ (frames.dropWhile edge.Accepts).take 1 := by
  induction sessions generalizing relay frames with
  | zero => exact ⟨fun _ member => absurd member List.not_mem_nil, fun _ member => absurd member List.not_mem_nil⟩
  | succ sessions ih =>
    obtain ⟨acknowledged, submitted, mailbox, attendedAfter⟩ := runRelayStream_mailbox attended held generic
    obtain ⟨acknowledgedRest, submittedRest⟩ := ih attendedAfter mailbox fun frame member =>
      generic frame ((List.dropWhile_sublist _).subset member)
    have stuck : (frames.dropWhile edge.Accepts).dropWhile edge.Accepts = frames.dropWhile edge.Accepts := by
      have whole := @List.takeWhile_append_dropWhile _ (fun frame => decide (edge.Accepts frame))
        (frames.dropWhile edge.Accepts)
      rw [takeWhile_dropWhile] at whole
      exact whole
    rw [takeWhile_dropWhile] at acknowledgedRest submittedRest
    rw [stuck, List.nil_append] at submittedRest
    unfold EdgeNode.superviseRelayStream
    simp only [acknowledged, submitted]
    constructor
    · intro frame member
      rcases List.mem_append.mp member with first | later
      · exact first
      · exact absurd (acknowledgedRest frame later) List.not_mem_nil
    · intro frame member
      rcases List.mem_append.mp member with first | later
      · exact first
      · exact List.mem_append_right _ (submittedRest frame later)

/-- No frame stands behind one that is rejected. -/
def EdgeNode.Unblocked (edge : EdgeNode) (frames : List RelayFrame) : Prop :=
  ∀ front frame back, frames = front ++ frame :: back → ¬ edge.Accepts frame → back = []

theorem unblocked_iff : edge.Unblocked frames ↔ (frames.dropWhile edge.Accepts).tail = [] := by
  constructor
  · intro unblocked
    cases rejected : frames.dropWhile edge.Accepts with
    | nil => rfl
    | cons frame back =>
      have whole := @List.takeWhile_append_dropWhile _ (fun frame => decide (edge.Accepts frame)) frames
      rw [rejected] at whole
      refine unblocked _ frame back whole.symm ?_
      have first := @List.head?_dropWhile_not _ (fun frame => decide (edge.Accepts frame)) frames
      rw [rejected] at first
      simpa using first
  · intro short front frame back whole rejected
    subst whole
    induction front with
    | nil =>
      rw [List.nil_append, List.dropWhile_cons_of_neg (by simp [rejected])] at short
      exact short
    | cons earlier front ih =>
      by_cases accepted : edge.Accepts earlier
      · rw [List.cons_append, List.dropWhile_cons_of_pos (by simp [accepted])] at short
        exact ih short
      · rw [List.cons_append, List.dropWhile_cons_of_neg (by simp [accepted]), List.tail_cons] at short
        exact absurd (List.append_eq_nil_iff.mp short).2 (List.cons_ne_nil _ _)

end

/-- Each accepted frame is acknowledged and every one is submitted, over any number of sessions, exactly if none
stands behind a rejected one. -/
theorem rejected_frame_blocks_iff (ops : List RelayOp) (edge : EdgeNode) (frames : List RelayFrame)
    (held : (Run.run step PeerState.empty ops).mailbox edge.registryPeerId = frames)
    (generic : ∀ frame ∈ frames, frame.hasExactlyOneGenericPayload = true) :
    ((∀ frame ∈ frames, edge.Accepts frame → ∃ sessions,
        frame ∈ (edge.superviseRelayStream sessions (Run.run step PeerState.empty ops)).acknowledged) ∧
      (∀ frame ∈ frames, ∃ sessions,
        frame ∈ (edge.superviseRelayStream sessions (Run.run step PeerState.empty ops)).submitted)) ↔
      edge.Unblocked frames := by
  have attended := run_attended ops
  obtain ⟨acknowledged, submitted, _, _⟩ := runRelayStream_mailbox attended held generic
  have bounds := superviseRelayStream_mailbox attended held generic
  have whole := @List.takeWhile_append_dropWhile _ (fun frame => decide (edge.Accepts frame)) frames
  have distinct : frames.Nodup := by
    have keys := attended.sound.distinct edge.registryPeerId
    change ((PeerState.mailbox _ edge.registryPeerId).map RelayFrame.key).Nodup at keys
    rw [held] at keys
    exact keys.of_map
  rw [unblocked_iff]
  constructor
  · intro reached
    cases rejected : frames.dropWhile edge.Accepts with
    | nil => rfl
    | cons frame back =>
      rw [rejected] at whole
      cases back with
      | nil => rfl
      | cons behind back =>
        -- The frame behind the first rejected one is submitted in no session.
        have listed : behind ∈ frames := by
          rw [← whole]
          simp
        obtain ⟨sessions, given⟩ := reached.2 behind listed
        have early := (bounds sessions).2 behind given
        rw [rejected, List.take_succ_cons, List.take_zero] at early
        rw [← whole, List.append_cons, List.nodup_append] at distinct
        exact absurd rfl (distinct.2.2 behind early behind List.mem_cons_self)
  · intro short
    have once : frames.takeWhile edge.Accepts ++ (frames.dropWhile edge.Accepts).take 1 = frames := by
      cases rejected : frames.dropWhile edge.Accepts with
      | nil =>
        rw [rejected] at whole
        exact whole
      | cons frame back =>
        rw [rejected] at whole short
        rw [List.tail_cons] at short
        subst short
        exact whole
    refine ⟨?_, ?_⟩
    · intro frame listed accepted
      refine ⟨1, ?_⟩
      unfold EdgeNode.superviseRelayStream
      simp only [acknowledged, EdgeNode.superviseRelayStream, List.append_nil]
      rw [← once] at listed
      rcases List.mem_append.mp listed with early | late
      · exact early
      · cases rejected : frames.dropWhile edge.Accepts with
        | nil =>
          rw [rejected] at late
          cases late
        | cons first back =>
          have refused := List.head?_dropWhile_not (fun frame => decide (edge.Accepts frame)) frames
          rw [rejected] at late refused
          cases List.mem_singleton.mp late
          simp [accepted] at refused
    · intro frame listed
      refine ⟨1, ?_⟩
      unfold EdgeNode.superviseRelayStream
      simp only [submitted, EdgeNode.superviseRelayStream, List.append_nil]
      rw [once]
      exact listed

def sampleFrame (frameId source taskId : String) : RelayFrame where
  frameId
  task := some ⟨some ⟨taskId⟩, none, none, 0, [], .empty, 0⟩
  authenticatedSourceNodeId := source
  destinationNodeId := "edge"

def sampleEdge : EdgeNode where
  registryPeerId := "edge"
  verdict := fun frame => (Daemon.parseRequiredTaskId (frame.task.bind (·.taskId))).map fun _ => ()
  dispatch := fun _ => .error (.failedPrecondition "no handler")
  trimmed := by decide
  named := by decide

def soundFrame : RelayFrame := sampleFrame "relay-frame-2" "origin" "task-1"

def poisonedFrame : RelayFrame := sampleFrame "relay-frame-1" "stranger" "task 1"

/-- The frame that the daemon rejects stands behind the other one. -/
def soundFirst : List RelayOp := [.routeFrame "edge" soundFrame, .routeFrame "edge" poisonedFrame]

theorem sample_frame_submitted :
    (∃ sessions, soundFrame ∈ (sampleEdge.superviseRelayStream sessions
        (Run.run step PeerState.empty soundFirst)).acknowledged) ∧
      ∃ sessions, poisonedFrame ∈ (sampleEdge.superviseRelayStream sessions
        (Run.run step PeerState.empty soundFirst)).submitted := by
  have generic : ∀ frame ∈ [soundFrame, poisonedFrame], frame.hasExactlyOneGenericPayload = true := by decide
  have reached := (rejected_frame_blocks_iff soundFirst sampleEdge [soundFrame, poisonedFrame] rfl generic).mpr
    (unblocked_iff.mpr rfl)
  exact ⟨reached.1 soundFrame List.mem_cons_self (by decide),
    reached.2 poisonedFrame (List.mem_cons_of_mem _ List.mem_cons_self)⟩

/-- A frame with an invalid task id keeps the frame of another node from being submitted. -/
theorem poisoned_frame_blocks :
    ¬ ∀ (ops : List RelayOp) (edge : EdgeNode) (frames : List RelayFrame),
      (Run.run step PeerState.empty ops).mailbox edge.registryPeerId = frames →
      (∀ frame ∈ frames, frame.hasExactlyOneGenericPayload = true) →
      (∀ frame ∈ frames, edge.Accepts frame → ∃ sessions,
          frame ∈ (edge.superviseRelayStream sessions (Run.run step PeerState.empty ops)).acknowledged) ∧
        ∀ frame ∈ frames, ∃ sessions,
          frame ∈ (edge.superviseRelayStream sessions (Run.run step PeerState.empty ops)).submitted := by
  intro every
  have held : (Run.run step PeerState.empty [.routeFrame "edge" poisonedFrame, .routeFrame "edge" soundFrame]).mailbox
      sampleEdge.registryPeerId = [poisonedFrame, soundFrame] := rfl
  have generic : ∀ frame ∈ [poisonedFrame, soundFrame], frame.hasExactlyOneGenericPayload = true := by decide
  obtain ⟨sessions, acknowledged⟩ := (every _ sampleEdge _ held generic).1 soundFrame (by simp) (by decide)
  have none := (superviseRelayStream_mailbox (run_attended _) held generic sessions).1 soundFrame acknowledged
  have rejected : [poisonedFrame, soundFrame].takeWhile (fun frame => decide (sampleEdge.Accepts frame)) = [] := rfl
  rw [rejected] at none
  cases none

end Keryx.Relay
