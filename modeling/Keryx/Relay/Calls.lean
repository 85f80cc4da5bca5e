import Keryx.Relay.Waiters
import Keryx.Relay.Streams

/-! The events of the relay service as calls of its runtime. -/

namespace Keryx.Relay
open Keryx.Core Proto Relational Concurrent
open Daemon (Status)
open Session (attempt)

def PendingFrameOwnership.key (pending : PendingFrameOwnership) : FrameKey :=
  (pending.destinationNodeId, pending.frameId)

def ServiceEvent.caller : ServiceEvent → Option String
  | .registerNode service request => (registeringNode service request).toOption
  | .connectNode service metadata | .ackFrame service metadata _ | .ackTask service metadata =>
    (connectingNode service metadata).toOption
  | .publishTask service _ metadata request => (service.authenticateRequest metadata request.sourceNodeId).toOption
  | .publishResult service metadata request => (service.authenticateRequest metadata request.sourceNodeId).toOption
  | .publishNodescaleIdentityBind service metadata _ _ | .publishNodescaleIdentityBindV2 service metadata _ _
  | .publishNodescaleIdentityChallenge service metadata _ _ | .publishNodescaleIdentityChallengeV2 service metadata _ _
  | .publishFleetObservation service _ _ metadata _ _ | .completeNodescaleIdentityBind service metadata _ _
  | .completeNodescaleIdentityChallenge service metadata _ _ | .completeFleetObservation service metadata _ _ =>
    (service.authenticateMetadataOnly metadata).toOption
  | .endConnection _ _ | .endWait _ _ | .takeItem _ | .closeStream _ => none

def ServiceEvent.Presents (node : String) : ServiceEvent → Prop
  | .publishTask service _ metadata _ | .publishResult service metadata _
  | .publishNodescaleIdentityBind service metadata _ _ | .publishNodescaleIdentityBindV2 service metadata _ _
  | .publishNodescaleIdentityChallenge service metadata _ _ | .publishNodescaleIdentityChallengeV2 service metadata _ _
  | .publishFleetObservation service _ _ metadata _ _ => Relay.Presents service metadata node
  | _ => False

/-- Its own frame, when its time is over or its client has gone. -/
def ServiceState.GivesUp (state : ServiceState) (index : Nat) (ending : WaitEnd) (key : FrameKey) : Prop :=
  ending ≠ .polled ∧ ∃ pending, state.pending[index]? = some pending ∧ key = pending.key

/-- Those for the node that makes the call, the one that a waiting call gives up, and those for a node whose stream
ends. -/
def ServiceState.Touches (state : ServiceState) (event : ServiceEvent) (key : FrameKey) : Prop :=
  match event with
  | .endWait index ending => state.GivesUp index ending key
  | .endConnection index _ => ∃ connection, state.connections[index]? = some connection ∧ key.1 = connection.nodeId
  | call => call.caller = some key.1

/-- The publisher keeps its place, waits no longer once it is answered, and succeeds only if it was. -/
structure Remains (relay : PeerState) (before after : PendingFrameOwnership) : Prop where
  source : after.sourceNodeId = before.sourceNodeId
  key : after.key = before.key
  awaited : after.awaited = before.awaited
  waiting : after.progress = .waiting → before.progress = .waiting
  told : after.progress.succeeded = true → before.progress.succeeded = true ∨ before.awaited.delivered relay = true

theorem Remains.refl (relay : PeerState) (pending : PendingFrameOwnership) : Remains relay pending pending :=
  ⟨rfl, rfl, rfl, id, .inl⟩

/-- No id is given out twice, no publisher loses its place, and some may be new. -/
structure Keeps (before after : ServiceState) (more : List PendingFrameOwnership) : Prop where
  issued : before.issued ≤ after.issued
  places : ∀ (place : Nat) pending, before.pending[place]? = some pending →
    ∃ later, after.pending[place]? = some later ∧ Remains before.relay pending later
  earlier : ∀ later ∈ after.pending, later ∈ more ∨ ∃ pending ∈ before.pending, Remains before.relay pending later

/-- A new publisher waits for the answer to the frame that the call brings in. -/
structure Publishes (op : RelayOp) (relay : PeerState) (pending : PendingFrameOwnership) : Prop where
  unpublished : op.publishes = none
  carries : ∃ frame, op.carries = some (pending.destinationNodeId, frame) ∧ frame.key = pending.frameId ∧
    frame.authenticatedSourceNodeId = pending.sourceNodeId
  waits : (relay.waiters pending.awaited.kind).find pending.key = some (pending.key, pending.awaited.receiver)

def LocalTypedControlDispatch.Valid : LocalTypedControlDispatch → Prop
  | .bind result => validateNodescaleIdentityBindResult result = .ok ()
  | .challenge result => validateNodescaleIdentityChallengeResult result = .ok ()
  | .fleetObservation result => validateFleetObservationResult result = .ok ()

/-- A frame that is brought in has a new id and names a node that the call presents the token of; frames go that the
event may touch, or whose publisher is left without an answer. -/
structure Makes (ids : FrameIds) (event : ServiceEvent) (op : RelayOp) (before after : ServiceState) : Prop where
  served : op.Served
  brings : ∀ target frame, op.carries = some (target, frame) → frame.frameId = ids.id before.issued ∧
    before.issued < after.issued ∧ event.Presents frame.authenticatedSourceNodeId
  reaches : ∀ key, op.touches key → before.Touches event key ∨ ∃ pending ∈ before.pending,
    pending.progress = .waiting ∧ pending.awaited.closed before.relay = true ∧ pending.key = key
  abandons : ∀ destination frameId, op = .abandonFrame destination frameId →
    ∃ pending ∈ before.pending, pending.frameId = frameId
  acknowledges : ∀ node frameId, op = .ackFrame node frameId →
    ∃ service metadata, event = .ackFrame service metadata frameId ∧ connectingNode service metadata = .ok node
  completes : ∀ kind destination frameId result, op = .completeControl kind destination frameId result → result.Valid

inductive Performs (ids : FrameIds) (event : ServiceEvent) (before after : ServiceState) : Prop
  | nothing (relay : after.relay = before.relay) (keeps : Keeps before after [])
  | call (op : RelayOp) (more : List PendingFrameOwnership) (relay : after.relay = step before.relay op)
      (keeps : Keeps before after more) (publishes : ∀ pending ∈ more, Publishes op after.relay pending)
      (makes : Makes ids event op before after)

section
variable {ids : FrameIds} {state after : ServiceState} {service : RelayHealthService} {metadata : Metadata}
  {event : ServiceEvent}

theorem Keeps.grown {more : List PendingFrameOwnership} (issued : state.issued ≤ after.issued)
    (pending : after.pending = state.pending ++ more) : Keeps state after more := by
  refine ⟨issued, ?_, ?_⟩
  · intro place waiting found
    refine ⟨waiting, ?_, .refl state.relay waiting⟩
    rw [pending, List.getElem?_append_left (List.getElem?_eq_some_iff.mp found).1]
    exact found
  · intro later member
    rw [pending] at member
    rcases List.mem_append.mp member with old | new
    · exact .inr ⟨later, old, .refl state.relay later⟩
    · exact .inl new

theorem Keeps.same (issued : state.issued ≤ after.issued) (pending : after.pending = state.pending) :
    Keeps state after [] := by
  rw [← List.append_nil state.pending] at pending
  exact .grown issued pending

variable {pending : PendingFrameOwnership} {progress : WaitProgress}

theorem ends_succeeded {ending : WaitEnd} (ends : pending.ends state.relay ending = some progress)
    (succeeded : progress.succeeded = true) : pending.awaited.delivered state.relay = true := by
  unfold PendingFrameOwnership.ends at ends
  split at ends
  · cases ends
    cases succeeded
  split at ends
  · assumption
  split at ends
  · cases ends
    cases succeeded
  split at ends
  · cases ends
    cases succeeded
  · cases ends

theorem Keeps.ended {index : Nat} {ending : WaitEnd}
    (found : state.pending[index]? = some pending) (waiting : pending.progress = .waiting)
    (ends : pending.ends state.relay ending = some progress) (issued : state.issued ≤ after.issued)
    (set : after.pending = state.pending.set index { pending with progress }) : Keeps state after [] := by
  have remains : Remains state.relay pending { pending with progress } :=
    ⟨rfl, rfl, rfl, fun _ => waiting, fun succeeded => .inr (ends_succeeded ends succeeded)⟩
  refine ⟨issued, ?_, ?_⟩
  · intro place other present
    rw [set]
    by_cases same : index = place
    · subst same
      cases found.symm.trans present
      refine ⟨{ pending with progress }, ?_, remains⟩
      rw [List.getElem?_set_self (List.getElem?_eq_some_iff.mp found).1]
    · rw [List.getElem?_set_ne same]
      exact ⟨other, present, .refl state.relay other⟩
  · intro later member
    rw [set] at member
    rcases List.mem_or_eq_of_mem_set member with old | rfl
    · exact .inr ⟨later, old, .refl state.relay later⟩
    · exact .inr ⟨pending, List.mem_of_getElem? found, remains⟩

theorem Performs.idle (relay : after.relay = state.relay) (issued : state.issued ≤ after.issued)
    (pending : after.pending = state.pending) : Performs ids event state after :=
  .nothing relay (.same issued pending)

theorem Performs.quiet (op : RelayOp) (relay : after.relay = step state.relay op) (issued : after.issued = state.issued)
    (pending : after.pending = state.pending) (served : op.Served) (empty : op.carries = none)
    (silent : ∀ node frameId, op ≠ .ackFrame node frameId ∧ op ≠ .abandonFrame node frameId)
    (reaches : ∀ key, op.touches key → state.Touches event key)
    (completes : ∀ kind destination frameId result, op = .completeControl kind destination frameId result →
      result.Valid) : Performs ids event state after := by
  refine .call op [] relay (.same issued.ge pending) (fun _ member => absurd member List.not_mem_nil)
    ⟨served, ?_, fun key touches => .inl (reaches key touches), ?_, ?_, completes⟩
  · intro target frame carries
    rw [empty] at carries
    cases carries
  · exact fun destination frameId same => absurd same (silent destination frameId).2
  · exact fun node frameId same => absurd same (silent node frameId).1

theorem issued_key {frame : RelayFrame} (named : frame.frameId = ids.id state.issued) :
    frame.key = ids.id state.issued := by
  have clean : Clean frame.frameId := by
    rw [named]
    exact ids.clean _
  exact (key_of_clean clean).trans named

theorem Makes.bringing {op : RelayOp} {target : String} {frame : RelayFrame} (served : op.Served)
    (carries : op.carries = some (target, frame)) (named : frame.frameId = ids.id state.issued)
    (issued : after.issued = state.issued + 1) (presents : event.Presents frame.authenticatedSourceNodeId) :
    Makes ids event op state after := by
  refine ⟨served, ?_, ?_, ?_, ?_, ?_⟩
  · intro node brought carried
    cases carries.symm.trans carried
    exact ⟨named, by omega, presents⟩
  · intro key touches
    cases op <;> cases carries <;> cases touches
  · rintro destination frameId rfl
    cases carries
  · rintro node frameId rfl
    cases carries
  · rintro kind destination frameId result rfl
    cases carries

theorem taskPublication_ok {request : PublishTaskRequest} {source target : String} {task : TaskEnvelope} {taskId : ProtoId}
    (success : taskPublication service metadata request = .ok (source, task, target, taskId)) :
    service.authenticateRequest metadata request.sourceNodeId = .ok source ∧ request.task = some task ∧
      publicationTarget request task = .ok target ∧ service.rejectDirectControlOnlyDestination target = .ok () := by
  obtain ⟨node, authenticated, rest⟩ := except_bind_ok.mp success
  obtain ⟨envelope, given, rest⟩ := except_bind_ok.mp rest
  obtain ⟨destination, targets, rest⟩ := except_bind_ok.mp rest
  obtain ⟨_, allowed, rest⟩ := except_bind_ok.mp rest
  have same : (node, envelope, destination) = (source, task, target) := by
    simp only at rest
    split at rest
    · obtain ⟨_, _, rest⟩ := except_bind_ok.mp rest
      obtain ⟨_, _, rest⟩ := except_bind_ok.mp rest
      obtain ⟨_, _, rest⟩ := except_bind_ok.mp rest
      cases except_pure_ok.mp rest
      rfl
    · obtain ⟨_, _, rest⟩ := except_bind_ok.mp rest
      obtain ⟨_, _, rest⟩ := except_bind_ok.mp rest
      cases except_pure_ok.mp rest
      rfl
  cases same
  exact ⟨authenticated, requirePresent_ok.mp given, targets, allowed⟩

theorem resultPublication_ok {request : PublishResultRequest} {source target : String} {result : TaskResultEnvelope}
    (success : resultPublication service metadata request = .ok (source, result, target)) :
    service.authenticateRequest metadata request.sourceNodeId = .ok source ∧ request.result = some result ∧
      target = trim request.targetNodeId ∧ service.rejectDirectControlOnlyDestination target = .ok () := by
  unfold resultPublication at success
  split at success
  · cases success
  simp only at success
  obtain ⟨node, authenticated, rest⟩ := except_bind_ok.mp success
  obtain ⟨envelope, given, rest⟩ := except_bind_ok.mp rest
  obtain ⟨destination, named, rest⟩ := except_bind_ok.mp rest
  obtain ⟨_, allowed, rest⟩ := except_bind_ok.mp rest
  have same : (node, envelope, destination) = (source, result, target) := by
    split at rest
    · obtain ⟨_, _, rest⟩ := except_bind_ok.mp rest
      obtain ⟨_, _, rest⟩ := except_bind_ok.mp rest
      exact except_pure_ok.mp rest
    · obtain ⟨_, _, rest⟩ := except_bind_ok.mp rest
      exact except_pure_ok.mp rest
  cases same
  refine ⟨authenticated, requirePresent_ok.mp given, ?_, allowed⟩
  unfold requiredNodeValue at named
  split at named
  · cases named
  · exact (Except.ok.inj named).symm

theorem resultPublication_presents {request : PublishResultRequest} {publication : String × TaskResultEnvelope × String}
    (success : resultPublication service metadata request = .ok publication) :
    Presents service metadata publication.1 := by
  obtain ⟨source, result, target⟩ := publication
  exact (authenticateRequest_presents (resultPublication_ok success).1).1

variable {α : Type}

theorem controlPublication_presents {control : ControlPublication α} {operation : Option α} {target : String}
    {publication : String × α × String}
    (success : controlPublication control service metadata operation target = .ok publication) :
    Presents service metadata publication.1 := by
  obtain ⟨source, authenticated, rest⟩ := except_bind_ok.mp success
  iterate 4 obtain ⟨_, _, rest⟩ := except_bind_ok.mp rest
  rw [← except_pure_ok.mp rest]
  exact authenticateMetadataOnly_presents authenticated

theorem controlResult_caller {control : ControlResult α} {result : Option α} {frameId : String}
    {completion : String × String × α}
    (success : controlResult control service metadata frameId result = .ok completion) :
    service.authenticateMetadataOnly metadata = .ok completion.1 ∧ control.validate completion.2.2 = .ok () := by
  obtain ⟨destination, authenticated, rest⟩ := except_bind_ok.mp success
  obtain ⟨_, _, rest⟩ := except_bind_ok.mp rest
  obtain ⟨_, _, rest⟩ := except_bind_ok.mp rest
  obtain ⟨_, validated, rest⟩ := except_bind_ok.mp rest
  rw [← except_pure_ok.mp rest]
  exact ⟨authenticated, validated⟩

theorem connectingNode_presents {node : String} (success : connectingNode service metadata = .ok node) :
    Presents service metadata node := by
  obtain ⟨_, _, authenticated⟩ := except_bind_ok.mp success
  exact (authenticateRequest_presents authenticated).1

theorem ensureFrameRouted_routed {delivery : FrameDelivery} :
    (∃ status, ensureFrameRouted delivery = .error status ∧ delivery.isRouted = false) ∨
      (ensureFrameRouted delivery = .ok () ∧ delivery.isRouted = true) := by
  cases delivery with
  | delivered => exact .inr ⟨rfl, rfl⟩
  | mailboxed => exact .inr ⟨rfl, rfl⟩
  | rejectedDuplicate => exact .inl ⟨_, rfl, rfl⟩
  | rejectedCapacity => exact .inl ⟨_, rfl, rfl⟩
  | rejectedInvalid => exact .inl ⟨_, rfl, rfl⟩

section
variable {kind : Option ControlKind} {source target lacking : String} {frame : RelayFrame}

theorem routeHeldFrame_cases (frameId : String) :
    (∃ status, routeHeldFrame kind source target frameId lacking (routeAwaited kind target frame) state =
        (.error status, { state with relay := step state.relay (.awaiting kind target frame) })) ∨
      ∃ receiver, (routeAwaited kind target frame state.relay).1.2 = some receiver ∧
        routeHeldFrame kind source target frameId lacking (routeAwaited kind target frame) state =
          (.ok state.pending.length,
            { state with
              relay := step state.relay (.awaiting kind target frame)
              pending := state.pending ++ [⟨source, target, frameId, ⟨kind, receiver⟩, .waiting⟩] }) := by
  have unfolded : routeHeldFrame kind source target frameId lacking (routeAwaited kind target frame) state =
      (attempt (ensureFrameRouted (routeAwaited kind target frame state.relay).1.1) >>= fun _ =>
        holdFrame source target frameId ((routeAwaited kind target frame state.relay).1.2.map (Awaited.mk kind)) lacking)
        { state with relay := step state.relay (.awaiting kind target frame) } := by
    rw [step_awaiting]
    rfl
  rw [unfolded, Session.attempt_bind]
  rcases @ensureFrameRouted_routed (routeAwaited kind target frame state.relay).1.1 with
    ⟨status, refused, _⟩ | ⟨accepted, routed⟩
  · rw [refused]
    exact .inl ⟨status, rfl⟩
  · rw [accepted]
    rcases routeAwaited_cases kind target frame state.relay with ⟨_, refused, _⟩ | ⟨_, opened, _⟩
    · rw [refused] at routed
      cases routed
    · rw [opened]
      exact .inr ⟨_, rfl, rfl⟩

theorem routeHeldFrame_performs (named : frame.frameId = ids.id state.issued)
    (authentic : frame.authenticatedSourceNodeId = source) (presents : event.Presents source) :
    Performs ids event state (routeHeldFrame kind source target (ids.id state.issued) lacking
      (routeAwaited kind target frame) { state with issued := state.issued + 1 }).2 := by
  obtain ⟨carries, _⟩ := @awaiting_carries target frame kind
  have served : (RelayOp.awaiting kind target frame).Served := by
    have clean : Clean frame.frameId := by
      rw [named]
      exact ids.clean _
    cases kind <;> exact clean
  have makes : ∀ {after : ServiceState}, after.issued = state.issued + 1 →
      Makes ids event (.awaiting kind target frame) state after :=
    fun issued => .bringing served carries named issued (authentic.symm ▸ presents)
  rcases @routeHeldFrame_cases { state with issued := state.issued + 1 } kind source target lacking frame
    (ids.id state.issued) with ⟨status, refused⟩ | ⟨receiver, installed, held⟩
  · rw [refused]
    exact .call _ [] rfl (.same (Nat.le_succ _) rfl) (fun _ member => absurd member List.not_mem_nil) (makes rfl)
  · rw [held]
    refine .call _ _ rfl (.grown (Nat.le_succ _) rfl) (List.forall_mem_singleton.mpr ?_) (makes rfl)
    have keyed : frame.key = ids.id state.issued := issued_key named
    refine ⟨by cases kind <;> rfl, ⟨frame, carries, keyed, authentic⟩, ?_⟩
    have waits := (routeAwaited_places installed).2
    rw [← step_awaiting, keyed] at waits
    exact waits

end

def frameOfResult (frameId source target : String) (result : TaskResultEnvelope) : RelayFrame :=
  { frameId, result := some result, authenticatedSourceNodeId := source, destinationNodeId := target }

theorem publishResultCall_cases (request : PublishResultRequest) :
    (∃ status, publishResultCall service ids metadata request state = (.error status, state)) ∨
      ∃ source result target routed, resultPublication service metadata request = .ok (source, result, target) ∧
        routed = step state.relay
          (.routeFrameWaitingForAck target (frameOfResult (ids.id state.issued) source target result)) ∧
        ((∃ status, publishResultCall service ids metadata request state =
            (.error status, { state with relay := routed, issued := state.issued + 1 })) ∨
          ∃ receiver, state.relay.receiver target (frameOfResult (ids.id state.issued) source target result) none =
              some receiver ∧
            publishResultCall service ids metadata request state =
              (.ok state.pending.length,
                { state with
                  relay := routed
                  issued := state.issued + 1
                  pending := state.pending ++
                    [⟨source, target, ids.id state.issued, ⟨none, receiver⟩, .waiting⟩] })) := by
  unfold publishResultCall
  rw [Session.attempt_bind]
  cases accepted : resultPublication service metadata request with
  | error status => exact .inl ⟨status, rfl⟩
  | ok publication =>
    obtain ⟨source, result, target⟩ := publication
    refine .inr ⟨source, result, target, _, rfl, rfl, ?_⟩
    simp only
    rw [newRelayFrameId_bind]
    rcases @routeHeldFrame_cases { state with issued := state.issued + 1 } none source target
      "accepted result frame lacks acknowledgement state" (frameOfResult (ids.id state.issued) source target result)
      (ids.id state.issued) with ⟨status, refused⟩ | ⟨receiver, installed, held⟩
    · exact .inl ⟨status, refused⟩
    · exact .inr ⟨receiver, installed, held⟩

theorem publishResultCall_performs (request : PublishResultRequest)
    (presents : ∀ node, Presents service metadata node → event.Presents node) :
    Performs ids event state (publishResultCall service ids metadata request state).2 := by
  unfold publishResultCall
  rw [Session.attempt_bind]
  cases accepted : resultPublication service metadata request with
  | error status => exact .idle rfl (Nat.le_refl _) rfl
  | ok publication =>
    obtain ⟨source, result, target⟩ := publication
    exact @routeHeldFrame_performs ids state event none source target _
      (frameOfResult (ids.id state.issued) source target result) rfl rfl (presents _ (resultPublication_presents accepted))

theorem publishControlCall_performs (control : ControlPublication α) (operation : Option α) (target : String)
    (presents : ∀ node, Presents service metadata node → event.Presents node) :
    Performs ids event state (publishControlCall control service ids metadata operation target state).2 := by
  unfold publishControlCall
  rw [Session.attempt_bind]
  cases accepted : controlPublication control service metadata operation target with
  | error status => exact .idle rfl (Nat.le_refl _) rfl
  | ok publication =>
    obtain ⟨source, operation, target⟩ := publication
    have filled := control.filled operation
      { frameId := ids.id state.issued, authenticatedSourceNodeId := source, destinationNodeId := target }
    exact @routeHeldFrame_performs ids state event (some control.kind) source target _ _ filled.1 filled.2
      (presents _ (controlPublication_presents accepted))

theorem publishTaskCall_cases (nowMs : Int) (request : PublishTaskRequest) :
    (publishTaskCall service ids nowMs metadata request state).2 = state ∨
      (publishTaskCall service ids nowMs metadata request state).2 = { state with issued := state.issued + 1 } ∨
      ∃ source target taskId identityTask routedTask frame receipt, Presents service metadata source ∧
        frame.authenticatedSourceNodeId = source ∧ frame.frameId = ids.id state.issued ∧
        receipt.frameId = frame.frameId ∧
        (publishTaskCall service ids nowMs metadata request state).2 =
          { state with
            relay := (publishTaskFrame source target taskId identityTask routedTask frame receipt state.relay).2
            issued := state.issued + 1 } := by
  unfold publishTaskCall
  rw [Session.attempt_bind]
  cases accepted : taskPublication service metadata request with
  | error status => exact .inl rfl
  | ok publication =>
    obtain ⟨source, task, target, taskId⟩ := publication
    have presents : Presents service metadata source := (authenticateRequest_presents (taskPublication_ok accepted).1).1
    refine .inr ?_
    simp only
    rw [newRelayFrameId_bind, Session.attempt_bind]
    cases (validateIdentifier .peerId source).mapError fun error => unauthenticated (Daemon.validationText error) with
    | error status => exact .inl rfl
    | ok sourcePeerId =>
      refine .inr ⟨source, target, trim taskId.value, canonicalTaskPublicationIdentity task,
        deliveredTask service sourcePeerId task,
        { frameId := ids.id state.issued, task := some (deliveredTask service sourcePeerId task),
          authenticatedSourceNodeId := source, destinationNodeId := target },
        ⟨ids.id state.issued, nowMs⟩, presents, rfl, rfl, rfl, ?_⟩
      -- Whatever is answered, the state stays as the publication left it.
      simp only
      rw [onRelay_bind, Session.bind_pure_state]
      rfl

theorem publishTaskCall_performs (nowMs : Int) (request : PublishTaskRequest)
    (presents : ∀ node, Presents service metadata node → event.Presents node) :
    Performs ids event state (publishTaskCall service ids nowMs metadata request state).2 := by
  rcases @publishTaskCall_cases ids state service metadata nowMs request with
    refused | lost | ⟨source, target, taskId, identityTask, routedTask, frame, receipt, own, authentic, named, same,
      published⟩
  · rw [refused]
    exact .idle rfl (Nat.le_refl _) rfl
  · rw [lost]
    exact .idle rfl (Nat.le_succ _) rfl
  · rw [published]
    refine .call (.publishTaskFrame source target taskId identityTask routedTask frame receipt) [] rfl
      (.same (Nat.le_succ _) rfl) (fun _ member => absurd member List.not_mem_nil) (.bringing ⟨?_, same⟩ rfl named rfl ?_)
    · rw [named]
      exact ids.clean _
    · rw [authentic]
      exact presents _ own

theorem completeControlCall_performs (control : ControlResult α) (frameId : String) (result : Option α)
    (touches : ∀ key : FrameKey, service.authenticateMetadataOnly metadata = .ok key.1 → state.Touches event key)
    (valid : ∀ result, control.validate result = .ok () → (control.dispatch result).Valid) :
    Performs ids event state (completeControlCall control service metadata frameId result state).2 := by
  unfold completeControlCall
  rw [Session.attempt_bind]
  cases accepted : controlResult control service metadata frameId result with
  | error status => exact .idle rfl (Nat.le_refl _) rfl
  | ok completion =>
    obtain ⟨destination, frameId, result⟩ := completion
    obtain ⟨caller, validated⟩ := controlResult_caller accepted
    have trimmed := (authenticateMetadataOnly_presents caller).trimmed.1
    refine .quiet (.completeControl control.kind destination frameId (control.dispatch result)) rfl rfl rfl trivial rfl
      (fun _ _ => ⟨nofun, nofun⟩) ?_ ?_
    · rintro key rfl
      apply touches
      rw [trimmed]
      exact caller
    · rintro _ _ _ _ ⟨⟩
      exact valid _ validated

theorem ackFrameCall_state (frameId : String) :
    (ackFrameCall service metadata frameId state).2 = state ∨
      ∃ node, connectingNode service metadata = .ok node ∧
        (ackFrameCall service metadata frameId state).2 =
          { state with relay := step state.relay (.ackFrame node frameId) } := by
  unfold ackFrameCall
  rw [Session.attempt_bind]
  cases connectingNode service metadata with
  | error status => exact .inl rfl
  | ok node =>
    refine .inr ⟨node, rfl, ?_⟩
    simp only
    rw [onRelay_bind]
    cases (ackFrame node frameId state.relay).1 with
    | accepted => rfl
    | wrongDestination => rfl
    | unknownFrame => rfl

theorem toOption_ok {outcome : Except Status α} {value : α} (success : outcome = .ok value) :
    outcome.toOption = some value := by
  rw [success]
  rfl

theorem ackFrameCall_performs (frameId : String) :
    Performs ids (.ackFrame service metadata frameId) state (ackFrameCall service metadata frameId state).2 := by
  rcases @ackFrameCall_state state service metadata frameId with refused | ⟨node, caller, performed⟩
  · rw [refused]
    exact .idle rfl (Nat.le_refl _) rfl
  · rw [performed]
    refine .call (.ackFrame node frameId) [] rfl (.same (Nat.le_refl _) rfl)
      (fun _ member => absurd member List.not_mem_nil) ⟨trivial, ?_, ?_, nofun, ?_, nofun⟩
    · intro target frame carries
      cases carries
    · rintro key rfl
      left
      show (connectingNode service metadata).toOption = some (trim node)
      rw [(connectingNode_presents caller).trimmed.1]
      exact toOption_ok caller
    · intro other otherId same
      cases same
      exact ⟨service, metadata, rfl, caller⟩

theorem endConnection_performs (index : Nat) (next : Inbound) :
    Performs ids (.endConnection index next) state (endConnection index next state) := by
  unfold endConnection
  split
  · exact .idle rfl (Nat.le_refl _) rfl
  rename_i connection found
  split
  · exact .idle rfl (Nat.le_refl _) rfl
  have reaches : ∀ key : FrameKey, some connection.nodeId = some key.1 →
      state.Touches (.endConnection index next) key :=
    fun key same => ⟨connection, found, (Option.some.inj same).symm⟩
  cases next with
  | frame =>
    exact .quiet (.disconnectNodeWithStatusIfCurrent connection.nodeId connection.generation receiveOnlyStatus) rfl rfl
      rfl trivial rfl (fun _ _ => ⟨nofun, nofun⟩) reaches nofun
  | failed =>
    exact .quiet (.disconnectNodeIfCurrent connection.nodeId connection.generation) rfl rfl rfl trivial rfl
      (fun _ _ => ⟨nofun, nofun⟩) reaches nofun
  | ended =>
    exact .quiet (.disconnectNodeIfCurrent connection.nodeId connection.generation) rfl rfl rfl trivial rfl
      (fun _ _ => ⟨nofun, nofun⟩) reaches nofun

theorem ends_polled {relay : PeerState} (ends : pending.ends relay .polled = some progress)
    (failed : progress.succeeded = false) : pending.awaited.closed relay = true := by
  simp only [PendingFrameOwnership.ends, reduceCtorEq, if_false] at ends
  split at ends
  · cases ends
    cases failed
  split at ends
  · assumption
  · cases ends

theorem endWait_performs (index : Nat) (ending : WaitEnd) :
    Performs ids (.endWait index ending) state (endWait index ending state) := by
  unfold endWait
  split
  · exact .idle rfl (Nat.le_refl _) rfl
  rename_i pending found
  split
  swap
  · exact .idle rfl (Nat.le_refl _) rfl
  rename_i waiting
  split
  · exact .idle rfl (Nat.le_refl _) rfl
  rename_i progress ends
  have member := List.mem_of_getElem? found
  have keeps : ∀ relay, Keeps state
      { state with relay, pending := state.pending.set index { pending with progress } } [] :=
    fun relay => .ended found waiting ends (Nat.le_refl _) rfl
  cases succeeded : progress.succeeded with
  | true => exact .nothing rfl (keeps _)
  | false =>
    refine .call (.abandonFrame pending.destinationNodeId pending.frameId) [] rfl (keeps _)
      (fun _ member => absurd member List.not_mem_nil) ⟨trivial, ?_, ?_, ?_, nofun, nofun⟩
    · intro target frame carries
      cases carries
    · rintro key rfl
      by_cases polled : ending = .polled
      · subst polled
        exact .inr ⟨pending, member, waiting, ends_polled ends succeeded, rfl⟩
      · exact .inl ⟨polled, pending, found, rfl⟩
    · intro destination frameId same
      cases same
      exact ⟨pending, member, rfl⟩

theorem step_performs (ids : FrameIds) (state : ServiceState) (event : ServiceEvent) :
    Performs ids event state (state.step ids event) := by
  cases event with
  | registerNode service request =>
    show Performs ids _ state (registerNodeCall service request state).2
    unfold registerNodeCall
    rw [Session.attempt_bind]
    cases registeringNode service request with
    | error status => exact .idle rfl (Nat.le_refl _) rfl
    | ok node =>
      simp only
      rw [onRelay_bind, Session.bind_pure_state]
      exact .quiet (.registerNode node) rfl rfl rfl trivial rfl (fun _ _ => ⟨nofun, nofun⟩) nofun nofun
  | connectNode service metadata =>
    show Performs ids _ state (connectNodeCall service metadata state).2
    unfold connectNodeCall
    rw [Session.attempt_bind]
    cases connectingNode service metadata with
    | error status => exact .idle rfl (Nat.le_refl _) rfl
    | ok node => exact .quiet (.connectNode node) rfl rfl rfl trivial rfl (fun _ _ => ⟨nofun, nofun⟩) nofun nofun
  | endConnection index next => exact endConnection_performs index next
  | publishTask service nowMs metadata request => exact publishTaskCall_performs nowMs request fun _ => id
  | publishResult service metadata request => exact publishResultCall_performs request fun _ => id
  | publishNodescaleIdentityBind service metadata operation target =>
    exact publishControlCall_performs _ operation target fun _ => id
  | publishNodescaleIdentityBindV2 service metadata operation target =>
    exact publishControlCall_performs _ operation target fun _ => id
  | publishNodescaleIdentityChallenge service metadata operation target =>
    exact publishControlCall_performs _ operation target fun _ => id
  | publishNodescaleIdentityChallengeV2 service metadata operation target =>
    exact publishControlCall_performs _ operation target fun _ => id
  | publishFleetObservation service nowMs deadlineMs metadata operation target =>
    exact publishControlCall_performs _ operation target fun _ => id
  | completeNodescaleIdentityBind service metadata frameId result =>
    exact completeControlCall_performs _ frameId result (fun _ => toOption_ok) fun _ => id
  | completeNodescaleIdentityChallenge service metadata frameId result =>
    exact completeControlCall_performs _ frameId result (fun _ => toOption_ok) fun _ => id
  | completeFleetObservation service metadata frameId result =>
    exact completeControlCall_performs _ frameId result (fun _ => toOption_ok) fun _ => id
  | ackFrame service metadata frameId => exact ackFrameCall_performs frameId
  | ackTask service metadata =>
    show Performs ids _ state (ackTaskCall service metadata state).2
    unfold ackTaskCall
    rw [Session.attempt_bind]
    cases connectingNode service metadata with
    | error status => exact .idle rfl (Nat.le_refl _) rfl
    | ok node => exact .idle rfl (Nat.le_refl _) rfl
  | endWait index ending => exact endWait_performs index ending
  | takeItem stream => exact .quiet (.takeItem stream) rfl rfl rfl trivial rfl (fun _ _ => ⟨nofun, nofun⟩) nofun nofun
  | closeStream stream => exact .quiet (.closeStream stream) rfl rfl rfl trivial rfl (fun _ _ => ⟨nofun, nofun⟩) nofun nofun

def PeerState.Carries (state : PeerState) (frame : RelayFrame) : Prop :=
  (∃ node, frame ∈ state.mailbox node) ∨ ∃ stream, .ok frame ∈ (state.streams stream).sent

section
variable {before after relay : PeerState} {frame : RelayFrame}

theorem admits_carries {op : RelayOp} {target : String} (admitted : relay.admits op = some (target, frame)) :
    op.carries = some (target, frame) := by
  unfold PeerState.admits at admitted
  split at admitted
  · exact admitted
  · cases admitted

theorem connectNode_carries {node : String} (carries : (connectNode node relay).2.Carries frame) :
    relay.Carries frame := by
  rcases carries with ⟨place, stored⟩ | ⟨stream, sent⟩
  · exact .inl ⟨place, stored⟩
  · unfold connectNode connectNodeFenced at sent
    simp only [Function.update_self] at sent
    by_cases new : stream = relay.streamCount
    · subst new
      rw [Function.update_self] at sent
      rcases Channel.mem_trySendAll sent with none | replayed
      · cases none
      · obtain ⟨stored, listed, same⟩ := List.mem_map.mp replayed
        cases same
        exact .inl ⟨node, (List.mem_filter.mp listed).1⟩
    · rw [Function.update_of_ne new, Function.update_of_ne new] at sent
      exact .inr ⟨stream, sent⟩

theorem Eased.carries (eased : Eased before after) (carries : after.Carries frame) : before.Carries frame := by
  rcases carries with ⟨node, stored⟩ | ⟨stream, sent⟩
  · exact .inl ⟨node, (eased.mailbox node).subset stored⟩
  · rcases eased.streams stream with same | ⟨status, _, _, _, _, grown⟩
    · rw [same] at sent
      exact .inr ⟨stream, sent⟩
    · rw [grown] at sent
      rcases List.mem_append.mp sent with earlier | new
      · exact .inr ⟨stream, earlier⟩
      · cases List.mem_singleton.mp new

theorem Arrives.carries {target : String} {brought : RelayFrame} (arrives : Arrives target brought before after)
    (carries : after.Carries frame) : before.Carries frame ∨ frame = brought := by
  rcases carries with ⟨node, stored⟩ | ⟨stream, sent⟩
  · rcases arrives.stored stored with earlier | ⟨_, new⟩
    · exact .inl (.inl ⟨node, earlier⟩)
    · exact .inr new
  · rcases arrives.said stream with same | ⟨_, _, _, grown⟩
    · rw [same] at sent
      exact .inl (.inr ⟨stream, sent⟩)
    · rw [grown] at sent
      rcases List.mem_append.mp sent with earlier | new
      · exact .inl (.inr ⟨stream, earlier⟩)
      · exact .inr (Except.ok.inj (List.mem_singleton.mp new))

theorem step_carries {op : RelayOp} (carries : (step relay op).Carries frame) :
    relay.Carries frame ∨ ∃ target, relay.admits op = some (target, frame) := by
  rcases step_flows relay op with ⟨node, rfl⟩ | flows
  · exact .inl (connectNode_carries carries)
  cases admitted : relay.admits op with
  | none =>
    rw [admitted] at flows
    exact .inl (Eased.carries flows carries)
  | some arrival =>
    obtain ⟨target, brought⟩ := arrival
    rw [admitted] at flows
    rcases Arrives.carries flows carries with earlier | rfl
    · exact .inl earlier
    · exact .inr ⟨target, rfl⟩

end

/-- Whoever waits has been told nothing, or has been told for a good reason. -/
def Told (key : FrameKey) (waiter : Nat) (reason : Prop) (relay : PeerState) : Prop :=
  Waits none key waiter relay ∨ ∃ told, Left none key waiter told relay ∧ (told ≠ [] → reason)

section
variable {relay : PeerState} {key : FrameKey} {waiter : Nat} {reason : Prop}

theorem Told.mono (told : Told key waiter reason relay) {weaker : Prop} (implies : reason → weaker) :
    Told key waiter weaker relay := by
  rcases told with waits | ⟨replies, left, good⟩
  · exact .inl waits
  · exact .inr ⟨replies, left, fun some => implies (good some)⟩

theorem Told.of_delivered (told : Told key waiter reason relay)
    (delivered : (Awaited.mk none waiter).delivered relay = true) : reason := by
  have answered : waiter ∈ relay.answers none := of_decide_eq_true delivered
  have received : relay.received none waiter ≠ [] := by
    obtain ⟨reply, member, same⟩ := List.mem_map.mp answered
    intro empty
    rw [PeerState.received, List.map_eq_nil_iff, List.filter_eq_nil_iff] at empty
    refine empty (reply.1, none) (List.mem_map_of_mem member) ?_
    exact decide_eq_true same
  rcases told with waits | ⟨replies, left, good⟩
  · exact absurd waits.unanswered received
  · apply good
    rw [← left.received]
    exact received

theorem settles_acknowledgement {op : RelayOp} {reply : Option LocalTypedControlDispatch}
    (settles : op.settles none key relay = some reply) :
    ∃ node frameId, op = .ackFrame node frameId ∧ (trim node, trim frameId) = key := by
  cases op with
  | ackFrame node frameId =>
    simp only [RelayOp.settles] at settles
    split at settles
    · rename_i settled
      exact ⟨node, frameId, rfl, (presents_iff.mp settled.2.1).2⟩
    · cases settles
  | completeControl control destination frameId result =>
    simp only [RelayOp.settles, reduceCtorEq, false_and, if_false] at settles
  | _ => cases settles

theorem Told.step {op : RelayOp} (told : Told key waiter reason relay) (attended : relay.Attended)
    (fresh : op.brings ≠ some key)
    (settled : ∀ node frameId, op = .ackFrame node frameId → (trim node, trim frameId) = key → reason) :
    Told key waiter reason (step relay op) := by
  have turn := step_turn attended op
  rcases told with waits | ⟨replies, left, good⟩
  · rcases waits.turn attended turn with ⟨_, stays⟩ | left
    · exact .inl stays
    · refine .inr ⟨_, left, ?_⟩
      intro some
      cases settles : op.settles none key relay with
      | none =>
        rw [settles] at some
        exact absurd rfl some
      | some reply =>
        obtain ⟨node, frameId, acknowledges, same⟩ := settles_acknowledgement settles
        exact settled node frameId acknowledges same
  · exact .inr ⟨replies, left.turn turn fresh, good⟩

end

end

end Keryx.Relay
