import Keryx.Daemon.Routing
import Keryx.Daemon.Redelivery

/-! What the store holds of a task once the daemon has answered for it. -/

namespace Keryx.Daemon
open Keryx.Core Store Store.Sqlite Proto Relational Relational.Run Relational.Transaction
open Session (amend_bind attempt_bind_ok consult_bind_ok pure_apply report_bind_ok transact_bind_ok)

section
variable {state after : RouterState} {outcome : SendTaskOutcome}

theorem storing_bind_ok {α β : Type} {session : Session Db StoreError α}
    {rest : α → Session RouterState RoutingError β} {value : β} :
    (storing session >>= rest) state = (.ok value, after) ↔
      ∃ read db, session state.db = (.ok read, db) ∧ rest read (state.withDb db) = (.ok value, after) := by
  simp only [storing, report_bind_ok, Session.within_ok]
  constructor
  · rintro ⟨read, _, ⟨db, begun, rfl⟩, ended⟩
    exact ⟨read, db, begun, ended⟩
  · rintro ⟨read, db, begun, ended⟩
    exact ⟨read, state.withDb db, ⟨db, begun, rfl⟩, ended⟩

variable {localPeerId targetPeerId : PeerId} {encodedEnvelope : Bytes} {record : TaskRecord}

theorem existingIntent_true {db : Db} :
    existingIntent localPeerId targetPeerId record encodedEnvelope db = .ok true ↔
      db.tasks.find record.id = some record ∧
        (∃ stored, db.envelopes.find record.id = some stored ∧ stored.encodedEnvelope = encodedEnvelope) ∧
        ∃ context, db.transportContexts.find record.id = some context ∧
          context.expectedExecutorPeerId = some targetPeerId ∧ context.destinationPeerId = targetPeerId ∧
          context.authenticatedSenderPeerId = some localPeerId := by
  unfold existingIntent
  cases present : db.tasks.find record.id with
  | none => simp [Db.getTask, present, found]
  | some existing =>
    have got : db.getTask record.id = .ok existing := found_ok.mpr present
    simp only [got, except_bind_ok, demand_ok, Db.getTaskEnvelope, Db.getTransportContext, found_ok, Option.some.injEq]
    constructor
    · rintro ⟨_, same, stored, enveloped, _, bytes, context, routed, _, ⟨executes, arrives⟩, _, sends, _⟩
      exact ⟨same, ⟨stored, enveloped, bytes⟩, context, routed, executes, arrives, sends⟩
    · rintro ⟨same, ⟨stored, enveloped, bytes⟩, context, routed, executes, arrives, sends⟩
      exact ⟨(), same, stored, enveloped, (), bytes, context, routed, (), ⟨executes, arrives⟩, (), sends, rfl⟩

theorem existingIntent_false {db : Db} :
    existingIntent localPeerId targetPeerId record encodedEnvelope db = .ok false ↔ db.tasks.find record.id = none := by
  unfold existingIntent
  cases present : db.tasks.find record.id with
  | none => simp [Db.getTask, present, found]
  | some existing =>
    have got : db.getTask record.id = .ok existing := found_ok.mpr present
    simp [got, except_bind_ok, except_pure_ok, -bind_pure_comp]

theorem storeIntent_stores {nowMs : Int} {db stored : Db} {done : Unit}
    (success : storeIntent localPeerId targetPeerId record encodedEnvelope nowMs db = (.ok done, stored)) :
    existingIntent localPeerId targetPeerId record encodedEnvelope stored = .ok true := by
  simp only [storeIntent, consult_bind_ok] at success
  obtain ⟨existing, checked, success⟩ := success
  cases existing with
  | true =>
    obtain ⟨_, rfl⟩ := Prod.mk.inj success
    exact checked
  | false =>
    simp only [Bool.false_eq_true, if_false] at success
    obtain ⟨accepted, middle, taken, ended⟩ := transact_bind_ok.mp success
    obtain ⟨_, rfl⟩ := Prod.mk.inj ended
    obtain ⟨_, recorded, enveloped, routed⟩ := acceptTaskWithEnvelopeAndContext_stores _ _ _ _ _ _ taken
    obtain ⟨envelope, found, same⟩ := (Option.any_eq_true _ _).mp enveloped
    obtain ⟨context, known, agrees⟩ := (Option.any_eq_true _ _).mp routed
    simp only [sameDeliveredEnvelope, Bool.and_eq_true, decide_eq_true_eq] at same
    simp only [sameTransportIdentity, Bool.and_eq_true, decide_eq_true_eq] at agrees
    exact existingIntent_true.mpr ⟨recorded, ⟨envelope, found, same.2⟩, context, known, agrees.1.2, agrees.2,
      agrees.1.1.2⟩

theorem storing_pure_state {α β : Type} (session : Session Db StoreError α) (answer : α → β) :
    ((storing session >>= fun read => pure (answer read)) state).2 = state.withDb (session state.db).2 := by
  simp only [Session.bind_apply, storing, Session.report, Session.within]
  cases (session state.db).1 <;> rfl

theorem publishTask_state (router : TaskRouter) (taskId : TaskId) (targetPeerId : PeerId) (envelope : TaskEnvelope)
    (timeoutMs : Int) (state : RouterState) :
    (publishTask router taskId targetPeerId envelope timeoutMs state).2.published =
        state.published ++ [(targetPeerId, envelope)] ∧
      (publishTask router taskId targetPeerId envelope timeoutMs state).2.db.beyondContexts = state.db.beyondContexts := by
  unfold publishTask
  rw [amend_bind]
  cases router.publisher.deliverTask targetPeerId envelope (normalizeTimeout timeoutMs router.defaultTimeoutMs) with
  | accepted receipt =>
    simp only [storing_pure_state]
    exact ⟨rfl, preserves_commit (preserves_recordRelayReceipt _ _ _ _) _⟩
  | failed error => exact ⟨rfl, rfl⟩
  | elapsed => exact ⟨rfl, rfl⟩

theorem publishTask_outcome {router : TaskRouter} {taskId : TaskId} {targetPeerId : PeerId} {envelope : TaskEnvelope}
    {timeoutMs : Int} (success : publishTask router taskId targetPeerId envelope timeoutMs state = (.ok outcome, after)) :
    outcome.taskId = taskId ∧ outcome.route = .relay := by
  unfold publishTask at success
  rw [amend_bind] at success
  revert success
  cases router.publisher.deliverTask targetPeerId envelope (normalizeTimeout timeoutMs router.defaultTimeoutMs) with
  | accepted receipt =>
    intro success
    obtain ⟨_, _, _, ended⟩ := storing_bind_ok.mp success
    cases ended
    exact ⟨rfl, rfl⟩
  | failed error => nofun
  | elapsed => nofun

end

def AcceptedFor (localPeerId : PeerId) (taskId : TaskId) (db : Db) : Prop :=
  ∀ context executor, db.transportContexts.find taskId = some context →
    context.expectedExecutorPeerId = some executor → executor = localPeerId

/-- The store holds the task with its whole envelope, and offers them to the workers of the local peer if the task was
accepted for it. -/
structure Dispatched (localPeerId : PeerId) (taskId : TaskId) (envelope : TaskEnvelope) (db : Db) : Prop where
  recorded : (db.tasks.find taskId).isSome
  enveloped : ∃ stored, db.envelopes.find taskId = some stored ∧ stored.encodedEnvelope = envelope.encodeToVec
  offered : AcceptedFor localPeerId taskId db → ∀ limit, db.tasks.rows.length ≤ limit →
    ∃ row ∈ db.claimablePendingTaskEnvelopes localPeerId limit,
      row.task.id = taskId ∧ row.envelope.encodedEnvelope = envelope.encodeToVec

theorem dispatched_of_pending {localPeerId : PeerId} {record : TaskRecord} {envelope : TaskEnvelope} {db : Db}
    {stored : TaskEnvelopeRecord} (pending : record.status = .pending)
    (recorded : db.tasks.find record.id = some record) (enveloped : db.envelopes.find record.id = some stored)
    (bytes : stored.encodedEnvelope = envelope.encodeToVec) : Dispatched localPeerId record.id envelope db where
  recorded := Option.isSome_iff_exists.mpr ⟨record, recorded⟩
  enveloped := ⟨stored, enveloped, bytes⟩
  offered := by
    intro mine limit room
    have unbound : ((db.transportContexts.find record.id).bind (·.expectedExecutorPeerId)).all
        (fun peer => peer = localPeerId) = true := by
      rw [Option.all_eq_true]
      intro executor expects
      obtain ⟨context, known, executes⟩ := Option.bind_eq_some_iff.mp expects
      exact decide_eq_true (mine context executor known executes)
    have claimable : db.claimable localPeerId record = some { task := record, envelope := stored } := by
      simp [Db.claimable, Db.offered, pending, unbound, enveloped]
    exact ⟨_, mem_claimablePendingTaskEnvelopes room recorded claimable, rfl, bytes⟩

/-- Two envelopes that differ at most in one entry of their metadata. -/
structure SameBeyond (key : String) (left right : TaskEnvelope) : Prop where
  taskId : left.taskId = right.taskId
  correlationId : left.correlationId = right.correlationId
  idempotencyKey : left.idempotencyKey = right.idempotencyKey
  status : left.status = right.status
  messages : left.messages = right.messages
  metadata : ∀ other, other ≠ key → left.metadata.find other = right.metadata.find other
  deadlineMs : left.deadlineMs = right.deadlineMs

theorem withSourceFeatures_sameBeyond (order : MapOrder) (envelope : TaskEnvelope) :
    SameBeyond authenticatedSourceFeaturesMetadataKey (withSourceFeatures order envelope) envelope where
  taskId := rfl
  correlationId := rfl
  idempotencyKey := rfl
  status := rfl
  messages := rfl
  metadata := by
    intro other different
    exact ((order.same _).find other).trans (Table.find_put_ne _ _ different)
  deadlineMs := rfl

theorem submitTask_dispatches {runtime : Runtime} {authorization : Option String} {nowMs : Int}
    {request : SubmitTaskRequest} {db after : Db} {response : SubmitTaskResponse} {taskId : TaskId}
    (success : submitTask runtime authorization nowMs request db = (.ok response, after))
    (named : response.taskId = some (protoId taskId)) :
    after.transportContexts = db.transportContexts ∧
      ∃ envelope, request.envelope = some envelope ∧ Dispatched runtime.config.localPeerId taskId envelope after := by
  obtain ⟨_, record, stored, accepted, asked, taken, rfl⟩ := submitTask_ok.mp success
  obtain ⟨_, _, taken⟩ := acceptPendingTaskWithEnvelopeBackpressure_ok.mp taken
  obtain ⟨rfl, holds⟩ := acceptTaskWithEnvelope_stores _ _ _ _ _ taken
  have identified : accepted.id = taskId := protoId_inj (Option.some.inj named)
  subst identified
  obtain ⟨envelope, _, _, _, given, _, _, _, _, rows⟩ := localSubmission_ok.mp asked
  cases rows
  refine ⟨preserves_acceptTaskWithEnvelope _ _ db _ _ taken, envelope, given, ?_⟩
  exact dispatched_of_pending rfl holds.recorded holds.enveloped rfl

theorem submitRemoteTask_dispatches {runtime : Runtime} {authorization : Option String} {nowMs : Int}
    {request : SubmitRemoteTaskRequest} {db after : Db} {response : SubmitTaskResponse} {taskId : TaskId}
    (success : submitRemoteTask runtime authorization nowMs request db = (.ok response, after))
    (named : response.taskId = some (protoId taskId)) :
    AcceptedFor runtime.config.localPeerId taskId after ∧
      ∃ envelope, request.envelope = some envelope ∧ Dispatched runtime.config.localPeerId taskId envelope after := by
  obtain ⟨record, stored, context, asked, _, rfl, recorded, enveloped, routed⟩ := submitRemoteTask_stores success
  have identified : record.id = taskId := protoId_inj (Option.some.inj named)
  subst identified
  obtain ⟨_, _, _, unbound⟩ := remoteSubmission_owns asked
  obtain ⟨envelope, _, _, _, _, given, _, _, _, _, _, rows⟩ := remoteSubmission_ok.mp asked
  cases rows
  obtain ⟨kept, found, same⟩ := (Option.any_eq_true _ _).mp enveloped
  obtain ⟨route, known, agrees⟩ := (Option.any_eq_true _ _).mp routed
  simp only [sameDeliveredEnvelope, Bool.and_eq_true, decide_eq_true_eq] at same
  simp only [sameTransportIdentity, Bool.and_eq_true, decide_eq_true_eq] at agrees
  refine ⟨fun context executor found executes => ?_, envelope, given, ?_⟩
  · cases known.symm.trans found
    rw [agrees.1.2] at executes
    cases executes
  · exact dispatched_of_pending rfl recorded found same.2

section
variable {runtime : RoutingRuntime} {authorization : Option String} {order : MapOrder} {nowMs : Int}
  {request : SendTaskRequest} {state after : RouterState} {response : SendTaskResponse} {router : TaskRouter}
  {targetPeerId : PeerId} {envelope : TaskEnvelope} {timeoutMs : Int} {outcome : SendTaskOutcome}

theorem sendTask_ok :
    sendTask runtime authorization order nowMs request state = (.ok response, after) ↔
      enter runtime.toRuntime authorization = .ok () ∧ ∃ envelope targetPeerId outcome,
        sendSubmission runtime.config request = .ok (envelope, targetPeerId) ∧
        checkLocalRoom runtime.config targetPeerId state = .ok () ∧
        runtime.router.sendTask order nowMs targetPeerId envelope request.timeoutMs.toInt state = (.ok outcome, after) ∧
        sendTaskResponse outcome = response := by
  simp only [sendTask, attempt_bind_ok, consult_bind_ok, report_bind_ok, pure_apply, Prod.mk.injEq, Except.ok.injEq,
    Unique.exists_iff, Prod.exists, exists_eq_right_right, exists_and_left]

theorem routeOverRelay_stores {taskId : TaskId} {deadlineMs : Option Int}
    (success : routeOverRelay router order nowMs taskId deadlineMs targetPeerId envelope timeoutMs state =
      (.ok outcome, after)) :
    outcome.taskId = taskId ∧ outcome.route = .relay ∧ ∀ localPeerId,
      Dispatched localPeerId taskId (withSourceFeatures order envelope) after.db := by
  simp only [routeOverRelay, attempt_bind_ok, storing_bind_ok] at success
  obtain ⟨_, _, key, _, _, db, intended, published⟩ := success
  obtain ⟨recorded, ⟨stored, enveloped, bytes⟩, _⟩ := existingIntent_true.mp (storeIntent_stores intended)
  have kept := (publishTask_state router taskId targetPeerId (withSourceFeatures order envelope) timeoutMs
    (state.withDb db)).2
  rw [published] at kept
  have tasks := congrArg Db.tasks kept
  have envelopes := congrArg Db.envelopes kept
  obtain ⟨named, routed⟩ := publishTask_outcome published
  refine ⟨named, routed, fun localPeerId => ?_⟩
  show Dispatched localPeerId (acceptedRecord taskId key deadlineMs).id _ _
  apply dispatched_of_pending rfl _ _ bytes
  · exact (congrArg (·.find taskId) tasks).trans recorded
  · exact (congrArg (·.find taskId) envelopes).trans enveloped

theorem TaskRouter.sendTask_cases
    (success : router.sendTask order nowMs targetPeerId envelope timeoutMs state = (.ok outcome, after)) :
    (outcome.route = .awaitingApproval ∧ outcome.status = "awaiting_approval" ∧ after.db = state.db) ∨
      outcome.route = .local ∨
      (outcome.route = .relay ∧ ∀ localPeerId,
        Dispatched localPeerId outcome.taskId (withSourceFeatures order envelope) after.db) := by
  simp only [TaskRouter.sendTask, attempt_bind_ok, amend_bind] at success
  obtain ⟨taskId, _, deadlineMs, _, success⟩ := success
  cases permission : (router.policy.evaluate envelope).permission with
  | deny =>
    rw [permission] at success
    cases success
  | approvalRequired =>
    rw [permission] at success
    cases success
    exact .inl ⟨rfl, rfl, rfl⟩
  | allow =>
    simp only [permission] at success
    split at success
    · obtain ⟨_, _, _, ended⟩ := Session.bind_ok.mp success
      cases ended
      exact .inr (.inl rfl)
    · obtain ⟨rfl, routed, dispatched⟩ := routeOverRelay_stores success
      exact .inr (.inr ⟨routed, dispatched⟩)

theorem sendSubmission_ok {config : Config} :
    sendSubmission config request = .ok (envelope, targetPeerId) ↔
      request.envelope = some envelope ∧ parseTargetPeerId request.targetPeerId = .ok targetPeerId ∧
        config.limits.checkEnvelopeBytes envelope.encodedLen = .ok () := by
  simp only [sendSubmission, except_bind_ok, except_pure_ok, requireEnvelope_ok, except_mapError_ok, Prod.mk.injEq]
  constructor
  · rintro ⟨_, given, _, targets, _, small, rfl, rfl⟩
    exact ⟨given, targets, small⟩
  · rintro ⟨given, targets, small⟩
    exact ⟨envelope, given, targetPeerId, targets, (), small, rfl, rfl⟩

theorem sendTask_dispatches {taskId : TaskId}
    (success : sendTask runtime authorization order nowMs request state = (.ok response, after))
    (named : response.taskId = some (protoId taskId)) :
    (response.deliveryRoute = "relay" →
        ∃ envelope carried, request.envelope = some envelope ∧
          SameBeyond authenticatedSourceFeaturesMetadataKey carried envelope ∧
          Dispatched runtime.config.localPeerId taskId carried after.db) ∧
      (response.deliveryRoute = "awaiting_approval" →
        response.status = "awaiting_approval" ∧ after.db = state.db) := by
  obtain ⟨_, envelope, targetPeerId, outcome, asked, _, sent, rfl⟩ := sendTask_ok.mp success
  have identified : outcome.taskId = taskId := protoId_inj (Option.some.inj named)
  subst identified
  have routed : (sendTaskResponse outcome).deliveryRoute = outcome.route.asStr := rfl
  rw [routed]
  rcases TaskRouter.sendTask_cases sent with ⟨route, status, kept⟩ | route | ⟨route, dispatched⟩
  · rw [route]
    exact ⟨nofun, fun _ => ⟨status, kept⟩⟩
  · rw [route]
    exact ⟨nofun, nofun⟩
  · rw [route]
    refine ⟨fun _ => ⟨envelope, _, (sendSubmission_ok.mp asked).1, ?_, dispatched _⟩, nofun⟩
    exact withSourceFeatures_sameBeyond order envelope

end

/-- Once a submission is answered with success, or a task was given to the relay, the store holds the task with its
envelope. -/
theorem dispatched_tasks_are_stored [Sha256] (runtime : RoutingRuntime) (authorization : Option String)
    (order : MapOrder) (nowMs : Int) (history : List Op) (auditEvents : List RoutingAuditEvent)
    (published : List (PeerId × TaskEnvelope)) (taskId : TaskId) :
    (∀ request response after,
      submitTask runtime.toRuntime authorization nowMs request (run step Db.empty history) = (.ok response, after) →
      response.taskId = some (protoId taskId) →
      ∃ envelope, request.envelope = some envelope ∧ Dispatched runtime.config.localPeerId taskId envelope after ∧
        ((run step Db.empty history).tasks.find taskId = none →
          AcceptedFor runtime.config.localPeerId taskId after)) ∧
    (∀ request response after,
      submitRemoteTask runtime.toRuntime authorization nowMs request (run step Db.empty history) =
        (.ok response, after) →
      response.taskId = some (protoId taskId) →
      ∃ envelope, request.envelope = some envelope ∧ Dispatched runtime.config.localPeerId taskId envelope after ∧
        AcceptedFor runtime.config.localPeerId taskId after) ∧
    (∀ request response after,
      sendTask runtime authorization order nowMs request ⟨run step Db.empty history, auditEvents, published⟩ =
        (.ok response, after) →
      response.taskId = some (protoId taskId) →
      (response.deliveryRoute = "relay" →
        ∃ envelope carried, request.envelope = some envelope ∧
          SameBeyond authenticatedSourceFeaturesMetadataKey carried envelope ∧
          Dispatched runtime.config.localPeerId taskId carried after.db) ∧
      (response.deliveryRoute = "awaiting_approval" →
        response.status = "awaiting_approval" ∧ after.db = run step Db.empty history)) := by
  refine ⟨?_, ?_, ?_⟩
  · intro request response after success named
    obtain ⟨contexts, envelope, given, dispatched⟩ := submitTask_dispatches success named
    refine ⟨envelope, given, dispatched, fun fresh context executor known _ => ?_⟩
    rw [contexts] at known
    have owned := run_contexts_owned history taskId (Option.isSome_iff_exists.mpr ⟨context, known⟩)
    rw [fresh] at owned
    cases owned
  · intro request response after success named
    obtain ⟨mine, envelope, given, dispatched⟩ := submitRemoteTask_dispatches success named
    exact ⟨envelope, given, dispatched, mine⟩
  · intro request response after success named
    exact sendTask_dispatches success named

def sampleReceipt : RelayRouteReceipt where
  taskId := sampleTask
  frameId := "frame-1"
  authenticatedSourcePeerId := samplePeer
  acceptedDestinationPeerId := .literal "origin" (.refl true)
  acceptedRoute := "relay"
  acceptedAtMs := 7

def sampleRouter (permission : RoutingPolicyPermission) (delivery : Delivery) : RoutingRuntime where
  toRuntime := sampleRuntime
  router :=
    { peers := { localPeerId := samplePeer, connectedPeers := [], relayRoutablePeers := [] }
      publisher := { isConfigured := true, deliverTask := fun _ _ _ => delivery }
      policy := { defaultPermission := permission, capabilityPermissions := .empty }
      defaultTimeoutMs := 30000 }
  sameLocalPeer := rfl

def sentTask (targetPeerId : String) : SendTaskRequest where
  targetPeerId := targetPeerId
  envelope := some sampleEnvelope
  timeoutMs := 0

def emptyNode : RouterState := ⟨Db.empty, [], []⟩

def relayNode : RoutingRuntime := sampleRouter .allow (.accepted sampleReceipt)

def sentState : RouterState := (sendTask relayNode none .unchanged 1 (sentTask "origin") emptyNode).2

def sentResponse : SendTaskResponse where
  taskId := some (protoId sampleTask)
  status := "relay_accepted"
  routedTo := "origin"
  deliveryRoute := "relay"
  relayFrameId := "frame-1"
  authenticatedSourcePeerId := "edge"
  acceptedDestinationPeerId := "origin"
  acceptedRoute := "relay"
  acceptedAtMs := 7

theorem sentState_reached :
    sendTask relayNode none .unchanged 1 (sentTask "origin") emptyNode = (.ok sentResponse, sentState) :=
  Prod.ext (by decide) rfl

def approvalNode : RoutingRuntime := sampleRouter .approvalRequired .elapsed

def heldState : RouterState := (sendTask approvalNode none .unchanged 1 (sentTask "origin") emptyNode).2

def heldResponse : SendTaskResponse where
  taskId := some (protoId sampleTask)
  status := "awaiting_approval"
  routedTo := "origin"
  deliveryRoute := "awaiting_approval"
  relayFrameId := ""
  authenticatedSourcePeerId := ""
  acceptedDestinationPeerId := ""
  acceptedRoute := ""
  acceptedAtMs := 0

theorem heldState_reached :
    sendTask approvalNode none .unchanged 1 (sentTask "origin") emptyNode = (.ok heldResponse, heldState) :=
  Prod.ext (by decide) rfl

theorem sample_tasks_are_stored :
    (∃ envelope, localTask.envelope = some envelope ∧ Dispatched samplePeer sampleTask envelope submittedState) ∧
      (∃ envelope, (relayedTask "frame-1").envelope = some envelope ∧
        Dispatched samplePeer sampleTask envelope relayedState) ∧
      (∃ envelope carried, (sentTask "origin").envelope = some envelope ∧
        SameBeyond authenticatedSourceFeaturesMetadataKey carried envelope ∧
        Dispatched samplePeer sampleTask carried sentState.db) ∧
      heldState.db = Db.empty := by
  obtain ⟨submits, relays, sends⟩ :=
    @dispatched_tasks_are_stored default relayNode none .unchanged 1 [] [] [] sampleTask
  obtain ⟨_, _, holds⟩ := @dispatched_tasks_are_stored default approvalNode none .unchanged 1 [] [] [] sampleTask
  obtain ⟨envelope, given, dispatched, _⟩ := submits localTask relayedResponse submittedState submittedState_reached rfl
  obtain ⟨other, givenToo, dispatchedToo, _⟩ :=
    relays (relayedTask "frame-1") relayedResponse relayedState relayedState_reached rfl
  exact ⟨⟨envelope, given, dispatched⟩, ⟨other, givenToo, dispatchedToo⟩,
    (sends (sentTask "origin") sentResponse sentState sentState_reached rfl).1 rfl,
    ((holds (sentTask "origin") heldResponse heldState heldState_reached rfl).2 rfl).2⟩

/-- A task that waits for an approval is not stored, and a task that is sent to the local peer is stored
without its envelope. -/
theorem sent_task_without_envelope :
    (∃ response after, sendTask approvalNode none .unchanged 1 (sentTask "origin") emptyNode = (.ok response, after) ∧
        response.taskId = some (protoId sampleTask) ∧ after.db.tasks.find sampleTask = none) ∧
      ∃ response after, sendTask relayNode none .unchanged 1 (sentTask "edge") emptyNode = (.ok response, after) ∧
        response.taskId = some (protoId sampleTask) ∧ (after.db.tasks.find sampleTask).isSome ∧
        after.db.envelopes.find sampleTask = none ∧
        ∀ limit, after.db.claimablePendingTaskEnvelopes samplePeer limit = [] := by
  refine ⟨⟨_, _, rfl, by decide, by decide⟩, _, _, rfl, by decide, by decide, by decide, fun limit => ?_⟩
  exact List.take_nil

end Keryx.Daemon
