import Keryx.Daemon.Dispatch

/-! Tasks that are sent again after the relay did not take them. -/

namespace Keryx.Daemon
open Keryx.Core Store Store.Sqlite Proto Relational Relational.Run Relational.Transaction
open Session (amend_bind attempt_bind attempt_bind_leaves consult_bind consult_bind_leaves report_state)
open Lifecycle (acceptances)

/-- The request asks the relay route for a task: it passes every check that comes before the store. -/
structure AsksRelay (runtime : RoutingRuntime) (authorization : Option String) (request : SendTaskRequest)
    (envelope : TaskEnvelope) (targetPeerId : PeerId) (record : TaskRecord) : Prop where
  entered : enter runtime.toRuntime authorization = .ok ()
  asked : sendSubmission runtime.config request = .ok (envelope, targetPeerId)
  remote : targetPeerId ≠ runtime.config.localPeerId
  named : parseEnvelopeTaskId envelope = .ok record.id
  allowed : (runtime.router.policy.evaluate envelope).permission = .allow
  routable : (runtime.router.peers.isRoutable targetPeerId || runtime.router.publisher.isConfigured) = true
  recorded : ∃ key deadlineMs, parseEnvelopeIdempotencyKey envelope = .ok key ∧
    routingDeadline envelope = .ok deadlineMs ∧ record = acceptedRecord record.id key deadlineMs

section
variable {runtime : RoutingRuntime} {authorization : Option String} {order : MapOrder} {nowMs : Int}
  {request : SendTaskRequest} {envelope : TaskEnvelope} {targetPeerId : PeerId} {record : TaskRecord}
  {state : RouterState}

theorem storing_bind_state {α β : Type} (session : Session Db StoreError α)
    (rest : α → Session RouterState RoutingError β) :
    ((storing session >>= rest) state).2 =
      match session state.db with
      | (.ok read, db) => (rest read (state.withDb db)).2
      | (.error _, db) => state.withDb db := by
  rw [Session.bind_apply, storing, Session.report, Session.within]
  rcases session state.db with ⟨failure | read, db⟩ <;> rfl

def sendEvent (runtime : RoutingRuntime) (envelope : TaskEnvelope) (targetPeerId : PeerId) (record : TaskRecord) :
    RoutingAuditEvent :=
  RoutingAuditEvent.new record.id targetPeerId (runtime.router.policy.evaluate envelope)

theorem sendTask_state (asks : AsksRelay runtime authorization request envelope targetPeerId record) :
    (sendTask runtime authorization order nowMs request state).2 =
      match storeIntent runtime.config.localPeerId targetPeerId record (withSourceFeatures order envelope).encodeToVec
        nowMs state.db with
      | (.ok _, db) =>
        (publishTask runtime.router record.id targetPeerId (withSourceFeatures order envelope) request.timeoutMs.toInt
          ((state.recordAuditEvent (sendEvent runtime envelope targetPeerId record)).withDb db)).2
      | (.error _, db) => (state.recordAuditEvent (sendEvent runtime envelope targetPeerId record)).withDb db := by
  obtain ⟨entered, asked, remote, named, allowed, routable, key, deadlineMs, keyed, due, same⟩ := asks
  have distant : targetPeerId ≠ runtime.router.peers.localPeerId := by
    rw [runtime.sameLocalPeer]
    exact remote
  have keyedToo : parseEnvelopeIdempotencyKey (withSourceFeatures order envelope) = .ok key := keyed
  simp only [sendTask, attempt_bind, entered, asked, consult_bind, checkLocalRoom, remote, if_false, report_state,
    TaskRouter.sendTask, named, due, amend_bind, allowed, distant, routeOverRelay, routable, if_true, keyedToo,
    storing_bind_state]
  rw [runtime.sameLocalPeer, ← same]
  have unchanged : (state.recordAuditEvent (sendEvent runtime envelope targetPeerId record)).db = state.db := rfl
  rw [sendEvent] at unchanged
  rw [unchanged]
  rcases storeIntent runtime.config.localPeerId targetPeerId record (withSourceFeatures order envelope).encodeToVec
    nowMs state.db with ⟨failure | done, db⟩
  · rfl
  · rfl

theorem acceptLocalTask_published (envelope : TaskEnvelope) (state : RouterState) :
    (acceptLocalTask envelope state).2.published = state.published := by
  by_contra leaves
  obtain ⟨taskId, _, leaves⟩ := attempt_bind_leaves RouterState.published leaves
  obtain ⟨key, _, leaves⟩ := attempt_bind_leaves RouterState.published leaves
  obtain ⟨deadlineMs, _, leaves⟩ := attempt_bind_leaves RouterState.published leaves
  rw [storing_pure_state] at leaves
  exact leaves rfl

theorem asksRelay_of_published
    (called : (sendTask runtime authorization order nowMs request state).2.published ≠ state.published) :
    ∃ envelope targetPeerId record, AsksRelay runtime authorization request envelope targetPeerId record := by
  obtain ⟨_, entered, called⟩ := attempt_bind_leaves RouterState.published called
  obtain ⟨⟨envelope, targetPeerId⟩, asked, called⟩ := attempt_bind_leaves RouterState.published called
  obtain ⟨_, _, called⟩ := consult_bind_leaves RouterState.published called
  rw [report_state] at called
  obtain ⟨taskId, named, called⟩ := attempt_bind_leaves RouterState.published called
  obtain ⟨deadlineMs, due, called⟩ := attempt_bind_leaves RouterState.published called
  simp only [amend_bind] at called
  cases permission : (runtime.router.policy.evaluate envelope).permission with
  | deny =>
    rw [permission] at called
    exact absurd rfl called
  | approvalRequired =>
    rw [permission] at called
    exact absurd rfl called
  | allow =>
    simp only [permission] at called
    split at called
    · have kept := acceptLocalTask_published envelope
        (state.recordAuditEvent (.new taskId targetPeerId (runtime.router.policy.evaluate envelope)))
      rw [Session.bind_apply] at called
      rcases outcome : acceptLocalTask envelope
        (state.recordAuditEvent (.new taskId targetPeerId (runtime.router.policy.evaluate envelope))) with
        ⟨failure | accepted, after⟩
      · rw [outcome] at called kept
        exact absurd kept called
      · rw [outcome] at called kept
        exact absurd kept called
    · rename_i distant
      obtain ⟨_, reachable, called⟩ := attempt_bind_leaves RouterState.published called
      obtain ⟨key, keyed, _⟩ := attempt_bind_leaves RouterState.published called
      have routable : (runtime.router.peers.isRoutable targetPeerId || runtime.router.publisher.isConfigured) = true := by
        by_contra unreachable
        rw [if_neg unreachable] at reachable
        cases reachable
      rw [runtime.sameLocalPeer] at distant
      exact ⟨envelope, targetPeerId, acceptedRecord taskId key deadlineMs, entered, asked, distant, named, permission,
        routable, key, deadlineMs, keyed, due, rfl⟩

def RoutingRuntime.withDelivery (runtime : RoutingRuntime) (deliverTask : PeerId → TaskEnvelope → Nat → Delivery) :
    RoutingRuntime where
  toRuntime := runtime.toRuntime
  router := { runtime.router with publisher := { runtime.router.publisher with deliverTask } }
  sameLocalPeer := runtime.sameLocalPeer

theorem evaluate_same {resent : TaskEnvelope} (policy : RoutingPolicy) (same : resent.Same envelope) :
    policy.evaluate resent = policy.evaluate envelope := by
  have capability : envelopeCapabilityId resent = envelopeCapabilityId envelope := by
    unfold envelopeCapabilityId
    congr 1
    funext key
    rw [same.metadata.find key]
  rw [RoutingPolicy.evaluate, RoutingPolicy.evaluate, capability]

theorem AsksRelay.again {again : Option String} {second : SendTaskRequest} {resent : TaskEnvelope}
    (deliverTask : PeerId → TaskEnvelope → Nat → Delivery)
    (asks : AsksRelay runtime authorization request envelope targetPeerId record)
    (entered : enter runtime.toRuntime again = .ok ()) (sameTarget : second.targetPeerId = request.targetPeerId)
    (resends : second.envelope = some resent) (same : resent.Same envelope) :
    AsksRelay (runtime.withDelivery deliverTask) again second resent targetPeerId record := by
  obtain ⟨_, targets, small⟩ := sendSubmission_ok.mp asks.asked
  obtain ⟨key, deadlineMs, keyed, due, fields⟩ := asks.recorded
  refine ⟨entered, ?_, asks.remote, ?_, ?_, asks.routable, key, deadlineMs, ?_, ?_, fields⟩
  · rw [sendSubmission_ok, sameTarget, same.encodedLen]
    exact ⟨resends, targets, small⟩
  · rw [← asks.named, parseEnvelopeTaskId, parseEnvelopeTaskId, same.taskId]
  · rw [← asks.allowed, ← evaluate_same _ same]
    rfl
  · rw [← keyed, parseEnvelopeIdempotencyKey, parseEnvelopeIdempotencyKey, same.idempotencyKey]
  · rw [← due, routingDeadline, routingDeadline, same.deadlineMs]

end

section
variable {localPeerId targetPeerId : PeerId} {record : TaskRecord} {encodedEnvelope : Bytes} {nowMs : Int} {db : Db}

theorem storeIntent_known (known : (db.tasks.find record.id).isSome) :
    (existingIntent localPeerId targetPeerId record encodedEnvelope db = .ok true ∧
        storeIntent localPeerId targetPeerId record encodedEnvelope nowMs db = (.ok (), db)) ∨
      existingIntent localPeerId targetPeerId record encodedEnvelope db ≠ .ok true ∧
        ∃ failure, storeIntent localPeerId targetPeerId record encodedEnvelope nowMs db = (.error failure, db) := by
  unfold storeIntent
  rw [consult_bind]
  cases outcome : existingIntent localPeerId targetPeerId record encodedEnvelope db with
  | error failure => exact .inr ⟨nofun, failure, rfl⟩
  | ok existing =>
    cases existing with
    | true => exact .inl ⟨rfl, rfl⟩
    | false =>
      rw [existingIntent_false.mp outcome] at known
      cases known

/-- The store holds this intent, whoever it says has sent it. -/
structure Intends (targetPeerId : PeerId) (record : TaskRecord) (encodedEnvelope : Bytes) (db : Db) : Prop where
  recorded : db.tasks.find record.id = some record
  enveloped : ∃ stored, db.envelopes.find record.id = some stored ∧ stored.encodedEnvelope = encodedEnvelope
  routed : ∃ context, db.transportContexts.find record.id = some context ∧
    context.expectedExecutorPeerId = some targetPeerId ∧ context.destinationPeerId = targetPeerId

def SentBy (localPeerId : PeerId) (taskId : TaskId) (db : Db) : Prop :=
  ∃ context, db.transportContexts.find taskId = some context ∧ context.authenticatedSenderPeerId = some localPeerId

theorem existingIntent_intends :
    existingIntent localPeerId targetPeerId record encodedEnvelope db = .ok true ↔
      Intends targetPeerId record encodedEnvelope db ∧ SentBy localPeerId record.id db := by
  rw [existingIntent_true]
  constructor
  · rintro ⟨recorded, enveloped, context, known, executes, arrives, sends⟩
    exact ⟨⟨recorded, enveloped, context, known, executes, arrives⟩, context, known, sends⟩
  · rintro ⟨⟨recorded, enveloped, context, known, executes, arrives⟩, same, found, sends⟩
    cases known.symm.trans found
    exact ⟨recorded, enveloped, context, known, executes, arrives, sends⟩

variable [Sha256]

theorem commit_acceptance (task : TaskRecord) (envelope : TaskEnvelopeRecord) (context : TaskTransportContextRecord) :
    (commit (acceptTaskWithEnvelopeAndContext task envelope context) db).2 =
      step db (.acceptTaskWithEnvelopeAndContext task envelope context) := rfl

theorem storeIntent_run (localPeerId targetPeerId : PeerId) (record : TaskRecord) (encodedEnvelope : Bytes) (nowMs : Int)
    (db : Db) :
    ∃ ops, (storeIntent localPeerId targetPeerId record encodedEnvelope nowMs db).2 = run step db ops := by
  unfold storeIntent
  rw [consult_bind]
  cases existingIntent localPeerId targetPeerId record encodedEnvelope db with
  | error failure => exact ⟨[], rfl⟩
  | ok existing =>
    cases existing with
    | true => exact ⟨[], rfl⟩
    | false =>
      refine ⟨[.acceptTaskWithEnvelopeAndContext record ⟨record.id, encodedEnvelope, nowMs⟩
        (intentContext localPeerId targetPeerId record.id nowMs)], ?_⟩
      rw [run_cons, run_nil, ← commit_acceptance]
      exact Session.bind_pure_state

theorem publishTask_run (router : TaskRouter) (taskId : TaskId) (targetPeerId : PeerId) (envelope : TaskEnvelope)
    (timeoutMs : Int) (state : RouterState) :
    ∃ ops, (publishTask router taskId targetPeerId envelope timeoutMs state).2.db = run step state.db ops := by
  unfold publishTask
  rw [amend_bind]
  cases router.publisher.deliverTask targetPeerId envelope (normalizeTimeout timeoutMs router.defaultTimeoutMs) with
  | accepted receipt =>
    refine ⟨[.recordRelayReceipt taskId receipt.authenticatedSourcePeerId receipt.acceptedDestinationPeerId
      receipt.frameId receipt.acceptedAtMs], ?_⟩
    simp only [storing_pure_state]
    rfl
  | failed error => exact ⟨[], rfl⟩
  | elapsed => exact ⟨[], rfl⟩

theorem Intends.later {otherEnvelope : Bytes} (intends : Intends targetPeerId record encodedEnvelope db)
    (ops : List Op) :
    Intends targetPeerId record otherEnvelope (run step db ops) ↔
      otherEnvelope = encodedEnvelope ∧ (run step db ops).tasks.find record.id = db.tasks.find record.id := by
  obtain ⟨recorded, ⟨stored, enveloped, bytes⟩, context, known, executes, arrives⟩ := intends
  have retains := (run_persists db ops).2
  have present : (db.tasks.find record.id).isSome := Option.isSome_iff_exists.mpr ⟨record, recorded⟩
  have kept := (retains.envelope record.id present).trans enveloped
  constructor
  · rintro ⟨recordedStill, ⟨same, found, agrees⟩, _⟩
    cases kept.symm.trans found
    exact ⟨agrees.symm.trans bytes, recordedStill.trans recorded.symm⟩
  · rintro ⟨rfl, unchanged⟩
    obtain ⟨route, routed, executor, destination, _⟩ := retains.context record.id context present known
    exact ⟨unchanged.trans recorded, ⟨stored, kept, bytes⟩, route, routed, executor.trans executes,
      destination.trans arrives⟩

end

section
variable {runtime : RoutingRuntime} {authorization : Option String} {order : MapOrder} {nowMs : Int}
  {request : SendTaskRequest} {envelope : TaskEnvelope} {targetPeerId : PeerId} {record : TaskRecord}
  {state : RouterState}

theorem sendTask_published (asks : AsksRelay runtime authorization request envelope targetPeerId record)
    (known : (state.db.tasks.find record.id).isSome) :
    (sendTask runtime authorization order nowMs request state).2.published =
        state.published ++ [(targetPeerId, withSourceFeatures order envelope)] ↔
      Intends targetPeerId record (withSourceFeatures order envelope).encodeToVec state.db ∧
        SentBy runtime.config.localPeerId record.id state.db := by
  rw [sendTask_state asks, ← existingIntent_intends]
  rcases @storeIntent_known runtime.config.localPeerId targetPeerId record
    (withSourceFeatures order envelope).encodeToVec nowMs state.db known with ⟨intended, outcome⟩ | ⟨other, _, outcome⟩
  · rw [outcome]
    refine ⟨fun _ => intended, fun _ => ?_⟩
    exact (publishTask_state _ _ _ _ _ _).1
  · rw [outcome]
    refine ⟨fun published => ?_, fun intended => absurd intended other⟩
    have unchanged : state.published = state.published ++ [(targetPeerId, withSourceFeatures order envelope)] := published
    rw [List.self_eq_append_right] at unchanged
    cases unchanged

variable [Sha256]

theorem sendTask_run (asks : AsksRelay runtime authorization request envelope targetPeerId record) :
    ∃ ops, (sendTask runtime authorization order nowMs request state).2.db = run step state.db ops := by
  obtain ⟨storing, stored⟩ := storeIntent_run runtime.config.localPeerId targetPeerId record
    (withSourceFeatures order envelope).encodeToVec nowMs state.db
  rw [sendTask_state asks]
  rcases outcome : storeIntent runtime.config.localPeerId targetPeerId record
    (withSourceFeatures order envelope).encodeToVec nowMs state.db with ⟨failure | done, db⟩
  · rw [outcome] at stored
    exact ⟨storing, stored⟩
  · rw [outcome] at stored
    obtain ⟨publishing, published⟩ := publishTask_run runtime.router record.id targetPeerId
      (withSourceFeatures order envelope) request.timeoutMs.toInt
      ((state.recordAuditEvent (sendEvent runtime envelope targetPeerId record)).withDb db)
    refine ⟨storing ++ publishing, ?_⟩
    rw [run_append, ← stored]
    exact published

theorem intends_of_published (asks : AsksRelay runtime authorization request envelope targetPeerId record)
    (called : (sendTask runtime authorization order nowMs request state).2.published ≠ state.published) :
    Intends targetPeerId record (withSourceFeatures order envelope).encodeToVec
      (sendTask runtime authorization order nowMs request state).2.db := by
  rw [sendTask_state asks] at called ⊢
  rcases outcome : storeIntent runtime.config.localPeerId targetPeerId record
    (withSourceFeatures order envelope).encodeToVec nowMs state.db with ⟨failure | done, db⟩
  · rw [outcome] at called
    exact absurd rfl called
  · have intended := (existingIntent_intends.mp (storeIntent_stores outcome)).1
    obtain ⟨ops, published⟩ := publishTask_run runtime.router record.id targetPeerId
      (withSourceFeatures order envelope) request.timeoutMs.toInt
      ((state.recordAuditEvent (sendEvent runtime envelope targetPeerId record)).withDb db)
    have kept := (publishTask_state runtime.router record.id targetPeerId (withSourceFeatures order envelope)
      request.timeoutMs.toInt ((state.recordAuditEvent (sendEvent runtime envelope targetPeerId record)).withDb db)).2
    have tasks := congrArg (fun part => part.tasks.find record.id) kept
    show Intends _ _ _ (publishTask _ _ _ _ _ _).2.db
    rw [published] at tasks ⊢
    exact (intended.later ops).mpr ⟨rfl, tasks⟩

/-- The store knows one task, one acceptance and one route under this id. -/
structure OneIntent (taskId : TaskId) (db : Db) : Prop where
  task : (db.tasks.rows.filter (fun task => task.id = taskId)).length = 1
  acceptance : acceptances (db.eventsForTask taskId) = 1
  context : (db.transportContexts.rows.filter (fun context => context.taskId = taskId)).length = 1

theorem oneIntent_of_run (ops : List Op) {taskId : TaskId}
    (recorded : ((run step Db.empty ops).tasks.find taskId).isSome)
    (routed : ((run step Db.empty ops).transportContexts.find taskId).isSome) :
    OneIntent taskId (run step Db.empty ops) := by
  obtain ⟨task, present⟩ := Option.isSome_iff_exists.mp recorded
  obtain ⟨context, known⟩ := Option.isSome_iff_exists.mp routed
  exact ⟨Table.length_filter_key present, run_accepted_once ops taskId recorded, Table.length_filter_key known⟩

/-- The request calls the relay for its task, once more, and the store keeps to one intent. -/
def Republishes (runtime : RoutingRuntime) (authorization : Option String) (order : MapOrder) (nowMs : Int)
    (request : SendTaskRequest) (targetPeerId : PeerId) (envelope : TaskEnvelope) (taskId : TaskId)
    (state : RouterState) : Prop :=
  (sendTask runtime authorization order nowMs request state).2.published =
      state.published ++ [(targetPeerId, withSourceFeatures order envelope)] ∧
    OneIntent taskId (sendTask runtime authorization order nowMs request state).2.db

/-- The same message sent again gives the task to the relay exactly if it is encoded to the same bytes and the store
still holds the record and the sender of the first attempt. -/
theorem resend_republishes_iff (runtime : RoutingRuntime) (deliverTask : PeerId → TaskEnvelope → Nat → Delivery)
    (authorization again : Option String) (firstOrder laterOrder : MapOrder) (firstMs laterMs : Int)
    (first second : SendTaskRequest) (envelope resent : TaskEnvelope) (taskId : TaskId) (targetPeerId : PeerId)
    (history ops : List Op) (auditEvents laterEvents : List RoutingAuditEvent)
    (published laterPublished : List (PeerId × TaskEnvelope)) (failure : Status) (stored : RouterState)
    (sent : sendTask runtime authorization firstOrder firstMs first ⟨run step Db.empty history, auditEvents, published⟩ =
      (.error failure, stored))
    (called : stored.published ≠ published) (carried : first.envelope = some envelope)
    (named : parseEnvelopeTaskId envelope = .ok taskId)
    (targets : parseTargetPeerId first.targetPeerId = .ok targetPeerId)
    (entered : enter runtime.toRuntime again = .ok ()) (sameTarget : second.targetPeerId = first.targetPeerId)
    (resends : second.envelope = some resent) (same : resent.Same envelope) :
    Republishes (runtime.withDelivery deliverTask) again laterOrder laterMs second targetPeerId resent taskId
        ⟨run step stored.db ops, laterEvents, laterPublished⟩ ↔
      (withSourceFeatures laterOrder resent).encodeToVec = (withSourceFeatures firstOrder envelope).encodeToVec ∧
        (run step stored.db ops).tasks.find taskId = stored.db.tasks.find taskId ∧
        SentBy runtime.config.localPeerId taskId (run step stored.db ops) := by
  have result : (sendTask runtime authorization firstOrder firstMs first
      ⟨run step Db.empty history, auditEvents, published⟩).2 = stored := congrArg Prod.snd sent
  have reaches : (sendTask runtime authorization firstOrder firstMs first
      ⟨run step Db.empty history, auditEvents, published⟩).2.published ≠ published := by
    rw [result]
    exact called
  obtain ⟨_, _, record, asks⟩ := asksRelay_of_published reaches
  obtain ⟨given, aims, _⟩ := sendSubmission_ok.mp asks.asked
  cases given.symm.trans carried
  cases aims.symm.trans targets
  cases asks.named.symm.trans named
  have intends := intends_of_published asks reaches
  obtain ⟨sending, before⟩ := sendTask_run asks
  rw [result] at intends before
  have repeats := asks.again deliverTask entered sameTarget resends same
  have recorded : (stored.db.tasks.find record.id).isSome := Option.isSome_iff_exists.mpr ⟨record, intends.recorded⟩
  have persists := run_persists stored.db ops
  constructor
  · rintro ⟨republished, _⟩
    obtain ⟨still, sender⟩ := (sendTask_published repeats (persists.1 _ recorded)).mp republished
    obtain ⟨bytes, unchanged⟩ := (intends.later ops).mp still
    exact ⟨bytes, unchanged, sender⟩
  · rintro ⟨bytes, unchanged, sender⟩
    have still := (intends.later ops).mpr ⟨bytes, unchanged⟩
    refine ⟨(sendTask_published repeats (persists.1 _ recorded)).mpr ⟨still, sender⟩, ?_⟩
    obtain ⟨resending, after⟩ := sendTask_run repeats
    obtain ⟨context, known, _⟩ := sender
    have grows := run_persists (run step stored.db ops) resending
    obtain ⟨route, routed, _⟩ := grows.2.context record.id context (persists.1 _ recorded) known
    have present := grows.1 record.id (persists.1 _ recorded)
    have whole : run step (run step stored.db ops) resending =
        run step Db.empty (history ++ sending ++ ops ++ resending) := by
      rw [before, run_append, run_append, run_append]
    rw [after]
    rw [whole] at present routed ⊢
    exact oneIntent_of_run _ present (Option.isSome_iff_exists.mpr ⟨route, routed⟩)

end

def MapOrder.reversed : MapOrder where
  arrange map := ⟨map.rows.reverse, by
    rw [List.map_reverse]
    exact List.nodup_reverse.mpr map.unique⟩
  same map := List.reverse_perm map.rows

def describedEnvelope : TaskEnvelope := { sampleEnvelope with metadata := Table.empty.put ("a", "b") }

def describedTask : SendTaskRequest := { targetPeerId := "origin", envelope := some describedEnvelope, timeoutMs := 0 }

def silentNode : RoutingRuntime := sampleRouter .allow .elapsed

def unansweredState : RouterState := (sendTask silentNode none .unchanged 1 describedTask emptyNode).2

theorem unansweredState_reached :
    sendTask silentNode none .unchanged 1 describedTask emptyNode =
      (.error (routingErrorToStatus (.timeout "origin")), unansweredState) :=
  Prod.ext (by decide) rfl

theorem described_task_republished :
    Republishes relayNode none .unchanged 2 describedTask sampleReceipt.acceptedDestinationPeerId describedEnvelope
      sampleTask ⟨unansweredState.db, [], []⟩ := by
  have calls : unansweredState.published ≠ [] := by decide
  refine (@resend_republishes_iff default silentNode (fun _ _ _ => .accepted sampleReceipt) none none .unchanged
    .unchanged 1 2 describedTask describedTask describedEnvelope describedEnvelope sampleTask
    sampleReceipt.acceptedDestinationPeerId [] [] [] [] [] [] (routingErrorToStatus (.timeout "origin")) unansweredState
    unansweredState_reached calls rfl rfl rfl rfl rfl rfl (.refl _)).mpr ?_
  exact ⟨rfl, rfl, _, rfl, rfl⟩

set_option maxRecDepth 2048 in
/-- The second attempt writes the entries of the metadata in the other order. -/
theorem reordered_task_refused :
    (sendTask silentNode none .unchanged 1 describedTask emptyNode).1 =
        .error (routingErrorToStatus (.timeout "origin")) ∧
      unansweredState.published ≠ [] ∧
      (unansweredState.db.tasks.find sampleTask).map (·.status) = some .pending ∧
      (sendTask relayNode none .reversed 2 describedTask unansweredState).1 =
        .error (storeErrorToStatus (.taskEnvelopeConflict sampleTask)) ∧
      (sendTask relayNode none .reversed 2 describedTask unansweredState).2.published = unansweredState.published ∧
      ¬ Republishes relayNode none .reversed 2 describedTask sampleReceipt.acceptedDestinationPeerId describedEnvelope
        sampleTask unansweredState := by
  have unpublished : (sendTask relayNode none .reversed 2 describedTask unansweredState).2.published =
      unansweredState.published := rfl
  refine ⟨by decide, by decide, by decide, by decide, unpublished, ?_⟩
  rintro ⟨republished, _⟩
  rw [unpublished, List.self_eq_append_right] at republished
  cases republished

end Keryx.Daemon
