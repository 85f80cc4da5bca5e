import Keryx.Daemon.Origin
import Keryx.Relay.Isolation
import Keryx.Relay.ResultDelivery

/-! A result that counts as delivered was taken by its origin. -/

namespace Keryx.Relay
open Keryx.Core Proto Relational Concurrent
open Daemon
open Store
open Sqlite (Db sampleTask)

def Ingested (ingested : List (IngestRemoteResultRequest × IngestRemoteResultResponse))
    (result : Option TaskResultEnvelope) : Prop :=
  ∃ answered ∈ ingested, answered.1.result = result

def Edge.Holds (edge : Edge) (frame : RelayFrame) : Prop :=
  .ok frame ∈ edge.inbox ∨ edge.phase = .handling frame ∨ edge.phase = .handled frame

def Edge.Acknowledges (edge : Edge) (key : String) : Prop :=
  ∃ call ∈ edge.calls, ∃ frameId, call.request = .ackFrame frameId ∧ trim frameId = key

def Carried (relay : PeerState) (edge : Edge) (frame : RelayFrame) : Prop := relay.Carries frame ∨ edge.Holds frame

/-- Every frame under the id of a waiting publication carries its result, and whoever is told of an acknowledgement is
told what is true. -/
structure Watched (ids : FrameIds) (origin : String) (relay : ServiceState) (edge : Edge)
    (ingested : List (IngestRemoteResultRequest × IngestRemoteResultResponse))
    (delivery : ClaimNextResultDeliveryResponse) (pending : PendingFrameOwnership) : Prop where
  destination : pending.destinationNodeId = trim delivery.targetPeerId
  kind : pending.awaited.kind = none
  issued : pending.frameId ∈ relay.issuedIds ids
  carried : ∀ frame, Carried relay.relay edge frame → frame.key = pending.frameId →
    frame.task = none ∧ frame.result = delivery.result
  acknowledged : edge.Acknowledges pending.frameId → Ingested ingested delivery.result
  told : Told pending.key pending.awaited.receiver
    (pending.destinationNodeId = origin → Ingested ingested delivery.result) relay.relay
  succeeded : pending.progress.succeeded = true → pending.destinationNodeId = origin →
    Ingested ingested delivery.result

/-- What holds between the relay, the node and the publications. -/
structure Traced (ids : FrameIds) (origin : String) (publications : List PublishCall) (relay : ServiceState)
    (edge : Edge) (ingested : List (IngestRemoteResultRequest × IngestRemoteResultResponse)) : Prop where
  attended : relay.relay.Attended
  known : ∀ frame, Carried relay.relay edge frame → frame.key ∈ relay.issuedIds ids
  acknowledged : ∀ key, edge.Acknowledges key → key ∈ relay.issuedIds ids
  handled : ∀ frame, edge.phase = .handled frame → frame.task.isSome = true ∨ Ingested ingested frame.result
  watched : ∀ call ∈ publications, ∀ held, call.progress = .waiting held →
    ∃ pending, relay.pending[held]? = some pending ∧ Watched ids origin relay edge ingested call.delivery pending

section
variable {ids : FrameIds} {origin : String} {publications others : List PublishCall} {relay after : ServiceState}
  {edge later : Edge} {ingested more : List (IngestRemoteResultRequest × IngestRemoteResultResponse)}
  {event : ServiceEvent}

/-- What the rest of the system sees of an event at the relay. -/
structure Follows (ids : FrameIds) (event : ServiceEvent) (before after : ServiceState) : Prop where
  attended : after.relay.Attended
  issued : before.issued ≤ after.issued
  places : ∀ (place : Nat) pending, before.pending[place]? = some pending →
    ∃ later, after.pending[place]? = some later ∧ Remains before.relay pending later
  carries : ∀ frame, after.relay.Carries frame → before.relay.Carries frame ∨
    frame.key = ids.id before.issued ∧ before.issued < after.issued
  told : ∀ key waiter reason, key.2 ∈ before.issuedIds ids → Told key waiter reason before.relay →
    (∀ service metadata frameId, event = .ackFrame service metadata frameId →
      connectingNode service metadata = .ok key.1 → trim frameId = key.2 → reason) →
    Told key waiter reason after.relay

theorem step_follows (attended : relay.relay.Attended) (event : ServiceEvent) :
    Follows ids event relay (relay.step ids event) := by
  cases step_performs ids relay event with
  | nothing same keeps =>
    refine ⟨?_, keeps.issued, keeps.places, ?_, ?_⟩
    · rw [same]
      exact attended
    · intro frame carries
      rw [same] at carries
      exact .inl carries
    · intro key waiter reason _ told _
      rw [same]
      exact told
  | call op more same keeps publishes makes =>
    have fresh : ∀ {target frame}, op.carries = some (target, frame) →
        frame.key = ids.id relay.issued ∧ relay.issued < (relay.step ids event).issued := by
      intro target frame carries
      obtain ⟨named, later, _⟩ := makes.brings target frame carries
      exact ⟨issued_key named, later⟩
    refine ⟨?_, keeps.issued, keeps.places, ?_, ?_⟩
    · rw [same]
      exact step_attended attended op
    · intro frame carries
      rw [same] at carries
      rcases step_carries carries with earlier | ⟨target, admitted⟩
      · exact .inl earlier
      · exact .inr (fresh (admits_carries admitted))
    · intro key waiter reason issued told entitled
      rw [same]
      apply told.step attended
      · intro brings
        obtain ⟨target, frame, carries, rfl⟩ := RelayOp.carries_of_brings brings
        rw [(fresh carries).1] at issued
        exact fresh_id ids relay issued
      · intro node frameId acknowledging named
        obtain ⟨service, metadata, rfl, caller⟩ := makes.acknowledges node frameId acknowledging
        have trimmed := (connectingNode_presents caller).trimmed.1
        refine entitled service metadata frameId rfl ?_ (congrArg Prod.snd named)
        rw [caller, ← congrArg Prod.fst named, trimmed]

/-- The node has acknowledged whatever the event acknowledges for the origin. -/
def Entitled (origin : String) (edge : Edge) (event : ServiceEvent) : Prop :=
  ∀ service metadata frameId, event = .ackFrame service metadata frameId →
    connectingNode service metadata = .ok origin → edge.Acknowledges (trim frameId)

theorem Watched.relayed {delivery : ClaimNextResultDeliveryResponse} {pending remaining : PendingFrameOwnership}
    (watched : Watched ids origin relay edge ingested delivery pending) (follows : Follows ids event relay after)
    (entitled : Entitled origin edge event) (remains : Remains relay.relay pending remaining) :
    Watched ids origin after edge ingested delivery remaining := by
  have sameId : remaining.frameId = pending.frameId := congrArg Prod.snd remains.key
  have sameNode : remaining.destinationNodeId = pending.destinationNodeId := congrArg Prod.fst remains.key
  refine ⟨?_, ?_, ?_, ?_, ?_, ?_, ?_⟩
  · rw [sameNode]
    exact watched.destination
  · rw [remains.awaited]
    exact watched.kind
  · rw [sameId]
    exact issuedIds_mono follows.issued watched.issued
  · intro frame carried keyed
    rw [sameId] at keyed
    rcases carried with carries | holds
    · rcases follows.carries frame carries with earlier | ⟨new, _⟩
      · exact watched.carried frame (.inl earlier) keyed
      · have issued := watched.issued
        rw [← keyed, new] at issued
        exact absurd issued (fresh_id ids relay)
    · exact watched.carried frame (.inr holds) keyed
  · rw [sameId]
    exact watched.acknowledged
  · rw [remains.key, remains.awaited, sameNode]
    apply follows.told _ _ _ watched.issued watched.told
    intro service metadata frameId same caller named destination
    rw [show pending.key.1 = origin from destination] at caller
    have acknowledged := entitled service metadata frameId same caller
    rw [named] at acknowledged
    exact watched.acknowledged acknowledged
  · intro succeeded
    rw [sameNode]
    rcases remains.told succeeded with earlier | delivered
    · exact watched.succeeded earlier
    · apply watched.told.of_delivered
      rw [← watched.kind]
      exact delivered

theorem ask_acknowledges {request : EdgeRequest} {key : String} (acknowledges : (edge.ask request).Acknowledges key) :
    edge.Acknowledges key ∨ ∃ frameId, request = .ackFrame frameId ∧ trim frameId = key := by
  obtain ⟨call, listed, frameId, asked, named⟩ := acknowledges
  rcases List.mem_append.mp listed with earlier | new
  · exact .inl ⟨call, earlier, frameId, asked, named⟩
  · cases List.mem_singleton.mp new
    exact .inr ⟨frameId, asked, named⟩

theorem EdgeRequest.serve_state (request : EdgeRequest) (service : RelayHealthService) (metadata : Metadata) :
    (request.serve service metadata relay).2 = relay.step ids (request.event service metadata) := by
  cases request with
  | complete frameId result => cases result <;> rfl
  | ackFrame frameId => rfl

theorem EdgeRequest.entitled {call : EdgeCall} (listed : call ∈ edge.calls) (service : RelayHealthService)
    (metadata : Metadata) : Entitled origin edge (call.request.event service metadata) := by
  intro _ _ frameId same _
  refine ⟨call, listed, frameId, ?_, rfl⟩
  cases requested : call.request with
  | complete _ result =>
    rw [requested] at same
    cases result <;> cases same
  | ackFrame asked =>
    rw [requested] at same
    cases same
    rfl

theorem Ingested.append {result : Option TaskResultEnvelope} (found : Ingested ingested result)
    (answered : IngestRemoteResultRequest × IngestRemoteResultResponse) : Ingested (ingested ++ [answered]) result := by
  obtain ⟨earlier, listed, same⟩ := found
  exact ⟨earlier, List.mem_append_left _ listed, same⟩

section
variable (traced : Traced ids origin publications relay edge ingested)
include traced

theorem Traced.relayed (event : ServiceEvent)
    (entitled : Entitled origin edge event) : Traced ids origin publications (relay.step ids event) edge ingested := by
  have follows := @step_follows ids relay traced.attended event
  have more : relay.issuedIds ids ⊆ (relay.step ids event).issuedIds ids := issuedIds_mono follows.issued
  refine ⟨follows.attended, ?_, ?_, traced.handled, ?_⟩
  · intro frame carried
    rcases carried with carries | holds
    · rcases follows.carries frame carries with earlier | ⟨new, grown⟩
      · exact more (traced.known frame (.inl earlier))
      · rw [new]
        exact List.mem_map_of_mem (List.mem_range.mpr grown)
    · exact more (traced.known frame (.inr holds))
  · intro key acknowledges
    exact more (traced.acknowledged key acknowledges)
  · intro call listed held waiting
    obtain ⟨pending, found, watched⟩ := traced.watched call listed held waiting
    obtain ⟨remaining, kept, remains⟩ := follows.places held pending found
    exact ⟨remaining, kept, watched.relayed follows entitled remains⟩

theorem Traced.edged
    (holds : ∀ frame, later.Holds frame → Carried relay.relay edge frame)
    (acknowledges : ∀ key, later.Acknowledges key →
      edge.Acknowledges key ∨ ∃ frame, edge.phase = .handled frame ∧ frame.key = key)
    (handled : ∀ frame, later.phase = .handled frame → frame.task.isSome = true ∨ Ingested ingested frame.result) :
    Traced ids origin publications relay later ingested := by
  have carried : ∀ frame, Carried relay.relay later frame → Carried relay.relay edge frame := by
    intro frame found
    rcases found with carries | holding
    · exact .inl carries
    · exact holds frame holding
  refine ⟨traced.attended, ?_, ?_, handled, ?_⟩
  · intro frame found
    exact traced.known frame (carried frame found)
  · intro key found
    rcases acknowledges key found with earlier | ⟨frame, taken, rfl⟩
    · exact traced.acknowledged key earlier
    · exact traced.known frame (.inr (.inr (.inr taken)))
  · intro call listed held waiting
    obtain ⟨pending, found, watched⟩ := traced.watched call listed held waiting
    refine ⟨pending, found, watched.destination, watched.kind, watched.issued, ?_, ?_, watched.told, watched.succeeded⟩
    · intro frame present
      exact watched.carried frame (carried frame present)
    · intro present
      rcases acknowledges pending.frameId present with earlier | ⟨frame, taken, keyed⟩
      · exact watched.acknowledged earlier
      · obtain ⟨untasked, result⟩ := watched.carried frame (.inr (.inr (.inr taken))) keyed
        rcases traced.handled frame taken with tasked | ingested
        · rw [untasked] at tasked
          cases tasked
        · rw [← result]
          exact ingested

theorem Traced.shrunk
    (inbox : later.inbox ⊆ edge.inbox)
    (phase : ∀ frame, (later.phase = .handling frame → edge.phase = .handling frame) ∧
      (later.phase = .handled frame → edge.phase = .handled frame))
    (calls : ∀ key, later.Acknowledges key → edge.Acknowledges key) :
    Traced ids origin publications relay later ingested := by
  refine traced.edged ?_ (fun key found => .inl (calls key found)) ?_
  · intro frame holding
    exact .inr (holding.imp (fun received => inbox received) (Or.imp (phase frame).1 (phase frame).2))
  · intro frame handled
    exact traced.handled frame ((phase frame).2 handled)

theorem Traced.ingests (grown : ∀ result, Ingested ingested result → Ingested more result) :
    Traced ids origin publications relay edge more := by
  refine ⟨traced.attended, traced.known, traced.acknowledged, ?_, ?_⟩
  · intro frame handled
    exact (traced.handled frame handled).imp_right (grown _)
  · intro call listed held waiting
    obtain ⟨pending, found, watched⟩ := traced.watched call listed held waiting
    refine ⟨pending, found, watched.destination, watched.kind, watched.issued, watched.carried, ?_, ?_, ?_⟩
    · exact fun acknowledged => grown _ (watched.acknowledged acknowledged)
    · exact watched.told.mono fun told destination => grown _ (told destination)
    · exact fun succeeded destination => grown _ (watched.succeeded succeeded destination)

theorem Traced.publishes (fewer : ∀ call ∈ others, ∀ held, call.progress = .waiting held → call ∈ publications) :
    Traced ids origin others relay edge ingested :=
  ⟨traced.attended, traced.known, traced.acknowledged, traced.handled, fun call listed held waiting =>
    traced.watched call (fewer call listed held waiting) held waiting⟩

variable {delivery : ClaimNextResultDeliveryResponse}

theorem Traced.moves {place : Nat} {reply : Except Status Unit} :
    Traced ids origin (publications.set place ⟨delivery, .answered reply⟩) relay edge ingested := by
  refine traced.publishes ?_
  intro call listed held waiting
  rcases List.mem_or_eq_of_mem_set listed with earlier | rfl
  · exact earlier
  · cases waiting

theorem Traced.disconnected : Traced ids origin publications relay edge.disconnect ingested := by
  exact traced.shrunk (List.nil_subset _) (fun _ => ⟨nofun, nofun⟩) (fun _ => id)

theorem Traced.next (node : StreamNode) : Traced ids origin publications relay (edge.next node) ingested := by
  unfold Edge.next
  split
  · rename_i frame inbox listening received
    have dropped : inbox ⊆ edge.inbox := by
      rw [received]
      exact List.subset_cons_self _ _
    have present : Carried relay.relay edge frame := by
      refine .inr (.inl ?_)
      rw [received]
      exact List.mem_cons_self
    have shrunk : Traced ids origin publications relay { edge with inbox } ingested :=
      traced.shrunk dropped (fun _ => ⟨id, id⟩) (fun _ => id)
    unfold Edge.look
    split
    · exact shrunk.disconnected
    split
    · refine traced.edged ?_ (fun _ => .inl) ?_
      · intro other holding
        rcases holding with earlier | handling | handled
        · exact .inr (.inl (dropped earlier))
        · cases handling
          exact present
        · cases handled
      · intro other handled
        cases handled
    · split
      · exact shrunk.disconnected
      · refine shrunk.shrunk (fun _ => id) (fun _ => ⟨nofun, nofun⟩) ?_
        intro key acknowledges
        rcases ask_acknowledges acknowledges with earlier | ⟨_, asked, _⟩
        · exact earlier
        · cases asked
  · exact traced.disconnected
  · exact traced

theorem Traced.acknowledges : Traced ids origin publications relay edge.acknowledge ingested := by
  unfold Edge.acknowledge
  split
  · rename_i frame handled
    refine traced.edged ?_ ?_ ?_
    · intro other holding
      rcases holding with earlier | handling | handled
      · exact .inr (.inl earlier)
      · cases handling
      · cases handled
    · intro key acknowledges
      rcases ask_acknowledges acknowledges with earlier | ⟨frameId, asked, named⟩
      · exact .inl earlier
      · cases asked
        exact .inr ⟨frame, handled, named⟩
    · intro other handled
      cases handled
  · exact traced

theorem Traced.resumes : Traced ids origin publications relay edge.resume ingested := by
  unfold Edge.resume
  split
  · split
    · exact traced.shrunk (fun _ => id) (fun _ => ⟨nofun, nofun⟩) (fun _ => id)
    · exact traced.disconnected
    · exact traced
  · exact traced

theorem Traced.takes {frame : RelayFrame}
    (handling : edge.phase = .handling frame) (taken : frame.task.isSome = true ∨ Ingested ingested frame.result) :
    Traced ids origin publications relay { edge with phase := .handled frame } ingested := by
  refine traced.edged ?_ (fun _ => .inl) ?_
  · intro other holding
    rcases holding with received | handlingNow | handled
    · exact .inr (.inl received)
    · cases handlingNow
    · cases handled
      exact .inr (.inr (.inl handling))
  · intro other handled
    cases handled
    exact taken

theorem Traced.restarts (gone : ∀ call ∈ others, ∀ held, call.progress ≠ .waiting held) :
    Traced ids origin others { ServiceState.empty with issued := relay.issued } { edge with stream := none } ingested := by
  have nothing : ∀ frame, ¬ PeerState.empty.Carries frame := by
    rintro frame (⟨node, stored⟩ | ⟨stream, sent⟩)
    · cases stored
    · cases sent
  refine ⟨empty_attended, ?_, traced.acknowledged, traced.handled, ?_⟩
  · intro frame carried
    rcases carried with carries | holds
    · exact absurd carries (nothing frame)
    · exact traced.known frame (.inr holds)
  · intro call listed held waiting
    exact absurd waiting (gone call listed held)

theorem Traced.publication {worker : DeliveryWorker} {service : RelayHealthService} {held : Nat}
    (accepted : publishResultCall service ids worker.metadata (worker.publishRequest delivery) relay = (.ok held, after)) :
    ∃ pending, after.pending[held]? = some pending ∧ Watched ids origin after edge ingested delivery pending := by
  rcases @publishResultCall_cases ids relay service worker.metadata (worker.publishRequest delivery) with
    ⟨status, refused⟩ |
      ⟨source, result, target, routed, published, routing, ⟨status, refused⟩ | ⟨receiver, installed, placed⟩⟩
  · cases refused.symm.trans accepted
  · cases refused.symm.trans accepted
  cases placed.symm.trans accepted
  obtain ⟨_, given, addressed, _⟩ := resultPublication_ok published
  have keyed : (frameOfResult (ids.id relay.issued) source target result).key = ids.id relay.issued := issued_key rfl
  have unused := fresh_id ids relay
  refine ⟨_, List.getElem?_concat_length, addressed, rfl, ?_, ?_, ?_, ?_, nofun⟩
  · exact List.mem_map_of_mem (List.mem_range.mpr (Nat.lt_succ_self _))
  · intro frame carried named
    have earlier : Carried relay.relay edge frame → False := by
      intro present
      have known := traced.known frame present
      rw [show frame.key = ids.id relay.issued from named] at known
      exact unused known
    rcases carried with carries | holds
    · replace carries : routed.Carries frame := carries
      rw [routing] at carries
      rcases step_carries carries with old | ⟨node, admitted⟩
      · exact (earlier (.inl old)).elim
      · cases admits_carries admitted
        exact ⟨rfl, given.symm⟩
    · exact (earlier (.inr holds)).elim
  · intro acknowledges
    exact absurd (traced.acknowledged _ acknowledges) unused
  · have waits := receiver_waits traced.attended installed
    rw [keyed, show RelayOp.awaiting none target _ = .routeFrameWaitingForAck target _ from rfl, ← routing] at waits
    exact .inl waits

end

/-- What the store of the executor and the worker know of the deliveries. -/
structure Booked [Decoders] (origin : String) (executor : Db) (publications : List PublishCall)
    (reports : List DeliveryReport)
    (ingested : List (IngestRemoteResultRequest × IngestRemoteResultResponse)) : Prop where
  owned : Sqlite.Owned executor
  entrusted : ∀ call ∈ publications, Entrusted executor call.delivery
  answered : ∀ call ∈ publications, call.progress = .answered (.ok ()) → trim call.delivery.targetPeerId = origin →
    Ingested ingested call.delivery.result
  reported : ∀ request, .ack request ∈ reports → ∃ delivery, request.deliveryId = delivery.deliveryId ∧
    Entrusted executor delivery ∧ (trim delivery.targetPeerId = origin → Ingested ingested delivery.result)

/-- How an event gets to the store of the executor. -/
inductive Executes [Sha256] (state : DeliveryState) (after : Db) : Prop where
  | nothing (same : after = state.executor)
  | other (op : Sqlite.Op) (idle : ∀ deliveryId workerId leaseExpiresAtMs nowMs,
      op ≠ .ackResultDelivery deliveryId workerId leaseExpiresAtMs nowMs) (same : after = Sqlite.step state.executor op)
  | acknowledges (request : AckResultDeliveryRequest) (nowMs : Int) (listed : .ack request ∈ state.reports)
      (same : after = Sqlite.step state.executor
        (.ackResultDelivery request.deliveryId request.workerId request.leaseExpiresAtMs nowMs))

theorem serveReport_executes [Sha256] {state : DeliveryState} (place : Nat) (admission : Admission) :
    Executes state (state.serveReport place admission).executor := by
  unfold DeliveryState.serveReport
  split
  · rename_i request found
    rcases ackResultDelivery_state request state.executor with same | same
    · exact .nothing same
    · exact .acknowledges request admission.nowMs (List.mem_of_getElem? found) same
  · rename_i request _
    rcases failResultDelivery_state request state.executor with same | ⟨_, same⟩
    · exact .nothing same
    · refine .other _ ?_ same
      rintro _ _ _ _ ⟨⟩
  · exact .nothing rfl

variable [Decoders] {executor : Db} {reports : List DeliveryReport}

section
variable (booked : Booked origin executor publications reports ingested)
include booked

theorem Booked.executed [Sha256]
    (op : Sqlite.Op) : Booked origin (Sqlite.step executor op) publications reports ingested := by
  refine ⟨Sqlite.step_owned executor op booked.owned, ?_, booked.answered, ?_⟩
  · intro call listed
    exact (booked.entrusted call listed).step booked.owned op
  · intro request listed
    obtain ⟨delivery, named, entrusted, taken⟩ := booked.reported request listed
    exact ⟨delivery, named, entrusted.step booked.owned op, taken⟩

theorem Booked.served [Sha256] {served : Db} (reached : served = executor ∨ ∃ op, served = Sqlite.step executor op) :
    Booked origin served publications reports ingested := by
  rcases reached with rfl | ⟨op, rfl⟩
  · exact booked
  · exact booked.executed op

theorem Booked.ingests (grown : ∀ result, Ingested ingested result → Ingested more result) :
    Booked origin executor publications reports more := by
  refine ⟨booked.owned, booked.entrusted, ?_, ?_⟩
  · intro call listed succeeded destination
    exact grown _ (booked.answered call listed succeeded destination)
  · intro request listed
    obtain ⟨delivery, named, entrusted, taken⟩ := booked.reported request listed
    exact ⟨delivery, named, entrusted, fun destination => grown _ (taken destination)⟩

theorem Booked.publishes
    (known : ∀ call ∈ others, call ∈ publications ∨ Entrusted executor call.delivery ∧
      (call.progress = .answered (.ok ()) → trim call.delivery.targetPeerId = origin →
        Ingested ingested call.delivery.result)) : Booked origin executor others reports ingested := by
  refine ⟨booked.owned, ?_, ?_, booked.reported⟩
  · intro call listed
    rcases known call listed with earlier | ⟨entrusted, _⟩
    · exact booked.entrusted call earlier
    · exact entrusted
  · intro call listed
    rcases known call listed with earlier | ⟨_, taken⟩
    · exact booked.answered call earlier
    · exact taken

theorem Booked.reports_fail (request : FailResultDeliveryRequest) :
    Booked origin executor publications (reports ++ [.fail request]) ingested := by
  refine ⟨booked.owned, booked.entrusted, booked.answered, ?_⟩
  intro other listed
  rcases List.mem_append.mp listed with earlier | new
  · exact booked.reported other earlier
  · cases List.mem_singleton.mp new

theorem Booked.reports_ack {worker : DeliveryWorker} {delivery : ClaimNextResultDeliveryResponse}
    (listed : ⟨delivery, .answered (.ok ())⟩ ∈ publications) :
    Booked origin executor publications (reports ++ [.ack (worker.ackRequest delivery)]) ingested := by
  refine ⟨booked.owned, booked.entrusted, booked.answered, ?_⟩
  intro other member
  rcases List.mem_append.mp member with earlier | new
  · exact booked.reported other earlier
  · cases List.mem_singleton.mp new
    have taken := booked.answered _ listed rfl
    exact ⟨delivery, rfl, booked.entrusted _ listed, taken⟩

theorem Booked.moves {delivery : ClaimNextResultDeliveryResponse} {place : Nat} {progress : PublishProgress}
    (entrusted : Entrusted executor delivery)
    (taken : progress = .answered (.ok ()) → trim delivery.targetPeerId = origin → Ingested ingested delivery.result) :
    Booked origin executor (publications.set place ⟨delivery, progress⟩) reports ingested := by
  refine booked.publishes ?_
  intro call listed
  rcases List.mem_or_eq_of_mem_set listed with earlier | rfl
  · exact .inl earlier
  · exact .inr ⟨entrusted, taken⟩

end

structure DeliveryState.Sound (ids : FrameIds) (origin : String) (state : DeliveryState) : Prop where
  traced : Traced ids origin state.publications state.relay state.edge state.ingested
  booked : Booked origin state.executor state.publications state.reports state.ingested

variable {state : DeliveryState} {worker : DeliveryWorker} {node : StreamNode}

section
variable (sound : state.Sound ids origin)
include sound

theorem restartRelay_sound (seen : Status) : (state.restartRelay seen).Sound ids origin := by
  refine ⟨sound.traced.restarts ?_, sound.booked.publishes ?_⟩
  · intro call listed held waiting
    obtain ⟨earlier, _, rfl⟩ := List.mem_map.mp listed
    split at waiting
    · cases waiting
    · rename_i other
      exact other held waiting
  · intro call listed
    obtain ⟨earlier, member, rfl⟩ := List.mem_map.mp listed
    split
    · exact .inr ⟨sound.booked.entrusted earlier member, nofun⟩
    · exact .inl member

theorem claimDelivery_sound [Sha256] (admission : Admission) :
    (state.claimDelivery worker admission).Sound ids origin := by
  have booked : Booked origin (claimNextResultDelivery admission.runtime admission.authorization admission.nowMs
      worker.claimRequest state.executor).2 state.publications state.reports state.ingested :=
    sound.booked.served ((claimNextResultDelivery_state _ _).imp_right fun same => ⟨_, same⟩)
  unfold DeliveryState.claimDelivery
  split
  swap
  · exact sound
  split
  · rename_i delivery executor claimed
    rw [claimed] at booked
    split
    · rename_i handed
      have entrusted := claimNextResultDelivery_entrusts claimed handed
      refine ⟨sound.traced.publishes ?_, booked.publishes ?_⟩
      · intro call listed held waiting
        rcases List.mem_append.mp listed with earlier | new
        · exact earlier
        · cases List.mem_singleton.mp new
          cases waiting
      · intro call listed
        rcases List.mem_append.mp listed with earlier | new
        · exact .inl earlier
        · cases List.mem_singleton.mp new
          exact .inr ⟨entrusted, nofun⟩
    · exact ⟨sound.traced, booked⟩
  · rename_i status executor refused
    rw [refused] at booked
    exact ⟨sound.traced, booked⟩

theorem servePublication_sound (place : Nat) (service : RelayHealthService) :
    (state.servePublication ids worker place service).Sound ids origin := by
  unfold DeliveryState.servePublication
  split
  swap
  · exact sound
  rename_i delivery found
  have entrusted := sound.booked.entrusted _ (List.mem_of_getElem? found)
  have relayed : Traced ids origin state.publications
      (publishResultCall service ids worker.metadata (worker.publishRequest delivery) state.relay).2 state.edge
      state.ingested :=
    sound.traced.relayed (.publishResult service worker.metadata (worker.publishRequest delivery)) nofun
  split
  · rename_i held relay accepted
    have watched := sound.traced.publication accepted
    rw [accepted] at relayed
    refine ⟨⟨relayed.attended, relayed.known, relayed.acknowledged, relayed.handled, ?_⟩, sound.booked.moves entrusted nofun⟩
    intro call listed other waiting
    rcases List.mem_or_eq_of_mem_set listed with earlier | rfl
    · exact relayed.watched call earlier other waiting
    · cases waiting
      exact watched
  · rename_i status relay refused
    rw [refused] at relayed
    exact ⟨relayed.moves, sound.booked.moves entrusted nofun⟩

theorem answerPublication_sound (place : Nat) : (state.answerPublication place).Sound ids origin := by
  unfold DeliveryState.answerPublication
  split
  swap
  · exact sound
  rename_i delivery held found
  have listed := List.mem_of_getElem? found
  split
  swap
  · exact sound
  rename_i reply answered
  obtain ⟨pending, present, progress⟩ := Option.map_eq_some_iff.mp answered
  obtain ⟨watching, presentToo, watched⟩ := sound.traced.watched _ listed held rfl
  cases present.symm.trans presentToo
  refine ⟨sound.traced.moves, sound.booked.moves (sound.booked.entrusted _ listed) ?_⟩
  intro same destination
  cases same
  refine watched.succeeded ?_ (watched.destination.trans destination)
  rw [progress]
  rfl

theorem finishPublication_sound : (state.finishPublication worker).Sound ids origin := by
  unfold DeliveryState.finishPublication
  split
  swap
  · exact sound
  split
  · rename_i delivery found
    exact ⟨sound.traced, sound.booked.reports_ack (List.mem_of_getElem? found)⟩
  · exact ⟨sound.traced, sound.booked.reports_fail _⟩
  · exact sound

theorem losePublication_sound (seen : Status) : (state.losePublication worker seen).Sound ids origin := by
  unfold DeliveryState.losePublication
  split
  swap
  · exact sound
  split
  · exact ⟨sound.traced, sound.booked.reports_fail _⟩
  · exact sound

theorem serveReport_sound [Sha256] (place : Nat) (admission : Admission) :
    (state.serveReport place admission).Sound ids origin := by
  unfold DeliveryState.serveReport
  split
  · rename_i request _
    refine ⟨sound.traced, sound.booked.served ?_⟩
    exact (ackResultDelivery_state request state.executor).imp_right fun same => ⟨_, same⟩
  · rename_i request _
    refine ⟨sound.traced, sound.booked.served ?_⟩
    exact (failResultDelivery_state request state.executor).imp_right fun ⟨_, same⟩ => ⟨_, same⟩
  · exact sound

theorem connectEdge_sound (service : RelayHealthService) : (state.connectEdge node service).Sound ids origin := by
  have relayed : Traced ids origin state.publications (connectNodeCall service node.metadata state.relay).2 state.edge
      state.ingested := sound.traced.relayed (.connectNode service node.metadata) nofun
  unfold DeliveryState.connectEdge
  split
  swap
  · exact sound
  split
  · rename_i connected
    rw [connected] at relayed
    exact ⟨relayed.shrunk (List.nil_subset _) (fun _ => ⟨nofun, nofun⟩) (fun _ => id), sound.booked⟩
  · rename_i refused
    rw [refused] at relayed
    exact ⟨relayed, sound.booked⟩

theorem transmit_sound : state.transmit.Sound ids origin := by
  unfold DeliveryState.transmit
  split
  · exact sound
  rename_i stream _
  split
  · exact sound
  rename_i item _ waiting
  have sent : item ∈ (state.relay.relay.streams stream).sent := by
    apply List.mem_of_mem_drop
    rw [show List.drop _ _ = item :: _ from waiting]
    exact List.mem_cons_self
  have received : Traced ids origin state.publications state.relay
      { state.edge with inbox := state.edge.inbox ++ [item] } state.ingested := by
    refine sound.traced.edged ?_ (fun _ => .inl) sound.traced.handled
    intro frame holding
    rcases holding with listed | handling
    · rcases List.mem_append.mp listed with earlier | new
      · exact .inr (.inl earlier)
      · cases List.mem_singleton.mp new
        exact .inl (.inr ⟨stream, sent⟩)
    · exact .inr (.inr handling)
  exact ⟨received.relayed (.takeItem stream) nofun, sound.booked⟩

theorem serveFrame_sound [Sha256] (admission : Admission) : (state.serveFrame admission).Sound ids origin := by
  unfold DeliveryState.serveFrame
  split
  swap
  · exact sound
  rename_i frame handling
  split
  · rename_i task result tasked
    split
    · refine ⟨sound.traced.takes handling (.inl ?_), sound.booked⟩
      rw [tasked]
      rfl
    · exact ⟨sound.traced.disconnected, sound.booked⟩
  · rename_i result _ carried
    split
    · rename_i response _ _
      have grown := fun taken (found : Ingested state.ingested taken) => found.append (ingestion frame result, response)
      refine ⟨(sound.traced.ingests grown).takes handling (.inr ?_), sound.booked.ingests grown⟩
      exact ⟨_, List.mem_append_right _ (List.mem_singleton_self _), carried.symm⟩
    · exact ⟨sound.traced.disconnected, sound.booked⟩
  · exact ⟨sound.traced.disconnected, sound.booked⟩

theorem serveEdgeCall_sound (place : Nat) (service : RelayHealthService) :
    (state.serveEdgeCall node place service).Sound ids origin := by
  unfold DeliveryState.serveEdgeCall
  split
  · exact sound
  rename_i call found
  have listed := List.mem_of_getElem? found
  have relayed := sound.traced.relayed _ (EdgeRequest.entitled listed service node.metadata)
  rw [← call.request.serve_state service node.metadata] at relayed
  refine ⟨relayed.shrunk (fun _ => id) (fun _ => ⟨id, id⟩) ?_, sound.booked⟩
  rintro key ⟨other, member, frameId, asked, named⟩
  rcases List.mem_or_eq_of_mem_set member with earlier | rfl
  · exact ⟨other, earlier, frameId, asked, named⟩
  · exact ⟨call, listed, frameId, asked, named⟩

end

/-- The worker alone acknowledges deliveries, and nobody else acknowledges frames with the token of the origin. -/
def DeliveryEvent.Exclusive (origin : String) : DeliveryEvent → Prop
  | .executor op => ∀ deliveryId workerId leaseExpiresAtMs nowMs,
      op ≠ .ackResultDelivery deliveryId workerId leaseExpiresAtMs nowMs
  | .relay (.ackFrame service metadata _) => ¬ Presents service metadata origin
  | _ => True

theorem step_sound [Sha256] (sound : state.Sound ids origin) (event : DeliveryEvent)
    (exclusive : event.Exclusive origin) : (state.step ids worker node event).Sound ids origin := by
  cases event with
  | executor op => exact ⟨sound.traced, sound.booked.executed op⟩
  | origin op => exact ⟨sound.traced, sound.booked⟩
  | relay event =>
    refine ⟨sound.traced.relayed event ?_, sound.booked⟩
    intro service metadata frameId acknowledging caller
    rw [acknowledging] at exclusive
    exact absurd (connectingNode_presents caller) exclusive
  | restartRelay seen => exact restartRelay_sound sound seen
  | claimDelivery admission => exact claimDelivery_sound sound admission
  | servePublication place service => exact servePublication_sound sound place service
  | answerPublication place => exact answerPublication_sound sound place
  | finishPublication => exact finishPublication_sound sound
  | losePublication seen => exact losePublication_sound sound seen
  | serveReport place admission => exact serveReport_sound sound place admission
  | resumeWorker => exact ⟨sound.traced, sound.booked⟩
  | connectEdge service => exact connectEdge_sound sound service
  | transmit => exact transmit_sound sound
  | nextFrame => exact ⟨sound.traced.next node, sound.booked⟩
  | serveFrame admission => exact serveFrame_sound sound admission
  | acknowledgeFrame => exact ⟨sound.traced.acknowledges, sound.booked⟩
  | serveEdgeCall place service => exact serveEdgeCall_sound sound place service
  | resumeEdge => exact ⟨sound.traced.resumes, sound.booked⟩
  | failEdge => exact ⟨sound.traced.disconnected, sound.booked⟩

theorem initial_sound (db : Db) : (DeliveryState.initial db).Sound ids origin := by
  refine ⟨⟨empty_attended, ?_, ?_, ?_, ?_⟩, ?_, ?_, ?_, ?_⟩
  · rintro frame ((⟨node, stored⟩ | ⟨stream, sent⟩) | (received | handling | handled))
    · cases stored
    · cases sent
    · cases received
    · cases handling
    · cases handled
  · rintro key ⟨call, listed, _⟩
    cases listed
  · intro frame handled
    cases handled
  · intro call listed
    cases listed
  · intro _ _ found
    cases found
  all_goals
    intro _ listed
    cases listed

theorem claimDelivery_executes [Sha256] (admission : Admission) :
    Executes state (state.claimDelivery worker admission).executor := by
  have executed : Executes state (claimNextResultDelivery admission.runtime admission.authorization admission.nowMs
      worker.claimRequest state.executor).2 := by
    rcases claimNextResultDelivery_state worker.claimRequest state.executor with same | same
    · exact .nothing same
    · refine .other _ ?_ same
      rintro _ _ _ _ ⟨⟩
  unfold DeliveryState.claimDelivery
  split
  swap
  · exact .nothing rfl
  split
  · rename_i claimed
    rw [claimed] at executed
    split
    · exact executed
    · exact executed
  · rename_i refused
    rw [refused] at executed
    exact executed

theorem step_executes [Sha256] (event : DeliveryEvent) (exclusive : event.Exclusive origin) :
    Executes state (state.step ids worker node event).executor := by
  cases event with
  | executor op => exact .other op exclusive rfl
  | claimDelivery admission => exact claimDelivery_executes admission
  | serveReport place admission => exact serveReport_executes place admission
  | servePublication | answerPublication | finishPublication | losePublication | connectEdge | transmit | serveFrame |
    serveEdgeCall =>
    refine .nothing ?_
    simp only [DeliveryState.step, DeliveryState.servePublication, DeliveryState.answerPublication,
      DeliveryState.finishPublication, DeliveryState.losePublication, DeliveryState.connectEdge, DeliveryState.transmit,
      DeliveryState.serveFrame, DeliveryState.serveEdgeCall]
    repeat' split
    all_goals rfl
  | _ => exact .nothing rfl

/-- The origin has taken the result that a row of the outbox is about. -/
def DeliveryState.Took (state : DeliveryState) (row : ResultOutboxRecord) : Prop :=
  ∃ record result, state.executor.terminalResults.find row.taskId = some record ∧
    Decoders.taskResultEnvelope record.encodedResult = .ok result ∧ Ingested state.ingested (some result)

theorem step_took [Sha256] (sound : state.Sound ids origin) (event : DeliveryEvent) (exclusive : event.Exclusive origin)
    {deliveryId : String} {next : ResultOutboxRecord}
    (found : (state.step ids worker node event).executor.resultOutbox.find deliveryId = some next)
    (delivered : next.state = .delivered) (target : next.targetPeerId.value = origin) :
    state.executor.resultOutbox.find deliveryId = some next ∨ state.Took next := by
  cases @step_executes ids origin _ state worker node _ event exclusive with
  | nothing same =>
    rw [same] at found
    exact .inl found
  | other op idle same =>
    rw [same] at found
    rcases Sqlite.step_delivered _ _ found delivered with earlier | ⟨_, _, _, acknowledging⟩
    · exact .inl earlier
    · exact absurd acknowledging (idle _ _ _ _)
  | acknowledges request nowMs listed same =>
    rw [same] at found
    rcases Sqlite.step_delivered _ _ found delivered with earlier | ⟨_, _, _, acknowledging⟩
    · exact .inl earlier
    cases acknowledging
    obtain ⟨delivery, named, ⟨row, record, result, present, addressed, stored, decoded, carried⟩, taken⟩ :=
      sound.booked.reported request listed
    rw [← named] at present
    obtain ⟨moved, kept, moves⟩ := (Sqlite.step_rowAfter _ _ sound.booked.owned _).stored row present
    cases kept.symm.trans found
    obtain ⟨_, sameTask, sameTarget⟩ := moves.identity
    refine .inr ⟨record, result, ?_, decoded, ?_⟩
    · rw [sameTask]
      exact stored
    · rw [← carried]
      apply taken
      rw [← addressed, trim_value, ← sameTarget]
      exact target

theorem run_took [Sha256] {events : List DeliveryEvent} (sound : state.Sound ids origin)
    (exclusive : ∀ event ∈ events, event.Exclusive origin) :
    Run.Along (DeliveryState.step ids worker node) (fun state event => ∀ deliveryId next,
      (state.step ids worker node event).executor.resultOutbox.find deliveryId = some next →
      next.state = .delivered → next.targetPeerId.value = origin →
      state.executor.resultOutbox.find deliveryId = some next ∨ state.Took next) state events := by
  induction events generalizing state with
  | nil => trivial
  | cons event events ih =>
    obtain ⟨first, rest⟩ := List.forall_mem_cons.mp exclusive
    refine ⟨?_, ih (step_sound sound event first) rest⟩
    intro deliveryId next found delivered target
    exact step_took sound event first found delivered target

end

/-- Where the worker alone acknowledges deliveries and nobody else uses the token of the origin, the origin has taken
the result of every delivered row. -/
theorem delivered_results_were_ingested [Decoders] [Sha256] (ids : FrameIds) (worker : DeliveryWorker)
    (node : StreamNode) (origin : Db) (events : List DeliveryEvent)
    (exclusive : ∀ event ∈ events, event.Exclusive (trim node.registryPeerId)) :
    Run.Along (DeliveryState.step ids worker node) (fun state event => ∀ deliveryId next,
      (state.step ids worker node event).executor.resultOutbox.find deliveryId = some next →
      next.state = .delivered → next.targetPeerId.value = trim node.registryPeerId →
      state.executor.resultOutbox.find deliveryId = some next ∨ state.Took next) (.initial origin) events :=
  run_took (initial_sound origin) exclusive

def originPeer : PeerId := .literal "origin" (.refl true)

abbrev returnedDecoders : Decoders where
  taskEnvelope := fun _ => .error ""
  taskResultEnvelope := fun _ => .ok { sampleResult with outputArtifacts := [] }
  textList := fun _ => .error ""

def pairedService : RelayHealthService where
  registry := none
  nodeAuth := some
    ⟨(Table.empty.put (.literal "edge" (.refl true), "token-0123456789")).put
      (.literal "origin" (.refl true), "token-9876543210"), []⟩

def executorWorker : DeliveryWorker := ⟨"edge", some "token-0123456789", fun _ _ => 1000⟩

def originNode : StreamNode := ⟨"origin", some "token-9876543210", fun _ => .bind ⟨0, false, "", 0, 0, "", ""⟩⟩

def executorAdmission : Admission := ⟨sampleRuntime, none, 5⟩

def originAdmission : Admission :=
  ⟨{ sampleRuntime with config := { sampleRuntime.config with localPeerId := originPeer } }, none, 5⟩

def originStore : Db := Run.run (@Sqlite.step default) .empty [Sqlite.acceptForPeer]

/-- The executor completes the task, and its worker has yet to acknowledge what the origin has taken. -/
def deliveringRun : List DeliveryEvent :=
  [.executor (.acceptTask (TaskRecord.new sampleTask .pending none)),
    .executor (.leaseTask sampleTask Sqlite.sampleLease),
    .executor (.completeTaskWithResult sampleTask Sqlite.sampleLease.leaseId
      (.literal "worker-1" (.refl true))
      ⟨sampleTask, [2], .completed, some originPeer, Sqlite.samplePeer, 0⟩),
    .connectEdge pairedService, .claimDelivery executorAdmission, .servePublication 0 pairedService, .transmit,
    .nextFrame, .serveFrame originAdmission, .acknowledgeFrame, .serveEdgeCall 0 pairedService,
    .relay (.endWait 0 .polled), .answerPublication 0, .finishPublication]

theorem deliveringRun_exclusive :
    ∀ event ∈ deliveringRun ++ [.serveReport 0 executorAdmission], event.Exclusive "origin" := by
  simp [deliveringRun, DeliveryEvent.Exclusive]

def deliveredRow : ResultOutboxRecord :=
  ⟨deliveryId sampleTask, sampleTask, originPeer, .delivered, 0, 0, none, none, none, 0, 5⟩

/-- The row becomes delivered, and the origin has taken its result. -/
theorem sample_result_taken :
    @DeliveryState.Took returnedDecoders
      (Run.run (@DeliveryState.step default executorWorker originNode returnedDecoders default) (.initial originStore)
        deliveringRun) deliveredRow := by
  have every := @delivered_results_were_ingested returnedDecoders default default executorWorker originNode originStore
    (deliveringRun ++ [.serveReport 0 executorAdmission]) deliveringRun_exclusive
  have last := (Run.along_append.mp every).2.1
  have delivered := last (deliveryId sampleTask) deliveredRow (by decide +kernel) rfl rfl
  refine delivered.resolve_left ?_
  decide +kernel

end Keryx.Relay
