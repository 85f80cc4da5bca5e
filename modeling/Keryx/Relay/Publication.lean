import Keryx.Relay.Service

/-! Which publications the relay remembers, what it answers, and when it forgets one. -/

namespace Keryx.Relay
open Keryx.Core Proto Relational Concurrent

def RelayOp.rollsBack : RelayOp → Bool
  | .forgetPublishedTask _ _ _ _ => true
  | _ => false

theorem RelayOp.rollsBack_of_registers {op : RelayOp} {taskKey : TaskPublishKey}
    (registers : op.registers = some taskKey) : op.rollsBack = false := by
  cases op <;> first | rfl | cases registers

structure TaskPublication where
  sourceNodeId : String
  destinationNodeId : String
  taskId : String
  identityTask : TaskEnvelope
  routedTask : TaskEnvelope
  frame : RelayFrame
  proposedReceipt : PublishedTaskReceipt

namespace TaskPublication

def key (publication : TaskPublication) : TaskPublishKey :=
  (publication.sourceNodeId, publication.destinationNodeId, publication.taskId)

def publish (publication : TaskPublication) : PeerState → PublishedTaskDelivery × PeerState :=
  publishTaskFrame publication.sourceNodeId publication.destinationNodeId publication.taskId publication.identityTask
    publication.routedTask publication.frame publication.proposedReceipt

def op (publication : TaskPublication) : RelayOp :=
  .publishTaskFrame publication.sourceNodeId publication.destinationNodeId publication.taskId publication.identityTask
    publication.routedTask publication.frame publication.proposedReceipt

/-- What a publication is answered while the first one under its key is on record. -/
def again (first publication : TaskPublication) : PublishedTaskDelivery :=
  if !isExactTaskFrame publication.frame publication.routedTask then .rejectedInvalid
  else if first.identityTask.Same publication.identityTask then .retry first.proposedReceipt
  else .conflict

end TaskPublication

/-- A publication under the key of the first one changes nothing and is answered as a repetition, by the runtime and
by the service. -/
structure Repeats (first : TaskPublication) (state : PeerState) : Prop where
  published : ∀ publication : TaskPublication, publication.key = first.key →
    publication.publish state = (first.again publication, state)
  served : ∀ (service : RelayHealthService) (ids : FrameIds) (nowMs : Int) (metadata : Metadata)
    (request : PublishTaskRequest) (calls : ServiceState) (source target : String) (task : TaskEnvelope)
    (taskId : ProtoId) (sourcePeerId : PeerId), calls.relay = state →
    taskPublication service metadata request = .ok (source, task, target, taskId) →
    validateIdentifier .peerId source = .ok sourcePeerId → (source, target, trim taskId.value) = first.key →
    publishTaskCall service ids nowMs metadata request calls =
      (if first.identityTask.Same (canonicalTaskPublicationIdentity task) then
        .ok ⟨some taskId, first.proposedReceipt.frameId, source, target, "relay", first.proposedReceipt.acceptedAtMs⟩
      else .error ⟨.alreadyExists, "task identity was already accepted with a different envelope"⟩,
        { calls with issued := calls.issued + 1 })

def lostTasks (before after : HashMap TaskPublishKey PublishedTaskRecord) : List TaskPublishKey :=
  (before.rows.filter (fun row => (after.find row.1).isNone)).map (·.1)

def markedTasks (before after : HashMap TaskPublishKey PublishedTaskRecord) : List TaskPublishKey :=
  (before.rows.filter (fun row => !row.2.acknowledged && (after.find row.1).any (·.2.acknowledged))).map (·.1)

/-- The records that a call evicts, other than those it is asked to roll back. -/
def evictedTasks (state : PeerState) (op : RelayOp) : List TaskPublishKey :=
  if op.rollsBack then [] else lostTasks state.publishedTasks (step state op).publishedTasks

def acknowledgedTasks (state : PeerState) (op : RelayOp) : List TaskPublishKey :=
  markedTasks state.publishedTasks (step state op).publishedTasks

/-- A record turns acknowledged when its frame does, is evicted when the table is full and another task is admitted,
and is otherwise rolled back. -/
structure Accountable (state : PeerState) (op : RelayOp) : Prop where
  acknowledged : ∀ taskKey ∈ acknowledgedTasks state op, ∃ destination frameId row,
    op = .ackFrame destination frameId ∧ (ackFrame destination frameId state).1 = .accepted ∧
    (trim destination, trim frameId) ∈ state.frameDestinations ∧ state.publishedTasks.find taskKey = some row ∧
    publishedFrame row = (trim destination, trim frameId)
  evicted : ∀ taskKey ∈ evictedTasks state op, state.publishedTasks.rows.length = maxRetainedPublishedTasks ∧
    (∃ row, state.publishedTasks.find taskKey = some row ∧ row.2.acknowledged = true) ∧
    ∃ new, op.registers = some new ∧ state.publishedTasks.find new = none ∧
      ((step state op).publishedTasks.find new).isSome
  rolledBack : ∀ taskKey row, state.publishedTasks.find taskKey = some row →
    (step state op).publishedTasks.find taskKey = none → taskKey ∉ evictedTasks state op →
    op = .forgetPublishedTask taskKey.1 taskKey.2.1 taskKey.2.2 row.2.receipt.frameId ∧ row.2.acknowledged = false ∧
      publishedFrame row ∉ state.frameDestinations

section
variable {book : TaskBook} {row : TaskPublishKey × PublishedTaskRecord} {state : PeerState} {op : RelayOp}
  {taskKey : TaskPublishKey} {envelope : TaskEnvelope} {receipt : PublishedTaskReceipt}

section
variable {before after : HashMap TaskPublishKey PublishedTaskRecord}

variable {condition : TaskPublishKey × PublishedTaskRecord → Bool}

theorem filter_keyed (found : before.find row.1 = some row)
    (exactly : ∀ other ∈ before.rows, condition other = true ↔ other.1 = row.1) :
    (before.rows.filter condition).map (·.1) = [row.1] := by
  have same : before.rows.filter condition = before.rows.filter (fun other => other.1 = row.1) := by
    apply List.filter_congr
    intro other member
    rw [Bool.eq_iff_iff, exactly other member, decide_eq_true_eq]
  rw [same, Table.filter_key, found]
  rfl

theorem filter_none
    (none : ∀ other ∈ before.rows, condition other = false) : (before.rows.filter condition).map (·.1) = [] := by
  rw [List.map_eq_nil_iff, List.filter_eq_nil_iff]
  intro other member holds
  rw [none other member] at holds
  cases holds

theorem lostTasks_nil (kept : ∀ row ∈ before.rows, ∃ later, after.find row.1 = some later) :
    lostTasks before after = [] := by
  apply filter_none
  intro row member
  obtain ⟨later, found⟩ := kept row member
  rw [found]
  rfl

theorem markedTasks_nil (kept : ∀ row ∈ before.rows, ∀ later, after.find row.1 = some later → later = row) :
    markedTasks before after = [] := by
  apply filter_none
  intro row member
  cases found : after.find row.1 with
  | none => exact Bool.and_false _
  | some later =>
    rw [kept row member later found, Option.any_some]
    exact Bool.not_and_self _

theorem tasks_put (absent : before.find taskKey = none) (record : PublishedTaskRecord) :
    lostTasks before (after.put (taskKey, record)) = lostTasks before after ∧
      markedTasks before (after.put (taskKey, record)) = markedTasks before after := by
  have same : ∀ row ∈ before.rows, (after.put (taskKey, record)).find row.1 = after.find row.1 := by
    intro row member
    exact Table.find_put_ne after (taskKey, record) (Table.find_none.mp absent row member)
  constructor
  all_goals
    refine congrArg (List.map _) (List.filter_congr fun row member => ?_)
    rw [same row member]

theorem tasks_same : lostTasks before before = [] ∧ markedTasks before before = [] := by
  constructor
  · exact lostTasks_nil fun row member => ⟨row, Table.find_of_mem member⟩
  · apply markedTasks_nil
    intro row member later found
    exact Option.some.inj (found.symm.trans (Table.find_of_mem member))

theorem tasks_remove (found : book.published.find row.1 = some row) :
    lostTasks book.published (book.remove row).published = [row.1] ∧
      markedTasks book.published (book.remove row).published = [] := by
  constructor
  · apply filter_keyed found
    intro other member
    rw [Option.isNone_iff_eq_none]
    constructor
    · intro gone
      by_contra different
      have kept : (book.remove row).published.find other.1 = some other :=
        Table.find_keep_some.mpr ⟨Table.find_of_mem member, decide_eq_true different⟩
      rw [kept] at gone
      cases gone
    · intro same
      refine Option.eq_none_iff_forall_ne_some.mpr fun kept present => ?_
      obtain ⟨earlier, different⟩ := Table.find_keep_some.mp present
      exact of_decide_eq_true different ((Table.find_key earlier).trans same)
  · apply markedTasks_nil
    intro other member later kept
    have earlier := (Table.find_keep_some.mp kept).1
    exact Option.some.inj (earlier.symm.trans (Table.find_of_mem member))

theorem tasks_acknowledge (found : book.published.find row.1 = some row) (unacknowledged : row.2.acknowledged = false) :
    lostTasks book.published (book.acknowledge row).published = [] ∧
      markedTasks book.published (book.acknowledge row).published = [row.1] := by
  have find : ∀ other, (book.acknowledge row).published.find other =
      if other = row.1 then some (row.1, { row.2 with acknowledged := true }) else book.published.find other :=
    fun other => Table.find_put book.published (row.1, { row.2 with acknowledged := true }) other
  constructor
  · apply lostTasks_nil
    intro other member
    rw [find]
    split
    · exact ⟨_, rfl⟩
    · exact ⟨other, Table.find_of_mem member⟩
  · apply filter_keyed found
    intro other member
    have present : book.published.find other.1 = some other := Table.find_of_mem member
    rw [find]
    split
    · rename_i same
      rw [same, found] at present
      cases present
      exact iff_of_true (by rw [unacknowledged]; rfl) rfl
    · rename_i different
      rw [present, Option.any_some, Bool.not_and_self]
      exact iff_of_false Bool.false_ne_true different

end

theorem Entry.queue {after : TaskBook} (entry : Entry op state after) :
    state.acknowledgedPublishedTaskOrder ++ markedTasks state.publishedTasks after.published =
      (if op.rollsBack then [] else lostTasks state.publishedTasks after.published) ++ after.order := by
  cases entry with
  | kept =>
    show _ ++ markedTasks state.publishedTasks state.publishedTasks =
      (if _ then [] else lostTasks state.publishedTasks state.publishedTasks) ++ _
    rw [tasks_same.1, tasks_same.2, ite_self, List.append_nil]
    rfl
  | admitted taskKey envelope receipt registers given absent room =>
    obtain ⟨lost, marked⟩ := @tasks_put taskKey state.publishedTasks state.publishedTasks absent ⟨envelope, receipt, false⟩
    show _ ++ markedTasks state.publishedTasks (state.publishedTasks.put _) =
      (if _ then [] else lostTasks state.publishedTasks (state.publishedTasks.put _)) ++ _
    rw [lost, marked, tasks_same.1, tasks_same.2, ite_self, List.append_nil]
    rfl
  | replaced row order taskKey envelope receipt registers given absent full oldest found acknowledged =>
    obtain ⟨lost, marked⟩ := @tasks_put taskKey state.publishedTasks (state.book.remove row).published absent
      ⟨envelope, receipt, false⟩
    obtain ⟨gone, unmarked⟩ := @tasks_remove state.book row found
    have asked := RelayOp.rollsBack_of_registers registers
    show _ ++ markedTasks state.publishedTasks ((state.book.remove row).published.put _) =
      (if _ then [] else lostTasks state.publishedTasks ((state.book.remove row).published.put _)) ++ order
    rw [lost, marked, asked, oldest]
    show _ ++ markedTasks state.book.published _ = lostTasks state.book.published _ ++ order
    rw [gone, unmarked]
    exact List.append_nil _
  | acknowledged destination frameId row acks accepted owned found carried unacknowledged =>
    obtain ⟨lost, marked⟩ := @tasks_acknowledge state.book row found unacknowledged
    show _ ++ markedTasks state.book.published _ = (if _ then [] else lostTasks state.book.published _) ++ _
    rw [lost, marked, ite_self]
    rfl
  | forgotten row forgets found unacknowledged unowned =>
    obtain ⟨_, marked⟩ := @tasks_remove state.book row found
    show _ ++ markedTasks state.book.published _ = _
    rw [marked, forgets]
    exact List.append_nil _

theorem evicted_in_order (ops : List RelayOp) :
    Run.collect step acknowledgedTasks PeerState.empty ops =
      Run.collect step evictedTasks PeerState.empty ops ++
        (Run.run step PeerState.empty ops).acknowledgedPublishedTaskOrder := by
  induction ops using List.reverseRecOn with
  | nil => rfl
  | append_singleton ops op ih =>
    have queue := (step_entry (run_retained ops) op).queue
    rw [Run.collect_snoc, Run.collect_snoc, Run.run_append, ih, List.append_assoc, List.append_assoc]
    exact congrArg _ queue

theorem Entry.marked {after : TaskBook} (entry : Entry op state after)
    (member : taskKey ∈ markedTasks state.publishedTasks after.published) :
    ∃ destination frameId row, op = .ackFrame destination frameId ∧
      (ackFrame destination frameId state).1 = .accepted ∧
      (trim destination, trim frameId) ∈ state.frameDestinations ∧ state.publishedTasks.find taskKey = some row ∧
      publishedFrame row = (trim destination, trim frameId) := by
  cases entry with
  | kept =>
    change taskKey ∈ markedTasks state.publishedTasks state.publishedTasks at member
    rw [tasks_same.2] at member
    cases member
  | admitted newKey envelope receipt registers given absent room =>
    change taskKey ∈ markedTasks state.publishedTasks (state.publishedTasks.put _) at member
    rw [(tasks_put absent _).2, tasks_same.2] at member
    cases member
  | replaced row order newKey envelope receipt registers given absent full oldest found acknowledged =>
    change taskKey ∈ markedTasks state.publishedTasks ((state.book.remove row).published.put _) at member
    rw [(tasks_put absent _).2] at member
    change taskKey ∈ markedTasks state.book.published _ at member
    rw [(tasks_remove found).2] at member
    cases member
  | acknowledged destination frameId row acks accepted owned found carried unacknowledged =>
    change taskKey ∈ markedTasks state.book.published _ at member
    rw [(@tasks_acknowledge state.book row found unacknowledged).2] at member
    rw [List.mem_singleton.mp member]
    exact ⟨destination, frameId, row, acks, accepted, owned, found, carried⟩
  | forgotten row forgets found unacknowledged unowned =>
    change taskKey ∈ markedTasks state.book.published _ at member
    rw [(@tasks_remove state.book row found).2] at member
    cases member

theorem Entry.lost {after : TaskBook} (entry : Entry op state after)
    (member : taskKey ∈ lostTasks state.publishedTasks after.published) (asked : op.rollsBack = false) :
    state.publishedTasks.rows.length = maxRetainedPublishedTasks ∧
      (∃ row, state.publishedTasks.find taskKey = some row ∧ row.2.acknowledged = true) ∧
      ∃ new, op.registers = some new ∧ state.publishedTasks.find new = none ∧ (after.published.find new).isSome := by
  cases entry with
  | kept =>
    change taskKey ∈ lostTasks state.publishedTasks state.publishedTasks at member
    rw [tasks_same.1] at member
    cases member
  | admitted newKey envelope receipt registers given absent room =>
    change taskKey ∈ lostTasks state.publishedTasks (state.publishedTasks.put _) at member
    rw [(tasks_put absent _).1, tasks_same.1] at member
    cases member
  | replaced row order newKey envelope receipt registers given absent full oldest found acknowledged =>
    change taskKey ∈ lostTasks state.publishedTasks ((state.book.remove row).published.put _) at member
    rw [(tasks_put absent _).1] at member
    change taskKey ∈ lostTasks state.book.published _ at member
    rw [(@tasks_remove state.book row found).1] at member
    rw [List.mem_singleton.mp member]
    have recorded := Table.find_put_self (state.book.remove row).published (newKey, ⟨envelope, receipt, false⟩)
    exact ⟨full, ⟨row, found, acknowledged⟩, newKey, registers, absent, Option.isSome_of_mem recorded⟩
  | acknowledged destination frameId row acks accepted owned found carried unacknowledged =>
    change taskKey ∈ lostTasks state.book.published _ at member
    rw [(@tasks_acknowledge state.book row found unacknowledged).1] at member
    cases member
  | forgotten row forgets found unacknowledged unowned =>
    rw [forgets] at asked
    cases asked

theorem Entry.rolledBack {after : TaskBook} (entry : Entry op state after)
    (found : state.publishedTasks.find taskKey = some row) (gone : after.published.find taskKey = none)
    (asked : op.rollsBack = true) :
    op = .forgetPublishedTask taskKey.1 taskKey.2.1 taskKey.2.2 row.2.receipt.frameId ∧ row.2.acknowledged = false ∧
      publishedFrame row ∉ state.frameDestinations := by
  cases entry with
  | kept =>
    change state.publishedTasks.find taskKey = none at gone
    rw [gone] at found
    cases found
  | admitted newKey envelope receipt registers given absent room =>
    rw [RelayOp.rollsBack_of_registers registers] at asked
    cases asked
  | replaced other order newKey envelope receipt registers =>
    rw [RelayOp.rollsBack_of_registers registers] at asked
    cases asked
  | acknowledged destination frameId other acks =>
    rw [acks] at asked
    cases asked
  | forgotten other forgets present unacknowledged unowned =>
    by_cases same : taskKey = other.1
    · subst same
      obtain rfl : other = row := Option.some.inj (present.symm.trans found)
      exact ⟨forgets, unacknowledged, unowned⟩
    · have kept : (state.book.remove other).published.find taskKey = some row := by
        refine Table.find_keep_some.mpr ⟨found, decide_eq_true ?_⟩
        rw [Table.find_key found]
        exact same
      rw [kept] at gone
      cases gone

theorem Entry.keeps {after : TaskBook} {later : TaskPublishKey × PublishedTaskRecord} (entry : Entry op state after)
    (found : state.publishedTasks.find taskKey = some row) (stays : after.published.find taskKey = some later) :
    later.2.envelope = row.2.envelope ∧ later.2.receipt = row.2.receipt := by
  have kept : ∀ {other : TaskPublishKey × PublishedTaskRecord}, (state.book.remove other).published.find taskKey = some later →
      later = row := by
    intro other kept
    have earlier : state.publishedTasks.find taskKey = some later := (Table.find_keep_some.mp kept).1
    exact Option.some.inj (earlier.symm.trans found)
  have apart : ∀ {newKey : TaskPublishKey}, state.publishedTasks.find newKey = none → taskKey ≠ newKey := by
    intro newKey absent same
    rw [← same, found] at absent
    cases absent
  cases entry with
  | kept =>
    obtain rfl : row = later := Option.some.inj (found.symm.trans stays)
    exact ⟨rfl, rfl⟩
  | admitted newKey envelope receipt registers given absent room =>
    change (state.publishedTasks.put (newKey, _)).find taskKey = some later at stays
    rw [Table.find_put_ne _ (newKey, _) (apart absent)] at stays
    obtain rfl : row = later := Option.some.inj (found.symm.trans stays)
    exact ⟨rfl, rfl⟩
  | replaced other order newKey envelope receipt registers given absent full oldest present acknowledged =>
    change ((state.book.remove other).published.put (newKey, _)).find taskKey = some later at stays
    rw [Table.find_put_ne _ (newKey, _) (apart absent)] at stays
    rw [kept stays]
    exact ⟨rfl, rfl⟩
  | acknowledged destination frameId other acks accepted owned present carried unacknowledged =>
    change (state.publishedTasks.put (other.1, { other.2 with acknowledged := true })).find taskKey = some later at stays
    rw [Table.find_put] at stays
    split at stays
    · rename_i same
      rw [same, present] at found
      cases found
      cases stays
      exact ⟨rfl, rfl⟩
    · obtain rfl : row = later := Option.some.inj (found.symm.trans stays)
      exact ⟨rfl, rfl⟩
  | forgotten other forgets present unacknowledged unowned =>
    rw [kept stays]
    exact ⟨rfl, rfl⟩

def Recorded (publication : TaskPublication) (state : PeerState) : Prop :=
  ∃ row, state.publishedTasks.find publication.key = some row ∧ row.2.envelope = publication.identityTask ∧
    row.2.receipt = publication.proposedReceipt

theorem publish_new {publication : TaskPublication} {delivery : FrameDelivery}
    (accepted : (publication.publish state).1 = .new receipt delivery) :
    receipt = publication.proposedReceipt ∧ Recorded publication (step state publication.op) := by
  have routed : ∀ cleared : PeerState, (routeFrameLocked publication.destinationNodeId publication.frame
      (recordPublishedTask publication.key publication.identityTask publication.proposedReceipt cleared)).2.book =
        cleared.book.record publication.key publication.identityTask publication.proposedReceipt :=
    fun cleared => routeFrameLocked_book _ _ _
  show receipt = publication.proposedReceipt ∧ Recorded publication (publishTaskFrame publication.sourceNodeId
    publication.destinationNodeId publication.taskId publication.identityTask publication.routedTask publication.frame
    publication.proposedReceipt state).2
  change (publishTaskFrame publication.sourceNodeId publication.destinationNodeId publication.taskId
    publication.identityTask publication.routedTask publication.frame publication.proposedReceipt state).1 = _ at accepted
  revert accepted
  unfold publishTaskFrame
  simp only
  split
  · rintro ⟨⟩
  split
  · split
    · rintro ⟨⟩
    · rintro ⟨⟩
  split
  · rintro ⟨⟩
  split
  · rintro ⟨⟩
  · rename_i cleared made
    intro accepted
    refine ⟨?_, (publication.key, ⟨publication.identityTask, publication.proposedReceipt, false⟩), ?_, rfl, rfl⟩
    · cases accepted
      rfl
    · have published := congrArg TaskBook.published (routed cleared)
      exact (congrArg (fun table => Table.find table publication.key) published).trans (Table.find_put_self _ _)

theorem publish_again {first publication : TaskPublication} (recorded : Recorded first state)
    (same : publication.key = first.key) : publication.publish state = (first.again publication, state) := by
  obtain ⟨⟨rowKey, record⟩, found, envelope, issued⟩ := recorded
  rw [← same] at found
  have present : state.publishedTasks.find (publication.sourceNodeId, publication.destinationNodeId,
    publication.taskId) = some (rowKey, record) := found
  have kept : record.envelope = first.identityTask := envelope
  have answered : record.receipt = first.proposedReceipt := issued
  unfold TaskPublication.publish publishTaskFrame TaskPublication.again
  simp only
  split
  · rfl
  · rw [present]
    simp only
    rw [kept, answered]
    split
    · rfl
    · rfl

variable {first : TaskPublication}

theorem recorded_run {later : List RelayOp} (retained : state.book.Retained) (recorded : Recorded first state)
    (held : Run.Throughout step (fun state => (state.publishedTasks.find first.key).isSome = true) state later) :
    Recorded first (Run.run step state later) := by
  induction later generalizing state with
  | nil => exact recorded
  | cons op later ih =>
    obtain ⟨_, rest⟩ := Run.throughout_cons.mp held
    have entry := step_entry retained op
    obtain ⟨row, found, envelope, issued⟩ := recorded
    obtain ⟨after, stays⟩ := Option.isSome_iff_exists.mp (rest [] List.nil_prefix)
    obtain ⟨sameEnvelope, sameReceipt⟩ := entry.keeps found stays
    exact ih (entry.retained retained) ⟨after, stays, sameEnvelope.trans envelope, sameReceipt.trans issued⟩ rest

theorem canonicalTaskPublicationIdentity_put (task : TaskEnvelope) (features : String) :
    canonicalTaskPublicationIdentity { task with metadata := task.metadata.put (sourceFeaturesMetadataKey, features) } =
      canonicalTaskPublicationIdentity task := by
  unfold canonicalTaskPublicationIdentity
  congr 1
  apply Table.ext
  show ((task.metadata.rows.filter _) ++ [_]).filter _ = _
  rw [List.filter_append, List.filter_filter]
  simp
  rfl

theorem exactTaskFrame_delivered (task : TaskEnvelope) (frameId source target : String) :
    isExactTaskFrame { frameId, task := some task, authenticatedSourceNodeId := source, destinationNodeId := target }
      task = true := by
  unfold isExactTaskFrame
  rw [Bool.and_eq_true]
  exact ⟨rfl, decide_eq_true (TaskEnvelope.Same.refl task)⟩

theorem publishDelivered_again {source target taskId : String} (recorded : Recorded first state)
    (same : (source, target, taskId) = first.key) (identityTask routedTask : TaskEnvelope) (frameId : String) (nowMs : Int) :
    publishTaskFrame source target taskId identityTask routedTask
        { frameId, task := some routedTask, authenticatedSourceNodeId := source, destinationNodeId := target }
        ⟨frameId, nowMs⟩ state =
      (if first.identityTask.Same identityTask then .retry first.proposedReceipt else .conflict, state) := by
  have answered := @publish_again state first ⟨source, target, taskId, identityTask, routedTask,
    { frameId, task := some routedTask, authenticatedSourceNodeId := source, destinationNodeId := target },
    ⟨frameId, nowMs⟩⟩ recorded same
  refine answered.trans ?_
  unfold TaskPublication.again
  simp only [exactTaskFrame_delivered routedTask frameId source target]
  rfl

theorem recorded_repeats (recorded : Recorded first state) : Repeats first state where
  published := fun publication same => publish_again recorded same
  served := by
    intro service ids nowMs metadata request calls source target task taskId sourcePeerId relay accepted valid same
    have answered := publishDelivered_again recorded same (canonicalTaskPublicationIdentity task)
      (deliveredTask service sourcePeerId task) (ids.id calls.issued) nowMs
    rw [← relay] at answered
    unfold publishTaskCall
    rw [Session.attempt_bind, accepted]
    simp only
    rw [newRelayFrameId_bind, Session.attempt_bind, valid]
    simp only [Except.mapError]
    rw [onRelay_bind]
    simp only [answered]
    split
    · rfl
    · rfl

theorem step_accountable (retained : state.book.Retained) (op : RelayOp) : Accountable state op := by
  have entry := step_entry retained op
  refine ⟨?_, ?_, ?_⟩
  · intro taskKey member
    exact entry.marked member
  · intro taskKey member
    unfold evictedTasks at member
    split at member
    · cases member
    · rename_i asked
      exact entry.lost member (Bool.eq_false_of_not_eq_true asked)
  · intro taskKey row found gone kept
    refine entry.rolledBack found gone ?_
    by_contra asked
    apply kept
    unfold evictedTasks
    rw [if_neg asked]
    refine List.mem_map.mpr ⟨row, List.mem_filter.mpr ⟨Table.find_mem found, ?_⟩, Table.find_key found⟩
    rw [Table.find_key found, gone]
    rfl

/-- A task that was accepted is answered as a repetition until its record goes: in the order of acknowledgement when
another task needs its place, or rolled back. -/
theorem task_publication_idempotent :
    (∀ ops : List RelayOp,
      Run.collect step evictedTasks PeerState.empty ops <+: Run.collect step acknowledgedTasks PeerState.empty ops ∧
        ∀ op, Accountable (Run.run step PeerState.empty ops) op) ∧
      (∀ (earlier later : List RelayOp) (first : TaskPublication) (receipt : PublishedTaskReceipt)
        (delivery : FrameDelivery), (first.publish (Run.run step PeerState.empty earlier)).1 = .new receipt delivery →
        Run.Throughout step (fun state => (state.publishedTasks.find first.key).isSome = true)
          (Run.run step PeerState.empty (earlier ++ [first.op])) later →
        receipt = first.proposedReceipt ∧ Repeats first (Run.run step PeerState.empty (earlier ++ first.op :: later))) ∧
      ∀ (task : TaskEnvelope) (features : String),
        canonicalTaskPublicationIdentity
            { task with metadata := task.metadata.put (sourceFeaturesMetadataKey, features) } =
          canonicalTaskPublicationIdentity task := by
  refine ⟨?_, ?_, canonicalTaskPublicationIdentity_put⟩
  · intro ops
    refine ⟨?_, step_accountable (run_retained ops)⟩
    rw [evicted_in_order]
    exact List.prefix_append _ _
  · intro earlier later first receipt delivery accepted held
    obtain ⟨same, recorded⟩ := publish_new accepted
    refine ⟨same, recorded_repeats ?_⟩
    have placed : Run.run step PeerState.empty (earlier ++ first.op :: later) =
        Run.run step (Run.run step PeerState.empty (earlier ++ [first.op])) later := by
      rw [← Run.run_append, List.append_assoc]
      rfl
    rw [placed]
    refine recorded_run (run_retained _) ?_ held
    rw [Run.run_append]
    exact recorded

end

def samplePublication : TaskPublication where
  sourceNodeId := "origin"
  destinationNodeId := "edge"
  taskId := "task-1"
  identityTask := publishedSample
  routedTask := publishedSample
  frame := taskFrame
  proposedReceipt := ⟨"relay-frame-1", 5⟩

theorem acknowledged_task_retried :
    (samplePublication.publish (Run.run step PeerState.empty
      [samplePublication.op, .ackFrame "edge" "relay-frame-1"])).1 = .retry ⟨"relay-frame-1", 5⟩ := by
  have held : Run.Throughout step (fun state => (state.publishedTasks.find samplePublication.key).isSome = true)
      (Run.run step PeerState.empty [samplePublication.op]) [.ackFrame "edge" "relay-frame-1"] := by
    refine Run.throughout_cons.mpr ⟨by decide, ?_⟩
    intro passed earlier
    rw [List.prefix_nil.mp earlier]
    decide
  have repeats := (task_publication_idempotent.2.1 [] [.ackFrame "edge" "relay-frame-1"] samplePublication
    ⟨"relay-frame-1", 5⟩ .mailboxed (by decide) held).2
  exact (congrArg Prod.fst (repeats.published samplePublication rfl)).trans (by decide)

/-- A record that is rolled back is not answered as a repetition. -/
theorem rolled_back_task_is_new :
    (samplePublication.publish PeerState.empty).1 = .new ⟨"relay-frame-1", 5⟩ .mailboxed ∧
      (samplePublication.publish (Run.run step PeerState.empty
        [samplePublication.op, .abandonFrame "edge" "relay-frame-1",
          .forgetPublishedTask "origin" "edge" "task-1" "relay-frame-1"])).1 =
        .new ⟨"relay-frame-1", 5⟩ .mailboxed ∧
      (({ samplePublication with frame := resultFrame } : TaskPublication).publish
        (Run.run step PeerState.empty [samplePublication.op])).1 = .rejectedInvalid := by
  decide

end Keryx.Relay
