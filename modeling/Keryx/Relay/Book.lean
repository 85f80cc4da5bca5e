import Keryx.Relay.Turns

/-! What the relay keeps on record of published tasks, and what one call does to it. -/

namespace Keryx.Relay
open Keryx.Core Proto Relational Concurrent

def publishedFrame (row : TaskPublishKey × PublishedTaskRecord) : FrameKey := (row.1.2.1, row.2.receipt.frameId)

/-- The part of the state that remembers published tasks. -/
structure TaskBook where
  published : HashMap TaskPublishKey PublishedTaskRecord
  frameIndex : HashMap FrameKey TaskPublishKey
  order : List TaskPublishKey

def PeerState.book (state : PeerState) : TaskBook :=
  ⟨state.publishedTasks, state.publishedFrameIndex, state.acknowledgedPublishedTaskOrder⟩

namespace TaskBook

def record (book : TaskBook) (taskKey : TaskPublishKey) (envelope : TaskEnvelope) (receipt : PublishedTaskReceipt) :
    TaskBook :=
  { book with
    published := book.published.put (taskKey, ⟨envelope, receipt, false⟩)
    frameIndex := book.frameIndex.put ((taskKey.2.1, receipt.frameId), taskKey) }

def remove (book : TaskBook) (row : TaskPublishKey × PublishedTaskRecord) : TaskBook :=
  { book with
    published := book.published.keep (fun other => other.1 ≠ row.1)
    frameIndex := book.frameIndex.keep (fun entry => entry.1 ≠ publishedFrame row) }

def acknowledge (book : TaskBook) (row : TaskPublishKey × PublishedTaskRecord) : TaskBook :=
  { book with
    published := book.published.put (row.1, { row.2 with acknowledged := true })
    order := book.order ++ [row.1] }

/-- The task that the frame is indexed for is marked, unless it is marked already. -/
inductive Marks (key : FrameKey) (book : TaskBook) : TaskBook → Prop
  | kept (marked : ∀ taskKey row, book.frameIndex.find key = some (key, taskKey) →
      book.published.find taskKey = some row → row.2.acknowledged = true) : Marks key book book
  | marks (row : TaskPublishKey × PublishedTaskRecord) (found : book.published.find row.1 = some row)
      (carried : publishedFrame row = key) (unacknowledged : row.2.acknowledged = false) :
      Marks key book (book.acknowledge row)

/-- The records are bounded, and those in line to be forgotten are acknowledged. -/
structure Retained (book : TaskBook) : Prop where
  bounded : book.published.rows.length ≤ maxRetainedPublishedTasks
  distinct : book.order.Nodup
  held : ∀ taskKey ∈ book.order, ∃ row, book.published.find taskKey = some row ∧ row.2.acknowledged = true
  backed : ∀ frameKey entry, book.frameIndex.find frameKey = some entry →
    ∃ row, book.published.find entry.2 = some row ∧ publishedFrame row = frameKey

end TaskBook

inductive Entry (op : RelayOp) (state : PeerState) : TaskBook → Prop
  | kept : Entry op state state.book
  | admitted (taskKey : TaskPublishKey) (envelope : TaskEnvelope) (receipt : PublishedTaskReceipt)
      (registers : op.registers = some taskKey) (given : op.receipt = some receipt)
      (absent : state.publishedTasks.find taskKey = none) (room : state.publishedTasks.rows.length < maxRetainedPublishedTasks) :
      Entry op state (state.book.record taskKey envelope receipt)
  | replaced (row : TaskPublishKey × PublishedTaskRecord) (order : List TaskPublishKey) (taskKey : TaskPublishKey)
      (envelope : TaskEnvelope) (receipt : PublishedTaskReceipt) (registers : op.registers = some taskKey)
      (given : op.receipt = some receipt) (absent : state.publishedTasks.find taskKey = none)
      (full : state.publishedTasks.rows.length = maxRetainedPublishedTasks)
      (oldest : state.acknowledgedPublishedTaskOrder = row.1 :: order)
      (found : state.publishedTasks.find row.1 = some row) (acknowledged : row.2.acknowledged = true) :
      Entry op state ({ state.book.remove row with order }.record taskKey envelope receipt)
  | acknowledged (destination frameId : String) (row : TaskPublishKey × PublishedTaskRecord)
      (acks : op = .ackFrame destination frameId) (accepted : (ackFrame destination frameId state).1 = .accepted)
      (owned : (trim destination, trim frameId) ∈ state.frameDestinations)
      (found : state.publishedTasks.find row.1 = some row)
      (carried : publishedFrame row = (trim destination, trim frameId)) (unacknowledged : row.2.acknowledged = false) :
      Entry op state (state.book.acknowledge row)
  | forgotten (row : TaskPublishKey × PublishedTaskRecord)
      (forgets : op = .forgetPublishedTask row.1.1 row.1.2.1 row.1.2.2 row.2.receipt.frameId)
      (found : state.publishedTasks.find row.1 = some row) (unacknowledged : row.2.acknowledged = false)
      (unowned : publishedFrame row ∉ state.frameDestinations) : Entry op state (state.book.remove row)

section
variable {book : TaskBook} {row : TaskPublishKey × PublishedTaskRecord} {state : PeerState} {op : RelayOp}
  {taskKey : TaskPublishKey} {envelope : TaskEnvelope} {receipt : PublishedTaskReceipt}

theorem find_keep_none {table : HashMap TaskPublishKey PublishedTaskRecord}
    {condition : TaskPublishKey × PublishedTaskRecord → Bool} (absent : table.find taskKey = none) :
    (table.keep condition).find taskKey = none := by
  rw [Table.find_keep, absent]
  rfl

theorem empty_retained : PeerState.empty.book.Retained where
  bounded := Nat.zero_le _
  distinct := List.nodup_nil
  held := fun _ member => absurd member List.not_mem_nil
  backed := by
    intro frameKey entry found
    cases found

theorem TaskBook.length_remove (found : book.published.find row.1 = some row) :
    (book.remove row).published.rows.length + 1 = book.published.rows.length := by
  have counted := book.published.length_keep row.1
  rw [found] at counted
  exact counted

theorem TaskBook.length_record (absent : book.published.find taskKey = none) :
    (book.record taskKey envelope receipt).published.rows.length = book.published.rows.length + 1 := by
  show (book.published.put (taskKey, ⟨envelope, receipt, false⟩)).rows.length = _
  have rows : (book.published.put (taskKey, ⟨envelope, receipt, false⟩)).rows =
      book.published.rows ++ [(taskKey, ⟨envelope, receipt, false⟩)] := Table.rows_put_new absent
  rw [rows, List.length_append, List.length_singleton]

theorem TaskBook.Retained.unlisted (retained : book.Retained) (found : book.published.find row.1 = some row)
    (unacknowledged : row.2.acknowledged = false) : row.1 ∉ book.order := by
  intro member
  obtain ⟨other, present, acknowledged⟩ := retained.held row.1 member
  cases found.symm.trans present
  rw [unacknowledged] at acknowledged
  cases acknowledged

theorem TaskBook.find_record (absent : book.published.find taskKey = none) {other : TaskPublishKey}
    (found : book.published.find other = some row) :
    (book.record taskKey envelope receipt).published.find other = some row := by
  refine (Table.find_put_ne book.published (taskKey, _) ?_).trans found
  intro same
  rw [same, absent] at found
  cases found

theorem TaskBook.Retained.record (retained : book.Retained) (absent : book.published.find taskKey = none)
    (room : book.published.rows.length < maxRetainedPublishedTasks) :
    (book.record taskKey envelope receipt).Retained := by
  refine ⟨?_, retained.distinct, ?_, ?_⟩
  · rw [TaskBook.length_record absent]
    omega
  · intro listed member
    obtain ⟨row, found, acknowledged⟩ := retained.held listed member
    exact ⟨row, TaskBook.find_record absent found, acknowledged⟩
  · intro frameKey entry found
    simp only [TaskBook.record, Table.find_put] at found
    split at found
    · rename_i same
      cases found
      exact ⟨_, Table.find_put_self _ _, same.symm⟩
    · obtain ⟨row, present, same⟩ := retained.backed frameKey entry found
      exact ⟨row, TaskBook.find_record absent present, same⟩

theorem TaskBook.Retained.remove (retained : book.Retained) (found : book.published.find row.1 = some row)
    {order : List TaskPublishKey} (shorter : order.Sublist book.order) (apart : row.1 ∉ order) :
    TaskBook.Retained { book.remove row with order } := by
  refine ⟨?_, shorter.nodup retained.distinct, ?_, ?_⟩
  · have counted := TaskBook.length_remove found
    have bounded := retained.bounded
    show (book.remove row).published.rows.length ≤ _
    omega
  · intro listed member
    obtain ⟨other, present, acknowledged⟩ := retained.held listed (shorter.subset member)
    refine ⟨other, Table.find_keep_some.mpr ⟨present, decide_eq_true ?_⟩, acknowledged⟩
    intro same
    rw [Table.find_key present] at same
    exact apart (same ▸ member)
  · intro frameKey entry kept
    obtain ⟨present, different⟩ := Table.find_keep_some.mp kept
    obtain ⟨other, backing, same⟩ := retained.backed frameKey entry present
    refine ⟨other, Table.find_keep_some.mpr ⟨backing, decide_eq_true ?_⟩, same⟩
    intro equal
    rw [← Table.find_key backing, equal, found] at backing
    cases backing
    exact of_decide_eq_true different ((Table.find_key present).trans same.symm)

theorem TaskBook.Retained.acknowledge (retained : book.Retained) (found : book.published.find row.1 = some row)
    (unacknowledged : row.2.acknowledged = false) : (book.acknowledge row).Retained := by
  have unlisted := retained.unlisted found unacknowledged
  have find : ∀ other, (book.acknowledge row).published.find other =
      if other = row.1 then some (row.1, { row.2 with acknowledged := true }) else book.published.find other :=
    fun other => Table.find_put book.published (row.1, { row.2 with acknowledged := true }) other
  refine ⟨?_, ?_, ?_, ?_⟩
  · have counted := book.published.length_keep row.1
    rw [found] at counted
    have bounded := retained.bounded
    show ((book.published.keep _).rows ++ [_]).length ≤ _
    rw [List.length_append]
    exact counted.le.trans bounded
  · refine List.nodup_append.mpr ⟨retained.distinct, List.nodup_singleton _, ?_⟩
    intro listed member other single same
    rw [same, List.mem_singleton.mp single] at member
    exact unlisted member
  · intro listed member
    rw [find]
    rcases List.mem_append.mp member with earlier | new
    · obtain ⟨other, present, acknowledged⟩ := retained.held listed earlier
      have different : listed ≠ row.1 := by
        intro same
        rw [same] at earlier
        exact unlisted earlier
      rw [if_neg different]
      exact ⟨other, present, acknowledged⟩
    · rw [if_pos (List.mem_singleton.mp new)]
      exact ⟨_, rfl, rfl⟩
  · intro frameKey entry present
    obtain ⟨other, backing, same⟩ := retained.backed frameKey entry present
    rw [find]
    split
    · rename_i equal
      rw [equal, found] at backing
      cases backing
      exact ⟨_, rfl, same⟩
    · exact ⟨other, backing, same⟩

/-- There is room, or nothing that could go, or the one that was acknowledged first goes. -/
theorem makeRoomForTask_cases (retained : state.book.Retained) :
    (state.publishedTasks.rows.length < maxRetainedPublishedTasks ∧
        makeRoomForTask state.acknowledgedPublishedTaskOrder state = (true, state)) ∨
      (maxRetainedPublishedTasks ≤ state.publishedTasks.rows.length ∧ state.acknowledgedPublishedTaskOrder = [] ∧
        makeRoomForTask state.acknowledgedPublishedTaskOrder state = (false, state)) ∨
      ∃ row order, state.publishedTasks.rows.length = maxRetainedPublishedTasks ∧
        state.acknowledgedPublishedTaskOrder = row.1 :: order ∧ state.publishedTasks.find row.1 = some row ∧
        row.2.acknowledged = true ∧ ∃ cleared, makeRoomForTask state.acknowledgedPublishedTaskOrder state = (true, cleared) ∧
          cleared.book = { state.book.remove row with order } := by
  by_cases room : state.publishedTasks.rows.length < maxRetainedPublishedTasks
  · refine .inl ⟨room, ?_⟩
    unfold makeRoomForTask
    rw [if_pos room]
  refine .inr ?_
  have bounded : state.publishedTasks.rows.length ≤ maxRetainedPublishedTasks := retained.bounded
  have full : state.publishedTasks.rows.length = maxRetainedPublishedTasks := by omega
  cases listed : state.acknowledgedPublishedTaskOrder with
  | nil =>
    refine .inl ⟨full.ge, rfl, ?_⟩
    unfold makeRoomForTask
    rw [if_neg room]
    simp only [← listed]
  | cons oldest order =>
    have first : oldest ∈ state.book.order := by
      show oldest ∈ state.acknowledgedPublishedTaskOrder
      rw [listed]
      exact List.mem_cons_self
    obtain ⟨row, found, acknowledged⟩ := retained.held oldest first
    obtain rfl : row.1 = oldest := Table.find_key found
    have expired : expirePublishedTask row.1 state =
        { state with
          publishedTasks := (state.book.remove row).published
          publishedFrameIndex := (state.book.remove row).frameIndex } := by
      have present : state.publishedTasks.find row.1 = some row := found
      unfold expirePublishedTask
      rw [present]
      rfl
    have shorter : (state.book.remove row).published.rows.length < maxRetainedPublishedTasks := by
      have counted : (state.book.remove row).published.rows.length + 1 = state.publishedTasks.rows.length :=
        TaskBook.length_remove found
      omega
    refine .inr ⟨row, order, full, rfl, found, acknowledged, { expirePublishedTask row.1 state with
      acknowledgedPublishedTaskOrder := order }, ?_, ?_⟩
    · unfold makeRoomForTask
      rw [if_neg room]
      simp only
      unfold makeRoomForTask
      rw [expired, if_pos shorter]
    · rw [expired]
      rfl

theorem routeFrameLocked_book (target : String) (frame : RelayFrame) (state : PeerState) :
    (routeFrameLocked target frame state).2.book = state.book := by
  rcases routeFrameLocked_cases target frame state with ⟨_, unchanged⟩ | ⟨_, routed, _⟩
  · rw [unchanged]
  · obtain ⟨_, _, stored, _⟩ := routed.stored
    rw [stored]
    rfl

theorem recordPublishedTask_entry (registers : op.registers = some taskKey) (given : op.receipt = some receipt)
    (absent : state.publishedTasks.find taskKey = none) (retained : state.book.Retained) {cleared : PeerState}
    (made : makeRoomForTask state.acknowledgedPublishedTaskOrder state = (true, cleared)) :
    Entry op state (recordPublishedTask taskKey envelope receipt cleared).book := by
  rcases makeRoomForTask_cases retained with ⟨room, same⟩ | ⟨_, _, refused⟩ | ⟨row, order, full, oldest, found, acknowledged,
    other, same, book⟩
  · rw [made] at same
    cases same
    exact .admitted taskKey envelope receipt registers given absent room
  · rw [made] at refused
    cases refused
  · rw [made] at same
    cases same
    have recorded : (recordPublishedTask taskKey envelope receipt cleared).book =
        cleared.book.record taskKey envelope receipt := rfl
    rw [recorded, book]
    exact .replaced row order taskKey envelope receipt registers given absent full oldest found acknowledged

theorem makeRoomForTask_refused (retained : state.book.Retained) {cleared : PeerState}
    (made : makeRoomForTask state.acknowledgedPublishedTaskOrder state = (false, cleared)) : cleared = state := by
  rcases makeRoomForTask_cases retained with ⟨_, same⟩ | ⟨_, _, refused⟩ | ⟨_, _, _, _, _, _, other, same, _⟩
  · rw [made] at same
    cases same
  · rw [made] at refused
    exact congrArg Prod.snd refused
  · rw [made] at same
    cases same

theorem publishTaskFrame_entry (source destination taskId : String) (identityTask routedTask : TaskEnvelope)
    (frame : RelayFrame) (receipt : PublishedTaskReceipt) (retained : state.book.Retained) :
    Entry (.publishTaskFrame source destination taskId identityTask routedTask frame receipt) state
      (publishTaskFrame source destination taskId identityTask routedTask frame receipt state).2.book := by
  unfold publishTaskFrame
  simp only
  split
  · exact .kept
  split
  · split
    · exact .kept
    · exact .kept
  rename_i absent
  split
  · exact .kept
  split
  · rename_i cleared made
    rw [makeRoomForTask_refused retained made]
    exact .kept
  · rename_i cleared made
    have routed := routeFrameLocked_book destination frame
      (recordPublishedTask (source, destination, taskId) identityTask receipt cleared)
    show Entry _ state (routeFrameLocked destination frame
      (recordPublishedTask (source, destination, taskId) identityTask receipt cleared)).2.book
    rw [routed]
    exact recordPublishedTask_entry rfl rfl absent retained made

theorem classifyPublishedTask_entry (source destination taskId : String) (task : TaskEnvelope)
    (receipt : PublishedTaskReceipt) (retained : state.book.Retained) :
    Entry (.classifyPublishedTask source destination taskId task receipt) state
      (classifyPublishedTask source destination taskId task receipt state).2.book := by
  unfold classifyPublishedTask
  simp only
  split
  · split
    · exact .kept
    · exact .kept
  rename_i absent
  split
  · rename_i cleared made
    rw [makeRoomForTask_refused retained made]
    exact .kept
  · rename_i cleared made
    exact recordPublishedTask_entry rfl rfl absent retained made

theorem settleAckWaiter_book (key : FrameKey) (state : PeerState) : (settleAckWaiter key state).book = state.book := by
  obtain ⟨_, _, settled⟩ := settleAckWaiter_settles key state
  rw [settled]
  rfl

theorem markPublishedTaskAcknowledged_book (key : FrameKey) (retained : state.book.Retained) :
    state.book.Marks key (markPublishedTaskAcknowledged key state).book := by
  unfold markPublishedTaskAcknowledged
  split
  · rename_i absent
    refine .kept fun taskKey row indexed _ => ?_
    cases absent.symm.trans indexed
  rename_i entryKey named indexed
  split
  · rename_i absent
    obtain ⟨row, present, _⟩ := retained.backed _ _ indexed
    cases absent.symm.trans present
  rename_i rowKey record found
  split
  · rename_i marked
    refine .kept fun taskKey row indexedToo present => ?_
    cases indexed.symm.trans indexedToo
    cases found.symm.trans present
    exact marked
  rename_i unacknowledged
  obtain ⟨row, present, carried⟩ := retained.backed _ _ indexed
  have same : row = (rowKey, record) := Option.some.inj (present.symm.trans found)
  subst same
  obtain rfl : rowKey = named := Table.find_key found
  exact .marks (rowKey, record) found carried (Bool.eq_false_of_not_eq_true unacknowledged)

theorem acknowledgeFrame_book (key : FrameKey) (retained : state.book.Retained) :
    state.book.Marks key (acknowledgeFrame key state).book := by
  have released : (settleAckWaiter key (releaseFrame key state)).book = state.book := settleAckWaiter_book _ _
  have settled : (settleAckWaiter key (releaseFrame key state)).book.Retained := by
    rw [released]
    exact retained
  have marked := markPublishedTaskAcknowledged_book key settled
  rw [released] at marked
  exact marked

theorem ackFrame_entry (destination frameId : String) (retained : state.book.Retained) :
    Entry (.ackFrame destination frameId) state (ackFrame destination frameId state).2.book := by
  rcases ackFrame_cases destination frameId state with unchanged | ⟨_, owned, accepted⟩
  · rw [unchanged]
    exact .kept
  have response : (ackFrame destination frameId state).1 = .accepted := by rw [accepted]
  rw [accepted]
  show Entry _ state (acknowledgeFrame (trim destination, trim frameId) state).book
  have marks := acknowledgeFrame_book (trim destination, trim frameId) retained
  generalize (acknowledgeFrame (trim destination, trim frameId) state).book = book at marks ⊢
  cases marks with
  | kept => exact .kept
  | marks row found carried unacknowledged =>
    exact .acknowledged destination frameId row rfl response owned found carried unacknowledged

theorem forgetPublishedTask_entry (source destination taskId frameId : String) (state : PeerState) :
    Entry (.forgetPublishedTask source destination taskId frameId) state
      (forgetPublishedTask source destination taskId frameId state).book := by
  unfold forgetPublishedTask
  simp only
  split
  · rename_i removable
    obtain ⟨row, found, meets⟩ := (Option.any_eq_true _ _).mp removable
    obtain ⟨rowKey, record⟩ := row
    obtain rfl : rowKey = (source, destination, taskId) := Table.find_key found
    obtain ⟨rfl, unacknowledged, unowned⟩ := of_decide_eq_true meets
    rw [Bool.not_eq_true'] at unacknowledged
    exact .forgotten (_, record) rfl found unacknowledged unowned
  · exact .kept

theorem completeControl_book (kind : ControlKind) (destination frameId : String) (result : LocalTypedControlDispatch)
    (state : PeerState) : (completeControl kind destination frameId result state).2.book = state.book := by
  unfold completeControl
  simp only
  split
  · rfl
  split
  · split
    · rfl
    · rfl
  split
  · rfl
  · rfl

theorem Disconnected.book_eq {node : String} {after : PeerState} (disconnected : Disconnected node state after) :
    after.book = state.book := by
  cases disconnected <;> rfl

theorem carried_book {target : String} {frame : RelayFrame} (carries : op.carries = some (target, frame))
    (unregistered : op.registers = none) : (step state op).book = state.book := by
  rcases step_routes carries state with ⟨_, _, unchanged⟩ | ⟨_, admitted⟩
  · rw [unchanged unregistered]
  · obtain ⟨routed, count, accepted, _, after⟩ := admitted.routed
    obtain ⟨_, _, stored, _⟩ := accepted.stored
    rw [after, stored, booked_unregistered unregistered]
    rcases op.awaits with _ | _ | _ <;> rfl

theorem step_entry (retained : state.book.Retained) (op : RelayOp) : Entry op state (step state op).book := by
  have quiet : ∀ {op : RelayOp} {after : PeerState}, after.book = state.book → Entry op state after.book := by
    intro op after same
    rw [same]
    exact .kept
  cases op with
  | registerNode nodeId => exact .kept
  | connectNode nodeId => exact .kept
  | disconnectNode nodeId => exact quiet (step_disconnected rfl state).book_eq
  | disconnectNodeIfCurrent nodeId generation => exact quiet (step_disconnected rfl state).book_eq
  | disconnectNodeWithStatus nodeId status => exact quiet (step_disconnected rfl state).book_eq
  | disconnectNodeWithStatusIfCurrent nodeId generation status => exact quiet (step_disconnected rfl state).book_eq
  | routeFrame target frame => exact quiet (carried_book rfl rfl)
  | routeFrameWaitingForAck target frame => exact quiet (carried_book rfl rfl)
  | routeControl kind target frame => exact quiet (carried_book rfl rfl)
  | completeControl kind destination frameId result =>
    exact quiet (completeControl_book kind destination frameId result state)
  | abandonFrame destination frameId => exact .kept
  | ackFrame destination frameId => exact ackFrame_entry destination frameId retained
  | publishTaskFrame source destination taskId identityTask routedTask frame receipt =>
    exact publishTaskFrame_entry source destination taskId identityTask routedTask frame receipt retained
  | classifyPublishedTask source destination taskId task receipt =>
    exact classifyPublishedTask_entry source destination taskId task receipt retained
  | forgetPublishedTask source destination taskId frameId =>
    exact forgetPublishedTask_entry source destination taskId frameId state
  | takeItem stream => exact .kept
  | closeStream stream => exact .kept

theorem Entry.retained {after : TaskBook} (entry : Entry op state after) (retained : state.book.Retained) :
    after.Retained := by
  cases entry with
  | kept => exact retained
  | admitted taskKey envelope receipt registers given absent room => exact retained.record absent room
  | replaced row order taskKey envelope receipt registers given absent full oldest found acknowledged =>
    have distinct := retained.distinct
    have listed : state.book.order = row.1 :: order := oldest
    rw [listed, List.nodup_cons] at distinct
    have shorter : order.Sublist state.book.order := by
      rw [listed]
      exact List.sublist_cons_self _ _
    have removed := retained.remove found shorter distinct.1
    apply removed.record
    · exact find_keep_none absent
    · have counted : (state.book.remove row).published.rows.length + 1 = state.publishedTasks.rows.length :=
        TaskBook.length_remove found
      show (state.book.remove row).published.rows.length < _
      omega
  | acknowledged destination frameId row acks accepted owned found carried unacknowledged =>
    exact retained.acknowledge found unacknowledged
  | forgotten row forgets found unacknowledged unowned =>
    exact retained.remove found (List.Sublist.refl _) (retained.unlisted found unacknowledged)

theorem run_retained (ops : List RelayOp) : (Run.run step PeerState.empty ops).book.Retained :=
  Run.always (fun state : PeerState => state.book.Retained) (fun _ op retained => (step_entry retained op).retained retained)
    empty_retained ops

end

end Keryx.Relay
