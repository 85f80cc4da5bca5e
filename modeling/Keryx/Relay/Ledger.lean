import Keryx.Relay.Book

/-! What the maps of the relay say of one another.
The service gives every frame an id of its own, and gives up results and typed controls only. -/

namespace Keryx.Relay
open Keryx.Core Proto Relational Concurrent

def RelayOp.issues : RelayOp → Option String
  | .routeFrameWaitingForAck _ frame => some frame.frameId
  | .routeControl _ _ frame => some frame.frameId
  | .publishTaskFrame _ _ _ _ _ frame _ => some frame.frameId
  | _ => none

def RelayOp.publishes : RelayOp → Option String
  | .publishTaskFrame _ _ _ _ _ frame _ => some frame.frameId
  | _ => none

/-- An id that trimming leaves alone. -/
def Clean (id : String) : Prop := id ≠ "" ∧ trim id = id

def RelayOp.Served : RelayOp → Prop
  | .routeFrame _ _ => False
  | .classifyPublishedTask _ _ _ _ _ => False
  | .forgetPublishedTask _ _ _ _ => False
  | .routeFrameWaitingForAck _ frame => Clean frame.frameId
  | .routeControl _ _ frame => Clean frame.frameId
  | .publishTaskFrame _ _ _ _ _ frame proposedReceipt =>
    Clean frame.frameId ∧ proposedReceipt.frameId = frame.frameId
  | _ => True

structure AsIssued (ops : List RelayOp) : Prop where
  served : ∀ op ∈ ops, op.Served
  fresh : (ops.filterMap RelayOp.issues).Nodup
  abandoned : ∀ destinationNodeId frameId, .abandonFrame destinationNodeId frameId ∈ ops →
    frameId ∉ ops.filterMap RelayOp.publishes

theorem AsIssued.earlier {ops passed : List RelayOp} (issued : AsIssued ops) (earlier : passed <+: ops) :
    AsIssued passed where
  served := fun op member => issued.served op (earlier.subset member)
  fresh := (earlier.sublist.filterMap RelayOp.issues).nodup issued.fresh
  abandoned := by
    intro destination frameId member published
    have later := earlier.sublist.filterMap RelayOp.publishes
    exact issued.abandoned destination frameId (earlier.subset member) (later.subset published)

/-- The acknowledgements that are remembered, in the order in which they are forgotten. -/
structure Remembered (order : List FrameKey) (acknowledged : Finset FrameKey) : Prop where
  distinct : order.Nodup
  same : order.toFinset = acknowledged
  bounded : order.length ≤ maxRecentAcknowledgements

/-- Frames are owned while they are stored. The ids are those of all frames. -/
structure PeerState.Stocked (issued : List String) (state : PeerState) : Prop where
  stored : ∀ key ∈ state.frameDestinations, ∃ frame ∈ state.mailbox key.1, frame.key = key.2
  clean : ∀ node, ∀ frame ∈ state.mailbox node, frame.key = frame.frameId
  tracked : state.frameDestinations.card ≤ maxTrackedFrames
  ownedIssued : ∀ key ∈ state.frameDestinations, key.2 ∈ issued
  remembered : Remembered state.acknowledgedFrameOrder state.acknowledgedFrames
  acknowledgedIssued : ∀ key ∈ state.acknowledgedFrames, key.2 ∈ issued

/-- A published task is found by its frame, and unacknowledged while the frame is owned. -/
structure TaskBook.Files (tasks : List String) (book : TaskBook) (state : PeerState) (taskKey : TaskPublishKey)
    (row : TaskPublishKey × PublishedTaskRecord) : Prop where
  indexed : book.frameIndex.find (publishedFrame row) = some (publishedFrame row, taskKey)
  listed : row.2.acknowledged = true → taskKey ∈ book.order
  settled : row.2.acknowledged = false ↔ publishedFrame row ∈ state.frameDestinations
  carried : ∀ frame ∈ state.mailbox taskKey.2.1, frame.key = row.2.receipt.frameId → frame.task.isSome
  issued : row.2.receipt.frameId ∈ tasks

def TaskBook.Filed (tasks : List String) (book : TaskBook) (state : PeerState) : Prop :=
  ∀ ⦃taskKey row⦄, book.published.find taskKey = some row → book.Files tasks state taskKey row

structure PeerState.Accounts (issued tasks : List String) (state : PeerState) : Prop where
  attended : state.Attended
  retained : state.book.Retained
  stocked : state.Stocked issued
  filed : state.book.Filed tasks state

section
variable {issued tasks : List String} {before after state : PeerState} {book : TaskBook} {op : RelayOp}
  {target : String} {frame : RelayFrame} {key : FrameKey} {gone : FrameKey → Prop} {taskKey : TaskPublishKey}
  {row : TaskPublishKey × PublishedTaskRecord} {source destination taskId : String}
  {identityTask routedTask : TaskEnvelope} {receipt : PublishedTaskReceipt}

theorem empty_accounts : PeerState.empty.Accounts [] [] where
  attended := empty_attended
  retained := empty_retained
  stocked :=
    { stored := fun key owned => absurd owned (Finset.notMem_empty key)
      clean := fun _ _ stored => absurd stored List.not_mem_nil
      tracked := Nat.zero_le _
      ownedIssued := fun key owned => absurd owned (Finset.notMem_empty key)
      remembered := ⟨List.nodup_nil, rfl, Nat.zero_le _⟩
      acknowledgedIssued := fun key owned => absurd owned (Finset.notMem_empty key) }
  filed := by
    intro taskKey row found
    cases found

theorem TaskBook.Filed.more (filed : book.Filed tasks state) {later : List String} (more : tasks ⊆ later) :
    book.Filed later state := by
  intro taskKey row found
  exact { filed found with issued := more (filed found).issued }

theorem PeerState.Accounts.more (accounts : state.Accounts issued tasks) {laterIssued laterTasks : List String}
    (moreIssued : issued ⊆ laterIssued) (moreTasks : tasks ⊆ laterTasks) : state.Accounts laterIssued laterTasks :=
  { accounts with
    stocked :=
      { accounts.stocked with
        ownedIssued := fun key owned => moreIssued (accounts.stocked.ownedIssued key owned)
        acknowledgedIssued := fun key known => moreIssued (accounts.stocked.acknowledgedIssued key known) }
    filed := accounts.filed.more moreTasks }

theorem PeerState.Stocked.lets (stocked : before.Stocked issued) (lets : Lets gone before after)
    (remembered : Remembered after.acknowledgedFrameOrder after.acknowledgedFrames)
    (known : ∀ key ∈ after.acknowledgedFrames, key.2 ∈ issued) : after.Stocked issued where
  stored := by
    intro key owned
    obtain ⟨earlier, stays⟩ := (lets.owned key).mp owned
    obtain ⟨frame, member, keyed⟩ := stocked.stored key earlier
    refine ⟨frame, (lets.mailbox key.1 frame).mpr ⟨member, ?_⟩, keyed⟩
    rw [keyed]
    exact stays
  clean := fun node frame member => stocked.clean node frame ((lets.sublist node).subset member)
  tracked := by
    have fewer : after.frameDestinations ⊆ before.frameDestinations := fun key owned => ((lets.owned key).mp owned).1
    exact (Finset.card_le_card fewer).trans stocked.tracked
  ownedIssued := fun key owned => stocked.ownedIssued key ((lets.owned key).mp owned).1
  remembered := remembered
  acknowledgedIssued := known

theorem TaskBook.Filed.lets (filed : book.Filed tasks before) (lets : Lets gone before after)
    (spared : ∀ taskKey row, book.published.find taskKey = some row → ¬ gone (publishedFrame row)) :
    book.Filed tasks after := by
  intro taskKey row found
  refine { filed found with settled := ?_, carried := ?_ }
  · rw [(filed found).settled, lets.owned]
    exact (and_iff_left (spared taskKey row found)).symm
  · exact fun frame member => (filed found).carried frame ((lets.sublist _).subset member)

theorem PeerState.Accounts.uncontrolled (accounts : state.Accounts issued tasks) {kind : ControlKind}
    {waiter : FrameKey × Nat} (waits : (state.waiters (some kind)).find key = some waiter)
    (found : state.publishedTasks.find taskKey = some row) : publishedFrame row ≠ key := by
  rintro rfl
  obtain ⟨frame, member, keyed, fits⟩ := accounts.attended.waited waits
  obtain rfl : row.1 = taskKey := Table.find_key found
  have carries := (accounts.filed found).carried frame member keyed
  rw [(ControlKind.fits_generic fits).1] at carries
  cases carries

theorem PeerState.Accounts.lets (accounts : before.Accounts issued tasks) (attended : after.Attended)
    (lets : Lets gone before after) (acknowledged : after.acknowledgedFrames = before.acknowledgedFrames)
    (ackOrder : after.acknowledgedFrameOrder = before.acknowledgedFrameOrder) (book : after.book = before.book)
    (spared : ∀ taskKey row, before.publishedTasks.find taskKey = some row → ¬ gone (publishedFrame row)) :
    after.Accounts issued tasks := by
  have stocked := accounts.stocked
  refine ⟨attended, ?_, stocked.lets lets ?_ ?_, ?_⟩
  · rw [book]
    exact accounts.retained
  · rw [ackOrder, acknowledged]
    exact stocked.remembered
  · rw [acknowledged]
    exact stocked.acknowledgedIssued
  · rw [book]
    exact accounts.filed.lets lets spared

theorem PeerState.Accounts.beside (accounts : before.Accounts issued tasks) (attended : after.Attended)
    (beside : Beside before after) (ackOrder : after.acknowledgedFrameOrder = before.acknowledgedFrameOrder)
    (book : after.book = before.book) : after.Accounts issued tasks :=
  accounts.lets attended ((Lets.nothing before).beside beside) (congrArg Holdings.acknowledged beside.holdings) ackOrder
    book fun _ _ _ => id

theorem completeControl_accounts (kind : ControlKind) (destination frameId : String) (result : LocalTypedControlDispatch)
    (accounts : before.Accounts issued tasks) :
    (step before (.completeControl kind destination frameId result)).Accounts issued tasks := by
  have attended := step_attended accounts.attended (.completeControl kind destination frameId result)
  change (completeControl kind destination frameId result before).2.Attended at attended
  show (completeControl kind destination frameId result before).2.Accounts issued tasks
  rcases completeControl_cases kind destination frameId result accounts.attended.sound with
    unchanged | ⟨waiter, waits, settled⟩
  · rw [unchanged]
    exact accounts
  · rw [settled] at attended ⊢
    exact accounts.lets attended (settleControl_lets result waits accounts.attended) rfl rfl rfl
      fun _ _ found => accounts.uncontrolled waits found

theorem abandonFrame_accounts (destination frameId : String) (unpublished : frameId ∉ tasks)
    (accounts : before.Accounts issued tasks) :
    (step before (.abandonFrame destination frameId)).Accounts issued tasks := by
  refine accounts.lets (step_attended accounts.attended _) (abandonFrame_lets destination frameId before) rfl rfl rfl ?_
  intro taskKey row found same
  apply unpublished
  rw [← show row.2.receipt.frameId = frameId from congrArg Prod.snd same]
  exact (accounts.filed found).issued

theorem dropConnection_accounts {node : String} (accounts : before.Accounts issued tasks) (attended : after.Attended)
    (beside : Beside (dropConnection node before) after)
    (ackOrder : after.acknowledgedFrameOrder = before.acknowledgedFrameOrder) (book : after.book = before.book) :
    after.Accounts issued tasks := by
  refine accounts.lets attended ((dropConnection_lets node accounts.attended).beside beside)
    (congrArg Holdings.acknowledged beside.holdings) ackOrder book ?_
  intro taskKey row found fleet
  obtain ⟨⟨waiter, waits⟩, _⟩ := mem_fleetKeys.mp fleet
  exact @PeerState.Accounts.uncontrolled _ _ _ _ _ _ accounts .fleetObservation waiter waits found rfl

theorem disconnected_accounts {node : String} (disconnects : op.disconnects = some node)
    (accounts : before.Accounts issued tasks) : (step before op).Accounts issued tasks := by
  have attended := step_attended accounts.attended op
  have disconnected := step_disconnected disconnects before
  generalize step before op = after at attended disconnected ⊢
  cases disconnected with
  | kept => exact accounts
  | dropped => exact dropConnection_accounts accounts attended (.refl _) rfl rfl
  | told connected status stream found sent =>
    exact @dropConnection_accounts _ _ _ _ node accounts attended ⟨rfl, rfl, rfl, rfl⟩ rfl rfl

theorem expireAcknowledgements_remembers (order : List FrameKey) (acknowledged : Finset FrameKey)
    (distinct : order.Nodup) (same : order.toFinset = acknowledged) :
    Remembered (expireAcknowledgements order acknowledged).1 (expireAcknowledgements order acknowledged).2 := by
  induction order generalizing acknowledged with
  | nil => exact ⟨distinct, same, Nat.zero_le _⟩
  | cons expired order ih =>
    unfold expireAcknowledgements
    split
    · obtain ⟨absent, rest⟩ := List.nodup_cons.mp distinct
      apply ih _ rest
      rw [← same, List.toFinset_cons, Finset.erase_insert]
      rw [List.mem_toFinset]
      exact absent
    · rename_i short
      exact ⟨distinct, same, Nat.le_of_not_lt short⟩

theorem rememberAcknowledgement_remembers {key : FrameKey}
    (remembered : Remembered state.acknowledgedFrameOrder state.acknowledgedFrames)
    (fresh : key ∉ state.acknowledgedFrames) :
    Remembered (rememberAcknowledgement key state).acknowledgedFrameOrder
      (rememberAcknowledgement key state).acknowledgedFrames := by
  unfold rememberAcknowledgement
  simp only [if_neg fresh]
  apply expireAcknowledgements_remembers
  · rw [List.nodup_append]
    refine ⟨remembered.distinct, List.nodup_singleton key, ?_⟩
    intro known listed new same
    rw [← List.mem_toFinset, remembered.same] at listed
    rw [List.mem_singleton.mp same]
    rintro rfl
    exact fresh listed
  · rw [List.toFinset_append, remembered.same, Finset.union_comm]
    rfl

theorem acknowledgeFrame_remembers (remembered : Remembered before.acknowledgedFrameOrder before.acknowledgedFrames)
    (fresh : key ∉ before.acknowledgedFrames) :
    Remembered (acknowledgeFrame key before).acknowledgedFrameOrder (acknowledgeFrame key before).acknowledgedFrames := by
  obtain ⟨_, _, settled⟩ := settleAckWaiter_settles key (releaseFrame key before)
  obtain ⟨_, _, _, _, marked⟩ := markPublishedTaskAcknowledged_rebooked key (settleAckWaiter key (releaseFrame key before))
  have same : acknowledgeFrame key before = _ := marked
  rw [same, settled]
  exact @rememberAcknowledgement_remembers { before with
    frameDestinations := before.frameDestinations.erase key
    mailboxes := before.mailboxes.update key.1 (fun row => (row.1, row.2.eraseP (·.key = key.2))) fun _ => rfl } key
    remembered fresh

theorem TaskBook.Filed.unique (filed : book.Filed tasks state) {other : TaskPublishKey}
    {another : TaskPublishKey × PublishedTaskRecord} (found : book.published.find taskKey = some row)
    (foundToo : book.published.find other = some another) (same : publishedFrame row = publishedFrame another) :
    taskKey = other := by
  have indexed := (filed found).indexed
  rw [same, (filed foundToo).indexed] at indexed
  exact (congrArg Prod.snd (Option.some.inj indexed)).symm

theorem TaskBook.Filed.acknowledge (filed : book.Filed tasks before) (found : book.published.find row.1 = some row)
    (lets : Lets (· = publishedFrame row) before after) : (book.acknowledge row).Filed tasks after := by
  have named := filed found
  intro taskKey marked present
  change (book.published.put (row.1, { row.2 with acknowledged := true })).find taskKey = some marked at present
  rw [Table.find_put] at present
  split at present
  · rename_i same
    cases same
    cases present
    refine { named with
      listed := fun _ => List.mem_append_right _ (List.mem_singleton_self _)
      settled := ?_
      carried := fun frame member => named.carried frame ((lets.sublist _).subset member) }
    rw [lets.owned]
    exact iff_of_false (by rintro ⟨⟩) fun kept => kept.2 rfl
  · rename_i different
    have earlier := filed present
    refine { earlier with
      listed := fun acknowledged => List.mem_append_left _ (earlier.listed acknowledged)
      settled := ?_
      carried := fun frame member => earlier.carried frame ((lets.sublist _).subset member) }
    rw [lets.owned, earlier.settled]
    exact (and_iff_left fun same => different (filed.unique present found same)).symm

theorem acknowledgeFrame_filed (owned : key ∈ before.frameDestinations)
    (lets : Lets (· = key) before (acknowledgeFrame key before)) (accounts : before.Accounts issued tasks) :
    (acknowledgeFrame key before).book.Filed tasks (acknowledgeFrame key before) := by
  have filed := accounts.filed
  have marks := acknowledgeFrame_book key accounts.retained
  generalize (acknowledgeFrame key before).book = book at marks ⊢
  cases marks with
  | kept marked =>
    refine filed.lets lets ?_
    rintro taskKey row found rfl
    have unmarked := (filed found).settled.mpr owned
    rw [marked taskKey row (filed found).indexed found] at unmarked
    cases unmarked
  | marks row found carried =>
    cases carried
    exact filed.acknowledge found lets

theorem ackFrame_accounts (destination frameId : String) (accounts : before.Accounts issued tasks) :
    (step before (.ackFrame destination frameId)).Accounts issued tasks := by
  have attended := step_attended accounts.attended (.ackFrame destination frameId)
  have retained := (step_entry accounts.retained (.ackFrame destination frameId)).retained accounts.retained
  change (ackFrame destination frameId before).2.Attended at attended
  change (ackFrame destination frameId before).2.book.Retained at retained
  show (ackFrame destination frameId before).2.Accounts issued tasks
  rcases ackFrame_cases destination frameId before with unchanged | ⟨free, owned, accepted⟩
  · rw [unchanged]
    exact accounts
  rw [accepted] at attended retained ⊢
  have stocked := accounts.stocked
  have lets := acknowledgeFrame_lets free owned accounts.attended.sound
  refine ⟨attended, retained, stocked.lets lets ?_ ?_, acknowledgeFrame_filed owned lets accounts⟩
  · exact acknowledgeFrame_remembers stocked.remembered (accounts.attended.sound.unacknowledged _ owned)
  · intro key member
    rcases lets.acknowledged key member with earlier | ⟨owned, _⟩
    · exact stocked.acknowledgedIssued key earlier
    · exact stocked.ownedIssued key owned

theorem key_of_clean (clean : Clean frame.frameId) : frame.key = frame.frameId := clean.2

theorem PeerState.Stocked.placed (stocked : before.Stocked issued) (placed : Placed op target frame before after)
    (clean : Clean frame.frameId) : after.Stocked (issued ++ [frame.frameId]) where
  stored := by
    intro key owned
    rw [placed.owned] at owned
    rcases Finset.mem_insert.mp owned with rfl | earlier
    · exact ⟨frame, placed.stored_iff.mpr (.inr ⟨rfl, rfl⟩), rfl⟩
    · obtain ⟨stored, member, named⟩ := stocked.stored key earlier
      exact ⟨stored, placed.stored_iff.mpr (.inl member), named⟩
  clean := by
    intro node stored member
    rcases placed.stored_iff.mp member with earlier | ⟨_, rfl⟩
    · exact stocked.clean node stored earlier
    · exact key_of_clean clean
  tracked := by
    rw [placed.owned, Finset.card_insert_of_notMem placed.unowned]
    exact placed.tracked
  ownedIssued := by
    intro key owned
    rw [placed.owned] at owned
    rcases Finset.mem_insert.mp owned with rfl | earlier
    · rw [key_of_clean clean]
      exact List.mem_append_right _ (List.mem_singleton_self _)
    · exact List.mem_append_left _ (stocked.ownedIssued key earlier)
  remembered := by
    rw [placed.ackOrder, placed.acknowledged]
    exact stocked.remembered
  acknowledgedIssued := by
    intro key acknowledged
    rw [placed.acknowledged] at acknowledged
    exact List.mem_append_left _ (stocked.acknowledgedIssued key acknowledged)

theorem TaskBook.Filed.placed (filed : book.Filed tasks before) (placed : Placed op target frame before after)
    (clean : Clean frame.frameId) (new : frame.frameId ∉ tasks) : book.Filed tasks after := by
  have apart : ∀ taskKey row, book.published.find taskKey = some row → row.2.receipt.frameId ≠ frame.key := by
    intro taskKey row found same
    apply new
    rw [← key_of_clean clean, ← same]
    exact (filed found).issued
  intro taskKey row found
  refine { filed found with settled := ?_, carried := ?_ }
  · rw [(filed found).settled, placed.owned, Finset.mem_insert]
    exact (or_iff_right fun same => apart taskKey row found (congrArg Prod.snd same)).symm
  · intro stored member keyed
    rcases placed.stored_iff.mp member with earlier | ⟨_, rfl⟩
    · exact (filed found).carried stored earlier keyed
    · exact absurd keyed.symm (apart taskKey row found)

theorem awaited_accounts {kind : Option ControlKind} (carries : op.carries = some (target, frame))
    (awaited : op.awaits = some kind) (clean : Clean frame.frameId) (fresh : frame.frameId ∉ issued)
    (known : tasks ⊆ issued) (accounts : before.Accounts issued tasks) :
    (step before op).Accounts (issued ++ [frame.frameId]) tasks := by
  have unregistered := unregistered_of_awaits awaited
  rcases step_routes carries before with ⟨_, _, unchanged⟩ | ⟨_, admitted⟩
  · rw [unchanged unregistered]
    exact accounts.more (List.subset_append_left _ _) (fun _ => id)
  have book := @carried_book before op target frame carries unregistered
  refine ⟨step_attended accounts.attended op, ?_, accounts.stocked.placed admitted.places clean, ?_⟩
  · rw [book]
    exact accounts.retained
  · rw [book]
    exact accounts.filed.placed admitted.places clean fun task => fresh (known task)

theorem TaskBook.Filed.record (filed : book.Filed tasks state) {envelope : TaskEnvelope} (new : receipt.frameId ∉ tasks)
    (owned : (taskKey.2.1, receipt.frameId) ∈ state.frameDestinations)
    (carries : ∀ frame ∈ state.mailbox taskKey.2.1, frame.key = receipt.frameId → frame.task.isSome) :
    (book.record taskKey envelope receipt).Filed (tasks ++ [receipt.frameId]) state := by
  intro other row found
  change (book.published.put (taskKey, ⟨envelope, receipt, false⟩)).find other = some row at found
  rw [Table.find_put] at found
  split at found
  · rename_i same
    cases same
    cases found
    exact ⟨Table.find_put_self _ _, by rintro ⟨⟩, iff_of_true rfl owned, carries,
      List.mem_append_right _ (List.mem_singleton_self _)⟩
  · have earlier := filed found
    refine { earlier with
      indexed := (Table.find_put_ne book.frameIndex (_, taskKey) ?_).trans earlier.indexed
      issued := List.mem_append_left _ earlier.issued }
    intro same
    apply new
    rw [← show row.2.receipt.frameId = receipt.frameId from congrArg Prod.snd same]
    exact earlier.issued

theorem TaskBook.Filed.remove (filed : book.Filed tasks state) {order : List TaskPublishKey}
    (found : book.published.find row.1 = some row) (oldest : book.order = row.1 :: order) :
    TaskBook.Filed tasks { book.remove row with order } state := by
  intro other later present
  obtain ⟨earlier, apart⟩ := Table.find_keep_some.mp present
  rw [Table.find_key earlier] at apart
  have different : other ≠ row.1 := of_decide_eq_true apart
  refine { filed earlier with indexed := ?_, listed := ?_ }
  · refine Table.find_keep_some.mpr ⟨(filed earlier).indexed, decide_eq_true fun same => ?_⟩
    exact different (filed.unique earlier found same)
  · intro acknowledged
    have listed := (filed earlier).listed acknowledged
    rw [oldest] at listed
    exact (List.mem_cons.mp listed).resolve_left different

theorem publishTaskFrame_task {arrival : String × RelayFrame}
    (admits : state.admits (.publishTaskFrame source destination taskId identityTask routedTask frame receipt) =
      some arrival) : frame.task.isSome = true := by
  rcases publishTaskFrame_cases source destination taskId identityTask routedTask frame receipt state with
    ⟨refused, _⟩ | ⟨task, _⟩
  · rw [PeerState.admits, refused] at admits
    cases admits
  · exact task

theorem publishTaskFrame_refused (retained : state.book.Retained) (clean : Clean frame.frameId)
    (named : receipt.frameId = frame.frameId)
    (refused : state.admits (.publishTaskFrame source destination taskId identityTask routedTask frame receipt) = none) :
    (publishTaskFrame source destination taskId identityTask routedTask frame receipt state).2 = state := by
  rcases publishTaskFrame_cases source destination taskId identityTask routedTask frame receipt state with
    ⟨_, unchanged | full⟩ | ⟨_, passes, takes, _⟩
  · exact unchanged
  · exact makeRoomForTask_refused retained full
  · rw [PeerState.admits, passes, takes (named.trans (key_of_clean clean).symm) (key_of_clean clean ▸ clean.1)] at refused
    cases refused

theorem publishTaskFrame_accounts (clean : Clean frame.frameId) (named : receipt.frameId = frame.frameId)
    (fresh : frame.frameId ∉ issued) (known : tasks ⊆ issued) (accounts : before.Accounts issued tasks) :
    (step before (.publishTaskFrame source destination taskId identityTask routedTask frame receipt)).Accounts
      (issued ++ [frame.frameId]) (tasks ++ [frame.frameId]) := by
  have entry := step_entry accounts.retained
    (.publishTaskFrame source destination taskId identityTask routedTask frame receipt)
  have carries : (RelayOp.publishTaskFrame source destination taskId identityTask routedTask frame receipt).carries =
    some (destination, frame) := rfl
  rcases step_routes carries before with ⟨refused, _⟩ | ⟨admits, admitted⟩
  · have unchanged : step before (.publishTaskFrame source destination taskId identityTask routedTask frame receipt) =
      before := publishTaskFrame_refused accounts.retained clean named refused
    rw [unchanged]
    exact accounts.more (List.subset_append_left _ _) (List.subset_append_left _ _)
  have placed := admitted.places
  have new : frame.frameId ∉ tasks := fun task => fresh (known task)
  have keyed : receipt.frameId = frame.key := named.trans (key_of_clean clean).symm
  refine ⟨step_attended accounts.attended _, entry.retained accounts.retained, accounts.stocked.placed placed clean, ?_⟩
  generalize step before (.publishTaskFrame source destination taskId identityTask routedTask frame receipt) = after
    at entry placed ⊢
  have recorded : ∀ {book : TaskBook} {envelope : TaskEnvelope}, book.Filed tasks before →
      (book.record (source, destination, taskId) envelope receipt).Filed (tasks ++ [frame.frameId]) after := by
    intro book envelope filed
    rw [← named]
    apply (filed.placed placed clean new).record (named ▸ new)
    · rw [placed.owned, keyed]
      exact Finset.mem_insert_self _ _
    · intro stored member same
      rcases placed.stored_iff.mp member with earlier | ⟨_, rfl⟩
      · have owned := accounts.attended.sound.owned _ stored earlier
        rw [same, keyed] at owned
        exact absurd owned placed.unowned
      · exact publishTaskFrame_task admits
  generalize after.book = book at entry ⊢
  cases entry with
  | kept => exact (accounts.filed.placed placed clean new).more (List.subset_append_left _ _)
  | admitted taskKey envelope receipt registers given absent room =>
    cases registers
    cases given
    exact recorded accounts.filed
  | replaced row order taskKey envelope receipt registers given absent full oldest found acknowledged =>
    cases registers
    cases given
    exact recorded (accounts.filed.remove found oldest)
  | acknowledged _ _ _ acks => cases acks
  | forgotten _ forgets => cases forgets

theorem TaskBook.Filed.length_le_owned (filed : book.Filed tasks state) (unacknowledged : book.order = []) :
    book.published.rows.length ≤ state.frameDestinations.card := by
  have distinct : (book.published.rows.map publishedFrame).Nodup := by
    apply List.Nodup.map_on _ (List.Nodup.of_map _ book.published.unique)
    intro first member second memberToo same
    have found := Table.find_of_mem member
    have foundToo := Table.find_of_mem memberToo
    rw [filed.unique found foundToo same] at found
    exact Option.some.inj (found.symm.trans foundToo)
  have included : (book.published.rows.map publishedFrame).toFinset ⊆ state.frameDestinations := by
    intro key listed
    obtain ⟨row, member, rfl⟩ := List.mem_map.mp (List.mem_toFinset.mp listed)
    have found := Table.find_of_mem member
    apply (filed found).settled.mp
    cases acknowledged : row.2.acknowledged with
    | false => rfl
    | true =>
      have waits := (filed found).listed acknowledged
      rw [unacknowledged] at waits
      cases waits
  calc book.published.rows.length = (book.published.rows.map publishedFrame).length := (List.length_map _).symm
    _ = (book.published.rows.map publishedFrame).toFinset.card := (List.toFinset_card_of_nodup distinct).symm
    _ ≤ state.frameDestinations.card := Finset.card_le_card included

theorem PeerState.Accounts.mailbox_le_owned (accounts : state.Accounts issued tasks) (node : String) :
    (state.mailbox node).length ≤ state.frameDestinations.card := by
  have distinct : ((state.mailbox node).map fun frame => (node, frame.key)).Nodup := by
    have keys := (accounts.attended.sound.distinct node).map (Prod.mk_right_injective node)
    rw [List.map_map] at keys
    exact keys
  have included : ((state.mailbox node).map fun frame => (node, frame.key)).toFinset ⊆ state.frameDestinations := by
    intro key listed
    obtain ⟨frame, member, rfl⟩ := List.mem_map.mp (List.mem_toFinset.mp listed)
    exact accounts.attended.sound.owned node frame member
  have counted := Finset.card_le_card included
  rw [List.toFinset_card_of_nodup distinct, List.length_map] at counted
  exact counted

theorem publishTaskFrame_rejectedCapacity (clean : Clean frame.frameId)
    (named : receipt.frameId = frame.frameId) (fresh : frame.frameId ∉ issued) (accounts : state.Accounts issued tasks)
    (rejected : (publishTaskFrame source destination taskId identityTask routedTask frame receipt state).1 =
      .rejectedCapacity) : state.frameDestinations.card = maxTrackedFrames := by
  have stocked := accounts.stocked
  apply Nat.le_antisymm stocked.tracked
  apply Nat.le_of_not_lt
  intro room
  have short := Nat.lt_of_le_of_lt (accounts.mailbox_le_owned destination) room
  unfold publishTaskFrame at rejected
  simp only at rejected
  split at rejected
  · cases rejected
  split at rejected
  · split at rejected
    · cases rejected
    · cases rejected
  rw [if_neg] at rejected
  · rcases makeRoomForTask_cases accounts.retained with ⟨_, made⟩ | ⟨full, none, _⟩ | ⟨_, _, _, _, _, _, _, made, _⟩
    · rw [made] at rejected
      cases rejected
    · have counted := accounts.filed.length_le_owned none
      have bound : maxRetainedPublishedTasks = maxTrackedFrames := rfl
      change state.publishedTasks.rows.length ≤ _ at counted
      omega
    · rw [made] at rejected
      cases rejected
  · rw [named]
    rintro (owned | acknowledged | full | blank | full)
    · exact fresh (stocked.ownedIssued _ owned)
    · exact fresh (stocked.acknowledgedIssued _ acknowledged)
    · omega
    · rw [clean.2] at blank
      exact clean.1 blank
    · omega

/-- A call as the service makes it, with a new frame id if it has one. -/
theorem step_accounts (served : op.Served) (fresh : ∀ id, op.issues = some id → id ∉ issued) (known : tasks ⊆ issued)
    (abandons : ∀ destination frameId, op = .abandonFrame destination frameId → frameId ∉ tasks)
    (accounts : before.Accounts issued tasks) :
    (step before op).Accounts (issued ++ op.issues.toList) (tasks ++ op.publishes.toList) := by
  have attended := step_attended accounts.attended op
  have quiet : ∀ {after : PeerState}, after.Accounts issued tasks → after.Accounts (issued ++ []) (tasks ++ []) := by
    intro after accounts
    rw [List.append_nil, List.append_nil]
    exact accounts
  cases op with
  | routeFrame target frame => exact served.elim
  | classifyPublishedTask source destination taskId task receipt => exact served.elim
  | forgetPublishedTask source destination taskId frameId => exact served.elim
  | publishTaskFrame source destination taskId identityTask routedTask frame receipt =>
    exact publishTaskFrame_accounts served.1 served.2 (fresh _ rfl) known accounts
  | routeFrameWaitingForAck target frame =>
    show PeerState.Accounts (issued ++ [frame.frameId]) (tasks ++ []) _
    rw [List.append_nil]
    exact awaited_accounts rfl rfl served (fresh _ rfl) known accounts
  | routeControl kind target frame =>
    show PeerState.Accounts (issued ++ [frame.frameId]) (tasks ++ []) _
    rw [List.append_nil]
    exact awaited_accounts rfl rfl served (fresh _ rfl) known accounts
  | abandonFrame destination frameId => exact quiet (abandonFrame_accounts _ _ (abandons _ _ rfl) accounts)
  | completeControl kind destination frameId result => exact quiet (completeControl_accounts _ _ _ _ accounts)
  | ackFrame destination frameId => exact quiet (ackFrame_accounts _ _ accounts)
  | registerNode node => exact quiet (accounts.beside attended ⟨holdings_registerNode _ before, rfl, rfl, rfl⟩ rfl rfl)
  | connectNode node => exact quiet (accounts.beside attended ⟨rfl, rfl, rfl, rfl⟩ rfl rfl)
  | takeItem stream => exact quiet (accounts.beside attended ⟨rfl, rfl, rfl, rfl⟩ rfl rfl)
  | closeStream stream => exact quiet (accounts.beside attended ⟨rfl, rfl, rfl, rfl⟩ rfl rfl)
  | disconnectNode node => exact quiet (disconnected_accounts rfl accounts)
  | disconnectNodeIfCurrent node generation => exact quiet (disconnected_accounts rfl accounts)
  | disconnectNodeWithStatus node status => exact quiet (disconnected_accounts rfl accounts)
  | disconnectNodeWithStatusIfCurrent node generation status => exact quiet (disconnected_accounts rfl accounts)

theorem filterMap_append_singleton {α β : Type} (choose : α → Option β) (passed : List α) (input : α) :
    (passed ++ [input]).filterMap choose = passed.filterMap choose ++ (choose input).toList := by
  rw [List.filterMap_append]
  cases chosen : choose input <;> simp [chosen]

theorem publishes_issues (ops : List RelayOp) : ops.filterMap RelayOp.publishes ⊆ ops.filterMap RelayOp.issues := by
  intro id listed
  obtain ⟨op, member, published⟩ := List.mem_filterMap.mp listed
  refine List.mem_filterMap.mpr ⟨op, member, ?_⟩
  cases op <;> first | exact published | cases published

/-- What holds of the maps of the relay, in any run of calls as the service makes them. -/
structure Accounted (state : PeerState) : Prop where
  owned : ∀ node id, (node, id) ∈ state.frameDestinations ↔ ∃ frame ∈ state.mailbox node, frame.frameId = id
  once : ∀ node, ((state.mailbox node).map RelayFrame.frameId).Nodup
  ackWaiters : ∀ key, (state.frameAckWaiters.find key).isSome → key ∈ state.frameDestinations
  controlWaiters : ∀ kind key, ((state.controlWaiters kind).find key).isSome → key ∈ state.frameDestinations
  acksApart : ∀ kind key, (state.frameAckWaiters.find key).isSome → (state.controlWaiters kind).find key = none
  controlsApart : ∀ kind other key, kind ≠ other → ((state.controlWaiters kind).find key).isSome →
    (state.controlWaiters other).find key = none
  unacknowledged : Disjoint state.frameDestinations state.acknowledgedFrames
  ackOrder : state.acknowledgedFrameOrder.Nodup ∧ state.acknowledgedFrameOrder.toFinset = state.acknowledgedFrames ∧
    state.acknowledgedFrameOrder.length ≤ 8192
  published : ∀ taskKey row, state.publishedTasks.find taskKey = some row →
    state.publishedFrameIndex.find (publishedFrame row) = some (publishedFrame row, taskKey) ∧
      (row.2.acknowledged = false ↔ publishedFrame row ∈ state.frameDestinations)

theorem PeerState.Accounts.accounted (accounts : state.Accounts issued tasks) : Accounted state where
  owned := by
    intro node id
    constructor
    · intro owned
      obtain ⟨frame, member, keyed⟩ := accounts.stocked.stored _ owned
      exact ⟨frame, member, (accounts.stocked.clean node frame member).symm.trans keyed⟩
    · rintro ⟨frame, member, rfl⟩
      rw [← accounts.stocked.clean node frame member]
      exact accounts.attended.sound.owned node frame member
  once := by
    intro node
    have distinct : ((state.mailbox node).map RelayFrame.key).Nodup := accounts.attended.sound.distinct node
    rw [List.map_congr_left (accounts.stocked.clean node)] at distinct
    exact distinct
  ackWaiters := by
    intro key waits
    obtain ⟨row, found⟩ := Option.isSome_iff_exists.mp waits
    exact accounts.attended.waited_owned (show (state.waiters none).find key = some row from found)
  controlWaiters := by
    intro kind key waits
    obtain ⟨row, found⟩ := Option.isSome_iff_exists.mp waits
    exact accounts.attended.waited_owned (show (state.waiters (some kind)).find key = some row from found)
  acksApart := by
    intro kind key waits
    obtain ⟨row, found⟩ := Option.isSome_iff_exists.mp waits
    exact accounts.attended.uncontrolled found kind
  controlsApart := by
    intro kind other key different waits
    obtain ⟨row, found⟩ := Option.isSome_iff_exists.mp waits
    by_contra controlled
    obtain ⟨rowToo, foundToo⟩ := Option.ne_none_iff_exists'.mp controlled
    have same := @PeerState.Attended.one_kind _ (some kind) key accounts.attended row rowToo (some other) found foundToo
    exact different (Option.some.inj same)
  unacknowledged := Finset.disjoint_left.mpr fun key owned => accounts.attended.sound.unacknowledged key owned
  ackOrder := ⟨accounts.stocked.remembered.distinct, accounts.stocked.remembered.same, accounts.stocked.remembered.bounded⟩
  published := fun _ _ found => ⟨(accounts.filed found).indexed, (accounts.filed found).settled⟩

theorem AsIssued.fresh_last {passed : List RelayOp} (valid : AsIssued (passed ++ [op])) :
    ∀ id, op.issues = some id → id ∉ passed.filterMap RelayOp.issues := by
  intro id issues listed
  have distinct := valid.fresh
  rw [filterMap_append_singleton, issues, List.nodup_append] at distinct
  exact distinct.2.2 id listed id (List.mem_singleton_self id) rfl

theorem run_accounts {ops : List RelayOp} (valid : AsIssued ops) :
    (Run.run step PeerState.empty ops).Accounts (ops.filterMap RelayOp.issues) (ops.filterMap RelayOp.publishes) := by
  apply Run.traced (fun (passed : List RelayOp) (state : PeerState) =>
    state.Accounts (passed.filterMap RelayOp.issues) (passed.filterMap RelayOp.publishes)) empty_accounts
  intro passed op earlier accounts
  have valid := valid.earlier earlier
  have last := List.mem_append_right passed (List.mem_singleton_self op)
  rw [filterMap_append_singleton, filterMap_append_singleton]
  refine step_accounts (valid.served op last) valid.fresh_last (publishes_issues passed) ?_ accounts
  rintro destination frameId rfl published
  apply valid.abandoned destination frameId last
  rw [filterMap_append_singleton]
  exact List.mem_append_left _ published

/-- In every run of calls as the service makes them the maps agree, and a new task is refused for lack of room
only while 8192 frames are owned. -/
theorem frames_are_accounted_for (ops : List RelayOp) (valid : AsIssued ops) :
    Accounted (Run.run step PeerState.empty ops) ∧
      ∀ sourceNodeId destinationNodeId taskId identityTask routedTask frame proposedReceipt,
        AsIssued (ops ++ [.publishTaskFrame sourceNodeId destinationNodeId taskId identityTask routedTask frame
          proposedReceipt]) →
        (publishTaskFrame sourceNodeId destinationNodeId taskId identityTask routedTask frame proposedReceipt
          (Run.run step PeerState.empty ops)).1 = .rejectedCapacity →
        (Run.run step PeerState.empty ops).frameDestinations.card = 8192 := by
  have accounts := run_accounts valid
  refine ⟨accounts.accounted, ?_⟩
  intro source destination taskId identityTask routedTask frame receipt next rejected
  obtain ⟨clean, named⟩ := next.served _ (List.mem_append_right _ (List.mem_singleton_self _))
  exact publishTaskFrame_rejectedCapacity clean named (next.fresh_last _ rfl) accounts rejected

end

def publishedSample : TaskEnvelope where
  taskId := some ⟨"task-1"⟩
  correlationId := none
  idempotencyKey := none
  status := 0
  messages := []
  metadata := .empty
  deadlineMs := 0

def taskFrame : RelayFrame where
  frameId := "relay-frame-1"
  task := some publishedSample
  authenticatedSourceNodeId := "origin"
  destinationNodeId := "edge"

def resultFrame : RelayFrame where
  frameId := "relay-frame-2"
  result := some ⟨1, some ⟨"task-0"⟩, none, 1, "edge", 0, 0, "", .empty, []⟩
  authenticatedSourceNodeId := "edge"
  destinationNodeId := "origin"

def sampleOps : List RelayOp :=
  [.connectNode "edge",
    .publishTaskFrame "origin" "edge" "task-1" publishedSample publishedSample taskFrame ⟨"relay-frame-1", 5⟩,
    .routeFrameWaitingForAck "origin" resultFrame, .ackFrame "edge" "relay-frame-1",
    .abandonFrame "origin" "relay-frame-2"]

theorem sampleOps_issued : AsIssued sampleOps where
  served := by
    intro op member
    simp only [sampleOps, List.mem_cons, List.not_mem_nil, or_false] at member
    rcases member with rfl | rfl | rfl | rfl | rfl
    · trivial
    · exact ⟨⟨by decide, by decide⟩, rfl⟩
    · exact ⟨by decide, by decide⟩
    · trivial
    · trivial
  fresh := by decide
  abandoned := by
    intro destination frameId member
    simp only [sampleOps, List.mem_cons, List.not_mem_nil, or_false, reduceCtorEq, false_or,
      RelayOp.abandonFrame.injEq] at member
    rw [member.2]
    decide

theorem sample_frames_accounted_for :
    AsIssued sampleOps ∧ Accounted (Run.run step PeerState.empty sampleOps) ∧
      (Run.run step PeerState.empty sampleOps).acknowledgedFrames = {("edge", "relay-frame-1")} :=
  ⟨sampleOps_issued, (frames_are_accounted_for sampleOps sampleOps_issued).1, by decide⟩

end Keryx.Relay
