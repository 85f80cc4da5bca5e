import Keryx.Relay.Ownership

/-! What one call of the relay does to its frames and to those who wait, and what that keeps true of every run. -/

namespace Keryx.Relay
open Keryx.Core Proto Relational Concurrent

def RelayOp.brings : RelayOp → Option FrameKey
  | .routeFrame target frame => some (target, frame.key)
  | .routeFrameWaitingForAck target frame => some (target, frame.key)
  | .routeControl _ target frame => some (target, frame.key)
  | .publishTaskFrame _ destination _ _ _ frame _ => some (destination, frame.key)
  | _ => none

/-- The frames that a call may take away. -/
def RelayOp.touches : RelayOp → FrameKey → Prop
  | .ackFrame destination frameId, key => key = (trim destination, trim frameId)
  | .completeControl _ destination frameId _, key => key = (trim destination, trim frameId)
  | .abandonFrame destination frameId, key => key = (destination, frameId)
  | op, key => op.disconnects = some key.1

/-- A node names a frame that it was sent. -/
def presents (destinationNodeId frameId : String) (key : FrameKey) : Bool :=
  trim destinationNodeId ≠ "" ∧ (trim destinationNodeId, trim frameId) = key

/-- What a call tells whoever waits for an owned frame. -/
def RelayOp.settles (kind : Option ControlKind) (key : FrameKey) (state : PeerState) :
    RelayOp → Option (Option LocalTypedControlDispatch)
  | .ackFrame destination frameId =>
    if kind = none ∧ presents destination frameId key ∧ key ∈ state.frameDestinations then some none else none
  | .completeControl control destination frameId result =>
    if kind = some control ∧ presents destination frameId key ∧ key ∈ state.frameDestinations then some (some result)
    else none
  | _ => none

def PeerState.replies (state : PeerState) : Option ControlKind → List (Nat × Option LocalTypedControlDispatch)
  | none => state.acknowledgements.delivered.map fun reply => (reply.1, none)
  | some _ => state.completions.delivered.map fun reply => (reply.1, some reply.2)

/-- Every waiter listens on a channel of its own. -/
structure PeerState.Numbered (state : PeerState) : Prop where
  bounded : ∀ kind key row, (state.waiters kind).find key = some row → row.2 < state.opened kind
  distinct : ∀ first second key other row another, first.isSome = second.isSome →
    (state.waiters first).find key = some row → (state.waiters second).find other = some another →
    row.2 = another.2 → first = second ∧ key = other

/-- Whoever waits for an acknowledgement waits for a stored task or result, every fleet request is waited for, and
every reply went to a waiter. -/
structure PeerState.Attended (state : PeerState) : Prop where
  sound : state.holdings.Sound
  numbered : state.Numbered
  awaited : ∀ key row, state.frameAckWaiters.find key = some row →
    ∃ frame ∈ state.mailbox key.1, frame.key = key.2 ∧ isGeneric frame = true
  observed : ∀ node, ∀ frame ∈ state.mailbox node, frame.fleetObservationPublishV1.isSome = true →
    ∃ row, (state.waiters (some .fleetObservation)).find (node, frame.key) = some row
  replied : ∀ kind, ∀ reply ∈ state.replies kind, reply.1 < state.opened kind

/-- The frames under some keys go, and with them whoever waits for them. -/
structure Lets (gone : FrameKey → Prop) (before after : PeerState) : Prop where
  sublist : ∀ node, (after.mailbox node).Sublist (before.mailbox node)
  mailbox : ∀ node frame, frame ∈ after.mailbox node ↔ frame ∈ before.mailbox node ∧ ¬ gone (node, frame.key)
  owned : ∀ key, key ∈ after.frameDestinations ↔ key ∈ before.frameDestinations ∧ ¬ gone key
  acknowledged : ∀ key ∈ after.acknowledgedFrames, key ∈ before.acknowledgedFrames ∨
    key ∈ before.frameDestinations ∧ gone key
  waiters : ∀ kind key row, (after.waiters kind).find key = some row ↔
    (before.waiters kind).find key = some row ∧ ¬ gone key
  opened : ∀ kind, after.opened kind = before.opened kind

inductive Turn (op : RelayOp) (before after : PeerState) : Prop
  | placed (target : String) (frame : RelayFrame) (carries : op.carries = some (target, frame))
      (placed : Placed op target frame before after)
  | dropped (gone : FrameKey → Prop) (lets : Lets gone before after)
      (replies : ∀ kind, after.replies kind = before.replies kind) (touches : ∀ key, gone key → op.touches key)
      (unsettled : ∀ kind key row, (before.waiters kind).find key = some row → op.settles kind key before = none)
  | settled (kind : Option ControlKind) (key : FrameKey) (row : FrameKey × Nat)
      (reply : Option LocalTypedControlDispatch) (found : (before.waiters kind).find key = some row)
      (lets : Lets (· = key) before after)
      (replies : ∀ other, after.replies other =
        before.replies other ++ if other.isSome = kind.isSome then [(row.2, reply)] else [])
      (touches : op.touches key) (settles : op.settles kind key before = some reply)
      (others : ∀ other waiting, ¬ (other = kind ∧ waiting = key) → op.settles other waiting before = none)

section
variable {before after middle : PeerState} {target : String} {frame : RelayFrame} {kind : Option ControlKind}
  {key : FrameKey} {op : RelayOp} {gone : FrameKey → Prop}

theorem PeerState.opened_family {other : Option ControlKind} (family : other.isSome = kind.isSome) :
    before.opened other = before.opened kind := by
  cases other <;> cases kind <;> first | rfl | cases family

theorem PeerState.replies_eq (acknowledged : after.acknowledgements.delivered = before.acknowledgements.delivered)
    (completed : after.completions.delivered = before.completions.delivered) (kind : Option ControlKind) :
    after.replies kind = before.replies kind := by
  cases kind with
  | none => rw [PeerState.replies, acknowledged, PeerState.replies]
  | some kind => rw [PeerState.replies, completed, PeerState.replies]

theorem PeerState.waiters_eq (holdings : after.holdings = before.holdings)
    (ackWaiters : after.frameAckWaiters = before.frameAckWaiters) (kind : Option ControlKind) :
    after.waiters kind = before.waiters kind := by
  cases kind with
  | none => exact ackWaiters
  | some kind => exact congrFun (congrArg Holdings.control holdings) kind

theorem RelayOp.unsettled_of_carries (carries : op.carries = some (target, frame)) (kind : Option ControlKind)
    (waiting : FrameKey) (state : PeerState) : op.settles kind waiting state = none := by
  cases op <;> first | rfl | cases carries

theorem RelayOp.brings_of_carries (carries : op.carries = some (target, frame)) :
    op.brings = some (target, frame.key) := by
  cases op <;> cases carries <;> rfl

theorem RelayOp.carries_of_brings (brings : op.brings = some key) :
    ∃ target frame, op.carries = some (target, frame) ∧ (target, frame.key) = key := by
  cases op <;> cases brings <;> exact ⟨_, _, rfl, rfl⟩

variable {destination frameId : String}

theorem presents_iff :
    presents destination frameId key = true ↔ trim destination ≠ "" ∧ (trim destination, trim frameId) = key := by
  rw [presents, decide_eq_true_eq]

namespace PeerState.Attended
variable (attended : before.Attended) {row another : FrameKey × Nat}
include attended

theorem waited (found : (before.waiters kind).find key = some row) :
    ∃ frame ∈ before.mailbox key.1, frame.key = key.2 ∧ awaitable kind frame = true := by
  cases kind with
  | none => exact attended.awaited key row found
  | some kind => exact attended.sound.controlled kind key row found

theorem waited_owned (found : (before.waiters kind).find key = some row) : key ∈ before.frameDestinations := by
  obtain ⟨stored, member, keyed, _⟩ := attended.waited found
  have owned := attended.sound.owned key.1 stored member
  rw [keyed] at owned
  exact owned

theorem one_kind {other : Option ControlKind} (found : (before.waiters kind).find key = some row)
    (foundToo : (before.waiters other).find key = some another) : kind = other := by
  obtain ⟨stored, member, keyed, waits⟩ := attended.waited found
  obtain ⟨storedToo, memberToo, keyedToo, waitsToo⟩ := attended.waited foundToo
  cases attended.sound.frame_unique member memberToo (keyed.trans keyedToo.symm)
  exact awaitable_unique (attended.sound.payload _ _ member) waits waitsToo

theorem uncontrolled (found : (before.waiters none).find key = some row) (kind : ControlKind) :
    (before.controlWaiters kind).find key = none := by
  cases controlled : (before.waiters (some kind)).find key with
  | none => exact controlled
  | some another => cases attended.one_kind found controlled

end PeerState.Attended

theorem find_without {map : HashMap FrameKey Nat} {waiting : FrameKey} {row : FrameKey × Nat} :
    (map.keep (fun row => row.1 ≠ key)).find waiting = some row ↔ map.find waiting = some row ∧ waiting ≠ key := by
  rw [Table.find_keep_some, decide_eq_true_eq]
  refine and_congr_right fun present => ?_
  rw [Table.find_key present]

theorem find_waiters_update {kind other : ControlKind} {map : HashMap FrameKey Nat} {waiting : FrameKey} :
    (Function.update before.controlWaiters kind map other).find waiting =
      if other = kind then map.find waiting else (before.controlWaiters other).find waiting := by
  by_cases same : other = kind
  · subst same
    rw [Function.update_self, if_pos rfl]
  · rw [Function.update_of_ne same, if_neg same]

structure Beside (before after : PeerState) : Prop where
  holdings : after.holdings = before.holdings
  ackWaiters : after.frameAckWaiters = before.frameAckWaiters
  acknowledgements : after.acknowledgements = before.acknowledgements
  completions : after.completions = before.completions

theorem Beside.refl (state : PeerState) : Beside state state := ⟨rfl, rfl, rfl, rfl⟩

theorem Rebooked.beside (rebooked : Rebooked before after) : Beside before after := by
  obtain ⟨_, _, _, _, rfl⟩ := rebooked
  exact ⟨rfl, rfl, rfl, rfl⟩

theorem Beside.replies (beside : Beside before after) (kind : Option ControlKind) :
    after.replies kind = before.replies kind :=
  PeerState.replies_eq (congrArg Oneshots.delivered beside.acknowledgements)
    (congrArg Oneshots.delivered beside.completions) kind

theorem Lets.beside (lets : Lets gone before middle) (beside : Beside middle after) : Lets gone before after := by
  have mailbox : after.mailbox = middle.mailbox := congrArg Holdings.mailbox beside.holdings
  have owned : after.frameDestinations = middle.frameDestinations := congrArg Holdings.owned beside.holdings
  have acknowledged : after.acknowledgedFrames = middle.acknowledgedFrames :=
    congrArg Holdings.acknowledged beside.holdings
  have waiters := PeerState.waiters_eq beside.holdings beside.ackWaiters
  have opened := PeerState.opened_eq beside.acknowledgements beside.completions
  constructor
  · rw [mailbox]
    exact lets.sublist
  · rw [mailbox]
    exact lets.mailbox
  · rw [owned]
    exact lets.owned
  · rw [acknowledged]
    exact lets.acknowledged
  · intro kind
    rw [waiters]
    exact lets.waiters kind
  · intro kind
    rw [opened]
    exact lets.opened kind

theorem Lets.nothing (state : PeerState) : Lets (fun _ => False) state state where
  sublist := fun _ => List.Sublist.refl _
  mailbox := fun _ _ => (and_iff_left id).symm
  owned := fun _ => (and_iff_left id).symm
  acknowledged := fun _ => .inl
  waiters := fun _ _ _ => (and_iff_left id).symm
  opened := fun _ => rfl

theorem Beside.turn (beside : Beside before after)
    (unsettled : ∀ kind key row, (before.waiters kind).find key = some row → op.settles kind key before = none) :
    Turn op before after :=
  .dropped _ ((Lets.nothing before).beside beside) beside.replies (fun _ => False.elim) unsettled

theorem Lets.released {control : ControlKind → HashMap FrameKey Nat} {acknowledged : Finset FrameKey}
    (released : after.holdings = { before.holdings.release key control with acknowledged })
    (remembered : ∀ other ∈ acknowledged, other ∈ before.acknowledgedFrames ∨
      other ∈ before.frameDestinations ∧ other = key)
    (waiters : ∀ kind waiting row, (after.waiters kind).find waiting = some row ↔
      (before.waiters kind).find waiting = some row ∧ waiting ≠ key)
    (opened : ∀ kind, after.opened kind = before.opened kind) : Lets (· = key) before after := by
  have mailbox : after.mailbox = (before.holdings.release key control).mailbox := congrArg Holdings.mailbox released
  have owned : after.frameDestinations = before.frameDestinations.erase key := congrArg Holdings.owned released
  have known : after.acknowledgedFrames = acknowledged := congrArg Holdings.acknowledged released
  refine ⟨?_, ?_, ?_, ?_, waiters, opened⟩
  · intro node
    rw [mailbox]
    exact update_sublist List.filter_sublist node
  · intro node frame
    rw [mailbox]
    exact mem_release
  · intro other
    rw [owned]
    exact Finset.mem_erase.trans and_comm
  · intro other member
    rw [known] at member
    exact remembered other member

theorem abandonFrame_holdings (destination frameId : String) (state : PeerState) :
    (abandonFrame destination frameId state).holdings =
      state.holdings.release (destination, frameId)
        (fun kind => (state.controlWaiters kind).keep (fun row => row.1 ≠ (destination, frameId))) := by
  unfold abandonFrame PeerState.holdings
  rw [mailbox_retainMailbox]
  rfl

theorem abandonFrame_lets (destination frameId : String) (state : PeerState) :
    Lets (· = (destination, frameId)) state (abandonFrame destination frameId state) := by
  refine .released (abandonFrame_holdings destination frameId state) (fun _ => .inl) ?_ ?_
  · intro kind waiting row
    cases kind <;> exact find_without
  · intro kind
    cases kind <;> rfl

def settleControl (kind : ControlKind) (key : FrameKey) (waiter : Nat) (result : LocalTypedControlDispatch)
    (state : PeerState) : PeerState :=
  { state.removeControlWaiter kind key with
    frameDestinations := state.frameDestinations.erase key
    completions := state.completions.send waiter result }.retainMailbox key.1 (·.key ≠ key.2)

theorem completeControl_cases (kind : ControlKind) (destination frameId : String) (result : LocalTypedControlDispatch)
    (sound : before.holdings.Sound) :
    (completeControl kind destination frameId result before).2 = before ∨
      ∃ row, (before.controlWaiters kind).find (trim destination, trim frameId) = some row ∧
        (completeControl kind destination frameId result before).2 =
          settleControl kind (trim destination, trim frameId) row.2 result before := by
  unfold completeControl
  simp only
  split
  · exact .inl rfl
  split
  · split
    · exact .inl rfl
    · exact .inl rfl
  rename_i waiter found
  split
  · rename_i unowned
    obtain ⟨frame, member, keyed, _⟩ := sound.controlled kind _ _ found
    have owned := sound.owned _ frame member
    rw [keyed] at owned
    exact absurd owned unowned
  · exact .inr ⟨_, found, rfl⟩

theorem settleControl_holdings (kind : ControlKind) (key : FrameKey) (waiter : Nat) (result : LocalTypedControlDispatch)
    (state : PeerState) :
    (settleControl kind key waiter result state).holdings =
      state.holdings.release key (state.holdings.withoutWaiter kind key) := by
  unfold settleControl PeerState.holdings
  rw [mailbox_retainMailbox]
  rfl

theorem settleControl_lets {control : ControlKind} {row : FrameKey × Nat} (result : LocalTypedControlDispatch)
    (found : (before.controlWaiters control).find key = some row) (attended : before.Attended) :
    Lets (· = key) before (settleControl control key row.2 result before) := by
  have own : (before.waiters (some control)).find key = some row := found
  have others : ∀ {kind waiting waiter}, kind ≠ some control → (before.waiters kind).find waiting = some waiter →
      waiting ≠ key := by
    rintro kind waiting waiter other waits rfl
    exact other (attended.one_kind waits own)
  refine .released (settleControl_holdings control key row.2 result before) (fun _ => .inl) ?_ ?_
  · intro kind waiting waiter
    cases kind with
    | none => exact ⟨fun waits => ⟨waits, @others none waiting waiter nofun waits⟩, And.left⟩
    | some kind =>
      show (Function.update before.controlWaiters control _ kind).find waiting = some waiter ↔ _
      rw [find_waiters_update]
      split
      · rename_i same
        subst same
        exact find_without
      · rename_i other
        have apart : some kind ≠ some control := fun same => other (Option.some.inj same)
        exact ⟨fun waits => ⟨waits, others apart waits⟩, And.left⟩
  · intro kind
    cases kind <;> rfl

/-- The state when an acknowledged frame is gone and remembered. -/
def releaseFrame (key : FrameKey) (state : PeerState) : PeerState :=
  rememberAcknowledgement key { state with
    frameDestinations := state.frameDestinations.erase key
    mailboxes := state.mailboxes.update key.1 (fun row => (row.1, row.2.eraseP (·.key = key.2))) fun row => .refl row.1 }

theorem releaseFrame_holdings (key : FrameKey) (sound : before.holdings.Sound) :
    (releaseFrame key before).holdings =
      { before.holdings.release key before.controlWaiters with
        acknowledged := (releaseFrame key before).acknowledgedFrames } := by
  have mailbox := mailbox_update before key.1 (List.eraseP (·.key = key.2)) rfl
  have same := eraseP_key (sound.distinct key.1) key.2
  show Holdings.mk _ _ _ _ = Holdings.mk _ _ _ _
  congr 1
  refine Eq.trans mailbox ?_
  show Function.update before.mailbox key.1 ((before.holdings.mailbox key.1).eraseP _) = _
  rw [same]
  rfl

theorem settleAckWaiter_lets (free : ∀ kind, (before.controlWaiters kind).find key = none)
    (owned : key ∈ before.frameDestinations) (sound : before.holdings.Sound) :
    Lets (· = key) before (settleAckWaiter key (releaseFrame key before)) := by
  have released : (settleAckWaiter key (releaseFrame key before)).holdings = (releaseFrame key before).holdings := by
    obtain ⟨_, _, settled⟩ := settleAckWaiter_settles key (releaseFrame key before)
    rw [settled]
    rfl
  refine .released (released.trans (releaseFrame_holdings key sound)) ?_ ?_ ?_
  · intro other member
    rcases Finset.mem_insert.mp (expireAcknowledgements_subset _ _ member) with rfl | earlier
    · exact .inr ⟨owned, rfl⟩
    · exact .inl earlier
  · intro kind waiting row
    cases kind with
    | none =>
      show (settleAckWaiter key (releaseFrame key before)).frameAckWaiters.find waiting = some row ↔
        before.frameAckWaiters.find waiting = some row ∧ waiting ≠ key
      unfold settleAckWaiter
      split
      · rename_i absent
        refine ⟨fun found => ⟨found, ?_⟩, And.left⟩
        rintro rfl
        cases absent.symm.trans found
      · exact find_without
    | some kind =>
      have same : (settleAckWaiter key (releaseFrame key before)).controlWaiters = before.controlWaiters :=
        congrArg Holdings.control released
      show ((settleAckWaiter key (releaseFrame key before)).controlWaiters kind).find waiting = some row ↔ _
      rw [same]
      refine ⟨fun found => ⟨found, ?_⟩, And.left⟩
      rintro rfl
      cases (free kind).symm.trans found
  · intro kind
    unfold settleAckWaiter
    split
    · cases kind <;> rfl
    · cases kind <;> rfl

theorem settleAckWaiter_replies (key : FrameKey) (state : PeerState) (kind : Option ControlKind) :
    (settleAckWaiter key state).replies kind = state.replies kind ++
      if kind = none then ((state.frameAckWaiters.find key).map fun row => (row.2, none)).toList else [] := by
  unfold settleAckWaiter
  cases state.frameAckWaiters.find key with
  | none => exact ((congrArg _ (ite_self _)).trans (List.append_nil _)).symm
  | some row =>
    cases kind with
    | some kind => exact (List.append_nil _).symm
    | none => exact List.map_append

theorem acknowledgeFrame_replies (key : FrameKey) (state : PeerState) (kind : Option ControlKind) :
    (acknowledgeFrame key state).replies kind = state.replies kind ++
      if kind = none then ((state.frameAckWaiters.find key).map fun row => (row.2, none)).toList else [] :=
  ((markPublishedTaskAcknowledged_rebooked key _).beside.replies kind).trans
    (settleAckWaiter_replies key (releaseFrame key state) kind)

theorem acknowledgeFrame_lets (free : ∀ kind, (before.controlWaiters kind).find key = none)
    (owned : key ∈ before.frameDestinations) (sound : before.holdings.Sound) :
    Lets (· = key) before (acknowledgeFrame key before) :=
  (settleAckWaiter_lets free owned sound).beside (markPublishedTaskAcknowledged_rebooked key _).beside

theorem dropConnection_lets (node : String) (attended : before.Attended) :
    Lets (· ∈ before.holdings.fleetKeys node) before (dropConnection node before) := by
  -- The frames that go are those under the keys of the node's fleet waiters.
  have frames : ∀ place frame, frame ∈ before.mailbox place →
      ((place = node → frame.fleetObservationPublishV1.isNone = true) ↔
        (place, frame.key) ∉ before.holdings.fleetKeys node) := by
    intro place frame member
    rw [mem_fleetKeys, ← Option.not_isSome, Bool.not_eq_true', ← Bool.not_eq_true]
    constructor
    · rintro quiet ⟨⟨row, found⟩, here⟩
      obtain ⟨other, memberToo, keyed, fits⟩ := attended.sound.controlled .fleetObservation _ row found
      cases attended.sound.frame_unique memberToo member keyed
      have payload := attended.sound.payload place _ member
      exact quiet here ((@awaitable_fleet _ (some .fleetObservation) payload fits).mpr rfl)
    · intro unwaited here observes
      exact unwaited ⟨attended.observed place frame member observes, here⟩
  have mailbox : (dropConnection node before).mailbox = Function.update before.mailbox node
      ((before.mailbox node).filter (·.fleetObservationPublishV1.isNone)) := mailbox_retainMailbox _ node _
  have others : ∀ {kind waiting waiter}, kind ≠ some .fleetObservation →
      (before.waiters kind).find waiting = some waiter → waiting ∉ before.holdings.fleetKeys node := by
    intro kind waiting waiter other waits fleet
    obtain ⟨⟨row, found⟩, _⟩ := mem_fleetKeys.mp fleet
    exact other (@PeerState.Attended.one_kind _ _ _ attended _ row (some .fleetObservation) waits found)
  refine ⟨?_, ?_, fun key => Finset.mem_filter, fun _ => .inl, ?_, ?_⟩
  · intro place
    rw [mailbox]
    exact update_sublist List.filter_sublist place
  · intro place frame
    rw [mailbox]
    exact mem_update_filter.trans (and_congr_right (frames place frame))
  · intro kind waiting waiter
    cases kind with
    | none => exact ⟨fun waits => ⟨waits, @others none waiting waiter nofun waits⟩, And.left⟩
    | some kind =>
      show (Function.update before.controlWaiters .fleetObservation _ kind).find waiting = some waiter ↔ _
      rw [find_waiters_update]
      split
      · rename_i same
        subst same
        rw [Table.find_keep_some, decide_eq_true_eq]
        refine and_congr_right fun present => ?_
        rw [Table.find_key present]
        exact Iff.rfl
      · rename_i other
        have apart : some kind ≠ some .fleetObservation := fun same => other (Option.some.inj same)
        exact ⟨fun waits => ⟨waits, others apart waits⟩, And.left⟩
  · intro kind
    cases kind <;> rfl

theorem completeControl_unnamed (control : ControlKind) {destination : String} (frameId : String)
    (result : LocalTypedControlDispatch) (state : PeerState) (unnamed : trim destination = "") :
    (completeControl control destination frameId result state).2 = state := by
  unfold completeControl
  simp only
  rw [if_pos (.inl unnamed)]

theorem completeControl_settles {control : ControlKind} {row : FrameKey × Nat}
    (result : LocalTypedControlDispatch) (attended : before.Attended) (node : trim destination ≠ "")
    (found : (before.waiters (some control)).find (trim destination, trim frameId) = some row) :
    (completeControl control destination frameId result before).2 =
      settleControl control (trim destination, trim frameId) row.2 result before := by
  obtain ⟨stored, member, keyed, _⟩ := attended.waited found
  have named := attended.sound.named _ stored member
  rw [keyed] at named
  have waits : (before.controlWaiters control).find (trim destination, trim frameId) = some row := found
  unfold completeControl
  simp only
  rw [if_neg (not_or.mpr ⟨node, named⟩), waits]
  simp only
  rw [if_neg (not_not.mpr (attended.waited_owned found))]
  rfl

theorem completeControl_turn (control : ControlKind) (destination frameId : String) (result : LocalTypedControlDispatch)
    (attended : before.Attended) :
    Turn (.completeControl control destination frameId result) before
      (completeControl control destination frameId result before).2 := by
  by_cases node : trim destination = ""
  · rw [completeControl_unnamed control frameId result before node]
    apply (Beside.refl before).turn
    intro kind key row _
    refine if_neg fun settled => ?_
    exact (presents_iff.mp settled.2.1).1 node
  cases found : (before.waiters (some control)).find (trim destination, trim frameId) with
  | none =>
    have unchanged : (completeControl control destination frameId result before).2 = before := by
      refine (completeControl_cases control destination frameId result attended.sound).resolve_right ?_
      rintro ⟨row, waits, _⟩
      cases found.symm.trans waits
    rw [unchanged]
    apply (Beside.refl before).turn
    intro kind key row waits
    refine if_neg fun settled => ?_
    obtain ⟨rfl, presented, _⟩ := settled
    obtain ⟨_, rfl⟩ := presents_iff.mp presented
    cases found.symm.trans waits
  | some row =>
    rw [completeControl_settles result attended node found]
    refine .settled (some control) (trim destination, trim frameId) row (some result) found
      (settleControl_lets result found attended) ?_ rfl ?_ ?_
    · intro other
      cases other with
      | none => exact (List.append_nil _).symm
      | some other => exact List.map_append
    · exact if_pos ⟨rfl, presents_iff.mpr ⟨node, rfl⟩, attended.waited_owned found⟩
    · intro other waiting apart
      refine if_neg fun settled => apart ⟨settled.1, ?_⟩
      exact (presents_iff.mp settled.2.1).2.symm

theorem ackFrame_settles {row : FrameKey × Nat} (attended : before.Attended)
    (node : trim destination ≠ "") (found : (before.waiters none).find (trim destination, trim frameId) = some row) :
    ackFrame destination frameId before =
      (.accepted, acknowledgeFrame (trim destination, trim frameId) before) := by
  have owned := attended.waited_owned found
  obtain ⟨stored, member, keyed, _⟩ := attended.waited found
  have named := attended.sound.named _ stored member
  rw [keyed] at named
  exact ackFrame_owned node named (attended.uncontrolled found) (attended.sound.unacknowledged _ owned) owned

theorem ackFrame_turn (destination frameId : String) (attended : before.Attended) :
    Turn (.ackFrame destination frameId) before (ackFrame destination frameId before).2 := by
  have others : ∀ other waiting, ¬ (other = none ∧ waiting = (trim destination, trim frameId)) →
      (RelayOp.ackFrame destination frameId).settles other waiting before = none := by
    intro other waiting apart
    refine if_neg fun settled => apart ⟨settled.1, ?_⟩
    exact (presents_iff.mp settled.2.1).2.symm
  rcases ackFrame_cases destination frameId before with unchanged | ⟨free, owned, accepted⟩
  · rw [unchanged]
    apply (Beside.refl before).turn
    intro kind key row found
    refine if_neg ?_
    rintro ⟨rfl, presented, owned⟩
    obtain ⟨node, rfl⟩ := presents_iff.mp presented
    rw [ackFrame_settles attended node found] at unchanged
    have same : acknowledgeFrame (trim destination, trim frameId) before = before := unchanged
    have lets := acknowledgeFrame_lets (attended.uncontrolled found) (attended.waited_owned found) attended.sound
    rw [same] at lets
    exact ((lets.owned _).mp owned).2 rfl
  · have node : trim destination ≠ "" := by
      intro unnamed
      have refused : ackFrame destination frameId before = (.unknownFrame, before) := by
        unfold ackFrame
        simp only
        rw [if_pos (.inl unnamed)]
      rw [refused] at accepted
      cases accepted
    rw [accepted]
    have lets := acknowledgeFrame_lets free owned attended.sound
    have replies := acknowledgeFrame_replies (trim destination, trim frameId) before
    cases acks : before.frameAckWaiters.find (trim destination, trim frameId) with
    | none =>
      rw [acks] at replies
      refine .dropped _ lets ?_ (fun _ => id) ?_
      · intro kind
        rw [replies, Option.map_none, Option.toList_none, ite_self, List.append_nil]
      · intro kind key row found
        apply others
        rintro ⟨rfl, rfl⟩
        cases acks.symm.trans found
    | some row =>
      rw [acks] at replies
      refine .settled none (trim destination, trim frameId) row none acks lets ?_ rfl ?_ others
      · intro other
        rw [replies]
        cases other <;> rfl
      · exact if_pos ⟨rfl, presents_iff.mpr ⟨node, rfl⟩, owned⟩

theorem carried_turn (carries : op.carries = some (target, frame)) (state : PeerState) :
    Turn op state (step state op) := by
  rcases step_routes carries state with ⟨_, rebooked, _⟩ | ⟨_, admitted⟩
  · exact rebooked.beside.turn fun kind key _ _ => RelayOp.unsettled_of_carries carries kind key state
  · exact .placed target frame carries admitted.places

theorem disconnected_turn {node : String} (disconnects : op.disconnects = some node) (attended : before.Attended) :
    Turn op before (step before op) := by
  have unsettled : ∀ kind key, op.settles kind key before = none := by
    cases op <;> first | exact fun _ _ => rfl | cases disconnects
  have touches : ∀ key, key ∈ before.holdings.fleetKeys node → op.touches key := by
    intro key fleet
    rw [← (mem_fleetKeys.mp fleet).2] at disconnects
    cases op <;> first | exact disconnects | cases disconnects
  have dropped : ∀ {after}, Beside (dropConnection node before) after → Turn op before after := by
    intro after beside
    have replies : ∀ kind, (dropConnection node before).replies kind = before.replies kind :=
      PeerState.replies_eq rfl rfl
    exact .dropped _ ((dropConnection_lets node attended).beside beside)
      (fun kind => (beside.replies kind).trans (replies kind)) touches fun kind key _ _ => unsettled kind key
  have disconnected := step_disconnected disconnects before
  generalize step before op = after at disconnected ⊢
  cases disconnected with
  | kept => exact (Beside.refl before).turn fun kind key _ _ => unsettled kind key
  | dropped => exact dropped (.refl _)
  | told connected status stream found sent => exact dropped ⟨rfl, rfl, rfl, rfl⟩

theorem step_turn (attended : before.Attended) (op : RelayOp) : Turn op before (step before op) := by
  have quiet : ∀ {op : RelayOp} {after : PeerState}, (∀ kind key, op.settles kind key before = none) →
      Beside before after → Turn op before after :=
    fun unsettled beside => beside.turn fun kind key _ _ => unsettled kind key
  cases op with
  | registerNode nodeId =>
    exact quiet (fun _ _ => rfl) ⟨holdings_registerNode nodeId before, rfl, rfl, rfl⟩
  | connectNode nodeId => exact quiet (fun _ _ => rfl) ⟨rfl, rfl, rfl, rfl⟩
  | disconnectNode nodeId => exact disconnected_turn rfl attended
  | disconnectNodeIfCurrent nodeId generation => exact disconnected_turn rfl attended
  | disconnectNodeWithStatus nodeId status => exact disconnected_turn rfl attended
  | disconnectNodeWithStatusIfCurrent nodeId generation status => exact disconnected_turn rfl attended
  | routeFrame target frame => exact carried_turn rfl before
  | routeFrameWaitingForAck target frame => exact carried_turn rfl before
  | routeControl kind target frame => exact carried_turn rfl before
  | completeControl kind destination frameId result =>
    exact completeControl_turn kind destination frameId result attended
  | abandonFrame destination frameId =>
    refine .dropped _ (abandonFrame_lets destination frameId before) ?_ (fun _ => id) fun _ _ _ _ => rfl
    exact PeerState.replies_eq rfl rfl
  | ackFrame destination frameId => exact ackFrame_turn destination frameId attended
  | publishTaskFrame source destination taskId identityTask routedTask frame receipt => exact carried_turn rfl before
  | classifyPublishedTask source destination taskId task receipt =>
    exact quiet (fun _ _ => rfl) (classifyPublishedTask_rebooked source destination taskId task receipt before).beside
  | forgetPublishedTask source destination taskId frameId =>
    exact quiet (fun _ _ => rfl) (forgetPublishedTask_rebooked source destination taskId frameId before).beside
  | takeItem stream => exact quiet (fun _ _ => rfl) ⟨rfl, rfl, rfl, rfl⟩
  | closeStream stream => exact quiet (fun _ _ => rfl) ⟨rfl, rfl, rfl, rfl⟩

theorem PeerState.Numbered.fewer (numbered : before.Numbered)
    (fewer : ∀ kind key row, (after.waiters kind).find key = some row → (before.waiters kind).find key = some row)
    (opened : ∀ kind, after.opened kind = before.opened kind) : after.Numbered where
  bounded := by
    intro kind key row found
    rw [opened]
    exact numbered.bounded kind key row (fewer kind key row found)
  distinct := by
    intro first second key other row another family found foundToo same
    exact numbered.distinct first second key other row another family (fewer first key row found)
      (fewer second other another foundToo) same

theorem Lets.attended (lets : Lets gone before after) (attended : before.Attended)
    (replied : ∀ kind, ∀ reply ∈ after.replies kind, reply ∈ before.replies kind ∨
      ∃ other waiting row, other.isSome = kind.isSome ∧ (before.waiters other).find waiting = some row ∧ reply.1 = row.2) :
    after.Attended := by
  have fewer := fun kind key row found => ((lets.waiters kind key row).mp found).1
  have waited : ∀ kind key row, (after.waiters kind).find key = some row →
      ∃ frame ∈ after.mailbox key.1, frame.key = key.2 ∧ awaitable kind frame = true := by
    intro kind key row found
    obtain ⟨earlier, stays⟩ := (lets.waiters kind key row).mp found
    obtain ⟨frame, stored, keyed, waits⟩ := attended.waited earlier
    refine ⟨frame, (lets.mailbox key.1 frame).mpr ⟨stored, ?_⟩, keyed, waits⟩
    rw [keyed]
    exact stays
  have sound := attended.sound
  refine ⟨⟨?_, ?_, ?_, ?_, ?_, ?_, fun kind => waited (some kind)⟩, attended.numbered.fewer fewer lets.opened,
    waited none, ?_, ?_⟩
  · intro node frame stored
    obtain ⟨earlier, stays⟩ := (lets.mailbox node frame).mp stored
    exact (lets.owned _).mpr ⟨sound.owned node frame earlier, stays⟩
  · exact fun node => ((lets.sublist node).map RelayFrame.key).nodup (sound.distinct node)
  · exact fun node => (lets.sublist node).length_le.trans (sound.bounded node)
  · exact fun node frame stored => sound.named node frame ((lets.sublist node).subset stored)
  · exact fun node frame stored => sound.payload node frame ((lets.sublist node).subset stored)
  · intro key owned acknowledged
    obtain ⟨earlier, stays⟩ := (lets.owned key).mp owned
    exact (lets.acknowledged key acknowledged).elim (sound.unacknowledged key earlier) fun new => stays new.2
  · intro node frame stored fleet
    obtain ⟨earlier, stays⟩ := (lets.mailbox node frame).mp stored
    obtain ⟨row, found⟩ := attended.observed node frame earlier fleet
    exact ⟨row, (lets.waiters _ _ row).mpr ⟨found, stays⟩⟩
  · intro kind reply member
    rw [lets.opened]
    rcases replied kind reply member with earlier | ⟨other, waiting, row, family, found, same⟩
    · exact attended.replied kind reply earlier
    · have bound := attended.numbered.bounded other waiting row found
      rw [PeerState.opened_family family] at bound
      omega

namespace Placed
variable {waiting : FrameKey} {row : FrameKey × Nat} (placed : Placed op target frame before after)
include placed

theorem waits (found : (after.waiters kind).find waiting = some row) :
    (op.awaits = some kind ∧ waiting = (target, frame.key) ∧ row.2 = before.opened kind) ∨
      (before.waiters kind).find waiting = some row := by
  rw [placed.waiters] at found
  split at found
  · rename_i awaited
    rw [Table.find_put] at found
    split at found
    · rename_i same
      cases found
      exact .inl ⟨awaited, same, rfl⟩
    · exact .inr found
  · exact .inr found

theorem kept (attended : before.Attended) (found : (before.waiters kind).find waiting = some row) :
    (after.waiters kind).find waiting = some row := by
  rw [placed.waiters]
  split
  · refine (Table.find_put_ne _ ((target, frame.key), _) ?_).trans found
    rintro rfl
    exact placed.unowned (attended.waited_owned found)
  · exact found

theorem opened_le (kind : Option ControlKind) : before.opened kind ≤ after.opened kind := by
  rw [placed.opened]
  split
  · exact Nat.le_succ _
  · exact Nat.le_refl _

theorem numbered (numbered : before.Numbered) : after.Numbered where
  bounded := by
    intro other waiting row found
    rcases placed.waits found with ⟨awaited, _, number⟩ | earlier
    · rw [placed.opened, awaited, Option.map_some, if_pos rfl]
      omega
    · exact Nat.lt_of_lt_of_le (numbered.bounded other waiting row earlier) (placed.opened_le other)
  distinct := by
    intro first second waiting other row another family found foundToo same
    have fresh : ∀ {kind other : Option ControlKind} {key : FrameKey} {row : FrameKey × Nat},
        other.isSome = kind.isSome → (before.waiters other).find key = some row → row.2 ≠ before.opened kind := by
      intro kind other key row family found
      have bound := numbered.bounded other key row found
      rw [PeerState.opened_family family] at bound
      omega
    rcases placed.waits found with ⟨awaited, rfl, number⟩ | earlier
    · rcases placed.waits foundToo with ⟨awaitedToo, rfl, _⟩ | earlierToo
      · exact ⟨Option.some.inj (awaited.symm.trans awaitedToo), rfl⟩
      · exact absurd (same.symm.trans number) (fresh family.symm earlierToo)
    · rcases placed.waits foundToo with ⟨_, rfl, numberToo⟩ | earlierToo
      · exact absurd (same.trans numberToo) (fresh family earlier)
      · exact numbered.distinct first second waiting other row another family earlier earlierToo same

theorem stored_iff {node : String} {stored : RelayFrame} :
    stored ∈ after.mailbox node ↔ stored ∈ before.mailbox node ∨ node = target ∧ stored = frame := by
  rw [placed.mailbox]
  exact mem_update_append

theorem sound (attended : before.Attended) (controlled : ∀ kind key row,
    (after.controlWaiters kind).find key = some row →
      ∃ frame ∈ after.mailbox key.1, frame.key = key.2 ∧ ControlKind.fits kind frame = true) :
    after.holdings.Sound := by
  have sound := attended.sound
  have owned : after.holdings.owned = insert (target, frame.key) before.frameDestinations := placed.owned
  have acknowledged : after.holdings.acknowledged = before.acknowledgedFrames := placed.acknowledged
  have mailbox : after.holdings.mailbox =
      Function.update before.mailbox target (before.mailbox target ++ [frame]) := placed.mailbox
  refine ⟨?_, ?_, ?_, ?_, ?_, ?_, controlled⟩
  · intro node other member
    rw [owned]
    rcases placed.stored_iff.mp member with earlier | ⟨rfl, rfl⟩
    · exact Finset.mem_insert_of_mem (sound.owned node other earlier)
    · exact Finset.mem_insert_self _ _
  · intro node
    rw [mailbox]
    by_cases same : node = target
    · subst same
      rw [Function.update_self, List.map_append, List.map_singleton, List.nodup_append]
      refine ⟨sound.distinct node, List.nodup_singleton _, ?_⟩
      intro id member new equal
      obtain ⟨other, earlier, rfl⟩ := List.mem_map.mp member
      intro same
      apply placed.unowned
      rw [← List.mem_singleton.mp equal, ← same]
      exact sound.owned node other earlier
    · rw [Function.update_of_ne same]
      exact sound.distinct node
  · intro node
    rw [mailbox]
    by_cases same : node = target
    · subst same
      rw [Function.update_self, List.length_append, List.length_singleton]
      exact placed.room
    · rw [Function.update_of_ne same]
      exact sound.bounded node
  · intro node other member
    rcases placed.stored_iff.mp member with earlier | ⟨_, rfl⟩
    · exact sound.named node other earlier
    · exact placed.named
  · intro node other member
    rcases placed.stored_iff.mp member with earlier | ⟨_, rfl⟩
    · exact sound.payload node other earlier
    · exact placed.payload
  · intro key member
    rw [owned] at member
    rw [acknowledged]
    rcases Finset.mem_insert.mp member with rfl | earlier
    · exact placed.unacknowledged
    · exact sound.unacknowledged key earlier

theorem attended (attended : before.Attended) : after.Attended := by
  have waited : ∀ kind key row, (after.waiters kind).find key = some row →
      ∃ frame ∈ after.mailbox key.1, frame.key = key.2 ∧ awaitable kind frame = true := by
    intro kind key row found
    rcases placed.waits found with ⟨awaited, rfl, _⟩ | earlier
    · have suits := placed.suits
      rw [RelayOp.suits_awaited awaited] at suits
      exact ⟨frame, placed.stored_iff.mpr (.inr ⟨rfl, rfl⟩), rfl, suits⟩
    · obtain ⟨stored, member, keyed, waits⟩ := attended.waited earlier
      exact ⟨stored, placed.stored_iff.mpr (.inl member), keyed, waits⟩
  refine ⟨placed.sound attended fun kind => waited (some kind), placed.numbered attended.numbered, waited none, ?_, ?_⟩
  · intro node stored member fleet
    rcases placed.stored_iff.mp member with earlier | ⟨rfl, rfl⟩
    · obtain ⟨row, found⟩ := attended.observed node stored earlier fleet
      exact ⟨row, placed.kept attended found⟩
    · have awaits := RelayOp.suits_fleet placed.payload placed.suits fleet
      rw [placed.waiters, if_pos awaits]
      exact ⟨_, Table.find_put_self _ ((node, stored.key), _)⟩
  · intro kind reply member
    rw [PeerState.replies_eq placed.acknowledgements placed.completions] at member
    exact Nat.lt_of_lt_of_le (attended.replied kind reply member) (placed.opened_le kind)

end Placed

theorem empty_attended : PeerState.empty.Attended where
  sound := holdings_empty_sound
  numbered := by
    constructor
    · intro kind key row found
      cases kind <;> cases found
    · intro first second key other row another _ found
      cases first <;> cases found
  awaited := by
    intro key row found
    cases found
  observed := fun _ _ stored => absurd stored List.not_mem_nil
  replied := by
    intro kind reply member
    cases kind <;> cases member

theorem Turn.attended (turn : Turn op before after) (attended : before.Attended) : after.Attended := by
  cases turn with
  | placed target frame carries placed => exact placed.attended attended
  | dropped gone lets replies touches unsettled =>
    refine lets.attended attended ?_
    intro kind reply member
    rw [replies] at member
    exact .inl member
  | settled kind key row reply found lets replies touches settles others =>
    refine lets.attended attended ?_
    intro other sent member
    rw [replies] at member
    rcases List.mem_append.mp member with earlier | own
    · exact .inl earlier
    · split at own
      · rename_i family
        have same := List.mem_singleton.mp own
        exact .inr ⟨kind, key, row, family.symm, found, congrArg Prod.fst same⟩
      · cases own

theorem step_attended (attended : before.Attended) (op : RelayOp) : (step before op).Attended :=
  (step_turn attended op).attended attended

theorem run_attended (ops : List RelayOp) : (Run.run step PeerState.empty ops).Attended :=
  Run.always PeerState.Attended (fun _ op attended => step_attended attended op) empty_attended ops

end

end Keryx.Relay
