import Keryx.Relay.Confinement

/-! Who is told what became of a frame: the waiters of the relay over whole runs of its calls. -/

namespace Keryx.Relay
open Keryx.Core Proto Relational Concurrent

def PeerState.received (state : PeerState) (kind : Option ControlKind) (waiter : Nat) :
    List (Option LocalTypedControlDispatch) :=
  ((state.replies kind).filter (·.1 = waiter)).map (·.2)

/-- The waiter that such a call installs. -/
def PeerState.receiver (state : PeerState) (target : String) (frame : RelayFrame) : Option ControlKind → Option Nat
  | none => (routeFrameWaitingForAck target frame state).1.2
  | some kind => (routeControlWaitingForCompletion kind target frame state).1.2

section
variable {before after : PeerState} {target : String} {frame : RelayFrame} {kind : Option ControlKind}
  {key : FrameKey} {waiter : Nat} {op : RelayOp} {gone : FrameKey → Prop}

/-- The waiter is in place and has been told nothing. -/
structure Waits (kind : Option ControlKind) (key : FrameKey) (waiter : Nat) (state : PeerState) : Prop where
  found : (state.waiters kind).find key = some (key, waiter)
  unanswered : state.received kind waiter = []

/-- The waiter has left with what it was told, and its number is not used again. -/
structure Left (kind : Option ControlKind) (key : FrameKey) (waiter : Nat)
    (told : List (Option LocalTypedControlDispatch)) (state : PeerState) : Prop where
  unowned : key ∉ state.frameDestinations
  used : waiter < state.opened kind
  free : ∀ other waiting row, other.isSome = kind.isSome → (state.waiters other).find waiting = some row → row.2 ≠ waiter
  received : state.received kind waiter = told

theorem PeerState.received_append {sent : List (Nat × Option LocalTypedControlDispatch)}
    (replies : after.replies kind = before.replies kind ++ sent) :
    after.received kind waiter = before.received kind waiter ++ (sent.filter (·.1 = waiter)).map (·.2) := by
  rw [PeerState.received, replies, List.filter_append, List.map_append]
  rfl

theorem PeerState.received_eq (replies : after.replies kind = before.replies kind) :
    after.received kind waiter = before.received kind waiter := by
  rw [PeerState.received, replies]
  rfl

theorem PeerState.received_other {other : Option ControlKind} {number : Nat} {reply : Option LocalTypedControlDispatch}
    (replies : after.replies kind = before.replies kind ++ if kind.isSome = other.isSome then [(number, reply)] else [])
    (apart : other.isSome = kind.isSome → number ≠ waiter) :
    after.received kind waiter = before.received kind waiter := by
  rw [received_append replies]
  split
  · rename_i family
    have different := apart family.symm
    rw [List.filter_cons_of_neg (by simp [different])]
    exact List.append_nil _
  · exact List.append_nil _

theorem Placed.received (placed : Placed op target frame before after) :
    after.received kind waiter = before.received kind waiter :=
  PeerState.received_eq (PeerState.replies_eq placed.acknowledgements placed.completions kind)

variable {told : List (Option LocalTypedControlDispatch)}

theorem Waits.leaves (waits : Waits kind key waiter before) (numbered : before.Numbered) (lets : Lets gone before after)
    (own : gone key) (received : after.received kind waiter = told) : Left kind key waiter told after := by
  refine ⟨fun owned => ((lets.owned key).mp owned).2 own, ?_, ?_, received⟩
  · rw [lets.opened]
    exact numbered.bounded kind key _ waits.found
  · intro other waiting row family found same
    obtain ⟨earlier, stays⟩ := (lets.waiters other waiting row).mp found
    obtain ⟨rfl, rfl⟩ := numbered.distinct other kind waiting key row _ family earlier waits.found same
    exact stays own

theorem Waits.turn (waits : Waits kind key waiter before) (attended : before.Attended) (turn : Turn op before after) :
    (op.settles kind key before = none ∧ Waits kind key waiter after) ∨
      Left kind key waiter (op.settles kind key before).toList after := by
  cases turn with
  | placed target frame carries placed =>
    exact .inl ⟨RelayOp.unsettled_of_carries carries kind key before, placed.kept attended waits.found,
      placed.received.trans waits.unanswered⟩
  | dropped gone lets replies touches unsettled =>
    have received : after.received kind waiter = [] := (PeerState.received_eq (replies kind)).trans waits.unanswered
    rw [unsettled kind key _ waits.found]
    by_cases own : gone key
    · exact .inr (waits.leaves attended.numbered lets own received)
    · exact .inl ⟨rfl, (lets.waiters kind key _).mpr ⟨waits.found, own⟩, received⟩
  | settled settledKind settledKey row reply found lets replies touches settles others =>
    by_cases own : key = settledKey
    · subst own
      obtain rfl := attended.one_kind waits.found found
      obtain rfl : (key, waiter) = row := Option.some.inj (waits.found.symm.trans found)
      rw [settles]
      refine .inr (waits.leaves attended.numbered lets rfl ?_)
      have sent := replies kind
      rw [if_pos rfl] at sent
      rw [PeerState.received_append sent, waits.unanswered, List.filter_cons_of_pos (by simp)]
      rfl
    · refine .inl ⟨others kind key fun same => own same.2, (lets.waiters kind key _).mpr ⟨waits.found, own⟩, ?_⟩
      refine (PeerState.received_other (replies kind) ?_).trans waits.unanswered
      intro family same
      exact own (attended.numbered.distinct settledKind kind settledKey key row _ family found waits.found same).2.symm

theorem Left.unsettled (left : Left kind key waiter told before)
    (op : RelayOp) : op.settles kind key before = none := by
  cases op with
  | ackFrame destination frameId => exact if_neg fun settled => left.unowned settled.2.2
  | completeControl control destination frameId result => exact if_neg fun settled => left.unowned settled.2.2
  | _ => rfl

theorem Left.lets (left : Left kind key waiter told before) (lets : Lets gone before after)
    (received : after.received kind waiter = before.received kind waiter) : Left kind key waiter told after := by
  refine ⟨fun owned => left.unowned ((lets.owned key).mp owned).1, ?_, ?_, received.trans left.received⟩
  · rw [lets.opened]
    exact left.used
  · intro other waiting row family found
    exact left.free other waiting row family ((lets.waiters other waiting row).mp found).1

theorem Left.turn (left : Left kind key waiter told before)
    (turn : Turn op before after) (fresh : op.brings ≠ some key) : Left kind key waiter told after := by
  cases turn with
  | placed target frame carries placed =>
    have used := left.used
    refine ⟨?_, Nat.lt_of_lt_of_le used (placed.opened_le kind), ?_, placed.received.trans left.received⟩
    · rw [placed.owned]
      intro owned
      rcases Finset.mem_insert.mp owned with rfl | earlier
      · exact fresh (RelayOp.brings_of_carries carries)
      · exact left.unowned earlier
    · intro other waiting row family found
      rcases placed.waits found with ⟨_, _, number⟩ | earlier
      · rw [PeerState.opened_family family] at number
        omega
      · exact left.free other waiting row family earlier
  | dropped gone lets replies touches unsettled => exact left.lets lets (PeerState.received_eq (replies kind))
  | settled settledKind settledKey row reply found lets replies touches settles others =>
    refine left.lets lets (PeerState.received_other (replies kind) ?_)
    intro family
    exact left.free settledKind settledKey row family found

theorem Left.run {later : List RelayOp} (attended : before.Attended)
    (left : Left kind key waiter told before) (fresh : ∀ op ∈ later, op.brings ≠ some key) :
    Left kind key waiter told (Run.run step before later) ∧
      Run.first step (fun state op => op.settles kind key state) before later = none := by
  induction later generalizing before with
  | nil => exact ⟨left, rfl⟩
  | cons op later ih =>
    obtain ⟨new, rest⟩ := List.forall_mem_cons.mp fresh
    obtain ⟨stays, none⟩ := ih (step_attended attended op) (left.turn (step_turn attended op) new) rest
    refine ⟨stays, ?_⟩
    rw [Run.first, left.unsettled op, none]
    rfl

theorem Waits.run {later : List RelayOp} (attended : before.Attended) (waits : Waits kind key waiter before)
    (fresh : ∀ op ∈ later, op.brings ≠ some key) :
    (Run.first step (fun state op => op.settles kind key state) before later = none ∧
        Waits kind key waiter (Run.run step before later)) ∨
      Left kind key waiter (Run.first step (fun state op => op.settles kind key state) before later).toList
        (Run.run step before later) := by
  induction later generalizing before with
  | nil => exact .inl ⟨rfl, waits⟩
  | cons op later ih =>
    obtain ⟨new, rest⟩ := List.forall_mem_cons.mp fresh
    have turn := step_turn attended op
    rw [Run.first]
    rcases waits.turn attended turn with ⟨unsettled, stays⟩ | left
    · rw [unsettled, Option.none_or]
      exact ih (step_attended attended op) stays rest
    · obtain ⟨gone, unsettled⟩ := left.run (step_attended attended op) rest
      rw [unsettled, Option.or_none]
      exact .inr gone

theorem Turn.replies_of_unsettled (turn : Turn op before after) (unsettled : ∀ kind key, op.settles kind key before = none)
    (kind : Option ControlKind) : after.replies kind = before.replies kind := by
  cases turn with
  | placed target frame carries placed => exact PeerState.replies_eq placed.acknowledgements placed.completions kind
  | dropped gone lets replies touches _ => exact replies kind
  | settled settledKind key row reply found lets replies touches settles others =>
    rw [unsettled] at settles
    cases settles

theorem receiver_waits (attended : before.Attended) (installed : before.receiver target frame kind = some waiter) :
    Waits kind (target, frame.key) waiter (step before (.awaiting kind target frame)) := by
  have placed : waiter = before.opened kind ∧
      ((step before (.awaiting kind target frame)).waiters kind).find (target, frame.key) =
        some ((target, frame.key), waiter) := by
    rw [step_awaiting]
    apply routeAwaited_places
    cases kind <;> exact installed
  have turn := step_turn attended (.awaiting kind target frame)
  have replies := turn.replies_of_unsettled (fun other key => by cases kind <;> rfl) kind
  refine ⟨placed.2, (PeerState.received_eq replies).trans ?_⟩
  rw [PeerState.received, List.map_eq_nil_iff, List.filter_eq_nil_iff]
  intro reply member same
  have bound := attended.replied kind reply member
  rw [decide_eq_true_eq] at same
  omega

/-- The calls that are not the destination's answer to a control. -/
def RelayOp.strange (control : ControlKind) (key : FrameKey) : RelayOp → Prop
  | .ackFrame _ _ => True
  | .completeControl other destination frameId _ => other ≠ control ∨ (trim destination, trim frameId) ≠ key
  | _ => False

theorem strange_unsettled {control : ControlKind} (state : PeerState) (strange : op.strange control key) :
    op.settles (some control) key state = none := by
  cases op with
  | ackFrame destination frameId => rfl
  | completeControl other destination frameId result =>
    refine if_neg fun settled => ?_
    have presented := (presents_iff.mp settled.2.1).2
    exact strange.elim (fun different => different (Option.some.inj settled.1).symm) (· presented)
  | _ => exact strange.elim

/-- The frame stays where it is, and so does its ownership. -/
structure Spared (node : String) (frame : RelayFrame) (before after : PeerState) : Prop where
  stored : frame ∈ before.mailbox node → frame ∈ after.mailbox node
  owned : (node, frame.key) ∈ before.frameDestinations → (node, frame.key) ∈ after.frameDestinations

theorem Lets.spares (lets : Lets gone before after) (stays : ¬ gone (target, frame.key)) :
    Spared target frame before after where
  stored := fun stored => (lets.mailbox target frame).mpr ⟨stored, stays⟩
  owned := fun owned => (lets.owned _).mpr ⟨owned, stays⟩

theorem strange_spares {control : ControlKind} (attended : before.Attended)
    (waits : Waits (some control) (target, frame.key) waiter before) (strange : op.strange control (target, frame.key)) :
    Spared target frame before (step before op) := by
  cases op with
  | ackFrame destination frameId =>
    show Spared target frame before (ackFrame destination frameId before).2
    rcases ackFrame_cases destination frameId before with unchanged | ⟨free, owned, accepted⟩
    · rw [unchanged]
      exact ⟨id, id⟩
    · rw [accepted]
      apply (acknowledgeFrame_lets free owned attended.sound).spares
      intro same
      have found : (before.controlWaiters control).find (target, frame.key) = _ := waits.found
      rw [same, free control] at found
      cases found
  | completeControl other destination frameId result =>
    show Spared target frame before (completeControl other destination frameId result before).2
    rcases completeControl_cases other destination frameId result attended.sound with unchanged | ⟨row, found, settled⟩
    · rw [unchanged]
      exact ⟨id, id⟩
    · rw [settled]
      apply (settleControl_lets result found attended).spares
      intro same
      rw [← same] at found
      have foundToo : (before.waiters (some other)).find (target, frame.key) = some row := found
      have kinds := attended.one_kind foundToo waits.found
      exact strange.elim (fun different => different (Option.some.inj kinds)) fun different => different same.symm
  | _ => exact strange.elim

/-- The result of a control is told to its waiter once, by the destination's first completion of that kind while the
frame is owned, and an acknowledgement likewise. -/
theorem waiters_settle_once (kind : Option ControlKind) (target : String) (frame : RelayFrame) (waiter : Nat)
    (earlier later : List RelayOp)
    (installed : (Run.run step PeerState.empty earlier).receiver target frame kind = some waiter)
    (fresh : ∀ op ∈ later, op.brings ≠ some (target, frame.key)) :
    let routed := Run.run step PeerState.empty (earlier ++ [.awaiting kind target frame])
    let state := Run.run step routed later
    state.received kind waiter =
        (Run.first step (fun state op => op.settles kind (target, frame.key) state) routed later).toList ∧
      ∀ control, kind = some control → ∀ op : RelayOp, op.strange control (target, frame.key) →
        (step state op).received kind waiter = state.received kind waiter ∧ Spared target frame state (step state op) := by
  intro routed state
  have attended : routed.Attended := run_attended _
  have waits : Waits kind (target, frame.key) waiter routed := by
    show Waits kind (target, frame.key) waiter (Run.run step PeerState.empty (earlier ++ [_]))
    rw [Run.run_append]
    exact receiver_waits (run_attended earlier) installed
  have reached : state.Attended := by
    show (Run.run step (Run.run step PeerState.empty _) later).Attended
    rw [← Run.run_append]
    exact run_attended _
  have outcome := waits.run attended fresh
  constructor
  · rcases outcome with ⟨unsettled, stays⟩ | left
    · rw [unsettled]
      exact stays.unanswered
    · exact left.received
  · intro control same op strange
    subst same
    have turn := step_turn reached op
    rcases outcome with ⟨_, stays⟩ | left
    · refine ⟨?_, strange_spares reached stays strange⟩
      rw [stays.unanswered]
      rcases stays.turn reached turn with ⟨_, after⟩ | gone
      · exact after.unanswered
      · rw [strange_unsettled state strange] at gone
        exact gone.received
    · have fresh : op.brings ≠ some (target, frame.key) := by
        cases op with
        | ackFrame destination frameId => nofun
        | completeControl other destination frameId result => nofun
        | _ => exact strange.elim
      refine ⟨(left.turn turn fresh).received.trans left.received.symm, ?_, ?_⟩
      · intro stored
        exact absurd (reached.sound.owned target frame stored) left.unowned
      · intro owned
        exact absurd owned left.unowned

end

def bindFrame : RelayFrame where
  frameId := "relay-frame-3"
  nodescaleIdentityBindV1 := some ⟨"operation-1", "network-1", "device-1", "join-1", "nonce-1", 1, "1.0.0"⟩
  authenticatedSourceNodeId := "origin"
  destinationNodeId := "edge"

def boundResult (revision : UInt64) : LocalTypedControlDispatch := .bind ⟨1, true, "binding-1", 1, revision, "", ""⟩

def answeredTwice : List RelayOp :=
  [.ackFrame "edge" "relay-frame-3", .completeControl .bind "origin" "relay-frame-3" (boundResult 1),
    .completeControl .bind "edge" "relay-frame-3" (boundResult 2),
    .completeControl .bind "edge" "relay-frame-3" (boundResult 3)]

theorem bind_waiter_told_once :
    (Run.run step PeerState.empty (.routeControl .bind "edge" bindFrame :: answeredTwice)).received (some .bind) 0 =
      [some (boundResult 2)] := by
  have told := (waiters_settle_once (some .bind) "edge" bindFrame 0 [] answeredTwice (by decide) (by decide)).1
  exact told.trans (by decide)

end Keryx.Relay
