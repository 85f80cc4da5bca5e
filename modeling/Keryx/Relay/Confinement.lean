import Keryx.Relay.Service

/-! Which frames a call on the relay may bring, and which it may touch. -/

namespace Keryx.Relay
open Keryx.Core Proto Relational Concurrent

/-- A record that is acknowledged was so before, unless its frame is touched. -/
def Records (touched : FrameKey → Prop) (before after : PeerState) : Prop :=
  ∀ taskKey row, after.publishedTasks.find taskKey = some row → row.2.acknowledged = true →
    ¬ touched (publishedFrame row) → before.publishedTasks.find taskKey = some row

/-- Only the frames brought arrive, and all that is not touched stays: its frame, its owner and its waiters. -/
structure Confined (brought : String → RelayFrame → Prop) (touched : FrameKey → Prop) (before after : PeerState) :
    Prop where
  arrivals : ∀ node frame, frame ∈ after.mailbox node → frame ∈ before.mailbox node ∨ brought node frame
  stored : ∀ node frame, frame ∈ before.mailbox node → ¬ touched (node, frame.key) → frame ∈ after.mailbox node
  owned : ∀ key ∈ before.frameDestinations, ¬ touched key → key ∈ after.frameDestinations
  acknowledged : ∀ key ∈ after.acknowledgedFrames, ¬ touched key → key ∈ before.acknowledgedFrames
  published : Records touched before after
  waits : ∀ kind key row, (before.waiters kind).find key = some row → ¬ touched key →
    (after.waiters kind).find key = some row
  unanswered : ∀ kind key row, (before.waiters kind).find key = some row → ¬ touched key →
    row.2 ∈ after.answers kind → row.2 ∈ before.answers kind
  attended : ∀ kind key row, key ∈ after.frameDestinations → (before.waiters kind).find key = some row →
    (after.waiters kind).find key = some row

section
variable {before after : PeerState} {brought : String → RelayFrame → Prop} {touched gone : FrameKey → Prop}
  {op : RelayOp} {kind : Option ControlKind} {key : FrameKey}

theorem Confined.mono (confined : Confined brought touched before after) {broughtToo : String → RelayFrame → Prop}
    {touchedToo : FrameKey → Prop} (brings : ∀ node frame, brought node frame → broughtToo node frame)
    (touches : ∀ key, touched key → touchedToo key) : Confined broughtToo touchedToo before after where
  arrivals := fun node frame stored => (confined.arrivals node frame stored).imp_right (brings node frame)
  stored := fun node frame stored apart => confined.stored node frame stored fun touch => apart (touches _ touch)
  owned := fun key owned apart => confined.owned key owned fun touch => apart (touches _ touch)
  acknowledged := fun key member apart => confined.acknowledged key member fun touch => apart (touches _ touch)
  published := fun taskKey row found acknowledged apart =>
    confined.published taskKey row found acknowledged fun touch => apart (touches _ touch)
  waits := fun kind key row found apart => confined.waits kind key row found fun touch => apart (touches _ touch)
  unanswered := fun kind key row found apart =>
    confined.unanswered kind key row found fun touch => apart (touches _ touch)
  attended := confined.attended

theorem PeerState.answers_replies (state : PeerState) (kind : Option ControlKind) :
    state.answers kind = (state.replies kind).map Prod.fst := by
  cases kind with
  | none =>
    rw [PeerState.replies, List.map_map]
    rfl
  | some kind =>
    rw [PeerState.replies, List.map_map]
    rfl

theorem Lets.confined (lets : Lets gone before after) (attended : before.Attended)
    (touches : ∀ key ∈ before.frameDestinations, gone key → touched key) (published : Records touched before after)
    (unanswered : ∀ kind key row, (before.waiters kind).find key = some row → ¬ gone key →
      row.2 ∈ after.answers kind → row.2 ∈ before.answers kind) : Confined brought touched before after where
  arrivals := fun node frame stored => .inl ((lets.mailbox node frame).mp stored).1
  stored := fun node frame stored apart => (lets.mailbox node frame).mpr
    ⟨stored, fun left => apart (touches _ (attended.sound.owned node frame stored) left)⟩
  owned := fun key owned apart => (lets.owned key).mpr ⟨owned, fun left => apart (touches key owned left)⟩
  acknowledged := fun key member apart =>
    (lets.acknowledged key member).resolve_right fun new => apart (touches key new.1 new.2)
  published := published
  waits := fun kind key row found apart => (lets.waiters kind key row).mpr
    ⟨found, fun left => apart (touches key (attended.waited_owned found) left)⟩
  unanswered := fun kind key row found apart => unanswered kind key row found fun left =>
    apart (touches key (attended.waited_owned found) left)
  attended := fun kind key row owned found => (lets.waiters kind key row).mpr ⟨found, ((lets.owned key).mp owned).2⟩

theorem Confined.refl (state : PeerState) : Confined brought touched state state where
  arrivals := fun _ _ => .inl
  stored := fun _ _ stored _ => stored
  owned := fun _ owned _ => owned
  acknowledged := fun _ member _ => member
  published := fun _ _ found _ _ => found
  waits := fun _ _ _ found _ => found
  unanswered := fun _ _ _ _ _ answered => answered
  attended := fun _ _ _ _ found => found

theorem Placed.confined {target : String} {frame : RelayFrame} (placed : Placed op target frame before after)
    (attended : before.Attended) (published : Records touched before after) :
    Confined (fun node new => node = target ∧ new = frame) touched before after where
  arrivals := fun node stored member => placed.stored_iff.mp member
  stored := fun node stored member _ => placed.stored_iff.mpr (.inl member)
  owned := by
    intro key earlier _
    rw [placed.owned]
    exact Finset.mem_insert_of_mem earlier
  acknowledged := by
    intro key member _
    rw [placed.acknowledged] at member
    exact member
  published := published
  waits := fun kind key row found _ => placed.kept attended found
  unanswered := by
    intro kind key row _ _ answered
    rw [PeerState.answers_replies, PeerState.replies_eq placed.acknowledgements placed.completions,
      ← PeerState.answers_replies] at answered
    exact answered
  attended := fun kind key row _ found => placed.kept attended found

theorem Turn.confined (turn : Turn op before after) (attended : before.Attended)
    (touches : ∀ key ∈ before.frameDestinations, op.touches key → touched key)
    (published : Records touched before after) :
    Confined (fun node frame => op.carries = some (node, frame)) touched before after := by
  cases turn with
  | placed target frame carries placed =>
    refine (placed.confined attended published).mono ?_ (fun _ => id)
    rintro node new ⟨rfl, rfl⟩
    exact carries
  | dropped gone lets replies taken unsettled =>
    refine lets.confined attended (fun key owned left => touches key owned (taken key left)) published ?_
    intro kind key row _ _ answered
    rw [PeerState.answers_replies, replies, ← PeerState.answers_replies] at answered
    exact answered
  | settled settledKind key row reply found lets replies taken settles others =>
    refine lets.confined attended ?_ published ?_
    · rintro other owned rfl
      exact touches other owned taken
    · intro kind waiting waiter waits apart answered
      rw [PeerState.answers_replies, replies, List.map_append, List.mem_append, ← PeerState.answers_replies] at answered
      refine answered.resolve_right ?_
      intro own
      split at own
      · rename_i family
        have same : waiter.2 = row.2 := List.mem_singleton.mp own
        exact apart (attended.numbered.distinct kind settledKind waiting key waiter row family waits found same).2
      · cases own

theorem Entry.confined {book : TaskBook} {taskKey : TaskPublishKey} {row : TaskPublishKey × PublishedTaskRecord}
    (entry : Entry op before book) (found : book.published.find taskKey = some row)
    (acknowledged : row.2.acknowledged = true)
    (touches : ∀ key ∈ before.frameDestinations, op.touches key → touched key) (apart : ¬ touched (publishedFrame row)) :
    before.publishedTasks.find taskKey = some row := by
  cases entry with
  | kept => exact found
  | admitted newKey envelope receipt registers given absent room =>
    change (before.publishedTasks.put (newKey, _)).find taskKey = some row at found
    rw [Table.find_put] at found
    split at found
    · cases found
      cases acknowledged
    · exact found
  | replaced other order newKey envelope receipt registers given absent full oldest present marked =>
    change ((before.book.remove other).published.put (newKey, _)).find taskKey = some row at found
    rw [Table.find_put] at found
    split at found
    · cases found
      cases acknowledged
    · exact (Table.find_keep_some.mp found).1
  | acknowledged destination frameId other acks accepted owned present carried unacknowledged =>
    change (before.publishedTasks.put (other.1, { other.2 with acknowledged := true })).find taskKey = some row at found
    rw [Table.find_put] at found
    split at found
    · cases found
      subst acks
      refine absurd (touches _ ?_ carried) apart
      rw [carried]
      exact owned
    · exact found
  | forgotten other forgets present unacknowledged unowned => exact (Table.find_keep_some.mp found).1

theorem step_confined (attended : before.Attended) (retained : before.book.Retained) (op : RelayOp)
    (touches : ∀ key ∈ before.frameDestinations, op.touches key → touched key) :
    Confined (fun node frame => op.carries = some (node, frame)) touched before (step before op) :=
  (step_turn attended op).confined attended touches fun _ _ found acknowledged apart =>
    (step_entry retained op).confined found acknowledged touches apart

end

end Keryx.Relay
