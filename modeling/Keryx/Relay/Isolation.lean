import Keryx.Relay.Calls

/-! Who can do what to whose frames, over all runs of the relay service. -/

namespace Keryx.Relay
open Keryx.Core Proto Relational Concurrent

def ServiceState.issuedIds (ids : FrameIds) (state : ServiceState) : List String :=
  (List.range state.issued).map ids.id

/-- A call that waits published the frame it owns, and is waited for where it listens. -/
structure ServiceState.Owns (ids : FrameIds) (tasks : List String) (state : ServiceState)
    (pending : PendingFrameOwnership) : Prop where
  untasked : pending.frameId ∉ tasks
  known : pending.frameId ∈ state.issuedIds ids
  own : ∀ frame ∈ state.relay.mailbox pending.destinationNodeId, frame.key = pending.frameId →
    frame.authenticatedSourceNodeId = pending.sourceNodeId
  attended : pending.progress = .waiting → pending.key ∈ state.relay.frameDestinations →
    (state.relay.waiters pending.awaited.kind).find pending.key = some (pending.key, pending.awaited.receiver)

structure ServiceState.Sound (ids : FrameIds) (tasks : List String) (state : ServiceState) : Prop where
  accounts : state.relay.Accounts (state.issuedIds ids) tasks
  known : tasks ⊆ state.issuedIds ids
  owns : ∀ pending ∈ state.pending, state.Owns ids tasks pending

section
variable {ids : FrameIds} {before after state : ServiceState} {event : ServiceEvent} {op : RelayOp}
  {tasks : List String} {brought : String → RelayFrame → Prop} {touched : FrameKey → Prop}

theorem empty_service_sound (ids : FrameIds) : ServiceState.empty.Sound ids [] where
  accounts := empty_accounts
  known := fun _ => id
  owns := fun _ member => absurd member List.not_mem_nil

theorem fresh_id (ids : FrameIds) (state : ServiceState) : ids.id state.issued ∉ state.issuedIds ids := by
  intro listed
  obtain ⟨number, member, same⟩ := List.mem_map.mp listed
  have earlier := List.mem_range.mp member
  have equal := ids.distinct same
  omega

theorem issuedIds_mono (more : before.issued ≤ after.issued) : before.issuedIds ids ⊆ after.issuedIds ids := by
  intro id listed
  obtain ⟨number, member, rfl⟩ := List.mem_map.mp listed
  have earlier := List.mem_range.mp member
  exact List.mem_map.mpr ⟨number, List.mem_range.mpr (by omega), rfl⟩

theorem ServiceState.Owns.not_closed {pending : PendingFrameOwnership} (owns : state.Owns ids tasks pending)
    (waiting : pending.progress = .waiting) (owned : pending.key ∈ state.relay.frameDestinations) :
    pending.awaited.closed state.relay = false := by
  have found := owns.attended waiting owned
  unfold Awaited.closed
  rw [Bool.not_eq_false', List.any_eq_true]
  exact ⟨_, Table.find_mem found, decide_eq_true rfl⟩

theorem ServiceState.Owns.remains {earlier later : PendingFrameOwnership} {more : List String}
    (owns : before.Owns ids tasks earlier) (remains : Remains before.relay earlier later)
    (confined : Confined brought touched before.relay after.relay)
    (fresh : ∀ node frame, brought node frame → frame.key ∉ before.issuedIds ids)
    (issued : before.issued ≤ after.issued) (untasked : earlier.frameId ∉ more) (sound : before.relay.holdings.Sound)
    (accounts : after.relay.Accounts (after.issuedIds ids) more) : after.Owns ids more later := by
  have sameId : later.frameId = earlier.frameId := congrArg Prod.snd remains.key
  have sameNode : later.destinationNodeId = earlier.destinationNodeId := congrArg Prod.fst remains.key
  have stored : ∀ frame ∈ after.relay.mailbox earlier.destinationNodeId, frame.key = earlier.frameId →
      frame ∈ before.relay.mailbox earlier.destinationNodeId := by
    intro frame stored keyed
    refine (confined.arrivals _ frame stored).resolve_right fun new => fresh _ frame new ?_
    rw [keyed]
    exact owns.known
  refine ⟨?_, ?_, ?_, ?_⟩
  · rw [sameId]
    exact untasked
  · rw [sameId]
    exact issuedIds_mono issued owns.known
  · intro frame member keyed
    rw [sameNode] at member
    rw [sameId] at keyed
    rw [remains.source]
    exact owns.own frame (stored frame member keyed) keyed
  · intro waiting owned
    rw [remains.key] at owned
    rw [remains.awaited, remains.key]
    -- What is owned is stored, and was so before unless it is new.
    obtain ⟨frame, member, keyed⟩ := accounts.stocked.stored earlier.key owned
    have ownedBefore := sound.owned _ frame (stored frame member keyed)
    rw [keyed] at ownedBefore
    exact confined.attended _ _ _ owned (owns.attended (remains.waiting waiting) ownedBefore)

theorem RelayOp.issues_carries {id : String} (issues : op.issues = some id) :
    ∃ target frame, op.carries = some (target, frame) ∧ frame.frameId = id := by
  cases op <;> cases issues <;> exact ⟨_, _, rfl, rfl⟩

theorem RelayOp.publishes_issued {id : String} (publishes : op.publishes = some id) : op.issues = some id := by
  cases op <;> cases publishes
  rfl

theorem Makes.touches (makes : Makes ids event op before after) (sound : before.Sound ids tasks) :
    ∀ key ∈ before.relay.frameDestinations, op.touches key → before.Touches event key := by
  intro key owned touches
  rcases makes.reaches key touches with reached | ⟨pending, member, waiting, closed, rfl⟩
  · exact reached
  · have live := (sound.owns pending member).not_closed waiting owned
    rw [closed] at live
    cases live

theorem Performs.confined (performs : Performs ids event before after) (sound : before.Sound ids tasks) :
    Confined (fun _ frame => event.Presents frame.authenticatedSourceNodeId) (before.Touches event) before.relay
      after.relay := by
  cases performs with
  | nothing relay keeps =>
    rw [relay]
    exact .refl _
  | call op more relay keeps publishes makes =>
    have accounts := sound.accounts
    rw [relay]
    refine (step_confined accounts.attended accounts.retained op (makes.touches sound)).mono ?_ (fun _ => id)
    exact fun node frame carries => (makes.brings node frame carries).2.2

theorem Makes.issues {id : String} (makes : Makes ids event op before after) (issues : op.issues = some id) :
    id ∉ before.issuedIds ids ∧ id ∈ after.issuedIds ids := by
  obtain ⟨target, frame, carries, rfl⟩ := RelayOp.issues_carries issues
  obtain ⟨named, later, _⟩ := makes.brings target frame carries
  rw [named]
  exact ⟨fresh_id ids before, List.mem_map_of_mem (List.mem_range.mpr later)⟩

theorem Makes.accounts (makes : Makes ids event op before after) (issued : before.issued ≤ after.issued)
    (sound : before.Sound ids tasks) :
    (step before.relay op).Accounts (after.issuedIds ids) (tasks ++ op.publishes.toList) := by
  have kept := step_accounts makes.served (fun _ issues => (makes.issues issues).1) sound.known ?_ sound.accounts
  · refine kept.more (List.append_subset.mpr ⟨issuedIds_mono issued, ?_⟩) (fun _ => id)
    exact fun id issues => (makes.issues (Option.mem_toList.mp issues)).2
  · intro destination frameId abandons
    obtain ⟨pending, member, rfl⟩ := makes.abandons destination frameId abandons
    exact (sound.owns pending member).untasked

theorem Publishes.owns {pending : PendingFrameOwnership} (publishes : Publishes op after.relay pending)
    (makes : Makes ids event op before after) (sound : before.Sound ids tasks)
    (confined : Confined (fun node frame => op.carries = some (node, frame)) touched before.relay after.relay) :
    after.Owns ids tasks pending := by
  obtain ⟨frame, carries, keyed, authentic⟩ := publishes.carries
  obtain ⟨named, later, _⟩ := makes.brings _ frame carries
  have fresh := fresh_id ids before
  rw [← issued_key named, keyed] at fresh
  refine ⟨fun task => fresh (sound.known task), ?_, ?_, fun _ _ => publishes.waits⟩
  · rw [← keyed, issued_key named]
    exact List.mem_map_of_mem (List.mem_range.mpr later)
  · intro stored member same
    rcases confined.arrivals _ stored member with old | new
    · have owned := sound.accounts.attended.sound.owned _ stored old
      have known := sound.accounts.stocked.ownedIssued _ owned
      rw [show (pending.destinationNodeId, stored.key).2 = pending.frameId from same] at known
      exact absurd known fresh
    · cases carries.symm.trans new
      exact authentic

theorem Performs.sound (performs : Performs ids event before after) (sound : before.Sound ids tasks) :
    ∃ tasks, after.Sound ids tasks := by
  have held := sound.accounts.attended.sound
  cases performs with
  | nothing relay keeps =>
    have more := @issuedIds_mono ids before after keeps.issued
    have same : Confined (fun _ _ => False) (fun _ => False) before.relay after.relay := by
      rw [relay]
      exact .refl _
    have accounts : after.relay.Accounts (after.issuedIds ids) tasks := by
      rw [relay]
      exact sound.accounts.more more (fun _ => id)
    refine ⟨tasks, accounts, fun _ task => more (sound.known task), ?_⟩
    intro later member
    obtain ⟨earlier, present, remains⟩ := (keeps.earlier later member).resolve_left List.not_mem_nil
    have owns := sound.owns earlier present
    exact owns.remains remains same (fun _ _ => False.elim) keeps.issued owns.untasked held accounts
  | call op more relay keeps publishes makes =>
    have confined := step_confined sound.accounts.attended sound.accounts.retained op (fun _ _ => id)
    have accounts := makes.accounts keeps.issued sound
    rw [← relay] at confined accounts
    refine ⟨tasks ++ op.publishes.toList, accounts, ?_, ?_⟩
    · refine List.append_subset.mpr ⟨fun id task => issuedIds_mono keeps.issued (sound.known task), ?_⟩
      intro id published
      exact (makes.issues (RelayOp.publishes_issued (Option.mem_toList.mp published))).2
    · intro later member
      rcases keeps.earlier later member with new | ⟨earlier, present, remains⟩
      · have publishing := publishes later new
        rw [publishing.unpublished, Option.toList_none, List.append_nil]
        exact publishing.owns makes sound confined
      · have owns := sound.owns earlier present
        refine owns.remains remains confined ?_ keeps.issued ?_ held accounts
        · intro node frame carries
          rw [issued_key (makes.brings node frame carries).1]
          exact fresh_id ids before
        · intro task
          rcases List.mem_append.mp task with old | published
          · exact owns.untasked old
          · exact (makes.issues (RelayOp.publishes_issued (Option.mem_toList.mp published))).1 owns.known

end

theorem run_service_sound (ids : FrameIds) (events : List ServiceEvent) :
    ∃ tasks, (Run.run (ServiceState.step ids) .empty events).Sound ids tasks := by
  refine Run.always (fun state : ServiceState => ∃ tasks, state.Sound ids tasks) ?_ ⟨[], empty_service_sound ids⟩ events
  rintro state event ⟨tasks, sound⟩
  exact (step_performs ids state event).sound sound

structure Isolated (ids : FrameIds) (before : ServiceState) (event : ServiceEvent) : Prop where
  authentic : ∀ node, ∀ frame ∈ (before.step ids event).relay.mailbox node, frame ∉ before.relay.mailbox node →
    event.Presents frame.authenticatedSourceNodeId
  spared : Confined (fun _ frame => event.Presents frame.authenticatedSourceNodeId) (before.Touches event) before.relay
    (before.step ids event).relay
  own : ∀ pending ∈ before.pending, ∀ frame ∈ before.relay.mailbox pending.destinationNodeId,
    frame.key = pending.frameId → frame.authenticatedSourceNodeId = pending.sourceNodeId

/-- A frame that is put into a mailbox names as its source the node whose token the call presented, all that belongs
to frames outside the reach of the call is left alone, and only its publisher gives a frame up. -/
theorem frames_are_authentic_and_isolated (ids : FrameIds) (events : List ServiceEvent) (event : ServiceEvent) :
    Isolated ids (Run.run (ServiceState.step ids) .empty events) event := by
  obtain ⟨tasks, sound⟩ := run_service_sound ids events
  have confined := (step_performs ids _ event).confined sound
  refine ⟨?_, confined, fun pending member => (sound.owns pending member).own⟩
  intro node frame stored new
  exact (confined.arrivals node frame stored).resolve_left new

end Keryx.Relay
