import Keryx.Relay.Step

/-! Which frames the relay owns, and what their payloads tell of those who wait for them. -/

namespace Keryx.Relay
open Keryx.Core Proto Relational Concurrent

/-- Every stored frame is owned for its node, once, and the waiter of a typed control stands for a stored frame. -/
structure Holdings.Sound (holdings : Holdings) : Prop where
  owned : ∀ node, ∀ frame ∈ holdings.mailbox node, (node, frame.key) ∈ holdings.owned
  distinct : ∀ node, ((holdings.mailbox node).map RelayFrame.key).Nodup
  bounded : ∀ node, (holdings.mailbox node).length ≤ maxTrackedFrames
  named : ∀ node, ∀ frame ∈ holdings.mailbox node, frame.key ≠ ""
  payload : ∀ node, ∀ frame ∈ holdings.mailbox node, frame.hasExactlyOneRelayPayload = true
  unacknowledged : ∀ key ∈ holdings.owned, key ∉ holdings.acknowledged
  controlled : ∀ kind key row, (holdings.control kind).find key = some row →
    ∃ frame ∈ holdings.mailbox key.1, frame.key = key.2 ∧ ControlKind.fits kind frame = true

theorem holdings_empty_sound : PeerState.empty.holdings.Sound where
  owned := fun _ _ stored => absurd stored List.not_mem_nil
  distinct := fun _ => List.nodup_nil
  bounded := fun _ => Nat.zero_le _
  named := fun _ _ stored => absurd stored List.not_mem_nil
  payload := fun _ _ stored => absurd stored List.not_mem_nil
  unacknowledged := fun key owned => absurd owned (Finset.notMem_empty key)
  controlled := fun _ _ _ found => by cases found

/-- A task or result to be acknowledged, or a control to be completed. -/
def awaitable : Option ControlKind → RelayFrame → Bool
  | none, frame => isGeneric frame
  | some kind, frame => kind.fits frame

section
variable {holdings : Holdings} {kind other : ControlKind} {frame : RelayFrame} {key : FrameKey}

theorem payloadCount_one (payload : frame.hasExactlyOneRelayPayload = true) : frame.payloadCount = 1 :=
  of_decide_eq_true payload

theorem ControlKind.fits_generic (fits : kind.fits frame = true) : frame.task = none ∧ frame.result = none := by
  cases kind <;> simp only [ControlKind.fits, decide_eq_true_eq, Option.isNone_iff_eq_none] at fits
  · exact ⟨fits.2.2.2.1, fits.2.2.2.2⟩
  · exact ⟨fits.2.2.2.1, fits.2.2.2.2⟩
  · exact ⟨fits.2.1, fits.2.2.1⟩

theorem ControlKind.fits_fleet (payload : frame.hasExactlyOneRelayPayload = true) (fits : kind.fits frame = true) :
    frame.fleetObservationPublishV1.isNone = true ↔ kind ≠ .fleetObservation := by
  have one := payloadCount_one payload
  unfold RelayFrame.payloadCount at one
  cases kind <;> simp only [ControlKind.fits, decide_eq_true_eq] at fits
  · obtain ⟨bound, _⟩ := fits
    cases published : frame.fleetObservationPublishV1 with
    | none => exact iff_of_true rfl (by decide)
    | some operation =>
      rw [published, Option.isSome_some, Bool.toNat_true] at one
      omega
  · obtain ⟨challenged, _⟩ := fits
    cases published : frame.fleetObservationPublishV1 with
    | none => exact iff_of_true rfl (by decide)
    | some operation =>
      rw [published, Option.isSome_some, Bool.toNat_true] at one
      omega
  · obtain ⟨published, _⟩ := fits
    rw [Option.isNone_eq_false_iff.mpr published]
    exact iff_of_false Bool.false_ne_true (fun different => different rfl)

theorem ControlKind.fits_unique (payload : frame.hasExactlyOneRelayPayload = true) (fits : kind.fits frame = true)
    (fitsToo : other.fits frame = true) : kind = other := by
  have fleet := (ControlKind.fits_fleet payload fits).symm.trans (ControlKind.fits_fleet payload fitsToo)
  cases kind <;> cases other <;> first | rfl | simp at fleet
  all_goals
    simp only [ControlKind.fits, decide_eq_true_eq, Option.isNone_iff_eq_none] at fits fitsToo
    rw [fits.2.1, fits.2.2.1] at fitsToo
    exact absurd fitsToo.1 (by decide)

theorem generic_no_fleet (payload : frame.hasExactlyOneRelayPayload = true) (generic : isGeneric frame = true) :
    ¬ frame.fleetObservationPublishV1.isSome := by
  intro observes
  have one := payloadCount_one payload
  unfold RelayFrame.payloadCount at one
  rw [observes, Bool.toNat_true] at one
  unfold isGeneric at generic
  rcases (Bool.or_eq_true _ _).mp generic with carries | carries <;>
    rw [carries, Bool.toNat_true] at one <;> omega

theorem ControlKind.fits_uncontrolled (fits : kind.fits frame = true) : isGeneric frame = false := by
  obtain ⟨noTask, noResult⟩ := ControlKind.fits_generic fits
  rw [isGeneric, noTask, noResult]
  rfl

theorem awaitable_unique {kind other : Option ControlKind} (payload : frame.hasExactlyOneRelayPayload = true)
    (waits : awaitable kind frame = true) (waitsToo : awaitable other frame = true) : kind = other := by
  cases kind with
  | none =>
    cases other with
    | none => rfl
    | some other => cases waits.symm.trans (ControlKind.fits_uncontrolled waitsToo)
  | some kind =>
    cases other with
    | none => cases waitsToo.symm.trans (ControlKind.fits_uncontrolled waits)
    | some other => rw [ControlKind.fits_unique payload waits waitsToo]

theorem awaitable_fleet {kind : Option ControlKind} (payload : frame.hasExactlyOneRelayPayload = true)
    (waits : awaitable kind frame = true) :
    frame.fleetObservationPublishV1.isSome = true ↔ kind = some .fleetObservation := by
  cases kind with
  | none => exact iff_of_false (generic_no_fleet payload waits) nofun
  | some kind =>
    have none := ControlKind.fits_fleet payload waits
    rw [← Option.not_isSome, Bool.not_eq_true', ← Bool.not_eq_true, not_iff_not] at none
    rw [none, Option.some.injEq]

theorem RelayOp.suits_awaited {op : RelayOp} {kind : Option ControlKind} (awaits : op.awaits = some kind) :
    op.suits frame = awaitable kind frame := by
  unfold RelayOp.suits
  rw [awaits]
  cases kind <;> rfl

theorem RelayOp.suits_fleet {op : RelayOp} (payload : frame.hasExactlyOneRelayPayload = true)
    (suits : op.suits frame = true) (fleet : frame.fleetObservationPublishV1.isSome = true) :
    op.awaits = some (some .fleetObservation) := by
  cases awaits : op.awaits with
  | none =>
    rw [RelayOp.suits, awaits] at suits
    exact absurd fleet (generic_no_fleet payload suits)
  | some kind =>
    rw [RelayOp.suits_awaited awaits] at suits
    rw [(awaitable_fleet payload suits).mp fleet]

variable {node : String}

theorem Holdings.Sound.frame_unique (sound : holdings.Sound) {first second : RelayFrame}
    (stored : first ∈ holdings.mailbox node) (storedToo : second ∈ holdings.mailbox node)
    (same : first.key = second.key) : first = second :=
  List.inj_on_of_nodup_map (sound.distinct node) stored storedToo same

variable {mailbox : String → List RelayFrame}

theorem mem_update_filter {node place : String} {condition : RelayFrame → Bool} :
    frame ∈ Function.update mailbox node ((mailbox node).filter condition) place ↔
      frame ∈ mailbox place ∧ (place = node → condition frame = true) := by
  by_cases same : place = node
  · subst same
    rw [Function.update_self, List.mem_filter]
    exact and_congr_right fun _ => ⟨fun holds _ => holds, fun holds => holds rfl⟩
  · rw [Function.update_of_ne same]
    exact ⟨fun stored => ⟨stored, fun equal => absurd equal same⟩, And.left⟩

theorem mem_update_append {node place : String} {new : RelayFrame} :
    frame ∈ Function.update mailbox node (mailbox node ++ [new]) place ↔
      frame ∈ mailbox place ∨ place = node ∧ frame = new := by
  by_cases same : place = node
  · subst same
    rw [Function.update_self, List.mem_append, List.mem_singleton]
    exact or_congr_right ⟨fun equal => ⟨rfl, equal⟩, And.right⟩
  · rw [Function.update_of_ne same]
    exact ⟨.inl, fun stored => stored.resolve_right fun placed => same placed.1⟩

theorem update_sublist {frames : List RelayFrame} (fewer : frames.Sublist (mailbox node)) (place : String) :
    (Function.update mailbox node frames place).Sublist (mailbox place) := by
  by_cases same : place = node
  · subst same
    rw [Function.update_self]
    exact fewer
  · rw [Function.update_of_ne same]

theorem mem_release {control : ControlKind → HashMap FrameKey Nat} :
    frame ∈ (holdings.release key control).mailbox node ↔ frame ∈ holdings.mailbox node ∧ (node, frame.key) ≠ key := by
  refine mem_update_filter.trans (and_congr_right fun _ => ?_)
  rw [decide_eq_true_eq, ne_eq, ne_eq, Prod.ext_iff, not_and]

theorem eraseP_key {frames : List RelayFrame} (distinct : (frames.map RelayFrame.key).Nodup) (id : String) :
    frames.eraseP (·.key = id) = frames.filter (·.key ≠ id) := by
  induction frames with
  | nil => rfl
  | cons frame frames ih =>
    obtain ⟨absent, rest⟩ := List.nodup_cons.mp distinct
    by_cases same : frame.key = id
    · rw [List.eraseP_cons_of_pos (by simp [same]), List.filter_cons_of_neg (by simp [same])]
      symm
      rw [List.filter_eq_self]
      intro other member
      refine decide_eq_true fun equal => absent ?_
      rw [same, ← equal]
      exact List.mem_map_of_mem member
    · rw [List.eraseP_cons_of_neg (by simp [same]), List.filter_cons_of_pos (by simp [same]), ih rest]

theorem mem_fleetKeys :
    key ∈ holdings.fleetKeys node ↔
      (∃ row, (holdings.control .fleetObservation).find key = some row) ∧ key.1 = node := by
  unfold Holdings.fleetKeys
  rw [List.mem_filter, List.mem_map, decide_eq_true_eq]
  refine and_congr_left fun _ => ⟨?_, ?_⟩
  · intro listed
    obtain ⟨row, member, rfl⟩ := listed
    exact ⟨row, Table.find_of_mem member⟩
  · intro found
    obtain ⟨row, found⟩ := found
    exact ⟨row, Table.find_mem found, Table.find_key found⟩

end

end Keryx.Relay
