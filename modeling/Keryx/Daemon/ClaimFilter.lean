import Mathlib.Data.Finset.Basic
import Keryx.Daemon.Dispatch

/-! The filters a worker claims with, and the capabilities a routing policy keeps from it. -/

namespace Keryx.Daemon
open Keryx.Core Store Proto Relational Session

def normalizedFilterSet (values : List String) : Finset String := ((values.map trim).filter (· ≠ "")).toFinset

def metadataValues (envelope : TaskEnvelope) (keys : List String) : List String :=
  (((keys.filterMap envelope.metadata.find).flatMap fun entry =>
    (entry.2.toList.splitOn ',').map String.ofList).map trim).filter (· ≠ "")

def metadataMatchesAny (envelope : TaskEnvelope) (keys : List String) (accepted : Finset String) : Bool :=
  accepted = ∅ || (metadataValues envelope keys).any (· ∈ accepted)

def skillKeys : List String := ["skill", "skill_id", "target_skill_id", "skills"]

def capabilityKeys : List String := ["capability", "capability_id", "target_capability_id", "capabilities"]

def envelopeMatchesClaimFilters (envelope : TaskEnvelope) (acceptedSkillIds acceptedCapabilityIds : Finset String) :
    Bool :=
  metadataMatchesAny envelope skillKeys acceptedSkillIds &&
    metadataMatchesAny envelope capabilityKeys acceptedCapabilityIds

section
variable {envelope : TaskEnvelope} {keys : List String} {capability : String}

theorem metadataMatchesAny_singleton :
    metadataMatchesAny envelope keys {capability} = true ↔ capability ∈ metadataValues envelope keys := by
  unfold metadataMatchesAny
  rw [Bool.or_eq_true, List.any_eq_true]
  constructor
  · rintro (none | ⟨value, listed, accepted⟩)
    · exact absurd (of_decide_eq_true none) (Finset.singleton_ne_empty _)
    · cases Finset.mem_singleton.mp (of_decide_eq_true accepted)
      exact listed
  · intro listed
    exact .inr ⟨capability, listed, decide_eq_true (Finset.mem_singleton_self _)⟩

theorem metadataMatchesAny_empty : metadataMatchesAny envelope keys ∅ = true := rfl

theorem normalizedFilterSet_listed (listed : capability ∈ metadataValues envelope keys) :
    ∃ values, normalizedFilterSet values = {capability} := by
  unfold metadataValues at listed
  obtain ⟨member, present⟩ := List.mem_filter.mp listed
  obtain ⟨value, _, rfl⟩ := List.mem_map.mp member
  refine ⟨[value], ?_⟩
  unfold normalizedFilterSet
  have kept : ([value].map trim).filter (· ≠ "") = [trim value] := by
    rw [List.map_singleton]
    exact List.filter_cons_of_pos present
  rw [kept]
  rfl

end

def RoutingPolicy.Restricts (policy : RoutingPolicy) (capability : String) : Prop :=
  ∃ permission, policy.capabilityPermissions.find capability = some (capability, permission) ∧ permission ≠ .allow

/-- A request with this envelope is sent on by the daemon, to the local peer or over the relay. -/
def Routes (runtime : RoutingRuntime) (envelope : TaskEnvelope) : Prop :=
  ∃ authorization order nowMs request state response after, request.envelope = some envelope ∧
    sendTask runtime authorization order nowMs request state = (.ok response, after) ∧
    response.deliveryRoute ≠ DeliveryRoute.awaitingApproval.asStr

def OnlyAccepts (capability : String) (acceptedSkillIds acceptedCapabilityIds : List String) : Prop :=
  normalizedFilterSet acceptedSkillIds = {capability} ∨ normalizedFilterSet acceptedCapabilityIds = {capability}

def Lists (envelope : TaskEnvelope) (capability : String) : Prop :=
  capability ∈ metadataValues envelope skillKeys ∨ capability ∈ metadataValues envelope capabilityKeys

section
variable {envelope : TaskEnvelope} {capability : String}

theorem lists_iff_matches :
    Lists envelope capability ↔ ∃ skills capabilities, OnlyAccepts capability skills capabilities ∧
      envelopeMatchesClaimFilters envelope (normalizedFilterSet skills) (normalizedFilterSet capabilities) = true := by
  unfold envelopeMatchesClaimFilters
  simp only [Bool.and_eq_true]
  constructor
  · rintro (listed | listed)
    · obtain ⟨values, only⟩ := normalizedFilterSet_listed listed
      refine ⟨values, [], .inl only, ?_, metadataMatchesAny_empty⟩
      rw [only]
      exact metadataMatchesAny_singleton.mpr listed
    · obtain ⟨values, only⟩ := normalizedFilterSet_listed listed
      refine ⟨[], values, .inr only, metadataMatchesAny_empty, ?_⟩
      rw [only]
      exact metadataMatchesAny_singleton.mpr listed
  · rintro ⟨skills, capabilities, only | only, skilled, capable⟩
    · rw [only] at skilled
      exact .inl (metadataMatchesAny_singleton.mp skilled)
    · rw [only] at capable
      exact .inr (metadataMatchesAny_singleton.mp capable)

theorem evaluate_allow {policy : RoutingPolicy} :
    (policy.evaluate envelope).permission = .allow ↔
      (((envelopeCapabilityId envelope).bind policy.capabilityPermissions.find).map Prod.snd).getD
        policy.defaultPermission = .allow := by
  unfold RoutingPolicy.evaluate
  simp only
  split
  · rename_i allowed
    exact ⟨fun _ => allowed, fun _ => rfl⟩
  · rename_i denied
    rw [denied]
  · rename_i waits
    rw [waits]

theorem Routes.allowed {runtime : RoutingRuntime} (routes : Routes runtime envelope) :
    (runtime.router.policy.evaluate envelope).permission = .allow := by
  obtain ⟨_, _, _, request, _, _, _, given, success, routed⟩ := routes
  obtain ⟨_, sent, targetPeerId, outcome, asked, _, success, rfl⟩ := sendTask_ok.mp success
  cases given.symm.trans (sendSubmission_ok.mp asked).1
  simp only [TaskRouter.sendTask, attempt_bind_ok, amend_bind] at success
  obtain ⟨taskId, _, deadlineMs, _, success⟩ := success
  cases permission : (runtime.router.policy.evaluate envelope).permission with
  | allow => rfl
  | deny =>
    rw [permission] at success
    cases success
  | approvalRequired =>
    rw [permission] at success
    cases success
    exact absurd rfl routed

def RoutingRuntime.withPolicy (runtime : RoutingRuntime) (policy : RoutingPolicy) : RoutingRuntime :=
  { runtime with router := { runtime.router with policy } }

theorem Routes.withPolicy {runtime : RoutingRuntime} {policy : RoutingPolicy} (routes : Routes runtime envelope)
    (allowed : (policy.evaluate envelope).permission = .allow) : Routes (runtime.withPolicy policy) envelope := by
  have before := routes.allowed
  obtain ⟨authorization, order, nowMs, request, state, response, after, given, success, routed⟩ := routes
  obtain ⟨entered, sent, targetPeerId, outcome, asked, room, success, rfl⟩ := sendTask_ok.mp success
  cases given.symm.trans (sendSubmission_ok.mp asked).1
  -- The two decisions have the same parts, so the whole call is the same.
  have decision : ∀ {policy : RoutingPolicy}, (policy.evaluate envelope).permission = .allow →
      policy.evaluate envelope = ⟨.allow, envelopeCapabilityId envelope, "capability allowed by routing policy"⟩ := by
    intro policy allowed
    unfold RoutingPolicy.evaluate
    simp only [evaluate_allow.mp allowed]
  have same : (runtime.withPolicy policy).router.sendTask order nowMs targetPeerId envelope request.timeoutMs.toInt state =
      runtime.router.sendTask order nowMs targetPeerId envelope request.timeoutMs.toInt state := by
    unfold TaskRouter.sendTask
    rw [decision before]
    show (attempt (parseEnvelopeTaskId envelope) >>= _) state = _
    rw [show (runtime.withPolicy policy).router.policy.evaluate envelope = _ from decision allowed]
    rfl
  refine ⟨authorization, order, nowMs, request, state, sendTaskResponse outcome, after, given, ?_, routed⟩
  exact sendTask_ok.mpr ⟨entered, envelope, targetPeerId, outcome, asked, room, same.trans success, rfl⟩

end

def RoutingPolicy.denying (capability : String) : RoutingPolicy where
  defaultPermission := .allow
  capabilityPermissions := Table.empty.put (capability, .deny)

/-- A restricted capability is kept from the workers that ask for it alone exactly if the envelope is never sent on or
the policy reads this capability whenever a filter does. -/
theorem restricted_capability_unclaimable_iff (envelope : TaskEnvelope) (capability : String) :
    (∀ runtime : RoutingRuntime, runtime.router.policy.defaultPermission = .allow →
      runtime.router.policy.Restricts capability → Routes runtime envelope →
      ∀ skills capabilities, OnlyAccepts capability skills capabilities →
        envelopeMatchesClaimFilters envelope (normalizedFilterSet skills) (normalizedFilterSet capabilities) = false) ↔
      ((∃ runtime, Routes runtime envelope) → Lists envelope capability →
        envelopeCapabilityId envelope = some capability) := by
  constructor
  · rintro kept ⟨runtime, routes⟩ listed
    by_contra overlooked
    obtain ⟨skills, capabilities, only, found⟩ := lists_iff_matches.mp listed
    have allowed : ((RoutingPolicy.denying capability).evaluate envelope).permission = .allow := by
      rw [evaluate_allow]
      cases read : envelopeCapabilityId envelope with
      | none => rfl
      | some other =>
        have different : other ≠ capability := by
          intro same
          exact overlooked (read.trans (congrArg some same))
        rw [Option.bind_some]
        show ((Table.find (Table.put Table.empty (capability, RoutingPolicyPermission.deny)) other).map _).getD _ = _
        rw [Table.find_put_ne _ _ different]
        rfl
    have missed := kept (runtime.withPolicy (.denying capability)) rfl
      ⟨.deny, Table.find_put_self _ _, by decide⟩ (routes.withPolicy allowed) skills capabilities only
    rw [found] at missed
    cases missed
  · intro reads runtime _ restricts routes skills capabilities only
    obtain ⟨permission, found, restricted⟩ := restricts
    rw [← Bool.not_eq_true]
    intro accepted
    have listed := lists_iff_matches.mpr ⟨skills, capabilities, only, accepted⟩
    have allowed := evaluate_allow.mp routes.allowed
    rw [reads ⟨runtime, routes⟩ listed, Option.bind_some, found] at allowed
    exact restricted allowed

/-- One capability under the key the policy reads first and another under a later key. -/
def disguisedEnvelope : TaskEnvelope :=
  { sampleEnvelope with metadata := (Table.empty.put ("capability_id", "echo")).put ("capability", "shell") }

theorem denied_capability_claimable :
    ¬ ∀ (envelope : TaskEnvelope) (capability : String) (runtime : RoutingRuntime),
      runtime.router.policy.defaultPermission = .allow → runtime.router.policy.Restricts capability →
      Routes runtime envelope → ∀ skills capabilities, OnlyAccepts capability skills capabilities →
        envelopeMatchesClaimFilters envelope (normalizedFilterSet skills) (normalizedFilterSet capabilities) = false := by
  intro every
  have routes : Routes (relayNode.withPolicy (.denying "shell")) disguisedEnvelope :=
    ⟨none, .unchanged, 1, { sentTask "origin" with envelope := some disguisedEnvelope }, emptyNode, _, _, rfl, rfl,
      by decide⟩
  have hidden := every disguisedEnvelope "shell" (relayNode.withPolicy (.denying "shell")) rfl
    ⟨.deny, rfl, by decide⟩ routes [] ["shell"] (.inr (by decide))
  have found : envelopeMatchesClaimFilters disguisedEnvelope (normalizedFilterSet []) (normalizedFilterSet ["shell"]) =
      true := by decide
  rw [found] at hidden
  cases hidden

end Keryx.Daemon
