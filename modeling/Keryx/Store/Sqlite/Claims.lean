import Keryx.Store.Sqlite.Deliveries
import Keryx.Store.Sqlite.Runs

/-! Claims of result deliveries: how many are granted, how they end, and whom a claim fences out. -/

namespace Keryx.Store.Sqlite
open Keryx.Core Relational Relational.Transaction Relational.Run

variable {claims : List Claim} {row next : ResultOutboxRecord} {db after : Db} {delivery : String}

theorem last_attempt (sound : Sound row) (leased : row.state = .leased) (last : spent row = maxResultDeliveryAttempts)
    (deadLetter : Bool) (retryAtMs nowMs : Int) (error : String) :
    (afterFailedAttempt row deadLetter retryAtMs nowMs error).state = .deadLettered := by
  have few := sound.few leased
  rw [spent, if_pos (.inl leased)] at last
  show (if deadLetter = true ∨ maxResultDeliveryAttempts - 1 ≤ row.attemptCount then _ else _) = _
  exact if_pos (.inr (by omega))

theorem claim_succeeds (owned : Owned db) (claim : Claim) :
    ∃ value after, claimNextResultDelivery claim.workerId claim.nowMs claim.leaseDurationMs db = .ok (value, after) := by
  cases first : ((db.expireDeliveries claim.nowMs).dueDeliveries claim.nowMs).head? with
  | none =>
    refine ⟨none, db.expireDeliveries claim.nowMs, ?_⟩
    simp only [claimNextResultDelivery, execute_bind, query_bind, first, pure_ok]
  | some outbox =>
    obtain ⟨stored, _⟩ := dueDeliveries_head first
    rw [find_expireDeliveries] at stored
    obtain ⟨row, found, rfl⟩ := Option.map_eq_some_iff.mp stored
    obtain ⟨_, sameTask, _⟩ := (moves_expireDelivery claim.nowMs row).identity
    obtain ⟨result, settled⟩ := Option.isSome_iff_exists.mp (owned _ row found).2
    rw [← sameTask] at settled
    refine ⟨some (claim.grant (expireDelivery claim.nowMs row), result),
      (db.expireDeliveries claim.nowMs).putOutbox (claim.grant (expireDelivery claim.nowMs row)), ?_⟩
    simp only [claimNextResultDelivery, execute_bind, query_bind, first, require_bind, pure_ok]
    exact ⟨result, settled, rfl⟩

theorem failResultDelivery_row {workerId error : String} {leaseExpiresAtMs nowMs retryAtMs : Int} {deadLetter : Bool}
    {done : Unit} (found : db.resultOutbox.find delivery = some row)
    (success : failResultDelivery delivery workerId leaseExpiresAtMs nowMs retryAtMs error deadLetter db =
      .ok (done, after)) :
    row.state = .leased ∧ after.resultOutbox.find delivery =
      some (afterFailedAttempt row deadLetter (min retryAtMs (saturatingAddI64 nowMs maxResultDeliveryRetryDelayMs)) nowMs
        error) := by
  rw [failResultDelivery, fetchHeldDelivery_bind] at success
  obtain ⟨outbox, present, holds, written⟩ := success
  obtain ⟨_, rfl⟩ := Prod.mk.inj (execute_ok.mp written)
  cases found.symm.trans present
  refine ⟨(holdsDelivery_iff.mp holds).1, ?_⟩
  have owner : row.deliveryId = delivery := Table.find_key found
  rw [← owner]
  exact Table.find_put_self _ _

section
variable [Sha256]

theorem claim_expires (owned : Owned db) (found : db.resultOutbox.find delivery = some row) (leased : row.state = .leased)
    {leaseExpiresAtMs : Int} (expires : row.leaseExpiresAtMs = some leaseExpiresAtMs) (claim : Claim)
    (late : leaseExpiresAtMs ≤ claim.nowMs) :
    ∃ next, (step db (.claimNextResultDelivery claim.workerId claim.nowMs claim.leaseDurationMs)).resultOutbox.find
        delivery = some next ∧ next.nextAttemptAtMs = claim.nowMs ∧
      ((afterFailedAttempt row false claim.nowMs claim.nowMs "result delivery lease expired").state = .deadLettered →
        next.state = .deadLettered) := by
  have failed : expireDelivery claim.nowMs row =
      afterFailedAttempt row false claim.nowMs claim.nowMs "result delivery lease expired" := by
    unfold expireDelivery
    exact if_pos ⟨leased, by rw [expires]; exact decide_eq_true late⟩
  obtain ⟨value, after, success⟩ := claim_succeeds owned claim
  have committed : step db (.claimNextResultDelivery claim.workerId claim.nowMs claim.leaseDurationMs) = after := by
    show (commit _ db).2 = after
    rw [commit_ok success]
  rw [committed]
  rcases claimNextResultDelivery_cases success with ⟨_, rfl⟩ | ⟨outbox, result, stored, pending, _, _, rfl⟩
  · refine ⟨expireDelivery claim.nowMs row, ?_, ?_, ?_⟩
    · rw [find_expireDeliveries, found, Option.map_some]
    · rw [failed]
      rfl
    · rw [failed]
      exact id
  · rw [find_expireDeliveries] at stored
    by_cases own : delivery = outbox.deliveryId
    · rw [← own, found, Option.map_some, failed] at stored
      cases stored
      refine ⟨_, (Table.find_put _ _ delivery).trans (if_pos own), rfl, fun dead => ?_⟩
      rw [dead] at pending
      cases pending
    · refine ⟨expireDelivery claim.nowMs row, ?_, ?_, ?_⟩
      · refine ((Table.find_put _ (claim.grant outbox) delivery).trans (if_neg own)).trans ?_
        rw [find_expireDeliveries, found, Option.map_some]
      · rw [failed]
        rfl
      · rw [failed]
        exact id

/-- The life of a delivery in every run: a final row stays as it is, lease fields are set exactly in leased rows, at
most ten claims are granted, the tenth failure is final, and a failed attempt is due again within a minute. -/
theorem result_outbox_state_machine (history later : List Op) (delivery : String) (row : ResultOutboxRecord)
    (present : (run step Db.empty history).resultOutbox.find delivery = some row) :
    (row.state = .leased ↔ row.leaseOwner.isSome ∧ row.leaseExpiresAtMs.isSome) ∧
      row.attemptCount ≤ 10 ∧ (claimsOf delivery Db.empty history).length ≤ 10 ∧
      (∃ next, (run step (run step Db.empty history) later).resultOutbox.find delivery = some next ∧
        (row.state = .delivered ∨ row.state = .deadLettered → next = row) ∧ row.attemptCount ≤ next.attemptCount) ∧
      (∀ workerId leaseExpiresAtMs (nowMs : Int64) retryAtMs error deadLetter done after,
        failResultDelivery delivery workerId leaseExpiresAtMs nowMs.toInt retryAtMs error deadLetter
            (run step Db.empty history) = .ok (done, after) →
        ∃ next, after.resultOutbox.find delivery = some next ∧ next.nextAttemptAtMs ≤ nowMs.toInt + 60000 ∧
          ((claimsOf delivery Db.empty history).length = 10 → next.state = .deadLettered)) ∧
      (∀ workerId nowMs leaseDurationMs leaseExpiresAtMs, row.state = .leased →
        row.leaseExpiresAtMs = some leaseExpiresAtMs → leaseExpiresAtMs ≤ nowMs →
        ∃ next, (step (run step Db.empty history) (.claimNextResultDelivery workerId nowMs leaseDurationMs)).resultOutbox.find
            delivery = some next ∧ next.nextAttemptAtMs ≤ nowMs + 60000 ∧
          ((claimsOf delivery Db.empty history).length = 10 → next.state = .deadLettered)) := by
  have owned := run_owned history
  obtain ⟨sound, used⟩ := run_sound history present
  obtain ⟨next, reached, moves⟩ := run_moves _ later owned present
  refine ⟨sound.leased, sound.bounded, ?_, ⟨next, reached, fun settled => (moves.settled settled).1,
    moves.attemptCount sound⟩, ?_, ?_⟩
  · rw [← used]
    exact spent_le sound
  · intro workerId leaseExpiresAtMs nowMs retryAtMs error deadLetter done after success
    obtain ⟨leased, failed⟩ := failResultDelivery_row present success
    refine ⟨_, failed, ?_, fun ten => last_attempt sound leased (used.trans ten) _ _ _ _⟩
    have low := nowMs.le_toInt
    show min retryAtMs (saturatingAddI64 nowMs.toInt maxResultDeliveryRetryDelayMs) ≤ nowMs.toInt + 60000
    unfold saturatingAddI64 maxResultDeliveryRetryDelayMs i64Min i64Max
    omega
  · intro workerId nowMs leaseDurationMs leaseExpiresAtMs leased expires late
    obtain ⟨next, failed, due, dead⟩ := claim_expires owned present leased expires ⟨workerId, nowMs, leaseDurationMs⟩ late
    refine ⟨next, failed, ?_, fun ten => dead (last_attempt sound leased (used.trans ten) _ _ _ _)⟩
    simp only at due
    omega

end

def returnedRun : List Op :=
  [.acceptTask (TaskRecord.new sampleTask .pending none), .leaseTask sampleTask sampleLease,
    .completeTaskWithResult sampleTask sampleLease.leaseId (.literal "worker-1" (.refl true))
      ⟨sampleTask, [2], .completed, some samplePeer, samplePeer, 0⟩]

def sampleDelivery : String := deliveryId sampleTask

def claimedDelivery (leaseExpiresAtMs : Int) : ResultOutboxRecord :=
  ⟨sampleDelivery, sampleTask, samplePeer, .leased, 0, 0, some "w", some leaseExpiresAtMs, none, 0, 0⟩

set_option maxRecDepth 2048 in
/-- The claim of the sample times out. -/
theorem claimed_delivery_times_out :
    ∃ next, (@step default
        (run (@step default) Db.empty (returnedRun ++ [.claimNextResultDelivery "w" 0 5000]))
        (.claimNextResultDelivery "w" 5000 5000)).resultOutbox.find sampleDelivery = some next ∧
      next.nextAttemptAtMs ≤ 5000 + 60000 := by
  obtain ⟨_, _, _, _, _, expires⟩ := @result_outbox_state_machine default
    (returnedRun ++ [.claimNextResultDelivery "w" 0 5000]) [] sampleDelivery (claimedDelivery 5000) (by decide)
  obtain ⟨next, found, due, _⟩ := expires "w" 5000 5000 5000 rfl rfl (by decide)
  exact ⟨next, found, due⟩

theorem Moves.token (moves : Moves claims row next) (pending : row.state = .pending) (leased : next.state = .leased) :
    ∃ older last, claims = older ++ [last] ∧ next.leaseOwner = some last.workerId ∧
      next.leaseExpiresAtMs = some last.leaseExpiresAtMs := by
  cases moves with
  | refl =>
    rw [pending] at leased
    cases leased
  | claim claim => exact ⟨_, claim, rfl, rfl, rfl⟩
  | deliver => cases leased
  | fail deadLetter retryAtMs nowMs error => exact absurd leased (afterFailedAttempt_released _ _ _ _ _).1

theorem held_leaves_iff {workerId : String} {leaseExpiresAtMs nowMs : Int}
    (found : db.resultOutbox.find delivery = some row) (change : ResultOutboxRecord → ResultOutboxRecord)
    (sameKey : (change row).deliveryId = row.deliveryId) (released : (change row).state ≠ .leased) :
    (commit (fetchHeldDelivery delivery workerId leaseExpiresAtMs nowMs >>=
        fun outbox => execute (Db.putOutbox (change outbox))) db).2.resultOutbox.find delivery = some row ↔
      holdsDelivery row workerId leaseExpiresAtMs nowMs = false := by
  have owner : row.deliveryId = delivery := Table.find_key found
  cases holds : holdsDelivery row workerId leaseExpiresAtMs nowMs with
  | true =>
    have success : (fetchHeldDelivery delivery workerId leaseExpiresAtMs nowMs >>=
        fun outbox => execute (Db.putOutbox (change outbox))) db = .ok ((), db.putOutbox (change row)) :=
      fetchHeldDelivery_bind.mpr ⟨row, found, holds, rfl⟩
    have written : (db.putOutbox (change row)).resultOutbox.find delivery = some (change row) := by
      rw [← owner, ← sameKey]
      exact Table.find_put_self _ _
    rw [commit_ok success, written]
    refine iff_of_false (fun same => released ?_) (by nofun)
    rw [Option.some.inj same]
    exact (holdsDelivery_iff.mp holds).1
  | false =>
    refine iff_of_true ?_ rfl
    rw [commit_unchanged, found]
    intro value after success
    obtain ⟨outbox, stored, held, _⟩ := fetchHeldDelivery_bind.mp success
    cases found.symm.trans stored
    rw [holds] at held
    cases held

section
variable [Sha256]

theorem run_token (history : List Op) {older : List Claim} {last : Claim}
    (present : (run step Db.empty history).resultOutbox.find delivery = some row) (leased : row.state = .leased)
    (granted : claimsOf delivery Db.empty history = older ++ [last]) :
    row.leaseOwner = some last.workerId ∧ row.leaseExpiresAtMs = some last.leaseExpiresAtMs := by
  obtain ⟨result, first, made, moves⟩ := run_made Db.empty history (run_owned []) rfl present
  obtain ⟨_, _, same, owner, expiry⟩ := moves.token (makeOutbox_some made).2.2.2.1 leased
  rw [granted] at same
  obtain ⟨_, lastSame⟩ := List.append_inj' same rfl
  cases lastSame
  exact ⟨owner, expiry⟩

/-- Requests that present the token of the claim leave the row as it is. -/
def Fenced (claim : Claim) (nowMs : Int) (db : Db) (row : ResultOutboxRecord) : Prop :=
  (step db (.ackResultDelivery row.deliveryId claim.workerId claim.leaseExpiresAtMs nowMs)).resultOutbox.find
      row.deliveryId = some row ∧
    ∀ retryAtMs error deadLetter,
      (step db (.failResultDelivery row.deliveryId claim.workerId claim.leaseExpiresAtMs nowMs retryAtMs error
        deadLetter)).resultOutbox.find row.deliveryId = some row

/-- A claim fences out an earlier one unless both have the same worker and the same expiry: the expiry is all
that tells them apart. -/
theorem stale_claim_fenced_iff (history : List Op) (row : ResultOutboxRecord) (older between : List Claim)
    (earlier last : Claim) (nowMs : Int)
    (present : (run step Db.empty history).resultOutbox.find row.deliveryId = some row)
    (granted : claimsOf row.deliveryId Db.empty history = older ++ earlier :: (between ++ [last])) :
    Fenced earlier nowMs (run step Db.empty history) row ↔
      ¬ (row.state = .leased ∧ earlier.workerId = last.workerId ∧ earlier.leaseExpiresAtMs = last.leaseExpiresAtMs ∧
        nowMs < last.leaseExpiresAtMs) := by
  have shown : row.state = .leased →
      row.leaseOwner = some last.workerId ∧ row.leaseExpiresAtMs = some last.leaseExpiresAtMs := by
    intro leased
    have lastOf : claimsOf row.deliveryId Db.empty history = (older ++ earlier :: between) ++ [last] := by
      rw [granted, List.append_assoc, List.cons_append]
    exact run_token history present leased lastOf
  have holds : holdsDelivery row earlier.workerId earlier.leaseExpiresAtMs nowMs = true ↔
      (row.state = .leased ∧ earlier.workerId = last.workerId ∧ earlier.leaseExpiresAtMs = last.leaseExpiresAtMs ∧
        nowMs < last.leaseExpiresAtMs) := by
    rw [holdsDelivery_iff]
    constructor
    · rintro ⟨leased, owner, expiry, live⟩
      obtain ⟨lastOwner, lastExpiry⟩ := shown leased
      have same := Option.some.inj (expiry.symm.trans lastExpiry)
      exact ⟨leased, Option.some.inj (owner.symm.trans lastOwner), same, same ▸ live⟩
    · rintro ⟨leased, owner, expiry, live⟩
      obtain ⟨lastOwner, lastExpiry⟩ := shown leased
      exact ⟨leased, owner ▸ lastOwner, expiry ▸ lastExpiry, expiry ▸ live⟩
  rw [← holds, Bool.not_eq_true]
  constructor
  · intro fenced
    exact (held_leaves_iff present (afterDelivery · nowMs) rfl (by nofun)).mp fenced.1
  · intro unheld
    refine ⟨(held_leaves_iff present (afterDelivery · nowMs) rfl (by nofun)).mpr unheld, ?_⟩
    intro retryAtMs error deadLetter
    exact (held_leaves_iff present (fun outbox => afterFailedAttempt outbox deadLetter
      (min retryAtMs (saturatingAddI64 nowMs maxResultDeliveryRetryDelayMs)) nowMs error) rfl
      (afterFailedAttempt_released row _ _ _ _).1).mpr unheld

end

def Op.deliveryClock : Op → Option Int
  | .claimNextResultDelivery _ nowMs _ => some nowMs
  | .ackResultDelivery _ _ _ nowMs => some nowMs
  | .failResultDelivery _ _ _ nowMs _ _ _ => some nowMs
  | _ => none

def Op.paced : Op → Bool
  | .claimNextResultDelivery _ _ leaseDurationMs => 1000 ≤ leaseDurationMs
  | .failResultDelivery _ _ _ nowMs retryAtMs _ _ => nowMs + 1000 ≤ retryAtMs
  | _ => true

/-- Clocks do not go back, a lease lasts at least a second, and so does the pause after a failure. -/
def Paced (ops : List Op) : Prop :=
  (∀ op ∈ ops, op.paced = true) ∧ (ops.filterMap Op.deliveryClock).Pairwise (· ≤ ·)

/-- The worker claims, fails at once and claims again a second later, up to the same time. -/
def reclaimedRun (leaseDurationMs : Int) : List Op :=
  returnedRun ++ [.claimNextResultDelivery "w" 0 5000, .failResultDelivery sampleDelivery "w" 5000 1 1001 "" false,
    .claimNextResultDelivery "w" 1001 leaseDurationMs]

def reclaimedDelivery (leaseExpiresAtMs : Int) : ResultOutboxRecord :=
  ⟨sampleDelivery, sampleTask, samplePeer, .leased, 1, 1001, some "w", some leaseExpiresAtMs, some "", 0, 1001⟩

set_option maxRecDepth 4096 in
/-- A second claim that ends later fences the first one out. -/
theorem reclaimed_delivery_fenced :
    @Fenced default ⟨"w", 0, 5000⟩ 2000 (run (@step default) Db.empty (reclaimedRun 5000)) (reclaimedDelivery 6001) :=
  (@stale_claim_fenced_iff default (reclaimedRun 5000) (reclaimedDelivery 6001) [] [] ⟨"w", 0, 5000⟩ ⟨"w", 1001, 5000⟩
    2000 (by decide) (by decide)).mpr (by decide)

set_option maxRecDepth 4096 in
/-- A second claim that ends when the first one would have: the first one's token is the second one's. -/
theorem stale_claim_acknowledges :
    ¬ ∀ (history : List Op) (row : ResultOutboxRecord) (older between : List Claim) (earlier last : Claim) (nowMs : Int),
      Paced (history ++ [.ackResultDelivery row.deliveryId earlier.workerId earlier.leaseExpiresAtMs nowMs]) →
      (run (@step default) Db.empty history).resultOutbox.find row.deliveryId = some row →
      @claimsOf default row.deliveryId Db.empty history = older ++ earlier :: (between ++ [last]) →
      @Fenced default earlier nowMs (run (@step default) Db.empty history) row := by
  intro every
  have fenced := every (reclaimedRun 3999) (reclaimedDelivery 5000) [] [] ⟨"w", 0, 5000⟩ ⟨"w", 1001, 3999⟩ 2000
    ⟨by decide, by decide⟩ (by decide) (by decide)
  have delivered : (@step default (run (@step default) Db.empty (reclaimedRun 3999))
      (.ackResultDelivery sampleDelivery "w" 5000 2000)).resultOutbox.find sampleDelivery =
      some (afterDelivery (reclaimedDelivery 5000) 2000) := by decide
  cases fenced.1.symm.trans delivered

end Keryx.Store.Sqlite
