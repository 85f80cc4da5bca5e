import Keryx.Daemon.ClaimNext

/-! The heartbeats of the Python SDK, and how long the lease lasts after each. -/

namespace Keryx.Sdk
open Keryx.Core Store Daemon

/-- The times of a lease as a claim reports them. -/
structure ClaimedTask where
  leasedAtMs : Int
  expiresAtMs : Int

structure KeryxConfig where
  defaultLeaseDurationMs : Int64

/-- The duration that a claim of the next task asks for. -/
def KeryxConfig.claimNextMs (config : KeryxConfig) (leaseDurationMs : Option Int64) : Int64 :=
  leaseDurationMs.getD config.defaultLeaseDurationMs

section
variable (daemon : Daemon.Config) (config : KeryxConfig) (claimed : ClaimedTask)

def leaseTtlMs : Int :=
  max (max 1000 (claimed.expiresAtMs - claimed.leasedAtMs)) config.defaultLeaseDurationMs.toInt

def intervalMs : Int := max 250 (leaseTtlMs config claimed / 3)

structure Wait where
  startsAtMs : Int
  expiresAtMs : Int

/-- Each wait but the first starts when the lease has been renewed. -/
def heartbeatClaim : Nat → Wait
  | 0 => ⟨claimed.leasedAtMs, claimed.expiresAtMs⟩
  | turn + 1 =>
    let nowMs := (heartbeatClaim turn).startsAtMs + intervalMs config claimed
    ⟨nowMs, saturatingAddI64 nowMs (normalizeLeaseDurationMs (leaseTtlMs config claimed) daemon)⟩

theorem heartbeatClaim_starts (turn : Nat) :
    (heartbeatClaim daemon config claimed turn).startsAtMs =
      claimed.leasedAtMs + turn * intervalMs config claimed := by
  induction turn with
  | zero =>
    show claimed.leasedAtMs = _
    rw [Int.natCast_zero, Int.zero_mul, Int.add_zero]
  | succ turn ih =>
    show (heartbeatClaim daemon config claimed turn).startsAtMs + _ = _
    rw [ih, Int.natCast_succ, Int.add_mul, Int.one_mul, Int.add_assoc]

end

/-- The heartbeat comes while the lease is in force, and so the lease does not expire before it. -/
def Wait.InTime (delayMs : Int) (wait : Wait) : Prop :=
  delayMs < wait.expiresAtMs - wait.startsAtMs ∧
    ∀ nowMs, wait.startsAtMs ≤ nowMs → nowMs ≤ wait.startsAtMs + delayMs → nowMs < wait.expiresAtMs

theorem inTime_iff {delayMs : Int} {wait : Wait} :
    wait.InTime delayMs ↔ wait.startsAtMs + delayMs < wait.expiresAtMs := by
  unfold Wait.InTime
  constructor
  · rintro ⟨shorter, _⟩
    omega
  · intro ends
    refine ⟨by omega, ?_⟩
    intro nowMs _ early
    omega

section
variable {config : KeryxConfig} {claimed : ClaimedTask}

theorem interval_bounds :
    250 ≤ intervalMs config claimed ∧
      intervalMs config claimed < leaseTtlMs config claimed := by
  unfold intervalMs leaseTtlMs
  omega

theorem renewed_inTime_iff {daemon : Daemon.Config} {turn : Nat} :
    (heartbeatClaim daemon config claimed (turn + 1)).InTime
        (intervalMs config claimed) ↔
      claimed.leasedAtMs + (turn + 2) * intervalMs config claimed < i64Max := by
  obtain ⟨positive, shorter⟩ := @interval_bounds config claimed
  have starts := heartbeatClaim_starts daemon config claimed (turn + 1)
  have later : 0 ≤ (turn : Int) * intervalMs config claimed :=
    Int.mul_nonneg (Int.natCast_nonneg _) (by omega)
  rw [inTime_iff]
  show _ + _ < saturatingAddI64 (heartbeatClaim daemon config claimed (turn + 1)).startsAtMs
    (normalizeLeaseDurationMs (leaseTtlMs config claimed) daemon) ↔ _
  rw [starts, normalizeLeaseDurationMs, if_neg (by omega), saturatingAddI64, Int.natCast_succ, Int.add_mul, Int.add_mul]
  unfold i64Min i64Max
  omega

end

/-- A lease outlasts the wait for each heartbeat exactly if it is granted for more than 333 milliseconds and a third
of the configured duration, and the clock does not come to its end. -/
theorem heartbeats_precede_expiry_iff (daemon : Daemon.Config) (config : KeryxConfig)
    (leaseDurationMs : Option Int64) (claimant : Claimant) (taskId : TaskId) (leaseId : LeaseId) (leasedAtMs : Int)
    (count : Nat) (positive : 0 < daemon.leaseDefaultTtlMs) (started : 0 ≤ leasedAtMs)
    (asked : claimant.leaseDurationMs =
      normalizeLeaseDurationMs (config.claimNextMs leaseDurationMs).toInt daemon) :
    let lease := claimant.lease taskId leaseId leasedAtMs
    let claimed : ClaimedTask := ⟨lease.leasedAtMs, lease.expiresAtMs⟩
    (∀ turn ≤ count, (heartbeatClaim daemon config claimed turn).InTime
        (intervalMs config claimed)) ↔
      333 < claimant.leaseDurationMs ∧ config.defaultLeaseDurationMs.toInt / 3 < claimant.leaseDurationMs ∧
        leasedAtMs + (count + 1) * intervalMs config claimed < i64Max := by
  intro lease claimed
  have granted : 0 < claimant.leaseDurationMs := by
    rw [asked, normalizeLeaseDurationMs]
    split
    · exact positive
    · omega
  have ends : claimed.expiresAtMs = min (leasedAtMs + claimant.leaseDurationMs) i64Max := by
    show saturatingAddI64 leasedAtMs claimant.leaseDurationMs = _
    unfold saturatingAddI64 i64Min i64Max
    omega
  have first : (heartbeatClaim daemon config claimed 0).InTime
      (intervalMs config claimed) ↔
        333 < claimant.leaseDurationMs ∧ config.defaultLeaseDurationMs.toInt / 3 < claimant.leaseDurationMs ∧
          leasedAtMs + intervalMs config claimed < i64Max := by
    rw [inTime_iff]
    show leasedAtMs + intervalMs config claimed < claimed.expiresAtMs ↔ _
    have interval : intervalMs config claimed =
        max 250 (max (max 1000 (claimed.expiresAtMs - leasedAtMs)) config.defaultLeaseDurationMs.toInt / 3) := rfl
    omega
  have earlier : ∀ number ≤ count + 1, leasedAtMs + (count + 1) * intervalMs config claimed < i64Max →
      leasedAtMs + number * intervalMs config claimed < i64Max := by
    intro number fewer last
    have positive := (@interval_bounds config claimed).1
    have sooner : (number : Int) * intervalMs config claimed ≤
        (count + 1) * intervalMs config claimed :=
      Int.mul_le_mul_of_nonneg_right (by omega) (by omega)
    omega
  constructor
  · intro all
    obtain ⟨long, third, reached⟩ := first.mp (all 0 (Nat.zero_le _))
    refine ⟨long, third, ?_⟩
    cases count with
    | zero =>
      rw [Int.natCast_zero, Int.zero_add, Int.one_mul]
      exact reached
    | succ count => exact renewed_inTime_iff.mp (all (count + 1) (Nat.le_refl _))
  · rintro ⟨long, third, last⟩ turn bound
    cases turn with
    | zero =>
      have reached := earlier 1 (by omega) last
      rw [Int.natCast_one, Int.one_mul] at reached
      exact first.mpr ⟨long, third, reached⟩
    | succ turn => exact renewed_inTime_iff.mpr (earlier (turn + 2) (by omega) last)

def heldLease (config : KeryxConfig) : ClaimedTask :=
  let claimant := { anyWork with
    leaseDurationMs := normalizeLeaseDurationMs (config.claimNextMs none).toInt sampleRuntime.config }
  let lease := claimant.lease Sqlite.sampleTask Sqlite.sampleLease.leaseId 5
  ⟨lease.leasedAtMs, lease.expiresAtMs⟩

theorem lease_of_a_second_outlasts_waits :
    0 < sampleRuntime.config.leaseDefaultTtlMs ∧ ∀ turn ≤ 3, (heartbeatClaim sampleRuntime.config ⟨1000⟩
      (heldLease ⟨1000⟩) turn).InTime (intervalMs ⟨1000⟩ (heldLease ⟨1000⟩)) :=
  ⟨by decide, (heartbeats_precede_expiry_iff sampleRuntime.config ⟨1000⟩ none anyWork Sqlite.sampleTask
    Sqlite.sampleLease.leaseId 5 3 (by decide) (by decide) (by decide)).mpr
      ⟨by decide, by decide, by decide⟩⟩

/-- A lease of a tenth of a second expires before the first heartbeat. -/
theorem short_lease_expires_before_heartbeat :
    ¬ (heartbeatClaim sampleRuntime.config ⟨100⟩ (heldLease ⟨100⟩) 0).InTime (intervalMs ⟨100⟩ (heldLease ⟨100⟩)) := by
  rw [inTime_iff]
  decide

end Keryx.Sdk
