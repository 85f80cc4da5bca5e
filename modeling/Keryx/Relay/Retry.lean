import Keryx.Daemon.Origin
import Keryx.Relay.ResultDelivery
import Keryx.Store.Sqlite.Claims

/-! Failed publications of a result: when the worker gives up, and when it tries again. -/

namespace Keryx.Relay
open Keryx.Core Daemon Store Relational Relational.Run

def stableJitterSeed (value : String) : UInt64 :=
  value.toUTF8.data.toList.foldl (fun hash byte => (hash ^^^ byte.toUInt64) * 0x100000001b3) 0xcbf29ce484222325

/-- The longest `Duration`; all are counted in nanoseconds here. -/
def maxDuration : Nat := (2 ^ 64 - 1) * 1000000000 + 999999999

def jitteredDelay (base maximum : Nat) (seed : UInt64) (attempt : UInt32) : Nat :=
  let mixed := (seed + attempt.toUInt64 * 0x9e3779b97f4a7c15) * 0xbf58476d1ce4e5b9
  let percent := 80 + mixed % 41
  min (min (base * percent.toUInt32.toNat) maxDuration / 100) maximum

/-- The delay that the jitter is added to. -/
def retryBaseMs (attemptCount : UInt32) : Int :=
  let multiplier : Int := 2 ^ min attemptCount.toNat 6
  min (max i64Min (min (1000 * multiplier) i64Max)) 60000

def resultDeliveryRetryDelayMs (deliveryId : String) (attemptCount : UInt32) : Int :=
  (Int64.ofNat (jitteredDelay ((retryBaseMs attemptCount).toNat * 1000000) (60000 * 1000000)
    (stableJitterSeed deliveryId) attemptCount / 1000000)).toInt

def resultDeliveryWorker (registryPeerId : String) (nodeToken : Option String) : DeliveryWorker :=
  ⟨registryPeerId, nodeToken, fun deliveryId attemptCount => resultDeliveryRetryDelayMs deliveryId (.ofNat attemptCount)⟩

theorem jitteredDelay_eq (base maximum : Nat) (seed : UInt64) (attempt : UInt32) :
    ∃ percent, 80 ≤ percent ∧ percent ≤ 120 ∧
      jitteredDelay base maximum seed attempt = min (min (base * percent) maxDuration / 100) maximum := by
  refine ⟨_, ?_, ?_, rfl⟩
  all_goals
    simp only [UInt64.toNat_toUInt32, UInt64.toNat_add, UInt64.toNat_mod]
    generalize UInt64.toNat (_ * _) = mixed
    have small : mixed % 41 < 41 := Nat.mod_lt _ (by decide)
    simp only [UInt64.reduceToNat]
    omega

theorem retryBaseMs_eq (attemptCount : UInt32) :
    (retryBaseMs attemptCount).toNat = min (1000 * 2 ^ min attemptCount.toNat 6) 60000 := by
  have grown : 2 ^ min attemptCount.toNat 6 ≤ 2 ^ 6 := Nat.pow_le_pow_right (by decide) (Nat.min_le_right _ _)
  have cast : ((2 ^ min attemptCount.toNat 6 : Nat) : Int) = 2 ^ min attemptCount.toNat 6 := Int.natCast_pow 2 _
  unfold retryBaseMs i64Min i64Max
  simp only
  rw [← cast]
  omega

/-- Nothing overflows or saturates on the way to the delay. -/
theorem resultDeliveryRetryDelayMs_eq (deliveryId : String) (attemptCount : UInt32) :
    ∃ percent, 80 ≤ percent ∧ percent ≤ 120 ∧ resultDeliveryRetryDelayMs deliveryId attemptCount =
      (min (min (1000 * 2 ^ min attemptCount.toNat 6) 60000 * percent / 100) 60000 : Nat) := by
  obtain ⟨percent, low, high, jittered⟩ := jitteredDelay_eq ((retryBaseMs attemptCount).toNat * 1000000)
    (60000 * 1000000) (stableJitterSeed deliveryId) attemptCount
  refine ⟨percent, low, high, ?_⟩
  have product : (retryBaseMs attemptCount).toNat * percent ≤ 60000 * 120 := by
    rw [retryBaseMs_eq]
    exact Nat.mul_le_mul (Nat.min_le_right _ _) high
  unfold resultDeliveryRetryDelayMs
  rw [jittered, ← retryBaseMs_eq, Nat.mul_right_comm]
  generalize (retryBaseMs attemptCount).toNat * percent = scaled at *
  have exact : min (min (scaled * 1000000) maxDuration / 100) (60000 * 1000000) / 1000000 = min (scaled / 100) 60000 := by
    unfold maxDuration
    omega
  rw [exact, Int64.toInt_ofNat']
  have few : min (scaled / 100) 60000 ≤ 60000 := Nat.min_le_right _ _
  exact Int.bmod_eq_of_le (by unfold Int64.size; omega) (by unfold Int64.size; omega)

theorem resultDeliveryRetryDelayMs_bounds (deliveryId : String) (attemptCount : UInt32) :
    800 ≤ resultDeliveryRetryDelayMs deliveryId attemptCount ∧
      resultDeliveryRetryDelayMs deliveryId attemptCount ≤ 60000 := by
  obtain ⟨percent, low, _, same⟩ := resultDeliveryRetryDelayMs_eq deliveryId attemptCount
  have positive : 1 ≤ 2 ^ min attemptCount.toNat 6 := Nat.one_le_two_pow
  have product : 1000 * 80 ≤ min (1000 * 2 ^ min attemptCount.toNat 6) 60000 * percent :=
    Nat.mul_le_mul (by omega) low
  rw [same]
  omega

section
variable {runtime : Runtime} {authorization : Option String} {delivery : ClaimNextResultDeliveryResponse}
  {db after : Sqlite.Db}

theorem failResultDelivery_ends {nowMs : Int} {request : FailResultDeliveryRequest} {accepted : Bool}
    (success : failResultDelivery runtime authorization nowMs request db = (.ok accepted, after)) (deadLetter : Bool) :
    ∃ row own, db.resultOutbox.find request.deliveryId = some row ∧ row.state = .leased ∧
      failResultDelivery runtime authorization nowMs { request with deadLetter } db = (.ok true, own) ∧
      own.resultOutbox.find request.deliveryId = some (Sqlite.afterFailedAttempt row deadLetter
        (saturatingAddI64 nowMs (max 1000 (min request.retryDelayMs 60000))) nowMs request.errorReason) := by
  simp only [failResultDelivery, inStore, Session.attempt_bind_ok, Session.perform_bind_ok] at success ⊢
  obtain ⟨_, entered, _, _, taken, _⟩ := success
  obtain ⟨row, found, holds, _⟩ := Sqlite.fetchHeldDelivery_bind.mp taken
  have failed : ∀ retryAtMs, ∃ own, Sqlite.failResultDelivery request.deliveryId request.workerId
      request.leaseExpiresAtMs nowMs retryAtMs request.errorReason deadLetter db = .ok ((), own) :=
    fun _ => ⟨_, Sqlite.fetchHeldDelivery_bind.mpr ⟨row, found, holds, rfl⟩⟩
  obtain ⟨own, failed⟩ := failed _
  refine ⟨row, own, found, (Sqlite.holdsDelivery_iff.mp holds).1, ⟨_, entered, _, _, failed, rfl⟩, ?_⟩
  rw [(Sqlite.failResultDelivery_row found failed).2]
  unfold saturatingAddI64 Sqlite.maxResultDeliveryRetryDelayMs
  congr 2
  omega

/-- A worker that reports on a delivery as it was handed out gives it up exactly with the tenth claim, as the store
would without being asked, unless the failure is one for good. -/
theorem dead_lettering_agrees [Sha256] [Decoders] (registryPeerId : String) (nodeToken : Option String)
    (history : List Sqlite.Op) (row : ResultOutboxRecord) (record : TerminalResultRecord)
    (handed : claimedDelivery row record = .ok delivery)
    (found : (run Sqlite.step Sqlite.Db.empty history).resultOutbox.find delivery.deliveryId = some row) (error : Status)
    (passing : publishResultFailureIsPermanent error.code = false) (nowMs : Int64) (request : FailResultDeliveryRequest)
    (reports : request = (resultDeliveryWorker registryPeerId nodeToken).failRequest delivery error)
    (accepted : failResultDelivery runtime authorization nowMs.toInt request (run Sqlite.step Sqlite.Db.empty history) =
      (.ok true, after)) :
    (request.deadLetter = true ↔ (Sqlite.claimsOf delivery.deliveryId Sqlite.Db.empty history).length = 10) ∧
      (∃ own kept, failResultDelivery runtime authorization nowMs.toInt { request with deadLetter := false }
          (run Sqlite.step Sqlite.Db.empty history) = (.ok true, own) ∧
        own.resultOutbox.find delivery.deliveryId = some kept ∧
        (request.deadLetter = true ↔ kept.state = .deadLettered)) ∧
      (∀ deliveryId attemptCount, (800 ≤ resultDeliveryRetryDelayMs deliveryId attemptCount ∧
        resultDeliveryRetryDelayMs deliveryId attemptCount ≤ 60000) ∧
        ∃ percent, 80 ≤ percent ∧ percent ≤ 120 ∧ resultDeliveryRetryDelayMs deliveryId attemptCount =
          (min (min (1000 * 2 ^ min attemptCount.toNat 6) 60000 * percent / 100) 60000 : Nat)) ∧
      ∃ kept wait, after.resultOutbox.find delivery.deliveryId = some kept ∧ 1000 ≤ wait ∧ wait ≤ 60000 ∧
        kept.nextAttemptAtMs = min (nowMs.toInt + wait) i64Max := by
  have same : request.deliveryId = delivery.deliveryId := by rw [reports]; rfl
  have counted : delivery.attemptCount = row.attemptCount := by
    obtain ⟨result, _, answered⟩ := except_bind_ok.mp handed
    rw [← except_pure_ok.mp answered]
  rw [← same] at found ⊢
  obtain ⟨_, own, present, leased, alone, ended⟩ := failResultDelivery_ends accepted false
  cases present.symm.trans found
  obtain ⟨sound, used⟩ := Sqlite.run_sound history found
  rw [Sqlite.spent, if_pos (.inl leased)] at used
  have few := sound.few leased
  have asks : request.deadLetter = true ↔ 9 ≤ row.attemptCount := by
    rw [reports]
    show (publishResultFailureIsPermanent error.code || decide _) = true ↔ _
    rw [passing, Bool.false_or, decide_eq_true_iff, counted]
    exact Nat.succ_le_succ_iff
  refine ⟨asks.trans ?_, ⟨own, _, alone, ended, asks.trans ?_⟩, ?_, ?_⟩
  · rw [← used]
    unfold Sqlite.maxResultDeliveryAttempts at few
    omega
  · show _ ↔ (if false = true ∨ 9 ≤ row.attemptCount then _ else _) = _
    split
    · exact iff_of_true (by simp_all) rfl
    · exact iff_of_false (by simp_all) (by rintro ⟨⟩)
  · exact fun id count => ⟨resultDeliveryRetryDelayMs_bounds id count, resultDeliveryRetryDelayMs_eq id count⟩
  · obtain ⟨_, own, _, _, alone, ended⟩ := failResultDelivery_ends accepted request.deadLetter
    cases alone.symm.trans accepted
    refine ⟨_, max 1000 (min request.retryDelayMs 60000), ended, by omega, by omega, ?_⟩
    show saturatingAddI64 _ _ = _
    have low := nowMs.le_toInt
    unfold saturatingAddI64 i64Min i64Max
    omega

end

abbrev plainResults : Decoders where
  taskEnvelope := fun _ => .error ""
  taskResultEnvelope := fun _ => .ok sampleResult
  textList := fun _ => .error ""

def lateMs : Int64 := .maxValue - 2

/-- The delivery of the sample is claimed when the clock has two milliseconds left. -/
def lateClaim : List Sqlite.Op :=
  Sqlite.returnedRun ++ [.claimNextResultDelivery "edge-edge" lateMs.toInt 30000]

def lateDelivery : ClaimNextResultDeliveryResponse :=
  ⟨true, Sqlite.sampleDelivery, Sqlite.samplePeer.value, some sampleResult, 0, i64Max⟩

def lateReport : FailResultDeliveryRequest :=
  (resultDeliveryWorker "edge" none).failRequest lateDelivery ⟨.unavailable, "relay is down"⟩

theorem late_report_accepted : ∃ after, failResultDelivery sampleRuntime none (lateMs + 1).toInt lateReport
    (run (@Sqlite.step default) Sqlite.Db.empty lateClaim) = (.ok true, after) := ⟨_, rfl⟩

theorem late_report_stored_time : ∃ after kept wait, failResultDelivery sampleRuntime none (lateMs + 1).toInt lateReport
      (run (@Sqlite.step default) Sqlite.Db.empty lateClaim) = (.ok true, after) ∧
    after.resultOutbox.find lateDelivery.deliveryId = some kept ∧ 1000 ≤ wait ∧ wait ≤ 60000 ∧
    kept.nextAttemptAtMs = min ((lateMs + 1).toInt + wait) i64Max := by
  obtain ⟨after, accepted⟩ := late_report_accepted
  obtain ⟨_, _, _, kept, wait, stored⟩ := @dead_lettering_agrees sampleRuntime none lateDelivery after default plainResults
    "edge" none lateClaim _ ⟨Sqlite.sampleTask, [2], .completed, none, Sqlite.samplePeer, 0⟩ rfl rfl
    ⟨.unavailable, "relay is down"⟩ rfl (lateMs + 1) lateReport rfl accepted
  exact ⟨after, kept, wait, accepted, stored⟩

/-- At the end of the clock the next attempt is due at once. -/
theorem late_retry_not_a_second_ahead :
    ∃ after kept, failResultDelivery sampleRuntime none (lateMs + 1).toInt lateReport
        (run (@Sqlite.step default) Sqlite.Db.empty lateClaim) = (.ok true, after) ∧
      after.resultOutbox.find lateDelivery.deliveryId = some kept ∧
      kept.nextAttemptAtMs < (lateMs + 1).toInt + 1000 := by
  obtain ⟨_, accepted⟩ := late_report_accepted
  obtain ⟨row, after, _, _, success, ended⟩ := failResultDelivery_ends accepted lateReport.deadLetter
  refine ⟨after, _, success, ended, ?_⟩
  have last : (lateMs + 1).toInt = i64Max - 1 := rfl
  show saturatingAddI64 _ _ < _
  rw [last]
  unfold saturatingAddI64 i64Min i64Max
  omega

end Keryx.Relay
