import Keryx.Core.Identifier

/-! Retry policy, resource limits and the machine-word arithmetic they use. -/

namespace Keryx.Core

def u32Max : Nat := 2 ^ 32 - 1

def u64Max : Nat := 2 ^ 64 - 1

def i64Max : Int := 2 ^ 63 - 1

def i64Min : Int := -2 ^ 63

def saturatingAddU32 (left right : Nat) : Nat := min (left + right) u32Max

def saturatingAddU64 (left right : Nat) : Nat := min (left + right) u64Max

def saturatingAddI64 (left right : Int) : Int := max i64Min (min (left + right) i64Max)

structure RetryPolicy where
  maxRetries : Nat
  backoffMs : Nat
  deadLetterAfter : Nat
deriving DecidableEq, Repr

def RetryPolicy.default : RetryPolicy := { maxRetries := 3, backoffMs := 1000, deadLetterAfter := 4 }

def RetryPolicy.shouldRetryAfterFailure (policy : RetryPolicy) (currentRetryCount : Nat) : Bool :=
  0 < policy.maxRetries && saturatingAddU32 currentRetryCount 1 ≤ policy.maxRetries

def RetryPolicy.shouldDeadLetterAfterFailure (policy : RetryPolicy) (currentRetryCount : Nat) : Bool :=
  let next := saturatingAddU32 currentRetryCount 1
  policy.maxRetries = 0 || policy.maxRetries < next || policy.deadLetterAfter ≤ next

/-- The failure that follows either uses the retries up or comes before the threshold. -/
def RetryPolicy.ReachesThresholdLast (policy : RetryPolicy) (currentRetryCount : Nat) : Prop :=
  policy.maxRetries < saturatingAddU32 currentRetryCount 1 ∨ saturatingAddU32 currentRetryCount 1 < policy.deadLetterAfter

instance (policy : RetryPolicy) (count : Nat) : Decidable (policy.ReachesThresholdLast count) :=
  inferInstanceAs (Decidable (_ ∨ _))

theorem RetryPolicy.reachesThresholdLast_iff {policy : RetryPolicy} {count : Nat} (positive : 1 ≤ policy.maxRetries) :
    policy.ReachesThresholdLast count ↔
      policy.shouldDeadLetterAfterFailure count = !policy.shouldRetryAfterFailure count := by
  unfold ReachesThresholdLast shouldDeadLetterAfterFailure shouldRetryAfterFailure
  rw [Bool.eq_iff_iff]
  simp only [Bool.or_eq_true, decide_eq_true_eq, Bool.not_eq_true', Bool.and_eq_false_iff, decide_eq_false_iff_not]
  omega

theorem saturatingAddU32_one_pos (count : Nat) : 0 < saturatingAddU32 count 1 := by
  simp [saturatingAddU32, u32Max]

structure LimitsConfig where
  maxPendingTasks : Nat
  maxEnvelopeBytes : Nat
  maxRetainedEnvelopeBytes : Nat
deriving DecidableEq, Repr

def LimitsConfig.default : LimitsConfig :=
  { maxPendingTasks := 10000, maxEnvelopeBytes := 4 * 1024 * 1024,
    maxRetainedEnvelopeBytes := 256 * 1024 * 1024 }

/-- A limit of zero means no limit. -/
def LimitsConfig.checkPendingTasks (limits : LimitsConfig) (current : Nat) : Except ValidationError Unit :=
  if 0 < limits.maxPendingTasks ∧ limits.maxPendingTasks ≤ current then
    .error (.limitExceeded .pendingTasks current limits.maxPendingTasks)
  else .ok ()

def LimitsConfig.checkEnvelopeBytes (limits : LimitsConfig) (byteLen : Nat) : Except ValidationError Unit :=
  if 0 < limits.maxEnvelopeBytes ∧ limits.maxEnvelopeBytes < byteLen then
    .error (.limitExceeded .envelopeBytes byteLen limits.maxEnvelopeBytes)
  else .ok ()

def LimitsConfig.checkRetainedEnvelopeBytes (limits : LimitsConfig) (current incoming : Nat) :
    Except ValidationError Unit :=
  let afterAccept := saturatingAddU64 current incoming
  if 0 < limits.maxRetainedEnvelopeBytes ∧ limits.maxRetainedEnvelopeBytes < afterAccept then
    .error (.limitExceeded .retainedEnvelopeBytes afterAccept limits.maxRetainedEnvelopeBytes)
  else .ok ()

end Keryx.Core
