import Keryx.Daemon.Ingest
import Keryx.Store.Sqlite.Deliveries

/-! The requests of the worker that delivers results to the peers that asked for them. -/

namespace Keryx.Daemon
open Keryx.Core Store Proto Relational Relational.Transaction
open Session (attempt)

structure ClaimNextResultDeliveryRequest where
  workerId : String
  leaseDurationMs : Int

structure ClaimNextResultDeliveryResponse where
  hasDelivery : Bool
  deliveryId : String
  targetPeerId : String
  result : Option TaskResultEnvelope
  attemptCount : Nat
  leaseExpiresAtMs : Int

structure AckResultDeliveryRequest where
  deliveryId : String
  workerId : String
  leaseExpiresAtMs : Int

structure FailResultDeliveryRequest where
  deliveryId : String
  workerId : String
  errorReason : String
  retryDelayMs : Int
  deadLetter : Bool
  leaseExpiresAtMs : Int

def noDelivery : ClaimNextResultDeliveryResponse := ⟨false, "", "", none, 0, 0⟩

def requireWorkerId (workerId : String) : Except Status Unit :=
  if trim workerId = "" then .error (.invalidArgument "worker_id is required") else .ok ()

section
variable [Decoders]

def claimedDelivery (outbox : ResultOutboxRecord) (record : TerminalResultRecord) :
    Except Status ClaimNextResultDeliveryResponse := do
  let result ← (Decoders.taskResultEnvelope record.encodedResult).mapError fun error =>
    .dataLoss s!"invalid stored result: {error}"
  return { hasDelivery := true, deliveryId := outbox.deliveryId, targetPeerId := outbox.targetPeerId.value,
           result := some result, attemptCount := outbox.attemptCount,
           leaseExpiresAtMs := outbox.leaseExpiresAtMs.getD 0 }

def claimResponse : Option (ResultOutboxRecord × TerminalResultRecord) → Except Status ClaimNextResultDeliveryResponse
  | some (outbox, record) => claimedDelivery outbox record
  | none => .ok noDelivery

/-- The lease is granted even if the stored result cannot be read then. -/
def claimNextResultDelivery (runtime : Runtime) (authorization : Option String) (nowMs : Int)
    (request : ClaimNextResultDeliveryRequest) : Rpc ClaimNextResultDeliveryResponse := do
  attempt (enter runtime authorization)
  attempt (requireWorkerId request.workerId)
  let claimed ← inStore
    (Sqlite.claimNextResultDelivery (trim request.workerId) nowMs (max request.leaseDurationMs 1000))
  attempt (claimResponse claimed)

end

def ackResultDelivery (runtime : Runtime) (authorization : Option String) (nowMs : Int)
    (request : AckResultDeliveryRequest) : Rpc Bool := do
  attempt (enter runtime authorization)
  inStore (Sqlite.ackResultDelivery request.deliveryId request.workerId request.leaseExpiresAtMs nowMs)
  return true

def failResultDelivery (runtime : Runtime) (authorization : Option String) (nowMs : Int)
    (request : FailResultDeliveryRequest) : Rpc Bool := do
  attempt (enter runtime authorization)
  inStore (Sqlite.failResultDelivery request.deliveryId request.workerId request.leaseExpiresAtMs nowMs
    (saturatingAddI64 nowMs (max 1000 (min request.retryDelayMs Sqlite.maxResultDeliveryRetryDelayMs)))
    request.errorReason request.deadLetter)
  return true

variable {runtime : Runtime} {authorization : Option String} {nowMs : Int}

theorem inStore_attempt_state {α β : Type} {operation : Sqlite.Tx α} {answer : α → Except Status β} {db : Sqlite.Db} :
    ((inStore operation >>= fun value => attempt (answer value) : Rpc β) db).2 = (commit operation db).2 := by
  rw [Session.bind_apply, inStore, Session.perform]
  cases (commit operation db).1 with
  | error failure => rfl
  | ok value => rfl

theorem ackResultDelivery_state [Sha256] (request : AckResultDeliveryRequest) (db : Sqlite.Db) :
    (ackResultDelivery runtime authorization nowMs request db).2 = db ∨
      (ackResultDelivery runtime authorization nowMs request db).2 =
        Sqlite.step db (.ackResultDelivery request.deliveryId request.workerId request.leaseExpiresAtMs nowMs) := by
  unfold ackResultDelivery
  rw [Session.attempt_bind]
  cases enter runtime authorization with
  | error status => exact .inl rfl
  | ok entered => exact .inr Session.bind_pure_state

theorem failResultDelivery_state [Sha256] (request : FailResultDeliveryRequest) (db : Sqlite.Db) :
    (failResultDelivery runtime authorization nowMs request db).2 = db ∨ ∃ retryAtMs,
      (failResultDelivery runtime authorization nowMs request db).2 =
        Sqlite.step db (.failResultDelivery request.deliveryId request.workerId request.leaseExpiresAtMs nowMs retryAtMs
          request.errorReason request.deadLetter) := by
  unfold failResultDelivery
  rw [Session.attempt_bind]
  cases enter runtime authorization with
  | error status => exact .inl rfl
  | ok entered => exact .inr ⟨_, Session.bind_pure_state⟩

section
variable [Decoders] {delivery : ClaimNextResultDeliveryResponse} {db : Sqlite.Db}

theorem claimNextResultDelivery_state [Sha256] (request : ClaimNextResultDeliveryRequest) (db : Sqlite.Db) :
    (claimNextResultDelivery runtime authorization nowMs request db).2 = db ∨
      (claimNextResultDelivery runtime authorization nowMs request db).2 =
        Sqlite.step db (.claimNextResultDelivery (trim request.workerId) nowMs (max request.leaseDurationMs 1000)) := by
  unfold claimNextResultDelivery
  rw [Session.attempt_bind]
  cases enter runtime authorization with
  | error status => exact .inl rfl
  | ok entered =>
    simp only
    rw [Session.attempt_bind]
    cases requireWorkerId request.workerId with
    | error status => exact .inl rfl
    | ok named => exact .inr inStore_attempt_state

/-- The delivery carries the stored result of its task, for the peer that is to have it. -/
def Entrusted (db : Sqlite.Db) (delivery : ClaimNextResultDeliveryResponse) : Prop :=
  ∃ row record result, db.resultOutbox.find delivery.deliveryId = some row ∧
    row.targetPeerId.value = delivery.targetPeerId ∧ db.terminalResults.find row.taskId = some record ∧
    Decoders.taskResultEnvelope record.encodedResult = .ok result ∧ delivery.result = some result

theorem claimNextResultDelivery_entrusts {request : ClaimNextResultDeliveryRequest} {after : Sqlite.Db}
    (success : claimNextResultDelivery runtime authorization nowMs request db = (.ok delivery, after))
    (handed : delivery.hasDelivery = true) : Entrusted after delivery := by
  simp only [claimNextResultDelivery, inStore, Session.attempt_bind_ok, Session.perform_bind_ok] at success
  obtain ⟨_, _, _, _, claimed, middle, claims, answered⟩ := success
  have answer : claimResponse claimed = .ok delivery := congrArg Prod.fst answered
  obtain rfl : middle = after := congrArg Prod.snd answered
  rcases @Sqlite.claimNextResultDelivery_cases db middle
      ⟨trim request.workerId, nowMs, max request.leaseDurationMs 1000⟩ claimed claims with
    ⟨rfl, _⟩ | ⟨outbox, record, _, _, found, rfl, rfl⟩
  · cases answer
    cases handed
  · obtain ⟨result, decoded, same⟩ := except_bind_ok.mp answer
    cases except_pure_ok.mp same
    refine ⟨_, record, result, Table.find_put_self _ _, rfl, found, except_mapError_ok.mp decoded, rfl⟩

theorem Entrusted.step [Sha256] (entrusted : Entrusted db delivery) (owned : Sqlite.Owned db) (op : Sqlite.Op) :
    Entrusted (Sqlite.step db op) delivery := by
  obtain ⟨row, record, result, found, target, stored, decoded, carried⟩ := entrusted
  obtain ⟨next, kept, moves⟩ := (Sqlite.step_rowAfter db op owned delivery.deliveryId).stored row found
  obtain ⟨_, sameTask, sameTarget⟩ := moves.identity
  refine ⟨next, record, result, kept, ?_, ?_, decoded, carried⟩
  · rw [sameTarget]
    exact target
  · rw [sameTask]
    exact Sqlite.step_keeps_result db op stored

end

end Keryx.Daemon
