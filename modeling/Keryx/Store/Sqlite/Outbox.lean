import Keryx.Store.Sqlite.Results

/-! Delivery of stored results to the peer that asked for them. -/

namespace Keryx.Store.Sqlite
open Keryx.Core Relational Relational.Transaction

def maxResultDeliveryAttempts : Nat := 10

def maxResultDeliveryRetryDelayMs : Int := 60000

def afterFailedAttempt (outbox : ResultOutboxRecord) (deadLetter : Bool) (retryAtMs nowMs : Int) (error : String) :
    ResultOutboxRecord :=
  let last := maxResultDeliveryAttempts - 1 ≤ outbox.attemptCount
  { outbox with
    state := if deadLetter = true ∨ last then .deadLettered else .pending
    attemptCount := if last then maxResultDeliveryAttempts else outbox.attemptCount + 1
    nextAttemptAtMs := retryAtMs
    leaseOwner := none
    leaseExpiresAtMs := none
    lastError := some error
    updatedAtMs := nowMs }

def expireDelivery (nowMs : Int) (outbox : ResultOutboxRecord) : ResultOutboxRecord :=
  if outbox.state = .leased ∧ outbox.leaseExpiresAtMs.any (· ≤ nowMs) then
    afterFailedAttempt outbox false nowMs nowMs "result delivery lease expired"
  else outbox

theorem expireDelivery_deliveryId (nowMs : Int) (outbox : ResultOutboxRecord) :
    (expireDelivery nowMs outbox).deliveryId = outbox.deliveryId := by
  unfold expireDelivery
  split <;> rfl

def Db.expireDeliveries (nowMs : Int) (db : Db) : Db :=
  { db with resultOutbox := db.resultOutbox.revise (expireDelivery nowMs) (expireDelivery_deliveryId nowMs) }

/-- The pending rows that are due, `ORDER BY next_attempt_at_ms, created_at_ms, delivery_id`. -/
def Db.dueDeliveries (nowMs : Int) (db : Db) : List ResultOutboxRecord :=
  (db.resultOutbox.rows.filter (fun outbox => outbox.state = .pending ∧ outbox.nextAttemptAtMs ≤ nowMs)).insertionSort
    (fun left right =>
      left.nextAttemptAtMs < right.nextAttemptAtMs ∨ (left.nextAttemptAtMs = right.nextAttemptAtMs ∧
        (left.createdAtMs < right.createdAtMs ∨
          (left.createdAtMs = right.createdAtMs ∧ left.deliveryId ≤ right.deliveryId))))

def Db.putOutbox (outbox : ResultOutboxRecord) (db : Db) : Db :=
  { db with resultOutbox := db.resultOutbox.put outbox }

def claimNextResultDelivery (workerId : String) (nowMs leaseDurationMs : Int) :
    Tx (Option (ResultOutboxRecord × TerminalResultRecord)) := do
  execute (Db.expireDeliveries nowMs)
  let due ← query (Db.dueDeliveries nowMs)
  match due.head? with
  | none => pure none
  | some outbox =>
    let claimed : ResultOutboxRecord :=
      { outbox with
        state := .leased
        leaseOwner := some workerId
        leaseExpiresAtMs := some (saturatingAddI64 nowMs (max leaseDurationMs 1))
        updatedAtMs := nowMs }
    execute (Db.putOutbox claimed)
    let stored ← query (fun db => db.terminalResults.find outbox.taskId)
    let result ← require stored (.terminalResultNotFound outbox.taskId)
    pure (some (claimed, result))

def holdsDelivery (outbox : ResultOutboxRecord) (workerId : String) (leaseExpiresAtMs nowMs : Int) : Bool :=
  outbox.state = .leased && outbox.leaseOwner = some workerId && outbox.leaseExpiresAtMs = some leaseExpiresAtMs &&
    nowMs < leaseExpiresAtMs

def fetchHeldDelivery (deliveryId workerId : String) (leaseExpiresAtMs nowMs : Int) : Tx ResultOutboxRecord := do
  let stored ← query (fun db => db.resultOutbox.find deliveryId)
  require (stored.filter (fun outbox => holdsDelivery outbox workerId leaseExpiresAtMs nowMs))
    (.resultDeliveryLeaseMismatch deliveryId)

def ackResultDelivery (deliveryId workerId : String) (leaseExpiresAtMs nowMs : Int) : Tx Unit := do
  let outbox ← fetchHeldDelivery deliveryId workerId leaseExpiresAtMs nowMs
  execute (Db.putOutbox
    { outbox with state := .delivered, leaseOwner := none, leaseExpiresAtMs := none, updatedAtMs := nowMs })

def failResultDelivery (deliveryId workerId : String) (leaseExpiresAtMs nowMs retryAtMs : Int) (error : String)
    (deadLetter : Bool) : Tx Unit := do
  let outbox ← fetchHeldDelivery deliveryId workerId leaseExpiresAtMs nowMs
  let retryAt := min retryAtMs (saturatingAddI64 nowMs maxResultDeliveryRetryDelayMs)
  execute (Db.putOutbox (afterFailedAttempt outbox deadLetter retryAt nowMs error))

end Keryx.Store.Sqlite
