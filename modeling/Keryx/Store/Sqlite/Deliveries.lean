import Keryx.Store.Sqlite.Settlement

/-! The deliveries of results, row by row, and the claims that an operation makes. -/

namespace Keryx.Store.Sqlite
open Keryx.Core Relational Relational.Transaction Relational.Run

structure Claim where
  workerId : String
  nowMs : Int
  leaseDurationMs : Int
deriving DecidableEq

def Claim.leaseExpiresAtMs (claim : Claim) : Int := saturatingAddI64 claim.nowMs (max claim.leaseDurationMs 1)

def Claim.grant (claim : Claim) (outbox : ResultOutboxRecord) : ResultOutboxRecord :=
  { outbox with
    state := .leased
    leaseOwner := some claim.workerId
    leaseExpiresAtMs := some claim.leaseExpiresAtMs
    updatedAtMs := claim.nowMs }

def afterDelivery (outbox : ResultOutboxRecord) (nowMs : Int) : ResultOutboxRecord :=
  { outbox with state := .delivered, leaseOwner := none, leaseExpiresAtMs := none, updatedAtMs := nowMs }

/-- Finitely many moves of a row, with the claims among them. -/
inductive Moves : List Claim → ResultOutboxRecord → ResultOutboxRecord → Prop
  | refl (row : ResultOutboxRecord) : Moves [] row row
  | claim {claims : List Claim} {row middle : ResultOutboxRecord} (claim : Claim) (moves : Moves claims row middle)
      (pending : middle.state = .pending) : Moves (claims ++ [claim]) row (claim.grant middle)
  | deliver {claims : List Claim} {row middle : ResultOutboxRecord} (nowMs : Int) (moves : Moves claims row middle)
      (leased : middle.state = .leased) : Moves claims row (afterDelivery middle nowMs)
  | fail {claims : List Claim} {row middle : ResultOutboxRecord} (deadLetter : Bool) (retryAtMs nowMs : Int)
      (error : String) (moves : Moves claims row middle) (leased : middle.state = .leased) :
      Moves claims row (afterFailedAttempt middle deadLetter retryAtMs nowMs error)

variable {claims later : List Claim} {row middle next : ResultOutboxRecord}

theorem Moves.trans (first : Moves claims row middle) (second : Moves later middle next) :
    Moves (claims ++ later) row next := by
  induction second with
  | refl => rwa [List.append_nil]
  | claim claim _ pending ih =>
    rw [← List.append_assoc]
    exact .claim claim (ih first) pending
  | deliver nowMs _ leased ih => exact .deliver nowMs (ih first) leased
  | fail deadLetter retryAtMs nowMs error _ leased ih => exact .fail deadLetter retryAtMs nowMs error (ih first) leased

theorem Moves.identity (moves : Moves claims row next) :
    next.deliveryId = row.deliveryId ∧ next.taskId = row.taskId ∧ next.targetPeerId = row.targetPeerId := by
  induction moves with
  | refl => exact ⟨rfl, rfl, rfl⟩
  | claim _ _ _ ih => exact ih
  | deliver _ _ _ ih => exact ih
  | fail _ _ _ _ _ _ ih => exact ih

def Settled (row : ResultOutboxRecord) : Prop := row.state = .delivered ∨ row.state = .deadLettered

theorem Moves.settled (moves : Moves claims row next) (settled : Settled row) : next = row ∧ claims = [] := by
  induction moves with
  | refl => exact ⟨rfl, rfl⟩
  | claim claim _ pending ih =>
    obtain ⟨rfl, _⟩ := ih settled
    rcases settled with state | state <;> rw [state] at pending <;> cases pending
  | deliver nowMs _ leased ih =>
    obtain ⟨rfl, _⟩ := ih settled
    rcases settled with state | state <;> rw [state] at leased <;> cases leased
  | fail deadLetter retryAtMs nowMs error _ leased ih =>
    obtain ⟨rfl, _⟩ := ih settled
    rcases settled with state | state <;> rw [state] at leased <;> cases leased

/-- A row whose lease fields agree with its state, and whose attempts are within their bound. -/
structure Sound (row : ResultOutboxRecord) : Prop where
  leased : row.state = .leased ↔ row.leaseOwner.isSome ∧ row.leaseExpiresAtMs.isSome
  bounded : row.attemptCount ≤ maxResultDeliveryAttempts
  live : row.state ≠ .deadLettered → row.attemptCount < maxResultDeliveryAttempts

theorem afterFailedAttempt_attemptCount {row : ResultOutboxRecord}
    (few : row.attemptCount < maxResultDeliveryAttempts) (deadLetter : Bool) (retryAtMs nowMs : Int) (error : String) :
    (afterFailedAttempt row deadLetter retryAtMs nowMs error).attemptCount = row.attemptCount + 1 := by
  show (if maxResultDeliveryAttempts - 1 ≤ row.attemptCount then maxResultDeliveryAttempts else row.attemptCount + 1) = _
  unfold maxResultDeliveryAttempts at few ⊢
  split <;> omega

theorem afterFailedAttempt_released (row : ResultOutboxRecord) (deadLetter : Bool) (retryAtMs nowMs : Int)
    (error : String) :
    (afterFailedAttempt row deadLetter retryAtMs nowMs error).state ≠ .leased ∧
      (afterFailedAttempt row deadLetter retryAtMs nowMs error).state ≠ .delivered := by
  unfold afterFailedAttempt
  simp only
  split <;> exact ⟨nofun, nofun⟩

theorem Sound.few (sound : Sound row) (leased : row.state = .leased) : row.attemptCount < maxResultDeliveryAttempts := by
  apply sound.live
  rw [leased]
  nofun

theorem Moves.sound (moves : Moves claims row next) (sound : Sound row) : Sound next := by
  induction moves with
  | refl => exact sound
  | claim claim _ pending ih =>
    obtain ⟨_, bounded, few⟩ := ih sound
    exact ⟨by simp [Claim.grant], bounded, fun _ => few (by rw [pending]; nofun)⟩
  | deliver nowMs _ leased ih =>
    exact ⟨by simp [afterDelivery], (ih sound).bounded, fun _ => (ih sound).few leased⟩
  | @fail _ _ middle deadLetter retryAtMs nowMs error _ leased ih =>
    have few := (ih sound).few leased
    have counted := afterFailedAttempt_attemptCount few deadLetter retryAtMs nowMs error
    refine ⟨?_, ?_, fun alive => ?_⟩
    · refine iff_of_false (afterFailedAttempt_released middle deadLetter retryAtMs nowMs error).1 ?_
      unfold afterFailedAttempt
      nofun
    · rw [counted]
      exact few
    · rw [counted]
      by_contra last
      apply alive
      unfold afterFailedAttempt
      exact if_pos (.inr (by omega))

theorem Moves.attemptCount (moves : Moves claims row next) (sound : Sound row) :
    row.attemptCount ≤ next.attemptCount := by
  induction moves with
  | refl => exact Nat.le_refl _
  | claim _ _ _ ih => exact ih sound
  | deliver _ _ _ ih => exact ih sound
  | fail deadLetter retryAtMs nowMs error moves leased ih =>
    have few := (moves.sound sound).few leased
    rw [afterFailedAttempt_attemptCount few]
    exact Nat.le_succ_of_le (ih sound)

/-- The failed attempts, and the one that is under way or has succeeded. -/
def spent (row : ResultOutboxRecord) : Nat :=
  row.attemptCount + if row.state = .leased ∨ row.state = .delivered then 1 else 0

theorem Moves.spent (moves : Moves claims row next) (sound : Sound row) : spent next = spent row + claims.length := by
  induction moves with
  | refl => rfl
  | claim claim _ pending ih =>
    have before := ih sound
    unfold Sqlite.spent at before ⊢
    rw [if_neg (by rw [pending]; nofun)] at before
    simp only [Claim.grant, List.length_append, List.length_singleton, true_or, if_true]
    omega
  | deliver nowMs _ leased ih =>
    have before := ih sound
    unfold Sqlite.spent at before ⊢
    rw [if_pos (.inl leased)] at before
    exact before
  | @fail _ _ middle deadLetter retryAtMs nowMs error moves leased ih =>
    have few := (moves.sound sound).few leased
    have before := ih sound
    obtain ⟨unleased, undelivered⟩ := afterFailedAttempt_released middle deadLetter retryAtMs nowMs error
    unfold Sqlite.spent at before ⊢
    rw [if_neg (not_or.mpr ⟨unleased, undelivered⟩), afterFailedAttempt_attemptCount few]
    rw [if_pos (.inl leased)] at before
    exact before

theorem spent_le (sound : Sound row) : spent row ≤ maxResultDeliveryAttempts := by
  unfold spent
  split
  · rename_i state
    apply sound.live
    rcases state with state | state <;> rw [state] <;> nofun
  · exact sound.bounded

variable {db after : Db} {delivery : String} {nowMs : Int}

theorem moves_expireDelivery (nowMs : Int) (row : ResultOutboxRecord) : Moves [] row (expireDelivery nowMs row) := by
  unfold expireDelivery
  split
  · rename_i expired
    exact .fail _ _ _ _ (.refl row) expired.1
  · exact .refl row

theorem find_expireDeliveries (nowMs : Int) (db : Db) (delivery : String) :
    (db.expireDeliveries nowMs).resultOutbox.find delivery =
      (db.resultOutbox.find delivery).map (expireDelivery nowMs) :=
  Table.find_revise _ _ (expireDelivery_deliveryId nowMs) _

theorem dueDeliveries_head (first : (db.dueDeliveries nowMs).head? = some row) :
    db.resultOutbox.find row.deliveryId = some row ∧ row.state = .pending := by
  have member := List.mem_of_head? first
  rw [Db.dueDeliveries, List.mem_insertionSort, List.mem_filter] at member
  obtain ⟨stored, due⟩ := member
  exact ⟨Table.find_of_mem stored, (of_decide_eq_true due).1⟩

theorem claimNextResultDelivery_cases {claim : Claim} {value : Option (ResultOutboxRecord × TerminalResultRecord)}
    (success : claimNextResultDelivery claim.workerId claim.nowMs claim.leaseDurationMs db = .ok (value, after)) :
    (value = none ∧ after = db.expireDeliveries claim.nowMs) ∨
      ∃ outbox result, (db.expireDeliveries claim.nowMs).resultOutbox.find outbox.deliveryId = some outbox ∧
        outbox.state = .pending ∧ db.terminalResults.find outbox.taskId = some result ∧
        value = some (claim.grant outbox, result) ∧
        after = (db.expireDeliveries claim.nowMs).putOutbox (claim.grant outbox) := by
  simp only [claimNextResultDelivery, execute_bind, query_bind] at success
  cases first : ((db.expireDeliveries claim.nowMs).dueDeliveries claim.nowMs).head? with
  | none =>
    rw [first] at success
    obtain ⟨rfl, rfl⟩ := Prod.mk.inj (pure_ok.mp success)
    exact .inl ⟨rfl, rfl⟩
  | some outbox =>
    simp only [first, execute_bind, query_bind, require_bind, pure_ok] at success
    obtain ⟨result, found, same⟩ := success
    obtain ⟨rfl, rfl⟩ := Prod.mk.inj same
    obtain ⟨stored, pending⟩ := dueDeliveries_head first
    exact .inr ⟨outbox, result, stored, pending, found, rfl, rfl⟩

theorem fetchHeldDelivery_bind {α : Type} {workerId : String} {leaseExpiresAtMs : Int} {rest : ResultOutboxRecord → Tx α}
    {result : α × Db} :
    (fetchHeldDelivery delivery workerId leaseExpiresAtMs nowMs >>= rest) db = .ok result ↔
      ∃ outbox, db.resultOutbox.find delivery = some outbox ∧
        holdsDelivery outbox workerId leaseExpiresAtMs nowMs = true ∧ rest outbox db = .ok result := by
  simp only [fetchHeldDelivery, bind_assoc, query_bind, require_bind, Option.filter_eq_some_iff, and_assoc]

theorem holdsDelivery_iff {workerId : String} {leaseExpiresAtMs : Int} :
    holdsDelivery row workerId leaseExpiresAtMs nowMs = true ↔
      row.state = .leased ∧ row.leaseOwner = some workerId ∧ row.leaseExpiresAtMs = some leaseExpiresAtMs ∧
        nowMs < leaseExpiresAtMs := by
  simp [holdsDelivery, and_assoc]

def handed (delivery : String) (db : Db) : Op → List Claim
  | .claimNextResultDelivery workerId nowMs leaseDurationMs =>
    match (commit (claimNextResultDelivery workerId nowMs leaseDurationMs) db).1 with
    | .ok (some (outbox, _)) => if outbox.deliveryId = delivery then [⟨workerId, nowMs, leaseDurationMs⟩] else []
    | _ => []
  | _ => []

/-- What an operation does to one row: it moves it, or it makes it for a new result. -/
structure RowAfter (delivery : String) (db : Db) (op : Op) (after : Db) : Prop where
  stored : ∀ row, db.resultOutbox.find delivery = some row →
    ∃ next, after.resultOutbox.find delivery = some next ∧ Moves (handed delivery db op) row next
  unclaimed : db.resultOutbox.find delivery = none → handed delivery db op = []
  fresh : ∀ next, db.resultOutbox.find delivery = none → after.resultOutbox.find delivery = some next →
    ∃ result, op.settles = some result ∧ makeOutbox result = some next

theorem RowAfter.same {op : Op} (unhanded : handed delivery db op = [])
    (same : after.resultOutbox.find delivery = db.resultOutbox.find delivery) : RowAfter delivery db op after := by
  refine ⟨fun row found => ⟨row, same.trans found, ?_⟩, fun _ => unhanded, fun next absent found => ?_⟩
  · rw [unhanded]
    exact .refl row
  · rw [same, absent] at found
    cases found

theorem claim_rowAfter (claim : Claim) (db : Db) (delivery : String) :
    RowAfter delivery db (.claimNextResultDelivery claim.workerId claim.nowMs claim.leaseDurationMs)
      (commit (claimNextResultDelivery claim.workerId claim.nowMs claim.leaseDurationMs) db).2 := by
  have expires : ∀ (claims : List Claim) (row : ResultOutboxRecord), claims = [] →
      Moves claims row (expireDelivery claim.nowMs row) := by
    rintro _ row rfl
    exact moves_expireDelivery claim.nowMs row
  rcases commit_cases (claimNextResultDelivery claim.workerId claim.nowMs claim.leaseDurationMs) db with
    ⟨failure, failed⟩ | ⟨value, after, success, committed⟩
  · apply RowAfter.same
    · rw [handed, failed]
    · rw [failed]
  · rcases claimNextResultDelivery_cases success with ⟨rfl, rfl⟩ | ⟨outbox, result, stored, pending, _, rfl, rfl⟩
    · have unhanded : handed delivery db
          (.claimNextResultDelivery claim.workerId claim.nowMs claim.leaseDurationMs) = [] := by rw [handed, committed]
      rw [committed]
      refine ⟨fun row found => ⟨expireDelivery claim.nowMs row, ?_, expires _ row unhanded⟩, fun _ => unhanded,
        fun next absent found => ?_⟩
      · rw [find_expireDeliveries, found, Option.map_some]
      · rw [find_expireDeliveries, absent] at found
        cases found
    · have hands : handed delivery db (.claimNextResultDelivery claim.workerId claim.nowMs claim.leaseDurationMs) =
          if outbox.deliveryId = delivery then [claim] else [] := by rw [handed, committed]; rfl
      rw [committed]
      rw [find_expireDeliveries] at stored
      obtain ⟨claimed, before, expired⟩ := Option.map_eq_some_iff.mp stored
      have read : ∀ other, ((db.expireDeliveries claim.nowMs).putOutbox (claim.grant outbox)).resultOutbox.find other =
          if other = outbox.deliveryId then some (claim.grant outbox)
          else (db.resultOutbox.find other).map (expireDelivery claim.nowMs) := by
        intro other
        rw [← find_expireDeliveries]
        exact Table.find_put _ _ other
      by_cases own : outbox.deliveryId = delivery
      · subst own
        rw [if_pos rfl] at hands
        have moved := moves_expireDelivery claim.nowMs claimed
        rw [expired] at moved
        refine ⟨fun row found => ⟨claim.grant outbox, ?_, ?_⟩, fun absent => ?_, fun next absent _ => ?_⟩
        · rw [read, if_pos rfl]
        · cases before.symm.trans found
          rw [hands]
          exact .claim claim moved pending
        · rw [before] at absent
          cases absent
        · rw [before] at absent
          cases absent
      · rw [if_neg own] at hands
        have different : delivery ≠ outbox.deliveryId := fun same => own same.symm
        refine ⟨fun row found => ⟨expireDelivery claim.nowMs row, ?_, expires _ row hands⟩, fun _ => hands,
          fun next absent found => ?_⟩
        · rw [read, if_neg different, found, Option.map_some]
        · rw [read, if_neg different, absent] at found
          cases found

theorem RowAfter.put {op : Op} (unhanded : handed delivery db op = []) {changed : ResultOutboxRecord}
    (found : db.resultOutbox.find changed.deliveryId = some row) (moves : Moves [] row changed) :
    RowAfter delivery db op (db.putOutbox changed) := by
  have read : (db.putOutbox changed).resultOutbox.find delivery =
      if delivery = changed.deliveryId then some changed else db.resultOutbox.find delivery :=
    Table.find_put _ _ delivery
  by_cases own : delivery = changed.deliveryId
  · subst own
    rw [if_pos rfl] at read
    refine ⟨fun stored present => ⟨changed, read, ?_⟩, fun _ => unhanded, fun next absent _ => ?_⟩
    · cases found.symm.trans present
      rw [unhanded]
      exact moves
    · rw [found] at absent
      cases absent
  · rw [if_neg own] at read
    exact .same unhanded read

theorem ack_rowAfter (target workerId : String) (leaseExpiresAtMs nowMs : Int) (db : Db) (delivery : String) :
    RowAfter delivery db (.ackResultDelivery target workerId leaseExpiresAtMs nowMs)
      (commit (ackResultDelivery target workerId leaseExpiresAtMs nowMs) db).2 := by
  rcases commit_cases (ackResultDelivery target workerId leaseExpiresAtMs nowMs) db with
    ⟨failure, failed⟩ | ⟨value, after, success, committed⟩
  · rw [failed]
    exact .same rfl rfl
  · rw [committed]
    rw [ackResultDelivery, fetchHeldDelivery_bind] at success
    obtain ⟨outbox, found, holds, written⟩ := success
    obtain ⟨_, rfl⟩ := Prod.mk.inj (execute_ok.mp written)
    have owner : outbox.deliveryId = target := Table.find_key found
    rw [← owner] at found
    have moves : Moves [] outbox (afterDelivery outbox nowMs) :=
      .deliver nowMs (.refl outbox) (holdsDelivery_iff.mp holds).1
    exact .put rfl found moves

theorem fail_rowAfter (target workerId : String) (leaseExpiresAtMs nowMs retryAtMs : Int) (error : String)
    (deadLetter : Bool) (db : Db) (delivery : String) :
    RowAfter delivery db (.failResultDelivery target workerId leaseExpiresAtMs nowMs retryAtMs error deadLetter)
      (commit (failResultDelivery target workerId leaseExpiresAtMs nowMs retryAtMs error deadLetter) db).2 := by
  rcases commit_cases (failResultDelivery target workerId leaseExpiresAtMs nowMs retryAtMs error deadLetter) db with
    ⟨failure, failed⟩ | ⟨value, after, success, committed⟩
  · rw [failed]
    exact .same rfl rfl
  · rw [committed]
    rw [failResultDelivery, fetchHeldDelivery_bind] at success
    obtain ⟨outbox, found, holds, written⟩ := success
    obtain ⟨_, rfl⟩ := Prod.mk.inj (execute_ok.mp written)
    have owner : outbox.deliveryId = target := Table.find_key found
    rw [← owner] at found
    refine RowAfter.put rfl ?_ (.fail deadLetter _ nowMs error (.refl outbox) (holdsDelivery_iff.mp holds).1)
    exact found

theorem deliveryId_inj {left right : TaskId} (same : deliveryId left = deliveryId right) : left = right :=
  Identifier.eq_of_value ((String.append_right_inj _).mp same)

variable {result : TerminalResultRecord}

theorem makeOutbox_some :
    makeOutbox result = some row →
      row.deliveryId = deliveryId result.taskId ∧ row.taskId = result.taskId ∧ result.returnPeerId = some row.targetPeerId ∧
        row.state = .pending ∧ row.attemptCount = 0 ∧ row.leaseOwner = none ∧ row.leaseExpiresAtMs = none := by
  intro made
  obtain ⟨target, returns, rfl⟩ := Option.map_eq_some_iff.mp made
  exact ⟨rfl, rfl, returns, rfl, rfl, rfl, rfl⟩

/-- Every row delivers a stored result, under the id of that result's task. -/
def Owned (db : Db) : Prop :=
  ∀ delivery row, db.resultOutbox.find delivery = some row →
    delivery = deliveryId row.taskId ∧ (db.terminalResults.find row.taskId).isSome

theorem handed_of_not_delivers {op : Op} (idle : op.delivers = false) : handed delivery db op = [] := by
  cases op with
  | claimNextResultDelivery => cases idle
  | _ => rfl

theorem Owned.unused (owned : Owned db)
    (unsettled : db.terminalResults.find result.taskId = none) : db.resultOutbox.find (deliveryId result.taskId) = none := by
  cases found : db.resultOutbox.find (deliveryId result.taskId) with
  | none => rfl
  | some row =>
    obtain ⟨same, stored⟩ := owned _ row found
    rw [← deliveryId_inj same, unsettled] at stored
    cases stored

theorem isSome_find_put {taskId : TaskId}
    (stored : (db.terminalResults.find taskId).isSome) : ((db.terminalResults.put result).find taskId).isSome := by
  rw [Table.find_put]
  split
  · rfl
  · exact stored

theorem makeOutbox_sound (made : makeOutbox result = some row) : Sound row ∧ spent row = 0 := by
  obtain ⟨_, _, _, state, attempts, owner, expiry⟩ := makeOutbox_some made
  refine ⟨⟨by simp [state, owner], by rw [attempts]; decide, fun _ => by rw [attempts]; decide⟩, ?_⟩
  simp [spent, state, attempts]

theorem expireDelivery_delivered (delivered : (expireDelivery nowMs row).state = .delivered) :
    expireDelivery nowMs row = row := by
  unfold expireDelivery at delivered ⊢
  split at delivered
  · exact absurd delivered (afterFailedAttempt_released row _ _ _ _).2
  · rename_i current
    exact if_neg current

theorem find_putOutbox_delivered {changed : ResultOutboxRecord} (undelivered : changed.state ≠ .delivered)
    (found : (db.putOutbox changed).resultOutbox.find delivery = some next) (delivered : next.state = .delivered) :
    db.resultOutbox.find delivery = some next := by
  have read : (db.putOutbox changed).resultOutbox.find delivery =
      if delivery = changed.deliveryId then some changed else db.resultOutbox.find delivery :=
    Table.find_put _ _ delivery
  rw [read] at found
  split at found
  · cases found
    exact absurd delivered undelivered
  · exact found

theorem claim_delivered (claim : Claim)
    (found : (commit (claimNextResultDelivery claim.workerId claim.nowMs claim.leaseDurationMs) db).2.resultOutbox.find
      delivery = some next) (delivered : next.state = .delivered) : db.resultOutbox.find delivery = some next := by
  have expired : (db.expireDeliveries claim.nowMs).resultOutbox.find delivery = some next →
      db.resultOutbox.find delivery = some next := by
    intro found
    rw [find_expireDeliveries] at found
    obtain ⟨row, stored, rfl⟩ := Option.map_eq_some_iff.mp found
    rw [expireDelivery_delivered delivered]
    exact stored
  rcases commit_cases (claimNextResultDelivery claim.workerId claim.nowMs claim.leaseDurationMs) db with
    ⟨failure, failed⟩ | ⟨value, after, success, committed⟩
  · rw [failed] at found
    exact found
  · rw [committed] at found
    rcases claimNextResultDelivery_cases success with ⟨_, rfl⟩ | ⟨outbox, _, _, _, _, _, rfl⟩
    · exact expired found
    · have leased : (claim.grant outbox).state ≠ .delivered := nofun
      exact expired (find_putOutbox_delivered leased found delivered)

theorem ack_delivered (target workerId : String) (leaseExpiresAtMs nowMs : Int)
    (found : (commit (ackResultDelivery target workerId leaseExpiresAtMs nowMs) db).2.resultOutbox.find delivery =
      some next) : db.resultOutbox.find delivery = some next ∨ target = delivery := by
  rcases commit_cases (ackResultDelivery target workerId leaseExpiresAtMs nowMs) db with
    ⟨failure, failed⟩ | ⟨value, after, success, committed⟩
  · rw [failed] at found
    exact .inl found
  · rw [committed] at found
    rw [ackResultDelivery, fetchHeldDelivery_bind] at success
    obtain ⟨outbox, present, _, written⟩ := success
    obtain ⟨_, rfl⟩ := Prod.mk.inj (execute_ok.mp written)
    have owner : outbox.deliveryId = target := Table.find_key present
    by_cases own : delivery = target
    · exact .inr own.symm
    · have read : (db.putOutbox (afterDelivery outbox nowMs)).resultOutbox.find delivery =
          db.resultOutbox.find delivery := by
        refine Table.find_put_ne _ _ ?_
        rw [← owner] at own
        exact own
      exact .inl (read.symm.trans found)

theorem fail_delivered (target workerId : String) (leaseExpiresAtMs nowMs retryAtMs : Int) (error : String)
    (deadLetter : Bool)
    (found : (commit (failResultDelivery target workerId leaseExpiresAtMs nowMs retryAtMs error deadLetter)
      db).2.resultOutbox.find delivery = some next) (delivered : next.state = .delivered) :
    db.resultOutbox.find delivery = some next := by
  rcases commit_cases (failResultDelivery target workerId leaseExpiresAtMs nowMs retryAtMs error deadLetter) db with
    ⟨failure, failed⟩ | ⟨value, after, success, committed⟩
  · rw [failed] at found
    exact found
  · rw [committed] at found
    rw [failResultDelivery, fetchHeldDelivery_bind] at success
    obtain ⟨outbox, _, _, written⟩ := success
    obtain ⟨_, rfl⟩ := Prod.mk.inj (execute_ok.mp written)
    exact find_putOutbox_delivered (afterFailedAttempt_released outbox _ _ _ _).2 found delivered

section
variable [Sha256]

theorem delivers_rowAfter (db : Db) {op : Op} (delivers : op.delivers = true) (delivery : String) :
    op.settles = none ∧ RowAfter delivery db op (step db op) := by
  cases op with
  | claimNextResultDelivery workerId nowMs leaseDurationMs =>
    exact ⟨rfl, claim_rowAfter ⟨workerId, nowMs, leaseDurationMs⟩ db delivery⟩
  | ackResultDelivery target workerId leaseExpiresAtMs nowMs =>
    exact ⟨rfl, ack_rowAfter target workerId leaseExpiresAtMs nowMs db delivery⟩
  | failResultDelivery target workerId leaseExpiresAtMs nowMs retryAtMs error deadLetter =>
    exact ⟨rfl, fail_rowAfter target workerId leaseExpiresAtMs nowMs retryAtMs error deadLetter db delivery⟩
  | _ => cases delivers

theorem step_rowAfter (db : Db) (op : Op) (owned : Owned db) (delivery : String) :
    RowAfter delivery db op (step db op) := by
  cases delivers : op.delivers with
  | true => exact (delivers_rowAfter db delivers delivery).2
  | false =>
    have unhanded : handed delivery db op = [] := handed_of_not_delivers delivers
    cases step_results db op with
    | kept _ rows => exact .same unhanded (by rw [rows])
    | ingested _ _ _ _ rows => exact .same unhanded (by rw [rows])
    | delivering active =>
      rw [delivers] at active
      cases active
    | settled result brings unsettled _ rows =>
      cases made : makeOutbox result with
      | none =>
        rw [made] at rows
        exact .same unhanded (by rw [rows]; rfl)
      | some row =>
        have key : row.deliveryId = deliveryId result.taskId := (makeOutbox_some made).1
        rw [made] at rows
        have read : (step db op).resultOutbox.find delivery =
            if delivery = row.deliveryId then some row else db.resultOutbox.find delivery := by
          rw [rows]
          exact Table.find_put _ _ delivery
        by_cases own : delivery = row.deliveryId
        · have absent : db.resultOutbox.find delivery = none := by
            rw [own, key]
            exact owned.unused unsettled
          rw [if_pos own] at read
          refine ⟨fun stored present => ?_, fun _ => unhanded, fun next _ found => ?_⟩
          · rw [absent] at present
            cases present
          · cases read.symm.trans found
            exact ⟨result, brings, made⟩
        · rw [if_neg own] at read
          exact .same unhanded read

theorem step_owned (db : Db) (op : Op) (owned : Owned db) : Owned (step db op) := by
  intro delivery next found
  have after := step_rowAfter db op owned delivery
  cases before : db.resultOutbox.find delivery with
  | some row =>
    obtain ⟨moved, read, moves⟩ := after.stored row before
    cases read.symm.trans found
    obtain ⟨key, stored⟩ := owned delivery row before
    obtain ⟨_, sameTask, _⟩ := moves.identity
    rw [sameTask]
    refine ⟨key, ?_⟩
    cases step_results db op with
    | kept results => rwa [results]
    | settled _ _ _ results =>
      rw [results]
      exact isSome_find_put stored
    | ingested _ _ _ results =>
      rw [results]
      exact isSome_find_put stored
    | delivering _ results => rwa [results]
  | none =>
    obtain ⟨result, brings, made⟩ := after.fresh next before found
    obtain ⟨key, sameTask, _⟩ := makeOutbox_some made
    have named : delivery = next.deliveryId := (Table.find_key found).symm
    refine ⟨?_, ?_⟩
    · rw [named, key, sameTask]
    · cases step_results db op with
      | kept _ rows =>
        rw [rows, before] at found
        cases found
      | settled settled settles _ results =>
        cases brings.symm.trans settles
        rw [results, sameTask, Table.find_put_self]
        rfl
      | ingested _ _ _ _ rows =>
        rw [rows, before] at found
        cases found
      | delivering delivers =>
        have idle := (delivers_rowAfter db delivers delivery).1
        rw [brings] at idle
        cases idle

theorem step_delivered (db : Db) (op : Op) (found : (step db op).resultOutbox.find delivery = some next)
    (delivered : next.state = .delivered) :
    db.resultOutbox.find delivery = some next ∨
      ∃ workerId leaseExpiresAtMs nowMs, op = .ackResultDelivery delivery workerId leaseExpiresAtMs nowMs := by
  cases delivers : op.delivers with
  | true =>
    cases op with
    | claimNextResultDelivery workerId nowMs leaseDurationMs =>
      exact .inl (claim_delivered ⟨workerId, nowMs, leaseDurationMs⟩ found delivered)
    | ackResultDelivery target workerId leaseExpiresAtMs nowMs =>
      rcases ack_delivered target workerId leaseExpiresAtMs nowMs found with same | rfl
      · exact .inl same
      · exact .inr ⟨workerId, leaseExpiresAtMs, nowMs, rfl⟩
    | failResultDelivery target workerId leaseExpiresAtMs nowMs retryAtMs error deadLetter =>
      exact .inl (fail_delivered target workerId leaseExpiresAtMs nowMs retryAtMs error deadLetter found delivered)
    | _ => cases delivers
  | false =>
    left
    cases step_results db op with
    | kept _ rows => rwa [rows] at found
    | ingested _ _ _ _ rows => rwa [rows] at found
    | delivering active =>
      rw [delivers] at active
      cases active
    | settled result brings unsettled _ rows =>
      rw [rows] at found
      cases made : makeOutbox result with
      | none =>
        rw [made] at found
        exact found
      | some row =>
        rw [made] at found
        obtain ⟨_, _, _, pending, _⟩ := makeOutbox_some made
        refine find_putOutbox_delivered ?_ found delivered
        rw [pending]
        nofun

theorem run_owned (ops : List Op) : Owned (run step Db.empty ops) :=
  Run.always Owned step_owned (fun _ _ found => by cases found) ops

def claimsOf (delivery : String) : Db → List Op → List Claim
  | _, [] => []
  | db, op :: ops => handed delivery db op ++ claimsOf delivery (step db op) ops

theorem run_moves (db : Db) (ops : List Op) (owned : Owned db) (found : db.resultOutbox.find delivery = some row) :
    ∃ next, (run step db ops).resultOutbox.find delivery = some next ∧ Moves (claimsOf delivery db ops) row next := by
  induction ops generalizing db row with
  | nil => exact ⟨row, found, .refl row⟩
  | cons op ops ih =>
    obtain ⟨middle, stepped, first⟩ := (step_rowAfter db op owned delivery).stored row found
    obtain ⟨next, reached, rest⟩ := ih (step db op) (step_owned db op owned) stepped
    exact ⟨next, reached, first.trans rest⟩

theorem run_made (db : Db) (ops : List Op) (owned : Owned db) (absent : db.resultOutbox.find delivery = none)
    (found : (run step db ops).resultOutbox.find delivery = some next) :
    ∃ result row, makeOutbox result = some row ∧ Moves (claimsOf delivery db ops) row next := by
  induction ops generalizing db with
  | nil =>
    rw [run_nil, absent] at found
    cases found
  | cons op ops ih =>
    have after := step_rowAfter db op owned delivery
    rw [run_cons] at found
    rw [claimsOf, after.unclaimed absent, List.nil_append]
    cases stepped : (step db op).resultOutbox.find delivery with
    | none => exact ih (step db op) (step_owned db op owned) stepped found
    | some row =>
      obtain ⟨result, _, made⟩ := after.fresh row absent stepped
      obtain ⟨last, reached, moves⟩ := run_moves (step db op) ops (step_owned db op owned) stepped
      cases reached.symm.trans found
      exact ⟨result, row, made, moves⟩

theorem run_sound (history : List Op) (present : (run step Db.empty history).resultOutbox.find delivery = some row) :
    Sound row ∧ spent row = (claimsOf delivery Db.empty history).length := by
  obtain ⟨result, first, made, moves⟩ := run_made Db.empty history (run_owned []) rfl present
  obtain ⟨sound, unspent⟩ := makeOutbox_sound made
  refine ⟨moves.sound sound, ?_⟩
  rw [moves.spent sound, unspent, Nat.zero_add]

end

end Keryx.Store.Sqlite
