import Keryx.Store.Sqlite.Claims

/-! Stored results, the tasks that they end and the deliveries that return them. -/

namespace Keryx.Store.Sqlite
open Keryx.Core Relational Relational.Transaction Relational.Run Lifecycle

/-- Results as the daemon builds them. -/
def Op.DaemonBuilt : Op → Prop
  | .completeTaskWithResult _ _ _ result => result.terminalStatus = .completed
  | .failTaskWithResult _ _ _ _ _ result => result.terminalStatus = .failed
  | .cancelTaskWithResult _ _ _ _ result => result.terminalStatus = .failed
  | .ingestRemoteResultWithArtifacts result _ _ => result.returnPeerId = none
  | _ => True

variable {db after : Db} {op : Op} {taskId : TaskId}

theorem permits_reports {action : Action} (built : op.DaemonBuilt) (foreign : op.ingests = none)
    (permitted : op.permits taskId action) : action.Reports := by
  intro change keepsLease result same task changed eventType applies
  subst same
  cases op with
  | completeTaskWithResult =>
    obtain ⟨_, same⟩ := permitted
    cases same
    cases applies
    exact built.symm
  | failTaskWithResult =>
    obtain ⟨_, same | same | same | same⟩ := permitted
    · cases same
      cases applies
      exact built.symm
    · cases same
    · cases same
      cases applies
      exact built.symm
    · cases same
  | cancelTaskWithResult =>
    obtain ⟨_, same⟩ := permitted
    cases same
    cases applies
    exact built.symm
  | ingestRemoteResultWithArtifacts => cases foreign
  | _ => simp [Op.permits] at permitted

theorem reports_none {change : Change} {keepsLease : Bool} : (Action.advance change keepsLease none).Reports := by
  intro _ _ _ same
  cases same

variable {result : TerminalResultRecord}

theorem reports_complete {keepsLease : Bool} (ended : result.terminalStatus = .completed) :
    (Action.advance .complete keepsLease (some result)).Reports := by
  intro _ _ _ same task changed eventType applies
  cases same
  cases applies
  exact ended.symm

theorem reports_fail {keepsLease : Bool} (ended : result.terminalStatus = .failed) :
    (Action.advance .fail keepsLease (some result)).Reports := by
  intro _ _ _ same task changed eventType applies
  cases same
  cases applies
  exact ended.symm

section
variable [Sha256]

theorem step_reports (db : Db) (built : op.DaemonBuilt) : db.Evolves (fun _ => Action.Reports) (step db op) := by
  cases arrives : op.ingests with
  | none => exact (step_refines db op).mono fun taskId action permitted => permits_reports built arrives permitted
  | some result =>
    cases op with
    | ingestRemoteResultWithArtifacts =>
      exact ingestRemoteResultWithArtifacts_evolves reports_none reports_complete reports_fail
    | _ => cases arrives

theorem step_reported (db : Db) (built : op.DaemonBuilt) (reported : ∀ taskId, Reported (db.cell taskId))
    (taskId : TaskId) : Reported ((step db op).cell taskId) :=
  (step_reports db built).invariant (fun _ => Reported) (fun _ _ _ _ reports step kept => step.reported kept reports)
    reported taskId

end

/-- A delivery exists for a result with a return peer, and targets that peer. -/
def Returned (db : Db) : Prop :=
  ∀ taskId, (db.resultOutbox.find (deliveryId taskId)).map (·.targetPeerId) =
    (db.terminalResults.find taskId).bind (·.returnPeerId)

theorem Returned.put (returned : Returned db) (results : after.terminalResults = db.terminalResults.put result)
    (own : (after.resultOutbox.find (deliveryId result.taskId)).map (·.targetPeerId) = result.returnPeerId)
    (others : ∀ taskId, taskId ≠ result.taskId →
      after.resultOutbox.find (deliveryId taskId) = db.resultOutbox.find (deliveryId taskId)) : Returned after := by
  intro taskId
  rw [results]
  by_cases same : taskId = result.taskId
  · subst same
    rw [Table.find_put_self, own]
    rfl
  · rw [others taskId same, Table.find_put, if_neg same]
    exact returned taskId

section
variable [Sha256]

theorem step_returned (db : Db) (built : op.DaemonBuilt) (owned : Owned db) (returned : Returned db) :
    Returned (step db op) := by
  cases step_results db op with
  | kept results rows =>
    intro taskId
    rw [results, rows]
    exact returned taskId
  | settled result brings unsettled results rows =>
    have unused := owned.unused unsettled
    cases made : makeOutbox result with
    | none =>
      rw [made] at rows
      refine returned.put results ?_ fun taskId _ => by rw [rows]; rfl
      rw [rows]
      refine (congrArg _ unused).trans ?_
      exact (Option.map_eq_none_iff.mp made).symm
    | some row =>
      rw [made] at rows
      obtain ⟨key, _, target, _⟩ := makeOutbox_some made
      refine returned.put results ?_ fun taskId different => ?_
      · rw [rows, ← key]
        refine (congrArg _ (Table.find_put_self _ _)).trans ?_
        exact target.symm
      · rw [rows]
        refine (Table.find_put _ row _).trans (if_neg fun same => different ?_)
        have sameKey : deliveryId taskId = row.deliveryId := same
        exact deliveryId_inj (sameKey.trans key)
  | ingested result brings unsettled results rows =>
    have unreturned : result.returnPeerId = none := by
      cases op with
      | ingestRemoteResultWithArtifacts =>
        cases brings
        exact built
      | _ => cases brings
    refine returned.put results ?_ fun taskId _ => by rw [rows]
    rw [rows, owned.unused unsettled, unreturned]
    rfl
  | delivering delivers results =>
    intro taskId
    rw [results, ← returned taskId]
    obtain ⟨silent, moved⟩ := delivers_rowAfter db delivers (deliveryId taskId)
    cases before : db.resultOutbox.find (deliveryId taskId) with
    | some row =>
      obtain ⟨next, found, moves⟩ := moved.stored row before
      rw [found]
      exact congrArg some moves.identity.2.2
    | none =>
      cases found : (step db op).resultOutbox.find (deliveryId taskId) with
      | none => rfl
      | some next =>
        obtain ⟨result, brings, _⟩ := moved.fresh next before found
        rw [silent] at brings
        cases brings

/-- What results and deliveries have in common in every state that the daemon reaches. -/
structure Accounted (db : Db) : Prop where
  reported : ∀ taskId, Reported (db.cell taskId)
  owned : Owned db
  returned : Returned db

theorem run_accounted (ops : List Op) (built : ∀ op ∈ ops, op.DaemonBuilt) : Accounted (run step Db.empty ops) := by
  refine Run.invariant ?_ ?_ (Run.along_of_mem Db.empty built)
  · intro db op accounted last
    obtain ⟨reported, owned, returned⟩ := accounted
    exact ⟨step_reported db last reported, step_owned db op owned, step_returned db last owned returned⟩
  · refine ⟨?_, run_owned [], fun _ => rfl⟩
    intro taskId result stored
    cases stored

end

theorem Accounted.rows (accounted : Accounted db) {row : ResultOutboxRecord} (member : row ∈ db.resultOutbox.rows) :
    ∃ result, db.terminalResults.find row.taskId = some result ∧ result.returnPeerId = some row.targetPeerId := by
  have found : db.resultOutbox.find row.deliveryId = some row := Table.find_of_mem member
  have key := (accounted.owned _ row found).1
  rw [key] at found
  have target := accounted.returned row.taskId
  rw [found] at target
  obtain ⟨result, stored, returns⟩ := Option.bind_eq_some_iff.mp target.symm
  exact ⟨result, stored, returns⟩

theorem Accounted.undelivered (accounted : Accounted db) (absent : db.terminalResults.find taskId = none) :
    ∀ row ∈ db.resultOutbox.rows, row.taskId ≠ taskId := by
  intro row member same
  obtain ⟨result, stored, _⟩ := accounted.rows member
  rw [same, absent] at stored
  cases stored

theorem failTaskWithResult_requeues {leaseId : LeaseId} {workerId : AgentId} {errorReason : String} {policy : RetryPolicy}
    {value : TaskRecord} (reported : Reported (db.cell taskId))
    (failed : result.terminalStatus = .failed) (requeued : value.status ≠ .failed)
    (success : failTaskWithResult taskId leaseId workerId errorReason policy result db = .ok (value, after)) :
    db.terminalResults.find taskId = none ∧ after.beyondTasks = db.beyondTasks := by
  obtain ⟨_, concludes⟩ := failTaskWithResult_ok.mp success
  cases concludes with
  | repeated stored present =>
    obtain ⟨task, found, _, status⟩ := reported result stored
    cases present.symm.trans found
    exact absurd (status.trans failed) requeued
  | taken unsettled owns present running applies =>
    rcases applies.of_failure with ⟨_, ⟨_, _, rfl⟩ | ⟨_, _, rfl⟩ | ⟨_, _, rfl⟩⟩
    · exact absurd rfl requeued
    · exact ⟨unsettled, rfl⟩
    · exact absurd rfl requeued

/-- A result belongs to a task that ended with its status, a failure that requeues its task leaves none, and the
deliveries are those of the results with a return peer, one for each. -/
theorem results_and_deliveries_agree [Sha256] (ops : List Op) (built : ∀ op ∈ ops, op.DaemonBuilt) :
    (∀ taskId result, (run step Db.empty ops).terminalResults.find taskId = some result →
      ∃ task, (run step Db.empty ops).tasks.find taskId = some task ∧ task.status.isTerminal = true ∧
        task.status = result.terminalStatus) ∧
    (∀ taskId task, (run step Db.empty ops).tasks.find taskId = some task → task.status.isTerminal = false →
      (run step Db.empty ops).terminalResults.find taskId = none ∧
        ∀ row ∈ (run step Db.empty ops).resultOutbox.rows, row.taskId ≠ taskId) ∧
    (∀ taskId leaseId workerId errorReason policy result value after, result.terminalStatus = .failed →
      failTaskWithResult taskId leaseId workerId errorReason policy result (run step Db.empty ops) = .ok (value, after) →
      value.status ≠ .failed →
      after.terminalResults.find taskId = none ∧ ∀ row ∈ after.resultOutbox.rows, row.taskId ≠ taskId) ∧
    (∀ taskId peerId, (∃ row ∈ (run step Db.empty ops).resultOutbox.rows,
        row.taskId = taskId ∧ row.targetPeerId = peerId) ↔
      ∃ result, (run step Db.empty ops).terminalResults.find taskId = some result ∧ result.returnPeerId = some peerId) ∧
    ∀ row ∈ (run step Db.empty ops).resultOutbox.rows, ∀ other ∈ (run step Db.empty ops).resultOutbox.rows,
      row.taskId = other.taskId → row = other := by
  have accounted := run_accounted ops built
  refine ⟨fun taskId => accounted.reported taskId, ?_, ?_, ?_, ?_⟩
  · intro taskId task present unfinished
    have absent : (run step Db.empty ops).terminalResults.find taskId = none := by
      cases stored : (run step Db.empty ops).terminalResults.find taskId with
      | none => rfl
      | some result =>
        obtain ⟨ended, found, terminal, _⟩ := accounted.reported taskId result stored
        cases present.symm.trans found
        rw [unfinished] at terminal
        cases terminal
    exact ⟨absent, accounted.undelivered absent⟩
  · intro taskId leaseId workerId errorReason policy result value after failed success requeued
    obtain ⟨absent, same⟩ := failTaskWithResult_requeues (accounted.reported taskId) failed requeued success
    have results := congrArg Db.terminalResults same
    have rows := congrArg Db.resultOutbox same
    change after.terminalResults = _ at results
    change after.resultOutbox = _ at rows
    rw [results, rows]
    exact ⟨absent, accounted.undelivered absent⟩
  · intro taskId peerId
    constructor
    · rintro ⟨row, member, rfl, rfl⟩
      exact accounted.rows member
    · rintro ⟨result, stored, returns⟩
      have target := accounted.returned taskId
      rw [stored, Option.bind_some, returns] at target
      obtain ⟨row, found, same⟩ := Option.map_eq_some_iff.mp target
      have key := (accounted.owned _ row found).1
      exact ⟨row, Table.find_mem found, (deliveryId_inj key).symm, same⟩
  · intro row member other otherMember same
    have found : (run step Db.empty ops).resultOutbox.find row.deliveryId = some row := Table.find_of_mem member
    have otherFound : (run step Db.empty ops).resultOutbox.find other.deliveryId = some other :=
      Table.find_of_mem otherMember
    rw [(accounted.owned _ row found).1, same] at found
    rw [(accounted.owned _ other otherFound).1] at otherFound
    exact Option.some.inj (found.symm.trans otherFound)

/-- The result of the sample is delivered to its peer. -/
theorem returned_run_delivers :
    ∃ row ∈ (run (@step default) Db.empty returnedRun).resultOutbox.rows,
      row.taskId = sampleTask ∧ row.targetPeerId = samplePeer := by
  have built : ∀ op ∈ returnedRun, op.DaemonBuilt := by
    intro op member
    simp only [returnedRun, List.mem_cons, List.not_mem_nil, or_false] at member
    rcases member with rfl | rfl | rfl
    · trivial
    · trivial
    · rfl
  obtain ⟨_, _, _, delivered, _⟩ := @results_and_deliveries_agree default returnedRun built
  exact (delivered sampleTask samplePeer).mpr ⟨⟨sampleTask, [2], .completed, some samplePeer, samplePeer, 0⟩, by decide, rfl⟩

end Keryx.Store.Sqlite
