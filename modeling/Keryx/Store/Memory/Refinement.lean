import Keryx.Store.Equivalence

/-! The in-memory store refines the lifecycle machine, as the database does that its tables make up. -/

namespace Keryx.Store.Memory
open Keryx.Core Relational Relational.Transaction Lifecycle
open Sqlite (Op)

variable {permits : TaskId → Action → Prop} {state after : State} {taskId : TaskId} {value task updated : TaskRecord}
  {change : Change} {eventType : KeryxEventType} {keepsLease : Bool} {leaseId : LeaseId} {workerId : AgentId}

/-- The tables that a state makes up. -/
def State.database (state : State) : Sqlite.Db :=
  { Sqlite.Db.empty with
    tasks := state.tasks, events := state.events, idempotencyKeys := state.idempotency, envelopes := state.envelopes
    transportContexts := state.transportContexts, terminalResults := state.terminalResults
    leases := ⟨state.leases.rows.map fun lease => ⟨lease, true⟩, by
      rw [List.map_map]
      exact state.leases.unique⟩ }

theorem matches_database (state : State) : Matches state state.database := by
  refine ⟨fun taskId => ?_, fun _ => rfl, fun _ => rfl, fun _ => rfl⟩
  have leases : state.leases.find taskId = state.database.activeLease taskId := by
    have found : state.database.leases.find taskId = (state.leases.find taskId).map fun lease => ⟨lease, true⟩ :=
      List.find?_map
    rw [Sqlite.Db.activeLease, found]
    cases state.leases.find taskId with
    | none => rfl
    | some lease => rfl
  unfold State.cell Sqlite.Db.cell
  rw [leases]
  rfl

theorem refines_of_matches {op : Op} (states : Matches (step state op) (@Sqlite.step default state.database op)) :
    state.Evolves (fun taskId => op.permits taskId) (step state op) := by
  intro taskId
  rw [(matches_database state).cells, states.cells]
  exact @Sqlite.step_refines default state.database op taskId

theorem written_evolves (permitted : permits taskId (.advance change keepsLease none))
    (present : state.tasks.find taskId = some task) (applies : Changes change task updated eventType) :
    state.Evolves permits (state.written taskId keepsLease eventType task.status updated) :=
  Refines.advance permitted present applies
    (cell_written keepsLease eventType (applies.id.trans (Table.find_key present)))

theorem written_settles {result : TerminalResultRecord} (owner : result.taskId = taskId)
    (permitted : permits taskId (.advance change keepsLease (some result)))
    (present : state.tasks.find taskId = some task) (applies : Changes change task updated eventType)
    (unsettled : state.terminalResults.find taskId = none) (unfinished : task.status.isTerminal = false)
    (ends : updated.status.isTerminal = true) :
    state.Evolves permits
      ((state.written taskId keepsLease eventType task.status updated).insertTerminalResult result) := by
  subst owner
  apply Refines.settle permitted present applies unsettled unfinished ends
  intro other
  rw [cell_insertTerminalResult,
    cell_written keepsLease eventType (applies.id.trans (Table.find_key present))]
  split <;> rfl

theorem leaseTaskWithPeerGuard_evolves {lease : LeaseRecord} {localPeerId : Option PeerId}
    {outcome : StoreResult TaskRecord} (leased : permits taskId (.lease lease))
    (timedOut : permits taskId (.advance .timeOut false none))
    (success : leaseTaskWithPeerGuard taskId lease localPeerId state = .ok (outcome, after)) :
    state.Evolves permits after := by
  simp only [leaseTaskWithPeerGuard, query_bind, check_bind, ensureMatchingTaskId, ensureLeaseHasOwner, demand_ok,
    getTask_bind, ensure_bind] at success
  obtain ⟨_, _, _, owner, _, _, task, present, free, success⟩ := success
  have stored : task.id = taskId := Table.find_key present
  cases overdue : task.deadlineMs.filter (· ≤ lease.leasedAtMs) with
  | some deadlineMs =>
    simp only [overdue, check_bind, validateDeadlineTransition_ok, execute_bind, pure_ok] at success
    obtain ⟨_, unfinished, same⟩ := success
    obtain ⟨_, rfl⟩ := Prod.mk.inj same
    apply Refines.advance timedOut present (.timeOut unfinished)
    intro other
    rw [cell_insertTask, cell_appendEvent, stored]
    by_cases same : other = taskId
    · subst same
      simp [advancedCell, Cell.append, State.cell, free]
    · simp [same]
  | none =>
    simp only [overdue, check_bind, validated_ok, execute_bind, pure_ok] at success
    obtain ⟨transition, legal, same⟩ := success
    obtain ⟨_, rfl⟩ := Prod.mk.inj same
    rcases validateTransition_cases legal with ⟨pending, _, rfl⟩ | ⟨_, impossible, _⟩ | ⟨_, impossible, _⟩
    · apply Refines.once leased
      · have step : Step taskId (.lease lease) (state.cell taskId) _ := .lease present pending free
        simpa [cell_insertTask, cell_appendEvent, cell_insertLease, stored, ← owner, Cell.append] using step
      · intro other different
        have elsewhere : other ≠ lease.taskId := fun same => different (same.trans owner)
        simp [cell_insertTask, cell_appendEvent, cell_insertLease, stored, different, elsewhere]
    · cases impossible
    · cases impossible

theorem finishTaskInState_ok {toStatus : TaskStatus} {retryCount : Nat} {deadLettered : Bool}
    {deadLetterReason : Option String} {result : TaskRecord × State} :
    finishTaskInState taskId leaseId workerId toStatus retryCount deadLettered deadLetterReason state = .ok result →
      ∃ task transition, state.tasks.find taskId = some task ∧ validateTransition task.status toStatus = .ok transition ∧
        result.2 = state.written taskId false transition.eventType task.status
          { task with status := toStatus, retryCount, deadLettered, deadLetterReason } := by
  simp only [finishTaskInState, getTask_bind, getLease_bind, check_bind, validated_ok, execute_bind, pure_ok]
  rintro ⟨task, present, active, _, _, _, _, _, transition, legal, rfl⟩
  refine ⟨task, transition, present, legal, ?_⟩
  rw [(validateTransition_moves legal).1, (validateTransition_moves legal).2]
  rfl

theorem retryTaskInState_ok {active : LeaseRecord} {result : TaskRecord × State}
    (success : retryTaskInState taskId active task state = .ok result) :
    task.status = .running ∧ result.2 = state.written taskId false .recoveryAction task.status
      { task with status := .pending, retryCount := saturatingAddU32 task.retryCount 1 } := by
  simp only [retryTaskInState, check_bind, requireStatus, demand_ok, execute_bind, pure_ok] at success
  obtain ⟨_, _, _, running, rfl⟩ := success
  rw [running]
  exact ⟨rfl, rfl⟩

theorem deadLetterTaskInState_ok {active : LeaseRecord} {reason : String} {result : TaskRecord × State}
    (success : deadLetterTaskInState taskId active task reason state = .ok result) :
    task.status = .running ∧
      result.2 = state.written taskId false .taskDeadLettered task.status (task.exhausted reason) := by
  simp only [deadLetterTaskInState, check_bind, requireStatus, demand_ok, validated_ok, execute_bind, pure_ok] at success
  obtain ⟨_, _, _, running, transition, legal, rfl⟩ := success
  refine ⟨running, ?_⟩
  rw [(validateTransition_moves legal).1, (validateTransition_moves legal).2]
  rfl

theorem failTask_evolves {errorReason : String} {policy : RetryPolicy}
    (finished : permits taskId (.advance .failCleared false none))
    (requeued : permits taskId (.advance .requeue false none))
    (exhausted : permits taskId (.advance (.deadLetter errorReason) false none))
    (success : failTask taskId leaseId workerId errorReason policy state = .ok (value, after)) :
    state.Evolves permits after := by
  simp only [failTask, getTask_bind, getOwnedLease_bind, check_bind, requireStatus, demand_ok] at success
  obtain ⟨task, present, active, _, _, _, _, running, success⟩ := success
  split at success
  · obtain ⟨stored, transition, found, legal, rfl⟩ := finishTaskInState_ok success
    cases present.symm.trans found
    rw [running] at legal
    cases legal
    exact written_evolves finished present (.failCleared running)
  · split at success
    · obtain ⟨_, rfl⟩ := retryTaskInState_ok success
      exact written_evolves requeued present (.requeue running)
    · obtain ⟨_, rfl⟩ := deadLetterTaskInState_ok success
      exact written_evolves exhausted present (.deadLetter running)

theorem retryTask_evolves (permitted : permits taskId (.advance .requeue false none))
    (success : retryTask taskId leaseId workerId state = .ok (value, after)) : state.Evolves permits after := by
  simp only [retryTask, getTask_bind, getOwnedLease_bind] at success
  obtain ⟨task, present, active, _, _, _, success⟩ := success
  obtain ⟨running, rfl⟩ := retryTaskInState_ok success
  exact written_evolves permitted present (.requeue running)

variable {result : TerminalResultRecord}

theorem repeated_unchanged {stored : TerminalResultRecord}
    (success : (if stored = result then getTask taskId else reject (.terminalResultConflict taskId)) state =
      .ok (value, after)) : after = state := by
  split at success
  · exact (getTask_ok.mp success).2.symm
  · simp at success

theorem settling_ok {outcome : Mutation TaskRecord}
    (success : (do let updated ← outcome
                   execute (State.insertTerminalResult result)
                   pure updated) state = .ok (value, after)) :
    ∃ middle, outcome state = .ok (value, middle) ∧ after = middle.insertTerminalResult result := by
  obtain ⟨updated, middle, first, rest⟩ := bind_ok.mp success
  rw [execute_bind, pure_ok] at rest
  obtain ⟨rfl, rfl⟩ := Prod.mk.inj rest
  exact ⟨middle, first, rfl⟩

theorem completeTaskWithResult_evolves (permitted : permits taskId (.advance .complete false (some result)))
    (success : completeTaskWithResult taskId leaseId workerId result state = .ok (value, after)) :
    state.Evolves permits after := by
  simp only [completeTaskWithResult, check_bind, query_bind, ensureResultTask_ok] at success
  obtain ⟨_, owner, success⟩ := success
  cases existing : state.terminalResults.find taskId with
  | some stored =>
    simp only [existing] at success
    rw [repeated_unchanged success]
    exact Refines.refl
  | none =>
    simp only [existing, getTask_bind] at success
    obtain ⟨task, present, success⟩ := success
    obtain ⟨middle, finished, rfl⟩ := settling_ok success
    obtain ⟨stored, transition, found, legal, rfl⟩ := finishTaskInState_ok finished
    cases present.symm.trans found
    rcases validateTransition_cases legal with ⟨_, impossible, _⟩ | ⟨running, _, rfl⟩ | ⟨_, impossible, _⟩
    · cases impossible
    · exact written_settles owner.2 permitted present (.complete running) existing (by rw [running]; rfl) rfl
    · cases impossible

theorem failTaskWithResult_evolves {errorReason : String} {policy : RetryPolicy}
    (finished : permits taskId (.advance .failCleared false (some result)))
    (requeued : permits taskId (.advance .requeue false none))
    (exhausted : permits taskId (.advance (.deadLetter errorReason) false (some result)))
    (success : failTaskWithResult taskId leaseId workerId errorReason policy result state = .ok (value, after)) :
    state.Evolves permits after := by
  simp only [failTaskWithResult, check_bind, query_bind, ensureResultTask_ok] at success
  obtain ⟨_, owner, success⟩ := success
  cases existing : state.terminalResults.find taskId with
  | some stored =>
    simp only [existing] at success
    rw [repeated_unchanged success]
    exact Refines.refl
  | none =>
    simp only [existing, getTask_bind, getOwnedLease_bind] at success
    obtain ⟨task, present, active, _, _, _, success⟩ := success
    split at success
    · obtain ⟨middle, ended, rfl⟩ := settling_ok success
      obtain ⟨stored, transition, found, legal, rfl⟩ := finishTaskInState_ok ended
      cases present.symm.trans found
      rcases validateTransition_cases legal with ⟨_, impossible, _⟩ | ⟨_, impossible, _⟩ | ⟨running, _, rfl⟩
      · cases impossible
      · cases impossible
      · exact written_settles owner.2 finished present (.failCleared running) existing (by rw [running]; rfl) rfl
    · split at success
      · obtain ⟨running, rfl⟩ := retryTaskInState_ok success
        exact written_evolves requeued present (.requeue running)
      · obtain ⟨middle, ended, rfl⟩ := settling_ok success
        obtain ⟨running, rfl⟩ := deadLetterTaskInState_ok ended
        exact written_settles owner.2 exhausted present (.deadLetter running) existing (by rw [running]; rfl) rfl

theorem ensureCancellationProof_unchanged {status : TaskStatus} {lease : Option LeaseId} {worker : Option AgentId}
    {nowMs : Int} {done : Unit}
    (success : ensureCancellationProof taskId status lease worker nowMs state = .ok (done, after)) : after = state := by
  unfold ensureCancellationProof at success
  split at success
  · simp only [getLease_bind, require_bind, check_bind, check_ok] at success
    obtain ⟨_, _, _, _, _, _, _, _, _, _, _, same⟩ := success
    exact same.symm
  · exact (Prod.mk.inj (pure_ok.mp success)).2.symm

theorem cancelTaskWithResult_evolves {lease : Option LeaseId} {worker : Option AgentId} {nowMs : Int}
    (permitted : permits taskId (.advance .cancel false (some result)))
    (success : cancelTaskWithResult taskId lease worker nowMs result state = .ok (value, after)) :
    state.Evolves permits after := by
  simp only [cancelTaskWithResult, check_bind, ensureResultTask_ok, getTask_bind] at success
  obtain ⟨_, ⟨_, owner⟩, _, _, task, present, success⟩ := success
  obtain ⟨_, middle, proved, rest⟩ := bind_ok.mp success
  rw [ensureCancellationProof_unchanged proved] at rest
  simp only [check_bind, validated_ok, validateCancelTransition_ok, query_bind, ensure_bind, execute_bind,
    pure_ok] at rest
  obtain ⟨transition, ⟨unfinished, rfl⟩, unsettled, _, same⟩ := rest
  obtain ⟨_, rfl⟩ := Prod.mk.inj same
  have settled := written_settles owner permitted present (.cancel unfinished) unsettled unfinished rfl
  simp only [State.written, Bool.false_eq_true, if_false] at settled
  exact settled

theorem putTransportContext_cells {context stored : TaskTransportContextRecord}
    (success : putTransportContext context state = .ok (stored, after)) (other : TaskId) :
    after.cell other = state.cell other := by
  simp only [putTransportContext, getTask_bind, query_bind] at success
  obtain ⟨task, _, success⟩ := success
  cases existing : state.transportContexts.find context.taskId with
  | none =>
    simp only [existing, execute_bind, pure_ok] at success
    obtain ⟨_, rfl⟩ := Prod.mk.inj success
    rfl
  | some found =>
    simp only [existing] at success
    split at success
    · obtain ⟨_, rfl⟩ := Prod.mk.inj (pure_ok.mp success)
      rfl
    · simp at success

theorem step_refines (quiet : state.Quiet) (op : Op) :
    state.Evolves (fun taskId => op.permits taskId) (step state op) := by
  have same := matches_database state
  cases op with
  | acceptTask task => exact refines_of_matches ((acceptTask_agrees same quiet).commit same).2
  | acceptTaskWithEnvelope task envelope =>
    exact refines_of_matches ((acceptTaskWithEnvelope_agrees same quiet).commit same).2
  | acceptTaskWithEnvelopeAndContext task envelope context =>
    exact refines_of_matches ((acceptTaskWithEnvelopeAndContext_agrees same quiet).commit same).2
  | leaseTask owner lease =>
    exact .commit State.cell fun _ _ =>
      leaseTaskWithPeerGuard_evolves (.inl ⟨rfl, .inl rfl⟩) (.inl ⟨rfl, .inr rfl⟩)
  | leaseTaskForPeer owner lease localPeerId =>
    exact .commit State.cell fun _ _ =>
      leaseTaskWithPeerGuard_evolves (.inl ⟨rfl, .inl rfl⟩) (.inl ⟨rfl, .inr rfl⟩)
  | renewLease => exact refines_of_matches ((renewLease_agrees same).commit same).2
  | completeTask => exact refines_of_matches ((completeTask_agrees same).commit same).2
  | completeTaskWithResult => exact .commit State.cell fun _ _ => completeTaskWithResult_evolves ⟨rfl, rfl⟩
  | failTask =>
    exact .commit State.cell fun _ _ => failTask_evolves ⟨rfl, .inl rfl⟩ ⟨rfl, .inr (.inr (.inr rfl))⟩
      ⟨rfl, .inr (.inr (.inl rfl))⟩
  | failTaskWithResult =>
    exact .commit State.cell fun _ _ => failTaskWithResult_evolves ⟨rfl, .inl rfl⟩ ⟨rfl, .inr (.inr (.inr rfl))⟩
      ⟨rfl, .inr (.inr (.inl rfl))⟩
  | retryTask => exact .commit State.cell fun _ _ => retryTask_evolves ⟨rfl, .inr rfl⟩
  | deadLetterTask => exact refines_of_matches ((deadLetterTask_agrees same).commit same).2
  | cancelTask => exact refines_of_matches ((cancelTask_agrees same).commit same).2
  | cancelTaskWithResult => exact .commit State.cell fun _ _ => cancelTaskWithResult_evolves ⟨rfl, rfl⟩
  | failExpiredDeadlines => exact refines_of_matches (failExpiredDeadlines_agrees same).2
  | recoverStaleLeases => exact refines_of_matches ((recoverStaleLeases_agrees same).commit same).2
  | transitionTask => exact refines_of_matches ((transitionTask_agrees same).commit same).2
  | acceptLegacyEvent => exact refines_of_matches ((acceptLegacyEvent_agrees same).commit same).2
  | putTransportContext =>
    exact .commit State.cell fun _ _ success => .same (putTransportContext_cells success)
  | _ => exact Refines.refl

theorem step_quiet (quiet : state.Quiet) (op : Op) : (step state op).Quiet :=
  (step_refines quiet op).invariant (fun _ cell => cell.record = none → cell.log = [])
    (fun _ _ _ _ _ step kept => step.quiet kept) quiet

end Keryx.Store.Memory
