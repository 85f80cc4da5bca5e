import Keryx.Store.Lifecycle

/-! What the lifecycle machine preserves: replayable logs, terminal tasks, leases of running tasks. -/

namespace Keryx.Store.Lifecycle
open Keryx.Core

variable {taskId : TaskId} {change : Change} {task changed : TaskRecord} {eventType : KeryxEventType}

theorem Changes.id (applies : Changes change task changed eventType) : changed.id = task.id := by
  cases applies <;> rfl

/-- A terminal record is changed by lease recovery alone, and recovery leaves it as it is. -/
theorem Changes.terminal (applies : Changes change task changed eventType) (terminal : task.status.isTerminal = true) :
    changed = task ∧ eventType = .recoveryAction := by
  cases applies with
  | recover =>
    refine ⟨?_, rfl⟩
    have same : recoveredStatus task.status = task.status := by
      cases status : task.status <;> simp_all [recoveredStatus, TaskStatus.isTerminal]
    rw [same]
  | start pending => rw [pending] at terminal; cases terminal
  | deny pending => rw [pending] at terminal; cases terminal
  | complete running => rw [running] at terminal; cases terminal
  | fail running => rw [running] at terminal; cases terminal
  | failCleared running => rw [running] at terminal; cases terminal
  | retry running => rw [running] at terminal; cases terminal
  | requeue running => rw [running] at terminal; cases terminal
  | deadLetter running => rw [running] at terminal; cases terminal
  | cancel unfinished => rw [unfinished] at terminal; cases terminal
  | timeOut unfinished => rw [unfinished] at terminal; cases terminal
  | operational _ unfinished => rw [unfinished] at terminal; cases terminal

/-- The log leads to the record's status and dead-letter flag; only a failed task is dead-lettered, and
only after a counted failure. -/
structure Replayed (taskId : TaskId) (log : List TaskEventRecord) (task : TaskRecord) : Prop where
  owner : task.id = taskId
  leads : replayLog taskId log = .ok ⟨task.status, task.deadLettered⟩
  counted : task.deadLettered = true → task.retryCount ≠ 0
  dead : task.deadLettered = true → task.status = .failed

variable {log : List TaskEventRecord}

theorem Replayed.replay (replayed : Replayed taskId log task) :
    ∃ rebuilt, replayTaskFromSnapshotAndEvents task log = .ok rebuilt := by
  rw [replay_ok_iff, replayed.owner]
  exact ⟨replayed.leads, replayed.counted⟩

theorem Replayed.alive (replayed : Replayed taskId log task)
    (unfailed : task.status ≠ .failed) : task.deadLettered = false := by
  cases flag : task.deadLettered with
  | false => rfl
  | true => exact absurd (replayed.dead flag) unfailed

theorem replayEvent_change (applies : Changes change task changed eventType) (granted : change ≠ .deny)
    (alive : task.status ≠ .failed → task.deadLettered = false) (index : Nat) :
    replayEvent taskId index ⟨task.status, task.deadLettered⟩
        ⟨taskId, index + 1, eventType, some task.status, changed.status⟩ =
      .ok ⟨changed.status, changed.deadLettered⟩ := by
  cases applies with
  | start pending => simp [replayEvent, pending]; rfl
  | complete running => simp [replayEvent, running]; rfl
  | fail running => simp [replayEvent, running]; rfl
  | failCleared running => simp [replayEvent, running, alive]; rfl
  | retry running => simp [replayEvent, running, alive, recoveredStatus]
  | requeue running => simp [replayEvent, running, recoveredStatus]
  | deadLetter running => simp [replayEvent, running]; rfl
  | cancel unfinished => simp [replayEvent, validateCancelTransition_ok.mpr ⟨unfinished, rfl⟩]
  | timeOut unfinished =>
    have expirable : validateDeadlineTransition task.status = .ok () := by
      cases status : task.status <;> simp_all [validateDeadlineTransition, TaskStatus.isTerminal]
    simp [replayEvent, expirable]
  | recover => simp [replayEvent]
  | operational replayable unfinished => cases eventType <;> simp_all [replayEvent, isReplayableOperationalLegacyEvent]
  | deny => exact absurd rfl granted

theorem Replayed.advance (replayed : Replayed taskId log task)
    (applies : Changes change task changed eventType) (granted : change ≠ .deny) :
    Replayed taskId (log ++ [⟨taskId, log.length + 1, eventType, some task.status, changed.status⟩]) changed where
  owner := applies.id.trans replayed.owner
  leads := by
    rw [replayLog_append replayed.leads]
    exact replayEvent_change applies granted replayed.alive log.length
  counted := by
    intro flag
    cases applies with
    | deadLetter => exact Nat.pos_iff_ne_zero.mp (saturatingAddU32_one_pos task.retryCount)
    | requeue => exact Nat.pos_iff_ne_zero.mp (saturatingAddU32_one_pos task.retryCount)
    | failCleared => cases flag
    | retry => cases flag
    | _ => exact replayed.counted flag
  dead := by
    intro flag
    cases applies with
    | deadLetter => rfl
    | failCleared => cases flag
    | retry => cases flag
    | recover => rw [replayed.dead flag]; rfl
    | operational => exact replayed.dead flag
    | start pending => have failed := replayed.dead flag; rw [pending] at failed; cases failed
    | complete running => have failed := replayed.dead flag; rw [running] at failed; cases failed
    | requeue running => have failed := replayed.dead flag; rw [running] at failed; cases failed
    | _ => rfl

theorem Changes.replays_iff (log : List TaskEventRecord) (applies : Changes change task changed eventType)
    (proper : change = .start ∨ change = .complete ∨ change = .fail) :
    (∃ rebuilt, replayTaskFromSnapshotAndEvents changed
        (log ++ [⟨task.id, log.length + 1, eventType, some task.status, changed.status⟩]) = .ok rebuilt) ↔
      ∃ rebuilt, replayTaskFromSnapshotAndEvents task log = .ok rebuilt := by
  have kept : changed.id = task.id ∧ changed.deadLettered = task.deadLettered ∧ changed.retryCount = task.retryCount ∧
      eventType ≠ .taskAccepted := by
    rcases proper with rfl | rfl | rfl <;> cases applies <;> exact ⟨rfl, rfl, rfl, by decide⟩
  obtain ⟨owner, flag, count, later⟩ := kept
  have reached (dead : Bool) : replayEvent task.id log.length ⟨task.status, dead⟩
      ⟨task.id, log.length + 1, eventType, some task.status, changed.status⟩ = .ok ⟨changed.status, dead⟩ := by
    rcases proper with rfl | rfl | rfl
    · cases applies with
      | start pending => simp [replayEvent, pending]; rfl
    · cases applies with
      | complete running => simp [replayEvent, running]; rfl
    · cases applies with
      | fail running => simp [replayEvent, running]; rfl
  have turn (state : ReplayState) : replayEvent task.id log.length state
      ⟨task.id, log.length + 1, eventType, some task.status, changed.status⟩ = .ok ⟨changed.status, task.deadLettered⟩ ↔
        state = ⟨task.status, task.deadLettered⟩ := by
    obtain ⟨status, dead⟩ := state
    by_cases same : status = task.status
    · subst same
      rw [reached dead]
      simp
    · refine iff_of_false ?_ (fun equal => same (congrArg ReplayState.currentStatus equal))
      have refused : ¬ some task.status = some status := fun equal => same (Option.some.inj equal).symm
      unfold replayEvent
      rw [if_pos (.inr (.inr refused))]
      nofun
  rw [replay_ok_iff, replay_ok_iff, owner, flag, count, replayLog_last later]
  simp only [turn, exists_eq_right]

theorem Replayed.denied (replayed : Replayed taskId log task) (applies : Changes .deny task changed eventType) :
    ¬ ∃ rebuilt, replayTaskFromSnapshotAndEvents changed
      (log ++ [⟨taskId, log.length + 1, eventType, some task.status, changed.status⟩]) = .ok rebuilt := by
  have owner := applies.id.trans replayed.owner
  rw [replay_ok_iff, owner, replayLog_append replayed.leads]
  rintro ⟨leads, _⟩
  cases applies with
  | deny pending =>
    have refused : validateTransition .pending .failed = .error (.invalidTaskTransition .pending .failed) := rfl
    simp [replayEvent, pending, refused] at leads

variable {action : Action} {before after : Cell}

def Consistent (taskId : TaskId) (cell : Cell) : Prop :=
  ∀ task, cell.record = some task → Replayed taskId cell.log task

def Action.Denies (action : Action) : Prop := ∃ keepsLease result, action = .advance .deny keepsLease result

/-- An accepted record starts without a dead-letter flag. -/
def Action.AcceptsClean (action : Action) : Prop := ∀ task, action = .accept task → task.deadLettered = false

/-- The transition keeps a log that replays. -/
def Action.Replayable (action : Action) : Prop := ¬ action.Denies ∧ action.AcceptsClean

@[simp] theorem replayable_accept : (Action.accept task).Replayable ↔ task.deadLettered = false := by
  simp [Action.Replayable, Action.Denies, Action.AcceptsClean]

@[simp] theorem replayable_lease {lease : LeaseRecord} : (Action.lease lease).Replayable := by
  simp [Action.Replayable, Action.Denies, Action.AcceptsClean]

@[simp] theorem replayable_renew {expiresAtMs : Int} : (Action.renew expiresAtMs).Replayable := by
  simp [Action.Replayable, Action.Denies, Action.AcceptsClean]

@[simp] theorem replayable_evict : Action.evict.Replayable := by
  simp [Action.Replayable, Action.Denies, Action.AcceptsClean]

@[simp] theorem replayable_advance {keepsLease : Bool} {result : Option TerminalResultRecord} :
    (Action.advance change keepsLease result).Replayable ↔ change ≠ .deny := by
  simp [Action.Replayable, Action.Denies, Action.AcceptsClean]

theorem Step.consistent (step : Step taskId action before after) (consistent : Consistent taskId before)
    (replayable : action.Replayable) : Consistent taskId after := by
  obtain ⟨granted, clean⟩ := replayable
  intro task present
  cases step with
  | accept owner fresh silent pending =>
    cases present
    have flag := clean task rfl
    have leads : replayLog taskId (before.append taskId .taskAccepted none .pending) = .ok ⟨.pending, false⟩ := by
      simp [Cell.append, silent, replayLog, replayEvents]
    exact ⟨owner, by rw [leads, pending, flag], by simp [flag], by simp [flag]⟩
  | @lease _ stored _ found pending free =>
    cases present
    have advanced := (consistent stored found).advance (.start pending) (by simp)
    simpa [Cell.append, pending] using advanced
  | renew found running held => exact consistent task present
  | evict => exact consistent task present
  | advance found applies =>
    cases present
    exact (consistent _ found).advance applies (fun same => granted ⟨_, _, by rw [same]⟩)
  | settle found applies unsettled unfinished ends =>
    cases present
    exact (consistent _ found).advance applies (fun same => granted ⟨_, _, by rw [same]⟩)

variable (cell : Cell)

/-- The cell has a task whose log replays to it. -/
def Cell.Replays : Prop :=
  ∃ task, cell.record = some task ∧ ∃ rebuilt, replayTaskFromSnapshotAndEvents task cell.log = .ok rebuilt

def Cell.Owned (taskId : TaskId) (cell : Cell) : Prop := ∀ task, cell.record = some task → task.id = taskId

theorem Cell.replays_advance {cell : Cell} (owned : before.Owned taskId) (present : before.record = some task)
    (applies : Changes change task changed eventType) (proper : change = .start ∨ change = .complete ∨ change = .fail)
    (record : cell.record = some changed)
    (log : cell.log = before.append taskId eventType (some task.status) changed.status) :
    cell.Owned taskId ∧ (cell.Replays ↔ before.Replays) := by
  have owner := owned task present
  have extended := applies.replays_iff before.log proper
  rw [owner] at extended
  refine ⟨fun other found => ?_, ?_⟩
  · cases record.symm.trans found
    exact applies.id.trans owner
  · unfold Cell.Replays
    rw [record, log, present, Cell.append]
    simpa only [Option.some.injEq, exists_eq_left'] using extended

theorem Step.replays_iff {keepsLease : Bool} {result : Option TerminalResultRecord}
    (step : Step taskId (.advance change keepsLease result) before after)
    (proper : change = .start ∨ change = .complete ∨ change = .fail) (owned : before.Owned taskId) :
    after.Owned taskId ∧ (after.Replays ↔ before.Replays) := by
  cases step with
  | advance found applies => exact Cell.replays_advance owned found applies proper rfl rfl
  | settle found applies unsettled unfinished ends => exact Cell.replays_advance owned found applies proper rfl rfl

theorem Step.quiet (step : Step taskId action before after) (quiet : before.record = none → before.log = []) :
    after.record = none → after.log = [] := by
  intro absent
  cases step with
  | accept => cases absent
  | lease => cases absent
  | renew present => exact quiet absent
  | evict => exact quiet absent
  | advance => cases absent
  | settle => cases absent

/-- The log only grows, and a terminal task keeps its record and its result while nothing but recovery
of its own status is logged. -/
structure Absorbs (before after : Cell) : Prop where
  grows : before.log <+: after.log
  keeps : ∀ task, before.record = some task → task.status.isTerminal = true →
    after.record = some task ∧ after.result = before.result ∧
      ∃ extra, after.log = before.log ++ extra ∧ ∀ event ∈ extra,
        event.eventType = .recoveryAction ∧ event.fromStatus = some task.status ∧ event.toStatus = task.status

theorem Absorbs.refl : Absorbs cell cell :=
  ⟨List.prefix_refl _, fun _ present _ => ⟨present, rfl, [], by simp, by simp⟩⟩

theorem Absorbs.trans {middle : Cell} (first : Absorbs before middle) (second : Absorbs middle after) :
    Absorbs before after := by
  refine ⟨first.grows.trans second.grows, ?_⟩
  intro task present terminal
  obtain ⟨kept, result, extra, log, only⟩ := first.keeps task present terminal
  obtain ⟨kept', result', extra', log', only'⟩ := second.keeps task kept terminal
  refine ⟨kept', result'.trans result, extra ++ extra', by rw [log', log, List.append_assoc], ?_⟩
  intro event member
  rcases List.mem_append.mp member with early | late
  · exact only event early
  · exact only' event late

theorem Step.absorbs (step : Step taskId action before after) : Absorbs before after := by
  cases step with
  | accept owner fresh silent pending =>
    refine ⟨List.prefix_append _ _, ?_⟩
    intro task present
    rw [fresh] at present
    cases present
  | lease found pending free =>
    refine ⟨List.prefix_append _ _, ?_⟩
    intro task present terminal
    cases found.symm.trans present
    rw [pending] at terminal
    cases terminal
  | renew found running held => exact ⟨List.prefix_refl _, fun _ present _ => ⟨present, rfl, [], by simp, by simp⟩⟩
  | evict => exact ⟨List.prefix_refl _, fun _ present _ => ⟨present, rfl, [], by simp, by simp⟩⟩
  | advance found applies =>
    refine ⟨List.prefix_append _ _, ?_⟩
    intro task present terminal
    cases found.symm.trans present
    obtain ⟨rfl, rfl⟩ := applies.terminal terminal
    exact ⟨rfl, rfl, _, rfl, by simp⟩
  | settle found applies unsettled unfinished ends =>
    refine ⟨List.prefix_append _ _, ?_⟩
    intro task present terminal
    cases found.symm.trans present
    rw [unfinished] at terminal
    cases terminal

theorem Evolves.absorbs {permits : Action → Prop} (evolves : Evolves taskId permits before after) :
    Absorbs before after := by
  induction evolves with
  | refl => exact Absorbs.refl _
  | tail _ last ih =>
    obtain ⟨_, _, step⟩ := last
    exact ih.trans step.absorbs

theorem Step.recorded (step : Step taskId action before after) (present : before.record.isSome) :
    after.record.isSome := by
  cases step with
  | renew => exact present
  | evict => exact present
  | _ => rfl

def acceptances (log : List TaskEventRecord) : Nat := (log.filter (fun event => event.eventType = .taskAccepted)).length

theorem Changes.eventType_ne (applies : Changes change task changed eventType) : eventType ≠ .taskAccepted := by
  cases applies with
  | operational replayable _ =>
    rintro rfl
    cases replayable
  | _ => nofun

theorem acceptances_append (eventType : KeryxEventType) (fromStatus : Option TaskStatus)
    (toStatus : TaskStatus) (other : eventType ≠ .taskAccepted) :
    acceptances (cell.append taskId eventType fromStatus toStatus) = acceptances cell.log := by
  simp [acceptances, Cell.append, List.filter_append, other]

def AcceptedOnce : Prop := cell.record.isSome → acceptances cell.log = 1

theorem Step.acceptedOnce (step : Step taskId action before after) (once : AcceptedOnce before) : AcceptedOnce after := by
  cases step with
  | accept owner fresh silent pending =>
    intro _
    simp [acceptances, Cell.append, silent]
  | lease present pending free =>
    intro _
    exact (acceptances_append before .taskStarted _ _ nofun).trans (once (by rw [present]; rfl))
  | renew present running held => exact once
  | evict => exact once
  | advance present applies =>
    intro _
    exact (acceptances_append before _ _ _ applies.eventType_ne).trans (once (by rw [present]; rfl))
  | settle present applies unsettled unfinished ends =>
    intro _
    exact (acceptances_append before _ _ _ applies.eventType_ne).trans (once (by rw [present]; rfl))

def Reported : Prop :=
  ∀ result, cell.result = some result →
    ∃ task, cell.record = some task ∧ task.status.isTerminal = true ∧ task.status = result.terminalStatus

/-- A result that the transition stores has the status it leads to. -/
def Action.Reports (action : Action) : Prop :=
  ∀ change keepsLease result, action = .advance change keepsLease (some result) →
    ∀ task changed eventType, Changes change task changed eventType → changed.status = result.terminalStatus

theorem Step.reported (step : Step taskId action before after) (reported : Reported before) (reports : action.Reports) :
    Reported after := by
  intro result stored
  cases step with
  | accept owner fresh silent pending =>
    obtain ⟨task, present, _⟩ := reported result stored
    rw [fresh] at present
    cases present
  | lease found pending free =>
    obtain ⟨task, present, terminal, _⟩ := reported result stored
    cases found.symm.trans present
    rw [pending] at terminal
    cases terminal
  | renew found running held => exact reported result stored
  | evict => exact reported result stored
  | advance found applies =>
    obtain ⟨task, present, terminal, same⟩ := reported result stored
    cases found.symm.trans present
    obtain ⟨rfl, _⟩ := applies.terminal terminal
    exact ⟨_, rfl, terminal, same⟩
  | settle found applies unsettled unfinished ends =>
    cases stored
    exact ⟨_, rfl, ends, reports _ _ _ rfl _ _ _ applies⟩

def Settled : Prop :=
  cell.result.isSome → ∃ task, cell.record = some task ∧ task.status.isTerminal = true

theorem Step.settled (step : Step taskId action before after) (settled : Settled before) : Settled after := by
  intro stored
  cases step with
  | accept owner fresh silent pending =>
    obtain ⟨task, present, _⟩ := settled stored
    rw [fresh] at present
    cases present
  | lease found pending free =>
    obtain ⟨task, present, terminal⟩ := settled stored
    cases found.symm.trans present
    rw [pending] at terminal
    cases terminal
  | renew found running held => exact settled stored
  | evict => exact settled stored
  | advance found applies =>
    obtain ⟨task, present, terminal⟩ := settled stored
    cases found.symm.trans present
    obtain ⟨rfl, _⟩ := applies.terminal terminal
    exact ⟨_, rfl, terminal⟩
  | settle found applies unsettled unfinished ends => exact ⟨_, rfl, ends⟩

def Interrupts (event : TaskEventRecord) : Prop := event.eventType = .taskTimedOut ∨ event.eventType = .taskCanceled

theorem Changes.interrupts (applies : Changes change task changed eventType)
    (interrupts : eventType = .taskTimedOut ∨ eventType = .taskCanceled) : changed.status = .failed := by
  cases applies with
  | cancel => rfl
  | timeOut => rfl
  | operational replayable _ => rcases interrupts with rfl | rfl <;> cases replayable
  | _ => rcases interrupts with impossible | impossible <;> cases impossible

/-- A log shows a timeout or a cancellation of a failed task only. -/
def FailedByInterrupt : Prop :=
  ∀ event ∈ cell.log, Interrupts event → ∃ task, cell.record = some task ∧ task.status = .failed

theorem Step.failedByInterrupt (step : Step taskId action before after) (failed : FailedByInterrupt before) :
    FailedByInterrupt after := by
  intro event member interrupts
  cases step with
  | accept owner fresh silent pending =>
    rw [Cell.append, silent, List.nil_append, List.mem_singleton] at member
    subst member
    rcases interrupts with impossible | impossible <;> cases impossible
  | lease found pending free =>
    rcases List.mem_append.mp member with earlier | last
    · obtain ⟨task, present, status⟩ := failed event earlier interrupts
      cases found.symm.trans present
      rw [pending] at status
      cases status
    · rw [List.mem_singleton.mp last] at interrupts
      rcases interrupts with impossible | impossible <;> cases impossible
  | renew => exact failed event member interrupts
  | evict => exact failed event member interrupts
  | advance found applies =>
    rcases List.mem_append.mp member with earlier | last
    · obtain ⟨task, present, status⟩ := failed event earlier interrupts
      cases found.symm.trans present
      obtain ⟨rfl, _⟩ := applies.terminal (by rw [status]; rfl)
      exact ⟨_, rfl, status⟩
    · rw [List.mem_singleton.mp last] at interrupts
      exact ⟨_, rfl, applies.interrupts interrupts⟩
  | settle found applies unsettled unfinished ends =>
    rcases List.mem_append.mp member with earlier | last
    · obtain ⟨task, present, status⟩ := failed event earlier interrupts
      cases found.symm.trans present
      rw [status] at unfinished
      cases unfinished
    · rw [List.mem_singleton.mp last] at interrupts
      exact ⟨_, rfl, applies.interrupts interrupts⟩

def Coupled : Prop :=
  ∀ lease, cell.lease = some lease → ∃ task, cell.record = some task ∧ task.status = .running

/-- The transition leaves the active lease in place only where the status stays or begins to run. -/
def Action.Releases (action : Action) : Prop :=
  ∀ change result, action = .advance change true result → change = .start ∨ ∃ eventType, change = .operational eventType

theorem Step.coupled (step : Step taskId action before after) (coupled : Coupled before) (releases : action.Releases) :
    Coupled after := by
  intro lease held
  cases step with
  | accept owner fresh silent pending =>
    obtain ⟨task, present, _⟩ := coupled lease held
    rw [fresh] at present
    cases present
  | lease found pending free => exact ⟨_, rfl, rfl⟩
  | renew found running holds => exact ⟨_, found, running⟩
  | evict => cases held
  | @advance _ stored changed _ change keepsLease found applies =>
    cases keepsLease with
    | false => cases held
    | true =>
      obtain ⟨task, present, running⟩ := coupled lease held
      cases found.symm.trans present
      rcases releases change none rfl with rfl | ⟨eventType, rfl⟩
      · cases applies with
        | start pending => rw [running] at pending; cases pending
      · cases applies with
        | operational => exact ⟨stored, rfl, running⟩
  | @settle _ stored changed _ change keepsLease result found applies unsettled unfinished ends =>
    cases keepsLease with
    | false => cases held
    | true =>
      rcases releases change (some result) rfl with rfl | ⟨eventType, rfl⟩
      · cases applies with
        | start => cases ends
      · cases applies with
        | operational => rw [unfinished] at ends; cases ends

/-- An active lease belongs to a task that has left the queue. -/
def Claimed : Prop :=
  ∀ lease, cell.lease = some lease → ∃ task, cell.record = some task ∧ task.status ≠ .pending

/-- The transition returns no task to the queue whose lease it keeps. -/
def Action.KeepsClaim (action : Action) : Prop :=
  ∀ change result, action = .advance change true result → change ≠ .retry ∧ change ≠ .requeue ∧ change ≠ .recover

theorem Changes.unqueued (applies : Changes change task changed eventType) (claimed : task.status ≠ .pending)
    (keeps : change ≠ .retry ∧ change ≠ .requeue ∧ change ≠ .recover) : changed.status ≠ .pending := by
  obtain ⟨notRetry, notRequeue, notRecover⟩ := keeps
  cases applies with
  | retry => exact absurd rfl notRetry
  | requeue => exact absurd rfl notRequeue
  | recover => exact absurd rfl notRecover
  | operational => exact claimed
  | _ => intro queued; cases queued

theorem Step.claimed (step : Step taskId action before after) (claimed : Claimed before) (keeps : action.KeepsClaim) :
    Claimed after := by
  intro lease held
  cases step with
  | accept owner fresh silent pending =>
    obtain ⟨task, present, _⟩ := claimed lease held
    rw [fresh] at present
    cases present
  | lease found pending free => exact ⟨_, rfl, by intro queued; cases queued⟩
  | renew found running holds => exact ⟨_, found, by rw [running]; intro queued; cases queued⟩
  | evict => cases held
  | @advance _ stored changed _ change keepsLease found applies =>
    cases keepsLease with
    | false => cases held
    | true =>
      obtain ⟨task, present, unqueued⟩ := claimed lease held
      cases found.symm.trans present
      exact ⟨changed, rfl, applies.unqueued unqueued (keeps change none rfl)⟩
  | @settle _ stored changed _ change keepsLease result found applies unsettled unfinished ends =>
    refine ⟨changed, rfl, ?_⟩
    intro queued
    rw [queued] at ends
    cases ends

theorem Step.leaseId (step : Step taskId action before after) {lease : LeaseRecord} (held : after.lease = some lease) :
    (∃ earlier, before.lease = some earlier ∧ earlier.leaseId = lease.leaseId) ∨ action = .lease lease := by
  cases step with
  | accept => exact Or.inl ⟨lease, held, rfl⟩
  | lease => cases held; exact Or.inr rfl
  | renew found running holds => cases held; exact Or.inl ⟨_, holds, rfl⟩
  | evict => cases held
  | @advance _ _ _ _ _ keepsLease =>
    cases keepsLease with
    | false => cases held
    | true => exact Or.inl ⟨lease, held, rfl⟩
  | @settle _ _ _ _ _ keepsLease =>
    cases keepsLease with
    | false => cases held
    | true => exact Or.inl ⟨lease, held, rfl⟩

theorem Step.unleased (step : Step taskId action before after) (unissued : ∀ lease, action ≠ .lease lease)
    (free : before.lease = none) : after.lease = none := by
  cases held : after.lease with
  | none => rfl
  | some lease =>
    rcases step.leaseId held with ⟨earlier, present, _⟩ | issued
    · rw [free] at present
      cases present
    · exact absurd issued (unissued lease)

def Cancels (event : TaskEventRecord) : Bool := event.eventType = .taskCanceled

/-- A task that has not ended has not been canceled. -/
structure Uncanceled (cell : Cell) : Prop where
  quiet : cell.record = none → cell.log = []
  unfinished : ∀ task, cell.record = some task → task.status.isTerminal = false → cell.log.countP Cancels = 0

theorem Changes.uncanceled (applies : Changes change task changed eventType)
    (unfinished : changed.status.isTerminal = false) : eventType ≠ .taskCanceled := by
  cases applies with
  | operational replayable _ =>
    intro same
    subst same
    cases replayable
  | cancel _ => cases unfinished
  | _ => exact fun same => by cases same

theorem Uncanceled.advanced {before after : Cell} (uncanceled : Uncanceled before) (present : before.record = some task)
    (applies : Changes change task changed eventType) (record : after.record = some changed)
    (log : after.log = before.append taskId eventType (some task.status) changed.status) : Uncanceled after := by
  refine ⟨?_, ?_⟩
  · intro none
    rw [record] at none
    cases none
  · intro other same unfinished
    rw [record] at same
    cases same
    have ongoing : task.status.isTerminal = false := by
      cases ended : task.status.isTerminal with
      | false => rfl
      | true =>
        obtain ⟨same, _⟩ := applies.terminal ended
        rw [same, ended] at unfinished
        cases unfinished
    have clean := uncanceled.unfinished task present ongoing
    have silent := applies.uncanceled unfinished
    simp only [log, Cell.append, List.countP_append, clean, List.countP_singleton, Cancels, silent, decide_false,
      Bool.false_eq_true, if_false]

theorem Step.uncanceled {before after : Cell} {action : Action} (step : Step taskId action before after)
    (uncanceled : Uncanceled before) : Uncanceled after := by
  cases step with
  | accept owner fresh silent pending =>
    refine ⟨?_, ?_⟩
    · intro none
      cases none
    · intro task same _
      simp [Cell.append, silent, Cancels]
  | lease present pending free =>
    apply uncanceled.advanced present (.start pending) rfl
    rw [pending]
  | renew present running held => exact ⟨uncanceled.quiet, uncanceled.unfinished⟩
  | evict => exact ⟨uncanceled.quiet, uncanceled.unfinished⟩
  | advance present applies => exact uncanceled.advanced present applies rfl rfl
  | settle present applies unsettled unfinished ends => exact uncanceled.advanced present applies rfl rfl

end Keryx.Store.Lifecycle
