import Keryx.Store.Record

/-! Replay of a task's event log against its snapshot. -/

namespace Keryx.Store
open Keryx.Core

def isReplayableOperationalLegacyEvent : KeryxEventType → Bool
  | .taskQueued | .taskApprovalRequested | .taskApprovalGranted | .taskAwaitingInput => true
  | _ => false

structure ReplayState where
  currentStatus : TaskStatus
  deadLettered : Bool
deriving DecidableEq

def recoveredStatus : TaskStatus → TaskStatus
  | .running => .pending
  | .pending => .pending
  | .completed => .completed
  | .failed => .failed

def replayEvent (taskId : TaskId) (index : Nat) (state : ReplayState) (event : TaskEventRecord) :
    StoreResult ReplayState :=
  if event.taskId ≠ taskId ∨ event.sequence ≠ index + 1 ∨ event.fromStatus ≠ some state.currentStatus then
    .error (.corruptEventStream taskId)
  else match event.eventType with
    | .taskStarted | .taskCompleted | .taskFailed =>
      match validateTransition state.currentStatus event.toStatus with
      | .error _ => .error (.corruptEventStream taskId)
      | .ok transition =>
        if transition.eventType ≠ event.eventType then .error (.corruptEventStream taskId)
        else .ok { state with currentStatus := transition.toStatus }
    | .taskCanceled =>
      match validateCancelTransition state.currentStatus with
      | .error _ => .error (.corruptEventStream taskId)
      | .ok transition =>
        if transition.toStatus ≠ event.toStatus then .error (.corruptEventStream taskId)
        else .ok { state with currentStatus := transition.toStatus }
    | .taskTimedOut =>
      match validateDeadlineTransition state.currentStatus with
      | .error _ => .error (.corruptEventStream taskId)
      | .ok _ =>
        if event.toStatus ≠ .failed then .error (.corruptEventStream taskId)
        else .ok { state with currentStatus := event.toStatus }
    | .taskLeased | .taskDeadLettered | .taskApprovalDenied =>
      match LegacyEventType.fromKeryxEventType event.eventType with
      | none => .error (.corruptEventStream taskId)
      | some legacy =>
        match normalizeLegacyTransition state.currentStatus legacy with
        | none => .error (.corruptEventStream taskId)
        | some transition =>
          if transition.toStatus ≠ event.toStatus then .error (.corruptEventStream taskId)
          else .ok
            { currentStatus := transition.toStatus
              deadLettered := if event.eventType = .taskDeadLettered then true else state.deadLettered }
    | .recoveryAction =>
      if event.toStatus ≠ recoveredStatus state.currentStatus then .error (.corruptEventStream taskId)
      else .ok { state with currentStatus := event.toStatus }
    | eventType =>
      if isReplayableOperationalLegacyEvent eventType then
        if event.toStatus ≠ state.currentStatus then .error (.corruptEventStream taskId) else .ok state
      else .error (.corruptEventStream taskId)

def replayEvents (taskId : TaskId) : Nat → ReplayState → List TaskEventRecord → StoreResult ReplayState
  | _, state, [] => .ok state
  | index, state, event :: events =>
    match replayEvent taskId index state event with
    | .error failure => .error failure
    | .ok next => replayEvents taskId (index + 1) next events

/-- The loop with the check of the first event in front of it. -/
def replayLog (taskId : TaskId) : List TaskEventRecord → StoreResult ReplayState
  | [] => .error (.corruptEventStream taskId)
  | first :: events =>
    if first.taskId ≠ taskId ∨ first.sequence ≠ 1 ∨ first.eventType ≠ .taskAccepted ∨ first.fromStatus.isSome ∨
        first.toStatus ≠ .pending then
      .error (.corruptEventStream taskId)
    else replayEvents taskId 1 { currentStatus := first.toStatus, deadLettered := false } events

def replayTaskFromSnapshotAndEvents (snapshot : TaskRecord) (events : List TaskEventRecord) : StoreResult TaskRecord :=
  match replayLog snapshot.id events with
  | .error failure => .error failure
  | .ok state =>
    if snapshot.status ≠ state.currentStatus then .error (.corruptEventStream snapshot.id)
    else if snapshot.deadLettered ≠ state.deadLettered then .error (.corruptEventStream snapshot.id)
    else if snapshot.deadLettered ∧ snapshot.retryCount = 0 then .error (.corruptEventStream snapshot.id)
    else .ok { snapshot with status := state.currentStatus }

theorem replayEvents_append (taskId : TaskId) (index : Nat) (state : ReplayState)
    (events : List TaskEventRecord) (event : TaskEventRecord) :
    replayEvents taskId index state (events ++ [event]) =
      match replayEvents taskId index state events with
      | .error failure => .error failure
      | .ok reached => replayEvent taskId (index + events.length) reached event := by
  induction events generalizing index state with
  | nil =>
    simp only [List.nil_append, replayEvents, List.length_nil, Nat.add_zero]
    cases replayEvent taskId index state event <;> rfl
  | cons head tail ih =>
    simp only [List.cons_append, replayEvents]
    cases replayEvent taskId index state head with
    | error failure => rfl
    | ok next =>
      simp only [ih, List.length_cons]
      rw [Nat.add_right_comm, Nat.add_assoc]

variable {events : List TaskEventRecord}

theorem replayLog_append {taskId : TaskId} {state : ReplayState}
    (replayed : replayLog taskId events = .ok state) (event : TaskEventRecord) :
    replayLog taskId (events ++ [event]) = replayEvent taskId events.length state event := by
  cases events with
  | nil => cases replayed
  | cons first rest =>
    simp only [replayLog] at replayed
    simp only [List.cons_append, replayLog]
    split at replayed
    · cases replayed
    · rename_i header
      rw [if_neg header, replayEvents_append, replayed]
      simp only [List.length_cons]
      rw [Nat.add_comm]

theorem replayLog_last {taskId : TaskId} {event : TaskEventRecord}
    {reached : ReplayState} (later : event.eventType ≠ .taskAccepted) :
    replayLog taskId (events ++ [event]) = .ok reached ↔
      ∃ state, replayLog taskId events = .ok state ∧ replayEvent taskId events.length state event = .ok reached := by
  cases replayed : replayLog taskId events with
  | ok state => simp [replayLog_append replayed]
  | error failure =>
    refine iff_of_false ?_ (by rintro ⟨state, contrary, _⟩; cases contrary)
    cases events with
    | nil => simp [replayLog, later]
    | cons first rest =>
      simp only [replayLog] at replayed
      simp only [List.cons_append, replayLog]
      split at replayed
      · rename_i header
        rw [if_pos header]
        nofun
      · rename_i header
        rw [if_neg header, replayEvents_append, replayed]
        nofun

theorem replay_ok_iff {snapshot : TaskRecord} :
    (∃ rebuilt, replayTaskFromSnapshotAndEvents snapshot events = .ok rebuilt) ↔
      replayLog snapshot.id events = .ok ⟨snapshot.status, snapshot.deadLettered⟩ ∧
        (snapshot.deadLettered = true → snapshot.retryCount ≠ 0) := by
  unfold replayTaskFromSnapshotAndEvents
  cases replayLog snapshot.id events with
  | error failure => simp
  | ok state =>
    obtain ⟨status, flag⟩ := state
    by_cases sameStatus : snapshot.status = status
    · by_cases sameFlag : snapshot.deadLettered = flag
      · by_cases counted : snapshot.deadLettered = true ∧ snapshot.retryCount = 0
        · simp [← sameStatus, ← sameFlag, counted]
        · simp only [← sameStatus, ← sameFlag, counted, ne_eq, not_true_eq_false, if_false]
          simpa using counted
      · simp [sameStatus, sameFlag, eq_comm (a := flag)]
    · simp [sameStatus, eq_comm (a := status)]

end Keryx.Store
