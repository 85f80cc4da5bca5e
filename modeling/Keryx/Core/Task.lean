import Keryx.Core.Identifier

/-! The four-state task lifecycle, and historical event names as canonical transitions. -/

namespace Keryx.Core

structure TaskTransition where
  fromStatus : TaskStatus
  toStatus : TaskStatus
  eventType : KeryxEventType
deriving DecidableEq, Repr

def eventForTransition (fromStatus toStatus : TaskStatus) : Except ValidationError KeryxEventType :=
  match fromStatus, toStatus with
  | .pending, .running => .ok .taskStarted
  | .running, .completed => .ok .taskCompleted
  | .running, .failed => .ok .taskFailed
  | _, _ =>
    .error (if fromStatus.isTerminal then .terminalTaskTransition fromStatus toStatus
      else .invalidTaskTransition fromStatus toStatus)

def validateTransition (fromStatus toStatus : TaskStatus) : Except ValidationError TaskTransition := do
  let eventType ← eventForTransition fromStatus toStatus
  return { fromStatus, toStatus, eventType }

def isCancelApplicable : TaskStatus → Bool
  | .pending | .running => true
  | .completed | .failed => false

variable (fromStatus : TaskStatus)

def eventForCancelTransition : Except ValidationError KeryxEventType :=
  if isCancelApplicable fromStatus then .ok .taskCanceled else .error (.cancelNotApplicable fromStatus)

def validateCancelTransition : Except ValidationError TaskTransition := do
  let eventType ← eventForCancelTransition fromStatus
  return { fromStatus, toStatus := .failed, eventType }

variable {transition : TaskTransition}

theorem validateTransition_cases {fromStatus toStatus : TaskStatus}
    (legal : validateTransition fromStatus toStatus = .ok transition) :
    (fromStatus = .pending ∧ toStatus = .running ∧ transition = ⟨.pending, .running, .taskStarted⟩) ∨
      (fromStatus = .running ∧ toStatus = .completed ∧ transition = ⟨.running, .completed, .taskCompleted⟩) ∨
      (fromStatus = .running ∧ toStatus = .failed ∧ transition = ⟨.running, .failed, .taskFailed⟩) := by
  cases fromStatus <;> cases toStatus <;> cases legal <;> simp

theorem validateTransition_moves {fromStatus toStatus : TaskStatus}
    (legal : validateTransition fromStatus toStatus = .ok transition) :
    transition.fromStatus = fromStatus ∧ transition.toStatus = toStatus := by
  rcases validateTransition_cases legal with ⟨rfl, rfl, rfl⟩ | ⟨rfl, rfl, rfl⟩ | ⟨rfl, rfl, rfl⟩ <;> exact ⟨rfl, rfl⟩

theorem validateCancelTransition_ok {fromStatus : TaskStatus} :
    validateCancelTransition fromStatus = .ok transition ↔
      fromStatus.isTerminal = false ∧ transition = ⟨fromStatus, .failed, .taskCanceled⟩ := by
  cases fromStatus <;>
    simp [validateCancelTransition, eventForCancelTransition, isCancelApplicable, TaskStatus.isTerminal, bind,
      Except.bind, pure, Except.pure, eq_comm]

inductive LegacyEventType where
  | taskQueued | taskApprovalRequested | taskApprovalGranted | taskApprovalDenied | taskLeased
  | taskStarted | taskAwaitingInput | taskCompleted | taskFailed | taskCanceled | taskTimedOut
  | taskDeadLettered
deriving DecidableEq, Repr

def LegacyEventType.asKeryxEventType : LegacyEventType → KeryxEventType
  | .taskQueued => .taskQueued
  | .taskApprovalRequested => .taskApprovalRequested
  | .taskApprovalGranted => .taskApprovalGranted
  | .taskApprovalDenied => .taskApprovalDenied
  | .taskLeased => .taskLeased
  | .taskStarted => .taskStarted
  | .taskAwaitingInput => .taskAwaitingInput
  | .taskCompleted => .taskCompleted
  | .taskFailed => .taskFailed
  | .taskCanceled => .taskCanceled
  | .taskTimedOut => .taskTimedOut
  | .taskDeadLettered => .taskDeadLettered

def LegacyEventType.fromKeryxEventType : KeryxEventType → Option LegacyEventType
  | .taskQueued => some .taskQueued
  | .taskApprovalRequested => some .taskApprovalRequested
  | .taskApprovalGranted => some .taskApprovalGranted
  | .taskApprovalDenied => some .taskApprovalDenied
  | .taskLeased => some .taskLeased
  | .taskStarted => some .taskStarted
  | .taskAwaitingInput => some .taskAwaitingInput
  | .taskCompleted => some .taskCompleted
  | .taskFailed => some .taskFailed
  | .taskCanceled => some .taskCanceled
  | .taskTimedOut => some .taskTimedOut
  | .taskDeadLettered => some .taskDeadLettered
  | .taskAccepted | .recoveryAction => none

/-- The source returns a `CanonicalTransition`, which has the fields of `TaskTransition`. -/
def normalizeLegacyTransition (legacyEvent : LegacyEventType) : Option TaskTransition :=
  match fromStatus, legacyEvent with
  | .pending, .taskLeased | .pending, .taskStarted => some ⟨.pending, .running, .taskStarted⟩
  | .running, .taskCompleted => some ⟨.running, .completed, .taskCompleted⟩
  | .running, .taskFailed | .running, .taskCanceled | .running, .taskTimedOut | .running, .taskDeadLettered =>
    some ⟨.running, .failed, .taskFailed⟩
  | .pending, .taskApprovalDenied => some ⟨.pending, .failed, .taskFailed⟩
  | _, _ => none

def isValidOperationalLegacy (legacyEvent : LegacyEventType) : Bool :=
  match fromStatus, legacyEvent with
  | .pending, .taskQueued => true
  | .pending, .taskApprovalRequested => true
  | .pending, .taskApprovalGranted => true
  | .running, .taskAwaitingInput => true
  | _, _ => false

variable {legacyEvent : LegacyEventType}

theorem LegacyEventType.fromKeryxEventType_some {eventType : KeryxEventType} :
    fromKeryxEventType eventType = some legacyEvent ↔ legacyEvent.asKeryxEventType = eventType := by
  cases eventType <;> cases legacyEvent <;> simp [fromKeryxEventType, asKeryxEventType]

theorem normalizeLegacyTransition_cases {fromStatus : TaskStatus}
    (normalized : normalizeLegacyTransition fromStatus legacyEvent = some transition) :
    (transition.fromStatus = fromStatus ∧ validateTransition fromStatus transition.toStatus = .ok transition) ∨
      (fromStatus = .pending ∧ legacyEvent = .taskApprovalDenied ∧ transition = ⟨.pending, .failed, .taskFailed⟩) := by
  cases fromStatus <;> cases legacyEvent <;> cases normalized <;> simp <;> rfl

theorem isValidOperationalLegacy_not_terminal {fromStatus : TaskStatus}
    (valid : isValidOperationalLegacy fromStatus legacyEvent = true) : fromStatus.isTerminal = false := by
  cases fromStatus <;> cases legacyEvent <;> first | rfl | cases valid

end Keryx.Core
