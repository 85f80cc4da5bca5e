import Mathlib.Algebra.Order.Ring.Int
import Mathlib.Data.List.DropRight
import Mathlib.Data.String.Basic

/-! Lifecycle enumerations, validation errors and validated identifiers. -/

namespace Keryx.Core

inductive TaskStatus where
  | pending | running | completed | failed
deriving DecidableEq, Repr

def TaskStatus.isTerminal : TaskStatus → Bool
  | .completed | .failed => true
  | .pending | .running => false

inductive KeryxEventType where
  | taskAccepted | taskQueued | taskApprovalRequested | taskApprovalGranted | taskApprovalDenied
  | taskLeased | taskStarted | taskAwaitingInput | taskCompleted | taskFailed | taskCanceled
  | taskTimedOut | taskDeadLettered | recoveryAction
deriving DecidableEq, Repr

/-- The identifier types of the core crate, which name themselves in their validation errors. -/
inductive IdKind where
  | taskId | leaseId | idempotencyKey | agentId | peerId | artifactId | nodeId
deriving DecidableEq, Repr

def IdKind.name : IdKind → String
  | .taskId => "TaskId"
  | .leaseId => "LeaseId"
  | .idempotencyKey => "IdempotencyKey"
  | .agentId => "AgentId"
  | .peerId => "PeerId"
  | .artifactId => "ArtifactId"
  | .nodeId => "NodeId"

inductive LimitKind where
  | pendingTasks | envelopeBytes | retainedEnvelopeBytes
deriving DecidableEq, Repr

def LimitKind.asStr : LimitKind → String
  | .pendingTasks => "pending_tasks"
  | .envelopeBytes => "envelope_bytes"
  | .retainedEnvelopeBytes => "retained_envelope_bytes"

inductive ValidationError where
  | missingIdValue (kind : IdKind)
  | invalidIdValue (kind : IdKind) (value : String)
  | artifactTooLarge (byteLen limitBytes : Nat)
  | invalidDigest (value : String)
  | artifactNotFound (value : String)
  | limitExceeded (kind : LimitKind) (current max : Nat)
  | invalidTaskTransition (fromStatus toStatus : TaskStatus)
  | cancelNotApplicable (status : TaskStatus)
  | terminalTaskTransition (fromStatus toStatus : TaskStatus)
deriving DecidableEq, Repr

/-- The Unicode white space that `str::trim` removes. -/
def isWhitespace (ch : Char) : Bool :=
  let point := ch.toNat
  (9 ≤ point && point ≤ 13) || point == 0x20 || point == 0x85 || point == 0xA0 || point == 0x1680 ||
    (0x2000 ≤ point && point ≤ 0x200A) || point == 0x2028 || point == 0x2029 || point == 0x202F ||
    point == 0x205F || point == 0x3000

def trimChars (chars : List Char) : List Char :=
  ((chars.dropWhile isWhitespace).reverse.dropWhile isWhitespace).reverse

def trim (value : String) : String := String.ofList (trimChars value.toList)

def maxIdLen : Nat := 128

def isAllowedIdChar (ch : Char) : Bool :=
  ch.isAlphanum || ch == '-' || ch == '_' || ch == '.' || ch == ':'

structure Identifier (kind : IdKind) where
  value : String
  present : value.toList ≠ []
  bounded : value.toList.length ≤ maxIdLen
  allowed : value.toList.all isAllowedIdChar = true
deriving DecidableEq

abbrev TaskId := Identifier .taskId
abbrev LeaseId := Identifier .leaseId
abbrev IdempotencyKey := Identifier .idempotencyKey
abbrev AgentId := Identifier .agentId
abbrev PeerId := Identifier .peerId
abbrev ArtifactId := Identifier .artifactId
abbrev NodeId := Identifier .nodeId

/-- An identifier that a program spells out. -/
def Identifier.literal {kind : IdKind} (value : String) (valid : (!value.toList.isEmpty &&
    value.toList.length ≤ maxIdLen && value.toList.all isAllowedIdChar) = true) : Identifier kind where
  value := value
  present := by
    rintro empty
    simp [empty] at valid
  bounded := by
    simp only [Bool.and_eq_true, decide_eq_true_eq] at valid
    exact valid.1.2
  allowed := (Bool.and_eq_true _ _ ▸ valid).2

variable {kind : IdKind}

theorem Identifier.eq_of_value {left right : Identifier kind} (same : left.value = right.value) : left = right := by
  cases left; cases right; cases same; rfl

/-- Trims, then checks that a value is present, short and made of allowed characters, which take one byte each. -/
def validateIdentifier (kind : IdKind) (raw : String) : Except ValidationError (Identifier kind) :=
  let trimmed := trim raw
  if present : trimmed.toList = [] then .error (.missingIdValue kind)
  else if bounded : trimmed.toList.length ≤ maxIdLen then
    if allowed : trimmed.toList.all isAllowedIdChar = true then .ok ⟨trimmed, present, bounded, allowed⟩
    else .error (.invalidIdValue kind raw)
  else .error (.invalidIdValue kind raw)

theorem isAllowedIdChar_not_whitespace {ch : Char} (allowed : isAllowedIdChar ch = true) : isWhitespace ch = false := by
  have point : ch.toNat = 45 ∨ ch.toNat = 46 ∨ (48 ≤ ch.toNat ∧ ch.toNat ≤ 58) ∨
      (65 ≤ ch.toNat ∧ ch.toNat ≤ 90) ∨ ch.toNat = 95 ∨ (97 ≤ ch.toNat ∧ ch.toNat ≤ 122) := by
    delta isAllowedIdChar Char.isAlphanum Char.isAlpha Char.isUpper Char.isLower at allowed
    simp only [Char.isDigit, Bool.or_eq_true, Bool.and_eq_true, decide_eq_true_eq, beq_iff_eq, ge_iff_le,
      UInt32.le_iff_toNat_le] at allowed
    simp only [Char.toNat]
    rcases allowed with ((((h | h) | rfl) | rfl) | rfl) | rfl <;> simp_all <;> omega
  simp only [isWhitespace, Bool.or_eq_false_iff, Bool.and_eq_false_iff, decide_eq_false_iff_not, beq_eq_false_iff_ne]
  omega

theorem trimChars_trimChars (chars : List Char) : trimChars (trimChars chars) = trimChars chars := by
  -- Cutting at the end leaves the first character, so nothing is left to cut in front.
  have front : (trimChars chars).dropWhile isWhitespace = trimChars chars := by
    rw [List.dropWhile_eq_self_iff]
    intro positive
    obtain ⟨cut, whole⟩ := List.rdropWhile_prefix isWhitespace (chars.dropWhile isWhitespace)
    have here : trimChars chars ++ cut = chars.dropWhile isWhitespace := whole
    have kept : 0 < (chars.dropWhile isWhitespace).length := by
      rw [← here, List.length_append]
      omega
    have first : ¬ isWhitespace ((chars.dropWhile isWhitespace)[0]) = true :=
      List.dropWhile_get_zero_not isWhitespace chars kept
    simp only [← here, List.getElem_append_left positive] at first
    exact first
  unfold trimChars at front ⊢
  rw [front]
  exact List.rdropWhile_idempotent isWhitespace (chars.dropWhile isWhitespace)

theorem trim_trim (value : String) : trim (trim value) = trim value := by
  unfold trim
  rw [String.toList_ofList, trimChars_trimChars]

theorem validateIdentifier_trim {raw : String} {id : Identifier kind}
    (success : validateIdentifier kind raw = .ok id) : id.value = trim raw := by
  unfold validateIdentifier at success
  simp only at success
  split at success
  · cases success
  split at success
  · split at success
    · cases success
      rfl
    · cases success
  · cases success

theorem trimChars_of_allowed {chars : List Char} (allowed : chars.all isAllowedIdChar = true) :
    trimChars chars = chars := by
  have kept : ∀ xs : List Char, xs.all isAllowedIdChar = true → xs.dropWhile isWhitespace = xs := by
    intro xs all
    cases xs with
    | nil => rfl
    | cons x xs =>
      have first := isAllowedIdChar_not_whitespace ((List.all_eq_true.mp all) x List.mem_cons_self)
      simp [first]
  rw [trimChars, kept chars allowed, kept chars.reverse (by simpa using allowed), List.reverse_reverse]

theorem trim_value (id : Identifier kind) : trim id.value = id.value := by
  rw [trim, trimChars_of_allowed id.allowed, String.ofList_toList]

theorem validateIdentifier_value (id : Identifier kind) : validateIdentifier kind id.value = .ok id := by
  unfold validateIdentifier
  simp only [trim_value id, id.present, id.bounded, id.allowed, dite_true, dite_false]

theorem Identifier.value_ne_empty (id : Identifier kind) : id.value ≠ "" := by
  intro empty
  exact id.present (by rw [empty]; rfl)

end Keryx.Core
