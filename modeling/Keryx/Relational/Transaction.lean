import Mathlib.Algebra.Order.Ring.Int

/-! Transactions over a state with typed errors.
A transaction fails, leaving the committed state as it was, or returns a value and the state to commit. -/

namespace Relational

/-- A computation inside one transaction. -/
abbrev Transaction (σ ε α : Type) := StateT σ (Except ε) α

namespace Transaction
variable {σ ε α β : Type}

def query (read : σ → α) : Transaction σ ε α := fun state => .ok (read state, state)

def execute (write : σ → σ) : Transaction σ ε Unit := fun state => .ok ((), write state)

def check (outcome : Except ε α) : Transaction σ ε α := fun state => outcome.map (fun value => (value, state))

def ensure (condition : Prop) [Decidable condition] (failure : ε) : Transaction σ ε Unit :=
  fun state => if condition then .ok ((), state) else .error failure

/-- The value of an optional row, or the failure that reports its absence. -/
def require (row : Option α) (failure : ε) : Transaction σ ε α :=
  fun state => match row with
    | some value => .ok (value, state)
    | none => .error failure

def reject (failure : ε) : Transaction σ ε α := fun _ => .error failure

/-- Ends a transaction: the new state on success, the old one on failure. -/
def commit (transaction : Transaction σ ε α) (state : σ) : Except ε α × σ :=
  match transaction state with
  | .ok (value, after) => (.ok value, after)
  | .error failure => (.error failure, state)

@[simp] theorem pure_ok {value : α} {state : σ} {result : α × σ} :
    (pure value : Transaction σ ε α) state = .ok result ↔ (value, state) = result := by
  show (Except.ok (value, state) : Except ε (α × σ)) = .ok result ↔ _
  rw [Except.ok.injEq]

theorem bind_ok {first : Transaction σ ε α} {rest : α → Transaction σ ε β} {state : σ} {result : β × σ} :
    (first >>= rest) state = .ok result ↔
      ∃ value middle, first state = .ok (value, middle) ∧ rest value middle = .ok result := by
  simp only [bind, StateT.bind, Except.bind]
  cases first state with
  | error failure => simp
  | ok pair =>
    constructor
    · exact fun success => ⟨pair.1, pair.2, rfl, success⟩
    · rintro ⟨value, middle, same, success⟩
      cases same
      exact success

variable {rest : α → Transaction σ ε β} {state : σ} {result : β × σ}

@[simp] theorem query_bind {read : σ → α} :
    (query read >>= rest) state = .ok result ↔ rest (read state) state = .ok result :=
  Iff.rfl

@[simp] theorem execute_bind {write : σ → σ} {rest : Unit → Transaction σ ε β} :
    (execute write >>= rest) state = .ok result ↔ rest () (write state) = .ok result :=
  Iff.rfl

@[simp] theorem execute_ok {write : σ → σ} {result : Unit × σ} :
    (execute write : Transaction σ ε Unit) state = .ok result ↔ ((), write state) = result := by
  simp [execute]

@[simp] theorem check_bind {outcome : Except ε α} :
    (check outcome >>= rest) state = .ok result ↔ ∃ value, outcome = .ok value ∧ rest value state = .ok result := by
  cases outcome with
  | error failure => simp [bind, StateT.bind, Except.bind, check, Except.map]
  | ok value => simp [bind, StateT.bind, Except.bind, check, Except.map]

@[simp] theorem check_ok {outcome : Except ε β} :
    (check outcome : Transaction σ ε β) state = .ok result ↔ outcome = .ok result.1 ∧ state = result.2 := by
  cases outcome with
  | error failure => simp [check, Except.map]
  | ok value => simp [check, Except.map, Prod.ext_iff]

@[simp] theorem ensure_bind {condition : Prop} [Decidable condition] {failure : ε} {rest : Unit → Transaction σ ε β} :
    (ensure condition failure >>= rest) state = .ok result ↔ condition ∧ rest () state = .ok result := by
  by_cases holds : condition
  · simp [bind, StateT.bind, Except.bind, ensure, holds]
  · simp [bind, StateT.bind, Except.bind, ensure, holds]

@[simp] theorem require_bind {row : Option α} {failure : ε} :
    (require row failure >>= rest) state = .ok result ↔ ∃ value, row = some value ∧ rest value state = .ok result := by
  cases row with
  | none => simp [bind, StateT.bind, Except.bind, require]
  | some value => simp [bind, StateT.bind, Except.bind, require]

@[simp] theorem require_ok {row : Option β} {failure : ε} :
    (require row failure : Transaction σ ε β) state = .ok result ↔ row = some result.1 ∧ state = result.2 := by
  cases row with
  | none => simp [require]
  | some value => simp [require, Prod.ext_iff]

@[simp] theorem reject_ok {failure : ε} : (reject failure : Transaction σ ε β) state = .ok result ↔ False := by
  simp [reject]

section
variable {rest : α → Transaction σ ε β} {state : σ}

theorem run_query {read : σ → α} : (query read >>= rest) state = rest (read state) state := rfl

theorem run_execute {write : σ → σ} {rest : Unit → Transaction σ ε β} :
    (execute write >>= rest) state = rest () (write state) := rfl

theorem run_check {outcome : Except ε α} {value : α} (passes : outcome = .ok value) :
    (check outcome >>= rest) state = rest value state := by
  subst passes
  rfl

variable {failure : ε}

theorem run_check_error {outcome : Except ε α} (fails : outcome = .error failure) :
    (check outcome >>= rest) state = .error failure := by
  subst fails
  rfl

theorem run_require {row : Option α} {value : α} (found : row = some value) :
    (require row failure >>= rest) state = rest value state := by
  subst found
  rfl

theorem run_require_none {row : Option α} (absent : row = none) :
    (require row failure >>= rest) state = .error failure := by
  subst absent
  rfl

theorem run_ensure {condition : Prop} [Decidable condition] {rest : Unit → Transaction σ ε β}
    (holds : condition) : (ensure condition failure >>= rest) state = rest () state := by
  simp [bind, StateT.bind, Except.bind, ensure, holds]

theorem run_ensure_not {condition : Prop} [Decidable condition] {rest : Unit → Transaction σ ε β}
    (fails : ¬ condition) : (ensure condition failure >>= rest) state = .error failure := by
  simp [bind, StateT.bind, Except.bind, ensure, fails]

end

theorem commit_cases (transaction : Transaction σ ε α) (state : σ) :
    (∃ failure, commit transaction state = (.error failure, state)) ∨
      ∃ value after, transaction state = .ok (value, after) ∧ commit transaction state = (.ok value, after) := by
  unfold commit
  cases outcome : transaction state with
  | error failure => exact Or.inl ⟨failure, rfl⟩
  | ok pair => exact Or.inr ⟨pair.1, pair.2, rfl, rfl⟩

theorem commit_ok {transaction : Transaction σ ε α} {state after : σ} {value : α}
    (success : transaction state = .ok (value, after)) : commit transaction state = (.ok value, after) := by
  simp [commit, success]

theorem commit_unchanged {transaction : Transaction σ ε α} {state : σ}
    (kept : ∀ value after, transaction state = .ok (value, after) → after = state) :
    (commit transaction state).2 = state := by
  rcases commit_cases transaction state with ⟨failure, failed⟩ | ⟨value, after, success, committed⟩
  · rw [failed]
  · rw [committed]
    exact kept value after success

end Transaction

end Relational
