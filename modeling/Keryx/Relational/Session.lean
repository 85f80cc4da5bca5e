import Keryx.Relational.Transaction

/-! Programs of several transactions.
A session commits as it goes, so what it wrote before it failed stays written. -/

namespace Relational

section
variable {ε ε' α β : Type}

theorem except_bind_ok {first : Except ε α} {rest : α → Except ε β} {result : β} :
    first >>= rest = .ok result ↔ ∃ value, first = .ok value ∧ rest value = .ok result := by
  cases first <;> simp [bind, Except.bind]

theorem except_ok_bind (value : α) (rest : α → Except ε β) : (.ok value >>= rest) = rest value := rfl

theorem except_pure_ok {value result : α} : (pure value : Except ε α) = .ok result ↔ value = result := by
  simp [pure, Except.pure]

theorem except_mapError_ok {outcome : Except ε α} {change : ε → ε'} {value : α} :
    outcome.mapError change = .ok value ↔ outcome = .ok value := by
  cases outcome <;> simp [Except.mapError]

end

def Session (σ ε α : Type) := σ → Except ε α × σ

namespace Session
variable {σ ε ε' α β : Type}

instance : Monad (Session σ ε) where
  pure value := fun state => (.ok value, state)
  bind first rest := fun state =>
    match first state with
    | (.ok value, after) => rest value after
    | (.error failure, after) => (.error failure, after)

def attempt (outcome : Except ε α) : Session σ ε α := fun state => (outcome, state)

def observe (read : σ → α) : Session σ ε α := fun state => (.ok (read state), state)

/-- Goes on with what a fallible read of the committed state yields. -/
def consult (read : σ → Except ε α) : Session σ ε α := fun state => (read state, state)

def amend (write : σ → σ) : Session σ ε Unit := fun state => (.ok (), write state)

/-- Runs one transaction and hands its outcome on, whether it committed or not. -/
def settle (transaction : Transaction σ ε' α) : Session σ ε (Except ε' α) := fun state =>
  (.ok (Transaction.commit transaction state).1, (Transaction.commit transaction state).2)

/-- Runs one transaction, and fails with its reported failure. -/
def perform (report : ε' → ε) (transaction : Transaction σ ε' α) : Session σ ε α := fun state =>
  ((Transaction.commit transaction state).1.mapError report, (Transaction.commit transaction state).2)

def transact (transaction : Transaction σ ε α) : Session σ ε α := Transaction.commit transaction

/-- The session with its failures reported in other terms. -/
def report (change : ε' → ε) (session : Session σ ε' α) : Session σ ε α := fun state =>
  ((session state).1.mapError change, (session state).2)

/-- A session on a part of the state. -/
def within {τ : Type} (get : τ → σ) (set : σ → τ → τ) (session : Session σ ε α) : Session τ ε α := fun state =>
  ((session (get state)).1, set (session (get state)).2 state)

/-- The session fails and has written nothing. -/
def Refuses (session : Session σ ε α) (state : σ) : Prop := ∃ failure, session state = (.error failure, state)

variable {state after : σ} {value : β}

@[simp] theorem pure_apply (value : α) : (pure value : Session σ ε α) state = (.ok value, state) := rfl

@[simp] theorem pure_refuses (value : α) : ¬ Refuses (pure value : Session σ ε α) state := by
  rintro ⟨failure, failed⟩
  cases failed

theorem attempt_bind (outcome : Except ε α) (rest : α → Session σ ε β) :
    (attempt outcome >>= rest) state =
      match outcome with
      | .ok value => rest value state
      | .error failure => (.error failure, state) := by
  cases outcome <;> rfl

theorem consult_bind (read : σ → Except ε α) (rest : α → Session σ ε β) :
    (consult read >>= rest) state =
      match read state with
      | .ok value => rest value state
      | .error failure => (.error failure, state) :=
  attempt_bind (read state) rest

@[simp] theorem observe_bind (read : σ → α) (rest : α → Session σ ε β) :
    (observe read >>= rest) state = rest (read state) state := rfl

@[simp] theorem amend_bind (write : σ → σ) (rest : Unit → Session σ ε β) :
    (amend write >>= rest) state = rest () (write state) := rfl

@[simp] theorem settle_bind (transaction : Transaction σ ε' α) (rest : Except ε' α → Session σ ε β) :
    (settle transaction >>= rest) state =
      rest (Transaction.commit transaction state).1 (Transaction.commit transaction state).2 := rfl

theorem bind_apply (first : Session σ ε α) (rest : α → Session σ ε β) (state : σ) :
    (first >>= rest) state =
      match first state with
      | (.ok value, after) => rest value after
      | (.error failure, after) => (.error failure, after) := rfl

variable {rest : α → Session σ ε β}

theorem bind_ok {first : Session σ ε α} :
    (first >>= rest) state = (.ok value, after) ↔
      ∃ read middle, first state = (.ok read, middle) ∧ rest read middle = (.ok value, after) := by
  rw [bind_apply]
  rcases outcome : first state with ⟨failure | read, middle⟩
  · simp
  · constructor
    · exact fun success => ⟨read, middle, rfl, success⟩
    · rintro ⟨other, between, same, success⟩
      cases same
      exact success

variable {change : ε' → ε} {read : σ → Except ε α} {outcome : Except ε α}

@[simp] theorem attempt_bind_ok :
    (attempt outcome >>= rest) state = (.ok value, after) ↔
      ∃ middle, outcome = .ok middle ∧ rest middle state = (.ok value, after) := by
  rw [attempt_bind]
  cases outcome <;> simp

@[simp] theorem consult_bind_ok :
    (consult read >>= rest) state = (.ok value, after) ↔
      ∃ middle, read state = .ok middle ∧ rest middle state = (.ok value, after) :=
  attempt_bind_ok

@[simp] theorem transact_ok {transaction : Transaction σ ε β} :
    transact transaction state = (.ok value, after) ↔ transaction state = .ok (value, after) := by
  unfold transact Transaction.commit
  cases outcome : transaction state with
  | error failure => simp
  | ok pair => simp [Prod.ext_iff]

theorem report_ok {session : Session σ ε' β} :
    report change session state = (.ok value, after) ↔ session state = (.ok value, after) := by
  unfold report
  simp only [Prod.ext_iff, except_mapError_ok]

theorem perform_ok {transaction : Transaction σ ε' β} :
    perform change transaction state = (.ok value, after) ↔ transaction state = .ok (value, after) :=
  (@report_ok _ _ _ _ _ _ _ change (transact transaction)).trans transact_ok

theorem transact_bind_ok {transaction : Transaction σ ε α} :
    (transact transaction >>= rest) state = (.ok value, after) ↔
      ∃ read middle, transaction state = .ok (read, middle) ∧ rest read middle = (.ok value, after) := by
  simp only [bind_ok, transact_ok]

variable {transaction : Transaction σ ε' α}

@[simp] theorem perform_bind_ok :
    (perform change transaction >>= rest) state = (.ok value, after) ↔
      ∃ read middle, transaction state = .ok (read, middle) ∧ rest read middle = (.ok value, after) := by
  simp only [bind_ok, perform_ok]

@[simp] theorem report_bind_ok {session : Session σ ε' α} :
    (report change session >>= rest) state = (.ok value, after) ↔
      ∃ read middle, session state = (.ok read, middle) ∧ rest read middle = (.ok value, after) := by
  simp only [bind_ok, report_ok]

theorem within_ok {τ : Type} {get : τ → σ} {set : σ → τ → τ} {session : Session σ ε β} {state after : τ} :
    within get set session state = (.ok value, after) ↔
      ∃ part, session (get state) = (.ok value, part) ∧ set part state = after := by
  unfold within
  constructor
  · intro same
    obtain ⟨outcome, rfl⟩ := Prod.mk.inj same
    exact ⟨_, Prod.ext outcome rfl, rfl⟩
  · rintro ⟨part, success, rfl⟩
    rw [success]

theorem bind_pure_state {session : Session σ ε α} {answer : α → β} :
    ((session >>= fun read => pure (answer read)) state).2 = (session state).2 := by
  rw [bind_apply]
  rcases session state with ⟨failure | read, middle⟩ <;> rfl

theorem report_state {session : Session σ ε' α} {answer : α → β} :
    ((report change session >>= fun read => pure (answer read)) state).2 = (session state).2 :=
  bind_pure_state

theorem attempt_bind_leaves {γ : Type} (part : σ → γ)
    (leaves : part ((attempt outcome >>= rest) state).2 ≠ part state) :
    ∃ value, outcome = .ok value ∧ part (rest value state).2 ≠ part state := by
  rw [attempt_bind] at leaves
  cases outcome with
  | error failure => exact absurd rfl leaves
  | ok value => exact ⟨value, rfl, leaves⟩

theorem consult_bind_leaves {γ : Type} (part : σ → γ) (leaves : part ((consult read >>= rest) state).2 ≠ part state) :
    ∃ value, read state = .ok value ∧ part (rest value state).2 ≠ part state :=
  attempt_bind_leaves part leaves

@[simp] theorem attempt_refuses :
    Refuses (attempt outcome >>= rest) state ↔ ∀ middle, outcome = .ok middle → Refuses (rest middle) state := by
  unfold Refuses
  rw [attempt_bind]
  cases outcome <;> simp

@[simp] theorem consult_refuses :
    Refuses (consult read >>= rest) state ↔ ∀ middle, read state = .ok middle → Refuses (rest middle) state :=
  attempt_refuses

@[simp] theorem observe_refuses {read : σ → α} :
    Refuses (observe read >>= rest) state ↔ Refuses (rest (read state)) state := Iff.rfl

theorem settle_refuses {rest : Except ε' α → Session σ ε β} {failure : ε'}
    (failed : Transaction.commit transaction state = (.error failure, state)) :
    Refuses (settle transaction >>= rest) state ↔ Refuses (rest (.error failure)) state := by
  unfold Refuses
  rw [settle_bind, failed]

theorem perform_refuses {report : ε' → ε} {answer : α → β} :
    Refuses (perform report transaction >>= fun read => pure (answer read)) state ↔
      ∀ result, transaction state ≠ .ok result := by
  unfold Refuses
  simp only [bind_apply, perform, Transaction.commit]
  cases outcome : transaction state with
  | error failure => simp [Except.mapError]
  | ok pair => simp [Except.mapError]

/-- However the session ends, it leaves the state it found in the relation to the one it leaves. -/
def Leads (relation : σ → σ → Prop) (session : Session σ ε α) : Prop := ∀ state, relation state (session state).2

section
variable {relation : σ → σ → Prop}

theorem leads_bind (transitive : ∀ first second third, relation first second → relation second third →
    relation first third) {first : Session σ ε α} {rest : α → Session σ ε β} (starts : Leads relation first)
    (goesOn : ∀ value, Leads relation (rest value)) : Leads relation (first >>= rest) := by
  intro state
  have reached := starts state
  rw [bind_apply]
  cases outcome : first state with
  | mk result after =>
    rw [outcome] at reached
    cases result with
    | error failure => exact reached
    | ok value => exact transitive _ _ _ reached (goesOn value after)

theorem leads_attempt_bind (reflexive : ∀ state, relation state state) {outcome : Except ε α}
    {rest : α → Session σ ε β} (goesOn : ∀ value, outcome = .ok value → Leads relation (rest value)) :
    Leads relation (attempt outcome >>= rest) := by
  intro state
  rw [attempt_bind]
  cases outcome with
  | error failure => exact reflexive state
  | ok value => exact goesOn value rfl state

theorem leads_observe (reflexive : ∀ state, relation state state) (read : σ → α) :
    Leads relation (observe read : Session σ ε α) := fun state => reflexive state

theorem leads_observe_bind {read : σ → α} {rest : α → Session σ ε β}
    (goesOn : ∀ state, Leads relation (rest (read state))) : Leads relation (observe read >>= rest) :=
  fun state => goesOn state state

theorem leads_pure (reflexive : ∀ state, relation state state) (value : α) :
    Leads relation (pure value : Session σ ε α) := fun state => reflexive state

theorem leads_report (change : ε' → ε) {session : Session σ ε' α} (leads : Leads relation session) :
    Leads relation (report change session) := fun state => leads state

end

end Session

end Relational
