import Keryx.Relational.Transaction

/-! Postconditions of transactions.
Each rule is an equivalence, so the simplifier carries a postcondition back through a transaction. -/

namespace Relational.Transaction

variable {σ ε α β : Type}

def Ensures (post : α → σ → Prop) (transaction : Transaction σ ε α) (state : σ) : Prop :=
  ∀ value after, transaction state = .ok (value, after) → post value after

variable {post : β → σ → Prop} {state : σ} {rest : α → Transaction σ ε β}

@[simp] theorem ensures_pure (value : β) : Ensures post (pure value : Transaction σ ε β) state ↔ post value state := by
  simp only [Ensures, pure_ok, Prod.mk.injEq]
  exact ⟨fun every => every value state ⟨rfl, rfl⟩, fun holds _ _ same => same.1 ▸ same.2 ▸ holds⟩

@[simp] theorem ensures_query {read : σ → β} :
    Ensures post (query read : Transaction σ ε β) state ↔ post (read state) state := by
  constructor
  · intro every
    exact every (read state) state rfl
  · rintro holds value after success
    cases success
    exact holds

@[simp] theorem ensures_reject (failure : ε) : Ensures post (reject failure : Transaction σ ε β) state ↔ True := by
  simp [Ensures]

@[simp] theorem ensures_require {row : Option β} {failure : ε} :
    Ensures post (require row failure : Transaction σ ε β) state ↔ ∀ value, row = some value → post value state := by
  simp only [Ensures, require_ok]
  exact ⟨fun every value same => every value state ⟨same, rfl⟩, fun every value after same => same.2 ▸ every value same.1⟩

@[simp] theorem ensures_execute {post : Unit → σ → Prop} {write : σ → σ} :
    Ensures post (execute write : Transaction σ ε Unit) state ↔ post () (write state) := by
  simp only [Ensures, execute_ok, Prod.mk.injEq]
  exact ⟨fun every => every () _ ⟨trivial, rfl⟩, fun holds _ _ same => same.2 ▸ holds⟩

theorem ensures_bind {first : Transaction σ ε α} :
    Ensures post (first >>= rest) state ↔
      ∀ value middle, first state = .ok (value, middle) → Ensures post (rest value) middle := by
  simp only [Ensures, bind_ok]
  constructor
  · intro every value middle begun result after ended
    exact every result after ⟨value, middle, begun, ended⟩
  · rintro every result after ⟨value, middle, begun, ended⟩
    exact every value middle begun result after ended

@[simp] theorem ensures_map {first : Transaction σ ε α} {change : α → β} :
    Ensures post (change <$> first) state ↔ Ensures (fun value after => post (change value) after) first state := by
  rw [← bind_pure_comp, ensures_bind]
  simp only [ensures_pure]
  rfl

@[simp] theorem ensures_query_bind {read : σ → α} :
    Ensures post (query read >>= rest) state ↔ Ensures post (rest (read state)) state := Iff.rfl

@[simp] theorem ensures_execute_bind {write : σ → σ} {rest : Unit → Transaction σ ε β} :
    Ensures post (execute write >>= rest) state ↔ Ensures post (rest ()) (write state) := Iff.rfl

@[simp] theorem ensures_check_bind {outcome : Except ε α} :
    Ensures post (check outcome >>= rest) state ↔ ∀ value, outcome = .ok value → Ensures post (rest value) state := by
  simp only [Ensures, check_bind]
  refine ⟨fun every value same result after ended => every result after ⟨value, same, ended⟩, ?_⟩
  rintro every result after ⟨value, same, ended⟩
  exact every value same result after ended

@[simp] theorem ensures_ensure_bind {condition : Prop} [Decidable condition] {failure : ε}
    {rest : Unit → Transaction σ ε β} :
    Ensures post (ensure condition failure >>= rest) state ↔ (condition → Ensures post (rest ()) state) := by
  simp only [Ensures, ensure_bind]
  refine ⟨fun every holds result after ended => every result after ⟨holds, ended⟩, ?_⟩
  rintro every result after ⟨holds, ended⟩
  exact every holds result after ended

@[simp] theorem ensures_require_bind {row : Option α} {failure : ε} :
    Ensures post (require row failure >>= rest) state ↔ ∀ value, row = some value → Ensures post (rest value) state := by
  simp only [Ensures, require_bind]
  refine ⟨fun every value same result after ended => every result after ⟨value, same, ended⟩, ?_⟩
  rintro every result after ⟨value, same, ended⟩
  exact every value same result after ended

@[simp] theorem ensures_ite {condition : Prop} [Decidable condition] {left right : Transaction σ ε β} :
    Ensures post (if condition then left else right) state ↔
      (condition → Ensures post left state) ∧ (¬ condition → Ensures post right state) := by
  by_cases holds : condition
  · simp [holds]
  · simp [holds]

@[simp] theorem ensures_ite_bind {condition : Prop} [Decidable condition] {left right : Transaction σ ε α} :
    Ensures post ((if condition then left else right) >>= rest) state ↔
      (condition → Ensures post (left >>= rest) state) ∧ (¬ condition → Ensures post (right >>= rest) state) := by
  by_cases holds : condition
  · simp [holds]
  · simp [holds]

/-- The transaction commits a part of the state as it found it. -/
def Preserves {γ : Type} (part : σ → γ) (transaction : Transaction σ ε β) : Prop :=
  ∀ state, Ensures (fun _ after => part after = part state) transaction state

section
variable {γ : Type} {part : σ → γ}

theorem preserves_bind {first : Transaction σ ε α} (starts : Preserves part first)
    (continues : ∀ value, Preserves part (rest value)) : Preserves part (first >>= rest) := by
  intro state
  rw [ensures_bind]
  intro value middle begun result after ended
  rw [continues value middle result after ended, starts state value middle begun]

theorem preserves_commit {transaction : Transaction σ ε β} (kept : Preserves part transaction) (state : σ) :
    part (commit transaction state).2 = part state := by
  rcases commit_cases transaction state with ⟨failure, failed⟩ | ⟨value, after, success, committed⟩
  · rw [failed]
  · rw [committed]
    exact kept state value after success

end

/-- What every commit establishes, and what held before, holds after the transaction. -/
theorem ensures_commit {property : σ → Prop} {transaction : Transaction σ ε β}
    (ensures : Ensures (fun _ after => property after) transaction state) (before : property state) :
    property (commit transaction state).2 := by
  rcases commit_cases transaction state with ⟨failure, failed⟩ | ⟨value, after, success, committed⟩
  · rw [failed]
    exact before
  · rw [committed]
    exact ensures value after success

end Relational.Transaction
