import Keryx.Relational.Run
import Keryx.Relational.Table
import Keryx.Relational.Transaction
import Mathlib.Data.List.Perm.Basic
import Mathlib.Data.List.Sort

/-! Two implementations of one interface.
The rules take two transactions apart side by side, as far as they make the same checks. -/

namespace Relational

section
variable {ε α : Type}

def SameOutcome : Except ε α → Except ε α → Prop
  | .ok value, .ok other => value = other
  | .error _, .error _ => True
  | _, _ => False

theorem SameOutcome.map {β : Type} {left right : Except ε α} (same : SameOutcome left right) (change : α → β) :
    SameOutcome (left.map change) (right.map change) := by
  cases left with
  | error failure =>
    cases right with
    | error other => trivial
    | ok value => cases same
  | ok value =>
    cases right with
    | error other => cases same
    | ok other => exact congrArg change same

theorem SameOutcome.refl (outcome : Except ε α) : SameOutcome outcome outcome := by
  cases outcome with
  | error failure => trivial
  | ok value => rfl

theorem SameOutcome.join {left right : Except ε (Except ε α)} (same : SameOutcome left right) :
    SameOutcome (left.bind id) (right.bind id) := by
  cases left with
  | error failure =>
    cases right with
    | error other => trivial
    | ok value => cases same
  | ok value =>
    cases right with
    | error other => cases same
    | ok other =>
      cases same
      exact SameOutcome.refl value

end

namespace Transaction
variable {σ τ ε α β : Type} {related : σ → τ → Prop} {left : σ} {right : τ}

def Agree (related : σ → τ → Prop) : Except ε (α × σ) → Except ε (α × τ) → Prop
  | .ok (value, after), .ok (other, final) => value = other ∧ related after final
  | .error _, .error _ => True
  | _, _ => False

theorem agree_pure {value : α} (states : related left right) :
    Agree related ((pure value : Transaction σ ε α) left) ((pure value : Transaction τ ε α) right) :=
  ⟨rfl, states⟩

theorem agree_fetched {value : α} {after : σ} {final : τ} {row : Option α} {failure : ε} (found : row = some value)
    (states : related after final) :
    Agree related ((pure value : Transaction σ ε α) after) ((require row failure : Transaction τ ε α) final) := by
  subst found
  exact ⟨rfl, states⟩

section
variable {first : α → Transaction σ ε β} {second : α → Transaction τ ε β}

theorem agree_check {outcome : Except ε α}
    (rest : ∀ value, outcome = .ok value → Agree related (first value left) (second value right)) :
    Agree related ((check outcome >>= first) left) ((check outcome >>= second) right) := by
  cases outcome with
  | error failure => trivial
  | ok value => exact rest value rfl

theorem agree_require {row other : Option α} {failure fault : ε} (same : row = other)
    (rest : ∀ value, row = some value → Agree related (first value left) (second value right)) :
    Agree related ((require row failure >>= first) left) ((require other fault >>= second) right) := by
  subst same
  cases row with
  | none => trivial
  | some value => exact rest value rfl

theorem agree_bind {middle : σ → τ → Prop} {begin : Transaction σ ε α} {start : Transaction τ ε α}
    (begins : Agree middle (begin left) (start right))
    (rest : ∀ value after final, middle after final → Agree related (first value after) (second value final)) :
    Agree related ((begin >>= first) left) ((start >>= second) right) := by
  simp only [bind, StateT.bind, Except.bind]
  cases one : begin left with
  | error failure =>
    cases two : start right with
    | error fault => trivial
    | ok reached =>
      rw [one, two] at begins
      cases begins
  | ok reached =>
    cases two : start right with
    | error fault =>
      rw [one, two] at begins
      cases begins
    | ok gone =>
      rw [one, two] at begins
      obtain ⟨value, after⟩ := reached
      obtain ⟨other, final⟩ := gone
      obtain ⟨same, states⟩ := begins
      cases same
      exact rest value after final states

end

theorem agree_ensure {condition other : Prop} [Decidable condition] [Decidable other] {failure fault : ε}
    {first : Unit → Transaction σ ε β} {second : Unit → Transaction τ ε β} (same : condition ↔ other)
    (rest : condition → Agree related (first () left) (second () right)) :
    Agree related ((ensure condition failure >>= first) left) ((ensure other fault >>= second) right) := by
  by_cases holds : condition
  · rw [run_ensure holds, run_ensure (same.mp holds)]
    exact rest holds
  · rw [run_ensure_not holds, run_ensure_not (fun met => holds (same.mpr met))]
    trivial

theorem Agree.commit {begin : Transaction σ ε α} {start : Transaction τ ε α}
    (agree : Agree related (begin left) (start right)) (states : related left right) :
    SameOutcome (Transaction.commit begin left).1 (Transaction.commit start right).1 ∧
      related (Transaction.commit begin left).2 (Transaction.commit start right).2 := by
  unfold Transaction.commit
  cases one : begin left with
  | error failure =>
    cases two : start right with
    | error fault => exact ⟨trivial, states⟩
    | ok reached =>
      rw [one, two] at agree
      cases agree
  | ok reached =>
    cases two : start right with
    | error fault =>
      rw [one, two] at agree
      cases agree
    | ok gone =>
      rw [one, two] at agree
      exact agree

end Transaction

section
variable {κ ν : Type} {key : ν → κ} [DecidableEq κ]

theorem Table.rows_perm {left right : Table key} (same : ∀ k, left.find k = right.find k) :
    left.rows.Perm right.rows := by
  apply (List.perm_ext_iff_of_nodup (List.Nodup.of_map key left.unique) (List.Nodup.of_map key right.unique)).mpr
  intro row
  rw [mem_rows, mem_rows, same]

end

theorem insertionSort_perm {α : Type} {order : α → α → Prop} [DecidableRel order] [Std.Total order] [IsTrans α order]
    {left right : List α} (rows : left.Perm right)
    (apart : ∀ one ∈ left, ∀ other ∈ left, order one other → order other one → one = other) :
    left.insertionSort order = right.insertionSort order := by
  apply List.Perm.eq_of_pairwise
  · intro one other first second
    apply apart one ((List.mem_insertionSort order).mp first)
    exact rows.mem_iff.mpr ((List.mem_insertionSort order).mp second)
  · exact List.pairwise_insertionSort order left
  · exact List.pairwise_insertionSort order right
  · exact (List.perm_insertionSort order left).trans (rows.trans (List.perm_insertionSort order right).symm)

namespace Run
variable {σ τ α β : Type}

def answers (respond : α → σ → β × σ) : σ → List α → List β
  | _, [] => []
  | state, input :: inputs => (respond input state).1 :: answers respond (respond input state).2 inputs

/-- The rule for whole runs of two systems. -/
theorem simulate {respond : α → σ → β × σ} {reply : α → τ → β × τ} {related : σ → τ → Prop} {alike : β → β → Prop}
    {condition : α → Prop}
    (matched : ∀ input state other, condition input → related state other →
      alike (respond input state).1 (reply input other).1 ∧ related (respond input state).2 (reply input other).2)
    {start : σ} {begin : τ} (initial : related start begin) {inputs : List α}
    (allowed : ∀ input ∈ inputs, condition input) :
    List.Forall₂ alike (answers respond start inputs) (answers reply begin inputs) ∧
      related (run (fun state input => (respond input state).2) start inputs)
        (run (fun state input => (reply input state).2) begin inputs) := by
  induction inputs generalizing start begin with
  | nil => exact ⟨.nil, initial⟩
  | cons input inputs ih =>
    obtain ⟨first, rest⟩ := List.forall_mem_cons.mp allowed
    obtain ⟨same, states⟩ := matched input start begin first initial
    obtain ⟨later, final⟩ := ih states rest
    exact ⟨.cons same later, final⟩

end Run

end Relational
