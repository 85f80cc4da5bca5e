import Mathlib.Algebra.Order.Ring.Int
import Mathlib.Data.List.Infix

/-! Runs of a deterministic system.
A property of every state of every run is reduced to one obligation about a single step. -/

namespace Relational

namespace Run
variable {σ α : Type} (step : σ → α → σ)

def run (start : σ) (inputs : List α) : σ := inputs.foldl step start

/-- Every input of the run meets the condition in the state it is applied to. -/
def Along (condition : σ → α → Prop) : σ → List α → Prop
  | _, [] => True
  | state, input :: inputs => condition state input ∧ Along condition (step state input) inputs

instance Along.decidable (condition : σ → α → Prop) [∀ state input, Decidable (condition state input)] (start : σ) :
    (inputs : List α) → Decidable (Along step condition start inputs)
  | [] => .isTrue trivial
  | input :: inputs =>
    have := Along.decidable condition (step start input) inputs
    inferInstanceAs (Decidable (condition start input ∧ Along step condition (step start input) inputs))

/-- The property holds in every state of the run, the first and the last included. -/
def Throughout (property : σ → Prop) (start : σ) (inputs : List α) : Prop :=
  ∀ passed, passed <+: inputs → property (run step start passed)

/-- How many inputs of the run count, each in the state it is applied to. -/
def tally (counts : σ → α → Bool) : σ → List α → Nat
  | _, [] => 0
  | state, input :: inputs => (if counts state input then 1 else 0) + tally counts (step state input) inputs

/-- What the first input that yields anything yields, in the state it is applied to. -/
def first {β : Type} (pick : σ → α → Option β) : σ → List α → Option β
  | _, [] => none
  | state, input :: inputs => (pick state input).or (first pick (step state input) inputs)

/-- All that the inputs of the run yield, each in the state it is applied to. -/
def collect {β : Type} (pick : σ → α → List β) : σ → List α → List β
  | _, [] => []
  | state, input :: inputs => pick state input ++ collect pick (step state input) inputs

variable {step}

@[simp] theorem run_nil (start : σ) : run step start [] = start := rfl

@[simp] theorem run_cons (start : σ) (input : α) (inputs : List α) :
    run step start (input :: inputs) = run step (step start input) inputs := rfl

theorem run_append (start : σ) (first second : List α) :
    run step start (first ++ second) = run step (run step start first) second := by
  simp [run, List.foldl_append]

variable {condition : σ → α → Prop} {start : σ}

theorem along_append {first second : List α} :
    Along step condition start (first ++ second) ↔
      Along step condition start first ∧ Along step condition (run step start first) second := by
  induction first generalizing start with
  | nil => simp [Along]
  | cons input inputs ih => simp only [List.cons_append, Along, ih, run_cons, and_assoc]

theorem tally_snoc (counts : σ → α → Bool) (start : σ) (inputs : List α) (input : α) :
    tally step counts start (inputs ++ [input]) =
      tally step counts start inputs + if counts (run step start inputs) input then 1 else 0 := by
  induction inputs generalizing start with
  | nil =>
    rw [List.nil_append, tally, tally, tally, run_nil]
    omega
  | cons first inputs ih =>
    rw [List.cons_append, tally, tally, ih, run_cons]
    omega

theorem collect_snoc {β : Type} (pick : σ → α → List β) (start : σ) (inputs : List α) (input : α) :
    collect step pick start (inputs ++ [input]) =
      collect step pick start inputs ++ pick (run step start inputs) input := by
  induction inputs generalizing start with
  | nil =>
    rw [List.nil_append, collect, collect, collect, run_nil]
    exact List.append_nil _
  | cons first inputs ih => rw [List.cons_append, collect, collect, ih, run_cons, List.append_assoc]

theorem along_trivial (always : ∀ state input, condition state input)
    (start : σ) (inputs : List α) : Along step condition start inputs := by
  induction inputs generalizing start with
  | nil => trivial
  | cons input inputs ih => exact ⟨always start input, ih _⟩

variable {inputs : List α}

theorem along_of_mem {condition : α → Prop} (start : σ)
    (each : ∀ input ∈ inputs, condition input) : Along step (fun _ => condition) start inputs := by
  induction inputs generalizing start with
  | nil => trivial
  | cons input inputs ih =>
    obtain ⟨first, rest⟩ := List.forall_mem_cons.mp each
    exact ⟨first, ih _ rest⟩

theorem along_and_mem {each : α → Prop}
    (allowed : Along step condition start inputs) (all : ∀ input ∈ inputs, each input) :
    Along step (fun state input => condition state input ∧ each input) start inputs := by
  induction inputs generalizing start with
  | nil => trivial
  | cons input inputs ih =>
    obtain ⟨first, rest⟩ := List.forall_mem_cons.mp all
    exact ⟨⟨allowed.1, first⟩, ih allowed.2 rest⟩

/-- The invariant rule: what holds at the start and is kept by each allowed step holds at the end. -/
theorem invariant {invariant : σ → Prop}
    (kept : ∀ state input, invariant state → condition state input → invariant (step state input))
    (initial : invariant start) (allowed : Along step condition start inputs) : invariant (run step start inputs) := by
  induction inputs generalizing start with
  | nil => exact initial
  | cons input inputs ih => exact ih (kept _ _ initial allowed.1) allowed.2

theorem always (invariant : σ → Prop) (kept : ∀ state input, invariant state → invariant (step state input))
    (initial : invariant start) (inputs : List α) : invariant (run step start inputs) :=
  Run.invariant (fun state input holds _ => kept state input holds) initial (along_trivial (fun _ _ => trivial) start inputs)

theorem throughout_of_along {invariant : σ → Prop}
    (kept : ∀ state input, invariant state → condition state input → invariant (step state input))
    (initial : invariant start) (allowed : Along step condition start inputs) :
    Throughout step invariant start inputs := by
  intro passed earlier
  obtain ⟨rest, rfl⟩ := earlier
  exact Run.invariant kept initial (along_append.mp allowed).1

theorem traced (invariant : List α → σ → Prop) (initial : invariant [] start)
    (kept : ∀ passed input, passed ++ [input] <+: inputs → invariant passed (run step start passed) →
      invariant (passed ++ [input]) (step (run step start passed) input)) :
    invariant inputs (run step start inputs) := by
  suffices every : ∀ passed, passed <+: inputs → invariant passed (run step start passed) from
    every inputs List.prefix_rfl
  intro passed
  induction passed using List.reverseRecOn with
  | nil => exact fun _ => initial
  | append_singleton passed input ih =>
    intro earlier
    rw [run_append]
    exact kept passed input earlier (ih ((List.prefix_append passed [input]).trans earlier))

/-- A reflexive and transitive relation that each step respects relates the ends of every run. -/
theorem related (relation : σ → σ → Prop) (reflexive : ∀ state, relation state state)
    (transitive : ∀ first second third, relation first second → relation second third → relation first third)
    (stepped : ∀ state input, relation state (step state input)) (start : σ) (inputs : List α) :
    relation start (run step start inputs) := by
  induction inputs generalizing start with
  | nil => exact reflexive start
  | cons input inputs ih => exact transitive _ _ _ (stepped start input) (ih _)

theorem throughout_cons {property : σ → Prop} {input : α} :
    Throughout step property start (input :: inputs) ↔
      property start ∧ Throughout step property (step start input) inputs := by
  constructor
  · intro every
    refine ⟨every [] List.nil_prefix, ?_⟩
    intro passed earlier
    exact every (input :: passed) (List.cons_prefix_cons.mpr ⟨rfl, earlier⟩)
  · rintro ⟨first, rest⟩ passed earlier
    cases passed with
    | nil => exact first
    | cons head tail =>
      obtain ⟨rfl, tailEarlier⟩ := List.cons_prefix_cons.mp earlier
      exact rest tail tailEarlier

/-- A property implied by an invariant holds in every state exactly when every step is allowed, once a step that is
not allowed is known to break it. -/
theorem throughout_iff (invariant : σ → Prop) {property : σ → Prop} {kind : α → Prop}
    (sound : ∀ state, invariant state → property state)
    (kept : ∀ state input, kind input → invariant state → condition state input → invariant (step state input))
    (broken : ∀ state input, kind input → invariant state → ¬ condition state input → ¬ property (step state input))
    (initial : invariant start) (kinds : ∀ input ∈ inputs, kind input) :
    Throughout step property start inputs ↔ Along step condition start inputs := by
  induction inputs generalizing start with
  | nil =>
    refine ⟨fun _ => trivial, ?_⟩
    intro _ passed earlier
    rw [List.prefix_nil.mp earlier]
    exact sound _ initial
  | cons input inputs ih =>
    obtain ⟨first, rest⟩ := List.forall_mem_cons.mp kinds
    rw [throughout_cons, Along]
    by_cases allowed : condition start input
    · rw [ih (kept _ _ first initial allowed) rest]
      exact ⟨fun both => ⟨allowed, both.2⟩, fun both => ⟨sound _ initial, both.2⟩⟩
    · constructor
      · intro both
        exact absurd (both.2 [] List.nil_prefix) (broken _ _ first initial allowed)
      · intro both
        exact absurd both.1 allowed

end Run

end Relational
