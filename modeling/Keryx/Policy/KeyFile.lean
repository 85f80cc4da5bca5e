import Keryx.Relational.Run
import Keryx.Policy.NodeKey

/-! Calls that load the key of a node, or make one, at the same time and at one path.
All that is written is ASCII, so the file is a list of characters. -/

namespace Keryx.Policy
open Keryx.Core Relational

def NodeKey.load (raw : List Char) : Except String NodeKey := fromPersistedStr (trimChars raw)

/-- How far a call has come. -/
inductive Phase where
  | called
  | missing
  | storing (written : Nat)
  | found
  | ended (outcome : Except String NodeKey)

structure KeyFile where
  file : Option (List Char)
  calls : Nat → Phase

inductive FileStep where
  /-- The call asks whether the path exists. -/
  | check
  /-- It opens the path for its new key, and truncates what is there. -/
  | truncate
  | write (count : Nat)
  | sync
  | read
  | fail

/-- Writes at a position, whatever became of the file since; a gap is filled with zeros. -/
def writeAt (position : Nat) (written file : List Char) : List Char :=
  (file ++ List.replicate (position - file.length) (Char.ofNat 0)).take position ++ written ++
    file.drop (position + written.length)

namespace KeyFile

def empty : KeyFile := ⟨none, fun _ => .called⟩

def moved (state : KeyFile) (call : Nat) (phase : Phase) : KeyFile :=
  { state with calls := Function.update state.calls call phase }

def line (key : NodeKey) : List Char := key.toPersistedString ++ ['\n']

/-- One step of a call, whose key is the one it makes if it has to. -/
def step (keys : Nat → NodeKey) (state : KeyFile) (taken : Nat × FileStep) : KeyFile :=
  match taken.2, state.calls taken.1 with
  | .check, .called => state.moved taken.1 (if state.file.isSome then .found else .missing)
  | .truncate, .missing => { state.moved taken.1 (.storing 0) with file := some [] }
  | .write count, .storing written =>
    let next := ((line (keys taken.1)).drop written).take count
    { state.moved taken.1 (.storing (written + next.length)) with file := state.file.map (writeAt written next) }
  | .sync, .storing written =>
    if written = (line (keys taken.1)).length then state.moved taken.1 (.ended (.ok (keys taken.1))) else state
  | .read, .found =>
    state.moved taken.1 (.ended (match state.file with
      | some raw => NodeKey.load raw
      | none => .error "no such file"))
  | .fail, .missing | .fail, .storing _ | .fail, .found => state.moved taken.1 (.ended (.error "i/o error"))
  | _, _ => state

/-- The key that a call returns is the one in the file. -/
def Agreed (state : KeyFile) : Prop :=
  ∀ call key, state.calls call = .ended (.ok key) → ∃ raw, state.file = some raw ∧ NodeKey.load raw = .ok key

def Stores (phase : Phase) : Prop := phase = .missing ∨ ∃ written, phase = .storing written

/-- No call looks for the file while another is about to store its key. -/
def Alone (state : KeyFile) (taken : Nat × FileStep) : Prop :=
  taken.2 = .check → ∀ other, ¬ Stores (state.calls other)

/-- The call has not looked yet, or has failed. -/
def Idle (phase : Phase) : Prop := phase = .called ∨ ∃ message, phase = .ended (.error message)

/-- The call returns the stored key, if any. -/
def Settled (raw : List Char) (phase : Phase) : Prop :=
  phase = .called ∨ phase = .found ∨
    ∃ outcome, phase = .ended outcome ∧ ∀ key, outcome = .ok key → NodeKey.load raw = .ok key

inductive Mode (keys : Nat → NodeKey) (state : KeyFile) : Prop
  | vacant (file : state.file = none) (calls : ∀ call, Idle (state.calls call))
  | promised (call : Nat) (file : state.file = none) (phase : state.calls call = .missing)
      (others : ∀ other, other ≠ call → Idle (state.calls other))
  | partly (call written : Nat) (bounded : written ≤ (line (keys call)).length)
      (file : state.file = some ((line (keys call)).take written)) (phase : state.calls call = .storing written)
      (others : ∀ other, other ≠ call → Idle (state.calls other))
  | stored (raw : List Char) (file : state.file = some raw) (calls : ∀ call, Settled raw (state.calls call))

section
variable {keys : Nat → NodeKey} {state : KeyFile} {call : Nat} {phase : Phase} {raw : List Char}

theorem Idle.settled (idle : Idle phase) : Settled raw phase := by
  rcases idle with called | ⟨message, failed⟩
  · exact .inl called
  · exact .inr (.inr ⟨.error message, failed, nofun⟩)

theorem moved_self : (state.moved call phase).calls call = phase := Function.update_self ..

theorem moved_other {other : Nat} (different : other ≠ call) :
    (state.moved call phase).calls other = state.calls other := Function.update_of_ne different ..

theorem moved_all {property : Phase → Prop} (own : property phase)
    (others : ∀ other, other ≠ call → property (state.calls other)) (other : Nat) :
    property ((state.moved call phase).calls other) := by
  by_cases same : other = call
  · subst same
    rw [moved_self]
    exact own
  · rw [moved_other same]
    exact others other same

theorem moved_others {property : Phase → Prop} (others : ∀ other, other ≠ call → property (state.calls other))
    (other : Nat) (different : other ≠ call) : property ((state.moved call phase).calls other) := by
  rw [moved_other different]
  exact others other different

theorem writeAt_end (text : List Char) {written : Nat} (bounded : written ≤ text.length) (count : Nat) :
    writeAt written ((text.drop written).take count) (text.take written) =
      text.take (written + ((text.drop written).take count).length) := by
  have size : (text.take written).length = written := List.length_take_of_le bounded
  have beyond : (text.take written).drop (written + ((text.drop written).take count).length) = [] := by
    apply List.drop_eq_nil_of_le
    omega
  unfold writeAt
  rw [beyond, size, Nat.sub_self, List.replicate_zero, List.append_nil, List.append_nil, List.take_take,
    Nat.min_self, List.take_add, List.length_take, ← List.take_eq_take_min]

theorem load_line (key : NodeKey) : NodeKey.load (line key) = .ok key := by
  have read := key.fromPersistedStr_line
  unfold NodeKey.load
  unfold NodeKey.fromPersistedStr at read ⊢
  rw [trimChars_trimChars]
  exact read

theorem step_idle {next : FileStep} (idle : Idle (state.calls call)) :
    step keys state (call, next) = state ∨ next = .check ∧ state.calls call = .called := by
  rcases idle with called | ⟨message, failed⟩
  · cases next with
    | check => exact .inr ⟨rfl, called⟩
    | _ =>
      left
      simp only [step, called]
  · left
    cases next <;> simp only [step, failed]

theorem step_waiting {next : FileStep} {storer : Nat} (alone : state.Alone (call, next))
    (stores : Stores (state.calls storer)) (idle : Idle (state.calls call)) : step keys state (call, next) = state := by
  rcases @step_idle keys state call next idle with same | ⟨rfl, _⟩
  · exact same
  · exact absurd stores (alone rfl storer)

theorem step_mode (mode : Mode keys state) (taken : Nat × FileStep) (alone : state.Alone taken) :
    Mode keys (step keys state taken) := by
  obtain ⟨call, next⟩ := taken
  cases mode with
  | vacant file calls =>
    rcases @step_idle keys state call next (calls call) with same | ⟨rfl, called⟩
    · rw [same]
      exact .vacant file calls
    · have missing : step keys state (call, .check) = state.moved call .missing := by
        simp only [step, called, file]
        rfl
      rw [missing]
      exact .promised call file moved_self (moved_others fun other _ => calls other)
  | promised storer file phase others =>
    by_cases own : call = storer
    · subst own
      cases next with
      | truncate =>
        simp only [step, phase]
        exact .partly call 0 (Nat.zero_le _) rfl moved_self (moved_others others)
      | fail =>
        simp only [step, phase]
        exact .vacant file (moved_all (.inr ⟨_, rfl⟩) others)
      | _ =>
        simp only [step, phase]
        exact .promised call file phase others
    · rw [step_waiting alone (.inl phase) (others call own)]
      exact .promised storer file phase others
  | partly storer written bounded file phase others =>
    by_cases own : call = storer
    · subst own
      cases next with
      | write count =>
        simp only [step, phase]
        refine .partly call (written + (((line (keys call)).drop written).take count).length) ?_ ?_ moved_self
          (moved_others others)
        · rw [List.length_take, List.length_drop]
          omega
        · show state.file.map _ = _
          rw [file, Option.map_some, writeAt_end _ bounded]
      | sync =>
        simp only [step, phase]
        split
        · rename_i whole
          refine .stored (line (keys call)) ?_ (moved_all (.inr (.inr ⟨_, rfl, ?_⟩)) fun other different =>
            (others other different).settled)
          · rw [whole, List.take_length] at file
            exact file
          · rintro key ⟨⟩
            exact load_line (keys call)
        · exact .partly call written bounded file phase others
      | fail =>
        simp only [step, phase]
        exact .stored _ file (moved_all (.inr (.inr ⟨_, rfl, nofun⟩)) fun other different =>
          (others other different).settled)
      | _ =>
        simp only [step, phase]
        exact .partly call written bounded file phase others
    · rw [step_waiting alone (.inr ⟨written, phase⟩) (others call own)]
      exact .partly storer written bounded file phase others
  | stored raw file calls =>
    have moves : ∀ phase, Settled raw phase → Mode keys (state.moved call phase) := fun phase settled =>
      .stored raw file (moved_all settled fun other _ => calls other)
    rcases calls call with called | found | ⟨outcome, ended, _⟩
    · rcases @step_idle keys state call next (.inl called) with same | ⟨rfl, _⟩
      · rw [same]
        exact .stored raw file calls
      · simp only [step, called, file]
        exact moves .found (.inr (.inl rfl))
    · cases next with
      | read =>
        simp only [step, found, file]
        exact moves _ (.inr (.inr ⟨_, rfl, fun _ => id⟩))
      | fail =>
        simp only [step, found]
        exact moves _ (.inr (.inr ⟨_, rfl, nofun⟩))
      | _ =>
        simp only [step, found]
        exact .stored raw file calls
    · cases next <;> simp only [step, ended] <;> exact .stored raw file calls

theorem Mode.agreed (mode : Mode keys state) : state.Agreed := by
  intro call key ended
  have idle : ∀ {phase}, Idle phase → phase ≠ .ended (.ok key) := by
    rintro phase (rfl | ⟨message, rfl⟩) <;> nofun
  cases mode with
  | vacant file calls => exact absurd ended (idle (calls call))
  | promised storer file phase others =>
    by_cases own : call = storer
    · rw [own, phase] at ended
      cases ended
    · exact absurd ended (idle (others call own))
  | partly storer written bounded file phase others =>
    by_cases own : call = storer
    · rw [own, phase] at ended
      cases ended
    · exact absurd ended (idle (others call own))
  | stored raw file calls =>
    rcases calls call with called | found | ⟨outcome, same, loads⟩
    · rw [called] at ended
      cases ended
    · rw [found] at ended
      cases ended
    · rw [same] at ended
      cases ended
      exact ⟨raw, file, loads key rfl⟩

end

end KeyFile

/-- Calls that do not look for the file while another is about to store its key return the stored key. -/
theorem calls_alone_return_stored_key (keys : Nat → NodeKey) (steps : List (Nat × FileStep))
    (alone : Run.Along (KeyFile.step keys) KeyFile.Alone .empty steps) :
    (Run.run (KeyFile.step keys) .empty steps).Agreed :=
  (@Run.invariant _ _ (KeyFile.step keys) _ _ _ (KeyFile.Mode keys)
    (fun _ taken mode apart => KeyFile.step_mode mode taken apart) (.vacant rfl fun _ => .inl rfl) alone).agreed

def storeSteps (call : Nat) : List (Nat × FileStep) := [(call, .truncate), (call, .write 83), (call, .sync)]

def twoKeys (call : Nat) : NodeKey := if call = 0 then zeroKey else keyWith 0

/-- The first call stores its key, and two more then look for the file before either reads it. -/
def sharedSteps : List (Nat × FileStep) :=
  (0, .check) :: storeSteps 0 ++ [(1, .check), (2, .check), (2, .read), (1, .read)]

theorem overlapping_calls_return_stored_key :
    (∀ call < 3, (Run.run (KeyFile.step twoKeys) .empty sharedSteps).calls call = .ended (.ok zeroKey)) ∧
      (Run.run (KeyFile.step twoKeys) .empty sharedSteps).Agreed := by
  constructor
  · intro call early
    rcases call with _ | _ | _ | call
    · rfl
    · exact congrArg Phase.ended (KeyFile.load_line zeroKey)
    · exact congrArg Phase.ended (KeyFile.load_line zeroKey)
    · omega
  · refine calls_alone_return_stored_key twoKeys sharedSteps
      ⟨?_, nofun, nofun, nofun, ?_, ?_, nofun, nofun, trivial⟩
    · rintro _ other (phase | ⟨_, phase⟩) <;> cases phase
    · rintro _ other (phase | ⟨_, phase⟩) <;> rcases other with _ | _ | other <;> cases phase
    · rintro _ other (phase | ⟨_, phase⟩) <;> rcases other with _ | _ | _ | other <;> cases phase
/-- Two calls find no key; the first returns its own, and the second stores another. -/
theorem racing_calls_disagree :
    (Run.run (KeyFile.step twoKeys) .empty ((0, .check) :: (1, .check) :: storeSteps 0 ++ storeSteps 1)).calls 0 =
        .ended (.ok zeroKey) ∧
      (Run.run (KeyFile.step twoKeys) .empty ((0, .check) :: (1, .check) :: storeSteps 0 ++ storeSteps 1)).file =
        some (KeyFile.line (keyWith 0)) ∧
      NodeKey.load (KeyFile.line (keyWith 0)) ≠ .ok zeroKey := by
  refine ⟨by rfl, by rfl, ?_⟩
  rw [KeyFile.load_line]
  intro same
  exact absurd (Except.ok.inj same) (by decide)

end Keryx.Policy
