import Mathlib.Algebra.Order.Ring.Int
import Mathlib.Data.List.MinMax
import Mathlib.Data.List.Range
import Mathlib.Data.List.Sort

/-! Append-only journals with one sequence per owner.
The positions of a stream are 1, 2, … in order of insertion, which is a field of the journal. -/

namespace Relational

structure Journal {κ ε : Type} [DecidableEq κ] (owner : ε → κ) (position : ε → Nat) where
  rows : List ε
  sequenced : ∀ k, ((rows.filter (fun row => owner row = k)).map position) =
    List.range' 1 (rows.filter (fun row => owner row = k)).length

namespace Journal
variable {κ ε : Type} [DecidableEq κ] {owner : ε → κ} {position : ε → Nat}

def empty : Journal owner position := ⟨[], fun _ => rfl⟩

def stream (journal : Journal owner position) (k : κ) : List ε := journal.rows.filter (fun row => owner row = k)

def ordered (journal : Journal owner position) (k : κ) : List ε :=
  (journal.stream k).insertionSort (fun left right => position left ≤ position right)

/-- One past the largest position of the owner's rows. -/
def next (journal : Journal owner position) (k : κ) : Nat :=
  ((journal.stream k).map position).foldr max 0 + 1

theorem positions (journal : Journal owner position) (k : κ) :
    (journal.stream k).map position = List.range' 1 (journal.stream k).length :=
  journal.sequenced k

theorem maximum_range (n : Nat) : (List.range' 1 n).foldr max 0 = n := by
  induction n with
  | zero => rfl
  | succ n ih =>
    have pulled : ∀ (xs : List Nat) m, xs.foldr max m = max (xs.foldr max 0) m := by
      intro xs m
      induction xs with
      | nil => simp
      | cons x xs ih => simp only [List.foldr_cons, ih, max_assoc]
    rw [List.range'_concat, List.foldr_append, pulled, ih]
    simp [Nat.add_comm]

theorem next_eq (journal : Journal owner position) (k : κ) : journal.next k = (journal.stream k).length + 1 := by
  rw [next, positions, maximum_range]

theorem stream_sorted (journal : Journal owner position) (k : κ) :
    (journal.stream k).Pairwise (fun left right => position left ≤ position right) := by
  have increasing : ((journal.stream k).map position).Pairwise (· ≤ ·) := by
    rw [positions]
    exact (List.pairwise_lt_range').imp Nat.le_of_lt
  exact List.pairwise_map.mp increasing

theorem ordered_eq (journal : Journal owner position) (k : κ) : journal.ordered k = journal.stream k :=
  (journal.stream_sorted k).insertionSort_eq

def append (journal : Journal owner position) (row : ε) (fits : position row = journal.next (owner row)) :
    Journal owner position where
  rows := journal.rows ++ [row]
  sequenced := by
    intro k
    have before := journal.sequenced k
    by_cases same : owner row = k
    · subst same
      rw [next_eq] at fits
      simp only [List.filter_append, List.filter_cons, List.filter_nil, decide_true, if_true,
        List.map_append, List.map_cons, List.map_nil, List.length_append, List.length_singleton]
      rw [before, List.range'_concat, fits]
      simp [stream, Nat.add_comm]
    · simpa [List.filter_append, same] using before

theorem stream_append (journal : Journal owner position) (row : ε) (fits : position row = journal.next (owner row))
    (k : κ) : (journal.append row fits).stream k = journal.stream k ++ (if k = owner row then [row] else []) := by
  by_cases same : k = owner row
  · simp [stream, append, List.filter_append, same]
  · have different : owner row ≠ k := fun equal => same equal.symm
    simp [stream, append, List.filter_append, same, different]

end Journal

end Relational
